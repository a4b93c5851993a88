import PortableSql.Event
import PortableSql.Fault

/-!
Results that come with a log.

`Logged` is a result with events. `Build` is a result with events and the first fault on the way:
building goes on after a fault and keeps the first. `Render` stops at a fault but keeps the events
up to it.
-/

namespace PortableSql

/-- A result with the events on the way to it, in order. -/
structure Logged (α : Type) where
  value : α
  events : List Event

namespace Logged

instance : Monad Logged where
  pure x := ⟨x, []⟩
  bind r f := ⟨(f r.value).value, r.events ++ (f r.value).events⟩

/-- Logs an event. -/
def event (e : Event) : Logged Unit :=
  ⟨(), [e]⟩

@[simp] theorem value_pure {α : Type} (x : α) : (pure x : Logged α).value = x := rfl

@[simp] theorem events_pure {α : Type} (x : α) : (pure x : Logged α).events = [] := rfl

@[simp] theorem value_bind {α β : Type} (r : Logged α) (f : α → Logged β) :
    (r >>= f).value = (f r.value).value := rfl

@[simp] theorem events_bind {α β : Type} (r : Logged α) (f : α → Logged β) :
    (r >>= f).events = r.events ++ (f r.value).events := rfl

@[simp] theorem value_map {α β : Type} (f : α → β) (r : Logged α) :
    (f <$> r).value = f r.value := rfl

instance : LawfulMonad Logged := LawfulMonad.mk' Logged
  (by intro α r; simp [Functor.map])
  (by intro α β x f; simp [bind, pure])
  (by intro α β γ r f g; simp [bind])

end Logged

/-- A result with the events on the way to it and the first fault, if there was one. -/
structure Build (α : Type) where
  value : α
  events : List Event
  fault : Option Fault

namespace Build

instance : Monad Build where
  pure x := ⟨x, [], none⟩
  bind r f :=
    let next := f r.value
    ⟨next.value, r.events ++ next.events, r.fault <|> next.fault⟩

/-- Records a fault. -/
def fail (fault : Fault) : Build Unit :=
  ⟨(), [], some fault⟩

/-- Records the fault of something attached, if it has one. -/
def inherit (fault : Option Fault) : Build Unit :=
  ⟨(), [], fault⟩

/-- A logged result without a fault of its own. -/
def ofLogged {α : Type} (r : Logged α) : Build α :=
  ⟨r.value, r.events, none⟩

@[simp] theorem value_pure {α : Type} (x : α) : (pure x : Build α).value = x := rfl

@[simp] theorem events_pure {α : Type} (x : α) : (pure x : Build α).events = [] := rfl

@[simp] theorem fault_pure {α : Type} (x : α) : (pure x : Build α).fault = none := rfl

@[simp] theorem value_bind {α β : Type} (r : Build α) (f : α → Build β) :
    (r >>= f).value = (f r.value).value := rfl

@[simp] theorem events_bind {α β : Type} (r : Build α) (f : α → Build β) :
    (r >>= f).events = r.events ++ (f r.value).events := rfl

@[simp] theorem fault_bind {α β : Type} (r : Build α) (f : α → Build β) :
    (r >>= f).fault = (r.fault <|> (f r.value).fault) := rfl

@[simp] theorem value_map {α β : Type} (f : α → β) (r : Build α) :
    (f <$> r).value = f r.value := rfl

@[simp] theorem fault_map {α β : Type} (f : α → β) (r : Build α) :
    (f <$> r).fault = r.fault := by
  simp [Functor.map]

instance : LawfulMonad Build := LawfulMonad.mk' Build
  (by intro α r; simp [Functor.map])
  (by intro α β x f; simp [bind, pure])
  (by intro α β γ r f g; simp [bind, Option.or_assoc])

end Build

/-- A result or the fault that prevents it, with the events up to there. -/
abbrev Render := ExceptT Fault Logged

namespace Render

/-- Logs an event. -/
def event (e : Event) : Render Unit :=
  ExceptT.lift (Logged.event e)

/-- Logs events in order. -/
def eventList (es : List Event) : Render Unit :=
  ExceptT.lift ⟨(), es⟩

end Render

end PortableSql
