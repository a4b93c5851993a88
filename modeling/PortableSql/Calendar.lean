/-!
Calendar dates and timestamps, and their text forms.

A year from 0 to 9999 has four digits; any other year has a sign and at least four digits. A leap
second is kept as a fraction of a second or more in the second before it, and is shown as second 60.
-/

namespace PortableSql

/-- A day of the proleptic Gregorian calendar. -/
structure Date where
  year : Int
  month : Nat
  day : Nat
deriving DecidableEq

/-- A time of day; `nanosecond` is a full second or more within a leap second. -/
structure TimeOfDay where
  hour : Nat
  minute : Nat
  second : Nat
  nanosecond : Nat
deriving DecidableEq

/-- A date with a time of day, in no particular time zone. -/
structure Timestamp where
  date : Date
  time : TimeOfDay
deriving DecidableEq

/-- A number with zeros in front up to a width. -/
def padded (width n : Nat) : String :=
  let digits := Nat.toDigits 10 n
  String.ofList (List.replicate (width - digits.length) '0' ++ digits)

namespace Date

/-- A year. -/
def yearText (year : Int) : String :=
  let digits := padded 4 year.natAbs
  if year < 0 then "-" ++ digits
  else if 9999 < year then "+" ++ digits
  else digits

/-- Year, month and day between hyphens. -/
def text (d : Date) : String :=
  yearText d.year ++ "-" ++ padded 2 d.month ++ "-" ++ padded 2 d.day

end Date

namespace TimeOfDay

/-- The nanoseconds in a second. -/
def nanosPerSecond : Nat := 1000000000

/-- Hour, minute and second between colons. -/
def clockText (t : TimeOfDay) : String :=
  let second := t.second + t.nanosecond / nanosPerSecond
  padded 2 t.hour ++ ":" ++ padded 2 t.minute ++ ":" ++ padded 2 second

/-- The milliseconds, always three digits after the point. -/
def millisText (t : TimeOfDay) : String :=
  "." ++ padded 3 (t.nanosecond % nanosPerSecond / 1000000)

/-- The fraction of the second in three, six or nine digits, whichever are enough; none if zero. -/
def fractionText (t : TimeOfDay) : String :=
  let nanos := t.nanosecond % nanosPerSecond
  if nanos = 0 then ""
  else if nanos % 1000000 = 0 then "." ++ padded 3 (nanos / 1000000)
  else if nanos % 1000 = 0 then "." ++ padded 6 (nanos / 1000)
  else "." ++ padded 9 nanos

end TimeOfDay

namespace Timestamp

/-- The literal form: a space between date and time, and milliseconds. -/
def literalText (t : Timestamp) : String :=
  t.date.text ++ " " ++ t.time.clockText ++ t.time.millisText

/-- The document form: `T` between date and time, and as much of the fraction as there is. -/
def text (t : Timestamp) : String :=
  t.date.text ++ "T" ++ t.time.clockText ++ t.time.fractionText

end Timestamp

end PortableSql
