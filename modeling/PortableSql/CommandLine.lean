import PortableSql.Description
import PortableSql.Json.Reader
import PortableSql.Sql.Document

/-!
The command line: a description of a statement in, SQL out.

`CommandLine.parse?` reads the arguments. An option is given once at most, a dialect on the command
line takes precedence over one in the environment, and everything after `--` is the name of a file.
`CommandLine.run` renders a description that was read.
-/

namespace PortableSql.CommandLine

/-- What the arguments ask for. -/
structure Options where
  target : Target
  /-- Whether the values are written into the text. -/
  literal : Bool
  verbose : Bool
  /-- The file that holds the description; standard input when absent. -/
  file : Option String

/-- What a run gives: the exit code, the standard output, and the message of a failure. -/
structure Outcome where
  exit : Nat
  stdout : String
  error : Option String

/-- The arguments that were read so far. -/
structure Arguments where
  dialect : Option String := none
  nullAsDefault : Bool := false
  literal : Bool := false
  verbose : Bool := false
  file : Option String := none

namespace Arguments

/-- A dialect, if none was given yet. -/
def withDialect? (a : Arguments) (name : String) : Option Arguments :=
  if a.dialect.isSome then none else some { a with dialect := some name }

/-- The flag `null-as-default`, if it was not given yet. -/
def withNullAsDefault? (a : Arguments) : Option Arguments :=
  if a.nullAsDefault then none else some { a with nullAsDefault := true }

/-- The flag `literal`, if it was not given yet. -/
def withLiteral? (a : Arguments) : Option Arguments :=
  if a.literal then none else some { a with literal := true }

/-- The flag `verbose`, if it was not given yet. -/
def withVerbose? (a : Arguments) : Option Arguments :=
  if a.verbose then none else some { a with verbose := true }

/-- The name of a file, if none was given yet. -/
def withFile? (a : Arguments) (name : String) : Option Arguments :=
  if a.file.isSome || name.isEmpty then none else some { a with file := some name }

end Arguments

/-- What one argument amounts to. -/
inductive Parsed where
  /-- An argument that is complete. -/
  | complete (arguments : Arguments)
  /-- A dialect option whose value is the next argument. -/
  | needsDialect (arguments : Arguments)

/-- A long option, without its hyphens. -/
def longOption? (a : Arguments) (name : String) (value : Option String) : Option Parsed :=
  match name, value with
  | "dialect", some value => (a.withDialect? value).map .complete
  | "dialect", none => some (.needsDialect a)
  | "null-as-default", none => a.withNullAsDefault?.map .complete
  | "literal", none => a.withLiteral?.map .complete
  | "verbose", none => a.withVerbose?.map .complete
  | _, _ => none

/-- A cluster of short options; a dialect takes the rest of the cluster, if there is any. -/
def shortOptions? (a : Arguments) : List Char → Option Parsed
  | [] => some (.complete a)
  | 'l' :: rest => do shortOptions? (← a.withLiteral?) rest
  | 'v' :: rest => do shortOptions? (← a.withVerbose?) rest
  | ['d'] => some (.needsDialect a)
  | 'd' :: '=' :: value => (a.withDialect? (String.ofList value)).map .complete
  | 'd' :: value => (a.withDialect? (String.ofList value)).map .complete
  | _ :: _ => none

/-- One argument that is not the value of another. -/
def argument? (a : Arguments) (argument : String) : Option Parsed :=
  match argument.toList with
  | '-' :: '-' :: long =>
    let name := String.ofList (long.takeWhile (· != '='))
    match long.dropWhile (· != '=') with
    | '=' :: value => longOption? a name (some (String.ofList value))
    | _ => longOption? a name none
  | '-' :: c :: rest => shortOptions? a (c :: rest)
  | _ => (a.withFile? argument).map .complete

/-- The arguments in order. A value of an option does not begin with a hyphen. -/
def arguments? (a : Arguments) : List String → Option Arguments
  | [] => some a
  | "--" :: files => files.foldlM Arguments.withFile? a
  | argument :: rest => do
    match ← argument? a argument with
    | .complete a => arguments? a rest
    | .needsDialect a =>
      match rest with
      | value :: rest =>
        if value.startsWith "-" then none else arguments? (← a.withDialect? value) rest
      | [] => none

/-- What the arguments ask for, or nothing when they are misused; `environment` is a dialect given
by the environment. -/
def parse? (arguments : List String) (environment : Option String) : Option Options := do
  let a ← arguments? {} arguments
  let dialect ← Dialect.ofName? ((a.dialect <|> environment).getD Dialect.generic.name)
  return ⟨⟨dialect, a.nullAsDefault⟩, a.literal, a.verbose, a.file⟩

/-- The outcome when the arguments are misused. -/
def misuse : Outcome := ⟨2, "", none⟩

/-- The outcome of a failure. -/
def failure (message : String) : Outcome := ⟨1, "", some message⟩

/-- The outcome of a rendering. -/
def finish (result : Except Fault String) : Outcome :=
  match result with
  | .ok text => ⟨0, text ++ "\n", none⟩
  | .error fault => failure fault.message

/-- Renders a description; `input` is its text, absent when it cannot be read. -/
def run (options : Options) (input : Option String) : Outcome :=
  match input, options.file with
  | none, some file => failure ("failed to read " ++ file)
  | none, none => failure "failed to read stdin"
  | some text, _ =>
    match Json.parse? text with
    | none => failure "description is not valid JSON"
    | some description =>
      let builder := ((Builder.start options.target).describe description).value
      if options.literal then
        finish builder.toQuery.run.value
      else
        finish (builder.toSql.run.value.map fun sql => sql.toJson.pretty)

end PortableSql.CommandLine
