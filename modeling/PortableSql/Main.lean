import PortableSql.CommandLine

/-!
The program: reads a description from a file or from standard input and prints the SQL.
-/

namespace PortableSql.CommandLine

/-- Everything that is left on a stream. -/
partial def readAll (stream : IO.FS.Stream) (read : String) : IO String := do
  let line ← stream.getLine
  if line.isEmpty then return read else readAll stream (read ++ line)

/-- The description, or nothing when it cannot be read. -/
def readDescription (file : Option String) : IO (Option String) := do
  try
    match file with
    | some name => return some (← IO.FS.readFile name)
    | none => return some (← readAll (← IO.getStdin) "")
  catch _ => return none

/-- Runs the program and returns its exit code. -/
def program (arguments : List String) : IO UInt32 := do
  match parse? arguments (← IO.getEnv "PORTABLE_SQL_DIALECT") with
  | none =>
    IO.eprintln "error: the arguments are not understood"
    return UInt32.ofNat misuse.exit
  | some options =>
    let outcome := run options (← readDescription options.file)
    IO.print outcome.stdout
    if let some message := outcome.error then IO.eprintln ("Error: " ++ message)
    return UInt32.ofNat outcome.exit

end PortableSql.CommandLine

def main (arguments : List String) : IO UInt32 :=
  PortableSql.CommandLine.program arguments
