import BuzzerScript.Command.Run

/-!
# The program

Reads the files that the arguments name, runs the command on them and prints
what it leaves behind.
-/

open BuzzerScript

/-- The number that the system gives an error; the runtime reports it with either sign. -/
def errorNumber (code : UInt32) : UInt32 := min code (0 - code)

/-- Why the system does not let a file be read. -/
def failureOf : IO.Error → ReadFailure
  | .noFileOrDirectory .. => .missing
  | .inappropriateType _ code _ =>
    if errorNumber code = 20 then .notDirectory else .isDirectory
  | .invalidArgument _ code details =>
    if errorNumber code = 36 then .nameTooLong else .system details
  | .permissionDenied .. => .system "Permission denied (os error 13)"
  | error => .system (toString error)

/-- The text of a file, or why it cannot be read. -/
def readText (path : String) : IO (Except ReadFailure String) := do
  try
    return textOfBytes (← IO.FS.readBinFile path)
  catch error => return .error (failureOf error)

/-- Read the files at the given paths. -/
def readAll (paths : List String) : IO Command.Files := do
  let texts ← paths.mapM fun path => do return (path, ← readText path)
  return fun path => ((texts.find? (·.1 = path)).map Prod.snd).getD (.error .missing)

/-- The program. -/
def main (arguments : List String) : IO UInt32 := do
  let paths :=
    match Arguments.ofList arguments with
    | .ok arguments => arguments.script :: arguments.options.toList
    | .error _ => []
  let outcome := Command.run (← readAll paths) (← IO.getEnv "RUST_LOG") arguments
  IO.print outcome.output
  IO.eprint outcome.errors
  return outcome.exitCode.toUInt32
