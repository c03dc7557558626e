import PatternLexer.CommandLine.Command

/-!
# The program

Carries out the plan of the command line.
-/

namespace PatternLexer.CommandLine

/-- Read all bytes of a stream. -/
partial def readAll (stream : IO.FS.Stream) (bytes : ByteArray) : IO ByteArray := do
  let chunk ← stream.read 65536
  if chunk.isEmpty then return bytes else readAll stream (bytes ++ chunk)

/-- Read the text that a plan asks for. -/
def readText (file : Option String) : IO (Except ReadFailure String) := do
  try
    let bytes ←
      match file with
      | some path => IO.FS.readBinFile path
      | none => readAll (← IO.getStdin) ByteArray.empty
    return decode bytes
  catch
    | .noFileOrDirectory .. => return .error .notFound
    | .inappropriateType _ 21 _ => return .error .directory
    | error => return .error (.other (toString error))

/-- Print the report of the command line and return its exit code. -/
def execute (arguments : List String) : IO UInt32 := do
  let report ←
    match plan arguments with
    | .finish report => pure report
    | .read file next => pure (next (← readText file))
  IO.print report.stdout
  IO.eprint report.stderr
  return report.code

end PatternLexer.CommandLine

/-- Carry out the command line. -/
def main (arguments : List String) : IO UInt32 :=
  PatternLexer.CommandLine.execute arguments
