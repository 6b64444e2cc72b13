import ChartCatalog.CommandLine.Response

/-!
# The program

Reads the one file that the arguments ask for, and writes the answer.
-/

namespace ChartCatalog.CommandLine

/-- The reason why a file cannot be read, in the words of the system. -/
def failureReason (error : IO.Error) : String :=
  match error with
  | .noFileOrDirectory .. => "No such file or directory (os error 2)"
  | .permissionDenied .. => "Permission denied (os error 13)"
  | error => toString error

/-- The content of a file, or the reason why it cannot be read. -/
def readFile (path : String) : IO (Except String ByteArray) := do
  try
    return .ok (← IO.FS.readBinFile path)
  catch error =>
    return .error (failureReason error)

/-- Answers one list of arguments; the result is the exit code. -/
def run (arguments : List String) : IO UInt32 := do
  let environment ← IO.getEnv "POPN_CATALOG"
  let content ←
    match fileNeeded environment arguments with
    | none => pure (.error "no file")
    | some path => readFile path
  let seed ← IO.rand 0 UInt32.size
  let response := respond (fun _ => content) (UInt64.ofNat seed) environment arguments
  (← IO.getStdout).putStr response.output
  (← IO.getStderr).putStr response.errors
  return response.exitCode.toUInt32

end ChartCatalog.CommandLine

/-- The entry point of the program. -/
def main (arguments : List String) : IO UInt32 := ChartCatalog.CommandLine.run arguments
