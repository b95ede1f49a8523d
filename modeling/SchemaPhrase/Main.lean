import SchemaPhrase.Cli.Snapshot

/-!
# The program

Reads files and the standard input, and writes what a run reports.
-/

set_option autoImplicit false

namespace SchemaPhrase.Cli

/-- The reason that an operation on a file failed. -/
def reasonOf : IO.Error → String
  | .noFileOrDirectory .. => ReadFault.missing.message
  | .inappropriateType .. => ReadFault.directory.message
  | .permissionDenied .. => "Permission denied (os error 13)"
  | cause => toString cause

/-- The text of a file. -/
def readProcessFile (path : String) : IO (Except String String) := do
  try
    return decodeInput (← IO.FS.readBinFile path)
  catch cause => return .error (reasonOf cause)

/-- Whether a path leads to a file, one that may not be read included. -/
def isProcessFile (path : String) : IO Bool := do
  try
    let _ ← IO.FS.readBinFile path
    return true
  catch
    | .permissionDenied .. => return true
    | _ => return false

/-- All bytes of a stream after the given ones. -/
partial def readStream (stream : IO.FS.Stream) (bytes : ByteArray) : IO ByteArray := do
  let more ← stream.read 65536
  if more.isEmpty then return bytes else readStream stream (bytes ++ more)

/-- The files and the standard input of the process. -/
def processHost : Host IO where
  directory := return (← IO.currentDir).toString
  readFile := readProcessFile
  isFile := isProcessFile
  readInput := return decodeInput (← readStream (← IO.getStdin) .empty)

end SchemaPhrase.Cli

def main (arguments : List String) : IO UInt32 := do
  let named := (← IO.getEnv "ARMORED_LOG").bind SchemaPhrase.Cli.LogFilter.ofText?
  let output ← IO.getStdout
  let errors ← IO.getStderr
  let report ← SchemaPhrase.Cli.run SchemaPhrase.Cli.processHost
    (named.getD SchemaPhrase.Cli.LogFilter.standard) (← output.isTty) arguments
  output.putStr report.output
  for line in report.errors do
    errors.putStrLn line
  return report.exitCode.toUInt32
