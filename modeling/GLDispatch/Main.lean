import GLDispatch.Command.Run

/-! # The program -/
namespace GLDispatch

/-- The operating system's words for a failure. -/
def reasonOf : IO.Error → String
  | .alreadyExists _ _ details | .otherError _ details | .resourceBusy _ details
  | .resourceVanished _ details | .unsupportedOperation _ details | .hardwareFault _ details
  | .unsatisfiedConstraints _ details | .illegalOperation _ details | .protocolError _ details
  | .timeExpired _ details | .interrupted _ _ details | .noFileOrDirectory _ _ details
  | .invalidArgument _ _ details | .permissionDenied _ _ details
  | .resourceExhausted _ _ details | .inappropriateType _ _ details
  | .noSuchThing _ _ details => details
  | .unexpectedEof => "Unexpected end of file"
  | .userError message => message

def attempt {α : Type} (action : IO α) : IO (Except FileError α) :=
  try return .ok (← action)
  catch error => return .error (.ofReason (reasonOf error).toList)

/-- The files of the machine. -/
def machineFiles : Files IO where
  read path := attempt do
    let content ← IO.FS.withFile (String.ofList path) .read fun handle => handle.readBinToEnd
    return content.toList
  write path content := attempt do
    IO.FS.writeBinFile (String.ofList path) (ByteArray.mk content.toArray)

end GLDispatch

def main (arguments : List String) : IO UInt32 := do
  let report ← GLDispatch.command GLDispatch.machineFiles (arguments.map String.toList)
  (← IO.getStderr).putStr (String.ofList report.stderr)
  (← IO.getStdout).putStr (String.ofList report.stdout)
  return report.status.toUInt32
