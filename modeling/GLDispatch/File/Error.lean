import GLDispatch.Text.Basic

/-! # File errors -/
namespace GLDispatch

/-- Why a file cannot be opened. -/
inductive FileError where
  | notFound
  | isDirectory
  | notDirectory
  | nameTooLong
  | other (reason : Text)
  deriving DecidableEq, Repr

def FileError.reason : FileError → Text
  | .notFound => "No such file or directory".toList
  | .isDirectory => "Is a directory".toList
  | .notDirectory => "Not a directory".toList
  | .nameTooLong => "File name too long".toList
  | .other reason => reason

/-- The error with the given reason. -/
def FileError.ofReason (reason : Text) : FileError :=
  let known := [notFound, isDirectory, notDirectory, nameTooLong]
  (known.find? (·.reason == reason)).getD (.other reason)

end GLDispatch
