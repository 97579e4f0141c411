import GLDispatch.File.Error

/-! # Events

What the program reports while it works. -/
namespace GLDispatch

inductive Level where
  | debug
  | info
  | warning
  | error
  deriving DecidableEq, Repr

def Level.name : Level → Text
  | .debug => "DEBUG".toList
  | .info => "INFO".toList
  | .warning => "WARNING".toList
  | .error => "ERROR".toList

inductive Event where
  | entered (guard : Text)
  | left (guard : Text)
  /-- The header ended inside a region. -/
  | abandoned (guard : Text)
  | parsed (definitions versions : Nat)
  /-- A version bundles an extension which the header does not define. -/
  | skipped (guard extension extensionGuard : Text)
  | unreadable (path : Text) (error : FileError)
  | unwritable (path : Text) (error : FileError)
  deriving DecidableEq, Repr

namespace Event

def level : Event → Level
  | entered _ | left _ | parsed _ _ => .debug
  | skipped _ _ _ => .info
  | abandoned _ => .warning
  | unreadable _ _ | unwritable _ _ => .error

def message : Event → Text
  | entered guard => "Entering ".toList ++ guard
  | left guard => "Leaving ".toList ++ guard
  | abandoned guard => "Header ended inside ".toList ++ guard ++ ", region abandoned".toList
  | parsed definitions versions =>
    "Parsed ".toList ++ Nat.toDigits 10 definitions ++ " definitions, ".toList ++
      Nat.toDigits 10 versions ++ " core versions".toList
  | skipped guard extension extensionGuard =>
    guard ++ " includes ".toList ++ extension ++ " but ".toList ++ extensionGuard ++
      " is not defined, skipping".toList
  | unreadable path error => "Could not read ".toList ++ path ++ ": ".toList ++ error.reason
  | unwritable path error => "Could not write ".toList ++ path ++ ": ".toList ++ error.reason

/-- The event as a line of the log. -/
def line (event : Event) : Text :=
  event.level.name ++ ": ".toList ++ event.message ++ ['\n']

/-- Whether a log without details shows the event. -/
def isNotable (event : Event) : Bool :=
  event.level == .warning || event.level == .error

end Event
end GLDispatch
