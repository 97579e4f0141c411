import GLDispatch.Binding.Generate
import GLDispatch.File.Machine
import GLDispatch.Command.Invocation

/-! # Running the command

The command reads a header, and writes the binding only after the whole header was read. It reaches
files through two operations, which stand for real files or for a file system that is a value. -/
namespace GLDispatch

/-- How files are read and written. -/
structure Files (m : Type → Type) where
  read : Text → m (Except FileError Bytes)
  write : Text → Bytes → m (Except FileError Unit)

/-- The operations of a machine on a file system which is the state of a computation. -/
def Machine.access (machine : Machine) : Files (StateM FileSystem) where
  read path := fun fs => (machine.read fs path, fs)
  write path content := fun fs => machine.write fs path content

/-- The operations of a machine which refuses nothing. -/
def FileSystem.access : Files (StateM FileSystem) :=
  Machine.access {}

/-- How the command ended. -/
inductive Report where
  | help
  | unusable (error : UsageError)
  | ran (succeeded : Bool) (printed : Text) (events : List Event)
  deriving DecidableEq, Repr

namespace Report

def status : Report → Nat
  | help => 0
  | unusable _ => 2
  | ran succeeded _ _ => if succeeded then 0 else 1

def stdout : Report → Text
  | help => helpText
  | unusable _ => []
  | ran _ printed _ => printed

def stderr : Report → Text
  | help => []
  | unusable error => error.report
  | ran _ _ events => events.flatMap Event.line

end Report

namespace Settings

/-- The events which the log shows. -/
def shown (s : Settings) (events : List Event) : List Event :=
  if s.verbose then events else events.filter Event.isNotable

/-- The path of the output file, if the output goes to one. -/
def outputFile (s : Settings) : Option Text :=
  s.output.filter (!·.isEmpty)

def run {m : Type → Type} [Monad m] (files : Files m) (s : Settings) : m Report := do
  match ← files.read (Path.normalize s.header) with
  | .error error => return .ran false [] (s.shown [.unreadable s.header error])
  | .ok header =>
    let generated := Generated.ofHeader header
    match s.outputFile with
    | none => return .ran true generated.output (s.shown generated.events)
    | some path =>
      match ← files.write path (Utf8.encode generated.output) with
      | .ok () => return .ran true [] (s.shown generated.events)
      | .error error =>
        return .ran false [] (s.shown (generated.events ++ [.unwritable path error]))

end Settings

/-- Runs the command with the given arguments. -/
def command {m : Type → Type} [Monad m] (files : Files m) (arguments : List Text) : m Report :=
  match Invocation.ofArguments arguments with
  | .help => pure .help
  | .unusable error => pure (.unusable error)
  | .run settings => settings.run files

end GLDispatch
