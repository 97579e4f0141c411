import GLDispatch.Proofs.FileSystem
import GLDispatch.Proofs.Spelling

/-! # Where the output goes

A run either prints its output or writes it to a file. Both need the header, and what one prints is
what the other one stores. Nothing is written before the header was read, but then the file is
emptied before the output is stored: if the storage gives out, the run fails, and the file is left
with the part that was stored. -/
namespace GLDispatch

/-! ## Runs on a file system -/

namespace Settings

section Run

variable {machine : Machine} {s : Settings} {fs after : FileSystem} {header : Bytes} {path : Text}
  {error : FileError}

theorem run_unreadable (unreadable : machine.read fs (Path.normalize s.header) = .error error) :
    s.run machine.access fs = (.ran false [] (s.shown [.unreadable s.header error]), fs) := by
  simp only [run, bind, StateT.bind, Machine.access, unreadable]
  rfl

theorem run_printed (readable : machine.read fs (Path.normalize s.header) = .ok header)
    (printed : s.outputFile = none) :
    s.run machine.access fs =
      (.ran true (Generated.ofHeader header).output
        (s.shown (Generated.ofHeader header).events), fs) := by
  simp only [run, bind, StateT.bind, Machine.access, readable, printed]
  rfl

theorem run_written (readable : machine.read fs (Path.normalize s.header) = .ok header)
    (file : s.outputFile = some path)
    (written : machine.write fs path (Utf8.encode (Generated.ofHeader header).output) =
      (.ok (), after)) :
    s.run machine.access fs =
      (.ran true [] (s.shown (Generated.ofHeader header).events), after) := by
  simp only [run, bind, StateT.bind, Machine.access, readable, file, written]
  rfl

theorem run_unwritable (readable : machine.read fs (Path.normalize s.header) = .ok header)
    (file : s.outputFile = some path)
    (unwritable : machine.write fs path (Utf8.encode (Generated.ofHeader header).output) =
      (.error error, after)) :
    s.run machine.access fs =
      (.ran false [] (s.shown ((Generated.ofHeader header).events ++ [.unwritable path error])),
        after) := by
  simp only [run, bind, StateT.bind, Machine.access, readable, file, unwritable]
  rfl

end Run

end Settings

namespace Report

/-- A run which ends like another one, but for the failure to write a file. -/
structure FailsToWrite (report other : Report) (path reason : Text) : Prop where
  status : report.status = 1
  stderr : report.stderr = other.stderr ++ "ERROR: Could not write ".toList ++ path ++
    ": ".toList ++ reason ++ ['\n']

/-- A file which cannot be written is reported after everything else. -/
theorem failsToWrite (s : Settings) (succeeded : Bool) (printed : Text) (events : List Event)
    (path : Text) (error : FileError) :
    (ran false [] (s.shown (events ++ [.unwritable path error]))).FailsToWrite
      (ran succeeded printed (s.shown events)) path error.reason where
  status := rfl
  stderr := by
    have notable : (Event.unwritable path error).isNotable = true := rfl
    have last : s.shown (events ++ [.unwritable path error]) =
        s.shown events ++ [.unwritable path error] := by
      rw [Settings.shown, Settings.shown, List.filter_append, List.filter_cons_of_pos notable,
        List.filter_nil]
      split <;> rfl
    have start : "ERROR: Could not write ".toList =
        "ERROR".toList ++ ": ".toList ++ "Could not write ".toList := by decide +kernel
    have line : Event.line (.unwritable path error) = "ERROR".toList ++ ": ".toList ++
        ("Could not write ".toList ++ path ++ ": ".toList ++ error.reason) ++ ['\n'] := rfl
    rw [stderr, stderr, last, List.flatMap_append, List.flatMap_singleton, line, start]
    simp only [List.append_assoc]

end Report

/-! ## Printing and writing -/

/-- An argument which gives a path: it is no option and has no NUL. -/
structure PathArgument where
  text : Text
  plain : IsPlain text
  noNul : '\x00' ∉ text

namespace PathArgument

/-- The settings which print the binding of a header. -/
def printing (header : PathArgument) : Settings :=
  { header := header.text }

/-- The settings which write the binding of a header to a file. -/
def writing (header path : PathArgument) : Settings :=
  { header := header.text, output := some path.text }

theorem command_printing {m : Type → Type} [Monad m] (files : Files m) (header : PathArgument) :
    command files [header.text] = header.printing.run files := by
  have spelled : Spelled [.header header.text] [header.text] := .cons (.header header.plain) .nil
  rw [command, spelled.ofArguments_eq_run (by decide : 1 ≤ 1)]
  rfl

theorem command_writing {m : Type → Type} [Monad m] (files : Files m) (header path : PathArgument) :
    command files [header.text, "-o".toList, path.text] = (header.writing path).run files := by
  have spelled : Spelled [.header header.text, .output path.text]
      [header.text, "-o".toList, path.text] :=
    .cons (.header header.plain) (.cons (.output .letter path.plain) .nil)
  rw [command, spelled.ofArguments_eq_run (by decide : 1 ≤ 1)]
  rfl

theorem outputFile_writing {header path : PathArgument} (named : path.text ≠ []) :
    (header.writing path).outputFile = some path.text := by
  simp [writing, Settings.outputFile, named]

section Runs

variable {machine : Machine} {header path : PathArgument} {fs after : FileSystem} {content : Bytes}
  {error : FileError}

/-- Without a readable header it makes no difference where the output would go. -/
theorem command_unreadable
    (unreadable : machine.read fs (Path.normalize header.text) = .error error) :
    let failed := (Report.ran false [] (header.printing.shown [.unreadable header.text error]), fs)
    command machine.access [header.text] fs = failed ∧
      command machine.access [header.text, "-o".toList, path.text] fs = failed :=
  ⟨(congrFun (header.command_printing machine.access) fs).trans
      (Settings.run_unreadable unreadable),
    (congrFun (header.command_writing machine.access path) fs).trans
      (Settings.run_unreadable unreadable)⟩

variable (readable : machine.read fs (Path.normalize header.text) = .ok content)
include readable

theorem command_printed : command machine.access [header.text] fs =
    (.ran true (Generated.ofHeader content).output
      (header.printing.shown (Generated.ofHeader content).events), fs) :=
  (congrFun (header.command_printing machine.access) fs).trans (Settings.run_printed readable rfl)

variable (named : path.text ≠ [])
include named

/-- Where what is printed can be stored, storing it is all that writing does. -/
theorem command_written :
    let printed := command machine.access [header.text] fs
    let written := command machine.access [header.text, "-o".toList, path.text] fs
    machine.write fs path.text (Utf8.encode printed.1.stdout) = (.ok (), after) →
      written.1.status = 0 ∧ written.1.stdout = [] ∧ written.1.stderr = printed.1.stderr ∧
        written.2 = after := by
  intro printed written wrote
  have printedRun : printed = _ := command_printed readable
  rw [printedRun] at wrote
  have writtenRun : written = _ :=
    (congrFun (header.command_writing machine.access path) fs).trans
      (Settings.run_written readable (outputFile_writing named) wrote)
  rw [writtenRun, printedRun]
  exact ⟨rfl, rfl, rfl, rfl⟩

theorem command_unwritable :
    let printed := command machine.access [header.text] fs
    let written := command machine.access [header.text, "-o".toList, path.text] fs
    machine.write fs path.text (Utf8.encode printed.1.stdout) = (.error error, after) →
      written.1.FailsToWrite printed.1 path.text error.reason ∧ written.1.stdout = [] ∧
        written.2 = after := by
  intro printed written wrote
  have printedRun : printed = _ := command_printed readable
  rw [printedRun] at wrote
  have writtenRun : written = _ :=
    (congrFun (header.command_writing machine.access path) fs).trans
      (Settings.run_unwritable readable (outputFile_writing named) wrote)
  rw [writtenRun, printedRun]
  exact ⟨Report.failsToWrite .., rfl, rfl⟩

end Runs

end PathArgument

end GLDispatch
