import GLDispatch.OrderedMap
import GLDispatch.Text.Order
import GLDispatch.Text.Utf8

/-! # File systems

The files and directories of a machine, as they are seen from its working directory. -/
namespace GLDispatch

/-- A place by the names which lead to it from the root. -/
abbrev Place := List Text

/-- A place reached by going up some directories from the working directory and then down. -/
structure Location where
  up : Nat := 0
  down : List Text := []
  deriving DecidableEq, Repr

namespace Location

/-- A place as it is seen from the working directory. What both have in common is left out. -/
def ofPlace : (working place : Place) → Location
  | [], place => ⟨0, place⟩
  | _ :: working, [] => ⟨working.length + 1, []⟩
  | name :: working, other :: place =>
    if name = other then ofPlace working place else ⟨working.length + 1, other :: place⟩

/-- Whether `inner` lies somewhere in the directory `outer`. -/
def encloses (outer inner : Location) : Bool :=
  outer.up == inner.up && outer.down.isPrefixOf inner.down &&
    outer.down.length < inner.down.length

def path (l : Location) : Text :=
  List.intercalate ['/'] (List.replicate l.up ['.', '.'] ++ l.down)

end Location

structure FileSystem where
  files : OrderedMap Location Bytes := ∅
  directories : List Location := []
  deriving DecidableEq, Repr

/-- The files below the working directory which are new in `after` or have other contents there, in
the order of their paths. -/
def FileSystem.changes (before after : FileSystem) : List (Text × Bytes) :=
  let changed := after.files.entries.filter fun entry =>
    entry.1.up == 0 && before.files.get? entry.1 != some entry.2
  (changed.map fun entry => (entry.1.path, entry.2)).mergeSort fun a b => Text.atMost a.1 b.1

end GLDispatch
