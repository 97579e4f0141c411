import GLDispatch.Header.ExtensionNote
import GLDispatch.Header.PointerType
import GLDispatch.Header.Prototype

/-! # Entries

The lines of a region which say something about its guard. -/
namespace GLDispatch

inductive Entry where
  | extension (name : Text)
  | function (key : Text) (signature : Signature)
  deriving DecidableEq, Repr

/-- A line counts as the first of extension note, prototype and pointer type which it can be. -/
def Entry.ofLine? (line : Text) : Option Entry :=
  match ExtensionNote.ofLine? line with
  | some name => some (.extension name)
  | none => match Prototype.ofLine? line with
    | some p => some (.function p.name p.signature)
    | none => (PointerType.ofLine? line).map fun t => .function t.name t.signature

end GLDispatch
