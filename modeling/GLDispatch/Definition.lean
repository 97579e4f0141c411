import GLDispatch.OrderedMap
import GLDispatch.Header.Entry

/-! # Definitions

What a header says about one guard: the extensions bundled into its regions, and the signatures of
the functions and function pointer types found there. -/
namespace GLDispatch

structure Definition where
  guard : Text
  includes : List Text := []
  /-- The signatures of prototypes and pointer types under their names, in one map. -/
  functions : OrderedMap Text Signature := ∅
  deriving DecidableEq, Repr

/-- The definition after one more entry of its region. -/
def Definition.record (d : Definition) : Entry → Definition
  | .extension name => { d with includes := d.includes ++ [name] }
  | .function key signature => { d with functions := d.functions.insert key signature }

end GLDispatch
