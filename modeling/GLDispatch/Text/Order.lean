import GLDispatch.Text.Basic

/-! # Code point order -/
namespace GLDispatch.Text

/-- Whether the first text comes before the second one or is the same. The first place where they
differ decides, and a text comes before its continuations. -/
def atMost : Text → Text → Bool
  | [], _ => true
  | _ :: _, [] => false
  | a :: s, b :: t => a.toNat < b.toNat || (a == b && atMost s t)

end GLDispatch.Text
