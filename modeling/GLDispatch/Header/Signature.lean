import GLDispatch.Text.Basic

/-! # Signatures -/
namespace GLDispatch

/-- A return type and the text between the parentheses of a parameter list. -/
structure Signature where
  returnType : Text
  parameters : Text
  deriving DecidableEq, Repr

end GLDispatch
