import GLDispatch.Text.Blank
import GLDispatch.Text.Line

/-! # Indentation -/
namespace GLDispatch.Code
open Text

/-- The characters in front of a line at the given depth. -/
def indentation (depth : Nat) : Text :=
  List.replicate depth '\t'

/-- One tab in front of the line, unless it is blank. -/
def indentLine (line : Text) : Text :=
  if line.all isBlank then line else '\t' :: line

/-- Indents each line of the code by the given depth. -/
def indent (depth : Nat) (code : Text) : Text :=
  match depth with
  | 0 => code
  | depth + 1 => indent depth ((boundaryLines code).flatMap indentLine)

end GLDispatch.Code
