import GLDispatch.Text.Blank

/-! # Arguments

What a wrapper passes on: the identifiers in the parameter list of its function. -/
namespace GLDispatch.Argument
open Text

def voidType : Text :=
  "void".toList

/-- Only a plain `void` is no value. -/
def returnsValue (type : Text) : Bool :=
  type != voidType

/-- The identifier of one parameter: its last word, without asterisks in front and array sizes
behind. -/
def identifier (parameter : Text) : Text :=
  match (words parameter).getLast? with
  | none => []
  | some word => before '[' (afterLast '*' word)

/-- The arguments which forward a call with these parameters. -/
def forwarded (parameters : Text) : List Text :=
  if parameters = voidType then [] else (parameters.splitOn ',').map identifier

end GLDispatch.Argument
