import GLDispatch.Text.Blank
import GLDispatch.Text.Word

/-! # Directives

The preprocessor lines that open and close regions and the conditionals nested in them. -/
namespace GLDispatch.Directive
open Text

/-- Guards of core versions and of extensions begin with one of these. -/
def guardStems : List Text :=
  ["GL_VER".toList, "GL_ARB".toList]

/-- The guard which the text begins with: a stem and all the word characters behind it. -/
def guardAt? (t : Text) : Option Text :=
  guardStems.findSome? fun stem =>
    (stem.isPrefixOf? t).map fun rest => stem ++ rest.takeWhile isWord

/-- The guard of a directive right at the beginning of the text. -/
def openingAt? (t : Text) : Option Text :=
  (("#ifndef".toList.isPrefixOf? t).bind afterBlanks?).bind guardAt?

/-- The guard of the region which the line opens. The directive may stand anywhere in it, and the
leftmost one counts. -/
def opening? (line : Text) : Option Text :=
  search? openingAt? line

def opensConditional (line : Text) : Bool :=
  "#if".toList.isPrefixOf line

def closesConditional (line : Text) : Bool :=
  "#endif".toList.isPrefixOf line

end GLDispatch.Directive
