import GLDispatch.Text.Basic

/-! # Extension notes

A comment at the start of a line which names the extension that the following functions come
from, as in `/* ARB_sync */`. -/
namespace GLDispatch.ExtensionNote
open Text

/-- Extensions are named in ASCII. -/
def isNameChar (c : Char) : Bool :=
  c.isAlphanum || c == '_'

def ofLine? (line : Text) : Option Text :=
  ("/* ARB_".toList.isPrefixOf? line).bind fun rest =>
    let name := rest.takeWhile isNameChar
    if name.isEmpty then none else some ("ARB_".toList ++ name)

end GLDispatch.ExtensionNote
