import GLDispatch.Header.Signature
import GLDispatch.Text.Extent
import GLDispatch.Text.Word

/-! # Pointer types

Aliases of function pointer types, as in
`typedef void (APIENTRYP PFNGLCLEARPROC) (GLbitfield mask);`. They may stand anywhere in a line. -/
namespace GLDispatch

structure PointerType where
  name : Text
  signature : Signature
  deriving DecidableEq, Repr

namespace PointerType
open Text

/-- A parameter list ends at a parenthesis with a semicolon right behind it. -/
def closesList (t : Text) : Bool :=
  ");".toList.isPrefixOf t

/-- The name of a pointer type and its parameters, behind its return type. -/
def nameAndParameters? (t : Text) : Option (Text × Text) :=
  (("(APIENTRYP".toList.isPrefixOf? (dropBlanks t)).bind afterBlanks?).bind fun rest =>
    let name := rest.takeWhile isWord
    if name.isEmpty then none
    else ([')'].isPrefixOf? (rest.dropWhile isWord)).bind fun behind =>
      (['('].isPrefixOf? (dropBlanks behind)).bind fun inner =>
        (longestNonempty? closesList inner).map fun parameters => (name, parameters)

/-- The pointer type whose return type begins the text. -/
def typeAt? (t : Text) : Option PointerType :=
  (shortest? (fun _ rest => nameAndParameters? rest) t).map
    fun (type, name, parameters) => ⟨name, ⟨strip type, strip parameters⟩⟩

/-- The pointer type of a type definition right at the beginning of the text. -/
def definitionAt? (t : Text) : Option PointerType :=
  ("typedef".toList.isPrefixOf? t).bind (afterMostBlanks? typeAt?)

def ofLine? (line : Text) : Option PointerType :=
  search? definitionAt? line

end PointerType
end GLDispatch
