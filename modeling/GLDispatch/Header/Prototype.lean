import GLDispatch.Header.Signature
import GLDispatch.Text.Extent
import GLDispatch.Text.Word

/-! # Prototypes

Declarations of functions, as in `GLAPI void APIENTRY glClear (GLbitfield mask);`. Both decorations
may be missing. -/
namespace GLDispatch

structure Prototype where
  name : Text
  signature : Signature
  deriving DecidableEq, Repr

namespace Prototype
open Text

def startsType (c : Char) : Bool :=
  c.isAlpha || c == '_'

/-- A parameter list ends at a parenthesis with a semicolon behind it, blanks between them. -/
def closesList (t : Text) : Bool :=
  (([')'].isPrefixOf? t).bind fun rest => [';'].isPrefixOf? (dropBlanks rest)).isSome

/-- The name of a function and its parameters at the beginning of the text. -/
def nameAndParameters? (t : Text) : Option (Text × Text) :=
  ("gl".toList.isPrefixOf? t).bind fun rest =>
    let tail := rest.takeWhile isWord
    if tail.isEmpty then none
    else (['('].isPrefixOf? (dropBlanks (rest.dropWhile isWord))).bind fun inner =>
      (longestNonempty? closesList inner).map fun parameters => ("gl".toList ++ tail, parameters)

/-- The text behind the calling convention, a word of its own, where `last` stands before `t`. -/
def afterConvention? (last : Char) (t : Text) : Option Text :=
  ("APIENTRY".toList.isPrefixOf? (dropBlanks t)).bind fun rest =>
    let standsApart := t.head?.any isBlank || !isWord last
    if standsApart && !rest.head?.any isWord then some (dropBlanks rest) else none

/-- The text from the name on, where the return type ends in `last` before `t`. Between them stands
the calling convention, a blank, or nothing if the type ends in an asterisk. -/
def nameStart? (last : Char) (t : Text) : Option Text :=
  (afterConvention? last t).orElse fun _ =>
    if t.head?.any isBlank || last == '*' then some (dropBlanks t) else none

/-- The prototype whose return type begins the text. -/
def typeAt? (t : Text) : Option Prototype :=
  if t.head?.any startsType then
    (shortest? (fun last rest => (nameStart? last rest).bind nameAndParameters?) t).map
      fun (type, name, parameters) => ⟨name, ⟨strip type, strip parameters⟩⟩
  else none

/-- A leading `GLAPI` is no part of the return type, unless only that makes a prototype. -/
def ofLine? (line : Text) : Option Prototype :=
  let start := dropBlanks line
  ((("GLAPI".toList.isPrefixOf? start).bind afterBlanks?).bind typeAt?).orElse fun _ =>
    typeAt? start

end Prototype
end GLDispatch
