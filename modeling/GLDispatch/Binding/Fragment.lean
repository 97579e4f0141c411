import GLDispatch.Binding.Argument
import GLDispatch.Binding.Block
import GLDispatch.Code.Indent
import GLDispatch.Code.Phrase

/-! # Fragments

The three parts of a binding: the function pointers of a context, the methods which call through
them between two checks, and the statements which load them. -/
namespace GLDispatch

inductive Fragment where
  | pointers
  | wrappers
  | loaders
  deriving DecidableEq, Repr

namespace Fragment

/-- The fragments in the order in which they are written. -/
def all : List Fragment :=
  [pointers, wrappers, loaders]

def checkBefore : Text :=
  Code.call "PRE_GL_CHECK".toList []

def checkAfter : Text :=
  Code.call "POST_GL_CHECK".toList []

/-- The local variable which holds the result of a call. -/
def resultName : Text :=
  "r".toList

def pointerDeclaration (f : BoundFunction) : Text :=
  Code.memberDeclaration (Name.pointerType f.name) (Name.member f.name)

def wrapperStatements (f : BoundFunction) : List Text :=
  let call := Code.call (Name.member f.name) (Argument.forwarded f.signature.parameters)
  if Argument.returnsValue f.signature.returnType then
    [checkBefore, f.signature.returnType ++ [' '] ++ resultName ++ " = ".toList ++ call, checkAfter,
      "return ".toList ++ resultName]
  else [checkBefore, call, checkAfter]

def wrapperMethod (f : BoundFunction) : Text :=
  Code.inlineFunction (Name.method f.name) f.signature.returnType f.signature.parameters
    (wrapperStatements f)

def loaderStatement (f : BoundFunction) : Text :=
  let address := Code.call "getProcAddress".toList [Code.stringLiteral f.name]
  Code.assignment (Name.member f.name) (Code.cast (Name.pointerType f.name) address)

/-- The code for one function. -/
def code : Fragment → BoundFunction → Text
  | pointers => pointerDeclaration
  | wrappers => wrapperMethod
  | loaders => loaderStatement

def itemCode (fragment : Fragment) : Item → Text
  | .extension guard => Code.comment guard
  | .function f => fragment.code f

/-- The lines between the start of a block and its items. -/
def opening (fragment : Fragment) (guard : Text) : List Text :=
  match fragment with
  | wrappers => Code.openGroup (guard ++ " functions".toList)
  | pointers | loaders => []

/-- The lines between the items of a block and its end. -/
def closing : Fragment → List Text
  | wrappers => [Code.closeGroup]
  | pointers | loaders => []

def blockLines (fragment : Fragment) (block : Block) : List Text :=
  [Code.ifdef block.guard] ++ fragment.opening block.guard ++
    block.items.map (fun item => Code.indent 1 (fragment.itemCode item)) ++
    fragment.closing ++ [Code.endif, []]

/-- The lines of the fragment, each version between its own conditionals. -/
def lines (fragment : Fragment) (table : DefinitionTable) : List Text :=
  table.blocks.flatMap fragment.blockLines

end Fragment

/-- The text of the whole binding. -/
def DefinitionTable.binding (table : DefinitionTable) : Text :=
  (Fragment.all.flatMap (·.lines table)).flatMap (· ++ ['\n'])

end GLDispatch
