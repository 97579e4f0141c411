import GLDispatch.Text.Basic

/-! # Phrases of code

The pieces of C++ which a binding is made of. Names, types and parameters are taken as they are. -/
namespace GLDispatch.Code

def comment (text : Text) : Text :=
  "// ".toList ++ text

def ifdef (macroName : Text) : Text :=
  "#ifdef ".toList ++ macroName

def endif : Text :=
  "#endif".toList

/-- The two lines which open a group of members in the documentation. -/
def openGroup (name : Text) : List Text :=
  ["/// @name ".toList ++ name, "//@\x7b".toList]

def closeGroup : Text :=
  "//@\x7d".toList

def signature (name type parameters : Text) : Text :=
  type ++ [' '] ++ name ++ ['('] ++ parameters ++ [')']

def call (function : Text) (arguments : List Text) : Text :=
  function ++ ['('] ++ List.intercalate ", ".toList arguments ++ [')']

def cast (type expression : Text) : Text :=
  ['('] ++ type ++ [')'] ++ expression

def stringLiteral (text : Text) : Text :=
  ['\x22'] ++ text ++ ['\x22']

def memberDeclaration (type name : Text) : Text :=
  type ++ [' '] ++ name ++ [';']

def assignment (target expression : Text) : Text :=
  target ++ " = ".toList ++ expression ++ [';']

/-- A function with its body on one line. -/
def inlineFunction (name type parameters : Text) (statements : List Text) : Text :=
  signature name type parameters ++ " \x7b ".toList ++
    List.intercalate [' '] (statements.map (· ++ [';'])) ++ " \x7d".toList

end GLDispatch.Code
