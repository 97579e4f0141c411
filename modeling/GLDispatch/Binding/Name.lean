import GLDispatch.Text.Case
import GLDispatch.Text.Basic

/-! # Derived names

The names which a binding uses for a function, all made from the function's own name. -/
namespace GLDispatch.Name
open Text

/-- Every entry point of the library starts with this. -/
def entryPointStem : Text :=
  "gl".toList

def isEntryPoint (name : Text) : Bool :=
  entryPointStem.isPrefixOf name

/-- The name of the function without the stem. -/
def bare (function : Text) : Text :=
  function.drop entryPointStem.length

/-- The type of a pointer to the function: `PFNGLCLEARPROC` for `glClear`. -/
def pointerType (function : Text) : Text :=
  "PFN".toList ++ upper function ++ "PROC".toList

/-- The member which holds the pointer: `m_pClear` for `glClear`. -/
def member (function : Text) : Text :=
  "m_p".toList ++ bare function

/-- The method which calls through the pointer: `clear` for `glClear`. -/
def method (function : Text) : Text :=
  match bare function with
  | [] => []
  | c :: rest => lowerChar c ++ rest

/-- The guard of the regions which define an extension: `GL_ARB_sync` for `ARB_sync`. -/
def extensionGuard (extension : Text) : Text :=
  "GL_".toList ++ extension

end GLDispatch.Name
