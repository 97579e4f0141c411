import GLDispatch.Text.Basic

/-! # Paths -/
namespace GLDispatch.Path
open Text

/-- The names between the slashes. -/
def names (path : Text) : List Text :=
  (path.splitOn '/').filter (!·.isEmpty)

/-- One slash at the start, or exactly two, marks an absolute path. -/
def root (path : Text) : Text :=
  let slashes := path.takeWhile (· == '/')
  if slashes.length ≤ 2 then slashes else ['/']

/-- An absolute path leads from the root, and any other one from the working directory. -/
def isAbsolute (path : Text) : Bool :=
  !(root path).isEmpty

/-- The path without needless parts: doubled slashes, a slash at the end and names for the directory
at hand. A path with nothing left is the directory at hand. -/
def normalize (path : Text) : Text :=
  let short := root path ++ List.intercalate ['/'] ((names path).filter (· != ['.']))
  if short.isEmpty then ['.'] else short

def endsInSlash (path : Text) : Bool :=
  path.getLast? == some '/'

end GLDispatch.Path
