import GLDispatch.Text.Basic

/-! # Lines

Two ways to divide text: at every line boundary of Unicode, or at line feeds after all line
endings became line feeds. Neither loses a character. -/
namespace GLDispatch.Text

/-- Line feed, vertical tab, form feed, carriage return, the file, group and record separators,
next line, line separator and paragraph separator. -/
def isLineBoundary (c : Char) : Bool :=
  c ∈ ['\n', '\x0b', '\x0c', '\r', '\x1c', '\x1d', '\x1e', '\u0085', '\u2028', '\u2029']

/-- A boundary ends its line, but a carriage return and the line feed behind it are one ending. -/
def endsBoundaryLine (c : Char) (rest : Text) : Bool :=
  isLineBoundary c && !(c == '\r' && rest.head? == some '\n')

/-- The lines between boundaries, each with the boundary which ends it. -/
def boundaryLines (t : Text) : List Text :=
  cut endsBoundaryLine t

/-- The lines between line feeds, each with the line feed which ends it. -/
def lines (t : Text) : List Text :=
  cut (fun c _ => c == '\n') t

/-- Turns every carriage return, with the line feed behind it if there is one, into a line feed. -/
def unifyEndings (t : Text) : Text :=
  foldRest (fun c rest out =>
    if c = '\r' then if rest.head? = some '\n' then out else '\n' :: out else c :: out) [] t

/-- The line without carriage returns and line feeds at its end. -/
def trimEnding (line : Text) : Text :=
  trimEnd (fun c => c == '\r' || c == '\n') line

end GLDispatch.Text
