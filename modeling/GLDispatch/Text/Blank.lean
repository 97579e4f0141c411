import GLDispatch.Text.Ranges

/-! # Blanks

White space of every script, with the four information separators and the next-line control. -/
namespace GLDispatch.Text

def blanks : Ranges :=
  [(0x9, 0xd), (0x1c, 0x20), (0x85, 0x85), (0xa0, 0xa0), (0x1680, 0x1680), (0x2000, 0x200a),
   (0x2028, 0x2029), (0x202f, 0x202f), (0x205f, 0x205f), (0x3000, 0x3000)]

def isBlank (c : Char) : Bool :=
  blanks.has c

def dropBlanks (t : Text) : Text :=
  t.dropWhile isBlank

/-- The text behind its leading blanks, of which there is at least one. -/
def afterBlanks? : Text → Option Text
  | [] => none
  | c :: rest => if isBlank c then some (dropBlanks rest) else none

/-- The text without blanks at either end. -/
def strip (t : Text) : Text :=
  trimEnd isBlank (dropBlanks t)

/-- The longest runs without blanks. -/
def words (t : Text) : List Text :=
  (t.splitOnP isBlank).filter (!·.isEmpty)

end GLDispatch.Text
