/-!
# Text

Text is a list of characters. The operations here cut it into pieces and look for the first
position which a reader accepts.
-/
namespace GLDispatch

/-- A sequence of characters. -/
abbrev Text := List Char

namespace Text

variable {α β : Type}

/-- Folds from the right and shows each step the text behind its character. -/
def foldRest (f : Char → Text → β → β) (base : β) (t : Text) : β :=
  (t.foldr (fun c s => (c :: s.1, f c s.1 s.2)) ([], base)).2

@[simp] theorem foldRest_nil (f : Char → Text → β → β) (base : β) : foldRest f base [] = base :=
  rfl

@[simp] theorem foldRest_cons (f : Char → Text → β → β) (base : β) (c : Char) (t : Text) :
    foldRest f base (c :: t) = f c t (foldRest f base t) := by
  have seen : ∀ u : Text, (u.foldr (fun c s => (c :: s.1, f c s.1 s.2)) ([], base)).1 = u := by
    intro u
    induction u with
    | nil => rfl
    | cons d u ih => simp [ih]
  simp [foldRest, seen t]

/-- Puts a character in front of the first piece. -/
def consFirst (c : Char) : List Text → List Text
  | [] => [[c]]
  | piece :: pieces => (c :: piece) :: pieces

/-- Cuts after every character that ends a piece. `ends` also sees the text behind the character. -/
def cut (ends : Char → Text → Bool) (t : Text) : List Text :=
  foldRest (fun c rest pieces => if ends c rest then [c] :: pieces else consFirst c pieces) [] t

@[simp] theorem flatten_consFirst (c : Char) (pieces : List Text) :
    (consFirst c pieces).flatten = c :: pieces.flatten := by
  cases pieces <;> rfl

@[simp] theorem flatten_cut (ends : Char → Text → Bool) (t : Text) : (cut ends t).flatten = t := by
  induction t with
  | nil => rfl
  | cons c t ih =>
    simp only [cut, foldRest_cons] at ih ⊢
    split <;> simp [ih]

/-- The text up to the first `mark`, or all of it. -/
def before (mark : Char) (t : Text) : Text :=
  t.takeWhile (· != mark)

/-- The text behind the last `mark`, or all of it. -/
def afterLast (mark : Char) (t : Text) : Text :=
  (t.reverse.takeWhile (· != mark)).reverse

/-- What `read` makes of the text at the leftmost position which it accepts. -/
def search? (read : Text → Option α) : Text → Option α
  | [] => read []
  | c :: rest => (read (c :: rest)).orElse fun _ => search? read rest

/-- Whether `part` occurs in the text. -/
def hasPart (part t : Text) : Bool :=
  (search? part.isPrefixOf? t).isSome

/-- The text without the characters at its end which satisfy `drops`. -/
def trimEnd (drops : Char → Bool) (t : Text) : Text :=
  (t.reverse.dropWhile drops).reverse

end Text
end GLDispatch
