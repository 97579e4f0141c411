import GLDispatch.Text.Blank

/-! # Extents

How far an open-ended part of a line reaches when what follows decides: the shortest or the longest
part that lets the rest be read. Such a part stays on its line. -/
namespace GLDispatch.Text

variable {α : Type}

/-- The shortest non-empty part that lets `next` read on. `next` sees the last character of the part
and the text behind it. -/
def shortest? (next : Char → Text → Option α) : Text → Option (Text × α)
  | [] => none
  | c :: rest =>
    if c = '\n' then none
    else match next c rest with
      | some a => some ([c], a)
      | none => (shortest? next rest).map fun found => (c :: found.1, found.2)

/-- The part found is the beginning of the text, and `next` accepts what lies behind it. -/
theorem shortest?_eq_some {next : Char → Text → Option α} {t part : Text} {a : α}
    (found : shortest? next t = some (part, a)) :
    ∃ last rest, t = part ++ rest ∧ part.getLast? = some last ∧ next last rest = some a ∧
      '\n' ∉ part := by
  induction t generalizing part with
  | nil => simp [shortest?] at found
  | cons c t ih =>
    rw [shortest?] at found
    split at found
    · cases found
    · rename_i inLine
      split at found
      · rename_i b accepted
        cases found
        exact ⟨c, t, rfl, rfl, accepted, by simpa [eq_comm] using inLine⟩
      · obtain ⟨⟨more, b⟩, later, equal⟩ := Option.map_eq_some_iff.mp found
        cases equal
        obtain ⟨last, rest, whole, ends, accepted, oneLine⟩ := ih later
        refine ⟨last, rest, by rw [whole]; rfl, ?_, accepted, ?_⟩
        · rw [List.getLast?_cons, ends]
          rfl
        · simp [oneLine, Ne.symm inLine]

/-- The longest part, possibly empty, behind which the text `closes`. -/
def longest? (closes : Text → Bool) : Text → Option Text
  | [] => if closes [] then some [] else none
  | c :: rest =>
    ((if c = '\n' then none else longest? closes rest).map (c :: ·)).orElse fun _ =>
      if closes (c :: rest) then some [] else none

/-- The longest non-empty part behind which the text `closes`. -/
def longestNonempty? (closes : Text → Bool) : Text → Option Text
  | [] => none
  | c :: rest => if c = '\n' then none else (longest? closes rest).map (c :: ·)

/-- Reads on after as many leading blanks as possible, and at least one. -/
def afterMostBlanks? (next : Text → Option α) : Text → Option α
  | [] => none
  | c :: rest =>
    if isBlank c then (afterMostBlanks? next rest).orElse fun _ => next rest else none

end GLDispatch.Text
