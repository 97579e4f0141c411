import GLDispatch.Proofs.Text
import GLDispatch.Text.Extent

/-! # Laws of extents

When an open-ended part of a line is found, and which one. A reader finds something whenever there
is anything to find (`isSome_shortest?`, `isSome_longestNonempty?`, `isSome_search?`), and what it
finds is the shortest or the longest part that lets the rest be read. -/
namespace GLDispatch.Text

variable {α : Type}

/-! ## Shortest parts -/

theorem isSome_shortest? {next : Char → Text → Option α} {front rest : Text} {last : Char}
    (oneLine : '\n' ∉ front ++ [last]) (accepted : (next last rest).isSome) :
    (shortest? next (front ++ last :: rest)).isSome := by
  induction front with
  | nil =>
    obtain ⟨a, found⟩ := Option.isSome_iff_exists.mp accepted
    have inLine : last ≠ '\n' := by simpa [eq_comm] using oneLine
    rw [List.nil_append, shortest?, if_neg inLine, found]
    rfl
  | cons c front ih =>
    obtain ⟨inLine, restInLine⟩ : '\n' ≠ c ∧ '\n' ∉ front ++ [last] := by simpa using oneLine
    rw [List.cons_append, shortest?, if_neg (Ne.symm inLine)]
    cases next c (front ++ last :: rest) with
    | some a => rfl
    | none => simpa using ih restInLine

/-- The part found is one whose continuation `next` accepts, if it accepts that of no shorter
one. -/
theorem shortest?_append {next : Char → Text → Option α} {front rest : Text} {last : Char} {a : α}
    (oneLine : '\n' ∉ front ++ [last]) (accepted : next last rest = some a)
    (refused : ∀ (before : Text) (c : Char) (behind : Text),
      front ++ [last] = before ++ c :: behind → behind ≠ [] → next c (behind ++ rest) = none) :
    shortest? next (front ++ last :: rest) = some (front ++ [last], a) := by
  induction front with
  | nil =>
    have inLine : last ≠ '\n' := by simpa [eq_comm] using oneLine
    rw [List.nil_append, shortest?, if_neg inLine, accepted]
    rfl
  | cons c front ih =>
    obtain ⟨inLine, restInLine⟩ : '\n' ≠ c ∧ '\n' ∉ front ++ [last] := by simpa using oneLine
    have first := refused [] c (front ++ [last]) rfl (by simp)
    rw [List.append_assoc] at first
    have later := ih restInLine fun before d behind whole =>
      refused (c :: before) d behind (by rw [List.cons_append, whole]; rfl)
    rw [List.cons_append, shortest?, if_neg (Ne.symm inLine)]
    simp only [List.singleton_append] at first
    rw [first, later]
    rfl

/-- No part whose continuation `next` accepts is shorter than the part found. -/
theorem length_le_of_shortest? {next : Char → Text → Option α} {front rest part : Text}
    {last : Char} {a : α} (found : shortest? next (front ++ last :: rest) = some (part, a))
    (accepted : (next last rest).isSome) : part.length ≤ (front ++ [last]).length := by
  induction front generalizing part with
  | nil =>
    obtain ⟨b, here⟩ := Option.isSome_iff_exists.mp accepted
    rw [List.nil_append, shortest?, here] at found
    split at found
    next => cases found
    next =>
      cases found
      exact Nat.le_refl 1
  | cons c front ih =>
    rw [List.cons_append, shortest?] at found
    split at found
    next => cases found
    next =>
      split at found
      next =>
        cases found
        simp
      next =>
        obtain ⟨⟨more, b⟩, later, same⟩ := Option.map_eq_some_iff.mp found
        cases same
        exact Nat.succ_le_succ (ih later)

/-! ## Longest parts -/

theorem isSome_longest? {closes : Text → Bool} {part rest : Text} (oneLine : '\n' ∉ part)
    (closed : closes rest = true) : (longest? closes (part ++ rest)).isSome := by
  induction part with
  | nil =>
    cases rest with
    | nil => simp [longest?, closed]
    | cons c rest => simp [longest?, closed]
  | cons c part ih =>
    obtain ⟨inLine, restInLine⟩ : '\n' ≠ c ∧ '\n' ∉ part := by simpa using oneLine
    have later := ih restInLine
    simp [longest?, Ne.symm inLine, later]

theorem longest?_append {closes : Text → Bool} {part rest tail : Text} (oneLine : '\n' ∉ part)
    (found : longest? closes rest = some tail) :
    longest? closes (part ++ rest) = some (part ++ tail) := by
  induction part with
  | nil => exact found
  | cons c part ih =>
    obtain ⟨inLine, restInLine⟩ : '\n' ≠ c ∧ '\n' ∉ part := by simpa using oneLine
    rw [List.cons_append, longest?, if_neg (Ne.symm inLine), ih restInLine]
    rfl

theorem longest?_eq_some {closes : Text → Bool} {t part : Text}
    (found : longest? closes t = some part) :
    ∃ rest, t = part ++ rest ∧ '\n' ∉ part ∧ closes rest = true := by
  induction t generalizing part with
  | nil =>
    rw [longest?] at found
    split at found
    next closed =>
      cases found
      exact ⟨[], rfl, List.not_mem_nil, closed⟩
    next => cases found
  | cons c t ih =>
    rw [longest?, Option.orElse_eq_or, Option.or_eq_some_iff] at found
    rcases found with longer | ⟨_, here⟩
    · obtain ⟨more, later, rfl⟩ := Option.map_eq_some_iff.mp longer
      split at later
      next => cases later
      next inLine =>
        obtain ⟨rest, rfl, oneLine, closed⟩ := ih later
        exact ⟨rest, rfl, by simp [oneLine, Ne.symm inLine], closed⟩
    · split at here
      next closed =>
        cases here
        exact ⟨c :: t, rfl, List.not_mem_nil, closed⟩
      next => cases here

theorem longestNonempty?_append {closes : Text → Bool} {part rest : Text} (some : part ≠ [])
    (oneLine : '\n' ∉ part) (found : longest? closes rest = Option.some []) :
    longestNonempty? closes (part ++ rest) = Option.some part := by
  cases part with
  | nil => exact absurd rfl some
  | cons c part =>
    obtain ⟨inLine, restInLine⟩ : '\n' ≠ c ∧ '\n' ∉ part := by simpa using oneLine
    rw [List.cons_append, longestNonempty?, if_neg (Ne.symm inLine),
      longest?_append restInLine found, List.append_nil]
    rfl

theorem isSome_longestNonempty? {closes : Text → Bool} {part rest : Text} (some : part ≠ [])
    (oneLine : '\n' ∉ part) (closed : closes rest = true) :
    (longestNonempty? closes (part ++ rest)).isSome := by
  cases part with
  | nil => exact absurd rfl some
  | cons c part =>
    obtain ⟨inLine, restInLine⟩ : '\n' ≠ c ∧ '\n' ∉ part := by simpa using oneLine
    rw [List.cons_append, longestNonempty?, if_neg (Ne.symm inLine), Option.isSome_map]
    exact isSome_longest? restInLine closed

theorem longestNonempty?_eq_some {closes : Text → Bool} {t part : Text}
    (found : longestNonempty? closes t = some part) :
    ∃ rest, t = part ++ rest ∧ part ≠ [] ∧ '\n' ∉ part ∧ closes rest = true := by
  cases t with
  | nil => cases found
  | cons c t =>
    rw [longestNonempty?] at found
    split at found
    next => cases found
    next inLine =>
      obtain ⟨more, later, rfl⟩ := Option.map_eq_some_iff.mp found
      obtain ⟨rest, rfl, oneLine, closed⟩ := longest?_eq_some later
      exact ⟨rest, rfl, List.cons_ne_nil c more, by simp [oneLine, Ne.symm inLine], closed⟩

/-- No part behind which the text closes is longer than the part found. -/
theorem length_le_of_longest? {closes : Text → Bool} {part rest found : Text}
    (oneLine : '\n' ∉ part) (closed : closes rest = true)
    (longest : longest? closes (part ++ rest) = some found) : part.length ≤ found.length := by
  induction part generalizing found with
  | nil => exact Nat.zero_le _
  | cons c part ih =>
    obtain ⟨inLine, restInLine⟩ : '\n' ≠ c ∧ '\n' ∉ part := by simpa using oneLine
    obtain ⟨more, later⟩ := Option.isSome_iff_exists.mp (isSome_longest? restInLine closed)
    rw [List.cons_append, longest?, if_neg (Ne.symm inLine), later] at longest
    cases longest
    exact Nat.succ_le_succ (ih restInLine later)

theorem length_le_of_longestNonempty? {closes : Text → Bool} {part rest found : Text}
    (oneLine : '\n' ∉ part) (closed : closes rest = true)
    (longest : longestNonempty? closes (part ++ rest) = some found) :
    part.length ≤ found.length := by
  cases part with
  | nil => exact Nat.zero_le _
  | cons c part =>
    obtain ⟨inLine, restInLine⟩ : '\n' ≠ c ∧ '\n' ∉ part := by simpa using oneLine
    rw [List.cons_append, longestNonempty?, if_neg (Ne.symm inLine)] at longest
    obtain ⟨more, later, rfl⟩ := Option.map_eq_some_iff.mp longest
    exact Nat.succ_le_succ (length_le_of_longest? restInLine closed later)

/-- A part behind which the text closes is found if no longer one is to be found. -/
theorem longestNonempty?_of_forall {closes : Text → Bool} {part rest : Text} (some : part ≠ [])
    (oneLine : '\n' ∉ part) (closed : closes rest = true)
    (longest : ∀ part' rest', part ++ rest = part' ++ rest' → part' ≠ [] → '\n' ∉ part' →
      closes rest' = true → part'.length ≤ part.length) :
    longestNonempty? closes (part ++ rest) = Option.some part := by
  obtain ⟨found, reads⟩ :=
    Option.isSome_iff_exists.mp (isSome_longestNonempty? some oneLine closed)
  obtain ⟨rest', whole, some', oneLine', closed'⟩ := longestNonempty?_eq_some reads
  have length : part.length = found.length :=
    Nat.le_antisymm (length_le_of_longestNonempty? oneLine closed reads)
      (longest found rest' whole some' oneLine' closed')
  rw [reads, (List.append_inj whole length).1]

/-! ## Leading blanks and positions -/

theorem isSome_afterMostBlanks? {next : Text → Option α} {t : Text} :
    (afterMostBlanks? next t).isSome ↔
      ∃ ws u, ws ≠ [] ∧ AllBlank ws ∧ t = ws ++ u ∧ (next u).isSome := by
  induction t with
  | nil =>
    constructor
    · intro found
      cases found
    · intro given
      obtain ⟨ws, u, some, -, whole, -⟩ := given
      exact absurd (List.append_eq_nil_iff.mp whole.symm).1 some
  | cons c t ih =>
    rw [afterMostBlanks?]
    constructor
    · intro found
      split at found
      next blank =>
        rw [Option.orElse_eq_or, Option.isSome_or, Bool.or_eq_true, ih] at found
        rcases found with ⟨ws, u, -, blanks, rfl, accepted⟩ | accepted
        · exact ⟨c :: ws, u, List.cons_ne_nil c ws, allBlank_cons.mpr ⟨blank, blanks⟩, rfl,
            accepted⟩
        · exact ⟨[c], t, List.cons_ne_nil c [], allBlank_cons.mpr ⟨blank, by simp [AllBlank]⟩, rfl,
            accepted⟩
      next => cases found
    · intro given
      obtain ⟨ws, u, some, blanks, whole, accepted⟩ := given
      cases ws with
      | nil => exact absurd rfl some
      | cons d ws =>
        obtain ⟨rfl, rfl⟩ := List.cons.inj whole
        obtain ⟨blank, more⟩ := allBlank_cons.mp blanks
        rw [if_pos blank, Option.orElse_eq_or, Option.isSome_or, Bool.or_eq_true, ih]
        cases ws with
        | nil => exact Or.inr accepted
        | cons e ws => exact Or.inl ⟨e :: ws, u, List.cons_ne_nil e ws, more, rfl, accepted⟩

theorem afterMostBlanks?_cons {next : Text → Option α} {c : Char} {t : Text}
    (blank : isBlank c = true) (start : HeadNot isBlank t) :
    afterMostBlanks? next (c :: t) = next t := by
  have none : afterMostBlanks? next t = none := by
    cases t with
    | nil => rfl
    | cons d t => rw [afterMostBlanks?, if_neg (by simp [headNot_cons.mp start])]
  rw [afterMostBlanks?, if_pos blank, none, Option.orElse_none]

/-- No run of leading blanks behind which `next` accepts is longer than the one found. -/
theorem longest_of_afterMostBlanks? {next : Text → Option α} {t : Text} {a : α}
    (found : afterMostBlanks? next t = some a) :
    ∃ ws u, ws ≠ [] ∧ AllBlank ws ∧ t = ws ++ u ∧ next u = some a ∧
      ∀ ws' u', AllBlank ws' → t = ws' ++ u' → (next u').isSome → ws'.length ≤ ws.length := by
  induction t with
  | nil => cases found
  | cons c t ih =>
    rw [afterMostBlanks?] at found
    split at found
    next blank =>
      rw [Option.orElse_eq_or, Option.or_eq_some_iff] at found
      rcases found with later | ⟨refused, here⟩
      · obtain ⟨ws, u, -, blanks, rfl, accepted, longest⟩ := ih later
        refine ⟨c :: ws, u, List.cons_ne_nil c ws, allBlank_cons.mpr ⟨blank, blanks⟩, rfl,
          accepted, ?_⟩
        intro ws' u' blanks' whole accepted'
        cases ws' with
        | nil => exact Nat.zero_le _
        | cons d ws' =>
          exact Nat.succ_le_succ (longest ws' u' (allBlank_cons.mp blanks').2
            (List.cons.inj whole).2 accepted')
      · refine ⟨[c], t, List.cons_ne_nil c [], allBlank_cons.mpr ⟨blank, by simp [AllBlank]⟩, rfl,
          here, ?_⟩
        intro ws' u' blanks' whole accepted'
        cases ws' with
        | nil => exact Nat.zero_le _
        | cons d ws' =>
          -- A second blank would let the reader accept behind the first one.
          obtain ⟨-, more⟩ := List.cons.inj whole
          cases ws' with
          | nil => exact Nat.le_refl 1
          | cons e ws' =>
            have accepts := isSome_afterMostBlanks?.mpr ⟨e :: ws', u', List.cons_ne_nil e ws',
              (allBlank_cons.mp blanks').2, more, accepted'⟩
            rw [refused] at accepts
            cases accepts
    next => cases found

theorem search?_eq_some {read : Text → Option α} {t : Text} {a : α} (found : read t = some a) :
    search? read t = some a := by
  cases t with
  | nil => exact found
  | cons c t => rw [search?, found, Option.orElse_some]

/-- `read` accepts at no position in front of the one where it is found to. -/
theorem leftmost_of_search? {read : Text → Option α} {t : Text} {a : α}
    (found : search? read t = some a) :
    ∃ before behind, t = before ++ behind ∧ read behind = some a ∧
      ∀ before' behind', t = before' ++ behind' → (read behind').isSome →
        before.length ≤ before'.length := by
  induction t with
  | nil => exact ⟨[], [], rfl, found, fun _ _ _ _ => Nat.zero_le _⟩
  | cons c t ih =>
    rw [search?, Option.orElse_eq_or, Option.or_eq_some_iff] at found
    rcases found with here | ⟨refused, later⟩
    · exact ⟨[], c :: t, rfl, here, fun _ _ _ _ => Nat.zero_le _⟩
    · obtain ⟨before, behind, rfl, accepted, leftmost⟩ := ih later
      refine ⟨c :: before, behind, rfl, accepted, ?_⟩
      intro before' behind' whole accepted'
      cases before' with
      | nil =>
        rw [List.nil_append] at whole
        rw [← whole, refused] at accepted'
        cases accepted'
      | cons d before' =>
        exact Nat.succ_le_succ (leftmost before' behind' (List.cons.inj whole).2 accepted')

theorem isSome_search? {read : Text → Option α} {t : Text} :
    (search? read t).isSome ↔ ∃ before behind, t = before ++ behind ∧ (read behind).isSome := by
  induction t with
  | nil =>
    constructor
    · intro found
      exact ⟨[], [], rfl, found⟩
    · intro given
      obtain ⟨before, behind, whole, found⟩ := given
      rwa [(List.append_eq_nil_iff.mp whole.symm).2] at found
  | cons c t ih =>
    rw [search?, Option.orElse_eq_or, Option.isSome_or, Bool.or_eq_true, ih]
    constructor
    · intro given
      rcases given with here | ⟨before, behind, rfl, later⟩
      · exact ⟨[], c :: t, rfl, here⟩
      · exact ⟨c :: before, behind, rfl, later⟩
    · intro given
      obtain ⟨before, behind, whole, found⟩ := given
      cases before with
      | nil =>
        rw [List.nil_append] at whole
        exact Or.inl (whole ▸ found)
      | cons d before => exact Or.inr ⟨before, behind, (List.cons.inj whole).2, found⟩

end GLDispatch.Text
