import GLDispatch.Text.Blank
import GLDispatch.Text.Line
import GLDispatch.Text.Word
import Mathlib.Data.List.Basic

/-! # Laws of text

Runs of blanks and of word characters, and where a text can be cut: a cut is determined by a class
of characters of which one part is made and with which the other does not begin. Then the pieces
between marks, and the words between blanks. -/
namespace GLDispatch.Text

/-! ## Classes of characters -/

def Ranges.codes (ranges : Ranges) : List Nat :=
  ranges.flatMap fun r => List.range' r.1 (r.2 + 1 - r.1)

/-- What holds of all code points in a table holds of all its characters. -/
theorem Ranges.forall_of_codes {ranges : Ranges} {p : Char → Bool}
    (codes : ∀ n ∈ ranges.codes, p (Char.ofNat n) = true) {c : Char} (h : ranges.has c = true) :
    p c = true := by
  obtain ⟨r, member, low, high⟩ := Ranges.has_iff.mp h
  have code : c.toNat ∈ ranges.codes :=
    List.mem_flatMap.mpr ⟨r, member, List.mem_range'_1.mpr ⟨low, by omega⟩⟩
  have here := codes c.toNat code
  rwa [Char.ofNat_toNat] at here

/-- Letters and digits of the standard library are those of ASCII. -/
theorem isWord_of_isAlphanum {c : Char} (h : c.isAlphanum = true) : isWord c = true := by
  have ascii : c.toNat < 0x80 := by
    have code : c.toNat = c.val.toNat := rfl
    have letter : ((decide (65 ≤ c.val ∧ c.val ≤ 90) ||
        decide (97 ≤ c.val) && decide (c.val ≤ 122)) ||
        decide (48 ≤ c.val) && decide (c.val ≤ 57)) = true := h
    simp only [Bool.or_eq_true, Bool.and_eq_true, decide_eq_true_eq, UInt32.le_iff_toNat_le]
      at letter
    rcases letter with (upper | lower) | digit
    · exact Nat.lt_of_le_of_lt (code ▸ upper.2) (by decide)
    · exact Nat.lt_of_le_of_lt (code ▸ lower.2) (by decide)
    · exact Nat.lt_of_le_of_lt (code ▸ digit.2) (by decide)
  rw [isWord, if_pos ascii, h, Bool.true_or]

theorem not_isWord_of_isBlank {c : Char} (h : isBlank c = true) : isWord c = false := by
  have apart : ∀ n ∈ Ranges.codes blanks, (!isWord (Char.ofNat n)) = true := by decide +kernel
  simpa using Ranges.forall_of_codes (p := fun c => !isWord c) apart h

theorem not_isBlank_of_isWord {c : Char} (h : isWord c = true) : isBlank c = false := by
  cases blank : isBlank c with
  | false => rfl
  | true => rw [not_isWord_of_isBlank blank] at h; cases h

theorem isBlank_of_isLineBoundary {c : Char} (h : isLineBoundary c = true) : isBlank c = true := by
  have boundaries : ['\n', '\x0b', '\x0c', '\r', '\x1c', '\x1d', '\x1e', '\u0085', '\u2028',
      '\u2029'].all isBlank = true := by decide
  exact List.all_eq_true.mp boundaries c (by simpa [isLineBoundary] using h)

def AllBlank (t : Text) : Prop := ∀ c ∈ t, isBlank c = true

def AllWord (t : Text) : Prop := ∀ c ∈ t, isWord c = true

/-- The text has no blanks. -/
def Visible (t : Text) : Prop := ∀ c ∈ t, isBlank c = false

/-- The text stays on its line, also where lines end at every boundary. -/
def OneLine (t : Text) : Prop := ∀ c ∈ t, isLineBoundary c = false

instance (t : Text) : Decidable (AllBlank t) :=
  decidable_of_iff (t.all isBlank = true) List.all_eq_true

instance (t : Text) : Decidable (AllWord t) :=
  decidable_of_iff (t.all isWord = true) List.all_eq_true

instance (t : Text) : Decidable (Visible t) :=
  decidable_of_iff (t.all (!isBlank ·) = true) (by simp [Visible])

instance (t : Text) : Decidable (OneLine t) :=
  decidable_of_iff (t.all (!isLineBoundary ·) = true) (by simp [OneLine])

theorem AllWord.visible {t : Text} (h : AllWord t) : Visible t :=
  fun c member => not_isBlank_of_isWord (h c member)

theorem Visible.oneLine {t : Text} (h : Visible t) : OneLine t := by
  intro c member
  cases boundary : isLineBoundary c with
  | false => rfl
  | true =>
    have visible := h c member
    rw [isBlank_of_isLineBoundary boundary] at visible
    cases visible

theorem AllBlank.append {s t : Text} (first : AllBlank s) (second : AllBlank t) :
    AllBlank (s ++ t) :=
  List.forall_mem_append.mpr ⟨first, second⟩

theorem AllWord.append {s t : Text} (first : AllWord s) (second : AllWord t) : AllWord (s ++ t) :=
  List.forall_mem_append.mpr ⟨first, second⟩

theorem Visible.append {s t : Text} (first : Visible s) (second : Visible t) : Visible (s ++ t) :=
  List.forall_mem_append.mpr ⟨first, second⟩

theorem OneLine.append {s t : Text} (first : OneLine s) (second : OneLine t) : OneLine (s ++ t) :=
  List.forall_mem_append.mpr ⟨first, second⟩

theorem allBlank_cons {c : Char} {t : Text} :
    AllBlank (c :: t) ↔ isBlank c = true ∧ AllBlank t :=
  List.forall_mem_cons

theorem AllBlank.not_mem {c : Char} {t : Text} (blank : AllBlank t) (visible : isBlank c = false) :
    c ∉ t := by
  intro member
  rw [blank c member] at visible
  cases visible

theorem allBlank_space : AllBlank [' '] :=
  allBlank_cons.mpr ⟨by decide, fun _ member => by cases member⟩

/-- The text does not begin with a character of the class. -/
def HeadNot (p : Char → Bool) (t : Text) : Prop := ∀ c, t.head? = some c → p c = false

/-- The text does not end in a character of the class. -/
def LastNot (p : Char → Bool) (t : Text) : Prop := ∀ c, t.getLast? = some c → p c = false

theorem headNot_cons {p : Char → Bool} {c : Char} {t : Text} :
    HeadNot p (c :: t) ↔ p c = false := by
  simp [HeadNot]

theorem headNot_append {p : Char → Bool} {t : Text} (some : t ≠ []) (u : Text) :
    HeadNot p (t ++ u) ↔ HeadNot p t := by
  cases t with
  | nil => exact absurd rfl some
  | cons c t => rw [List.cons_append, headNot_cons, headNot_cons]

/-! ## Cuts -/

theorem takeWhile_of_cut {p : Char → Bool} {run rest : Text} (inside : ∀ c ∈ run, p c = true)
    (outside : HeadNot p rest) : (run ++ rest).takeWhile p = run := by
  have none : rest.takeWhile p = [] := by
    cases rest with
    | nil => rfl
    | cons c rest => exact List.takeWhile_cons_of_neg (by simp [headNot_cons.mp outside])
  rw [List.takeWhile_append_of_pos inside, none, List.append_nil]

theorem dropWhile_of_headNot {p : Char → Bool} {t : Text} (outside : HeadNot p t) :
    t.dropWhile p = t := by
  cases t with
  | nil => rfl
  | cons c t => exact List.dropWhile_cons_of_neg (by simp [headNot_cons.mp outside])

theorem dropWhile_of_cut {p : Char → Bool} {run rest : Text} (inside : ∀ c ∈ run, p c = true)
    (outside : HeadNot p rest) : (run ++ rest).dropWhile p = rest := by
  rw [List.dropWhile_append_of_pos inside, dropWhile_of_headNot outside]

theorem headNot_dropWhile (p : Char → Bool) (t : Text) : HeadNot p (t.dropWhile p) := by
  intro c first
  have := List.head?_dropWhile_not p t
  rw [first] at this
  simpa using this

theorem cut_unique {p : Char → Bool} {x y a b : Text} (equal : x ++ a = y ++ b)
    (inX : ∀ c ∈ x, p c = true) (inY : ∀ c ∈ y, p c = true) (outA : HeadNot p a)
    (outB : HeadNot p b) : x = y ∧ a = b := by
  have same : x = y := by
    rw [← takeWhile_of_cut inX outA, equal, takeWhile_of_cut inY outB]
  subst same
  exact ⟨rfl, List.append_cancel_left equal⟩

/-- The same, from the end of the text. -/
theorem cut_unique_last {p : Char → Bool} {x y a b : Text} (equal : a ++ x = b ++ y)
    (inX : ∀ c ∈ x, p c = true) (inY : ∀ c ∈ y, p c = true) (outA : LastNot p a)
    (outB : LastNot p b) : a = b ∧ x = y := by
  have reversed : x.reverse ++ a.reverse = y.reverse ++ b.reverse := by
    rw [← List.reverse_append, ← List.reverse_append, equal]
  have parts := cut_unique (p := p) reversed (fun c h => inX c (List.mem_reverse.mp h))
    (fun c h => inY c (List.mem_reverse.mp h)) (fun c h => outA c (by simpa using h))
    (fun c h => outB c (by simpa using h))
  exact ⟨List.reverse_inj.mp parts.2, List.reverse_inj.mp parts.1⟩

/-- What stands in front of a mark is determined by the number of marks in it. -/
theorem cut_at_count {α : Type} [DecidableEq α] {mark : α} {x y a b : List α}
    (equal : x ++ mark :: a = y ++ mark :: b) (count : x.count mark = y.count mark) :
    x = y ∧ a = b := by
  rcases List.append_eq_append_iff.mp equal with ⟨c, rfl, behind⟩ | ⟨c, rfl, behind⟩
  · cases c with
    | nil => exact ⟨(List.append_nil x).symm, (List.cons.inj behind).2⟩
    | cons d c =>
      obtain ⟨rfl, -⟩ := List.cons.inj behind
      rw [List.count_append, List.count_cons_self] at count
      omega
  · cases c with
    | nil => exact ⟨List.append_nil y, (List.cons.inj behind).2.symm⟩
    | cons d c =>
      obtain ⟨rfl, -⟩ := List.cons.inj behind
      rw [List.count_append, List.count_cons_self] at count
      omega

/-- What stands in front of the first mark is determined. -/
theorem cut_at_mark {α : Type} {mark : α} {x y a b : List α}
    (equal : x ++ mark :: a = y ++ mark :: b) (inX : mark ∉ x) (inY : mark ∉ y) :
    x = y ∧ a = b := by
  classical
  exact cut_at_count equal
    ((List.count_eq_zero_of_not_mem inX).trans (List.count_eq_zero_of_not_mem inY).symm)

/-- A mark behind a text without marks is the first one of any text that goes on like that. -/
theorem cut_cases {mark : Char} {x y a b : Text} (equal : y ++ mark :: b = x ++ mark :: a)
    (inX : mark ∉ x) :
    (y = x ∧ b = a) ∨ ∃ more, y = x ++ mark :: more ∧ more ++ mark :: b = a := by
  rcases List.append_eq_append_iff.mp equal with ⟨c, rfl, behind⟩ | ⟨c, rfl, behind⟩
  · cases c with
    | nil =>
      rw [List.append_nil]
      exact Or.inl ⟨rfl, (List.cons.inj behind).2⟩
    | cons d c =>
      obtain ⟨rfl, -⟩ := List.cons.inj behind
      exact absurd (List.mem_append_right y List.mem_cons_self) inX
  · cases c with
    | nil =>
      rw [List.append_nil]
      exact Or.inl ⟨rfl, (List.cons.inj behind).2.symm⟩
    | cons d c =>
      obtain ⟨rfl, rest⟩ := List.cons.inj behind
      exact Or.inr ⟨c, rfl, rest.symm⟩

/-- Marks lie in front of a text without marks. -/
theorem mark_in_front {mark : Char} {x y a b : Text} (equal : a ++ mark :: b = x ++ y)
    (notBehind : mark ∉ y) : ∃ c, x = a ++ mark :: c ∧ c ++ y = b := by
  rcases List.append_eq_append_iff.mp equal with ⟨c, rfl, behind⟩ | ⟨c, rfl, rfl⟩
  · cases c with
    | nil =>
      rw [List.nil_append] at behind
      exact absurd (behind ▸ List.mem_cons_self) notBehind
    | cons d c =>
      obtain ⟨rfl, rest⟩ := List.cons.inj behind
      exact ⟨c, rfl, rest.symm⟩
  · exact absurd (List.mem_append_right c List.mem_cons_self) notBehind

/-! ## Ends -/

theorem lastNot_append {p : Char → Bool} {u : Text} (t : Text) (some : u ≠ []) :
    LastNot p (t ++ u) ↔ LastNot p u := by
  have last : (t ++ u).getLast? = u.getLast? := by
    rw [List.getLast?_append]
    cases ends : u.getLast? with
    | none => exact absurd (List.getLast?_eq_none_iff.mp ends) some
    | some c => rfl
  rw [LastNot, last, LastNot]

theorem lastNot_concat {p : Char → Bool} {c : Char} (h : p c = false) (t : Text) :
    LastNot p (t ++ [c]) := by
  simpa [LastNot] using h

theorem lastNot_of_forall {p : Char → Bool} {t : Text} (h : ∀ c ∈ t, p c = false) : LastNot p t :=
  fun c last => h c (List.mem_of_getLast? last)

theorem not_forall_of_lastNot {p : Char → Bool} {t : Text} (ends : LastNot p t) (some : t ≠ []) :
    ¬ ∀ c ∈ t, p c = true := by
  intro inside
  have last := ends _ (List.getLast?_eq_some_getLast some)
  rw [inside _ (List.getLast_mem some)] at last
  cases last

theorem trimEnd_of_lastNot {p : Char → Bool} {t : Text} (ends : LastNot p t) : trimEnd p t = t := by
  have start : HeadNot p t.reverse := fun c h => ends c (by simpa using h)
  rw [trimEnd, dropWhile_of_headNot start, List.reverse_reverse]

theorem lastNot_trimEnd (p : Char → Bool) (t : Text) : LastNot p (trimEnd p t) := by
  intro c last
  rw [trimEnd, List.getLast?_reverse] at last
  exact headNot_dropWhile p t.reverse c last

/-- What stands in front of a character that stays, stays too. -/
theorem trimEnd_append {p : Char → Bool} {c : Char} (stays : p c = false) (t u : Text) :
    trimEnd p (t ++ c :: u) = t ++ c :: trimEnd p u := by
  have front : HeadNot p (c :: t.reverse) := headNot_cons.mpr stays
  have reversed : (t ++ c :: u).reverse = u.reverse ++ c :: t.reverse := by simp
  rw [trimEnd, reversed, List.dropWhile_append, trimEnd]
  split
  next none =>
    rw [List.isEmpty_iff.mp none, dropWhile_of_headNot front]
    simp
  next => simp

theorem strip_eq_self {t : Text} (starts : HeadNot isBlank t) (ends : LastNot isBlank t) :
    strip t = t := by
  rw [strip, dropBlanks, dropWhile_of_headNot starts, trimEnd_of_lastNot ends]

theorem strip_subset {t : Text} : ∀ c ∈ strip t, c ∈ t := by
  intro c member
  have kept := (List.dropWhile_sublist isBlank).subset (List.mem_reverse.mp member)
  exact (List.dropWhile_sublist isBlank).subset (List.mem_reverse.mp kept)

theorem headNot_strip (t : Text) : HeadNot isBlank (strip t) := by
  have start := headNot_dropWhile isBlank t
  rw [strip, dropBlanks]
  cases rest : t.dropWhile isBlank with
  | nil => simp [trimEnd, HeadNot]
  | cons c behind =>
    rw [rest, headNot_cons] at start
    have kept := trimEnd_append start [] behind
    rw [List.nil_append, List.nil_append] at kept
    rw [kept]
    exact headNot_cons.mpr start

theorem lastNot_strip (t : Text) : LastNot isBlank (strip t) :=
  lastNot_trimEnd isBlank (dropBlanks t)

/-! ## Blanks -/

theorem dropBlanks_append {ws : Text} (blank : AllBlank ws) (t : Text) :
    dropBlanks (ws ++ t) = dropBlanks t :=
  List.dropWhile_append_of_pos blank

theorem dropBlanks_of_headNot {t : Text} (start : HeadNot isBlank t) : dropBlanks t = t :=
  dropWhile_of_headNot start

theorem dropBlanks_cut (t : Text) :
    ∃ ws, AllBlank ws ∧ t = ws ++ dropBlanks t ∧ HeadNot isBlank (dropBlanks t) :=
  ⟨t.takeWhile isBlank, List.all_eq_true.mp List.all_takeWhile,
    List.takeWhile_append_dropWhile.symm, headNot_dropWhile isBlank t⟩

theorem trimEnd_cut (p : Char → Bool) (t : Text) :
    ∃ trail, (∀ c ∈ trail, p c = true) ∧ t = trimEnd p t ++ trail := by
  refine ⟨(t.reverse.takeWhile p).reverse, ?_, ?_⟩
  · intro c member
    exact List.all_eq_true.mp List.all_takeWhile c (List.mem_reverse.mp member)
  · rw [trimEnd, ← List.reverse_append, List.takeWhile_append_dropWhile, List.reverse_reverse]

/-- The longest run of the class at the end of the text, and what stands in front of it. -/
theorem exists_last_run (p : Char → Bool) (t : Text) :
    ∃ front run, t = front ++ run ∧ LastNot p front ∧ ∀ c ∈ run, p c = true := by
  obtain ⟨run, inRun, whole⟩ := trimEnd_cut p t
  exact ⟨trimEnd p t, run, whole, lastNot_trimEnd p t, inRun⟩

theorem strip_cut (t : Text) :
    ∃ lead trail, AllBlank lead ∧ AllBlank trail ∧ t = lead ++ (strip t ++ trail) := by
  obtain ⟨lead, blank, whole, -⟩ := dropBlanks_cut t
  obtain ⟨trail, blank', whole'⟩ := trimEnd_cut isBlank (dropBlanks t)
  refine ⟨lead, trail, blank, blank', ?_⟩
  rw [strip, ← whole', ← whole]

/-- Only blanks are lost at the ends. -/
theorem count_strip {c : Char} (visible : isBlank c = false) (t : Text) :
    (strip t).count c = t.count c := by
  obtain ⟨lead, trail, blank, blank', whole⟩ := strip_cut t
  have none {u : Text} (blanks : AllBlank u) : u.count c = 0 :=
    List.count_eq_zero_of_not_mem (blanks.not_mem visible)
  symm
  calc t.count c = (lead ++ (strip t ++ trail)).count c := congrArg (List.count c) whole
    _ = (strip t).count c := by simp [none blank, none blank']

theorem mem_strip {c : Char} (visible : isBlank c = false) (t : Text) : c ∈ strip t ↔ c ∈ t := by
  rw [← List.count_pos_iff, ← List.count_pos_iff, count_strip visible]

theorem strip_strip (t : Text) : strip (strip t) = strip t :=
  strip_eq_self (headNot_strip t) (lastNot_strip t)

theorem afterBlanks?_eq_some_iff {t u : Text} :
    afterBlanks? t = some u ↔
      ∃ ws, ws ≠ [] ∧ AllBlank ws ∧ t = ws ++ u ∧ HeadNot isBlank u := by
  constructor
  · intro found
    cases t with
    | nil => cases found
    | cons c t =>
      rw [afterBlanks?] at found
      split at found
      next blank =>
        cases found
        obtain ⟨ws, blanks, whole, start⟩ := dropBlanks_cut t
        exact ⟨c :: ws, List.cons_ne_nil c ws, allBlank_cons.mpr ⟨blank, blanks⟩,
          by rw [List.cons_append, ← whole], start⟩
      next => cases found
  · intro given
    obtain ⟨ws, some, blank, rfl, start⟩ := given
    cases ws with
    | nil => exact absurd rfl some
    | cons c ws =>
      obtain ⟨first, rest⟩ := allBlank_cons.mp blank
      rw [List.cons_append, afterBlanks?, if_pos first, dropBlanks_append rest,
        dropBlanks_of_headNot start]

/-! ## Beginnings -/

theorem isPrefixOf?_append (start rest : Text) : start.isPrefixOf? (start ++ rest) = some rest :=
  List.isPrefixOf?_eq_some_iff_append_eq.mpr rfl

/-! ## Pieces -/

theorem length_splitOnP (separates : Char → Bool) (t : Text) :
    (t.splitOnP separates).length = t.countP separates + 1 := by
  induction t with
  | nil => rfl
  | cons c t ih =>
    rw [List.splitOnP_cons_eq_if_modifyHead, List.countP_cons]
    split
    next => rw [List.length_cons, ih]
    next => rw [List.length_modifyHead, ih, Nat.add_zero]

theorem not_separates_of_mem_splitOnP {separates : Char → Bool} {t : Text} :
    ∀ piece ∈ t.splitOnP separates, ∀ c ∈ piece, separates c = false := by
  induction t with
  | nil => simp
  | cons c t ih =>
    rw [List.splitOnP_cons_eq_if_modifyHead]
    split
    next => simpa using ih
    next stays =>
      obtain ⟨piece, others, whole⟩ := List.exists_cons_of_ne_nil (List.splitOnP_ne_nil separates t)
      rw [whole] at ih ⊢
      simpa [stays] using ih

/-- The texts which a mark stands between. A text without the mark is its own only piece. -/
structure Pieces (mark : Char) (t : Text) (pieces : List Text) : Prop where
  nonempty : pieces ≠ []
  noMark : ∀ piece ∈ pieces, mark ∉ piece
  joined : List.intercalate [mark] pieces = t

theorem pieces_iff {mark : Char} {t : Text} {pieces : List Text} :
    Pieces mark t pieces ↔ pieces = t.splitOn mark := by
  constructor
  · rintro ⟨nonempty, noMark, rfl⟩
    exact (List.splitOn_intercalate mark noMark nonempty).symm
  · rintro rfl
    refine ⟨List.splitOn_ne_nil mark t, fun piece member inPiece => ?_,
      List.intercalate_splitOn mark⟩
    have apart := not_separates_of_mem_splitOnP piece member mark inPiece
    rw [beq_self_eq_true] at apart
    cases apart

theorem afterLast_of_cut {mark : Char} {front rest : Text} (ends : LastNot (· != mark) front)
    (inRest : mark ∉ rest) : afterLast mark (front ++ rest) = rest := by
  have inside : ∀ c ∈ rest.reverse, (c != mark) = true := by
    intro c member
    exact bne_iff_ne.mpr fun same => inRest (same ▸ List.mem_reverse.mp member)
  have start : HeadNot (· != mark) front.reverse := fun c first => ends c (by simpa using first)
  rw [afterLast, List.reverse_append, takeWhile_of_cut inside start, List.reverse_reverse]

theorem mem_intercalate {c : Char} {mark : Text} {parts : List Text}
    (member : c ∈ List.intercalate mark parts) : c ∈ mark ∨ ∃ part ∈ parts, c ∈ part := by
  induction parts with
  | nil => simp [List.intercalate] at member
  | cons part parts ih =>
    cases parts with
    | nil => exact Or.inr ⟨part, List.mem_cons_self, by simpa [List.intercalate] using member⟩
    | cons other parts =>
      rw [List.intercalate_cons_cons, List.mem_append, List.mem_append] at member
      rcases member with (inFirst | inMark) | later
      · exact Or.inr ⟨part, List.mem_cons_self, inFirst⟩
      · exact Or.inl inMark
      · exact (ih later).imp_right fun ⟨found, inParts, inPart⟩ =>
          ⟨found, List.mem_cons_of_mem part inParts, inPart⟩

/-! ## Words -/

theorem words_append_mark {c : Char} (blank : isBlank c = true) (front rest : Text) :
    words (front ++ c :: rest) = words front ++ words rest := by
  rw [words, List.splitOnP_append_cons _ _ blank, List.filter_append]
  rfl

theorem words_of_allBlank {ws : Text} (blank : AllBlank ws) : words ws = [] := by
  induction ws with
  | nil => rfl
  | cons c ws ih =>
    obtain ⟨here, later⟩ := allBlank_cons.mp blank
    exact (words_append_mark here [] ws).trans (ih later)

theorem words_append_blanks {ws : Text} (blank : AllBlank ws) (t : Text) :
    words (t ++ ws) = words t := by
  cases ws with
  | nil => rw [List.append_nil]
  | cons c ws =>
    obtain ⟨here, later⟩ := allBlank_cons.mp blank
    rw [words_append_mark here, words_of_allBlank later, List.append_nil]

/-- A word behind a blank, or at the beginning, with nothing but blanks behind it. -/
theorem getLast?_words {front word ws : Text} (ends : LastNot (!isBlank ·) front)
    (nonempty : word ≠ []) (visible : Visible word) (blank : AllBlank ws) :
    (words (front ++ (word ++ ws))).getLast? = some word := by
  have alone : words word = [word] := by simp [words, List.splitOnP_eq_singleton visible, nonempty]
  rcases front.eq_nil_or_concat with rfl | ⟨front, c, rfl⟩
  · rw [List.nil_append, words_append_blanks blank, alone]
    rfl
  · have isMark : isBlank c = true := by simpa using ends c (by simp)
    rw [List.concat_eq_append, List.append_assoc, List.singleton_append, words_append_mark isMark,
      words_append_blanks blank, alone, List.getLast?_append]
    rfl

/-! ## Lines -/

theorem boundaryLines_cons (c : Char) (t : Text) :
    boundaryLines (c :: t) =
      if endsBoundaryLine c t then [c] :: boundaryLines t else consFirst c (boundaryLines t) := by
  rw [boundaryLines, cut, foldRest_cons]
  rfl

theorem boundaryLines_cons_inLine {c : Char} (inLine : isLineBoundary c = false) (t : Text) :
    boundaryLines (c :: t) = consFirst c (boundaryLines t) := by
  rw [boundaryLines_cons, endsBoundaryLine, inLine]
  rfl

/-- The first line of a text holds all that stands in front of the first boundary. -/
theorem exists_boundaryLines {front : Text} (oneLine : OneLine front) {c : Char}
    (stays : isLineBoundary c = false) (rest : Text) :
    ∃ first others, boundaryLines (front ++ c :: rest) = (front ++ c :: first) :: others := by
  induction front with
  | nil =>
    rw [List.nil_append, boundaryLines_cons_inLine stays]
    cases boundaryLines rest with
    | nil => exact ⟨[], [], rfl⟩
    | cons first others => exact ⟨first, others, rfl⟩
  | cons d front ih =>
    obtain ⟨here, later⟩ := List.forall_mem_cons.mp oneLine
    obtain ⟨first, others, whole⟩ := ih later
    rw [List.cons_append, boundaryLines_cons_inLine here, whole]
    exact ⟨first, others, rfl⟩

theorem splitOn_lines {lines : List Text} (inside : ∀ line ∈ lines, '\n' ∉ line) :
    (lines.flatMap (· ++ ['\n'])).splitOn '\n' = lines ++ [[]] := by
  induction lines with
  | nil => rfl
  | cons line lines ih =>
    obtain ⟨here, later⟩ := List.forall_mem_cons.mp inside
    rw [List.flatMap_cons, ← List.append_cons, List.splitOn_append_cons_self_of_not_mem here,
      ih later, List.cons_append]

theorem boundaryLines_of_oneLine {t : Text} (oneLine : OneLine t)
    (some : t ≠ []) : boundaryLines t = [t] := by
  induction t with
  | nil => exact absurd rfl some
  | cons c t ih =>
    obtain ⟨first, rest⟩ := List.forall_mem_cons.mp oneLine
    rw [boundaryLines_cons_inLine first]
    cases t with
    | nil => rfl
    | cons d t =>
      rw [ih rest (List.cons_ne_nil d t)]
      rfl

/-- The lines of a text can be told from the text, as long as none has a line feed of its own. -/
theorem lines_injective {left right : List Text} (inLeft : ∀ line ∈ left, '\n' ∉ line)
    (inRight : ∀ line ∈ right, '\n' ∉ line)
    (equal : left.flatMap (· ++ ['\n']) = right.flatMap (· ++ ['\n'])) : left = right := by
  induction left generalizing right with
  | nil =>
    cases right with
    | nil => rfl
    | cons line right => simp at equal
  | cons line left ih =>
    cases right with
    | nil => simp at equal
    | cons other right =>
      obtain ⟨here, later⟩ := List.forall_mem_cons.mp inLeft
      obtain ⟨here', later'⟩ := List.forall_mem_cons.mp inRight
      rw [List.flatMap_cons, List.flatMap_cons, ← List.append_cons, ← List.append_cons] at equal
      obtain ⟨rfl, rest⟩ := cut_at_mark equal here here'
      rw [ih later later' rest]

end GLDispatch.Text
