import GLDispatch.Proofs.Grammar
import GLDispatch.Proofs.Regions

/-! # Lines which open regions

A directive opens a region wherever it stands in a line, but a conditional counts only where it
begins the line. What stands in front of the leftmost opening directive decides whether a line that
opens a region outside of all regions is one more nested conditional inside of them: either nothing,
or a text that begins with a conditional. Behind a blank or the mark of a comment the directive still
opens a region, and inside a region it is not counted. The guard is read at the leftmost place where
the directive stands in front of one of the stems, and reaches as far as a word can. -/
namespace GLDispatch
open Text

namespace Directive

/-- The leftmost directive of the line which opens a region is that of the guard, behind `before`. -/
structure OpensBehind (before line guard : Text) : Prop where
  opens : ∃ t, line = before ++ t ∧ OpensHere guard t
  leftmost : ∀ front t other, line = front ++ t → OpensHere other t → before.length ≤ front.length

/-- The text begins with a conditional. -/
def Conditional (t : Text) : Prop :=
  "#if".toList <+: t

/-- A line opens a region wherever a directive for that stands in it, and the leftmost one counts. -/
theorem opening?_eq_some_iff {line guard : Text} :
    opening? line = some guard ↔ ∃ before, OpensBehind before line guard := by
  constructor
  · intro found
    obtain ⟨before, t, whole, here, leftmost⟩ := leftmost_of_search? found
    exact ⟨before, ⟨t, whole, openingAt?_eq_some_iff.mp here⟩,
      fun front u other parts opens => leftmost front u parts (exists_openingAt?.mpr ⟨other, opens⟩)⟩
  · intro given
    obtain ⟨before, ⟨t, whole, here⟩, leftmost⟩ := given
    have opens := exists_openingAt?.mpr ⟨guard, here⟩
    obtain ⟨other, found⟩ :=
      Option.isSome_iff_exists.mp (isSome_search?.mpr ⟨before, t, whole, opens⟩)
    obtain ⟨front, u, parts, there, first⟩ := leftmost_of_search? found
    -- Neither of the two directives stands in front of the other.
    have length : before.length = front.length :=
      Nat.le_antisymm (leftmost front u other parts (openingAt?_eq_some_iff.mp there))
        (first before t whole opens)
    have same : t = u := (List.append_inj (whole.symm.trans parts) length).2
    rw [opening?, found, ← there, ← same, openingAt?_eq_some_iff.mpr here]

theorem opensConditional_iff {line : Text} : opensConditional line = true ↔ Conditional line := by
  exact List.isPrefixOf_iff_prefix

theorem OpensHere.conditional {guard t : Text} (h : OpensHere guard t) : Conditional t := by
  obtain ⟨-, ws, behind, -, -, -, rfl⟩ := h
  exact ⟨"ndef".toList ++ (ws ++ (guard ++ behind)), rfl⟩

/-- A directive in a line does not make the line a conditional, unless it stands at its beginning. -/
theorem OpensBehind.conditional_iff {before line guard : Text} (h : OpensBehind before line guard) :
    Conditional line ↔ before = [] ∨ Conditional before := by
  obtain ⟨⟨t, rfl, here⟩, -⟩ := h
  constructor
  · intro begins
    obtain ⟨rest, rfl⟩ := here.conditional
    obtain ⟨more, whole⟩ := begins
    rcases List.append_eq_append_iff.mp whole with ⟨c, longer, -⟩ | ⟨c, shorter, behind⟩
    · exact Or.inr ⟨c, longer.symm⟩
    · cases c with
      | nil =>
        rw [List.append_nil] at shorter
        exact Or.inr ⟨[], by rw [shorter, List.append_nil]⟩
      | cons d c =>
        -- The conditional ends in the directive, but has only one mark, at its beginning.
        obtain rfl : '#' = d := (List.cons.inj behind).1
        have marks : before ++ '#' :: c = [] ++ '#' :: "if".toList := shorter.symm
        rcases cut_cases marks List.not_mem_nil with ⟨first, -⟩ | ⟨more, -, second⟩
        · exact Or.inl first
        · have mark : '#' ∈ "if".toList := second ▸ List.mem_append_right more List.mem_cons_self
          exact absurd mark (by decide)
  · rintro (rfl | ⟨more, rfl⟩)
    · exact here.conditional
    · exact ⟨more ++ t, by rw [List.append_assoc]⟩

/-! ## The guard of the leftmost mention -/

/-- Behind `before` the line has a directive, blanks and one of the stems, and goes on with `rest`. -/
def Mentions (line before stem rest : Text) : Prop :=
  stem ∈ ["GL_VER".toList, "GL_ARB".toList] ∧ ∃ ws, ws ≠ [] ∧ AllBlank ws ∧
    line = before ++ ("#ifndef".toList ++ (ws ++ (stem ++ rest)))

structure MentionsFirst (line before stem rest : Text) : Prop where
  here : Mentions line before stem rest
  first : ∀ before' stem' rest', Mentions line before' stem' rest' → before.length ≤ before'.length

/-- The longest run of word characters with which the text begins. -/
structure LongestWord (word t : Text) : Prop where
  allWord : AllWord word
  begins : word <+: t
  longest : ∀ other, AllWord other → other <+: t → other.length ≤ word.length

theorem longestWord_takeWhile (t : Text) : LongestWord (t.takeWhile isWord) t where
  allWord := List.all_eq_true.mp List.all_takeWhile
  begins := List.takeWhile_prefix isWord
  longest := by
    rintro other word ⟨rest, rfl⟩
    rw [List.takeWhile_append_of_pos word, List.length_append]
    omega

theorem LongestWord.unique {word other t : Text} (h : LongestWord word t)
    (h' : LongestWord other t) : word = other := by
  have length : word.length = other.length :=
    Nat.le_antisymm (h'.longest word h.allWord h.begins) (h.longest other h'.allWord h'.begins)
  exact (List.prefix_of_prefix_length_le h.begins h'.begins (Nat.le_of_eq length)).eq_of_length length

/-- Whatever stands behind the stem, a mention opens a region of some guard. -/
theorem Mentions.opensHere {line before stem rest : Text} (h : Mentions line before stem rest) :
    ∃ t, line = before ++ t ∧ OpensHere (stem ++ rest.takeWhile isWord) t := by
  obtain ⟨known, ws, some, blank, rfl⟩ := h
  have word := (longestWord_takeWhile rest).allWord
  refine ⟨_, rfl, ⟨stem, known, _, word, rfl⟩, ws, rest.dropWhile isWord, some, blank,
    headNot_dropWhile isWord rest, ?_⟩
  rw [List.append_assoc, List.takeWhile_append_dropWhile]

theorem opens_iff_mentions {line : Text} :
    Opens line ↔ ∃ before stem rest, Mentions line before stem rest := by
  constructor
  · rintro ⟨before, ws, stem, rest, some, blank, known, rfl⟩
    exact ⟨before, stem, rest, known, ws, some, blank, by simp⟩
  · rintro ⟨before, stem, rest, known, ws, some, blank, rfl⟩
    exact ⟨before, ws, stem, rest, some, blank, known, by simp⟩

theorem OpensHere.mentions {guard t : Text} (h : OpensHere guard t) (before : Text) :
    ∃ stem rest, Mentions (before ++ t) before stem rest := by
  obtain ⟨⟨stem, known, tail, -, rfl⟩, ws, behind, some, blank, -, rfl⟩ := h
  exact ⟨stem, tail ++ behind, known, ws, some, blank, by rw [List.append_assoc stem]⟩

theorem MentionsFirst.opensBehind {line before stem rest : Text}
    (h : MentionsFirst line before stem rest) :
    OpensBehind before line (stem ++ rest.takeWhile isWord) where
  opens := h.here.opensHere
  leftmost := by
    rintro front t other rfl opens
    obtain ⟨stem', rest', there⟩ := opens.mentions front
    exact h.first front stem' rest' there

/-- A line without a mention opens no region. Otherwise the leftmost mention counts, whatever stands
around it, and the guard is its stem with all the word characters behind it. -/
theorem opening?_leftmost_mention (line : Text) :
    (opening? line = none ↔ ∀ before stem rest, ¬ Mentions line before stem rest) ∧
      ∀ before stem rest, MentionsFirst line before stem rest →
        ∃ word, LongestWord word rest ∧ opening? line = some (stem ++ word) := by
  refine ⟨?_, fun before stem rest first => ?_⟩
  · rw [← Option.not_isSome_iff_eq_none, isSome_opening?, opens_iff_mentions]
    simp only [not_exists]
  · exact ⟨rest.takeWhile isWord, longestWord_takeWhile rest,
      opening?_eq_some_iff.mpr ⟨before, first.opensBehind⟩⟩

/-- A directive for another macro in front, and one for another guard behind. -/
theorem opening?_leftmost_mention_second :
    let before := "#ifndef GL_EXT_x ".toList
    let rest := "_sync\u00b2-y #ifndef GL_VERSION_1_0".toList
    let line := before ++ ("#ifndef \t".toList ++ ("GL_ARB".toList ++ rest))
    MentionsFirst line before "GL_ARB".toList rest ∧ LongestWord "_sync\u00b2".toList rest ∧
      opening? line = some "GL_ARB_sync\u00b2".toList := by
  intro before rest line
  have here : Mentions line before "GL_ARB".toList rest :=
    ⟨by decide, " \t".toList, by decide, by decide, rfl⟩
  have nothing : ∀ i < before.length, openingAt? (line.drop i) = none := by decide +kernel
  have first : MentionsFirst line before "GL_ARB".toList rest := by
    refine ⟨here, fun before' stem' rest' there => Nat.le_of_not_lt fun shorter => ?_⟩
    obtain ⟨t, whole, opens⟩ := there.opensHere
    have behind : line.drop before'.length = t := by rw [whole, List.drop_left]
    have refused := nothing before'.length shorter
    rw [behind, openingAt?_eq_some_iff.mpr opens] at refused
    cases refused
  have longest : LongestWord "_sync\u00b2".toList rest := by
    have run : "_sync\u00b2".toList = rest.takeWhile isWord := by decide +kernel
    rw [run]
    exact longestWord_takeWhile rest
  obtain ⟨word, longest', found⟩ := (opening?_leftmost_mention line).2 _ _ _ first
  rw [longest'.unique longest] at found
  exact ⟨first, longest, found⟩

end Directive

namespace Scanner

theorem nesting_record (s : Scanner) (line : Text) : (s.record line).nesting = s.nesting := by
  rw [record]
  split
  next => rfl
  next => split <;> rfl

/-- Inside a region, what begins with a conditional is counted, and nothing else. -/
theorem nesting_read_iff {s : Scanner} {guard : Text} (inside : s.region = some guard)
    (line : Text) :
    (s.read line).1.nesting = s.nesting + 1 ↔ Directive.opensConditional line = true := by
  cases opens : Directive.opensConditional line with
  | true => simp [read_opening inside opens]
  | false =>
    cases closes : Directive.closesConditional line with
    | true =>
      rw [read_closing inside opens closes]
      split
      next => simp [leave]
      next => simp only [Bool.false_eq_true, iff_false]; omega
    | false => simp [read_contents inside opens closes, nesting_record]

/-- Exactly the lines in which an opening directive stands somewhere open a region. Such a line is a
conditional, and counted inside a region, if and only if nothing stands in front of the directive or
the line begins with a conditional. -/
theorem read_opening_line (line guard : Text) :
    (Directive.opening? line = some guard ↔ ∃ before, Directive.OpensBehind before line guard) ∧
      ∀ before, Directive.OpensBehind before line guard →
        (Directive.opensConditional line = true ↔ before = [] ∨ Directive.Conditional before) ∧
        ∀ s : Scanner, (s.region = none → s.read line = s.enter guard) ∧
          (s.region ≠ none → ((s.read line).1.nesting = s.nesting + 1 ↔
            before = [] ∨ Directive.Conditional before)) := by
  refine ⟨Directive.opening?_eq_some_iff, fun before opens => ?_⟩
  have conditional := Directive.opensConditional_iff.trans opens.conditional_iff
  refine ⟨conditional, fun s => ⟨fun outside => ?_, fun inside => ?_⟩⟩
  · have found := Directive.opening?_eq_some_iff.mpr ⟨before, opens⟩
    rw [read, outside]
    simp only [found]
  · obtain ⟨region, within⟩ := Option.ne_none_iff_exists'.mp inside
    exact (nesting_read_iff within line).trans conditional

/-- A comment which mentions a directive opens a region, and is not counted inside of one. -/
theorem read_opening_line_commented :
    let line := "/* #ifndef GL_VERSION_1_0 */".toList
    let guard := "GL_VERSION_1_0".toList
    ∃ before, Directive.OpensBehind before line guard ∧
      ¬ (before = [] ∨ Directive.Conditional before) ∧
      start.read line = start.enter guard ∧
      ((start.enter guard).1.read line).1.nesting ≠ (start.enter guard).1.nesting + 1 := by
  intro line guard
  have found : Directive.opening? line = some guard := by decide +kernel
  have unconditional : Directive.opensConditional line ≠ true := by decide +kernel
  obtain ⟨before, opens⟩ := (read_opening_line line guard).1.mp found
  obtain ⟨conditional, reading⟩ := (read_opening_line line guard).2 before opens
  have mentioned := fun given => unconditional (conditional.mpr given)
  exact ⟨before, opens, mentioned, (reading start).1 rfl,
    fun counted => mentioned (((reading _).2 (Option.some_ne_none guard)).mp counted)⟩

/-- Behind the mark of a comment or a blank, a directive opens a region without being a
conditional. -/
theorem opening_without_conditional :
    let comment := "/* #ifndef GL_VERSION_1_0 */".toList
    let indented := "  #ifndef GL_VERSION_1_0".toList
    Directive.opening? comment = some "GL_VERSION_1_0".toList ∧
      Directive.opensConditional comment = false ∧
      Directive.opening? indented = some "GL_VERSION_1_0".toList ∧
      Directive.opensConditional indented = false := by
  decide +kernel

end Scanner
end GLDispatch
