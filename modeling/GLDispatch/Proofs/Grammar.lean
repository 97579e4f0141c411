import GLDispatch.Header.Directive
import GLDispatch.Header.Entry
import GLDispatch.Proofs.Extent

/-! # The grammar of lines

The forms of the lines which are recognized, as decompositions of the line. A reader that goes for
the shortest or the longest part accepts a line as soon as there is any decomposition, so what it
accepts is described without its order of search. -/
namespace GLDispatch
open Text

/-! ## Guards -/

/-- A stem of guards with word characters behind it. -/
def GuardText (guard : Text) : Prop :=
  ∃ stem ∈ Directive.guardStems, ∃ tail, AllWord tail ∧ guard = stem ++ tail

theorem GuardText.allWord {guard : Text} (h : GuardText guard) : AllWord guard := by
  obtain ⟨stem, member, tail, word, rfl⟩ := h
  have stems : Directive.guardStems.all (·.all isWord) = true := by decide
  exact AllWord.append (List.all_eq_true.mp (List.all_eq_true.mp stems stem member)) word

namespace Directive

/-- The text begins with a directive which opens a region of the guard. -/
def OpensHere (guard t : Text) : Prop :=
  GuardText guard ∧ ∃ ws behind, ws ≠ [] ∧ AllBlank ws ∧ HeadNot isWord behind ∧
    t = "#ifndef".toList ++ (ws ++ (guard ++ behind))

/-- Where a text says that a region opens. -/
def Opens (line : Text) : Prop :=
  ∃ before ws stem behind, ws ≠ [] ∧ AllBlank ws ∧ stem ∈ guardStems ∧
    line = before ++ "#ifndef".toList ++ ws ++ stem ++ behind

/-- A guard reaches as far as there are word characters. -/
theorem guardAt?_eq_some_iff {guard t : Text} :
    guardAt? t = some guard ↔
      GuardText guard ∧ ∃ behind, HeadNot isWord behind ∧ t = guard ++ behind := by
  constructor
  · intro found
    obtain ⟨stem, member, found⟩ := List.exists_of_findSome?_eq_some found
    obtain ⟨rest, after, rfl⟩ := Option.map_eq_some_iff.mp found
    refine ⟨⟨stem, member, rest.takeWhile isWord, List.all_eq_true.mp List.all_takeWhile, rfl⟩,
      rest.dropWhile isWord, headNot_dropWhile isWord rest, ?_⟩
    rw [← List.append_eq_of_isPrefixOf?_eq_some after, List.append_assoc,
      List.takeWhile_append_dropWhile]
  · intro given
    obtain ⟨⟨stem, member, tail, word, rfl⟩, behind, stops, rfl⟩ := given
    have whole : (tail ++ behind).takeWhile isWord = tail := takeWhile_of_cut word stops
    simp only [guardStems, List.mem_cons, List.not_mem_nil, or_false] at member
    rcases member with rfl | rfl <;> simp [guardAt?, guardStems, List.isPrefixOf?, whole]

theorem headNot_of_guardText {guard : Text} (isGuard : GuardText guard) (t : Text) :
    HeadNot isBlank (guard ++ t) := by
  obtain ⟨stem, member, tail, -, rfl⟩ := isGuard
  simp only [guardStems, List.mem_cons, List.not_mem_nil, or_false] at member
  rcases member with rfl | rfl <;> exact headNot_cons.mpr (by decide)

theorem openingAt?_eq_some_iff {guard t : Text} :
    openingAt? t = some guard ↔ OpensHere guard t := by
  constructor
  · intro found
    obtain ⟨u, found, guarded⟩ := Option.bind_eq_some_iff.mp found
    obtain ⟨rest, after, blanks⟩ := Option.bind_eq_some_iff.mp found
    obtain ⟨ws, some, blank, rfl, -⟩ := afterBlanks?_eq_some_iff.mp blanks
    obtain ⟨isGuard, behind, stops, rfl⟩ := guardAt?_eq_some_iff.mp guarded
    exact ⟨isGuard, ws, behind, some, blank, stops,
      (List.append_eq_of_isPrefixOf?_eq_some after).symm⟩
  · intro given
    obtain ⟨isGuard, ws, behind, some, blank, stops, rfl⟩ := given
    have blanks : afterBlanks? (ws ++ (guard ++ behind)) = Option.some (guard ++ behind) :=
      afterBlanks?_eq_some_iff.mpr ⟨ws, some, blank, rfl, headNot_of_guardText isGuard behind⟩
    have guarded : guardAt? (guard ++ behind) = Option.some guard :=
      guardAt?_eq_some_iff.mpr ⟨isGuard, behind, stops, rfl⟩
    rw [openingAt?, isPrefixOf?_append, Option.bind_some, blanks, Option.bind_some, guarded]

theorem exists_openingAt? {t : Text} : (openingAt? t).isSome ↔ ∃ guard, OpensHere guard t := by
  rw [Option.isSome_iff_exists]
  exact exists_congr fun _ => openingAt?_eq_some_iff

theorem isSome_opening? {line : Text} : (opening? line).isSome ↔ Opens line := by
  rw [opening?, isSome_search?]
  constructor
  · intro given
    obtain ⟨before, t, rfl, found⟩ := given
    obtain ⟨guard, ⟨stem, member, tail, -, rfl⟩, ws, behind, some, blank, -, rfl⟩ :=
      exists_openingAt?.mp found
    exact ⟨before, ws, stem, tail ++ behind, some, blank, member, by simp⟩
  · intro given
    obtain ⟨before, ws, stem, rest, some, blank, member, rfl⟩ := given
    refine ⟨before, "#ifndef".toList ++ (ws ++ (stem ++ rest)), by simp, exists_openingAt?.mpr
      ⟨stem ++ rest.takeWhile isWord, ⟨stem, member, _, List.all_eq_true.mp List.all_takeWhile, rfl⟩,
        ws, rest.dropWhile isWord, some, blank, headNot_dropWhile isWord rest, ?_⟩⟩
    rw [List.append_assoc, List.takeWhile_append_dropWhile]

end Directive

/-! ## Extension notes -/

namespace ExtensionNote

/-- Where a line begins with a note that names an extension. -/
def Noted (line : Text) : Prop :=
  ∃ c behind, isNameChar c = true ∧ line = "/* ARB_".toList ++ c :: behind

theorem isWord_of_isNameChar {c : Char} (h : isNameChar c = true) : isWord c = true := by
  rw [isNameChar, Bool.or_eq_true, beq_iff_eq] at h
  rcases h with alphanumeric | rfl
  · exact isWord_of_isAlphanum alphanumeric
  · decide

theorem isSome_ofLine? {line : Text} : (ofLine? line).isSome ↔ Noted line := by
  rw [ofLine?]
  constructor
  · intro found
    obtain ⟨name, found⟩ := Option.isSome_iff_exists.mp found
    obtain ⟨behind, after, named⟩ := Option.bind_eq_some_iff.mp found
    rw [← List.append_eq_of_isPrefixOf?_eq_some after]
    cases behind with
    | nil => cases named
    | cons c behind =>
      cases nameChar : isNameChar c with
      | true => exact ⟨c, behind, nameChar, rfl⟩
      | false => simp [nameChar] at named
  · intro given
    obtain ⟨c, behind, nameChar, rfl⟩ := given
    rw [isPrefixOf?_append, Option.bind_some]
    simp [nameChar]

end ExtensionNote

/-! ## Prototypes -/

/-- The names of the library's functions. -/
def EntryPointName (name : Text) : Prop :=
  ∃ tail, tail ≠ [] ∧ AllWord tail ∧ name = "gl".toList ++ tail

theorem EntryPointName.allWord {name : Text} (h : EntryPointName name) : AllWord name := by
  obtain ⟨tail, -, word, rfl⟩ := h
  exact AllWord.append (by decide) word

theorem EntryPointName.ne_nil {name : Text} (h : EntryPointName name) : name ≠ [] := by
  obtain ⟨tail, -, -, rfl⟩ := h
  simp

/-- Parameter lists end on the line where they begin. -/
def ParameterText (parameters : Text) : Prop :=
  parameters ≠ [] ∧ '\n' ∉ parameters

namespace Prototype

/-- The text begins with the name and the parameter list. -/
def Called (name parameters t : Text) : Prop :=
  EntryPointName name ∧ ParameterText parameters ∧ ∃ ws ws' behind, AllBlank ws ∧ AllBlank ws' ∧
    t = name ++ (ws ++ '(' :: (parameters ++ ')' :: (ws' ++ ';' :: behind)))

/-- What may stand between a return type that ends in `last` and the name at which `u` begins: the
calling convention as a word of its own, or blanks, which an asterisk makes dispensable. -/
inductive Gap (last : Char) : Text → Text → Prop where
  | convention {ws ws' u : Text} : AllBlank ws → (ws = [] → isWord last = false) → AllBlank ws' →
      HeadNot isWord (ws' ++ u) → HeadNot isBlank u →
      Gap last (ws ++ ("APIENTRY".toList ++ (ws' ++ u))) u
  | blanks {ws u : Text} : AllBlank ws → (ws = [] → last = '*') → HeadNot isBlank u →
      Gap last (ws ++ u) u

/-- The text begins with a return type, a name and its parameter list. -/
def Typed (t : Text) : Prop :=
  t.head?.any startsType = true ∧ ∃ front last behind u name parameters, '\n' ∉ front ++ [last] ∧
    t = front ++ last :: behind ∧ Gap last behind u ∧ Called name parameters u

/-- Where a line declares a function. -/
def Declares (line : Text) : Prop :=
  ∃ ws t, AllBlank ws ∧ line = ws ++ t ∧
    (Typed t ∨ ∃ ws' u, ws' ≠ [] ∧ AllBlank ws' ∧ t = "GLAPI".toList ++ (ws' ++ u) ∧ Typed u)

theorem Called.head? {name parameters t : Text} (h : Called name parameters t) :
    t.head? = some 'g' := by
  obtain ⟨⟨tail, -, -, rfl⟩, -, ws, ws', behind, -, -, rfl⟩ := h
  rfl

theorem closesList_iff {t : Text} :
    closesList t = true ↔ ∃ ws behind, AllBlank ws ∧ t = ')' :: (ws ++ ';' :: behind) := by
  rw [closesList]
  constructor
  · intro closed
    obtain ⟨behind, found⟩ := Option.isSome_iff_exists.mp closed
    obtain ⟨rest, after, semicolon⟩ := Option.bind_eq_some_iff.mp found
    obtain ⟨ws, blank, whole, -⟩ := dropBlanks_cut rest
    rw [← List.append_eq_of_isPrefixOf?_eq_some semicolon] at whole
    exact ⟨ws, behind, blank, by rw [← List.append_eq_of_isPrefixOf?_eq_some after, whole]; rfl⟩
  · intro given
    obtain ⟨ws, behind, blank, rfl⟩ := given
    have semicolon : dropBlanks (ws ++ ';' :: behind) = ';' :: behind := by
      rw [dropBlanks_append blank, dropBlanks_of_headNot (headNot_cons.mpr (by decide))]
    simp [List.isPrefixOf?, semicolon]

theorem called_of_nameAndParameters? {name parameters t : Text}
    (found : nameAndParameters? t = some (name, parameters)) : Called name parameters t := by
  obtain ⟨rest, after, found⟩ := Option.bind_eq_some_iff.mp found
  dsimp only at found
  split at found
  next => cases found
  next some =>
    obtain ⟨inner, opening, found⟩ := Option.bind_eq_some_iff.mp found
    obtain ⟨_, longest, same⟩ := Option.map_eq_some_iff.mp found
    cases same
    obtain ⟨closing, rfl, nonempty, oneLine, closed⟩ := longestNonempty?_eq_some longest
    obtain ⟨ws', behind, blank', rfl⟩ := closesList_iff.mp closed
    obtain ⟨ws, blank, whole, -⟩ := dropBlanks_cut (rest.dropWhile isWord)
    rw [← List.append_eq_of_isPrefixOf?_eq_some opening] at whole
    have word := List.all_eq_true.mp (List.all_takeWhile (p := isWord) (l := rest))
    refine ⟨⟨rest.takeWhile isWord, by simpa using some, word, rfl⟩, ⟨nonempty, oneLine⟩, ws, ws',
      behind, blank, blank', ?_⟩
    calc t = "gl".toList ++ rest := (List.append_eq_of_isPrefixOf?_eq_some after).symm
      _ = "gl".toList ++ (rest.takeWhile isWord ++ rest.dropWhile isWord) := by
        rw [List.takeWhile_append_dropWhile]
      _ = _ := by
        rw [whole]
        simp

theorem headNot_isWord_opening {ws : Text} (blank : AllBlank ws) (u : Text) :
    HeadNot isWord (ws ++ '(' :: u) := by
  cases ws with
  | nil => exact headNot_cons.mpr (by decide)
  | cons c ws => exact headNot_cons.mpr (not_isWord_of_isBlank (blank c List.mem_cons_self))

/-- The reader goes for the longest list behind the name, and the given one shows that there is any.
-/
theorem nameAndParameters?_called {name parameters t : Text} (h : Called name parameters t) :
    ∃ rest, closesList rest = true ∧ nameAndParameters? t =
      (longestNonempty? closesList (parameters ++ rest)).map (name, ·) := by
  obtain ⟨⟨tail, some, word, rfl⟩, -, ws, ws', behind, blank, blank', rfl⟩ := h
  have bracket := headNot_isWord_opening blank
  have opening : ∀ u : Text, dropBlanks (ws ++ '(' :: u) = '(' :: u := by
    intro u
    rw [dropBlanks_append blank, dropBlanks_of_headNot (headNot_cons.mpr (by decide))]
  refine ⟨')' :: (ws' ++ ';' :: behind), closesList_iff.mpr ⟨ws', behind, blank', rfl⟩, ?_⟩
  rw [nameAndParameters?, List.append_assoc, isPrefixOf?_append, Option.bind_some]
  simp only [takeWhile_of_cut word (bracket _), dropWhile_of_cut word (bracket _), opening]
  simp [some, List.isPrefixOf?]

theorem nameAndParameters?_isSome {name parameters t : Text} (h : Called name parameters t) :
    (nameAndParameters? t).isSome := by
  obtain ⟨rest, closed, reads⟩ := nameAndParameters?_called h
  obtain ⟨-, ⟨nonempty, oneLine⟩, -⟩ := h
  rw [reads, Option.isSome_map]
  exact isSome_longestNonempty? nonempty oneLine closed

theorem head?_any_isBlank_append {ws t : Text} (blank : AllBlank ws) (start : HeadNot isBlank t) :
    (ws ++ t).head?.any isBlank = true ↔ ws ≠ [] := by
  cases ws with
  | nil =>
    cases t with
    | nil => simp
    | cons c t => simp [headNot_cons.mp start]
  | cons c ws => simp [blank c List.mem_cons_self]

theorem headNot_iff {p : Char → Bool} {t : Text} : HeadNot p t ↔ (!t.head?.any p) = true := by
  cases t <;> simp [HeadNot]

theorem afterConvention?_eq_some {last : Char} {t u : Text} :
    afterConvention? last t = some u ↔
      ∃ ws ws', AllBlank ws ∧ (ws = [] → isWord last = false) ∧ AllBlank ws' ∧
        HeadNot isWord (ws' ++ u) ∧ HeadNot isBlank u ∧
        t = ws ++ ("APIENTRY".toList ++ (ws' ++ u)) := by
  have convention : ∀ u : Text, HeadNot isBlank ("APIENTRY".toList ++ u) :=
    fun u => headNot_cons.mpr (by decide)
  constructor
  · intro found
    obtain ⟨rest, after, found⟩ := Option.bind_eq_some_iff.mp found
    obtain ⟨ws, blank, whole, start⟩ := dropBlanks_cut t
    rw [← List.append_eq_of_isPrefixOf?_eq_some after] at whole
    subst whole
    dsimp only at found
    split at found
    next apart =>
      obtain ⟨ws', blank', rest', start'⟩ := dropBlanks_cut rest
      cases found
      rw [Bool.and_eq_true, Bool.or_eq_true, head?_any_isBlank_append blank (convention rest),
        ← headNot_iff] at apart
      refine ⟨ws, ws', blank, ?_, blank', rest' ▸ apart.2, start', by rw [← rest']⟩
      intro none
      simpa [none] using apart.1
    next => cases found
  · intro given
    obtain ⟨ws, ws', blank, apart, blank', apart', start, rfl⟩ := given
    have behind : dropBlanks (ws ++ ("APIENTRY".toList ++ (ws' ++ u))) =
        "APIENTRY".toList ++ (ws' ++ u) := by
      rw [dropBlanks_append blank, dropBlanks_of_headNot (convention _)]
    have before : ((ws ++ ("APIENTRY".toList ++ (ws' ++ u))).head?.any isBlank || !isWord last) =
        true := by
      rw [Bool.or_eq_true, head?_any_isBlank_append blank (convention _)]
      by_cases none : ws = []
      · exact Or.inr (by simp [apart none])
      · exact Or.inl none
    rw [afterConvention?, behind, isPrefixOf?_append, Option.bind_some]
    simp only [before, headNot_iff.mp apart', Bool.and_self, if_true]
    rw [dropBlanks_append blank', dropBlanks_of_headNot start]

theorem gap_of_nameStart? {last : Char} {t u : Text} (found : nameStart? last t = some u) :
    Gap last t u := by
  rw [nameStart?, Option.orElse_eq_or, Option.or_eq_some_iff] at found
  rcases found with convention | ⟨-, blanks⟩
  · obtain ⟨ws, ws', blank, apart, blank', apart', start, rfl⟩ :=
      afterConvention?_eq_some.mp convention
    exact .convention blank apart blank' apart' start
  · obtain ⟨ws, blank, whole, start⟩ := dropBlanks_cut t
    split at blanks
    next apart =>
      cases blanks
      rw [whole, Bool.or_eq_true, head?_any_isBlank_append blank start] at apart
      rw [whole, dropBlanks_append blank, dropBlanks_of_headNot start]
      refine .blanks blank ?_ start
      intro none
      simpa [none] using apart
    next => cases blanks

/-- The gap in front of a name is read in one way only: a name is no calling convention. -/
theorem nameStart?_of_gap {last : Char} {t u : Text} (gap : Gap last t u)
    (name : u.head? = some 'g') : nameStart? last t = some u := by
  cases gap with
  | @convention ws ws' _ blank apart blank' apart' start =>
    have convention :=
      afterConvention?_eq_some.mpr ⟨ws, ws', blank, apart, blank', apart', start, rfl⟩
    rw [nameStart?, convention]
    rfl
  | @blanks ws _ blank apart start =>
    have behind : dropBlanks (ws ++ u) = u := by
      rw [dropBlanks_append blank, dropBlanks_of_headNot start]
    have noConvention : afterConvention? last (ws ++ u) = none := by
      obtain ⟨rest, rfl⟩ := List.head?_eq_some_iff.mp name
      rw [afterConvention?, behind]
      rfl
    have before : ((ws ++ u).head?.any isBlank || last == '*') = true := by
      rw [Bool.or_eq_true, head?_any_isBlank_append blank start]
      by_cases none : ws = []
      · exact Or.inr (by simp [apart none])
      · exact Or.inl none
    rw [nameStart?, noConvention, Option.orElse_none]
    simp only [before, if_true, behind]

/-- The text of a gap in front of a name: it ends in a blank, unless it is empty. -/
theorem Gap.exists_text {last : Char} {t u : Text} (gap : Gap last t u)
    (name : u.head? = some 'g') :
    ∃ g, t = g ++ u ∧ (g = [] → last = '*') ∧ LastNot (!isBlank ·) g ∧
      (AllBlank g ∨
        ∃ ws ws', AllBlank ws ∧ AllBlank ws' ∧ g = ws ++ ("APIENTRY".toList ++ ws')) := by
  cases gap with
  | @convention ws ws' _ blank apart blank' apart' start =>
    have some : ws' ≠ [] := by
      rintro rfl
      have noWord := apart' 'g' name
      cases noWord
    refine ⟨ws ++ ("APIENTRY".toList ++ ws'), by simp, by simp, ?_, Or.inr ⟨ws, ws', blank, blank',
      rfl⟩⟩
    rw [lastNot_append _ (by simp), lastNot_append _ some]
    exact lastNot_of_forall fun c member => by simp [blank' c member]
  | @blanks ws _ blank apart start =>
    exact ⟨ws, rfl, apart, lastNot_of_forall fun c member => by simp [blank c member], Or.inl blank⟩

theorem isWord_of_startsType {c : Char} (h : startsType c = true) : isWord c = true := by
  rw [startsType, Bool.or_eq_true, beq_iff_eq] at h
  rcases h with letter | rfl
  · exact isWord_of_isAlphanum (by rw [Char.isAlphanum, letter, Bool.true_or])
  · decide

theorem isSome_typeAt? {t : Text} : (typeAt? t).isSome ↔ Typed t := by
  rw [typeAt?]
  constructor
  · intro found
    split at found
    next starts =>
      rw [Option.isSome_map] at found
      obtain ⟨⟨part, name, parameters⟩, found⟩ := Option.isSome_iff_exists.mp found
      obtain ⟨last, behind, rfl, ends, accepted, oneLine⟩ := shortest?_eq_some found
      obtain ⟨u, gap, called⟩ := Option.bind_eq_some_iff.mp accepted
      obtain ⟨front, rfl⟩ := List.getLast?_eq_some_iff.mp ends
      exact ⟨starts, front, last, behind, u, name, parameters, oneLine, by simp,
        gap_of_nameStart? gap, called_of_nameAndParameters? called⟩
    next => cases found
  · intro given
    obtain ⟨starts, front, last, behind, u, name, parameters, oneLine, rfl, gap, called⟩ := given
    rw [if_pos starts, Option.isSome_map]
    apply isSome_shortest? oneLine
    rw [nameStart?_of_gap gap called.head?, Option.bind_some]
    exact nameAndParameters?_isSome called

theorem headNot_of_starts {t : Text} (starts : t.head?.any startsType = true) :
    HeadNot isBlank t := by
  cases t with
  | nil => cases starts
  | cons c t => exact headNot_cons.mpr (not_isBlank_of_isWord (isWord_of_startsType starts))

theorem Typed.headNot {t : Text} (h : Typed t) : HeadNot isBlank t :=
  headNot_of_starts h.1

theorem isSome_ofLine? {line : Text} : (ofLine? line).isSome ↔ Declares line := by
  have decoration : ∀ t : Text, HeadNot isBlank ("GLAPI".toList ++ t) :=
    fun t => headNot_cons.mpr (by decide)
  rw [ofLine?, Option.orElse_eq_or, Option.isSome_or, Bool.or_eq_true]
  constructor
  · obtain ⟨ws, blank, whole, -⟩ := dropBlanks_cut line
    intro given
    rcases given with decorated | plain
    · obtain ⟨p, found⟩ := Option.isSome_iff_exists.mp decorated
      obtain ⟨u, found, typed⟩ := Option.bind_eq_some_iff.mp found
      obtain ⟨rest, after, blanks⟩ := Option.bind_eq_some_iff.mp found
      obtain ⟨ws', some, blank', rfl, -⟩ := afterBlanks?_eq_some_iff.mp blanks
      exact ⟨ws, dropBlanks line, blank, whole, Or.inr ⟨ws', u, some, blank',
        (List.append_eq_of_isPrefixOf?_eq_some after).symm,
        isSome_typeAt?.mp (Option.isSome_iff_exists.mpr ⟨p, typed⟩)⟩⟩
    · exact ⟨ws, dropBlanks line, blank, whole, Or.inl (isSome_typeAt?.mp plain)⟩
  · intro given
    obtain ⟨ws, t, blank, rfl, typed | ⟨ws', u, some, blank', rfl, typed⟩⟩ := given
    · rw [dropBlanks_append blank, dropBlanks_of_headNot typed.headNot]
      exact Or.inr (isSome_typeAt?.mpr typed)
    · have blanks : afterBlanks? (ws' ++ u) = Option.some u :=
        afterBlanks?_eq_some_iff.mpr ⟨ws', some, blank', rfl, typed.headNot⟩
      rw [dropBlanks_append blank, dropBlanks_of_headNot (decoration _),
        isPrefixOf?_append, Option.bind_some, blanks, Option.bind_some]
      exact Or.inl (isSome_typeAt?.mpr typed)

end Prototype

/-! ## Pointer types -/

namespace PointerType

/-- The text begins with the name of a pointer type in its brackets and the parameter list. -/
def Named (name parameters t : Text) : Prop :=
  name ≠ [] ∧ AllWord name ∧ ParameterText parameters ∧ ∃ ws ws' ws'' behind,
    AllBlank ws ∧ ws' ≠ [] ∧ AllBlank ws' ∧ AllBlank ws'' ∧
    t = ws ++ ("(APIENTRYP".toList ++
      (ws' ++ (name ++ ')' :: (ws'' ++ '(' :: (parameters ++ (");".toList ++ behind))))))

/-- The text begins with a return type, the name of a pointer type and the parameter list. -/
def Typed (t : Text) : Prop :=
  ∃ front last behind name parameters, '\n' ∉ front ++ [last] ∧ t = front ++ last :: behind ∧
    Named name parameters behind

/-- Where a line defines a pointer type. -/
def Defines (line : Text) : Prop :=
  ∃ before ws t, ws ≠ [] ∧ AllBlank ws ∧ line = before ++ ("typedef".toList ++ (ws ++ t)) ∧ Typed t

theorem closesList_iff {t : Text} :
    closesList t = true ↔ ∃ behind, t = ");".toList ++ behind := by
  rw [closesList, List.isPrefixOf_iff_prefix]
  exact exists_congr fun _ => eq_comm

theorem named_of_nameAndParameters? {name parameters t : Text}
    (found : nameAndParameters? t = some (name, parameters)) : Named name parameters t := by
  obtain ⟨rest, found, named⟩ := Option.bind_eq_some_iff.mp found
  obtain ⟨marked, after, blanks⟩ := Option.bind_eq_some_iff.mp found
  obtain ⟨ws, blank, whole, -⟩ := dropBlanks_cut t
  obtain ⟨ws', some', blank', rfl, -⟩ := afterBlanks?_eq_some_iff.mp blanks
  dsimp only at named
  split at named
  next => cases named
  next some =>
    obtain ⟨list, closing, named⟩ := Option.bind_eq_some_iff.mp named
    obtain ⟨inner, opening, named⟩ := Option.bind_eq_some_iff.mp named
    obtain ⟨_, longest, same⟩ := Option.map_eq_some_iff.mp named
    cases same
    obtain ⟨tail, rfl, nonempty, oneLine, closed⟩ := longestNonempty?_eq_some longest
    obtain ⟨behind, closed⟩ := closesList_iff.mp closed
    obtain ⟨ws'', blank'', between, -⟩ := dropBlanks_cut list
    refine ⟨by simpa using some, List.all_eq_true.mp List.all_takeWhile, ⟨nonempty, oneLine⟩, ws,
      ws', ws'', behind, blank, some', blank', blank'', ?_⟩
    have end' : rest.dropWhile isWord =
        ')' :: (ws'' ++ '(' :: (parameters ++ (");".toList ++ behind))) := by
      rw [← List.append_eq_of_isPrefixOf?_eq_some closing, between,
        ← List.append_eq_of_isPrefixOf?_eq_some opening, closed]
      rfl
    rw [whole, ← List.append_eq_of_isPrefixOf?_eq_some after, ← end',
      List.takeWhile_append_dropWhile]

/-- The reader goes for the longest list behind the name, and the given one shows that there is any.
-/
theorem nameAndParameters?_named {name parameters t : Text} (h : Named name parameters t) :
    ∃ rest, closesList rest = true ∧ nameAndParameters? t =
      (longestNonempty? closesList (parameters ++ rest)).map (name, ·) := by
  obtain ⟨some, word, -, ws, ws', ws'', behind, blank, some', blank', blank'', rfl⟩ := h
  have opening : ∀ u : Text, dropBlanks (ws ++ ("(APIENTRYP".toList ++ u)) =
      "(APIENTRYP".toList ++ u := by
    intro u
    have mark : HeadNot isBlank ("(APIENTRYP".toList ++ u) := headNot_cons.mpr (by decide)
    rw [dropBlanks_append blank, dropBlanks_of_headNot mark]
  have start : ∀ u : Text, HeadNot isBlank (name ++ u) := by
    intro u
    cases name with
    | nil => exact absurd rfl some
    | cons c name => exact headNot_cons.mpr (not_isBlank_of_isWord (word c List.mem_cons_self))
  have blanks : ∀ u : Text, afterBlanks? (ws' ++ (name ++ u)) = Option.some (name ++ u) := fun u =>
    afterBlanks?_eq_some_iff.mpr ⟨ws', some', blank', rfl, start u⟩
  have bracket : ∀ u : Text, HeadNot isWord (')' :: u) := fun u => headNot_cons.mpr (by decide)
  have list : ∀ u : Text, dropBlanks (ws'' ++ '(' :: u) = '(' :: u := by
    intro u
    rw [dropBlanks_append blank'', dropBlanks_of_headNot (headNot_cons.mpr (by decide))]
  refine ⟨");".toList ++ behind, closesList_iff.mpr ⟨behind, rfl⟩, ?_⟩
  rw [nameAndParameters?, opening, isPrefixOf?_append, Option.bind_some, blanks,
    Option.bind_some]
  simp only [takeWhile_of_cut word (bracket _), dropWhile_of_cut word (bracket _)]
  simp [some, List.isPrefixOf?, list]

theorem isSome_nameAndParameters? {name parameters t : Text} (h : Named name parameters t) :
    (nameAndParameters? t).isSome := by
  obtain ⟨rest, closed, reads⟩ := nameAndParameters?_named h
  obtain ⟨-, -, ⟨nonempty, oneLine⟩, -⟩ := h
  rw [reads, Option.isSome_map]
  exact isSome_longestNonempty? nonempty oneLine closed

theorem isSome_typeAt? {t : Text} : (typeAt? t).isSome ↔ Typed t := by
  rw [typeAt?, Option.isSome_map]
  constructor
  · intro found
    obtain ⟨⟨part, name, parameters⟩, found⟩ := Option.isSome_iff_exists.mp found
    obtain ⟨last, behind, rfl, ends, accepted, oneLine⟩ := shortest?_eq_some found
    obtain ⟨front, rfl⟩ := List.getLast?_eq_some_iff.mp ends
    exact ⟨front, last, behind, name, parameters, oneLine, by simp,
      named_of_nameAndParameters? accepted⟩
  · intro given
    obtain ⟨front, last, behind, name, parameters, oneLine, rfl, named⟩ := given
    exact isSome_shortest? oneLine (isSome_nameAndParameters? named)

theorem isSome_ofLine? {line : Text} : (ofLine? line).isSome ↔ Defines line := by
  rw [ofLine?, isSome_search?]
  constructor
  · intro given
    obtain ⟨before, behind, rfl, found⟩ := given
    obtain ⟨p, found⟩ := Option.isSome_iff_exists.mp found
    obtain ⟨rest, after, reads⟩ := Option.bind_eq_some_iff.mp found
    obtain ⟨ws, t, some, blank, rfl, typed⟩ :=
      isSome_afterMostBlanks?.mp (Option.isSome_iff_exists.mpr ⟨p, reads⟩)
    exact ⟨before, ws, t, some, blank, by rw [← List.append_eq_of_isPrefixOf?_eq_some after],
      isSome_typeAt?.mp typed⟩
  · intro given
    obtain ⟨before, ws, t, some, blank, rfl, typed⟩ := given
    refine ⟨before, _, rfl, ?_⟩
    rw [definitionAt?, isPrefixOf?_append, Option.bind_some]
    exact isSome_afterMostBlanks?.mpr ⟨ws, t, some, blank, rfl, isSome_typeAt?.mpr typed⟩

end PointerType

/-! ## Entries -/

/-- Where a line is an entry of any kind. -/
theorem Entry.isSome_ofLine? {line : Text} :
    (Entry.ofLine? line).isSome ↔
      ExtensionNote.Noted line ∨ Prototype.Declares line ∨ PointerType.Defines line := by
  rw [← ExtensionNote.isSome_ofLine?, ← Prototype.isSome_ofLine?, ← PointerType.isSome_ofLine?,
    Entry.ofLine?]
  cases ExtensionNote.ofLine? line with
  | some name => simp
  | none => cases Prototype.ofLine? line <;> simp

end GLDispatch
