import GLDispatch.Proofs.Grammar

/-! # Declarators

What stands behind a return type in print: the calling convention, the name and the parameter list.
The readers find a printed declarator behind its type as soon as they refuse every shorter part of
the type, and a part without brackets behind it is refused anyway: between such a part and the first
bracket there is more than blanks or the convention. -/
namespace GLDispatch
open Text

/-- A parameter list in print. -/
def printedList (parameters : Text) : Text :=
  " (".toList ++ (parameters ++ ");".toList)

theorem dropBlanks_printedList (parameters : Text) :
    dropBlanks (printedList parameters) = '(' :: (parameters ++ ");".toList) := by
  have mark : HeadNot isBlank ('(' :: (parameters ++ ");".toList)) := headNot_cons.mpr (by decide)
  exact dropWhile_of_cut allBlank_space mark

theorem Text.AllBlank.no_bracket {t : Text} (h : AllBlank t) : '(' ∉ t :=
  h.not_mem (by decide)

theorem Text.AllWord.no_bracket {t : Text} (h : AllWord t) : '(' ∉ t :=
  fun member => absurd (h '(' member) (by decide)

/-- The beginning of a text which does not end in a blank leaves more than blanks behind. -/
theorem Text.not_allBlank_of_lastNot {t before behind : Text} {c : Char} (ends : LastNot isBlank t)
    (whole : t = before ++ c :: behind) (more : behind ≠ []) : ¬ AllBlank behind := by
  rw [whole, List.append_cons, lastNot_append _ more] at ends
  exact not_forall_of_lastNot ends more

theorem EntryPointName.head?_append {name : Text} (h : EntryPointName name) (t : Text) :
    (name ++ t).head? = some 'g' := by
  obtain ⟨tail, -, -, rfl⟩ := h
  rfl

theorem EntryPointName.lastNot_isBlank {name : Text} (h : EntryPointName name) (t : Text) :
    LastNot isBlank (t ++ name) :=
  (lastNot_append t h.ne_nil).mpr (lastNot_of_forall h.allWord.visible)

theorem Text.AllWord.headNot_isBlank {name : Text} (word : AllWord name) (some : name ≠ [])
    (t : Text) : HeadNot isBlank (name ++ t) := by
  rw [headNot_append some]
  exact fun c first => not_isBlank_of_isWord (word c (List.mem_of_head? first))

/-! ## Prototypes -/

namespace Prototype

/-- A prototype behind its return type. -/
def declarator (separator name parameters : Text) : Text :=
  separator ++ ("APIENTRY ".toList ++ (name ++ printedList parameters))

/-- The same, with any text behind the opening bracket. -/
def openDeclarator (separator name list : Text) : Text :=
  separator ++ ("APIENTRY ".toList ++ (name ++ (" (".toList ++ list)))

theorem nameAndParameters?_opened {name list parameters : Text} (isName : EntryPointName name)
    (found : longestNonempty? closesList list = some parameters) :
    nameAndParameters? (name ++ (" (".toList ++ list)) = some (name, parameters) := by
  obtain ⟨tail, some, word, rfl⟩ := isName
  have bracket : HeadNot isWord (" (".toList ++ list) := headNot_cons.mpr (by decide)
  have opening : dropBlanks (" (".toList ++ list) = '(' :: list :=
    dropWhile_of_cut allBlank_space (headNot_cons.mpr (by decide))
  rw [nameAndParameters?, List.append_assoc, isPrefixOf?_append, Option.bind_some]
  simp only [takeWhile_of_cut word bracket, dropWhile_of_cut word bracket, opening]
  simpa [some, List.isPrefixOf?] using found

/-- The name in front of the first bracket is the printed one, whatever is put in front of it. -/
theorem gap_declarator {separator name list name' behind g ws rest : Text}
    (isName : EntryPointName name) (isName' : EntryPointName name') (sepBlank : AllBlank separator)
    (blank : AllBlank ws) (unbracketed : '(' ∉ behind) (inGap : '(' ∉ g)
    (gapEnds : LastNot (!isBlank ·) g)
    (equal : behind ++ openDeclarator separator name list = g ++ (name' ++ (ws ++ '(' :: rest))) :
    behind ++ (separator ++ "APIENTRY ".toList) = g := by
  have heads : behind ++ (separator ++ "APIENTRY ".toList) ++ name ++ [' '] =
      g ++ name' ++ ws := by
    have marked : behind ++ (separator ++ "APIENTRY ".toList) ++ name ++ [' '] ++ '(' :: list =
        g ++ name' ++ ws ++ '(' :: rest := by
      simpa [openDeclarator] using equal
    refine (cut_at_mark marked ?_ ?_).1
    · simp [unbracketed, sepBlank.no_bracket, isName.allWord.no_bracket]
    · simp [inGap, isName'.allWord.no_bracket, blank.no_bracket]
  have names : behind ++ (separator ++ "APIENTRY ".toList) ++ name = g ++ name' :=
    (cut_unique_last heads allBlank_space blank (isName.lastNot_isBlank _)
      (isName'.lastNot_isBlank g)).1
  refine (cut_unique_last names isName.allWord isName'.allWord ?_ ?_).1
  · have visible : isWord ' ' = false := by decide
    rw [← List.append_assoc, lastNot_append _ (by decide)]
    exact lastNot_concat visible "APIENTRY".toList
  · exact fun c last => not_isWord_of_isBlank (by simpa using gapEnds c last)

/-- In front of a declarator, text without brackets which is not blank is no part of a gap. -/
theorem nameStart?_unbracketed {separator name list behind : Text} {c : Char}
    (isName : EntryPointName name) (sepBlank : AllBlank separator) (unbracketed : '(' ∉ behind)
    (notBlank : ¬ AllBlank behind) :
    (nameStart? c (behind ++ openDeclarator separator name list)).bind nameAndParameters? =
      none := by
  apply Option.eq_none_iff_forall_not_mem.mpr
  intro (name', parameters') found
  obtain ⟨u, start, called⟩ := Option.bind_eq_some_iff.mp found
  have called := called_of_nameAndParameters? called
  obtain ⟨g, equal, -, gapEnds, form⟩ := (gap_of_nameStart? start).exists_text called.head?
  obtain ⟨isName', -, ws, ws', rest, blank, -, rfl⟩ := called
  have inGap : '(' ∉ g := by
    rcases form with blanks | ⟨ws, ws', blank, blank', rfl⟩
    · exact blanks.no_bracket
    · simp [blank.no_bracket, blank'.no_bracket]
  have front := gap_declarator isName isName' sepBlank blank unbracketed inGap gapEnds equal
  rcases form with blanks | ⟨ws₁, ws₂, blank₁, blank₂, rfl⟩
  · rw [← front] at blanks
    exact notBlank fun d member => blanks d (List.mem_append_left _ member)
  · have regrouped : behind ++ separator ++ "APIENTRY".toList ++ [' '] =
        ws₁ ++ "APIENTRY".toList ++ ws₂ := by
      simpa using front
    have conventionEnds (t : Text) : LastNot isBlank (t ++ "APIENTRY".toList) :=
      (lastNot_append t (by decide)).mpr fun c last => by cases last; decide
    have conventions := (cut_unique_last regrouped allBlank_space blank₂ (conventionEnds _)
      (conventionEnds _)).1
    rw [← List.append_cancel_right conventions] at blank₁
    exact notBlank fun d member => blank₁ d (List.mem_append_left _ member)

/-- The type in front of a declarator is read as a whole if no shorter part of it is. -/
theorem typeAt?_openDeclarator {type separator name list parameters : Text}
    (starts : type.head?.any startsType = true) (oneLine : '\n' ∉ type)
    (isName : EntryPointName name) (sepBlank : AllBlank separator)
    (separated : separator = [] → type.getLast? = some '*')
    (listed : longestNonempty? closesList list = some parameters)
    (refused : ∀ before c behind, type = before ++ c :: behind → behind ≠ [] →
      (nameStart? c (behind ++ openDeclarator separator name list)).bind nameAndParameters? =
        none) :
    typeAt? (type ++ openDeclarator separator name list) =
      some ⟨name, ⟨strip type, strip parameters⟩⟩ := by
  have some : type ≠ [] := by
    rintro rfl
    cases starts
  obtain ⟨front, last, rfl⟩ := (List.eq_nil_or_concat type).resolve_left some
  rw [List.concat_eq_append] at *
  have start := isName.head?_append (" (".toList ++ list)
  have apart : separator = [] → isWord last = false := by
    intro none
    have asterisk := separated none
    rw [List.getLast?_concat] at asterisk
    cases asterisk
    decide
  have gap : Gap last (openDeclarator separator name list) (name ++ (" (".toList ++ list)) := by
    refine .convention sepBlank apart allBlank_space (headNot_cons.mpr (by decide)) ?_
    intro c first
    rw [start] at first
    cases first
    decide
  have accepted : (nameStart? last (openDeclarator separator name list)).bind
      nameAndParameters? = Option.some (name, parameters) := by
    rw [nameStart?_of_gap gap start]
    exact nameAndParameters?_opened isName listed
  have found : shortest? (fun last rest => (nameStart? last rest).bind nameAndParameters?)
      (front ++ [last] ++ openDeclarator separator name list) =
        Option.some (front ++ [last], name, parameters) := by
    rw [List.append_assoc]
    exact shortest?_append oneLine accepted refused
  have starts' : (front ++ [last] ++ openDeclarator separator name list).head?.any
      startsType = true := by
    cases front <;> exact starts
  rw [typeAt?, if_pos starts', found, Option.map_some]

theorem typeAt?_declarator {type separator name parameters : Text}
    (starts : type.head?.any startsType = true) (oneLine : '\n' ∉ type)
    (isName : EntryPointName name) (sepBlank : AllBlank separator)
    (separated : separator = [] → type.getLast? = some '*') (listed : ParameterText parameters)
    (refused : ∀ before c behind, type = before ++ c :: behind → behind ≠ [] →
      (nameStart? c (behind ++ declarator separator name parameters)).bind nameAndParameters? =
        none) :
    typeAt? (type ++ declarator separator name parameters) =
      some ⟨name, ⟨strip type, strip parameters⟩⟩ := by
  have closed : longest? closesList ");".toList = some [] := by decide
  exact typeAt?_openDeclarator starts oneLine isName sepBlank separated
    (longestNonempty?_append listed.1 listed.2 closed) refused

/-- What stands behind a printed decoration is read first. -/
theorem ofLine?_decorated {t : Text} {p : Prototype} (start : HeadNot isBlank t)
    (found : typeAt? t = some p) : ofLine? ("GLAPI ".toList ++ t) = some p := by
  have line : dropBlanks ("GLAPI ".toList ++ t) = "GLAPI".toList ++ ' ' :: t :=
    dropBlanks_of_headNot (headNot_cons.mpr (by decide))
  have blank : afterBlanks? (' ' :: t) = some t := by
    rw [afterBlanks?, if_pos (by decide), dropBlanks_of_headNot start]
  rw [ofLine?, line, isPrefixOf?_append, Option.bind_some, blank, Option.bind_some, found]
  rfl

end Prototype

/-! ## Pointer types -/

namespace PointerType

/-- A pointer type behind its return type. -/
def declarator (separator name parameters : Text) : Text :=
  separator ++ ("(APIENTRYP ".toList ++ (name ++ ')' :: printedList parameters))

/-- The same, with any text behind the opening bracket of the list. -/
def openDeclarator (separator name list : Text) : Text :=
  separator ++ ("(APIENTRYP ".toList ++ (name ++ ')' :: (" (".toList ++ list)))

theorem nameAndParameters?_declarator {separator name parameters : Text} (some : name ≠ [])
    (word : AllWord name) (sepBlank : AllBlank separator) (listed : ParameterText parameters) :
    nameAndParameters? (declarator separator name parameters) =
      Option.some (name, parameters) := by
  have opening : dropBlanks (declarator separator name parameters) =
      "(APIENTRYP".toList ++ (' ' :: (name ++ ')' :: printedList parameters)) := by
    rw [declarator, dropBlanks_append sepBlank]
    exact dropBlanks_of_headNot (headNot_cons.mpr (by decide))
  have blank : afterBlanks? (' ' :: (name ++ ')' :: printedList parameters)) =
      Option.some (name ++ ')' :: printedList parameters) := by
    rw [afterBlanks?, if_pos (by decide), dropBlanks_of_headNot (word.headNot_isBlank some _)]
  have bracket : HeadNot isWord (')' :: printedList parameters) := headNot_cons.mpr (by decide)
  have closed : longest? closesList ");".toList = Option.some [] := by decide
  have found := longestNonempty?_append listed.1 listed.2 closed
  rw [nameAndParameters?, opening, isPrefixOf?_append, Option.bind_some, blank,
    Option.bind_some]
  simp only [takeWhile_of_cut word bracket, dropWhile_of_cut word bracket]
  simpa [some, List.isPrefixOf?, dropBlanks_printedList] using found

/-- In front of a declarator, text without brackets has to be blank. -/
theorem nameAndParameters?_unbracketed {separator name parameters behind : Text}
    (sepBlank : AllBlank separator) (unbracketed : '(' ∉ behind) (notBlank : ¬ AllBlank behind) :
    nameAndParameters? (behind ++ declarator separator name parameters) = none := by
  apply Option.eq_none_iff_forall_not_mem.mpr
  intro (name', parameters') found
  obtain ⟨-, -, -, ws, ws', ws'', rest, blank, -, -, -, equal⟩ := named_of_nameAndParameters? found
  have marked : behind ++ separator ++
      '(' :: ("APIENTRYP ".toList ++ (name ++ ')' :: printedList parameters)) =
      ws ++ '(' :: ("APIENTRYP".toList ++
        (ws' ++ (name' ++ ')' :: (ws'' ++ '(' :: (parameters' ++ (");".toList ++ rest)))))) := by
    simpa [declarator] using equal
  have front := (cut_at_mark marked (by simp [unbracketed, sepBlank.no_bracket])
    blank.no_bracket).1
  rw [← front] at blank
  exact notBlank fun d member => blank d (List.mem_append_left _ member)

/-- The type in front of a declarator is read as a whole if no shorter part of it is. -/
theorem typeAt?_declarator {type separator name parameters : Text} (typeSome : type ≠ [])
    (oneLine : '\n' ∉ type) (some : name ≠ []) (word : AllWord name)
    (sepBlank : AllBlank separator) (listed : ParameterText parameters)
    (refused : ∀ before c behind, type = before ++ c :: behind → behind ≠ [] →
      nameAndParameters? (behind ++ declarator separator name parameters) = none) :
    typeAt? (type ++ declarator separator name parameters) =
      Option.some ⟨name, ⟨strip type, strip parameters⟩⟩ := by
  obtain ⟨front, last, rfl⟩ := (List.eq_nil_or_concat type).resolve_left typeSome
  rw [List.concat_eq_append] at *
  have accepted := nameAndParameters?_declarator some word sepBlank listed
  have found : shortest? (fun _ rest => nameAndParameters? rest)
      (front ++ [last] ++ declarator separator name parameters) =
        Option.some (front ++ [last], name, parameters) := by
    rw [List.append_assoc]
    exact shortest?_append oneLine accepted refused
  rw [typeAt?, found, Option.map_some]

theorem ofLine?_of_definitionAt? {t : Text} {p : PointerType} (found : definitionAt? t = some p) :
    ofLine? t = some p :=
  search?_eq_some found

/-- What stands behind a printed keyword is read first. -/
theorem ofLine?_defined {t : Text} {p : PointerType} (start : HeadNot isBlank t)
    (found : typeAt? t = some p) : ofLine? ("typedef ".toList ++ t) = some p := by
  have after : "typedef".toList.isPrefixOf? ("typedef ".toList ++ t) = some (' ' :: t) :=
    isPrefixOf?_append "typedef".toList (' ' :: t)
  apply ofLine?_of_definitionAt?
  rw [definitionAt?, after, Option.bind_some, afterMostBlanks?_cons (by decide) start, found]

end PointerType
end GLDispatch
