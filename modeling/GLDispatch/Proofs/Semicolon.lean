import GLDispatch.Proofs.Declarator

/-! # Blanks in front of the semicolon

The semicolon behind a parameter list may stand apart in a prototype, but not in the definition of a
pointer type. So of two lines that say the same about a function and about its pointer type, with the
same blanks in front of the semicolon, both are read if there are none and only the prototype if
there are any. -/
namespace GLDispatch
open Text

/-- What a prototype and a pointer type say alike: a return type, which may have blanks at its end,
and the text of a parameter list. Neither has a bracket that could be taken for another one. -/
structure CommonSignature extends Signature where
  starts : returnType.head?.any Prototype.startsType = true
  typeOneLine : '\n' ∉ returnType
  typeUnopened : '(' ∉ returnType
  typeUnclosed : ')' ∉ returnType
  parameterText : ParameterText parameters
  listUnclosed : ')' ∉ parameters

/-- A parameter list behind its opening bracket, with the blanks in front of the semicolon. -/
def spacedList (parameters blanks : Text) : Text :=
  parameters ++ ')' :: (blanks ++ [';'])

namespace CommonSignature

variable (s : CommonSignature)

/-- The line of a prototype. -/
def prototype (name blanks : Text) : Text :=
  "GLAPI ".toList ++
    (s.returnType ++ Prototype.openDeclarator [' '] name (spacedList s.parameters blanks))

/-- The line which defines a pointer type. -/
def pointerType (name blanks : Text) : Text :=
  "typedef ".toList ++
    (s.returnType ++ PointerType.openDeclarator [' '] name (spacedList s.parameters blanks))

def stripped : Signature :=
  ⟨strip s.returnType, strip s.parameters⟩

end CommonSignature

/-! ## Parts of the lines -/

theorem not_mem_end {blanks : Text} (blank : AllBlank blanks) : ')' ∉ blanks ++ [';'] := by
  rw [List.mem_append, List.mem_singleton]
  rintro (member | same)
  · exact blank.not_mem (by decide) member
  · cases same

namespace CommonSignature

variable (s : CommonSignature)

/-- The return type without the blanks at its end. What stands behind the beginning of it is neither
blank nor has it a bracket, so no declarator begins there. -/
theorem exists_type : ∃ type trail, s.returnType = type ++ trail ∧ AllBlank trail ∧
    strip s.returnType = strip type ∧ type.head?.any Prototype.startsType = true ∧ '\n' ∉ type ∧
    ∀ before c behind, type = before ++ c :: behind → behind ≠ [] →
      '(' ∉ behind ∧ ¬ AllBlank behind := by
  obtain ⟨trail, blank, whole⟩ := trimEnd_cut isBlank s.returnType
  have start := Prototype.headNot_of_starts s.starts
  have stripped : strip s.returnType = trimEnd isBlank s.returnType := by
    rw [strip, dropBlanks_of_headNot start]
  rw [← stripped] at whole
  refine ⟨strip s.returnType, trail, whole, blank, (strip_strip _).symm, ?_,
    fun newline => s.typeOneLine (strip_subset _ newline), ?_⟩
  · have starts := s.starts
    rw [whole] at starts start
    cases type : strip s.returnType with
    | cons c rest =>
      rw [type] at starts
      exact starts
    | nil =>
      -- The type would begin with the blanks at its end.
      rw [type, List.nil_append] at starts start
      cases trail with
      | nil => cases starts
      | cons c trail =>
        rw [headNot_cons, blank c List.mem_cons_self] at start
        cases start
  · intro before c behind parts more
    refine ⟨fun member => s.typeUnopened (strip_subset _ (parts ▸ ?_)),
      not_allBlank_of_lastNot (lastNot_strip _) parts more⟩
    exact List.mem_append_right before (List.mem_cons_of_mem c member)

end CommonSignature

/-! ## Prototypes -/

namespace Prototype

theorem longest?_eq_none {t : Text} (unclosed : ')' ∉ t) : longest? closesList t = none := by
  apply Option.eq_none_iff_forall_not_mem.mpr
  intro part found
  obtain ⟨rest, whole, -, closed⟩ := longest?_eq_some found
  obtain ⟨ws, behind, -, rfl⟩ := closesList_iff.mp closed
  exact unclosed (whole ▸ List.mem_append_right part List.mem_cons_self)

theorem longestNonempty?_spacedList {parameters blanks : Text} (listed : ParameterText parameters)
    (blank : AllBlank blanks) :
    longestNonempty? closesList (spacedList parameters blanks) = some parameters := by
  have closed : closesList (')' :: (blanks ++ [';'])) = true :=
    closesList_iff.mpr ⟨blanks, [], blank, rfl⟩
  have longest : longest? closesList (')' :: (blanks ++ [';'])) = some [] := by
    rw [longest?, if_neg (by decide), longest?_eq_none (not_mem_end blank), Option.map_none,
      Option.orElse_none, if_pos closed]
  exact longestNonempty?_append listed.1 listed.2 longest

theorem ofLine?_spaced (s : CommonSignature) {name blanks : Text} (isName : EntryPointName name)
    (blank : AllBlank blanks) : ofLine? (s.prototype name blanks) = some ⟨name, s.stripped⟩ := by
  obtain ⟨type, trail, whole, trailBlank, stripped, starts, oneLine, inside⟩ := s.exists_type
  have sepBlank : AllBlank (trail ++ [' ']) := trailBlank.append allBlank_space
  have typeSome : type ≠ [] := by
    rintro rfl
    cases starts
  have found : typeAt? (type ++ openDeclarator (trail ++ [' ']) name
      (spacedList s.parameters blanks)) = some ⟨name, s.stripped⟩ := by
    rw [CommonSignature.stripped, stripped]
    refine typeAt?_openDeclarator starts oneLine isName sepBlank (by simp)
      (longestNonempty?_spacedList s.parameterText blank) ?_
    intro before c behind parts more
    obtain ⟨unbracketed, notBlank⟩ := inside before c behind parts more
    exact nameStart?_unbracketed isName sepBlank unbracketed notBlank
  have line : s.prototype name blanks = "GLAPI ".toList ++
      (type ++ openDeclarator (trail ++ [' ']) name (spacedList s.parameters blanks)) := by
    unfold CommonSignature.prototype
    rw [whole]
    simp [openDeclarator]
  rw [line]
  exact ofLine?_decorated ((headNot_append typeSome _).mpr (headNot_of_starts starts)) found

end Prototype

/-! ## Pointer types -/

namespace PointerType

theorem ofLine?_unspaced (s : CommonSignature) {name : Text} (some : name ≠ [])
    (word : AllWord name) :
    ofLine? (s.pointerType name []) = Option.some ⟨name, s.stripped⟩ := by
  obtain ⟨type, trail, whole, trailBlank, stripped, starts, oneLine, inside⟩ := s.exists_type
  have sepBlank : AllBlank (trail ++ [' ']) := trailBlank.append allBlank_space
  have typeSome : type ≠ [] := by
    rintro rfl
    cases starts
  have found : typeAt? (type ++ declarator (trail ++ [' ']) name s.parameters) =
      Option.some ⟨name, s.stripped⟩ := by
    rw [CommonSignature.stripped, stripped]
    refine typeAt?_declarator typeSome oneLine some word sepBlank s.parameterText ?_
    intro before c behind parts more
    obtain ⟨unbracketed, notBlank⟩ := inside before c behind parts more
    exact nameAndParameters?_unbracketed sepBlank unbracketed notBlank
  have line : s.pointerType name [] = "typedef ".toList ++
      (type ++ declarator (trail ++ [' ']) name s.parameters) := by
    unfold CommonSignature.pointerType
    rw [whole]
    simp [openDeclarator, declarator, printedList, spacedList]
  rw [line]
  exact ofLine?_defined ((headNot_append typeSome _).mpr (Prototype.headNot_of_starts starts)) found

/-- In the definition of a pointer type, a semicolon stands right behind a closing bracket. -/
theorem Defines.exists_closing {line : Text} (h : Defines line) :
    ∃ before behind, line = before ++ ')' :: (';' :: behind) := by
  obtain ⟨before, ws, t, -, -, rfl, typed⟩ := h
  obtain ⟨front, last, rest, name, parameters, -, rfl, named⟩ := typed
  obtain ⟨-, -, -, ws₁, ws₂, ws₃, behind, -, -, -, -, rfl⟩ := named
  exact ⟨before ++ ("typedef".toList ++ (ws ++ (front ++ last :: (ws₁ ++ ("(APIENTRYP".toList ++
    (ws₂ ++ (name ++ ')' :: (ws₃ ++ '(' :: parameters)))))))), behind, by simp⟩

theorem ofLine?_spaced (s : CommonSignature) {name blanks : Text} (word : AllWord name)
    (blank : AllBlank blanks) (some : blanks ≠ []) :
    ofLine? (s.pointerType name blanks) = none := by
  rw [← Option.not_isSome_iff_eq_none, isSome_ofLine?]
  intro defines
  obtain ⟨before, behind, whole⟩ := defines.exists_closing
  have inName : ')' ∉ name := fun member => absurd (word ')' member) (by decide)
  have front : ')' ∉ "typedef ".toList ++ (s.returnType ++ (" (APIENTRYP ".toList ++ name)) := by
    simp [s.typeUnclosed, inName]
  have list : ')' ∉ " (".toList ++ s.parameters := by simp [s.listUnclosed]
  have line : before ++ ')' :: (';' :: behind) =
      ("typedef ".toList ++ (s.returnType ++ (" (APIENTRYP ".toList ++ name))) ++
        ')' :: ((" (".toList ++ s.parameters) ++ ')' :: (blanks ++ [';'])) := by
    refine whole.symm.trans ?_
    unfold CommonSignature.pointerType
    simp [openDeclarator, spacedList]
  -- The bracket with the semicolon is the first one, the second one, or farther on.
  rcases cut_cases line front with ⟨-, first⟩ | ⟨between, -, later⟩
  · cases first
  · rcases cut_cases later list with ⟨-, second⟩ | ⟨between, -, last⟩
    · obtain ⟨c, more, rfl⟩ := List.exists_cons_of_ne_nil some
      have semicolon := (List.cons.inj second).1
      exact absurd (semicolon ▸ blank c List.mem_cons_self) (by decide)
    · exact not_mem_end blank (last ▸ List.mem_append_right between List.mem_cons_self)

end PointerType

/-! ## Both lines -/

namespace CommonSignature

/-- The prototype is read whatever blanks stand in front of the semicolon, the pointer type only if
there are none. So the two lines say the same only in that case. -/
theorem read_alike_iff (s : CommonSignature) {name pointerName blanks : Text}
    (isName : EntryPointName name) (nonempty : pointerName ≠ []) (word : AllWord pointerName)
    (blank : AllBlank blanks) :
    let prototype := Prototype.ofLine? (s.prototype name blanks)
    let pointerType := PointerType.ofLine? (s.pointerType pointerName blanks)
    prototype = some ⟨name, s.stripped⟩ ∧
      pointerType = (if blanks = [] then some ⟨pointerName, s.stripped⟩ else none) ∧
      (prototype.map Prototype.signature = pointerType.map PointerType.signature ↔
        blanks = []) := by
  intro prototype pointerType
  have declared : prototype = some ⟨name, s.stripped⟩ := Prototype.ofLine?_spaced s isName blank
  have defined : pointerType =
      if blanks = [] then some ⟨pointerName, s.stripped⟩ else none := by
    split
    next none =>
      subst none
      exact PointerType.ofLine?_unspaced s nonempty word
    next some => exact PointerType.ofLine?_spaced s word blank some
  refine ⟨declared, defined, ?_⟩
  rw [declared, defined]
  split
  next none => simp [none]
  next some => simp [some]

/-- A return type with a blank at its end, and a semicolon behind a tab. -/
theorem read_alike_iff_tab :
    let type := "const GLubyte * ".toList
    let parameters := "GLenum name".toList
    ∃ s : CommonSignature, s.toSignature = ⟨type, parameters⟩ ∧
      Prototype.ofLine? (s.prototype "glGetString".toList ['\t']) =
        some ⟨"glGetString".toList, s.stripped⟩ ∧
      PointerType.ofLine? (s.pointerType "PFNGLGETSTRINGPROC".toList ['\t']) = none := by
  intro type parameters
  let s : CommonSignature := {
    returnType := type
    parameters := parameters
    starts := by decide
    typeOneLine := by decide
    typeUnopened := by decide
    typeUnclosed := by decide
    parameterText := ⟨by decide, by decide⟩
    listUnclosed := by decide }
  have isName : EntryPointName "glGetString".toList :=
    ⟨"GetString".toList, by decide, by decide, rfl⟩
  have nonempty : "PFNGLGETSTRINGPROC".toList ≠ [] := by decide
  have blank : AllBlank ['\t'] := allBlank_cons.mpr ⟨by decide, fun _ member => by cases member⟩
  obtain ⟨declared, defined, -⟩ := s.read_alike_iff isName nonempty (by decide) blank
  exact ⟨s, rfl, declared, defined⟩

/-- A blank in front of the semicolon of both lines. -/
theorem semicolon_apart :
    Prototype.ofLine? "GLAPI void APIENTRY glClear (GLbitfield mask) ;".toList =
        some ⟨"glClear".toList, ⟨"void".toList, "GLbitfield mask".toList⟩⟩ ∧
      PointerType.ofLine? "typedef void (APIENTRYP PFNGLCLEARPROC) (GLbitfield mask) ;".toList =
        none := by
  decide +kernel

end CommonSignature
end GLDispatch
