import GLDispatch.Proofs.Declarator

/-! # Entry lines

Entries as vendor headers print them. Reading gives back what was printed: an open-ended part stops
where it was printed to stop, and no line is taken for an entry of another kind. -/
namespace GLDispatch
open Text

/-- A word of the text begins like an entry point. -/
def MentionsEntryPoint (t : Text) : Prop :=
  ∃ before behind, LastNot isWord before ∧ t = before ++ ("gl".toList ++ behind)

/-- The text holds what looks like a call: the name of an entry point behind a blank or an asterisk,
and in front of a bracket. -/
def CallsEntryPoint (t : Text) : Prop :=
  ∃ before c name ws behind, (isBlank c = true ∨ c = '*') ∧ EntryPointName name ∧ AllBlank ws ∧
    t = before ++ c :: (name ++ (ws ++ '(' :: behind))

/-- A signature in print. Behind the return type stands a blank, for which an asterisk will do. -/
structure PrintedSignature extends Signature where
  separator : Text
  starts : returnType.head?.any Prototype.startsType = true
  unbracketed : '(' ∉ returnType
  typeOneLine : '\n' ∉ returnType
  typeEnds : LastNot isBlank returnType
  unnamed : ¬ MentionsEntryPoint returnType
  separated : separator = [' '] ∨ separator = [] ∧ returnType.getLast? = some '*'
  parameterText : ParameterText parameters
  stripped : strip parameters = parameters

/-- A prototype in print. -/
def PrintedSignature.prototype (s : PrintedSignature) (name : Text) : Text :=
  "GLAPI ".toList ++ (s.returnType ++ Prototype.declarator s.separator name s.parameters)

/-- The definition of a pointer type in print. -/
def PrintedSignature.pointerType (s : PrintedSignature) (name : Text) : Text :=
  "typedef ".toList ++ (s.returnType ++ PointerType.declarator s.separator name s.parameters)

/-- An extension note in print. -/
def ExtensionNote.printed (name : Text) : Text :=
  "/* ARB_".toList ++ (name ++ " */".toList)

/-- An entry in print. -/
inductive EntryLine where
  | extension (name : Text) (some : name ≠ [])
      (nameChars : ∀ c ∈ name, ExtensionNote.isNameChar c = true)
  | prototype (name : Text) (isName : EntryPointName name) (signature : PrintedSignature)
  | pointerType (name : Text) (some : name ≠ []) (word : AllWord name)
      (signature : PrintedSignature) (plain : ¬ CallsEntryPoint signature.parameters)

namespace EntryLine

def line : EntryLine → Text
  | extension name _ _ => ExtensionNote.printed name
  | prototype name _ s => s.prototype name
  | pointerType name _ _ s _ => s.pointerType name

def entry : EntryLine → Entry
  | extension name _ _ => .extension ("ARB_".toList ++ name)
  | prototype name _ s => .function name s.toSignature
  | pointerType name _ _ s _ => .function name s.toSignature

end EntryLine

namespace PrintedSignature

theorem separator_blank (s : PrintedSignature) : AllBlank s.separator := by
  rcases s.separated with blank | ⟨none, -⟩
  · rw [blank]
    exact allBlank_space
  · rw [none]
    simp [AllBlank]

theorem separator_bracket (s : PrintedSignature) : '(' ∉ s.separator := by
  rcases s.separated with blank | ⟨none, -⟩
  · rw [blank]
    decide
  · rw [none]
    exact List.not_mem_nil

theorem returnType_ne_nil (s : PrintedSignature) : s.returnType ≠ [] := by
  intro none
  have starts := s.starts
  rw [none] at starts
  cases starts

theorem headNot_printed (s : PrintedSignature) (t : Text) :
    HeadNot isBlank (s.returnType ++ t) :=
  (headNot_append s.returnType_ne_nil t).mpr (Prototype.headNot_of_starts s.starts)

/-- What stands behind the beginning of the return type, and is not all of it. -/
theorem not_allBlank_behind (s : PrintedSignature) {before behind : Text} {c : Char}
    (whole : s.returnType = before ++ c :: behind) (more : behind ≠ []) : ¬ AllBlank behind :=
  not_allBlank_of_lastNot s.typeEnds whole more

theorem not_bracket_behind (s : PrintedSignature) {before behind : Text} {c : Char}
    (whole : s.returnType = before ++ c :: behind) : '(' ∉ behind :=
  fun member => s.unbracketed (whole ▸ by simp [member])

theorem strip_returnType (s : PrintedSignature) : strip s.returnType = s.returnType := by
  have starts := s.headNot_printed []
  rw [List.append_nil] at starts
  exact strip_eq_self starts s.typeEnds

end PrintedSignature

/-- Behind a name there are only blanks, so no other mark. -/
theorem EntryPointName.ne_append {name ws before front : Text} {mark : Char}
    (isName : EntryPointName name) (blank : AllBlank ws) (other : isWord mark = false)
    (visible : isBlank mark = false) : before ++ name ++ ws ≠ front ++ [mark] ++ [' '] := by
  intro equal
  have names := (cut_unique_last equal blank allBlank_space (isName.lastNot_isBlank before)
    (lastNot_concat visible front)).1
  have wordEnd : LastNot (!isWord ·) (before ++ name) :=
    (lastNot_append before isName.ne_nil).mpr
      (lastNot_of_forall fun c member => by simp [isName.allWord c member])
  rw [names] at wordEnd
  have isMark := wordEnd mark (by simp)
  simp [other] at isMark

namespace Prototype

theorem typeAt?_printed {name : Text} (isName : EntryPointName name) (s : PrintedSignature) :
    typeAt? (s.returnType ++ declarator s.separator name s.parameters) =
      some ⟨name, s.toSignature⟩ := by
  have separated : s.separator = [] → s.returnType.getLast? = some '*' := by
    intro none
    rcases s.separated with blank | ⟨-, asterisk⟩
    · rw [none] at blank
      cases blank
    · exact asterisk
  have found := typeAt?_declarator s.starts s.typeOneLine isName s.separator_blank separated
    s.parameterText fun before c behind whole more =>
      nameStart?_unbracketed isName s.separator_blank (s.not_bracket_behind whole)
        (s.not_allBlank_behind whole more)
  rwa [s.strip_returnType, s.stripped] at found

theorem ofLine?_printed {name : Text} (isName : EntryPointName name) (s : PrintedSignature) :
    ofLine? (s.prototype name) = some ⟨name, s.toSignature⟩ :=
  ofLine?_decorated (s.headNot_printed _) (typeAt?_printed isName s)

/-- A prototype is a call of its name, to look at. -/
theorem Typed.callsEntryPoint {t : Text} (h : Typed t) : CallsEntryPoint t := by
  obtain ⟨-, front, last, behind, u, name, parameters, -, rfl, gap, called⟩ := h
  obtain ⟨g, rfl, noGap, gapEnds, -⟩ := gap.exists_text called.head?
  obtain ⟨isName, -, ws, ws', rest, blank, -, rfl⟩ := called
  cases ends : g.getLast? with
  | none =>
    obtain rfl := List.getLast?_eq_none_iff.mp ends
    exact ⟨front, last, name, ws, parameters ++ ')' :: (ws' ++ ';' :: rest), Or.inr (noGap rfl),
      isName, blank, by simp⟩
  | some c =>
    obtain ⟨g, rfl⟩ := List.getLast?_eq_some_iff.mp ends
    exact ⟨front ++ last :: g, c, name, ws, parameters ++ ')' :: (ws' ++ ';' :: rest),
      Or.inl (by simpa using gapEnds c ends), isName, blank, by simp⟩

end Prototype

namespace PrintedSignature

/-- No name of an entry point ends where the return type does. -/
theorem not_endsType (s : PrintedSignature) {before name ws : Text} {c : Char}
    (apart : isWord c = false) (isName : EntryPointName name) (blank : AllBlank ws) :
    before ++ c :: (name ++ ws) ≠ "typedef ".toList ++ (s.returnType ++ s.separator) := by
  intro whole
  have regrouped : before ++ [c] ++ name ++ ws =
      "typedef ".toList ++ s.returnType ++ s.separator := by
    simpa using whole
  have ends := (cut_unique_last regrouped blank s.separator_blank (isName.lastNot_isBlank _)
    ((lastNot_append _ s.returnType_ne_nil).mpr s.typeEnds)).1
  apply s.unnamed
  have word := isName.allWord
  obtain ⟨tail, -, -, rfl⟩ := isName
  rcases List.append_eq_append_iff.mp ends with ⟨m, keyword, type⟩ | ⟨m, front, type⟩
  · by_cases none : m = []
    · exact ⟨[], tail, by simp [LastNot], by simpa [none] using type.symm⟩
    · have inWord : ∀ d ∈ m, isWord d = true := fun d member =>
        word d (type ▸ List.mem_append_left _ member)
      have blankEnd : LastNot isWord "typedef ".toList :=
        lastNot_concat (by decide) "typedef".toList
      rw [keyword, lastNot_append _ none] at blankEnd
      exact absurd inWord (not_forall_of_lastNot blankEnd none)
  · refine ⟨m, tail, ?_, type⟩
    by_cases none : m = []
    · simp [none, LastNot]
    · have ends := lastNot_concat apart before
      rwa [front, lastNot_append _ none] at ends

/-- If the pointer type is a call, to look at, then so are its parameters: the bracket is neither
the first one, in front of which stands the return type, nor the second one, behind `)`. -/
theorem callsEntryPoint_parameters {name : Text} (word : AllWord name) (s : PrintedSignature)
    (calls : CallsEntryPoint (s.pointerType name)) :
    CallsEntryPoint s.parameters := by
  obtain ⟨before, c, name', ws, rest, apart, isName, blank, whole⟩ := calls
  have notBracket : '(' ∉ c :: (name' ++ ws) := by
    have other : '(' ≠ c := by
      intro same
      rw [← same] at apart
      exact absurd apart (by decide)
    simp [other, isName.allWord.no_bracket, blank.no_bracket]
  have atFirst : before ++ c :: (name' ++ ws) ++ '(' :: rest =
      "typedef ".toList ++ (s.returnType ++ s.separator) ++
        '(' :: ("APIENTRYP ".toList ++ (name ++ ')' :: printedList s.parameters)) := by
    unfold pointerType at whole
    simpa [PointerType.declarator] using whole.symm
  have notInType : '(' ∉ "typedef ".toList ++ (s.returnType ++ s.separator) := by
    simp [s.unbracketed, s.separator_bracket]
  rcases cut_cases atFirst notInType with ⟨inType, -⟩ | ⟨more, inside, behind⟩
  · have notWord : isWord c = false := by
      rcases apart with blank | rfl
      · exact not_isWord_of_isBlank blank
      · decide
    exact absurd inType (s.not_endsType notWord isName blank)
  have atSecond : more ++ '(' :: rest = "APIENTRYP ".toList ++ (name ++ ") ".toList) ++
      '(' :: (s.parameters ++ ");".toList) := by
    simpa [printedList] using behind
  have notInName : '(' ∉ "APIENTRYP ".toList ++ (name ++ ") ".toList) := by
    simp [word.no_bracket]
  rcases cut_cases atSecond notInName with ⟨rfl, -⟩ | ⟨more', rfl, behind'⟩
  · have regrouped : before ++ [c] ++ name' ++ ws = "typedef ".toList ++
        (s.returnType ++ (s.separator ++ '(' :: ("APIENTRYP ".toList ++ name))) ++ [')'] ++
        [' '] := by
      simpa using inside
    exact absurd regrouped (isName.ne_append blank (by decide) (by decide))
  obtain ⟨rest', parameters, -⟩ := mark_in_front behind' (by decide)
  obtain ⟨m, -, rfl⟩ := mark_in_front (a := "typedef ".toList ++ (s.returnType ++ s.separator) ++
    '(' :: ("APIENTRYP ".toList ++ (name ++ ") ".toList))) (by simpa using inside.symm) notBracket
  exact ⟨m, c, name', ws, rest', apart, isName, blank, by simpa using parameters⟩

end PrintedSignature

/-- No pointer type is taken for a prototype. -/
theorem Prototype.not_declares_pointerType {name : Text} (word : AllWord name)
    (s : PrintedSignature) (plain : ¬ CallsEntryPoint s.parameters) :
    ¬ Declares (s.pointerType name) := by
  intro declares
  obtain ⟨ws₀, t, blank₀, whole, declared⟩ := declares
  have same (start : HeadNot isBlank t) : t = s.pointerType name := by
    have lineStart : HeadNot isBlank (s.pointerType name) := headNot_cons.mpr (by decide)
    rw [← dropBlanks_of_headNot lineStart, whole, dropBlanks_append blank₀,
      dropBlanks_of_headNot start]
  rcases declared with typed | ⟨ws', u, -, -, rfl, -⟩
  · have calls := typed.callsEntryPoint
    rw [same typed.headNot] at calls
    exact plain (s.callsEntryPoint_parameters word calls)
  · cases congrArg List.head? (same (headNot_cons.mpr (by decide)))

namespace PointerType

theorem typeAt?_printed {name : Text} (some : name ≠ []) (word : AllWord name)
    (s : PrintedSignature) :
    typeAt? (s.returnType ++ declarator s.separator name s.parameters) =
      Option.some ⟨name, s.toSignature⟩ := by
  have found := typeAt?_declarator s.returnType_ne_nil s.typeOneLine some word s.separator_blank
    s.parameterText fun before c behind whole more =>
      nameAndParameters?_unbracketed s.separator_blank (s.not_bracket_behind whole)
        (s.not_allBlank_behind whole more)
  rwa [s.strip_returnType, s.stripped] at found

theorem ofLine?_printed {name : Text} (some : name ≠ []) (word : AllWord name)
    (s : PrintedSignature) :
    ofLine? (s.pointerType name) = Option.some ⟨name, s.toSignature⟩ :=
  ofLine?_defined (s.headNot_printed _) (typeAt?_printed some word s)

end PointerType

theorem ExtensionNote.ofLine?_printed {name : Text} (some : name ≠ [])
    (nameChars : ∀ c ∈ name, isNameChar c = true) :
    ofLine? (ExtensionNote.printed name) = Option.some ("ARB_".toList ++ name) := by
  have close : HeadNot isNameChar " */".toList := headNot_cons.mpr (by decide)
  have after : "/* ARB_".toList.isPrefixOf? (ExtensionNote.printed name) =
      Option.some (name ++ " */".toList) := isPrefixOf?_append "/* ARB_".toList _
  rw [ofLine?, after, Option.bind_some, takeWhile_of_cut nameChars close]
  simp [some]

namespace EntryLine

/-- Reading undoes printing. -/
theorem ofLine?_line (e : EntryLine) : Entry.ofLine? e.line = some e.entry := by
  cases e with
  | extension name some nameChars =>
    rw [line, Entry.ofLine?, ExtensionNote.ofLine?_printed some nameChars]
    rfl
  | prototype name isName s =>
    have note : ExtensionNote.ofLine? (s.prototype name) = none := rfl
    rw [line, Entry.ofLine?, note, Prototype.ofLine?_printed isName s]
    rfl
  | pointerType name some word s plain =>
    have note : ExtensionNote.ofLine? (s.pointerType name) = none := rfl
    have noPrototype : Prototype.ofLine? (s.pointerType name) = none := by
      rw [← Option.not_isSome_iff_eq_none, Prototype.isSome_ofLine?]
      exact Prototype.not_declares_pointerType word s plain
    rw [line, Entry.ofLine?, note, noPrototype, PointerType.ofLine?_printed some word s]
    rfl

example : ∃ e : EntryLine,
    e.line = "typedef const GLubyte *(APIENTRYP PFNGLGETSTRINGPROC) (GLenum name);".toList := by
  have unnamed : ¬ MentionsEntryPoint "const GLubyte *".toList := by
    intro ⟨before, behind, _, whole⟩
    have letter : 'g' ∈ "const GLubyte *".toList := whole ▸ by simp
    exact absurd letter (by decide)
  have plain : ¬ CallsEntryPoint "GLenum name".toList := by
    intro ⟨before, c, name, ws, behind, _, _, _, whole⟩
    have bracket : '(' ∈ "GLenum name".toList := whole ▸ by simp
    exact absurd bracket (by decide)
  exact ⟨.pointerType "PFNGLGETSTRINGPROC".toList (by decide) (by decide)
    { returnType := "const GLubyte *".toList, parameters := "GLenum name".toList, separator := [],
      starts := by decide, unbracketed := by decide, typeOneLine := by decide,
      typeEnds := fun c last => by cases last; decide, unnamed := unnamed,
      separated := Or.inr ⟨rfl, rfl⟩, parameterText := by unfold ParameterText; decide,
      stripped := by decide } plain, rfl⟩

theorem opensConditional_line (e : EntryLine) : Directive.opensConditional e.line = false := by
  cases e <;> rfl

theorem closesConditional_line (e : EntryLine) : Directive.closesConditional e.line = false := by
  cases e <;> rfl

end EntryLine
end GLDispatch
