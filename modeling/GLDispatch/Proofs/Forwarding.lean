import GLDispatch.Binding.Fragment
import GLDispatch.Proofs.ArgumentList

/-! # Forwarded arguments

A wrapper passes on the identifiers of its parameters. In a parameter as it is written in C the
identifier stands behind the type, apart from it or right behind an asterisk, and in front of the
sizes of an array: wherever the blanks are put, these are the marks between which it is found. -/
namespace GLDispatch
open Text

/-! ## Parameters -/

structure Spacing where
  text : Text
  nonempty : text ≠ []
  blank : AllBlank text

/-- One word of a type. -/
structure TypeToken where
  text : Text
  nonempty : text ≠ []
  visible : Visible text
  noComma : ',' ∉ text

/-- What can stand in front of the last asterisk of a pointer type. -/
inductive Sigil where
  | asterisk
  | const
  | blank (c : Char) (isBlank : isBlank c = true)

def Sigil.text : Sigil → Text
  | asterisk => ['*']
  | const => "const".toList
  | blank c _ => [c]

/-- What stands between a type and an identifier. -/
inductive Joint where
  | spaced (spacing : Spacing)
  | pointing (sigils : List Sigil)

def Joint.text : Joint → Text
  | spaced spacing => spacing.text
  | pointing sigils => sigils.flatMap Sigil.text ++ ['*']

/-- The size of an array, possibly left open. -/
structure ArraySize where
  size : Text
  word : AllWord size

def ArraySize.text (a : ArraySize) : Text :=
  '[' :: (a.size ++ [']'])

/-- A parameter as it is written in C, with blanks around it. -/
structure Parameter where
  lead : Text
  leadBlank : AllBlank lead
  token : TypeToken
  tokens : List (Spacing × TypeToken)
  joint : Joint
  identifier : Text
  nonempty : identifier ≠ []
  visible : Visible identifier
  noComma : ',' ∉ identifier
  noAsterisk : '*' ∉ identifier
  noBracket : '[' ∉ identifier
  sizes : List ArraySize
  trail : Text
  trailBlank : AllBlank trail

namespace Parameter

def type (p : Parameter) : Text :=
  p.token.text ++ p.tokens.flatMap fun next => next.1.text ++ next.2.text

/-- The identifier with the sizes behind it. -/
def declarator (p : Parameter) : Text :=
  p.identifier ++ p.sizes.flatMap ArraySize.text

/-- All that stands in front of the identifier. -/
def front (p : Parameter) : Text :=
  p.lead ++ p.type ++ p.joint.text

def text (p : Parameter) : Text :=
  p.front ++ (p.declarator ++ p.trail)

/-- The parameters with commas between them. -/
def listText (parameters : List Parameter) : Text :=
  List.intercalate [','] (parameters.map text)

end Parameter

/-! ## Parts of a parameter -/

theorem Sigil.noComma (s : Sigil) : ',' ∉ s.text := by
  cases s with
  | asterisk | const => decide
  | blank c isBlank =>
    have blank : AllBlank [c] := allBlank_cons.mpr ⟨isBlank, fun _ member => by cases member⟩
    exact blank.not_mem (by decide)

namespace Joint

theorem noComma (j : Joint) : ',' ∉ j.text := by
  cases j with
  | spaced spacing => exact spacing.blank.not_mem (by decide)
  | pointing sigils =>
    simp only [text, List.mem_append, List.mem_flatMap, not_or, not_exists, not_and]
    exact ⟨fun s _ => s.noComma, by decide⟩

theorem nonempty (j : Joint) : j.text ≠ [] := by
  cases j with
  | spaced spacing => exact spacing.nonempty
  | pointing sigils => simp [text]

theorem ends (j : Joint) : LastNot Argument.isPlain j.text := by
  cases j with
  | spaced spacing =>
    exact fun c last => by simp [Argument.isPlain, spacing.blank c (List.mem_of_getLast? last)]
  | pointing sigils => exact lastNot_concat (by decide) _

/-- No word is a joint. -/
theorem exists_not_isWord (j : Joint) : ∃ c ∈ j.text, isWord c = false := by
  have last := List.getLast?_eq_some_getLast j.nonempty
  refine ⟨_, List.getLast_mem j.nonempty, ?_⟩
  have mark := j.ends _ last
  rw [Argument.isPlain, Bool.and_eq_false_iff, Bool.not_eq_false', bne_eq_false_iff_eq] at mark
  rcases mark with blank | asterisk
  · exact not_isWord_of_isBlank blank
  · rw [asterisk]
    decide

end Joint

theorem ArraySize.mem_text {a : ArraySize} {c : Char} (member : c ∈ a.text) :
    c = '[' ∨ c = ']' ∨ isWord c = true := by
  simp only [text, List.mem_cons, List.mem_append, List.not_mem_nil, or_false] at member
  rcases member with opens | inSize | closes
  · exact Or.inl opens
  · exact Or.inr (Or.inr (a.word c inSize))
  · exact Or.inr (Or.inl closes)

namespace Parameter

variable (p : Parameter)

theorem mem_declarator {c : Char} (member : c ∈ p.declarator) :
    c ∈ p.identifier ∨ c = '[' ∨ c = ']' ∨ isWord c = true := by
  rcases List.mem_append.mp member with inIdentifier | inSizes
  · exact Or.inl inIdentifier
  · obtain ⟨a, -, inText⟩ := List.mem_flatMap.mp inSizes
    exact Or.inr (ArraySize.mem_text inText)

theorem visible_declarator : Visible p.declarator := by
  intro c member
  rcases p.mem_declarator member with inIdentifier | rfl | rfl | word
  · exact p.visible c inIdentifier
  · decide
  · decide
  · exact not_isBlank_of_isWord word

theorem not_mem_declarator {mark : Char} (notWord : isWord mark = false) (notOpening : mark ≠ '[')
    (notClosing : mark ≠ ']') (notInIdentifier : mark ∉ p.identifier) : mark ∉ p.declarator := by
  intro member
  rcases p.mem_declarator member with inIdentifier | opens | closes | word
  · exact notInIdentifier inIdentifier
  · exact notOpening opens
  · exact notClosing closes
  · rw [notWord] at word
    cases word

theorem noComma_declarator : ',' ∉ p.declarator :=
  p.not_mem_declarator (by decide) (by decide) (by decide) p.noComma

theorem noAsterisk_declarator : '*' ∉ p.declarator :=
  p.not_mem_declarator (by decide) (by decide) (by decide) p.noAsterisk

theorem declarator_ne_nil : p.declarator ≠ [] :=
  List.append_ne_nil_of_left_ne_nil p.nonempty _

theorem before_declarator : before '[' p.declarator = p.identifier := by
  have inside : ∀ c ∈ p.identifier, (c != '[') = true := by
    intro c member
    exact bne_iff_ne.mpr fun same => p.noBracket (same ▸ member)
  have outside : HeadNot (· != '[') (p.sizes.flatMap ArraySize.text) := by
    cases p.sizes with
    | nil => simp [HeadNot]
    | cons a sizes => exact headNot_cons.mpr (by decide)
  exact takeWhile_of_cut inside outside

theorem noComma_type : ',' ∉ p.type := by
  simp only [type, List.mem_append, List.mem_flatMap, not_or, not_exists, not_and]
  exact ⟨p.token.noComma,
    fun next _ => ⟨next.1.blank.not_mem (by decide), next.2.noComma⟩⟩

theorem noComma_text : ',' ∉ p.text := by
  have lead : ',' ∉ p.lead := p.leadBlank.not_mem (by decide)
  have trail : ',' ∉ p.trail := p.trailBlank.not_mem (by decide)
  simp [text, front, lead, p.noComma_type, p.joint.noComma, p.noComma_declarator, trail]

theorem identifier_text : Argument.identifier p.text = p.identifier := by
  have ends : LastNot Argument.isPlain p.front :=
    (lastNot_append _ p.joint.nonempty).mpr p.joint.ends
  have plain := Argument.plain_iff.mpr ⟨p.visible_declarator, p.noAsterisk_declarator⟩
  rw [text, Argument.identifier_of_run ends p.declarator_ne_nil plain p.trailBlank,
    p.before_declarator]

example : ∃ p : Parameter, p.text = "const GLchar *const*string[4]".toList ∧
    p.identifier = "string".toList :=
  ⟨{ lead := []
     leadBlank := fun _ member => by cases member
     token := ⟨"const".toList, by decide, by decide, by decide⟩
     tokens := [(⟨[' '], by decide, allBlank_space⟩,
       ⟨"GLchar".toList, by decide, by decide, by decide⟩)]
     joint := .pointing [.blank ' ' (by decide), .asterisk, .const]
     identifier := "string".toList
     nonempty := by decide
     visible := by decide
     noComma := by decide
     noAsterisk := by decide
     noBracket := by decide
     sizes := [⟨['4'], by decide⟩]
     trail := []
     trailBlank := fun _ member => by cases member }, by decide⟩

end Parameter

/-! ## Lists of parameters -/

/-- The word for no parameters is not a list of any. -/
theorem Parameter.listText_ne_voidType (first : Parameter) (rest : List Parameter) :
    listText (first :: rest) ≠ Argument.voidType := by
  have begins : ∃ others, listText (first :: rest) = first.text ++ others := by
    cases rest with
    | nil => exact ⟨[], by simp [listText]⟩
    | cons second rest => exact ⟨_, List.intercalate_cons_cons.trans (List.append_assoc _ _ _)⟩
  intro same
  obtain ⟨others, whole⟩ := begins
  obtain ⟨c, inJoint, notWord⟩ := first.joint.exists_not_isWord
  have inList : c ∈ Argument.voidType := by
    rw [← same, whole]
    simp [text, front, inJoint]
  have word : AllWord Argument.voidType := by decide
  rw [word c inList] at notWord
  cases notWord

theorem Parameter.forwarded_listText (first : Parameter) (rest : List Parameter) :
    Argument.forwarded (listText (first :: rest)) = (first :: rest).map identifier := by
  have cut : Pieces ',' (listText (first :: rest)) ((first :: rest).map text) := by
    refine ⟨List.cons_ne_nil _ _, fun t member => ?_, rfl⟩
    obtain ⟨p, -, rfl⟩ := List.mem_map.mp member
    exact p.noComma_text
  rw [Argument.forwarded_eq_map (listText_ne_voidType first rest) cut, List.map_map]
  exact List.map_congr_left fun p _ => p.identifier_text

/-- A wrapper forwards exactly the identifiers of its parameters, in their order, and calls the member
with them. -/
theorem Fragment.wrapper_forwards (first : Parameter) (rest : List Parameter) :
    let parameters := Parameter.listText (first :: rest)
    let identifiers := (first :: rest).map Parameter.identifier
    Argument.forwarded parameters = identifiers ∧
      (Argument.forwarded parameters).length = (first :: rest).length ∧
      ∀ name returnType origin, ∃ result,
        result ++ Code.call (Name.member name) identifiers ∈
          wrapperStatements ⟨name, ⟨returnType, parameters⟩, origin⟩ := by
  intro parameters identifiers
  have forwarded : Argument.forwarded parameters = identifiers :=
    Parameter.forwarded_listText first rest
  refine ⟨forwarded, by rw [forwarded, List.length_map], fun name returnType origin => ?_⟩
  rw [wrapperStatements]
  dsimp only
  rw [forwarded]
  split
  next => exact ⟨returnType ++ [' '] ++ resultName ++ " = ".toList, by simp⟩
  next => exact ⟨[], by simp⟩

end GLDispatch
