import GLDispatch.Binding.Fragment
import GLDispatch.Proofs.Case
import GLDispatch.Proofs.Captures

/-! # Outlines

The outline of a binding names the core versions and, for each one, the extensions and the functions
bound in it. The declarations of the pointers and the statements that load them are made from the
outline alone. Conversely, the outline of a parsed header can be read off either text, so that each
of the two determines the other. -/
namespace GLDispatch
open Text

inductive Label where
  | extension (guard : Text)
  | function (name : Text)
  deriving DecidableEq, Repr

def Item.label : Item → Label
  | .extension guard => .extension guard
  | .function f => .function f.name

/-- A block without signatures and origins. -/
structure Outline where
  guard : Text
  labels : List Label
  deriving DecidableEq, Repr

def Block.outline (b : Block) : Outline :=
  ⟨b.guard, b.items.map Item.label⟩

def DefinitionTable.outline (table : DefinitionTable) : List Outline :=
  table.blocks.map Block.outline

def Fragment.text (fragment : Fragment) (table : DefinitionTable) : Text :=
  (fragment.lines table).flatMap (· ++ ['\n'])

/-! ## From the outline to the text -/

/-- The code in the fragment, where it does not depend on signatures. -/
def Label.code (fragment : Fragment) : Label → Text
  | extension guard => Code.comment guard
  | function name => fragment.code ⟨name, ⟨[], []⟩, []⟩

def Outline.lines (fragment : Fragment) (o : Outline) : List Text :=
  Code.ifdef o.guard ::
    (o.labels.map (fun label => Code.indent 1 (label.code fragment)) ++ [Code.endif, []])

namespace Fragment

variable {fragment : Fragment}

theorem itemCode_eq (named : fragment ≠ wrappers) (item : Item) :
    fragment.itemCode item = item.label.code fragment := by
  cases item with
  | extension guard => rfl
  | function f =>
    cases fragment with
    | pointers => rfl
    | wrappers => exact absurd rfl named
    | loaders => rfl

theorem blockLines_eq (named : fragment ≠ wrappers) (b : Block) :
    fragment.blockLines b = b.outline.lines fragment := by
  have opening : fragment.opening b.guard = [] := by
    cases fragment with
    | wrappers => exact absurd rfl named
    | _ => rfl
  have closing : fragment.closing = [] := by
    cases fragment with
    | wrappers => exact absurd rfl named
    | _ => rfl
  rw [blockLines, opening, closing, Outline.lines, Block.outline, List.map_map]
  simp [itemCode_eq named]

theorem lines_eq (named : fragment ≠ wrappers) (table : DefinitionTable) :
    fragment.lines table = table.outline.flatMap (Outline.lines fragment) := by
  rw [lines, DefinitionTable.outline, List.flatMap_map]
  exact congrArg table.blocks.flatMap (funext (blockLines_eq named))

end Fragment

/-! ## Outlines of parsed headers -/

/-- An extension is named by a guard, a function as an entry point of the library. -/
def Label.WellFormed : Label → Prop
  | extension guard => AllWord guard
  | function name => Name.isEntryPoint name = true ∧ AllWord name

structure Outline.WellFormed (o : Outline) : Prop where
  guard : AllWord o.guard
  labels : ∀ label ∈ o.labels, label.WellFormed

theorem ExtensionName.allWord_extensionGuard {name : Text} (h : ExtensionName name) :
    AllWord (Name.extensionGuard name) := by
  obtain ⟨tail, -, nameChars, rfl⟩ := h
  have whole : Name.extensionGuard ("ARB_".toList ++ tail) = "GL_ARB_".toList ++ tail := rfl
  rw [whole]
  exact AllWord.append (by decide) fun c member =>
    ExtensionNote.isWord_of_isNameChar (nameChars c member)

theorem Definition.Clean.label {d : Definition} (clean : d.Clean) :
    ∀ f ∈ d.boundFunctions, (Label.function f.name).WellFormed := by
  intro f member
  obtain ⟨entry, bound, rfl⟩ := List.mem_map.mp member
  obtain ⟨held, binds⟩ := List.mem_filter.mp bound
  rw [Definition.binds, Bool.and_eq_true] at binds
  exact ⟨binds.1, clean.allWord (List.mem_map_of_mem held)⟩

theorem DefinitionTable.exists_of_mem_blocks {table : DefinitionTable} {b : Block}
    (member : b ∈ table.blocks) : ∃ guard d, table.get? guard = some d ∧ b = table.block d := by
  obtain ⟨d, version, rfl⟩ := List.mem_map.mp member
  obtain ⟨guard, -, held⟩ := List.mem_filterMap.mp version
  exact ⟨guard, d, held, rfl⟩

theorem DefinitionTable.WellFormed.outline {table : DefinitionTable} (wf : table.WellFormed) :
    ∀ o ∈ table.outline, o.WellFormed := by
  intro o member
  obtain ⟨b, inBlocks, rfl⟩ := List.mem_map.mp member
  obtain ⟨guard, d, held, rfl⟩ := exists_of_mem_blocks inBlocks
  have clean := wf.definition guard d held
  refine ⟨clean.guard.allWord, ?_⟩
  intro label inBlock
  obtain ⟨item, inItems, rfl⟩ := List.mem_map.mp inBlock
  rcases List.mem_append.mp inItems with own | bundled
  · obtain ⟨f, bound, rfl⟩ := List.mem_map.mp own
    exact clean.label f bound
  · obtain ⟨extension, included, inExtension⟩ := List.mem_flatMap.mp bundled
    rw [extensionItems] at inExtension
    split at inExtension
    next => cases inExtension
    next e held =>
      rcases List.mem_cons.mp inExtension with rfl | inItems
      · exact (clean.includes extension included).allWord_extensionGuard
      · obtain ⟨f, bound, rfl⟩ := List.mem_map.mp inItems
        exact (wf.definition _ e held).label f bound

/-! ## Lines of code -/

/-- Code which stays on its line and shows is moved by one tab. -/
theorem Code.indent_one {c : Char} {code : Text} (visible : isBlank c = false)
    (oneLine : OneLine (c :: code)) : Code.indent 1 (c :: code) = '\t' :: c :: code := by
  have shows : ¬ (c :: code).all isBlank = true := by simp [visible]
  rw [Code.indent, Code.indent, boundaryLines_of_oneLine oneLine (List.cons_ne_nil c code)]
  simp only [List.flatMap_cons, List.flatMap_nil, List.append_nil]
  rw [Code.indentLine, if_neg shows]

namespace Name

theorem eq_append_bare {name : Text} (h : isEntryPoint name = true) :
    name = entryPointStem ++ bare name := by
  obtain ⟨rest, rfl⟩ := List.isPrefixOf_iff_prefix.mp h
  rfl

theorem visible_member {name : Text} (word : AllWord name) : Visible (member name) :=
  Visible.append (by decide) fun c inBare =>
    not_isBlank_of_isWord (word c (List.mem_of_mem_drop inBare))

theorem visible_pointerType {name : Text} (word : AllWord name) : Visible (pointerType name) :=
  Visible.append (Visible.append (by decide) (visible_upper word.visible)) (by decide)

theorem member_injective {first second : Text} (isFirst : isEntryPoint first = true)
    (isSecond : isEntryPoint second = true) (equal : member first = member second) :
    first = second := by
  rw [eq_append_bare isFirst, eq_append_bare isSecond, List.append_cancel_left equal]

end Name

namespace Label

theorem code_pointers (name : Text) :
    (function name).code .pointers =
      Name.pointerType name ++ ' ' :: (Name.member name ++ [';']) := by
  simp [code, Fragment.code, Fragment.pointerDeclaration, Code.memberDeclaration]

theorem code_loaders (name : Text) :
    (function name).code .loaders = Name.member name ++ ' ' :: ("= (".toList ++
      (Name.pointerType name ++ (")getProcAddress(\"".toList ++ (name ++ "\");".toList)))) := by
  simp [code, Fragment.code, Fragment.loaderStatement, Code.assignment, Code.cast, Code.call,
    Code.stringLiteral]

variable {fragment : Fragment}

theorem oneLine_code (named : fragment ≠ .wrappers) {label : Label} (wf : label.WellFormed) :
    OneLine (label.code fragment) := by
  cases label with
  | extension guard =>
    have slashes : OneLine "// ".toList := by decide
    exact slashes.append (AllWord.visible wf).oneLine
  | function name =>
    have pointerType := (Name.visible_pointerType wf.2).oneLine
    have member := (Name.visible_member wf.2).oneLine
    have quoted := (AllWord.visible wf.2).oneLine
    cases fragment with
    | wrappers => exact absurd rfl named
    | pointers =>
      have blank : OneLine [' '] := by decide
      rw [code_pointers]
      exact pointerType.append (blank.append (member.append (by decide)))
    | loaders =>
      have equals : OneLine " = (".toList := by decide
      have address : OneLine ")getProcAddress(\"".toList := by decide
      rw [code_loaders]
      exact member.append (equals.append (pointerType.append (address.append
        (quoted.append (by decide)))))

/-- Code begins with a character that shows, and that tells extensions from functions. -/
theorem exists_head_code (named : fragment ≠ .wrappers) (label : Label) :
    ∃ c rest, label.code fragment = c :: rest ∧ isBlank c = false ∧
      (c = '/' ↔ ∃ guard, label = .extension guard) := by
  cases label with
  | extension guard =>
    exact ⟨'/', "/ ".toList ++ guard, rfl, by decide, by simp⟩
  | function name =>
    cases fragment with
    | wrappers => exact absurd rfl named
    | pointers => exact ⟨'P', _, rfl, by decide, by simp⟩
    | loaders => exact ⟨'m', _, rfl, by decide, by simp⟩

theorem member_eq_of_code (named : fragment ≠ .wrappers) {name name' : Text} (word : AllWord name)
    (word' : AllWord name')
    (equal : (function name).code fragment = (function name').code fragment) :
    Name.member name = Name.member name' := by
  have noBlank {t : Text} (visible : Visible t) : ' ' ∉ t := fun member =>
    absurd (visible ' ' member) (by decide)
  -- The first blank of the code stands behind the type in one fragment, behind the member in the
  -- other one.
  cases fragment with
  | wrappers => exact absurd rfl named
  | pointers =>
    rw [code_pointers, code_pointers] at equal
    have parts := cut_at_mark equal (noBlank (Name.visible_pointerType word))
      (noBlank (Name.visible_pointerType word'))
    exact List.append_cancel_right parts.2
  | loaders =>
    rw [code_loaders, code_loaders] at equal
    exact (cut_at_mark equal (noBlank (Name.visible_member word))
      (noBlank (Name.visible_member word'))).1

theorem code_injective (named : fragment ≠ .wrappers) {first second : Label}
    (wfFirst : first.WellFormed) (wfSecond : second.WellFormed)
    (equal : first.code fragment = second.code fragment) : first = second := by
  obtain ⟨c, rest, whole, -, slash⟩ := exists_head_code named first
  obtain ⟨c', rest', whole', -, slash'⟩ := exists_head_code named second
  have heads : c = c' := by
    rw [whole, whole'] at equal
    exact (List.cons.inj equal).1
  have kinds : (∃ guard, first = .extension guard) ↔ ∃ guard, second = .extension guard := by
    rw [← slash, ← slash', heads]
  cases first with
  | extension guard =>
    obtain ⟨guard', rfl⟩ := kinds.mp ⟨guard, rfl⟩
    have marked : "// ".toList ++ guard = "// ".toList ++ guard' := equal
    rw [List.append_cancel_left marked]
  | function name =>
    cases second with
    | extension guard =>
      obtain ⟨_, impossible⟩ := kinds.mpr ⟨guard, rfl⟩
      cases impossible
    | function name' =>
      have members := member_eq_of_code named wfFirst.2 wfSecond.2 equal
      rw [Name.member_injective wfFirst.1 wfSecond.1 members]

theorem indent_code (named : fragment ≠ .wrappers) {label : Label} (wf : label.WellFormed) :
    Code.indent 1 (label.code fragment) = '\t' :: label.code fragment := by
  have oneLine := oneLine_code named wf
  obtain ⟨c, rest, whole, visible, -⟩ := exists_head_code named label
  rw [whole] at oneLine ⊢
  exact Code.indent_one visible oneLine

end Label

/-! ## From the text to the outline -/

namespace Outline

variable {fragment : Fragment}

theorem labels_injective (named : fragment ≠ .wrappers) {left right : List Label}
    (inLeft : ∀ label ∈ left, label.WellFormed) (inRight : ∀ label ∈ right, label.WellFormed)
    (equal : left.map (fun label => Code.indent 1 (label.code fragment)) =
      right.map fun label => Code.indent 1 (label.code fragment)) : left = right := by
  induction left generalizing right with
  | nil => exact (List.map_eq_nil_iff.mp equal.symm).symm
  | cons label left ih =>
    cases right with
    | nil => cases equal
    | cons other right =>
      obtain ⟨here, later⟩ := List.forall_mem_cons.mp inLeft
      obtain ⟨here', later'⟩ := List.forall_mem_cons.mp inRight
      rw [List.map_cons, List.map_cons] at equal
      obtain ⟨first, rest⟩ := List.cons.inj equal
      rw [Label.indent_code named here, Label.indent_code named here'] at first
      rw [Label.code_injective named here here' (List.cons.inj first).2, ih later later' rest]

theorem endif_not_mem (named : fragment ≠ .wrappers) {labels : List Label}
    (wf : ∀ label ∈ labels, label.WellFormed) :
    Code.endif ∉ labels.map fun label => Code.indent 1 (label.code fragment) := by
  intro member
  obtain ⟨label, inBlock, equal⟩ := List.mem_map.mp member
  rw [Label.indent_code named (wf label inBlock)] at equal
  cases congrArg List.head? equal

/-- The lines of the blocks determine the blocks: a block ends with the first line that is its own
closing conditional, because the lines of the items are indented. -/
theorem flatMap_lines_injective (named : fragment ≠ .wrappers) {left right : List Outline}
    (inLeft : ∀ o ∈ left, o.WellFormed) (inRight : ∀ o ∈ right, o.WellFormed)
    (equal : left.flatMap (lines fragment) = right.flatMap (lines fragment)) : left = right := by
  induction left generalizing right with
  | nil =>
    cases right with
    | nil => rfl
    | cons o right => cases equal
  | cons o left ih =>
    cases right with
    | nil => cases equal
    | cons o' right =>
      obtain ⟨here, later⟩ := List.forall_mem_cons.mp inLeft
      obtain ⟨here', later'⟩ := List.forall_mem_cons.mp inRight
      rw [List.flatMap_cons, List.flatMap_cons, lines, lines] at equal
      simp only [List.cons_append, List.append_assoc] at equal
      obtain ⟨opening, body⟩ := List.cons.inj equal
      obtain ⟨labels, rest⟩ := cut_at_mark body (endif_not_mem named here.labels)
        (endif_not_mem named here'.labels)
      have marked : "#ifdef ".toList ++ o.guard = "#ifdef ".toList ++ o'.guard := opening
      have sameGuard := List.append_cancel_left marked
      have sameLabels := labels_injective named here.labels here'.labels labels
      rw [ih later later' (List.cons.inj rest).2]
      cases o
      cases o'
      cases sameGuard
      cases sameLabels
      rfl

theorem oneLine_of_mem_lines (named : fragment ≠ .wrappers) {o : Outline} (wf : o.WellFormed) :
    ∀ line ∈ o.lines fragment, OneLine line := by
  have ifdef : OneLine "#ifdef ".toList := by decide
  have tab : OneLine ['\t'] := by decide
  have endif : OneLine Code.endif := by decide
  intro line member
  rcases List.mem_cons.mp member with rfl | member
  · exact ifdef.append wf.guard.visible.oneLine
  rcases List.mem_append.mp member with inItems | inEnd
  · obtain ⟨label, inBlock, rfl⟩ := List.mem_map.mp inItems
    rw [Label.indent_code named (wf.labels label inBlock)]
    exact tab.append (Label.oneLine_code named (wf.labels label inBlock))
  · rcases List.mem_cons.mp inEnd with rfl | inEnd
    · exact endif
    · rw [List.mem_singleton.mp inEnd]
      decide

end Outline

theorem Fragment.not_newline_of_mem_lines {fragment : Fragment} (named : fragment ≠ wrappers)
    {table : DefinitionTable} (wf : table.WellFormed) :
    ∀ line ∈ table.outline.flatMap (Outline.lines fragment), '\n' ∉ line := by
  intro line member newline
  obtain ⟨o, inOutline, inBlock⟩ := List.mem_flatMap.mp member
  have oneLine := Outline.oneLine_of_mem_lines named (wf.outline o inOutline) line inBlock
  exact absurd (oneLine '\n' newline) (by decide)

theorem Fragment.text_eq_iff {fragment : Fragment} (named : fragment ≠ wrappers)
    {left right : DefinitionTable} (inLeft : left.WellFormed) (inRight : right.WellFormed) :
    fragment.text left = fragment.text right ↔ left.outline = right.outline := by
  rw [text, text, lines_eq named, lines_eq named]
  constructor
  · intro equal
    exact Outline.flatMap_lines_injective named inLeft.outline inRight.outline
      (lines_injective (not_newline_of_mem_lines named inLeft)
        (not_newline_of_mem_lines named inRight) equal)
  · intro equal
    rw [equal]

/-- Either of the two texts determines the other one, and both the outline: the versions, and in
each one the extensions and the names of the functions. -/
theorem Parsed.pointers_text_eq_iff (first second : List Text) :
    (Fragment.pointers.text (ofLines first).table = Fragment.pointers.text (ofLines second).table ↔
      Fragment.loaders.text (ofLines first).table = Fragment.loaders.text (ofLines second).table) ∧
    (Fragment.pointers.text (ofLines first).table = Fragment.pointers.text (ofLines second).table ↔
      (ofLines first).table.outline = (ofLines second).table.outline) := by
  have namedPointers : Fragment.pointers ≠ .wrappers := by decide
  have namedLoaders : Fragment.loaders ≠ .wrappers := by decide
  have pointers := Fragment.text_eq_iff namedPointers (wellFormed first) (wellFormed second)
  have loaders := Fragment.text_eq_iff namedLoaders (wellFormed first) (wellFormed second)
  exact ⟨pointers.trans loaders.symm, pointers⟩

end GLDispatch
