import GLDispatch.Proofs.ArgumentList
import GLDispatch.Proofs.Indentation
import GLDispatch.Proofs.Multiplicity
import GLDispatch.Proofs.Outline

/-! # Lines of a binding

The lines of a fragment are those of its versions, one after the other: the conditional of the
version around one indented line for each item. Captured types and parameters bring no line feed into
any of them, so the lines can be read back from the text of the binding. -/
namespace GLDispatch
open Text

/-- The lines of a version in the fragment, around those of its items. -/
def Fragment.frame (fragment : Fragment) (guard : Text) (items : List Text) : List Text :=
  match fragment with
  | wrappers =>
    ["#ifdef ".toList ++ guard, "/// @name ".toList ++ (guard ++ " functions".toList),
      "//@\x7b".toList] ++ items ++ ["//@\x7d".toList, "#endif".toList, []]
  | pointers | loaders => ["#ifdef ".toList ++ guard] ++ items ++ ["#endif".toList, []]

theorem Fragment.blockLines_eq_frame (fragment : Fragment) (b : Block) :
    fragment.blockLines b =
      fragment.frame b.guard (b.items.map fun item => Code.indent 1 (fragment.itemCode item)) := by
  cases fragment with
  | wrappers =>
    rw [blockLines, frame, List.append_assoc (_ ++ _ ++ _)]
    rfl
  | pointers | loaders =>
    rw [blockLines, opening, closing, List.append_nil, List.append_nil]
    rfl

/-! ## Indented code -/

namespace Code

theorem mem_indent {depth : Nat} {code : Text} {c : Char} (member : c ∈ indent depth code) :
    c ∈ code ∨ c = '\t' := by
  rw [indent_eq] at member
  obtain ⟨line, inCode, inLine⟩ := List.mem_flatMap.mp member
  have whole : c ∈ line → c ∈ code := by
    intro here
    rw [← (lined_boundaryLines code).flatten]
    exact List.mem_flatten.mpr ⟨line, inCode, here⟩
  rw [indentedLine] at inLine
  split at inLine
  next => exact Or.inl (whole inLine)
  next => exact (List.mem_append.mp inLine).symm.imp whole List.eq_of_mem_replicate

/-- Code whose first line shows something is moved by one tab, whatever the lines behind it. -/
theorem head?_indent_one {front rest : Text} {c : Char} (oneLine : OneLine front)
    (visible : isBlank c = false) : (indent 1 (front ++ c :: rest)).head? = some '\t' := by
  have stays : isLineBoundary c = false := by
    cases boundary : isLineBoundary c with
    | false => rfl
    | true => rw [isBlank_of_isLineBoundary boundary] at visible; cases visible
  -- The first line may end anywhere in `rest`, but it holds `c` and is not blank for that reason.
  obtain ⟨first, others, lines⟩ := exists_boundaryLines oneLine stays rest
  have shows : ¬ (front ++ c :: first).all isBlank = true := by simp [visible]
  rw [indent, indent, lines, List.flatMap_cons, indentLine, if_neg shows]
  rfl

/-- Code without line feeds that shows something on its first line. -/
structure Shown (code : Text) : Prop where
  newline : '\n' ∉ code
  front : ∃ front c rest, code = front ++ c :: rest ∧ OneLine front ∧ isBlank c = false

theorem Shown.newline_not_mem_indent {code : Text} (shown : Shown code) : '\n' ∉ indent 1 code := by
  intro newline
  rcases mem_indent newline with inCode | tab
  · exact shown.newline inCode
  · cases tab

theorem Shown.head?_indent {code : Text} (shown : Shown code) :
    (indent 1 code).head? = some '\t' := by
  obtain ⟨front, c, rest, rfl, oneLine, visible⟩ := shown.front
  exact head?_indent_one oneLine visible

theorem newline_not_mem_intercalate {mark : Text} {parts : List Text} (inMark : '\n' ∉ mark)
    (inParts : ∀ part ∈ parts, '\n' ∉ part) : '\n' ∉ List.intercalate mark parts := by
  intro newline
  rcases mem_intercalate newline with here | ⟨part, member, inPart⟩
  · exact inMark here
  · exact inParts part member inPart

theorem newline_not_mem_call {function : Text} {arguments : List Text}
    (inFunction : '\n' ∉ function) (inArguments : ∀ a ∈ arguments, '\n' ∉ a) :
    '\n' ∉ call function arguments := by
  have inList : '\n' ∉ List.intercalate ", ".toList arguments :=
    newline_not_mem_intercalate (by decide) inArguments
  simp only [call, List.mem_append, List.mem_singleton, not_or]
  exact ⟨⟨⟨inFunction, by decide⟩, inList⟩, by decide⟩

theorem newline_not_mem_inlineFunction {name type parameters : Text} {statements : List Text}
    (inName : '\n' ∉ name) (inType : '\n' ∉ type) (inParameters : '\n' ∉ parameters)
    (inStatements : ∀ s ∈ statements, '\n' ∉ s) :
    '\n' ∉ inlineFunction name type parameters statements := by
  have inBody : '\n' ∉ List.intercalate [' '] (statements.map (· ++ [';'])) :=
    newline_not_mem_intercalate (by decide) (by simpa using inStatements)
  simp [inlineFunction, signature, inName, inType, inParameters, inBody]

end Code

/-! ## Wrappers -/

theorem Text.Visible.newline_not_mem {t : Text} (visible : Visible t) : '\n' ∉ t :=
  fun member => absurd (visible '\n' member) (by decide)

theorem Text.OneLine.newline_not_mem {t : Text} (oneLine : OneLine t) : '\n' ∉ t :=
  fun member => absurd (oneLine '\n' member) (by decide)

theorem Name.visible_method {name : Text} (word : AllWord name) : Visible (method name) := by
  have bareWord : AllWord (bare name) := fun c member => word c (List.mem_of_mem_drop member)
  unfold method
  cases whole : bare name with
  | nil => simp [Visible]
  | cons c rest =>
    rw [whole] at bareWord
    have visible := bareWord.visible
    refine Visible.append (fun d member => ?_) fun d member => visible d (List.mem_cons_of_mem c member)
    exact not_isBlank_of_mem_lowerChar (visible c List.mem_cons_self) member

namespace Fragment

theorem newline_not_mem_wrapperMethod {f : BoundFunction} (word : AllWord f.name)
    (clean : f.signature.Clean) : '\n' ∉ wrapperMethod f := by
  have arguments : ∀ argument ∈ Argument.forwarded f.signature.parameters, '\n' ∉ argument :=
    fun argument member => (Argument.clean_of_mem_forwarded argument member).visible.newline_not_mem
  have call := Code.newline_not_mem_call (Name.visible_member word).newline_not_mem arguments
  have before : '\n' ∉ checkBefore := by decide
  have after : '\n' ∉ checkAfter := by decide
  apply Code.newline_not_mem_inlineFunction (Name.visible_method word).newline_not_mem
    clean.returnType.oneLine clean.parameters.oneLine
  unfold wrapperStatements
  dsimp only
  split
  next =>
    have assigned : '\n' ∉ [' '] ++ resultName ++ " = ".toList := by decide
    have result : '\n' ∉ "return ".toList ++ resultName := by decide
    simp only [List.forall_mem_cons, List.append_assoc, List.mem_append, not_or] at assigned result ⊢
    exact ⟨before, ⟨clean.returnType.oneLine, assigned.1, assigned.2.1, assigned.2.2, call⟩, after,
      result, by simp⟩
  next =>
    simp only [List.forall_mem_cons]
    exact ⟨before, call, after, by simp⟩

/-- A method begins with its return type, or with its name where a pointer type of that name was
captured without a return type. -/
theorem exists_front_wrapperMethod {f : BoundFunction} (word : AllWord f.name)
    (clean : f.signature.Clean) :
    ∃ front c rest, wrapperMethod f = front ++ c :: rest ∧ OneLine front ∧ isBlank c = false := by
  have whole : ∃ body, wrapperMethod f =
      f.signature.returnType ++ ([' '] ++ Name.method f.name ++ '(' :: body) := by
    refine ⟨f.signature.parameters ++ ([')'] ++ (" \x7b ".toList ++ (List.intercalate [' ']
      ((wrapperStatements f).map (· ++ [';'])) ++ " \x7d".toList))), ?_⟩
    simp only [wrapperMethod, Code.inlineFunction, Code.signature, List.append_assoc,
      List.cons_append, List.nil_append]
  obtain ⟨body, whole⟩ := whole
  cases type : f.signature.returnType with
  | nil =>
    have blank : OneLine [' '] := by decide
    rw [type] at whole
    exact ⟨[' '] ++ Name.method f.name, '(', body, whole,
      blank.append (Name.visible_method word).oneLine, by decide⟩
  | cons c rest =>
    have visible : isBlank c = false := headNot_cons.mp (type ▸ clean.returnType.starts)
    rw [type] at whole
    exact ⟨[], c, _, whole, by simp [OneLine], visible⟩

end Fragment

/-! ## Items -/

theorem Label.shown_code {fragment : Fragment} (named : fragment ≠ .wrappers) {label : Label}
    (wf : label.WellFormed) : Code.Shown (label.code fragment) := by
  obtain ⟨c, rest, whole, visible, -⟩ := exists_head_code named label
  exact ⟨(oneLine_code named wf).newline_not_mem, [], c, rest, whole, by simp [OneLine], visible⟩

/-- Only the code of wrappers depends on signatures. -/
theorem Fragment.shown_itemCode (fragment : Fragment) {item : Item} (wf : item.label.WellFormed)
    (clean : ∀ f, item = .function f → f.signature.Clean) :
    Code.Shown (fragment.itemCode item) := by
  by_cases named : fragment = wrappers
  · subst named
    cases item with
    | extension guard =>
      have marker : wrappers.itemCode (.extension guard) =
          (Label.extension guard).code .pointers := rfl
      rw [marker]
      exact Label.shown_code (by decide) wf
    | function f =>
      have whole := clean f rfl
      exact ⟨newline_not_mem_wrapperMethod wf.2 whole, exists_front_wrapperMethod wf.2 whole⟩
  · rw [itemCode_eq named]
    exact Label.shown_code named wf

theorem Parsed.shown_itemCode {lines : List Text} (fragment : Fragment) {b : Block}
    (block : b ∈ (ofLines lines).table.blocks) :
    ∀ item ∈ b.items, Code.Shown (fragment.itemCode item) := by
  intro item member
  have outline := (wellFormed lines).outline b.outline (List.mem_map_of_mem block)
  apply fragment.shown_itemCode (outline.labels item.label (List.mem_map_of_mem member))
  rintro f rfl
  obtain ⟨guard, d, held, rfl⟩ := DefinitionTable.exists_of_mem_blocks block
  obtain ⟨e, defined, signature⟩ :=
    DefinitionTable.signature_of_mem_block (wellFormed lines).guard held f member
  exact ((wellFormed lines).definition _ e defined).signature signature

/-! ## The whole binding -/

theorem Fragment.newline_not_mem_frame (fragment : Fragment) {guard : Text} (word : AllWord guard)
    {items : List Text} (inside : ∀ line ∈ items, '\n' ∉ line) :
    ∀ line ∈ fragment.frame guard items, '\n' ∉ line := by
  have inGuard : '\n' ∉ guard := word.visible.newline_not_mem
  cases fragment <;> simpa [frame, or_imp, forall_and, inGuard] using inside

/-- How a fragment of a binding is laid out. -/
structure Fragment.IsLaidOut (fragment : Fragment) (table : DefinitionTable) : Prop where
  newline : ∀ line ∈ fragment.lines table, '\n' ∉ line
  /-- Every block stands in the frame of its version, with a line for each item. -/
  lines : fragment.lines table = table.blocks.flatMap fun b =>
    fragment.frame b.guard (b.items.map fun item => Code.indent 1 (fragment.itemCode item))
  /-- Items are indented, so none can be taken for a directive. -/
  items : ∀ b ∈ table.blocks, ∀ item ∈ b.items,
    (Code.indent 1 (fragment.itemCode item)).head? = some '\t' ∧
      (Code.indent 1 (fragment.itemCode item)).head? ≠ some '#'

theorem Parsed.isLaidOut (lines : List Text) (fragment : Fragment) :
    fragment.IsLaidOut (ofLines lines).table where
  newline := by
    intro line member
    obtain ⟨b, block, inBlock⟩ := List.mem_flatMap.mp member
    have outline := (wellFormed lines).outline b.outline (List.mem_map_of_mem block)
    rw [Fragment.blockLines_eq_frame] at inBlock
    refine fragment.newline_not_mem_frame outline.guard ?_ line inBlock
    intro code inItems
    obtain ⟨item, given, rfl⟩ := List.mem_map.mp inItems
    exact (shown_itemCode fragment block item given).newline_not_mem_indent
  lines := by
    rw [Fragment.lines, funext fragment.blockLines_eq_frame]
  items := by
    intro b block item member
    rw [(shown_itemCode fragment block item member).head?_indent]
    exact ⟨rfl, by decide⟩

/-- The text of a binding, split at its line feeds, is the lines of the three fragments, each of them
laid out by the versions of the header in the order of their code points. -/
theorem Parsed.split_binding (header : List Text) :
    let table := (ofLines header).table
    table.binding.splitOn '\n' = Fragment.all.flatMap (·.lines table) ++ [[]] ∧
      table.blocks.map Block.guard = table.versionGuards ∧
      table.versionGuards.Pairwise (· < ·) ∧
      (∀ guard, guard ∈ table.versionGuards ↔
        guard ∈ table.keys ∧ DefinitionTable.isVersion guard = true) ∧
      ∀ fragment : Fragment, fragment.IsLaidOut table := by
  intro table
  have newline : ∀ line ∈ Fragment.all.flatMap (·.lines table), '\n' ∉ line := by
    intro line member
    obtain ⟨fragment, -, inFragment⟩ := List.mem_flatMap.mp member
    exact (isLaidOut header fragment).newline line inFragment
  exact ⟨splitOn_lines newline, DefinitionTable.map_guard_blocks (wellFormed header).guard,
    table.versionGuards_lt, fun _ => DefinitionTable.mem_versionGuards, isLaidOut header⟩

end GLDispatch
