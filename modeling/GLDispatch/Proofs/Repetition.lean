import GLDispatch.Proofs.DerivedNames

/-! # Repeated members

A block declares a member for each visit to a definition which binds its function, and nothing keeps
the visits apart: an extension can be bundled twice, it can bear the guard of the version itself, and
it can bind a function which the version or another extension binds too. Otherwise, and only then,
each member is declared once. -/
namespace GLDispatch

def Item.function? : Item → Option BoundFunction
  | .extension _ => none
  | .function f => some f

/-- The functions of the block, one for each member that is declared in it. -/
def Block.functions (b : Block) : List BoundFunction :=
  b.items.filterMap Item.function?

/-- The block of the version takes the function from the definition of the guard. -/
def DefinitionTable.Supplies (table : DefinitionTable) (version : Definition) (guard name : Text) :
    Prop :=
  table.bindable guard name = true ∧ 0 < table.visits version guard

/-! ## Functions of a block -/

theorem Block.mem_functions {b : Block} {f : BoundFunction} :
    f ∈ b.functions ↔ Item.function f ∈ b.items := by
  rw [functions, List.mem_filterMap]
  constructor
  · rintro ⟨item, member, same⟩
    cases item with
    | extension => cases same
    | function g =>
      cases same
      exact member
  · exact fun member => ⟨_, member, rfl⟩

theorem Block.countP_functions (b : Block) (name origin : Text) :
    b.functions.countP (fun f => f.name == name && f.origin == origin) =
      b.items.countP (Item.isFunction name origin) := by
  rw [functions, List.countP_filterMap]
  apply List.countP_congr
  intro item _
  cases item <;> simp [Item.function?, Item.isFunction]

theorem Block.count_names (b : Block) (name : Text) :
    (b.functions.map BoundFunction.name).count name =
      b.functions.countP fun f => f.name == name := by
  rw [List.count_eq_countP, List.countP_map]
  rfl

namespace DefinitionTable

variable {table : DefinitionTable}

section Supplies

variable (ownGuards : ∀ guard d, table.get? guard = some d → d.guard = guard)
  {guard : Text} {version : Definition} (held : table.get? guard = some version)
include ownGuards held

theorem countP_functions_block (name origin : Text) :
    (table.block version).functions.countP (fun f => f.name == name && f.origin == origin) =
      if table.bindable origin name then table.visits version origin else 0 := by
  rw [Block.countP_functions, countP_block ownGuards held]

/-- The block has exactly the functions which some definition supplies. -/
theorem supplies_iff (name origin : Text) : table.Supplies version origin name ↔
    ∃ f ∈ (table.block version).functions, f.name = name ∧ f.origin = origin := by
  have count := countP_functions_block ownGuards held name origin
  have taken : (∃ f ∈ (table.block version).functions, f.name = name ∧ f.origin = origin) ↔
      0 < if table.bindable origin name then table.visits version origin else 0 := by
    rw [← count, List.countP_pos_iff]
    simp
  rw [taken, Supplies]
  cases table.bindable origin name <;> simp

/-- Where one definition alone supplies a name, the block has it once for each visit there. -/
theorem count_names_block {name origin : Text} (supplied : table.Supplies version origin name)
    (only : ∀ other, table.Supplies version other name → other = origin) :
    ((table.block version).functions.map BoundFunction.name).count name =
      table.visits version origin := by
  have here : (table.block version).functions.countP (fun f => f.name == name) =
      (table.block version).functions.countP fun f => f.name == name && f.origin == origin := by
    apply List.countP_congr
    intro f member
    by_cases named : f.name = name
    · have from' := only f.origin
        ((supplies_iff ownGuards held name f.origin).mpr ⟨f, member, named, rfl⟩)
      simp [named, from']
    · simp [named]
  rw [Block.count_names, here, countP_functions_block ownGuards held, if_pos supplied.1]

/-- The names of a block are distinct exactly if one definition at most supplies each of them, and
the block comes to this definition once. -/
theorem nodup_names_block_iff : ((table.block version).functions.map BoundFunction.name).Nodup ↔
    ∀ name first second, table.Supplies version first name → table.Supplies version second name →
      first = second ∧ table.visits version first = 1 := by
  constructor
  · intro distinct name first second supplied supplied'
    have only (other : Text) (another : table.Supplies version other name) : other = first := by
      obtain ⟨f, inBlock, named, rfl⟩ := (supplies_iff ownGuards held name first).mp supplied
      obtain ⟨g, inBlock', named', rfl⟩ := (supplies_iff ownGuards held name other).mp another
      rw [List.inj_on_of_nodup_map distinct inBlock' inBlock (named'.trans named.symm)]
    have count := count_names_block ownGuards held supplied only
    have once := List.nodup_iff_count_le_one.mp distinct name
    have visited := supplied.2
    exact ⟨(only second supplied').symm, by omega⟩
  · intro single
    rw [List.nodup_iff_count_le_one]
    intro name
    by_cases known : ∃ origin, table.Supplies version origin name
    · obtain ⟨origin, supplied⟩ := known
      have only (other : Text) (another : table.Supplies version other name) : other = origin :=
        (single name other origin another supplied).1
      rw [count_names_block ownGuards held supplied only]
      exact Nat.le_of_eq (single name origin origin supplied supplied).2
    · have absent : name ∉ (table.block version).functions.map BoundFunction.name := by
        intro member
        obtain ⟨f, inBlock, named⟩ := List.mem_map.mp member
        exact known
          ⟨f.origin, (supplies_iff ownGuards held name f.origin).mpr ⟨f, inBlock, named, rfl⟩⟩
      rw [List.count_eq_zero_of_not_mem absent]
      exact Nat.zero_le 1

end Supplies

end DefinitionTable

/-! ## Declarations of a block -/

section Declarations

variable {table : DefinitionTable} (wf : table.WellFormed) {b : Block} (block : b ∈ table.blocks)
include wf block

theorem Block.label_of_mem_names :
    ∀ name ∈ b.functions.map BoundFunction.name, (Label.function name).WellFormed := by
  intro name member
  obtain ⟨f, inBlock, rfl⟩ := List.mem_map.mp member
  exact (wf.outline b.outline (List.mem_map_of_mem block)).labels _
    (List.mem_map_of_mem (Block.mem_functions.mp inBlock))

theorem Block.nodup_members_iff : (b.functions.map fun f => Name.member f.name).Nodup ↔
    (b.functions.map BoundFunction.name).Nodup := by
  have labels := Block.label_of_mem_names wf block
  have members : b.functions.map (fun f => Name.member f.name) =
      (b.functions.map BoundFunction.name).map Name.member := by
    rw [List.map_map]
    rfl
  rw [members]
  exact ⟨fun distinct => distinct.of_map Name.member, fun distinct =>
    distinct.map_on fun first inFirst second inSecond =>
      Name.member_injective (labels first inFirst).1 (labels second inSecond).1⟩

theorem Block.nodup_declarations_iff : (b.functions.map Fragment.pointerDeclaration).Nodup ↔
    (b.functions.map BoundFunction.name).Nodup := by
  have labels := Block.label_of_mem_names wf block
  let code (name : Text) : Text := (Label.function name).code .pointers
  have declarations : b.functions.map Fragment.pointerDeclaration =
      (b.functions.map BoundFunction.name).map code := by
    rw [List.map_map]
    rfl
  rw [declarations]
  refine ⟨fun distinct => distinct.of_map code, fun distinct =>
    distinct.map_on fun first inFirst second inSecond same => ?_⟩
  have label := Label.code_injective (by decide) (labels first inFirst) (labels second inSecond) same
  exact Label.function.inj label

end Declarations

/-- Each member of a version is declared once, on a line of its own, exactly if the names of its
functions are distinct. They are distinct exactly if no two definitions supply the version with the
same name, and it comes once only to each definition which supplies it with any. -/
theorem Parsed.members_distinct_iff {lines : List Text} {version : Definition}
    (inHeader : version ∈ (ofLines lines).table.versionDefinitions) :
    let table := (ofLines lines).table
    let functions := (table.block version).functions
    let names := functions.map BoundFunction.name
    ((functions.map fun f => Name.member f.name).Nodup ↔ names.Nodup) ∧
      ((functions.map Fragment.pointerDeclaration).Nodup ↔ names.Nodup) ∧
      (names.Nodup ↔ ∀ name first second, table.Supplies version first name →
        table.Supplies version second name → first = second ∧ table.visits version first = 1) := by
  intro table functions names
  have wf := wellFormed lines
  have block : table.block version ∈ table.blocks := List.mem_map_of_mem inHeader
  obtain ⟨guard, -, held⟩ := List.mem_filterMap.mp inHeader
  exact ⟨Block.nodup_members_iff wf block, Block.nodup_declarations_iff wf block,
    DefinitionTable.nodup_names_block_iff wf.guard held⟩

/-- A version which bundles the same extension twice, and no function of it. -/
theorem Parsed.members_distinct_iff_markers :
    let table := (ofLines ["#ifndef GL_VERSION_3_2".toList,
      "typedef void (APIENTRYP PFNGLFLUSHPROC) (void);".toList,
      "GLAPI void APIENTRY glFlush (void);".toList,
      "/* ARB_sync */".toList, "/* ARB_sync */".toList, "#endif".toList,
      "#ifndef GL_ARB_sync".toList, "#endif".toList]).table
    ∃ version ∈ table.versionDefinitions, table.visits version "GL_ARB_sync".toList = 2 ∧
      ((table.block version).functions.map fun f => Name.member f.name) = ["m_pFlush".toList] ∧
      ∀ name first second, table.Supplies version first name →
        table.Supplies version second name → first = second ∧ table.visits version first = 1 := by
  intro table
  have versions : table.versionDefinitions.map (fun version =>
      (table.visits version "GL_ARB_sync".toList,
        (table.block version).functions.map fun f => Name.member f.name)) =
      [(2, ["m_pFlush".toList])] := by
    rw [DefinitionTable.versionDefinitions, DefinitionTable.versionGuards_eq_insertionSort]
    decide +kernel
  obtain ⟨version, whole, parts⟩ := List.map_eq_singleton_iff.mp versions
  obtain ⟨visits, members⟩ := Prod.mk.inj parts
  have inHeader : version ∈ table.versionDefinitions := whole ▸ List.mem_singleton_self version
  obtain ⟨once, -, single⟩ := members_distinct_iff inHeader
  have distinct := once.mp (members ▸ List.nodup_singleton _)
  exact ⟨version, inHeader, visits, members, single.mp distinct⟩

/-- A version which bundles an extension with a function twice. -/
theorem Parsed.member_declared_twice :
    let table := (ofLines ["#ifndef GL_VERSION_3_2".toList, "/* ARB_sync */".toList,
      "/* ARB_sync */".toList, "#endif".toList, "#ifndef GL_ARB_sync".toList,
      "typedef void (APIENTRYP PFNGLFLUSHPROC) (void);".toList,
      "GLAPI void APIENTRY glFlush (void);".toList, "#endif".toList]).table
    Fragment.pointers.lines table = ["#ifdef GL_VERSION_3_2".toList, "\t// GL_ARB_sync".toList,
        "\tPFNGLFLUSHPROC m_pFlush;".toList, "\t// GL_ARB_sync".toList,
        "\tPFNGLFLUSHPROC m_pFlush;".toList, "#endif".toList, []] ∧
      ∃ b ∈ table.blocks, ¬ (b.functions.map BoundFunction.name).Nodup := by
  intro table
  rw [Fragment.lines, DefinitionTable.blocks_eq_insertionSort]
  decide +kernel

end GLDispatch
