import GLDispatch.Proofs.Versions
import GLDispatch.Proofs.Captures

/-! # What a version binds

The block of a version comes to the functions of a guard once for each reason it has to: they are its
own, or one of its bundled extensions bears the guard. Each time it takes all of them which can be
bound, in the order of their declaration, and nothing else. -/
namespace GLDispatch
open Text

/-- Whether the item is the function with the name, taken from the definition of the guard. -/
def Item.isFunction (name origin : Text) : Item → Bool
  | .extension _ => false
  | .function f => f.name == name && f.origin == origin

namespace DefinitionTable

/-- Whether the guard defines both the function and the type of a pointer to it. -/
def bindable (table : DefinitionTable) (guard name : Text) : Bool :=
  Name.isEntryPoint name && (table.get? guard).any fun d =>
    d.functions.contains name && d.functions.contains (Name.pointerType name)

/-- How often the block of the version comes to the functions of the guard. -/
def visits (table : DefinitionTable) (version : Definition) (guard : Text) : Nat :=
  (if guard = version.guard then 1 else 0) + version.includes.countP fun extension =>
    Name.extensionGuard extension == guard && table.contains guard

/-- The functions which can be bound where the guard is defined. -/
def functionsOf (table : DefinitionTable) (guard : Text) : List BoundFunction :=
  ((table.get? guard).map Definition.boundFunctions).getD []

end DefinitionTable

/-! ## Functions of a definition -/

namespace Definition

theorem signatures_sublist (d : Definition) :
    (d.boundFunctions.map fun f => (f.name, f.signature)).Sublist d.functions.entries := by
  rw [boundFunctions, List.map_map]
  exact (List.filter_sublist.map _).trans (by simp [Function.comp_def])

theorem nodup_names (d : Definition) : (d.boundFunctions.map BoundFunction.name).Nodup := by
  have names : (d.boundFunctions.map BoundFunction.name).Sublist d.functions.keys := by
    have keys := d.signatures_sublist.map Prod.fst
    rwa [List.map_map] at keys
  exact names.nodup d.functions.nodup_keys

theorem get?_of_mem_boundFunctions {d : Definition} {f : BoundFunction}
    (member : f ∈ d.boundFunctions) : d.functions.get? f.name = some f.signature := by
  apply (d.functions.get?_eq_some_iff f.name f.signature).mpr
  exact d.signatures_sublist.subset (List.mem_map_of_mem member)

theorem origin_of_mem_boundFunctions {d : Definition} {f : BoundFunction}
    (member : f ∈ d.boundFunctions) : f.origin = d.guard := by
  obtain ⟨entry, -, rfl⟩ := List.mem_map.mp member
  rfl

/-- A definition binds a function at most once. -/
theorem countP_boundFunctions (d : Definition) (name : Text) :
    d.boundFunctions.countP (fun f => f.name == name) =
      if d.functions.contains name && d.binds name then 1 else 0 := by
  have selected : (fun key : Text => key == name && d.binds key) =
      fun key => key == name && d.binds name := by
    funext key
    by_cases same : key = name
    · rw [same]
    · rw [beq_false_of_ne same, Bool.false_and, Bool.false_and]
  have keys : d.boundFunctions.countP (fun f => f.name == name) =
      d.functions.keys.countP fun key => key == name && d.binds key := by
    rw [boundFunctions, List.countP_map, List.countP_filter, OrderedMap.keys, List.countP_map]
    rfl
  have once : d.functions.keys.count name = if name ∈ d.functions.keys then 1 else 0 :=
    d.functions.nodup_keys.count
  rw [keys, selected]
  cases binds : d.binds name with
  | true =>
    simp only [Bool.and_true, OrderedMap.contains_iff]
    rw [← once, List.count_eq_countP]
  | false => simp

end Definition

/-! ## Functions of a guard -/

namespace DefinitionTable

variable {table : DefinitionTable}

theorem functionsOf_eq {guard : Text} {d : Definition} (held : table.get? guard = some d) :
    table.functionsOf guard = d.boundFunctions := by
  simp [functionsOf, held]

theorem exists_of_mem_functionsOf {guard : Text} {f : BoundFunction}
    (member : f ∈ table.functionsOf guard) :
    ∃ d, table.get? guard = some d ∧ f ∈ d.boundFunctions := by
  unfold functionsOf at member
  cases held : table.get? guard with
  | none => simp [held] at member
  | some d => exact ⟨d, rfl, by simpa [held] using member⟩

theorem extensionItems_eq (extension : Text) :
    table.extensionItems extension =
      if table.contains (Name.extensionGuard extension) then
        .extension (Name.extensionGuard extension) ::
          (table.functionsOf (Name.extensionGuard extension)).map .function
      else [] := by
  cases held : table.get? (Name.extensionGuard extension) <;>
    simp [extensionItems, functionsOf, OrderedMap.contains, held]

/-- The functions of the version, then for each extension which the table defines its marker and its
functions. -/
theorem items_block {guard : Text} {d : Definition} (held : table.get? guard = some d) :
    (table.block d).items = (table.functionsOf guard).map .function ++
      (d.includes.filter fun extension => table.contains (Name.extensionGuard extension)).flatMap
        fun extension => .extension (Name.extensionGuard extension) ::
          (table.functionsOf (Name.extensionGuard extension)).map .function := by
  have bundled (extensions : List Text) : extensions.flatMap table.extensionItems =
      (extensions.filter fun extension => table.contains (Name.extensionGuard extension)).flatMap
        fun extension => .extension (Name.extensionGuard extension) ::
          (table.functionsOf (Name.extensionGuard extension)).map .function := by
    induction extensions with
    | nil => rfl
    | cons extension rest ih =>
      rw [List.flatMap_cons, ih, extensionItems_eq, List.filter_cons]
      split <;> simp
  rw [block, functionsOf_eq held, bundled]

/-! ## Multiplicities -/

variable (ownGuards : ∀ guard d, table.get? guard = some d → d.guard = guard)
include ownGuards

theorem origin_of_mem_functionsOf {guard : Text} :
    ∀ f ∈ table.functionsOf guard, f.origin = guard := by
  intro f member
  obtain ⟨d, held, bound⟩ := exists_of_mem_functionsOf member
  rw [Definition.origin_of_mem_boundFunctions bound, ownGuards guard d held]

/-- A function is bound under the signature which its origin has for it. -/
theorem signature_of_mem_functionsOf {guard : Text} :
    ∀ f ∈ table.functionsOf guard, ∃ d, table.get? f.origin = some d ∧
      d.functions.get? f.name = some f.signature := by
  intro f member
  obtain ⟨d, held, bound⟩ := exists_of_mem_functionsOf member
  rw [origin_of_mem_functionsOf ownGuards f member]
  exact ⟨d, held, Definition.get?_of_mem_boundFunctions bound⟩

theorem signature_of_mem_block {guard : Text} {d : Definition} (held : table.get? guard = some d) :
    ∀ f, Item.function f ∈ (table.block d).items → ∃ e, table.get? f.origin = some e ∧
      e.functions.get? f.name = some f.signature := by
  intro f member
  rw [items_block held, List.mem_append, List.mem_flatMap] at member
  rcases member with own | ⟨extension, -, bundled⟩
  · exact signature_of_mem_functionsOf ownGuards f (by simpa using own)
  · exact signature_of_mem_functionsOf ownGuards f (by simpa using bundled)

theorem countP_functionsOf (guard name origin : Text) :
    ((table.functionsOf guard).map Item.function).countP (Item.isFunction name origin) =
      if guard = origin ∧ table.bindable origin name then 1 else 0 := by
  have item : Item.isFunction name origin ∘ Item.function =
      fun f => f.name == name && f.origin == origin := rfl
  rw [List.countP_map, item]
  by_cases same : guard = origin
  · subst same
    have named : (table.functionsOf guard).countP (fun f => f.name == name && f.origin == guard) =
        (table.functionsOf guard).countP fun f => f.name == name := by
      apply List.countP_congr
      intro f member
      simp [origin_of_mem_functionsOf ownGuards f member]
    rw [named]
    unfold functionsOf bindable
    cases table.get? guard with
    | none => simp
    | some d =>
      simp [Definition.countP_boundFunctions, Definition.binds, and_left_comm]
  · have elsewhere : (table.functionsOf guard).countP
        (fun f => f.name == name && f.origin == origin) = 0 := by
      apply List.countP_eq_zero.mpr
      intro f member
      simp [origin_of_mem_functionsOf ownGuards f member, same]
    rw [elsewhere, if_neg fun both => same both.1]

theorem countP_extensionItems (extension name origin : Text) :
    (table.extensionItems extension).countP (Item.isFunction name origin) =
      if (Name.extensionGuard extension == origin && table.contains origin) &&
        table.bindable origin name then 1 else 0 := by
  rw [extensionItems_eq]
  by_cases same : Name.extensionGuard extension = origin
  · subst same
    cases table.contains (Name.extensionGuard extension) with
    | true => simp [Item.isFunction, countP_functionsOf ownGuards]
    | false => simp
  · split <;> simp [Item.isFunction, countP_functionsOf ownGuards, same]

theorem countP_block {guard : Text} {d : Definition} (held : table.get? guard = some d)
    (name origin : Text) :
    (table.block d).items.countP (Item.isFunction name origin) =
      if table.bindable origin name then table.visits d origin else 0 := by
  have own := countP_functionsOf ownGuards guard name origin
  have bundled (extensions : List Text) :
      (extensions.flatMap table.extensionItems).countP (Item.isFunction name origin) =
        if table.bindable origin name then
          extensions.countP fun extension =>
            Name.extensionGuard extension == origin && table.contains origin
        else 0 := by
    induction extensions with
    | nil => simp
    | cons extension rest ih =>
      rw [List.flatMap_cons, List.countP_append, ih, countP_extensionItems ownGuards,
        List.countP_cons]
      cases table.bindable origin name <;> simp [Nat.add_comm]
  rw [block, ← functionsOf_eq held, List.countP_append, own, bundled, visits, ownGuards guard d held]
  cases table.bindable origin name <;> simp [eq_comm]

end DefinitionTable

/-- What the block of a version has to be. -/
structure DefinitionTable.IsBlockOf (table : DefinitionTable) (version : Definition) (b : Block) :
    Prop where
  /-- Each function of a guard as often as the block comes to the guard, if it can be bound there. -/
  multiplicity : ∀ name origin, b.items.countP (Item.isFunction name origin) =
    if table.bindable origin name then table.visits version origin else 0
  /-- Each function under the signature which its origin has for it. -/
  signature : ∀ f, Item.function f ∈ b.items → ∃ d, table.get? f.origin = some d ∧
    d.functions.get? f.name = some f.signature
  /-- The version's own functions, then the marker and the functions of each extension that it
  bundles and the table defines. -/
  items : b.items = (table.functionsOf version.guard).map .function ++
    (version.includes.filter fun extension =>
      table.contains (Name.extensionGuard extension)).flatMap fun extension =>
        .extension (Name.extensionGuard extension) ::
          (table.functionsOf (Name.extensionGuard extension)).map .function
  /-- The functions of a guard in the order of the map. -/
  order : ∀ origin d, table.get? origin = some d →
    ((table.functionsOf origin).map fun f => (f.name, f.signature)).Sublist d.functions.entries

/-- A version has one block, which binds exactly what it has to, exactly as often. -/
theorem Parsed.exists_isBlockOf (lines : List Text) {guard : Text}
    (version : guard ∈ (ofLines lines).table.versionGuards) :
    ∃ d b, (ofLines lines).table.get? guard = some d ∧ d.guard = guard ∧
      (ofLines lines).table.blocks.filter (fun b => b.guard == guard) = [b] ∧
      (ofLines lines).table.IsBlockOf d b := by
  have ownGuards := (wellFormed lines).guard
  have defined := (OrderedMap.contains_iff _ guard).mpr
    (DefinitionTable.mem_versionGuards.mp version).1
  obtain ⟨d, held⟩ := Option.isSome_iff_exists.mp defined
  have own := ownGuards guard d held
  refine ⟨d, (ofLines lines).table.block d, held, own,
    DefinitionTable.filter_blocks ownGuards version held,
    DefinitionTable.countP_block ownGuards held,
    DefinitionTable.signature_of_mem_block ownGuards held, ?_, ?_⟩
  · rw [own, DefinitionTable.items_block held]
  · intro origin e found
    rw [DefinitionTable.functionsOf_eq found]
    exact e.signatures_sublist

/-- A guard which is both a version and an extension that it bundles itself, twice. -/
theorem Parsed.exists_isBlockOf_selfBundled :
    let guard := "GL_ARB_VERSION_x".toList
    let table := (ofLines ["#ifndef GL_ARB_VERSION_x".toList, "/* ARB_VERSION_x */".toList,
      "/* ARB_missing */".toList, "/* ARB_VERSION_x */".toList,
      "typedef void (APIENTRYP PFNGLFLUSHPROC) (void);".toList,
      "GLAPI void APIENTRY glFlush (void);".toList, "#endif".toList]).table
    guard ∈ table.versionGuards ∧
      (∃ d b, table.get? guard = some d ∧ d.guard = guard ∧
        table.blocks.filter (fun b => b.guard == guard) = [b] ∧ table.IsBlockOf d b) ∧
      (table.blocks.flatMap Block.items).countP (Item.isFunction "glFlush".toList guard) = 3 := by
  intro guard table
  have version : guard ∈ table.versionGuards := by
    rw [DefinitionTable.versionGuards_eq_insertionSort]
    decide
  refine ⟨version, exists_isBlockOf _ version, ?_⟩
  rw [DefinitionTable.blocks_eq_insertionSort]
  decide

end GLDispatch
