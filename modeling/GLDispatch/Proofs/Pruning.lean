import GLDispatch.Proofs.Versions

/-! # Pruning

Most of a table has no influence on the binding: extensions which no core version bundles, bundled
extensions which are not defined, names without their counterpart, and what the signatures of
pointer types say. A table without all that has the same blocks. -/
namespace GLDispatch

namespace Definition

/-- Whether the name is one half of a pair: a function and the type of a pointer to it. -/
def pairs (d : Definition) (name : Text) : Bool :=
  d.binds name || d.functions.keys.any fun function =>
    Name.isEntryPoint function && Name.pointerType function == name

/-- The pairs, with other signatures for what is no function of the library. -/
def prune (replacement : Text → Signature) (d : Definition) : Definition :=
  { d with functions := d.functions.filterMap fun name signature =>
      if d.pairs name then
        some (if Name.isEntryPoint name then signature else replacement name)
      else none }

end Definition

namespace DefinitionTable

/-- Whether the binding refers to the guard: as a version or as an extension bundled into one. -/
def refersTo (table : DefinitionTable) (guard : Text) : Bool :=
  isVersion guard || table.versionDefinitions.any fun d =>
    d.includes.any fun extension => Name.extensionGuard extension == guard

/-- The definition without the bundled extensions which the table does not define. -/
def resolve (table : DefinitionTable) (d : Definition) : Definition :=
  { d with includes := d.includes.filter fun extension =>
      table.contains (Name.extensionGuard extension) }

/-- The definition which takes the place of `d`, if any does. -/
def pruned? (replacement : Text → Text → Signature) (table : DefinitionTable) (guard : Text)
    (d : Definition) : Option Definition :=
  if table.refersTo guard then
    some ((if isVersion guard then table.resolve d else d).prune (replacement guard))
  else none

def prune (replacement : Text → Text → Signature) (table : DefinitionTable) : DefinitionTable :=
  table.filterMap (table.pruned? replacement)

end DefinitionTable

/-! ## Functions -/

namespace Definition

/-- The counterpart of a function is kept with it. -/
theorem contains_pointerType_prune {d : Definition} {name : Text} (replacement : Text → Signature)
    (member : name ∈ d.functions.keys) (entryPoint : Name.isEntryPoint name = true) :
    (d.prune replacement).functions.contains (Name.pointerType name) =
      d.functions.contains (Name.pointerType name) := by
  have paired : d.pairs (Name.pointerType name) = true := by
    rw [pairs, Bool.or_eq_true]
    exact Or.inr (List.any_eq_true.mpr ⟨name, member, by simp [entryPoint]⟩)
  rw [OrderedMap.contains, prune, OrderedMap.get?_filterMap, OrderedMap.contains]
  cases d.functions.get? (Name.pointerType name) with
  | none => rfl
  | some signature => simp [paired]

theorem binds_prune {d : Definition} {name : Text} (replacement : Text → Signature)
    (member : name ∈ d.functions.keys) :
    (d.prune replacement).binds name = d.binds name := by
  rw [binds, binds]
  cases entryPoint : Name.isEntryPoint name with
  | false => rfl
  | true => rw [contains_pointerType_prune replacement member entryPoint]

theorem boundFunctions_prune (d : Definition) (replacement : Text → Signature) :
    (d.prune replacement).boundFunctions = d.boundFunctions := by
  have entries : (d.prune replacement).functions.entries =
      d.functions.entries.filterMap fun entry =>
        (if d.pairs entry.1 then
          some (if Name.isEntryPoint entry.1 then entry.2 else replacement entry.1)
        else none).map (entry.1, ·) := rfl
  rw [boundFunctions, boundFunctions, entries, ← List.filterMap_eq_filter,
    ← List.filterMap_eq_filter, List.map_filterMap, List.map_filterMap, List.filterMap_filterMap]
  apply List.filterMap_congr
  intro entry member
  have binds := binds_prune replacement (List.mem_map_of_mem (f := Prod.fst) member)
  cases bound : d.binds entry.1 with
  | false =>
    rw [bound] at binds
    cases kept : d.pairs entry.1 with
    | false => simp [Option.guard, bound]
    | true => simp [Option.guard, bound, binds]
  | true =>
    have paired : d.pairs entry.1 = true := by rw [pairs, bound, Bool.true_or]
    have entryPoint : Name.isEntryPoint entry.1 = true := by
      rw [Definition.binds, Bool.and_eq_true] at bound
      exact bound.1
    have guard : (d.prune replacement).guard = d.guard := rfl
    rw [bound] at binds
    simp [Option.guard, bound, binds, paired, entryPoint, guard]

end Definition

/-! ## Blocks -/

namespace DefinitionTable

variable (replacement : Text → Text → Signature) (table : DefinitionTable)

theorem get?_prune (guard : Text) :
    (table.prune replacement).get? guard =
      (table.get? guard).bind (table.pruned? replacement guard) :=
  OrderedMap.get?_filterMap _ table guard

variable {table}

theorem refersTo_of_isVersion {guard : Text} (version : isVersion guard = true) :
    table.refersTo guard = true := by
  rw [refersTo, version, Bool.true_or]

theorem refersTo_of_bundled {d : Definition} {extension : Text}
    (member : d ∈ table.versionDefinitions) (bundled : extension ∈ d.includes) :
    table.refersTo (Name.extensionGuard extension) = true := by
  rw [refersTo, Bool.or_eq_true]
  exact Or.inr (List.any_eq_true.mpr
    ⟨d, member, List.any_eq_true.mpr ⟨extension, bundled, beq_self_eq_true _⟩⟩)

theorem contains_prune {guard : Text} (refers : table.refersTo guard = true) :
    (table.prune replacement).contains guard = table.contains guard := by
  rw [OrderedMap.contains, get?_prune, OrderedMap.contains]
  cases table.get? guard with
  | none => rfl
  | some d => rw [Option.bind_some, pruned?, if_pos refers]; rfl

/-- An extension has the same items: what was left out of its definition is not bound. -/
theorem extensionItems_prune {extension : Text}
    (refers : table.refersTo (Name.extensionGuard extension) = true) :
    (table.prune replacement).extensionItems extension = table.extensionItems extension := by
  rw [extensionItems, get?_prune, extensionItems]
  cases table.get? (Name.extensionGuard extension) with
  | none => rfl
  | some d =>
    have resolved : (table.resolve d).boundFunctions = d.boundFunctions := rfl
    rw [Option.bind_some, pruned?, if_pos refers]
    dsimp only
    split <;> rw [Definition.boundFunctions_prune, ← resolved]

/-- Extensions which the table does not define have no items. -/
theorem flatMap_extensionItems_prune (extensions : List Text)
    (refers : ∀ extension ∈ extensions,
      table.refersTo (Name.extensionGuard extension) = true) :
    (extensions.filter fun extension => table.contains (Name.extensionGuard extension)).flatMap
      (table.prune replacement).extensionItems = extensions.flatMap table.extensionItems := by
  induction extensions with
  | nil => rfl
  | cons extension rest ih =>
    have later := ih fun other member => refers other (List.mem_cons_of_mem _ member)
    rw [List.flatMap_cons]
    cases defined : table.contains (Name.extensionGuard extension) with
    | true =>
      rw [List.filter_cons, if_pos defined, List.flatMap_cons, later,
        extensionItems_prune replacement (refers extension List.mem_cons_self)]
    | false =>
      have none : table.extensionItems extension = [] := by
        have missing := Option.not_isSome_iff_eq_none.mp (Bool.eq_false_iff.mp defined)
        rw [extensionItems, missing]
      rw [List.filter_cons, if_neg (Bool.eq_false_iff.mp defined), later, none, List.nil_append]

theorem block_prune {d : Definition} (member : d ∈ table.versionDefinitions)
    (signatures : Text → Signature) :
    (table.prune replacement).block ((table.resolve d).prune signatures) = table.block d := by
  have items := flatMap_extensionItems_prune replacement d.includes fun extension bundled =>
    refersTo_of_bundled member bundled
  rw [block, block, Definition.boundFunctions_prune, ← items]
  rfl

theorem versionGuards_prune : (table.prune replacement).versionGuards = table.versionGuards := by
  have kept : ∀ guard d, isVersion guard = true → (table.pruned? replacement guard d).isSome := by
    intro guard d version
    rw [pruned?, if_pos (refersTo_of_isVersion version)]
    rfl
  refine versionGuards_eq_of_perm ?_
  rw [prune, OrderedMap.filter_keys_filterMap kept]

theorem get?_prune_version {guard : Text} (version : isVersion guard = true) :
    (table.prune replacement).get? guard =
      (table.get? guard).map fun d => (table.resolve d).prune (replacement guard) := by
  rw [get?_prune]
  cases table.get? guard with
  | none => rfl
  | some d =>
    rw [Option.bind_some, pruned?, if_pos (refersTo_of_isVersion version), if_pos version]
    rfl

theorem blocks_prune : (table.prune replacement).blocks = table.blocks := by
  rw [blocks, blocks, versionDefinitions, versionDefinitions, versionGuards_prune,
    List.map_filterMap, List.map_filterMap]
  apply List.filterMap_congr
  intro guard member
  rw [get?_prune_version replacement (List.mem_filter.mp member).2, Option.map_map]
  cases held : table.get? guard with
  | none => rfl
  | some d =>
    have version : d ∈ table.versionDefinitions := List.mem_filterMap.mpr ⟨guard, member, held⟩
    rw [Option.map_some, Option.map_some, Function.comp_apply, block_prune replacement version]

/-! ## The walk -/

/-- What the core versions bundle, version by version: each time the guard of the version and the
extension. -/
def bundlings (table : DefinitionTable) : List (Text × Text) :=
  table.versionDefinitions.flatMap fun d => d.includes.map (d.guard, ·)

/-- The report is one event for each bundled extension that is not defined. -/
theorem skippedExtensions_eq (table : DefinitionTable) :
    table.skippedExtensions =
      (table.bundlings.filter fun b => !table.contains (Name.extensionGuard b.2)).map
        fun b => .skipped b.1 b.2 (Name.extensionGuard b.2) := by
  rw [bundlings, List.filter_flatMap, List.map_flatMap, skippedExtensions]
  simp only [List.filter_map, List.map_map]
  rfl

theorem skippedExtensions_prune : (table.prune replacement).skippedExtensions = [] := by
  rw [skippedExtensions, List.flatMap_eq_nil_iff]
  intro pruned member
  rw [versionDefinitions, versionGuards_prune] at member
  obtain ⟨guard, isGuard, held⟩ := List.mem_filterMap.mp member
  rw [get?_prune_version replacement (List.mem_filter.mp isGuard).2] at held
  obtain ⟨d, found, rfl⟩ := Option.map_eq_some_iff.mp held
  rw [List.map_eq_nil_iff, List.filter_eq_nil_iff]
  intro extension bundled
  obtain ⟨bundled, defined⟩ := List.mem_filter.mp bundled
  have version : d ∈ table.versionDefinitions := List.mem_filterMap.mpr ⟨guard, isGuard, found⟩
  rw [contains_prune replacement (refersTo_of_bundled version bundled)]
  simp [defined]

/-- What is pruned has no influence on the binding, only on the report. -/
theorem prune_unobservable (replacement : Text → Text → Signature) (table : DefinitionTable) :
    (table.prune replacement).binding = table.binding ∧
    (∀ fragment : Fragment, fragment.lines (table.prune replacement) = fragment.lines table) ∧
    (table.prune replacement).skippedExtensions = [] ∧
    table.skippedExtensions =
      (table.bundlings.filter fun b => !table.contains (Name.extensionGuard b.2)).map
        (fun b => .skipped b.1 b.2 (Name.extensionGuard b.2)) ∧
    ∀ event ∈ table.skippedExtensions, event.level = .info := by
  have lines (fragment : Fragment) :
      fragment.lines (table.prune replacement) = fragment.lines table := by
    rw [Fragment.lines, blocks_prune, Fragment.lines]
  refine ⟨?_, lines, skippedExtensions_prune replacement, skippedExtensions_eq table, ?_⟩
  · rw [binding, binding]
    simp only [lines]
  · intro event member
    rw [skippedExtensions_eq] at member
    obtain ⟨b, -, rfl⟩ := List.mem_map.mp member
    rfl

end DefinitionTable
end GLDispatch
