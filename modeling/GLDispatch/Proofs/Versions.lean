import GLDispatch.Binding.Fragment
import GLDispatch.Proofs.Order
import GLDispatch.Proofs.OrderedMap

/-! # Versions of a table

A table is walked by its core versions in code point order, each one once. The walk looks definitions
up and does nothing else, so tables which agree on every guard have the same binding and the same
report, in whatever order their definitions arrived. -/
namespace GLDispatch.DefinitionTable
open Text

theorem guards_perm (table : DefinitionTable) : table.guards.Perm table.keys :=
  List.mergeSort_perm ..

theorem mem_guards {table : DefinitionTable} {guard : Text} :
    guard ∈ table.guards ↔ guard ∈ table.keys :=
  table.guards_perm.mem_iff

theorem nodup_guards (table : DefinitionTable) : table.guards.Nodup :=
  table.guards_perm.nodup_iff.mpr table.nodup_keys

theorem pairwise_guards (table : DefinitionTable) :
    table.guards.Pairwise fun first later => atMost first later = true :=
  pairwise_mergeSort table.keys

/-- The members are all there is to guards in order. -/
theorem guards_eq_of_perm {t u : DefinitionTable} (same : t.keys.Perm u.keys) :
    t.guards = u.guards :=
  (t.guards_perm.trans (same.trans u.guards_perm.symm)).eq_of_pairwise' t.pairwise_guards
    u.pairwise_guards

theorem mem_versionGuards {table : DefinitionTable} {guard : Text} :
    guard ∈ table.versionGuards ↔ guard ∈ table.keys ∧ isVersion guard = true := by
  rw [versionGuards, List.mem_filter, mem_guards]

/-- Only the keys of core versions matter. -/
theorem versionGuards_eq_of_perm {t u : DefinitionTable}
    (same : (t.keys.filter isVersion).Perm (u.keys.filter isVersion)) :
    t.versionGuards = u.versionGuards :=
  have perm : t.versionGuards.Perm u.versionGuards :=
    (t.guards_perm.filter isVersion).trans (same.trans (u.guards_perm.filter isVersion).symm)
  perm.eq_of_pairwise' (t.pairwise_guards.filter isVersion) (u.pairwise_guards.filter isVersion)

theorem nodup_versionGuards (table : DefinitionTable) : table.versionGuards.Nodup :=
  table.nodup_guards.filter isVersion

/-- The guards stand in the order of the code points of their characters. -/
theorem versionGuards_lt (table : DefinitionTable) : table.versionGuards.Pairwise (· < ·) := by
  have sorted : table.guards.Pairwise (· < ·) :=
    (table.pairwise_guards.and table.nodup_guards).imp fun both => lt_of_atMost both.1 both.2
  exact sorted.filter isVersion

/-! ## Blocks -/

theorem versionGuards_eq_insertionSort (table : DefinitionTable) :
    table.versionGuards =
      (table.keys.insertionSort fun s t => atMost s t = true).filter isVersion := by
  rw [versionGuards, guards, mergeSort_eq_insertionSort]

/-- The blocks of a given table evaluate from this form. -/
theorem blocks_eq_insertionSort (table : DefinitionTable) :
    table.blocks = (((table.keys.insertionSort fun s t => atMost s t = true).filter
      isVersion).filterMap table.get?).map table.block := by
  rw [blocks, versionDefinitions, versionGuards_eq_insertionSort]

section Blocks

variable {table : DefinitionTable}
  (ownGuards : ∀ guard d, table.get? guard = some d → d.guard = guard)
include ownGuards

/-- One block for each version, under its guard. -/
theorem map_guard_blocks : table.blocks.map Block.guard = table.versionGuards := by
  have block (guard : Text) (member : guard ∈ table.versionGuards) :
      ((table.get? guard).map table.block).map Block.guard = some guard := by
    have defined := (table.contains_iff guard).mpr (mem_versionGuards.mp member).1
    obtain ⟨d, held⟩ := Option.isSome_iff_exists.mp defined
    rw [held, Option.map_some, Option.map_some, DefinitionTable.block, ownGuards guard d held]
  rw [blocks, versionDefinitions, List.map_filterMap, List.map_filterMap,
    List.filterMap_congr block, List.filterMap_some]

theorem filter_blocks {guard : Text} {d : Definition} (version : guard ∈ table.versionGuards)
    (held : table.get? guard = some d) :
    table.blocks.filter (fun b => b.guard == guard) = [table.block d] := by
  have only : table.versionGuards.filter (· == guard) = [guard] := by
    rw [List.filter_beq, table.nodup_versionGuards.count, if_pos version]
    rfl
  have blocks : table.blocks.filter (fun b => b.guard == guard) =
      ((table.versionGuards.filter (· == guard)).filterMap table.get?).map table.block := by
    rw [blocks, versionDefinitions, List.filter_map, List.filter_filterMap, List.filterMap_filter]
    congr 1
    apply List.filterMap_congr
    intro other _
    cases found : table.get? other with
    | none => simp
    | some e => simp [DefinitionTable.block, ownGuards other e found, Option.filter]
  rw [blocks, only]
  simp [held]

end Blocks

/-! ## Lookups -/

section Lookups

variable {t u : DefinitionTable} (same : ∀ guard, t.get? guard = u.get? guard)
include same

theorem contains_congr (guard : Text) : t.contains guard = u.contains guard := by
  rw [OrderedMap.contains, same, OrderedMap.contains]

theorem guards_congr : t.guards = u.guards := by
  have members (guard : Text) : guard ∈ t.keys ↔ guard ∈ u.keys := by
    rw [← OrderedMap.contains_iff, ← OrderedMap.contains_iff, contains_congr same]
  have perm : t.keys.Perm u.keys :=
    (List.perm_ext_iff_of_nodup t.nodup_keys u.nodup_keys).mpr members
  exact guards_eq_of_perm perm

theorem versionGuards_congr : t.versionGuards = u.versionGuards := by
  rw [versionGuards, guards_congr same, versionGuards]

theorem summary_congr : t.summary = u.summary := by
  unfold summary
  rw [guards_congr same]

theorem versionDefinitions_congr : t.versionDefinitions = u.versionDefinitions := by
  rw [versionDefinitions, versionGuards_congr same, funext same, versionDefinitions]

theorem blocks_congr : t.blocks = u.blocks := by
  have block (d : Definition) : t.block d = u.block d := by
    have items (extension : Text) : t.extensionItems extension = u.extensionItems extension := by
      rw [extensionItems, same, extensionItems]
    rw [DefinitionTable.block, funext items, DefinitionTable.block]
  rw [blocks, versionDefinitions_congr same, funext block, blocks]

theorem binding_congr : t.binding = u.binding := by
  unfold binding Fragment.lines
  rw [blocks_congr same]

theorem skippedExtensions_congr : t.skippedExtensions = u.skippedExtensions := by
  unfold skippedExtensions
  simp only [versionDefinitions_congr same, contains_congr same]

end Lookups

end GLDispatch.DefinitionTable
