import GLDispatch.Proofs.Excerpts
import Mathlib.Data.List.Induction

/-! # Merged tables

Two tables merge into one which says what either of them says: a guard bundles the extensions of the
first table and then those of the second, and has the functions of both, where the second table has
the last word on signatures. The table of a header in two parts is the merge of the tables of its
parts. -/
namespace GLDispatch

namespace OrderedMap

variable {κ α : Type} [DecidableEq κ]

theorem distinct_append (first second : List κ) :
    distinct (first ++ second) =
      distinct first ++ (distinct second).filter fun key => key ∉ first := by
  induction second using List.reverseRecOn with
  | nil => simp [distinct]
  | append_singleton second key ih =>
    rw [← List.append_assoc, distinct_concat, distinct_concat, ih]
    by_cases inFirst : key ∈ first <;> by_cases inSecond : key ∈ second <;>
      simp [inFirst, inSecond]

theorem distinct_of_nodup {keys : List κ} (nodup : keys.Nodup) : distinct keys = keys := by
  induction keys using List.reverseRecOn with
  | nil => rfl
  | append_singleton keys key ih =>
    obtain ⟨before, -, apart⟩ := List.nodup_append.mp nodup
    have new : key ∉ keys := fun member => apart key member key List.mem_cons_self rfl
    rw [distinct_concat, if_neg new, ih before]

theorem distinct_distinct_append (first second : List κ) :
    distinct (distinct first ++ distinct second) = distinct (first ++ second) := by
  rw [distinct_append, distinct_append, distinct_of_nodup (nodup_distinct first),
    distinct_of_nodup (nodup_distinct second)]
  simp only [mem_distinct]

theorem findEntry_append (key : κ) (first second : List (κ × α)) :
    findEntry key (first ++ second) = (findEntry key first).or (findEntry key second) := by
  induction first with
  | nil => simp [findEntry]
  | cons entry first ih =>
    rw [List.cons_append, findEntry, ih, findEntry]
    split <;> rfl

theorem findEntry_map (key : κ) (value : κ → α → α) (entries : List (κ × α)) :
    findEntry key (entries.map fun entry => (entry.1, value entry.1 entry.2)) =
      (findEntry key entries).map (value key) := by
  induction entries with
  | nil => rfl
  | cons entry entries ih =>
    rw [List.map_cons, findEntry, ih, findEntry]
    split
    next same => rw [same, Option.map_some]
    next => rfl

theorem findEntry_filter (keep : κ → Bool) {key : κ} (kept : keep key = true)
    (entries : List (κ × α)) :
    findEntry key (entries.filter fun entry => keep entry.1) = findEntry key entries := by
  induction entries with
  | nil => rfl
  | cons entry entries ih =>
    rw [List.filter_cons, findEntry]
    by_cases same : entry.1 = key
    · simp [same, kept, findEntry]
    · split <;> simp [findEntry, same, ih]

/-- The keys of the first map and then those which only the second one has, with the value of the
second map wherever it has the key. -/
def override (m n : OrderedMap κ α) : OrderedMap κ α where
  entries := m.entries.map (fun entry => (entry.1, (n.get? entry.1).getD entry.2)) ++
    n.entries.filter fun entry => entry.1 ∉ m.keys
  nodup := by
    have first : (m.entries.map fun entry => (entry.1, (n.get? entry.1).getD entry.2)).map
        Prod.fst = m.keys := by simp [keys]
    rw [List.map_append, first, List.nodup_append]
    refine ⟨m.nodup_keys, n.nodup.sublist (List.filter_sublist.map _), ?_⟩
    intro key inFirst other inSecond same
    obtain ⟨entry, new, rfl⟩ := List.mem_map.mp inSecond
    have absent := (List.mem_filter.mp new).2
    rw [decide_eq_true_eq, ← same] at absent
    exact absent inFirst

theorem keys_override (m n : OrderedMap κ α) :
    (m.override n).keys = m.keys ++ n.keys.filter fun key => key ∉ m.keys := by
  simp [keys, override, List.filter_map, Function.comp_def]

theorem get?_override (m n : OrderedMap κ α) (key : κ) :
    (m.override n).get? key = (n.get? key).or (m.get? key) := by
  rw [get?, override, findEntry_append, findEntry_map key fun key value => (n.get? key).getD value]
  unfold get?
  by_cases present : key ∈ m.keys
  · obtain ⟨value, held⟩ := Option.isSome_iff_exists.mp ((isSome_findEntry key m.entries).mpr present)
    rw [held]
    cases findEntry key n.entries <;> rfl
  · have absent : findEntry key m.entries = none := findEntry_eq_none present
    rw [absent, findEntry_filter (fun key => decide (key ∉ m.keys)) (by simpa using present)]
    simp

/-- Captures in two parts: those of the second part override those of the first one. -/
theorem lastValues_append (first second : List (κ × α)) :
    lastValues (first ++ second) = (lastValues first).override (lastValues second) := by
  apply ext_get?
  · rw [keys_lastValues, List.map_append, distinct_append, keys_override, keys_lastValues,
      keys_lastValues]
    simp only [mem_distinct]
  · intro key
    rw [get?_lastValues, lastValue?_append, get?_override, get?_lastValues, get?_lastValues]

end OrderedMap

/-- The first definition followed by the second one of the same guard. -/
def Definition.merge (first second : Definition) : Definition :=
  ⟨first.guard, first.includes ++ second.includes, first.functions.override second.functions⟩

theorem Definition.ofEntries_append (guard : Text) (first second : List Entry) :
    ofEntries guard (first ++ second) = (ofEntries guard first).merge (ofEntries guard second) := by
  simp [ofEntries, merge, OrderedMap.lastValues_append]

theorem Excerpt.entriesOf_append (guard : Text) (first second : List Excerpt) :
    entriesOf guard (first ++ second) = entriesOf guard first ++ entriesOf guard second := by
  simp [entriesOf]

theorem Excerpt.entriesOf_eq_nil {guard : Text} {excerpts : List Excerpt}
    (absent : guard ∉ excerpts.map Excerpt.guard) : entriesOf guard excerpts = [] := by
  have none : (excerpts.filter fun excerpt => excerpt.guard = guard) = [] := by
    simp only [List.filter_eq_nil_iff, decide_eq_true_eq]
    intro excerpt member same
    exact absent (List.mem_map.mpr ⟨excerpt, member, same⟩)
  rw [entriesOf, none, List.flatMap_nil]

namespace DefinitionTable

/-- The guards of both tables. A guard which a table does not define counts as an empty definition
there. -/
def merge (first second : DefinitionTable) : DefinitionTable :=
  .tabulate (first.keys ++ second.keys) fun guard =>
    some ((first.definitionOf guard).merge (second.definitionOf guard))

theorem definitionOf_ofExcerpts (excerpts : List Excerpt) (guard : Text) :
    (ofExcerpts excerpts).definitionOf guard =
      .ofEntries guard (Excerpt.entriesOf guard excerpts) := by
  unfold definitionOf ofExcerpts
  by_cases present : guard ∈ excerpts.map Excerpt.guard
  · rw [OrderedMap.get?_tabulate present, Option.getD_some]
  · rw [OrderedMap.get?_tabulate_of_not_mem present, Excerpt.entriesOf_eq_nil present]
    rfl

theorem ofExcerpts_append (first second : List Excerpt) :
    ofExcerpts (first ++ second) = (ofExcerpts first).merge (ofExcerpts second) := by
  have joint (guard : Text) : guard ∈ (ofExcerpts first).keys ++ (ofExcerpts second).keys ↔
      guard ∈ (first ++ second).map Excerpt.guard := by
    simp [keys_ofExcerpts, OrderedMap.mem_distinct]
  apply OrderedMap.ext_get?
  · rw [merge, OrderedMap.keys_tabulate fun _ _ => rfl, keys_ofExcerpts, keys_ofExcerpts,
      keys_ofExcerpts, List.map_append, OrderedMap.distinct_distinct_append]
  · intro guard
    by_cases present : guard ∈ (first ++ second).map Excerpt.guard
    · rw [merge, OrderedMap.get?_tabulate ((joint guard).mpr present), ofExcerpts,
        OrderedMap.get?_tabulate present, definitionOf_ofExcerpts, definitionOf_ofExcerpts,
        Excerpt.entriesOf_append, Definition.ofEntries_append]
    · have absent := fun member => present ((joint guard).mp member)
      rw [merge, OrderedMap.get?_tabulate_of_not_mem absent, ofExcerpts,
        OrderedMap.get?_tabulate_of_not_mem present]

end DefinitionTable
end GLDispatch
