import GLDispatch.DefinitionTable
import GLDispatch.Proofs.OrderedMap

/-! # Tables of excerpts

What the regions of a header say, each one about its guard, makes a table: one definition for each
guard, with everything that any of its regions says. The table is described as a whole here, and
shown to be what entering the excerpts one after the other leads to. -/
namespace GLDispatch

def Entry.extension? : Entry → Option Text
  | .extension name => some name
  | .function _ _ => none

def Entry.function? : Entry → Option (Text × Signature)
  | .extension _ => none
  | .function key signature => some (key, signature)

/-- The entries of one region. -/
structure Excerpt where
  guard : Text
  entries : List Entry
  deriving DecidableEq, Repr

namespace Definition

/-- The definition whose regions hold the entries: the extensions with their repetitions, the
functions in the order of first mention with the signatures of the last. -/
def ofEntries (guard : Text) (entries : List Entry) : Definition :=
  ⟨guard, entries.filterMap Entry.extension?, .lastValues (entries.filterMap Entry.function?)⟩

def recordAll (d : Definition) (entries : List Entry) : Definition :=
  entries.foldl record d

theorem recordAll_cons (d : Definition) (entry : Entry) (entries : List Entry) :
    d.recordAll (entry :: entries) = (d.record entry).recordAll entries := rfl

theorem recordAll_append (d : Definition) (first second : List Entry) :
    d.recordAll (first ++ second) = (d.recordAll first).recordAll second :=
  List.foldl_append

theorem recordAll_eq (d : Definition) (entries : List Entry) :
    d.recordAll entries =
      ⟨d.guard, d.includes ++ entries.filterMap Entry.extension?,
        d.functions.insertAll (entries.filterMap Entry.function?)⟩ := by
  induction entries generalizing d with
  | nil => simp [recordAll, OrderedMap.insertAll]
  | cons entry entries ih =>
    rw [recordAll_cons, ih]
    cases entry <;>
      simp [record, List.filterMap_cons, Entry.extension?, Entry.function?, OrderedMap.insertAll]

theorem recordAll_fresh (guard : Text) (entries : List Entry) :
    ({ guard := guard } : Definition).recordAll entries = ofEntries guard entries := by
  rw [recordAll_eq, OrderedMap.insertAll_empty, List.nil_append]
  rfl

end Definition

/-- All that the excerpts say about the guard, in their order. -/
def Excerpt.entriesOf (guard : Text) (excerpts : List Excerpt) : List Entry :=
  (excerpts.filter fun excerpt => excerpt.guard = guard).flatMap Excerpt.entries

theorem Excerpt.entriesOf_cons (guard : Text) (excerpt : Excerpt) (excerpts : List Excerpt) :
    entriesOf guard (excerpt :: excerpts) =
      (if excerpt.guard = guard then excerpt.entries else []) ++ entriesOf guard excerpts := by
  unfold entriesOf
  by_cases same : excerpt.guard = guard <;> simp [same]

namespace DefinitionTable

/-- The table of a header with these excerpts. -/
def ofExcerpts (excerpts : List Excerpt) : DefinitionTable :=
  .tabulate (excerpts.map Excerpt.guard) fun guard =>
    some (.ofEntries guard (Excerpt.entriesOf guard excerpts))

theorem keys_ofExcerpts (excerpts : List Excerpt) :
    (ofExcerpts excerpts).keys = OrderedMap.distinct (excerpts.map Excerpt.guard) :=
  OrderedMap.keys_tabulate fun _ _ => rfl

/-- The definition of the guard, a fresh one if there is none. -/
def definitionOf (table : DefinitionTable) (guard : Text) : Definition :=
  (table.get? guard).getD { guard := guard }

def add (table : DefinitionTable) (excerpt : Excerpt) : DefinitionTable :=
  table.insert excerpt.guard ((table.definitionOf excerpt.guard).recordAll excerpt.entries)

def addAll (table : DefinitionTable) (excerpts : List Excerpt) : DefinitionTable :=
  excerpts.foldl add table

theorem addAll_cons (table : DefinitionTable) (excerpt : Excerpt) (excerpts : List Excerpt) :
    table.addAll (excerpt :: excerpts) = (table.add excerpt).addAll excerpts := rfl

theorem keys_addAll {table : DefinitionTable} {before : List Text}
    (keys : table.keys = OrderedMap.distinct before) (excerpts : List Excerpt) :
    (table.addAll excerpts).keys = OrderedMap.distinct (before ++ excerpts.map Excerpt.guard) := by
  induction excerpts generalizing table before with
  | nil => rw [List.map_nil, List.append_nil, addAll, List.foldl_nil, keys]
  | cons excerpt excerpts ih =>
    rw [addAll_cons, List.map_cons, List.append_cons]
    exact ih (OrderedMap.keys_insert_distinct keys _ _)

theorem definitionOf_add (table : DefinitionTable) (excerpt : Excerpt) (guard : Text) :
    (table.add excerpt).definitionOf guard =
      (table.definitionOf guard).recordAll
        (if excerpt.guard = guard then excerpt.entries else []) := by
  unfold definitionOf add
  rw [OrderedMap.get?_insert]
  split
  next same =>
    subst same
    rfl
  next => rfl

theorem definitionOf_addAll (table : DefinitionTable) (excerpts : List Excerpt) (guard : Text) :
    (table.addAll excerpts).definitionOf guard =
      (table.definitionOf guard).recordAll (Excerpt.entriesOf guard excerpts) := by
  induction excerpts generalizing table with
  | nil => rfl
  | cons excerpt excerpts ih =>
    rw [addAll_cons, ih, definitionOf_add, Excerpt.entriesOf_cons, Definition.recordAll_append]

theorem get?_of_mem {table : DefinitionTable} {guard : Text} (member : guard ∈ table.keys) :
    table.get? guard = some (table.definitionOf guard) := by
  unfold definitionOf
  cases held : table.get? guard with
  | none => exact absurd member ((table.get?_eq_none_iff guard).mp held)
  | some d => rfl

/-- Adding the excerpts in turn makes their table. -/
theorem addAll_empty (excerpts : List Excerpt) :
    (∅ : DefinitionTable).addAll excerpts = ofExcerpts excerpts := by
  have keys : ((∅ : DefinitionTable).addAll excerpts).keys =
      OrderedMap.distinct (excerpts.map Excerpt.guard) := by
    have none : (∅ : DefinitionTable).keys = OrderedMap.distinct [] := rfl
    exact keys_addAll none excerpts
  apply OrderedMap.ext_get?
  · rw [keys, keys_ofExcerpts]
  · intro guard
    have fresh : (∅ : DefinitionTable).definitionOf guard = { guard := guard } := rfl
    by_cases present : guard ∈ excerpts.map Excerpt.guard
    · rw [get?_of_mem (keys ▸ OrderedMap.mem_distinct.mpr present), definitionOf_addAll, fresh,
        Definition.recordAll_fresh, ofExcerpts, OrderedMap.get?_tabulate present]
    · rw [ofExcerpts, OrderedMap.get?_tabulate_of_not_mem present, OrderedMap.get?_eq_none_iff,
        keys]
      exact fun member => present (OrderedMap.mem_distinct.mp member)

theorem get?_ofExcerpts {excerpts : List Excerpt} {guard : Text} {d : Definition}
    (held : (ofExcerpts excerpts).get? guard = some d) :
    guard ∈ excerpts.map Excerpt.guard ∧
      d = .ofEntries guard (Excerpt.entriesOf guard excerpts) := by
  by_cases member : guard ∈ excerpts.map Excerpt.guard
  · rw [ofExcerpts, OrderedMap.get?_tabulate member] at held
    exact ⟨member, (Option.some.inj held).symm⟩
  · rw [ofExcerpts, OrderedMap.get?_tabulate_of_not_mem member] at held
    cases held

end DefinitionTable
end GLDispatch
