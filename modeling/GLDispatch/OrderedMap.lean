/-! # Ordered maps

Maps which keep their keys in the order of their first insertion. -/
namespace GLDispatch

/-- Distinct keys with their values, earliest first. -/
structure OrderedMap (κ α : Type) where
  entries : List (κ × α)
  nodup : (entries.map Prod.fst).Nodup
  deriving DecidableEq, Repr

namespace OrderedMap

variable {κ α : Type}

def keys (m : OrderedMap κ α) : List κ :=
  m.entries.map Prod.fst

theorem nodup_keys (m : OrderedMap κ α) : m.keys.Nodup :=
  m.nodup

instance : EmptyCollection (OrderedMap κ α) :=
  ⟨⟨[], List.nodup_nil⟩⟩

instance : Inhabited (OrderedMap κ α) :=
  ⟨∅⟩

def size (m : OrderedMap κ α) : Nat :=
  m.entries.length

variable [DecidableEq κ]

def findEntry (key : κ) : List (κ × α) → Option α
  | [] => none
  | entry :: rest => if entry.1 = key then some entry.2 else findEntry key rest

def get? (m : OrderedMap κ α) (key : κ) : Option α :=
  findEntry key m.entries

def contains (m : OrderedMap κ α) (key : κ) : Bool :=
  (m.get? key).isSome

/-- A key which is present keeps its place and takes the new value, another one comes last. -/
def insertEntry (key : κ) (value : α) : List (κ × α) → List (κ × α)
  | [] => [(key, value)]
  | entry :: rest =>
    if entry.1 = key then (key, value) :: rest else entry :: insertEntry key value rest

theorem keys_insertEntry (key : κ) (value : α) (entries : List (κ × α)) :
    (insertEntry key value entries).map Prod.fst =
      if key ∈ entries.map Prod.fst then entries.map Prod.fst
      else entries.map Prod.fst ++ [key] := by
  induction entries with
  | nil => simp [insertEntry]
  | cons entry rest ih =>
    by_cases h : entry.1 = key
    · simp [insertEntry, h]
    · simp only [insertEntry, if_neg h, List.map_cons, ih, List.mem_cons, Ne.symm h, false_or]
      split <;> simp

theorem nodup_insertEntry (key : κ) (value : α) {entries : List (κ × α)}
    (nodup : (entries.map Prod.fst).Nodup) :
    ((insertEntry key value entries).map Prod.fst).Nodup := by
  rw [keys_insertEntry]
  split
  · exact nodup
  · rename_i absent
    exact List.nodup_append.mpr ⟨nodup, by simp, by
      intro a member b last equal
      simp only [List.mem_singleton] at last
      exact absent (by rw [← last, ← equal]; exact member)⟩

def insert (m : OrderedMap κ α) (key : κ) (value : α) : OrderedMap κ α :=
  ⟨insertEntry key value m.entries, nodup_insertEntry key value m.nodup⟩

theorem keys_insert (m : OrderedMap κ α) (key : κ) (value : α) :
    (m.insert key value).keys = if key ∈ m.keys then m.keys else m.keys ++ [key] :=
  keys_insertEntry key value m.entries

theorem findEntry_insertEntry (key other : κ) (value : α) (entries : List (κ × α)) :
    findEntry other (insertEntry key value entries) =
      if key = other then some value else findEntry other entries := by
  induction entries with
  | nil => rfl
  | cons entry rest ih =>
    by_cases present : entry.1 = key
    · by_cases same : key = other <;> simp [insertEntry, findEntry, present, same]
    · rw [insertEntry, if_neg present, findEntry, ih, findEntry]
      by_cases same : key = other
      · subst same
        simp [present]
      · simp [same]

theorem get?_insert (m : OrderedMap κ α) (key other : κ) (value : α) :
    (m.insert key value).get? other = if key = other then some value else m.get? other :=
  findEntry_insertEntry key other value m.entries

theorem isSome_findEntry (key : κ) (entries : List (κ × α)) :
    (findEntry key entries).isSome = true ↔ key ∈ entries.map Prod.fst := by
  induction entries with
  | nil => simp [findEntry]
  | cons entry rest ih =>
    rw [findEntry, List.map_cons, List.mem_cons]
    by_cases same : entry.1 = key
    · simp [same]
    · rw [if_neg same, ih]
      exact ⟨Or.inr, fun h => h.resolve_left (Ne.symm same)⟩

theorem contains_iff (m : OrderedMap κ α) (key : κ) : m.contains key = true ↔ key ∈ m.keys :=
  isSome_findEntry key m.entries

/-- Inserts the entries in turn, so that the last value of a key counts. -/
def ofList (entries : List (κ × α)) : OrderedMap κ α :=
  entries.foldl (fun m entry => m.insert entry.1 entry.2) ∅

end OrderedMap
end GLDispatch
