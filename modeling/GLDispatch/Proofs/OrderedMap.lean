import GLDispatch.OrderedMap

/-! # Laws of ordered maps

An ordered map is determined by its keys, in order, and by what it holds under each of them. So a
map which arises from insertions is described without the insertions: every key once, in the order
of the first insertion, with the value of the last one. -/
namespace GLDispatch.OrderedMap

variable {κ α β : Type} [DecidableEq κ]

theorem findEntry_eq_none {key : κ} {entries : List (κ × α)}
    (absent : key ∉ entries.map Prod.fst) : findEntry key entries = none := by
  cases found : findEntry key entries with
  | none => rfl
  | some value => exact absurd ((isSome_findEntry key entries).mp (by rw [found]; rfl)) absent

theorem findEntry_of_mem {key : κ} {value : α} {entries : List (κ × α)}
    (nodup : (entries.map Prod.fst).Nodup) (member : (key, value) ∈ entries) :
    findEntry key entries = some value := by
  induction entries with
  | nil => cases member
  | cons entry rest ih =>
    have parts := List.nodup_cons.mp nodup
    rw [findEntry]
    rcases List.mem_cons.mp member with first | later
    · rw [← first, if_pos rfl]
    · have different : entry.1 ≠ key := by
        intro same
        exact parts.1 (List.mem_map.mpr ⟨(key, value), later, same.symm⟩)
      rw [if_neg different]
      exact ih parts.2 later

theorem mem_of_findEntry {key : κ} {value : α} {entries : List (κ × α)}
    (found : findEntry key entries = some value) : (key, value) ∈ entries := by
  induction entries with
  | nil => cases found
  | cons entry rest ih =>
    rw [findEntry] at found
    split at found
    next same =>
      cases found
      rw [← same]
      exact List.mem_cons_self
    next => exact List.mem_cons_of_mem _ (ih found)

theorem get?_eq_some_iff (m : OrderedMap κ α) (key : κ) (value : α) :
    m.get? key = some value ↔ (key, value) ∈ m.entries :=
  ⟨mem_of_findEntry, findEntry_of_mem m.nodup⟩

theorem get?_eq_none_iff (m : OrderedMap κ α) (key : κ) : m.get? key = none ↔ key ∉ m.keys := by
  rw [← contains_iff, contains]
  cases m.get? key <;> simp

theorem entries_ext {left right : List (κ × α)} (nodup : (left.map Prod.fst).Nodup)
    (keys : left.map Prod.fst = right.map Prod.fst)
    (values : ∀ key, findEntry key left = findEntry key right) : left = right := by
  induction left generalizing right with
  | nil => exact (List.map_eq_nil_iff.mp keys.symm).symm
  | cons entry rest ih =>
    cases right with
    | nil => cases keys
    | cons other more =>
      have parts := List.nodup_cons.mp nodup
      obtain ⟨sameKey, restKeys⟩ := List.cons.inj keys
      have sameValue : entry.2 = other.2 := by
        have here := values entry.1
        rw [findEntry, if_pos rfl, findEntry, if_pos sameKey.symm] at here
        exact Option.some.inj here
      have restValues : ∀ key, findEntry key rest = findEntry key more := by
        intro key
        by_cases first : entry.1 = key
        · subst first
          rw [findEntry_eq_none parts.1, findEntry_eq_none (restKeys ▸ parts.1)]
        · have here := values key
          rwa [findEntry, if_neg first, findEntry, if_neg (sameKey ▸ first)] at here
      rw [ih parts.2 restKeys restValues, Prod.ext sameKey sameValue]

/-- Order and contents are all there is to a map. -/
theorem ext_get? {m n : OrderedMap κ α} (keys : m.keys = n.keys)
    (values : ∀ key, m.get? key = n.get? key) : m = n := by
  have same : m.entries = n.entries := entries_ext m.nodup keys values
  cases m
  cases n
  cases same
  rfl

theorem insert_get?_self {m : OrderedMap κ α} {key : κ} {value : α}
    (held : m.get? key = some value) : m.insert key value = m := by
  apply ext_get?
  · rw [keys_insert, if_pos ((contains_iff m key).mp (by rw [contains, held]; rfl))]
  · intro other
    rw [get?_insert]
    split
    next same => rw [← same, held]
    next => rfl

theorem insert_insert (m : OrderedMap κ α) (key : κ) (first second : α) :
    (m.insert key first).insert key second = m.insert key second := by
  apply ext_get?
  · have present : key ∈ (m.insert key first).keys := by
      rw [keys_insert]
      split
      next member => exact member
      next => simp
    rw [keys_insert, if_pos present, keys_insert, keys_insert]
  · intro other
    simp only [get?_insert]
    split <;> rfl

/-! ## Places -/

theorem insertEntry_of_not_mem {key : κ} {entries : List (κ × α)}
    (absent : key ∉ entries.map Prod.fst) (value : α) :
    insertEntry key value entries = entries ++ [(key, value)] := by
  induction entries with
  | nil => rfl
  | cons entry rest ih =>
    rw [List.map_cons, List.mem_cons, not_or] at absent
    rw [insertEntry, if_neg (Ne.symm absent.1), ih absent.2, List.cons_append]

theorem exists_insertEntry {key : κ} {entries : List (κ × α)} {old : α}
    (held : findEntry key entries = some old) (value : α) :
    ∃ front back, entries = front ++ (key, old) :: back ∧
      insertEntry key value entries = front ++ (key, value) :: back := by
  induction entries with
  | nil => cases held
  | cons entry rest ih =>
    rw [findEntry] at held
    split at held
    next same =>
      cases held
      exact ⟨[], rest, by rw [← same]; rfl, by rw [insertEntry, if_pos same]; rfl⟩
    next other =>
      obtain ⟨front, back, whole, inserted⟩ := ih held
      exact ⟨entry :: front, back, by rw [whole]; rfl,
        by rw [insertEntry, if_neg other, inserted]; rfl⟩

/-- A new key comes last. -/
theorem entries_insert_of_not_mem {m : OrderedMap κ α} {key : κ} (absent : key ∉ m.keys)
    (value : α) : (m.insert key value).entries = m.entries ++ [(key, value)] :=
  insertEntry_of_not_mem absent value

/-- A key which is present keeps its place, and so do all others. -/
theorem exists_entries_insert {m : OrderedMap κ α} {key : κ} {old : α}
    (held : m.get? key = some old) (value : α) :
    ∃ front back, m.entries = front ++ (key, old) :: back ∧
      (m.insert key value).entries = front ++ (key, value) :: back :=
  exists_insertEntry held value

/-! ## Selection -/

omit [DecidableEq κ] in
theorem keys_filterMap_sublist (keep? : κ → α → Option β) (entries : List (κ × α)) :
    ((entries.filterMap fun entry => (keep? entry.1 entry.2).map (entry.1, ·)).map Prod.fst).Sublist
      (entries.map Prod.fst) := by
  induction entries with
  | nil => exact List.Sublist.refl _
  | cons entry rest ih =>
    rw [List.filterMap_cons, List.map_cons]
    cases keep? entry.1 entry.2 with
    | none => exact ih.cons entry.1
    | some value => exact ih.cons_cons entry.1

/-- The entries with the values which `keep?` gives them, without those to which it gives none. -/
def filterMap (keep? : κ → α → Option β) (m : OrderedMap κ α) : OrderedMap κ β where
  entries := m.entries.filterMap fun entry => (keep? entry.1 entry.2).map (entry.1, ·)
  nodup := m.nodup.sublist (keys_filterMap_sublist keep? m.entries)

theorem get?_filterMap (keep? : κ → α → Option β) (m : OrderedMap κ α) (key : κ) :
    (m.filterMap keep?).get? key = (m.get? key).bind (keep? key) := by
  apply Option.ext
  intro value
  rw [get?_eq_some_iff, filterMap, List.mem_filterMap, Option.bind_eq_some_iff]
  constructor
  · intro given
    obtain ⟨entry, member, made⟩ := given
    obtain ⟨held, kept, same⟩ := Option.map_eq_some_iff.mp made
    cases same
    exact ⟨entry.2, (m.get?_eq_some_iff entry.1 entry.2).mpr member, kept⟩
  · intro given
    obtain ⟨before, held, kept⟩ := given
    exact ⟨(key, before), (m.get?_eq_some_iff key before).mp held, by simp [kept]⟩

omit [DecidableEq κ] in
/-- Of keys which are not left out, none is. -/
theorem filter_keys_filterMap {keep? : κ → α → Option β} {m : OrderedMap κ α} {selects : κ → Bool}
    (kept : ∀ key value, selects key = true → (keep? key value).isSome) :
    (m.filterMap keep?).keys.filter selects = m.keys.filter selects := by
  unfold keys filterMap
  dsimp only
  induction m.entries with
  | nil => rfl
  | cons entry rest ih =>
    rw [List.filterMap_cons]
    cases made : keep? entry.1 entry.2 with
    | some value => simp only [Option.map_some, List.map_cons, List.filter_cons, ih]
    | none =>
      have unselected : ¬ selects entry.1 = true := by
        intro selected
        have some := kept entry.1 entry.2 selected
        rw [made] at some
        cases some
      rw [Option.map_none, List.map_cons, List.filter_cons_of_neg unselected, ih]

/-! ## Maps without their history -/

/-- The keys, each one where it occurs first. -/
def distinct (keys : List κ) : List κ :=
  keys.eraseDups

theorem mem_distinct {keys : List κ} {key : κ} : key ∈ distinct keys ↔ key ∈ keys :=
  List.mem_eraseDups

theorem nodup_distinct (keys : List κ) : (distinct keys).Nodup := by
  match keys with
  | [] => exact List.nodup_nil
  | key :: rest =>
    rw [distinct, List.eraseDups_cons]
    exact List.nodup_cons.mpr ⟨by simp [List.mem_eraseDups], nodup_distinct _⟩
termination_by keys.length
decreasing_by exact Nat.lt_succ_of_le (List.length_filter_le _ _)

theorem distinct_concat (keys : List κ) (key : κ) :
    distinct (keys ++ [key]) = if key ∈ keys then distinct keys else distinct keys ++ [key] := by
  rw [distinct, List.eraseDups_append]
  by_cases present : key ∈ keys <;>
    simp [distinct, List.removeAll, present, List.eraseDups_cons]

omit [DecidableEq κ] in
theorem keys_filterMap_entries (keys : List κ) (value? : κ → Option α) :
    (keys.filterMap fun key => (value? key).map (key, ·)).map Prod.fst =
      keys.filter fun key => (value? key).isSome := by
  induction keys with
  | nil => rfl
  | cons key rest ih =>
    cases held : value? key <;> simp [held, ih]

/-- The map of the keys, each one once and in the order of their first occurrence, with the values
which `value?` gives them. -/
def tabulate (keys : List κ) (value? : κ → Option α) : OrderedMap κ α where
  entries := (distinct keys).filterMap fun key => (value? key).map (key, ·)
  nodup := by
    rw [keys_filterMap_entries]
    exact (nodup_distinct keys).filter _

theorem keys_tabulate {keys : List κ} {value? : κ → Option α}
    (total : ∀ key ∈ keys, (value? key).isSome) : (tabulate keys value?).keys = distinct keys := by
  rw [OrderedMap.keys, tabulate, keys_filterMap_entries]
  exact List.filter_eq_self.mpr fun key member => total key (mem_distinct.mp member)

theorem get?_tabulate {keys : List κ} {key : κ} (member : key ∈ keys) (value? : κ → Option α) :
    (tabulate keys value?).get? key = value? key := by
  apply Option.ext
  intro value
  rw [get?_eq_some_iff, tabulate, List.mem_filterMap]
  constructor
  · intro given
    obtain ⟨other, _, made⟩ := given
    obtain ⟨held, given, same⟩ := Option.map_eq_some_iff.mp made
    cases same
    exact given
  · intro given
    exact ⟨key, mem_distinct.mpr member, by rw [given]; rfl⟩

theorem get?_tabulate_of_not_mem {keys : List κ} {key : κ} (missing : key ∉ keys)
    (value? : κ → Option α) : (tabulate keys value?).get? key = none := by
  rw [get?_eq_none_iff, OrderedMap.keys, tabulate, keys_filterMap_entries]
  intro member
  exact missing (mem_distinct.mp (List.mem_filter.mp member).1)

/-- The value of the last capture of a key. -/
def lastValue? (key : κ) (captures : List (κ × α)) : Option α :=
  ((captures.filter fun capture => capture.1 = key).getLast?).map Prod.snd

theorem lastValue?_cons (key : κ) (capture : κ × α) (captures : List (κ × α)) :
    lastValue? key (capture :: captures) =
      (lastValue? key captures).or (if capture.1 = key then some capture.2 else none) := by
  unfold lastValue?
  by_cases same : capture.1 = key
  · rw [List.filter_cons_of_pos (by simpa using same), List.getLast?_cons, if_pos same]
    cases (captures.filter fun capture => capture.1 = key).getLast? <;> rfl
  · rw [List.filter_cons_of_neg (by simpa using same), if_neg same, Option.or_none]

theorem isSome_lastValue? {key : κ} {captures : List (κ × α)}
    (member : key ∈ captures.map Prod.fst) : (lastValue? key captures).isSome := by
  induction captures with
  | nil => cases member
  | cons capture captures ih =>
    rw [lastValue?_cons, Option.isSome_or]
    rcases List.mem_cons.mp member with first | later
    · rw [if_pos first.symm]
      simp
    · rw [ih later]
      rfl

theorem lastValue?_append (key : κ) (first second : List (κ × α)) :
    lastValue? key (first ++ second) = (lastValue? key second).or (lastValue? key first) := by
  induction first with
  | nil =>
    have none : lastValue? key ([] : List (κ × α)) = none := rfl
    rw [List.nil_append, none, Option.or_none]
  | cons capture first ih =>
    rw [List.cons_append, lastValue?_cons, ih, lastValue?_cons, Option.or_assoc]

theorem lastValue?_of_not_mem {key : κ} {captures : List (κ × α)}
    (missing : key ∉ captures.map Prod.fst) : lastValue? key captures = none := by
  unfold lastValue?
  rw [List.filter_eq_nil_iff.mpr]
  · rfl
  · intro capture member same
    exact missing (List.mem_map.mpr ⟨capture, member, by simpa using same⟩)

theorem mem_of_lastValue? {key : κ} {value : α} {captures : List (κ × α)}
    (found : lastValue? key captures = some value) : (key, value) ∈ captures := by
  obtain ⟨capture, last, rfl⟩ := Option.map_eq_some_iff.mp found
  obtain ⟨member, same⟩ := List.mem_filter.mp (List.mem_of_getLast? last)
  rw [decide_eq_true_eq] at same
  rw [← same]
  exact member

/-- All captured keys, in the order of their first capture, with the values of the last. -/
def lastValues (captures : List (κ × α)) : OrderedMap κ α :=
  tabulate (captures.map Prod.fst) fun key => lastValue? key captures

theorem keys_lastValues (captures : List (κ × α)) :
    (lastValues captures).keys = distinct (captures.map Prod.fst) :=
  keys_tabulate fun _ member => isSome_lastValue? member

theorem get?_lastValues (captures : List (κ × α)) (key : κ) :
    (lastValues captures).get? key = lastValue? key captures := by
  rw [lastValues]
  by_cases present : key ∈ captures.map Prod.fst
  · rw [get?_tabulate present]
  · rw [get?_tabulate_of_not_mem present, lastValue?_of_not_mem present]

/-- Inserts the captures in turn. -/
def insertAll (m : OrderedMap κ α) (captures : List (κ × α)) : OrderedMap κ α :=
  captures.foldl (fun m capture => m.insert capture.1 capture.2) m

theorem keys_insert_distinct {m : OrderedMap κ α} {before : List κ}
    (keys : m.keys = distinct before) (key : κ) (value : α) :
    (m.insert key value).keys = distinct (before ++ [key]) := by
  rw [keys_insert, distinct_concat, keys]
  simp only [mem_distinct]

theorem keys_insertAll {m : OrderedMap κ α} {before : List κ} (keys : m.keys = distinct before)
    (captures : List (κ × α)) :
    (m.insertAll captures).keys = distinct (before ++ captures.map Prod.fst) := by
  induction captures generalizing m before with
  | nil => rw [List.map_nil, List.append_nil, insertAll, List.foldl_nil, keys]
  | cons capture captures ih =>
    rw [List.map_cons, List.append_cons]
    exact ih (keys_insert_distinct keys capture.1 capture.2)

theorem get?_insertAll (m : OrderedMap κ α) (captures : List (κ × α)) (key : κ) :
    (m.insertAll captures).get? key = (lastValue? key captures).or (m.get? key) := by
  induction captures generalizing m with
  | nil => rfl
  | cons capture captures ih =>
    have step : (m.insertAll (capture :: captures)).get? key =
        ((m.insert capture.1 capture.2).insertAll captures).get? key := rfl
    rw [step, ih, get?_insert, lastValue?_cons, Option.or_assoc]
    split <;> simp

/-- First capture for the place, last capture for the value. -/
theorem insertAll_empty (captures : List (κ × α)) :
    (∅ : OrderedMap κ α).insertAll captures = lastValues captures := by
  have empty : (∅ : OrderedMap κ α).keys = distinct ([] : List κ) := rfl
  apply ext_get?
  · rw [keys_insertAll empty, List.nil_append, keys_lastValues]
  · intro key
    have absent : (∅ : OrderedMap κ α).get? key = none := rfl
    rw [get?_insertAll, absent, Option.or_none, get?_lastValues]

end GLDispatch.OrderedMap
