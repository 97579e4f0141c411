import GLDispatch.Proofs.Merge
import GLDispatch.Proofs.Regions
import GLDispatch.Proofs.Versions

/-! # Headers in parts

A header which ends outside all regions leaves nothing open for the lines behind it. So a header in
parts gives the merge of what the parts give, and where the parts have no guard in common their order
cannot be told from the table or from the binding. -/
namespace GLDispatch
open Text

/-! ## Complete headers -/

/-- The header does not end inside a region. -/
def Parsed.Complete (p : Parsed) : Prop :=
  ∀ event ∈ p.events, event.level ≠ .warning

instance (p : Parsed) : Decidable p.Complete :=
  inferInstanceAs (Decidable (∀ event ∈ p.events, event.level ≠ .warning))

namespace Scanner

theorem level_of_mem_read {s : Scanner} {line : Text} :
    ∀ event ∈ (s.read line).2, event.level = .debug := by
  cases s with
  | mk definitions region nesting =>
    cases region with
    | none =>
      unfold read enter
      dsimp only
      split <;> simp [Event.level]
    | some guard =>
      unfold read leave
      dsimp only
      split
      · simp
      · split
        · split <;> simp [Event.level]
        · simp

theorem feed_concat (s : Scanner) (lines : List Text) (line : Text) :
    s.feed (lines ++ [line]) =
      (((s.feed lines).1.read (trimEnding line)).1,
        (s.feed lines).2 ++ ((s.feed lines).1.read (trimEnding line)).2) := by
  rw [feed, List.foldl_append]
  rfl

theorem level_of_mem_feed (s : Scanner) (lines : List Text) :
    ∀ event ∈ (s.feed lines).2, event.level = .debug := by
  induction lines using List.reverseRecOn with
  | nil => simp [feed]
  | append_singleton lines line ih =>
    rw [feed_concat]
    exact List.forall_mem_append.mpr ⟨ih, level_of_mem_read⟩

end Scanner

namespace Parsed

/-- Warnings are about regions which the header leaves open. -/
theorem complete_iff_region (lines : List Text) :
    (ofLines lines).Complete ↔ (Scanner.start.feed lines).1.region = none := by
  have events : (ofLines lines).events = (Scanner.start.feed lines).2 ++
      ((Scanner.start.feed lines).1.region.map .abandoned).toList := rfl
  rw [Complete, events]
  cases (Scanner.start.feed lines).1.region with
  | none =>
    have debug := Scanner.level_of_mem_feed .start lines
    simp +contextual [debug]
  | some guard => simp [Event.level]

theorem complete_iff_closed (lines : List Text) :
    (ofLines lines).Complete ↔
      ∀ r ∈ Region.ofLines (lines.map trimEnding), r.closed = true := by
  have region (r : Region) :
      (∀ event ∈ r.events, event.level ≠ .warning) ↔ r.closed = true := by
    cases closed : r.closed <;> simp [Region.events, closed, Event.level]
  rw [Complete, events_ofLines, List.forall_mem_flatMap]
  simp only [region]

end Parsed

/-! ## Regions in parts -/

namespace Region

/-- More lines behind those which reach the sum make no difference. -/
theorem firstSum?_append_right {target : Int} {lines : List Text} {n : Nat}
    (found : firstSum? target lines = some n) (more : List Text) :
    n ≤ lines.length ∧ firstSum? target (lines ++ more) = some n := by
  induction lines generalizing target n with
  | nil =>
    rw [firstSum?_nil] at found
    split at found
    next zero =>
      cases found
      subst zero
      exact ⟨Nat.le_refl 0, firstSum?_zero more⟩
    next => cases found
  | cons line rest ih =>
    rw [firstSum?_cons] at found
    rw [List.cons_append, firstSum?_cons]
    split at found
    next zero =>
      cases found
      exact ⟨Nat.zero_le _, if_pos zero⟩
    next moves =>
      obtain ⟨m, later, rfl⟩ := Option.map_eq_some_iff.mp found
      obtain ⟨within, same⟩ := ih later
      rw [if_neg moves, same]
      exact ⟨Nat.succ_le_succ within, rfl⟩

theorem ofLines_append {first : List Text} (closed : ∀ r ∈ ofLines first, r.closed = true)
    (second : List Text) : ofLines (first ++ second) = ofLines first ++ ofLines second := by
  induction first using ofLines.induct with
  | case1 => simp [ofLines]
  | case2 line rest opensNone ih =>
    rw [ofLines, opensNone] at closed
    rw [List.cons_append, ofLines, opensNone, ofLines, opensNone]
    exact ih closed
  | case3 line rest guard opens endless =>
    rw [ofLines, opens] at closed
    simp [endless] at closed
  | case4 line rest guard opens n found ih =>
    obtain ⟨within, same⟩ := firstSum?_append_right found second
    have extent : extent? (rest ++ second) = some n := same
    rw [ofLines, opens] at closed
    simp only [found, List.forall_mem_cons] at closed
    rw [List.cons_append, ofLines, opens, ofLines, opens]
    simp only [extent, found, List.take_append_of_le_length within,
      List.drop_append_of_le_length within, ih closed.2, List.cons_append]

theorem ofLines_flatten {parts : List (List Text)}
    (closed : ∀ part ∈ parts, ∀ r ∈ ofLines part, r.closed = true) :
    ofLines parts.flatten = parts.flatMap ofLines := by
  induction parts with
  | nil => rw [List.flatten_nil, ofLines, List.flatMap_nil]
  | cons part parts ih =>
    obtain ⟨here, later⟩ := List.forall_mem_cons.mp closed
    rw [List.flatten_cons, ofLines_append here, ih later, List.flatMap_cons]

end Region

/-! ## Two parts -/

/-- The second header goes on where the first one ends. -/
def Parsed.merge (first second : Parsed) : Parsed :=
  ⟨first.table.merge second.table, first.events ++ second.events⟩

/-- What a complete header says stands, and the lines behind it add what they say on their own. -/
theorem Parsed.ofLines_append_eq_merge {first : List Text} (complete : (ofLines first).Complete)
    (second : List Text) : ofLines (first ++ second) = (ofLines first).merge (ofLines second) := by
  have regions := Region.ofLines_append ((complete_iff_closed first).mp complete)
    (second.map trimEnding)
  have table : (ofLines (first ++ second)).table =
      (ofLines first).table.merge (ofLines second).table := by
    rw [table_ofLines, table_ofLines, table_ofLines, List.map_append, regions, List.map_append,
      DefinitionTable.ofExcerpts_append]
  have events : (ofLines (first ++ second)).events =
      (ofLines first).events ++ (ofLines second).events := by
    rw [events_ofLines, events_ofLines, events_ofLines, List.map_append, regions,
      List.flatMap_append]
  rw [merge, ← table, ← events]

/-- The second part opens the guard again, declares the function anew and ends inside a nested
conditional. -/
theorem Parsed.ofLines_reopened :
    let first := ["#ifndef GL_VERSION_1_0".toList, "/* ARB_sync */".toList,
      "GLAPI void APIENTRY glFlush (void);".toList, "#endif".toList]
    let second := ["#ifndef GL_VERSION_1_0".toList, "GLAPI int APIENTRY glFlush (int n);".toList,
      "#if 1".toList, "/* ARB_sync */".toList]
    (ofLines first).Complete ∧ ofLines (first ++ second) = (ofLines first).merge (ofLines second) :=
  ⟨by decide, ofLines_append_eq_merge (by decide) _⟩

/-! ## Independent parts -/

/-- Of parts at most one of which contributes anything, the order does not matter. -/
theorem flatMap_eq_of_perm {α β : Type} {contribution : α → List β} {parts others : List α}
    (perm : parts.Perm others)
    (apart : parts.Pairwise fun a b => contribution a = [] ∨ contribution b = []) :
    parts.flatMap contribution = others.flatMap contribution := by
  induction perm with
  | nil => rfl
  | cons part _ ih =>
    rw [List.flatMap_cons, List.flatMap_cons, ih (List.pairwise_cons.mp apart).2]
  | swap first second rest =>
    have oneEmpty := (List.pairwise_cons.mp apart).1 first List.mem_cons_self
    simp only [List.flatMap_cons]
    rcases oneEmpty with none | none <;> simp [none]
  | trans front _ ihFront ihBehind =>
    have symmetric {a b : α} : contribution a = [] ∨ contribution b = [] →
        contribution b = [] ∨ contribution a = [] := Or.symm
    rw [ihFront apart, ihBehind ((front.pairwise_iff symmetric).mp apart)]

/-- The entries of the lines by regions. -/
def Excerpt.ofLines (lines : List Text) : List Excerpt :=
  (Region.ofLines (lines.map trimEnding)).map Region.excerpt

theorem Excerpt.ofLines_flatten {parts : List (List Text)}
    (complete : ∀ part ∈ parts, (Parsed.ofLines part).Complete) :
    ofLines parts.flatten = parts.flatMap ofLines := by
  have closed : ∀ part ∈ parts.map (List.map trimEnding), ∀ r ∈ Region.ofLines part,
      r.closed = true := by
    simp only [List.forall_mem_map]
    exact fun part member => (Parsed.complete_iff_closed part).mp (complete part member)
  rw [ofLines, List.map_flatten, Region.ofLines_flatten closed, List.flatMap_map, List.map_flatMap]
  rfl

/-- The table has what the excerpts say about each guard, whatever the order of the guards. -/
theorem DefinitionTable.get?_ofExcerpts_congr {excerpts others : List Excerpt}
    (guards : ∀ guard, guard ∈ excerpts.map Excerpt.guard ↔ guard ∈ others.map Excerpt.guard)
    (entries : ∀ guard, Excerpt.entriesOf guard excerpts = Excerpt.entriesOf guard others)
    (guard : Text) : (ofExcerpts excerpts).get? guard = (ofExcerpts others).get? guard := by
  by_cases present : guard ∈ excerpts.map Excerpt.guard
  · have presentToo := (guards guard).mp present
    rw [ofExcerpts, OrderedMap.get?_tabulate present, ofExcerpts,
      OrderedMap.get?_tabulate presentToo, entries]
  · have absentToo := fun member => present ((guards guard).mpr member)
    rw [ofExcerpts, OrderedMap.get?_tabulate_of_not_mem present, ofExcerpts,
      OrderedMap.get?_tabulate_of_not_mem absentToo]

/-- The headers define no guard in common. -/
def Parsed.Independent (p q : Parsed) : Prop :=
  ∀ guard ∈ p.table.keys, guard ∉ q.table.keys

instance (p q : Parsed) : Decidable (p.Independent q) :=
  inferInstanceAs (Decidable (∀ guard ∈ p.table.keys, guard ∉ q.table.keys))

theorem Parsed.get?_ofLines_flatten_perm {parts others : List (List Text)}
    (complete : ∀ part ∈ parts, (ofLines part).Complete)
    (apart : parts.Pairwise fun a b => (ofLines a).Independent (ofLines b))
    (perm : parts.Perm others) (guard : Text) :
    (ofLines parts.flatten).table.get? guard = (ofLines others.flatten).table.get? guard := by
  have table (lines : List Text) : (ofLines lines).table = .ofExcerpts (Excerpt.ofLines lines) :=
    table_ofLines lines
  have completeToo : ∀ part ∈ others, (ofLines part).Complete :=
    fun part member => complete part (perm.mem_iff.mpr member)
  rw [table, table, Excerpt.ofLines_flatten complete, Excerpt.ofLines_flatten completeToo]
  apply DefinitionTable.get?_ofExcerpts_congr
  · intro guard
    exact ((perm.flatMap_right Excerpt.ofLines).map Excerpt.guard).mem_iff
  · intro guard
    have entries (parts : List (List Text)) :
        Excerpt.entriesOf guard (parts.flatMap Excerpt.ofLines) =
          parts.flatMap fun part => Excerpt.entriesOf guard (Excerpt.ofLines part) := by
      simp [Excerpt.entriesOf, List.filter_flatMap, List.flatMap_assoc]
    rw [entries, entries]
    apply flatMap_eq_of_perm perm
    apply apart.imp
    intro a b independent
    by_cases present : guard ∈ (Excerpt.ofLines a).map Excerpt.guard
    · right
      apply Excerpt.entriesOf_eq_nil
      have here := independent guard
      rw [table, table, DefinitionTable.keys_ofExcerpts, DefinitionTable.keys_ofExcerpts,
        OrderedMap.mem_distinct, OrderedMap.mem_distinct] at here
      exact here present
    · exact Or.inl (Excerpt.entriesOf_eq_nil present)

/-- Independent parts of a header can be exchanged: nobody who walks the table, displays it, looks
definitions up or reads the binding can tell. -/
theorem Parsed.flatten_perm {parts others : List (List Text)}
    (complete : ∀ part ∈ parts, (ofLines part).Complete)
    (apart : parts.Pairwise fun a b => (ofLines a).Independent (ofLines b))
    (perm : parts.Perm others) :
    let table := (ofLines parts.flatten).table
    let other := (ofLines others.flatten).table
    table.binding = other.binding ∧ table.skippedExtensions = other.skippedExtensions ∧
      table.guards = other.guards ∧ table.versionGuards = other.versionGuards ∧
      table.summary = other.summary ∧ (∀ guard, table.get? guard = other.get? guard) ∧
      ∀ guard, table.contains guard = other.contains guard := by
  have same := get?_ofLines_flatten_perm complete apart perm
  exact ⟨DefinitionTable.binding_congr same, DefinitionTable.skippedExtensions_congr same,
    DefinitionTable.guards_congr same, DefinitionTable.versionGuards_congr same,
    DefinitionTable.summary_congr same, same, DefinitionTable.contains_congr same⟩

/-- A version, the extension which it bundles and a later version, and the same from the back. -/
theorem Parsed.flatten_reversed :
    let early := ["#ifndef GL_VERSION_1_0".toList, "/* ARB_sync */".toList, "#endif".toList]
    let extension := ["#ifndef GL_ARB_sync".toList, "GLAPI void APIENTRY glFlush (void);".toList,
      "typedef void (APIENTRYP PFNGLFLUSHPROC) (void);".toList, "#endif".toList]
    let late := ["#ifndef GL_VERSION_1_1".toList, "/* ARB_debug */".toList, "#endif".toList]
    let table := (ofLines [early, extension, late].flatten).table
    let other := (ofLines [late, extension, early].flatten).table
    (∀ part ∈ [early, extension, late], (ofLines part).Complete) ∧
      [early, extension, late].Pairwise (fun a b => (ofLines a).Independent (ofLines b)) ∧
      [early, extension, late].Perm [late, extension, early] ∧ table.keys ≠ other.keys ∧
      table.binding = other.binding ∧ table.skippedExtensions = other.skippedExtensions ∧
      table.guards = other.guards ∧ table.versionGuards = other.versionGuards ∧
      table.summary = other.summary ∧ (∀ guard, table.get? guard = other.get? guard) ∧
      ∀ guard, table.contains guard = other.contains guard :=
  ⟨by decide, by decide, by decide, by decide,
    flatten_perm (by decide) (by decide) (by decide)⟩

end GLDispatch
