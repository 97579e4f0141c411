import GLDispatch.Header.Scanner
import GLDispatch.Proofs.Excerpts

/-! # Regions

The regions of a header, described without a scanner. Each line moves the depth of conditionals up,
down or not at all; a region ends with the first line behind its opening one up to which the moves
sum to minus one. The scanner, which only counts, finds these regions on every header, badly nested
ones included: while it is inside a region, its count is the depth that the least sum has to
undo. -/
namespace GLDispatch

/-- How the line moves the depth of conditionals. -/
def Directive.weight (line : Text) : Int :=
  if opensConditional line then 1 else if closesConditional line then -1 else 0

/-- How the lines together move it. -/
def Directive.totalWeight (lines : List Text) : Int :=
  lines.foldr (fun line total => weight line + total) 0

structure Region where
  guard : Text
  contents : List Text
  /-- Whether the region ends before the header does. -/
  closed : Bool
  deriving DecidableEq, Repr

namespace Region

/-- The least number of leading lines whose weights sum to the target. -/
def firstSum? (target : Int) (lines : List Text) : Option Nat :=
  (List.range (lines.length + 1)).find? fun n => Directive.totalWeight (lines.take n) = target

/-- The number of lines behind the opening one, up to the one which closes the region. -/
def extent? (lines : List Text) : Option Nat :=
  firstSum? (-1) lines

/-- The lines which are no conditional directives, at any depth. -/
def contentsOf (lines : List Text) : List Text :=
  lines.filter fun line => Directive.weight line = 0

/-- The regions of a header, without those which open inside another one. -/
def ofLines : List Text → List Region
  | [] => []
  | line :: rest => match Directive.opening? line with
    | none => ofLines rest
    | some guard => match extent? rest with
      | none => [⟨guard, contentsOf rest, false⟩]
      | some n => ⟨guard, contentsOf (rest.take n), true⟩ :: ofLines (rest.drop n)
termination_by lines => lines.length
decreasing_by
  · exact Nat.lt_succ_self _
  · exact Nat.lt_succ_of_le (List.drop_sublist n rest).length_le

def entries (lines : List Text) : List Entry :=
  (contentsOf lines).filterMap Entry.ofLine?

def excerpt (r : Region) : Excerpt :=
  ⟨r.guard, r.contents.filterMap Entry.ofLine?⟩

/-- What is reported about a region. -/
def events (r : Region) : List Event :=
  [.entered r.guard, if r.closed then .left r.guard else .abandoned r.guard]

/-! ## Least sums -/

@[simp] theorem firstSum?_nil (target : Int) :
    firstSum? target [] = if target = 0 then some 0 else none := by
  by_cases h : target = 0 <;> simp [firstSum?, Directive.totalWeight, h, eq_comm]

theorem firstSum?_cons (target : Int) (line : Text) (rest : List Text) :
    firstSum? target (line :: rest) =
      if target = 0 then some 0
      else (firstSum? (target - Directive.weight line) rest).map (· + 1) := by
  have start : Directive.totalWeight ((line :: rest).take 0) = 0 := rfl
  have later :
      (fun n => decide (Directive.totalWeight ((line :: rest).take n) = target)) ∘ Nat.succ =
        fun n => decide (Directive.totalWeight (rest.take n) = target - Directive.weight line) := by
    funext n
    have sums : Directive.totalWeight (line :: rest.take n) = target ↔
        Directive.totalWeight (rest.take n) = target - Directive.weight line := by
      simp only [Directive.totalWeight, List.foldr_cons]
      omega
    simp only [Function.comp_apply, List.take_succ_cons, sums]
  rw [firstSum?, List.length_cons, List.range_succ_eq_map, List.find?_cons, start, List.find?_map,
    later]
  by_cases h : target = 0
  · simp [h]
  · simp [h, Ne.symm h, firstSum?]

theorem firstSum?_zero (lines : List Text) : firstSum? 0 lines = some 0 := by
  cases lines with
  | nil => simp
  | cons line rest => rw [firstSum?_cons, if_pos rfl]

theorem entries_cons (line : Text) (rest : List Text) :
    entries (line :: rest) =
      (if Directive.weight line = 0 then (Entry.ofLine? line).toList else []) ++ entries rest := by
  unfold entries contentsOf
  split
  next stays =>
    rw [List.filter_cons_of_pos (by simpa using stays), List.filterMap_cons]
    cases Entry.ofLine? line <;> rfl
  next moves => rw [List.filter_cons_of_neg (by simpa using moves), List.nil_append]

end Region

namespace Scanner

/-! ## The scanner -/

/-- Reads lines as they are, to the end of the header: all definitions, and the whole report. -/
def conclude (s : Scanner) : List Text → DefinitionTable × List Event
  | [] => (s.definitions, (s.region.map .abandoned).toList)
  | line :: rest =>
    let (next, new) := s.read line
    let (table, later) := next.conclude rest
    (table, new ++ later)

theorem conclude_cons {s next : Scanner} {line : Text} {new : List Event}
    (step : s.read line = (next, new)) (rest : List Text) :
    s.conclude (line :: rest) = ((next.conclude rest).1, new ++ (next.conclude rest).2) := by
  rw [conclude, step]

theorem foldl_read (s : Scanner) (reported : List Event) (lines : List Text) :
    let last := lines.foldl (fun (s, events) line =>
      let (next, new) := s.read (Text.trimEnding line)
      (next, events ++ new)) (s, reported)
    (last.1.definitions, last.2 ++ (last.1.region.map .abandoned).toList) =
      ((s.conclude (lines.map Text.trimEnding)).1,
        reported ++ (s.conclude (lines.map Text.trimEnding)).2) := by
  induction lines generalizing s reported with
  | nil => rfl
  | cons line rest ih =>
    have later := ih (s.read (Text.trimEnding line)).1
      (reported ++ (s.read (Text.trimEnding line)).2)
    simp only [List.append_assoc] at later
    exact later

theorem finish_eq (s : Scanner) (lines : List Text) :
    s.finish lines =
      ((s.conclude (lines.map Text.trimEnding)).1, start,
        (s.conclude (lines.map Text.trimEnding)).2) := by
  have run := foldl_read s [] lines
  rw [List.nil_append] at run
  obtain ⟨table, report⟩ := Prod.mk.inj run
  rw [← table, ← report]
  rfl

theorem read_opening {s : Scanner} {guard line : Text} (inside : s.region = some guard)
    (opens : Directive.opensConditional line = true) :
    s.read line = ({ s with nesting := s.nesting + 1 }, []) := by
  rw [read, inside]
  simp only [opens, if_true]

theorem read_closing {s : Scanner} {guard line : Text} (inside : s.region = some guard)
    (opens : Directive.opensConditional line = false)
    (closes : Directive.closesConditional line = true) :
    s.read line =
      if s.nesting = 0 then s.leave else ({ s with nesting := s.nesting - 1 }, []) := by
  rw [read, inside]
  simp [opens, closes]

theorem read_contents {s : Scanner} {guard line : Text} (inside : s.region = some guard)
    (opens : Directive.opensConditional line = false)
    (closes : Directive.closesConditional line = false) :
    s.read line = (s.record line, []) := by
  rw [read, inside]
  simp [opens, closes]

theorem record_inside (definitions : DefinitionTable) (guard : Text) (d : Definition) (n : Nat)
    (line : Text) :
    record ⟨definitions.insert guard d, some guard, n⟩ line =
      ⟨definitions.insert guard (d.recordAll (Entry.ofLine? line).toList), some guard, n⟩ := by
  have held : (definitions.insert guard d).get? guard = some d := by
    rw [OrderedMap.get?_insert, if_pos rfl]
  rw [record]
  simp only [held]
  cases Entry.ofLine? line with
  | none => rfl
  | some entry =>
    simp only [OrderedMap.insert_insert]
    rfl

/-- The end of a region whose definition was `d` before the lines, where `extent` is the number of
lines up to its closing one: the scanner goes on behind it, or the region is abandoned. -/
def concludeRegion (definitions : DefinitionTable) (guard : Text) (d : Definition)
    (lines : List Text) (extent : Option Nat) : DefinitionTable × List Event :=
  match extent with
  | none => (definitions.insert guard (d.recordAll (Region.entries lines)), [.abandoned guard])
  | some m =>
    let next := definitions.insert guard (d.recordAll (Region.entries (lines.take m)))
    let (table, later) := conclude ⟨next, none, 0⟩ (lines.drop m)
    (table, .left guard :: later)

theorem concludeRegion_cons (definitions : DefinitionTable) (guard : Text) (d : Definition)
    (line : Text) (rest : List Text) (extent : Option Nat) :
    concludeRegion definitions guard d (line :: rest) (extent.map (· + 1)) =
      concludeRegion definitions guard
        (d.recordAll (if Directive.weight line = 0 then (Entry.ofLine? line).toList else []))
        rest extent := by
  cases extent with
  | none =>
    simp only [Option.map_none, concludeRegion, Region.entries_cons, Definition.recordAll_append]
  | some m =>
    simp only [Option.map_some, concludeRegion, List.take_succ_cons, List.drop_succ_cons,
      Region.entries_cons, Definition.recordAll_append]

/-- Inside a region, where `n` conditionals are open, the region's own closing line is the first one
up to which the weights sum to `-(n + 1)`. -/
theorem conclude_inside (definitions : DefinitionTable) (guard : Text) (d : Definition) (n : Nat)
    (lines : List Text) :
    conclude ⟨definitions.insert guard d, some guard, n⟩ lines =
      concludeRegion definitions guard d lines (Region.firstSum? (-(n + 1)) lines) := by
  induction lines generalizing d n with
  | nil =>
    rw [Region.firstSum?_nil, if_neg (by omega)]
    rfl
  | cons line rest ih =>
    rw [Region.firstSum?_cons, if_neg (by omega), concludeRegion_cons]
    cases opens : Directive.opensConditional line with
    | true =>
      have weight : Directive.weight line = 1 := by rw [Directive.weight, if_pos opens]
      have target : -((n : Int) + 1) - 1 = -((n + 1 : Nat) + 1) := by omega
      rw [conclude_cons (read_opening rfl opens), ih d (n + 1), weight, target]
      rfl
    | false =>
      cases closes : Directive.closesConditional line with
      | true =>
        have weight : Directive.weight line = -1 := by simp [Directive.weight, opens, closes]
        rw [weight, if_neg (by omega)]
        cases n with
        | zero =>
          -- The sum is complete: the target behind this line is zero, which no line reaches.
          have complete : Region.firstSum? (-((0 : Nat) + 1) - -1) rest = some 0 :=
            Region.firstSum?_zero rest
          have step : read ⟨definitions.insert guard d, some guard, 0⟩ line =
              (⟨definitions.insert guard d, none, 0⟩, [.left guard]) :=
            read_closing rfl opens closes
          rw [conclude_cons step, complete]
          rfl
        | succ n =>
          have target : -((n + 1 : Nat) + 1 : Int) - -1 = -((n : Int) + 1) := by omega
          have step : read ⟨definitions.insert guard d, some guard, n + 1⟩ line =
              (⟨definitions.insert guard d, some guard, n⟩, []) :=
            read_closing rfl opens closes
          rw [conclude_cons step, ih d n, target]
          rfl
      | false =>
        have weight : Directive.weight line = 0 := by simp [Directive.weight, opens, closes]
        rw [conclude_cons (read_contents rfl opens closes), record_inside, ih, weight, Int.sub_zero,
          if_pos rfl]
        rfl

theorem enter_eq (s : Scanner) (guard : Text) :
    s.enter guard =
      (⟨s.definitions.insert guard (s.definitions.definitionOf guard), some guard, 0⟩,
        [.entered guard]) := by
  rw [enter, DefinitionTable.definitionOf]
  cases held : s.definitions.get? guard with
  | none => simp [OrderedMap.contains, held]
  | some d => simp [OrderedMap.contains, held, OrderedMap.insert_get?_self held]

/-- Outside a region, the rest of the header contributes the excerpts of its regions and nothing
else, whatever the count was left at. -/
theorem conclude_outside (definitions : DefinitionTable) (n : Nat) (lines : List Text) :
    conclude ⟨definitions, none, n⟩ lines =
      (definitions.addAll ((Region.ofLines lines).map Region.excerpt),
        (Region.ofLines lines).flatMap Region.events) := by
  induction lines using Region.ofLines.induct generalizing definitions n with
  | case1 =>
    rw [Region.ofLines]
    rfl
  | case2 line rest closed ih =>
    have step : read ⟨definitions, none, n⟩ line = (⟨definitions, none, n⟩, []) := by
      simp [read, closed]
    rw [conclude_cons step, ih, Region.ofLines, closed]
    rfl
  | case3 line rest guard opens endless =>
    have step : read ⟨definitions, none, n⟩ line = enter ⟨definitions, none, n⟩ guard := by
      simp [read, opens]
    rw [enter_eq] at step
    have extent : Region.firstSum? (-((0 : Nat) + 1)) rest = none := endless
    rw [conclude_cons step, conclude_inside, extent, Region.ofLines, opens]
    simp only [endless]
    rfl
  | case4 line rest guard opens m found ih =>
    have step : read ⟨definitions, none, n⟩ line = enter ⟨definitions, none, n⟩ guard := by
      simp [read, opens]
    rw [enter_eq] at step
    have extent : Region.firstSum? (-((0 : Nat) + 1)) rest = some m := found
    rw [conclude_cons step, conclude_inside, extent, Region.ofLines, opens]
    simp only [found, concludeRegion, ih]
    rfl

end Scanner

/-! ## Headers -/

namespace Parsed

theorem table_ofLines (lines : List Text) :
    (ofLines lines).table =
      .ofExcerpts ((Region.ofLines (lines.map Text.trimEnding)).map Region.excerpt) := by
  rw [ofLines, Scanner.finish_eq, Scanner.start, Scanner.conclude_outside,
    DefinitionTable.addAll_empty]

theorem events_ofLines (lines : List Text) :
    (ofLines lines).events =
      (Region.ofLines (lines.map Text.trimEnding)).flatMap Region.events := by
  rw [ofLines, Scanner.finish_eq, Scanner.start, Scanner.conclude_outside]

/-- What a header with these regions gives. -/
def ofRegions (regions : List Region) : Parsed :=
  ⟨.ofExcerpts (regions.map Region.excerpt), regions.flatMap Region.events⟩

/-- Scanning a header finds its regions, however its conditionals are nested. -/
theorem ofLines_eq_ofRegions (lines : List Text) :
    ofLines lines = ofRegions (Region.ofLines (lines.map Text.trimEnding)) := by
  rw [ofRegions, ← table_ofLines, ← events_ofLines]

end Parsed
end GLDispatch
