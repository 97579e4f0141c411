import GLDispatch.Proofs.Growth
import Mathlib.Data.List.Forall2

/-! # Levels left over

Where a region is closed the nesting level of a scanner stays as it is, and that can be any number if
the region was left early. Nothing depends on it there, because every way into a region counts from
zero again. So scanners outside a region with the same definitions work alike whatever their levels,
and from the first operation on that opens a region or hands over a table they are the same. -/
namespace GLDispatch.Scanner

/-- Whether the operation sets the nesting level: it opens a region or hands over a table. -/
def renews (s : Scanner) (operation : Operation) : Bool :=
  (s.opens? operation).isSome || operation.concludes

/-- Two scanners which differ at most in a level left over. -/
structure Alike (s t : Scanner) : Prop where
  definitions : s.definitions = t.definitions
  region : s.region = t.region
  nesting : s.region ≠ none → s.nesting = t.nesting

/-- The same was reported and handed over, and the scanners are alike. -/
structure Outcome.Alike (first second : Outcome) : Prop where
  events : first.events = second.events
  table : first.table = second.table
  scanner : first.scanner.Alike second.scanner

/-! ## One operation -/

theorem Alike.refl (s : Scanner) : s.Alike s :=
  ⟨rfl, rfl, fun _ => rfl⟩

theorem Outcome.Alike.refl (outcome : Outcome) : outcome.Alike outcome :=
  ⟨rfl, rfl, .refl _⟩

/-- Outside a region, an operation which does not set the level does nothing at all. -/
theorem apply_idle {s : Scanner} {operation : Operation} (outside : s.region = none)
    (idle : s.renews operation = false) : s.apply operation = { scanner := s } := by
  obtain ⟨definitions, region, nesting⟩ := s
  cases outside
  cases operation with
  | read line =>
    have closed : Directive.opening? line = none := by
      simpa [renews, opens?, Operation.concludes] using idle
    simp [apply, read, closed]
  | finish lines => simp [renews, Operation.concludes] at idle
  | enter guard => simp [renews, opens?] at idle
  | leave => rfl
  | record line => rfl

theorem enter_congr {s t : Scanner} (same : s.definitions = t.definitions) (guard : Text) :
    s.enter guard = t.enter guard := by
  rw [enter, same, enter]

namespace Alike

variable {s t : Scanner} (h : s.Alike t)
include h

theorem eq_of_inside (inside : s.region ≠ none) : s = t := by
  have level := h.nesting inside
  obtain ⟨definitions, region, nesting⟩ := s
  cases h.definitions
  cases h.region
  cases level
  rfl

theorem renews_eq (operation : Operation) : s.renews operation = t.renews operation := by
  cases operation <;> simp [renews, opens?, h.region]

/-- What sets the level does not look at the one before. -/
theorem apply_eq {operation : Operation} (renewal : s.renews operation = true) :
    s.apply operation = t.apply operation := by
  by_cases outside : s.region = none
  · have outside' : t.region = none := h.region ▸ outside
    cases operation with
    | read line =>
      have opening : (Directive.opening? line).isSome = true := by
        simpa [renews, opens?, outside, Operation.concludes] using renewal
      obtain ⟨guard, opening⟩ := Option.isSome_iff_exists.mp opening
      simp only [apply, read, outside, outside', opening, enter_congr h.definitions]
    | finish lines =>
      obtain ⟨definitions, region, nesting⟩ := s
      obtain ⟨definitions', region', nesting'⟩ := t
      cases h.definitions
      cases outside
      cases outside'
      rw [apply_finish, apply_finish, conclude_outside, conclude_outside]
    | enter guard => simp only [apply, enter_congr h.definitions]
    | leave | record => simp [renews, opens?, Operation.concludes] at renewal
  · rw [h.eq_of_inside outside]

theorem apply (operation : Operation) : (s.apply operation).Alike (t.apply operation) := by
  by_cases outside : s.region = none
  · cases renewal : s.renews operation with
    | true => exact h.apply_eq renewal ▸ .refl _
    | false =>
      rw [apply_idle outside renewal,
        apply_idle (h.region ▸ outside) (h.renews_eq operation ▸ renewal)]
      exact ⟨rfl, rfl, h⟩
  · exact h.eq_of_inside outside ▸ .refl _

end Alike

/-! ## Operations in turn -/

theorem Alike.total {s t : Scanner} (h : s.Alike t) (operations : List Operation) :
    (s.total operations).scanner.Alike (t.total operations).scanner := by
  induction operations generalizing s t with
  | nil => exact h
  | cons operation operations ih =>
    rw [scanner_total_cons, scanner_total_cons]
    exact ih (h.apply operation).scanner

theorem Alike.perform {s t : Scanner} (h : s.Alike t) (operations : List Operation) :
    List.Forall₂ Outcome.Alike (s.perform operations) (t.perform operations) := by
  induction operations generalizing s t with
  | nil => exact .nil
  | cons operation operations ih =>
    have step := h.apply operation
    exact .cons step (ih step.scanner)

theorem length_perform (s : Scanner) (operations : List Operation) :
    (s.perform operations).length = operations.length := by
  induction operations generalizing s with
  | nil => rfl
  | cons operation operations ih => rw [Scanner.perform, List.length_cons, ih, List.length_cons]

theorem perform_append (s : Scanner) (front back : List Operation) :
    s.perform (front ++ back) = s.perform front ++ (s.total front).scanner.perform back := by
  induction front generalizing s with
  | nil => rfl
  | cons operation front ih =>
    rw [List.cons_append, Scanner.perform, Scanner.perform, ih, List.cons_append,
      scanner_total_cons]

theorem drop_perform (s : Scanner) (front back : List Operation) :
    (s.perform (front ++ back)).drop front.length = (s.total front).scanner.perform back := by
  rw [perform_append, ← s.length_perform front, List.drop_left]

/-- Whatever is done with two scanners outside a region which have the same definitions, the same is
reported and handed over, and the definitions and the open region remain the same. From any
operation on which opens a region or hands over a table, the levels are the same as well. -/
theorem perform_whatever_level {s t : Scanner} (same : s.definitions = t.definitions)
    (outside : s.region = none) (outside' : t.region = none) (operations : List Operation) :
    List.Forall₂ Outcome.Alike (s.perform operations) (t.perform operations) ∧
      ∀ front operation back, operations = front ++ operation :: back →
        (s.total front).scanner.renews operation = true →
        (s.perform operations).drop front.length = (t.perform operations).drop front.length := by
  have alike : s.Alike t := ⟨same, outside.trans outside'.symm, fun inside => absurd outside inside⟩
  refine ⟨alike.perform operations, ?_⟩
  rintro front operation back rfl renewal
  have step := (alike.total front).apply_eq renewal
  rw [drop_perform, drop_perform, Scanner.perform, Scanner.perform, step]

/-- A region which was left in the midst of two conditionals, and the same one without them. -/
theorem perform_whatever_level_left_early :
    let guard := "GL_VERSION_1_0".toList
    let s := (start.total [.enter guard, .read "#if 1".toList, .read "#if 1".toList, .leave]).scanner
    let t := (start.total [.enter guard, .leave]).scanner
    let operations : List Operation := [.record "/* ARB_sync */".toList,
      .read "#ifndef GL_VERSION_1_1".toList, .read "#endif".toList]
    s.nesting = 2 ∧ t.nesting = 0 ∧
      List.Forall₂ Outcome.Alike (s.perform operations) (t.perform operations) ∧
      (s.perform operations).drop 1 = (t.perform operations).drop 1 := by
  intro guard s t operations
  have same : s.definitions = t.definitions := by decide +kernel
  have levels := perform_whatever_level (s := s) (t := t) same (by decide +kernel)
    (by decide +kernel) operations
  exact ⟨by decide +kernel, by decide +kernel, levels.1,
    levels.2 [.record "/* ARB_sync */".toList] _ _ rfl (by decide +kernel)⟩

end GLDispatch.Scanner
