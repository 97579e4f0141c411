import GLDispatch.Text.Order
import Mathlib.Data.List.Sort

/-! # Laws of order

Code point order is the lexicographic order of characters, and it is total. -/
namespace GLDispatch.Text

theorem atMost_iff {s t : Text} : atMost s t = true ↔ ¬ t < s := by
  induction s generalizing t with
  | nil => simp [atMost]
  | cons a s ih =>
    cases t with
    | nil => simp [atMost]
    | cons b t =>
      have byCode (c d : Char) : c < d ↔ c.toNat < d.toNat := Iff.rfl
      simp only [atMost, Bool.or_eq_true, decide_eq_true_eq, Bool.and_eq_true, beq_iff_eq, ih,
        List.cons_lt_cons_iff, byCode, ← Char.toNat_inj]
      rcases Nat.lt_trichotomy a.toNat b.toNat with before | same | behind
      · simp [before, before.ne', before.not_gt]
      · simp [same]
      · simp [behind, behind.ne', behind.not_gt]

instance : IsTrans Text fun s t => atMost s t = true where
  trans _ _ _ first second :=
    atMost_iff.mpr (List.le_trans (atMost_iff.mp first) (atMost_iff.mp second))

instance : Std.Total fun s t : Text => atMost s t = true where
  total s t := (List.le_total s t).imp atMost_iff.mpr atMost_iff.mpr

instance : Std.Antisymm fun s t : Text => atMost s t = true where
  antisymm _ _ first second := List.le_antisymm (atMost_iff.mp first) (atMost_iff.mp second)

theorem lt_of_atMost {s t : Text} (before : atMost s t = true) (apart : s ≠ t) : s < t := by
  by_contra behind
  exact apart (List.le_antisymm (atMost_iff.mp before) behind)

theorem pairwise_mergeSort (texts : List Text) :
    (texts.mergeSort atMost).Pairwise fun s t => atMost s t = true := by
  simpa using List.pairwise_mergeSort' (fun s t => atMost s t = true) texts

/-- Sorting a given list: the kernel evaluates an insertion sort, but no merge sort. -/
theorem mergeSort_eq_insertionSort (texts : List Text) :
    texts.mergeSort atMost = texts.insertionSort fun s t => atMost s t = true := by
  simpa using List.mergeSort_eq_insertionSort (fun s t => atMost s t = true) texts

end GLDispatch.Text
