/-! # Steps which may fail

Steps in turn succeed if each of them does, and then each can be looked at by itself. -/
namespace GLDispatch

variable {ε α β : Type}

theorem bind_eq_ok_iff {x : Except ε α} {f : α → Except ε β} {b : β} :
    (x >>= f) = .ok b ↔ ∃ a, x = .ok a ∧ f a = .ok b := by
  cases x with
  | error error =>
    constructor
    · intro done
      cases done
    · intro ⟨a, done, _⟩
      cases done
  | ok a =>
    constructor
    · intro done
      exact ⟨a, rfl, done⟩
    · intro ⟨a', same, done⟩
      cases same
      exact done

theorem mapM_cons_eq_ok_iff {f : α → Except ε β} {a : α} {as : List α} {results : List β} :
    (a :: as).mapM f = .ok results ↔
      ∃ b bs, f a = .ok b ∧ as.mapM f = .ok bs ∧ results = b :: bs := by
  rw [List.mapM_cons, bind_eq_ok_iff]
  refine exists_congr fun b => ?_
  rw [bind_eq_ok_iff]
  constructor
  · intro ⟨first, bs, rest, same⟩
    cases same
    exact ⟨bs, first, rest, rfl⟩
  · intro ⟨bs, first, rest, same⟩
    exact ⟨first, bs, rest, by rw [same]; rfl⟩

/-- What there is among the results comes from one of the items. -/
theorem exists_mem_mapM_iff {f : α → Except ε β} {as : List α} {bs : List β}
    (done : as.mapM f = .ok bs) (p : β → Prop) :
    (∃ b ∈ bs, p b) ↔ ∃ a ∈ as, ∃ b, f a = .ok b ∧ p b := by
  induction as generalizing bs with
  | nil =>
    cases done
    simp
  | cons a as ih =>
    obtain ⟨b, rest, first, later, rfl⟩ := mapM_cons_eq_ok_iff.mp done
    simp only [List.mem_cons, exists_eq_or_imp, ih later, first, Except.ok.injEq,
      exists_eq_left']

end GLDispatch
