import GLDispatch.Proofs.Regions
import GLDispatch.Proofs.TrailingBlanks

/-! # Operations in turn

What a sequence of operations comes to. Lines can be given to a scanner one by one, with their
endings, before the last ones are handed over together: that makes no difference in any state. After
a table was handed over, nothing is left of what came before. -/
namespace GLDispatch.Scanner
open Text

/-! ## Lines to the end of a header -/

theorem conclude_read (s : Scanner) (line : Text) (rest : List Text) :
    s.conclude (line :: rest) =
      (((s.read line).1.conclude rest).1, (s.read line).2 ++ ((s.read line).1.conclude rest).2) :=
  rfl

theorem conclude_trimEnding (s : Scanner) (lines : List Text) :
    s.conclude (lines.map trimEnding) = s.conclude lines := by
  induction lines generalizing s with
  | nil => rfl
  | cons line rest ih =>
    rw [List.map_cons, conclude_read, s.ignoresEnd_read.trimEnding, ih, conclude_read]

theorem apply_finish (s : Scanner) (lines : List Text) :
    s.apply (.finish lines) = ⟨start, (s.conclude lines).2, some (s.conclude lines).1⟩ := by
  rw [apply, finish_eq, conclude_trimEnding]

/-- Lines of blanks only can be left out. -/
theorem conclude_filter (s : Scanner) {keeps : Text → Bool}
    (blank : ∀ line, keeps line = false → AllBlank line) (lines : List Text) :
    s.conclude (lines.filter keeps) = s.conclude lines := by
  induction lines generalizing s with
  | nil => rfl
  | cons line rest ih =>
    cases kept : keeps line with
    | true => rw [List.filter_cons_of_pos kept, conclude_read, ih, conclude_read]
    | false =>
      rw [List.filter_cons_of_neg (by simp [kept]), ih, conclude_read,
        s.read_of_allBlank (blank line kept)]
      rfl

/-! ## Outcomes in turn -/

/-- Two outcomes in turn as one. -/
def Outcome.andThen (first second : Outcome) : Outcome :=
  ⟨second.scanner, first.events ++ second.events, second.table.or first.table⟩

/-- What operations in turn come to: the scanner at the end, everything that was reported, and the
table which was handed over last. -/
def total (s : Scanner) (operations : List Operation) : Outcome :=
  (s.perform operations).foldl Outcome.andThen { scanner := s }

theorem Outcome.andThen_assoc (first second third : Outcome) :
    (first.andThen second).andThen third = first.andThen (second.andThen third) := by
  simp [andThen, Option.or_assoc]

theorem Outcome.foldl_andThen (first second : Outcome) (outcomes : List Outcome) :
    outcomes.foldl andThen (first.andThen second) =
      first.andThen (outcomes.foldl andThen second) := by
  induction outcomes generalizing second with
  | nil => rfl
  | cons outcome outcomes ih => rw [List.foldl_cons, List.foldl_cons, andThen_assoc, ih]

theorem total_cons (s : Scanner) (operation : Operation) (operations : List Operation) :
    s.total (operation :: operations) =
      (s.apply operation).andThen ((s.apply operation).scanner.total operations) := by
  have before : Outcome.andThen { scanner := s } (s.apply operation) =
      (s.apply operation).andThen { scanner := (s.apply operation).scanner } := by
    simp [Outcome.andThen]
  rw [total, perform, List.foldl_cons, before, Outcome.foldl_andThen]
  rfl

theorem total_singleton (s : Scanner) (operation : Operation) :
    s.total [operation] = s.apply operation := by
  rw [total_cons]
  simp [total, perform, Outcome.andThen]

/-- Lines which are read one by one, endings and all, in front of those which finish the header. -/
theorem total_reads (s : Scanner) (front back : List Text) :
    s.total (front.map .read ++ [.finish back]) = s.apply (.finish (front ++ back)) := by
  induction front generalizing s with
  | nil => exact total_singleton s _
  | cons line front ih =>
    rw [List.map_cons, List.cons_append, total_cons, ih, apply_finish, apply_finish,
      List.cons_append, conclude_read]
    rfl

/-- However the lines of a header are divided into chunks, and whatever a scanner did before, the
table, the report and the scanner at the end are those of the whole header; and the next header is
read as by a new scanner. -/
theorem finish_in_chunks (s : Scanner) (front back next : List Text) :
    s.total (front.map .read ++ [.finish back]) = s.apply (.finish (front ++ back)) ∧
      (s.apply (.finish back)).scanner = start ∧
      (s.apply (.finish back)).scanner.apply (.finish next) =
        ⟨start, (Parsed.ofLines next).events, some (Parsed.ofLines next).table⟩ :=
  ⟨s.total_reads front back, rfl, rfl⟩

end GLDispatch.Scanner
