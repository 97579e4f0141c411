import GLDispatch.Proofs.Operations
import Mathlib.Data.List.Infix

/-! # Growth

Between two tables that are handed over, the definitions of a scanner only grow. One operation opens
a region, whose definition is a new one in the last place or one that was there, or it puts one entry
into the definition of the region that was open, or it leaves all definitions as they are. Hence, in
whatever order operations are called, each definition stands under its own guard, the open region has
a definition, and nothing that was recorded is lost or moved. -/
namespace GLDispatch

/-- What one more entry makes of a definition: a last extension, a last key, or another signature in
the place of the one before. -/
inductive Definition.Grows (d : Definition) : Definition → Prop where
  | included (name : Text) : d.Grows { d with includes := d.includes ++ [name] }
  | added {key : Text} {signature : Signature} {functions : OrderedMap Text Signature} :
      key ∉ d.functions.keys →
      functions.entries = d.functions.entries ++ [(key, signature)] →
      d.Grows { d with functions }
  | replaced {key : Text} {old new : Signature} {front back : List (Text × Signature)}
      {functions : OrderedMap Text Signature} :
      d.functions.entries = front ++ (key, old) :: back →
      functions.entries = front ++ (key, new) :: back →
      d.Grows { d with functions }

/-- Nothing in `d` is missing in `e` or stands in another place there. -/
structure Definition.Extends (d e : Definition) : Prop where
  guard : e.guard = d.guard
  includes : d.includes <+: e.includes
  keys : d.functions.keys <+: e.functions.keys

/-- Neither a guard nor anything in its definition is missing or has moved. -/
structure DefinitionTable.Extends (table later : DefinitionTable) : Prop where
  keys : table.keys <+: later.keys
  definitions : ∀ guard d, table.get? guard = some d →
    ∃ e, later.get? guard = some e ∧ d.Extends e

namespace Scanner

/-- The guard of the region which the operation opens. -/
def opens? (s : Scanner) : Operation → Option Text
  | .enter guard => some guard
  | .read line => if s.region = none then Directive.opening? line else none
  | .finish _ | .leave | .record _ => none

/-- Whether the operation hands over a table. -/
def Operation.concludes : Operation → Bool
  | .finish _ => true
  | .read _ | .enter _ | .leave | .record _ => false

/-- What an operation makes of the scanner `s` while no table is handed over. -/
inductive Changes (s : Scanner) (operation : Operation) (t : Scanner) : Prop where
  | kept : t.definitions = s.definitions → (t.region = none ∨ t.region = s.region) →
      Changes s operation t
  | reopened (guard : Text) : s.opens? operation = some guard → t.region = some guard →
      guard ∈ s.definitions.keys → t.definitions = s.definitions → Changes s operation t
  | opened (guard : Text) : s.opens? operation = some guard → t.region = some guard →
      guard ∉ s.definitions.keys →
      t.definitions.entries = s.definitions.entries ++ [(guard, { guard := guard })] →
      Changes s operation t
  | grown (guard : Text) (d e : Definition) (front back : List (Text × Definition)) :
      s.region = some guard → t.region = some guard → d.Grows e →
      s.definitions.entries = front ++ (guard, d) :: back →
      t.definitions.entries = front ++ (guard, e) :: back → Changes s operation t

/-- Each definition is stored under its own guard, and the open region has one. -/
structure Linked (s : Scanner) : Prop where
  own : ∀ entry ∈ s.definitions.entries, entry.2.guard = entry.1
  stored : ∀ guard, s.region = some guard → guard ∈ s.definitions.keys

end Scanner

/-! ## Entries -/

namespace Definition

theorem grows_record (d : Definition) (entry : Entry) : d.Grows (d.record entry) := by
  cases entry with
  | extension name => exact .included name
  | function key signature =>
    cases held : d.functions.get? key with
    | none =>
      have absent := (d.functions.get?_eq_none_iff key).mp held
      exact .added absent (OrderedMap.entries_insert_of_not_mem absent signature)
    | some old =>
      obtain ⟨front, back, whole, inserted⟩ := OrderedMap.exists_entries_insert held signature
      exact .replaced whole inserted

theorem Extends.refl (d : Definition) : d.Extends d :=
  ⟨rfl, List.prefix_rfl, List.prefix_rfl⟩

theorem Extends.trans {c d e : Definition} (first : c.Extends d) (second : d.Extends e) :
    c.Extends e :=
  ⟨second.guard.trans first.guard, first.includes.trans second.includes,
    first.keys.trans second.keys⟩

theorem Grows.extended {d e : Definition} (grows : d.Grows e) : d.Extends e := by
  cases grows with
  | included name => exact ⟨rfl, List.prefix_append _ _, List.prefix_rfl⟩
  | @added key signature functions absent whole =>
    refine ⟨rfl, List.prefix_rfl, ?_⟩
    have keys : functions.keys = d.functions.keys ++ [key] := by
      simp [OrderedMap.keys, whole]
    exact keys ▸ List.prefix_append _ _
  | @replaced key old new front back functions before after =>
    refine ⟨rfl, List.prefix_rfl, ?_⟩
    have keys : d.functions.keys = functions.keys := by
      simp [OrderedMap.keys, before, after]
    exact keys ▸ List.prefix_rfl

end Definition

/-! ## Tables -/

namespace DefinitionTable.Extends

theorem refl (table : DefinitionTable) : table.Extends table :=
  ⟨List.prefix_rfl, fun _ d held => ⟨d, held, .refl d⟩⟩

theorem trans {first second third : DefinitionTable} (one : first.Extends second)
    (two : second.Extends third) : first.Extends third := by
  refine ⟨one.keys.trans two.keys, fun guard d held => ?_⟩
  obtain ⟨e, held', extends'⟩ := one.definitions guard d held
  obtain ⟨f, held'', extends''⟩ := two.definitions guard e held'
  exact ⟨f, held'', extends'.trans extends''⟩

theorem of_append {table later : DefinitionTable} {more : List (Text × Definition)}
    (whole : later.entries = table.entries ++ more) : table.Extends later := by
  constructor
  · have keys : later.keys = table.keys ++ more.map Prod.fst := by
      simp [OrderedMap.keys, whole]
    exact keys ▸ List.prefix_append _ _
  · intro guard d held
    rw [OrderedMap.get?_eq_some_iff] at held
    refine ⟨d, (later.get?_eq_some_iff guard d).mpr ?_, .refl d⟩
    exact whole ▸ List.mem_append_left _ held

theorem of_replaced {table later : DefinitionTable} {guard : Text} {d e : Definition}
    {front back : List (Text × Definition)} (longer : d.Extends e)
    (before : table.entries = front ++ (guard, d) :: back)
    (after : later.entries = front ++ (guard, e) :: back) : table.Extends later := by
  constructor
  · have keys : table.keys = later.keys := by
      simp [OrderedMap.keys, before, after]
    exact keys ▸ List.prefix_rfl
  · intro other c held
    rw [OrderedMap.get?_eq_some_iff, before, List.mem_append, List.mem_cons] at held
    have stays (member : (other, c) ∈ front ∨ (other, c) ∈ back) :
        ∃ f, later.get? other = some f ∧ c.Extends f := by
      refine ⟨c, (later.get?_eq_some_iff other c).mpr ?_, .refl c⟩
      rw [after, List.mem_append, List.mem_cons]
      exact member.imp_right Or.inr
    rcases held with inFront | same | inBack
    · exact stays (Or.inl inFront)
    · obtain ⟨rfl, rfl⟩ := Prod.mk.inj same
      refine ⟨e, (later.get?_eq_some_iff other e).mpr ?_, longer⟩
      rw [after]
      exact List.mem_append_right _ List.mem_cons_self
    · exact stays (Or.inr inBack)

end DefinitionTable.Extends

/-! ## Operations -/

namespace Scanner

theorem changes_enter {s : Scanner} {operation : Operation} {guard : Text}
    (opens : s.opens? operation = some guard) : s.Changes operation (s.enter guard).1 := by
  rw [enter]
  cases present : s.definitions.contains guard with
  | true => exact .reopened guard opens rfl ((s.definitions.contains_iff guard).mp present) rfl
  | false =>
    have absent : guard ∉ s.definitions.keys := by
      rw [← OrderedMap.contains_iff, present]
      exact Bool.false_ne_true
    exact .opened guard opens rfl absent (OrderedMap.entries_insert_of_not_mem absent _)

theorem changes_leave (s : Scanner) (operation : Operation) : s.Changes operation s.leave.1 :=
  .kept rfl (Or.inl rfl)

theorem changes_record (s : Scanner) (operation : Operation) (line : Text) :
    s.Changes operation (s.record line) := by
  rw [record]
  split
  next => exact .kept rfl (Or.inr rfl)
  next guard inside =>
    split
    next d entry held found =>
      obtain ⟨front, back, before, after⟩ :=
        OrderedMap.exists_entries_insert held (d.record entry)
      exact .grown guard d (d.record entry) front back inside inside (d.grows_record entry) before
        after
    next => exact .kept rfl (Or.inr rfl)

theorem changes_read (s : Scanner) (line : Text) : s.Changes (.read line) (s.read line).1 := by
  rw [read]
  split
  next outside =>
    split
    next guard opening =>
      exact changes_enter (by rw [opens?, if_pos outside, opening])
    next => exact .kept rfl (Or.inr rfl)
  next =>
    split
    next => exact .kept rfl (Or.inr rfl)
    next =>
      split
      next =>
        split
        next => exact s.changes_leave _
        next => exact .kept rfl (Or.inr rfl)
      next => exact s.changes_record _ line

theorem changes_apply (s : Scanner) {operation : Operation} (goes : operation.concludes = false) :
    s.Changes operation (s.apply operation).scanner := by
  cases operation with
  | read line => exact s.changes_read line
  | finish lines => cases goes
  | enter guard => exact changes_enter rfl
  | leave => exact s.changes_leave _
  | record line => exact s.changes_record _ line

namespace Changes

variable {s t : Scanner} {operation : Operation}

theorem extended (changes : s.Changes operation t) : s.definitions.Extends t.definitions := by
  cases changes with
  | kept same => exact same ▸ .refl _
  | reopened _ _ _ _ same => exact same ▸ .refl _
  | opened _ _ _ _ whole => exact .of_append whole
  | grown _ _ _ _ _ _ _ grows before after => exact .of_replaced grows.extended before after

theorem linked (changes : s.Changes operation t) (h : s.Linked) : t.Linked := by
  cases changes with
  | kept same region =>
    refine ⟨same ▸ h.own, fun guard inside => ?_⟩
    rcases region with none | still
    · rw [none] at inside
      cases inside
    · exact same ▸ h.stored guard (still ▸ inside)
  | reopened guard _ region present same =>
    refine ⟨same ▸ h.own, fun other inside => ?_⟩
    cases region.symm.trans inside
    exact same ▸ present
  | opened guard _ region _ whole =>
    refine ⟨?_, fun other inside => ?_⟩
    · rw [whole]
      exact List.forall_mem_append.mpr ⟨h.own, by simp⟩
    · cases region.symm.trans inside
      simp [OrderedMap.keys, whole]
  | grown guard d e front back _ region grows before after =>
    refine ⟨?_, fun other inside => ?_⟩
    · have own := h.own
      rw [before, List.forall_mem_append, List.forall_mem_cons] at own
      rw [after, List.forall_mem_append, List.forall_mem_cons]
      exact ⟨own.1, grows.extended.guard.trans own.2.1, own.2.2⟩
    · cases region.symm.trans inside
      simp [OrderedMap.keys, after]

end Changes

/-! ## Operations in turn -/

theorem linked_start : start.Linked where
  own := fun _ member => by cases member
  stored := fun _ inside => by cases inside

theorem Linked.apply {s : Scanner} (h : s.Linked) (operation : Operation) :
    (s.apply operation).scanner.Linked := by
  cases concludes : operation.concludes with
  | false => exact (s.changes_apply concludes).linked h
  | true =>
    cases operation with
    | finish lines => exact linked_start
    | read | enter | leave | record => cases concludes

theorem scanner_total_cons (s : Scanner) (operation : Operation) (operations : List Operation) :
    (s.total (operation :: operations)).scanner =
      ((s.apply operation).scanner.total operations).scanner := by
  rw [total_cons]
  rfl

theorem Linked.total {s : Scanner} (h : s.Linked) (operations : List Operation) :
    (s.total operations).scanner.Linked := by
  induction operations generalizing s with
  | nil => exact h
  | cons operation operations ih =>
    rw [scanner_total_cons]
    exact ih (h.apply operation)

theorem extends_total (s : Scanner) {operations : List Operation}
    (go : ∀ operation ∈ operations, operation.concludes = false) :
    s.definitions.Extends (s.total operations).scanner.definitions := by
  induction operations generalizing s with
  | nil => exact .refl _
  | cons operation operations ih =>
    obtain ⟨goes, later⟩ := List.forall_mem_cons.mp go
    rw [scanner_total_cons]
    exact (s.changes_apply goes).extended.trans (ih _ later)

/-- The table which is handed over holds all that was there before. -/
theorem extends_conclude (s : Scanner) (lines : List Text) :
    s.definitions.Extends (s.conclude lines).1 := by
  induction lines generalizing s with
  | nil => exact .refl _
  | cons line rest ih =>
    rw [conclude_read]
    exact (s.changes_read line).extended.trans (ih _)

/-- After any operations, each definition is stored under its own guard and the open region has one.
From there on, an operation does one thing at most: it opens a region, or it puts one entry into the
definition of the region that was open. Nothing is lost or moved before a table is handed over, and
then it is in the table. -/
theorem definitions_growth (before : List Operation) :
    let s := (start.total before).scanner
    s.Linked ∧
      (∀ operation : Operation, operation.concludes = false →
        s.Changes operation (s.apply operation).scanner) ∧
      (∀ after : List Operation, (∀ operation ∈ after, operation.concludes = false) →
        s.definitions.Extends (s.total after).scanner.definitions) ∧
      ∀ lines, ∃ table, (s.apply (.finish lines)).table = some table ∧
        s.definitions.Extends table ∧ (s.apply (.finish lines)).scanner = start := by
  intro s
  refine ⟨linked_start.total before, fun _ goes => s.changes_apply goes,
    fun _ go => s.extends_total go, fun lines => ?_⟩
  rw [apply_finish]
  exact ⟨(s.conclude lines).1, rfl, s.extends_conclude lines, rfl⟩

/-- A function which is declared again, with another type, in a region that is still open. -/
theorem definitions_growth_redeclared :
    let guard := "GL_VERSION_1_0".toList
    let first := "GLAPI void APIENTRY glClear (GLbitfield mask);".toList
    let second := "GLAPI int APIENTRY glClear (GLbitfield mask);".toList
    let s := (start.total [.enter guard, .record first]).scanner
    s.Linked ∧ s.Changes (.record second) (s.apply (.record second)).scanner ∧
      (s.apply (.record second)).scanner.definitions ≠ s.definitions ∧
      s.definitions.Extends (s.total [.record second, .leave]).scanner.definitions := by
  intro guard first second s
  obtain ⟨linked, changes, extended, -⟩ := definitions_growth [.enter guard, .record first]
  have changed : (s.apply (.record second)).scanner.definitions ≠ s.definitions := by
    decide +kernel
  exact ⟨linked, changes _ rfl, changed, extended _ (by decide)⟩

end Scanner
end GLDispatch
