import GLDispatch.Header.Scanner
import GLDispatch.Proofs.Decomposition

/-! # Prototypes before pointer types

A line of a region counts as a prototype if it can, and as a pointer type only if not. No keyword is
kept from being part of a return type, so the definition of a pointer type is read as a prototype as
soon as what looks like the prototype of an entry point stands anywhere behind its keyword, for
instance among the parameters. Otherwise it is found under its own name. -/
namespace GLDispatch
open Text

namespace Prototype

/-- Behind some part of the text which could be a return type stands the name of an entry point with
a parameter list. -/
def HoldsCall (t : Text) : Prop :=
  ∃ front last behind u name parameters, '\n' ∉ front ++ [last] ∧ t = front ++ last :: behind ∧
    Gap last behind u ∧ Called name parameters u

/-- The keyword may well begin a return type. -/
theorem declares_iff_holdsCall {line rest : Text} (begins : line = "typedef".toList ++ rest) :
    Declares line ↔ HoldsCall line := by
  have head : line.head? = some 't' := congrArg List.head? begins
  constructor
  · intro ⟨ws, t, blank, whole, declared⟩
    have none : ws = [] := by
      cases ws with
      | nil => rfl
      | cons c ws =>
        have first : 't' = c := Option.some.inj (head.symm.trans (congrArg List.head? whole))
        have visible := blank c List.mem_cons_self
        rw [← first] at visible
        cases visible
    rw [none] at whole
    rcases declared with typed | ⟨ws', u, -, -, decorated, -⟩
    · exact whole ▸ typed.2
    · cases head.symm.trans (congrArg List.head? (whole.trans decorated))
  · intro holds
    have starts : line.head?.any startsType = true := by
      rw [head]
      rfl
    exact ⟨[], line, by simp [AllBlank], rfl, Or.inl ⟨starts, holds⟩⟩

theorem ofLine?_eq_none_iff {line rest : Text} (begins : line = "typedef".toList ++ rest) :
    ofLine? line = none ↔ ¬ HoldsCall line := by
  rw [← declares_iff_holdsCall begins, ← isSome_ofLine?, Option.not_isSome_iff_eq_none]

theorem entryPointName_of_ofLine? {line : Text} {p : Prototype} (found : ofLine? line = some p) :
    EntryPointName p.name := by
  obtain ⟨d, -, rfl⟩ := Decomposition.exists_of_ofLine? found
  exact d.declaration.listing.named

end Prototype

namespace Entry

theorem ofLine?_definition {line rest : Text} (begins : line = "typedef".toList ++ rest) :
    ofLine? line = ((Prototype.ofLine? line).map fun p => .function p.name p.signature).or
      ((PointerType.ofLine? line).map fun p => .function p.name p.signature) := by
  have noted : ExtensionNote.ofLine? line = none := by
    rw [begins]
    rfl
  rw [ofLine?, noted]
  cases Prototype.ofLine? line <;> rfl

end Entry

namespace Scanner

/-- The scanner after it stored a signature in the definition `d` of its region. -/
def stored (s : Scanner) (guard : Text) (d : Definition) (name : Text) (signature : Signature) :
    Scanner :=
  let functions := d.functions.insert name signature
  { s with definitions := s.definitions.insert guard { d with functions } }

theorem record_function {s : Scanner} {guard line name : Text} {d : Definition}
    {signature : Signature} (inside : s.region = some guard)
    (held : s.definitions.get? guard = some d)
    (found : Entry.ofLine? line = some (.function name signature)) :
    s.record line = s.stored guard d name signature := by
  obtain ⟨definitions, region, nesting⟩ := s
  obtain rfl : region = some guard := inside
  rw [record]
  simp only [held, found]
  rfl

/-- Inside a region, the definition of a pointer type at the beginning of a line is no prototype and
is stored under its name, unless the line holds a call. Then it is stored as a prototype, under the
name of an entry point. -/
theorem record_definition (s : Scanner) {guard line rest : Text} {d : Definition}
    {p : PointerType} (inside : s.region = some guard) (held : s.definitions.get? guard = some d)
    (begins : line = "typedef".toList ++ rest) (defines : PointerType.ofLine? line = some p) :
    (¬ Prototype.HoldsCall line →
      Prototype.ofLine? line = none ∧ s.record line = s.stored guard d p.name p.signature) ∧
    (Prototype.HoldsCall line → ∃ q, Prototype.ofLine? line = some q ∧ EntryPointName q.name ∧
      s.record line = s.stored guard d q.name q.signature) := by
  have entry := Entry.ofLine?_definition begins
  constructor
  · intro plain
    have none := (Prototype.ofLine?_eq_none_iff begins).mpr plain
    rw [none, defines] at entry
    exact ⟨none, record_function inside held entry⟩
  · intro calls
    obtain ⟨q, found⟩ := Option.ne_none_iff_exists'.mp fun none =>
      (Prototype.ofLine?_eq_none_iff begins).mp none calls
    rw [found] at entry
    exact ⟨q, found, Prototype.entryPointName_of_ofLine? found, record_function inside held entry⟩

/-- A definition without a call. -/
theorem record_definition_clear :
    let line := "typedef void (APIENTRYP PFNGLCLEARPROC) (GLbitfield mask);".toList
    let guard := "GL_VERSION_1_0".toList
    let d : Definition := { guard }
    let s : Scanner := ⟨OrderedMap.insert ∅ guard d, some guard, 0⟩
    let p : PointerType := ⟨"PFNGLCLEARPROC".toList, ⟨"void".toList, "GLbitfield mask".toList⟩⟩
    PointerType.ofLine? line = some p ∧ Prototype.ofLine? line = none ∧
      s.record line = s.stored guard d p.name p.signature := by
  intro line guard d s p
  have begins : line =
      "typedef".toList ++ " void (APIENTRYP PFNGLCLEARPROC) (GLbitfield mask);".toList := by
    decide +kernel
  have none : Prototype.ofLine? line = none := by decide +kernel
  have defines : PointerType.ofLine? line = some p := by decide +kernel
  have held : s.definitions.get? guard = some d := by rw [OrderedMap.get?_insert, if_pos rfl]
  exact ⟨defines, (record_definition s rfl held begins defines).1
    ((Prototype.ofLine?_eq_none_iff begins).mp none)⟩

/-- A function among the parameters, whose name is that of an entry point. -/
theorem definition_read_as_prototype :
    let line := "typedef void (APIENTRYP PFNGLHOOKPROC) (void glHook (int x));".toList
    PointerType.ofLine? line =
        some ⟨"PFNGLHOOKPROC".toList, ⟨"void".toList, "void glHook (int x)".toList⟩⟩ ∧
      Prototype.ofLine? line = some ⟨"glHook".toList,
        ⟨"typedef void (APIENTRYP PFNGLHOOKPROC) (void".toList, "int x)".toList⟩⟩ := by
  decide +kernel

end Scanner
end GLDispatch
