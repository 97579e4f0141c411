import GLDispatch.Proofs.Multiplicity
import GLDispatch.Proofs.Outline
import Mathlib.Data.List.Nodup

/-! # Derived names

A member keeps all of the function's name behind the stem, so the members of a definition are as
distinct as its functions, and so are the statements which load them. A method does not keep the case
of the first letter, and the type of a pointer that of no letter: functions whose names differ in no
more than that are bound side by side and share the method or the type. -/
namespace GLDispatch
open Text

namespace Name

/-- The names differ at most in the letter behind the stem, and there in case only. -/
def Resembles (first second : Text) : Prop :=
  ∃ c d rest, lowerChar c = lowerChar d ∧ bare first = c :: rest ∧ bare second = d :: rest

theorem method_of_bare {name rest : Text} {c : Char} (whole : bare name = c :: rest) :
    method name = lowerChar c ++ rest := by
  rw [method, whole]

theorem method_eq_nil_iff {name : Text} : method name = [] ↔ bare name = [] := by
  cases whole : bare name with
  | nil => simp [method, whole]
  | cons c rest =>
    obtain ⟨letter, marks, lower, -⟩ := exists_lowerChar c
    simp [method_of_bare whole, lower]

/-- Different names give the same method only if they resemble each other. -/
theorem method_eq_iff {first second : Text} (word : AllWord first) (word' : AllWord second)
    (apart : bare first ≠ bare second) : method first = method second ↔ Resembles first second := by
  constructor
  · intro same
    have empty : bare first = [] ↔ bare second = [] := by
      rw [← method_eq_nil_iff, same, method_eq_nil_iff]
    cases whole : bare first with
    | nil => exact absurd (whole.trans (empty.mp whole).symm) apart
    | cons c rest =>
      cases whole' : bare second with
      | nil => exact absurd ((empty.mpr whole').trans whole'.symm) apart
      | cons d rest' =>
        rw [method_of_bare whole, method_of_bare whole'] at same
        have inRest : AllWord rest := fun x member =>
          word x (List.mem_of_mem_drop (whole ▸ List.mem_cons_of_mem c member))
        have inRest' : AllWord rest' := fun x member =>
          word' x (List.mem_of_mem_drop (whole' ▸ List.mem_cons_of_mem d member))
        obtain ⟨letters, rfl⟩ := lowerChar_append_inj inRest inRest' same
        exact ⟨c, d, rest, letters, whole, whole'⟩
  · rintro ⟨c, d, rest, letters, whole, whole'⟩
    rw [method_of_bare whole, method_of_bare whole', letters]

theorem pointerType_eq_iff (first second : Text) :
    pointerType first = pointerType second ↔ upper first = upper second := by
  constructor
  · intro same
    exact List.append_cancel_left (List.append_cancel_right same)
  · intro same
    exact congrArg (fun letters => "PFN".toList ++ letters ++ "PROC".toList) same

end Name

/-! ## Functions of a definition -/

namespace Definition

variable {d : Definition}

theorem name_injOn {f g : BoundFunction} (inFirst : f ∈ d.boundFunctions)
    (inSecond : g ∈ d.boundFunctions) (same : f.name = g.name) : f = g :=
  List.inj_on_of_nodup_map d.nodup_names inFirst inSecond same

theorem nodup_boundFunctions (d : Definition) : d.boundFunctions.Nodup :=
  d.nodup_names.of_map BoundFunction.name

variable (clean : d.Clean)
include clean

theorem Clean.member_injOn {f g : BoundFunction} (inFirst : f ∈ d.boundFunctions)
    (inSecond : g ∈ d.boundFunctions) (same : Name.member f.name = Name.member g.name) : f = g :=
  name_injOn inFirst inSecond
    (Name.member_injective (clean.label f inFirst).1 (clean.label g inSecond).1 same)

theorem Clean.loader_injOn {f g : BoundFunction} (inFirst : f ∈ d.boundFunctions)
    (inSecond : g ∈ d.boundFunctions)
    (same : Fragment.loaderStatement f = Fragment.loaderStatement g) : f = g := by
  have code (f : BoundFunction) :
      Fragment.loaderStatement f = (Label.function f.name).code .loaders := rfl
  rw [code, code] at same
  have labels := Label.code_injective (by decide) (clean.label f inFirst) (clean.label g inSecond) same
  exact name_injOn inFirst inSecond (Label.function.inj labels)

theorem Clean.bare_ne {f g : BoundFunction} (inFirst : f ∈ d.boundFunctions)
    (inSecond : g ∈ d.boundFunctions) (apart : f ≠ g) : Name.bare f.name ≠ Name.bare g.name := by
  intro same
  exact apart (clean.member_injOn inFirst inSecond (congrArg ("m_p".toList ++ ·) same))

end Definition

/-! ## Headers -/

/-- The members of a definition and the statements which load them correspond one to one with its
functions. Two functions share a method exactly if their names resemble each other, and the type of
a pointer exactly if their names are the same in upper case. -/
theorem Parsed.derived_names {lines : List Text} {guard : Text} {d : Definition}
    (defined : (ofLines lines).table.get? guard = some d) :
    (d.boundFunctions.map fun f => Name.member f.name).Nodup ∧
      (d.boundFunctions.map Fragment.loaderStatement).Nodup ∧
      ∀ f ∈ d.boundFunctions, ∀ g ∈ d.boundFunctions, f ≠ g →
        Name.member f.name ≠ Name.member g.name ∧
          Fragment.loaderStatement f ≠ Fragment.loaderStatement g ∧
          (Name.method f.name = Name.method g.name ↔ Name.Resembles f.name g.name) ∧
          (Name.pointerType f.name = Name.pointerType g.name ↔ upper f.name = upper g.name) := by
  have clean := (wellFormed lines).definition guard d defined
  have once := d.nodup_boundFunctions
  refine ⟨once.map_on fun _ inFirst _ inSecond => clean.member_injOn inFirst inSecond,
    once.map_on fun _ inFirst _ inSecond => clean.loader_injOn inFirst inSecond, ?_⟩
  intro f inFirst g inSecond apart
  have word := (clean.label f inFirst).2
  have word' := (clean.label g inSecond).2
  exact ⟨fun same => apart (clean.member_injOn inFirst inSecond same),
    fun same => apart (clean.loader_injOn inFirst inSecond same),
    Name.method_eq_iff word word' (clean.bare_ne inFirst inSecond apart),
    Name.pointerType_eq_iff f.name g.name⟩

/-- Names which differ in the case of letters, but not of the first one. -/
theorem Parsed.derived_names_cased :
    let guard := "GL_VERSION_1_0".toList
    let table := (ofLines ["#ifndef GL_VERSION_1_0".toList,
      "typedef void (APIENTRYP PFNGLCLEARPROC) (GLbitfield mask);".toList,
      "GLAPI void APIENTRY glClear (GLbitfield mask);".toList,
      "GLAPI void APIENTRY glCLEAR (GLbitfield mask);".toList, "#endif".toList]).table
    let signature : Signature := ⟨"void".toList, "GLbitfield mask".toList⟩
    let f : BoundFunction := ⟨"glClear".toList, signature, guard⟩
    let g : BoundFunction := ⟨"glCLEAR".toList, signature, guard⟩
    ∃ d, table.get? guard = some d ∧ d.boundFunctions = [f, g] ∧ f ≠ g ∧
      (d.boundFunctions.map fun f => Name.member f.name).Nodup ∧
      Fragment.loaderStatement f ≠ Fragment.loaderStatement g ∧
      ¬ Name.Resembles f.name g.name ∧
      Name.pointerType f.name = Name.pointerType g.name := by
  intro guard table signature f g
  have bound : (table.get? guard).map Definition.boundFunctions = some [f, g] := by
    decide +kernel
  obtain ⟨d, defined, functions⟩ := Option.map_eq_some_iff.mp bound
  have apart : f ≠ g := by decide
  obtain ⟨members, -, pairs⟩ := derived_names defined
  obtain ⟨-, loaders, method, pointerType⟩ :=
    pairs f (by simp [functions]) g (by simp [functions]) apart
  have methods : Name.method f.name ≠ Name.method g.name := by decide
  exact ⟨d, defined, functions, apart, members, loaders, fun similar => methods (method.mpr similar),
    pointerType.mpr (by decide)⟩

/-- Names which resemble each other, bound side by side. -/
theorem Parsed.method_and_pointerType_shared :
    let guard := "GL_VERSION_1_0".toList
    let table := (ofLines ["#ifndef GL_VERSION_1_0".toList,
      "typedef void (APIENTRYP PFNGLCLEARPROC) (GLbitfield mask);".toList,
      "GLAPI void APIENTRY glClear (GLbitfield mask);".toList,
      "GLAPI void APIENTRY glclear (GLbitfield mask);".toList, "#endif".toList]).table
    let signature : Signature := ⟨"void".toList, "GLbitfield mask".toList⟩
    let f : BoundFunction := ⟨"glClear".toList, signature, guard⟩
    let g : BoundFunction := ⟨"glclear".toList, signature, guard⟩
    (table.get? guard).map Definition.boundFunctions = some [f, g] ∧ f ≠ g ∧
      Name.method f.name = Name.method g.name ∧
      Name.pointerType f.name = Name.pointerType g.name := by
  decide +kernel

end GLDispatch
