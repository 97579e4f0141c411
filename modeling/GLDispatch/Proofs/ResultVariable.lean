import GLDispatch.Binding.Fragment
import GLDispatch.Proofs.Identifier
import GLDispatch.Proofs.Multiplicity

/-! # The local variable of a wrapper

The wrapper of a function with a value keeps the value in a local variable, and the call stands in
its declaration. There the name of the variable is the variable itself, and nothing keeps it apart
from the names of the parameters: a parameter which is named the same is not passed on. -/
namespace GLDispatch
open Text

/-! ## Arguments and the parameters which they name -/

namespace Argument

variable {name : Text} (some : name ≠ []) (plain : Plain name) (noBracket : '[' ∉ name)
  (apart : name ≠ voidType)
include some plain noBracket apart

theorem not_names_voidType : ¬ Names name voidType := by
  intro named
  have void : identifier voidType = voidType := by decide
  exact apart ((identifier_eq_iff some plain noBracket).mpr named |>.symm.trans void)

/-- Each argument is the name of the parameter in its place. -/
theorem getElem?_forwarded_eq_some_iff (parameters : Text) (i : Nat) :
    (forwarded parameters)[i]? = Option.some name ↔
      ∃ parameter, (parameters.splitOn ',')[i]? = Option.some parameter ∧
        Names name parameter := by
  by_cases void : parameters = voidType
  · have alone : voidType.splitOn ',' = [voidType] := by decide
    rw [void, alone, forwarded, if_pos rfl]
    constructor
    · intro found
      cases found
    · rintro ⟨parameter, found, named⟩
      obtain rfl : parameter = voidType := List.mem_singleton.mp (List.mem_of_getElem? found)
      exact absurd named (not_names_voidType some plain noBracket apart)
  · rw [forwarded, if_neg void, List.getElem?_map, Option.map_eq_some_iff]
    exact exists_congr fun parameter =>
      and_congr_right fun _ => identifier_eq_iff some plain noBracket

end Argument

/-! ## Wrappers of parsed functions -/

theorem Fragment.wrapperStatements_of_value {f : BoundFunction}
    (value : f.signature.returnType ≠ Argument.voidType) :
    wrapperStatements f = [checkBefore,
      f.signature.returnType ++ [' '] ++ resultName ++ " = ".toList ++
        Code.call (Name.member f.name) (Argument.forwarded f.signature.parameters),
      checkAfter, "return ".toList ++ resultName] := by
  have returns : Argument.returnsValue f.signature.returnType = true := bne_iff_ne.mpr value
  rw [wrapperStatements]
  exact if_pos returns

/-- The wrapper of a function with a value declares a local variable of a fixed name, and the call in
the declaration passes on this name for exactly those parameters which have it. -/
theorem Parsed.wrapper_passes_result_iff {lines : List Text} {guard : Text} {d : Definition}
    {f : BoundFunction} (defined : (ofLines lines).table.get? guard = some d)
    (bound : f ∈ d.boundFunctions) (value : f.signature.returnType ≠ Argument.voidType) :
    let arguments := Argument.forwarded f.signature.parameters
    (∃ line ∈ lines, Entry.ofLine? (trimEnding line) = some (.function f.name f.signature)) ∧
      f.signature.returnType ++ [' '] ++ Fragment.resultName ++ " = ".toList ++
        Code.call (Name.member f.name) arguments ∈ Fragment.wrapperStatements f ∧
      ∀ i : Nat, arguments[i]? = some Fragment.resultName ↔
        ∃ parameter, (f.signature.parameters.splitOn ',')[i]? = some parameter ∧
          Argument.Names Fragment.resultName parameter := by
  intro arguments
  have held := Definition.get?_of_mem_boundFunctions bound
  refine ⟨exists_line_of_signature defined held, ?_, fun i => ?_⟩
  · rw [Fragment.wrapperStatements_of_value value]
    simp [arguments]
  · exact Argument.getElem?_forwarded_eq_some_iff (by decide) (by decide) (by decide) (by decide)
      f.signature.parameters i

/-- Behind an asterisk, the second parameter has the name of the local variable. -/
theorem Parsed.wrapper_passes_result_iff_pointer :
    let guard := "GL_VERSION_1_5".toList
    let table := (ofLines ["#ifndef GL_VERSION_1_5".toList,
      "typedef GLboolean (APIENTRYP PFNGLPROBEPROC) (GLuint id, GLint *r);".toList,
      "GLAPI GLboolean APIENTRY glProbe (GLuint id, GLint *r);".toList, "#endif".toList]).table
    let f : BoundFunction :=
      ⟨"glProbe".toList, ⟨"GLboolean".toList, "GLuint id, GLint *r".toList⟩, guard⟩
    ∃ d, table.get? guard = some d ∧ f ∈ d.boundFunctions ∧
      f.signature.returnType ≠ Argument.voidType ∧
      (Argument.forwarded f.signature.parameters)[1]? = some Fragment.resultName ∧
      "GLboolean r = m_pProbe(id, r)".toList ∈ Fragment.wrapperStatements f := by
  intro guard table f
  have functions : (table.get? guard).map Definition.boundFunctions = some [f] := by decide +kernel
  obtain ⟨d, defined, whole⟩ := Option.map_eq_some_iff.mp functions
  have bound : f ∈ d.boundFunctions := whole ▸ List.mem_singleton_self f
  have value : f.signature.returnType ≠ Argument.voidType := by decide
  obtain ⟨-, declared, passed⟩ := wrapper_passes_result_iff defined bound value
  have named : Argument.Names Fragment.resultName " GLint *r".toList :=
    ⟨" GLint *".toList, [], [], rfl, lastNot_concat (by decide) " GLint ".toList, by decide,
      by simp [HeadNot], by decide⟩
  exact ⟨d, defined, bound, value, (passed 1).mpr ⟨_, rfl, named⟩, declared⟩

/-- A parameter which the wrapper declares once more, and does not pass on. -/
theorem Parsed.wrapper_redeclares_parameter :
    let guard := "GL_VERSION_1_5".toList
    let table := (ofLines ["#ifndef GL_VERSION_1_5".toList,
      "typedef GLboolean (APIENTRYP PFNGLPROBEPROC) (GLuint r);".toList,
      "GLAPI GLboolean APIENTRY glProbe (GLuint r);".toList, "#endif".toList]).table
    let f : BoundFunction := ⟨"glProbe".toList, ⟨"GLboolean".toList, "GLuint r".toList⟩, guard⟩
    (table.get? guard).map Definition.boundFunctions = some [f] ∧
      f.signature.returnType ≠ Argument.voidType ∧
      Fragment.resultName ∈ Argument.forwarded f.signature.parameters ∧
      "GLboolean r = m_pProbe(r)".toList ∈ Fragment.wrapperStatements f := by
  decide +kernel

end GLDispatch
