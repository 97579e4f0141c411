import GLDispatch.Code.Indent
import GLDispatch.Proofs.Text
import Mathlib.Logic.ExistsUnique

/-! # Indentation

Indenting cuts the code into its lines and puts tabs in front of those that show something. A tab is
no line boundary and is itself blank, so the lines of the indented code are the lines of the code,
indented: to indent once more moves the same lines on, and the code can be read off the result. -/
namespace GLDispatch

namespace Text

/-- A boundary, or a carriage return together with the line feed behind it. -/
inductive LineEnding : Text → Prop where
  | boundary {c : Char} : isLineBoundary c = true → LineEnding [c]
  | both : LineEnding ['\r', '\n']

/-- The lines which make up the text. The last one need not have an ending, and a carriage return
ends a line only where no line feed is behind it. -/
inductive Lined : Text → List Text → Prop where
  | none : Lined [] []
  | last {line : Text} : line ≠ [] → OneLine line → Lined line [line]
  | ended {line ending rest : Text} {lines : List Text} : OneLine line → LineEnding ending →
      (ending = ['\r'] → HeadNot (· == '\n') rest) → Lined rest lines →
      Lined (line ++ (ending ++ rest)) ((line ++ ending) :: lines)

/-! ## Lines of a text -/

theorem endsBoundaryLine_iff {c : Char} {t : Text} :
    endsBoundaryLine c t = true ↔
      isLineBoundary c = true ∧ (c = '\r' → HeadNot (· == '\n') t) := by
  cases t with
  | nil => simp [endsBoundaryLine, HeadNot]
  | cons d t => simp [endsBoundaryLine, headNot_cons, Decidable.imp_iff_not_or]

theorem boundaryLines_ended {line ending rest : Text} (oneLine : OneLine line)
    (ends : LineEnding ending) (whole : ending = ['\r'] → HeadNot (· == '\n') rest) :
    boundaryLines (line ++ (ending ++ rest)) = (line ++ ending) :: boundaryLines rest := by
  induction line with
  | nil =>
    cases ends with
    | @boundary c boundary =>
      have here : endsBoundaryLine c rest = true :=
        endsBoundaryLine_iff.mpr ⟨boundary, fun same => whole (by rw [same])⟩
      rw [List.nil_append, List.nil_append, List.singleton_append, boundaryLines_cons, if_pos here]
    | both =>
      have feed : endsBoundaryLine '\n' rest = true :=
        endsBoundaryLine_iff.mpr ⟨by decide, fun same => absurd same (by decide)⟩
      have joined : ¬ endsBoundaryLine '\r' ('\n' :: rest) = true := by
        simp [endsBoundaryLine_iff, headNot_cons]
      rw [List.nil_append, List.nil_append, List.cons_append, List.singleton_append,
        boundaryLines_cons, if_neg joined, boundaryLines_cons, if_pos feed]
      rfl
  | cons c line ih =>
    obtain ⟨here, later⟩ := List.forall_mem_cons.mp oneLine
    rw [List.cons_append, boundaryLines_cons_inLine here, ih later]
    rfl

theorem Lined.eq_boundaryLines {t : Text} {lines : List Text} (lined : Lined t lines) :
    lines = boundaryLines t := by
  induction lined with
  | none => rfl
  | last some oneLine => exact (boundaryLines_of_oneLine oneLine some).symm
  | ended oneLine ends whole _ ih => rw [boundaryLines_ended oneLine ends whole, ih]

theorem oneLine_cut (t : Text) :
    ∃ line behind, t = line ++ behind ∧ OneLine line ∧ HeadNot (!isLineBoundary ·) behind := by
  refine ⟨t.takeWhile (!isLineBoundary ·), t.dropWhile (!isLineBoundary ·),
    List.takeWhile_append_dropWhile.symm, ?_, headNot_dropWhile _ t⟩
  intro c member
  simpa using List.all_eq_true.mp List.all_takeWhile c member

theorem exists_lined (t : Text) : ∃ lines, Lined t lines := by
  obtain ⟨line, behind, whole, oneLine, boundary⟩ := oneLine_cut t
  cases behind with
  | nil =>
    rw [whole, List.append_nil]
    by_cases some : line = []
    · exact ⟨[], some ▸ .none⟩
    · exact ⟨[line], .last some oneLine⟩
  | cons c behind =>
    have shorter : behind.length < t.length := by
      rw [whole, List.length_append, List.length_cons]
      omega
    have ends : isLineBoundary c = true := by simpa [headNot_cons] using boundary
    by_cases both : c = '\r' ∧ behind.head? = some '\n'
    · obtain ⟨rfl, feed⟩ := both
      obtain ⟨rest, rfl⟩ := List.head?_eq_some_iff.mp feed
      have rest_shorter : rest.length < t.length := by
        rw [List.length_cons] at shorter
        omega
      obtain ⟨lines, lined⟩ := exists_lined rest
      rw [whole]
      exact ⟨_, .ended oneLine .both (fun same => by cases same) lined⟩
    · obtain ⟨lines, lined⟩ := exists_lined behind
      rw [whole]
      refine ⟨_, .ended oneLine (.boundary ends) (fun same => ?_) lined⟩
      intro d first
      obtain rfl : c = '\r' := (List.cons.inj same).1
      exact beq_false_of_ne fun feed => both ⟨rfl, feed ▸ first⟩
termination_by t.length

theorem lined_boundaryLines (t : Text) : Lined t (boundaryLines t) := by
  obtain ⟨lines, lined⟩ := exists_lined t
  exact lined.eq_boundaryLines ▸ lined

theorem Lined.flatten {t : Text} {lines : List Text} (lined : Lined t lines) : lines.flatten = t := by
  rw [lined.eq_boundaryLines]
  exact flatten_cut endsBoundaryLine t

end Text

namespace Code
open Text

/-- The line with so many tabs in front of it, unless it is blank. -/
def indentedLine (depth : Nat) (line : Text) : Text :=
  if line.all isBlank then line else indentation depth ++ line

/-! ## Indented lines -/

theorem indentation_add (a b : Nat) : indentation b ++ indentation a = indentation (a + b) := by
  rw [indentation, indentation, List.replicate_append_replicate, Nat.add_comm, indentation]

theorem oneLine_indentation (depth : Nat) : OneLine (indentation depth) := by
  intro c member
  rw [List.eq_of_mem_replicate member]
  decide

theorem all_isBlank_indentedLine (depth : Nat) (line : Text) :
    (indentedLine depth line).all isBlank = line.all isBlank := by
  have tabs : (indentation depth).all isBlank = true := by
    rw [List.all_eq_true]
    intro c member
    rw [List.eq_of_mem_replicate member]
    decide
  rw [indentedLine]
  split
  next => rfl
  next => rw [List.all_append, tabs, Bool.true_and]

theorem indentedLine_zero (line : Text) : indentedLine 0 line = line := by
  rw [indentedLine]
  split
  next => rfl
  next => rfl

theorem indentedLine_indentedLine (a b : Nat) (line : Text) :
    indentedLine b (indentedLine a line) = indentedLine (a + b) line := by
  rw [indentedLine, all_isBlank_indentedLine]
  cases blank : line.all isBlank with
  | true => simp [indentedLine, blank]
  | false => simp [indentedLine, blank, ← indentation_add]

theorem indentedLine_injective (depth : Nat) : Function.Injective (indentedLine depth) := by
  intro line other same
  have alike : line.all isBlank = other.all isBlank := by
    rw [← all_isBlank_indentedLine depth, same, all_isBlank_indentedLine]
  rw [indentedLine, indentedLine, alike] at same
  split at same
  next => exact same
  next => exact List.append_cancel_left same

/-- The ending of a line stays where it is. -/
theorem exists_indentedLine (depth : Nat) {line : Text} (oneLine : OneLine line) (ending : Text) :
    ∃ moved, OneLine moved ∧ indentedLine depth (line ++ ending) = moved ++ ending := by
  rw [indentedLine]
  split
  next => exact ⟨line, oneLine, rfl⟩
  next => exact ⟨indentation depth ++ line, (oneLine_indentation depth).append oneLine,
    (List.append_assoc _ _ _).symm⟩

theorem indentedLine_ne_nil (depth : Nat) {line : Text} (some : line ≠ []) :
    indentedLine depth line ≠ [] := by
  rw [indentedLine]
  split
  next => exact some
  next => exact List.append_ne_nil_of_right_ne_nil _ some

/-! ## Lines of indented code -/

/-- No line feed comes to stand behind a carriage return. -/
theorem headNot_flatMap_indentedLine (depth : Nat) {t : Text} {lines : List Text}
    (lined : Lined t lines) (start : HeadNot (· == '\n') t) :
    HeadNot (· == '\n') (lines.flatMap (indentedLine depth)) := by
  cases lines with
  | nil => simp [HeadNot]
  | cons line lines =>
    have some : line ≠ [] := by
      cases lined with
      | last some => exact some
      | ended _ ends => cases ends <;> simp
    rw [← lined.flatten, List.flatten_cons, headNot_append some] at start
    rw [List.flatMap_cons, headNot_append (indentedLine_ne_nil depth some), indentedLine]
    split
    next => exact start
    next =>
      cases depth with
      | zero => exact start
      | succ depth => exact headNot_cons.mpr (by decide)

/-- The lines of the indented code are the lines of the code, indented. -/
theorem lined_indented (depth : Nat) {t : Text} {lines : List Text} (lined : Lined t lines) :
    Lined (lines.flatMap (indentedLine depth)) (lines.map (indentedLine depth)) := by
  induction lined with
  | none => exact .none
  | @last line some oneLine =>
    obtain ⟨moved, within, whole⟩ := exists_indentedLine depth oneLine []
    rw [List.append_nil, List.append_nil] at whole
    rw [List.flatMap_singleton, List.map_singleton, whole]
    exact .last (whole ▸ indentedLine_ne_nil depth some) within
  | @ended line ending rest lines oneLine ends stays lined ih =>
    obtain ⟨moved, within, whole⟩ := exists_indentedLine depth oneLine ending
    rw [List.flatMap_cons, List.map_cons, whole, List.append_assoc]
    exact .ended within ends
      (fun same => headNot_flatMap_indentedLine depth lined (stays same)) ih

theorem indent_eq (depth : Nat) (code : Text) :
    indent depth code = (boundaryLines code).flatMap (indentedLine depth) := by
  induction depth generalizing code with
  | zero =>
    have same : indentedLine 0 = id := funext indentedLine_zero
    rw [same, List.flatMap_id, (lined_boundaryLines code).flatten]
    rfl
  | succ depth ih =>
    have step : indentLine = indentedLine 1 := rfl
    have lines := (lined_indented 1 (lined_boundaryLines code)).eq_boundaryLines
    have moved : indentedLine depth ∘ indentedLine 1 = indentedLine (depth + 1) := by
      funext line
      rw [Function.comp_apply, indentedLine_indentedLine, Nat.add_comm]
    rw [indent, ih, step, ← lines, List.flatMap_map, ← moved]
    rfl

theorem indent_indent (a b : Nat) (code : Text) : indent b (indent a code) = indent (a + b) code := by
  induction a generalizing code with
  | zero => rw [Nat.zero_add]; rfl
  | succ a ih => rw [indent, ih, Nat.succ_add, indent]

theorem lined_indent (depth : Nat) {code : Text} {lines : List Text} (lined : Lined code lines) :
    Lined (indent depth code) (lines.map (indentedLine depth)) := by
  rw [indent_eq, ← lined.eq_boundaryLines]
  exact lined_indented depth lined

theorem indent_injective (depth : Nat) : Function.Injective (indent depth) := by
  intro code other same
  have lined := lined_boundaryLines code
  have lined' := lined_boundaryLines other
  have lines : (boundaryLines code).map (indentedLine depth) =
      (boundaryLines other).map (indentedLine depth) := by
    rw [(lined_indent depth lined).eq_boundaryLines, same,
      (lined_indent depth lined').eq_boundaryLines]
  have apart : ∀ line line', indentedLine depth line = indentedLine depth line' → line = line' :=
    fun _ _ alike => indentedLine_injective depth alike
  rw [← lined.flatten, (List.map_inj_right apart).mp lines, lined'.flatten]

/-- Indenting puts the tabs of its depth in front of those lines of the code which are not blank, and
changes nothing else: the result has the same lines, indented. To indent twice is to indent by both
depths, and no two texts become the same when they are indented. -/
theorem indent_lines_add_injective (code : Text) (a b : Nat) :
    (∃! lines, Lined code lines) ∧
      (∀ lines, Lined code lines →
        indent a code = lines.flatMap (indentedLine a) ∧
          Lined (indent a code) (lines.map (indentedLine a))) ∧
      indent b (indent a code) = indent (a + b) code ∧
      ∀ other, indent a code = indent a other → code = other := by
  refine ⟨⟨_, lined_boundaryLines code, fun _ lined => lined.eq_boundaryLines⟩, ?_,
    indent_indent a b code, fun _ same => indent_injective a same⟩
  intro lines lined
  refine ⟨?_, lined_indent a lined⟩
  rw [indent_eq, ← lined.eq_boundaryLines]

/-- A line with both endings together, a blank one, and one behind a carriage return. -/
theorem indent_lines_add_injective_returned :
    let code := "a\r\n \n\rb".toList
    let lines := ["a\r\n".toList, " \n".toList, "\r".toList, "b".toList]
    Lined code lines ∧ indent 2 code = "\t\ta\r\n \n\r\t\tb".toList ∧
      indent 1 (indent 2 code) = indent 3 code ∧
      ∀ other, indent 2 code = indent 2 other → code = other := by
  intro code lines
  have lined : Lined code lines := lined_boundaryLines code
  obtain ⟨-, moved, twice, recovered⟩ := indent_lines_add_injective code 2 1
  exact ⟨lined, (moved lines lined).1, twice, recovered⟩

end Code
end GLDispatch
