import GLDispatch.Binding.Generate
import GLDispatch.Proofs.Operations
import GLDispatch.Proofs.Utf8

/-! # The lines of a header file

What a header in a file says depends on the characters between the line endings only: neither the
choice of the endings nor lines without characters matter. Bytes which are no characters stay on
their line, as every line feed is found behind them. -/
namespace GLDispatch

namespace Text

def isEnding (c : Char) : Bool :=
  c == '\r' || c == '\n'

/-- The lines of a text as they come from a file. -/
def fileLines (t : Text) : List Text :=
  lines (unifyEndings t)

/-- The pieces with something in them. -/
def filled (pieces : List Text) : List Text :=
  pieces.filter (!·.isEmpty)

/-! ## Reading on behind a character -/

theorem fileLines_nil : fileLines [] = [] := rfl

theorem fileLines_feed (t : Text) : fileLines ('\n' :: t) = ['\n'] :: fileLines t := by
  simp [fileLines, unifyEndings, lines, cut]

theorem fileLines_both {t : Text} (both : t.head? = some '\n') :
    fileLines ('\r' :: t) = fileLines t := by
  simp [fileLines, unifyEndings, both]

theorem fileLines_return {t : Text} (alone : t.head? ≠ some '\n') :
    fileLines ('\r' :: t) = ['\n'] :: fileLines t := by
  simp [fileLines, unifyEndings, lines, cut, alone]

theorem fileLines_other {c : Char} (stays : isEnding c = false) (t : Text) :
    fileLines (c :: t) = consFirst c (fileLines t) := by
  obtain ⟨noReturn, noFeed⟩ : c ≠ '\r' ∧ c ≠ '\n' := by simpa [isEnding] using stays
  simp [fileLines, unifyEndings, lines, cut, noReturn, noFeed]

/-- The lines are the pieces, up to their endings and to empty ones behind the first. -/
structure SameContent (lines pieces : List Text) : Prop where
  first : trimEnding (lines.headD []) = pieces.headD []
  later : filled (lines.tail.map trimEnding) = filled pieces.tail

theorem filled_append (first second : List Text) :
    filled (first ++ second) = filled first ++ filled second :=
  List.filter_append first second

theorem filled_cons (piece : Text) (pieces : List Text) :
    filled (piece :: pieces) = filled [piece] ++ filled pieces :=
  filled_append [piece] pieces

theorem filled_empty_cons (pieces : List Text) : filled ([] :: pieces) = filled pieces := rfl

theorem filled_eq (pieces : List Text) :
    filled pieces = filled [pieces.headD []] ++ filled pieces.tail := by
  cases pieces with
  | nil => rfl
  | cons piece pieces => exact filled_cons piece pieces

theorem SameContent.filled {lines pieces : List Text} (h : SameContent lines pieces) :
    filled (lines.map trimEnding) = filled pieces := by
  rw [filled_eq pieces, ← h.first, ← h.later]
  cases lines with
  | nil => rfl
  | cons line lines => exact filled_cons (trimEnding line) (lines.map trimEnding)

theorem SameContent.ending {lines pieces : List Text} (h : SameContent lines pieces) :
    SameContent (['\n'] :: lines) ([] :: pieces) where
  first := rfl
  later := h.filled

theorem SameContent.other {lines others : List Text} {piece : Text}
    (h : SameContent lines (piece :: others)) {c : Char} (stays : isEnding c = false) :
    SameContent (consFirst c lines) ((c :: piece) :: others) where
  first := by
    have line : (consFirst c lines).headD [] = c :: lines.headD [] := by cases lines <;> rfl
    have first : trimEnding (lines.headD []) = piece := h.first
    rw [line, List.headD_cons, ← first]
    exact trimEnd_append stays [] (lines.headD [])
  later := by
    have line : (consFirst c lines).tail = lines.tail := by cases lines <;> rfl
    rw [line]
    exact h.later

/-- A carriage return in front of a line feed leaves an empty piece, and no line. -/
theorem SameContent.both {lines pieces : List Text} (h : SameContent lines ([] :: pieces)) :
    SameContent lines ([] :: [] :: pieces) where
  first := h.first
  later := h.later

theorem sameContent_fileLines (t : Text) : SameContent (fileLines t) (t.splitOnP isEnding) := by
  induction t with
  | nil => exact ⟨rfl, rfl⟩
  | cons c t ih =>
    rw [List.splitOnP_cons_eq_if_modifyHead]
    cases ending : isEnding c with
    | false =>
      obtain ⟨piece, others, whole⟩ := List.exists_cons_of_ne_nil (List.splitOnP_ne_nil isEnding t)
      rw [whole] at ih ⊢
      rw [fileLines_other ending]
      exact ih.other ending
    | true =>
      rw [isEnding, Bool.or_eq_true, beq_iff_eq, beq_iff_eq] at ending
      rcases ending with rfl | rfl
      · by_cases both : t.head? = some '\n'
        · obtain ⟨rest, rfl⟩ := List.head?_eq_some_iff.mp both
          rw [fileLines_both both]
          exact ih.both
        · rw [fileLines_return both]
          exact ih.ending
      · rw [fileLines_feed]
        exact ih.ending

example : fileLines "a\r\n\rb".toList = ["a\n".toList, "\n".toList, "b".toList] ∧
    "a\r\n\rb".toList.splitOnP isEnding = ["a".toList, [], [], "b".toList] := by decide

/-! ## Texts in parts -/

/-- A line feed ends the line in front of it, and the lines behind it are those of the rest. -/
theorem exists_fileLines (front : Text) :
    ∃ line lines, ∀ rest, fileLines (front ++ '\n' :: rest) = line :: lines ++ fileLines rest := by
  induction front with
  | nil => exact ⟨['\n'], [], fileLines_feed⟩
  | cons c front ih =>
    obtain ⟨line, lines, whole⟩ := ih
    cases ending : isEnding c with
    | false =>
      refine ⟨c :: line, lines, fun rest => ?_⟩
      rw [List.cons_append, fileLines_other ending, whole]
      rfl
    | true =>
      rw [isEnding, Bool.or_eq_true, beq_iff_eq, beq_iff_eq] at ending
      have head (rest : Text) : (front ++ '\n' :: rest).head? = (front ++ ['\n']).head? := by
        cases front <;> rfl
      rcases ending with rfl | rfl
      · by_cases both : (front ++ ['\n']).head? = some '\n'
        · refine ⟨line, lines, fun rest => ?_⟩
          rw [List.cons_append, fileLines_both ((head rest).trans both), whole]
        · refine ⟨['\n'], line :: lines, fun rest => ?_⟩
          rw [List.cons_append, fileLines_return (fun same => both ((head rest).symm.trans same)),
            whole]
          rfl
      · refine ⟨['\n'], line :: lines, fun rest => ?_⟩
        rw [List.cons_append, fileLines_feed, whole]
        rfl

theorem fileLines_append_feed (front rest : Text) :
    fileLines (front ++ '\n' :: rest) = fileLines (front ++ ['\n']) ++ fileLines rest := by
  obtain ⟨line, lines, whole⟩ := exists_fileLines front
  rw [whole, whole, fileLines_nil, List.append_nil]

end Text

open Text

/-! ## Headers -/

/-- Lines make the same header if they hold the same, up to their endings and to empty ones. -/
theorem Parsed.ofLines_congr {lines others : List Text}
    (same : filled (lines.map trimEnding) = filled (others.map trimEnding)) :
    ofLines lines = ofLines others := by
  have blank (line : Text) (empty : (!line.isEmpty) = false) : AllBlank line := by
    have none : line = [] := by simpa using empty
    simp [none, AllBlank]
  have reading (lines : List Text) :
      Scanner.start.conclude lines = Scanner.start.conclude (filled (lines.map trimEnding)) := by
    rw [filled, Scanner.conclude_filter _ blank, Scanner.conclude_trimEnding]
  have parsed (lines : List Text) :
      ofLines lines = ⟨(Scanner.start.conclude lines).1, (Scanner.start.conclude lines).2⟩ := by
    rw [ofLines, Scanner.finish_eq, Scanner.conclude_trimEnding]
  rw [parsed, reading, same, ← reading, ← parsed]

theorem filled_headerLines (bytes : Bytes) :
    filled ((headerLines bytes).map trimEnding) = filled ((Utf8.decode bytes).splitOnP isEnding) :=
  (sameContent_fileLines (Utf8.decode bytes)).filled

/-- How a line can end in a file. -/
inductive Ending where
  | lineFeed
  | carriageReturn
  | both
  deriving DecidableEq, Repr

def Ending.mark : Ending → Text
  | lineFeed => ['\n']
  | carriageReturn => ['\r']
  | both => ['\r', '\n']

/-- A line without its ending. -/
structure PlainLine where
  text : Text
  noReturn : '\r' ∉ text
  noFeed : '\n' ∉ text

namespace PlainLine

theorem not_isEnding (line : PlainLine) : ∀ c ∈ line.text, isEnding c = false := by
  intro c member
  rw [isEnding, Bool.or_eq_false_iff, beq_eq_false_iff_ne, beq_eq_false_iff_ne]
  exact ⟨fun same => line.noReturn (same ▸ member), fun same => line.noFeed (same ▸ member)⟩

theorem trimEnding_text (line : PlainLine) : trimEnding line.text = line.text :=
  trimEnd_of_lastNot (lastNot_of_forall line.not_isEnding)

theorem splitOnP_append (line : PlainLine) {mark : Char} (ends : isEnding mark = true)
    (rest : Text) :
    (line.text ++ mark :: rest).splitOnP isEnding = line.text :: rest.splitOnP isEnding :=
  List.splitOnP_append_cons_of_forall_mem line.not_isEnding mark ends rest

/-- Any ending puts the line among the others, perhaps with an empty one behind it. -/
theorem filled_splitOnP (line : PlainLine) (ending : Ending) (rest : Text) :
    filled ((line.text ++ (ending.mark ++ rest)).splitOnP isEnding) =
      filled (line.text :: rest.splitOnP isEnding) := by
  cases ending with
  | lineFeed => exact congrArg filled (line.splitOnP_append (by decide) rest)
  | carriageReturn => exact congrArg filled (line.splitOnP_append (by decide) rest)
  | both =>
    have pieces : (line.text ++ '\r' :: '\n' :: rest).splitOnP isEnding =
        line.text :: ('\n' :: rest).splitOnP isEnding :=
      line.splitOnP_append (by decide) ('\n' :: rest)
    have between : ('\n' :: rest).splitOnP isEnding = [] :: rest.splitOnP isEnding := by
      rw [List.splitOnP_cons_eq_if_modifyHead, if_pos (by decide)]
    rw [Ending.mark, List.cons_append, List.singleton_append, pieces, between, filled_cons,
      filled_empty_cons, ← filled_cons]

end PlainLine

/-- A header to be written to a file: lines with their endings, and perhaps one without. -/
structure WrittenHeader where
  ended : List (PlainLine × Ending)
  last : Option PlainLine

namespace WrittenHeader

def lines (h : WrittenHeader) : List PlainLine :=
  h.ended.map Prod.fst ++ h.last.toList

def text (h : WrittenHeader) : Text :=
  h.ended.flatMap (fun line => line.1.text ++ line.2.mark) ++ h.last.elim [] PlainLine.text

theorem filled_splitOnP_text (h : WrittenHeader) :
    filled (h.text.splitOnP isEnding) = filled (h.lines.map PlainLine.text) := by
  obtain ⟨ended, last⟩ := h
  simp only [text, lines]
  induction ended with
  | nil =>
    cases last with
    | none => rfl
    | some line => exact congrArg filled (List.splitOnP_eq_singleton line.not_isEnding)
  | cons line ended ih =>
    rw [List.flatMap_cons, List.append_assoc, List.append_assoc, line.1.filled_splitOnP, filled_cons,
      ih, ← filled_cons]
    rfl

end WrittenHeader

/-- The endings of its lines make no difference to a header. -/
theorem Parsed.ofBytes_encode_text (h : WrittenHeader) :
    Parsed.ofBytes (Utf8.encode h.text) = .ofLines (h.lines.map PlainLine.text) := by
  have trimmed : (h.lines.map PlainLine.text).map trimEnding = h.lines.map PlainLine.text := by
    simp [PlainLine.trimEnding_text]
  apply ofLines_congr
  rw [filled_headerLines, Utf8.decode_encode, h.filled_splitOnP_text, trimmed]

/-- A line feed is found behind any bytes whatsoever, and parts the header there: it holds what the
lines in front of it and the lines behind it hold, and the latter are read as from a file of their
own. -/
theorem Parsed.ofBytes_append_newline (front rest : Bytes) :
    Parsed.ofBytes (front ++ 0x0a :: rest) = .ofLines (headerLines front ++ headerLines rest) ∧
      headerLines (front ++ 0x0a :: rest) =
        headerLines (front ++ [0x0a]) ++ headerLines rest := by
  have decoded (rest : Bytes) : Utf8.decode (front ++ 0x0a :: rest) =
      Utf8.decode front ++ '\n' :: Utf8.decode rest :=
    Utf8.decode_append_ascii front (by decide) rest
  constructor
  · apply ofLines_congr
    rw [filled_headerLines, decoded, List.splitOnP_append_cons _ _ (by decide), filled_append,
      List.map_append, filled_append, filled_headerLines, filled_headerLines]
  · have lines := fileLines_append_feed (Utf8.decode front) (Utf8.decode rest)
    have feed : Utf8.decode [] = [] := rfl
    rw [← decoded, ← feed, ← decoded] at lines
    exact lines

end GLDispatch
