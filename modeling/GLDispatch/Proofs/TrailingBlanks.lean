import GLDispatch.Header.Scanner
import GLDispatch.Proofs.Grammar

/-! # Blanks at the end of a line

No reader of lines takes notice of blanks behind what it reads, line endings among them. Each way of
reading on hands this down from the reader behind it to the whole one, so a scanner in any state
does the same with a line and with the line and blanks behind it. -/
namespace GLDispatch
namespace Text

variable {α β : Type}

/-- What is read stays the same when a blank is put behind the text. -/
def IgnoresEnd (read : Text → β) : Prop :=
  ∀ (t : Text) (c : Char), isBlank c = true → read (t ++ [c]) = read t

theorem IgnoresEnd.append {read : Text → β} (h : IgnoresEnd read) (t : Text) {w : Text}
    (blank : AllBlank w) : read (t ++ w) = read t := by
  induction w generalizing t with
  | nil => rw [List.append_nil]
  | cons c w ih =>
    obtain ⟨first, rest⟩ := allBlank_cons.mp blank
    rw [List.append_cons, ih (t ++ [c]) rest, h t c first]

/-! ## Characters and marks -/

theorem takeWhile_concat {p : Char → Bool} {c : Char} (stops : p c = false) (t : Text) :
    (t ++ [c]).takeWhile p = t.takeWhile p := by
  induction t with
  | nil => simp [stops]
  | cons d t ih => simp only [List.cons_append, List.takeWhile_cons, ih]

theorem dropWhile_concat {p : Char → Bool} {c : Char} (stops : p c = false) (t : Text) :
    (t ++ [c]).dropWhile p = t.dropWhile p ++ [c] := by
  induction t with
  | nil => simp [stops]
  | cons d t ih =>
    simp only [List.cons_append, List.dropWhile_cons, ih]
    split <;> rfl

theorem eq_false_of_isBlank {p : Char → Bool} {c : Char} (words : p c = true → isWord c = true)
    (blank : isBlank c = true) : p c = false := by
  cases holds : p c with
  | false => rfl
  | true =>
    rw [not_isBlank_of_isWord (words holds)] at blank
    cases blank

theorem head?_any_concat {p : Char → Bool} {c : Char} (stops : p c = false) (t : Text) :
    (t ++ [c]).head?.any p = t.head?.any p := by
  cases t <;> simp [stops]

theorem dropBlanks_concat {c : Char} (blank : isBlank c = true) (t : Text) :
    dropBlanks (t ++ [c]) = dropBlanks t ∨ dropBlanks (t ++ [c]) = dropBlanks t ++ [c] := by
  induction t with
  | nil => simp [dropBlanks, blank]
  | cons d t ih =>
    simp only [dropBlanks, List.cons_append, List.dropWhile_cons] at ih ⊢
    split
    · exact ih
    · exact Or.inr rfl

/-- The text has a last character, which is no blank. -/
def EndsVisibly (t : Text) : Prop :=
  t.getLast?.any (!isBlank ·) = true

instance (t : Text) : Decidable (EndsVisibly t) :=
  inferInstanceAs (Decidable (_ = _))

theorem EndsVisibly.not_isBlank {t : Text} {c : Char} (h : EndsVisibly (t ++ [c])) :
    isBlank c = false := by
  simpa [EndsVisibly] using h

/-- A blank behind the text is behind the mark at its beginning too. -/
theorem isPrefixOf?_concat {start : Text} {c : Char} (ends : EndsVisibly start)
    (blank : isBlank c = true) (t : Text) :
    start.isPrefixOf? (t ++ [c]) = (start.isPrefixOf? t).map (· ++ [c]) := by
  cases found : start.isPrefixOf? t with
  | some rest =>
    rw [← List.append_eq_of_isPrefixOf?_eq_some found, List.append_assoc]
    exact isPrefixOf?_append start (rest ++ [c])
  | none =>
    cases other : start.isPrefixOf? (t ++ [c]) with
    | none => rfl
    | some rest =>
      have whole := (List.append_eq_of_isPrefixOf?_eq_some other).symm
      rcases List.eq_nil_or_concat rest with rfl | ⟨front, d, rfl⟩
      · -- The mark would have to end in the blank.
        rw [List.append_nil] at whole
        have visible := (whole ▸ ends).not_isBlank
        rw [blank] at visible
        cases visible
      · rw [List.concat_eq_append, ← List.append_assoc] at whole
        rw [List.append_inj_left' whole rfl, isPrefixOf?_append] at found
        cases found

theorem isPrefixOf_concat {start : Text} {c : Char} (ends : EndsVisibly start)
    (blank : isBlank c = true) (t : Text) :
    start.isPrefixOf (t ++ [c]) = start.isPrefixOf t := by
  rw [← List.isSome_isPrefixOf?_eq_isPrefixOf, isPrefixOf?_concat ends blank, Option.isSome_map,
    List.isSome_isPrefixOf?_eq_isPrefixOf]

/-! ## Ways of reading on -/

theorem IgnoresEnd.bind_isPrefixOf? {read : Text → Option α} (h : IgnoresEnd read) (start : Text)
    (ends : EndsVisibly start) : IgnoresEnd fun t => (start.isPrefixOf? t).bind read := by
  intro t c blank
  dsimp only
  rw [isPrefixOf?_concat ends blank, Option.bind_map]
  exact Option.bind_congr fun rest _ => h rest c blank

theorem IgnoresEnd.comp_dropBlanks {read : Text → β} (h : IgnoresEnd read) :
    IgnoresEnd fun t => read (dropBlanks t) := by
  intro t c blank
  dsimp only
  rcases dropBlanks_concat blank t with same | longer
  · rw [same]
  · rw [longer, h _ c blank]

theorem IgnoresEnd.bind_afterBlanks? {read : Text → Option α} (h : IgnoresEnd read)
    (nothing : read [] = none) : IgnoresEnd fun t => (afterBlanks? t).bind read := by
  intro t c blank
  cases t with
  | nil => simp [afterBlanks?, blank, dropBlanks, nothing]
  | cons d t =>
    simp only [List.cons_append, afterBlanks?]
    split
    · exact h.comp_dropBlanks t c blank
    · rfl

theorem IgnoresEnd.afterMostBlanks? {read : Text → Option α} (h : IgnoresEnd read)
    (nothing : read [] = none) : IgnoresEnd (afterMostBlanks? read) := by
  intro t c blank
  induction t with
  | nil => simp [Text.afterMostBlanks?, nothing]
  | cons d t ih => simp only [List.cons_append, Text.afterMostBlanks?, ih, h t c blank]

theorem IgnoresEnd.findSome? {reads : List β} {read : β → Text → Option α}
    (h : ∀ b ∈ reads, IgnoresEnd (read b)) :
    IgnoresEnd fun t => reads.findSome? fun b => read b t := by
  intro t c blank
  induction reads with
  | nil => rfl
  | cons b reads ih =>
    obtain ⟨first, rest⟩ := List.forall_mem_cons.mp h
    simp only [List.findSome?_cons, first t c blank, ih rest]

theorem IgnoresEnd.search? {read : Text → Option α} (h : IgnoresEnd read) :
    IgnoresEnd (search? read) := by
  intro t c blank
  induction t with
  | nil =>
    have first := h [] c blank
    rw [List.nil_append] at first
    simp only [List.nil_append, Text.search?, first]
    cases read [] <;> rfl
  | cons d t ih =>
    have first := h (d :: t) c blank
    rw [List.cons_append] at first
    simp only [List.cons_append, Text.search?, first, ih]

theorem IgnoresEnd.shortest? {next : Char → Text → Option α} (h : ∀ last, IgnoresEnd (next last))
    (nothing : ∀ last, next last [] = none) : IgnoresEnd (shortest? next) := by
  intro t c blank
  induction t with
  | nil => simp [Text.shortest?, nothing]
  | cons d t ih => simp only [List.cons_append, Text.shortest?, h d t c blank, ih]

theorem IgnoresEnd.longest? {closes : Text → Bool} (h : IgnoresEnd closes)
    (nothing : closes [] = false) : IgnoresEnd (longest? closes) := by
  intro t c blank
  induction t with
  | nil =>
    have first := h [] c blank
    rw [List.nil_append, nothing] at first
    simp [Text.longest?, nothing, first]
  | cons d t ih =>
    have first := h (d :: t) c blank
    rw [List.cons_append] at first
    simp only [List.cons_append, Text.longest?, first, ih]

theorem IgnoresEnd.longestNonempty? {closes : Text → Bool} (h : IgnoresEnd closes)
    (nothing : closes [] = false) : IgnoresEnd (longestNonempty? closes) := by
  intro t c blank
  cases t with
  | nil => simp [Text.longestNonempty?, Text.longest?, nothing]
  | cons d t =>
    simp only [List.cons_append, Text.longestNonempty?, h.longest? nothing t c blank]

/-- A parameter list as far as its closing mark. -/
theorem IgnoresEnd.list {closes : Text → Bool} (h : IgnoresEnd closes) (nothing : closes [] = false)
    (make : Text → α) :
    IgnoresEnd fun t =>
      (['('].isPrefixOf? t).bind fun inner => (Text.longestNonempty? closes inner).map make := by
  refine IgnoresEnd.bind_isPrefixOf? ?_ _ (by decide)
  intro t c blank
  exact congrArg (Option.map make) (h.longestNonempty? nothing t c blank)

theorem trimEnding_cut (line : Text) : ∃ w, AllBlank w ∧ line = trimEnding line ++ w := by
  obtain ⟨w, ending, whole⟩ := trimEnd_cut (fun c => c == '\r' || c == '\n') line
  refine ⟨w, fun c member => ?_, whole⟩
  have isEnding := ending c member
  rw [Bool.or_eq_true, beq_iff_eq, beq_iff_eq] at isEnding
  rcases isEnding with rfl | rfl <;> decide

theorem IgnoresEnd.trimEnding {read : Text → β} (h : IgnoresEnd read) (line : Text) :
    read (trimEnding line) = read line := by
  obtain ⟨w, blank, whole⟩ := trimEnding_cut line
  rw [whole, h.append _ blank, ← whole]

end Text

open Text

/-! ## Directives and extension notes -/

namespace Directive

theorem ignoresEnd_guardAt? : IgnoresEnd guardAt? := by
  have stems : ∀ stem ∈ guardStems, EndsVisibly stem := by decide
  apply IgnoresEnd.findSome?
  intro stem member t c blank
  simp only [isPrefixOf?_concat (stems stem member) blank, Option.map_map, Function.comp_def,
    takeWhile_concat (not_isWord_of_isBlank blank)]

theorem ignoresEnd_opening? : IgnoresEnd opening? := by
  have nothing : guardAt? [] = none := by decide
  have guard : IgnoresEnd fun t => (afterBlanks? t).bind guardAt? :=
    ignoresEnd_guardAt?.bind_afterBlanks? nothing
  have opening : IgnoresEnd openingAt? := by
    have reading := guard.bind_isPrefixOf? "#ifndef".toList (by decide)
    intro t c blank
    simpa only [openingAt?, Option.bind_assoc] using reading t c blank
  exact opening.search?

theorem ignoresEnd_opensConditional : IgnoresEnd opensConditional := by
  intro t c blank
  rw [opensConditional, isPrefixOf_concat (by decide) blank, opensConditional]

theorem ignoresEnd_closesConditional : IgnoresEnd closesConditional := by
  intro t c blank
  rw [closesConditional, isPrefixOf_concat (by decide) blank, closesConditional]

end Directive

namespace ExtensionNote

theorem ignoresEnd_ofLine? : IgnoresEnd ofLine? := by
  refine IgnoresEnd.bind_isPrefixOf? ?_ _ (by decide)
  intro t c blank
  simp only [takeWhile_concat (eq_false_of_isBlank isWord_of_isNameChar blank)]

end ExtensionNote

/-! ## Prototypes -/

namespace Prototype

theorem ignoresEnd_closesList : IgnoresEnd closesList := by
  have semicolon : IgnoresEnd fun t => ([';'].isPrefixOf? t).isSome := by
    intro t c blank
    dsimp only
    rw [isPrefixOf?_concat (by decide) blank, Option.isSome_map]
  intro t c blank
  rw [closesList, isPrefixOf?_concat (by decide) blank, closesList]
  cases [')'].isPrefixOf? t with
  | none => rfl
  | some rest => exact semicolon.comp_dropBlanks rest c blank

theorem ignoresEnd_nameAndParameters? : IgnoresEnd nameAndParameters? := by
  have parameters (name : Text) :=
    (ignoresEnd_closesList.list (by decide) fun parameters => (name, parameters)).comp_dropBlanks
  refine IgnoresEnd.bind_isPrefixOf? ?_ _ (by decide)
  intro t c blank
  have word := not_isWord_of_isBlank blank
  have later := parameters ("gl".toList ++ t.takeWhile isWord) (t.dropWhile isWord) c blank
  dsimp only at later ⊢
  rw [takeWhile_concat word, dropWhile_concat word, later]

theorem afterConvention?_of_allBlank (last : Char) {t : Text} (blank : AllBlank t) :
    afterConvention? last t = none := by
  have none : dropBlanks t = [] := by simpa [dropBlanks] using dropBlanks_append blank []
  rw [afterConvention?, none]
  rfl

theorem bind_nameStart?_nil {α : Type} {read : Text → Option α} (nothing : read [] = none)
    (last : Char) : (nameStart? last []).bind read = none := by
  have none : AllBlank [] := fun _ member => by cases member
  rw [nameStart?, afterConvention?_of_allBlank last none, Option.orElse_none]
  split
  · exact nothing
  · rfl

theorem ignoresEnd_map_afterConvention? {β : Type} {read : Text → β} (h : IgnoresEnd read)
    (last : Char) : IgnoresEnd fun t => (afterConvention? last t).map read := by
  have behind (apart : Bool) : IgnoresEnd fun t =>
      ("APIENTRY".toList.isPrefixOf? t).bind fun rest =>
        (if apart && !rest.head?.any isWord then some (dropBlanks rest) else none).map read := by
    refine IgnoresEnd.bind_isPrefixOf? ?_ _ (by decide)
    intro t c blank
    have later := h.comp_dropBlanks t c blank
    dsimp only at later ⊢
    rw [head?_any_concat (not_isWord_of_isBlank blank)]
    split
    · exact congrArg some later
    · rfl
  intro t c blank
  cases t with
  | nil =>
    have only : AllBlank [c] := by simpa [AllBlank] using blank
    simp only [List.nil_append, afterConvention?_of_allBlank last only]
    rfl
  | cons d t =>
    have later := (behind (isBlank d || !isWord last)).comp_dropBlanks (d :: t) c blank
    dsimp only
    rw [afterConvention?, Option.map_bind, afterConvention?, Option.map_bind]
    exact later

/-- What is read behind the gap in front of a name, if anything has to be there. -/
theorem ignoresEnd_bind_nameStart? {α : Type} {read : Text → Option α} (h : IgnoresEnd read)
    (nothing : read [] = none) (last : Char) :
    IgnoresEnd fun t => (nameStart? last t).bind read := by
  have ofMap (start : Option Text) : start.bind read = (start.map read).bind id := by
    rw [Option.bind_map]
    rfl
  intro t c blank
  dsimp only
  cases t with
  | nil =>
    have only : AllBlank [c] := by simpa [AllBlank] using blank
    rw [bind_nameStart?_nil nothing, nameStart?, List.nil_append,
      afterConvention?_of_allBlank last only]
    simp [dropBlanks, blank, nothing]
  | cons d t =>
    have convention := ignoresEnd_map_afterConvention? h last (d :: t) c blank
    have plain := h.comp_dropBlanks (d :: t) c blank
    dsimp only at convention plain
    have same : (nameStart? last (d :: t ++ [c])).map read =
        (nameStart? last (d :: t)).map read := by
      rw [nameStart?, nameStart?, Option.orElse_eq_or, Option.orElse_eq_or, Option.map_or,
        Option.map_or, convention, List.cons_append, List.head?_cons, List.head?_cons]
      congr 1
      split
      · exact congrArg some plain
      · rfl
    rw [ofMap, same, ← ofMap]

theorem ignoresEnd_typeAt? : IgnoresEnd typeAt? := by
  have nothing : nameAndParameters? [] = none := by decide
  have found := IgnoresEnd.shortest?
    (ignoresEnd_bind_nameStart? ignoresEnd_nameAndParameters? nothing) (bind_nameStart?_nil nothing)
  intro t c blank
  have noStart := eq_false_of_isBlank isWord_of_startsType blank
  rw [typeAt?, head?_any_concat noStart, found t c blank, typeAt?]

theorem ignoresEnd_ofLine? : IgnoresEnd ofLine? := by
  have nothing : typeAt? [] = none := by decide
  have plain : IgnoresEnd fun t => typeAt? (dropBlanks t) := ignoresEnd_typeAt?.comp_dropBlanks
  have decorated := ((ignoresEnd_typeAt?.bind_afterBlanks? nothing).bind_isPrefixOf?
    "GLAPI".toList (by decide)).comp_dropBlanks
  intro t c blank
  have decorated := decorated t c blank
  have plain := plain t c blank
  dsimp only at decorated plain
  simp only [ofLine?, Option.bind_assoc, decorated, plain]

end Prototype

/-! ## Pointer types -/

namespace PointerType

theorem ignoresEnd_closesList : IgnoresEnd closesList := by
  intro t c blank
  rw [closesList, isPrefixOf_concat (by decide) blank, closesList]

theorem ignoresEnd_nameAndParameters? : IgnoresEnd nameAndParameters? := by
  have parameters (name : Text) :=
    (ignoresEnd_closesList.list (by decide) fun parameters => (name, parameters)).comp_dropBlanks
  have list (name : Text) := (parameters name).bind_isPrefixOf? [')'] (by decide)
  have named : IgnoresEnd fun rest : Text =>
      if (rest.takeWhile isWord).isEmpty then none
      else ([')'].isPrefixOf? (rest.dropWhile isWord)).bind fun behind =>
        (['('].isPrefixOf? (dropBlanks behind)).bind fun inner =>
          (longestNonempty? closesList inner).map fun parameters =>
            (rest.takeWhile isWord, parameters) := by
    intro t c blank
    have word := not_isWord_of_isBlank blank
    have later := list (t.takeWhile isWord) (t.dropWhile isWord) c blank
    dsimp only at later ⊢
    rw [takeWhile_concat word, dropWhile_concat word, later]
  have marked := ((named.bind_afterBlanks? (by decide)).bind_isPrefixOf?
    "(APIENTRYP".toList (by decide)).comp_dropBlanks
  intro t c blank
  have whole := marked t c blank
  simpa only [nameAndParameters?, Option.bind_assoc] using whole

theorem ignoresEnd_ofLine? : IgnoresEnd ofLine? := by
  have found : IgnoresEnd (shortest? fun _ => nameAndParameters?) :=
    IgnoresEnd.shortest? (fun _ => ignoresEnd_nameAndParameters?) (fun _ => by decide)
  have typed : IgnoresEnd typeAt? := by
    intro t c blank
    rw [typeAt?, typeAt?]
    exact congrArg _ (found t c blank)
  have defined : IgnoresEnd definitionAt? :=
    (typed.afterMostBlanks? (by decide)).bind_isPrefixOf? _ (by decide)
  exact defined.search?

end PointerType

/-! ## Lines -/

theorem Entry.ignoresEnd_ofLine? : IgnoresEnd Entry.ofLine? := by
  intro t c blank
  rw [ofLine?, ExtensionNote.ignoresEnd_ofLine? t c blank, Prototype.ignoresEnd_ofLine? t c blank,
    PointerType.ignoresEnd_ofLine? t c blank, ofLine?]

theorem Scanner.ignoresEnd_record (s : Scanner) : IgnoresEnd s.record := by
  intro t c blank
  rw [record, Entry.ignoresEnd_ofLine? t c blank, record]

theorem Scanner.ignoresEnd_read (s : Scanner) : IgnoresEnd s.read := by
  intro t c blank
  rw [read, Directive.ignoresEnd_opening? t c blank,
    Directive.ignoresEnd_opensConditional t c blank,
    Directive.ignoresEnd_closesConditional t c blank, s.ignoresEnd_record t c blank, read]

/-- Blanks behind a line are invisible, endings of lines among them: each matcher gives the same
answer, with the same captures, and a scanner in any state does the same. -/
theorem Scanner.read_append_blanks (line : Text) {w : Text} (blank : AllBlank w) :
    Directive.opening? (line ++ w) = Directive.opening? line ∧
      Directive.opensConditional (line ++ w) = Directive.opensConditional line ∧
      Directive.closesConditional (line ++ w) = Directive.closesConditional line ∧
      ExtensionNote.ofLine? (line ++ w) = ExtensionNote.ofLine? line ∧
      Prototype.ofLine? (line ++ w) = Prototype.ofLine? line ∧
      PointerType.ofLine? (line ++ w) = PointerType.ofLine? line ∧
      ∀ s : Scanner, s.apply (.read (line ++ w)) = s.apply (.read line) ∧
        s.apply (.record (line ++ w)) = s.apply (.record line) := by
  refine ⟨Directive.ignoresEnd_opening?.append line blank,
    Directive.ignoresEnd_opensConditional.append line blank,
    Directive.ignoresEnd_closesConditional.append line blank,
    ExtensionNote.ignoresEnd_ofLine?.append line blank,
    Prototype.ignoresEnd_ofLine?.append line blank,
    PointerType.ignoresEnd_ofLine?.append line blank, fun s => ⟨?_, ?_⟩⟩
  · rw [apply, s.ignoresEnd_read.append line blank, apply]
  · rw [apply, s.ignoresEnd_record.append line blank, apply]

/-- A pointer type in front of a tab, a line ending and a line separator. -/
theorem Scanner.read_append_blanks_ending :
    let line := "typedef void (APIENTRYP PFNGLCLEARPROC) (GLbitfield mask);".toList
    let w := ['\t', '\r', '\n', '\u2028']
    AllBlank w ∧ PointerType.ofLine? (line ++ w) =
      some ⟨"PFNGLCLEARPROC".toList, ⟨"void".toList, "GLbitfield mask".toList⟩⟩ := by
  intro line w
  have blank : AllBlank w := List.all_eq_true.mp (by decide)
  have defined : PointerType.ofLine? line =
      some ⟨"PFNGLCLEARPROC".toList, ⟨"void".toList, "GLbitfield mask".toList⟩⟩ := by
    decide +kernel
  obtain ⟨-, -, -, -, -, same, -⟩ := read_append_blanks line blank
  exact ⟨blank, same.trans defined⟩

/-- A line of blanks only is no line to a scanner. -/
theorem Scanner.read_of_allBlank (s : Scanner) {line : Text} (blank : AllBlank line) :
    s.read line = (s, []) := by
  have empty : s.read line = s.read [] := s.ignoresEnd_read.append [] blank
  have noGuard : Directive.opening? [] = none := by decide
  have noEntry : Entry.ofLine? [] = none := by decide
  obtain ⟨definitions, region, nesting⟩ := s
  rw [empty, read]
  cases region with
  | none => simp [noGuard]
  | some guard =>
    simp [Directive.opensConditional, Directive.closesConditional, record, noEntry]

end GLDispatch
