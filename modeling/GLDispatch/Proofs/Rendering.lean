import GLDispatch.Proofs.Declarator
import GLDispatch.Proofs.Decomposition
import GLDispatch.Proofs.PointerDecomposition

/-! # Printing what was read

A prototype or pointer type that was read from a line can be printed again, with its parts as they
were captured and one blank between them. Reading the printed line gives it back: where the reader
could stop earlier on the printed line, it could have stopped earlier on the first one. Only a
pointer type without a return type can be lost, when its parameter list looks like the brackets of
another one: on the first line a blank kept it from that. -/
namespace GLDispatch
open Text

/-! ## Prototypes -/

namespace Prototype

/-- The line which declares the function, and nothing else. -/
def canonical (p : Prototype) : Text :=
  "GLAPI ".toList ++
    (p.signature.returnType ++ declarator [' '] p.name p.signature.parameters)

theorem canonical_mk (name type parameters : Text) :
    canonical ⟨name, ⟨type, parameters⟩⟩ =
      "GLAPI ".toList ++ (type ++ declarator [' '] name parameters) := rfl

/-- A blank at the end of a type may as well begin the gap. -/
theorem Gap.cons {last c : Char} {t u : Text} (blank : isBlank last = true) (gap : Gap last t u) :
    Gap c (last :: t) u := by
  cases gap with
  | @convention ws ws' _ blank' apart blank'' apart' start =>
    have blanks : AllBlank (last :: ws) := allBlank_cons.mpr ⟨blank, blank'⟩
    exact .convention blanks (fun none => by cases none) blank'' apart' start
  | @blanks ws _ blank' apart start =>
    have blanks : AllBlank (last :: ws) := allBlank_cons.mpr ⟨blank, blank'⟩
    exact .blanks blanks (fun none => by cases none) start

/-- A gap in front of one name is a gap in front of every name. -/
theorem Gap.exists_front {last : Char} {t u : Text} (gap : Gap last t u)
    (name : u.head? = some 'g') :
    ∃ g, t = g ++ u ∧ '(' ∉ g ∧ ∀ v : Text, v.head? = some 'g' → Gap last (g ++ v) v := by
  have visible {v : Text} (first : v.head? = some 'g') : HeadNot isBlank v := by
    intro c first'
    cases first.symm.trans first'
    decide
  cases gap with
  | @convention ws ws' _ blank apart blank' apart' start =>
    have some : ws' ≠ [] := by
      rintro rfl
      have noWord := apart' 'g' name
      cases noWord
    refine ⟨ws ++ ("APIENTRY".toList ++ ws'), by simp, ?_, fun v first => ?_⟩
    · simp [blank.no_bracket, blank'.no_bracket]
    · have apart'' : HeadNot isWord (ws' ++ v) :=
        (headNot_append some v).mpr ((headNot_append some u).mp apart')
      simpa using Gap.convention blank apart blank' apart'' (visible first)
  | @blanks ws _ blank apart start =>
    exact ⟨ws, rfl, blank.no_bracket, fun v first => .blanks blank apart (visible first)⟩

/-- A call whose bracket stands in front of some text stays one, with other parameters, if anything
else that ends a list stands in place of the text. -/
theorem Gap.transfer {last : Char} {name list front text u inside closing rest : Text}
    (gap : Gap last (front ++ text) u) (called : Called name list u) (bracket : '(' ∈ front)
    (oneLine : '\n' ∉ front ++ inside) (insideSome : inside ≠ []) (blank : AllBlank closing) :
    ∃ u' list', Gap last (front ++ (inside ++ ')' :: (closing ++ ';' :: rest))) u' ∧
      Called name list' u' := by
  obtain ⟨g, equal, inGap, inFront⟩ := gap.exists_front called.head?
  obtain ⟨isName, -, ws, ws', behind, blank', -, rfl⟩ := called
  obtain ⟨before, start, rfl, first⟩ := List.eq_append_cons_of_mem bracket
  have marked : before ++ '(' :: (start ++ text) =
      g ++ name ++ ws ++ '(' :: (list ++ ')' :: (ws' ++ ';' :: behind)) := by
    simpa using equal
  obtain ⟨rfl, -⟩ := cut_at_mark marked first
    (by simp [inGap, isName.allWord.no_bracket, blank'.no_bracket])
  have listed : ParameterText (start ++ inside) := by
    refine ⟨by simp [insideSome], fun newline => oneLine ?_⟩
    simp only [List.mem_append, List.mem_cons] at newline ⊢
    tauto
  have called' : Called name (start ++ inside) (name ++
      (ws ++ '(' :: (start ++ inside ++ ')' :: (closing ++ ';' :: rest)))) :=
    ⟨isName, listed, ws, closing, rest, blank', blank, rfl⟩
  refine ⟨_, _, ?_, called'⟩
  simpa using inFront _ called'.head?

namespace Declaration

variable {t : Text} {d : Declaration t}

/-- No shorter part of the text has a gap and a call behind it. -/
theorem IsChosen.length_le (chosen : d.IsChosen) {front behind u name parameters : Text}
    {last : Char} (whole : t = front ++ last :: behind)
    (starts : (front ++ [last]).head?.any startsType = true) (oneLine : '\n' ∉ front ++ [last])
    (gap : Gap last behind u) (called : Called name parameters u) :
    d.type.length ≤ front.length + 1 := by
  obtain ⟨l, -, -⟩ := called.exists_listing
  obtain ⟨separator, between, blank, separates, rfl⟩ := gap.exists_separator front
  let e : Declaration t := ⟨front ++ [last], separator, between, u, l, starts, oneLine, blank,
    separates, by rw [whole, List.append_assoc]; rfl⟩
  exact Nat.le_trans (chosen e).1 (Nat.le_of_eq (by simp [e]))

theorem starts_of_append {front more : Text} {c : Char} (d : Declaration t)
    (whole : d.type = front ++ c :: more) : (front ++ [c]).head?.any startsType = true := by
  have starts := d.starts
  rw [whole] at starts
  cases front <;> exact starts

theorem oneLine_of_append {front more : Text} {c : Char} (d : Declaration t)
    (whole : d.type = front ++ c :: more) : '\n' ∉ front ++ [c] := by
  have oneLine := d.oneLine
  rw [whole, List.append_cons] at oneLine
  exact fun newline => oneLine (List.mem_append_left _ newline)

/-- The shortest type does not end in a blank: the gap could begin there. -/
theorem IsChosen.lastNot (chosen : d.IsChosen) : LastNot isBlank d.type := by
  intro c ends
  cases blank : isBlank c with
  | false => rfl
  | true =>
    obtain ⟨front, last, type, whole, gap⟩ := d.exists_last
    rw [type, List.getLast?_concat] at ends
    cases ends
    have some : front ≠ [] := by
      rintro rfl
      have starts := d.starts
      rw [type] at starts
      rw [not_isBlank_of_isWord (isWord_of_startsType (by simpa using starts))] at blank
      cases blank
    obtain ⟨shorter, before, rfl⟩ := (List.eq_nil_or_concat front).resolve_left some
    rw [List.concat_eq_append, List.append_assoc, List.singleton_append] at type whole
    have bound := chosen.length_le whole (d.starts_of_append type) (d.oneLine_of_append type)
      (gap.cons blank) d.listing.called
    rw [type] at bound
    simp at bound

theorem IsChosen.strip_type (chosen : d.IsChosen) : strip d.type = d.type := by
  have start : HeadNot isBlank d.type := by
    have starts := d.starts
    intro c first
    rw [first] at starts
    exact not_isBlank_of_isWord (isWord_of_startsType (by simpa using starts))
  exact strip_eq_self start chosen.lastNot

/-- On the printed line, too, no shorter type can be read. -/
theorem IsChosen.refuses (chosen : d.IsChosen) (inLine : '\n' ∉ t) {parameters before behind : Text}
    {c : Char} (type : d.type = before ++ c :: behind) (more : behind ≠ []) :
    (nameStart? c (behind ++ declarator [' '] d.listing.name parameters)).bind
      nameAndParameters? = none := by
  by_cases bracket : '(' ∈ behind
  · apply Option.eq_none_iff_forall_not_mem.mpr
    intro (name, list) found
    obtain ⟨u, start, called⟩ := Option.bind_eq_some_iff.mp found
    let l := d.listing
    let inside := d.separator ++ (d.gap ++ (l.name ++ (l.space ++ '(' :: l.parameters)))
    have listed : d.separator ++ (d.gap ++ d.listingText) =
        inside ++ ')' :: (l.closing ++ ';' :: l.behind) :=
      (congrArg (fun t => d.separator ++ (d.gap ++ t)) l.whole).trans (by simp [inside])
    have whole : t =
        before ++ c :: (behind ++ (inside ++ ')' :: (l.closing ++ ';' :: l.behind))) :=
      (d.whole_of_type type).trans (by rw [listed]; simp)
    have oneLine : '\n' ∉ behind ++ inside := by
      intro newline
      apply inLine
      rw [whole]
      simp only [List.mem_append, List.mem_cons] at newline ⊢
      tauto
    -- The call which is found on the printed line is one on the first line, too.
    obtain ⟨u', list', gap, called'⟩ := (gap_of_nameStart? start).transfer
      (called_of_nameAndParameters? called) bracket oneLine (by simp [inside]) l.closingBlank
    have bound := chosen.length_le whole (d.starts_of_append type) (d.oneLine_of_append type) gap
      called'
    rw [type] at bound
    simp [more] at bound
  · exact nameStart?_unbracketed d.listing.named allBlank_space bracket
      (not_allBlank_of_lastNot chosen.lastNot type more)

end Declaration

/-- Reading gives back a prototype which was read and printed. -/
theorem ofLine?_canonical {line : Text} {p : Prototype} (oneLine : '\n' ∉ line)
    (found : ofLine? line = some p) (listed : p.signature.parameters ≠ []) :
    ofLine? p.canonical = some p := by
  obtain ⟨d, chosen, rfl⟩ := Decomposition.exists_of_ofLine? found
  have inLine : '\n' ∉ d.rest := by
    intro newline
    apply oneLine
    rw [d.whole]
    exact List.mem_append_right _ (List.mem_append_right _ newline)
  have chosen := chosen.declaration
  have parameterText : ParameterText (strip d.declaration.parameters) :=
    ⟨listed, fun newline => d.declaration.listing.listed.2 (strip_subset _ newline)⟩
  have typed := typeAt?_declarator d.declaration.starts d.declaration.oneLine
    d.declaration.listing.named allBlank_space (fun none => by cases none) parameterText
    fun before c behind => chosen.refuses inLine
  have start : HeadNot isBlank (d.declaration.type ++
      declarator [' '] d.declaration.listing.name (strip d.declaration.parameters)) := by
    rw [headNot_append d.declaration.type_ne_nil, ← chosen.strip_type]
    exact headNot_strip _
  have found := ofLine?_decorated start typed
  rw [strip_strip] at found
  have same : d.prototype = ⟨d.declaration.listing.name,
      ⟨d.declaration.type, strip d.declaration.parameters⟩⟩ := by
    rw [Decomposition.prototype, Declaration.prototype, chosen.strip_type]
  rw [same, canonical_mk]
  rwa [chosen.strip_type] at found

end Prototype

/-! ## Pointer types -/

namespace PointerType

/-- The line which defines the pointer type, and nothing else. -/
def canonical (p : PointerType) : Text :=
  "typedef ".toList ++
    (p.signature.returnType ++ declarator [' '] p.name p.signature.parameters)

theorem canonical_mk (name type parameters : Text) :
    canonical ⟨name, ⟨type, parameters⟩⟩ =
      "typedef ".toList ++ (type ++ declarator [' '] name parameters) := rfl

/-- The parameter list in its brackets looks like the name of a pointer type with its parameter
list. -/
def ListsPointerType (parameters : Text) : Prop :=
  ∃ name list, Named name list ('(' :: (parameters ++ ");".toList))

/-- A name in its brackets, and blanks around them. -/
def Bracketed (name head : Text) : Prop :=
  name ≠ [] ∧ AllWord name ∧ ∃ ws ws' ws'', AllBlank ws ∧ ws' ≠ [] ∧ AllBlank ws' ∧ AllBlank ws'' ∧
    head = ws ++ ("(APIENTRYP".toList ++ (ws' ++ (name ++ ')' :: ws'')))

theorem named_iff {name parameters t : Text} :
    Named name parameters t ↔ ParameterText parameters ∧ ∃ head behind, Bracketed name head ∧
      t = head ++ '(' :: (parameters ++ (");".toList ++ behind)) := by
  constructor
  · intro given
    obtain ⟨some, word, listed, ws, ws', ws'', rest, blank, some', blank', blank'', whole⟩ := given
    exact ⟨listed, ws ++ ("(APIENTRYP".toList ++ (ws' ++ (name ++ ')' :: ws''))), rest,
      ⟨some, word, ws, ws', ws'', blank, some', blank', blank'', rfl⟩, by simpa using whole⟩
  · intro ⟨listed, head, behind, bracketed, whole⟩
    obtain ⟨some, word, ws, ws', ws'', blank, some', blank', blank'', same⟩ := bracketed
    exact ⟨some, word, listed, ws, ws', ws'', behind, blank, some', blank', blank'',
      by simpa [same] using whole⟩

theorem Bracketed.named {name head list : Text} (bracketed : Bracketed name head)
    (listed : ParameterText list) (behind : Text) :
    Named name list (head ++ '(' :: (list ++ (");".toList ++ behind))) :=
  named_iff.mpr ⟨listed, head, behind, bracketed, rfl⟩

theorem Bracketed.count {name head : Text} (bracketed : Bracketed name head) :
    head.count '(' = 1 := by
  obtain ⟨-, word, ws, ws', ws'', blank, -, blank', blank'', rfl⟩ := bracketed
  simp [List.count_eq_zero.mpr blank.no_bracket, List.count_eq_zero.mpr blank'.no_bracket,
    List.count_eq_zero.mpr blank''.no_bracket, List.count_eq_zero.mpr word.no_bracket]

/-- A blank behind the name may as well be any number of blanks. -/
theorem Bracketed.respace {name front gap : Text} (bracketed : Bracketed name (front ++ [' ']))
    (blank : AllBlank gap) : Bracketed name (front ++ gap) := by
  obtain ⟨some, word, ws, ws', ws'', blank', some', blank'', blanks, equal⟩ := bracketed
  rcases List.eq_nil_or_concat ws'' with rfl | ⟨w, c, rfl⟩
  · have ends : front ++ [' '] = ws ++ ("(APIENTRYP".toList ++ (ws' ++ name)) ++ [')'] := by
      simpa using equal
    cases (List.append_inj' ends rfl).2
  · have ends : front ++ [' '] =
        ws ++ ("(APIENTRYP".toList ++ (ws' ++ (name ++ ')' :: w))) ++ [c] := by
      simpa using equal
    obtain ⟨rfl, -⟩ := List.append_inj' ends rfl
    have blanks' : AllBlank w := fun d member => blanks d (by simp [member])
    exact ⟨some, word, ws, ws', w ++ gap, blank', some', blank'', blanks'.append blank, by simp⟩

theorem Named.cons {name parameters t : Text} {c : Char} (blank : isBlank c = true)
    (named : Named name parameters t) : Named name parameters (c :: t) := by
  obtain ⟨some, word, listed, ws, ws', ws'', behind, blank', some', blank'', blank''', whole⟩ :=
    named
  exact ⟨some, word, listed, c :: ws, ws', ws'', behind, allBlank_cons.mpr ⟨blank, blank'⟩, some',
    blank'', blank''', by rw [whole]; rfl⟩

/-- The blanks in front of the first bracket do not matter. -/
theorem Named.exists_bracket {name parameters t : Text} (named : Named name parameters t) :
    ∃ ws rest, t = ws ++ '(' :: rest ∧ Named name parameters ('(' :: rest) := by
  obtain ⟨some, word, listed, ws, ws', ws'', behind, -, some', blank', blank'', whole⟩ := named
  exact ⟨ws, _, whole, some, word, listed, [], ws', ws'', behind, by simp [AllBlank], some', blank',
    blank'', rfl⟩

/-- What stands between a bracket and the last end of a list on the line goes on being one. -/
theorem Named.extend {name list inside trail rest : Text}
    (named : Named name list ('(' :: (inside ++ ");".toList))) (oneLine : '\n' ∉ inside ++ trail) :
    ∃ list', Named name list' ('(' :: (inside ++ (trail ++ (");".toList ++ rest)))) := by
  obtain ⟨listed, head, behind, bracketed, equal⟩ := named_iff.mp named
  cases head with
  | nil => cases bracketed.count
  | cons c head =>
    obtain ⟨rfl, opened⟩ := List.cons.inj equal
    obtain ⟨start, rfl, ends⟩ := mark_in_front opened.symm (by decide)
    have longer : start ≠ [] := by
      rintro rfl
      have length := congrArg List.length ends
      have some := List.length_pos_iff.mpr listed.1
      simp at length
      omega
    have listed' : ParameterText (start ++ trail) := by
      refine ⟨by simp [longer], fun newline => oneLine ?_⟩
      simp only [List.mem_append, List.mem_cons] at newline ⊢
      tauto
    exact ⟨start ++ trail, by simpa using bracketed.named listed' rest⟩

/-- A pointer type whose name begins in the text in front of a printed declarator stays one, with
other parameters, if anything else in brackets stands behind. -/
theorem Named.transfer {name list printedName parameters front gap inside rest : Text}
    (named : Named name list (front ++ declarator [' '] printedName parameters))
    (bracket : '(' ∈ front) (oneLine : '\n' ∉ front ++ (gap ++ '(' :: inside))
    (insideSome : inside ≠ []) (blank : AllBlank gap) :
    ∃ list', Named name list' (front ++ (gap ++ '(' :: (inside ++ (");".toList ++ rest)))) := by
  obtain ⟨listed, head, behind, bracketed, equal⟩ := named_iff.mp named
  have count := bracketed.count
  rcases List.append_eq_append_iff.mp equal with ⟨c, rfl, printed⟩ | ⟨start, rfl, opened⟩
  · -- The list is the one which is printed, and the blank in front of it belongs to the name.
    have noBracket : '(' ∉ c := by
      have one := List.count_pos_iff.mpr bracket
      rw [List.count_append] at count
      exact List.count_eq_zero.mp (by omega)
    obtain ⟨rfl, -⟩ := cut_at_mark (x := [' ']) printed (by decide) noBracket
    have listed' : ParameterText inside :=
      ⟨insideSome, fun newline => oneLine (by simp [newline])⟩
    exact ⟨inside, by simpa using (bracketed.respace blank).named listed' rest⟩
  · cases start with
    | nil => cases (List.cons.inj opened).1
    | cons c start =>
      obtain ⟨rfl, -⟩ := List.cons.inj opened
      have listed' : ParameterText (start ++ (gap ++ '(' :: inside)) := by
        refine ⟨by simp, fun newline => oneLine ?_⟩
        simp only [List.mem_append, List.mem_cons] at newline ⊢
        tauto
      exact ⟨start ++ (gap ++ '(' :: inside), by simpa using bracketed.named listed' rest⟩

namespace Declaration

variable {t : Text} {d : Declaration t}

theorem typed_of_named {type rest name parameters : Text} (some : type ≠ []) (oneLine : '\n' ∉ type)
    (named : Named name parameters rest) : Typed (type ++ rest) := by
  obtain ⟨front, last, rfl⟩ := (List.eq_nil_or_concat type).resolve_left some
  rw [List.concat_eq_append] at *
  exact ⟨front, last, rest, name, parameters, oneLine, by simp, named⟩

/-- No shorter part of the text has a name and a list behind it. -/
theorem IsChosen.length_le (chosen : d.IsChosen) {type rest name parameters : Text}
    (whole : t = type ++ rest) (some : type ≠ []) (oneLine : '\n' ∉ type)
    (named : Named name parameters rest) : d.type.length ≤ type.length := by
  obtain ⟨gap, u, l, blank, rfl, -, -⟩ := named.exists_listing
  exact (chosen ⟨type, gap, u, l, some, oneLine, blank, whole⟩).1

/-- The shortest type does not end in a blank, unless it is one: the gap could begin there. -/
theorem IsChosen.lastNot (chosen : d.IsChosen) (longer : ∀ c, d.type ≠ [c]) :
    LastNot isBlank d.type := by
  intro c ends
  cases blank : isBlank c with
  | false => rfl
  | true =>
    obtain ⟨front, type⟩ := List.getLast?_eq_some_iff.mp ends
    have whole : t = front ++ c :: (d.gap ++ d.listingText) :=
      (d.whole_of_type type).trans (List.append_assoc front [c] _)
    have some : front ≠ [] := by
      rintro rfl
      exact longer c type
    have oneLine := d.oneLine
    rw [type] at oneLine
    have bound := chosen.length_le whole some
      (fun newline => oneLine (List.mem_append_left _ newline))
      ((d.listing.named d.gapBlank).cons blank)
    rw [type, List.length_append] at bound
    exact absurd bound (Nat.not_succ_le_self _)

/-- On the printed line, too, no shorter type can be read. -/
theorem IsChosen.refuses (chosen : d.IsChosen) (ends : LastNot isBlank d.type) (inLine : '\n' ∉ t)
    {parameters before behind : Text} {c : Char} (type : d.type = before ++ c :: behind)
    (more : behind ≠ []) :
    nameAndParameters? (behind ++ declarator [' '] d.listing.name parameters) = none := by
  by_cases bracket : '(' ∈ behind
  · apply Option.eq_none_iff_forall_not_mem.mpr
    intro (name, list) found
    let l := d.listing
    let inside := "APIENTRYP".toList ++
      (l.apart ++ (l.name ++ ')' :: (l.space ++ '(' :: l.parameters)))
    have listed : d.gap ++ d.listingText =
        d.gap ++ '(' :: (inside ++ (");".toList ++ l.behind)) :=
      congrArg (d.gap ++ ·) (l.whole.trans (by simp [inside]))
    have whole : t = before ++ [c] ++ (behind ++ (d.gap ++ '(' ::
        (inside ++ (");".toList ++ l.behind)))) :=
      (d.whole_of_type type).trans (by rw [listed]; simp)
    have inLine' : '\n' ∉ behind ++ (d.gap ++ '(' :: inside) := by
      intro newline
      apply inLine
      rw [whole]
      simp only [List.mem_append, List.mem_cons] at newline ⊢
      tauto
    obtain ⟨list', named⟩ := (named_of_nameAndParameters? found).transfer bracket inLine'
      (by simp [inside]) d.gapBlank
    have oneLine : '\n' ∉ before ++ [c] := by
      have oneLine := d.oneLine
      rw [type, List.append_cons] at oneLine
      exact fun newline => oneLine (List.mem_append_left _ newline)
    have bound := chosen.length_le whole (by simp) oneLine named
    rw [type] at bound
    simp [more] at bound
  · exact nameAndParameters?_unbracketed allBlank_space bracket
      (not_allBlank_of_lastNot ends type more)

end Declaration

namespace Decomposition

variable {line : Text} {d : Decomposition line}

/-- More blanks behind the keyword leave nothing to read. -/
theorem IsChosen.not_typed (chosen : d.IsChosen) {blanks rest : Text} (some : blanks ≠ [])
    (blank : AllBlank blanks) (behind : d.rest = blanks ++ rest) : ¬ Typed rest := by
  intro typed
  obtain ⟨p, found⟩ := Option.isSome_iff_exists.mp (isSome_typeAt?.mpr typed)
  obtain ⟨declaration, -⟩ := Declaration.exists_of_typeAt? found
  have whole : line = d.before ++ ("typedef".toList ++ (d.blanks ++ blanks ++ rest)) := by
    calc line = d.before ++ ("typedef".toList ++ (d.blanks ++ d.rest)) := d.whole
      _ = _ := by rw [behind, List.append_assoc]
  let e : Decomposition line := ⟨d.before, d.blanks ++ blanks, rest, declaration, by simp [some],
    AllBlank.append d.allBlank blank, whole⟩
  have bound : (d.blanks ++ blanks).length ≤ d.blanks.length := ((chosen e).2 rfl).1
  have length := List.length_pos_iff.mpr some
  rw [List.length_append] at bound
  omega

/-- Of a type with more than one character, the first one is no blank: the keyword would have it. -/
theorem IsChosen.visible_head (chosen : d.IsChosen) {c : Char} {more : Text}
    (type : d.declaration.type = c :: more) (some : more ≠ []) : isBlank c = false := by
  cases blank : isBlank c with
  | false => rfl
  | true =>
    have behind : d.rest = [c] ++ (more ++ (d.declaration.gap ++ d.declaration.listingText)) :=
      d.declaration.whole_of_type type
    have oneLine := d.declaration.oneLine
    rw [type] at oneLine
    have typed := Declaration.typed_of_named some
      (fun newline => oneLine (List.mem_cons_of_mem c newline))
      (d.declaration.listing.named d.declaration.gapBlank)
    exact absurd typed (chosen.not_typed (List.cons_ne_nil c [])
      (allBlank_cons.mpr ⟨blank, by simp [AllBlank]⟩) behind)

/-- The type is a blank which the keyword left over, or it neither begins nor ends in one. -/
theorem IsChosen.blank_or_trimmed (chosen : d.IsChosen) :
    (∃ c, isBlank c = true ∧ d.declaration.type = [c]) ∨
      HeadNot isBlank d.declaration.type ∧ LastNot isBlank d.declaration.type := by
  obtain ⟨c, more, type⟩ := List.exists_cons_of_ne_nil d.declaration.typeSome
  by_cases single : more = []
  · rw [single] at type
    cases blank : isBlank c with
    | true => exact Or.inl ⟨c, blank, type⟩
    | false => exact Or.inr (by simp [type, HeadNot, LastNot, blank])
  · refine Or.inr ⟨?_, chosen.declaration.lastNot ?_⟩
    · rw [type]
      exact headNot_cons.mpr (chosen.visible_head type single)
    · intro last whole
      rw [type] at whole
      exact single (List.cons.inj whole).2

end Decomposition

/-! ### Pointer types without a return type -/

theorem ListsPointerType.typed {name parameters : Text} (lists : ListsPointerType parameters)
    (word : AllWord name) : Typed (declarator [] name parameters) := by
  obtain ⟨name', list, named⟩ := lists
  have whole : declarator [] name parameters =
      "(APIENTRYP ".toList ++ (name ++ [')']) ++ ' ' :: '(' :: (parameters ++ ");".toList) := by
    simp [declarator, printedList]
  have oneLine : '\n' ∉ "(APIENTRYP ".toList ++ (name ++ [')']) := by
    have inName : '\n' ∉ name := fun newline => absurd (word '\n' newline) (by decide)
    simp [inName]
  rw [whole]
  exact Declaration.typed_of_named (by simp) oneLine (named.cons (by decide))

/-- The first bracket of a printed listing cannot belong to a shorter pointer type, so it is the
second one which does, or one in the parameter list. -/
theorem lists_of_typed {name parameters : Text} (word : AllWord name)
    (typed : Typed (declarator [] name parameters)) :
    ListsPointerType parameters ∨ ∃ front inside name' list,
      parameters = front ++ '(' :: inside ∧ Named name' list ('(' :: (inside ++ ");".toList)) := by
  obtain ⟨front, last, behind, name', list, -, whole, behindType⟩ := typed
  obtain ⟨ws, rest, rfl, named⟩ := behindType.exists_bracket
  obtain ⟨c, before, starts⟩ := List.exists_cons_of_ne_nil (l := front ++ last :: ws) (by simp)
  have printed : '(' :: ("APIENTRYP ".toList ++ (name ++ ") ".toList) ++
      '(' :: (parameters ++ ");".toList)) = front ++ last :: ws ++ '(' :: rest := by
    simpa [declarator, printedList] using whole
  rw [starts] at printed
  obtain ⟨-, marked⟩ := List.cons.inj printed
  have notInName : '(' ∉ "APIENTRYP ".toList ++ (name ++ ") ".toList) := by
    simp [word.no_bracket]
  rcases cut_cases marked.symm notInName with ⟨-, second⟩ | ⟨inList, -, later⟩
  · exact Or.inl ⟨name', list, second ▸ named⟩
  · obtain ⟨inside, split, same⟩ := mark_in_front later (by decide)
    exact Or.inr ⟨inList, inside, name', list, split, same ▸ named⟩

/-- Where the type is a blank, no pointer type begins inside the parameter list. It would have been
read, with the whole run of blanks behind the keyword. -/
theorem Decomposition.IsChosen.not_named_inside {line : Text} {d : Decomposition line}
    (chosen : d.IsChosen) (oneLine : '\n' ∉ line) {c : Char} (blank : isBlank c = true)
    (type : d.declaration.type = [c]) {front inside name list : Text}
    (inList : strip d.declaration.parameters = front ++ '(' :: inside) :
    ¬ Named name list ('(' :: (inside ++ ");".toList)) := by
  intro named
  let l := d.declaration.listing
  obtain ⟨lead, trail, -, -, stripped⟩ := strip_cut l.parameters
  have parameters : l.parameters = lead ++ (front ++ '(' :: inside ++ trail) :=
    stripped.trans (congrArg (fun parameters => lead ++ (parameters ++ trail)) inList)
  let before := "(APIENTRYP".toList ++
    (l.apart ++ (l.name ++ ')' :: (l.space ++ '(' :: (lead ++ front))))
  have listing : d.declaration.listingText =
      before ++ '(' :: (inside ++ (trail ++ (");".toList ++ l.behind))) :=
    l.whole.trans (by simp [before, parameters])
  have behind : d.rest = c :: d.declaration.gap ++ d.declaration.listingText :=
    d.declaration.whole_of_type type
  have inLine : '\n' ∉ before ++ '(' :: (inside ++ (trail ++ (");".toList ++ l.behind))) := by
    intro newline
    apply oneLine
    rw [d.whole, behind, listing]
    exact List.mem_append_right _ (List.mem_append_right _ (List.mem_append_right _
      (List.mem_append_right _ newline)))
  have inside' : '\n' ∉ inside ++ trail := by
    intro newline
    apply inLine
    simp only [List.mem_append, List.mem_cons] at newline ⊢
    tauto
  obtain ⟨list', extended⟩ : ∃ list', Named name list'
      ('(' :: (inside ++ (trail ++ (");".toList ++ l.behind)))) := named.extend inside'
  refine chosen.not_typed (List.cons_ne_nil c _)
    (allBlank_cons.mpr ⟨blank, d.declaration.gapBlank⟩) behind ?_
  rw [listing]
  exact Declaration.typed_of_named (by simp [before])
    (fun newline => inLine (List.mem_append_left _ newline)) extended

theorem Decomposition.IsChosen.typed_iff {line : Text} {d : Decomposition line}
    (chosen : d.IsChosen) (oneLine : '\n' ∉ line) {c : Char} (blank : isBlank c = true)
    (type : d.declaration.type = [c]) :
    Typed (declarator [] d.declaration.listing.name (strip d.declaration.parameters)) ↔
      ListsPointerType (strip d.declaration.parameters) := by
  have word := d.declaration.listing.nameWord
  constructor
  · intro typed
    rcases lists_of_typed word typed with lists | ⟨front, inside, name, list, inList, named⟩
    · exact lists
    · exact absurd named (chosen.not_named_inside oneLine blank type inList)
  · intro lists
    exact lists.typed word

/-! ### Pointer types in print -/

/-- Of two blanks behind the keyword, the second one is the type only if there is no other. -/
theorem definitionAt?_blank {name parameters : Text} (some : name ≠ []) (word : AllWord name)
    (listed : ParameterText parameters) :
    definitionAt? ("typedef ".toList ++ declarator [' '] name parameters) =
      (typeAt? (declarator [] name parameters)).or
        (Option.some ⟨name, ⟨[], strip parameters⟩⟩) := by
  have after :
      "typedef".toList.isPrefixOf? ("typedef ".toList ++ declarator [' '] name parameters) =
        Option.some (' ' :: ' ' :: declarator [] name parameters) :=
    isPrefixOf?_append "typedef".toList _
  have start : HeadNot isBlank (declarator [] name parameters) := headNot_cons.mpr (by decide)
  have none : AllBlank ([] : Text) := by simp [AllBlank]
  have found : typeAt? ([' '] ++ declarator [] name parameters) =
      Option.some ⟨name, ⟨strip [' '], strip parameters⟩⟩ :=
    typeAt?_declarator (List.cons_ne_nil ' ' []) (by decide) some word none listed
      fun before c behind whole more => by
        have length := congrArg List.length whole
        have longer := List.length_pos_iff.mpr more
        simp at length
        omega
  rw [definitionAt?, after, Option.bind_some, afterMostBlanks?, if_pos (by decide),
    afterMostBlanks?_cons (by decide) start, Option.orElse_eq_or]
  exact congrArg _ found

theorem returnType_ne_nil_of_typeAt? {name parameters : Text} {p : PointerType}
    (found : typeAt? (declarator [] name parameters) = some p) : p.signature.returnType ≠ [] := by
  obtain ⟨d, -, rfl⟩ := Declaration.exists_of_typeAt? found
  obtain ⟨c, more, type⟩ := List.exists_cons_of_ne_nil d.typeSome
  have first : '(' = c := by
    have head := congrArg List.head? d.whole
    rw [type] at head
    exact Option.some.inj head
  have bracket : '(' ∈ strip d.type := by
    rw [mem_strip (by decide), type, first]
    exact List.mem_cons_self
  exact List.ne_nil_of_mem bracket

namespace Decomposition

variable {line : Text} {d : Decomposition line}

theorem parameterText_strip (d : Decomposition line)
    (listed : d.pointerType.signature.parameters ≠ []) :
    ParameterText (strip d.declaration.parameters) :=
  ⟨listed, fun newline => d.declaration.listing.listed.2 (strip_subset _ newline)⟩

/-- Reading gives back a pointer type with a return type. -/
theorem IsChosen.ofLine?_printed (chosen : d.IsChosen) (oneLine : '\n' ∉ line)
    (listed : d.pointerType.signature.parameters ≠ [])
    (starts : HeadNot isBlank d.declaration.type) (ends : LastNot isBlank d.declaration.type) :
    ofLine? ("typedef ".toList ++ (d.declaration.type ++
      declarator [' '] d.declaration.listing.name (strip d.declaration.parameters))) =
        some d.pointerType := by
  have inLine : '\n' ∉ d.rest := by
    intro newline
    apply oneLine
    rw [d.whole]
    simp [newline]
  have typed := typeAt?_declarator d.declaration.typeSome d.declaration.oneLine
    d.declaration.listing.nameSome d.declaration.listing.nameWord allBlank_space
    (d.parameterText_strip listed) fun before c behind =>
      chosen.declaration.refuses ends inLine
  rw [strip_strip] at typed
  exact ofLine?_defined ((headNot_append d.declaration.typeSome _).mpr starts) typed

/-- Without one, it depends on the parameter list. -/
theorem IsChosen.ofLine?_printed_iff (chosen : d.IsChosen) (oneLine : '\n' ∉ line)
    (listed : d.pointerType.signature.parameters ≠ []) {c : Char} (blank : isBlank c = true)
    (type : d.declaration.type = [c]) :
    ofLine? ("typedef ".toList ++
      declarator [' '] d.declaration.listing.name (strip d.declaration.parameters)) =
        some ⟨d.declaration.listing.name, ⟨[], strip d.declaration.parameters⟩⟩ ↔
      ¬ ListsPointerType (strip d.declaration.parameters) := by
  have defines := definitionAt?_blank d.declaration.listing.nameSome
    d.declaration.listing.nameWord (d.parameterText_strip listed)
  rw [strip_strip] at defines
  rw [← chosen.typed_iff oneLine blank type, ← isSome_typeAt?]
  cases other : typeAt? (declarator [] d.declaration.listing.name
      (strip d.declaration.parameters)) with
  | none =>
    rw [other, Option.none_or] at defines
    exact iff_of_true (ofLine?_of_definitionAt? defines) Bool.false_ne_true
  | some q =>
    rw [other, Option.some_or] at defines
    rw [ofLine?_of_definitionAt? defines]
    refine iff_of_false (fun same => ?_) fun refused => refused rfl
    cases same
    exact returnType_ne_nil_of_typeAt? other rfl

end Decomposition

/-- Reading gives back a pointer type which was read and printed, but for one case. -/
theorem ofLine?_canonical {line : Text} {p : PointerType} (oneLine : '\n' ∉ line)
    (found : ofLine? line = some p) (listed : p.signature.parameters ≠ []) :
    ofLine? p.canonical = some p ↔
      ¬ (p.signature.returnType = [] ∧ ListsPointerType p.signature.parameters) := by
  obtain ⟨d, chosen, rfl⟩ := Decomposition.exists_of_ofLine? found
  rcases chosen.blank_or_trimmed with ⟨c, blank, type⟩ | ⟨starts, ends⟩
  · have noType : strip d.declaration.type = [] := by
      rw [type, strip, dropBlanks, List.dropWhile_cons_of_pos blank]
      rfl
    have same : d.pointerType =
        ⟨d.declaration.listing.name, ⟨[], strip d.declaration.parameters⟩⟩ := by
      rw [Decomposition.pointerType, Declaration.pointerType, noType]
    rw [same, canonical_mk]
    exact (chosen.ofLine?_printed_iff oneLine listed blank type).trans
      (not_congr (and_iff_right rfl).symm)
  · have kept : strip d.declaration.type = d.declaration.type := strip_eq_self starts ends
    have same : d.pointerType =
        ⟨d.declaration.listing.name, ⟨d.declaration.type, strip d.declaration.parameters⟩⟩ := by
      rw [Decomposition.pointerType, Declaration.pointerType, kept]
    have printed := chosen.ofLine?_printed oneLine listed starts ends
    rw [same] at printed ⊢
    rw [canonical_mk]
    exact iff_of_true printed fun given => d.declaration.typeSome given.1

end PointerType

/-- What was read from a line is read again from its canonical line, unless it is a pointer type
without a return type whose parameter list looks like another one. -/
theorem canonical_stable (line : Text) (oneLine : '\n' ∉ line) :
    (∀ p, Prototype.ofLine? line = some p → p.signature.parameters ≠ [] →
      Prototype.ofLine? p.canonical = some p) ∧
    ∀ p, PointerType.ofLine? line = some p → p.signature.parameters ≠ [] →
      (PointerType.ofLine? p.canonical = some p ↔
        ¬ (p.signature.returnType = [] ∧
          PointerType.ListsPointerType p.signature.parameters)) :=
  ⟨fun _ found listed => Prototype.ofLine?_canonical oneLine found listed,
    fun _ found listed => PointerType.ofLine?_canonical oneLine found listed⟩

/-- A line with both a prototype and a pointer type. -/
theorem canonical_stable_callback :
    let line := "typedef void  (APIENTRYP PFNGLHOOKPROC)( int a, glHook (b) ); // glHook".toList
    let p : Prototype :=
      ⟨"glHook".toList, ⟨"typedef void  (APIENTRYP PFNGLHOOKPROC)( int a,".toList, "b)".toList⟩⟩
    let q : PointerType :=
      ⟨"PFNGLHOOKPROC".toList, ⟨"void".toList, "int a, glHook (b)".toList⟩⟩
    '\n' ∉ line ∧ Prototype.ofLine? line = some p ∧ PointerType.ofLine? line = some q ∧
      Prototype.ofLine? p.canonical = some p ∧ PointerType.ofLine? q.canonical = some q := by
  intro line p q
  have oneLine : '\n' ∉ line := by decide +kernel
  have first : Prototype.ofLine? line = some p := by decide +kernel
  have second : PointerType.ofLine? line = some q := by decide +kernel
  obtain ⟨prototypes, pointerTypes⟩ := canonical_stable line oneLine
  refine ⟨oneLine, first, second, prototypes p first (by decide +kernel),
    (pointerTypes q second (by decide +kernel)).mpr fun given => ?_⟩
  exact absurd given.1 (by decide +kernel)

/-- The blank behind the second bracket is lost in print. -/
theorem canonical_misread :
    let line := "typedef  (APIENTRYP a) ( APIENTRYP b) (c);".toList
    let p : PointerType := ⟨"a".toList, ⟨[], "APIENTRYP b) (c".toList⟩⟩
    '\n' ∉ line ∧ PointerType.ofLine? line = some p ∧ p.signature.parameters ≠ [] ∧
      PointerType.ofLine? p.canonical ≠ some p := by
  decide +kernel

end GLDispatch
