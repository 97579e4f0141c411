import GLDispatch.Proofs.Declarator
import GLDispatch.Proofs.Decomposition
import GLDispatch.Proofs.PointerDecomposition

/-! # The parenthesis behind a parameter list

The parenthesis which opens a parameter list has a partner, and a list should end there. The readers
do not count parentheses: they go for the last end of a list on the line. What they read ends at the
partner only as long as no text behind looks like the end of another list, as a second declaration
or a call in a comment does. -/
namespace GLDispatch

namespace Text

/-! ## Partners -/

/-- Text in which every parenthesis has its partner. -/
inductive Balanced : Text → Prop where
  | nil : Balanced []
  | plain {c : Char} {t : Text} : c ≠ '(' → c ≠ ')' → Balanced t → Balanced (c :: t)
  | group {inside t : Text} : Balanced inside → Balanced t →
      Balanced ('(' :: (inside ++ ')' :: t))

/-- The partner of a parenthesis in front of the text stands between the two parts. -/
def Enclosed (t between behind : Text) : Prop :=
  Balanced between ∧ t = between ++ ')' :: behind

theorem balanced_of_unbracketed {t : Text} (opening : '(' ∉ t) (closing : ')' ∉ t) :
    Balanced t := by
  induction t with
  | nil => exact .nil
  | cons c t ih =>
    rw [List.mem_cons, not_or] at opening closing
    exact .plain (Ne.symm opening.1) (Ne.symm closing.1) (ih opening.2 closing.2)

theorem Balanced.determined {x y a b : Text} (first : Balanced x) (second : Balanced y)
    (equal : x ++ ')' :: a = y ++ ')' :: b) : x = y ∧ a = b := by
  induction first generalizing y a b with
  | nil =>
    cases second with
    | nil => exact ⟨rfl, (List.cons.inj equal).2⟩
    | plain _ closing => exact absurd (List.cons.inj equal).1.symm closing
    | group => cases (List.cons.inj equal).1
  | plain opening closing _ ih =>
    cases second with
    | nil => exact absurd (List.cons.inj equal).1 closing
    | plain _ _ second =>
      obtain ⟨rfl, later⟩ := List.cons.inj equal
      obtain ⟨rfl, behind⟩ := ih second later
      exact ⟨rfl, behind⟩
    | group => exact absurd (List.cons.inj equal).1 opening
  | @group inside t _ _ inIH ih =>
    cases second with
    | nil => cases (List.cons.inj equal).1
    | plain opening => exact absurd (List.cons.inj equal).1.symm opening
    | @group inside' t' inner second =>
      have grouped : inside ++ ')' :: (t ++ ')' :: a) = inside' ++ ')' :: (t' ++ ')' :: b) := by
        simpa using equal
      obtain ⟨rfl, later⟩ := inIH inner grouped
      obtain ⟨rfl, behind⟩ := ih second later
      exact ⟨rfl, behind⟩

/-- A parenthesis has one partner at most. -/
theorem Enclosed.unique {t between behind between' behind' : Text}
    (first : Enclosed t between behind) (second : Enclosed t between' behind') :
    between = between' ∧ behind = behind' :=
  first.1.determined second.1 (first.2.symm.trans second.2)

/-! ## Ends of lists -/

/-- No list ends in the text, as far as it belongs to the line. -/
def EndsNoList (closes : Text → Bool) (t : Text) : Prop :=
  ∀ front rest, t = front ++ rest → '\n' ∉ front → closes rest = false

section Ends

variable {closes : Text → Bool} (atParenthesis : ∀ t, closes t = true → t.head? = some ')')
include atParenthesis

theorem endsNoList_of_not_mem {t : Text} (none : ')' ∉ t) : EndsNoList closes t := by
  intro front rest whole _
  cases closed : closes rest with
  | false => rfl
  | true =>
    have first := List.mem_of_head? (atParenthesis rest closed)
    exact absurd (whole ▸ List.mem_append_right front first) none

/-- The longest part ends at a given end if it is the last one on the line. Blanks around the parts
do not matter, because the number of parentheses in front of an end tells which end it is. -/
theorem strip_longest_eq_iff {t part between behind : Text}
    (found : longestNonempty? closes t = some part) (whole : t = between ++ ')' :: behind)
    (closed : closes (')' :: behind) = true) :
    strip part = strip between ↔ '\n' ∉ between ∧ EndsNoList closes behind := by
  obtain ⟨rest, whole', -, oneLine, closed'⟩ := longestNonempty?_eq_some found
  obtain ⟨rest, rfl⟩ := List.head?_eq_some_iff.mp (atParenthesis rest closed')
  have equal : part ++ ')' :: rest = between ++ ')' :: behind := whole'.symm.trans whole
  have longest {other more : Text} (inLine : '\n' ∉ other) (ends : closes more = true)
      (split : t = other ++ more) : other.length ≤ part.length :=
    length_le_of_longestNonempty? inLine ends (split ▸ found)
  constructor
  · intro same
    have count : part.count ')' = between.count ')' := by
      rw [← count_strip (by decide) part, same, count_strip (by decide)]
    obtain ⟨rfl, rfl⟩ := cut_at_count equal count
    refine ⟨oneLine, fun front more split inLine => ?_⟩
    cases ends : closes more with
    | false => rfl
    | true =>
      -- The part could have gone on up to this end.
      have inLine' : '\n' ∉ part ++ ')' :: front := by simp [oneLine, inLine]
      have bound := longest inLine' ends (by rw [whole, split]; simp)
      rw [List.length_append, List.length_cons] at bound
      omega
  · intro ⟨inLine, last⟩
    have bound := longest inLine closed whole
    -- The part is not shorter, and if it were longer it would end at a later end of a list.
    rcases List.append_eq_append_iff.mp equal with ⟨c, rfl, -⟩ | ⟨c, rfl, later⟩
    · rw [List.length_append] at bound
      rw [List.eq_nil_of_length_eq_zero (by omega : c.length = 0), List.append_nil]
    · cases c with
      | nil => rw [List.append_nil]
      | cons d c =>
        have refused := last c _ (List.cons.inj later).2 fun newline => oneLine (by simp [newline])
        rw [refused] at closed'
        cases closed'

end Ends

end Text

open Text

/-! ## Prototypes -/

namespace Prototype

theorem head?_of_closesList (t : Text) (closed : closesList t = true) : t.head? = some ')' := by
  obtain ⟨ws, behind, -, rfl⟩ := closesList_iff.mp closed
  rfl

/-- The text behind the parenthesis which opens the list. -/
def Listing.list {t : Text} (l : Listing t) : Text :=
  l.parameters ++ ')' :: (l.closing ++ ';' :: l.behind)

def Decomposition.list {line : Text} (d : Decomposition line) : Text :=
  d.declaration.listing.list

/-- The list of a chosen declaration goes on as far as any could. -/
theorem Declaration.IsChosen.longest {t : Text} {d : Declaration t} (chosen : d.IsChosen) :
    longestNonempty? closesList d.listing.list = some d.parameters := by
  let l := d.listing
  refine longestNonempty?_of_forall l.listed.1 l.listed.2
    (closesList_iff.mpr ⟨l.closing, l.behind, l.closingBlank, rfl⟩) ?_
  intro list rest whole some oneLine closed
  obtain ⟨ws, behind, blank, rfl⟩ := closesList_iff.mp closed
  let m : Listing d.listingText := ⟨l.name, l.space, list, ws, behind, l.named, l.spaceBlank,
    ⟨some, oneLine⟩, blank, by rw [← whole]; exact l.whole⟩
  exact (chosen { d with listing := m }).2 rfl

theorem Separates.no_bracket {type behind separator : Text}
    (separates : Separates type behind separator) : '(' ∉ separator := by
  cases separates with
  | convention blank => simp [blank.no_bracket]
  | blank blank => exact AllBlank.no_bracket (List.forall_mem_singleton.mpr blank)
  | asterisk => exact List.not_mem_nil

/-- Where the type has no parentheses, the list is what follows the first one on the line. -/
theorem Decomposition.list_eq {line front list : Text} (d : Decomposition line)
    (unbracketed : '(' ∉ d.prototype.signature.returnType) (whole : line = front ++ '(' :: list)
    (first : '(' ∉ front) : d.list = list := by
  let e := d.declaration
  let before := d.lead ++ (d.decoration ++ (e.type ++ (e.separator ++
    (e.gap ++ (e.listing.name ++ e.listing.space)))))
  have rest : d.rest = e.type ++ (e.separator ++ (e.gap ++
      (e.listing.name ++ (e.listing.space ++ '(' :: d.list)))) :=
    e.whole.trans (congrArg (fun t => e.type ++ (e.separator ++ (e.gap ++ t))) e.listing.whole)
  have opening : before ++ '(' :: d.list = front ++ '(' :: list := by
    calc before ++ '(' :: d.list = d.lead ++ (d.decoration ++ (e.type ++ (e.separator ++ (e.gap ++
          (e.listing.name ++ (e.listing.space ++ '(' :: d.list)))))) := by simp [before]
      _ = d.lead ++ (d.decoration ++ d.rest) :=
        congrArg (fun t => d.lead ++ (d.decoration ++ t)) rest.symm
      _ = front ++ '(' :: list := d.whole.symm.trans whole
  have inDecoration : '(' ∉ d.decoration := by
    rcases d.decorates with none | ⟨ws, -, blank, some⟩
    · simp [none]
    · simp [some, AllBlank.no_bracket blank]
  have inType : '(' ∉ e.type :=
    fun member => unbracketed ((mem_strip (by decide) e.type).mpr member)
  have inName : '(' ∉ e.listing.name := AllWord.no_bracket e.listing.named.allWord
  refine (cut_at_mark opening ?_ first).2
  simp only [before, List.mem_append, not_or]
  exact ⟨AllBlank.no_bracket d.leadBlank, inDecoration, inType, e.separates.no_bracket,
    AllBlank.no_bracket e.gapBlank, inName, AllBlank.no_bracket e.listing.spaceBlank⟩

end Prototype

/-! ## Pointer types -/

namespace PointerType

theorem head?_of_closesList (t : Text) (closed : closesList t = true) : t.head? = some ')' := by
  obtain ⟨behind, rfl⟩ := closesList_iff.mp closed
  rfl

/-- The text behind the parenthesis which opens the list. -/
def Listing.list {t : Text} (l : Listing t) : Text :=
  l.parameters ++ (");".toList ++ l.behind)

def Decomposition.list {line : Text} (d : Decomposition line) : Text :=
  d.declaration.listing.list

/-- The list of a chosen declaration goes on as far as any could. -/
theorem Declaration.IsChosen.longest {t : Text} {d : Declaration t} (chosen : d.IsChosen) :
    longestNonempty? closesList d.listing.list = some d.parameters := by
  let l := d.listing
  refine longestNonempty?_of_forall l.listed.1 l.listed.2
    (closesList_iff.mpr ⟨l.behind, rfl⟩) ?_
  intro list rest whole some oneLine closed
  obtain ⟨behind, rfl⟩ := closesList_iff.mp closed
  let m : Listing d.listingText := ⟨l.apart, l.name, l.space, list, behind, l.apartSome,
    l.apartBlank, l.nameSome, l.nameWord, l.spaceBlank, ⟨some, oneLine⟩,
    by rw [← whole]; exact l.whole⟩
  exact (chosen { d with listing := m }).2 rfl

/-- Where the line begins with a definition, none which begins further right is chosen. -/
theorem Decomposition.IsChosen.before_eq_nil {line : Text} {d : Decomposition line}
    (chosen : d.IsChosen) (defines : (definitionAt? line).isSome) : d.before = [] := by
  obtain ⟨p, found⟩ := Option.isSome_iff_exists.mp defines
  obtain ⟨u, after, reads⟩ := Option.bind_eq_some_iff.mp found
  obtain ⟨blanks, rest, some, blank, rfl, typed, -⟩ := longest_of_afterMostBlanks? reads
  obtain ⟨declaration, -⟩ := Declaration.exists_of_typeAt? typed
  have whole := (List.append_eq_of_isPrefixOf?_eq_some after).symm
  let e : Decomposition line := ⟨[], blanks, rest, declaration, some, blank, whole⟩
  exact List.eq_nil_of_length_eq_zero (Nat.le_zero.mp (chosen e).1)

/-- Where nothing in front of the name has parentheses, the list is what follows the second one on
the line. -/
theorem Decomposition.list_eq {line front name list : Text} (d : Decomposition line)
    (inFront : '(' ∉ d.before) (unbracketed : '(' ∉ d.pointerType.signature.returnType)
    (whole : line = front ++ '(' :: (name ++ '(' :: list)) (first : '(' ∉ front)
    (second : '(' ∉ name) : d.list = list := by
  let e := d.declaration
  let before := d.before ++ ("typedef".toList ++ (d.blanks ++ (e.type ++ e.gap)))
  let inside := "APIENTRYP".toList ++
    (e.listing.apart ++ (e.listing.name ++ ')' :: e.listing.space))
  have rest : d.rest = e.type ++ (e.gap ++ '(' :: (inside ++ '(' :: d.list)) := by
    refine e.whole.trans (congrArg (fun t => e.type ++ (e.gap ++ t)) (e.listing.whole.trans ?_))
    simp [inside, Decomposition.list, Listing.list, e]
  have opening : before ++ '(' :: (inside ++ '(' :: d.list) =
      front ++ '(' :: (name ++ '(' :: list) := by
    calc before ++ '(' :: (inside ++ '(' :: d.list) = d.before ++ ("typedef".toList ++ (d.blanks ++
          (e.type ++ (e.gap ++ '(' :: (inside ++ '(' :: d.list))))) := by simp [before]
      _ = d.before ++ ("typedef".toList ++ (d.blanks ++ d.rest)) :=
        congrArg (fun t => d.before ++ ("typedef".toList ++ (d.blanks ++ t))) rest.symm
      _ = front ++ '(' :: (name ++ '(' :: list) := d.whole.symm.trans whole
  have inType : '(' ∉ e.type :=
    fun member => unbracketed ((mem_strip (by decide) e.type).mpr member)
  have inBefore : '(' ∉ before := by
    simp only [before, List.mem_append, not_or]
    exact ⟨inFront, by decide, AllBlank.no_bracket d.allBlank, inType,
      AllBlank.no_bracket e.gapBlank⟩
  have notInside : '(' ∉ inside := by
    have inApart := AllBlank.no_bracket e.listing.apartBlank
    have inName := AllWord.no_bracket e.listing.nameWord
    have inSpace := AllBlank.no_bracket e.listing.spaceBlank
    simp [inside, inApart, inName, inSpace]
  exact (cut_at_mark (cut_at_mark opening inBefore first).2 notInside second).2

end PointerType

/-- The parameters which are read from a line are the text between the parenthesis which opens the
list and its partner, where a semicolon stands behind the partner, if and only if this text is all
on one line and no list ends behind it on the line. -/
theorem parameters_eq_enclosed_iff (line : Text) :
    (∀ p, Prototype.ofLine? line = some p →
      ∀ d : Prototype.Decomposition line, d.IsChosen →
      ∀ between ws rest, AllBlank ws → Enclosed d.list between (ws ++ ';' :: rest) →
        (p.signature.parameters = strip between ↔
          '\n' ∉ between ∧ EndsNoList Prototype.closesList (ws ++ ';' :: rest))) ∧
    ∀ p, PointerType.ofLine? line = some p →
      ∀ d : PointerType.Decomposition line, d.IsChosen →
      ∀ between rest, Enclosed d.list between (';' :: rest) →
        (p.signature.parameters = strip between ↔
          '\n' ∉ between ∧ EndsNoList PointerType.closesList (';' :: rest)) := by
  constructor
  · intro p found d chosen between ws rest blank ⟨_, whole⟩
    obtain ⟨e, chosen', rfl⟩ := Prototype.Decomposition.exists_of_ofLine? found
    rw [chosen'.prototype_eq chosen]
    exact strip_longest_eq_iff Prototype.head?_of_closesList chosen.declaration.longest whole
      (Prototype.closesList_iff.mpr ⟨ws, rest, blank, rfl⟩)
  · intro p found d chosen between rest ⟨_, whole⟩
    obtain ⟨e, chosen', rfl⟩ := PointerType.Decomposition.exists_of_ofLine? found
    rw [chosen'.pointerType_eq chosen]
    exact strip_longest_eq_iff PointerType.head?_of_closesList chosen.declaration.longest whole
      (PointerType.closesList_iff.mpr ⟨rest, rfl⟩)

/-- A comment behind the semicolon does not matter if it holds no parenthesis. -/
theorem parameters_eq_enclosed_iff_commented :
    let line := "GLAPI void APIENTRY glClear (GLbitfield mask); // buffers".toList
    let defining := "typedef void (APIENTRYP PFNGLCLEARPROC) (GLbitfield mask); // buffers".toList
    let mask := "GLbitfield mask".toList
    let rest := " // buffers".toList
    (∃ p, Prototype.ofLine? line = some p ∧ ∃ d : Prototype.Decomposition line, d.IsChosen ∧
      Enclosed d.list mask (';' :: rest) ∧ p.signature.parameters = strip mask) ∧
    ∃ p, PointerType.ofLine? defining = some p ∧
      ∃ d : PointerType.Decomposition defining, d.IsChosen ∧
        Enclosed d.list mask (';' :: rest) ∧ p.signature.parameters = strip mask := by
  intro line defining mask rest
  have balanced : Balanced mask := balanced_of_unbracketed (by decide) (by decide)
  have inLine : '\n' ∉ mask := by decide
  have unclosed : ')' ∉ ';' :: rest := by decide
  constructor
  · let p : Prototype := ⟨"glClear".toList, ⟨"void".toList, mask⟩⟩
    have found : Prototype.ofLine? line = some p := by decide +kernel
    obtain ⟨d, chosen, same⟩ := Prototype.Decomposition.exists_of_ofLine? found
    have whole : line =
        "GLAPI void APIENTRY glClear ".toList ++ '(' :: (mask ++ ')' :: ';' :: rest) := by
      decide +kernel
    have list := d.list_eq (by rw [same]; decide) whole (by decide)
    refine ⟨p, found, d, chosen, ⟨balanced, list⟩, ?_⟩
    exact ((parameters_eq_enclosed_iff line).1 p found d chosen mask [] rest (by simp [AllBlank])
      ⟨balanced, list⟩).mpr
        ⟨inLine, endsNoList_of_not_mem Prototype.head?_of_closesList unclosed⟩
  · let p : PointerType := ⟨"PFNGLCLEARPROC".toList, ⟨"void".toList, mask⟩⟩
    have found : PointerType.ofLine? defining = some p := by decide +kernel
    obtain ⟨d, chosen, same⟩ := PointerType.Decomposition.exists_of_ofLine? found
    have whole : defining = "typedef void ".toList ++ '(' :: ("APIENTRYP PFNGLCLEARPROC) ".toList ++
        '(' :: (mask ++ ')' :: ';' :: rest)) := by decide +kernel
    have first : '(' ∉ d.before := by
      rw [chosen.before_eq_nil (by decide +kernel)]
      exact List.not_mem_nil
    have list := d.list_eq first (by rw [same]; decide) whole (by decide) (by decide)
    refine ⟨p, found, d, chosen, ⟨balanced, list⟩, ?_⟩
    exact ((parameters_eq_enclosed_iff defining).2 p found d chosen mask rest
      ⟨balanced, list⟩).mpr
        ⟨inLine, endsNoList_of_not_mem PointerType.head?_of_closesList unclosed⟩

/-- A call in a comment behind the declaration becomes part of the parameter list. -/
theorem parameters_past_enclosed :
    let line := "GLAPI void APIENTRY glClear (GLbitfield mask); /* was glClear(); */".toList
    ∃ p, Prototype.ofLine? line = some p ∧ ∃ d : Prototype.Decomposition line, d.IsChosen ∧
      ∃ between rest, Enclosed d.list between (';' :: rest) ∧
        p.signature.parameters ≠ strip between := by
  intro line
  let mask := "GLbitfield mask".toList
  let rest := " /* was glClear(); */".toList
  let p : Prototype :=
    ⟨"glClear".toList, ⟨"void".toList, "GLbitfield mask); /* was glClear(".toList⟩⟩
  have found : Prototype.ofLine? line = some p := by decide +kernel
  obtain ⟨d, chosen, same⟩ := Prototype.Decomposition.exists_of_ofLine? found
  have whole : line =
      "GLAPI void APIENTRY glClear ".toList ++ '(' :: (mask ++ ')' :: ';' :: rest) := by
    decide +kernel
  have list := d.list_eq (by rw [same]; decide) whole (by decide)
  have balanced : Balanced mask := balanced_of_unbracketed (by decide) (by decide)
  exact ⟨p, found, d, chosen, mask, rest, ⟨balanced, list⟩, by decide⟩

end GLDispatch
