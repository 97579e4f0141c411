import GLDispatch.Proofs.Grammar
import Mathlib.Data.List.Basic

/-! # The pointer type on a line

The definition of a pointer type may stand anywhere on a line, and even where it stands the line can
often be cut into its parts in several ways. The reader finds one as soon as there is one way, and
takes the parts of the preferred one: the leftmost definition, then the one with the most blanks
behind its keyword, then with the shortest return type, then with the longest parameter list. An
earlier keyword that begins no definition does not stand in the way of a later one. -/
namespace GLDispatch.PointerType
open Text

/-! ## Decompositions -/

/-- A name in its brackets with a parameter list, and whatever stands behind. -/
structure Listing (t : Text) where
  apart : Text
  name : Text
  space : Text
  parameters : Text
  behind : Text
  apartSome : apart ≠ []
  apartBlank : AllBlank apart
  nameSome : name ≠ []
  nameWord : AllWord name
  spaceBlank : AllBlank space
  listed : ParameterText parameters
  whole : t = "(APIENTRYP".toList ++
    (apart ++ (name ++ ')' :: (space ++ '(' :: (parameters ++ (");".toList ++ behind)))))

/-- A return type, which may be blank, and a listing behind it. -/
structure Declaration (t : Text) where
  type : Text
  gap : Text
  listingText : Text
  listing : Listing listingText
  typeSome : type ≠ []
  oneLine : '\n' ∉ type
  gapBlank : AllBlank gap
  whole : t = type ++ (gap ++ listingText)

/-- All parts of a line with a pointer type. -/
structure Decomposition (line : Text) where
  before : Text
  blanks : Text
  rest : Text
  declaration : Declaration rest
  blanksSome : blanks ≠ []
  allBlank : AllBlank blanks
  whole : line = before ++ ("typedef".toList ++ (blanks ++ rest))

namespace Declaration

variable {t : Text} (d : Declaration t)

def parameters : Text :=
  d.listing.parameters

def pointerType : PointerType :=
  ⟨d.listing.name, ⟨strip d.type, strip d.parameters⟩⟩

/-- No other one has a shorter type, and none with a type as short has a longer parameter list. -/
def IsChosen : Prop :=
  ∀ other : Declaration t, d.type.length ≤ other.type.length ∧
    (other.type.length = d.type.length → other.parameters.length ≤ d.parameters.length)

end Declaration

namespace Decomposition

variable {line : Text} (d : Decomposition line)

def type : Text :=
  d.declaration.type

def parameters : Text :=
  d.declaration.parameters

def pointerType : PointerType :=
  d.declaration.pointerType

/-- No other one begins further left. Of those which begin here, no other one has more blanks behind
the keyword; of those with as many, none has a shorter type; and none with a type as short has a
longer parameter list. -/
def IsChosen : Prop :=
  ∀ other : Decomposition line, d.before.length ≤ other.before.length ∧
    (other.before.length = d.before.length → other.blanks.length ≤ d.blanks.length ∧
      (other.blanks.length = d.blanks.length → d.type.length ≤ other.type.length ∧
        (other.type.length = d.type.length → other.parameters.length ≤ d.parameters.length)))

end Decomposition

/-! ## Listings -/

theorem headNot_isBlank_convention (u : Text) : HeadNot isBlank ("(APIENTRYP".toList ++ u) :=
  headNot_cons.mpr (by decide)

namespace Listing

variable {t : Text}

theorem named (l : Listing t) {gap : Text} (blank : AllBlank gap) :
    Named l.name l.parameters (gap ++ t) :=
  ⟨l.nameSome, l.nameWord, l.listed, gap, l.apart, l.space, l.behind, blank, l.apartSome,
    l.apartBlank, l.spaceBlank, by rw [← l.whole]⟩

theorem headNot (l : Listing t) : HeadNot isBlank t := by
  rw [l.whole]
  exact headNot_isBlank_convention _

/-- The reader gets the name, and a parameter list at least as long. -/
theorem exists_longest (l : Listing t) {gap : Text} (blank : AllBlank gap) : ∃ parameters,
    nameAndParameters? (gap ++ t) = some (l.name, parameters) ∧
      l.parameters.length ≤ parameters.length := by
  obtain ⟨rest, closed, reads⟩ := nameAndParameters?_named (l.named blank)
  obtain ⟨⟨name, parameters⟩, found⟩ :=
    Option.isSome_iff_exists.mp (isSome_nameAndParameters? (l.named blank))
  obtain ⟨_, longest, same⟩ := Option.map_eq_some_iff.mp (reads.symm.trans found)
  cases same
  exact ⟨parameters, found, length_le_of_longestNonempty? l.listed.2 closed longest⟩

/-- A listing is determined by the length of its parameter list. -/
theorem determined {u : Text} (same : t = u) (l : Listing t) (m : Listing u)
    (length : l.parameters.length = m.parameters.length) :
    l.name = m.name ∧ l.parameters = m.parameters := by
  subst same
  have start {name : Text} (some : name ≠ []) (word : AllWord name) (u : Text) :
      HeadNot isBlank (name ++ u) := by
    rw [headNot_append some]
    exact fun c first => not_isBlank_of_isWord (word c (List.mem_of_head? first))
  have bracket (u : Text) : HeadNot isWord (')' :: u) := headNot_cons.mpr (by decide)
  have opening (u : Text) : HeadNot isBlank ('(' :: u) := headNot_cons.mpr (by decide)
  have inside := List.append_cancel_left (l.whole.symm.trans m.whole)
  obtain ⟨-, names⟩ := cut_unique (p := isBlank) inside l.apartBlank m.apartBlank
    (start l.nameSome l.nameWord _) (start m.nameSome m.nameWord _)
  obtain ⟨name, lists⟩ :=
    cut_unique (p := isWord) names l.nameWord m.nameWord (bracket _) (bracket _)
  obtain ⟨-, lists⟩ := cut_unique (p := isBlank) (List.cons.inj lists).2 l.spaceBlank m.spaceBlank
    (opening _) (opening _)
  exact ⟨name, (List.append_inj (List.cons.inj lists).2 length).1⟩

end Listing

theorem Named.exists_listing {name parameters t : Text} (h : Named name parameters t) :
    ∃ gap u, ∃ l : Listing u, AllBlank gap ∧ t = gap ++ u ∧ l.name = name ∧
      l.parameters = parameters := by
  obtain ⟨some, word, listed, gap, apart, space, behind, blank, some', blank', blank'', whole⟩ := h
  exact ⟨gap, _, ⟨apart, name, space, parameters, behind, some', blank', some, word, blank'',
    listed, rfl⟩, blank, whole, rfl, rfl⟩

/-! ## Declarations -/

namespace Declaration

variable {t : Text}

theorem whole_of_type (d : Declaration t) {type : Text} (same : d.type = type) :
    t = type ++ (d.gap ++ d.listingText) :=
  same ▸ d.whole

theorem exists_last (d : Declaration t) : ∃ front last, d.type = front ++ [last] ∧
    t = front ++ last :: (d.gap ++ d.listingText) := by
  obtain ⟨front, last, ends⟩ := (List.eq_nil_or_concat d.type).resolve_left d.typeSome
  rw [List.concat_eq_append] at ends
  exact ⟨front, last, ends, (d.whole_of_type ends).trans (List.append_assoc front [last] _)⟩

theorem typed (d : Declaration t) : Typed t := by
  obtain ⟨front, last, ends, whole⟩ := d.exists_last
  exact ⟨front, last, _, d.listing.name, d.parameters, ends ▸ d.oneLine, whole,
    d.listing.named d.gapBlank⟩

theorem isSome_typeAt? (d : Declaration t) : (typeAt? t).isSome :=
  PointerType.isSome_typeAt?.mpr d.typed

/-- Types of one length are one type, with one listing behind it. -/
theorem determined (d e : Declaration t) (length : d.type.length = e.type.length) :
    d.type = e.type ∧ d.listingText = e.listingText := by
  obtain ⟨type, behind⟩ := List.append_inj (d.whole.symm.trans e.whole) length
  exact ⟨type, (cut_unique (p := isBlank) behind d.gapBlank e.gapBlank d.listing.headNot
    e.listing.headNot).2⟩

theorem pointerType_eq {u : Text} (same : t = u) (d : Declaration t) (e : Declaration u)
    (type : d.type.length = e.type.length)
    (parameters : d.parameters.length = e.parameters.length) : d.pointerType = e.pointerType := by
  subst same
  obtain ⟨sameType, listing⟩ := d.determined e type
  obtain ⟨name, list⟩ := d.listing.determined listing e.listing parameters
  rw [pointerType, pointerType, name, sameType, Declaration.parameters, list,
    Declaration.parameters]

/-- The type which the reader accepts is no longer than that of a declaration. -/
theorem length_le_type (d : Declaration t) {part : Text} {named : Text × Text}
    (found : shortest? (fun _ rest => nameAndParameters? rest) t = some (part, named)) :
    part.length ≤ d.type.length := by
  obtain ⟨front, last, ends, whole⟩ := d.exists_last
  rw [whole] at found
  rw [ends]
  exact length_le_of_shortest? found (isSome_nameAndParameters? (d.listing.named d.gapBlank))

/-- The reader takes the parts of a chosen declaration. -/
theorem exists_of_typeAt? {p : PointerType} (found : typeAt? t = some p) :
    ∃ d : Declaration t, d.IsChosen ∧ d.pointerType = p := by
  obtain ⟨⟨type, name, parameters⟩, shortest, rfl⟩ := Option.map_eq_some_iff.mp found
  obtain ⟨last, rest, whole, ends, accepted, oneLine⟩ := shortest?_eq_some shortest
  obtain ⟨gap, u, l, blank, rfl, rfl, rfl⟩ :=
    (named_of_nameAndParameters? accepted).exists_listing
  have some : type ≠ [] := by
    rintro rfl
    cases ends
  let d : Declaration t := ⟨type, gap, u, l, some, oneLine, blank, whole⟩
  refine ⟨d, fun other => ⟨other.length_le_type shortest, fun length => ?_⟩, rfl⟩
  -- With a type as short, the other listing begins where this one does, and is read alike.
  obtain ⟨parameters, found', longer⟩ := other.listing.exists_longest blank
  have same : nameAndParameters? (gap ++ u) = nameAndParameters? (gap ++ other.listingText) :=
    congrArg (nameAndParameters? <| gap ++ ·) (d.determined other length.symm).2
  have list : (l.name, l.parameters) = (other.listing.name, parameters) :=
    Option.some.inj (accepted.symm.trans (same.trans found'))
  exact Nat.le_trans longer (Nat.le_of_eq (congrArg (·.2.length) list.symm))

theorem IsChosen.preferred {u : Text} {d : Declaration t} (chosen : d.IsChosen) (same : u = t)
    (other : Declaration u) : d.type.length ≤ other.type.length ∧
      (other.type.length = d.type.length → other.parameters.length ≤ d.parameters.length) := by
  subst same
  exact chosen other

end Declaration

/-! ## Lines -/

namespace Decomposition

variable {line : Text}

theorem isSome_ofLine? (d : Decomposition line) : (ofLine? line).isSome :=
  PointerType.isSome_ofLine?.mpr
    ⟨d.before, d.blanks, d.rest, d.blanksSome, d.allBlank, d.whole, d.declaration.typed⟩

theorem isSome_bind_typeAt? (d : Decomposition line) :
    (definitionAt? ("typedef".toList ++ (d.blanks ++ d.rest))).isSome := by
  rw [definitionAt?, isPrefixOf?_append, Option.bind_some]
  exact isSome_afterMostBlanks?.mpr
    ⟨d.blanks, d.rest, d.blanksSome, d.allBlank, rfl, d.declaration.isSome_typeAt?⟩

/-- What stands behind the keyword is determined by its place. -/
theorem behind_eq (d e : Decomposition line) (before : d.before.length = e.before.length) :
    d.blanks ++ d.rest = e.blanks ++ e.rest :=
  List.append_cancel_left (List.append_inj (d.whole.symm.trans e.whole) before).2

theorem rest_eq (d e : Decomposition line) (before : d.before.length = e.before.length)
    (blanks : d.blanks.length = e.blanks.length) : d.rest = e.rest :=
  (List.append_inj (d.behind_eq e before) blanks).2

/-- The declaration of a chosen decomposition is chosen behind the keyword. -/
theorem IsChosen.declaration {d : Decomposition line} (chosen : d.IsChosen) :
    d.declaration.IsChosen :=
  fun other => ((chosen { d with declaration := other }).2 rfl).2 rfl

/-- The reader takes the parts of a chosen decomposition. -/
theorem exists_of_ofLine? {p : PointerType} (found : ofLine? line = some p) :
    ∃ d : Decomposition line, d.IsChosen ∧ d.pointerType = p := by
  obtain ⟨before, behind, whole, defines, leftmost⟩ := leftmost_of_search? found
  obtain ⟨u, after, reads⟩ := Option.bind_eq_some_iff.mp defines
  obtain ⟨blanks, rest, some, blank, rfl, typed, longest⟩ := longest_of_afterMostBlanks? reads
  obtain ⟨declaration, chosen, same⟩ := Declaration.exists_of_typeAt? typed
  rw [← List.append_eq_of_isPrefixOf?_eq_some after] at whole
  let d : Decomposition line := ⟨before, blanks, rest, declaration, some, blank, whole⟩
  refine ⟨d, fun other => ⟨?_, fun sameBefore => ⟨?_, fun sameBlanks => ?_⟩⟩, same⟩
  · exact leftmost other.before _ other.whole other.isSome_bind_typeAt?
  · exact longest other.blanks other.rest other.allBlank (d.behind_eq other sameBefore.symm)
      other.declaration.isSome_typeAt?
  · exact chosen.preferred (other.rest_eq d sameBefore sameBlanks) other.declaration

/-- There is no difference between chosen decompositions. -/
theorem IsChosen.pointerType_eq {d e : Decomposition line} (first : d.IsChosen)
    (second : e.IsChosen) : d.pointerType = e.pointerType := by
  have before : d.before.length = e.before.length :=
    Nat.le_antisymm (first e).1 (second d).1
  have ⟨fewer, short⟩ := (first e).2 before.symm
  have ⟨fewer', short'⟩ := (second d).2 before
  have blanks : d.blanks.length = e.blanks.length := Nat.le_antisymm fewer' fewer
  have ⟨shorter, long⟩ := short blanks.symm
  have ⟨shorter', long'⟩ := short' blanks
  have type : d.type.length = e.type.length := Nat.le_antisymm shorter shorter'
  exact d.declaration.pointerType_eq (d.rest_eq e before blanks) e.declaration type
    (Nat.le_antisymm (long' type) (long type.symm))

/-- The reader takes the parts of any chosen decomposition. -/
theorem IsChosen.ofLine?_eq {d : Decomposition line} (chosen : d.IsChosen) :
    ofLine? line = some d.pointerType := by
  obtain ⟨p, found⟩ := Option.isSome_iff_exists.mp d.isSome_ofLine?
  obtain ⟨e, chosen', same⟩ := exists_of_ofLine? found
  rw [found, ← same, chosen'.pointerType_eq chosen]

end Decomposition

/-- A line has a pointer type if and only if it can be decomposed into the parts of one, and the
pointer type is that of the chosen decomposition. -/
theorem ofLine?_eq_leftmost (line : Text) :
    ((ofLine? line).isSome ↔ Nonempty (Decomposition line)) ∧
      ∀ p, ofLine? line = some p ↔ ∃ d : Decomposition line, d.IsChosen ∧ d.pointerType = p := by
  constructor
  · constructor
    · intro found
      obtain ⟨p, found⟩ := Option.isSome_iff_exists.mp found
      obtain ⟨d, -⟩ := Decomposition.exists_of_ofLine? found
      exact ⟨d⟩
    · intro ⟨d⟩
      exact d.isSome_ofLine?
  · intro p
    constructor
    · exact Decomposition.exists_of_ofLine?
    · intro ⟨d, chosen, same⟩
      rw [chosen.ofLine?_eq, same]

/-- The first keyword begins no definition here, and a blank is left over for the return type. -/
example : ofLine? "typedefs; typedef  (APIENTRYP a) (b);".toList =
    some ⟨"a".toList, ⟨[], "b".toList⟩⟩ := by
  decide +kernel

end GLDispatch.PointerType
