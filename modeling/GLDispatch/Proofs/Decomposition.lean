import GLDispatch.Proofs.Grammar
import Mathlib.Data.List.Basic

/-! # The prototype on a line

A line which declares a function can often be cut into the parts of a prototype in several ways. The
reader finds a prototype as soon as there is one way, and takes the parts of one of them: with the
decoration if any has it, then with the shortest return type, then with the longest parameter list.
Between two decompositions which agree in these respects there is no difference. -/
namespace GLDispatch.Prototype
open Text

/-! ## Decompositions -/

/-- Either the character in front of a position belongs to a word or the one behind it. -/
def WordBoundary (before behind : Text) : Prop :=
  before.getLast?.any isWord ≠ behind.head?.any isWord

/-- What separates a return type from the text behind: the calling convention as a word of its own,
one blank, or nothing at all if the type ends in an asterisk. -/
inductive Separates (type behind : Text) : Text → Prop where
  | convention {ws : Text} : AllBlank ws →
      WordBoundary (type ++ ws) ("APIENTRY".toList ++ behind) →
      WordBoundary (type ++ ws ++ "APIENTRY".toList) behind →
      Separates type behind (ws ++ "APIENTRY".toList)
  | blank {c : Char} : isBlank c = true → Separates type behind [c]
  | asterisk : type.getLast? = some '*' → Separates type behind []

/-- A name with its parameter list, and whatever stands behind. -/
structure Listing (t : Text) where
  name : Text
  space : Text
  parameters : Text
  closing : Text
  behind : Text
  named : EntryPointName name
  spaceBlank : AllBlank space
  listed : ParameterText parameters
  closingBlank : AllBlank closing
  whole : t = name ++ (space ++ '(' :: (parameters ++ ')' :: (closing ++ ';' :: behind)))

/-- A return type, and a listing behind it. -/
structure Declaration (t : Text) where
  type : Text
  separator : Text
  gap : Text
  listingText : Text
  listing : Listing listingText
  starts : type.head?.any startsType = true
  oneLine : '\n' ∉ type
  gapBlank : AllBlank gap
  separates : Separates type (gap ++ listingText) separator
  whole : t = type ++ (separator ++ (gap ++ listingText))

/-- The decoration with the blanks behind it. -/
def IsDecoration (t : Text) : Prop :=
  ∃ ws, ws ≠ [] ∧ AllBlank ws ∧ t = "GLAPI".toList ++ ws

/-- All parts of a line with a prototype. -/
structure Decomposition (line : Text) where
  lead : Text
  decoration : Text
  rest : Text
  declaration : Declaration rest
  leadBlank : AllBlank lead
  decorates : decoration = [] ∨ IsDecoration decoration
  whole : line = lead ++ (decoration ++ rest)

namespace Declaration

variable {t : Text} (d : Declaration t)

def parameters : Text :=
  d.listing.parameters

def prototype : Prototype :=
  ⟨d.listing.name, ⟨strip d.type, strip d.parameters⟩⟩

/-- No other one has a shorter type, and none with a type as short has a longer parameter list. -/
def IsChosen : Prop :=
  ∀ other : Declaration t, d.type.length ≤ other.type.length ∧
    (other.type.length = d.type.length → other.parameters.length ≤ d.parameters.length)

end Declaration

namespace Decomposition

variable {line : Text} (d : Decomposition line)

def Decorated : Prop :=
  d.decoration ≠ []

def type : Text :=
  d.declaration.type

def parameters : Text :=
  d.declaration.parameters

def prototype : Prototype :=
  d.declaration.prototype

/-- It has the decoration if any other one has. Of those which are like it in this, no other one has
a shorter type, and none with a type as short has a longer parameter list. -/
def IsChosen : Prop :=
  ∀ other : Decomposition line, (other.Decorated → d.Decorated) ∧
    ((other.Decorated ↔ d.Decorated) → d.type.length ≤ other.type.length ∧
      (other.type.length = d.type.length → other.parameters.length ≤ d.parameters.length))

end Decomposition

/-! ## Separators and gaps -/

theorem any_isWord_append_blanks (t : Text) {ws : Text} (blank : AllBlank ws) (some : ws ≠ []) :
    (t ++ ws).getLast?.any isWord = false := by
  obtain ⟨front, c, rfl⟩ := (List.eq_nil_or_concat ws).resolve_left some
  have visible : isWord c = false := not_isWord_of_isBlank (blank c (by simp))
  rw [List.concat_eq_append, ← List.append_assoc, List.getLast?_concat]
  exact visible

theorem wordBoundary_convention {front ws : Text} {last : Char} (blank : AllBlank ws)
    (behind : Text) : WordBoundary (front ++ [last] ++ ws) ("APIENTRY".toList ++ behind) ↔
      (ws = [] → isWord last = false) := by
  have word : ("APIENTRY".toList ++ behind).head?.any isWord = true := rfl
  rw [WordBoundary, word, Ne, Bool.not_eq_true]
  by_cases none : ws = []
  · simp [none]
  · rw [any_isWord_append_blanks _ blank none]
    simp [none]

theorem convention_wordBoundary (before behind : Text) :
    WordBoundary (before ++ "APIENTRY".toList) behind ↔ HeadNot isWord behind := by
  have word : (before ++ "APIENTRY".toList).getLast?.any isWord = true := by
    rw [List.getLast?_append]
    rfl
  rw [WordBoundary, word, headNot_iff, Ne, eq_comm, Bool.not_eq_true, Bool.not_eq_true']

theorem Separates.gap {front between u separator : Text} {last : Char}
    (separates : Separates (front ++ [last]) (between ++ u) separator) (blank : AllBlank between)
    (start : HeadNot isBlank u) : Gap last (separator ++ (between ++ u)) u := by
  cases separates with
  | @convention ws blank' apart apart' =>
    rw [List.append_assoc]
    exact .convention blank' ((wordBoundary_convention blank' _).mp apart) blank
      ((convention_wordBoundary _ _).mp apart') start
  | @blank c blank' =>
    have blanks : AllBlank (c :: between) := allBlank_cons.mpr ⟨blank', blank⟩
    exact .blanks blanks (fun none => by cases none) start
  | asterisk ends =>
    rw [List.getLast?_concat] at ends
    exact .blanks blank (fun _ => Option.some.inj ends) start

theorem Gap.exists_separator {last : Char} {t u : Text} (gap : Gap last t u) (front : Text) :
    ∃ separator between, AllBlank between ∧
      Separates (front ++ [last]) (between ++ u) separator ∧ t = separator ++ (between ++ u) := by
  cases gap with
  | @convention ws ws' _ blank apart blank' apart' start =>
    exact ⟨ws ++ "APIENTRY".toList, ws', blank',
      .convention blank ((wordBoundary_convention blank _).mpr apart)
        ((convention_wordBoundary _ _).mpr apart'), by simp⟩
  | @blanks ws _ blank apart start =>
    cases ws with
    | nil => exact ⟨[], [], blank, .asterisk (by simp [apart rfl]), rfl⟩
    | cons c ws =>
      obtain ⟨first, rest⟩ := allBlank_cons.mp blank
      exact ⟨[c], ws, rest, .blank first, rfl⟩

/-! ## Listings -/

namespace Listing

theorem called {t : Text} (l : Listing t) : Called l.name l.parameters t :=
  ⟨l.named, l.listed, l.space, l.closing, l.behind, l.spaceBlank, l.closingBlank, l.whole⟩

/-- The reader gets the name, and a parameter list at least as long. -/
theorem exists_longest {t : Text} (l : Listing t) : ∃ parameters,
    nameAndParameters? t = some (l.name, parameters) ∧
      l.parameters.length ≤ parameters.length := by
  obtain ⟨rest, closed, reads⟩ := nameAndParameters?_called l.called
  obtain ⟨⟨name, parameters⟩, found⟩ :=
    Option.isSome_iff_exists.mp (nameAndParameters?_isSome l.called)
  obtain ⟨_, longest, same⟩ := Option.map_eq_some_iff.mp (reads.symm.trans found)
  cases same
  exact ⟨parameters, found, length_le_of_longestNonempty? l.listed.2 closed longest⟩

/-- A listing is determined by the length of its parameter list. -/
theorem determined {t u : Text} (same : t = u) (l : Listing t) (m : Listing u)
    (length : l.parameters.length = m.parameters.length) :
    l.name = m.name ∧ l.parameters = m.parameters := by
  subst same
  have bracket (u : Text) : HeadNot isBlank ('(' :: u) := headNot_cons.mpr (by decide)
  obtain ⟨name, lists⟩ := cut_unique (p := isWord) (l.whole.symm.trans m.whole) l.named.allWord
    m.named.allWord (headNot_isWord_opening l.spaceBlank _) (headNot_isWord_opening m.spaceBlank _)
  obtain ⟨-, lists⟩ :=
    cut_unique (p := isBlank) lists l.spaceBlank m.spaceBlank (bracket _) (bracket _)
  exact ⟨name, (List.append_inj (List.cons.inj lists).2 length).1⟩

end Listing

theorem Called.exists_listing {name parameters t : Text} (h : Called name parameters t) :
    ∃ l : Listing t, l.name = name ∧ l.parameters = parameters := by
  obtain ⟨named, listed, ws, ws', behind, blank, blank', whole⟩ := h
  exact ⟨⟨name, ws, parameters, ws', behind, named, blank, listed, blank', whole⟩, rfl, rfl⟩

/-! ## Declarations -/

namespace Declaration

variable {t : Text}

theorem type_ne_nil (d : Declaration t) : d.type ≠ [] := by
  intro none
  have starts := d.starts
  rw [none] at starts
  cases starts

theorem whole_of_type (d : Declaration t) {type : Text} (same : d.type = type) :
    t = type ++ (d.separator ++ (d.gap ++ d.listingText)) :=
  same ▸ d.whole

/-- Behind the last character of the type there is a gap, up to the listing. -/
theorem exists_last (d : Declaration t) : ∃ front last, d.type = front ++ [last] ∧
    t = front ++ last :: (d.separator ++ (d.gap ++ d.listingText)) ∧
      Gap last (d.separator ++ (d.gap ++ d.listingText)) d.listingText := by
  obtain ⟨front, last, ends⟩ := (List.eq_nil_or_concat d.type).resolve_left d.type_ne_nil
  rw [List.concat_eq_append] at ends
  have start : HeadNot isBlank d.listingText := by
    intro c first
    cases d.listing.called.head?.symm.trans first
    decide
  refine ⟨front, last, ends, ?_, (ends ▸ d.separates).gap d.gapBlank start⟩
  exact (d.whole_of_type ends).trans (List.append_assoc front [last] _)

theorem typed (d : Declaration t) : Typed t := by
  obtain ⟨front, last, ends, whole, gap⟩ := d.exists_last
  have starts : t.head?.any startsType = true := by
    rw [whole, List.append_cons, ← ends, List.head?_append_of_ne_nil _ d.type_ne_nil]
    exact d.starts
  exact ⟨starts, front, last, _, d.listingText, d.listing.name, d.parameters, ends ▸ d.oneLine,
    whole, gap, d.listing.called⟩

theorem isSome_typeAt? (d : Declaration t) : (typeAt? t).isSome :=
  Prototype.isSome_typeAt?.mpr d.typed

/-- Types of one length are one type, with one listing behind it. -/
theorem determined (d e : Declaration t) (length : d.type.length = e.type.length) :
    d.type = e.type ∧ d.listingText = e.listingText := by
  obtain ⟨type, behind⟩ := List.append_inj (d.whole.symm.trans e.whole) length
  obtain ⟨front, last, ends, -, gap⟩ := d.exists_last
  obtain ⟨front', last', ends', -, gap'⟩ := e.exists_last
  have lasts : last = last' := by
    rw [ends, ends'] at type
    exact List.singleton_inj.mp (List.append_inj' type rfl).2
  have start := nameStart?_of_gap gap d.listing.called.head?
  rw [behind, lasts] at start
  exact ⟨type, Option.some.inj
    (start.symm.trans (nameStart?_of_gap gap' e.listing.called.head?))⟩

theorem prototype_eq {u : Text} (same : t = u) (d : Declaration t) (e : Declaration u)
    (type : d.type.length = e.type.length)
    (parameters : d.parameters.length = e.parameters.length) : d.prototype = e.prototype := by
  subst same
  obtain ⟨sameType, listing⟩ := d.determined e type
  obtain ⟨name, list⟩ := d.listing.determined listing e.listing parameters
  rw [prototype, prototype, name, sameType, Declaration.parameters, list, Declaration.parameters]

/-- The type which the reader accepts is no longer than that of a declaration. -/
theorem length_le_type (d : Declaration t) {part : Text} {called : Text × Text}
    (found : shortest? (fun last rest => (nameStart? last rest).bind nameAndParameters?) t =
      some (part, called)) : part.length ≤ d.type.length := by
  obtain ⟨front, last, ends, whole, gap⟩ := d.exists_last
  rw [whole] at found
  rw [ends]
  refine length_le_of_shortest? found ?_
  rw [nameStart?_of_gap gap d.listing.called.head?, Option.bind_some]
  exact nameAndParameters?_isSome d.listing.called

/-- The reader takes the parts of a chosen declaration. -/
theorem exists_of_typeAt? {p : Prototype} (found : typeAt? t = some p) :
    ∃ d : Declaration t, d.IsChosen ∧ d.prototype = p := by
  rw [typeAt?] at found
  split at found
  next starts =>
    obtain ⟨⟨type, name, parameters⟩, shortest, rfl⟩ := Option.map_eq_some_iff.mp found
    obtain ⟨last, rest, whole, ends, accepted, oneLine⟩ := shortest?_eq_some shortest
    obtain ⟨front, rfl⟩ := List.getLast?_eq_some_iff.mp ends
    obtain ⟨u, start, longest⟩ := Option.bind_eq_some_iff.mp accepted
    obtain ⟨l, rfl, rfl⟩ := (called_of_nameAndParameters? longest).exists_listing
    obtain ⟨separator, gap, blank, separates, rfl⟩ :=
      (gap_of_nameStart? start).exists_separator front
    have starts' : (front ++ [last]).head?.any startsType = true := by
      rwa [whole, List.head?_append_of_ne_nil _ (by simp)] at starts
    let d : Declaration t :=
      ⟨front ++ [last], separator, gap, u, l, starts', oneLine, blank, separates, whole⟩
    refine ⟨d, fun other => ⟨other.length_le_type shortest, fun length => ?_⟩, rfl⟩
    -- With a type as short, the other listing begins where this one does, and is read alike.
    obtain ⟨parameters, found', longer⟩ := other.listing.exists_longest
    have same : nameAndParameters? u = nameAndParameters? other.listingText :=
      congrArg nameAndParameters? (d.determined other length.symm).2
    have list : (l.name, l.parameters) = (other.listing.name, parameters) :=
      Option.some.inj (longest.symm.trans (same.trans found'))
    exact Nat.le_trans longer (Nat.le_of_eq (congrArg (·.2.length) list.symm))
  next => cases found

theorem IsChosen.preferred {u : Text} {d : Declaration t} (chosen : d.IsChosen) (same : u = t)
    (other : Declaration u) : d.type.length ≤ other.type.length ∧
      (other.type.length = d.type.length → other.parameters.length ≤ d.parameters.length) := by
  subst same
  exact chosen other

end Declaration

/-! ## Lines -/

/-- The text behind the decoration. -/
def undecorated? (line : Text) : Option Text :=
  ("GLAPI".toList.isPrefixOf? (dropBlanks line)).bind afterBlanks?

theorem ofLine?_eq (line : Text) :
    ofLine? line = ((undecorated? line).bind typeAt?).or (typeAt? (dropBlanks line)) := by
  rw [ofLine?, Option.orElse_eq_or]
  rfl

theorem exists_of_undecorated? {line rest : Text} (found : undecorated? line = some rest) :
    ∃ lead decoration, AllBlank lead ∧ IsDecoration decoration ∧
      line = lead ++ (decoration ++ rest) := by
  obtain ⟨t, after, blanks⟩ := Option.bind_eq_some_iff.mp found
  obtain ⟨lead, blank, whole, -⟩ := dropBlanks_cut line
  obtain ⟨ws, some, blank', rfl, -⟩ := afterBlanks?_eq_some_iff.mp blanks
  refine ⟨lead, "GLAPI".toList ++ ws, blank, ⟨ws, some, blank', rfl⟩, ?_⟩
  rw [← List.append_eq_of_isPrefixOf?_eq_some after] at whole
  rw [whole, List.append_assoc]

theorem IsDecoration.ne_nil {t : Text} (h : IsDecoration t) : t ≠ [] := by
  obtain ⟨ws, -, -, rfl⟩ := h
  simp

namespace Decomposition

variable {line : Text}

theorem dropBlanks_eq (d : Decomposition line) : dropBlanks line = d.decoration ++ d.rest := by
  have start : HeadNot isBlank (d.decoration ++ d.rest) := by
    rcases d.decorates with none | ⟨ws, -, -, whole⟩
    · rw [none]
      exact d.declaration.typed.headNot
    · rw [whole]
      exact headNot_cons.mpr (by decide)
  calc dropBlanks line = dropBlanks (d.lead ++ (d.decoration ++ d.rest)) :=
        congrArg dropBlanks d.whole
    _ = d.decoration ++ d.rest := by
        rw [dropBlanks_append d.leadBlank, dropBlanks_of_headNot start]

theorem dropBlanks_of_not_decorated (d : Decomposition line) (plain : ¬ d.Decorated) :
    dropBlanks line = d.rest := by
  rw [d.dropBlanks_eq, Classical.not_not.mp plain, List.nil_append]

theorem undecorated?_of_decorated (d : Decomposition line) (decorated : d.Decorated) :
    undecorated? line = some d.rest := by
  obtain ⟨ws, some, blank, whole⟩ := d.decorates.resolve_left decorated
  rw [undecorated?, d.dropBlanks_eq, whole, List.append_assoc, isPrefixOf?_append,
    Option.bind_some]
  exact afterBlanks?_eq_some_iff.mpr ⟨ws, some, blank, rfl, d.declaration.typed.headNot⟩

/-- The decoration is all that decides where the declaration begins. -/
theorem rest_eq (d e : Decomposition line) (same : d.Decorated ↔ e.Decorated) :
    d.rest = e.rest := by
  by_cases decorated : d.Decorated
  · exact Option.some.inj ((d.undecorated?_of_decorated decorated).symm.trans
      (e.undecorated?_of_decorated (same.mp decorated)))
  · exact (d.dropBlanks_of_not_decorated decorated).symm.trans
      (e.dropBlanks_of_not_decorated fun other => decorated (same.mpr other))

theorem isSome_bind_typeAt? (d : Decomposition line) (decorated : d.Decorated) :
    ((undecorated? line).bind typeAt?).isSome := by
  rw [d.undecorated?_of_decorated decorated, Option.bind_some]
  exact d.declaration.isSome_typeAt?

theorem isSome_ofLine? (d : Decomposition line) : (ofLine? line).isSome := by
  rw [ofLine?_eq, Option.isSome_or, Bool.or_eq_true]
  by_cases decorated : d.Decorated
  · exact Or.inl (d.isSome_bind_typeAt? decorated)
  · rw [d.dropBlanks_of_not_decorated decorated]
    exact Or.inr d.declaration.isSome_typeAt?

/-- A decomposition is chosen if its declaration is, and if it has the decoration when it can. -/
theorem isChosen_of_declaration {d : Decomposition line} (chosen : d.declaration.IsChosen)
    (decorated : ∀ other : Decomposition line, other.Decorated → d.Decorated) : d.IsChosen := by
  intro other
  refine ⟨decorated other, fun same => ?_⟩
  exact chosen.preferred (other.rest_eq d same) other.declaration

/-- The declaration of a chosen decomposition is chosen behind the decoration. -/
theorem IsChosen.declaration {d : Decomposition line} (chosen : d.IsChosen) :
    d.declaration.IsChosen :=
  fun other => (chosen { d with declaration := other }).2 Iff.rfl

/-- The reader takes the parts of a chosen decomposition. -/
theorem exists_of_ofLine? {p : Prototype} (found : ofLine? line = some p) :
    ∃ d : Decomposition line, d.IsChosen ∧ d.prototype = p := by
  rw [ofLine?_eq, Option.or_eq_some_iff] at found
  rcases found with decorated | ⟨none, plain⟩
  · obtain ⟨rest, behind, typed⟩ := Option.bind_eq_some_iff.mp decorated
    obtain ⟨lead, decoration, blank, decorates, whole⟩ := exists_of_undecorated? behind
    obtain ⟨declaration, chosen, same⟩ := Declaration.exists_of_typeAt? typed
    let d : Decomposition line :=
      ⟨lead, decoration, rest, declaration, blank, Or.inr decorates, whole⟩
    exact ⟨d, isChosen_of_declaration (d := d) chosen fun _ _ => decorates.ne_nil, same⟩
  · obtain ⟨lead, blank, whole, -⟩ := dropBlanks_cut line
    obtain ⟨declaration, chosen, same⟩ := Declaration.exists_of_typeAt? plain
    let d : Decomposition line :=
      ⟨lead, [], dropBlanks line, declaration, blank, Or.inl rfl, whole⟩
    refine ⟨d, isChosen_of_declaration (d := d) chosen fun other decorated => ?_, same⟩
    have accepted := other.isSome_bind_typeAt? decorated
    rw [none] at accepted
    cases accepted

/-- There is no difference between chosen decompositions. -/
theorem IsChosen.prototype_eq {d e : Decomposition line} (first : d.IsChosen)
    (second : e.IsChosen) : d.prototype = e.prototype := by
  have decorated : d.Decorated ↔ e.Decorated := ⟨(second d).1, (first e).1⟩
  obtain ⟨shorter, longer⟩ := (first e).2 decorated.symm
  obtain ⟨shorter', longer'⟩ := (second d).2 decorated
  have type : d.type.length = e.type.length := Nat.le_antisymm shorter shorter'
  exact d.declaration.prototype_eq (d.rest_eq e decorated) e.declaration type
    (Nat.le_antisymm (longer' type) (longer type.symm))

end Decomposition

/-- A line has a prototype if and only if it can be decomposed into the parts of one, and the
prototype is that of the chosen decomposition. -/
theorem ofLine?_eq_chosen (line : Text) :
    ((ofLine? line).isSome ↔ Nonempty (Decomposition line)) ∧
      ∀ p, ofLine? line = some p ↔ ∃ d : Decomposition line, d.IsChosen ∧ d.prototype = p := by
  constructor
  · constructor
    · intro found
      obtain ⟨p, found⟩ := Option.isSome_iff_exists.mp found
      obtain ⟨d, -⟩ := Decomposition.exists_of_ofLine? found
      exact ⟨d⟩
    · intro ⟨d⟩
      exact d.isSome_ofLine?
  · intro p
    constructor
    · exact Decomposition.exists_of_ofLine?
    · intro ⟨d, chosen, same⟩
      obtain ⟨q, found⟩ := Option.isSome_iff_exists.mp d.isSome_ofLine?
      obtain ⟨e, chosen', same'⟩ := Decomposition.exists_of_ofLine? found
      rw [found, ← same', chosen'.prototype_eq chosen, same]

/-- What looks like a decoration is the return type where there is no other, and a parameter list
goes on as far as it can. -/
example : ofLine? "GLAPI glA(int); f(char);".toList =
    some ⟨"glA".toList, ⟨"GLAPI".toList, "int); f(char".toList⟩⟩ := by
  decide +kernel

end GLDispatch.Prototype
