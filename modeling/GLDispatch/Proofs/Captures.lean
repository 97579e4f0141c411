import GLDispatch.Proofs.Decomposition
import GLDispatch.Proofs.PointerDecomposition
import GLDispatch.Proofs.Regions

/-! # What lines can say

Everything in the table of a header was captured from its lines, and a capture has a form of its
own, whatever the line: names are words, and types and parameter lists lie on one line and have no
blanks at their ends. Storing captures under their guards and keys keeps these forms. -/
namespace GLDispatch
open Text

/-- A word, and not the empty one. -/
def Word (t : Text) : Prop :=
  t ≠ [] ∧ AllWord t

/-- A text on one line that neither begins nor ends with a blank. -/
structure Text.Trimmed (t : Text) : Prop where
  oneLine : '\n' ∉ t
  starts : HeadNot isBlank t
  ends : LastNot isBlank t

structure Signature.Clean (s : Signature) : Prop where
  returnType : Trimmed s.returnType
  parameters : Trimmed s.parameters

/-- The name of an extension: `ARB_` and at least one letter, digit or underscore of ASCII. -/
def ExtensionName (name : Text) : Prop :=
  ∃ tail, tail ≠ [] ∧ (∀ c ∈ tail, ExtensionNote.isNameChar c = true) ∧
    name = "ARB_".toList ++ tail

/-- What a line can say about the guard of its region. -/
def Entry.Clean : Entry → Prop
  | extension name => ExtensionName name
  | function key signature => Word key ∧ signature.Clean

structure Definition.Clean (d : Definition) : Prop where
  guard : GuardText d.guard
  includes : ∀ name ∈ d.includes, ExtensionName name
  distinct : d.functions.keys.Nodup
  functions : ∀ entry ∈ d.functions.entries, Word entry.1 ∧ entry.2.Clean

/-- The guards of the table are distinct, and each has a clean definition which is its own. -/
structure DefinitionTable.Clean (table : DefinitionTable) : Prop where
  distinct : table.keys.Nodup
  definitions : ∀ entry ∈ table.entries, entry.2.guard = entry.1 ∧ entry.2.Clean

/-- Looking a guard up gives a clean definition which is its own. -/
structure DefinitionTable.WellFormed (table : DefinitionTable) : Prop where
  guard : ∀ guard d, table.get? guard = some d → d.guard = guard
  definition : ∀ guard d, table.get? guard = some d → d.Clean

theorem Definition.Clean.allWord {d : Definition} (clean : d.Clean) {key : Text}
    (member : key ∈ d.functions.keys) : AllWord key := by
  obtain ⟨entry, held, rfl⟩ := List.mem_map.mp member
  exact (clean.functions entry held).1.2

theorem Definition.Clean.signature {d : Definition} (clean : d.Clean) {key : Text} {s : Signature}
    (held : d.functions.get? key = some s) : s.Clean :=
  (clean.functions _ ((OrderedMap.get?_eq_some_iff _ _ _).mp held)).2

/-! ## Lines -/

theorem Text.trimmed_strip {t : Text} (oneLine : '\n' ∉ t) : Trimmed (strip t) where
  oneLine := fun newline => oneLine (strip_subset _ newline)
  starts := headNot_strip t
  ends := lastNot_strip t

theorem Directive.guardText_of_opening? {line guard : Text} (found : opening? line = some guard) :
    GuardText guard := by
  obtain ⟨-, t, -, found, -⟩ := leftmost_of_search? found
  exact (openingAt?_eq_some_iff.mp found).1

theorem ExtensionNote.extensionName_of_ofLine? {line name : Text}
    (found : ofLine? line = some name) : ExtensionName name := by
  obtain ⟨rest, -, found⟩ := Option.bind_eq_some_iff.mp found
  dsimp only at found
  split at found
  next => cases found
  next some =>
    cases found
    exact ⟨rest.takeWhile isNameChar, by simpa using some,
      List.all_eq_true.mp List.all_takeWhile, rfl⟩

theorem Entry.note_of_extension {line name : Text} (found : ofLine? line = some (.extension name)) :
    ExtensionNote.ofLine? line = some name := by
  rw [ofLine?] at found
  split at found
  next name note =>
    cases found
    exact note
  next =>
    split at found
    next => cases found
    next =>
      obtain ⟨p, -, same⟩ := Option.map_eq_some_iff.mp found
      cases same

/-- A function is read from a type on one line, a name and a parameter list. -/
theorem Entry.exists_of_function {line key : Text} {s : Signature}
    (found : ofLine? line = some (.function key s)) :
    key ≠ [] ∧ AllWord key ∧ ∃ type parameters, '\n' ∉ type ∧ ParameterText parameters ∧
      s = ⟨strip type, strip parameters⟩ := by
  rw [ofLine?] at found
  split at found
  next => cases found
  next =>
    split at found
    next p prototype =>
      cases found
      obtain ⟨d, -, rfl⟩ := Prototype.Decomposition.exists_of_ofLine? prototype
      let l := d.declaration.listing
      exact ⟨l.named.ne_nil, l.named.allWord, d.type, d.parameters, d.declaration.oneLine,
        l.listed, rfl⟩
    next =>
      obtain ⟨p, pointerType, same⟩ := Option.map_eq_some_iff.mp found
      cases same
      obtain ⟨d, -, rfl⟩ := PointerType.Decomposition.exists_of_ofLine? pointerType
      let l := d.declaration.listing
      exact ⟨l.nameSome, l.nameWord, d.type, d.parameters, d.declaration.oneLine, l.listed, rfl⟩

theorem Entry.clean_of_ofLine? {line : Text} {entry : Entry} (found : ofLine? line = some entry) :
    entry.Clean := by
  cases entry with
  | extension => exact ExtensionNote.extensionName_of_ofLine? (note_of_extension found)
  | function =>
    obtain ⟨some, word, type, parameters, inType, inParameters, rfl⟩ := exists_of_function found
    exact ⟨⟨some, word⟩, trimmed_strip inType, trimmed_strip inParameters.2⟩

/-! ## Headers -/

/-- The opening line of a region and its contents are lines of the header. -/
theorem Region.lines_of_mem {lines : List Text} {r : Region} (member : r ∈ ofLines lines) :
    (∃ line ∈ lines, Directive.opening? line = some r.guard) ∧ ∀ line ∈ r.contents, line ∈ lines := by
  induction lines using Region.ofLines.induct with
  | case1 =>
    rw [ofLines] at member
    cases member
  | case2 line rest closed ih =>
    rw [ofLines, closed] at member
    obtain ⟨⟨opening, inRest, opens⟩, contents⟩ := ih member
    exact ⟨⟨opening, List.mem_cons_of_mem line inRest, opens⟩,
      fun inside held => List.mem_cons_of_mem line (contents inside held)⟩
  | case3 line rest guard opens endless =>
    rw [ofLines, opens] at member
    simp only [endless, List.mem_singleton] at member
    subst member
    exact ⟨⟨line, List.mem_cons_self, opens⟩,
      fun inside held => List.mem_cons_of_mem line (List.mem_filter.mp held).1⟩
  | case4 line rest guard opens m found ih =>
    rw [ofLines, opens] at member
    simp only [found] at member
    rcases List.mem_cons.mp member with rfl | later
    · exact ⟨⟨line, List.mem_cons_self, opens⟩, fun inside held =>
        List.mem_cons_of_mem line (List.mem_of_mem_take (List.mem_filter.mp held).1)⟩
    · obtain ⟨⟨opening, inRest, opens'⟩, contents⟩ := ih later
      exact ⟨⟨opening, List.mem_cons_of_mem line (List.mem_of_mem_drop inRest), opens'⟩,
        fun inside held =>
          List.mem_cons_of_mem line (List.mem_of_mem_drop (contents inside held))⟩

/-- The entry of a region behind an extension. -/
theorem Definition.mem_of_mem_includes {guard name : Text} {entries : List Entry}
    (included : name ∈ (ofEntries guard entries).includes) : .extension name ∈ entries := by
  obtain ⟨entry, inEntries, extension⟩ := List.mem_filterMap.mp included
  cases entry with
  | extension => cases extension; exact inEntries
  | function => cases extension

/-- The entry of a region behind a signature. -/
theorem Definition.mem_of_mem_functions {guard key : Text} {entries : List Entry} {s : Signature}
    (held : (key, s) ∈ (ofEntries guard entries).functions.entries) :
    .function key s ∈ entries := by
  rw [← OrderedMap.get?_eq_some_iff, ofEntries, OrderedMap.get?_lastValues] at held
  obtain ⟨entry, inEntries, function⟩ :=
    List.mem_filterMap.mp (OrderedMap.mem_of_lastValue? held)
  cases entry with
  | extension => cases function
  | function => cases function; exact inEntries

theorem Definition.clean_ofEntries {guard : Text} {entries : List Entry}
    (isGuard : GuardText guard) (clean : ∀ entry ∈ entries, entry.Clean) :
    (ofEntries guard entries).Clean where
  guard := isGuard
  includes := fun _ included => clean _ (mem_of_mem_includes included)
  distinct := OrderedMap.nodup_keys _
  functions := fun _ held => clean _ (mem_of_mem_functions held)

/-- Each definition of a header is made of the entries on some of its lines. -/
theorem Parsed.exists_entries_lines {lines : List Text} {guard : Text} {d : Definition}
    (defined : (ofLines lines).table.get? guard = some d) :
    GuardText guard ∧ ∃ entries, d = .ofEntries guard entries ∧
      ∀ entry ∈ entries, ∃ line ∈ lines, Entry.ofLine? (trimEnding line) = some entry := by
  rw [table_ofLines] at defined
  obtain ⟨member, rfl⟩ := DefinitionTable.get?_ofExcerpts defined
  refine ⟨?_, _, rfl, ?_⟩
  · obtain ⟨excerpt, inHeader, rfl⟩ := List.mem_map.mp member
    obtain ⟨r, isRegion, rfl⟩ := List.mem_map.mp inHeader
    obtain ⟨⟨line, -, opens⟩, -⟩ := Region.lines_of_mem isRegion
    exact Directive.guardText_of_opening? opens
  · intro entry inEntries
    obtain ⟨excerpt, selected, inExcerpt⟩ := List.mem_flatMap.mp inEntries
    obtain ⟨r, isRegion, rfl⟩ := List.mem_map.mp (List.mem_filter.mp selected).1
    obtain ⟨trimmed, inRegion, found⟩ := List.mem_filterMap.mp inExcerpt
    obtain ⟨line, inHeader, rfl⟩ :=
      List.mem_map.mp ((Region.lines_of_mem isRegion).2 trimmed inRegion)
    exact ⟨line, inHeader, found⟩

theorem Parsed.wellFormed (lines : List Text) : (ofLines lines).table.WellFormed where
  guard := by
    intro guard d held
    obtain ⟨-, entries, rfl, -⟩ := exists_entries_lines held
    rfl
  definition := by
    intro guard d held
    obtain ⟨isGuard, entries, rfl, read⟩ := exists_entries_lines held
    refine Definition.clean_ofEntries isGuard fun entry member => ?_
    obtain ⟨line, -, found⟩ := read entry member
    exact Entry.clean_of_ofLine? found

/-- The line of the header behind a signature. -/
theorem Parsed.exists_line_of_signature {lines : List Text} {guard key : Text} {d : Definition}
    {s : Signature} (defined : (ofLines lines).table.get? guard = some d)
    (held : d.functions.get? key = some s) :
    ∃ line ∈ lines, Entry.ofLine? (trimEnding line) = some (.function key s) := by
  obtain ⟨-, entries, rfl, read⟩ := exists_entries_lines defined
  exact read _ (Definition.mem_of_mem_functions ((OrderedMap.get?_eq_some_iff _ _ _).mp held))

/-- Whatever the lines of a header, its table is clean. -/
theorem Parsed.clean_table (lines : List Text) : (ofLines lines).table.Clean where
  distinct := OrderedMap.nodup_keys _
  definitions := by
    intro entry member
    have defined := (OrderedMap.get?_eq_some_iff _ entry.1 entry.2).mpr member
    exact ⟨(wellFormed lines).guard _ _ defined, (wellFormed lines).definition _ _ defined⟩

end GLDispatch
