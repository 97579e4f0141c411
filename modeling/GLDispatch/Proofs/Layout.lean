import GLDispatch.Proofs.EntryLine
import GLDispatch.Proofs.Regions
import GLDispatch.Proofs.TrailingBlanks

/-! # The layout of vendor headers

Headers as vendors print them: regions whose bodies nest conditionals properly, with other lines
between the regions and between the entries. Parsing gives back what was printed. -/
namespace GLDispatch
open Text

/-- What the body of a region consists of, at each level. -/
inductive Body where
  | done
  | entry (e : EntryLine) (rest : Body)
  | noise (line : Text) (opensNot : Directive.opensConditional line = false)
      (closesNot : Directive.closesConditional line = false)
      (noEntry : Entry.ofLine? line = none) (rest : Body)
  | block (opening : Text) (opens : Directive.opensConditional opening = true) (inner : Body)
      (closing : Text) (closes : Directive.closesConditional closing = true) (rest : Body)

namespace Body

def lines : Body → List Text
  | done => []
  | entry e rest => e.line :: rest.lines
  | noise line _ _ _ rest => line :: rest.lines
  | block opening _ inner closing _ rest => opening :: (inner.lines ++ closing :: rest.lines)

/-- The entries at all levels. -/
def entries : Body → List Entry
  | done => []
  | entry e rest => e.entry :: rest.entries
  | noise _ _ _ _ rest => rest.entries
  | block _ _ inner _ _ rest => inner.entries ++ rest.entries

end Body

/-- The line in front of a region. -/
def Directive.printed (guard : Text) : Text :=
  "#ifndef ".toList ++ guard

/-- A region, or a line which opens none. -/
inductive Part where
  | outside (line : Text) (opensNone : Directive.opening? line = none)
  | region (guard : Text) (isGuard : GuardText guard) (body : Body) (closing : Text)
      (closes : Directive.closesConditional closing = true)

namespace Part

def lines : Part → List Text
  | outside line _ => [line]
  | region guard _ body closing _ => Directive.printed guard :: (body.lines ++ [closing])

def excerpt? : Part → Option Excerpt
  | outside _ _ => none
  | region guard _ body _ _ => some ⟨guard, body.entries⟩

end Part

abbrev Document := List Part

namespace Document

def lines (d : Document) : List Text :=
  d.flatMap Part.lines

def excerpts (d : Document) : List Excerpt :=
  d.filterMap Part.excerpt?

end Document

/-! ## Lines without their endings -/

namespace Directive

theorem weight_trimEnding (line : Text) : weight (trimEnding line) = weight line := by
  rw [weight, ignoresEnd_opensConditional.trimEnding, ignoresEnd_closesConditional.trimEnding,
    weight]

theorem weight_of_opens {line : Text} (opens : opensConditional line = true) : weight line = 1 := by
  rw [weight, if_pos opens]

theorem weight_of_closes {line : Text} (closes : closesConditional line = true) :
    weight line = -1 := by
  have other : opensConditional line = false := by
    obtain ⟨rest, rfl⟩ := List.isPrefixOf_iff_prefix.mp closes
    rfl
  simp [weight, other, closes]

theorem weight_of_neither {line : Text} (opensNot : opensConditional line = false)
    (closesNot : closesConditional line = false) : weight line = 0 := by
  simp [weight, opensNot, closesNot]

end Directive

/-! ## Opening lines -/

namespace Directive

theorem opening?_printed {guard : Text} (isGuard : GuardText guard) :
    opening? (printed guard) = some guard := by
  apply search?_eq_some
  have whole : printed guard = "#ifndef".toList ++ ([' '] ++ (guard ++ [])) := by
    rw [List.append_nil]
    rfl
  exact openingAt?_eq_some_iff.mpr
    ⟨isGuard, [' '], [], by simp, allBlank_space, by simp [HeadNot], whole⟩

end Directive

/-! ## Bodies -/

namespace Region

theorem firstSum?_trimEnding {target : Int} (some : ¬ target = 0) (line : Text) (rest : List Text) :
    firstSum? target (trimEnding line :: rest) =
      (firstSum? (target - Directive.weight line) rest).map (· + 1) := by
  rw [firstSum?_cons, if_neg some, Directive.weight_trimEnding]

theorem entries_append (first second : List Text) :
    entries (first ++ second) = entries first ++ entries second := by
  rw [entries, contentsOf, List.filter_append, List.filterMap_append]
  rfl

theorem entries_trimEnding (line : Text) (rest : List Text) :
    entries (trimEnding line :: rest) =
      (if Directive.weight line = 0 then (Entry.ofLine? line).toList else []) ++
        entries rest := by
  rw [entries_cons, Directive.weight_trimEnding, Entry.ignoresEnd_ofLine?.trimEnding]

end Region

theorem EntryLine.weight_line (e : EntryLine) : Directive.weight e.line = 0 :=
  Directive.weight_of_neither e.opensConditional_line e.closesConditional_line

namespace Body

/-- A body moves the depth of conditionals nowhere below its start, and leaves it where it was. -/
theorem firstSum?_append (b : Body) {target : Int} (below : target < 0) (rest : List Text) :
    Region.firstSum? target (b.lines.map trimEnding ++ rest) =
      (Region.firstSum? target rest).map (· + b.lines.length) := by
  have some : ¬ target = 0 := Int.ne_of_lt below
  induction b generalizing target rest with
  | done => simp [lines]
  | entry e more ih =>
    rw [lines, List.map_cons, List.cons_append, Region.firstSum?_trimEnding some, e.weight_line,
      Int.sub_zero, ih below rest some, Option.map_map]
    rfl
  | noise line opensNot closesNot noEntry more ih =>
    have level := Directive.weight_of_neither opensNot closesNot
    rw [lines, List.map_cons, List.cons_append, Region.firstSum?_trimEnding some, level,
      Int.sub_zero, ih below rest some, Option.map_map]
    rfl
  | block opening opens inner closing closes more ihInner ihMore =>
    have inBlock : target - 1 < 0 := by omega
    have someInBlock : ¬ target - 1 = 0 := Int.ne_of_lt inBlock
    have behind : target - 1 - -1 = target := by omega
    rw [lines, List.map_cons, List.cons_append, Region.firstSum?_trimEnding some,
      Directive.weight_of_opens opens, List.map_append, List.append_assoc,
      ihInner inBlock _ someInBlock, List.map_cons, List.cons_append,
      Region.firstSum?_trimEnding someInBlock, Directive.weight_of_closes closes, behind,
      ihMore below rest some]
    cases Region.firstSum? target rest with
    | none => rfl
    | some n =>
      simp only [Option.map_some, List.length_cons, List.length_append]
      congr 1
      omega

theorem entries_lines (b : Body) : Region.entries (b.lines.map trimEnding) = b.entries := by
  induction b with
  | done => rfl
  | entry e more ih =>
    rw [lines, List.map_cons, Region.entries_trimEnding, if_pos e.weight_line, e.ofLine?_line, ih]
    rfl
  | noise line opensNot closesNot noEntry more ih =>
    have level := Directive.weight_of_neither opensNot closesNot
    rw [lines, List.map_cons, Region.entries_trimEnding, if_pos level, noEntry, ih]
    rfl
  | block opening opens inner closing closes more ihInner ihMore =>
    rw [lines, List.map_cons, Region.entries_trimEnding, Directive.weight_of_opens opens,
      List.map_append, Region.entries_append, ihInner, List.map_cons, Region.entries_trimEnding,
      Directive.weight_of_closes closes, ihMore]
    rfl

end Body

/-! ## Documents -/

/-- The region in print, its contents as the scanner sees them. -/
def Part.region? : Part → Option Region
  | outside _ _ => none
  | region guard _ body _ _ =>
    some ⟨guard, Region.contentsOf (body.lines.map trimEnding), true⟩

theorem Part.excerpt_region? (part : Part) : part.region?.map Region.excerpt = part.excerpt? := by
  cases part with
  | outside line opensNone => rfl
  | region guard isGuard body closing closes =>
    have entries := body.entries_lines
    rw [region?, excerpt?, ← entries]
    rfl

theorem Part.events_region? (part : Part) :
    part.region?.map Region.events =
      part.excerpt?.map fun excerpt => [.entered excerpt.guard, .left excerpt.guard] := by
  cases part <;> rfl

namespace Document

/-- The closing line in print is the one which closes the region for the scanner. -/
theorem extent?_body (body : Body) {closing : Text}
    (closes : Directive.closesConditional closing = true) (rest : List Text) :
    Region.extent? (body.lines.map trimEnding ++ [trimEnding closing] ++ rest) =
      some (body.lines.map trimEnding ++ [trimEnding closing]).length := by
  have behind : (-1 : Int) - -1 = 0 := by decide
  rw [Region.extent?, ← List.append_cons, body.firstSum?_append (by decide),
    Region.firstSum?_trimEnding (by decide), Directive.weight_of_closes closes, behind,
    Region.firstSum?_zero]
  simp [Nat.add_comm]

theorem ofLines_regions (d : Document) :
    Region.ofLines (d.lines.map trimEnding) = d.filterMap Part.region? := by
  induction d with
  | nil => rw [lines, List.flatMap_nil, List.map_nil, Region.ofLines, List.filterMap_nil]
  | cons part rest ih =>
    rw [lines, List.flatMap_cons]
    cases part with
    | outside line opensNone =>
      rw [Part.lines, List.singleton_append, List.map_cons, Region.ofLines,
        Directive.ignoresEnd_opening?.trimEnding, opensNone]
      exact ih
    | region guard isGuard body closing closes =>
      have opens : Directive.opening? (trimEnding (Directive.printed guard)) = some guard := by
        rw [Directive.ignoresEnd_opening?.trimEnding, Directive.opening?_printed isGuard]
      have extent := extent?_body body closes ((lines rest).map trimEnding)
      have contents : Region.contentsOf (body.lines.map trimEnding ++ [trimEnding closing]) =
          Region.contentsOf (body.lines.map trimEnding) := by
        simp [Region.contentsOf, Directive.weight_trimEnding, Directive.weight_of_closes closes]
      have header : ((Part.region guard isGuard body closing closes).lines ++
          rest.flatMap Part.lines).map trimEnding = trimEnding (Directive.printed guard) ::
            (body.lines.map trimEnding ++ [trimEnding closing] ++ (lines rest).map trimEnding) := by
        simp [Part.lines, lines]
      rw [header, Region.ofLines, opens]
      simp only [extent]
      rw [List.take_left, List.drop_left, ih, contents]
      rfl

/-- Parsing undoes printing: the table of what the regions say, and each one reported. -/
theorem ofLines_lines (d : Document) :
    Parsed.ofLines d.lines =
      ⟨.ofExcerpts d.excerpts, d.excerpts.flatMap fun e => [.entered e.guard, .left e.guard]⟩ := by
  have table := Parsed.table_ofLines d.lines
  have events := Parsed.events_ofLines d.lines
  rw [ofLines_regions, List.map_filterMap] at table
  rw [ofLines_regions, List.flatMap_def, List.map_filterMap] at events
  simp only [Part.excerpt_region?] at table
  simp only [Part.events_region?] at events
  rw [← List.map_filterMap, ← List.flatMap_def] at events
  rw [excerpts, ← table, ← events]

end Document
end GLDispatch
