import GLDispatch.File.Machine
import GLDispatch.Proofs.OrderedMap
import GLDispatch.Proofs.Results
import Mathlib.Data.List.Induction

/-! # What writing a file changes

A path takes a file if it is a new name or the name of a file in a directory that exists, and the
machine opens it. Otherwise nothing is written. A file that was opened holds as much as its storage
took of what was written, and every other place holds what it held before: no directory appears, and
no other file is touched. -/
namespace GLDispatch

/-! ## Places -/

namespace Location

theorem encloses_iff {outer inner : Location} :
    outer.encloses inner = true ↔
      outer.up = inner.up ∧ outer.down <+: inner.down ∧ outer.down.length < inner.down.length := by
  simp [encloses, and_assoc]

theorem encloses_trans {outer middle inner : Location} (first : outer.encloses middle = true)
    (second : middle.encloses inner = true) : outer.encloses inner = true := by
  obtain ⟨up, start, shorter⟩ := encloses_iff.mp first
  obtain ⟨up', start', shorter'⟩ := encloses_iff.mp second
  exact encloses_iff.mpr ⟨up.trans up', start.trans start', Nat.lt_trans shorter shorter'⟩

def child (l : Location) (name : Text) : Location :=
  { l with down := l.down ++ [name] }

/-- Around an entry of a directory lie the directory and what lies around that. -/
theorem eq_or_encloses_of_encloses_child {outer l : Location} {name : Text}
    (around : outer.encloses (l.child name) = true) : outer = l ∨ outer.encloses l = true := by
  obtain ⟨up, start, shorter⟩ := encloses_iff.mp around
  rcases List.prefix_concat_iff.mp start with whole | start
  · rw [child, whole] at shorter
    exact absurd shorter (Nat.lt_irrefl _)
  · rcases Nat.lt_or_eq_of_le start.length_le with shorter | same
    · exact Or.inr (encloses_iff.mpr ⟨up, start, shorter⟩)
    · obtain ⟨up, down⟩ := outer
      exact Or.inl (Location.mk.injEq .. ▸ ⟨up, start.eq_of_length same⟩)

theorem ofPlace_nil (working : Place) : ofPlace working [] = ⟨working.length, []⟩ := by
  cases working <;> rfl

theorem up_ofPlace_le (working place : Place) : (ofPlace working place).up ≤ working.length := by
  induction working generalizing place with
  | nil => exact Nat.le_refl 0
  | cons name working ih =>
    cases place with
    | nil => exact Nat.le_refl _
    | cons other place =>
      rw [ofPlace]
      split
      next => exact Nat.le_succ_of_le (ih place)
      next => exact Nat.le_refl _

/-- From one working directory, different places are seen differently. -/
theorem ofPlace_injective (working : Place) : Function.Injective (ofPlace working) := by
  intro place other same
  induction working generalizing place other with
  | nil => exact congrArg Location.down same
  | cons name working ih =>
    -- What lies in the next directory on the way is not as far up as anything else.
    have near (place : Place) : (ofPlace working place).up ≠ working.length + 1 :=
      Nat.ne_of_lt (Nat.lt_succ_of_le (up_ofPlace_le working place))
    cases place with
    | nil =>
      cases other with
      | nil => rfl
      | cons second other =>
        rw [ofPlace, ofPlace] at same
        split at same
        next => exact absurd (congrArg Location.up same).symm (near other)
        next => cases congrArg Location.down same
    | cons first place =>
      cases other with
      | nil =>
        rw [ofPlace, ofPlace] at same
        split at same
        next => exact absurd (congrArg Location.up same) (near place)
        next => cases congrArg Location.down same
      | cons second other =>
        rw [ofPlace, ofPlace] at same
        split at same
        next here =>
          split at same
          next there => rw [ih same, ← here, ← there]
          next => exact absurd (congrArg Location.up same) (near place)
        next =>
          split at same
          next => exact absurd (congrArg Location.up same).symm (near other)
          next => exact congrArg Location.down same

/-- Off the way to the working directory, an entry of a directory is seen below it. -/
theorem ofPlace_concat {working place : Place} {name : Text}
    (off : (ofPlace working (place ++ [name])).down ≠ []) :
    ofPlace working (place ++ [name]) = (ofPlace working place).child name := by
  induction working generalizing place with
  | nil => rfl
  | cons next working ih =>
    cases place with
    | nil =>
      rw [List.nil_append, ofPlace] at off ⊢
      split
      next on =>
        rw [if_pos on, ofPlace_nil] at off
        exact absurd rfl off
      next => rfl
    | cons first place =>
      rw [List.cons_append, ofPlace] at off ⊢
      rw [ofPlace]
      split
      next on =>
        rw [if_pos on] at off
        exact ih off
      next => rfl

end Location

namespace Machine

variable {machine : Machine} {fs : FileSystem}

/-! ## Directories -/

theorem isDirectory_iff {place : Place} :
    machine.isDirectory fs place = true ↔
      (machine.located place).down = [] ∨ machine.located place ∈ fs.directories ∨
        (∃ inner ∈ fs.directories, (machine.located place).encloses inner = true) ∨
        (∃ inner ∈ fs.files.keys, (machine.located place).encloses inner = true) ∨
        ∃ inner ∈ machine.sinks.map machine.located,
          (machine.located place).encloses inner = true := by
  simp [isDirectory, or_assoc]

/-- What lies around a directory is one too. -/
theorem isDirectory_of_encloses {outer place : Place}
    (around : (machine.located outer).encloses (machine.located place) = true)
    (directory : machine.isDirectory fs place = true) : machine.isDirectory fs outer = true := by
  have further {inner : Location} (inside : (machine.located place).encloses inner = true) :
      (machine.located outer).encloses inner = true :=
    Location.encloses_trans around inside
  rw [isDirectory_iff] at directory ⊢
  right
  rcases directory with top | listed | ⟨inner, member, inside⟩ | ⟨file, member, inside⟩ |
    ⟨sink, member, inside⟩
  · have shorter := (Location.encloses_iff.mp around).2.2
    rw [top] at shorter
    exact absurd shorter (Nat.not_lt_zero _)
  · exact Or.inr (Or.inl ⟨_, listed, around⟩)
  · exact Or.inr (Or.inl ⟨inner, member, further inside⟩)
  · exact Or.inr (Or.inr (Or.inl ⟨file, member, further inside⟩))
  · exact Or.inr (Or.inr (Or.inr ⟨sink, member, further inside⟩))

/-! ## One more file -/

section Put

variable {place : Place} {name : Text}

theorem put_of_sink (sink : place ∈ machine.sinks) (content : Bytes) :
    machine.put fs place content = fs :=
  if_pos sink

/-- What was stored last stays. -/
theorem put_put (first second : Bytes) :
    machine.put (machine.put fs place first) place second = machine.put fs place second := by
  by_cases sink : place ∈ machine.sinks
  · simp only [put_of_sink sink]
  · simp only [put, if_neg sink, OrderedMap.insert_insert]

/-- A file in a directory makes no new directories. -/
theorem isDirectory_put (directory : machine.isDirectory fs place = true)
    (free : machine.isDirectory fs (place ++ [name]) = false) (content : Bytes) (other : Place) :
    machine.isDirectory (machine.put fs (place ++ [name]) content) other =
      machine.isDirectory fs other := by
  by_cases sink : place ++ [name] ∈ machine.sinks
  · rw [put_of_sink sink]
  have below : machine.located (place ++ [name]) = (machine.located place).child name := by
    refine Location.ofPlace_concat fun top => ?_
    rw [isDirectory_iff.mpr (Or.inl top)] at free
    cases free
  have stored : machine.put fs (place ++ [name]) content =
      { fs with files := fs.files.insert ((machine.located place).child name) content } := by
    rw [put, if_neg sink, below]
  have keys (key : Location) :
      key ∈ (fs.files.insert ((machine.located place).child name) content).keys ↔
        key ∈ fs.files.keys ∨ key = (machine.located place).child name := by
    rw [OrderedMap.keys_insert]
    split
    next present => exact ⟨Or.inl, fun h => h.elim id fun same => same ▸ present⟩
    next => simp
  rw [stored, Bool.eq_iff_iff, isDirectory_iff, isDirectory_iff]
  simp only [keys, or_and_right, exists_or, exists_eq_left]
  constructor
  · rintro (top | listed | inner | (file | around) | sink)
    · exact Or.inl top
    · exact Or.inr (Or.inl listed)
    · exact Or.inr (Or.inr (Or.inl inner))
    · exact Or.inr (Or.inr (Or.inr (Or.inl file)))
    · rw [← isDirectory_iff]
      rcases Location.eq_or_encloses_of_encloses_child around with same | around
      · rwa [Location.ofPlace_injective _ same]
      · exact isDirectory_of_encloses around directory
    · exact Or.inr (Or.inr (Or.inr (Or.inr sink)))
  · rintro (top | listed | inner | file | sink)
    · exact Or.inl top
    · exact Or.inr (Or.inl listed)
    · exact Or.inr (Or.inr (Or.inl inner))
    · exact Or.inr (Or.inr (Or.inr (Or.inl (Or.inl file))))
    · exact Or.inr (Or.inr (Or.inr (Or.inr sink)))

theorem node?_put_of_ne (directory : machine.isDirectory fs place = true)
    (free : machine.isDirectory fs (place ++ [name]) = false) (content : Bytes) {other : Place}
    (apart : other ≠ place ++ [name]) :
    machine.node? (machine.put fs (place ++ [name]) content) other = machine.node? fs other := by
  have elsewhere : machine.located (place ++ [name]) ≠ machine.located other :=
    fun same => apart (Location.ofPlace_injective _ same).symm
  rw [node?, isDirectory_put directory free, node?]
  by_cases sink : place ++ [name] ∈ machine.sinks
  · rw [put_of_sink sink]
  · rw [put, if_neg sink, OrderedMap.get?_insert, if_neg elsewhere]

theorem node?_put_self (directory : machine.isDirectory fs place = true)
    (free : machine.isDirectory fs (place ++ [name]) = false)
    (keeps : place ++ [name] ∉ machine.sinks) (content : Bytes) :
    machine.node? (machine.put fs (place ++ [name]) content) (place ++ [name]) =
      some (.file content) := by
  rw [node?, isDirectory_put directory free, free, if_neg Bool.false_ne_true, if_neg keeps, put,
    if_neg keeps, OrderedMap.get?_insert, if_pos rfl]
  rfl

end Put

/-! ## Walking -/

theorem node?_eq_directory_iff {place : Place} :
    machine.node? fs place = some .directory ↔ machine.isDirectory fs place = true := by
  rw [node?]
  cases machine.isDirectory fs place with
  | true => simp
  | false =>
    by_cases sink : place ∈ machine.sinks
    · simp [sink]
    · cases fs.files.get? (machine.located place) <;> simp [sink]

/-- All that a step can be: it leads out of a directory, to itself, to the one above it or to an
entry with a name of its own. -/
theorem step_eq_ok_iff {place next : Place} {name : Text} :
    machine.step fs place name = .ok next ↔ machine.isDirectory fs place = true ∧
      (name = ['.'] ∧ next = place ∨ name = ['.', '.'] ∧ next = place.dropLast ∨
        name ≠ ['.'] ∧ name ≠ ['.', '.'] ∧ (Utf8.encode name).length ≤ nameLimit ∧
          next = place ++ [name]) := by
  rw [step, ← node?_eq_directory_iff]
  cases machine.node? fs place with
  | none => simp
  | some node =>
    cases node with
    | file | sink => simp
    | directory =>
      by_cases here : name = ['.']
      · simp [here, eq_comm]
      · by_cases up : name = ['.', '.']
        · simp [up, eq_comm]
        · by_cases long : nameLimit < (Utf8.encode name).length
          · simp [here, up, long, Nat.not_le.mpr long]
          · simp only [here, up, long, Nat.not_lt.mp long, if_false, Except.ok.injEq]
            simp [here, up, eq_comm]

theorem walk_concat_eq_ok_iff {start target : Place} {names : List Text} {name : Text} :
    machine.walk fs start (names ++ [name]) = .ok target ↔
      ∃ place, machine.walk fs start names = .ok place ∧
        machine.step fs place name = .ok target := by
  rw [walk, List.foldlM_append, bind_eq_ok_iff]
  simp only [List.foldlM_cons, List.foldlM_nil, bind_pure]
  rfl

/-- A walk depends on nothing but what the directories are. -/
theorem walk_congr {after : FileSystem}
    (same : ∀ place, machine.isDirectory fs place = true → machine.isDirectory after place = true)
    {start target : Place} {names : List Text} (walked : machine.walk fs start names = .ok target) :
    machine.walk after start names = .ok target := by
  induction names using List.reverseRecOn generalizing target with
  | nil => exact walked
  | append_singleton names name ih =>
    obtain ⟨place, before, stepped⟩ := walk_concat_eq_ok_iff.mp walked
    obtain ⟨directory, kind⟩ := step_eq_ok_iff.mp stepped
    exact walk_concat_eq_ok_iff.mpr
      ⟨place, ih before, step_eq_ok_iff.mpr ⟨same place directory, kind⟩⟩

/-! ## Files to write -/

theorem checkLength_eq_ok_iff {path : Text} {u : Unit} :
    checkLength path = .ok u ↔ (Utf8.encode path).length < pathLimit := by
  rw [checkLength]
  split
  next long => simp [long]
  next short => simp [Nat.not_le.mp short]

theorem find_eq_ok_iff {path : Text} {place : Place} :
    machine.find fs path = .ok place ↔ (Utf8.encode path).length < pathLimit ∧
      machine.walk fs (machine.start path) (Path.names path) = .ok place := by
  rw [find, bind_eq_ok_iff]
  simp only [checkLength_eq_ok_iff, exists_const]

/-- The path gives an entry of a directory as a file, present or not, and the machine opens it. -/
structure TakesFile (machine : Machine) (fs : FileSystem) (path : Text) (place : Place) : Prop where
  short : (Utf8.encode path).length < pathLimit
  noSlash : Path.endsInSlash path = false
  entry : ∃ front name directory, Path.names path = front ++ [name] ∧
    machine.walk fs (machine.start path) front = .ok directory ∧
    machine.isDirectory fs directory = true ∧ name ≠ ['.'] ∧ name ≠ ['.', '.'] ∧
    (Utf8.encode name).length ≤ nameLimit ∧ place = directory ++ [name]
  free : machine.isDirectory fs place = false
  opened : machine.unwritable place = none

theorem target_eq_ok_iff {path : Text} {place : Place} :
    machine.target fs path = .ok place ↔ machine.TakesFile fs path place := by
  rw [target]
  constructor
  · intro found
    obtain ⟨_, short, found⟩ := bind_eq_ok_iff.mp found
    obtain ⟨directory, walked, found⟩ := bind_eq_ok_iff.mp found
    dsimp only at found
    cases slash : Path.endsInSlash path with
    | true =>
      rw [slash, if_pos rfl] at found
      obtain ⟨here, -, found⟩ := bind_eq_ok_iff.mp found
      cases found
    | false =>
      rw [slash, if_neg Bool.false_ne_true] at found
      obtain ⟨entry, stepped, found⟩ := bind_eq_ok_iff.mp found
      split at found
      next => cases found
      next refused =>
        simp only [Bool.false_or, Bool.or_eq_true, decide_eq_true_eq, not_or,
          Bool.not_eq_true] at refused
        obtain ⟨⟨notHere, notUp⟩, free⟩ := refused
        split at found
        next => cases found
        next opened =>
          cases found
          rcases List.eq_nil_or_concat (Path.names path) with none | ⟨front, name, parts⟩
          · rw [none] at notHere
            exact absurd rfl notHere
          · rw [List.concat_eq_append] at parts
            rw [parts, List.dropLast_concat] at walked
            rw [parts, List.getLastD_concat] at notHere notUp stepped
            obtain ⟨isDirectory, kind⟩ := step_eq_ok_iff.mp stepped
            rcases kind with ⟨here, -⟩ | ⟨up, -⟩ | ⟨-, -, nameShort, whole⟩
            · exact absurd here notHere
            · exact absurd up notUp
            · exact ⟨checkLength_eq_ok_iff.mp short, slash, ⟨front, name, directory, parts, walked,
                isDirectory, notHere, notUp, nameShort, whole⟩, free, opened⟩
  · intro taken
    obtain ⟨front, name, directory, parts, walked, isDirectory, notHere, notUp, nameShort, whole⟩ :=
      taken.entry
    have stepped : machine.step fs directory name = .ok place :=
      step_eq_ok_iff.mpr ⟨isDirectory, Or.inr (Or.inr ⟨notHere, notUp, nameShort, whole⟩)⟩
    refine bind_eq_ok_iff.mpr ⟨(), checkLength_eq_ok_iff.mpr taken.short,
      bind_eq_ok_iff.mpr ⟨directory, ?_, ?_⟩⟩
    · rw [parts, List.dropLast_concat, walked]
    · simp only [parts, List.getLastD_concat, taken.noSlash, notHere, notUp, Bool.false_eq_true,
        if_false]
      exact bind_eq_ok_iff.mpr ⟨place, stepped, by simp [taken.free, taken.opened]⟩

/-! ## Writing -/

/-- Two file systems which differ at most in the file to which the path leads: in the second one it
holds the content. -/
structure Replaces (machine : Machine) (before after : FileSystem) (path : Text) (place : Place)
    (content : Bytes) : Prop where
  leads : machine.find after path = .ok place
  holds : machine.node? after place = some (.file content)
  others : ∀ other, other ≠ place → machine.node? after other = machine.node? before other

theorem TakesFile.replaces {path : Text} {place : Place} (taken : machine.TakesFile fs path place)
    (keeps : place ∉ machine.sinks) (content : Bytes) :
    machine.Replaces fs (machine.put fs place content) path place content := by
  obtain ⟨front, name, directory, parts, walked, isDirectory, notHere, notUp, nameShort, rfl⟩ :=
    taken.entry
  have stepped : machine.step fs directory name = .ok (directory ++ [name]) :=
    step_eq_ok_iff.mpr ⟨isDirectory, Or.inr (Or.inr ⟨notHere, notUp, nameShort, rfl⟩)⟩
  have reached : machine.walk fs (machine.start path) (Path.names path) =
      .ok (directory ++ [name]) := by
    rw [parts]
    exact walk_concat_eq_ok_iff.mpr ⟨directory, walked, stepped⟩
  constructor
  · have kept (place : Place) (is : machine.isDirectory fs place = true) :
        machine.isDirectory (machine.put fs (directory ++ [name]) content) place = true :=
      (isDirectory_put isDirectory taken.free content place).trans is
    exact find_eq_ok_iff.mpr ⟨taken.short, walk_congr kept reached⟩
  · exact node?_put_self isDirectory taken.free keeps content
  · exact fun other apart => node?_put_of_ne isDirectory taken.free content apart

/-- What is left of a content at a place to which a path leads, where everything else is as it was.
A sink keeps nothing. -/
structure Stores (machine : Machine) (before after : FileSystem) (path : Text)
    (place : Place) (content : Bytes) : Prop where
  kept : place ∉ machine.sinks → machine.Replaces before after path place content
  lost : place ∈ machine.sinks → after = before

theorem TakesFile.stores {path : Text} {place : Place}
    (taken : machine.TakesFile fs path place) (content : Bytes) :
    machine.Stores fs (machine.put fs place content) path place content :=
  ⟨fun keeps => taken.replaces keeps content, fun sink => put_of_sink sink content⟩

/-- Without a file to open nothing is written. -/
theorem write_of_refused {path : Text} (refused : ¬ ∃ place, machine.TakesFile fs path place)
    (content : Bytes) : ∃ error, machine.write fs path content = (.error error, fs) := by
  cases found : machine.target fs path with
  | error error => exact ⟨error, by rw [write, found]⟩
  | ok place => exact absurd ⟨place, target_eq_ok_iff.mp found⟩ refused

section Opened

variable {path : Text} {place : Place} (taken : machine.TakesFile fs path place) {content : Bytes}
include taken

theorem write_of_stored (whole : machine.givesOut place content = none) :
    machine.write fs path content = (.ok (), machine.put fs place content) := by
  simp only [write, target_eq_ok_iff.mpr taken, whole, put_put]

theorem write_of_givesOut {stored : Nat} {error : FileError}
    (cut : machine.givesOut place content = some (stored, error)) :
    machine.write fs path content =
      (.error error, machine.put fs place (content.take stored)) := by
  simp only [write, target_eq_ok_iff.mpr taken, cut, put_put]

end Opened

end Machine
end GLDispatch
