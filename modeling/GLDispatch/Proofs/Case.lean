import GLDispatch.Proofs.Text
import GLDispatch.Text.Case

/-! # Laws of letter case

Changing the case of a letter makes no blank of it, and a word whose first letter is put in lower
case still shows all the others. -/
namespace GLDispatch.Text

/-- A code point without a character stands for one that is no blank either. -/
theorem mem_range_of_isBlank_ofNat {code : Nat} (h : isBlank (Char.ofNat code) = true) :
    ∃ r ∈ blanks, r.1 ≤ code ∧ code ≤ r.2 := by
  obtain ⟨r, member, low, high⟩ := Ranges.has_iff.mp h
  have positive : ∀ r ∈ blanks, 0 < r.1 := by decide
  have valid : code.isValidChar := by
    by_cases valid : code.isValidChar
    · exact valid
    · rw [Char.ofNat, dif_neg valid] at low
      exact absurd (positive r member) (Nat.not_lt.mpr low)
  rw [Char.ofNat, dif_pos valid] at low high
  exact ⟨r, member, low, high⟩

/-- A case map whose tables avoid the blanks. -/
theorem not_isBlank_of_mem_mapCase {expansions : List (Nat × List Nat)} {runs : List CaseRun}
    (expanded : ∀ e ∈ expansions, ∀ code ∈ e.2, isBlank (Char.ofNat code) = false)
    (mapped : ∀ run ∈ runs, ∀ r ∈ blanks,
      run.target + (run.last - run.first) < r.1 ∨ r.2 < run.target)
    {c : Char} (h : isBlank c = false) {code : Nat}
    (member : code ∈ mapCase expansions runs c.toNat) :
    isBlank (Char.ofNat code) = false := by
  rw [mapCase] at member
  split at member
  next codes found =>
    obtain ⟨before, behind, whole, -⟩ := List.lookup_eq_some_iff.mp found
    exact expanded (c.toNat, codes) (by simp [whole]) code member
  next =>
    rw [List.mem_singleton.mp member]
    cases found : runs.findSome? (·.map? c.toNat) with
    | none => rw [Option.getD_none, Char.ofNat_toNat, h]
    | some target =>
      rw [Option.getD_some]
      obtain ⟨run, inTable, maps⟩ := List.exists_of_findSome?_eq_some found
      rw [CaseRun.map?] at maps
      split at maps
      next within =>
        rw [← Option.some.inj maps, ← Bool.not_eq_true]
        intro blank
        obtain ⟨r, isBlank, low, high⟩ := mem_range_of_isBlank_ofNat blank
        have apart := mapped run inTable r isBlank
        omega
      next => cases maps

theorem not_isBlank_of_mem_case {plain : Char → Char} {expansions : List (Nat × List Nat)}
    {runs : List CaseRun}
    (ascii : ∀ n ∈ List.range 0x80,
      isBlank (Char.ofNat n) = false → isBlank (plain (Char.ofNat n)) = false)
    (expanded : ∀ e ∈ expansions, ∀ code ∈ e.2, isBlank (Char.ofNat code) = false)
    (mapped : ∀ run ∈ runs, ∀ r ∈ blanks,
      run.target + (run.last - run.first) < r.1 ∨ r.2 < run.target)
    {c d : Char} (h : isBlank c = false)
    (member : d ∈ if c.toNat < 0x80 then [plain c]
      else (mapCase expansions runs c.toNat).map Char.ofNat) : isBlank d = false := by
  split at member
  next small =>
    have here := ascii c.toNat (List.mem_range.mpr small)
    rw [Char.ofNat_toNat] at here
    rw [List.mem_singleton.mp member]
    exact here h
  next =>
    obtain ⟨code, inTable, rfl⟩ := List.mem_map.mp member
    exact not_isBlank_of_mem_mapCase expanded mapped h inTable

theorem not_isBlank_of_mem_upperChar {c d : Char} (h : isBlank c = false)
    (member : d ∈ upperChar c) : isBlank d = false :=
  not_isBlank_of_mem_case (by decide +kernel) (by decide +kernel) (by decide +kernel) h member

theorem not_isBlank_of_mem_lowerChar {c d : Char} (h : isBlank c = false)
    (member : d ∈ lowerChar c) : isBlank d = false :=
  not_isBlank_of_mem_case (by decide +kernel) (by decide +kernel) (by decide +kernel) h member

theorem visible_upper {t : Text} (h : Visible t) : Visible (upper t) := by
  intro d member
  obtain ⟨c, inText, made⟩ := List.mem_flatMap.mp member
  exact not_isBlank_of_mem_upperChar (h c inText) made

/-! ## Letters and their marks -/

/-- A letter in lower case is one character, perhaps with marks behind it. -/
theorem exists_lowerChar (c : Char) :
    ∃ letter marks, lowerChar c = letter :: marks ∧ ∀ m ∈ marks, isWord m = false := by
  have expanded : ∀ e ∈ lowerExpansions, ∃ letter marks, e.2.map Char.ofNat = letter :: marks ∧
      ∀ m ∈ marks, isWord m = false := by
    intro e member
    rw [lowerExpansions, List.mem_singleton] at member
    refine member ▸ ⟨'i', ['\u0307'], rfl, fun m mark => ?_⟩
    rw [List.mem_singleton.mp mark]
    decide +kernel
  rw [lowerChar]
  split
  next => exact ⟨c.toLower, [], rfl, by simp⟩
  next =>
    rw [mapCase]
    split
    next codes found =>
      obtain ⟨before, behind, whole, -⟩ := List.lookup_eq_some_iff.mp found
      exact expanded (c.toNat, codes) (by simp [whole])
    next => exact ⟨_, [], rfl, by simp⟩

/-- Where words go on behind letters in lower case, both the letters and the rests are the same. -/
theorem lowerChar_append_inj {c d : Char} {s t : Text} (word : AllWord s) (word' : AllWord t)
    (equal : lowerChar c ++ s = lowerChar d ++ t) : lowerChar c = lowerChar d ∧ s = t := by
  have wordFirst {u : Text} (word : AllWord u) : HeadNot (!isWord ·) u :=
    fun m first => by simp [word m (List.mem_of_head? first)]
  obtain ⟨letter, marks, whole, inMarks⟩ := exists_lowerChar c
  obtain ⟨letter', marks', whole', inMarks'⟩ := exists_lowerChar d
  rw [whole, whole', List.cons_append, List.cons_append] at equal
  obtain ⟨rfl, behind⟩ := List.cons.inj equal
  obtain ⟨rfl, rest⟩ := cut_unique (p := (!isWord ·)) behind (by simpa using inMarks)
    (by simpa using inMarks') (wordFirst word) (wordFirst word')
  exact ⟨whole.trans whole'.symm, rest⟩

end GLDispatch.Text
