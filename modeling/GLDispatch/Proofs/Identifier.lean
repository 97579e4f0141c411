import GLDispatch.Binding.Argument
import GLDispatch.Proofs.Text

/-! # Identifiers of parameters

The identifier of a parameter begins behind its last blank or asterisk and reaches to the first
bracket. The brackets are looked at last: a blank or an asterisk inside of an array size is taken for
one in front of the identifier, and what stands behind it for the identifier. -/
namespace GLDispatch.Argument
open Text

/-- Neither a blank nor an asterisk. -/
def isPlain (c : Char) : Bool :=
  !isBlank c && c != '*'

def Plain (t : Text) : Prop := ∀ c ∈ t, isPlain c = true

instance (t : Text) : Decidable (Plain t) :=
  decidable_of_iff (t.all isPlain = true) List.all_eq_true

theorem Plain.append {s t : Text} (first : Plain s) (second : Plain t) : Plain (s ++ t) :=
  List.forall_mem_append.mpr ⟨first, second⟩

theorem plain_iff {t : Text} : Plain t ↔ Visible t ∧ '*' ∉ t := by
  constructor
  · intro plain
    refine ⟨fun c member => ?_, fun member => absurd (plain '*' member) (by decide)⟩
    have here := plain c member
    rw [isPlain, Bool.and_eq_true, Bool.not_eq_true'] at here
    exact here.1
  · rintro ⟨visible, noAsterisk⟩ c member
    have apart : c ≠ '*' := fun same => noAsterisk (same ▸ member)
    simp [isPlain, visible c member, apart]

/-! ## Where the identifier stands -/

/-- What is glued to the front of the last word takes part in it. -/
theorem exists_glued (front : Text) {shown trail : Text} (nonempty : shown ≠ [])
    (visible : Visible shown) (blank : AllBlank trail) :
    ∃ glued, Visible glued ∧ glued <:+ front ∧
      identifier (front ++ (shown ++ trail)) = before '[' (afterLast '*' (glued ++ shown)) := by
  obtain ⟨start, glued, rfl, ends, inGlued⟩ := exists_last_run (!isBlank ·) front
  have visibleGlued : Visible glued := by simpa [Visible] using inGlued
  have last := getLast?_words ends (List.append_ne_nil_of_right_ne_nil glued nonempty)
    (visibleGlued.append visible) blank
  refine ⟨glued, visibleGlued, ⟨start, rfl⟩, ?_⟩
  rw [identifier, List.append_assoc, ← List.append_assoc glued, last]

/-- Behind a blank or an asterisk, the identifier reaches to the first bracket. -/
theorem identifier_of_run {front run trail : Text} (ends : LastNot isPlain front)
    (nonempty : run ≠ []) (plain : Plain run) (blank : AllBlank trail) :
    identifier (front ++ (run ++ trail)) = before '[' run := by
  obtain ⟨visible, noAsterisk⟩ := plain_iff.mp plain
  obtain ⟨glued, visibleGlued, ⟨start, rfl⟩, found⟩ := exists_glued front nonempty visible blank
  -- The last word may begin in front of the run, but then an asterisk stands between them.
  have marked : LastNot (· != '*') glued := by
    intro c last
    have lastFront : (start ++ glued).getLast? = some c := by rw [List.getLast?_append, last]; rfl
    simpa [isPlain, visibleGlued c (List.mem_of_getLast? last)] using ends c lastFront
  rw [found, afterLast_of_cut marked noAsterisk]

/-- Nothing is left of a parameter that ends in an asterisk. -/
theorem identifier_of_asterisk (front : Text) {trail : Text} (blank : AllBlank trail) :
    identifier (front ++ '*' :: trail) = [] := by
  obtain ⟨glued, -, -, found⟩ :=
    exists_glued front (List.cons_ne_nil '*' []) (by decide) blank
  have ends : LastNot (· != '*') (glued ++ ['*']) := lastNot_concat (by decide) glued
  have behind := afterLast_of_cut ends List.not_mem_nil
  rw [List.append_nil] at behind
  rw [← List.singleton_append, found, behind]
  rfl

theorem identifier_of_allBlank {parameter : Text} (blank : AllBlank parameter) :
    identifier parameter = [] := by
  rw [identifier, words_of_allBlank blank]
  rfl

/-- The name stands behind a blank or an asterisk, or begins the parameter, and in front of the first
bracket of the sizes, or ends the parameter. -/
def Names (name parameter : Text) : Prop :=
  ∃ front sizes trail, parameter = front ++ ((name ++ sizes) ++ trail) ∧ LastNot isPlain front ∧
    Plain sizes ∧ HeadNot (· != '[') sizes ∧ AllBlank trail

theorem exists_run_of_identifier {parameter : Text} (some : identifier parameter ≠ []) :
    ∃ front run trail, parameter = front ++ (run ++ trail) ∧ LastNot isPlain front ∧ run ≠ [] ∧
      Plain run ∧ AllBlank trail := by
  obtain ⟨body, trail, rfl, visible, blank⟩ := exists_last_run isBlank parameter
  obtain ⟨front, run, rfl, ends, plain⟩ := exists_last_run isPlain body
  refine ⟨front, run, trail, List.append_assoc front run trail, ends, ?_, plain, blank⟩
  -- Without a run the parameter is blank, or ends in an asterisk.
  rintro rfl
  rw [List.append_nil] at some visible
  rcases front.eq_nil_or_concat with rfl | ⟨before, c, rfl⟩
  · exact some (identifier_of_allBlank blank)
  · have marked : isPlain c = false := ends c (by simp)
    have shown : isBlank c = false := visible c (by simp)
    obtain rfl : c = '*' := by simpa [isPlain, shown] using marked
    apply some
    rw [List.concat_eq_append, List.append_assoc, List.singleton_append]
    exact identifier_of_asterisk before blank

/-- What can be an identifier is the identifier of exactly the parameters which it names. -/
theorem identifier_eq_iff {name parameter : Text} (some : name ≠ []) (plain : Plain name)
    (noBracket : '[' ∉ name) : identifier parameter = name ↔ Names name parameter := by
  constructor
  · rintro rfl
    obtain ⟨front, run, trail, rfl, ends, nonempty, inRun, blank⟩ := exists_run_of_identifier some
    have found := identifier_of_run ends nonempty inRun blank
    refine ⟨front, run.dropWhile (· != '['), trail, ?_, ends, ?_, headNot_dropWhile _ run, blank⟩
    · rw [found, before, List.takeWhile_append_dropWhile]
    · exact fun c member => inRun c ((List.dropWhile_sublist _).subset member)
  · rintro ⟨front, sizes, trail, rfl, ends, inSizes, bracket, blank⟩
    have inside : ∀ c ∈ name, (c != '[') = true :=
      fun c member => bne_iff_ne.mpr fun same => noBracket (same ▸ member)
    rw [identifier_of_run ends (List.append_ne_nil_of_left_ne_nil some sizes)
      (plain.append inSizes) blank]
    exact takeWhile_of_cut inside bracket

/-! ## What an identifier is made of -/

/-- Whatever the parameter is, its identifier is cut from a plain run of it. -/
theorem exists_run (parameter : Text) :
    ∃ run, Plain run ∧ run ⊆ parameter ∧ identifier parameter = before '[' run := by
  by_cases empty : identifier parameter = []
  -- Nothing is cut from nothing, as where the parameter ends in an asterisk.
  · exact ⟨[], by decide, List.nil_subset parameter, empty⟩
  · obtain ⟨front, run, trail, rfl, ends, nonempty, plain, blank⟩ := exists_run_of_identifier empty
    exact ⟨run, plain, List.subset_append_of_subset_right front (List.subset_append_left run trail),
      identifier_of_run ends nonempty plain blank⟩

theorem plain_identifier (parameter : Text) : Plain (identifier parameter) := by
  obtain ⟨run, plain, -, found⟩ := exists_run parameter
  rw [found]
  exact fun c member => plain c ((List.takeWhile_sublist _).subset member)

theorem identifier_subset (parameter : Text) : identifier parameter ⊆ parameter := by
  obtain ⟨run, -, inside, found⟩ := exists_run parameter
  rw [found]
  exact fun c member => inside ((List.takeWhile_sublist _).subset member)

theorem bracket_not_mem_identifier (parameter : Text) : '[' ∉ identifier parameter := by
  obtain ⟨run, -, -, found⟩ := exists_run parameter
  rw [found]
  exact fun member => absurd (List.all_eq_true.mp List.all_takeWhile '[' member) (by decide)

/-- An identifier alone is a parameter without a type. -/
theorem identifier_eq_self {t : Text} (plain : Plain t) (noBracket : '[' ∉ t) :
    identifier t = t := by
  by_cases empty : t = []
  · rw [empty]
    rfl
  · exact (identifier_eq_iff empty plain noBracket).mpr
      ⟨[], [], [], by simp, by simp [LastNot], by decide, by simp [HeadNot], by decide⟩

/-! ## Array sizes -/

/-- The size of an array, as it may stand between brackets. -/
structure SizeExpression where
  text : Text
  noOpening : '[' ∉ text
  noClosing : ']' ∉ text
  noComma : ',' ∉ text

def SizeExpression.bracketed (e : SizeExpression) : Text :=
  '[' :: (e.text ++ [']'])

def arraySuffix (sizes : List SizeExpression) : Text :=
  sizes.flatMap SizeExpression.bracketed

/-- The end of the size in which the last blank or asterisk of all the sizes stands. -/
def BehindLastMark (sizes : List SizeExpression) (rest : Text) : Prop :=
  ∃ earlier e later front mark, sizes = earlier ++ e :: later ∧ e.text = front ++ mark :: rest ∧
    isPlain mark = false ∧ Plain rest ∧ ∀ other ∈ later, Plain other.text

theorem before_append_mark (mark : Char) (t rest : Text) :
    before mark (t ++ mark :: rest) = before mark t := by
  induction t with
  | nil => simp [before]
  | cons c t ih =>
    simp only [before, List.cons_append, List.takeWhile_cons] at ih ⊢
    rw [ih]

theorem headNot_arraySuffix (sizes : List SizeExpression) :
    HeadNot (· != '[') (arraySuffix sizes) := by
  cases sizes with
  | nil => simp [arraySuffix, HeadNot]
  | cons e sizes => exact headNot_cons.mpr (by decide)

theorem plain_arraySuffix {sizes : List SizeExpression} (plain : ∀ e ∈ sizes, Plain e.text) :
    Plain (arraySuffix sizes) := by
  intro c member
  obtain ⟨e, inSizes, inText⟩ := List.mem_flatMap.mp member
  simp only [SizeExpression.bracketed, List.mem_cons, List.mem_append, List.not_mem_nil,
    or_false] at inText
  rcases inText with rfl | inText | rfl
  · decide
  · exact plain e inSizes c inText
  · decide

theorem exists_last_mark {t : Text} (marked : ¬ Plain t) :
    ∃ front mark rest, t = front ++ mark :: rest ∧ isPlain mark = false ∧ Plain rest := by
  obtain ⟨front, rest, rfl, ends, plain⟩ := exists_last_run isPlain t
  rcases front.eq_nil_or_concat with rfl | ⟨front, mark, rfl⟩
  · exact absurd plain marked
  · exact ⟨front, mark, rest, by simp, ends mark (by simp), plain⟩

theorem exists_behindLastMark {sizes : List SizeExpression}
    (marked : ¬ ∀ e ∈ sizes, Plain e.text) : ∃ rest, BehindLastMark sizes rest := by
  induction sizes with
  | nil => simp at marked
  | cons e sizes ih =>
    by_cases later : ∀ other ∈ sizes, Plain other.text
    · have here : ¬ Plain e.text := fun plain => marked (List.forall_mem_cons.mpr ⟨plain, later⟩)
      obtain ⟨front, mark, rest, whole, isMark, plain⟩ := exists_last_mark here
      exact ⟨rest, [], e, sizes, front, mark, rfl, whole, isMark, plain, later⟩
    · obtain ⟨rest, earlier, other, behind, front, mark, rfl, inOther⟩ := ih later
      exact ⟨rest, e :: earlier, other, behind, front, mark, rfl, inOther⟩

/-- Plain sizes only make the run longer in which the identifier stands. -/
theorem identifier_append_plain {p : Text} {last : Char} (ends : p.getLast? = some last)
    (word : isWord last = true) {sizes : List SizeExpression}
    (plain : ∀ e ∈ sizes, Plain e.text) : identifier (p ++ arraySuffix sizes) = identifier p := by
  have isPlainLast : isPlain last = true := by
    have noAsterisk : last ≠ '*' := fun same => absurd (same ▸ word) (by decide)
    simp [isPlain, not_isBlank_of_isWord word, noAsterisk]
  obtain ⟨front, run, rfl, marked, inRun⟩ := exists_last_run isPlain p
  have nonempty : run ≠ [] := by
    rintro rfl
    rw [List.append_nil] at ends
    rw [marked last ends] at isPlainLast
    cases isPlainLast
  have blank : AllBlank [] := by decide
  have short := identifier_of_run marked nonempty inRun blank
  have long := identifier_of_run marked (List.append_ne_nil_of_left_ne_nil nonempty _)
    (Plain.append inRun (plain_arraySuffix plain)) blank
  rw [List.append_nil] at short long
  rw [List.append_assoc, long, short]
  cases sizes with
  | nil => rw [arraySuffix, List.flatMap_nil, List.append_nil]
  | cons e sizes => exact before_append_mark '[' run _

theorem identifier_append_marked (p : Text) {sizes : List SizeExpression} {rest : Text}
    (marked : BehindLastMark sizes rest) : identifier (p ++ arraySuffix sizes) = rest ++ [']'] := by
  obtain ⟨earlier, e, later, front, mark, rfl, whole, isMark, plain, others⟩ := marked
  have noBracket : '[' ∉ rest := fun member =>
    e.noOpening (whole ▸ List.mem_append_right front (List.mem_cons_of_mem mark member))
  have inside : ∀ c ∈ rest ++ [']'], (c != '[') = true := by
    intro c member
    rcases List.mem_append.mp member with inRest | closing
    · exact bne_iff_ne.mpr fun same => noBracket (same ▸ inRest)
    · rw [List.mem_singleton.mp closing]
      decide
  have parts : p ++ arraySuffix (earlier ++ e :: later) =
      (p ++ arraySuffix earlier ++ '[' :: front ++ [mark]) ++
        (((rest ++ [']']) ++ arraySuffix later) ++ []) := by
    simp [arraySuffix, SizeExpression.bracketed, whole]
  have inRun : Plain ((rest ++ [']']) ++ arraySuffix later) :=
    (plain.append (by decide)).append (plain_arraySuffix others)
  rw [parts, identifier_of_run (lastNot_concat isMark _) (by simp) inRun (by simp [AllBlank])]
  exact takeWhile_of_cut inside (headNot_arraySuffix later)

/-- Array sizes leave the identifier as it is if no blank and no asterisk is in them. Otherwise what
stands behind the last one, up to its closing bracket and with it, is taken for the identifier, and
that is the same only by coincidence. -/
theorem identifier_arraySuffix {p : Text} {last : Char} (ends : p.getLast? = some last)
    (word : isWord last = true) (sizes : List SizeExpression) :
    (identifier (p ++ arraySuffix sizes) = identifier p ↔
        (∀ e ∈ sizes, Plain e.text) ∨
          ∃ rest, BehindLastMark sizes rest ∧ identifier p = rest ++ [']']) ∧
      ∀ rest, BehindLastMark sizes rest →
        identifier (p ++ arraySuffix sizes) = rest ++ [']'] := by
  refine ⟨?_, fun rest marked => identifier_append_marked p marked⟩
  constructor
  · intro same
    by_cases plain : ∀ e ∈ sizes, Plain e.text
    · exact Or.inl plain
    · obtain ⟨rest, marked⟩ := exists_behindLastMark plain
      exact Or.inr ⟨rest, marked, same.symm.trans (identifier_append_marked p marked)⟩
  · rintro (plain | ⟨rest, marked, same⟩)
    · exact identifier_append_plain ends word plain
    · exact (identifier_append_marked p marked).trans same.symm

/-- A size with blanks in it, behind one without. -/
theorem identifier_arraySuffix_spaced :
    let p := "const GLfloat *v".toList
    let sizes : List SizeExpression :=
      [⟨['4'], by decide, by decide, by decide⟩, ⟨"N + 1".toList, by decide, by decide, by decide⟩]
    p ++ arraySuffix sizes = "const GLfloat *v[4][N + 1]".toList ∧ identifier p = ['v'] ∧
      BehindLastMark sizes ['1'] ∧ identifier (p ++ arraySuffix sizes) = "1]".toList ∧
      ¬ ∀ e ∈ sizes, Plain e.text := by
  intro p sizes
  have marked : BehindLastMark sizes ['1'] :=
    ⟨[_], _, [], "N +".toList, ' ', rfl, rfl, by decide, by decide, by simp⟩
  have ends : p.getLast? = some 'v' := rfl
  obtain ⟨same, behind⟩ := identifier_arraySuffix ends (by decide) sizes
  have named : identifier p = ['v'] := by decide
  have found := behind ['1'] marked
  refine ⟨rfl, named, marked, found, fun plain => ?_⟩
  have kept := same.mpr (Or.inl plain)
  rw [found, named] at kept
  exact absurd kept (by decide)

/-- An asterisk or a blank inside of a size hides the identifier in front of it. -/
theorem identifier_past_arraySuffix :
    identifier "GLfloat v".toList = ['v'] ∧ identifier "GLfloat v[4*4]".toList = "4]".toList ∧
      identifier "GLfloat v[N + 1]".toList = "1]".toList := by
  decide

end GLDispatch.Argument
