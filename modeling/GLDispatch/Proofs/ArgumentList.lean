import GLDispatch.Proofs.Identifier

/-! # Lists of arguments

Parameters are cut at every comma, also at those inside of the parameter list of a callback, and each
piece gives one argument, which may be empty. Whatever the pieces are, neither a comma nor any of the
marks between which an identifier is found is left in an argument, so the arguments of a call stay in
the places of the pieces. -/
namespace GLDispatch.Argument
open Text

/-- Without a blank and without the marks around an identifier. -/
structure Clean (argument : Text) : Prop where
  visible : Visible argument
  noComma : ',' ∉ argument
  noAsterisk : '*' ∉ argument
  noBracket : '[' ∉ argument

theorem clean_identifier {parameter : Text} (noComma : ',' ∉ parameter) :
    Clean (identifier parameter) := by
  obtain ⟨visible, noAsterisk⟩ := plain_iff.mp (plain_identifier parameter)
  exact ⟨visible, fun member => noComma (identifier_subset parameter member), noAsterisk,
    bracket_not_mem_identifier parameter⟩

theorem Clean.identifier_eq {argument : Text} (clean : Clean argument) :
    identifier argument = argument :=
  identifier_eq_self (plain_iff.mpr ⟨clean.visible, clean.noAsterisk⟩) clean.noBracket

/-- The arguments are the identifiers of the pieces, one by one. -/
theorem forwarded_eq_map {parameters : Text} (given : parameters ≠ voidType) {pieces : List Text}
    (cut : Pieces ',' parameters pieces) : forwarded parameters = pieces.map identifier := by
  rw [forwarded, if_neg given, pieces_iff.mp cut]

theorem clean_of_mem_forwarded {parameters : Text} :
    ∀ argument ∈ forwarded parameters, Clean argument := by
  intro argument member
  by_cases void : parameters = voidType
  · rw [forwarded, if_pos void] at member
    cases member
  · have cut : Pieces ',' parameters _ := pieces_iff.mpr rfl
    rw [forwarded_eq_map void cut] at member
    obtain ⟨piece, inPieces, rfl⟩ := List.mem_map.mp member
    exact clean_identifier (cut.noMark piece inPieces)

/-- Parameters other than a plain `void` give one argument more than they have commas: the
identifiers of the pieces in front of any comma, and then of those behind it. All arguments are
clean, and pieces that are clean themselves are passed on as they are. -/
theorem forwarded_pieces {parameters : Text} (given : parameters ≠ voidType) :
    (forwarded parameters).length = parameters.count ',' + 1 ∧
      (∀ front rest, parameters = front ++ ',' :: rest → ∃ pieces others,
        Pieces ',' front pieces ∧ Pieces ',' rest others ∧
          forwarded parameters = pieces.map identifier ++ others.map identifier) ∧
      (∀ argument ∈ forwarded parameters, Clean argument) ∧
      ∀ pieces, Pieces ',' parameters pieces →
        (forwarded parameters = pieces ↔ ∀ piece ∈ pieces, Clean piece) := by
  have whole := forwarded_eq_map given (pieces_iff.mpr rfl)
  refine ⟨?_, ?_, clean_of_mem_forwarded, fun pieces cut => ?_⟩
  · rw [whole, List.length_map, List.splitOn_eq_splitOnP, length_splitOnP, List.count]
  · rintro front rest rfl
    refine ⟨_, _, pieces_iff.mpr rfl, pieces_iff.mpr rfl, ?_⟩
    -- No piece reaches over the comma, even where one of the two sides is the word for none.
    rw [whole, List.splitOn_append_cons_self, List.map_append]
  · constructor
    · intro same piece member
      exact clean_of_mem_forwarded piece (same.symm ▸ member)
    · intro clean
      calc forwarded parameters = pieces.map identifier := forwarded_eq_map given cut
        _ = pieces.map id :=
          List.map_congr_left fun piece member => (clean piece member).identifier_eq
        _ = pieces := List.map_id pieces

/-- A callback, a parameter without an identifier, an empty one, and the word for none. -/
theorem forwarded_pieces_callback :
    let front := "void (*hook[2])(int,\u2003GLuint *".toList
    let rest := "GLfloat\u00a0const*v[4]),,void".toList
    let parameters := front ++ ',' :: rest
    parameters ≠ voidType ∧
      forwarded parameters = ["hook".toList, []] ++ [['v'], [], voidType] ∧
      (forwarded parameters).length = parameters.count ',' + 1 ∧
      ∀ argument ∈ forwarded parameters, Clean argument := by
  intro front rest parameters
  have given : parameters ≠ voidType := by decide
  obtain ⟨length, cut, clean, -⟩ := forwarded_pieces given
  obtain ⟨pieces, others, inFront, inRest, whole⟩ := cut front rest rfl
  have first : pieces.map identifier = ["hook".toList, []] := by
    rw [pieces_iff.mp inFront]
    decide +kernel
  have second : others.map identifier = [['v'], [], voidType] := by
    rw [pieces_iff.mp inRest]
    decide +kernel
  rw [first, second] at whole
  exact ⟨given, whole, length, clean⟩

end GLDispatch.Argument
