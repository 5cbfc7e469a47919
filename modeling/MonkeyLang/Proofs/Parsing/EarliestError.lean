import MonkeyLang.Proofs.Parsing.Acceptance
import MonkeyLang.Proofs.Parsing.Cursor
import MonkeyLang.Proofs.Parsing.Viability

/-
  The first syntax error comes at the earliest token. What is
  in front of that token can be completed to a program without
  errors, and together with it to none.

  Main declarations:
    * `Parse.programStatements_fails`   (no completion behind it)
    * `first_error_is_earliest`
-/

------------------------------------------------------------
-- No Completion
------------------------------------------------------------

namespace MonkeyLang

/-
  Whatever other tokens there are, a run on them fails as well
  if they are the same up to the place of the first error.
-/
theorem Parse.programStatements_fails
    {state : ParserState}
    {error : SyntaxError}
    {more : List SyntaxError}
    (hErrors :
      (programStatements state).2.errors = state.errors ++ error :: more)
    (other : ParserState) :
    ∃ place,
      error.Concerns (state.tokenAt place) ∧
        (state.SharesTo place other →
          (programStatements other).2.errors ≠ other.errors) := by
  -- One depth has to suffice for both runs.
  let depth := sufficientDepth state + sufficientDepth other
  have hState :=
    programStatements_agrees_of_le
      (show sufficientDepth state ≤ depth from Nat.le_add_right _ _)
  have hOther :=
    programStatements_agrees_of_le
      (show sufficientDepth other ≤ depth from Nat.le_add_left _ _)
  rcases
      programStatementsWith_watches (statementWithin_watches depth) depth
        state with
    ⟨value?, passed, errors, places, hAccount⟩
  have hRun := hAccount.run
  rw [hState] at hRun
  rw [hRun] at hErrors
  have hFound : errors = error :: more :=
    List.append_cancel_left hErrors
  have hConcerns := hAccount.concerns
  rw [hFound, List.forall₂_cons_left_iff] at hConcerns
  rcases hConcerns with ⟨place, later, hPlace, -, rfl⟩
  refine ⟨place, hPlace, fun hShares hSame => ?_⟩
  rcases hAccount.fails place rfl other hShares with
    ⟨found, others, hOthers⟩
  rw [hOther, hSame] at hOthers
  simp at hOthers

------------------------------------------------------------
-- Distinct Places
------------------------------------------------------------

/- The line and the column of a token. -/
def Token.place
    (token : Token) :
    Int × Int :=
  (token.line, token.column)

theorem SyntaxError.Concerns.place_eq
    {error : SyntaxError}
    {token other : Token}
    (hToken : error.Concerns token)
    (hOther : error.Concerns other) :
    token.place = other.place :=
  Prod.ext (hToken.1.symm.trans hOther.1)
    (hToken.2.symm.trans hOther.2)

/-
  If no two tokens have the same place, then an error about one
  of them has that token's index, or the token is the last one.
-/
theorem index_of_concerns
    {before behind : List Token}
    {token : Token}
    {error : SyntaxError}
    {index : Nat}
    (hDistinct :
      ((before ++ token :: behind).map Token.place).Nodup)
    (hToken : error.Concerns token)
    (hIndex :
      error.Concerns (endless (before ++ token :: behind) index)) :
    index = before.length ∨
      (behind = [] ∧ before.length ≤ index) := by
  let tokens := before ++ token :: behind
  have hLength :
      tokens.length = before.length + (behind.length + 1) := by
    simp [tokens]
  have hHere :
      (tokens.map Token.place)[before.length]? =
        some token.place := by
    simp [tokens]
  -- Equal places are at equal indices.
  have hSame :
      ∀ other found, tokens[other]? = some found →
        found.place = token.place → other = before.length := by
    intro other found hFound hPlace
    have hInside : before.length < (tokens.map Token.place).length := by
      rw [List.length_map]
      omega
    refine ((List.getElem?_inj hInside hDistinct).mp ?_).symm
    rw [hHere, List.getElem?_map, hFound, Option.map_some, hPlace]
  change error.Concerns (endless tokens index) at hIndex
  have hPlace := hIndex.place_eq hToken
  unfold endless at hPlace
  cases hFound : tokens[index]? with
  | some found =>
      rw [hFound] at hPlace
      exact .inl (hSame index found hFound hPlace)
  | none =>
      have hOutside := List.getElem?_eq_none_iff.mp hFound
      cases hLast : tokens.getLast? with
      | none =>
          have hNil := List.getLast?_eq_none_iff.mp hLast
          simp [hNil] at hLength
      | some last =>
          rw [hFound, hLast] at hPlace
          rw [List.getLast?_eq_getElem?] at hLast
          have hIndex := hSame _ last hLast hPlace
          refine .inr ⟨List.eq_nil_of_length_eq_zero ?_, ?_⟩ <;> omega

------------------------------------------------------------
-- The First Error
------------------------------------------------------------

/- Up to a token, it does not matter what is behind it. -/
theorem ParserState.sharesTo_ofTokens
    (before behind others : List Token)
    (token : Token) :
    (ofTokens (before ++ token :: behind)).SharesTo before.length
      (ofTokens (before ++ token :: others)) := by
  intro distance hDistance
  unfold tokenAt
  change
    ((before ++ token :: behind).drop distance).headD _ =
      ((before ++ token :: others).drop distance).headD _
  rw [List.drop_append_of_le_length hDistance,
    List.drop_append_of_le_length hDistance]
  cases before.drop distance <;> rfl

theorem errors_parseTokens
    (tokens : List Token) :
    (parseTokens tokens).errors =
      (Parse.programStatements (.ofTokens tokens)).2.errors := by
  unfold parseTokens
  rcases Parse.programStatements (.ofTokens tokens) with ⟨_, _⟩
  rfl

/- The beginning of a program, completed and ended. -/
theorem Viable.exists_program
    {front : List Token}
    (hViable : Viable Grammar.Statements front) :
    ∃ rest,
      (∀ token ∈ rest, token.kind ≠ .eof) ∧
        ∀ ending : Token, ending.kind = .eof →
          (parseTokens (front ++ rest ++ [ending])).errors = [] := by
  rcases hViable with ⟨rest, nodes, hDerived⟩
  have hInside := hDerived.ne_eof
  refine ⟨rest, (List.forall_mem_append.mp hInside).2, ?_⟩
  intro ending hEnding
  have hBefore :
      beforeEnd (front ++ rest ++ [ending]) = front ++ rest :=
    beforeEnd_append hInside (by simpa using hEnding)
  rw [parseTokens_of_derivable (hBefore.symm ▸ hDerived)]

section

variable {body : List Token} {last : Token}
variable {error : SyntaxError} {more : List SyntaxError}

/- The first error is about a token behind such a beginning. -/
theorem exists_viable_before
    (hLast : last.kind = .eof)
    (hErrors : (parseTokens (body ++ [last])).errors = error :: more) :
    ∃ front token rest,
      body ++ [last] = front ++ token :: rest ∧
        error.Concerns token ∧ Viable Grammar.Statements front := by
  rw [errors_parseTokens] at hErrors
  rcases Parse.programStatements_stalls _ error more hErrors with
    ⟨front, rest, hTokens, hConcerns, hViable⟩
  change body ++ [last] = front ++ rest at hTokens
  cases rest with
  | cons token rest =>
      exact ⟨front, token, rest, hTokens, hConcerns, hViable⟩
  | nil =>
      -- An end of input is in no beginning of a program.
      rcases hViable with ⟨rest, nodes, hDerived⟩
      rw [List.append_nil] at hTokens
      refine absurd hLast (hDerived.ne_eof last ?_)
      simp [← hTokens]

/-
  In tokens at different places, of which the last one is an end
  of input, the first error names the earliest token that no
  program goes on with. What is in front of it begins a program,
  and with it, if it is not an end of input, no tokens are
  parsed without an error.
-/
theorem first_error_is_earliest
    (hDistinct : ((body ++ [last]).map Token.place).Nodup)
    (hLast : last.kind = .eof)
    (hErrors : (parseTokens (body ++ [last])).errors = error :: more) :
    (∃ token ∈ body ++ [last], error.Concerns token) ∧
      ∀ before token behind,
        body ++ [last] = before ++ token :: behind →
        error.Concerns token →
          (∃ rest,
            (∀ token ∈ rest, token.kind ≠ .eof) ∧
              ∀ ending : Token, ending.kind = .eof →
                (parseTokens (before ++ rest ++ [ending])).errors =
                  []) ∧
          (token.kind ≠ .eof →
            ∀ others,
              (parseTokens (before ++ token :: others)).errors ≠
                []) := by
  rcases exists_viable_before hLast hErrors with
    ⟨front, found, rest, hFound, hConcerns, hViable⟩
  constructor
  · refine ⟨found, ?_, hConcerns⟩
    simp [hFound]
  intro before token behind hTokens hToken
  rw [errors_parseTokens] at hErrors
  rw [hTokens] at hDistinct hErrors
  constructor
  · have hIndex :
        error.Concerns
          (endless (before ++ token :: behind) front.length) := by
      rw [← hTokens, hFound]
      simpa [endless] using hConcerns
    have hLengths := congrArg List.length (hTokens.symm.trans hFound)
    simp only [List.length_append, List.length_cons] at hLengths
    have hLength : front.length = before.length := by
      rcases index_of_concerns hDistinct hToken hIndex with
        hIndex | ⟨rfl, hIndex⟩
      · exact hIndex
      · rw [List.length_nil] at hLengths
        omega
    have hFront :=
      (List.append_inj (hTokens.symm.trans hFound) hLength.symm).1
    exact hFront ▸ hViable.exists_program
  · intro hKind others hNone
    rcases
        Parse.programStatements_fails hErrors
          (.ofTokens (before ++ token :: others)) with
      ⟨place, hPlace, hFails⟩
    rw [ParserState.tokenAt_ofTokens] at hPlace
    rcases index_of_concerns hDistinct hToken hPlace with
      rfl | ⟨rfl, -⟩
    · have hShares :=
        ParserState.sharesTo_ofTokens before behind others token
      refine hFails hShares ?_
      rw [← errors_parseTokens, hNone]
      rfl
    · -- The last token is the end of input.
      have hSame := (List.append_inj' hTokens rfl).2
      rw [List.cons.injEq] at hSame
      exact hKind (hSame.1 ▸ hLast)

end

/- A word that needs a name behind it, and no name. -/
theorem first_error_is_earliest_missing_name :
    let word : Token := ⟨⟨"let", 1, 1⟩, .letWord⟩
    let sign : Token := ⟨⟨";", 1, 4⟩, .semicolon⟩
    (∃ rest,
      (∀ token ∈ rest, token.kind ≠ .eof) ∧
        ∀ ending : Token, ending.kind = .eof →
          (parseTokens ([word] ++ rest ++ [ending])).errors = []) ∧
      ∀ others,
        (parseTokens ([word] ++ sign :: others)).errors ≠ [] := by
  intro word sign
  have hErrors :
      (parseTokens ([word, sign] ++ [Token.endAt 1 5])).errors =
        [.about sign (.unexpected .ident .semicolon),
          .about sign (.startsNoExpression .semicolon)] := by
    decide +kernel
  have hBoth :=
    (first_error_is_earliest (by decide) rfl hErrors).2 [word] sign
      [Token.endAt 1 5] rfl ⟨rfl, rfl⟩
  exact ⟨hBoth.1, hBoth.2 (by decide)⟩

end MonkeyLang
