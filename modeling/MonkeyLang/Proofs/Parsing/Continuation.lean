import MonkeyLang.Proofs.Parsing.Joining

/-
  What follows a program that is ended by a semicolon. The
  parser holds one token more than it has used, but nothing that
  it decides in front of the semicolon depends on that token:
  whatever follows, malformed or not, is parsed as if it stood
  alone.

  Main declarations:
    * `Grammar.Statements.parses_ended`
    * `parseTokens_append`
-/

------------------------------------------------------------
-- The Same Tokens Again
------------------------------------------------------------

namespace MonkeyLang

/-
  How many tokens have been passed over makes no difference to
  the tokens that are ahead.
-/
theorem Parse.programStatements_resumed
    {state : ParserState}
    {tokens : List Token}
    (hAhead : state.ahead = tokens)
    (hEnding :
      tokens ≠ [] → state.ending = (ParserState.ofTokens tokens).ending)
    (hErrors : state.errors = []) :
    (programStatements state).1 =
        some (parseTokens tokens).statements ∧
      (programStatements state).2.errors =
        (parseTokens tokens).errors := by
  by_cases hNil : tokens = []
  · subst hNil
    have hEnd : state.current.kind = .eof :=
      ParserState.current_kind_of_length (by simp [hAhead])
    rw [programStatements_of_eof hEnd]
    exact ⟨rfl, hErrors⟩
  · have hAlike :
        Correspondence.identical.Alike state (.ofTokens tokens) := by
      refine ⟨?_, (hEnding hNil).symm, ?_⟩
      · rw [hAhead]
        exact List.forall₂_same.mpr fun _ _ => rfl
      · rw [hErrors]
        exact .nil
    have hRuns :=
      Correspondence.identical.programStatements_alike _ _ hAlike
    have hResult := Correspondence.identical_result hRuns.1
    have hLast := Correspondence.identical_errors hRuns.2.errors
    rcases programStatements_ends (.ofTokens tokens) with
      ⟨statements, last, hRun, -⟩
    rw [hRun] at hResult hLast
    rw [hResult, hLast, parseTokens_eq_of_run hRun]
    exact ⟨rfl, rfl⟩

------------------------------------------------------------
-- Behind a Semicolon
------------------------------------------------------------

/-
  Statements of which the last is ended by a semicolon are read
  before anything. Only the last statement of a list looks at
  what follows the list, and here it looks at its semicolon.
-/
theorem Grammar.Statements.parses_ended
    {tokens : List Token}
    {nodes : List Node} :
    Statements tokens nodes →
      (∀ token ∈ tokens.getLast?, token.kind = .semicolon) →
        Parse.ParsesStatementsBefore Parse.AnyNext tokens nodes
  | .none, _ => .none
  | .ended hStatement hSemicolon hOthers, hLast =>
      .ended hStatement.exists_head hStatement.parses hSemicolon
        (hOthers.parses_ended fun token hToken =>
          hLast token
            (List.mem_getLast?_append_of_mem_getLast?
              (List.mem_getLast?_cons hToken)))
  | @Statements.unended front others node nodes hStatement hOthers
      hNext, hLast => by
      have hSome : others ≠ [] := by
        rintro rfl
        rcases hStatement.unended with ⟨inner, token, rfl, hKind⟩
        exact hKind (hLast token (by simp))
      have hRest :=
        hOthers.parses_ended fun token hToken =>
          hLast token (List.mem_getLast?_append_of_mem_getLast? hToken)
      refine .unended hStatement.exists_head hStatement.parses ?_ ?_ hRest
      · intro next hHead
        exact ⟨hOthers.startsStatement_head next hHead, hNext next hHead⟩
      · exact fun hNil => absurd hNil hSome

/- At the end of the input stands the last of all tokens. -/
theorem ParserState.ending_append
    (tokens : List Token)
    {others : List Token}
    (hOthers : others ≠ []) :
    (ofTokens (tokens ++ others)).ending = (ofTokens others).ending := by
  simp only [ofTokens]
  rw [List.getLast?_append_of_ne_nil _ hOthers]

/-
  Tokens without an end of input among them, ended by a
  semicolon, in which no errors are found: whatever tokens
  follow, their statements come behind those in front, and the
  errors are theirs.
-/
theorem parseTokens_append
    {tokens : List Token}
    {ending : Token}
    (hTokens : ∀ token ∈ tokens, token.kind ≠ .eof)
    (hLast : ∀ token ∈ tokens.getLast?, token.kind = .semicolon)
    (hEnding : ending.kind = .eof)
    (hErrors : (parseTokens (tokens ++ [ending])).errors = [])
    (others : List Token) :
    parseTokens (tokens ++ others) =
      ⟨(parseTokens (tokens ++ [ending])).statements ++
          (parseTokens others).statements,
        (parseTokens others).errors⟩ := by
  have hDerived := derivable_of_errors_eq_nil hErrors
  rw [beforeEnd_append hTokens (by simpa using hEnding)] at hDerived
  rcases
      hDerived.parses_ended hLast _ Parse.isLoop_programStatements
        (.ofTokens (tokens ++ others)) others rfl trivial with
    ⟨last, hSpans, hRun⟩
  have hResumed :=
    Parse.programStatements_resumed (hSpans.ahead_eq rfl)
      (fun hOthers =>
        hSpans.ending.trans (ParserState.ending_append tokens hOthers))
      hSpans.errors
  rw [hResumed.1, Option.map_some] at hRun
  rw [parseTokens_eq_of_run hRun, hResumed.2]

/- A name, and behind its semicolon something that is no statement. -/
theorem parseTokens_append_stray :
    let name : Token := ⟨⟨"x", 1, 1⟩, .ident⟩
    let semicolon : Token := ⟨⟨";", 1, 2⟩, .semicolon⟩
    let closing : Token := ⟨⟨")", 1, 4⟩, .rparen⟩
    let tree : Node :=
      .expressionStatement name.toMark
        (.identifier ⟨name.toMark, "x"⟩)
    parseTokens [name, semicolon, closing, name] =
      ⟨[tree, tree], [.about closing (.startsNoExpression .rparen)]⟩ := by
  intro name semicolon closing tree
  have hFront :
      parseTokens ([name, semicolon] ++ [Token.endAt 1 3]) =
        ⟨[tree], []⟩ := by
    rfl
  have hOthers :
      parseTokens [closing, name] =
        ⟨[tree], [.about closing (.startsNoExpression .rparen)]⟩ := by
    rfl
  have hAll :=
    @parseTokens_append [name, semicolon] (Token.endAt 1 3)
      (by simp [name, semicolon]) (by simp [semicolon]) rfl
      (by rw [hFront]) [closing, name]
  rw [hFront, hOthers] at hAll
  exact hAll

end MonkeyLang
