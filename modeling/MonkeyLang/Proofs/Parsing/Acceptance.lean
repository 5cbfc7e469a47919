import MonkeyLang.Proofs.Parsing.Completeness
import MonkeyLang.Proofs.Parsing.Soundness

/-
  The parser accepts the grammar: it finds no error in tokens
  if and only if they can be derived, and then it builds the
  tree of the derivation.

  Main declarations:
    * `Grammar.Statements.parses`
    * `parseTokens_of_derivable`     (completeness)
    * `derivable_of_errors_eq_nil`   (soundness)
    * `parseTokens_accepts_grammar`
-/

------------------------------------------------------------
-- Derivations
------------------------------------------------------------

namespace MonkeyLang

namespace Grammar

mutual

theorem Expression.parses
    {level : Nat}
    {tokens : List Token}
    {node : Node} :
    Expression level tokens node →
      Parse.ParsesExpression level tokens node
  | .tighter hTighter => hTighter.parses.tighter
  | .binary hOperator hLeft hRight =>
      .binary hOperator (Parse.of_mem_binaryOperatorsAt hOperator).2.2.2
        hLeft.parses hRight.parses
  | .unary hOperator hOperand => .unary hOperator hOperand.parses
  | .call hCallee hOpening hArguments hClosing =>
      .call hCallee.parses (Parse.noElse_of_lparen hOpening) hOpening
        hArguments.parses hClosing
  | .primary hPrimary => .primary hPrimary.parses

theorem Primary.parses
    {tokens : List Token}
    {node : Node} :
    Primary tokens node → Parse.ParsesPrimary tokens node
  | .identifier hKind => .identifier hKind
  | .string hKind => .string hKind
  | .integer hKind hValue hRange => .integer hKind hValue hRange
  | .boolean hKind hValue => .boolean hKind hValue
  | .grouped hOpening hInner hClosing =>
      .grouped hOpening hInner.parses hClosing
  | .ifThen hWord hOpening hCondition hClosing hConsequence =>
      .ifThen hWord hOpening hCondition.parses hClosing
        hConsequence.exists_head hConsequence.parses
  | .ifElse hWord hOpening hCondition hClosing hConsequence hOther
      hAlternative =>
      .ifElse hWord hOpening hCondition.parses hClosing
        hConsequence.exists_head hConsequence.parses hOther
        hAlternative.exists_head hAlternative.parses
  | .function hWord hOpening hParameters hClosing hBody =>
      .function hWord hOpening hParameters hClosing
        hBody.exists_head hBody.parses

theorem Arguments.parses
    {tokens : List Token}
    {nodes : List Node} :
    Arguments tokens nodes → Parse.ParsesArguments tokens nodes
  | .none => Parse.parsesArguments_none
  | .some hFirst hMore =>
      Parse.parsesArguments_some hFirst.exists_head hFirst.parses
        hMore hMore.parses

theorem MoreArguments.parses
    {tokens : List Token}
    {nodes : List Node} :
    MoreArguments tokens nodes →
      Parse.ParsesMoreArguments tokens nodes
  | .none => Parse.parsesMoreArguments_none
  | .more hComma hNext hMore =>
      Parse.parsesMoreArguments_more hComma hNext.parses hMore
        hMore.parses

theorem Block.parses
    {tokens : List Token}
    {node : Node} :
    Block tokens node → Parse.ParsesBlock tokens node
  | .intro _ hStatements hClosing =>
      Parse.parsesBlock hStatements.parses hClosing

theorem Statement.parses
    {tokens : List Token}
    {node : Node} :
    Statement tokens node → Parse.ParsesStatement tokens node
  | .letStatement hWord hName hSign hValue =>
      .letStatement hWord hName hSign hValue.parses
  | .returnStatement hWord hValue =>
      .returnStatement hWord hValue.parses
  | .expression hExpression => by
      rcases hExpression.exists_head with ⟨token, rest, hShape, hOpens⟩
      cases hShape
      exact .expression hOpens hExpression.parses
  | .block hBlock => .block hBlock.exists_head hBlock.parses

/- Whatever can be derived is parsed as its tree. -/
theorem Statements.parses
    {tokens : List Token}
    {nodes : List Node} :
    Statements tokens nodes → Parse.ParsesStatements tokens nodes
  | .none => .none
  | .ended hStatement hSemicolon hOthers =>
      .ended hStatement.exists_head hStatement.parses hSemicolon
        hOthers.parses
  | .unended hStatement hOthers hNext =>
      .unended hStatement.exists_head hStatement.parses
        (fun next hHead =>
          ⟨hOthers.startsStatement_head next hHead, hNext next hHead⟩)
        (fun _ _ hEnds => hEnds) hOthers.parses

end

end Grammar

------------------------------------------------------------
-- Programs
------------------------------------------------------------

/- The tokens in front of the end of input. -/
def beforeEnd
    (tokens : List Token) :
    List Token :=
  tokens.takeWhile fun token => token.kind ≠ .eof

/- Behind some tokens the input ends. -/
theorem beforeEnd_append
    {front rest : List Token}
    (hFront : ∀ token ∈ front, token.kind ≠ .eof)
    (hRest : ∀ token ∈ rest.head?, token.kind = .eof) :
    beforeEnd (front ++ rest) = front := by
  unfold beforeEnd
  rw [List.takeWhile_append_of_pos (by simpa using hFront)]
  cases rest with
  | nil => simp
  | cons token rest =>
      have hEnd : token.kind = .eof := hRest token rfl
      simp [hEnd]

theorem parseTokens_eq_of_run
    {tokens : List Token}
    {statements : List Node}
    {last : ParserState}
    (hRun :
      Parse.programStatements (ParserState.ofTokens tokens) =
        (some statements, last)) :
    parseTokens tokens = ⟨statements, last.errors⟩ := by
  unfold parseTokens
  rw [hRun]
  rfl

/- A program is read in a loop over statements. -/
theorem Parse.isLoop_programStatements :
    IsLoop programStatements := by
  intro state _ hEnd
  rw [programStatements_eq, current_bind, if_neg hEnd,
    ← programStatements_eq]

/- The loop stops where the input ends. -/
theorem Parse.programStatements_of_eof
    {state : ParserState}
    (hEnd : state.current.kind = .eof) :
    programStatements state = (some [], state) := by
  rw [programStatements_eq, current_bind, if_pos hEnd]
  rfl

/-
  However many statements fail, the loop over them comes to the
  end of the input, because each round passes over a token.
-/
theorem Parse.programStatements_ends
    (state : ParserState) :
    ∃ statements last,
      programStatements state = (some statements, last) ∧
        last.current.kind = .eof := by
  induction hLength : state.ahead.length
    using Nat.strongRecOn generalizing state with
  | _ length ih =>
      by_cases hEnd : state.current.kind = .eof
      · exact ⟨[], state, programStatements_of_eof hEnd, hEnd⟩
      · have hStep : state.ahead ≠ [] := by
          rw [ParserState.ahead_eq_cons hEnd]
          simp
        have hFewer := (leads statement state).length_ahead_le
        have hShorter :
            (statement state).2.next.ahead.length < length := by
          have hSome := List.length_pos_iff.mpr hStep
          rw [ParserState.length_ahead_next]
          omega
        rcases ih _ hShorter (statement state).2.next rfl with
          ⟨statements, last, hOthers, hLast⟩
        rw [programStatements_eq, current_bind, if_neg hEnd,
          prependWith_apply, hOthers]
        exact ⟨_, last, rfl, hLast⟩

/- Tokens that can be derived are parsed as their tree. -/
theorem parseTokens_of_derivable
    {tokens : List Token}
    {statements : List Node}
    (hDerived : Grammar.Statements (beforeEnd tokens) statements) :
    parseTokens tokens = ⟨statements, []⟩ := by
  let rest := tokens.dropWhile fun token => token.kind ≠ .eof
  have hAhead :
      (ParserState.ofTokens tokens).ahead =
        beforeEnd tokens ++ rest :=
    List.takeWhile_append_dropWhile.symm
  have hRest :
      (rest.headD (ParserState.ofTokens tokens).ending).kind = .eof := by
    cases hShape : rest with
    | nil => exact (ParserState.ofTokens tokens).ending_kind
    | cons token others =>
        have hHead := List.head?_dropWhile_not
          (fun token : Token => decide (token.kind ≠ .eof)) tokens
        rw [show tokens.dropWhile _ = token :: others from hShape]
          at hHead
        simpa using hHead
  rcases
      hDerived.parses _ Parse.isLoop_programStatements _ rest hAhead
        (.inr hRest) with
    ⟨last, hSpans, hRun⟩
  have hEnd : last.current.kind = .eof := by
    rw [hSpans.current_eq hAhead, hRest]
  rw [Parse.programStatements_of_eof hEnd] at hRun
  rw [parseTokens_eq_of_run hRun, hSpans.errors]
  simp [ParserState.ofTokens]

/- Tokens that are parsed without an error can be derived. -/
theorem derivable_of_errors_eq_nil
    {tokens : List Token}
    (hErrors : (parseTokens tokens).errors = []) :
    Grammar.Statements (beforeEnd tokens)
      (parseTokens tokens).statements := by
  have hClean := Parse.programStatements_sound (.ofTokens tokens)
  rcases hRun : Parse.programStatements (.ofTokens tokens) with
    ⟨found?, last⟩
  have hLast : last.errors = [] := by
    unfold parseTokens at hErrors
    rw [hRun] at hErrors
    exact hErrors
  unfold Parse.Clean at hClean
  rw [hRun] at hClean
  rcases hClean hLast with
    ⟨statements, rfl, hEnd, read, hSpans, hDerived⟩
  have hTokens : tokens = read ++ last.ahead := hSpans.ahead
  have hRead : beforeEnd tokens = read := by
    rw [hTokens]
    refine beforeEnd_append hDerived.ne_eof fun token hHead => ?_
    cases hAhead : last.ahead with
    | nil => simp [hAhead] at hHead
    | cons next rest =>
        have hEq : next = token := by simpa [hAhead] using hHead
        subst hEq
        rw [← ParserState.current_of_ahead hAhead]
        exact hEnd
  rw [parseTokens_eq_of_run hRun, hRead]
  exact hDerived

/-
  The tokens up to the end of input are parsed without an error
  if and only if they can be derived in the grammar. Then the
  program is the tree of the derivation, whichever it is, so
  that no tokens have two trees.
-/
theorem parseTokens_accepts_grammar
    (tokens : List Token) :
    ((parseTokens tokens).errors = [] ↔
      ∃ statements,
        Grammar.Statements (beforeEnd tokens) statements) ∧
    ∀ statements, Grammar.Statements (beforeEnd tokens) statements →
      (parseTokens tokens).program = .program statements := by
  constructor
  · constructor
    · intro hErrors
      exact ⟨_, derivable_of_errors_eq_nil hErrors⟩
    · rintro ⟨statements, hDerived⟩
      rw [parseTokens_of_derivable hDerived]
  · intro statements hDerived
    rw [parseTokens_of_derivable hDerived]
    rfl

/- A negated name is derived, and it is what is parsed. -/
theorem parseTokens_negated_name :
    let sign : Mark := ⟨"-", 1, 1⟩
    let name : Mark := ⟨"x", 1, 2⟩
    let tree : Node :=
      .expressionStatement sign
        (.unary sign "-" (.identifier ⟨name, "x"⟩))
    let tokens : List Token :=
      [⟨sign, .minus⟩, ⟨name, .ident⟩, Token.endAt 1 3]
    Grammar.Statements (beforeEnd tokens) [tree] ∧
      (parseTokens tokens).program = .program [tree] := by
  intro sign name tree tokens
  have hName :
      Grammar.Expression Grammar.callLevel [⟨name, .ident⟩]
        (.identifier ⟨name, "x"⟩) :=
    .primary (.identifier rfl)
  have hSign :
      Grammar.Expression Grammar.unaryLevel
        (⟨sign, .minus⟩ :: [⟨name, .ident⟩])
        (.unary sign "-" (.identifier ⟨name, "x"⟩)) :=
    .unary (by decide) hName.tighter
  have hAny := hSign.loosen (by decide : Grammar.anyLevel ≤ _)
  have hRow :
      Grammar.Statements [⟨sign, .minus⟩, ⟨name, .ident⟩] [tree] :=
    .unended (.expression hAny) .none (by simp)
  have hDerived : Grammar.Statements (beforeEnd tokens) [tree] := hRow
  exact ⟨hDerived,
    (parseTokens_accepts_grammar tokens).2 [tree] hDerived⟩

end MonkeyLang
