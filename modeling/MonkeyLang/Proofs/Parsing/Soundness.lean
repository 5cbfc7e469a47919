import MonkeyLang.Proofs.Parsing.Level
import MonkeyLang.Proofs.Parsing.Phrase

/-
  Tokens on which no error is reported can be derived in the
  grammar, and the result is the tree of the derivation.

  The proof is by induction on the number of tokens ahead. An
  expression that is being extended keeps a level at which it
  can be derived; the operator that comes next is no tighter
  than that level.

  Main declarations:
    * `Parse.expression_sound`
    * `Parse.statement_sound`
    * `Parse.programStatements_sound`
-/

------------------------------------------------------------
-- What Is Read
------------------------------------------------------------

namespace MonkeyLang

namespace Parse

/-
  Part of an expression has been read, which can be derived at
  some level; what comes next is no tighter than that level.
-/
def ReadsPart
    (low : Nat)
    (first : ParserState)
    (node : Node)
    (last : ParserState) :
    Prop :=
  ∃ level tokens,
    low ≤ level ∧
      first.Spans tokens last.next ∧
      Grammar.Expression level tokens node ∧
      (precedenceOf last.upcoming.kind).level ≤ level

/- An expression has been read, which nothing extends further. -/
def ReadsExpression
    (precedence : Precedence)
    (first : ParserState)
    (node : Node)
    (last : ParserState) :
    Prop :=
  ∃ tokens,
    first.Spans tokens last.next ∧
      Grammar.Expression (levelAbove precedence) tokens node ∧
      (precedenceOf last.upcoming.kind).level ≤ precedence.level

/- A block has been read. -/
def ReadsBlock
    (first : ParserState)
    (node : Node)
    (last : ParserState) :
    Prop :=
  ∃ tokens,
    first.Spans tokens last.next ∧ Grammar.Block tokens node

/- A statement has been read, with a semicolon or without. -/
def ReadsStatement
    (first : ParserState)
    (node : Node)
    (last : ParserState) :
    Prop :=
  ∃ tokens,
    Grammar.Statement tokens node ∧
      ((∃ semicolon : Token,
          semicolon.kind = .semicolon ∧
            first.Spans (tokens ++ [semicolon]) last.next) ∨
        (first.Spans tokens last.next ∧
          Grammar.MayFollow node last.upcoming.kind))

/- Statements have been read, up to a token of some kind. -/
def ReadsStatements
    (stop : TokenKind)
    (first : ParserState)
    (nodes : List Node)
    (last : ParserState) :
    Prop :=
  last.current.kind = stop ∧
    ∃ tokens,
      first.Spans tokens last ∧ Grammar.Statements tokens nodes

/- Where an expression starts, a run without errors reads one. -/
def SoundExpression
    (state : ParserState) :
    Prop :=
  ∀ precedence,
    Clean (expression precedence) state
      (ReadsExpression precedence state)

/- Where a statement starts, a run without errors reads one. -/
def SoundStatement
    (state : ParserState) :
    Prop :=
  Clean statement state (ReadsStatement state)

theorem ReadsPart.mono
    {low high : Nat}
    {first last : ParserState}
    {node : Node}
    (hReads : ReadsPart high first node last)
    (hLow : low ≤ high) :
    ReadsPart low first node last := by
  rcases hReads with ⟨level, tokens, hHigh, hRest⟩
  exact ⟨level, tokens, Nat.le_trans hLow hHigh, hRest⟩

theorem ReadsPart.of_primary
    {first last : ParserState}
    {tokens : List Token}
    {node : Node}
    (hSpans : first.Spans tokens last.next)
    (hPrimary : Grammar.Primary tokens node) :
    ReadsPart Grammar.unaryLevel first node last :=
  ⟨Grammar.callLevel, tokens, by decide, hSpans,
    .primary hPrimary, level_le_callLevel _⟩

theorem ReadsStatement.of_pastSemicolon
    {first middle : ParserState}
    {tokens : List Token}
    {node : Node}
    (hStatement : Grammar.Statement tokens node)
    (hSpans : first.Spans tokens middle.next)
    (hNext : Grammar.MayFollow node middle.upcoming.kind) :
    ReadsStatement first node middle.pastSemicolon := by
  refine ⟨tokens, hStatement, ?_⟩
  unfold ParserState.pastSemicolon
  split
  next hKind =>
    have hAll :=
      hSpans.concat (by rw [ParserState.current_next, hKind]; decide)
    exact .inl ⟨middle.upcoming, hKind, hAll⟩
  next => exact .inr ⟨hSpans, hNext⟩

------------------------------------------------------------
-- Operands
------------------------------------------------------------

theorem integerLiteral_sound
    {state : ParserState}
    (hKind : state.current.kind = .int) :
    Clean integerLiteral state
      (ReadsPart Grammar.unaryLevel state) := by
  have hSpans : state.Spans [state.current] state.next :=
    .one (by simp [hKind])
  unfold integerLiteral
  rw [Clean.current_bind]
  cases hValue : integerValue? state.current.literal with
  | none => exact .fail _ _ _ _
  | some value =>
      rcases Option.filter_eq_some_iff.mp hValue with
        ⟨hRead, hRange⟩
      exact .pure (.of_primary hSpans (.integer hKind hRead hRange))

theorem booleanLiteral_sound
    {state : ParserState}
    (hKind :
      state.current.kind = .trueWord ∨
        state.current.kind = .falseWord) :
    Clean booleanLiteral state
      (ReadsPart Grammar.unaryLevel state) := by
  have hSpans : state.Spans [state.current] state.next :=
    .one (by rcases hKind with hKind | hKind <;> simp [hKind])
  unfold booleanLiteral
  rw [Clean.current_bind]
  split
  next hLiteral =>
    exact .pure (.of_primary hSpans (.boolean hKind hLiteral))
  next =>
    split
    next hLiteral =>
      exact .pure (.of_primary hSpans (.boolean hKind hLiteral))
    next => exact .fail _ _ _ _

theorem parametersBehind_sound
    (state : ParserState) :
    Clean parametersBehind state fun names last =>
      ∃ tokens,
        state.next.Spans tokens last.next ∧
          Grammar.MoreNames tokens names := by
  induction hLength : state.next.ahead.length
    using Nat.strongRecOn generalizing state with
  | _ length ih =>
      rw [parametersBehind_eq]
      refine .branch (fun hComma => ?_) fun _ => ?_
      · rw [Clean.step_bind]
        have hFirst : state.next.current.kind ≠ .eof := by
          rw [ParserState.current_next, hComma]
          decide
        have hShorter := ParserState.length_next_lt hFirst
        apply Clean.bind (.expectName state.next)
        rintro name middle ⟨hName, rfl, rfl⟩ -
        have hSecond : state.next.next.current.kind ≠ .eof := by
          rw [ParserState.current_next, hName]
          decide
        have hFewer := ParserState.length_next_lt hSecond
        apply Clean.bind (ih _ (by omega) state.next.next rfl)
        rintro names last ⟨tokens, hSpans, hNames⟩ -
        exact .pure ⟨_, .cons hFirst (.cons hSecond hSpans),
          .more hComma hName hNames⟩
      · exact .pure ⟨[], .refl _, .none⟩

/- Parameters are read up to the closing parenthesis. -/
theorem parameters_sound
    (state : ParserState) :
    Clean parameters state fun names last =>
      last.current.kind = .rparen ∧
        ∃ tokens,
          state.next.Spans tokens last ∧
            Grammar.Names tokens names := by
  rw [parameters_eq]
  refine .branch (fun hClosing => ?_) fun _ => ?_
  · rw [Clean.step_bind]
    exact .pure ⟨hClosing, [], .refl _, .none⟩
  · apply Clean.bind (.expectName state)
    rintro name middle ⟨hName, rfl, rfl⟩ -
    have hFirst : state.next.current.kind ≠ .eof := by
      rw [ParserState.current_next, hName]
      decide
    apply Clean.bind (parametersBehind_sound state.next)
    rintro names last ⟨tokens, hSpans, hNames⟩ -
    apply Clean.expect_bind
    intro hClosing
    exact .pure ⟨hClosing, _, .cons hFirst hSpans,
      .some hName hNames⟩

section

variable {bound : Nat} {state : ParserState}
variable
  (hExpression :
    ∀ inner : ParserState,
      inner.ahead.length < bound → SoundExpression inner)
variable
  (hStatement :
    ∀ inner : ParserState,
      inner.ahead.length < bound → SoundStatement inner)
variable (hState : state.ahead.length ≤ bound)

include hExpression hState

theorem unary_sound
    (hKind : state.current.kind ∈ Grammar.unaryOperators) :
    Clean unary state (ReadsPart Grammar.unaryLevel state) := by
  have hEnd := Grammar.ne_eof_of_mem_unaryOperators hKind
  have hShorter := ParserState.length_next_lt hEnd
  rw [unary_eq]
  unfold unaryWith
  rw [Clean.current_bind, Clean.step_bind]
  apply Clean.bind (hExpression state.next (by omega) .unary)
  rintro node last ⟨tokens, hSpans, hDerived, hLevel⟩ -
  exact .pure ⟨Grammar.unaryLevel, _, Nat.le_refl _,
    .cons hEnd hSpans, .unary hKind hDerived, hLevel⟩

theorem grouped_sound
    (hKind : state.current.kind = .lparen) :
    Clean grouped state (ReadsPart Grammar.unaryLevel state) := by
  have hEnd : state.current.kind ≠ .eof := by simp [hKind]
  have hShorter := ParserState.length_next_lt hEnd
  rw [grouped_eq]
  unfold groupedWith
  rw [Clean.step_bind]
  apply Clean.bind (hExpression state.next (by omega) .lowest)
  rintro node last ⟨tokens, hSpans, hDerived, -⟩ -
  apply Clean.expect_bind
  intro hClosing
  have hAll :=
    ParserState.Spans.cons hEnd
      (hSpans.concat (by rw [ParserState.current_next, hClosing]; simp))
  exact .pure (.of_primary hAll (.grouped hKind hDerived hClosing))

omit hState in
theorem argumentsBehind_sound
    (state : ParserState)
    (hState : state.next.ahead.length ≤ bound) :
    Clean argumentsBehind state fun nodes last =>
      ∃ tokens,
        state.next.Spans tokens last.next ∧
          Grammar.MoreArguments tokens nodes := by
  induction hLength : state.next.ahead.length
    using Nat.strongRecOn generalizing state with
  | _ length ih =>
      rw [argumentsBehind_eq]
      refine .branch (fun hComma => ?_) fun _ => ?_
      · rw [Clean.step_bind, Clean.step_bind]
        have hFirst : state.next.current.kind ≠ .eof := by
          rw [ParserState.current_next, hComma]
          decide
        have hShorter := ParserState.length_next_lt hFirst
        apply Clean.bind (hExpression _ (by omega) .lowest)
        rintro node middle ⟨tokens, hSpans, hDerived, -⟩ -
        have hFewer := hSpans.length_le
        refine .bind (ih _ ?_ middle ?_ rfl) ?_
        · omega
        · omega
        rintro nodes last ⟨others, hOthers, hMore⟩ -
        exact .pure ⟨_, .cons hFirst (hSpans.trans hOthers),
          .more hComma hDerived hMore⟩
      · exact .pure ⟨[], .refl _, .none⟩

/- Arguments are read up to the closing parenthesis. -/
theorem arguments_sound
    (hKind : state.current.kind = .lparen) :
    Clean arguments state fun nodes last =>
      last.current.kind = .rparen ∧
        ∃ tokens,
          state.next.Spans tokens last ∧
            Grammar.Arguments tokens nodes := by
  have hShorter : state.next.ahead.length < state.ahead.length :=
    ParserState.length_next_lt (by simp [hKind])
  rw [arguments_eq]
  refine .branch (fun hClosing => ?_) fun _ => ?_
  · rw [Clean.step_bind]
    exact .pure ⟨hClosing, [], .refl _, .none⟩
  · rw [Clean.step_bind]
    apply Clean.bind (hExpression _ (by omega) .lowest)
    rintro node middle ⟨tokens, hSpans, hDerived, -⟩ -
    have hFewer := hSpans.length_le
    refine
      .bind (argumentsBehind_sound hExpression middle (by omega)) ?_
    rintro nodes last ⟨others, hOthers, hMore⟩ -
    apply Clean.expect_bind
    intro hClosing
    exact .pure ⟨hClosing, _, hSpans.trans hOthers,
      .some hDerived hMore⟩

/- A binary operator extends what has been read before it. -/
theorem binary_sound
    {middle : ParserState}
    {left : Node}
    {low : Nat}
    (hLeft : ReadsPart low state left middle)
    (hLow : low ≤ (precedenceOf middle.upcoming.kind).level)
    (hKind : extension? middle.upcoming.kind = some .binary) :
    Clean (binary left) middle.next (ReadsPart low state) := by
  rcases hLeft with
    ⟨level, tokens, -, hBefore, hLeftDerived, hLoose⟩
  rcases level_of_binary hKind with ⟨hOperator, hAbove⟩
  have hEnd : middle.next.current.kind ≠ .eof :=
    Grammar.ne_eof_of_mem_binaryOperatorsAt hOperator
  have hShorter := ParserState.length_next_lt hEnd
  have hFewer := hBefore.length_le
  rw [binary_eq]
  unfold binaryWith
  rw [Clean.current_bind, Clean.step_bind]
  apply Clean.bind (hExpression middle.next.next (by omega) _)
  rintro right last ⟨others, hSpans, hDerived, hClosed⟩ -
  rw [ParserState.current_next, hAbove] at hDerived
  exact .pure ⟨_, _, hLow, hBefore.trans (.cons hEnd hSpans),
    .binary hOperator (hLeftDerived.loosen hLoose) hDerived, hClosed⟩

/- So does a call. -/
theorem call_sound
    {middle : ParserState}
    {left : Node}
    {low : Nat}
    (hLeft : ReadsPart low state left middle)
    (hLow : low ≤ (precedenceOf middle.upcoming.kind).level)
    (hKind : middle.upcoming.kind = .lparen) :
    Clean (call left) middle.next (ReadsPart low state) := by
  rcases hLeft with
    ⟨level, tokens, -, hBefore, hLeftDerived, hLoose⟩
  have hEnd : middle.next.current.kind ≠ .eof := by simp [hKind]
  have hFewer := hBefore.length_le
  rw [hKind] at hLow hLoose
  rw [call_eq, Clean.current_bind]
  refine .bind (arguments_sound hExpression (by omega) hKind) ?_
  rintro nodes last ⟨hClosing, others, hSpans, hDerived⟩ -
  have hAll :=
    hBefore.trans (.cons hEnd (hSpans.concat (by simp [hClosing])))
  exact .pure ⟨Grammar.callLevel, _, hLow, hAll,
    .call (hLeftDerived.loosen hLoose) hKind hDerived hClosing,
    level_le_callLevel _⟩

theorem widened_sound
    {precedence : Precedence}
    {extension : Extension}
    {left : Node}
    {middle : ParserState}
    (hLeft : ReadsPart (levelAbove precedence) state left middle)
    (hLow :
      levelAbove precedence ≤
        (precedenceOf middle.upcoming.kind).level)
    (hExtension : extension? middle.upcoming.kind = some extension) :
    Clean (widened extension left) middle.next
      (ReadsPart (levelAbove precedence) state) := by
  cases extension with
  | binary =>
      exact binary_sound hExpression hState hLeft hLow hExtension
  | call =>
      exact
        call_sound hExpression hState hLeft hLow
          (kind_of_call hExtension)

/-
  What has been read is extended for as long as the operator
  that comes next binds tighter.
-/
theorem extend_sound
    {precedence : Precedence}
    {left : Node}
    {middle : ParserState}
    (hLeft : ReadsPart (levelAbove precedence) state left middle) :
    Clean (extend precedence left) middle
      (ReadsExpression precedence state) := by
  induction hLength : middle.next.ahead.length
    using Nat.strongRecOn generalizing middle left with
  | _ length ih =>
      have hStop :
          (precedenceOf middle.upcoming.kind).level ≤
              precedence.level →
            ReadsExpression precedence state left middle := by
        rcases hLeft with ⟨level, tokens, hLow, hSpans, hDerived, -⟩
        exact fun hClosed =>
          ⟨tokens, hSpans, hDerived.loosen hLow, hClosed⟩
      rw [extend_eq, Clean.upcoming_bind]
      split
      next hTighter =>
        have hLow :
            levelAbove precedence ≤
              (precedenceOf middle.upcoming.kind).level :=
          Nat.le_trans (Nat.min_le_left _ _) hTighter.2
        cases hExtension : extension? middle.upcoming.kind with
        | none =>
            exact .pure (hStop (level_of_extension?_none hExtension _))
        | some extension =>
            have hWider :=
              widened_sound hExpression hState hLeft hLow hExtension
            have hShorter :
                middle.next.next.ahead.length <
                  middle.next.ahead.length :=
              ParserState.length_next_lt
                (ne_eof_of_extension? hExtension)
            rw [Clean.step_bind]
            apply Clean.bind hWider.forward
            rintro wider last ⟨hReads, hLeads⟩ -
            have hFewer := hLeads.length_ahead_le
            refine ih _ ?_ hReads rfl
            rw [ParserState.length_ahead_next last]
            omega
      next hStay =>
        exact .pure (hStop (level_of_not_tighter hStay))

end

------------------------------------------------------------
-- Statements in a Row
------------------------------------------------------------

/- Statements that follow a statement are added to it. -/
theorem ReadsStatement.prepend
    {stop : TokenKind}
    {first middle last : ParserState}
    {node : Node}
    {nodes : List Node}
    (hFirst : ReadsStatement first node middle)
    (hOthers : ReadsStatements stop middle.next nodes last) :
    ReadsStatements stop first (node :: nodes) last := by
  rcases hFirst with ⟨tokens, hStatement, hEnding⟩
  rcases hOthers with ⟨hStop, others, hSpans, hStatements⟩
  refine ⟨hStop, ?_⟩
  rcases hEnding with ⟨semicolon, hKind, hBefore⟩ | ⟨hBefore, hNext⟩
  · have hAll := hBefore.trans hSpans
    rw [List.append_assoc] at hAll
    exact ⟨_, hAll, .ended hStatement hKind hStatements⟩
  · refine ⟨_, hBefore.trans hSpans,
      .unended hStatement hStatements ?_⟩
    intro next hHead
    have hCurrent : middle.upcoming = next := by
      cases others with
      | nil => simp at hHead
      | cons token others =>
          have hEq : token = next := by simpa using hHead
          subst hEq
          exact ParserState.current_of_ahead hSpans.ahead
    exact hCurrent ▸ hNext

theorem ReadsStatement.length_lt
    {first last : ParserState}
    {node : Node}
    (hReads : ReadsStatement first node last) :
    last.next.ahead.length < first.ahead.length := by
  rcases hReads with ⟨tokens, hStatement, hEnding⟩
  rcases hStatement.exists_head with ⟨token, rest, rfl, -⟩
  rcases hEnding with ⟨semicolon, -, hSpans⟩ | ⟨hSpans, -⟩
  · rw [hSpans.ahead, List.length_append, List.length_append,
      List.length_cons]
    omega
  · rw [hSpans.ahead, List.length_append, List.length_cons]
    omega

/-
  A loop over statements: it stops at a token of some kind, or
  it fails, or it goes on with one statement more.
-/
theorem statements_sound
    {bound : Nat}
    {stop : TokenKind}
    {loop : Parse (List Node)}
    [Forward loop]
    (hLoop :
      ∀ state : ParserState,
        (state.current.kind = stop ∧ loop state = (some [], state)) ∨
        (∃ token cause, loop state = fail token cause state) ∨
        loop state = prependWith statement loop state)
    (hStatement :
      ∀ inner : ParserState,
        inner.ahead.length < bound → SoundStatement inner)
    {state : ParserState}
    (hState : state.ahead.length < bound) :
    Clean loop state (ReadsStatements stop state) := by
  induction hLength : state.ahead.length
    using Nat.strongRecOn generalizing state with
  | _ length ih =>
      rcases hLoop state with
        ⟨hStop, hRun⟩ | ⟨token, cause, hRun⟩ | hRun
      · exact .of_eq hRun ⟨hStop, [], .refl _, .none⟩
      · unfold Clean
        rw [hRun]
        exact Clean.fail token cause state _
      · unfold Clean
        rw [hRun]
        apply Clean.bind (.attempt (hStatement state hState))
        rintro node? middle ⟨node, rfl, hReads⟩ -
        have hFewer := hReads.length_lt
        rw [Clean.step_bind]
        apply Clean.bind (ih _ (by omega) (by omega) rfl)
        rintro nodes last hOthers -
        exact .pure (hReads.prepend hOthers)

/- The statements in a block are read up to the closing brace. -/
theorem statementsOfBlock_sound
    {bound : Nat}
    {state : ParserState}
    (hStatement :
      ∀ inner : ParserState,
        inner.ahead.length < bound → SoundStatement inner)
    (hState : state.ahead.length < bound) :
    Clean blockStatements state (ReadsStatements .rbrace state) := by
  refine statements_sound (fun inner => ?_) hStatement hState
  rw [blockStatements_eq, current_bind]
  split
  next hBrace => exact .inl ⟨hBrace, rfl⟩
  next =>
    split
    next => exact .inr (.inl ⟨_, _, rfl⟩)
    next =>
      rw [← blockStatements_eq]
      exact .inr (.inr rfl)

section

variable {bound : Nat} {state : ParserState}
variable
  (hExpression :
    ∀ inner : ParserState,
      inner.ahead.length < bound → SoundExpression inner)
variable
  (hStatement :
    ∀ inner : ParserState,
      inner.ahead.length < bound → SoundStatement inner)
variable (hState : state.ahead.length ≤ bound)

include hStatement hState

theorem block_sound
    (hKind : state.current.kind = .lbrace) :
    Clean block state (ReadsBlock state) := by
  have hEnd : state.current.kind ≠ .eof := by simp [hKind]
  have hShorter := ParserState.length_next_lt hEnd
  rw [block_eq, Clean.current_bind, Clean.step_bind]
  apply Clean.bind (statementsOfBlock_sound hStatement (by omega))
  rintro nodes last ⟨hClosing, tokens, hSpans, hDerived⟩ -
  have hAll :=
    ParserState.Spans.cons hEnd (hSpans.concat (by simp [hClosing]))
  exact .pure ⟨_, hAll, .intro hKind hDerived hClosing⟩

theorem functionLiteral_sound
    (hKind : state.current.kind = .fnWord) :
    Clean functionLiteral state
      (ReadsPart Grammar.unaryLevel state) := by
  have hWord : state.current.kind ≠ .eof := by simp [hKind]
  have hShorter := ParserState.length_next_lt hWord
  rw [functionLiteral_eq, Clean.current_bind]
  apply Clean.expect_bind
  intro hOpening
  have hOpen : state.next.current.kind ≠ .eof := by simp [hOpening]
  apply Clean.bind (parameters_sound state.next)
  rintro names middle ⟨hClosing, parameters, hBefore, hNames⟩ -
  have hClose : middle.current.kind ≠ .eof := by simp [hClosing]
  have hFewer := hBefore.length_le
  have hLast := ParserState.length_next_lt hClose
  have hFirst := ParserState.length_next_lt hOpen
  apply Clean.expect_bind
  intro hBrace
  refine .bind (block_sound hStatement (by omega) hBrace) ?_
  rintro body last ⟨tokens, hSpans, hBody⟩ -
  have hAll :=
    ParserState.Spans.cons hWord
      (.cons hOpen (hBefore.trans (.cons hClose hSpans)))
  exact .pure (.of_primary hAll
    (.function hKind hOpening hNames hClosing hBody))

include hExpression

/-
  A conditional is the longest chain of routines, and that it
  only goes forward is found routine by routine.
-/
set_option synthInstance.maxSize 512 in
theorem ifExpression_sound
    (hKind : state.current.kind = .ifWord) :
    Clean ifExpression state
      (ReadsPart Grammar.unaryLevel state) := by
  have hWord : state.current.kind ≠ .eof := by simp [hKind]
  have hShorter := ParserState.length_next_lt hWord
  rw [ifExpression_eq]
  unfold ifExpressionWith
  rw [Clean.current_bind]
  apply Clean.expect_bind
  intro hOpening
  have hOpen : state.next.current.kind ≠ .eof := by simp [hOpening]
  have hFirst := ParserState.length_next_lt hOpen
  rw [Clean.step_bind]
  apply Clean.bind (hExpression _ (by omega) .lowest)
  rintro condition middle ⟨tokens, hCondition, hTest, -⟩ -
  refine .expect_bind fun hClosing => .expect_bind fun hBrace => ?_
  have hClose : middle.next.current.kind ≠ .eof := by simp [hClosing]
  have hFewer := hCondition.length_le
  have hLast := ParserState.length_next_lt hClose
  refine .bind (block_sound hStatement (by omega) hBrace) ?_
  rintro consequence last ⟨body, hBody, hBlock⟩ -
  have hBefore :=
    ParserState.Spans.cons hWord
      (.cons hOpen (hCondition.trans (.cons hClose hBody)))
  have hBodyFewer := hBody.length_le
  refine .branch (fun hElse => ?_) fun _ => ?_
  · have hOther : last.next.current.kind ≠ .eof := by simp [hElse]
    have hOtherLast := ParserState.length_next_lt hOther
    rw [Clean.step_bind]
    apply Clean.expect_bind
    intro hOtherBrace
    refine .bind (block_sound hStatement (by omega) hOtherBrace) ?_
    rintro alternative final ⟨other, hOtherBody, hOtherBlock⟩ -
    have hAll := hBefore.trans (.cons hOther hOtherBody)
    simp only [List.cons_append, List.append_assoc] at hAll
    exact .pure (.of_primary hAll
      (.ifElse hKind hOpening hTest hClosing hBlock hElse hOtherBlock))
  · exact .pure (.of_primary hBefore
      (.ifThen hKind hOpening hTest hClosing hBlock))

------------------------------------------------------------
-- Expressions and Statements
------------------------------------------------------------

theorem opened_sound
    {opening : Opening}
    (hOpening : opening? state.current.kind = some opening) :
    Clean (opened opening) state
      (ReadsPart Grammar.unaryLevel state) := by
  have hKind := Grammar.kind_of_opening? hOpening
  have hSpans : state.Spans [state.current] state.next := by
    refine .one fun hEnd => ?_
    simp [hEnd, opening?_eof] at hOpening
  cases opening with
  | identifier =>
      exact .of_eq rfl (.of_primary hSpans (.identifier hKind))
  | string =>
      exact .of_eq rfl (.of_primary hSpans (.string hKind))
  | integer => exact integerLiteral_sound hKind
  | boolean => exact booleanLiteral_sound hKind
  | unary => exact unary_sound hExpression hState hKind
  | grouped => exact grouped_sound hExpression hState hKind
  | ifExpression =>
      exact ifExpression_sound hExpression hStatement hState hKind
  | functionLiteral =>
      exact functionLiteral_sound hStatement hState hKind

theorem soundExpression_of_inner : SoundExpression state := by
  intro precedence
  rw [expression_eq, Clean.current_bind]
  cases hOpening : opening? state.current.kind with
  | none => exact .fail _ _ _ _
  | some opening =>
      refine
        .bind (opened_sound hExpression hStatement hState hOpening) ?_
      intro left middle hReads _
      exact
        extend_sound hExpression hState
          (hReads.mono (levelAbove_le_unaryLevel precedence))

omit hStatement in
theorem letStatement_sound
    (hKind : state.current.kind = .letWord) :
    Clean (letStatementWith expression) state
      (ReadsStatement state) := by
  have hWord : state.current.kind ≠ .eof := by simp [hKind]
  have hShorter := ParserState.length_next_lt hWord
  unfold letStatementWith
  rw [Clean.current_bind]
  apply Clean.bind (.expectName state)
  rintro name middle ⟨hName, rfl, rfl⟩ -
  apply Clean.expect_bind
  intro hSign
  rw [Clean.step_bind]
  have hFewer :
      state.next.next.next.ahead.length ≤ state.next.ahead.length := by
    simp
    omega
  apply Clean.bind (.terminated (hExpression _ (by omega) .lowest))
  rintro node last ⟨middle, ⟨tokens, hSpans, hDerived, hNext⟩, rfl⟩ -
  have hAll :=
    ParserState.Spans.cons hWord
      (.cons (by simp [hName]) (.cons (by simp [hSign]) hSpans))
  exact .pure (.of_pastSemicolon
    (.letStatement hKind hName hSign hDerived) hAll
    (mayFollow_of_level _ hNext))

omit hStatement in
theorem returnStatement_sound
    (hKind : state.current.kind = .returnWord) :
    Clean (returnStatementWith expression) state
      (ReadsStatement state) := by
  have hWord : state.current.kind ≠ .eof := by simp [hKind]
  have hShorter := ParserState.length_next_lt hWord
  unfold returnStatementWith
  rw [Clean.current_bind, Clean.step_bind]
  apply Clean.bind (.terminated (hExpression _ (by omega) .lowest))
  rintro node last ⟨middle, ⟨tokens, hSpans, hDerived, hNext⟩, rfl⟩ -
  exact .pure (.of_pastSemicolon
    (.returnStatement hKind hDerived) (.cons hWord hSpans)
    (mayFollow_of_level _ hNext))

omit hExpression hStatement hState in
theorem expressionStatement_sound
    (hHere : SoundExpression state) :
    Clean (expressionStatementWith expression) state
      (ReadsStatement state) := by
  unfold expressionStatementWith
  rw [Clean.current_bind]
  apply Clean.bind (.terminated (hHere .lowest))
  rintro node last ⟨middle, ⟨tokens, hSpans, hDerived, hNext⟩, rfl⟩ -
  rcases hDerived.exists_head with ⟨token, rest, rfl, -⟩
  have hCurrent : state.current = token :=
    ParserState.current_of_ahead hSpans.ahead
  rw [hCurrent]
  exact .pure (.of_pastSemicolon (.expression hDerived) hSpans
    (mayFollow_of_level _ hNext))

theorem soundStatement_of_inner
    (hHere : SoundExpression state) :
    SoundStatement state := by
  unfold SoundStatement
  rw [statement_eq]
  unfold statementWith
  rw [Clean.current_bind]
  split
  next hKind => exact letStatement_sound hExpression hState hKind
  next hKind => exact returnStatement_sound hExpression hState hKind
  next hKind =>
    refine
      Clean.mono (.terminated (block_sound hStatement hState hKind)) ?_
    rintro node last ⟨middle, ⟨tokens, hSpans, hBlock⟩, rfl⟩
    refine .of_pastSemicolon (.block hBlock) hSpans ?_
    cases hBlock
    trivial
  next => exact expressionStatement_sound hHere

end

/- Whatever is read without errors can be derived. -/
theorem sound
    (state : ParserState) :
    SoundExpression state ∧ SoundStatement state := by
  induction hLength : state.ahead.length
    using Nat.strongRecOn generalizing state with
  | _ length ih =>
      have hExpression :
          ∀ inner : ParserState,
            inner.ahead.length < length → SoundExpression inner :=
        fun inner hInner => (ih _ hInner inner rfl).1
      have hStatement :
          ∀ inner : ParserState,
            inner.ahead.length < length → SoundStatement inner :=
        fun inner hInner => (ih _ hInner inner rfl).2
      have hHere :=
        soundExpression_of_inner hExpression hStatement
          (Nat.le_of_eq hLength)
      exact ⟨hHere,
        soundStatement_of_inner hExpression hStatement
          (Nat.le_of_eq hLength) hHere⟩

theorem blockStatements_sound
    (state : ParserState) :
    Clean blockStatements state (ReadsStatements .rbrace state) :=
  statementsOfBlock_sound (fun inner _ => (sound inner).2)
    (Nat.lt_succ_self _)

theorem programStatements_sound
    (state : ParserState) :
    Clean programStatements state (ReadsStatements .eof state) := by
  have hLoop :
      ∀ inner : ParserState,
        (inner.current.kind = .eof ∧
          programStatements inner = (some [], inner)) ∨
        (∃ token cause,
          programStatements inner = fail token cause inner) ∨
        programStatements inner =
          prependWith statement programStatements inner := by
    intro inner
    rw [programStatements_eq, current_bind]
    split
    next hEnd => exact .inl ⟨hEnd, rfl⟩
    next =>
      rw [← programStatements_eq]
      exact .inr (.inr rfl)
  exact
    statements_sound hLoop (fun inner _ => (sound inner).2)
      (Nat.lt_succ_self _)

end Parse

end MonkeyLang
