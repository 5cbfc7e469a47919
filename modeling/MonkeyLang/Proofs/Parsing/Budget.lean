import MonkeyLang.Proofs.Parsing.Acceptance

/-
  How far parsing goes on stepping. It steps past the end of
  the input as well: whatever fails there hands a failure to the
  block around it, and that block tries once more. Such a step
  is paid for by a token that was passed over earlier, so that
  there are never more than two steps for each token.

  Main declarations:
    * `ParserState.budget`    (steps taken, and steps to come)
    * `ParserState.SavesTo`   (nothing done, or a step saved)
    * `Parse.Frugal`          (a run that saves a step)
    * `Parse.within_frugal`   (every routine at every depth)
    * `parsing_ends_within_budget`
    * `open_braces_use_up_budget`   (there may be as many)
-/

------------------------------------------------------------
-- Budgets
------------------------------------------------------------

namespace MonkeyLang

namespace ParserState

/- The steps taken so far, and two more for each token ahead. -/
def budget
    (state : ParserState) :
    Nat :=
  state.position + 2 * state.ahead.length

theorem ahead_ne_nil
    {state : ParserState}
    (hKind : state.current.kind ≠ .eof) :
    state.ahead ≠ [] := by
  rw [ahead_eq_cons hKind]
  exact List.cons_ne_nil _ _

/- A token that comes next stands behind another one. -/
theorem ahead_ne_nil_of_next
    {state : ParserState}
    (hNext : state.next.ahead ≠ []) :
    state.ahead ≠ [] := by
  intro hNil
  rw [ahead_next, hNil] at hNext
  exact hNext rfl

/- A step over a token costs one of the two. -/
theorem budget_next_lt
    {state : ParserState}
    (hAhead : state.ahead ≠ []) :
    state.next.budget < state.budget := by
  have hSome := List.length_pos_iff.mpr hAhead
  unfold budget
  rw [length_ahead_next]
  change state.position + 1 + _ < _
  omega

/- A step past the end costs one that was saved. -/
theorem budget_next_le
    (state : ParserState) :
    state.next.budget ≤ state.budget + 1 := by
  unfold budget
  rw [length_ahead_next]
  change state.position + 1 + _ ≤ _
  omega

/-
  From one state to another no token is passed over, or the
  budget has gone down.
-/
inductive SavesTo
    (first last : ParserState) :
    Prop where
  | still
      (hPosition : last.position = first.position)
      (hAhead : last.ahead = first.ahead)
  | saved (hBudget : last.budget < first.budget)

namespace SavesTo

theorem refl
    (state : ParserState) :
    state.SavesTo state :=
  .still rfl rfl

theorem next
    {state : ParserState}
    (hAhead : state.ahead ≠ []) :
    state.SavesTo state.next :=
  .saved (budget_next_lt hAhead)

theorem budget_le
    {first last : ParserState}
    (hSaves : first.SavesTo last) :
    last.budget ≤ first.budget := by
  cases hSaves with
  | still hPosition hAhead =>
      refine Nat.le_of_eq ?_
      unfold budget
      rw [hPosition, hAhead]
  | saved hBudget => exact Nat.le_of_lt hBudget

theorem trans
    {first middle last : ParserState}
    (hFirst : first.SavesTo middle)
    (hLast : middle.SavesTo last) :
    first.SavesTo last := by
  cases hLast with
  | still hPosition hAhead =>
      cases hFirst with
      | still hBefore hTokens =>
          exact
            .still (hPosition.trans hBefore) (hAhead.trans hTokens)
      | saved hBudget =>
          have hSame : middle.SavesTo last := .still hPosition hAhead
          exact .saved (Nat.lt_of_le_of_lt hSame.budget_le hBudget)
  | saved hBudget =>
      exact .saved (Nat.lt_of_lt_of_le hBudget hFirst.budget_le)

theorem pastSemicolon
    {first last : ParserState}
    (hSaves : first.SavesTo last) :
    first.SavesTo last.pastSemicolon := by
  unfold ParserState.pastSemicolon
  split
  next hKind =>
    have hNext : last.next.current.kind ≠ .eof := by simp [hKind]
    have hAhead := ahead_ne_nil_of_next (ahead_ne_nil hNext)
    exact hSaves.trans (.next hAhead)
  next => exact hSaves

end SavesTo

end ParserState

------------------------------------------------------------
-- Frugal Runs
------------------------------------------------------------

namespace Parse

/- A run that passes over no token, or saves a step. -/
def Frugal
    (routine : Parse α)
    (state : ParserState) :
    Prop :=
  state.SavesTo (routine state).2

/- A run that stays within its budget. -/
def Solvent
    (routine : Parse α)
    (state : ParserState) :
    Prop :=
  (routine state).2.budget ≤ state.budget

theorem Solvent.current_bind
    {following : Token → Parse α}
    {state : ParserState}
    (hNext : Solvent (following state.current) state) :
    Solvent (current >>= following) state :=
  hNext

namespace Frugal

variable {state : ParserState}

theorem pure
    (value : α) :
    Frugal (Pure.pure value : Parse α) state :=
  .refl state

theorem failure : Frugal (Parse.failure : Parse α) state :=
  .refl state

theorem fail
    (token : Token)
    (cause : SyntaxError.Cause) :
    Frugal (Parse.fail token cause : Parse α) state :=
  .still rfl rfl

theorem bind
    {routine : Parse α}
    {following : α → Parse β}
    (hFirst : Frugal routine state)
    (hNext : ∀ value middle, Frugal (following value) middle) :
    Frugal (routine >>= following) state := by
  unfold Frugal at hFirst ⊢
  rw [bind_apply]
  split
  next value middle hRun =>
    rw [hRun] at hFirst
    exact hFirst.trans (hNext value middle)
  next hRun =>
    rw [hRun] at hFirst
    exact hFirst

theorem current_bind
    {following : Token → Parse α}
    (hNext : Frugal (following state.current) state) :
    Frugal (current >>= following) state :=
  hNext

theorem upcoming_bind
    {following : Token → Parse α}
    (hNext : Frugal (following state.upcoming) state) :
    Frugal (upcoming >>= following) state :=
  hNext

/- Over a token one may step. -/
theorem step_bind
    {following : Unit → Parse α}
    (hAhead : state.ahead ≠ [])
    (hNext : Frugal (following ()) state.next) :
    Frugal (step >>= following) state :=
  (ParserState.SavesTo.next hAhead).trans hNext

/- What is wanted is a token, over which one may step. -/
theorem expect_bind
    {kind : TokenKind}
    {following : Unit → Parse α}
    (hKind : kind ≠ .eof)
    (hNext :
      state.next.ahead ≠ [] → Frugal (following ()) state.next) :
    Frugal (expect kind >>= following) state := by
  unfold Frugal
  rw [bind_apply, expect_apply]
  by_cases hFound : state.upcoming.kind = kind
  · rw [if_pos hFound]
    have hToken : state.next.current.kind ≠ .eof := hFound ▸ hKind
    have hInside := ParserState.ahead_ne_nil hToken
    have hAhead := ParserState.ahead_ne_nil_of_next hInside
    exact (ParserState.SavesTo.next hAhead).trans (hNext hInside)
  · rw [if_neg hFound]
    exact .still rfl rfl

theorem branch
    {kind : TokenKind}
    {first second : Parse α}
    (hKind : kind ≠ .eof)
    (hFirst : state.next.ahead ≠ [] → Frugal first state)
    (hSecond : Frugal second state) :
    Frugal
      (upcomingIs kind >>= fun found =>
        if found = true then first else second)
      state := by
  change Frugal (if decide _ = true then first else second) _
  by_cases hFound : state.upcoming.kind = kind
  · rw [if_pos (decide_eq_true hFound)]
    have hToken : state.next.current.kind ≠ .eof := hFound ▸ hKind
    exact hFirst (ParserState.ahead_ne_nil hToken)
  · rw [if_neg (by simpa using hFound)]
    exact hSecond

theorem terminated
    {routine : Parse α}
    (hFrugal : Frugal routine state) :
    Frugal (Parse.terminated routine) state := by
  unfold Frugal
  rw [terminated_apply]
  exact ParserState.SavesTo.pastSemicolon hFrugal

end Frugal

------------------------------------------------------------
-- Expressions
------------------------------------------------------------

theorem expectName_frugal
    (state : ParserState) :
    Frugal expectName state :=
  .expect_bind (by decide) fun _ => .current_bind (.pure _)

theorem integerLiteral_frugal
    (state : ParserState) :
    Frugal integerLiteral state := by
  refine .current_bind ?_
  split
  · exact .pure _
  · exact .fail _ _

theorem booleanLiteral_frugal
    (state : ParserState) :
    Frugal booleanLiteral state := by
  refine .current_bind ?_
  split
  · exact .pure _
  · split
    · exact .pure _
    · exact .fail _ _

section

variable {expression : Precedence → Parse Node}
variable {block statement : Parse Node}
variable {state : ParserState}
variable
  (hExpression :
    ∀ precedence state, Frugal (expression precedence) state)
variable
  (hBlock : ∀ state, state.ahead ≠ [] → Frugal block state)
variable (hStatement : ∀ state, Frugal statement state)

include hExpression

theorem unaryWith_frugal
    (hAhead : state.ahead ≠ []) :
    Frugal (unaryWith expression) state := by
  refine .current_bind (.step_bind hAhead ?_)
  exact .bind (hExpression _ _) fun _ _ => .pure _

theorem binaryWith_frugal
    (left : Node)
    (hAhead : state.ahead ≠ []) :
    Frugal (binaryWith expression left) state := by
  refine .current_bind (.step_bind hAhead ?_)
  exact .bind (hExpression _ _) fun _ _ => .pure _

theorem groupedWith_frugal
    (hAhead : state.ahead ≠ []) :
    Frugal (groupedWith expression) state := by
  refine .step_bind hAhead ?_
  refine .bind (hExpression _ _) fun inner last => ?_
  exact .expect_bind (by decide) fun _ => .pure _

include hBlock in
theorem ifExpressionWith_frugal :
    Frugal (ifExpressionWith expression block) state := by
  refine .current_bind (.expect_bind (by decide) fun hOpening => ?_)
  refine .step_bind hOpening ?_
  refine .bind (hExpression _ _) fun condition closing => ?_
  refine .expect_bind (by decide) fun _ => ?_
  refine .expect_bind (by decide) fun hBrace => ?_
  refine .bind (hBlock _ hBrace) fun consequence last => ?_
  refine .branch (by decide) (fun hElse => ?_) (.pure _)
  refine .step_bind (ParserState.ahead_ne_nil_of_next hElse) ?_
  refine .expect_bind (by decide) fun hOther => ?_
  exact .bind (hBlock _ hOther) fun _ _ => .pure _

omit hExpression

theorem moreParameters_frugal
    (limit : Nat)
    (state : ParserState) :
    Frugal (moreParameters limit) state := by
  induction limit generalizing state with
  | zero => exact .failure
  | succ limit ih =>
      refine .branch (by decide) (fun hComma => ?_) (.pure _)
      refine .step_bind (ParserState.ahead_ne_nil_of_next hComma) ?_
      refine .bind (expectName_frugal _) fun name next => ?_
      exact .bind (ih next) fun _ _ => .pure _

theorem parametersUpTo_frugal
    (limit : Nat)
    (state : ParserState) :
    Frugal (parametersUpTo limit) state := by
  refine .branch (by decide) (fun hClosing => ?_) ?_
  · have hAhead := ParserState.ahead_ne_nil_of_next hClosing
    exact .step_bind hAhead (.pure _)
  · refine .bind (expectName_frugal _) fun name next => ?_
    refine .bind (moreParameters_frugal limit next) fun names last => ?_
    exact .expect_bind (by decide) fun _ => .pure _

include hBlock in
theorem functionLiteralWith_frugal
    (limit : Nat) :
    Frugal (functionLiteralWith block limit) state := by
  refine .current_bind (.expect_bind (by decide) fun _ => ?_)
  refine .bind (parametersUpTo_frugal limit _) fun names closing => ?_
  refine .expect_bind (by decide) fun hBrace => ?_
  exact .bind (hBlock _ hBrace) fun _ _ => .pure _

include hExpression

theorem moreArgumentsWith_frugal
    (limit : Nat)
    (state : ParserState) :
    Frugal (moreArgumentsWith expression limit) state := by
  induction limit generalizing state with
  | zero => exact .failure
  | succ limit ih =>
      refine .branch (by decide) (fun hComma => ?_) (.pure _)
      refine .step_bind (ParserState.ahead_ne_nil_of_next hComma) ?_
      refine .step_bind hComma ?_
      refine .bind (hExpression _ _) fun argument last => ?_
      exact .bind (ih last) fun _ _ => .pure _

theorem argumentsWith_frugal
    (limit : Nat)
    (hAhead : state.ahead ≠ []) :
    Frugal (argumentsWith expression limit) state := by
  refine .branch (by decide) (fun _ => .step_bind hAhead (.pure _)) ?_
  refine .step_bind hAhead ?_
  refine .bind (hExpression _ _) fun argument last => ?_
  refine .bind (moreArgumentsWith_frugal hExpression limit last)
    fun arguments closing => ?_
  exact .expect_bind (by decide) fun _ => .pure _

theorem callWith_frugal
    (limit : Nat)
    (callee : Node)
    (hAhead : state.ahead ≠ []) :
    Frugal (callWith expression limit callee) state := by
  refine .current_bind ?_
  exact .bind (argumentsWith_frugal hExpression limit hAhead)
    fun _ _ => .pure _

include hBlock in
theorem openWith_frugal
    (limit : Nat)
    (opening : Opening)
    (hAhead : state.ahead ≠ []) :
    Frugal (openWith expression block limit opening) state := by
  cases opening with
  | identifier | string => exact .current_bind (.pure _)
  | integer => exact integerLiteral_frugal state
  | boolean => exact booleanLiteral_frugal state
  | unary => exact unaryWith_frugal hExpression hAhead
  | grouped => exact groupedWith_frugal hExpression hAhead
  | ifExpression => exact ifExpressionWith_frugal hExpression hBlock
  | functionLiteral => exact functionLiteralWith_frugal hBlock limit

theorem widenWith_frugal
    (limit : Nat)
    (extension : Extension)
    (left : Node)
    (hAhead : state.ahead ≠ []) :
    Frugal (widenWith expression limit extension left) state := by
  cases extension with
  | binary => exact binaryWith_frugal hExpression left hAhead
  | call => exact callWith_frugal hExpression limit left hAhead

/- What extends an expression is no end of input. -/
theorem extendWith_frugal
    (limit : Nat)
    (precedence : Precedence)
    (left : Node)
    (state : ParserState) :
    Frugal (extendWith expression limit precedence left) state := by
  induction limit generalizing left state with
  | zero => exact .failure
  | succ limit ih =>
      refine .upcoming_bind ?_
      split
      next =>
        cases hExtension : extension? state.upcoming.kind with
        | none => exact .pure _
        | some extension =>
            have hToken : state.next.current.kind ≠ .eof :=
              ne_eof_of_extension? hExtension
            have hNext := ParserState.ahead_ne_nil hToken
            have hAhead := ParserState.ahead_ne_nil_of_next hNext
            refine .step_bind hAhead (.bind ?_ fun wider last => ?_)
            · exact widenWith_frugal hExpression limit extension left hNext
            · exact ih wider last
      next => exact .pure _

include hBlock in
theorem expressionWith_frugal
    (limit : Nat)
    (precedence : Precedence) :
    Frugal (expressionWith expression block limit precedence) state := by
  refine .current_bind ?_
  cases hOpening : opening? state.current.kind with
  | none => exact .fail _ _
  | some opening =>
      have hKind : state.current.kind ≠ .eof := by
        intro hEnd
        simp [hEnd, opening?_eof] at hOpening
      refine .bind ?_ fun left last =>
        extendWith_frugal hExpression limit precedence left last
      exact openWith_frugal hExpression hBlock limit opening
        (ParserState.ahead_ne_nil hKind)

------------------------------------------------------------
-- Statements
------------------------------------------------------------

theorem letStatementWith_frugal :
    Frugal (letStatementWith expression) state := by
  refine .current_bind (.bind (expectName_frugal _) fun name next => ?_)
  refine .expect_bind (by decide) fun hSign => .step_bind hSign ?_
  exact .bind (.terminated (hExpression _ _)) fun _ _ => .pure _

theorem returnStatementWith_frugal
    (hAhead : state.ahead ≠ []) :
    Frugal (returnStatementWith expression) state := by
  refine .current_bind (.step_bind hAhead ?_)
  exact .bind (.terminated (hExpression _ _)) fun _ _ => .pure _

theorem expressionStatementWith_frugal :
    Frugal (expressionStatementWith expression) state := by
  refine .current_bind ?_
  exact .bind (.terminated (hExpression _ _)) fun _ _ => .pure _

include hBlock in
theorem statementWith_frugal :
    Frugal (statementWith expression block) state := by
  refine .current_bind ?_
  split
  next => exact letStatementWith_frugal hExpression
  next hKind =>
    exact returnStatementWith_frugal hExpression
      (ParserState.ahead_ne_nil (by simp [hKind]))
  next hKind =>
    exact .terminated
      (hBlock state (ParserState.ahead_ne_nil (by simp [hKind])))
  next => exact expressionStatementWith_frugal hExpression

omit hExpression

include hStatement

/-
  The step behind a statement may lead past the end. Then the
  statement has passed over the token that it started at.
-/
theorem prependWith_solvent
    {others : Parse (List Node)}
    (hAhead : state.ahead ≠ [])
    (hOthers : ∀ next, Solvent others next) :
    Solvent (prependWith statement others) state := by
  unfold Solvent
  rw [prependWith_apply]
  refine Nat.le_trans (hOthers _) ?_
  have hSaves : state.SavesTo (statement state).2 := hStatement state
  cases hSaves with
  | still hPosition hTokens =>
      have hBefore :=
        (ParserState.SavesTo.still hPosition hTokens).budget_le
      rw [← hTokens] at hAhead
      have hStep := ParserState.budget_next_lt hAhead
      exact Nat.le_trans (Nat.le_of_lt hStep) hBefore
  | saved hBudget =>
      exact Nat.le_trans (ParserState.budget_next_le _) hBudget

theorem blockStatementsWith_solvent
    (limit : Nat)
    (state : ParserState) :
    Solvent (blockStatementsWith statement limit) state := by
  induction limit generalizing state with
  | zero => exact Nat.le_refl _
  | succ limit ih =>
      refine .current_bind ?_
      split
      next => exact Nat.le_refl _
      next => exact Nat.le_refl _
      next hBrace hEnd =>
        exact prependWith_solvent hStatement
          (ParserState.ahead_ne_nil hEnd) ih

theorem programStatementsWith_solvent
    (limit : Nat)
    (state : ParserState) :
    Solvent (programStatementsWith statement limit) state := by
  induction limit generalizing state with
  | zero => exact Nat.le_refl _
  | succ limit ih =>
      refine .current_bind ?_
      split
      next => exact Nat.le_refl _
      next hEnd =>
        exact prependWith_solvent hStatement
          (ParserState.ahead_ne_nil hEnd) ih

/- What the brace saves pays for one step past the end. -/
theorem blockWith_frugal
    (limit : Nat)
    (hAhead : state.ahead ≠ []) :
    Frugal (blockWith statement limit) state := by
  have hLoop :=
    blockStatementsWith_solvent hStatement limit state.next
  have hSaved :=
    Nat.lt_of_le_of_lt hLoop (ParserState.budget_next_lt hAhead)
  refine .current_bind ?_
  change state.SavesTo
    ((blockStatementsWith statement limit >>= fun _ => _) state.next).2
  rw [bind_apply]
  split
  next hRun => exact .saved (by rw [hRun] at hSaved; exact hSaved)
  next hRun => exact .saved (by rw [hRun] at hSaved; exact hSaved)

end

------------------------------------------------------------
-- Every Depth
------------------------------------------------------------

/- Nested expressions and statements are frugal at every depth. -/
theorem within_frugal
    (depth : Nat) :
    (∀ precedence state,
        Frugal (expressionWithin depth precedence) state) ∧
      ∀ state, Frugal (statementWithin depth) state := by
  induction depth with
  | zero => exact ⟨fun _ _ => .failure, fun _ => .failure⟩
  | succ depth ih =>
      have hBlock :
          ∀ state : ParserState, state.ahead ≠ [] →
            Frugal (blockWith (statementWithin depth) depth) state :=
        fun _ hAhead => blockWith_frugal ih.2 depth hAhead
      exact
        ⟨fun precedence _ =>
            expressionWith_frugal ih.1 hBlock depth precedence,
          fun _ => statementWith_frugal ih.1 hBlock⟩

end Parse

/-
  On any tokens parsing comes to an end: there is an outcome
  that no deeper nesting changes. It is at an end of input then,
  after at most two steps for each token.
-/
theorem parsing_ends_within_budget
    (tokens : List Token) :
    ∃ statements last,
      (∀ depth,
        Parse.sufficientDepth (.ofTokens tokens) ≤ depth →
          Parse.programStatementsWith (Parse.statementWithin depth)
              depth (.ofTokens tokens) =
            (some statements, last)) ∧
        parseTokens tokens = ⟨statements, last.errors⟩ ∧
        last.current.kind = .eof ∧
        last.position ≤ 2 * tokens.length := by
  rcases Parse.programStatements_ends (.ofTokens tokens) with
    ⟨statements, last, hRun, hEnd⟩
  have hDeeper :
      ∀ depth, Parse.sufficientDepth (.ofTokens tokens) ≤ depth →
        Parse.programStatementsWith (Parse.statementWithin depth)
            depth (.ofTokens tokens) =
          (some statements, last) :=
    fun depth hDepth =>
      (Parse.programStatements_agrees_of_le hDepth).trans hRun
  refine
    ⟨statements, last, hDeeper, parseTokens_eq_of_run hRun, hEnd, ?_⟩
  let depth := Parse.sufficientDepth (.ofTokens tokens)
  have hBudget :=
    Parse.programStatementsWith_solvent (Parse.within_frugal depth).2
      depth (.ofTokens tokens)
  unfold Parse.Solvent at hBudget
  rw [hDeeper depth (Nat.le_refl _)] at hBudget
  calc
    last.position ≤ last.budget := Nat.le_add_right _ _
    _ ≤ (ParserState.ofTokens tokens).budget := hBudget
    _ = 2 * tokens.length := Nat.zero_add _

------------------------------------------------------------
-- Budgets That Are Used Up
------------------------------------------------------------

namespace Parse

theorem statement_of_lbrace
    {state : ParserState}
    (hKind : state.current.kind = .lbrace) :
    (statement state).2 =
      (blockStatements state.next).2.pastSemicolon := by
  rw [statement_eq]
  unfold statementWith
  rw [current_bind, hKind]
  dsimp only
  rw [terminated_apply, block_eq, current_bind, step_bind, bind_apply]
  rcases blockStatements state.next with ⟨statements?, last⟩
  cases statements? <;> rfl

/- A block that is not closed fails at the end of the input. -/
theorem blockStatements_of_nil
    {state : ParserState}
    (hNil : state.ahead = []) :
    (blockStatements state).2.pastSemicolon.position =
        state.position ∧
      (blockStatements state).2.pastSemicolon.ahead = [] := by
  have hEnd : state.current.kind = .eof :=
    ParserState.current_kind_of_length (by simp [hNil])
  have hLast : state.upcoming.kind = .eof :=
    ParserState.upcoming_kind_of_length (by simp [hNil])
  rw [blockStatements_eq, current_bind, if_neg (by simp [hEnd]),
    if_pos hEnd, fail_apply]
  unfold ParserState.pastSemicolon
  rw [if_neg (by simp [ParserState.report, ParserState.upcoming, hNil,
    state.ending_kind])]
  exact ⟨rfl, hNil⟩

/-
  Behind the last brace the innermost block fails where it is,
  and every block around it one step later.
-/
theorem statement_of_open_braces
    {brace : Token}
    (hBrace : brace.kind = .lbrace)
    (count : Nat)
    {state : ParserState}
    (hAhead : state.ahead = List.replicate (count + 1) brace) :
    (statement state).2.position = state.position + 2 * count + 1 ∧
      (statement state).2.ahead = [] := by
  have hOpen :
      ∀ {count : Nat} {state : ParserState},
        state.ahead = List.replicate (count + 1) brace →
          state.current.kind = .lbrace :=
    fun hShape => (ParserState.current_of_ahead hShape) ▸ hBrace
  induction count generalizing state with
  | zero =>
      have hNil : state.next.ahead = [] := by simp [hAhead]
      rw [statement_of_lbrace (hOpen hAhead)]
      exact blockStatements_of_nil hNil
  | succ count ih =>
      have hNext : state.next.ahead = List.replicate (count + 1) brace := by
        simp [hAhead, List.replicate_succ]
      have hInner := ih hNext
      have hClosing : state.next.current.kind ≠ .rbrace := by
        rw [hOpen hNext]
        decide
      have hEnd : state.next.current.kind ≠ .eof := by
        rw [hOpen hNext]
        decide
      have hNil : (statement state.next).2.next.ahead = [] := by
        simp [hInner.2]
      have hLast := blockStatements_of_nil hNil
      rw [statement_of_lbrace (hOpen hAhead),
        isLoop_blockStatements _ hClosing hEnd, prependWith_apply]
      refine ⟨hLast.1.trans ?_, hLast.2⟩
      change (statement state.next).2.position + 1 = _
      rw [hInner.1]
      change state.position + 1 + 2 * count + 1 + 1 = _
      omega

end Parse

/- Opening braces alone take two steps each. -/
theorem open_braces_use_up_budget
    {brace : Token}
    (hBrace : brace.kind = .lbrace)
    (count : Nat) :
    (Parse.programStatements
        (.ofTokens (List.replicate count brace))).2.position =
      2 * count := by
  cases count with
  | zero => rfl
  | succ count =>
      let first : ParserState :=
        .ofTokens (List.replicate (count + 1) brace)
      have hAhead : first.ahead = List.replicate (count + 1) brace := rfl
      have hKind : first.current.kind = .lbrace := hBrace
      have hStatement := Parse.statement_of_open_braces hBrace count hAhead
      have hEnd : (Parse.statement first).2.next.current.kind = .eof :=
        ParserState.current_kind_of_length (by simp [hStatement.2])
      change (Parse.programStatements first).2.position = _
      rw [Parse.programStatements_eq, Parse.current_bind,
        if_neg (by simp [hKind]), Parse.prependWith_apply,
        Parse.programStatements_of_eof hEnd]
      change (Parse.statement first).2.position + 1 = _
      rw [hStatement.1]
      change 0 + 2 * count + 1 + 1 = _
      omega

end MonkeyLang
