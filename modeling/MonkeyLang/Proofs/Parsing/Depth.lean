import MonkeyLang.Proofs.Parsing.Forward

/-
  The depth to which routines nest, and the limits on the
  length of lists, do not matter once they suffice.

  Main declarations:
    * `Parse.AgreesTo`            (the same on few enough tokens)
    * `Parse.ExpressionsAgree`    (depths for expressions are alike)
    * `Parse.StatementsAgree`     (depths for statements are alike)
    * `Parse.within_agrees`       (both hold of all depths that suffice)
-/

------------------------------------------------------------
-- Agreement
------------------------------------------------------------

namespace MonkeyLang

namespace Parse

/-
  Two routines agree up to a number of tokens if they do the
  same wherever no more tokens than that are ahead.
-/
def AgreesTo
    (bound : Nat)
    (first second : Parse α) :
    Prop :=
  ∀ state : ParserState,
    state.ahead.length ≤ bound → first state = second state

namespace AgreesTo

theorem refl
    (bound : Nat)
    (routine : Parse α) :
    AgreesTo bound routine routine :=
  fun _ _ => rfl

theorem mono
    {low high : Nat}
    {first second : Parse α}
    (hAgrees : AgreesTo high first second)
    (hBound : low ≤ high) :
    AgreesTo low first second :=
  fun state hState => hAgrees state (Nat.le_trans hState hBound)

theorem bind
    {bound : Nat}
    {first second : Parse α}
    {following others : α → Parse β}
    [Forward first]
    (hFirst : AgreesTo bound first second)
    (hFollowing :
      ∀ value, AgreesTo bound (following value) (others value)) :
    AgreesTo bound (first >>= following) (second >>= others) := by
  intro state hState
  have hLeads := leads first state
  rw [bind_apply, bind_apply, ← hFirst state hState]
  split
  next value middle hRun =>
    rw [hRun] at hLeads
    exact hFollowing value middle
      (Nat.le_trans hLeads.length_ahead_le hState)
  next => rfl

/- Behind a token, one token less is ahead. -/
theorem step
    {bound : Nat}
    {following others : Unit → Parse α}
    (hFollowing :
      ∀ value, AgreesTo bound (following value) (others value)) :
    AgreesTo (bound + 1)
      (Parse.step >>= following) (Parse.step >>= others) := by
  intro state hState
  rw [step_bind, step_bind]
  apply hFollowing
  rw [ParserState.length_ahead_next]
  omega

theorem expect
    {bound : Nat}
    (kind : TokenKind)
    {following others : Unit → Parse α}
    (hFollowing :
      ∀ value, AgreesTo bound (following value) (others value)) :
    AgreesTo (bound + 1)
      (Parse.expect kind >>= following)
      (Parse.expect kind >>= others) := by
  intro state hState
  rw [bind_apply, bind_apply, expect_apply]
  split
  next value middle hRun =>
    split at hRun
    next =>
      rcases Prod.mk.inj hRun with ⟨-, rfl⟩
      apply hFollowing
      rw [ParserState.length_ahead_next]
      omega
    next => cases (Prod.mk.inj hRun).1
  next => rfl

theorem attempt
    {bound : Nat}
    {first second : Parse α}
    (hAgrees : AgreesTo bound first second) :
    AgreesTo bound (Parse.attempt first)
      (Parse.attempt second) := by
  intro state hState
  unfold Parse.attempt
  rw [hAgrees state hState]

theorem terminated
    {bound : Nat}
    {first second : Parse α}
    [Forward first]
    (hAgrees : AgreesTo bound first second) :
    AgreesTo bound (Parse.terminated first)
      (Parse.terminated second) :=
  bind hAgrees.attempt fun _ => .refl _ _

theorem ite
    {bound : Nat}
    {condition : Prop}
    [Decidable condition]
    {first second others third : Parse α}
    (hThen : AgreesTo bound first others)
    (hElse : AgreesTo bound second third) :
    AgreesTo bound (if condition then first else second)
      (if condition then others else third) := by
  split
  · exact hThen
  · exact hElse

end AgreesTo

------------------------------------------------------------
-- Expressions
------------------------------------------------------------

section

variable {bound limit otherLimit : Nat}
variable {expression otherExpression : Precedence → Parse Node}
variable {block otherBlock statement otherStatement : Parse Node}
variable [∀ precedence, Forward (expression precedence)]
variable [Forward block] [Forward statement]

theorem unaryWith_agrees
    (hExpression :
      ∀ precedence,
        AgreesTo bound (expression precedence)
          (otherExpression precedence)) :
    AgreesTo (bound + 1) (unaryWith expression)
      (unaryWith otherExpression) :=
  .bind (.refl _ _) fun _ =>
    .step fun _ => .bind (hExpression _) fun _ => .refl _ _

theorem binaryWith_agrees
    (left : Node)
    (hExpression :
      ∀ precedence,
        AgreesTo bound (expression precedence)
          (otherExpression precedence)) :
    AgreesTo (bound + 1) (binaryWith expression left)
      (binaryWith otherExpression left) :=
  .bind (.refl _ _) fun _ =>
    .step fun _ => .bind (hExpression _) fun _ => .refl _ _

theorem groupedWith_agrees
    (hExpression :
      ∀ precedence,
        AgreesTo bound (expression precedence)
          (otherExpression precedence)) :
    AgreesTo (bound + 1) (groupedWith expression)
      (groupedWith otherExpression) :=
  .step fun _ => .bind (hExpression _) fun _ => .refl _ _

theorem ifExpressionWith_agrees
    (hExpression :
      ∀ precedence,
        AgreesTo bound (expression precedence)
          (otherExpression precedence))
    (hBlock : AgreesTo bound block otherBlock) :
    AgreesTo (bound + 1) (ifExpressionWith expression block)
      (ifExpressionWith otherExpression otherBlock) := by
  refine .bind (.refl _ _) fun token => .expect _ fun _ => ?_
  apply AgreesTo.bind (.refl _ _)
  intro _
  apply AgreesTo.bind (hExpression _)
  intro condition
  apply AgreesTo.bind (.refl _ _)
  intro _
  apply AgreesTo.bind (.refl _ _)
  intro _
  apply AgreesTo.bind hBlock
  intro consequence
  refine .bind (.refl _ _) fun hasElse => .ite ?_ (.refl _ _)
  apply AgreesTo.bind (.refl _ _)
  intro _
  apply AgreesTo.bind (.refl _ _)
  intro _
  exact .bind hBlock fun _ => .refl _ _

theorem moreParameters_agrees
    (hLimit : bound < limit)
    (hOther : bound < otherLimit) :
    AgreesTo bound (moreParameters limit)
      (moreParameters otherLimit) := by
  induction bound generalizing limit otherLimit with
  | zero =>
      rcases Nat.exists_eq_add_one.mpr hLimit with ⟨limit, rfl⟩
      rcases Nat.exists_eq_add_one.mpr hOther with ⟨otherLimit, rfl⟩
      intro state hState
      have hEnd : state.upcoming.kind = .eof :=
        ParserState.upcoming_kind_of_length (by omega)
      simp [moreParameters, hEnd]
  | succ bound ih =>
      rcases
          Nat.exists_eq_add_one.mpr (Nat.zero_lt_of_lt hLimit) with
        ⟨limit, rfl⟩
      rcases
          Nat.exists_eq_add_one.mpr (Nat.zero_lt_of_lt hOther) with
        ⟨otherLimit, rfl⟩
      refine .bind (.refl _ _) fun _ => .ite ?_ (.refl _ _)
      refine .step fun _ => .bind (.refl _ _) fun name => ?_
      exact .bind (ih (by omega) (by omega)) fun _ => .refl _ _

theorem parametersUpTo_agrees
    (hLimit : bound < limit)
    (hOther : bound < otherLimit) :
    AgreesTo bound (parametersUpTo limit)
      (parametersUpTo otherLimit) := by
  refine .bind (.refl _ _) fun _ => .ite (.refl _ _) ?_
  apply AgreesTo.bind (.refl _ _)
  intro name
  exact .bind (moreParameters_agrees hLimit hOther) fun _ =>
    .refl _ _

theorem functionLiteralWith_agrees
    (hBlock : AgreesTo bound block otherBlock)
    (hLimit : bound < limit)
    (hOther : bound < otherLimit) :
    AgreesTo (bound + 1) (functionLiteralWith block limit)
      (functionLiteralWith otherBlock otherLimit) := by
  refine .bind (.refl _ _) fun token => .expect _ fun _ => ?_
  apply AgreesTo.bind (parametersUpTo_agrees hLimit hOther)
  intro _
  apply AgreesTo.bind (.refl _ _)
  intro _
  exact .bind hBlock fun _ => .refl _ _

theorem moreArgumentsWith_agrees
    (hExpression :
      ∀ precedence,
        AgreesTo bound (expression precedence)
          (otherExpression precedence))
    (hLimit : bound < limit)
    (hOther : bound < otherLimit) :
    AgreesTo bound (moreArgumentsWith expression limit)
      (moreArgumentsWith otherExpression otherLimit) := by
  induction bound generalizing limit otherLimit with
  | zero =>
      rcases Nat.exists_eq_add_one.mpr hLimit with ⟨limit, rfl⟩
      rcases Nat.exists_eq_add_one.mpr hOther with ⟨otherLimit, rfl⟩
      intro state hState
      have hEnd : state.upcoming.kind = .eof :=
        ParserState.upcoming_kind_of_length (by omega)
      simp [moreArgumentsWith, hEnd]
  | succ bound ih =>
      rcases
          Nat.exists_eq_add_one.mpr (Nat.zero_lt_of_lt hLimit) with
        ⟨limit, rfl⟩
      rcases
          Nat.exists_eq_add_one.mpr (Nat.zero_lt_of_lt hOther) with
        ⟨otherLimit, rfl⟩
      have hInner :
          ∀ precedence,
            AgreesTo bound (expression precedence)
              (otherExpression precedence) :=
        fun precedence =>
          (hExpression precedence).mono (Nat.le_succ bound)
      refine .bind (.refl _ _) fun _ => .ite ?_ (.refl _ _)
      refine .step fun _ => .bind (.refl _ _) fun _ => ?_
      apply AgreesTo.bind (hInner _)
      intro argument
      exact .bind (ih hInner (by omega) (by omega)) fun _ =>
        .refl _ _

theorem argumentsWith_agrees
    (hExpression :
      ∀ precedence,
        AgreesTo bound (expression precedence)
          (otherExpression precedence))
    (hLimit : bound < limit)
    (hOther : bound < otherLimit) :
    AgreesTo bound (argumentsWith expression limit)
      (argumentsWith otherExpression otherLimit) := by
  refine .bind (.refl _ _) fun _ => .ite (.refl _ _) ?_
  apply AgreesTo.bind (.refl _ _)
  intro _
  apply AgreesTo.bind (hExpression _)
  intro argument
  exact
    .bind (moreArgumentsWith_agrees hExpression hLimit hOther)
      fun _ => .refl _ _

theorem callWith_agrees
    (callee : Node)
    (hExpression :
      ∀ precedence,
        AgreesTo bound (expression precedence)
          (otherExpression precedence))
    (hLimit : bound < limit)
    (hOther : bound < otherLimit) :
    AgreesTo bound (callWith expression limit callee)
      (callWith otherExpression otherLimit callee) :=
  .bind (.refl _ _) fun _ =>
    .bind (argumentsWith_agrees hExpression hLimit hOther)
      fun _ => .refl _ _

theorem openWith_agrees
    (opening : Opening)
    (hExpression :
      ∀ precedence,
        AgreesTo bound (expression precedence)
          (otherExpression precedence))
    (hBlock : AgreesTo bound block otherBlock)
    (hLimit : bound < limit)
    (hOther : bound < otherLimit) :
    AgreesTo (bound + 1)
      (openWith expression block limit opening)
      (openWith otherExpression otherBlock otherLimit opening) := by
  cases opening with
  | identifier | integer | string | boolean => exact .refl _ _
  | unary => exact unaryWith_agrees hExpression
  | grouped => exact groupedWith_agrees hExpression
  | ifExpression => exact ifExpressionWith_agrees hExpression hBlock
  | functionLiteral =>
      exact functionLiteralWith_agrees hBlock hLimit hOther

theorem widenWith_agrees
    (extension : Extension)
    (left : Node)
    (hExpression :
      ∀ precedence,
        AgreesTo bound (expression precedence)
          (otherExpression precedence))
    (hLimit : bound < limit)
    (hOther : bound < otherLimit) :
    AgreesTo bound (widenWith expression limit extension left)
      (widenWith otherExpression otherLimit extension left) := by
  cases extension with
  | binary =>
      exact (binaryWith_agrees left hExpression).mono
        (Nat.le_succ bound)
  | call => exact callWith_agrees left hExpression hLimit hOther

/- The end of input opens no expression, and extends none. -/
theorem opening?_eof : opening? .eof = none := by
  decide

theorem not_precedence_lt_eof
    (precedence : Precedence) :
    ¬ precedence < precedenceOf .eof := by
  cases precedence <;> decide

/- What extends an expression stands behind a token of its own. -/
theorem extendWith_agrees
    (precedence : Precedence)
    (left : Node)
    (hExpression :
      ∀ precedence,
        AgreesTo bound (expression precedence)
          (otherExpression precedence))
    (hLimit : bound + 1 < limit)
    (hOther : bound + 1 < otherLimit) :
    AgreesTo (bound + 1)
      (extendWith expression limit precedence left)
      (extendWith otherExpression otherLimit precedence left) := by
  -- The limits go down with the tokens, the bound stays.
  suffices hCount :
      ∀ count ≤ bound + 1, ∀ limit otherLimit left,
        count < limit → count < otherLimit →
          AgreesTo count
            (extendWith expression limit precedence left)
            (extendWith otherExpression otherLimit precedence left)
    from hCount _ (Nat.le_refl _) _ _ left hLimit hOther
  intro count hCount limit otherLimit left hLimit hOther
  induction count generalizing limit otherLimit left with
  | zero =>
      rcases Nat.exists_eq_add_one.mpr hLimit with ⟨limit, rfl⟩
      rcases Nat.exists_eq_add_one.mpr hOther with ⟨otherLimit, rfl⟩
      intro state hState
      have hEnd : state.upcoming.kind = .eof :=
        ParserState.upcoming_kind_of_length (by omega)
      simp [extendWith, hEnd, not_precedence_lt_eof]
  | succ count ih =>
      rcases
          Nat.exists_eq_add_one.mpr (Nat.zero_lt_of_lt hLimit) with
        ⟨limit, rfl⟩
      rcases
          Nat.exists_eq_add_one.mpr (Nat.zero_lt_of_lt hOther) with
        ⟨otherLimit, rfl⟩
      have hInner :
          ∀ precedence,
            AgreesTo count (expression precedence)
              (otherExpression precedence) :=
        fun precedence => (hExpression precedence).mono (by omega)
      unfold extendWith
      refine .bind (.refl _ _) fun token => .ite ?_ (.refl _ _)
      split
      next => exact .refl _ _
      next extension _ =>
        refine .step fun _ => .bind ?_ fun wider => ?_
        · exact widenWith_agrees extension left hInner
            (by omega) (by omega)
        · exact ih (by omega) limit otherLimit wider
            (by omega) (by omega)

theorem expressionWith_agrees
    (precedence : Precedence)
    (hExpression :
      ∀ precedence,
        AgreesTo bound (expression precedence)
          (otherExpression precedence))
    (hBlock : AgreesTo bound block otherBlock)
    (hLimit : bound + 1 < limit)
    (hOther : bound + 1 < otherLimit) :
    AgreesTo (bound + 1)
      (expressionWith expression block limit precedence)
      (expressionWith otherExpression otherBlock otherLimit
        precedence) := by
  unfold expressionWith
  apply AgreesTo.bind (.refl _ _)
  intro token
  split
  next => exact .refl _ _
  next opening _ =>
    refine .bind ?_ fun left => ?_
    · exact openWith_agrees opening hExpression hBlock
        (by omega) (by omega)
    · exact extendWith_agrees precedence left hExpression
        hLimit hOther

------------------------------------------------------------
-- Statements
------------------------------------------------------------

theorem statementWith_agrees
    (hExpression :
      ∀ precedence,
        AgreesTo bound (expression precedence)
          (otherExpression precedence))
    (hBlock : AgreesTo bound block otherBlock) :
    AgreesTo bound (statementWith expression block)
      (statementWith otherExpression otherBlock) := by
  have hValue := (hExpression .lowest).terminated
  unfold statementWith
  apply AgreesTo.bind (.refl _ _)
  intro token
  split
  next =>
    apply AgreesTo.bind (.refl _ _)
    intro _
    apply AgreesTo.bind (.refl _ _)
    intro _
    apply AgreesTo.bind (.refl _ _)
    intro _
    apply AgreesTo.bind (.refl _ _)
    intro _
    exact .bind hValue fun _ => .refl _ _
  next =>
    apply AgreesTo.bind (.refl _ _)
    intro _
    apply AgreesTo.bind (.refl _ _)
    intro _
    exact .bind hValue fun _ => .refl _ _
  next => exact hBlock.terminated
  next =>
    apply AgreesTo.bind (.refl _ _)
    intro _
    exact .bind hValue fun _ => .refl _ _

/- At the end of input stands nothing but an expression. -/
theorem statementWith_eof
    (expression : Precedence → Parse Node)
    (block : Parse Node)
    {state : ParserState}
    (hEnd : state.current.kind = .eof) :
    statementWith expression block state =
      expressionStatementWith expression state := by
  unfold statementWith
  rw [current_bind, hEnd]

theorem prependWith_agrees
    {others otherOthers : Parse (List Node)}
    (hStatement : AgreesTo (bound + 1) statement otherStatement)
    (hOthers : AgreesTo bound others otherOthers)
    [Forward others] :
    AgreesTo (bound + 1) (prependWith statement others)
      (prependWith otherStatement otherOthers) :=
  .bind hStatement.attempt fun _ =>
    .step fun _ => .bind hOthers fun _ => .refl _ _

theorem blockStatementsWith_agrees
    (hStatement : AgreesTo bound statement otherStatement)
    (hLimit : bound < limit)
    (hOther : bound < otherLimit) :
    AgreesTo bound (blockStatementsWith statement limit)
      (blockStatementsWith otherStatement otherLimit) := by
  induction bound generalizing limit otherLimit with
  | zero =>
      rcases Nat.exists_eq_add_one.mpr hLimit with ⟨limit, rfl⟩
      rcases Nat.exists_eq_add_one.mpr hOther with ⟨otherLimit, rfl⟩
      intro state hState
      have hEnd : state.current.kind = .eof :=
        ParserState.current_kind_of_length hState
      simp [blockStatementsWith, hEnd]
  | succ bound ih =>
      rcases
          Nat.exists_eq_add_one.mpr (Nat.zero_lt_of_lt hLimit) with
        ⟨limit, rfl⟩
      rcases
          Nat.exists_eq_add_one.mpr (Nat.zero_lt_of_lt hOther) with
        ⟨otherLimit, rfl⟩
      have hOthers :=
        ih (hStatement.mono (Nat.le_succ bound))
          (Nat.lt_of_succ_lt_succ hLimit)
          (Nat.lt_of_succ_lt_succ hOther)
      unfold blockStatementsWith
      apply AgreesTo.bind (.refl _ _)
      intro token
      split
      next => exact .refl _ _
      next => exact .refl _ _
      next => exact prependWith_agrees hStatement hOthers

theorem blockWith_agrees
    (hStatement : AgreesTo bound statement otherStatement)
    (hLimit : bound < limit)
    (hOther : bound < otherLimit) :
    AgreesTo (bound + 1) (blockWith statement limit)
      (blockWith otherStatement otherLimit) := by
  refine .bind (.refl _ _) fun token => .step fun _ => ?_
  exact
    .bind (blockStatementsWith_agrees hStatement hLimit hOther)
      fun _ => .refl _ _

theorem programStatementsWith_agrees
    (hStatement : AgreesTo bound statement otherStatement)
    (hLimit : bound < limit)
    (hOther : bound < otherLimit) :
    AgreesTo bound (programStatementsWith statement limit)
      (programStatementsWith otherStatement otherLimit) := by
  induction bound generalizing limit otherLimit with
  | zero =>
      rcases Nat.exists_eq_add_one.mpr hLimit with ⟨limit, rfl⟩
      rcases Nat.exists_eq_add_one.mpr hOther with ⟨otherLimit, rfl⟩
      intro state hState
      have hEnd : state.current.kind = .eof :=
        ParserState.current_kind_of_length hState
      simp [programStatementsWith, hEnd]
  | succ bound ih =>
      rcases
          Nat.exists_eq_add_one.mpr (Nat.zero_lt_of_lt hLimit) with
        ⟨limit, rfl⟩
      rcases
          Nat.exists_eq_add_one.mpr (Nat.zero_lt_of_lt hOther) with
        ⟨otherLimit, rfl⟩
      have hOthers :=
        ih (hStatement.mono (Nat.le_succ bound))
          (Nat.lt_of_succ_lt_succ hLimit)
          (Nat.lt_of_succ_lt_succ hOther)
      unfold programStatementsWith
      apply AgreesTo.bind (.refl _ _)
      intro token
      split
      next => exact .refl _ _
      next => exact prependWith_agrees hStatement hOthers

end

------------------------------------------------------------
-- Depths That Suffice
------------------------------------------------------------

/- All depths that suffice for expressions of some tokens are alike. -/
def ExpressionsAgree
    (bound : Nat) :
    Prop :=
  ∀ depth other precedence,
    2 * bound + 1 ≤ depth → 2 * bound + 1 ≤ other →
      AgreesTo bound (expressionWithin depth precedence)
        (expressionWithin other precedence)

/- All depths that suffice for statements of some tokens are alike. -/
def StatementsAgree
    (bound : Nat) :
    Prop :=
  ∀ depth other,
    2 * bound + 2 ≤ depth → 2 * bound + 2 ≤ other →
      AgreesTo bound (statementWithin depth) (statementWithin other)

theorem expressionsAgree_zero : ExpressionsAgree 0 := by
  intro depth other precedence hDepth hOther state hState
  rcases Nat.exists_eq_add_one.mpr hDepth with ⟨depth, rfl⟩
  rcases Nat.exists_eq_add_one.mpr hOther with ⟨other, rfl⟩
  have hEnd : state.current.kind = .eof :=
    ParserState.current_kind_of_length hState
  simp [expressionWithin, expressionWith, hEnd, opening?_eof]

theorem statementsAgree_zero : StatementsAgree 0 := by
  intro depth other hDepth hOther state hState
  rcases Nat.exists_eq_add_one.mpr (Nat.zero_lt_of_lt hDepth) with
    ⟨depth, rfl⟩
  rcases Nat.exists_eq_add_one.mpr (Nat.zero_lt_of_lt hOther) with
    ⟨other, rfl⟩
  have hEnd : state.current.kind = .eof :=
    ParserState.current_kind_of_length hState
  have hValue :=
    (expressionsAgree_zero depth other .lowest (by omega)
      (by omega)).terminated
  unfold statementWithin
  rw [statementWith_eof _ _ hEnd, statementWith_eof _ _ hEnd]
  exact
    AgreesTo.bind (.refl _ _)
      (fun _ => .bind hValue fun _ => .refl _ _) state hState

section

variable {bound depth other : Nat}

/- A block steps past its brace before its statements start. -/
theorem blockWithin_agrees
    (hStatements : StatementsAgree bound)
    (hDepth : 2 * bound + 2 ≤ depth)
    (hOther : 2 * bound + 2 ≤ other) :
    AgreesTo (bound + 1) (blockWithin depth) (blockWithin other) :=
  blockWith_agrees (hStatements depth other hDepth hOther)
    (by omega) (by omega)

theorem expressionsAgree_succ
    (hExpressions : ExpressionsAgree bound)
    (hStatements : StatementsAgree bound) :
    ExpressionsAgree (bound + 1) := by
  intro depth other precedence hDepth hOther
  rcases Nat.exists_eq_add_one.mpr (Nat.zero_lt_of_lt hDepth) with
    ⟨depth, rfl⟩
  rcases Nat.exists_eq_add_one.mpr (Nat.zero_lt_of_lt hOther) with
    ⟨other, rfl⟩
  have hBlock :
      AgreesTo bound (blockWithin depth) (blockWithin other) :=
    (blockWithin_agrees hStatements (by omega) (by omega)).mono
      (Nat.le_succ bound)
  unfold expressionWithin
  exact
    expressionWith_agrees precedence
      (fun precedence =>
        hExpressions depth other precedence (by omega) (by omega))
      hBlock (by omega) (by omega)

theorem statementsAgree_succ
    (hExpressions : ExpressionsAgree (bound + 1))
    (hStatements : StatementsAgree bound) :
    StatementsAgree (bound + 1) := by
  intro depth other hDepth hOther
  rcases Nat.exists_eq_add_one.mpr (Nat.zero_lt_of_lt hDepth) with
    ⟨depth, rfl⟩
  rcases Nat.exists_eq_add_one.mpr (Nat.zero_lt_of_lt hOther) with
    ⟨other, rfl⟩
  unfold statementWithin
  exact
    statementWith_agrees
      (fun precedence =>
        hExpressions depth other precedence (by omega) (by omega))
      (blockWithin_agrees hStatements (by omega) (by omega))

end

/-
  All depths that suffice for the tokens ahead are alike. Two
  levels are spent for each token: one on the expression that
  starts at it, and one on the statement.
-/
theorem within_agrees
    (bound : Nat) :
    ExpressionsAgree bound ∧ StatementsAgree bound := by
  induction bound with
  | zero => exact ⟨expressionsAgree_zero, statementsAgree_zero⟩
  | succ bound ih =>
      have hExpressions := expressionsAgree_succ ih.1 ih.2
      exact ⟨hExpressions, statementsAgree_succ hExpressions ih.2⟩

end Parse

end MonkeyLang
