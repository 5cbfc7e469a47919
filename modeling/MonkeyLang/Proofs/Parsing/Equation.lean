import MonkeyLang.Proofs.Parsing.Depth

/-
  The equations that one would write for the routines if
  nothing bounded their nesting. Each routine is given by the
  others, and no depth or limit occurs in them.

  Main declarations:
    * `Parse.extend`, `Parse.blockStatements`, ...
        (the loops, with a depth that suffices)
    * `Parse.expression_eq`, `Parse.extend_eq`,
      `Parse.statement_eq`, ...
-/

------------------------------------------------------------
-- Loops
------------------------------------------------------------

namespace MonkeyLang

namespace Parse

/- All that extends an expression. -/
def extend
    (precedence : Precedence)
    (left : Node) :
    Parse Node :=
  unbounded fun depth =>
    extendWith (expressionWithin depth) depth precedence left

/- The parameters that follow, each after a comma. -/
def parametersBehind : Parse (List Identifier) :=
  unbounded moreParameters

/- The arguments that follow, each after a comma. -/
def argumentsBehind : Parse (List Node) :=
  unbounded fun depth =>
    moreArgumentsWith (expressionWithin depth) depth

/- The statements up to a closing brace, which must be there. -/
def blockStatements : Parse (List Node) :=
  unbounded fun depth =>
    blockStatementsWith (statementWithin depth) depth

instance
    (precedence : Precedence)
    (left : Node) :
    Forward (extend precedence left) := by
  unfold extend
  infer_instance

instance : Forward parametersBehind := by
  unfold parametersBehind
  infer_instance

instance : Forward argumentsBehind := by
  unfold argumentsBehind
  infer_instance

instance : Forward blockStatements := by
  unfold blockStatements
  infer_instance

/- The first operand of an expression, by what opens it. -/
def opened
    (opening : Opening) :
    Parse Node :=
  match opening with
  | .identifier => identifier
  | .integer => integerLiteral
  | .string => stringLiteral
  | .boolean => booleanLiteral
  | .unary => unary
  | .grouped => grouped
  | .ifExpression => ifExpression
  | .functionLiteral => functionLiteral

/- An expression that extends the one to the left. -/
def widened
    (extension : Extension)
    (left : Node) :
    Parse Node :=
  match extension with
  | .binary => binary left
  | .call => call left

instance (opening : Opening) : Forward (opened opening) := by
  cases opening <;> unfold opened <;> infer_instance

instance
    (extension : Extension)
    (left : Node) :
    Forward (widened extension left) := by
  cases extension <;> unfold widened <;> infer_instance

------------------------------------------------------------
-- Any Depth That Suffices
------------------------------------------------------------

section

variable {bound depth limit : Nat}

/-
  What agrees with a routine at all depths that suffice agrees
  with it when it chooses its depth by the tokens ahead.
-/
theorem agrees_unbounded
    {first : Parse α}
    (routine : Nat → Parse α)
    (hAgrees :
      ∀ count ≤ bound,
        AgreesTo count first (routine (2 * (count + 2)))) :
    AgreesTo bound first (unbounded routine) :=
  fun state hState => hAgrees _ hState state (Nat.le_refl _)

/- The depth that is chosen is high enough for one level more. -/
theorem unbounded_eq
    (routine : Nat → Parse α)
    (other : Parse α)
    (hAgrees :
      ∀ bound depth, 2 * bound + 3 ≤ depth →
        AgreesTo bound (routine (depth + 1)) other) :
    unbounded routine = other := by
  funext state
  exact hAgrees _ _ (Nat.le_refl _) state (Nat.le_refl _)

theorem expression_agrees
    (precedence : Precedence)
    (hDepth : 2 * bound + 1 ≤ depth) :
    AgreesTo bound (expressionWithin depth precedence)
      (expression precedence) :=
  agrees_unbounded (fun depth => expressionWithin depth precedence)
    fun count _ =>
      (within_agrees count).1 depth _ precedence (by omega) (by omega)

theorem statement_agrees
    (hDepth : 2 * bound + 2 ≤ depth) :
    AgreesTo bound (statementWithin depth) statement :=
  agrees_unbounded statementWithin fun count _ =>
    (within_agrees count).2 depth _ (by omega) (by omega)

theorem block_agrees
    (hDepth : 2 * bound + 2 ≤ depth) :
    AgreesTo bound (blockWithin depth) block := by
  apply agrees_unbounded blockWithin
  intro count _
  have hStatement :=
    (within_agrees count).2 depth (2 * (count + 2))
      (by omega) (by omega)
  exact
    (blockWith_agrees hStatement (by omega) (by omega)).mono
      (Nat.le_succ count)

theorem extend_agrees
    (precedence : Precedence)
    (left : Node)
    (hDepth : 2 * bound + 1 ≤ depth)
    (hLimit : bound + 1 < limit) :
    AgreesTo bound
      (extendWith (expressionWithin depth) limit precedence left)
      (extend precedence left) := by
  apply agrees_unbounded
  intro count _
  have hExpression :=
    fun inner =>
      (within_agrees count).1 depth (2 * (count + 2)) inner
        (by omega) (by omega)
  exact
    (extendWith_agrees precedence left hExpression
      (by omega) (by omega)).mono (Nat.le_succ count)

theorem parametersBehind_agrees
    (hLimit : bound < limit) :
    AgreesTo bound (moreParameters limit) parametersBehind :=
  agrees_unbounded moreParameters fun _ _ =>
    moreParameters_agrees (by omega) (by omega)

theorem parameters_agrees
    (hLimit : bound < limit) :
    AgreesTo bound (parametersUpTo limit) parameters :=
  agrees_unbounded parametersUpTo fun _ _ =>
    parametersUpTo_agrees (by omega) (by omega)

theorem argumentsBehind_agrees
    (hDepth : 2 * bound + 1 ≤ depth)
    (hLimit : bound < limit) :
    AgreesTo bound
      (moreArgumentsWith (expressionWithin depth) limit)
      argumentsBehind := by
  apply agrees_unbounded
  intro count _
  have hExpression :=
    fun inner =>
      (within_agrees count).1 depth (2 * (count + 2)) inner
        (by omega) (by omega)
  exact moreArgumentsWith_agrees hExpression (by omega) (by omega)

theorem arguments_agrees
    (hDepth : 2 * bound + 1 ≤ depth)
    (hLimit : bound < limit) :
    AgreesTo bound (argumentsWith (expressionWithin depth) limit)
      arguments := by
  apply agrees_unbounded
  intro count _
  have hExpression :=
    fun inner =>
      (within_agrees count).1 depth (2 * (count + 2)) inner
        (by omega) (by omega)
  exact argumentsWith_agrees hExpression (by omega) (by omega)

theorem blockStatements_agrees
    (hDepth : 2 * bound + 2 ≤ depth)
    (hLimit : bound < limit) :
    AgreesTo bound
      (blockStatementsWith (statementWithin depth) limit)
      blockStatements := by
  apply agrees_unbounded
  intro count _
  have hStatement :=
    (within_agrees count).2 depth (2 * (count + 2))
      (by omega) (by omega)
  exact blockStatementsWith_agrees hStatement (by omega) (by omega)

theorem programStatements_agrees
    (hDepth : 2 * bound + 2 ≤ depth)
    (hLimit : bound < limit) :
    AgreesTo bound
      (programStatementsWith (statementWithin depth) limit)
      programStatements := by
  apply agrees_unbounded
  intro count _
  have hStatement :=
    (within_agrees count).2 depth (2 * (count + 2))
      (by omega) (by omega)
  exact programStatementsWith_agrees hStatement (by omega) (by omega)

end

------------------------------------------------------------
-- Expressions
------------------------------------------------------------

theorem unary_eq : unary = unaryWith expression := by
  apply unbounded_eq
  intro bound depth hDepth
  refine
    (unaryWith_agrees fun inner => ?_).mono (Nat.le_succ bound)
  exact expression_agrees inner (by omega)

theorem binary_eq
    (left : Node) :
    binary left = binaryWith expression left := by
  apply unbounded_eq
  intro bound depth hDepth
  refine
    (binaryWith_agrees left fun inner => ?_).mono (Nat.le_succ bound)
  exact expression_agrees inner (by omega)

theorem grouped_eq : grouped = groupedWith expression := by
  apply unbounded_eq
  intro bound depth hDepth
  refine
    (groupedWith_agrees fun inner => ?_).mono (Nat.le_succ bound)
  exact expression_agrees inner (by omega)

theorem ifExpression_eq :
    ifExpression = ifExpressionWith expression block := by
  apply unbounded_eq
  intro bound depth hDepth
  refine
    (ifExpressionWith_agrees (fun inner => ?_) ?_).mono
      (Nat.le_succ bound)
  · exact expression_agrees inner (by omega)
  · exact block_agrees (by omega)

theorem parametersBehind_eq :
    parametersBehind = (do
      if ← upcomingIs .comma then
        step
        let name ← expectName
        let names ← parametersBehind
        return name :: names
      else
        return []) := by
  apply unbounded_eq
  intro bound depth hDepth
  refine AgreesTo.bind (.refl _ _) fun _ => .ite ?_ (.refl _ _)
  apply AgreesTo.bind (.refl _ _)
  intro _
  apply AgreesTo.bind (.refl _ _)
  intro name
  exact .bind (parametersBehind_agrees (by omega)) fun _ => .refl _ _

theorem parameters_eq :
    parameters = (do
      if ← upcomingIs .rparen then
        step
        return []
      else
        let name ← expectName
        let names ← parametersBehind
        expect .rparen
        return name :: names) := by
  apply unbounded_eq
  intro bound depth hDepth
  refine AgreesTo.bind (.refl _ _) fun _ => .ite (.refl _ _) ?_
  apply AgreesTo.bind (.refl _ _)
  intro name
  exact .bind (parametersBehind_agrees (by omega)) fun _ => .refl _ _

theorem functionLiteral_eq :
    functionLiteral = (do
      let token ← current
      expect .lparen
      let names ← parameters
      expect .lbrace
      let body ← block
      return .function token.toMark (names.map .identifier) body) := by
  apply unbounded_eq
  intro bound depth hDepth
  refine AgreesTo.bind (.refl _ _) fun token => ?_
  apply AgreesTo.bind (.refl _ _)
  intro _
  apply AgreesTo.bind (parameters_agrees (by omega))
  intro names
  apply AgreesTo.bind (.refl _ _)
  intro _
  exact .bind (block_agrees (by omega)) fun _ => .refl _ _

theorem argumentsBehind_eq :
    argumentsBehind = (do
      if ← upcomingIs .comma then
        step
        step
        let argument ← expression .lowest
        let others ← argumentsBehind
        return argument :: others
      else
        return []) := by
  apply unbounded_eq
  intro bound depth hDepth
  refine AgreesTo.bind (.refl _ _) fun _ => .ite ?_ (.refl _ _)
  apply AgreesTo.bind (.refl _ _)
  intro _
  apply AgreesTo.bind (.refl _ _)
  intro _
  apply AgreesTo.bind (expression_agrees _ (by omega))
  intro argument
  exact
    .bind (argumentsBehind_agrees (by omega) (by omega)) fun _ =>
      .refl _ _

theorem arguments_eq :
    arguments = (do
      if ← upcomingIs .rparen then
        step
        return []
      else
        step
        let argument ← expression .lowest
        let others ← argumentsBehind
        expect .rparen
        return argument :: others) := by
  apply unbounded_eq
  intro bound depth hDepth
  refine AgreesTo.bind (.refl _ _) fun _ => .ite (.refl _ _) ?_
  apply AgreesTo.bind (.refl _ _)
  intro _
  apply AgreesTo.bind (expression_agrees _ (by omega))
  intro argument
  exact
    .bind (argumentsBehind_agrees (by omega) (by omega)) fun _ =>
      .refl _ _

theorem call_eq
    (callee : Node) :
    call callee = (do
      let token ← current
      let operands ← arguments
      return .call token.toMark callee operands) := by
  apply unbounded_eq
  intro bound depth hDepth
  refine AgreesTo.bind (.refl _ _) fun token => ?_
  exact
    .bind (arguments_agrees (by omega) (by omega)) fun _ => .refl _ _

section

variable {bound depth limit : Nat}

theorem opened_agrees
    (opening : Opening)
    (hDepth : 2 * bound + 2 ≤ depth)
    (hLimit : bound < limit) :
    AgreesTo bound
      (openWith (expressionWithin depth) (blockWithin depth) limit
        opening)
      (opened opening) := by
  have hExpression :
      ∀ inner,
        AgreesTo bound (expressionWithin depth inner)
          (expression inner) :=
    fun inner => expression_agrees inner (by omega)
  cases opening with
  | identifier | integer | string | boolean => exact .refl _ _
  | unary =>
      rw [opened, unary_eq]
      exact (unaryWith_agrees hExpression).mono (Nat.le_succ bound)
  | grouped =>
      rw [opened, grouped_eq]
      exact (groupedWith_agrees hExpression).mono (Nat.le_succ bound)
  | ifExpression =>
      rw [opened, ifExpression_eq]
      exact
        (ifExpressionWith_agrees hExpression
          (block_agrees hDepth)).mono (Nat.le_succ bound)
  | functionLiteral =>
      rw [opened, functionLiteral_eq]
      refine .bind (.refl _ _) fun token => .bind (.refl _ _) ?_
      refine fun _ => .bind (parameters_agrees hLimit) fun names => ?_
      apply AgreesTo.bind (.refl _ _)
      intro _
      exact .bind (block_agrees hDepth) fun _ => .refl _ _

theorem widened_agrees
    (extension : Extension)
    (left : Node)
    (hDepth : 2 * bound + 1 ≤ depth)
    (hLimit : bound < limit) :
    AgreesTo bound
      (widenWith (expressionWithin depth) limit extension left)
      (widened extension left) := by
  cases extension with
  | binary =>
      rw [widened, binary_eq]
      refine
        (binaryWith_agrees left fun inner => ?_).mono
          (Nat.le_succ bound)
      exact expression_agrees inner hDepth
  | call =>
      rw [widened, call_eq]
      exact
        .bind (.refl _ _) fun _ =>
          .bind (arguments_agrees hDepth hLimit) fun _ => .refl _ _

end

theorem extend_eq
    (precedence : Precedence)
    (left : Node) :
    extend precedence left = (do
      let token ← upcoming
      if token.kind ≠ .semicolon ∧
          precedence < precedenceOf token.kind then
        match extension? token.kind with
        | none => return left
        | some extension =>
            step
            let wider ← widened extension left
            extend precedence wider
      else
        return left) := by
  apply unbounded_eq
  intro bound depth hDepth
  refine AgreesTo.bind (.refl _ _) fun token => .ite ?_ (.refl _ _)
  cases hExtension : extension? token.kind with
  | none => exact .refl _ _
  | some extension =>
      apply AgreesTo.bind (.refl _ _)
      intro _
      refine
        .bind (widened_agrees extension left (by omega) (by omega))
          fun wider => ?_
      exact extend_agrees precedence wider (by omega) (by omega)

theorem expression_eq
    (precedence : Precedence) :
    expression precedence = (do
      let token ← current
      match opening? token.kind with
      | none => fail token (.startsNoExpression token.kind)
      | some opening =>
          let left ← opened opening
          extend precedence left) := by
  apply unbounded_eq
  intro bound depth hDepth
  refine AgreesTo.bind (.refl _ _) fun token => ?_
  cases hOpening : opening? token.kind with
  | none => exact .refl _ _
  | some opening =>
      refine .bind (opened_agrees opening (by omega) (by omega)) ?_
      exact fun left =>
        extend_agrees precedence left (by omega) (by omega)

------------------------------------------------------------
-- Statements
------------------------------------------------------------

theorem letStatement_eq :
    letStatement = letStatementWith expression := by
  apply unbounded_eq
  intro bound depth hDepth
  have hValue :=
    expression_agrees .lowest
      (show 2 * bound + 1 ≤ depth + 1 by omega)
  refine .bind (.refl _ _) fun token => .bind (.refl _ _) ?_
  refine fun name => .bind (.refl _ _) fun _ => .bind (.refl _ _) ?_
  exact fun _ => .bind hValue.terminated fun _ => .refl _ _

theorem returnStatement_eq :
    returnStatement = returnStatementWith expression := by
  apply unbounded_eq
  intro bound depth hDepth
  have hValue :=
    expression_agrees .lowest
      (show 2 * bound + 1 ≤ depth + 1 by omega)
  refine .bind (.refl _ _) fun token => .bind (.refl _ _) ?_
  exact fun _ => .bind hValue.terminated fun _ => .refl _ _

theorem expressionStatement_eq :
    expressionStatement = expressionStatementWith expression := by
  apply unbounded_eq
  intro bound depth hDepth
  have hInner :=
    expression_agrees .lowest
      (show 2 * bound + 1 ≤ depth + 1 by omega)
  refine .bind (.refl _ _) fun token => ?_
  exact .bind hInner.terminated fun _ => .refl _ _

theorem statement_eq :
    statement = statementWith expression block := by
  apply unbounded_eq
  intro bound depth hDepth
  refine statementWith_agrees (fun inner => ?_) ?_
  · exact expression_agrees inner (by omega)
  · exact block_agrees (by omega)

theorem blockStatements_eq :
    blockStatements = (do
      let token ← current
      if token.kind = .rbrace then
        return []
      else if token.kind = .eof then
        fail token .unclosedBlock
      else
        prependWith statement blockStatements) := by
  apply unbounded_eq
  intro bound depth hDepth
  refine AgreesTo.bind (.refl _ _) fun token => ?_
  split
  next hKind =>
    rw [if_pos hKind]
    exact .refl _ _
  next hKind =>
    rw [if_neg (by simp [hKind]), if_pos hKind]
    exact .refl _ _
  next hBrace hEnd =>
    rw [if_neg hBrace, if_neg hEnd]
    refine .bind (statement_agrees (by omega)).attempt fun _ => ?_
    apply AgreesTo.bind (.refl _ _)
    intro _
    exact
      .bind (blockStatements_agrees (by omega) (by omega)) fun _ =>
        .refl _ _

theorem block_eq :
    block = (do
      let token ← current
      step
      let statements ← blockStatements
      return .block token.toMark statements) := by
  apply unbounded_eq
  intro bound depth hDepth
  refine AgreesTo.bind (.refl _ _) fun token => ?_
  apply AgreesTo.bind (.refl _ _)
  intro _
  exact
    .bind (blockStatements_agrees (by omega) (by omega)) fun _ =>
      .refl _ _

theorem programStatements_eq :
    programStatements = (do
      let token ← current
      if token.kind = .eof then
        return []
      else
        prependWith statement programStatements) := by
  apply unbounded_eq
  intro bound depth hDepth
  refine AgreesTo.bind (.refl _ _) fun token => ?_
  split
  next hKind =>
    rw [if_pos hKind]
    exact .refl _ _
  next hEnd =>
    rw [if_neg hEnd]
    refine .bind (statement_agrees (by omega)).attempt fun _ => ?_
    apply AgreesTo.bind (.refl _ _)
    intro _
    exact
      .bind (programStatements_agrees (by omega) (by omega)) fun _ =>
        .refl _ _

/- Every depth that suffices for the tokens ahead will do. -/
theorem programStatements_agrees_of_le
    {state : ParserState}
    {depth : Nat}
    (hDepth : sufficientDepth state ≤ depth) :
    programStatementsWith (statementWithin depth) depth state =
      programStatements state := by
  have hAgrees :
      AgreesTo state.ahead.length
        (programStatementsWith (statementWithin depth) depth)
        programStatements := by
    unfold sufficientDepth at hDepth
    exact programStatements_agrees (by omega) (by omega)
  exact hAgrees state (Nat.le_refl _)

end Parse

end MonkeyLang
