import MonkeyLang.Parser.Program

/-
  Parsing only goes forward: no routine returns to a token that
  it has passed over, and none takes back an error.

  Main declarations:
    * `ParserState.Leads`   (a state from which another is reached)
    * `Parse.Forward`       (a routine that only goes forward)
-/

------------------------------------------------------------
-- States That Lead to Others
------------------------------------------------------------

namespace MonkeyLang

namespace ParserState

/-
  A state leads to another if that one is reached by passing
  over tokens and by reporting errors.
-/
structure Leads
    (first second : ParserState) :
    Prop where
  position : first.position ≤ second.position
  ahead :
    second.ahead =
      first.ahead.drop (second.position - first.position)
  ending : second.ending = first.ending
  errors : first.errors <+: second.errors

namespace Leads

theorem refl
    (state : ParserState) :
    state.Leads state where
  position := Nat.le_refl _
  ahead := by simp
  ending := rfl
  errors := List.prefix_rfl

theorem trans
    {first second third : ParserState}
    (hFirst : first.Leads second)
    (hSecond : second.Leads third) :
    first.Leads third where
  position := Nat.le_trans hFirst.position hSecond.position
  ahead := by
    have hLow := hFirst.position
    have hHigh := hSecond.position
    rw [hSecond.ahead, hFirst.ahead, List.drop_drop]
    congr 1
    omega
  ending := hSecond.ending.trans hFirst.ending
  errors := hFirst.errors.trans hSecond.errors

theorem next
    (state : ParserState) :
    state.Leads state.next where
  position := Nat.le_succ _
  ahead := by simp [ParserState.next]
  ending := rfl
  errors := List.prefix_rfl

theorem report
    (state : ParserState)
    (error : SyntaxError) :
    state.Leads (state.report error) where
  position := Nat.le_refl _
  ahead := by simp [ParserState.report]
  ending := rfl
  errors := List.prefix_append _ _

/- No tokens are added. -/
theorem length_ahead_le
    {first second : ParserState}
    (hLeads : first.Leads second) :
    second.ahead.length ≤ first.ahead.length := by
  rw [hLeads.ahead, List.length_drop]
  omega

end Leads

@[simp] theorem length_ahead_next
    (state : ParserState) :
    state.next.ahead.length = state.ahead.length - 1 := by
  simp [next]

/- Where no token is ahead, the input has ended. -/
theorem current_kind_of_length
    {state : ParserState}
    (hLength : state.ahead.length ≤ 0) :
    state.current.kind = .eof := by
  have hNil := List.eq_nil_of_length_eq_zero (Nat.le_zero.mp hLength)
  simp [current, hNil, state.ending_kind]

theorem upcoming_kind_of_length
    {state : ParserState}
    (hLength : state.ahead.length ≤ 1) :
    state.upcoming.kind = .eof := by
  have hTail : state.ahead.tail = [] := by
    apply List.eq_nil_of_length_eq_zero
    rw [List.length_tail]
    omega
  simp [upcoming, hTail, state.ending_kind]

end ParserState

------------------------------------------------------------
-- Running Routines
------------------------------------------------------------

namespace Parse

theorem bind_apply
    (routine : Parse α)
    (following : α → Parse β)
    (state : ParserState) :
    (routine >>= following) state =
      match routine state with
      | (some value, state) => following value state
      | (none, state) => (none, state) := rfl

@[simp] theorem pure_apply
    (value : α)
    (state : ParserState) :
    (pure value : Parse α) state = (some value, state) := rfl

@[simp] theorem current_bind
    (following : Token → Parse α)
    (state : ParserState) :
    (current >>= following) state =
      following state.current state := rfl

@[simp] theorem upcoming_bind
    (following : Token → Parse α)
    (state : ParserState) :
    (upcoming >>= following) state =
      following state.upcoming state := rfl

@[simp] theorem upcomingIs_bind
    (kind : TokenKind)
    (following : Bool → Parse α)
    (state : ParserState) :
    (upcomingIs kind >>= following) state =
      following (state.upcoming.kind = kind) state := rfl

@[simp] theorem step_bind
    (following : Unit → Parse α)
    (state : ParserState) :
    (step >>= following) state = following () state.next := rfl

@[simp] theorem step_apply
    (state : ParserState) :
    step state = (some (), state.next) := rfl

@[simp] theorem fail_apply
    (token : Token)
    (cause : SyntaxError.Cause)
    (state : ParserState) :
    (fail token cause : Parse α) state =
      (none, state.report (SyntaxError.about token cause)) := rfl

theorem expect_apply
    (kind : TokenKind)
    (state : ParserState) :
    expect kind state =
      if state.upcoming.kind = kind then
        (some (), state.next)
      else
        (none, state.report (SyntaxError.about state.upcoming
          (.unexpected kind state.upcoming.kind))) := by
  unfold expect
  rw [upcoming_bind]
  split <;> rfl

------------------------------------------------------------
-- Routines That Go Forward
------------------------------------------------------------

/- A routine leads from every state to the one that it leaves. -/
class Forward
    (routine : Parse α) :
    Prop where
  leads : ∀ state : ParserState, state.Leads (routine state).2

theorem leads
    (routine : Parse α)
    [Forward routine]
    (state : ParserState) :
    state.Leads (routine state).2 :=
  Forward.leads state

namespace Forward

instance (value : α) : Forward (result value) :=
  ⟨ParserState.Leads.refl⟩

instance (value : α) : Forward (pure value : Parse α) :=
  ⟨ParserState.Leads.refl⟩

instance : Forward (failure : Parse α) :=
  ⟨ParserState.Leads.refl⟩

instance (value? : Option α) : Forward (ofOption value?) :=
  ⟨ParserState.Leads.refl⟩

instance : Forward current := ⟨ParserState.Leads.refl⟩

instance : Forward upcoming := ⟨ParserState.Leads.refl⟩

instance (kind : TokenKind) : Forward (upcomingIs kind) :=
  ⟨ParserState.Leads.refl⟩

instance : Forward step := ⟨ParserState.Leads.next⟩

instance
    (token : Token)
    (cause : SyntaxError.Cause) :
    Forward (fail token cause : Parse α) :=
  ⟨fun state => .report state _⟩

theorem bind
    {routine : Parse α}
    {following : α → Parse β}
    (hRoutine : Forward routine)
    (hFollowing : ∀ value, Forward (following value)) :
    Forward (routine >>= following) where
  leads state := by
    have hFirst := hRoutine.leads state
    rw [bind_apply]
    split
    next value middle hRun =>
      rw [hRun] at hFirst
      exact hFirst.trans ((hFollowing value).leads middle)
    next hRun =>
      rw [hRun] at hFirst
      exact hFirst

instance
    (routine : Parse α)
    (following : α → Parse β)
    [hRoutine : Forward routine]
    [hFollowing : ∀ value, Forward (following value)] :
    Forward (routine >>= following) :=
  hRoutine.bind hFollowing

instance
    (routine : Parse α)
    [hRoutine : Forward routine] :
    Forward (attempt routine) :=
  ⟨hRoutine.leads⟩

instance
    (condition : Prop)
    [Decidable condition]
    (first second : Parse α)
    [Forward first]
    [Forward second] :
    Forward (if condition then first else second) := by
  split <;> infer_instance

instance (kind : TokenKind) : Forward (expect kind) := by
  unfold expect
  infer_instance

instance : Forward skipSemicolon := by
  unfold skipSemicolon
  infer_instance

instance
    (routine : Parse α)
    [Forward routine] :
    Forward (terminated routine) := by
  unfold terminated
  infer_instance

------------------------------------------------------------
-- Expressions and Statements
------------------------------------------------------------

instance : Forward identifier := by
  unfold identifier
  infer_instance

instance : Forward expectName := by
  unfold expectName
  infer_instance

instance : Forward integerLiteral := by
  unfold integerLiteral
  refine bind inferInstance fun token => ?_
  split <;> infer_instance

instance : Forward booleanLiteral := by
  unfold booleanLiteral
  infer_instance

instance : Forward stringLiteral := by
  unfold stringLiteral
  infer_instance

section

variable (expression : Precedence → Parse Node)
variable (statement block : Parse Node)
variable [∀ precedence, Forward (expression precedence)]
variable [Forward statement] [Forward block]

instance : Forward (unaryWith expression) := by
  unfold unaryWith
  infer_instance

instance (left : Node) : Forward (binaryWith expression left) := by
  unfold binaryWith
  infer_instance

instance : Forward (groupedWith expression) := by
  unfold groupedWith
  infer_instance

instance : Forward (ifExpressionWith expression block) := by
  unfold ifExpressionWith
  refine bind inferInstance fun token => ?_
  refine bind inferInstance fun _ => bind inferInstance fun _ => ?_
  refine bind inferInstance fun condition => ?_
  refine bind inferInstance fun _ => bind inferInstance fun _ => ?_
  refine bind inferInstance fun consequence => ?_
  infer_instance

instance (limit : Nat) : Forward (moreParameters limit) := by
  induction limit with
  | zero => exact inferInstanceAs (Forward failure)
  | succ limit ih =>
      unfold moreParameters
      infer_instance

instance (limit : Nat) : Forward (parametersUpTo limit) := by
  unfold parametersUpTo
  infer_instance

instance
    (limit : Nat) :
    Forward (functionLiteralWith block limit) := by
  unfold functionLiteralWith
  infer_instance

instance
    (limit : Nat) :
    Forward (moreArgumentsWith expression limit) := by
  induction limit with
  | zero => exact inferInstanceAs (Forward failure)
  | succ limit ih =>
      unfold moreArgumentsWith
      infer_instance

instance
    (limit : Nat) :
    Forward (argumentsWith expression limit) := by
  unfold argumentsWith
  infer_instance

instance
    (limit : Nat)
    (callee : Node) :
    Forward (callWith expression limit callee) := by
  unfold callWith
  infer_instance

instance
    (limit : Nat)
    (opening : Opening) :
    Forward (openWith expression block limit opening) := by
  cases opening <;> unfold openWith <;> infer_instance

instance
    (limit : Nat)
    (extension : Extension)
    (left : Node) :
    Forward (widenWith expression limit extension left) := by
  cases extension <;> unfold widenWith <;> infer_instance

instance
    (limit : Nat)
    (precedence : Precedence)
    (left : Node) :
    Forward (extendWith expression limit precedence left) := by
  induction limit generalizing left with
  | zero => exact inferInstanceAs (Forward failure)
  | succ limit ih =>
      unfold extendWith
      refine bind inferInstance fun token => ?_
      split
      · split <;> infer_instance
      · infer_instance

instance
    (limit : Nat)
    (precedence : Precedence) :
    Forward (expressionWith expression block limit precedence) := by
  unfold expressionWith
  refine bind inferInstance fun token => ?_
  split <;> infer_instance

instance : Forward (letStatementWith expression) := by
  unfold letStatementWith
  infer_instance

instance : Forward (returnStatementWith expression) := by
  unfold returnStatementWith
  infer_instance

instance : Forward (expressionStatementWith expression) := by
  unfold expressionStatementWith
  infer_instance

instance : Forward (statementWith expression block) := by
  unfold statementWith
  refine bind inferInstance fun token => ?_
  split <;> infer_instance

instance
    (others : Parse (List Node))
    [Forward others] :
    Forward (prependWith statement others) := by
  unfold prependWith
  infer_instance

instance
    (limit : Nat) :
    Forward (blockStatementsWith statement limit) := by
  induction limit with
  | zero => exact inferInstanceAs (Forward failure)
  | succ limit ih =>
      unfold blockStatementsWith
      refine bind inferInstance fun token => ?_
      split <;> infer_instance

instance
    (limit : Nat) :
    Forward (blockWith statement limit) := by
  unfold blockWith
  infer_instance

instance
    (limit : Nat) :
    Forward (programStatementsWith statement limit) := by
  induction limit with
  | zero => exact inferInstanceAs (Forward failure)
  | succ limit ih =>
      unfold programStatementsWith
      refine bind inferInstance fun token => ?_
      split <;> infer_instance

end

/- Nested expressions and statements go forward at every depth. -/
theorem within
    (depth : Nat) :
    (∀ precedence, Forward (expressionWithin depth precedence)) ∧
      Forward (statementWithin depth) := by
  induction depth with
  | zero =>
      exact ⟨fun _ => inferInstanceAs (Forward failure),
        inferInstanceAs (Forward failure)⟩
  | succ depth ih =>
      have hExpression := ih.1
      have hStatement := ih.2
      constructor
      · intro precedence
        unfold expressionWithin
        infer_instance
      · unfold statementWithin
        infer_instance

instance
    (depth : Nat)
    (precedence : Precedence) :
    Forward (expressionWithin depth precedence) :=
  (within depth).1 precedence

instance (depth : Nat) : Forward (statementWithin depth) :=
  (within depth).2

instance (depth : Nat) : Forward (blockWithin depth) := by
  unfold blockWithin
  infer_instance

instance
    (routine : Nat → Parse α)
    [∀ depth, Forward (routine depth)] :
    Forward (unbounded routine) where
  leads state := Parse.leads (routine _) state

instance : Forward statement := by
  unfold statement
  infer_instance

instance : Forward block := by
  unfold block
  infer_instance

instance : Forward programStatements := by
  unfold programStatements
  infer_instance

instance
    (precedence : Precedence) :
    Forward (expression precedence) := by
  unfold expression
  infer_instance

instance : Forward unary := by
  unfold unary
  infer_instance

instance (left : Node) : Forward (binary left) := by
  unfold binary
  infer_instance

instance : Forward grouped := by
  unfold grouped
  infer_instance

instance : Forward ifExpression := by
  unfold ifExpression
  infer_instance

instance : Forward functionLiteral := by
  unfold functionLiteral
  infer_instance

instance : Forward parameters := by
  unfold parameters
  infer_instance

instance : Forward arguments := by
  unfold arguments
  infer_instance

instance (callee : Node) : Forward (call callee) := by
  unfold call
  infer_instance

end Forward

end Parse

end MonkeyLang
