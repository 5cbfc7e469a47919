import MonkeyLang.Proofs.Parsing.Attention
import MonkeyLang.Proofs.Parsing.Soundness

/-
  The parser called from outside: any of its routines, in any
  order and on any token. The cursor stays on the tokens and
  only goes forward, errors are only added and are about tokens
  near the cursor, and whoever gets no result finds an error.

  Main declarations:
    * `Parse.Answers`       (no failure without an error)
    * `Parse.Proceeds`      (errors near the cursor)
    * `Call`, `Call.run`    (the routines as they are called)
    * `calls_keep_cursor`
-/

------------------------------------------------------------
-- Failures and Errors
------------------------------------------------------------

namespace MonkeyLang

namespace Parse

/-
  A routine that goes forward, and that reports an error if it
  fails.
-/
class Answers
    (routine : Parse α) :
    Prop where
  forward : Forward routine
  clean : ∀ state, Clean routine state fun _ _ => True

theorem Answers.of_clean
    {routine : Parse α}
    {condition : ParserState → α → ParserState → Prop}
    [Forward routine]
    (hClean : ∀ state, Clean routine state (condition state)) :
    Answers routine :=
  ⟨inferInstance, fun state => (hClean state).mono fun _ _ _ => trivial⟩

/- Where there is no result there is an error more. -/
theorem Answers.errors_ne
    (routine : Parse α)
    [hAnswers : Answers routine]
    {state : ParserState}
    (hNone : (routine state).1 = none) :
    (routine state).2.errors ≠ state.errors := by
  intro hErrors
  rcases hAnswers.clean state hErrors with ⟨value, hSome, -⟩
  simp [hNone] at hSome

namespace Answers

instance (value : α) : Answers (pure value : Parse α) :=
  ⟨inferInstance, fun _ => .pure trivial⟩

instance : Answers current :=
  ⟨inferInstance, fun _ => .of_eq rfl trivial⟩

instance : Answers upcoming :=
  ⟨inferInstance, fun _ => .of_eq rfl trivial⟩

instance (kind : TokenKind) : Answers (upcomingIs kind) :=
  ⟨inferInstance, fun _ => .of_eq rfl trivial⟩

instance : Answers step :=
  ⟨inferInstance, fun _ => .of_eq rfl trivial⟩

instance
    (token : Token)
    (cause : SyntaxError.Cause) :
    Answers (fail token cause : Parse α) :=
  ⟨inferInstance, fun state => .fail token cause state _⟩

theorem bind
    {routine : Parse α}
    {following : α → Parse β}
    (hRoutine : Answers routine)
    (hFollowing : ∀ value, Answers (following value)) :
    Answers (routine >>= following) := by
  have hFirst := hRoutine.forward
  have hSecond := fun value => (hFollowing value).forward
  refine ⟨inferInstance, fun state => ?_⟩
  exact (hRoutine.clean state).bind fun value middle _ _ =>
    (hFollowing value).clean middle

instance
    (routine : Parse α)
    (following : α → Parse β)
    [hRoutine : Answers routine]
    [hFollowing : ∀ value, Answers (following value)] :
    Answers (routine >>= following) :=
  hRoutine.bind hFollowing

instance
    (condition : Prop)
    [Decidable condition]
    (first second : Parse α)
    [Answers first]
    [Answers second] :
    Answers (if condition then first else second) := by
  split <;> infer_instance

instance (kind : TokenKind) : Answers (expect kind) := by
  unfold expect
  infer_instance

instance
    (routine : Parse α)
    [hRoutine : Answers routine] :
    Answers (terminated routine) := by
  have hForward := hRoutine.forward
  refine ⟨inferInstance, fun state => ?_⟩
  exact (hRoutine.clean state).terminated.mono fun _ _ _ => trivial

instance : Answers identifier := by
  unfold identifier
  infer_instance

instance : Answers expectName := by
  unfold expectName
  infer_instance

instance : Answers integerLiteral := by
  refine ⟨inferInstance, fun state => ?_⟩
  unfold integerLiteral
  rw [Clean.current_bind]
  cases integerValue? state.current.literal with
  | none => exact .fail _ _ _ _
  | some => exact .pure trivial

instance : Answers booleanLiteral := by
  unfold booleanLiteral
  infer_instance

instance : Answers stringLiteral := by
  unfold stringLiteral
  infer_instance

instance (precedence : Precedence) : Answers (expression precedence) :=
  .of_clean fun state => (sound state).1 precedence

instance : Answers statement :=
  .of_clean fun state => (sound state).2

instance : Answers parameters := .of_clean parameters_sound

instance : Answers programStatements :=
  .of_clean programStatements_sound

instance : Answers argumentsBehind :=
  .of_clean fun state =>
    argumentsBehind_sound (fun inner _ => (sound inner).1) state
      (Nat.le_refl _)

instance : Answers blockStatements :=
  .of_clean blockStatements_sound

instance : Answers arguments := by
  rw [arguments_eq]
  infer_instance

instance : Answers block := by
  rw [block_eq]
  infer_instance

instance : Answers program := by
  unfold program
  infer_instance

instance : Answers letStatement := by
  rw [letStatement_eq]
  unfold letStatementWith
  infer_instance

instance : Answers returnStatement := by
  rw [returnStatement_eq]
  unfold returnStatementWith
  infer_instance

instance : Answers expressionStatement := by
  rw [expressionStatement_eq]
  unfold expressionStatementWith
  infer_instance

instance : Answers unary := by
  rw [unary_eq]
  unfold unaryWith
  infer_instance

instance (left : Node) : Answers (binary left) := by
  rw [binary_eq]
  unfold binaryWith
  infer_instance

instance : Answers grouped := by
  rw [grouped_eq]
  unfold groupedWith
  infer_instance

instance : Answers ifExpression := by
  rw [ifExpression_eq]
  unfold ifExpressionWith
  refine bind inferInstance fun token => ?_
  refine bind inferInstance fun _ => bind inferInstance fun _ => ?_
  refine bind inferInstance fun condition => ?_
  refine bind inferInstance fun _ => bind inferInstance fun _ => ?_
  refine bind inferInstance fun consequence => ?_
  infer_instance

instance : Answers functionLiteral := by
  rw [functionLiteral_eq]
  infer_instance

instance (callee : Node) : Answers (call callee) := by
  rw [call_eq]
  infer_instance

end Answers

end Parse

------------------------------------------------------------
-- Places of Errors
------------------------------------------------------------

/-
  A run that goes forward, and that reports errors only about
  tokens that it passes over and the two behind them.
-/
def ParserState.Proceeds
    (before after : ParserState) :
    Prop :=
  ∃ passed errors,
    after = before.after passed errors ∧
      ∀ error ∈ errors,
        ∃ place ≤ passed + 1, error.Concerns (before.tokenAt place)

theorem ParserState.Proceeds.refl
    (state : ParserState) :
    state.Proceeds state :=
  ⟨0, [], by simp, by simp⟩

theorem ParserState.Proceeds.next
    (state : ParserState) :
    state.Proceeds state.next :=
  ⟨1, [], state.next_eq_after, by simp⟩

/- An error may be reported about the current token and the next. -/
theorem ParserState.Proceeds.report
    (state : ParserState)
    {place : Nat}
    (hPlace : place ≤ 1)
    (cause : SyntaxError.Cause) :
    state.Proceeds
      (state.report (SyntaxError.about (state.tokenAt place) cause)) := by
  refine ⟨0, _, state.report_eq_after _, fun error hError => ?_⟩
  rcases List.mem_singleton.mp hError with rfl
  exact ⟨place, hPlace, rfl, rfl⟩

namespace Parse

/- What a run has looked at bounds where its errors are. -/
theorem Attends.proceeds
    {start seen : Nat}
    {routine : Parse α}
    {state : ParserState}
    (hAttends : Attends start seen routine state)
    (hSeen : seen ≤ 1) :
    state.Proceeds (routine state).2 := by
  rcases hAttends with ⟨value?, passed, errors, places, hAccount⟩
  refine ⟨passed, errors, by rw [hAccount.run], fun error hError => ?_⟩
  rcases hAccount.exists_place error hError with
    ⟨place, hPlace, hConcerns⟩
  refine ⟨place, Nat.le_trans hPlace ?_, hConcerns⟩
  unfold horizon
  split <;> omega

/- It does so with whatever depth the routine chooses. -/
theorem unbounded_proceeds
    {start seen : Nat}
    {routine : Nat → Parse α}
    (hWatches : ∀ depth, Watches start seen (routine depth))
    (hSeen : seen ≤ 1)
    (state : ParserState) :
    state.Proceeds (unbounded routine state).2 :=
  (hWatches _ state).proceeds hSeen

end Parse

------------------------------------------------------------
-- Calls
------------------------------------------------------------

/- The routines of the parser that return a node. -/
inductive NodeRoutine where
  | program
  | statement
  | letStatement
  | returnStatement
  | expressionStatement
  | block
  | expression (precedence : Precedence)
  | identifier
  | integerLiteral
  | booleanLiteral
  | stringLiteral
  | unary
  | grouped
  | ifExpression
  | functionLiteral
  | binary (left : Node)
  | call (callee : Node)

def NodeRoutine.parse
    (routine : NodeRoutine) :
    Parse Node :=
  match routine with
  | .program => Parse.program
  | .statement => Parse.statement
  | .letStatement => Parse.letStatement
  | .returnStatement => Parse.returnStatement
  | .expressionStatement => Parse.expressionStatement
  | .block => Parse.block
  | .expression precedence => Parse.expression precedence
  | .identifier => Parse.identifier
  | .integerLiteral => Parse.integerLiteral
  | .booleanLiteral => Parse.booleanLiteral
  | .stringLiteral => Parse.stringLiteral
  | .unary => Parse.unary
  | .grouped => Parse.grouped
  | .ifExpression => Parse.ifExpression
  | .functionLiteral => Parse.functionLiteral
  | .binary left => Parse.binary left
  | .call callee => Parse.call callee

/-
  The calls that can be made of the parser. That a token starts
  no expression can be reported of any token; here it is of the
  current one or of the next, since otherwise the token need not
  be one of the list.
-/
inductive Call where
  | next
  | expect (kind : TokenKind)
  | currentIs (kind : TokenKind)
  | upcomingIs (kind : TokenKind)
  | currentPrecedence
  | upcomingPrecedence
  | reportUpcoming (wanted : TokenKind)
  | reportNoExpression (place : Fin 2)
  | node (routine : NodeRoutine)
  | arguments
  | parameters

/- What a call returns. -/
inductive Reply where
  | nothing
  | answer (found : Bool)
  | precedence (precedence : Precedence)
  | node (node? : Option Node)
  | arguments (nodes? : Option (List Node))
  | parameters (names? : Option (List Identifier))

/- A node or a list of them was asked for, and there is none. -/
def Reply.IsMissing
    (reply : Reply) :
    Prop :=
  reply = .node none ∨ reply = .arguments none ∨
    reply = .parameters none

/- What a call returns, and the state that it leaves. -/
def Call.run
    (call : Call)
    (state : ParserState) :
    Reply × ParserState :=
  match call with
  | .next => (.nothing, state.next)
  | .expect kind =>
      (Parse.expect kind state).map (fun found? => .answer found?.isSome) id
  | .currentIs kind => (.answer (state.current.kind = kind), state)
  | .upcomingIs kind => (.answer (state.upcoming.kind = kind), state)
  | .currentPrecedence =>
      (.precedence (precedenceOf state.current.kind), state)
  | .upcomingPrecedence =>
      (.precedence (precedenceOf state.upcoming.kind), state)
  | .reportUpcoming wanted =>
      (.nothing, state.report (SyntaxError.about state.upcoming
        (.unexpected wanted state.upcoming.kind)))
  | .reportNoExpression place =>
      let token := state.tokenAt place
      (.nothing, state.report (SyntaxError.about token
        (.startsNoExpression token.kind)))
  | .node routine => (routine.parse state).map .node id
  | .arguments => (Parse.arguments state).map .arguments id
  | .parameters => (Parse.parameters state).map .parameters id

/- The state after some calls, one after another. -/
def ParserState.afterCalls
    (state : ParserState)
    (calls : List Call) :
    ParserState :=
  calls.foldl (fun state call => (call.run state).2) state

theorem NodeRoutine.parse_answers
    (routine : NodeRoutine) :
    Parse.Answers routine.parse := by
  cases routine <;> unfold parse <;> infer_instance

theorem NodeRoutine.parse_proceeds
    (routine : NodeRoutine)
    (state : ParserState) :
    state.Proceeds (routine.parse state).2 := by
  have hExpression := Parse.expressionWithin_watches
  have hStatement := Parse.statementWithin_watches
  have hBlock := Parse.blockWithin_watches
  cases routine with
  | program =>
      have hState :
          (Parse.program state).2 = (Parse.programStatements state).2 := by
        unfold Parse.program
        rw [Parse.bind_apply]
        split
        next hRun => rw [hRun]; rfl
        next hRun => rw [hRun]
      change state.Proceeds (Parse.program state).2
      rw [hState]
      exact Parse.unbounded_proceeds
        (fun depth =>
          Parse.programStatementsWith_watches (hStatement depth) depth)
        (Nat.zero_le _) state
  | statement =>
      exact Parse.unbounded_proceeds hStatement Nat.le.refl state
  | letStatement =>
      exact Parse.unbounded_proceeds
        (fun depth => Parse.letStatementWith_watches (hExpression depth))
        Nat.le.refl state
  | returnStatement =>
      exact Parse.unbounded_proceeds
        (fun depth =>
          Parse.returnStatementWith_watches (hExpression depth))
        Nat.le.refl state
  | expressionStatement =>
      exact Parse.unbounded_proceeds
        (fun depth =>
          Parse.expressionStatementWith_watches (hExpression depth))
        Nat.le.refl state
  | block =>
      exact Parse.unbounded_proceeds hBlock (Nat.zero_le _) state
  | expression precedence =>
      exact Parse.unbounded_proceeds
        (fun depth => hExpression depth precedence) Nat.le.refl state
  | identifier =>
      exact (Parse.identifier_watches state).proceeds (Nat.zero_le _)
  | integerLiteral =>
      exact (Parse.integerLiteral_watches state).proceeds
        (Nat.zero_le _)
  | booleanLiteral =>
      exact (Parse.booleanLiteral_watches state).proceeds
        (Nat.zero_le _)
  | stringLiteral =>
      exact (Parse.stringLiteral_watches state).proceeds
        (Nat.zero_le _)
  | unary =>
      exact Parse.unbounded_proceeds
        (fun depth => Parse.unaryWith_watches (hExpression depth))
        Nat.le.refl state
  | grouped =>
      exact Parse.unbounded_proceeds
        (fun depth => Parse.groupedWith_watches (hExpression depth))
        (Nat.zero_le _) state
  | ifExpression =>
      exact Parse.unbounded_proceeds
        (fun depth =>
          Parse.ifExpressionWith_watches (hExpression depth)
            (hBlock depth))
        Nat.le.refl state
  | functionLiteral =>
      exact Parse.unbounded_proceeds
        (fun depth =>
          Parse.functionLiteralWith_watches (hBlock depth) depth)
        (Nat.zero_le _) state
  | binary left =>
      exact Parse.unbounded_proceeds
        (fun depth => Parse.binaryWith_watches (hExpression depth) left)
        Nat.le.refl state
  | call callee =>
      exact Parse.unbounded_proceeds
        (fun depth =>
          Parse.callWith_watches (hExpression depth) depth callee)
        (Nat.zero_le _) state

theorem Call.run_proceeds
    (call : Call)
    (state : ParserState) :
    state.Proceeds (call.run state).2 := by
  cases call with
  | next => exact .next state
  | expect kind =>
      exact (Parse.Attends.expect kind Nat.le.refl).proceeds
        (Nat.zero_le _)
  | currentIs | upcomingIs | currentPrecedence | upcomingPrecedence =>
      exact .refl state
  | reportUpcoming wanted =>
      unfold run
      rw [← state.tokenAt_one]
      exact .report state Nat.le.refl _
  | reportNoExpression place =>
      exact .report state (Nat.le_of_lt_succ place.isLt) _
  | node routine => exact routine.parse_proceeds state
  | arguments =>
      exact Parse.unbounded_proceeds
        (fun depth =>
          Parse.argumentsWith_watches
            (Parse.expressionWithin_watches depth) depth)
        (Nat.zero_le _) state
  | parameters =>
      exact Parse.unbounded_proceeds Parse.parametersUpTo_watches
        (Nat.zero_le _) state

/- Whoever asks for a node and gets none finds an error. -/
theorem Call.errors_ne_of_isMissing
    {call : Call}
    {state : ParserState}
    (hMissing : (call.run state).1.IsMissing) :
    (call.run state).2.errors ≠ state.errors := by
  unfold Reply.IsMissing run at hMissing
  cases call with
  | node routine =>
      have hAnswers := routine.parse_answers
      exact Parse.Answers.errors_ne routine.parse
        (by simpa using hMissing)
  | arguments =>
      exact Parse.Answers.errors_ne Parse.arguments
        (by simpa using hMissing)
  | parameters =>
      exact Parse.Answers.errors_ne Parse.parameters
        (by simpa using hMissing)
  | next | expect | currentIs | upcomingIs | currentPrecedence
  | upcomingPrecedence | reportUpcoming | reportNoExpression =>
      simp at hMissing

------------------------------------------------------------
-- The Tokens and Their Endless End
------------------------------------------------------------

/-
  The tokens, and behind them ends of input at the place of the
  last one.
-/
def endless
    (tokens : List Token)
    (index : Nat) :
    Token :=
  match tokens[index]?, tokens.getLast? with
  | some token, _ => token
  | none, some last => Token.endAt last.line last.column
  | none, none => Token.endAt 0 0

namespace ParserState

/- What a state sees from some position on are the given tokens. -/
structure IsOn
    (state : ParserState)
    (tokens : List Token) :
    Prop where
  ahead : state.ahead = tokens.drop state.position
  ending : state.ending = (ofTokens tokens).ending

theorem isOn_ofTokens
    (tokens : List Token) :
    (ofTokens tokens).IsOn tokens :=
  ⟨rfl, rfl⟩

theorem IsOn.tokenAt_eq
    {state : ParserState}
    {tokens : List Token}
    (hOn : state.IsOn tokens)
    (distance : Nat) :
    state.tokenAt distance =
      endless tokens (state.position + distance) := by
  unfold tokenAt endless
  rw [hOn.ahead, hOn.ending, List.drop_drop, List.headD_eq_head?_getD,
    List.head?_drop]
  cases tokens[state.position + distance]? with
  | some token => rfl
  | none =>
      simp only [ofTokens]
      cases tokens.getLast? <;> rfl

theorem tokenAt_ofTokens
    (tokens : List Token)
    (distance : Nat) :
    (ofTokens tokens).tokenAt distance = endless tokens distance := by
  rw [(isOn_ofTokens tokens).tokenAt_eq]
  exact congrArg (endless tokens) (Nat.zero_add distance)

theorem IsOn.after
    {state : ParserState}
    {tokens : List Token}
    (hOn : state.IsOn tokens)
    (passed : Nat)
    (errors : List SyntaxError) :
    (state.after passed errors).IsOn tokens where
  ahead := by simp [ParserState.after, hOn.ahead, List.drop_drop]
  ending := hOn.ending

theorem IsOn.run
    {state : ParserState}
    {tokens : List Token}
    (hOn : state.IsOn tokens)
    (call : Call) :
    (call.run state).2.IsOn tokens := by
  rcases call.run_proceeds state with ⟨passed, errors, hState, -⟩
  rw [hState]
  exact hOn.after passed errors

theorem IsOn.afterCalls
    {state : ParserState}
    {tokens : List Token}
    (hOn : state.IsOn tokens)
    (calls : List Call) :
    (state.afterCalls calls).IsOn tokens := by
  induction calls generalizing state with
  | nil => exact hOn
  | cons call calls ih => exact ih (hOn.run call)

end ParserState

/-
  After any calls, one more call leaves the cursor on the
  tokens, at the same position or a later one. It only adds
  errors, each about a token between the two positions or next
  to the later one, and it adds one if what it was asked for is
  missing.
-/
theorem calls_keep_cursor
    (tokens : List Token)
    (calls : List Call)
    (call : Call) :
    let before := (ParserState.ofTokens tokens).afterCalls calls
    let after := (call.run before).2
    before.current = endless tokens before.position ∧
      before.upcoming = endless tokens (before.position + 1) ∧
      after.current = endless tokens after.position ∧
      after.upcoming = endless tokens (after.position + 1) ∧
      before.position ≤ after.position ∧
      ∃ errors,
        after.errors = before.errors ++ errors ∧
          (∀ error ∈ errors,
            ∃ index,
              before.position ≤ index ∧
                index ≤ after.position + 1 ∧
                error.Concerns (endless tokens index)) ∧
          ((call.run before).1.IsMissing → errors ≠ []) := by
  intro before after
  have hBefore : before.IsOn tokens :=
    (ParserState.isOn_ofTokens tokens).afterCalls calls
  have hAfter : after.IsOn tokens := hBefore.run call
  rcases call.run_proceeds before with
    ⟨passed, errors, hState, hErrors⟩
  have hPosition : after.position = before.position + passed :=
    congrArg ParserState.position hState
  have hAdded : after.errors = before.errors ++ errors :=
    congrArg ParserState.errors hState
  refine ⟨hBefore.tokenAt_eq 0,
    before.tokenAt_one.symm.trans (hBefore.tokenAt_eq 1),
    hAfter.tokenAt_eq 0,
    after.tokenAt_one.symm.trans (hAfter.tokenAt_eq 1),
    by omega, errors, hAdded, ?_, ?_⟩
  · intro error hError
    rcases hErrors error hError with ⟨place, hPlace, hConcerns⟩
    rw [hBefore.tokenAt_eq] at hConcerns
    exact ⟨_, Nat.le_add_right _ _, by omega, hConcerns⟩
  · rintro hMissing rfl
    rw [List.append_nil] at hAdded
    exact Call.errors_ne_of_isMissing hMissing hAdded

end MonkeyLang
