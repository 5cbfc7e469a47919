import MonkeyLang.Proofs.Evaluation.Invariant

/-
  The first error wins. As soon as a tree is evaluated to an
  error, all trees around it are evaluated to that error, up to
  the whole program, and nothing else happens: no scope is made
  or changed, and no function is called.

  Errors also do not spread. They are neither stored nor passed
  on nor wrapped, if there were none in reach before.

  Main declarations:
    * `Settles`                 (what comes of an error in a history)
    * `record_orderly`
    * `Invariant.errorFree`
    * `first_error_wins`
-/

------------------------------------------------------------
-- Histories
------------------------------------------------------------

namespace MonkeyLang

/- The error that a value is, if it is one. -/
def Value.failure?
    (value : Value) :
    Option Value :=
  if value.isError then some value else none

theorem Value.failure?_of_isError
    {value : Value}
    (hError : value.isError) :
    value.failure? = some value :=
  if_pos hError

theorem Value.failure?_eq_none
    {value : Value}
    (hError : ¬value.isError) :
    value.failure? = none :=
  if_neg hError

theorem Value.eq_of_failure?_eq_some
    {value failure : Value}
    (hFailure : value.failure? = some failure) :
    value = failure := by
  unfold failure? at hFailure
  split at hFailure <;> cases hFailure
  rfl

/-
  If a tree is evaluated to an error, that error is left in the
  end, and until then all that happens is that more trees are
  evaluated to it.
-/
def Settles
    (failure? : Option Value)
    (history : List Event) :
    Prop :=
  ∀ before failure later,
    history = before ++ .evaluated failure :: later →
    failure.isError →
      failure? = some failure ∧
        ∀ event ∈ later, event = .evaluated failure

/- Trees that have values leave the heap as it is. -/
theorem Heap.replay_evaluated
    {heap : Heap}
    {value : Value}
    {history : List Event}
    (hHistory : ∀ event ∈ history, event = .evaluated value) :
    heap.replay (.evaluated value :: history) = heap := by
  rw [List.eq_replicate_of_mem hHistory]
  induction history.length with
  | zero => rfl
  | succ count ih => exact ih

namespace Settles

theorem nil
    (failure? : Option Value) :
    Settles failure? [] := by
  intro before failure later hSplit
  simp at hSplit

/- An event that is not an error of a tree. -/
theorem single
    {event : Event}
    (failure? : Option Value)
    (hEvent : ∀ value, event = .evaluated value → ¬value.isError) :
    Settles failure? [event] := by
  intro before failure later hSplit hError
  have hMember : .evaluated failure ∈ [event] := by simp [hSplit]
  exact absurd hError (hEvent _ (List.mem_singleton.mp hMember).symm)

/- As long as there is no error, anything may follow. -/
theorem append
    {failure? : Option Value}
    {first second : List Event}
    (hFirst : Settles none first)
    (hSecond : Settles failure? second) :
    Settles failure? (first ++ second) := by
  have hCalm :
      ∀ before failure later,
        first = before ++ .evaluated failure :: later →
          ¬failure.isError :=
    fun before failure later hSplit hError =>
      nomatch (hFirst before failure later hSplit hError).1
  intro before failure later hSplit hError
  rcases List.append_eq_append_iff.mp hSplit with
    ⟨middle, hBefore, hRest⟩ | ⟨middle, hBefore, hRest⟩
  · exact hSecond middle failure later hRest hError
  · cases middle with
    | nil => exact hSecond [] failure later hRest.symm hError
    | cons event middle =>
        cases hRest
        exact absurd hError (hCalm before failure middle hBefore)

/- What settles on a value settles on it once more. -/
theorem concat
    {value : Value}
    {history : List Event}
    (hHistory : Settles value.failure? history) :
    Settles value.failure? (history ++ [.evaluated value]) := by
  intro before failure later hSplit hError
  rcases List.eq_nil_or_concat later with rfl | ⟨rest, last, rfl⟩
  · cases (List.append_inj' hSplit rfl).2
    exact ⟨Value.failure?_of_isError hError, by simp⟩
  · rw [List.concat_eq_append, ← List.cons_append,
      ← List.append_assoc] at hSplit
    rcases List.append_inj' hSplit rfl with ⟨hBefore, hLast⟩
    cases hLast
    rcases hHistory before failure rest hBefore hError with
      ⟨hFailure, hRest⟩
    refine ⟨hFailure, ?_⟩
    rw [List.concat_eq_append, Value.eq_of_failure?_eq_some hFailure]
    exact List.forall_mem_append.mpr
      ⟨Value.eq_of_failure?_eq_some hFailure ▸ hRest, by simp⟩

end Settles

------------------------------------------------------------
-- Rules
------------------------------------------------------------

namespace Recorded

/-
  A recorded evaluation whose history settles. Its result tells
  which error is left, if any.
-/
def Orderly
    (failure? : α → Option Value)
    (action : Recorded α) :
    Prop :=
  ∀ heap result history,
    action heap = (.ok result, history) →
      Settles (failure? result) history

namespace Orderly

theorem pure
    (failure? : α → Option Value)
    (result : α) :
    Orderly failure? (Pure.pure result) := by
  intro heap found history hRun
  cases hRun
  exact .nil _

/- Without an error any action may follow; behind one nothing does. -/
theorem bind
    {first? : α → Option Value}
    {second? : β → Option Value}
    {action : Recorded α}
    {following : α → Recorded β}
    (hAction : Orderly first? action)
    (hCalm :
      ∀ result, first? result = none →
        Orderly second? (following result))
    (hFailure :
      ∀ result failure, first? result = some failure →
        ∃ last, following result = Pure.pure last ∧
          second? last = some failure) :
    Orderly second? (action >>= following) := by
  intro heap result history hRun
  rcases bind_eq_ok hRun with
    ⟨middle, before, after, hBefore, hAfter, rfl⟩
  have hFirst := hAction heap middle before hBefore
  cases hMiddle : first? middle with
  | none =>
      rw [hMiddle] at hFirst
      exact hFirst.append (hCalm middle hMiddle _ result after hAfter)
  | some failure =>
      rw [hMiddle] at hFirst
      rcases hFailure middle failure hMiddle with
        ⟨last, hFollowing, hLast⟩
      rw [hFollowing] at hAfter
      cases hAfter
      rwa [hLast, List.append_nil]

/- After an action that cannot result in an error. -/
theorem after
    {second? : β → Option Value}
    {action : Recorded α}
    {following : α → Recorded β}
    (hAction : Orderly (fun _ => none) action)
    (hFollowing : ∀ result, Orderly second? (following result)) :
    Orderly second? (action >>= following) :=
  hAction.bind (fun result _ => hFollowing result)
    fun _ _ hFailure => nomatch hFailure

theorem during
    {failure? : α → Option Value}
    {events : List Event}
    (action : Eval α)
    (hEvents : ∀ failure?, Settles failure? events) :
    Orderly failure? (.during events action) := by
  intro heap result history hRun
  rcases during_eq hRun with ⟨cause, hHalt, -⟩ | ⟨rfl, -⟩
  · cases hHalt
  · exact hEvents _

theorem reading
    {failure? : α → Option Value}
    (action : Eval α) :
    Orderly failure? (.during [] action) :=
  .during action .nil

theorem note
    {event : Event}
    (hEvent : ∀ value, event = .evaluated value → ¬value.isError) :
    Orderly (fun _ => none) (.note event) := by
  intro heap result history hRun
  cases hRun
  exact .single none hEvent

theorem settled
    {action : Recorded Value}
    (hAction : Orderly Value.failure? action) :
    Orderly Value.failure? action.settled := by
  intro heap value history hRun
  rcases bind_eq_ok hRun with
    ⟨found, before, after, hBefore, hAfter, rfl⟩
  cases hAfter
  exact (hAction heap value before hBefore).concat

/- After the value of a tree, which may be an error. -/
theorem afterValue
    {second? : β → Option Value}
    {action : Recorded Value}
    {following : Value → Recorded β}
    (hAction : Orderly Value.failure? action)
    (hCalm :
      ∀ value, ¬value.isError → Orderly second? (following value))
    (hFailure :
      ∀ value, value.isError →
        ∃ last, following value = Pure.pure last ∧
          second? last = some value) :
    Orderly second? (action >>= following) := by
  refine hAction.bind (fun value hValue => hCalm value fun hError => ?_)
    fun value failure hValue => ?_
  · rw [Value.failure?_of_isError hError] at hValue
    cases hValue
  · cases Value.eq_of_failure?_eq_some hValue
    refine hFailure value ?_
    by_contra hError
    rw [Value.failure?_eq_none hError] at hValue
    cases hValue

theorem unlessError
    {action : Recorded Value}
    {following : Value → Recorded Value}
    (hAction : Orderly Value.failure? action)
    (hFollowing : ∀ value, Orderly Value.failure? (following value)) :
    Orderly Value.failure? (action.unlessError following) := by
  refine hAction.afterValue (fun value hError => ?_)
    fun value hError => ?_
  · rw [if_neg hError]
    exact hFollowing value
  · exact ⟨value, if_pos hError, Value.failure?_of_isError hError⟩

/- A value that is not an error may be unwrapped in the end. -/
theorem unwrapped
    {action : Recorded Value}
    (hAction : Orderly Value.failure? action) :
    Orderly Value.failure? (do
      let value ← action
      return value.unwrapped) := by
  refine hAction.afterValue (fun value _ => .pure _ _)
    fun value hError => ⟨value.unwrapped, rfl, ?_⟩
  cases value with
  | error => rfl
  | _ => cases hError

end Orderly

end Recorded

------------------------------------------------------------
-- Trees
------------------------------------------------------------

/- The error among some arguments. -/
def argumentsFailure?
    (result : Except Value (List Value)) :
    Option Value :=
  match result with
  | .error value => value.failure?
  | .ok _ => none

theorem Value.endsSequence_of_isError
    {value : Value}
    (hError : value.isError) :
    value.endsSequence := by
  cases value with
  | error => rfl
  | _ => cases hError

section

variable {call : Value → List Value → Recorded Value}

mutual

/- If calls are orderly, so is every tree. -/
theorem recordWith_orderly
    (hCall :
      ∀ function arguments,
        (call function arguments).Orderly Value.failure?)
    (scope : ScopeId)
    (node : Node) :
    (recordWith call scope node).Orderly Value.failure? := by
  unfold recordWith
  apply Recorded.Orderly.settled
  cases node with
  | identifier => exact .reading _
  | integer | boolean | string => exact .pure _ _
  | unary _ _ right =>
      have hRight := recordWith_orderly hCall scope right
      exact hRight.unlessError fun _ => .pure _ _
  | binary _ left _ right =>
      have hLeft := recordWith_orderly hCall scope left
      have hRight := recordWith_orderly hCall scope right
      refine hLeft.unlessError fun _ => ?_
      exact hRight.unlessError fun _ => .pure _ _
  | ifThen _ condition consequence =>
      have hCondition := recordWith_orderly hCall scope condition
      refine hCondition.unlessError fun value => ?_
      split
      · exact recordWith_orderly hCall scope consequence
      · exact .pure _ _
  | ifElse _ condition consequence alternative =>
      have hCondition := recordWith_orderly hCall scope condition
      refine hCondition.unlessError fun value => ?_
      split
      · exact recordWith_orderly hCall scope consequence
      · exact recordWith_orderly hCall scope alternative
  | function =>
      exact .during _ fun failure? => .single failure? (by simp)
  | call _ callee arguments =>
      have hCallee := recordWith_orderly hCall scope callee
      have hArguments := recordArguments_orderly hCall scope arguments
      refine hCallee.unlessError fun function => ?_
      refine hArguments.bind (fun result hResult => ?_)
        fun result failure hResult => ?_
      · cases result with
        | error => exact .pure _ _
        | ok values => exact hCall function values
      · cases result with
        | error found => exact ⟨found, rfl, hResult⟩
        | ok => cases hResult
  | letStatement _ name expression =>
      have hExpression := recordWith_orderly hCall scope expression
      refine hExpression.unlessError fun value => ?_
      refine Recorded.Orderly.after (.reading _) fun label => ?_
      refine Recorded.Orderly.after ?_ fun _ => .pure _ _
      exact .during _ fun failure? => .single failure? (by simp)
  | returnStatement _ expression =>
      have hExpression := recordWith_orderly hCall scope expression
      exact hExpression.unlessError fun _ => .pure _ _
  | expressionStatement _ expression =>
      exact recordWith_orderly hCall scope expression
  | block _ statements =>
      exact recordSequence_orderly hCall scope .null statements
  | program statements =>
      have hStatements :=
        recordSequence_orderly hCall scope .null statements
      exact hStatements.unwrapped
  | unknown => exact .reading _

theorem recordSequence_orderly
    (hCall :
      ∀ function arguments,
        (call function arguments).Orderly Value.failure?)
    (scope : ScopeId)
    (last : Value)
    (statements : List Node) :
    (recordSequence call scope last statements).Orderly
      Value.failure? := by
  cases statements with
  | nil => exact .pure _ _
  | cons statement rest =>
      have hStatement := recordWith_orderly hCall scope statement
      refine hStatement.afterValue (fun value _ => ?_)
        fun value hError => ⟨value, ?_, Value.failure?_of_isError hError⟩
      · split
        · exact .pure _ _
        · exact recordSequence_orderly hCall scope value rest
      · exact if_pos (Value.endsSequence_of_isError hError)

theorem recordArguments_orderly
    (hCall :
      ∀ function arguments,
        (call function arguments).Orderly Value.failure?)
    (scope : ScopeId)
    (arguments : List Node) :
    (recordArguments call scope arguments).Orderly
      argumentsFailure? := by
  cases arguments with
  | nil => exact .pure _ _
  | cons argument rest =>
      have hArgument := recordWith_orderly hCall scope argument
      have hRest := recordArguments_orderly hCall scope rest
      refine hArgument.afterValue (fun value hError => ?_)
        fun value hError =>
          ⟨.error value, if_pos hError, Value.failure?_of_isError hError⟩
      rw [if_neg hError]
      refine hRest.bind (fun result hResult => ?_)
        fun result failure hResult => ?_
      · cases result <;> exact .pure _ _
      · cases result with
        | error => exact ⟨_, rfl, hResult⟩
        | ok => cases hResult

end

end

/- Calls are orderly. -/
theorem recordCall_orderly
    (depth : Nat)
    (function : Value)
    (arguments : List Value) :
    (recordCall depth function arguments).Orderly Value.failure? := by
  induction depth generalizing function arguments with
  | zero => exact .reading _
  | succ depth ih =>
      unfold recordCall
      refine .after (.note (by simp)) fun _ => ?_
      cases function with
      | function _ parameters body home =>
          dsimp only
          split
          · refine .after (.reading _) fun labels => ?_
            refine .after ?_ fun inner =>
              (recordWith_orderly ih inner body).unwrapped
            exact .during _ fun failure? => .single failure? (by simp)
          · exact .pure _ _
      | _ => exact .pure _ _

/- The history of a tree settles on its value. -/
theorem record_orderly
    (depth : Nat)
    (scope : ScopeId)
    (node : Node) :
    (record depth scope node).Orderly Value.failure? :=
  recordWith_orderly (recordCall_orderly depth) scope node

------------------------------------------------------------
-- Values without Errors
------------------------------------------------------------

/- Whether a value is no error, and none is wrapped in it. -/
def Value.errorFree
    (value : Value) :
    Bool :=
  match value with
  | .error _ => false
  | .returned inner => errorFree inner
  | _ => true

theorem Value.isError_or_errorFree_of_isScalar
    {value : Value}
    (hScalar : value.isScalar) :
    value.isError ∨ value.errorFree := by
  cases value with
  | error => exact .inl rfl
  | returned => cases hScalar
  | _ => exact .inr rfl

/- Whatever the trees are, errors are neither stored nor passed on. -/
def Invariant.errorFree : Invariant where
  node _ := True
  value value := value.errorFree
  assumed _ := True
  part _ := List.forall_iff_forall_mem.mpr fun _ _ => trivial
  integer _ := rfl
  boolean _ := rfl
  string _ := rfl
  null := rfl
  host _ := rfl
  function _ _ _ := rfl
  body _ := trivial
  returned := Iff.rfl
  unary _ _ :=
    Value.isError_or_errorFree_of_isScalar (isScalar_applyUnary _ _)
  binary _ _ _ :=
    Value.isError_or_errorFree_of_isScalar (isScalar_applyBinary _ _ _)
  builtin _ _ builtin :=
    Value.isError_or_errorFree_of_isScalar (builtin.isScalar_apply _)

------------------------------------------------------------
-- The First Error
------------------------------------------------------------

/-
  A program is evaluated where no error is in reach. Then the
  first tree that is evaluated to an error decides: the error is
  the result, the heap stays as it was then, and all that still
  happens is that more trees are evaluated to that error. No
  error is ever stored, passed on or wrapped, nor is one in
  reach in the end.
-/
theorem first_error_wins
    {depth : Nat}
    {scope : ScopeId}
    {statements : List Node}
    {heap after : Heap}
    {value : Value}
    (hReach : heap.AllReachable scope fun found => found.errorFree)
    (hRun :
      evaluate depth scope (.program statements) heap =
        .ok (value, after)) :
    ∃ history,
      record depth scope (.program statements) heap =
        (.ok value, history) ∧
      after = heap.replay history ∧
      (∀ before failure later,
        history = before ++ .evaluated failure :: later →
        failure.isError →
          value = failure ∧
          after = heap.replay before ∧
          ∀ event ∈ later, event = .evaluated failure) ∧
      (∀ event ∈ history, ∀ found ∈ event.handled, found.errorFree) ∧
      (∀ inner, .evaluated (.returned inner) ∈ history →
        inner.errorFree) ∧
      after.AllReachable scope fun found => found.errorFree := by
  rcases evaluate_eq_ok_iff.mp hRun with ⟨history, hRecord, rfl⟩
  rcases Invariant.errorFree.record_keeps trivial hReach hRecord
    (fun _ _ _ _ => trivial) with ⟨-, hAfter, hEvents⟩
  refine ⟨history, hRecord, rfl, ?_, ?_, ?_, hAfter⟩
  · intro before failure later hSplit hError
    rcases record_orderly _ _ _ heap value history hRecord before failure
      later hSplit hError with ⟨hValue, hLater⟩
    refine ⟨Value.eq_of_failure?_eq_some hValue, ?_, hLater⟩
    rw [hSplit, Heap.replay_append]
    exact Heap.replay_evaluated hLater
  · exact fun event hEvent => (hEvents event hEvent).1
  · intro inner hInner
    have hWrapped :=
      (hEvents _ hInner).2 (.returned inner) (by simp [Event.values])
    exact hWrapped.resolve_left (by simp [Value.isError])

/-
  An error in a return statement in the value of a let statement
  leaves the heap as it was at the start, although another let
  statement follows.
-/
theorem first_error_wins_in_let :
    let mark : Mark := ⟨"", 1, 1⟩
    let negation : Node := .unary mark "-" (.boolean mark true)
    let condition : Node :=
      .ifThen mark (.boolean mark true)
        (.block mark [.returnStatement mark negation])
    let statements : List Node := [
      .letStatement mark (.identifier ⟨mark, "x"⟩) condition,
      .letStatement mark (.identifier ⟨mark, "y"⟩) (.integer mark 1)]
    let failure : Value := (RuntimeError.unknownUnary "-" "BOOLEAN").value
    Heap.initial.AllReachable Heap.globalScope
        (fun found => found.errorFree) ∧
      evaluate 0 Heap.globalScope (.program statements) Heap.initial =
        .ok (failure, Heap.initial) ∧
      ∃ before later,
        record 0 Heap.globalScope (.program statements) Heap.initial =
          (.ok failure, before ++ .evaluated failure :: later) ∧
        Heap.initial = Heap.initial.replay before ∧
        ∀ event ∈ later, event = .evaluated failure := by
  intro mark negation condition statements failure
  have hReach :=
    Heap.allReachable_initial Heap.globalScope
      fun found => found.errorFree
  have hRun :
      evaluate 0 Heap.globalScope (.program statements) Heap.initial =
        .ok (failure, Heap.initial) := by rfl
  refine ⟨hReach, hRun, ?_⟩
  rcases first_error_wins hReach hRun with
    ⟨history, hRecord, -, hFirst, -⟩
  -- Both truth values come first, then the negation fails.
  let before : List Event :=
    [.evaluated (.boolean true), .evaluated (.boolean true)]
  let later : List Event := List.replicate 5 (.evaluated failure)
  have hHistory : history = before ++ .evaluated failure :: later := by
    cases hRecord
    rfl
  exact ⟨before, later, hHistory ▸ hRecord,
    (hFirst before failure later hHistory rfl).2⟩

end MonkeyLang
