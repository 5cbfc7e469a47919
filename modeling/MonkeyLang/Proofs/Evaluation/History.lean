import MonkeyLang.Eval.Evaluation

/-
  Evaluation with a record of what happens.

  A recorded evaluation has a history: the trees that were
  evaluated, in the order in which their values were found, the
  calls, and every change of the heap. It has one even if it
  halts, and then says what has happened until then. It does
  not say what becomes of the heap. That follows from the
  history, so that nothing happens to the heap that is not
  recorded.

  Main declarations:
    * `Event`                (what is recorded)
    * `Heap.replay`          (what a history makes of a heap)
    * `record`               (recorded evaluation)
    * `erased_record`        (evaluation, from its record)
    * `evaluate_eq_ok_iff`
-/

------------------------------------------------------------
-- Events
------------------------------------------------------------

namespace MonkeyLang

/-
  What happens during an evaluation: a tree has a value, a
  function is called, a function is made, a scope is made that
  binds some labels, or a label is bound.
-/
inductive Event where
  | evaluated (value : Value)
  | called (function : Value) (arguments : List Value)
  | made
  | opened (outer : ScopeId) (bindings : List (Label × Value))
  | bound (scope : ScopeId) (label : Label) (value : Value)

namespace Event

/- What an event makes of the heap. -/
def effect
    (event : Event)
    (heap : Heap) :
    Heap :=
  match event with
  | .evaluated _ => heap
  | .called _ _ => heap
  | .made => heap.newFunction.2
  | .opened outer bindings => (heap.newScope (some outer) bindings).2
  | .bound scope label value => heap.bind scope label value

/- The values that an event passes on or stores. -/
def handled
    (event : Event) :
    List Value :=
  match event with
  | .evaluated _ => []
  | .called function arguments => function :: arguments
  | .made => []
  | .opened _ bindings => bindings.map (·.2)
  | .bound _ _ value => [value]

/- All values that occur in an event. -/
def values
    (event : Event) :
    List Value :=
  match event with
  | .evaluated value => [value]
  | other => other.handled

end Event

/- What a history makes of a heap. -/
def Heap.replay
    (heap : Heap)
    (history : List Event) :
    Heap :=
  history.foldl (fun heap event => event.effect heap) heap

@[simp]
theorem Heap.replay_nil
    (heap : Heap) :
    heap.replay [] = heap :=
  rfl

@[simp]
theorem Heap.replay_singleton
    (heap : Heap)
    (event : Event) :
    heap.replay [event] = event.effect heap :=
  rfl

@[simp]
theorem Heap.replay_append
    (heap : Heap)
    (first second : List Event) :
    heap.replay (first ++ second) = (heap.replay first).replay second :=
  List.foldl_append

/- Functions are only ever added. -/
theorem Heap.functions_le_replay
    (heap : Heap)
    (history : List Event) :
    heap.functions ≤ (heap.replay history).functions := by
  induction history generalizing heap with
  | nil => exact Nat.le_refl _
  | cons event rest ih =>
      apply Nat.le_trans ?_ (ih (event.effect heap))
      cases event with
      | made => exact Nat.le_succ _
      | _ => exact Nat.le_refl _

------------------------------------------------------------
-- Evaluations
------------------------------------------------------------

namespace Eval

/- A chain has a result if both of its actions do, one after the other. -/
theorem bind_eq_ok
    {action : Eval α}
    {following : α → Eval β}
    {heap after : Heap}
    {result : β}
    (hRun : (action >>= following) heap = .ok (result, after)) :
    ∃ value middle,
      action heap = .ok (value, middle) ∧
        following value middle = .ok (result, after) := by
  simp only [bind, andThen] at hRun
  split at hRun
  next value middle hValue => exact ⟨value, middle, hValue, hRun⟩
  next => cases hRun

/- What follows an action that has a result starts with that. -/
theorem bind_of_ok
    {action : Eval α}
    {heap middle : Heap}
    {value : α}
    (hAction : action heap = .ok (value, middle))
    (following : α → Eval β) :
    (action >>= following) heap = following value middle := by
  simp only [bind, andThen, hAction]

/- An evaluation that leaves the heap as it is. -/
def Reads
    (action : Eval α) :
    Prop :=
  ∀ heap value after, action heap = .ok (value, after) → after = heap

theorem halt_reads
    (cause : Halt) :
    (halt cause : Eval α).Reads := by
  intro heap value after hRun
  cases hRun

theorem resolve_reads
    (scope : ScopeId)
    (name : String) :
    (resolve scope name).Reads := by
  intro heap value after hRun
  unfold resolve at hRun
  cases hLookup : heap.lookup scope name with
  | some found => simp_all
  | none =>
      cases hBuiltin : Builtin.ofName? name <;> simp_all

theorem labelOf_reads
    (node : Node) :
    (labelOf node).Reads := by
  intro heap value after hRun
  unfold labelOf at hRun
  cases hLabel : node.label? <;> simp_all [result, halt]

theorem labelsOf_reads
    (nodes : List Node) :
    (labelsOf nodes).Reads := by
  induction nodes with
  | nil =>
      intro heap labels after hRun
      cases hRun
      rfl
  | cons node rest ih =>
      intro heap labels after hRun
      rcases bind_eq_ok hRun with ⟨label, middle, hLabel, hRest⟩
      rcases bind_eq_ok hRest with ⟨others, last, hOthers, hLast⟩
      cases hLast
      rw [ih _ _ _ hOthers, labelOf_reads _ _ _ _ hLabel]

end Eval

------------------------------------------------------------
-- Recorded Evaluations
------------------------------------------------------------

/- An evaluation with its history, as far as it comes. -/
def Recorded
    (α : Type) :
    Type :=
  Heap → Except Halt α × List Event

namespace Recorded

/- The recorded evaluation that has a result and does nothing. -/
def result
    (value : α) :
    Recorded α :=
  fun _ => (.ok value, [])

/- One recorded evaluation, and on what it leaves another. -/
def andThen
    (action : Recorded α)
    (following : α → Recorded β) :
    Recorded β :=
  fun heap =>
    match action heap with
    | (.error cause, history) => (.error cause, history)
    | (.ok value, first) =>
        match following value (heap.replay first) with
        | (outcome, second) => (outcome, first ++ second)

instance : Monad Recorded where
  pure := result
  bind := andThen

/- An evaluation during which some events happen, unless it halts. -/
def during
    (history : List Event)
    (action : Eval α) :
    Recorded α :=
  fun heap =>
    match action heap with
    | .error cause => (.error cause, [])
    | .ok (value, _) => (.ok value, history)

/- Record an event. -/
def note
    (event : Event) :
    Recorded Unit :=
  fun _ => (.ok (), [event])

/- Record the value that a tree is evaluated to. -/
def settled
    (action : Recorded Value) :
    Recorded Value := do
  let value ← action
  note (.evaluated value)
  return value

/- Go on with a value, unless it is an error. -/
def unlessError
    (action : Recorded Value)
    (following : Value → Recorded Value) :
    Recorded Value := do
  let value ← action
  if value.isError then
    return value
  else
    following value

theorem bind_of_error
    {action : Recorded α}
    {heap : Heap}
    {cause : Halt}
    {history : List Event}
    (hRun : action heap = (.error cause, history))
    (following : α → Recorded β) :
    (action >>= following) heap = (.error cause, history) := by
  simp only [bind, andThen, hRun]

theorem bind_of_ok
    {action : Recorded α}
    {following : α → Recorded β}
    {heap : Heap}
    {value : α}
    {outcome : Except Halt β}
    {first second : List Event}
    (hRun : action heap = (.ok value, first))
    (hFollowing : following value (heap.replay first) = (outcome, second)) :
    (action >>= following) heap = (outcome, first ++ second) := by
  simp only [bind, andThen, hRun, hFollowing]

/- A chain halts in its first action, or goes on with its result. -/
theorem bind_eq
    {action : Recorded α}
    {following : α → Recorded β}
    {heap : Heap}
    {outcome : Except Halt β}
    {history : List Event}
    (hRun : (action >>= following) heap = (outcome, history)) :
    (∃ cause,
      action heap = (.error cause, history) ∧ outcome = .error cause) ∨
    ∃ middle before after,
      action heap = (.ok middle, before) ∧
        following middle (heap.replay before) = (outcome, after) ∧
        history = before ++ after := by
  rcases hFirst : action heap with ⟨first, before⟩
  cases first with
  | error cause =>
      rw [bind_of_error hFirst] at hRun
      cases hRun
      exact .inl ⟨cause, rfl, rfl⟩
  | ok middle =>
      rw [bind_of_ok hFirst rfl] at hRun
      cases hRun
      exact .inr ⟨middle, before, _, rfl, rfl, rfl⟩

/- A chain has a result if both of its actions do, one after the other. -/
theorem bind_eq_ok
    {action : Recorded α}
    {following : α → Recorded β}
    {heap : Heap}
    {result : β}
    {history : List Event}
    (hRun : (action >>= following) heap = (.ok result, history)) :
    ∃ middle before after,
      action heap = (.ok middle, before) ∧
        following middle (heap.replay before) = (.ok result, after) ∧
        history = before ++ after := by
  rcases bind_eq hRun with ⟨cause, -, hCause⟩ | hBoth
  · cases hCause
  · exact hBoth

/- An evaluation with events has them, or it halts and has none. -/
theorem during_eq
    {events history : List Event}
    {action : Eval α}
    {heap : Heap}
    {outcome : Except Halt α}
    (hRun : during events action heap = (outcome, history)) :
    (∃ cause, outcome = .error cause ∧ history = []) ∨
      history = events ∧
        ∃ result after,
          outcome = .ok result ∧ action heap = .ok (result, after) := by
  unfold during at hRun
  split at hRun
  next cause _ =>
    cases hRun
    exact .inl ⟨cause, rfl, rfl⟩
  next result after hResult =>
    cases hRun
    exact .inr ⟨rfl, result, after, rfl, hResult⟩

/- The evaluation that is recorded. -/
def erased
    (action : Recorded α) :
    Eval α :=
  fun heap =>
    match action heap with
    | (.error cause, _) => .error cause
    | (.ok value, history) => .ok (value, heap.replay history)

end Recorded

------------------------------------------------------------
-- Nodes
------------------------------------------------------------

mutual

/- Evaluate a tree in a scope, and record it. -/
def recordWith
    (call : Value → List Value → Recorded Value)
    (scope : ScopeId)
    (node : Node) :
    Recorded Value :=
  Recorded.settled <|
    match node with
    | .identifier id => .during [] (Eval.resolve scope id.name)
    | .integer _ value => return .integer value
    | .boolean _ value => return .boolean value
    | .string _ value => return .string value
    | .unary _ operator operand =>
        (recordWith call scope operand).unlessError fun right =>
          return applyUnary operator right
    | .binary _ first operator second =>
        (recordWith call scope first).unlessError fun left =>
          (recordWith call scope second).unlessError fun right =>
            return applyBinary operator left right
    | .ifThen _ condition consequence =>
        (recordWith call scope condition).unlessError fun value =>
          if value.truthy then
            recordWith call scope consequence
          else
            return .null
    | .ifElse _ condition consequence alternative =>
        (recordWith call scope condition).unlessError fun value =>
          if value.truthy then
            recordWith call scope consequence
          else
            recordWith call scope alternative
    | .function _ parameters body =>
        .during [.made] (Eval.makeFunction parameters body scope)
    | .call _ callee arguments =>
        (recordWith call scope callee).unlessError fun function => do
          match ← recordArguments call scope arguments with
          | .error failure => return failure
          | .ok values => call function values
    | .letStatement _ name expression =>
        (recordWith call scope expression).unlessError fun value => do
          let label ← Recorded.during [] (Eval.labelOf name)
          Recorded.during [.bound scope label value]
            (Eval.bindLabel scope label value)
          return .null
    | .returnStatement _ expression =>
        (recordWith call scope expression).unlessError fun value =>
          return .returned value
    | .expressionStatement _ expression =>
        recordWith call scope expression
    | .block _ statements => recordSequence call scope .null statements
    | .program statements => do
        let value ← recordSequence call scope .null statements
        return value.unwrapped
    | .unknown kind => .during [] (Eval.halt (.unknownNode kind))

/- Evaluate statements in order, and record it. -/
def recordSequence
    (call : Value → List Value → Recorded Value)
    (scope : ScopeId)
    (last : Value)
    (statements : List Node) :
    Recorded Value :=
  match statements with
  | [] => return last
  | statement :: rest => do
      let value ← recordWith call scope statement
      if value.endsSequence then
        return value
      else
        recordSequence call scope value rest

/- Evaluate arguments in order, and record it. -/
def recordArguments
    (call : Value → List Value → Recorded Value)
    (scope : ScopeId)
    (arguments : List Node) :
    Recorded (Except Value (List Value)) :=
  match arguments with
  | [] => return .ok []
  | argument :: rest => do
      let value ← recordWith call scope argument
      if value.isError then
        return .error value
      else
        match ← recordArguments call scope rest with
        | .error failure => return .error failure
        | .ok values => return .ok (value :: values)

end

/- Call a function with arguments, and record it. -/
def recordCall
    (depth : Nat)
    (function : Value)
    (arguments : List Value) :
    Recorded Value :=
  match depth with
  | 0 => .during [] (Eval.halt .outOfDepth)
  | depth + 1 => do
      Recorded.note (.called function arguments)
      match function with
      | .function _ parameters body scope =>
          if arguments.length = parameters.length then do
            let labels ← Recorded.during [] (Eval.labelsOf parameters)
            let inner ←
              Recorded.during [.opened scope (labels.zip arguments)]
                (Eval.enterScope scope (labels.zip arguments))
            let value ← recordWith (recordCall depth) inner body
            return value.unwrapped
          else
            return (RuntimeError.wrongArgumentCount
              arguments.length parameters.length).value
      | .builtin builtin => return builtin.apply arguments
      | other => return (RuntimeError.notAFunction other.typeName).value

/- Evaluate a tree in a scope to a depth of calls, and record it. -/
def record
    (depth : Nat)
    (scope : ScopeId)
    (node : Node) :
    Recorded Value :=
  recordWith (recordCall depth) scope node

------------------------------------------------------------
-- Erasure
------------------------------------------------------------

namespace Recorded

@[simp]
theorem erased_pure
    (value : α) :
    (pure value : Recorded α).erased = pure value :=
  rfl

@[simp]
theorem erased_bind
    (action : Recorded α)
    (following : α → Recorded β) :
    (action >>= following).erased =
      action.erased >>= fun value => (following value).erased := by
  funext heap
  simp only [erased, bind, andThen, Eval.andThen]
  rcases action heap with ⟨outcome, first⟩
  cases outcome with
  | error => rfl
  | ok value =>
      rcases hSecond : following value (heap.replay first) with
        ⟨outcome, second⟩
      cases outcome <;> simp [hSecond]

@[simp]
theorem erased_ite
    (condition : Prop)
    [Decidable condition]
    (first second : Recorded α) :
    (if condition then first else second).erased =
      if condition then first.erased else second.erased := by
  split <;> rfl

/- An evaluation is what is recorded if the events have its effect. -/
theorem erased_during
    {history : List Event}
    {action : Eval α}
    (hEffect :
      ∀ heap value after, action heap = .ok (value, after) →
        after = heap.replay history) :
    (during history action).erased = action := by
  funext heap
  simp only [erased, during]
  cases hRun : action heap with
  | error => rfl
  | ok result =>
      have hAfter := hEffect heap result.1 result.2 hRun
      simp [← hAfter]

/- What only reads the heap is recorded without events. -/
theorem erased_reading
    {action : Eval α}
    (hReads : action.Reads) :
    (during [] action).erased = action :=
  erased_during hReads

theorem erased_note
    (event : Event)
    (hEffect : ∀ heap, event.effect heap = heap)
    (action : Eval α) :
    ((note event).erased >>= fun _ => action) = action := by
  funext heap
  simp [bind, Eval.andThen, erased, note, hEffect]

theorem erased_settled
    (action : Recorded Value) :
    action.settled.erased = action.erased := by
  funext heap
  simp only [settled, erased, bind, andThen, note, pure, result]
  rcases action heap with ⟨outcome, history⟩
  cases outcome with
  | error => rfl
  | ok => simp [Event.effect]

theorem erased_made
    (parameters : List Node)
    (body : Node)
    (scope : ScopeId) :
    (during [.made] (Eval.makeFunction parameters body scope)).erased =
      Eval.makeFunction parameters body scope := by
  apply erased_during
  intro heap value after hRun
  cases hRun
  rfl

theorem erased_bound
    (scope : ScopeId)
    (label : Label)
    (value : Value) :
    (during [.bound scope label value]
        (Eval.bindLabel scope label value)).erased =
      Eval.bindLabel scope label value := by
  apply erased_during
  intro heap value after hRun
  cases hRun
  rfl

theorem erased_opened
    (outer : ScopeId)
    (bindings : List (Label × Value)) :
    (during [.opened outer bindings]
        (Eval.enterScope outer bindings)).erased =
      Eval.enterScope outer bindings := by
  apply erased_during
  intro heap value after hRun
  cases hRun
  rfl

theorem erased_unlessError
    (action : Recorded Value)
    (following : Value → Recorded Value) :
    (action.unlessError following).erased =
      action.erased >>= fun value =>
        if value.isError then
          pure value
        else
          (following value).erased := by
  simp [unlessError]

end Recorded

section

/- Calls are recorded as they are. -/
def RecordsCalls
    (recorded : Value → List Value → Recorded Value)
    (call : Eval.Call) :
    Prop :=
  ∀ function arguments,
    (recorded function arguments).erased = call function arguments

variable {recorded : Value → List Value → Recorded Value}
variable {call : Eval.Call}

mutual

/- If calls are recorded as they are, so is every tree. -/
theorem erased_recordWith
    (hCall : RecordsCalls recorded call)
    (scope : ScopeId)
    (node : Node) :
    (recordWith recorded scope node).erased =
      evaluateWith call scope node := by
  unfold recordWith evaluateWith
  rw [Recorded.erased_settled]
  cases node with
  | identifier id =>
      exact Recorded.erased_reading (Eval.resolve_reads _ _)
  | integer | boolean | string => rfl
  | unary _ _ operand =>
      simp [Recorded.erased_unlessError,
        erased_recordWith hCall scope operand]
  | binary _ first _ second =>
      simp [Recorded.erased_unlessError,
        erased_recordWith hCall scope first,
        erased_recordWith hCall scope second]
  | ifThen _ condition consequence =>
      simp [Recorded.erased_unlessError,
        erased_recordWith hCall scope condition,
        erased_recordWith hCall scope consequence]
  | ifElse _ condition consequence alternative =>
      simp [Recorded.erased_unlessError,
        erased_recordWith hCall scope condition,
        erased_recordWith hCall scope consequence,
        erased_recordWith hCall scope alternative]
  | function => exact Recorded.erased_made _ _ _
  | call _ callee arguments =>
      simp only [Recorded.erased_unlessError, Recorded.erased_bind,
        erased_recordWith hCall scope callee,
        erased_recordArguments hCall scope arguments]
      congr 1
      funext value
      congr 1
      congr 1
      funext result
      cases result <;> simp [hCall value]
  | letStatement _ name expression =>
      simp [Recorded.erased_unlessError,
        erased_recordWith hCall scope expression,
        Recorded.erased_reading (Eval.labelOf_reads name),
        Recorded.erased_bound]
  | returnStatement _ expression =>
      simp [Recorded.erased_unlessError,
        erased_recordWith hCall scope expression]
  | expressionStatement _ expression =>
      exact erased_recordWith hCall scope expression
  | block _ statements =>
      exact erased_recordSequence hCall scope .null statements
  | program statements =>
      simp [erased_recordSequence hCall scope .null statements]
  | unknown => exact Recorded.erased_reading (Eval.halt_reads _)

theorem erased_recordSequence
    (hCall : RecordsCalls recorded call)
    (scope : ScopeId)
    (last : Value)
    (statements : List Node) :
    (recordSequence recorded scope last statements).erased =
      evaluateSequence call scope last statements := by
  unfold recordSequence evaluateSequence
  cases statements with
  | nil => rfl
  | cons statement rest =>
      simp [erased_recordWith hCall scope statement,
        erased_recordSequence hCall scope _ rest]

theorem erased_recordArguments
    (hCall : RecordsCalls recorded call)
    (scope : ScopeId)
    (arguments : List Node) :
    (recordArguments recorded scope arguments).erased =
      evaluateArguments call scope arguments := by
  unfold recordArguments evaluateArguments
  cases arguments with
  | nil => rfl
  | cons argument rest =>
      simp only [Recorded.erased_bind, Recorded.erased_ite,
        Recorded.erased_pure, erased_recordWith hCall scope argument,
        erased_recordArguments hCall scope rest]
      congr 1
      funext value
      congr 1
      congr 1
      funext result
      cases result <;> rfl

end

end

/- Calls are recorded as they are. -/
theorem erased_recordCall
    (depth : Nat) :
    RecordsCalls (recordCall depth) (applyWithin depth) := by
  induction depth with
  | zero =>
      exact fun _ _ => Recorded.erased_reading (Eval.halt_reads _)
  | succ depth ih =>
      intro function arguments
      unfold recordCall applyWithin
      rw [Recorded.erased_bind, Recorded.erased_note _ (fun _ => rfl)]
      cases function with
      | function _ parameters body scope =>
          simp only [Recorded.erased_ite, Recorded.erased_bind,
            Recorded.erased_pure, Recorded.erased_opened,
            Recorded.erased_reading (Eval.labelsOf_reads parameters),
            erased_recordWith ih]
      | _ => rfl

/- A call that ends has a history, which makes the heap it leaves. -/
theorem exists_history_of_call
    {depth : Nat}
    {function value : Value}
    {arguments : List Value}
    {heap after : Heap}
    (hCall :
      applyWithin depth function arguments heap = .ok (value, after)) :
    ∃ history, after = heap.replay history := by
  rw [← erased_recordCall] at hCall
  unfold Recorded.erased at hCall
  split at hCall
  next => cases hCall
  next found history _ =>
    cases hCall
    exact ⟨history, rfl⟩

/- Evaluation, from its record. -/
theorem erased_record
    (depth : Nat)
    (scope : ScopeId)
    (node : Node) :
    (record depth scope node).erased = evaluate depth scope node :=
  erased_recordWith (erased_recordCall depth) scope node

/-
  An evaluation ends with a value if and only if its record
  does, and the history makes the heap it leaves.
-/
theorem evaluate_eq_ok_iff
    {depth : Nat}
    {scope : ScopeId}
    {node : Node}
    {heap after : Heap}
    {value : Value} :
    evaluate depth scope node heap = .ok (value, after) ↔
      ∃ history,
        record depth scope node heap = (.ok value, history) ∧
          after = heap.replay history := by
  rw [← erased_record]
  unfold Recorded.erased
  rcases record depth scope node heap with ⟨outcome, history⟩
  cases outcome with
  | error => simp
  | ok found => simp [and_assoc, eq_comm]

/- An evaluation halts if and only if its record does. -/
theorem evaluate_eq_error_iff
    {depth : Nat}
    {scope : ScopeId}
    {node : Node}
    {heap : Heap}
    {cause : Halt} :
    evaluate depth scope node heap = .error cause ↔
      ∃ history,
        record depth scope node heap = (.error cause, history) := by
  rw [← erased_record]
  unfold Recorded.erased
  rcases record depth scope node heap with ⟨outcome, history⟩
  cases outcome <;> simp

end MonkeyLang
