import Mathlib.Data.List.Basic
import MonkeyLang.Proofs.Evaluation.History
import MonkeyLang.Proofs.Evaluation.Operation
import MonkeyLang.Proofs.Evaluation.Reach

/-
  Invariants of evaluation. If a property of values is that of
  all literals in a tree, and operators preserve it, then every
  value has it that occurs when the tree is evaluated where only
  such values are in reach. Errors are excepted, as long as they
  are neither stored nor passed on.

  Main declarations:
    * `Invariant`
    * `Invariant.Keeps`     (recorded evaluations that preserve it)
    * `Invariant.record_keeps`
-/

------------------------------------------------------------
-- Invariants
------------------------------------------------------------

namespace MonkeyLang

/- The trees that a tree consists of, apart from names. -/
def Node.parts
    (node : Node) :
    List Node :=
  match node with
  | .unary _ _ right => [right]
  | .binary _ left _ right => [left, right]
  | .ifThen _ condition consequence => [condition, consequence]
  | .ifElse _ condition consequence alternative =>
      [condition, consequence, alternative]
  | .function _ _ body => [body]
  | .call _ callee arguments => callee :: arguments
  | .letStatement _ _ value => [value]
  | .returnStatement _ value => [value]
  | .expressionStatement _ expression => [expression]
  | .block _ statements => statements
  | .program statements => statements
  | _ => []

/-
  A property of values and one of trees that belong together.
  Operators and built-in functions preserve that of values
  unless they fail. What is assumed of all values that occur
  helps with the built-in functions.
-/
structure Invariant where
  node : Node → Prop
  value : Value → Prop
  assumed : Value → Prop
  part : ∀ {tree}, node tree → tree.parts.Forall node
  integer :
    ∀ {mark number}, node (.integer mark number) →
      value (.integer number)
  boolean : ∀ truth, value (.boolean truth)
  string : ∀ text, value (.string text)
  null : value .null
  host : ∀ builtin, value (.builtin builtin)
  function :
    ∀ {mark parameters body}, node (.function mark parameters body) →
      ∀ number scope, value (.function number parameters body scope)
  body :
    ∀ {number parameters body scope},
      value (.function number parameters body scope) → node body
  returned : ∀ {inner}, value (.returned inner) ↔ value inner
  unary :
    ∀ {right}, value right → ∀ operator,
      (applyUnary operator right).isError ∨
        value (applyUnary operator right)
  binary :
    ∀ {left right}, value left → value right → ∀ operator,
      (applyBinary operator left right).isError ∨
        value (applyBinary operator left right)
  builtin :
    ∀ {arguments}, (∀ argument ∈ arguments, value argument) →
      (∀ argument ∈ arguments, assumed argument) →
      ∀ builtin : Builtin,
        (builtin.apply arguments).isError ∨
          value (builtin.apply arguments)

namespace Invariant

variable (kept : Invariant)
variable (scopes : ScopeId → Prop)

/- What a tree may have: an error, or a value with the property. -/
def Result
    (value : Value) :
    Prop :=
  value.isError ∨ value.Fits scopes kept.value

/-
  An event that stores and passes on values with the property
  only. Only the value of a tree may be an error.
-/
def Allows
    (event : Event) :
    Prop :=
  (∀ value ∈ event.handled, kept.value value) ∧
    ∀ value ∈ event.values, value.isError ∨ kept.value value

/- All values that occur in a history are as it is assumed. -/
def Assumes
    (history : List Event) :
    Prop :=
  ∀ event ∈ history, ∀ value ∈ event.values, kept.assumed value

/-
  A recorded evaluation that preserves the property throughout
  some scopes, also as far as it comes before it halts, and has
  a result that is related.
-/
def Keeps
    (related : α → Prop)
    (action : Recorded α) :
    Prop :=
  ∀ heap outcome history,
    heap.Holds scopes kept.value →
    action heap = (outcome, history) →
    kept.Assumes history →
      (∀ result, outcome = .ok result → related result) ∧
        (heap.replay history).Holds scopes kept.value ∧
        ∀ event ∈ history, kept.Allows event

variable {kept : Invariant}
variable {scopes : ScopeId → Prop}

------------------------------------------------------------
-- Results
------------------------------------------------------------

/- A value that refers to no scope. -/
theorem Result.of_scalar
    {value : Value}
    (hValue : value.isError ∨ kept.value value)
    (hScalar : value.isScalar) :
    kept.Result scopes value := by
  refine hValue.imp_right fun hHolds => .of_home?_eq_none hHolds ?_
  cases value with
  | returned => cases hScalar
  | function => cases hScalar
  | _ => rfl

theorem Result.fits
    {value : Value}
    (hValue : kept.Result scopes value)
    (hError : ¬value.isError) :
    value.Fits scopes kept.value :=
  hValue.resolve_left hError

theorem Result.weaken
    {value : Value}
    (hValue : kept.Result scopes value) :
    value.isError ∨ kept.value value :=
  hValue.imp_right And.left

theorem Result.unwrapped
    {value : Value}
    (hValue : kept.Result scopes value) :
    kept.Result scopes value.unwrapped := by
  cases value with
  | returned inner =>
      rcases hValue with hError | ⟨hInner, hHome⟩
      · cases hError
      · exact .inr ⟨kept.returned.mp hInner, hHome⟩
  | _ => exact hValue

theorem result_null :
    kept.Result scopes .null :=
  .of_scalar (.inr kept.null) rfl

theorem result_error
    (error : RuntimeError) :
    kept.Result scopes error.value :=
  .inl rfl

------------------------------------------------------------
-- Rules
------------------------------------------------------------

/- An event that only stores and passes on. -/
theorem Allows.of_handled
    {event : Event}
    (hHandled : ∀ value ∈ event.handled, kept.value value)
    (hValues : event.values = event.handled) :
    kept.Allows event :=
  ⟨hHandled, fun value hValue => .inr (hHandled value (hValues ▸ hValue))⟩

theorem Keeps.pure
    {related : α → Prop}
    {result : α}
    (hResult : related result) :
    kept.Keeps scopes related (Pure.pure result) := by
  intro heap outcome history hHeap hRun _
  cases hRun
  refine ⟨?_, hHeap, by simp⟩
  rintro found ⟨⟩
  exact hResult

theorem Keeps.bind
    {first : α → Prop}
    {second : β → Prop}
    {action : Recorded α}
    {following : α → Recorded β}
    (hAction : kept.Keeps scopes first action)
    (hFollowing :
      ∀ result, first result →
        kept.Keeps scopes second (following result)) :
    kept.Keeps scopes second (action >>= following) := by
  intro heap outcome history hHeap hRun hAssumes
  rcases Recorded.bind_eq hRun with
    ⟨cause, hHalt, rfl⟩ |
    ⟨middle, before, after, hBefore, hAfter, rfl⟩
  · rcases hAction heap _ history hHeap hHalt hAssumes with
      ⟨-, hRest⟩
    exact ⟨nofun, hRest⟩
  · rw [Assumes, List.forall_mem_append] at hAssumes
    rcases hAction heap _ before hHeap hBefore hAssumes.1 with
      ⟨hMiddle, hHeap, hEvents⟩
    rcases hFollowing middle (hMiddle middle rfl) _ outcome after hHeap
      hAfter hAssumes.2 with ⟨hResult, hLast, hOthers⟩
    refine ⟨hResult, ?_, ?_⟩
    · rwa [Heap.replay_append]
    · exact List.forall_mem_append.mpr ⟨hEvents, hOthers⟩

theorem Keeps.note
    {event : Event}
    (hEvent : kept.Allows event)
    (hEffect : ∀ heap, event.effect heap = heap) :
    kept.Keeps scopes
      (fun _ => ∀ value ∈ event.values, kept.assumed value)
      (Recorded.note event) := by
  intro heap outcome history hHeap hRun hAssumes
  cases hRun
  refine ⟨fun _ _ => hAssumes event (by simp), ?_, by simpa using hEvent⟩
  rwa [Heap.replay_singleton, hEffect]

theorem Keeps.settled
    {action : Recorded Value}
    (hAction : kept.Keeps scopes (kept.Result scopes) action) :
    kept.Keeps scopes (kept.Result scopes) action.settled := by
  refine hAction.bind fun value hValue => ?_
  refine Keeps.bind (.note ?_ fun _ => rfl) fun _ _ => .pure hValue
  exact ⟨by simp [Event.handled],
    by simpa [Event.values] using hValue.weaken⟩

theorem Keeps.unlessError
    {action : Recorded Value}
    {following : Value → Recorded Value}
    (hAction : kept.Keeps scopes (kept.Result scopes) action)
    (hFollowing :
      ∀ value, value.Fits scopes kept.value →
        kept.Keeps scopes (kept.Result scopes) (following value)) :
    kept.Keeps scopes (kept.Result scopes)
      (action.unlessError following) := by
  refine hAction.bind fun value hValue => ?_
  split
  next => exact .pure hValue
  next hError => exact hFollowing value (hValue.fits hError)

/-
  An evaluation with an event, unless it halts: if it has a
  result, that is related, and the event preserves the property.
-/
theorem Keeps.during
    {related : α → Prop}
    {events : List Event}
    {action : Eval α}
    (hAction :
      ∀ heap result after, heap.Holds scopes kept.value →
        action heap = .ok (result, after) →
          related result ∧
            (heap.replay events).Holds scopes kept.value)
    (hEvents : ∀ event ∈ events, kept.Allows event) :
    kept.Keeps scopes related (.during events action) := by
  intro heap outcome history hHeap hRun _
  rcases Recorded.during_eq hRun with
    ⟨cause, rfl, rfl⟩ | ⟨rfl, result, after, rfl, hResult⟩
  · exact ⟨nofun, hHeap, by simp⟩
  · rcases hAction heap result after hHeap hResult with
      ⟨hRelated, hAfter⟩
    refine ⟨?_, hAfter, hEvents⟩
    rintro found ⟨⟩
    exact hRelated

/- What only reads the heap. -/
theorem Keeps.reading
    {related : α → Prop}
    {action : Eval α}
    (hAction :
      ∀ heap result after, heap.Holds scopes kept.value →
        action heap = .ok (result, after) → related result) :
    kept.Keeps scopes related (.during [] action) := by
  refine .during (fun heap result after hHeap hRun => ?_) (by simp)
  exact ⟨hAction heap result after hHeap hRun, hHeap⟩

theorem Keeps.made
    {parameters : List Node}
    {body : Node}
    {scope : ScopeId}
    (hValue :
      ∀ number,
        (Value.function number parameters body scope).Fits scopes
          kept.value) :
    kept.Keeps scopes (kept.Result scopes)
      (.during [.made] (Eval.makeFunction parameters body scope)) := by
  refine .during (fun heap result after hHeap hRun => ?_)
    (by simp [Allows, Event.handled, Event.values])
  cases hRun
  exact ⟨.inr (hValue _), Heap.holds_newFunction hHeap⟩

theorem Keeps.bound
    {label : Label}
    {value : Value}
    (scope : ScopeId)
    (hValue : value.Fits scopes kept.value) :
    kept.Keeps scopes (fun _ => True)
      (.during [.bound scope label value]
        (Eval.bindLabel scope label value)) := by
  refine .during (fun heap result after hHeap _ => ?_)
    (by simp [Allows, Event.handled, Event.values, hValue.1])
  exact ⟨trivial, Heap.holds_bind hHeap hValue⟩

theorem Keeps.opened
    {outer : ScopeId}
    {bindings : List (Label × Value)}
    (hOuter : scopes outer)
    (hBindings :
      ∀ binding ∈ bindings, binding.2.Fits scopes kept.value) :
    kept.Keeps scopes scopes
      (.during [.opened outer bindings]
        (Eval.enterScope outer bindings)) := by
  refine .during (fun heap result after hHeap hRun => ?_) ?_
  · cases hRun
    exact ⟨hHeap.ahead _ (Nat.le_refl _),
      Heap.holds_newScope hHeap hOuter hBindings⟩
  · simp only [List.mem_singleton, forall_eq]
    refine .of_handled ?_ rfl
    simpa [Event.handled] using fun value label hBinding =>
      (hBindings (label, value) hBinding).1

theorem Keeps.resolve
    {scope : ScopeId}
    (hScope : scopes scope)
    (name : String) :
    kept.Keeps scopes (kept.Result scopes)
      (.during [] (Eval.resolve scope name)) := by
  refine .reading fun heap value after hHeap hRun => ?_
  unfold Eval.resolve at hRun
  cases hLookup : heap.lookup scope name with
  | some found =>
      rw [hLookup] at hRun
      cases hRun
      exact .inr (hHeap.lookup hScope hLookup)
  | none =>
      rw [hLookup] at hRun
      cases hBuiltin : Builtin.ofName? name with
      | some builtin =>
          rw [hBuiltin] at hRun
          cases hRun
          exact .inr (.of_home?_eq_none (kept.host builtin) rfl)
      | none =>
          rw [hBuiltin] at hRun
          cases hRun
          exact result_error _

theorem Keeps.halt
    (related : α → Prop)
    (cause : Halt) :
    kept.Keeps scopes related (.during [] (Eval.halt cause)) :=
  .reading fun _ _ _ _ hRun => by cases hRun

theorem Keeps.any
    {action : Eval α} :
    kept.Keeps scopes (fun _ => True) (.during [] action) :=
  .reading fun _ _ _ _ _ => trivial

------------------------------------------------------------
-- Trees
------------------------------------------------------------

/- Arguments with the property, or an error. -/
def ArgumentsResult
    (kept : Invariant)
    (scopes : ScopeId → Prop)
    (result : Except Value (List Value)) :
    Prop :=
  match result with
  | .error failure => failure.isError
  | .ok values => ∀ value ∈ values, value.Fits scopes kept.value

/- Calls of values with the property preserve it. -/
def KeepsCalls
    (kept : Invariant)
    (scopes : ScopeId → Prop)
    (call : Value → List Value → Recorded Value) :
    Prop :=
  ∀ function arguments,
    function.Fits scopes kept.value →
    (∀ argument ∈ arguments, argument.Fits scopes kept.value) →
      kept.Keeps scopes (kept.Result scopes) (call function arguments)

section

variable {call : Value → List Value → Recorded Value}

mutual

/-
  If calls preserve the property, so does every tree that has
  its own.
-/
theorem recordWith_keeps
    (hCall : kept.KeepsCalls scopes call)
    {scope : ScopeId}
    (hScope : scopes scope)
    (node : Node)
    (hNode : kept.node node) :
    kept.Keeps scopes (kept.Result scopes)
      (recordWith call scope node) := by
  have hParts := kept.part hNode
  unfold recordWith
  apply Keeps.settled
  cases node with
  | identifier id => exact .resolve hScope id.name
  | integer =>
      exact .pure (.of_scalar (.inr (kept.integer hNode)) rfl)
  | boolean => exact .pure (.of_scalar (.inr (kept.boolean _)) rfl)
  | string => exact .pure (.of_scalar (.inr (kept.string _)) rfl)
  | unary _ operator right =>
      have hRight := recordWith_keeps hCall hScope right hParts
      refine hRight.unlessError fun value hValue => .pure ?_
      exact .of_scalar (kept.unary hValue.1 operator)
        (isScalar_applyUnary operator value)
  | binary _ left operator right =>
      have hLeft := recordWith_keeps hCall hScope left hParts.1
      have hRight := recordWith_keeps hCall hScope right hParts.2
      refine hLeft.unlessError fun first hFirst => ?_
      refine hRight.unlessError fun second hSecond => .pure ?_
      exact .of_scalar (kept.binary hFirst.1 hSecond.1 operator)
        (isScalar_applyBinary operator first second)
  | ifThen _ condition consequence =>
      have hCondition :=
        recordWith_keeps hCall hScope condition hParts.1
      refine hCondition.unlessError fun value _ => ?_
      split
      · exact recordWith_keeps hCall hScope consequence hParts.2
      · exact .pure result_null
  | ifElse _ condition consequence alternative =>
      have hCondition :=
        recordWith_keeps hCall hScope condition hParts.1
      refine hCondition.unlessError fun value _ => ?_
      split
      · exact recordWith_keeps hCall hScope consequence hParts.2.1
      · exact recordWith_keeps hCall hScope alternative hParts.2.2
  | function _ parameters body =>
      refine .made fun number => ⟨kept.function hNode number scope, ?_⟩
      simpa [Value.home?] using hScope
  | call _ callee arguments =>
      have hNodes := (List.forall_cons _ _ _).mp hParts
      have hCallee := recordWith_keeps hCall hScope callee hNodes.1
      have hArguments :=
        recordArguments_keeps hCall hScope arguments hNodes.2
      refine hCallee.unlessError fun function hFunction => ?_
      refine hArguments.bind fun result hResult => ?_
      cases result with
      | error => exact .pure (.inl hResult)
      | ok values => exact hCall function values hFunction hResult
  | letStatement _ name expression =>
      have hExpression :=
        recordWith_keeps hCall hScope expression hParts
      refine hExpression.unlessError fun value hValue => ?_
      refine Keeps.any.bind fun label _ => ?_
      exact (Keeps.bound scope hValue).bind fun _ _ => .pure result_null
  | returnStatement _ expression =>
      have hExpression :=
        recordWith_keeps hCall hScope expression hParts
      refine hExpression.unlessError fun value hValue => .pure (.inr ?_)
      exact ⟨kept.returned.mpr hValue.1, hValue.2⟩
  | expressionStatement _ expression =>
      exact recordWith_keeps hCall hScope expression hParts
  | block _ statements =>
      exact recordSequence_keeps hCall hScope result_null statements
        hParts
  | program statements =>
      have hStatements :=
        recordSequence_keeps hCall hScope result_null statements hParts
      exact hStatements.bind fun value hValue =>
        .pure hValue.unwrapped
  | unknown => exact .halt _ _

theorem recordSequence_keeps
    (hCall : kept.KeepsCalls scopes call)
    {scope : ScopeId}
    (hScope : scopes scope)
    {last : Value}
    (hLast : kept.Result scopes last)
    (statements : List Node)
    (hStatements : statements.Forall kept.node) :
    kept.Keeps scopes (kept.Result scopes)
      (recordSequence call scope last statements) := by
  cases statements with
  | nil => exact .pure hLast
  | cons statement rest =>
      have hNodes := (List.forall_cons _ _ _).mp hStatements
      have hStatement :=
        recordWith_keeps hCall hScope statement hNodes.1
      refine hStatement.bind fun value hValue => ?_
      split
      · exact .pure hValue
      · exact recordSequence_keeps hCall hScope hValue rest hNodes.2

theorem recordArguments_keeps
    (hCall : kept.KeepsCalls scopes call)
    {scope : ScopeId}
    (hScope : scopes scope)
    (arguments : List Node)
    (hArguments : arguments.Forall kept.node) :
    kept.Keeps scopes (kept.ArgumentsResult scopes)
      (recordArguments call scope arguments) := by
  cases arguments with
  | nil => exact .pure (by simp [ArgumentsResult])
  | cons argument rest =>
      have hNodes := (List.forall_cons _ _ _).mp hArguments
      have hArgument :=
        recordWith_keeps hCall hScope argument hNodes.1
      have hRest := recordArguments_keeps hCall hScope rest hNodes.2
      refine hArgument.bind fun value hValue => ?_
      split
      next hError => exact .pure hError
      next hError =>
        refine hRest.bind fun result hResult => ?_
        cases result with
        | error => exact .pure hResult
        | ok values =>
            exact .pure (List.forall_mem_cons.mpr
              ⟨hValue.fits hError, hResult⟩)

end

end

------------------------------------------------------------
-- Calls
------------------------------------------------------------

/- The call of a function in a new scope. -/
theorem Keeps.entered
    {call : Value → List Value → Recorded Value}
    (hCall : kept.KeepsCalls scopes call)
    {number : Nat}
    {parameters : List Node}
    {body : Node}
    {home : ScopeId}
    (hFunction :
      (Value.function number parameters body home).Fits scopes
        kept.value)
    {bindings : List (Label × Value)}
    (hBindings :
      ∀ binding ∈ bindings, binding.2.Fits scopes kept.value) :
    kept.Keeps scopes (kept.Result scopes) (do
      let inner ←
        Recorded.during [.opened home bindings]
          (Eval.enterScope home bindings)
      let value ← recordWith call inner body
      return value.unwrapped) := by
  have hHome : scopes home := hFunction.2 home rfl
  refine (Keeps.opened hHome hBindings).bind fun inner hInner => ?_
  have hBody :=
    recordWith_keeps hCall hInner body (kept.body hFunction.1)
  exact hBody.bind fun value hValue => .pure hValue.unwrapped

theorem recordCall_keeps
    (depth : Nat) :
    kept.KeepsCalls scopes (recordCall depth) := by
  induction depth with
  | zero => exact fun _ _ _ _ => .halt _ _
  | succ depth ih =>
      intro function arguments hFunction hArguments
      have hEvent : kept.Allows (.called function arguments) := by
        refine .of_handled (List.forall_mem_cons.mpr ⟨hFunction.1, ?_⟩) rfl
        exact fun value hValue => (hArguments value hValue).1
      unfold recordCall
      refine (Keeps.note hEvent fun _ => rfl).bind fun _ hAssumed => ?_
      cases function with
      | function number parameters body home =>
          dsimp only
          split
          · refine Keeps.any.bind fun labels _ => ?_
            exact .entered ih hFunction fun binding hBinding =>
              hArguments _ (List.of_mem_zip hBinding).2
          · exact .pure (result_error _)
      | builtin builtin =>
          have hResult :=
            kept.builtin (fun value hValue => (hArguments value hValue).1)
              (fun value hValue =>
                hAssumed value (List.mem_cons_of_mem _ hValue)) builtin
          exact .pure
            (.of_scalar hResult (builtin.isScalar_apply arguments))
      | _ => exact .pure (result_error _)

/-
  From where all values in reach have the property, a tree is
  evaluated to an error or to a value with the property. What
  is in reach has it afterwards too, and so has all that is
  stored or passed on. This holds of what happens before an
  evaluation halts as well.
-/
theorem record_keeps
    (kept : Invariant)
    {depth : Nat}
    {scope : ScopeId}
    {node : Node}
    {heap : Heap}
    {outcome : Except Halt Value}
    {history : List Event}
    (hNode : kept.node node)
    (hReach : heap.AllReachable scope kept.value)
    (hRun : record depth scope node heap = (outcome, history))
    (hAssumes : kept.Assumes history) :
    (∀ value, outcome = .ok value →
      value.isError ∨ kept.value value) ∧
      (heap.replay history).AllReachable scope kept.value ∧
      ∀ event ∈ history, kept.Allows event := by
  have hScope : heap.Known scope scope := .inl .origin
  have hKeeps :=
    recordWith_keeps (recordCall_keeps depth) hScope node hNode
  rcases hKeeps heap outcome history (Heap.holds_known hReach) hRun
    hAssumes with ⟨hResult, hHeap, hEvents⟩
  exact ⟨fun value hValue => (hResult value hValue).weaken,
    hHeap.allReachable hScope, hEvents⟩

end Invariant

end MonkeyLang
