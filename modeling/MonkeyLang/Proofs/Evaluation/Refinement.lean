import MonkeyLang.Proofs.Evaluation.History
import MonkeyLang.Proofs.Evaluation.Operation
import MonkeyLang.Proofs.Evaluation.Reach
import MonkeyLang.Proofs.Evaluation.Structured

/-
  Evaluation with values for returns and errors is structured
  control, as long as return statements stand where they may.
  Both evaluations come to the same result and to the same heap.

  A returned value is wrapped in one only as long as it is under
  way. No value is clean that is wrapped, and only clean values
  are stored and passed on.

  Main declarations:
    * `Value.clean`
    * `Simulates`                (two evaluations that agree)
    * `recordWith_simulates`
    * `evaluation_is_structured`
-/

------------------------------------------------------------
-- Agreement
------------------------------------------------------------

namespace MonkeyLang

/-
  Whether a value is neither wrapped nor an error, and returns
  only where it may if it is a function.
-/
def Value.clean
    (value : Value) :
    Bool :=
  match value with
  | .returned _ => false
  | .error _ => false
  | .function _ _ body _ => body.returnSafe true
  | _ => true

/-
  Values by which the outcomes of structured evaluations are
  told of. Only where it is allowed may a value be returned.
-/
inductive Tells
    (scopes : ScopeId → Prop) :
    Bool → Value → Except Signal Value → Prop where
  | value {allowed : Bool} {value : Value}
      (hValue : value.Fits scopes fun found => found.clean) :
      Tells scopes allowed value (.ok value)
  | returning {value : Value}
      (hValue : value.Fits scopes fun found => found.clean) :
      Tells scopes true (.returned value) (.error (.returning value))
  | failing {allowed : Bool} {message : String} :
      Tells scopes allowed (.error message) (.error (.failing message))

/-
  What two evaluations that start from one heap have come to if
  they agree: both halt, or their results are related, their
  heaps are equal, and only clean values have been handled.
-/
inductive Agree
    (scopes : ScopeId → Prop)
    (related : α → Except Signal β → Prop)
    (heap : Heap)
    (recorded : Except Halt α × List Event)
    (control : Except Halt (Except Signal β × Heap)) :
    Prop where
  | halted {cause : Halt} {history : List Event}
      (hRecorded : recorded = (.error cause, history))
      (hControl : control = .error cause) :
      Agree scopes related heap recorded control
  | ended {result : α} {outcome : Except Signal β}
      {history : List Event}
      (hRecorded : recorded = (.ok result, history))
      (hControl : control = .ok (outcome, heap.replay history))
      (hResult : related result outcome)
      (hHeap :
        (heap.replay history).Holds scopes fun found => found.clean)
      (hEvents :
        ∀ event ∈ history, ∀ found ∈ event.handled, found.clean) :
      Agree scopes related heap recorded control

/- Two evaluations that agree from every heap with clean values. -/
def Simulates
    (scopes : ScopeId → Prop)
    (related : α → Except Signal β → Prop)
    (recorded : Recorded α)
    (control : Control β) :
    Prop :=
  ∀ heap,
    heap.Holds scopes (fun found => found.clean) →
      Agree scopes related heap (recorded heap) (control heap)

/- Results that are the same, and no signal. -/
def Exactly
    (holds : α → Prop)
    (result : α)
    (outcome : Except Signal α) :
    Prop :=
  outcome = .ok result ∧ holds result

variable {scopes : ScopeId → Prop}

/- What tells of an outcome does so too where more may be returned. -/
theorem Tells.mono
    {first second : Bool}
    {value : Value}
    {outcome : Except Signal Value}
    (hTells : Tells scopes first value outcome)
    (hAllowed : first → second) :
    Tells scopes second value outcome := by
  cases hTells with
  | value hValue => exact .value hValue
  | returning hValue =>
      cases hAllowed rfl
      exact .returning hValue
  | failing => exact .failing

theorem Tells.eq_outcomeValue
    {allowed : Bool}
    {value : Value}
    {outcome : Except Signal Value}
    (hTells : Tells scopes allowed value outcome) :
    value = outcomeValue outcome := by
  cases hTells <;> rfl

/- A signal is told of by a value that ends a sequence. -/
theorem Tells.endsSequence
    {allowed : Bool}
    {value : Value}
    {signal : Signal}
    (hTells : Tells scopes allowed value (.error signal)) :
    value.endsSequence := by
  cases hTells <;> rfl

theorem Value.not_isError_of_clean
    {value : Value}
    (hClean : value.clean) :
    ¬value.isError := by
  cases value with
  | error => cases hClean
  | _ => simp [isError]

theorem Value.not_endsSequence_of_clean
    {value : Value}
    (hClean : value.clean) :
    ¬value.endsSequence := by
  cases value with
  | error => cases hClean
  | returned => cases hClean
  | _ => simp [endsSequence]

theorem Value.unwrapped_of_clean
    {value : Value}
    (hClean : value.clean) :
    value.unwrapped = value := by
  cases value with
  | returned => cases hClean
  | _ => rfl

/- Where nothing may be returned there is a clean value or an error. -/
theorem Tells.clean_or_isError
    {value : Value}
    {outcome : Except Signal Value}
    (hTells : Tells scopes false value outcome) :
    value.clean ∨ value.isError := by
  cases hTells with
  | value hValue => exact .inl hValue.1
  | failing => exact .inr rfl

/- An unwrapped value tells of what is left if a return is caught. -/
theorem Tells.unwrapped
    {first : Bool}
    {value : Value}
    {outcome : Except Signal Value}
    (hTells : Tells scopes first value outcome)
    (second : Bool) :
    Tells scopes second value.unwrapped (Control.caught outcome) := by
  cases hTells with
  | value hValue =>
      rw [Value.unwrapped_of_clean hValue.1]
      exact .value hValue
  | returning hValue => exact .value hValue
  | failing => exact .failing

------------------------------------------------------------
-- Rules
------------------------------------------------------------

namespace Simulates

theorem pure
    {related : α → Except Signal β → Prop}
    {result : α}
    {other : β}
    (hResult : related result (.ok other)) :
    Simulates scopes related (Pure.pure result) (Pure.pure other) := by
  intro heap hHeap
  exact .ended rfl rfl hResult hHeap (by simp)

theorem raise
    {related : α → Except Signal β → Prop}
    {result : α}
    {signal : Signal}
    (hResult : related result (.error signal)) :
    Simulates scopes related (Pure.pure result) (.raise signal) := by
  intro heap hHeap
  exact .ended rfl rfl hResult hHeap (by simp)

theorem mono
    {first second : α → Except Signal β → Prop}
    {recorded : Recorded α}
    {control : Control β}
    (hSimulates : Simulates scopes first recorded control)
    (hMono :
      ∀ result outcome, first result outcome → second result outcome) :
    Simulates scopes second recorded control := by
  intro heap hHeap
  cases hSimulates heap hHeap with
  | halted hRecorded hControl => exact .halted hRecorded hControl
  | ended hRecorded hControl hResult hAfter hEvents =>
      exact .ended hRecorded hControl (hMono _ _ hResult) hAfter hEvents

/-
  Both go on with what they have come to. Behind a signal the
  recorded evaluation does nothing more.
-/
theorem bind
    {first : α → Except Signal β → Prop}
    {second : γ → Except Signal δ → Prop}
    {recorded : Recorded α}
    {control : Control β}
    {following : α → Recorded γ}
    {continuing : β → Control δ}
    (hFirst : Simulates scopes first recorded control)
    (hOk :
      ∀ result other, first result (.ok other) →
        Simulates scopes second (following result) (continuing other))
    (hSignal :
      ∀ result signal, first result (.error signal) →
        ∃ last, following result = Pure.pure last ∧
          second last (.error signal)) :
    Simulates scopes second (recorded >>= following)
      (control >>= continuing) := by
  intro heap hHeap
  cases hFirst heap hHeap with
  | halted hRecorded hControl =>
      exact .halted (Recorded.bind_of_error hRecorded _)
        (Control.bind_of_error hControl _)
  | @ended result outcome before hRecorded hControl hResult hMiddle
      hBefore =>
      cases outcome with
      | error signal =>
          rcases hSignal result signal hResult with
            ⟨last, hFollowing, hLast⟩
          have hRun :
              (recorded >>= following) heap = (.ok last, before ++ []) :=
            Recorded.bind_of_ok hRecorded (by rw [hFollowing]; rfl)
          rw [List.append_nil] at hRun
          exact .ended hRun (Control.bind_of_signal hControl _) hLast
            hMiddle hBefore
      | ok other =>
          have hOther := Control.bind_of_ok hControl continuing
          cases hOk result other hResult _ hMiddle with
          | halted hHalted hControl =>
              exact .halted (Recorded.bind_of_ok hRecorded hHalted)
                (hOther.trans hControl)
          | ended hEnded hControl hLast hAfter hEvents =>
              refine .ended (Recorded.bind_of_ok hRecorded hEnded) ?_
                hLast ?_ (List.forall_mem_append.mpr ⟨hBefore, hEvents⟩)
              · simpa [hOther] using hControl
              · simpa using hAfter

/-
  An evaluation that needs no signal, with the events that make
  its effect.
-/
theorem during
    {events : List Event}
    {action : Eval α}
    {holds : α → Prop}
    (hAction :
      ∀ heap result after,
        heap.Holds scopes (fun found => found.clean) →
        action heap = .ok (result, after) →
          holds result ∧ after = heap.replay events ∧
            after.Holds scopes fun found => found.clean)
    (hEvents : ∀ event ∈ events, ∀ found ∈ event.handled, found.clean) :
    Simulates scopes (Exactly holds) (.during events action)
      (.ofEval action) := by
  intro heap hHeap
  cases hRun : action heap with
  | error cause =>
      exact .halted (by rw [Recorded.during, hRun])
        (by rw [Control.ofEval, hRun])
  | ok run =>
      rcases hAction heap run.1 run.2 hHeap hRun with
        ⟨hResult, hEffect, hAfter⟩
      refine .ended (by rw [Recorded.during, hRun]) ?_ ⟨rfl, hResult⟩
        (hEffect ▸ hAfter) hEvents
      rw [Control.ofEval, hRun, ← hEffect]

theorem reading
    {action : Eval α}
    (hReads : action.Reads) :
    Simulates scopes (Exactly fun _ => True) (.during [] action)
      (.ofEval action) := by
  refine .during (fun heap result after hHeap hRun => ?_) (by simp)
  cases hReads heap result after hRun
  exact ⟨trivial, rfl, hHeap⟩

theorem halt
    {related : α → Except Signal α → Prop}
    (cause : Halt) :
    Simulates scopes related (.during [] (Eval.halt cause))
      (.ofEval (Eval.halt cause)) :=
  fun _ _ => .halted rfl rfl

theorem made
    {body : Node}
    {scope : ScopeId}
    (hScope : scopes scope)
    (hBody : body.returnSafe true)
    (parameters : List Node) :
    Simulates scopes
      (Exactly fun found => found.Fits scopes fun found => found.clean)
      (.during [.made] (Eval.makeFunction parameters body scope))
      (.ofEval (Eval.makeFunction parameters body scope)) := by
  refine .during (fun heap result after hHeap hRun => ?_)
    (by simp [Event.handled])
  cases hRun
  refine ⟨⟨hBody, ?_⟩, rfl, Heap.holds_newFunction hHeap⟩
  simpa [Value.home?] using hScope

theorem bound
    {value : Value}
    (scope : ScopeId)
    (label : Label)
    (hValue : value.Fits scopes fun found => found.clean) :
    Simulates scopes (Exactly fun _ => True)
      (.during [.bound scope label value]
        (Eval.bindLabel scope label value))
      (.ofEval (Eval.bindLabel scope label value)) := by
  refine .during (fun heap result after hHeap hRun => ?_)
    (by simpa [Event.handled] using hValue.1)
  cases hRun
  exact ⟨trivial, rfl, Heap.holds_bind hHeap hValue⟩

theorem opened
    {outer : ScopeId}
    {bindings : List (Label × Value)}
    (hOuter : scopes outer)
    (hBindings :
      ∀ binding ∈ bindings,
        binding.2.Fits scopes fun found => found.clean) :
    Simulates scopes (Exactly scopes)
      (.during [.opened outer bindings]
        (Eval.enterScope outer bindings))
      (.ofEval (Eval.enterScope outer bindings)) := by
  refine .during (fun heap result after hHeap hRun => ?_) ?_
  · cases hRun
    exact ⟨hHeap.ahead _ (Nat.le_refl _), rfl,
      Heap.holds_newScope hHeap hOuter hBindings⟩
  · simpa [Event.handled] using fun value label hBinding =>
      (hBindings (label, value) hBinding).1

/- Behind what cannot end with a signal. -/
theorem after
    {holds : α → Prop}
    {second : β → Except Signal γ → Prop}
    {recorded : Recorded α}
    {control : Control α}
    {following : α → Recorded β}
    {continuing : α → Control γ}
    (hFirst : Simulates scopes (Exactly holds) recorded control)
    (hFollowing :
      ∀ result, holds result →
        Simulates scopes second (following result) (continuing result)) :
    Simulates scopes second (recorded >>= following)
      (control >>= continuing) := by
  refine hFirst.bind (fun result other hResult => ?_)
    fun result signal hResult => nomatch hResult.1
  cases hResult.1
  exact hFollowing result hResult.2

/- What is noted before does not matter, if it leaves the heap alone. -/
theorem noted
    {event : Event}
    {related : α → Except Signal β → Prop}
    {recorded : Recorded α}
    {control : Control β}
    (hEffect : ∀ heap, event.effect heap = heap)
    (hEvent : ∀ found ∈ event.handled, found.clean)
    (hSimulates : Simulates scopes related recorded control) :
    Simulates scopes related (do
      Recorded.note event
      recorded) control := by
  intro heap hHeap
  have hNote : (Recorded.note event) heap = (.ok (), [event]) := rfl
  have hSame : heap.replay [event] = heap := hEffect heap
  cases hSimulates heap hHeap with
  | halted hRecorded hControl =>
      rw [← hSame] at hRecorded
      exact .halted (Recorded.bind_of_ok hNote hRecorded) hControl
  | ended hRecorded hControl hResult hAfter hEvents =>
      rw [← hSame] at hRecorded
      refine .ended (Recorded.bind_of_ok hNote hRecorded) ?_ hResult ?_
        (List.forall_mem_append.mpr ⟨by simpa using hEvent, hEvents⟩)
      · rwa [Heap.replay_append, hSame]
      · rwa [Heap.replay_append, hSame]

theorem settled
    {related : Value → Except Signal β → Prop}
    {recorded : Recorded Value}
    {control : Control β}
    (hSimulates : Simulates scopes related recorded control) :
    Simulates scopes related recorded.settled control := by
  intro heap hHeap
  cases hSimulates heap hHeap with
  | halted hRecorded hControl =>
      exact .halted (Recorded.bind_of_error hRecorded _) hControl
  | ended hRecorded hControl hResult hAfter hEvents =>
      refine .ended (Recorded.bind_of_ok hRecorded rfl) ?_ hResult ?_ ?_
      · simpa [Event.effect] using hControl
      · simpa [Event.effect] using hAfter
      · exact List.forall_mem_append.mpr
          ⟨hEvents, by simp [Event.handled]⟩

/- Behind a part in which nothing may be returned. -/
theorem unlessError
    {related : Value → Except Signal Value → Prop}
    {recorded : Recorded Value}
    {control : Control Value}
    {following : Value → Recorded Value}
    {continuing : Value → Control Value}
    (hFirst : Simulates scopes (Tells scopes false) recorded control)
    (hRelated :
      ∀ message, related (.error message) (.error (.failing message)))
    (hFollowing :
      ∀ value, value.Fits scopes (fun found => found.clean) →
        Simulates scopes related (following value) (continuing value)) :
    Simulates scopes related (recorded.unlessError following)
      (control >>= continuing) := by
  refine hFirst.bind (fun value other hValue => ?_)
    fun value signal hValue => ?_
  · cases hValue with
    | value hValue =>
        rw [if_neg (Value.not_isError_of_clean hValue.1)]
        exact hFollowing value hValue
  · cases hValue with
    | failing => exact ⟨_, rfl, hRelated _⟩

/- What an operator or a built-in function results in. -/
theorem operation
    {allowed : Bool}
    {value : Value}
    (hScalar : value.isScalar) :
    Simulates scopes (Tells scopes allowed) (Pure.pure value)
      (.operation value) := by
  cases value with
  | error message => exact .raise .failing
  | returned => cases hScalar
  | function => cases hScalar
  | builtin => cases hScalar
  | _ => exact .pure (.value (.of_home?_eq_none rfl rfl))

theorem fail
    {allowed : Bool}
    (error : RuntimeError) :
    Simulates scopes (Tells scopes allowed) (Pure.pure error.value)
      (.fail error) :=
  .raise .failing

theorem resolve
    {allowed : Bool}
    {scope : ScopeId}
    (hScope : scopes scope)
    (name : String) :
    Simulates scopes (Tells scopes allowed)
      (.during [] (Eval.resolve scope name))
      (.resolve scope name) := by
  intro heap hHeap
  unfold Recorded.during Eval.resolve Control.resolve
  cases hLookup : heap.lookup scope name with
  | some found =>
      exact .ended rfl rfl (.value (hHeap.lookup hScope hLookup)) hHeap
        (by simp)
  | none =>
      cases Builtin.ofName? name with
      | some builtin =>
          exact .ended rfl rfl
            (.value (.of_home?_eq_none rfl rfl)) hHeap (by simp)
      | none => exact .ended rfl rfl .failing hHeap (by simp)

/- A returned value is unwrapped where it is caught. -/
theorem delimited
    {first second : Bool}
    {recorded : Recorded Value}
    {control : Control Value}
    (hSimulates :
      Simulates scopes (Tells scopes first) recorded control) :
    Simulates scopes (Tells scopes second) (do
      let value ← recorded
      return value.unwrapped) control.delimited := by
  intro heap hHeap
  unfold Control.delimited
  cases hSimulates heap hHeap with
  | halted hRecorded hControl =>
      exact .halted (Recorded.bind_of_error hRecorded _)
        (by rw [hControl])
  | ended hRecorded hControl hResult hAfter hEvents =>
      refine .ended (Recorded.bind_of_ok hRecorded rfl) ?_
        (hResult.unwrapped second) ?_ ?_
      · simp [hControl]
      · simpa using hAfter
      · simpa using hEvents

end Simulates

------------------------------------------------------------
-- Trees
------------------------------------------------------------

/-
  The values of arguments, or the error by which a signal is
  told of.
-/
inductive TellsArguments
    (scopes : ScopeId → Prop) :
    Except Value (List Value) → Except Signal (List Value) → Prop where
  | values {values : List Value}
      (hValues :
        ∀ value ∈ values,
          value.Fits scopes fun found => found.clean) :
      TellsArguments scopes (.ok values) (.ok values)
  | failing {message : String} :
      TellsArguments scopes (.error (.error message))
        (.error (.failing message))

/- Calls that agree if clean values are called and passed on. -/
def SimulatesCalls
    (scopes : ScopeId → Prop)
    (recorded : Value → List Value → Recorded Value)
    (control : Value → List Value → Control Value) :
    Prop :=
  ∀ function arguments,
    function.Fits scopes (fun found => found.clean) →
    (∀ value ∈ arguments,
      value.Fits scopes fun found => found.clean) →
      Simulates scopes (Tells scopes false) (recorded function arguments)
        (control function arguments)

section

variable {recorded : Value → List Value → Recorded Value}
variable {control : Value → List Value → Control Value}

open Structured

mutual

/-
  If calls agree, so does every tree that returns where it may.
  Whether a value may be returned comes down from the tree to
  those of its parts that are statements; in all others nothing
  is returned, so that only an error ends them early.
-/
theorem recordWith_simulates
    (hCall : SimulatesCalls scopes recorded control)
    {scope : ScopeId}
    (hScope : scopes scope)
    {allowed : Bool}
    (node : Node)
    (hNode : node.returnSafe allowed) :
    Simulates scopes (Tells scopes allowed)
      (recordWith recorded scope node)
      (performWith control scope node) := by
  unfold recordWith performWith
  apply Simulates.settled
  cases node with
  | identifier id => exact .resolve hScope id.name
  | integer | boolean | string =>
      exact .pure (.value (.of_home?_eq_none rfl rfl))
  | unary _ operator right =>
      have hRight := recordWith_simulates hCall hScope right hNode
      exact hRight.unlessError (fun _ => .failing) fun value _ =>
        .operation (isScalar_applyUnary operator value)
  | binary _ left operator right =>
      simp only [Node.returnSafe, Bool.and_eq_true] at hNode
      have hLeft := recordWith_simulates hCall hScope left hNode.1
      have hRight := recordWith_simulates hCall hScope right hNode.2
      refine hLeft.unlessError (fun _ => .failing) fun first _ => ?_
      exact hRight.unlessError (fun _ => .failing) fun second _ =>
        .operation (isScalar_applyBinary operator first second)
  | ifThen _ condition consequence =>
      simp only [Node.returnSafe, Bool.and_eq_true] at hNode
      have hCondition :=
        recordWith_simulates hCall hScope condition hNode.1
      refine hCondition.unlessError (fun _ => .failing) fun value _ => ?_
      split
      · exact recordWith_simulates hCall hScope consequence hNode.2
      · exact .pure (.value (.of_home?_eq_none rfl rfl))
  | ifElse _ condition consequence alternative =>
      simp only [Node.returnSafe, Bool.and_eq_true] at hNode
      have hCondition :=
        recordWith_simulates hCall hScope condition hNode.1.1
      refine hCondition.unlessError (fun _ => .failing) fun value _ => ?_
      split
      · exact recordWith_simulates hCall hScope consequence hNode.1.2
      · exact recordWith_simulates hCall hScope alternative hNode.2
  | function _ parameters body =>
      refine (Simulates.made hScope hNode parameters).mono ?_
      rintro value outcome ⟨rfl, hValue⟩
      exact .value hValue
  | call _ callee arguments =>
      simp only [Node.returnSafe, Bool.and_eq_true] at hNode
      have hCallee := recordWith_simulates hCall hScope callee hNode.1
      have hArguments :=
        recordArguments_simulates hCall hScope arguments hNode.2
      refine hCallee.unlessError (fun _ => .failing)
        fun function hFunction => ?_
      refine hArguments.bind (fun result values hResult => ?_)
        fun result signal hResult => ?_
      · cases hResult with
        | values hValues =>
            exact (hCall function values hFunction hValues).mono
              fun _ _ hTells => hTells.mono nofun
      · cases hResult with
        | failing => exact ⟨_, rfl, .failing⟩
  | letStatement _ name expression =>
      have hExpression :=
        recordWith_simulates hCall hScope expression hNode
      refine hExpression.unlessError (fun _ => .failing)
        fun value hValue => ?_
      refine (Simulates.reading (Eval.labelOf_reads name)).after
        fun label _ => ?_
      refine (Simulates.bound scope label hValue).after fun _ _ => ?_
      exact .pure (.value (.of_home?_eq_none rfl rfl))
  | returnStatement _ expression =>
      simp only [Node.returnSafe, Bool.and_eq_true] at hNode
      rcases hNode with ⟨rfl, hSafe⟩
      have hExpression :=
        recordWith_simulates hCall hScope expression hSafe
      exact hExpression.unlessError (fun _ => .failing)
        fun value hValue => .raise (.returning hValue)
  | expressionStatement _ expression =>
      exact recordWith_simulates hCall hScope expression hNode
  | block _ statements =>
      exact recordSequence_simulates hCall hScope
        (.of_home?_eq_none rfl rfl) statements hNode
  | program statements =>
      exact (recordSequence_simulates hCall hScope
        (.of_home?_eq_none rfl rfl) statements hNode).delimited
  | unknown => exact .halt _

theorem recordSequence_simulates
    (hCall : SimulatesCalls scopes recorded control)
    {scope : ScopeId}
    (hScope : scopes scope)
    {allowed : Bool}
    {last : Value}
    (hLast : last.Fits scopes fun found => found.clean)
    (statements : List Node)
    (hStatements : Node.allReturnSafe allowed statements) :
    Simulates scopes (Tells scopes allowed)
      (recordSequence recorded scope last statements)
      (performSequence control scope last statements) := by
  unfold recordSequence performSequence
  cases statements with
  | nil => exact .pure (.value hLast)
  | cons statement rest =>
      simp only [Node.allReturnSafe, Bool.and_eq_true] at hStatements
      have hStatement :=
        recordWith_simulates hCall hScope statement hStatements.1
      refine hStatement.bind (fun value other hValue => ?_)
        fun value signal hValue => ?_
      · cases hValue with
        | value hValue =>
            rw [if_neg (Value.not_endsSequence_of_clean hValue.1)]
            exact recordSequence_simulates hCall hScope hValue rest
              hStatements.2
      · exact ⟨value, if_pos hValue.endsSequence, hValue⟩

theorem recordArguments_simulates
    (hCall : SimulatesCalls scopes recorded control)
    {scope : ScopeId}
    (hScope : scopes scope)
    (arguments : List Node)
    (hArguments : Node.allReturnSafe false arguments) :
    Simulates scopes (TellsArguments scopes)
      (recordArguments recorded scope arguments)
      (performArguments control scope arguments) := by
  unfold recordArguments performArguments
  cases arguments with
  | nil => exact .pure (.values (by simp))
  | cons argument rest =>
      simp only [Node.allReturnSafe, Bool.and_eq_true] at hArguments
      have hArgument :=
        recordWith_simulates hCall hScope argument hArguments.1
      have hRest :=
        recordArguments_simulates hCall hScope rest hArguments.2
      refine hArgument.bind (fun value other hValue => ?_)
        fun value signal hValue => ?_
      · cases hValue with
        | value hValue =>
            rw [if_neg (Value.not_isError_of_clean hValue.1)]
            refine hRest.bind (fun result values hResult => ?_)
              fun result signal hResult => ?_
            · cases hResult with
              | values hValues =>
                  refine .pure (.values ?_)
                  exact List.forall_mem_cons.mpr ⟨hValue, hValues⟩
            · cases hResult with
              | failing => exact ⟨_, rfl, .failing⟩
      · cases hValue with
        | failing => exact ⟨_, rfl, .failing⟩

end

end

------------------------------------------------------------
-- Calls
------------------------------------------------------------

/- Calls agree, as far as they may nest. -/
theorem recordCall_simulates
    (depth : Nat) :
    SimulatesCalls scopes (recordCall depth)
      (Structured.performCall depth) := by
  induction depth with
  | zero => exact fun _ _ _ _ => .halt _
  | succ depth ih =>
      intro function arguments hFunction hArguments
      unfold recordCall Structured.performCall
      refine .noted (fun _ => rfl) ?_ ?_
      · exact List.forall_mem_cons.mpr
          ⟨hFunction.1, fun value hValue => (hArguments value hValue).1⟩
      cases function with
      | function number parameters body home =>
          dsimp only
          split
          · have hLabels := Eval.labelsOf_reads parameters
            refine (Simulates.reading hLabels).after fun labels _ => ?_
            have hHome : scopes home := hFunction.2 home rfl
            refine (Simulates.opened hHome ?_).after
              fun inner hInner => ?_
            · exact fun binding hBinding =>
                hArguments _ (List.of_mem_zip hBinding).2
            · have hBody :=
                recordWith_simulates ih hInner body hFunction.1
              exact hBody.delimited
          · exact .fail _
      | builtin builtin =>
          exact .operation (builtin.isScalar_apply arguments)
      | _ => exact .fail _

------------------------------------------------------------
-- Structured Control
------------------------------------------------------------

/-
  Where only clean values are in reach, a program that returns
  where it may comes to the same result and to the same heap as
  with structured control. The result is clean or an error, and
  only clean values are ever stored or passed on.
-/
theorem evaluation_is_structured
    {depth : Nat}
    {scope : ScopeId}
    {statements : List Node}
    {heap : Heap}
    (hSafe : (Node.program statements).returnSafe true)
    (hReach : heap.AllReachable scope fun found => found.clean) :
    evaluate depth scope (.program statements) heap =
        (Structured.evaluate depth scope (.program statements) heap).map
          (fun run => (outcomeValue run.1, run.2)) ∧
      ∀ value after,
        evaluate depth scope (.program statements) heap =
          .ok (value, after) →
        ∃ history,
          record depth scope (.program statements) heap =
            (.ok value, history) ∧
          after = heap.replay history ∧
          (value.clean ∨ value.isError) ∧
          (∀ event ∈ history, ∀ found ∈ event.handled, found.clean) ∧
          after.AllReachable scope fun found => found.clean := by
  have hScope : heap.Known scope scope := .inl .origin
  have hSimulates :
      Simulates (heap.Known scope) (Tells (heap.Known scope) false)
        (record depth scope (.program statements))
        (Structured.evaluate depth scope (.program statements)) := by
    unfold record Structured.evaluate recordWith Structured.performWith
    apply Simulates.settled
    exact (recordSequence_simulates (recordCall_simulates depth) hScope
      (.of_home?_eq_none rfl rfl) statements hSafe).delimited
  rw [← erased_record]
  unfold Recorded.erased
  cases hSimulates heap (Heap.holds_known hReach) with
  | halted hRecorded hControl =>
      rw [hRecorded, hControl]
      exact ⟨rfl, nofun⟩
  | ended hRecorded hControl hResult hAfter hEvents =>
      rw [hRecorded, hControl]
      refine ⟨by rw [hResult.eq_outcomeValue]; rfl, ?_⟩
      rintro value after ⟨⟩
      exact ⟨_, rfl, rfl, hResult.clean_or_isError, hEvents,
        hAfter.allReachable hScope⟩

/- A return statement inside two blocks ends the call around them. -/
theorem evaluation_is_structured_nested_return :
    let mark : Mark := ⟨"", 1, 1⟩
    let parameter : Node := .identifier ⟨mark, "x"⟩
    let function : Node := .identifier ⟨mark, "f"⟩
    let inner : Node :=
      .block mark [.returnStatement mark (.integer mark 1)]
    let outer : Node :=
      .block mark [
        .expressionStatement mark (.ifThen mark parameter inner),
        .returnStatement mark (.integer mark 2)]
    let body : Node :=
      .block mark [
        .expressionStatement mark (.ifThen mark parameter outer),
        .expressionStatement mark (.integer mark 3)]
    let statements : List Node := [
      .letStatement mark function (.function mark [parameter] body),
      .expressionStatement mark
        (.call mark function [.boolean mark true])]
    (Node.program statements).returnSafe true ∧
      Heap.initial.AllReachable Heap.globalScope
        (fun found => found.clean) ∧
      ∃ after,
        Structured.evaluate 1 Heap.globalScope (.program statements)
            Heap.initial =
          .ok (.ok (.integer 1), after) ∧
        evaluate 1 Heap.globalScope (.program statements) Heap.initial =
          .ok (.integer 1, after) := by
  intro mark parameter function inner outer body statements
  have hSafe : (Node.program statements).returnSafe true := by rfl
  have hReach :=
    Heap.allReachable_initial Heap.globalScope fun found => found.clean
  have hRun :
      ∃ after,
        Structured.evaluate 1 Heap.globalScope (.program statements)
            Heap.initial =
          .ok (.ok (.integer 1), after) :=
    ⟨_, rfl⟩
  rcases hRun with ⟨after, hRun⟩
  have hSame :=
    (@evaluation_is_structured 1 _ _ _ hSafe hReach).1
  rw [hRun] at hSame
  exact ⟨hSafe, hReach, after, hRun, hSame⟩

end MonkeyLang
