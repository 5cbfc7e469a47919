import Mathlib.Data.List.Basic
import MonkeyLang.Proofs.Evaluation.Invariant

/-
  One evaluation in two heaps that are coupled. If all that a
  tree can do to a heap keeps the heaps coupled, and every name
  in it has the same value in both, then its evaluation comes to
  the same in both: it halts for the same cause, or ends with
  the same value and with heaps that are coupled again. What is
  known of values and scopes may grow with the heaps; what is
  known once stays known at every later stage.

  With one heap taken twice, this says what holds of a heap
  after every evaluation.

  Main declarations:
    * `Coupling`
    * `Coupling.Coupled`               (evaluations that respect it)
    * `Coupling.evaluateWith_coupled`  (one case for each kind of node)
    * `Coupling.applyWithin_coupled`
    * `Coupling.evaluate_coupled`
-/

------------------------------------------------------------
-- Couplings
------------------------------------------------------------

namespace MonkeyLang

/-
  Pairs of heaps, by the stage that they have come to, and what
  is known there of values and of scopes. Names are looked up
  to the same, known, values, and every change of both heaps
  leads to heaps that are coupled at a later stage.
-/
structure Coupling where
  Stage : Type
  later : Stage → Stage → Prop
  heaps : Stage → Heap → Heap → Prop
  scope : Stage → ScopeId → Prop
  value : Stage → Value → Prop
  node : Node → Prop
  later_refl : ∀ stage, later stage stage
  later_trans :
    ∀ {first second third}, later first second → later second third →
      later first third
  scope_later :
    ∀ {stage next id}, scope stage id → later stage next → scope next id
  value_later :
    ∀ {stage next found}, value stage found → later stage next →
      value next found
  part : ∀ {tree}, node tree → tree.parts.Forall node
  scalar : ∀ {stage found}, found.isScalar → value stage found
  host : ∀ {stage} builtin, value stage (.builtin builtin)
  returned :
    ∀ {stage inner}, value stage (.returned inner) ↔ value stage inner
  body :
    ∀ {stage number parameters body home},
      value stage (.function number parameters body home) →
        node body ∧ scope stage home
  lookup :
    ∀ {stage first second id name}, heaps stage first second →
      scope stage id → node (.identifier name) →
        first.lookup id name.name = second.lookup id name.name ∧
          ∀ found ∈ first.lookup id name.name, value stage found
  bind :
    ∀ {stage first second id found}, heaps stage first second →
      scope stage id → value stage found →
        ∀ label,
          heaps stage (first.bind id label found)
            (second.bind id label found)
  newScope :
    ∀ {stage first second outer bindings},
      heaps stage first second → scope stage outer →
      (∀ binding ∈ bindings, value stage binding.2) →
        first.scopes.size = second.scopes.size ∧
          ∃ next,
            later stage next ∧ scope next first.scopes.size ∧
              heaps next (first.newScope (some outer) bindings).2
                (second.newScope (some outer) bindings).2
  newFunction :
    ∀ {stage first second home mark parameters body},
      heaps stage first second → scope stage home →
      node (.function mark parameters body) →
        first.functions = second.functions ∧
          ∃ next,
            later stage next ∧
              value next
                (.function first.functions parameters body home) ∧
              heaps next first.newFunction.2 second.newFunction.2

namespace Coupling

variable (coupling : Coupling)

/-
  What an evaluation has come to in both heaps: the same halt,
  or the same result.
-/
inductive Outcomes
    (stage : coupling.Stage)
    (related : coupling.Stage → α → Prop) :
    Except Halt (α × Heap) → Except Halt (α × Heap) → Prop where
  | halted (cause : Halt) :
      Outcomes stage related (.error cause) (.error cause)
  | ended {next : coupling.Stage} {result : α} {first second : Heap}
      (hLater : coupling.later stage next)
      (hHeaps : coupling.heaps next first second)
      (hResult : related next result) :
      Outcomes stage related (.ok (result, first))
        (.ok (result, second))

/-
  An evaluation that respects the coupling from a stage onward,
  and whose results are related to the stage they are found at.
-/
def Coupled
    (stage : coupling.Stage)
    (related : coupling.Stage → α → Prop)
    (action : Eval α) :
    Prop :=
  ∀ current first second, coupling.later stage current →
    coupling.heaps current first second →
      coupling.Outcomes current related (action first) (action second)

variable {coupling}
variable {stage next : coupling.Stage}

theorem Outcomes.earlier
    {related : coupling.Stage → α → Prop}
    {outcome outcome' : Except Halt (α × Heap)}
    (hOutcomes : coupling.Outcomes next related outcome outcome')
    (hLater : coupling.later stage next) :
    coupling.Outcomes stage related outcome outcome' := by
  cases hOutcomes with
  | halted cause => exact .halted cause
  | ended hNext hHeaps hResult =>
      exact .ended (coupling.later_trans hLater hNext) hHeaps hResult

------------------------------------------------------------
-- Values
------------------------------------------------------------

theorem null :
    coupling.value stage .null :=
  coupling.scalar rfl

theorem unwrapped
    {found : Value}
    (hValue : coupling.value stage found) :
    coupling.value stage found.unwrapped := by
  cases found with
  | returned inner => exact coupling.returned.mp hValue
  | _ => exact hValue

------------------------------------------------------------
-- Rules
------------------------------------------------------------

namespace Coupled

theorem pure
    {related : coupling.Stage → α → Prop}
    {result : α}
    (hResult :
      ∀ current, coupling.later stage current →
        related current result) :
    coupling.Coupled stage related (Pure.pure result) := by
  intro current first second hLater hHeaps
  exact .ended (coupling.later_refl current) hHeaps
    (hResult current hLater)

theorem value
    {found : Value}
    (hValue : coupling.value stage found) :
    coupling.Coupled stage coupling.value (Pure.pure found) :=
  .pure fun _ hLater => coupling.value_later hValue hLater

theorem halt
    {related : coupling.Stage → α → Prop}
    (cause : Halt) :
    coupling.Coupled stage related (Eval.halt cause) :=
  fun _ _ _ _ _ => .halted cause

theorem bind
    {related : coupling.Stage → α → Prop}
    {following : coupling.Stage → β → Prop}
    {action : Eval α}
    {rest : α → Eval β}
    (hAction : coupling.Coupled stage related action)
    (hRest :
      ∀ next result, coupling.later stage next → related next result →
        coupling.Coupled next following (rest result)) :
    coupling.Coupled stage following (action >>= rest) := by
  intro current first second hLater hHeaps
  have hFirst := hAction current first second hLater hHeaps
  simp only [Bind.bind, Eval.andThen]
  revert hFirst
  generalize action first = outcome
  generalize action second = outcome'
  rintro (cause | ⟨hNext, hMiddle, hResult⟩)
  · exact .halted cause
  · have hSecond :=
      hRest _ _ (coupling.later_trans hLater hNext) hResult _ _ _
        (coupling.later_refl _) hMiddle
    exact hSecond.earlier hNext

/- Behind a value that is an error nothing is evaluated. -/
theorem unlessError
    {action : Eval Value}
    {rest : Value → Eval Value}
    (hAction : coupling.Coupled stage coupling.value action)
    (hRest :
      ∀ next found, coupling.later stage next →
        coupling.value next found →
          coupling.Coupled next coupling.value (rest found)) :
    coupling.Coupled stage coupling.value
      (action >>= fun found =>
        if found.isError then
          Pure.pure found
        else
          rest found) := by
  apply hAction.bind
  intro next found hLater hFound
  split
  · exact .value hFound
  · exact hRest next found hLater hFound

theorem resolve
    {id : ScopeId}
    {name : Identifier}
    (hScope : coupling.scope stage id)
    (hName : coupling.node (.identifier name)) :
    coupling.Coupled stage coupling.value
      (Eval.resolve id name.name) := by
  intro current first second hLater hHeaps
  rcases coupling.lookup hHeaps (coupling.scope_later hScope hLater)
    hName with ⟨hSame, hKnown⟩
  unfold Eval.resolve
  rw [← hSame]
  cases hFound : first.lookup id name.name with
  | some found =>
      exact .ended (coupling.later_refl current) hHeaps
        (hKnown found hFound)
  | none =>
      cases Builtin.ofName? name.name with
      | some builtin =>
          exact .ended (coupling.later_refl current) hHeaps
            (coupling.host builtin)
      | none =>
          exact .ended (coupling.later_refl current) hHeaps
            (coupling.scalar rfl)

theorem labelOf
    (name : Node) :
    coupling.Coupled stage (fun _ _ => True) (Eval.labelOf name) := by
  unfold Eval.labelOf
  cases name.label? with
  | some label => exact .pure fun _ _ => trivial
  | none => exact .halt _

theorem labelsOf
    (names : List Node) :
    coupling.Coupled stage (fun _ _ => True) (Eval.labelsOf names) := by
  induction names generalizing stage with
  | nil => exact .pure fun _ _ => trivial
  | cons name rest ih =>
      unfold Eval.labelsOf
      apply (labelOf name).bind
      intro next label _ _
      apply ih.bind
      intro last labels _ _
      exact .pure fun _ _ => trivial

theorem bindLabel
    {id : ScopeId}
    {found : Value}
    (hScope : coupling.scope stage id)
    (hValue : coupling.value stage found)
    (label : Label) :
    coupling.Coupled stage (fun _ _ => True)
      (Eval.bindLabel id label found) := by
  intro current first second hLater hHeaps
  apply Outcomes.ended (coupling.later_refl current) ?_ trivial
  exact coupling.bind hHeaps (coupling.scope_later hScope hLater)
    (coupling.value_later hValue hLater) label

theorem enterScope
    {outer : ScopeId}
    {bindings : List (Label × Value)}
    (hOuter : coupling.scope stage outer)
    (hBindings :
      ∀ binding ∈ bindings, coupling.value stage binding.2) :
    coupling.Coupled stage coupling.scope
      (Eval.enterScope outer bindings) := by
  intro current first second hLater hHeaps
  rcases coupling.newScope hHeaps (coupling.scope_later hOuter hLater)
      fun binding hBinding =>
        coupling.value_later (hBindings binding hBinding) hLater with
    ⟨hSize, next, hNext, hScope, hOpened⟩
  unfold Eval.enterScope Heap.newScope
  rw [← hSize]
  exact .ended hNext hOpened hScope

theorem makeFunction
    {home : ScopeId}
    {mark : Mark}
    {parameters : List Node}
    {body : Node}
    (hHome : coupling.scope stage home)
    (hNode : coupling.node (.function mark parameters body)) :
    coupling.Coupled stage coupling.value
      (Eval.makeFunction parameters body home) := by
  intro current first second hLater hHeaps
  rcases coupling.newFunction hHeaps
      (coupling.scope_later hHome hLater) hNode with
    ⟨hNumber, next, hNext, hValue, hMade⟩
  have hSecond :
      Eval.makeFunction parameters body home second =
        .ok (.function first.functions parameters body home,
          second.newFunction.2) := by
    rw [hNumber]
    rfl
  rw [hSecond]
  exact .ended hNext hMade hValue

end Coupled

------------------------------------------------------------
-- Trees
------------------------------------------------------------

/- Arguments whose values are known, or an error among them. -/
def KnownArguments
    (coupling : Coupling)
    (stage : coupling.Stage)
    (result : Except Value (List Value)) :
    Prop :=
  match result with
  | .error failure => coupling.value stage failure
  | .ok values => ∀ found ∈ values, coupling.value stage found

/- Calls of known values respect the coupling. -/
def CoupledCalls
    (coupling : Coupling)
    (call : Eval.Call) :
    Prop :=
  ∀ {stage function arguments}, coupling.value stage function →
    (∀ argument ∈ arguments, coupling.value stage argument) →
      coupling.Coupled stage coupling.value (call function arguments)

section

variable {call : Eval.Call}

mutual

/- If calls respect a coupling, so does every tree that it admits. -/
theorem evaluateWith_coupled
    (hCall : coupling.CoupledCalls call)
    {stage : coupling.Stage}
    {id : ScopeId}
    (hScope : coupling.scope stage id)
    (node : Node)
    (hNode : coupling.node node) :
    coupling.Coupled stage coupling.value
      (evaluateWith call id node) := by
  have hParts := coupling.part hNode
  unfold evaluateWith
  cases node with
  | identifier name => exact .resolve hScope hNode
  | integer | boolean | string => exact .value (coupling.scalar rfl)
  | unary _ operator right =>
      apply (evaluateWith_coupled hCall hScope right hParts).unlessError
      intro next found _ _
      exact .value (coupling.scalar (isScalar_applyUnary _ _))
  | binary _ left operator right =>
      apply (evaluateWith_coupled hCall hScope left
        hParts.1).unlessError
      intro next first hNext _
      apply (evaluateWith_coupled hCall
        (coupling.scope_later hScope hNext) right hParts.2).unlessError
      intro last second _ _
      exact .value (coupling.scalar (isScalar_applyBinary _ _ _))
  | ifThen _ condition consequence =>
      apply (evaluateWith_coupled hCall hScope condition
        hParts.1).unlessError
      intro next found hNext _
      have hInner := coupling.scope_later hScope hNext
      split
      · exact evaluateWith_coupled hCall hInner consequence hParts.2
      · exact .value null
  | ifElse _ condition consequence alternative =>
      apply (evaluateWith_coupled hCall hScope condition
        hParts.1).unlessError
      intro next found hNext _
      have hInner := coupling.scope_later hScope hNext
      split
      · exact evaluateWith_coupled hCall hInner consequence hParts.2.1
      · exact evaluateWith_coupled hCall hInner alternative hParts.2.2
  | function _ parameters body => exact .makeFunction hScope hNode
  | call _ callee arguments =>
      have hNodes := (List.forall_cons _ _ _).mp hParts
      apply (evaluateWith_coupled hCall hScope callee
        hNodes.1).unlessError
      intro next function hNext hFunction
      apply (evaluateArguments_coupled hCall
        (coupling.scope_later hScope hNext) arguments hNodes.2).bind
      intro last result hLast hResult
      cases result with
      | error => exact .value hResult
      | ok values =>
          exact hCall (coupling.value_later hFunction hLast) hResult
  | letStatement _ name expression =>
      apply (evaluateWith_coupled hCall hScope expression
        hParts).unlessError
      intro next found hNext hFound
      apply (Coupled.labelOf name).bind
      intro last label hLast _
      have hInner :=
        coupling.scope_later (coupling.scope_later hScope hNext) hLast
      apply (Coupled.bindLabel hInner
        (coupling.value_later hFound hLast) label).bind
      intro _ _ _ _
      exact .value null
  | returnStatement _ expression =>
      apply (evaluateWith_coupled hCall hScope expression
        hParts).unlessError
      intro next found _ hFound
      exact .value (coupling.returned.mpr hFound)
  | expressionStatement _ expression =>
      exact evaluateWith_coupled hCall hScope expression hParts
  | block _ statements =>
      exact evaluateSequence_coupled hCall hScope null statements hParts
  | program statements =>
      apply (evaluateSequence_coupled hCall hScope null statements
        hParts).bind
      intro next found _ hFound
      exact .value (unwrapped hFound)
  | unknown => exact .halt _

theorem evaluateSequence_coupled
    (hCall : coupling.CoupledCalls call)
    {stage : coupling.Stage}
    {id : ScopeId}
    (hScope : coupling.scope stage id)
    {last : Value}
    (hLast : coupling.value stage last)
    (statements : List Node)
    (hStatements : statements.Forall coupling.node) :
    coupling.Coupled stage coupling.value
      (evaluateSequence call id last statements) := by
  cases statements with
  | nil => exact .value hLast
  | cons statement rest =>
      have hNodes := (List.forall_cons _ _ _).mp hStatements
      unfold evaluateSequence
      apply (evaluateWith_coupled hCall hScope statement hNodes.1).bind
      intro next found hNext hFound
      split
      · exact .value hFound
      · exact evaluateSequence_coupled hCall
          (coupling.scope_later hScope hNext) hFound rest hNodes.2

theorem evaluateArguments_coupled
    (hCall : coupling.CoupledCalls call)
    {stage : coupling.Stage}
    {id : ScopeId}
    (hScope : coupling.scope stage id)
    (arguments : List Node)
    (hArguments : arguments.Forall coupling.node) :
    coupling.Coupled stage coupling.KnownArguments
      (evaluateArguments call id arguments) := by
  cases arguments with
  | nil => exact .pure fun _ _ => by simp [KnownArguments]
  | cons argument rest =>
      have hNodes := (List.forall_cons _ _ _).mp hArguments
      unfold evaluateArguments
      apply (evaluateWith_coupled hCall hScope argument hNodes.1).bind
      intro next found hNext hFound
      split
      · exact .pure fun _ hLast => coupling.value_later hFound hLast
      · apply (evaluateArguments_coupled hCall
          (coupling.scope_later hScope hNext) rest hNodes.2).bind
        intro last result hLast hResult
        cases result with
        | error failure =>
            exact .pure fun _ hMore => coupling.value_later hResult hMore
        | ok values =>
            apply Coupled.pure
            intro current hMore
            have hValues :
                ∀ value ∈ found :: values,
                  coupling.value last value :=
              List.forall_mem_cons.mpr
                ⟨coupling.value_later hFound hLast, hResult⟩
            exact fun value hValue =>
              coupling.value_later (hValues value hValue) hMore

end

end

------------------------------------------------------------
-- Calls
------------------------------------------------------------

theorem applyWithin_coupled
    (coupling : Coupling)
    (depth : Nat) :
    coupling.CoupledCalls (applyWithin depth) := by
  induction depth with
  | zero => exact fun _ _ => .halt _
  | succ depth ih =>
      intro stage function arguments hFunction hArguments
      unfold applyWithin
      cases function with
      | function number parameters body home =>
          rcases coupling.body hFunction with ⟨hBody, hHome⟩
          dsimp only
          split
          · apply (Coupled.labelsOf parameters).bind
            intro next labels hNext _
            have hBindings :
                ∀ binding ∈ labels.zip arguments,
                  coupling.value next binding.2 := by
              intro binding hBinding
              have hArgument := (List.of_mem_zip hBinding).2
              exact coupling.value_later (hArguments _ hArgument) hNext
            apply (Coupled.enterScope
              (coupling.scope_later hHome hNext) hBindings).bind
            intro last inner _ hInner
            apply (evaluateWith_coupled ih hInner body hBody).bind
            intro _ found _ hFound
            exact .value (unwrapped hFound)
          · exact .value (coupling.scalar rfl)
      | builtin builtin =>
          exact .value
            (coupling.scalar (builtin.isScalar_apply arguments))
      | _ => exact .value (coupling.scalar rfl)

/- Every tree that a coupling admits comes to the same in both heaps. -/
theorem evaluate_coupled
    (coupling : Coupling)
    {stage : coupling.Stage}
    {first second : Heap}
    (hHeaps : coupling.heaps stage first second)
    {id : ScopeId}
    (hScope : coupling.scope stage id)
    (node : Node)
    (hNode : coupling.node node)
    (depth : Nat) :
    coupling.Outcomes stage coupling.value
      (evaluate depth id node first) (evaluate depth id node second) :=
  evaluateWith_coupled (coupling.applyWithin_coupled depth) hScope node
    hNode stage first second (coupling.later_refl stage) hHeaps

end Coupling

end MonkeyLang
