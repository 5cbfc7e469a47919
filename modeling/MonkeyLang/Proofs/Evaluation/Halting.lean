import MonkeyLang.Proofs.Evaluation.Invariant

/-
  Why evaluations halt. If all trees and all functions in reach
  have the properties of an invariant, an evaluation that has no
  value has met a node with its property that is not part of the
  language, or one that stands in the place of a name and has no
  label; or it has called functions too deeply.

  Main declarations:
    * `Node.names`                (nodes in the place of names)
    * `Invariant.Explains`        (causes that an invariant explains)
    * `Invariant.HaltsFor`
    * `Invariant.record_explains`
-/

------------------------------------------------------------
-- Causes
------------------------------------------------------------

namespace MonkeyLang

/- The nodes in the place of names, apart from those in the parts of a tree. -/
def Node.names
    (node : Node) :
    List Node :=
  match node with
  | .function _ parameters _ => parameters
  | .letStatement _ name _ => [name]
  | _ => []

namespace Eval

/- A chain halts in its first action, or in what follows. -/
theorem bind_eq_error
    {action : Eval α}
    {following : α → Eval β}
    {heap : Heap}
    {cause : Halt}
    (hRun : (action >>= following) heap = .error cause) :
    action heap = .error cause ∨
      ∃ value middle,
        action heap = .ok (value, middle) ∧
          following value middle = .error cause := by
  simp only [bind, andThen] at hRun
  split at hRun
  next value middle hValue => exact .inr ⟨value, middle, hValue, hRun⟩
  next hError =>
    cases hRun
    exact .inl hError

/- A node has no label only if it has none to give. -/
theorem labelOf_eq_error
    {node : Node}
    {heap : Heap}
    {cause : Halt}
    (hRun : labelOf node heap = .error cause) :
    node.label? = none ∧ cause = .nameless node.kind := by
  unfold labelOf at hRun
  cases hLabel : node.label? with
  | some label =>
      rw [hLabel] at hRun
      cases hRun
  | none =>
      rw [hLabel] at hRun
      cases hRun
      exact ⟨rfl, rfl⟩

theorem labelsOf_eq_error
    {nodes : List Node}
    {heap : Heap}
    {cause : Halt}
    (hRun : labelsOf nodes heap = .error cause) :
    ∃ node ∈ nodes, node.label? = none ∧ cause = .nameless node.kind := by
  induction nodes generalizing heap with
  | nil => cases hRun
  | cons node rest ih =>
      rcases bind_eq_error hRun with hFirst | ⟨label, middle, -, hOthers⟩
      · exact ⟨node, List.mem_cons_self, labelOf_eq_error hFirst⟩
      · rcases bind_eq_error hOthers with hRest | ⟨_, _, -, hLast⟩
        · rcases ih hRest with ⟨other, hOther, hCause⟩
          exact ⟨other, List.mem_cons_of_mem _ hOther, hCause⟩
        · cases hLast

end Eval

namespace Invariant

variable (kept : Invariant)
variable (scopes : ScopeId → Prop)

/-
  A node in the place of a name: in a tree with the property, or
  as a parameter of a function with the property.
-/
def Names
    (name : Node) :
    Prop :=
  (∃ tree, kept.node tree ∧ name ∈ tree.names) ∨
    ∃ number parameters body scope,
      kept.value (.function number parameters body scope) ∧
        name ∈ parameters

/-
  What an evaluation of trees and functions with the property
  halts for.
-/
def Explains
    (cause : Halt) :
    Prop :=
  match cause with
  | .unknownNode kind => kept.node (.unknown kind)
  | .nameless kind =>
      ∃ name, kept.Names name ∧ name.label? = none ∧ name.kind = kind
  | .hostFault _ => False
  | .outOfDepth => True

/-
  A recorded evaluation that halts, if it does, for a cause that
  is explained. It starts where values have the property.
-/
def HaltsFor
    (action : Recorded α) :
    Prop :=
  ∀ heap cause history,
    heap.Holds scopes kept.value →
    action heap = (.error cause, history) →
    kept.Assumes history →
      kept.Explains cause

variable {kept : Invariant}
variable {scopes : ScopeId → Prop}

------------------------------------------------------------
-- Rules
------------------------------------------------------------

namespace HaltsFor

theorem pure
    (result : α) :
    kept.HaltsFor scopes (Pure.pure result) := by
  intro heap cause history _ hRun _
  cases hRun

theorem bind
    {related : α → Prop}
    {action : Recorded α}
    {following : α → Recorded β}
    (hAction : kept.HaltsFor scopes action)
    (hKeeps : kept.Keeps scopes related action)
    (hFollowing :
      ∀ result, related result →
        kept.HaltsFor scopes (following result)) :
    kept.HaltsFor scopes (action >>= following) := by
  intro heap cause history hHeap hRun hAssumes
  rcases Recorded.bind_eq hRun with
    ⟨_, hHalt, hCause⟩ |
    ⟨middle, before, after, hBefore, hAfter, rfl⟩
  · cases hCause
    exact hAction heap cause history hHeap hHalt hAssumes
  · rw [Assumes, List.forall_mem_append] at hAssumes
    rcases hKeeps heap _ before hHeap hBefore hAssumes.1 with
      ⟨hMiddle, hNext, -⟩
    exact hFollowing middle (hMiddle middle rfl) _ cause after hNext
      hAfter hAssumes.2

theorem note
    (event : Event) :
    kept.HaltsFor scopes (Recorded.note event) := by
  intro heap cause history _ hRun _
  cases hRun

theorem settled
    {action : Recorded Value}
    (hAction : kept.HaltsFor scopes action) :
    kept.HaltsFor scopes action.settled := by
  intro heap cause history hHeap hRun hAssumes
  rcases Recorded.bind_eq hRun with
    ⟨_, hHalt, hCause⟩ | ⟨_, _, _, _, hAfter, -⟩
  · cases hCause
    exact hAction heap cause history hHeap hHalt hAssumes
  · cases hAfter

theorem unlessError
    {action : Recorded Value}
    {following : Value → Recorded Value}
    (hAction : kept.HaltsFor scopes action)
    (hKeeps : kept.Keeps scopes (kept.Result scopes) action)
    (hFollowing :
      ∀ value, value.Fits scopes kept.value →
        kept.HaltsFor scopes (following value)) :
    kept.HaltsFor scopes (action.unlessError following) := by
  refine hAction.bind hKeeps fun value hValue => ?_
  split
  next => exact .pure value
  next hError => exact hFollowing value (hValue.fits hError)

theorem during
    {events : List Event}
    {action : Eval α}
    (hAction :
      ∀ heap cause, action heap = .error cause → kept.Explains cause) :
    kept.HaltsFor scopes (.during events action) := by
  intro heap cause history _ hRun _
  unfold Recorded.during at hRun
  split at hRun
  next hFound =>
    cases hRun
    exact hAction heap cause hFound
  next => cases hRun

theorem resolve
    (scope : ScopeId)
    (name : String) :
    kept.HaltsFor scopes (.during [] (Eval.resolve scope name)) := by
  refine .during fun heap cause hRun => ?_
  unfold Eval.resolve at hRun
  cases hLookup : heap.lookup scope name with
  | some found =>
      rw [hLookup] at hRun
      cases hRun
  | none =>
      rw [hLookup] at hRun
      cases hBuiltin : Builtin.ofName? name with
      | some builtin =>
          rw [hBuiltin] at hRun
          cases hRun
      | none =>
          rw [hBuiltin] at hRun
          cases hRun

theorem labelOf
    {name : Node}
    (hName : kept.Names name) :
    kept.HaltsFor scopes (.during [] (Eval.labelOf name)) := by
  refine .during fun heap cause hRun => ?_
  rcases Eval.labelOf_eq_error hRun with ⟨hLabel, rfl⟩
  exact ⟨name, hName, hLabel, rfl⟩

theorem labelsOf
    {names : List Node}
    (hNames : ∀ name ∈ names, kept.Names name) :
    kept.HaltsFor scopes (.during [] (Eval.labelsOf names)) := by
  refine .during fun heap cause hRun => ?_
  rcases Eval.labelsOf_eq_error hRun with ⟨name, hName, hLabel, rfl⟩
  exact ⟨name, hNames name hName, hLabel, rfl⟩

end HaltsFor

------------------------------------------------------------
-- Trees
------------------------------------------------------------

/- Calls with the property halt only for causes that are explained. -/
def CallsHaltFor
    (kept : Invariant)
    (scopes : ScopeId → Prop)
    (call : Value → List Value → Recorded Value) :
    Prop :=
  ∀ function arguments,
    function.Fits scopes kept.value →
    (∀ argument ∈ arguments, argument.Fits scopes kept.value) →
      kept.HaltsFor scopes (call function arguments)

section

variable {call : Value → List Value → Recorded Value}

mutual

/-
  If calls halt for causes that are explained, so does every tree
  that has the property: up to where it halts, all values have
  theirs.
-/
theorem recordWith_haltsFor
    (hKeeps : kept.KeepsCalls scopes call)
    (hCall : kept.CallsHaltFor scopes call)
    {scope : ScopeId}
    (hScope : scopes scope)
    (node : Node)
    (hNode : kept.node node) :
    kept.HaltsFor scopes (recordWith call scope node) := by
  have hParts := kept.part hNode
  have hKept :
      ∀ part, kept.node part →
        kept.Keeps scopes (kept.Result scopes)
          (recordWith call scope part) :=
    fun part hPart => recordWith_keeps hKeeps hScope part hPart
  unfold recordWith
  apply HaltsFor.settled
  cases node with
  | identifier id => exact .resolve scope id.name
  | integer | boolean | string => exact .pure _
  | unary _ operator right =>
      have hRight := recordWith_haltsFor hKeeps hCall hScope right hParts
      exact hRight.unlessError (hKept right hParts) fun _ _ => .pure _
  | binary _ left operator right =>
      have hLeft :=
        recordWith_haltsFor hKeeps hCall hScope left hParts.1
      have hRight :=
        recordWith_haltsFor hKeeps hCall hScope right hParts.2
      refine hLeft.unlessError (hKept left hParts.1) fun _ _ => ?_
      exact hRight.unlessError (hKept right hParts.2) fun _ _ => .pure _
  | ifThen _ condition consequence =>
      have hCondition :=
        recordWith_haltsFor hKeeps hCall hScope condition hParts.1
      refine hCondition.unlessError (hKept condition hParts.1)
        fun value _ => ?_
      split
      · exact recordWith_haltsFor hKeeps hCall hScope consequence
          hParts.2
      · exact .pure _
  | ifElse _ condition consequence alternative =>
      have hCondition :=
        recordWith_haltsFor hKeeps hCall hScope condition hParts.1
      refine hCondition.unlessError (hKept condition hParts.1)
        fun value _ => ?_
      split
      · exact recordWith_haltsFor hKeeps hCall hScope consequence
          hParts.2.1
      · exact recordWith_haltsFor hKeeps hCall hScope alternative
          hParts.2.2
  | function => exact .during nofun
  | call _ callee arguments =>
      have hNodes := (List.forall_cons _ _ _).mp hParts
      have hCallee :=
        recordWith_haltsFor hKeeps hCall hScope callee hNodes.1
      have hArguments :=
        recordArguments_haltsFor hKeeps hCall hScope arguments hNodes.2
      have hValues :=
        recordArguments_keeps hKeeps hScope arguments hNodes.2
      refine hCallee.unlessError (hKept callee hNodes.1)
        fun function hFunction => ?_
      refine hArguments.bind hValues fun result hResult => ?_
      cases result with
      | error failure => exact .pure failure
      | ok values => exact hCall function values hFunction hResult
  | letStatement mark name expression =>
      have hExpression :=
        recordWith_haltsFor hKeeps hCall hScope expression hParts
      have hName : kept.Names name :=
        .inl ⟨_, hNode, List.mem_singleton_self name⟩
      refine hExpression.unlessError (hKept expression hParts)
        fun value hValue => ?_
      refine (HaltsFor.labelOf hName).bind Keeps.any fun label _ => ?_
      exact HaltsFor.bind (.during nofun) (Keeps.bound scope hValue)
        fun _ _ => .pure _
  | returnStatement _ expression =>
      have hExpression :=
        recordWith_haltsFor hKeeps hCall hScope expression hParts
      exact hExpression.unlessError (hKept expression hParts)
        fun _ _ => .pure _
  | expressionStatement _ expression =>
      exact recordWith_haltsFor hKeeps hCall hScope expression hParts
  | block _ statements =>
      exact recordSequence_haltsFor hKeeps hCall hScope .null
        statements hParts
  | program statements =>
      have hStatements :=
        recordSequence_haltsFor hKeeps hCall hScope .null
          statements hParts
      have hValue :=
        recordSequence_keeps hKeeps hScope result_null statements hParts
      exact hStatements.bind hValue fun _ _ => .pure _
  | unknown kind =>
      refine .during fun heap cause hRun => ?_
      cases hRun
      exact hNode

theorem recordSequence_haltsFor
    (hKeeps : kept.KeepsCalls scopes call)
    (hCall : kept.CallsHaltFor scopes call)
    {scope : ScopeId}
    (hScope : scopes scope)
    (last : Value)
    (statements : List Node)
    (hStatements : statements.Forall kept.node) :
    kept.HaltsFor scopes (recordSequence call scope last statements) := by
  cases statements with
  | nil => exact .pure last
  | cons statement rest =>
      have hNodes := (List.forall_cons _ _ _).mp hStatements
      have hStatement :=
        recordWith_haltsFor hKeeps hCall hScope statement hNodes.1
      have hKept := recordWith_keeps hKeeps hScope statement hNodes.1
      refine hStatement.bind hKept fun value _ => ?_
      split
      · exact .pure value
      · exact recordSequence_haltsFor hKeeps hCall hScope value rest
          hNodes.2

theorem recordArguments_haltsFor
    (hKeeps : kept.KeepsCalls scopes call)
    (hCall : kept.CallsHaltFor scopes call)
    {scope : ScopeId}
    (hScope : scopes scope)
    (arguments : List Node)
    (hArguments : arguments.Forall kept.node) :
    kept.HaltsFor scopes (recordArguments call scope arguments) := by
  cases arguments with
  | nil => exact .pure _
  | cons argument rest =>
      have hNodes := (List.forall_cons _ _ _).mp hArguments
      have hArgument :=
        recordWith_haltsFor hKeeps hCall hScope argument hNodes.1
      have hKept := recordWith_keeps hKeeps hScope argument hNodes.1
      have hRest :=
        recordArguments_haltsFor hKeeps hCall hScope rest hNodes.2
      have hOthers := recordArguments_keeps hKeeps hScope rest hNodes.2
      refine hArgument.bind hKept fun value _ => ?_
      split
      next => exact .pure _
      next =>
        refine hRest.bind hOthers fun result _ => ?_
        cases result with
        | error failure => exact .pure _
        | ok values => exact .pure _

end

end

------------------------------------------------------------
-- Calls
------------------------------------------------------------

/- The call of a function in a new scope. -/
theorem HaltsFor.entered
    {call : Value → List Value → Recorded Value}
    (hKeeps : kept.KeepsCalls scopes call)
    (hCall : kept.CallsHaltFor scopes call)
    {number : Nat}
    {parameters : List Node}
    {body : Node}
    {home : ScopeId}
    (hFunction :
      (Value.function number parameters body home).Fits scopes
        kept.value)
    {bindings : List (Label × Value)}
    (hBindings :
      ∀ binding ∈ bindings, binding.2.Fits scopes kept.value) :
    kept.HaltsFor scopes (do
      let inner ←
        Recorded.during [.opened home bindings]
          (Eval.enterScope home bindings)
      let value ← recordWith call inner body
      return value.unwrapped) := by
  have hHome : scopes home := hFunction.2 home rfl
  refine HaltsFor.bind (.during nofun) (Keeps.opened hHome hBindings)
    fun inner hInner => ?_
  have hBody := kept.body hFunction.1
  exact (recordWith_haltsFor hKeeps hCall hInner body hBody).bind
    (recordWith_keeps hKeeps hInner body hBody) fun _ _ => .pure _

theorem recordCall_haltsFor
    (depth : Nat) :
    kept.CallsHaltFor scopes (recordCall depth) := by
  induction depth with
  | zero =>
      intro function arguments _ _
      refine .during fun heap cause hRun => ?_
      cases hRun
      trivial
  | succ depth ih =>
      intro function arguments hFunction hArguments
      have hEvent : kept.Allows (.called function arguments) := by
        refine .of_handled (List.forall_mem_cons.mpr ⟨hFunction.1, ?_⟩) rfl
        exact fun value hValue => (hArguments value hValue).1
      unfold recordCall
      refine (HaltsFor.note _).bind (Keeps.note hEvent fun _ => rfl)
        fun _ _ => ?_
      cases function with
      | function number parameters body home =>
          have hNames : ∀ name ∈ parameters, kept.Names name :=
            fun name hName => .inr ⟨_, _, _, _, hFunction.1, hName⟩
          dsimp only
          split
          · refine (HaltsFor.labelsOf hNames).bind Keeps.any
              fun labels _ => ?_
            exact .entered (recordCall_keeps depth) ih hFunction
              fun binding hBinding =>
                hArguments _ (List.of_mem_zip hBinding).2
          · exact .pure _
      | _ => exact .pure _

/-
  From where all values in reach have their property, a tree that
  has its own halts only for a cause that is explained.
-/
theorem record_explains
    (kept : Invariant)
    {depth : Nat}
    {scope : ScopeId}
    {node : Node}
    {heap : Heap}
    {cause : Halt}
    {history : List Event}
    (hNode : kept.node node)
    (hReach : heap.AllReachable scope kept.value)
    (hRun : record depth scope node heap = (.error cause, history))
    (hAssumes : kept.Assumes history) :
    kept.Explains cause := by
  have hScope : heap.Known scope scope := .inl .origin
  have hHalts :=
    recordWith_haltsFor (recordCall_keeps depth)
      (recordCall_haltsFor depth) hScope node hNode
  exact hHalts heap cause history (Heap.holds_known hReach) hRun hAssumes

end Invariant

end MonkeyLang
