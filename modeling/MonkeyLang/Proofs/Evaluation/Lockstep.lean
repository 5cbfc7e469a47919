import MonkeyLang.Eval.Evaluation
import MonkeyLang.Proofs.Evaluation.Pairing

/-
  Two evaluations in lockstep. From heaps that mirror each other
  both halt for the same cause, or both end, with results that
  are related and with heaps that mirror each other again. Trees
  that are alike are evaluated so, and so are calls of functions
  that are alike: neither can tell which of the two it is.

  With some slack the first may also halt because its calls nest
  too deeply, while the other goes on. So the same rules tell
  what it changes if calls may nest more deeply: nothing, unless
  an evaluation halts for that cause.

  Main declarations:
    * `Pairing.Lockstep`
    * `evaluateWith_lockstep`
    * `applyWithin_lockstep`
    * `Pairing.Copies.apply_lockstep`, `Pairing.Copies.evaluate_lockstep`
-/

------------------------------------------------------------
-- Outcomes
------------------------------------------------------------

namespace MonkeyLang

namespace Pairing

/-
  What two evaluations have come to in lockstep. Results are
  related with respect to the scopes that there are by then.
-/
inductive Outcomes
    (pairing : Pairing)
    (slack : Prop)
    (size : Nat)
    (related : Nat → α → β → Prop) :
    Except Halt (α × Heap) → Except Halt (β × Heap) → Prop where
  | halted (cause : Halt) :
      Outcomes pairing slack size related (.error cause) (.error cause)
  | exhausted
      (hSlack : slack)
      (other : Except Halt (β × Heap)) :
      Outcomes pairing slack size related (.error .outOfDepth) other
  | ended {result : α} {result' : β} {after after' : Heap}
      (hSize : size ≤ after.scopes.size)
      (hMirrors : pairing.Mirrors after after')
      (hResult : related after.scopes.size result result') :
      Outcomes pairing slack size related (.ok (result, after))
        (.ok (result', after'))

/-
  Two evaluations that go on in lockstep wherever there are at
  least so many scopes.
-/
def Lockstep
    (pairing : Pairing)
    (slack : Prop)
    (size : Nat)
    (related : Nat → α → β → Prop)
    (first : Eval α)
    (second : Eval β) :
    Prop :=
  ∀ heap heap', size ≤ heap.scopes.size → pairing.Mirrors heap heap' →
    pairing.Outcomes slack heap.scopes.size related (first heap)
      (second heap')

variable {pairing : Pairing}
variable {slack : Prop}
variable {size : Nat}

/- What starts with more scopes ends with more than there were before. -/
theorem Outcomes.grown
    {related : Nat → α → β → Prop}
    {larger : Nat}
    {outcome : Except Halt (α × Heap)}
    {outcome' : Except Halt (β × Heap)}
    (hOutcomes : pairing.Outcomes slack larger related outcome outcome')
    (hSize : size ≤ larger) :
    pairing.Outcomes slack size related outcome outcome' := by
  cases hOutcomes with
  | halted cause => exact .halted cause
  | exhausted hSlack => exact .exhausted hSlack _
  | ended hGrown hMirrors hResult =>
      exact .ended (Nat.le_trans hSize hGrown) hMirrors hResult

/- Without slack both halt for the same cause, or both end. -/
theorem Outcomes.halted_or_ended
    {related : Nat → α → β → Prop}
    {outcome : Except Halt (α × Heap)}
    {outcome' : Except Halt (β × Heap)}
    (hOutcomes : pairing.Outcomes False size related outcome outcome') :
    (∃ cause, outcome = .error cause ∧ outcome' = .error cause) ∨
      ∃ result result' after after',
        outcome = .ok (result, after) ∧
          outcome' = .ok (result', after') ∧
          size ≤ after.scopes.size ∧
          pairing.Mirrors after after' ∧
          related after.scopes.size result result' := by
  cases hOutcomes with
  | halted cause => exact .inl ⟨cause, rfl, rfl⟩
  | exhausted hSlack => cases hSlack
  | ended hSize hMirrors hResult =>
      exact .inr ⟨_, _, _, _, rfl, rfl, hSize, hMirrors, hResult⟩

/- If the first of two evaluations ends, so does the second. -/
theorem Outcomes.of_ok
    {related : Nat → α → β → Prop}
    {result : α}
    {after : Heap}
    {outcome : Except Halt (β × Heap)}
    (hOutcomes :
      pairing.Outcomes slack size related (.ok (result, after))
        outcome) :
    ∃ result' after',
      outcome = .ok (result', after') ∧
        size ≤ after.scopes.size ∧
        pairing.Mirrors after after' ∧
        related after.scopes.size result result' := by
  cases hOutcomes with
  | ended hSize hMirrors hResult =>
      exact ⟨_, _, rfl, hSize, hMirrors, hResult⟩

------------------------------------------------------------
-- Rules
------------------------------------------------------------

namespace Lockstep

theorem pure
    {related : Nat → α → β → Prop}
    {result : α}
    {result' : β}
    (hResult : ∀ larger, size ≤ larger → related larger result result') :
    pairing.Lockstep slack size related (Pure.pure result)
      (Pure.pure result') := by
  intro heap heap' hSize hMirrors
  exact .ended (Nat.le_refl _) hMirrors (hResult _ hSize)

theorem halt
    {related : Nat → α → β → Prop}
    (cause : Halt) :
    pairing.Lockstep slack size related (Eval.halt cause)
      (Eval.halt cause) :=
  fun _ _ _ _ => .halted cause

theorem bind
    {first : Nat → α → β → Prop}
    {second : Nat → γ → δ → Prop}
    {action : Eval α}
    {action' : Eval β}
    {following : α → Eval γ}
    {following' : β → Eval δ}
    (hAction : pairing.Lockstep slack size first action action')
    (hFollowing :
      ∀ larger result result', size ≤ larger →
        first larger result result' →
          pairing.Lockstep slack larger second (following result)
            (following' result')) :
    pairing.Lockstep slack size second (action >>= following)
      (action' >>= following') := by
  intro heap heap' hSize hMirrors
  have hFirst := hAction heap heap' hSize hMirrors
  simp only [Bind.bind, Eval.andThen]
  revert hFirst
  generalize action heap = outcome
  generalize action' heap' = outcome'
  rintro (cause | hSlack | ⟨hGrown, hMiddle, hResult⟩)
  · exact .halted cause
  · exact .exhausted hSlack _
  · have hSecond :=
      hFollowing _ _ _ (Nat.le_trans hSize hGrown) hResult _ _
        (Nat.le_refl _) hMiddle
    exact hSecond.grown hGrown

/- Values that are alike. -/
theorem value
    {first second : Value}
    (hAlike : Value.Alike pairing size first second) :
    pairing.Lockstep slack size (Value.Alike pairing) (Pure.pure first)
      (Pure.pure second) :=
  .pure fun _ hLarger => hAlike.mono hLarger

/- Behind values that are errors nothing is evaluated. -/
theorem unlessError
    {action action' : Eval Value}
    {following following' : Value → Eval Value}
    (hAction :
      pairing.Lockstep slack size (Value.Alike pairing) action action')
    (hFollowing :
      ∀ larger result result', size ≤ larger →
        Value.Alike pairing larger result result' →
          pairing.Lockstep slack larger (Value.Alike pairing)
            (following result) (following' result')) :
    pairing.Lockstep slack size (Value.Alike pairing)
      (action >>= fun value =>
        if value.isError then
          Pure.pure value
        else
          following value)
      (action' >>= fun value =>
        if value.isError then
          Pure.pure value
        else
          following' value) := by
  apply hAction.bind
  intro larger result result' hLarger hAlike
  rw [hAlike.isError_eq]
  split
  · exact .value hAlike
  · exact hFollowing larger result result' hLarger hAlike

theorem resolve
    {scope scope' : ScopeId}
    (hScope : pairing.Inside size scope scope')
    (name : String) :
    pairing.Lockstep slack size (Value.Alike pairing)
      (Eval.resolve scope name) (Eval.resolve scope' name) := by
  intro heap heap' hSize hMirrors
  have hFound := hMirrors.lookup (hScope.mono hSize) name
  unfold Eval.resolve
  revert hFound
  generalize heap.lookup scope name = found
  generalize heap'.lookup scope' name = found'
  rintro (hValue | _)
  · exact .ended (Nat.le_refl _) hMirrors hValue
  · cases Builtin.ofName? name with
    | some builtin =>
        exact .ended (Nat.le_refl _) hMirrors (.builtin builtin)
    | none => exact .ended (Nat.le_refl _) hMirrors (.error _)

theorem labelOf
    {name name' : Node}
    (hName : Node.Alike pairing.marks name name') :
    pairing.Lockstep slack size (fun _ => Label.Alike pairing.marks)
      (Eval.labelOf name) (Eval.labelOf name') := by
  have hLabel := hName.label?_rel
  unfold Eval.labelOf
  rw [hName.kind_eq]
  revert hLabel
  generalize name.label? = label
  generalize name'.label? = label'
  rintro (hAlike | _)
  · exact .pure fun _ _ => hAlike
  · exact .halt _

theorem labelsOf
    {names names' : List Node}
    (hNames : List.Forall₂ (Node.Alike pairing.marks) names names') :
    pairing.Lockstep slack size
      (fun _ => List.Forall₂ (Label.Alike pairing.marks))
      (Eval.labelsOf names) (Eval.labelsOf names') := by
  induction hNames generalizing size with
  | nil => exact .pure fun _ _ => .nil
  | cons hName _ ih =>
      unfold Eval.labelsOf
      apply (labelOf hName).bind
      intro larger label label' _ hLabel
      apply ih.bind
      intro _ labels labels' _ hLabels
      exact .pure fun _ _ => .cons hLabel hLabels

theorem bindLabel
    {scope scope' : ScopeId}
    (hScope : pairing.Inside size scope scope')
    {label label' : Label}
    (hLabel : Label.Alike pairing.marks label label')
    {value value' : Value}
    (hValue : Value.Alike pairing size value value') :
    pairing.Lockstep slack size (fun _ _ _ => True)
      (Eval.bindLabel scope label value)
      (Eval.bindLabel scope' label' value') := by
  intro heap heap' hSize hMirrors
  apply Outcomes.ended
  · exact Nat.le_of_eq (Heap.size_bind _ _ _ _).symm
  · exact hMirrors.bind (hScope.mono hSize) hLabel (hValue.mono hSize)
  · trivial

theorem enterScope
    {outer outer' : ScopeId}
    (hOuter : pairing.Inside size outer outer')
    {bindings bindings' : List (Label × Value)}
    (hBindings :
      List.Forall₂ (Binding.Alike pairing size) bindings bindings') :
    pairing.Lockstep slack size pairing.Inside
      (Eval.enterScope outer bindings)
      (Eval.enterScope outer' bindings') := by
  intro heap heap' hSize hMirrors
  have hGrown := Heap.size_newScope heap (some outer) bindings
  apply Outcomes.ended
  · exact hGrown ▸ Nat.le_succ _
  · exact hMirrors.newScope (hOuter.mono hSize)
      (hBindings.imp fun _ _ hBinding => hBinding.mono hSize)
  · exact hGrown ▸ hMirrors.inside_next

theorem makeFunction
    {parameters parameters' : List Node}
    (hParameters :
      List.Forall₂ (Node.Alike pairing.marks) parameters parameters')
    {body body' : Node}
    (hBody : Node.Alike pairing.marks body body')
    {scope scope' : ScopeId}
    (hScope : pairing.Inside size scope scope') :
    pairing.Lockstep slack size (Value.Alike pairing)
      (Eval.makeFunction parameters body scope)
      (Eval.makeFunction parameters' body' scope') := by
  intro heap heap' hSize hMirrors
  apply Outcomes.ended
  · exact Nat.le_refl _
  · exact hMirrors.newFunction
  · exact .function (hMirrors.functionsAhead 0) hParameters hBody
      (hScope.mono hSize)

end Lockstep

------------------------------------------------------------
-- Trees
------------------------------------------------------------

/- Arguments that are alike, or errors that are. -/
inductive ArgumentsAlike
    (pairing : Pairing)
    (size : Nat) :
    Except Value (List Value) → Except Value (List Value) → Prop where
  | failure {first second : Value}
      (hFailure : Value.Alike pairing size first second) :
      ArgumentsAlike pairing size (.error first) (.error second)
  | values {first second : List Value}
      (hValues : List.Forall₂ (Value.Alike pairing size) first second) :
      ArgumentsAlike pairing size (.ok first) (.ok second)

/- Calls with functions and arguments that are alike are in lockstep. -/
def LockstepCalls
    (pairing : Pairing)
    (slack : Prop)
    (first second : Eval.Call) :
    Prop :=
  ∀ {size function function' arguments arguments'},
    Value.Alike pairing size function function' →
    List.Forall₂ (Value.Alike pairing size) arguments arguments' →
      pairing.Lockstep slack size (Value.Alike pairing)
        (first function arguments) (second function' arguments')

end Pairing

section

variable {pairing : Pairing}
variable {slack : Prop}
variable {call call' : Eval.Call}

mutual

/-
  If calls are in lockstep, so are trees that are alike, in
  scopes that are paired.
-/
theorem evaluateWith_lockstep
    (hCall : pairing.LockstepCalls slack call call')
    {size : Nat}
    {scope scope' : ScopeId}
    (hScope : pairing.Inside size scope scope')
    {node node' : Node} :
    Node.Alike pairing.marks node node' →
      pairing.Lockstep slack size (Value.Alike pairing)
        (evaluateWith call scope node) (evaluateWith call' scope' node')
  | .identifier _ => by
      unfold evaluateWith
      exact .resolve hScope _
  | .integer _ | .boolean _ | .string _ => by
      unfold evaluateWith
      exact .value (.scalar rfl)
  | .unary _ hRight => by
      unfold evaluateWith
      apply (evaluateWith_lockstep hCall hScope hRight).unlessError
      intro larger value value' _ hValue
      rw [applyUnary_of_alike hValue]
      exact .value (.scalar (isScalar_applyUnary _ _))
  | .binary _ hLeft hRight => by
      unfold evaluateWith
      apply (evaluateWith_lockstep hCall hScope hLeft).unlessError
      intro larger left left' hLarger hFirst
      have hInside := hScope.mono hLarger
      apply (evaluateWith_lockstep hCall hInside hRight).unlessError
      intro largest right right' hLargest hSecond
      rw [applyBinary_of_alike (hFirst.mono hLargest) hSecond]
      exact .value (.scalar (isScalar_applyBinary _ _ _))
  | .ifThen _ hCondition hConsequence => by
      unfold evaluateWith
      apply (evaluateWith_lockstep hCall hScope hCondition).unlessError
      intro larger value value' hLarger hValue
      have hInside := hScope.mono hLarger
      rw [hValue.truthy_eq]
      split
      · exact evaluateWith_lockstep hCall hInside hConsequence
      · exact .value .null
  | .ifElse _ hCondition hConsequence hAlternative => by
      unfold evaluateWith
      apply (evaluateWith_lockstep hCall hScope hCondition).unlessError
      intro larger value value' hLarger hValue
      have hInside := hScope.mono hLarger
      rw [hValue.truthy_eq]
      split
      · exact evaluateWith_lockstep hCall hInside hConsequence
      · exact evaluateWith_lockstep hCall hInside hAlternative
  | .function _ hParameters hBody => by
      unfold evaluateWith
      exact .makeFunction hParameters hBody hScope
  | .call _ hCallee hArguments => by
      unfold evaluateWith
      apply (evaluateWith_lockstep hCall hScope hCallee).unlessError
      intro larger function function' hLarger hFunction
      have hInside := hScope.mono hLarger
      apply (evaluateArguments_lockstep hCall hInside hArguments).bind
      intro largest result result' hLargest hResult
      cases hResult with
      | failure hFailure => exact .value hFailure
      | values hValues => exact hCall (hFunction.mono hLargest) hValues
  | .letStatement _ hName hValue => by
      unfold evaluateWith
      apply (evaluateWith_lockstep hCall hScope hValue).unlessError
      intro larger value value' hLarger hAlike
      apply (Pairing.Lockstep.labelOf hName).bind
      intro largest label label' hLargest hLabel
      have hInside := hScope.mono (Nat.le_trans hLarger hLargest)
      apply (Pairing.Lockstep.bindLabel hInside hLabel
        (hAlike.mono hLargest)).bind
      intro _ _ _ _ _
      exact .value .null
  | .returnStatement _ hValue => by
      unfold evaluateWith
      apply (evaluateWith_lockstep hCall hScope hValue).unlessError
      intro larger value value' _ hAlike
      exact .value (.returned hAlike)
  | .expressionStatement _ hExpression => by
      unfold evaluateWith
      exact evaluateWith_lockstep hCall hScope hExpression
  | .block _ hStatements => by
      unfold evaluateWith
      exact evaluateSequence_lockstep hCall hScope .null hStatements
  | .program hStatements => by
      unfold evaluateWith
      apply (evaluateSequence_lockstep hCall hScope .null
        hStatements).bind
      intro larger value value' _ hAlike
      exact .value hAlike.unwrapped
  | .unknown kind => by
      unfold evaluateWith
      exact .halt _

theorem evaluateSequence_lockstep
    (hCall : pairing.LockstepCalls slack call call')
    {size : Nat}
    {scope scope' : ScopeId}
    (hScope : pairing.Inside size scope scope')
    {last last' : Value}
    (hLast : Value.Alike pairing size last last')
    {statements statements' : List Node} :
    List.Forall₂ (Node.Alike pairing.marks) statements statements' →
      pairing.Lockstep slack size (Value.Alike pairing)
        (evaluateSequence call scope last statements)
        (evaluateSequence call' scope' last' statements')
  | .nil => .value hLast
  | .cons hStatement hRest => by
      unfold evaluateSequence
      apply (evaluateWith_lockstep hCall hScope hStatement).bind
      intro larger value value' hLarger hAlike
      have hInside := hScope.mono hLarger
      rw [hAlike.endsSequence_eq]
      split
      · exact .value hAlike
      · exact evaluateSequence_lockstep hCall hInside hAlike hRest

theorem evaluateArguments_lockstep
    (hCall : pairing.LockstepCalls slack call call')
    {size : Nat}
    {scope scope' : ScopeId}
    (hScope : pairing.Inside size scope scope')
    {arguments arguments' : List Node} :
    List.Forall₂ (Node.Alike pairing.marks) arguments arguments' →
      pairing.Lockstep slack size pairing.ArgumentsAlike
        (evaluateArguments call scope arguments)
        (evaluateArguments call' scope' arguments')
  | .nil => .pure fun _ _ => .values .nil
  | .cons hArgument hRest => by
      unfold evaluateArguments
      apply (evaluateWith_lockstep hCall hScope hArgument).bind
      intro larger value value' hLarger hAlike
      have hInside := hScope.mono hLarger
      rw [hAlike.isError_eq]
      split
      · exact .pure fun _ hLargest => .failure (hAlike.mono hLargest)
      · apply (evaluateArguments_lockstep hCall hInside hRest).bind
        intro largest result result' hLargest hResult
        cases hResult with
        | failure hFailure =>
            exact .pure fun _ hMore => .failure (hFailure.mono hMore)
        | values hValues =>
            apply Pairing.Lockstep.pure
            intro last hMore
            have hRestValues :=
              hValues.imp fun _ _ hValue => hValue.mono hMore
            have hValue := hAlike.mono (Nat.le_trans hLargest hMore)
            exact .values (.cons hValue hRestValues)

end

end

------------------------------------------------------------
-- Calls
------------------------------------------------------------

/-
  Calls of values that are alike go on in lockstep at the same
  depth, and with some slack if the second may nest more deeply.
-/
theorem applyWithin_lockstep
    (pairing : Pairing)
    {slack : Prop}
    {depth deeper : Nat}
    (hDepth : depth ≤ deeper)
    (hSlack : depth < deeper → slack) :
    pairing.LockstepCalls slack (applyWithin depth)
      (applyWithin deeper) := by
  induction depth generalizing deeper with
  | zero =>
      intro size function function' arguments arguments' _ _
      cases deeper with
      | zero => exact .halt _
      | succ deeper =>
          -- The second call goes on, whatever it comes to.
          have hMore := hSlack (Nat.succ_pos deeper)
          exact fun _ _ _ _ => .exhausted hMore _
  | succ depth ih =>
      rcases Nat.exists_eq_succ_of_ne_zero
        (Nat.ne_zero_of_lt hDepth) with ⟨deeper, rfl⟩
      have hInner :
          pairing.LockstepCalls slack (applyWithin depth)
            (applyWithin deeper) :=
        ih (Nat.le_of_succ_le_succ hDepth)
          (hSlack ∘ Nat.succ_lt_succ)
      intro size function function' arguments arguments' hFunction
        hArguments
      unfold applyWithin
      cases hFunction with
      | scalar hScalar =>
          cases function with
          | returned | function | builtin => cases hScalar
          | _ => exact .value (.error _)
      | builtin builtin =>
          simp only [builtin.apply_of_alike hArguments]
          exact .value (.scalar (builtin.isScalar_apply arguments'))
      | returned => exact .value (.error _)
      | function _ hParameters hBody hScope =>
          dsimp only
          rw [hArguments.length_eq, hParameters.length_eq]
          split
          · apply (Pairing.Lockstep.labelsOf hParameters).bind
            intro larger labels labels' hLarger hLabels
            have hBindings :=
              Scope.alike_zip hLabels
                (hArguments.imp fun _ _ hValue => hValue.mono hLarger)
            apply (Pairing.Lockstep.enterScope (hScope.mono hLarger)
              hBindings).bind
            intro largest inner inner' _ hScope'
            apply (evaluateWith_lockstep hInner hScope' hBody).bind
            intro _ value value' _ hValue
            exact .value hValue.unwrapped
          · exact .value (.error _)

namespace Pairing.Copies

variable {pairing : Pairing}
variable {marks : Mark → Mark → Prop}
variable {heap heap' : Heap}

/- Calls of values that are alike, where all that they see are copies. -/
theorem apply_lockstep
    (hCopies : pairing.Copies heap heap')
    (hMarks :
      ∀ mark mark', pairing.marks mark mark' → marks mark mark')
    {function function' : Value}
    (hFunction :
      Value.Alike pairing heap.scopes.size function function')
    {arguments arguments' : List Value}
    (hArguments :
      List.Forall₂ (Value.Alike pairing heap.scopes.size) arguments
        arguments')
    (depth : Nat) :
    (hCopies.extended marks).Outcomes False heap.scopes.size
      (Value.Alike (hCopies.extended marks))
      (applyWithin depth function arguments heap)
      (applyWithin depth function' arguments' heap') := by
  have hCalls :
      (hCopies.extended marks).LockstepCalls False (applyWithin depth)
        (applyWithin depth) :=
    applyWithin_lockstep _ (Nat.le_refl depth) (Nat.lt_irrefl depth)
  have hValues :
      List.Forall₂
        (Value.Alike (hCopies.extended marks) heap.scopes.size)
        arguments arguments' :=
    hArguments.imp fun _ _ hAlike =>
      hCopies.alike_extended hMarks hAlike
  exact hCalls (hCopies.alike_extended hMarks hFunction) hValues heap
    heap' (Nat.le_refl _) (hCopies.mirrors hMarks)

/- Trees that are alike, evaluated in scopes that are copies. -/
theorem evaluate_lockstep
    (hCopies : pairing.Copies heap heap')
    (hMarks :
      ∀ mark mark', pairing.marks mark mark' → marks mark mark')
    {scope scope' : ScopeId}
    (hScope : pairing.scopes scope scope')
    {node node' : Node}
    (hNode : Node.Alike marks node node')
    (depth : Nat) :
    (hCopies.extended marks).Outcomes False heap.scopes.size
      (Value.Alike (hCopies.extended marks))
      (evaluate depth scope node heap)
      (evaluate depth scope' node' heap') := by
  have hCalls :
      (hCopies.extended marks).LockstepCalls False (applyWithin depth)
        (applyWithin depth) :=
    applyWithin_lockstep _ (Nat.le_refl depth) (Nat.lt_irrefl depth)
  exact evaluateWith_lockstep hCalls (hCopies.inside hScope) hNode heap
    heap' (Nat.le_refl _) (hCopies.mirrors hMarks)

end Pairing.Copies

end MonkeyLang
