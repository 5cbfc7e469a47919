import Mathlib.Data.List.Basic
import MonkeyLang.Proofs.Evaluation.Heap
import MonkeyLang.Proofs.Evaluation.History

/-
  Evaluation only writes its own scope. Whatever is evaluated in
  a scope, the other scopes that exist stay as they are, and in
  the scope itself only names are bound that let statements of
  the tree have. What a function does when it is called, it does
  in a scope of its own, so that a call changes none that exists.

  Main declarations:
    * `Node.letLabels`        (what a tree may bind)
    * `Heap.Frame`            (what an evaluation may change)
    * `evaluateWith_framed`
    * `evaluation_writes_own_scope`
-/

------------------------------------------------------------
-- Let Statements
------------------------------------------------------------

namespace MonkeyLang

namespace Node

mutual

/-
  The labels of the let statements in a tree, apart from those
  in functions that are made in it.
-/
def letLabels
    (node : Node) :
    List Label :=
  match node with
  | .letStatement _ name value => name.label?.toList ++ letLabels value
  | .unary _ _ right => letLabels right
  | .binary _ left _ right => letLabels left ++ letLabels right
  | .ifThen _ condition consequence =>
      letLabels condition ++ letLabels consequence
  | .ifElse _ condition consequence alternative =>
      letLabels condition ++ letLabels consequence ++
        letLabels alternative
  | .call _ callee arguments =>
      letLabels callee ++ letLabelsOfAll arguments
  | .returnStatement _ value => letLabels value
  | .expressionStatement _ expression => letLabels expression
  | .block _ statements => letLabelsOfAll statements
  | .program statements => letLabelsOfAll statements
  | .function _ _ _ => []
  | .identifier _ => []
  | .integer _ _ => []
  | .boolean _ _ => []
  | .string _ _ => []
  | .unknown _ => []

/- The labels of the let statements in some trees. -/
def letLabelsOfAll
    (nodes : List Node) :
    List Label :=
  match nodes with
  | [] => []
  | node :: rest => letLabels node ++ letLabelsOfAll rest

end

end Node

------------------------------------------------------------
-- Scopes
------------------------------------------------------------

/- No label but a name belongs to the binding of a name. -/
theorem Label.same_name_iff
    {label : Label}
    {name : String} :
    label.same (.name name) ↔ label = .name name := by
  cases label with
  | boolean truth => cases truth <;> simp [same, weight?]
  | _ => simp [same, weight?]

theorem Label.name_same_iff
    {label : Label}
    {name : String} :
    (Label.name name).same label ↔ label = .name name := by
  cases label with
  | name text => simp [same, eq_comm (a := name)]
  | _ => simp [same, weight?]

namespace Scope

theorem bindAll_append
    (scope : Scope)
    (first second : List (Label × Value)) :
    scope.bindAll (first ++ second) =
      (scope.bindAll first).bindAll second :=
  List.foldl_append

theorem outer_bindAll
    (scope : Scope)
    (writes : List (Label × Value)) :
    (scope.bindAll writes).outer = scope.outer := by
  induction writes generalizing scope with
  | nil => rfl
  | cons write rest ih => exact ih (scope.bind write.1 write.2)

/- A label that is bound is kept, or added behind all others. -/
theorem labels_bind
    (scope : Scope)
    (label : Label)
    (value : Value) :
    (scope.bind label value).labels = scope.labels ∨
      (scope.bind label value).labels = scope.labels ++ [label] := by
  unfold bind labels
  induction scope.bindings with
  | nil => exact .inr rfl
  | cons binding rest ih =>
      simp only [putBinding]
      split
      next => exact .inl rfl
      next =>
        rcases ih with hKept | hAdded
        · exact .inl (by simp [hKept])
        · exact .inr (by simp [hAdded])

/- No label is removed, and only labels that are written are added. -/
theorem labels_bindAll
    (scope : Scope)
    (writes : List (Label × Value)) :
    ∃ added,
      (scope.bindAll writes).labels = scope.labels ++ added ∧
        added ⊆ writes.map (·.1) := by
  induction writes generalizing scope with
  | nil => exact ⟨[], by simp [bindAll], by simp⟩
  | cons write rest ih =>
      rcases ih (scope.bind write.1 write.2) with
        ⟨added, hLabels, hAdded⟩
      rcases labels_bind scope write.1 write.2 with hBind | hBind
      · exact ⟨added, by rw [← hBind]; exact hLabels,
          List.subset_cons_of_subset _ hAdded⟩
      · refine ⟨write.1 :: added, ?_, List.cons_subset_cons _ hAdded⟩
        rw [hBind, List.append_assoc] at hLabels
        exact hLabels

/- Binding a label does not change the value of another name. -/
theorem get?_bind_of_ne
    {scope : Scope}
    {label : Label}
    {name : String}
    (value : Value)
    (hLabel : label ≠ .name name) :
    (scope.bind label value).get? name = scope.get? name := by
  unfold bind get?
  congr 1
  induction scope.bindings with
  | nil =>
      have hOther : ¬label.same (.name name) :=
        fun hSame => hLabel (Label.same_name_iff.mp hSame)
      simp [putBinding, hOther]
  | cons binding rest ih =>
      simp only [putBinding]
      split
      next hSame =>
        have hOther : ¬binding.1.same (.name name) := by
          intro hName
          rw [Label.same_name_iff.mp hName] at hSame
          exact hLabel (Label.name_same_iff.mp hSame)
        simp [hOther]
      next =>
        simp only [List.find?_cons, ih]

/- Only names that are written have another value afterwards. -/
theorem mem_of_get?_bindAll_ne
    {scope : Scope}
    {writes : List (Label × Value)}
    {name : String}
    (hChanged : (scope.bindAll writes).get? name ≠ scope.get? name) :
    .name name ∈ writes.map (·.1) := by
  induction writes generalizing scope with
  | nil => exact absurd rfl hChanged
  | cons write rest ih =>
      by_cases hWrite : write.1 = .name name
      · exact List.mem_cons.mpr (.inl hWrite.symm)
      · have hRest :
            ((scope.bind write.1 write.2).bindAll rest).get? name ≠
              (scope.bind write.1 write.2).get? name :=
          fun hSame =>
            hChanged (hSame.trans (get?_bind_of_ne write.2 hWrite))
        exact List.mem_cons_of_mem _ (ih hRest)

end Scope

------------------------------------------------------------
-- Frames
------------------------------------------------------------

namespace Heap

/- All scopes that exist stay as they are. -/
structure Untouched
    (before after : Heap) :
    Prop where
  size : before.scopes.size ≤ after.scopes.size
  scope :
    ∀ id, id < before.scopes.size → after.scope id = before.scope id

/-
  All scopes that exist stay as they are, apart from one, in
  which some labels are bound.
-/
structure Frame
    (own : ScopeId)
    (labels : List Label)
    (before after : Heap) :
    Prop where
  size : before.scopes.size ≤ after.scopes.size
  others :
    ∀ id, id < before.scopes.size → id ≠ own →
      after.scope id = before.scope id
  writes :
    own < before.scopes.size →
      ∃ writes : List (Label × Value),
        writes.map (·.1) ⊆ labels ∧
          after.scope own = (before.scope own).bindAll writes

theorem Untouched.frame
    {before after : Heap}
    (hUntouched : before.Untouched after)
    (own : ScopeId)
    (labels : List Label) :
    before.Frame own labels after where
  size := hUntouched.size
  others id hId _ := hUntouched.scope id hId
  writes hOwn := ⟨[], by simp, hUntouched.scope own hOwn⟩

/- A heap is untouched if only a scope may change that it does not have. -/
theorem Frame.untouched
    {own : ScopeId}
    {labels : List Label}
    {before middle after : Heap}
    (hBefore : before.Untouched middle)
    (hFrame : middle.Frame own labels after)
    (hOwn : before.scopes.size ≤ own) :
    before.Untouched after where
  size := Nat.le_trans hBefore.size hFrame.size
  scope id hId := by
    rw [← hBefore.scope id hId]
    exact hFrame.others id (Nat.lt_of_lt_of_le hId hBefore.size)
      (Nat.ne_of_lt (Nat.lt_of_lt_of_le hId hOwn))

theorem Untouched.refl
    (heap : Heap) :
    heap.Untouched heap :=
  ⟨Nat.le_refl _, fun _ _ => rfl⟩

theorem Untouched.trans
    {before middle after : Heap}
    (hFirst : before.Untouched middle)
    (hSecond : middle.Untouched after) :
    before.Untouched after where
  size := Nat.le_trans hFirst.size hSecond.size
  scope id hId :=
    (hSecond.scope id (Nat.lt_of_lt_of_le hId hFirst.size)).trans
      (hFirst.scope id hId)

theorem Frame.trans
    {own : ScopeId}
    {labels : List Label}
    {before middle after : Heap}
    (hFirst : before.Frame own labels middle)
    (hSecond : middle.Frame own labels after) :
    before.Frame own labels after where
  size := Nat.le_trans hFirst.size hSecond.size
  others id hId hOther := by
    have hMiddle := Nat.lt_of_lt_of_le hId hFirst.size
    rw [hSecond.others id hMiddle hOther]
    exact hFirst.others id hId hOther
  writes hOwn := by
    rcases hFirst.writes hOwn with ⟨first, hFirstLabels, hMiddle⟩
    rcases hSecond.writes (Nat.lt_of_lt_of_le hOwn hFirst.size) with
      ⟨second, hSecondLabels, hAfter⟩
    refine ⟨first ++ second, ?_, ?_⟩
    · rw [List.map_append]
      exact List.append_subset.mpr ⟨hFirstLabels, hSecondLabels⟩
    · rw [hAfter, hMiddle, Scope.bindAll_append]

theorem frame_bind
    {own : ScopeId}
    {labels : List Label}
    {label : Label}
    (heap : Heap)
    (value : Value)
    (hLabel : label ∈ labels) :
    heap.Frame own labels (heap.bind own label value) where
  size := Nat.le_of_eq (size_bind heap own label value).symm
  others _ _ hOther := scope_bind_of_ne hOther
  writes hOwn :=
    ⟨[(label, value)], by simpa using hLabel, scope_bind_self hOwn⟩

theorem untouched_newFunction
    (heap : Heap) :
    heap.Untouched heap.newFunction.2 :=
  ⟨Nat.le_refl _, fun _ _ => rfl⟩

theorem untouched_newScope
    (heap : Heap)
    (outer : Option ScopeId)
    (bindings : List (Label × Value)) :
    heap.Untouched (heap.newScope outer bindings).2 where
  size := by rw [size_newScope]; omega
  scope _ hId := scope_newScope_of_lt hId

end Heap

------------------------------------------------------------
-- Rules
------------------------------------------------------------

namespace Eval

/- An evaluation that leaves all scopes as they are that exist. -/
def Untouching
    (action : Eval α) :
    Prop :=
  ∀ heap result after,
    action heap = .ok (result, after) → heap.Untouched after

/- An evaluation that only binds some labels in one scope. -/
def Framed
    (own : ScopeId)
    (labels : List Label)
    (action : Eval α) :
    Prop :=
  ∀ heap result after,
    action heap = .ok (result, after) → heap.Frame own labels after

variable {own : ScopeId}
variable {labels : List Label}

theorem Untouching.framed
    {action : Eval α}
    (hAction : action.Untouching) :
    action.Framed own labels :=
  fun heap result after hRun =>
    (hAction heap result after hRun).frame own labels

theorem Reads.untouching
    {action : Eval α}
    (hAction : action.Reads) :
    action.Untouching := by
  intro heap result after hRun
  rw [hAction heap result after hRun]
  exact .refl heap

theorem untouching_pure
    (result : α) :
    (pure result : Eval α).Untouching := by
  intro heap found after hRun
  cases hRun
  exact .refl heap

namespace Framed

theorem pure
    (result : α) :
    (Pure.pure result : Eval α).Framed own labels :=
  (untouching_pure result).framed

theorem bind
    {action : Eval α}
    {following : α → Eval β}
    (hAction : action.Framed own labels)
    (hFollowing : ∀ value, (following value).Framed own labels) :
    (action >>= following).Framed own labels := by
  intro heap result after hRun
  rcases bind_eq_ok hRun with ⟨value, middle, hValue, hRest⟩
  exact (hAction heap value middle hValue).trans
    (hFollowing value middle result after hRest)

/- Behind a value that is an error nothing is evaluated. -/
theorem unlessError
    {action : Eval Value}
    {following : Value → Eval Value}
    (hAction : action.Framed own labels)
    (hFollowing : ∀ value, (following value).Framed own labels) :
    (action >>= fun value =>
      if value.isError then
        Pure.pure value
      else
        following value).Framed own labels := by
  refine hAction.bind fun value => ?_
  split
  · exact .pure value
  · exact hFollowing value

theorem bound
    {label : Label}
    (value : Value)
    (hLabel : label ∈ labels) :
    (bindLabel own label value).Framed own labels := by
  intro heap result after hRun
  cases hRun
  exact Heap.frame_bind heap value hLabel

/- What follows the label of a name has to respect that label only. -/
theorem labelled
    {name : Node}
    {following : Label → Eval α}
    (hFollowing :
      ∀ label ∈ name.label?, (following label).Framed own labels) :
    (labelOf name >>= following).Framed own labels := by
  unfold labelOf
  cases hLabel : name.label? with
  | some label => exact hFollowing label hLabel
  | none =>
      intro heap result after hRun
      cases hRun

end Framed

end Eval

------------------------------------------------------------
-- Trees
------------------------------------------------------------

section

variable {call : Eval.Call}
variable {labels : List Label}

mutual

/-
  If calls leave all scopes as they are, a tree only binds its
  own let statements in the scope in which it is evaluated.
-/
theorem evaluateWith_framed
    (hCall :
      ∀ function arguments, (call function arguments).Untouching)
    (scope : ScopeId)
    (node : Node)
    (hLabels : node.letLabels ⊆ labels) :
    (evaluateWith call scope node).Framed scope labels := by
  unfold evaluateWith
  cases node with
  | identifier id =>
      exact (Eval.resolve_reads scope id.name).untouching.framed
  | integer | boolean | string => exact .pure _
  | unary _ _ right =>
      have hRight := evaluateWith_framed hCall scope right hLabels
      exact hRight.unlessError fun _ => .pure _
  | binary _ left _ right =>
      rcases List.append_subset.mp hLabels with ⟨hLeft, hRight⟩
      refine (evaluateWith_framed hCall scope left hLeft).unlessError
        fun first => ?_
      refine (evaluateWith_framed hCall scope right hRight).unlessError
        fun second => ?_
      exact .pure _
  | ifThen _ condition consequence =>
      rcases List.append_subset.mp hLabels with ⟨hTest, hBody⟩
      refine (evaluateWith_framed hCall scope condition hTest).unlessError
        fun value => ?_
      split
      · exact evaluateWith_framed hCall scope consequence hBody
      · exact .pure _
  | ifElse _ condition consequence alternative =>
      rcases List.append_subset.mp hLabels with ⟨hBoth, hOther⟩
      rcases List.append_subset.mp hBoth with ⟨hTest, hBody⟩
      refine (evaluateWith_framed hCall scope condition hTest).unlessError
        fun value => ?_
      split
      · exact evaluateWith_framed hCall scope consequence hBody
      · exact evaluateWith_framed hCall scope alternative hOther
  | function =>
      intro heap value after hRun
      cases hRun
      exact heap.untouched_newFunction.frame scope labels
  | call _ callee arguments =>
      rcases List.append_subset.mp hLabels with ⟨hCallee, hRest⟩
      refine (evaluateWith_framed hCall scope callee hCallee).unlessError
        fun function => ?_
      refine (evaluateArguments_framed hCall scope arguments hRest).bind
        fun result => ?_
      cases result with
      | error => exact .pure _
      | ok values => exact (hCall function values).framed
  | letStatement _ name expression =>
      rcases List.append_subset.mp hLabels with ⟨hName, hValue⟩
      refine (evaluateWith_framed hCall scope expression hValue).unlessError
        fun value => ?_
      refine .labelled fun label hLabel => ?_
      have hBound : label ∈ labels := hName (Option.mem_toList.mpr hLabel)
      exact (Eval.Framed.bound value hBound).bind fun _ => .pure _
  | returnStatement _ expression =>
      have hValue := evaluateWith_framed hCall scope expression hLabels
      exact hValue.unlessError fun _ => .pure _
  | expressionStatement _ expression =>
      exact evaluateWith_framed hCall scope expression hLabels
  | block _ statements =>
      exact evaluateSequence_framed hCall scope .null statements hLabels
  | program statements =>
      have hValue :=
        evaluateSequence_framed hCall scope .null statements hLabels
      exact hValue.bind fun _ => .pure _
  | unknown => exact (Eval.halt_reads _).untouching.framed

theorem evaluateSequence_framed
    (hCall :
      ∀ function arguments, (call function arguments).Untouching)
    (scope : ScopeId)
    (last : Value)
    (statements : List Node)
    (hLabels : Node.letLabelsOfAll statements ⊆ labels) :
    (evaluateSequence call scope last statements).Framed scope
      labels := by
  cases statements with
  | nil => exact .pure _
  | cons statement rest =>
      rcases List.append_subset.mp hLabels with ⟨hFirst, hRest⟩
      refine (evaluateWith_framed hCall scope statement hFirst).bind
        fun value => ?_
      split
      · exact .pure _
      · exact evaluateSequence_framed hCall scope value rest hRest

theorem evaluateArguments_framed
    (hCall :
      ∀ function arguments, (call function arguments).Untouching)
    (scope : ScopeId)
    (arguments : List Node)
    (hLabels : Node.letLabelsOfAll arguments ⊆ labels) :
    (evaluateArguments call scope arguments).Framed scope labels := by
  cases arguments with
  | nil => exact .pure _
  | cons argument rest =>
      rcases List.append_subset.mp hLabels with ⟨hFirst, hRest⟩
      refine (evaluateWith_framed hCall scope argument hFirst).bind
        fun value => ?_
      split
      · exact .pure _
      · refine (evaluateArguments_framed hCall scope rest hRest).bind
          fun result => ?_
        cases result <;> exact .pure _

end

end

------------------------------------------------------------
-- Calls
------------------------------------------------------------

/- What is evaluated in a new scope only changes that one. -/
theorem entered_untouching
    {call : Eval.Call}
    (hCall :
      ∀ function arguments, (call function arguments).Untouching)
    (outer : ScopeId)
    (bindings : List (Label × Value))
    (body : Node) :
    (Eval.enterScope outer bindings >>= fun inner =>
      evaluateWith call inner body >>= fun value =>
        pure value.unwrapped).Untouching := by
  intro heap result after hRun
  rcases Eval.bind_eq_ok hRun with ⟨inner, opened, hInner, hRest⟩
  cases hInner
  rcases Eval.bind_eq_ok hRest with ⟨value, last, hValue, hResult⟩
  cases hResult
  have hFrame :=
    evaluateWith_framed hCall heap.scopes.size body
      (List.Subset.refl _) _ value _ hValue
  exact hFrame.untouched (heap.untouched_newScope (some outer) bindings)
    (Nat.le_refl _)

/- A call works in a scope of its own. -/
theorem applyWithin_untouching
    (depth : Nat)
    (function : Value)
    (arguments : List Value) :
    (applyWithin depth function arguments).Untouching := by
  induction depth generalizing function arguments with
  | zero => exact (Eval.halt_reads _).untouching
  | succ depth ih =>
      unfold applyWithin
      cases function with
      | function _ parameters body home =>
          dsimp only
          split
          · intro heap result after hRun
            rcases Eval.bind_eq_ok hRun with
              ⟨bound, middle, hBound, hRest⟩
            cases Eval.labelsOf_reads _ _ _ _ hBound
            exact entered_untouching ih _ _ _ _ _ _ hRest
          · exact Eval.untouching_pure _
      | _ => exact Eval.untouching_pure _

------------------------------------------------------------
-- Whole Evaluations
------------------------------------------------------------

/-
  An evaluation that ends leaves all other scopes as they are.
  Its own keeps its outer scope and all labels in their order,
  gets new labels from let statements of the tree only, and
  changes the values of no other names: all that happens to it
  is that such labels are bound. A call that ends leaves every
  scope as it is.
-/
theorem evaluation_writes_own_scope :
    (∀ depth scope node heap value after,
      evaluate depth scope node heap = .ok (value, after) →
        heap.scopes.size ≤ after.scopes.size ∧
        (∀ id, id < heap.scopes.size → id ≠ scope →
          after.scope id = heap.scope id) ∧
        (scope < heap.scopes.size →
          (∃ writes : List (Label × Value),
            writes.map (·.1) ⊆ node.letLabels ∧
              after.scope scope =
                (heap.scope scope).bindAll writes) ∧
          (after.scope scope).outer = (heap.scope scope).outer ∧
          (∃ added,
            (after.scope scope).labels =
              (heap.scope scope).labels ++ added ∧
            added ⊆ node.letLabels) ∧
          ∀ name,
            (after.scope scope).get? name ≠
                (heap.scope scope).get? name →
              .name name ∈ node.letLabels)) ∧
    ∀ depth function arguments heap value after,
      applyWithin depth function arguments heap = .ok (value, after) →
        heap.scopes.size ≤ after.scopes.size ∧
        ∀ id, id < heap.scopes.size →
          after.scope id = heap.scope id := by
  constructor
  · intro depth scope node heap value after hRun
    have hFrame :=
      evaluateWith_framed (applyWithin_untouching depth) scope node
        (List.Subset.refl _) heap value after hRun
    refine ⟨hFrame.size, hFrame.others, fun hScope => ?_⟩
    rcases hFrame.writes hScope with ⟨writes, hWrites, hAfter⟩
    rw [hAfter]
    rcases Scope.labels_bindAll (heap.scope scope) writes with
      ⟨added, hLabels, hAdded⟩
    exact ⟨⟨writes, hWrites, rfl⟩, Scope.outer_bindAll _ _,
      ⟨added, hLabels, List.Subset.trans hAdded hWrites⟩,
      fun name hChanged =>
        hWrites (Scope.mem_of_get?_bindAll_ne hChanged)⟩
  · intro depth function arguments heap value after hRun
    have hUntouched :=
      applyWithin_untouching depth function arguments heap value after
        hRun
    exact ⟨hUntouched.size, hUntouched.scope⟩

/-
  The body of a function binds a name. Where the function is
  called, that name is as little known afterwards as before, and
  the call itself changes nothing that is there.
-/
theorem evaluation_writes_own_scope_of_local :
    let mark : Mark := ⟨"", 1, 1⟩
    let name (text : String) : Node := .identifier ⟨mark, text⟩
    let body : Node :=
      .block mark [.letStatement mark (name "y") (name "x")]
    let program : Node :=
      .program [
        .letStatement mark (name "f") (.function mark [name "x"] body),
        .expressionStatement mark
          (.call mark (name "f") [.integer mark 1])]
    let function : Value := .function 0 [name "x"] body 0
    let called (heap : Heap) : Heap :=
      (heap.newScope (some 0) [(.name "x", .integer 1)]).2.bind 1
        (.name "y") (.integer 1)
    let defined : Heap :=
      Heap.initial.newFunction.2.bind 0 (.name "f") function
    evaluate 1 0 program Heap.initial = .ok (.null, called defined) ∧
      ((called defined).scope 0).get? "y" = none ∧
      applyWithin 1 function [.integer 1] defined =
        .ok (.null, called defined) ∧
      (called defined).scope 0 = defined.scope 0 := by
  intro mark name body program function called defined
  have hRun :
      evaluate 1 0 program Heap.initial =
        .ok (.null, called defined) := by rfl
  have hCall :
      applyWithin 1 function [.integer 1] defined =
        .ok (.null, called defined) := by rfl
  rcases evaluation_writes_own_scope with ⟨hTrees, hCalls⟩
  rcases (hTrees 1 0 program Heap.initial _ _ hRun).2.2 (by decide) with
    ⟨-, -, -, hNames⟩
  refine ⟨hRun, ?_, hCall, ?_⟩
  · by_contra hKnown
    have hBound := hNames "y" hKnown
    simp [program, name, Node.letLabels, Node.letLabelsOfAll,
      Node.label?] at hBound
  · exact (hCalls 1 function [.integer 1] defined _ _ hCall).2 0
      (by decide)

end MonkeyLang
