import MonkeyLang.Proofs.Evaluation.Coupling
import MonkeyLang.Proofs.Evaluation.Frame

/-
  The integrity of a heap. The functions that have been made
  are known by their numbers: all values that are bound are made
  of these functions, which were made in scopes that exist, and
  every scope is newer than the one around it. Evaluations keep
  it that way, and only add functions behind the others.

  Main declarations:
    * `Value.IsMade`
    * `Heap.Intact`
    * `Coupling.integrity`
    * `Heap.Intact.of_evaluation`, `Heap.Intact.of_call`
-/

------------------------------------------------------------
-- Functions That Have Been Made
------------------------------------------------------------

namespace MonkeyLang

/-
  Whether the function in a value, if there is one, has been
  made: it stands among the functions, at its own number.
-/
def Value.IsMade
    (made : List Value)
    (value : Value) :
    Prop :=
  match value with
  | .returned inner => IsMade made inner
  | .function number parameters body scope =>
      made[number]? = some (.function number parameters body scope)
  | _ => True

/-
  A heap whose functions and scopes belong together, with all
  functions that have been made, in the order of their numbers.
-/
structure Heap.Intact
    (made : List Value)
    (heap : Heap) :
    Prop where
  count : made.length = heap.functions
  homes :
    ∀ function ∈ made, ∀ home ∈ function.home?,
      home < heap.scopes.size
  outer : ∀ id, ∀ outer ∈ (heap.scope id).outer, outer < id
  bound :
    ∀ id, ∀ binding ∈ (heap.scope id).bindings,
      binding.2.IsMade made

namespace Value

variable {made later : List Value}

/- A value that is made stays so when more functions are made. -/
theorem IsMade.mono
    {value : Value}
    (hMade : value.IsMade made)
    (hLater : made <+: later) :
    value.IsMade later := by
  induction value with
  | returned inner ih => exact ih hMade
  | function number parameters body scope =>
      rcases hLater with ⟨more, rfl⟩
      have hNumber : number < made.length :=
        (List.getElem?_eq_some_iff.mp hMade).1
      unfold IsMade
      rwa [List.getElem?_append_left hNumber]
  | _ => trivial

theorem IsMade.of_isScalar
    {value : Value}
    (hScalar : value.isScalar) :
    value.IsMade made := by
  cases value with
  | returned | function => cases hScalar
  | _ => trivial

end Value

/- The scope that a value refers to exists. -/
theorem Heap.Intact.home_lt
    {made : List Value}
    {heap : Heap}
    (hIntact : heap.Intact made)
    {value : Value}
    (hMade : value.IsMade made) :
    ∀ home ∈ value.home?, home < heap.scopes.size := by
  induction value with
  | returned inner ih => exact ih hMade
  | function number parameters body scope =>
      exact hIntact.homes _ (List.mem_of_getElem? hMade)
  | _ => simp [Value.home?]

------------------------------------------------------------
-- Changed Heaps
------------------------------------------------------------

namespace Heap.Intact

variable {made : List Value}
variable {heap : Heap}

theorem initial :
    Heap.initial.Intact [] where
  count := rfl
  homes := by simp
  outer id := by simp [Heap.scope_initial, Scope.within]
  bound id := by simp [Heap.scope_initial, Scope.within]

theorem holds
    (hIntact : heap.Intact made) :
    heap.Holds (fun _ => True) (Value.IsMade made) :=
  Heap.holds_everywhere_iff.mpr hIntact.bound

theorem bind
    (hIntact : heap.Intact made)
    {value : Value}
    (hValue : value.IsMade made)
    (id : ScopeId)
    (label : Label) :
    (heap.bind id label value).Intact made where
  count := hIntact.count
  homes := by simpa using hIntact.homes
  outer other := by
    by_cases hSize : id < heap.scopes.size
    · by_cases hSame : other = id
      · rw [hSame, Heap.scope_bind_self hSize]
        exact hIntact.outer id
      · rw [Heap.scope_bind_of_ne hSame]
        exact hIntact.outer other
    · rw [Heap.bind_of_size_le (Nat.le_of_not_lt hSize)]
      exact hIntact.outer other
  bound := by
    have hHolds :
        (heap.bind id label value).Holds (fun _ => True)
          (Value.IsMade made) :=
      Heap.holds_bind hIntact.holds ⟨hValue, fun _ _ => trivial⟩
    exact Heap.holds_everywhere_iff.mp hHolds

theorem newScope
    (hIntact : heap.Intact made)
    {outer : ScopeId}
    (hOuter : outer < heap.scopes.size)
    {bindings : List (Label × Value)}
    (hBindings : ∀ binding ∈ bindings, binding.2.IsMade made) :
    (heap.newScope (some outer) bindings).2.Intact made where
  count := hIntact.count
  homes function hFunction home hHome := by
    rw [Heap.size_newScope]
    exact Nat.lt_succ_of_lt (hIntact.homes function hFunction home hHome)
  outer id := by
    by_cases hNew : id = heap.scopes.size
    · rw [hNew, Heap.scope_newScope_self, Scope.outer_bindAll]
      simpa [Scope.within] using hOuter
    · rw [Heap.scope_newScope_of_ne hNew]
      exact hIntact.outer id
  bound := by
    have hHolds :
        (heap.newScope (some outer) bindings).2.Holds (fun _ => True)
          (Value.IsMade made) :=
      Heap.holds_newScope hIntact.holds trivial
        fun binding hBinding =>
          ⟨hBindings binding hBinding, fun _ _ => trivial⟩
    exact Heap.holds_everywhere_iff.mp hHolds

theorem newFunction
    (hIntact : heap.Intact made)
    {home : ScopeId}
    (hHome : home < heap.scopes.size)
    (parameters : List Node)
    (body : Node) :
    heap.newFunction.2.Intact
      (made ++ [.function heap.functions parameters body home]) where
  count := by
    rw [List.length_append, hIntact.count]
    rfl
  homes function hFunction := by
    rcases List.mem_append.mp hFunction with hOld | hNew
    · exact hIntact.homes function hOld
    · rw [List.mem_singleton.mp hNew]
      rintro _ ⟨⟩
      exact hHome
  outer := hIntact.outer
  bound id binding hBinding :=
    (hIntact.bound id binding hBinding).mono (List.prefix_append _ _)

end Heap.Intact

------------------------------------------------------------
-- The Coupling
------------------------------------------------------------

/- Nothing is required of trees and their parts. -/
theorem Node.parts_of_any
    {tree : Node}
    (_ : True) :
    tree.parts.Forall fun _ => True :=
  List.forall_iff_forall_mem.mpr fun _ _ => trivial

/-
  An intact heap with itself. A stage consists of the functions
  that have been made and of the number of scopes.
-/
def Coupling.integrity : Coupling where
  Stage := List Value × Nat
  later stage next := stage.1 <+: next.1 ∧ stage.2 ≤ next.2
  heaps stage first second :=
    first = second ∧ first.Intact stage.1 ∧
      first.scopes.size = stage.2
  scope stage id := id < stage.2
  value stage found :=
    found.Fits (fun id => id < stage.2) (Value.IsMade stage.1)
  node _ := True
  later_refl stage := ⟨List.prefix_refl _, Nat.le_refl _⟩
  later_trans hFirst hSecond :=
    ⟨hFirst.1.trans hSecond.1, Nat.le_trans hFirst.2 hSecond.2⟩
  scope_later hScope hLater := Nat.lt_of_lt_of_le hScope hLater.2
  value_later hValue hLater :=
    ⟨hValue.1.mono hLater.1, fun home hHome =>
      Nat.lt_of_lt_of_le (hValue.2 home hHome) hLater.2⟩
  part := @Node.parts_of_any
  scalar {stage found} hScalar := by
    apply Value.Fits.of_home?_eq_none (.of_isScalar hScalar)
    cases found with
    | returned | function => cases hScalar
    | _ => rfl
  host builtin := .of_home?_eq_none trivial rfl
  returned := Iff.rfl
  body hFunction := ⟨trivial, hFunction.2 _ rfl⟩
  lookup {stage first second id name} hHeaps hScope _ := by
    rcases hHeaps with ⟨rfl, hIntact, hSize⟩
    refine ⟨rfl, fun found hFound => ?_⟩
    have hMade := (hIntact.holds.lookup trivial hFound).1
    exact ⟨hMade, hSize ▸ hIntact.home_lt hMade⟩
  bind hHeaps _ hValue label := by
    rcases hHeaps with ⟨rfl, hIntact, hSize⟩
    exact ⟨rfl, hIntact.bind hValue.1 _ label, by simpa using hSize⟩
  newScope {stage first second outer bindings} hHeaps hOuter
      hBindings := by
    rcases hHeaps with ⟨rfl, hIntact, hSize⟩
    refine ⟨rfl, (stage.1, stage.2 + 1),
      ⟨List.prefix_refl _, Nat.le_succ _⟩, ?_, rfl, ?_, ?_⟩
    · exact hSize ▸ Nat.lt_succ_self _
    · exact hIntact.newScope (hSize ▸ hOuter)
        fun binding hBinding => (hBindings binding hBinding).1
    · rw [Heap.size_newScope, hSize]
  newFunction {stage first second home mark parameters body} hHeaps
      hHome _ := by
    rcases hHeaps with ⟨rfl, hIntact, hSize⟩
    refine ⟨rfl,
      (stage.1 ++ [.function first.functions parameters body home],
        stage.2),
      ⟨List.prefix_append _ _, Nat.le_refl _⟩, ⟨?_, ?_⟩, rfl, ?_,
      hSize⟩
    · unfold Value.IsMade
      rw [← hIntact.count]
      exact List.getElem?_concat_length
    · simpa [Value.home?] using hHome
    · exact hIntact.newFunction (hSize ▸ hHome) parameters body

------------------------------------------------------------
-- Evaluations
------------------------------------------------------------

namespace Heap.Intact

variable {made : List Value}
variable {heap after : Heap}
variable {depth : Nat}
variable {value : Value}

theorem coupled
    (hIntact : heap.Intact made) :
    Coupling.integrity.heaps (made, heap.scopes.size) heap heap :=
  ⟨rfl, hIntact, rfl⟩

theorem of_outcomes
    {stage : Coupling.integrity.Stage}
    (hOutcomes :
      Coupling.integrity.Outcomes stage Coupling.integrity.value
        (.ok (value, after)) (.ok (value, after))) :
    ∃ later,
      stage.1 <+: later ∧ after.Intact later ∧ value.IsMade later := by
  cases hOutcomes with
  | ended hLater hHeaps hResult =>
      exact ⟨_, hLater.1, hHeaps.2.1, hResult.1⟩

/- An evaluation leaves an intact heap, with more functions behind the others. -/
theorem of_evaluation
    (hIntact : heap.Intact made)
    {scope : ScopeId}
    (hScope : scope < heap.scopes.size)
    {node : Node}
    (hRun : evaluate depth scope node heap = .ok (value, after)) :
    ∃ later,
      made <+: later ∧ after.Intact later ∧ value.IsMade later := by
  have hOutcomes :=
    Coupling.integrity.evaluate_coupled hIntact.coupled hScope node
      trivial depth
  rw [hRun] at hOutcomes
  exact of_outcomes hOutcomes

/- So does a call of what is there. -/
theorem of_call
    (hIntact : heap.Intact made)
    {function : Value}
    (hFunction : function.IsMade made)
    {arguments : List Value}
    (hArguments : ∀ argument ∈ arguments, argument.IsMade made)
    (hRun :
      applyWithin depth function arguments heap = .ok (value, after)) :
    ∃ later,
      made <+: later ∧ after.Intact later ∧ value.IsMade later := by
  have hKnown :
      ∀ found : Value, found.IsMade made →
        Coupling.integrity.value (made, heap.scopes.size) found :=
    fun _ hMade => ⟨hMade, hIntact.home_lt hMade⟩
  have hCoupled :=
    Coupling.integrity.applyWithin_coupled depth
      (hKnown function hFunction)
      fun argument hArgument =>
        hKnown argument (hArguments argument hArgument)
  have hOutcomes :=
    hCoupled _ heap heap (Coupling.integrity.later_refl _)
      hIntact.coupled
  rw [hRun] at hOutcomes
  exact of_outcomes hOutcomes

end Heap.Intact

end MonkeyLang
