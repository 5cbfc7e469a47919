import MonkeyLang.Proofs.Evaluation.Heap

/-
  What can be reached from a scope: the scopes around it, and
  the scopes in which the functions were made that are bound in
  a scope that can be reached.

  A property of values holds throughout a set of scopes if it
  holds of all values bound there, and if nothing leads out of
  the set. Scopes that do not exist yet belong to such a set,
  so that the set stays the same when scopes are made.

  Main declarations:
    * `Heap.Reaches`
    * `Heap.AllReachable`   (a property of all values in reach)
    * `Heap.Holds`          (a property of all values in a set of scopes)
    * `Heap.holds_everywhere_iff`
    * `Heap.holds_known`
-/

------------------------------------------------------------
-- Reach
------------------------------------------------------------

namespace MonkeyLang

/- The scope that a value refers to. -/
def Value.home?
    (value : Value) :
    Option ScopeId :=
  match value with
  | .function _ _ _ scope => some scope
  | .returned value => home? value
  | _ => none

namespace Heap

/- The scopes that can be reached from a scope. -/
inductive Reaches
    (heap : Heap)
    (origin : ScopeId) :
    ScopeId → Prop where
  | origin :
      Reaches heap origin origin
  | outer {id outer : ScopeId}
      (hReaches : Reaches heap origin id)
      (hOuter : (heap.scope id).outer = some outer) :
      Reaches heap origin outer
  | home {id home : ScopeId} {binding : Label × Value}
      (hReaches : Reaches heap origin id)
      (hBinding : binding ∈ (heap.scope id).bindings)
      (hHome : binding.2.home? = some home) :
      Reaches heap origin home

/- All values that can be reached from a scope have a property. -/
def AllReachable
    (heap : Heap)
    (origin : ScopeId)
    (holds : Value → Prop) :
    Prop :=
  ∀ id, heap.Reaches origin id →
    ∀ binding ∈ (heap.scope id).bindings, holds binding.2

/- What can be reached from a scope, and all that does not exist yet. -/
def Known
    (heap : Heap)
    (origin id : ScopeId) :
    Prop :=
  heap.Reaches origin id ∨ heap.scopes.size ≤ id

end Heap

------------------------------------------------------------
-- Sets of Scopes
------------------------------------------------------------

/- A value has a property and refers to a scope in a set. -/
def Value.Fits
    (scopes : ScopeId → Prop)
    (holds : Value → Prop)
    (value : Value) :
    Prop :=
  holds value ∧ ∀ home ∈ value.home?, scopes home

/- A value that refers to no scope. -/
theorem Value.Fits.of_home?_eq_none
    {scopes : ScopeId → Prop}
    {holds : Value → Prop}
    {value : Value}
    (hHolds : holds value)
    (hHome : value.home? = none) :
    value.Fits scopes holds :=
  ⟨hHolds, by simp [hHome]⟩

namespace Scope

/- The bindings of a scope fit, and the scope around it is in the set. -/
structure Holds
    (scopes : ScopeId → Prop)
    (holds : Value → Prop)
    (scope : Scope) :
    Prop where
  outer : ∀ outer ∈ scope.outer, scopes outer
  bindings :
    ∀ binding ∈ scope.bindings, binding.2.Fits scopes holds

variable {scopes : ScopeId → Prop}
variable {holds : Value → Prop}

/- A scope without bindings and without an outer scope. -/
theorem holds_within_none :
    (within none).Holds scopes holds :=
  ⟨by simp [within], by simp [within]⟩

theorem holds_bind
    {scope : Scope}
    {label : Label}
    {value : Value}
    (hScope : scope.Holds scopes holds)
    (hValue : value.Fits scopes holds) :
    (scope.bind label value).Holds scopes holds := by
  refine ⟨hScope.outer, ?_⟩
  have hBindings := hScope.bindings
  unfold bind
  revert hBindings
  induction scope.bindings with
  | nil => simpa [putBinding] using hValue
  | cons binding rest ih =>
      intro hBindings
      rw [List.forall_mem_cons] at hBindings
      unfold putBinding
      split
      · exact List.forall_mem_cons.mpr ⟨hValue, hBindings.2⟩
      · exact List.forall_mem_cons.mpr ⟨hBindings.1, ih hBindings.2⟩

theorem holds_bindAll
    {scope : Scope}
    {bindings : List (Label × Value)}
    (hScope : scope.Holds scopes holds)
    (hBindings :
      ∀ binding ∈ bindings, binding.2.Fits scopes holds) :
    (scope.bindAll bindings).Holds scopes holds := by
  unfold bindAll
  induction bindings generalizing scope with
  | nil => exact hScope
  | cons binding rest ih =>
      rw [List.forall_mem_cons] at hBindings
      exact ih (holds_bind hScope hBindings.1) hBindings.2

theorem holds_get?
    {scope : Scope}
    {name : String}
    {value : Value}
    (hScope : scope.Holds scopes holds)
    (hValue : scope.get? name = some value) :
    value.Fits scopes holds := by
  unfold get? at hValue
  rcases Option.map_eq_some_iff.mp hValue with
    ⟨binding, hFound, rfl⟩
  exact hScope.bindings binding (List.mem_of_find?_eq_some hFound)

end Scope

namespace Heap

------------------------------------------------------------
-- Properties of Sets
------------------------------------------------------------

/-
  In a set of scopes from which nothing leads out, all values
  have a property. The set has all scopes that are still to
  be made.
-/
structure Holds
    (scopes : ScopeId → Prop)
    (holds : Value → Prop)
    (heap : Heap) :
    Prop where
  ahead : ∀ id, heap.scopes.size ≤ id → scopes id
  inside : ∀ id, scopes id → (heap.scope id).Holds scopes holds

variable {scopes : ScopeId → Prop}
variable {holds : Value → Prop}

theorem holds_newFunction
    {heap : Heap}
    (hHeap : heap.Holds scopes holds) :
    heap.newFunction.2.Holds scopes holds :=
  ⟨hHeap.ahead, hHeap.inside⟩

theorem holds_bind
    {heap : Heap}
    {id : ScopeId}
    {label : Label}
    {value : Value}
    (hHeap : heap.Holds scopes holds)
    (hValue : value.Fits scopes holds) :
    (heap.bind id label value).Holds scopes holds := by
  by_cases hSize : id < heap.scopes.size
  · constructor
    · intro other hOther
      exact hHeap.ahead other (by simpa using hOther)
    · intro other hOther
      have hScope := hHeap.inside other hOther
      by_cases hSame : other = id
      · subst hSame
        rw [scope_bind_self hSize]
        exact Scope.holds_bind hScope hValue
      · rwa [scope_bind_of_ne hSame]
  · rwa [bind_of_size_le (Nat.le_of_not_lt hSize)]

theorem holds_newScope
    {heap : Heap}
    {outer : ScopeId}
    {bindings : List (Label × Value)}
    (hHeap : heap.Holds scopes holds)
    (hOuter : scopes outer)
    (hBindings :
      ∀ binding ∈ bindings, binding.2.Fits scopes holds) :
    (heap.newScope (some outer) bindings).2.Holds scopes holds := by
  constructor
  · intro id hId
    rw [size_newScope] at hId
    exact hHeap.ahead id (by omega)
  · intro id hId
    by_cases hNew : id = heap.scopes.size
    · rw [hNew, scope_newScope_self]
      refine Scope.holds_bindAll ⟨?_, ?_⟩ hBindings
      · simpa [Scope.within] using hOuter
      · simp [Scope.within]
    · rw [scope_newScope_of_ne hNew]
      exact hHeap.inside id hId

/- A property of all values that are bound, in whatever scopes. -/
theorem holds_everywhere_iff
    {heap : Heap} :
    heap.Holds (fun _ => True) holds ↔
      ∀ id, ∀ binding ∈ (heap.scope id).bindings, holds binding.2 := by
  constructor
  · intro hHeap id binding hBinding
    exact ((hHeap.inside id trivial).bindings binding hBinding).1
  · intro hAll
    constructor
    · exact fun _ _ => trivial
    · intro id _
      exact ⟨fun _ _ => trivial,
        fun binding hBinding =>
          ⟨hAll id binding hBinding, fun _ _ => trivial⟩⟩

/- A name that is seen from the set has a value with the property. -/
theorem Holds.lookup
    {heap : Heap}
    {id : ScopeId}
    {name : String}
    {value : Value}
    (hHeap : heap.Holds scopes holds)
    (hId : scopes id)
    (hValue : heap.lookup id name = some value) :
    value.Fits scopes holds := by
  unfold Heap.lookup at hValue
  generalize id + 1 = limit at hValue
  induction limit generalizing id with
  | zero => cases hValue
  | succ limit ih =>
      unfold lookupWithin at hValue
      have hScope := hHeap.inside id hId
      split at hValue
      next found hFound =>
        cases hValue
        exact Scope.holds_get? hScope hFound
      next =>
        split at hValue
        next outer hOuter => exact ih (hScope.outer outer hOuter) hValue
        next => cases hValue

------------------------------------------------------------
-- From Reach to Sets and Back
------------------------------------------------------------

/-
  If all values in reach have a property, it holds throughout
  what is known.
-/
theorem holds_known
    {heap : Heap}
    {origin : ScopeId}
    (hReach : heap.AllReachable origin holds) :
    heap.Holds (heap.Known origin) holds := by
  constructor
  · exact fun _ hSize => .inr hSize
  · rintro id (hId | hSize)
    · constructor
      · exact fun outer hOuter => .inl (.outer hId hOuter)
      · intro binding hBinding
        exact ⟨hReach id hId binding hBinding,
          fun home hHome => .inl (.home hId hBinding hHome)⟩
    · rw [scope_of_size_le hSize]
      exact Scope.holds_within_none

/- At the start there are no values. -/
theorem allReachable_initial
    (origin : ScopeId)
    (holds : Value → Prop) :
    initial.AllReachable origin holds := by
  intro id _ binding hBinding
  rw [scope_initial] at hBinding
  cases hBinding

/- A set from which nothing leads out has all that can be reached. -/
theorem Holds.of_reaches
    {heap : Heap}
    {origin id : ScopeId}
    (hHeap : heap.Holds scopes holds)
    (hOrigin : scopes origin)
    (hReaches : heap.Reaches origin id) :
    scopes id := by
  induction hReaches with
  | origin => exact hOrigin
  | outer _ hOuter ih => exact (hHeap.inside _ ih).outer _ hOuter
  | home _ hBinding hHome ih =>
      exact ((hHeap.inside _ ih).bindings _ hBinding).2 _ hHome

theorem Holds.allReachable
    {heap : Heap}
    {origin : ScopeId}
    (hHeap : heap.Holds scopes holds)
    (hOrigin : scopes origin) :
    heap.AllReachable origin holds :=
  fun _ hReaches binding hBinding =>
    ((hHeap.inside _ (hHeap.of_reaches hOrigin hReaches)).bindings
      binding hBinding).1

end Heap

end MonkeyLang
