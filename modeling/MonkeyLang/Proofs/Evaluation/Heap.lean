import MonkeyLang.Eval.Heap

/-
  The scopes of a heap after it has been changed: binding a
  label changes one scope, and making a scope changes none.

  Main declarations:
    * `Heap.scope_bind_self`, `Heap.scope_bind_of_ne`,
      `Heap.bind_of_size_le`
    * `Heap.scope_newScope_self`, `Heap.scope_newScope_of_ne`
-/

------------------------------------------------------------
-- Scopes of Changed Heaps
------------------------------------------------------------

namespace MonkeyLang

namespace Heap

/- A scope that does not exist is empty. -/
theorem scope_of_size_le
    {heap : Heap}
    {id : ScopeId}
    (hSize : heap.scopes.size ≤ id) :
    heap.scope id = Scope.within none := by
  unfold scope
  rw [Array.getElem?_eq_none hSize]
  rfl

/- At the start all scopes are empty. -/
theorem scope_initial
    (id : ScopeId) :
    initial.scope id = Scope.within none := by
  cases id <;> rfl

@[simp]
theorem size_bind
    (heap : Heap)
    (id : ScopeId)
    (label : Label)
    (value : Value) :
    (heap.bind id label value).scopes.size = heap.scopes.size :=
  Array.size_modify

@[simp]
theorem size_newScope
    (heap : Heap)
    (outer : Option ScopeId)
    (bindings : List (Label × Value)) :
    (heap.newScope outer bindings).2.scopes.size =
      heap.scopes.size + 1 :=
  Array.size_push _

theorem scope_bind_of_ne
    {heap : Heap}
    {id other : ScopeId}
    {label : Label}
    {value : Value}
    (hOther : other ≠ id) :
    (heap.bind id label value).scope other = heap.scope other := by
  simp [scope, bind, Array.getElem?_modify, hOther.symm]

theorem scope_bind_self
    {heap : Heap}
    {id : ScopeId}
    {label : Label}
    {value : Value}
    (hSize : id < heap.scopes.size) :
    (heap.bind id label value).scope id =
      (heap.scope id).bind label value := by
  unfold scope bind
  rw [Array.getElem?_modify, if_pos rfl,
    Array.getElem?_eq_getElem hSize]
  rfl

/- In a scope that does not exist nothing is bound. -/
theorem bind_of_size_le
    {heap : Heap}
    {id : ScopeId}
    (hSize : heap.scopes.size ≤ id)
    (label : Label)
    (value : Value) :
    heap.bind id label value = heap := by
  have hSame :
      (heap.scopes.modify id fun scope => scope.bind label value) =
        heap.scopes := by
    apply Array.ext_getElem?
    intro other
    rw [Array.getElem?_modify]
    by_cases hOther : id = other
    · rw [if_pos hOther, ← hOther, Array.getElem?_eq_none hSize]
      rfl
    · rw [if_neg hOther]
  rw [bind, hSame]

theorem scope_newScope_of_lt
    {heap : Heap}
    {outer : Option ScopeId}
    {bindings : List (Label × Value)}
    {id : ScopeId}
    (hSize : id < heap.scopes.size) :
    (heap.newScope outer bindings).2.scope id = heap.scope id := by
  unfold scope newScope
  rw [Array.getElem?_push, if_neg (Nat.ne_of_lt hSize)]

/- Only the scope that is made is another than before. -/
theorem scope_newScope_of_ne
    {heap : Heap}
    {outer : Option ScopeId}
    {bindings : List (Label × Value)}
    {id : ScopeId}
    (hOther : id ≠ heap.scopes.size) :
    (heap.newScope outer bindings).2.scope id = heap.scope id := by
  rcases Nat.lt_or_gt_of_ne hOther with hLt | hGt
  · exact scope_newScope_of_lt hLt
  · rw [scope_of_size_le (Nat.le_of_lt hGt),
      scope_of_size_le (by rw [size_newScope]; exact hGt)]

theorem scope_newScope_self
    (heap : Heap)
    (outer : Option ScopeId)
    (bindings : List (Label × Value)) :
    (heap.newScope outer bindings).2.scope heap.scopes.size =
      (Scope.within outer).bindAll bindings := by
  simp [scope, newScope]

end Heap

end MonkeyLang
