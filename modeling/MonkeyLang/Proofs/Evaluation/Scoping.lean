import Mathlib.Data.List.Induction
import MonkeyLang.Proofs.Evaluation.Frame

/-
  Names in a tree of scopes that grows. Scopes are made inside
  others, and names are bound and looked up, in any order. What
  is found follows from the history of all this: it is the value
  that the name was bound to last, in the nearest scope in which
  it was ever bound.

  Main declarations:
    * `ScopeOperation`
    * `ScopeOperation.Possible`    (operations with existing scopes)
    * `ScopeOperation.Path`        (from a scope outward)
    * `ScopeOperation.Sees`        (what a name means, by history)
    * `Heap.Reflects`              (a heap that history has made)
    * `lookup_follows_history`
-/

------------------------------------------------------------
-- Operations
------------------------------------------------------------

namespace MonkeyLang

/-
  What is done with scopes: a scope is made inside another, a
  name is bound in a scope, or it is looked up there.
-/
inductive ScopeOperation where
  | extend (outer : ScopeId)
  | set (scope : ScopeId) (name : String) (value : Value)
  | get (scope : ScopeId) (name : String)

namespace ScopeOperation

/- The scope that an operation is done with. -/
def scope
    (operation : ScopeOperation) :
    ScopeId :=
  match operation with
  | .extend outer => outer
  | .set scope _ _ => scope
  | .get scope _ => scope

/- Whether an operation makes a scope. -/
def makesScope
    (operation : ScopeOperation) :
    Bool :=
  match operation with
  | .extend _ => true
  | _ => false

/- What an operation makes of the heap. -/
def effect
    (operation : ScopeOperation)
    (heap : Heap) :
    Heap :=
  match operation with
  | .extend outer => (heap.newScope (some outer) []).2
  | .set scope name value => heap.bind scope (.name name) value
  | .get _ _ => heap

/- The heap after some operations, of which the first comes first. -/
def heapAfter
    (history : List ScopeOperation) :
    Heap :=
  history.foldl (fun heap operation => operation.effect heap)
    Heap.initial

/- How many scopes there are after some operations. -/
def scopeCount
    (history : List ScopeOperation) :
    Nat :=
  history.countP makesScope + 1

/- Operations each of which is done with a scope that exists. -/
inductive Possible : List ScopeOperation → Prop where
  | none :
      Possible []
  | next {history : List ScopeOperation} {operation : ScopeOperation}
      (hHistory : Possible history)
      (hScope : operation.scope < scopeCount history) :
      Possible (history ++ [operation])

------------------------------------------------------------
-- What Names Mean
------------------------------------------------------------

/- A scope was made inside another. Scopes have numbers in order. -/
def MadeInside
    (history : List ScopeOperation)
    (inner outer : ScopeId) :
    Prop :=
  ∃ before after,
    history = before ++ .extend outer :: after ∧
      inner = scopeCount before

/- A name was bound in a scope at some time. -/
def IsSet
    (history : List ScopeOperation)
    (scope : ScopeId)
    (name : String) :
    Prop :=
  ∃ value, .set scope name value ∈ history

/- The value that a name was bound to last in a scope. -/
def LastSet
    (history : List ScopeOperation)
    (scope : ScopeId)
    (name : String)
    (value : Value) :
    Prop :=
  ∃ before after,
    history = before ++ .set scope name value :: after ∧
      ∀ other, .set scope name other ∉ after

/-
  A way from a scope outward to itself or to a scope around it,
  by the scopes that are passed before the last is reached.
-/
inductive Path
    (history : List ScopeOperation) :
    ScopeId → List ScopeId → ScopeId → Prop where
  | here {scope : ScopeId} :
      Path history scope [] scope
  | outward {inner outer scope : ScopeId} {passed : List ScopeId}
      (hInside : MadeInside history inner outer)
      (hPath : Path history outer passed scope) :
      Path history inner (inner :: passed) scope

/-
  The value of a name, seen from a scope: the one that it was
  bound to last, in the nearest scope where it was ever bound.
-/
def Sees
    (history : List ScopeOperation)
    (scope : ScopeId)
    (name : String)
    (value : Value) :
    Prop :=
  ∃ passed found,
    Path history scope passed found ∧
      (∀ id ∈ passed, ¬ IsSet history id name) ∧
      LastSet history found name value

------------------------------------------------------------
-- One More Operation
------------------------------------------------------------

variable {history : List ScopeOperation}
variable {operation : ScopeOperation}
variable {name : String}
variable {value : Value}

theorem heapAfter_concat
    (history : List ScopeOperation)
    (operation : ScopeOperation) :
    heapAfter (history ++ [operation]) =
      operation.effect (heapAfter history) :=
  List.foldl_concat ..

theorem scopeCount_append
    (first second : List ScopeOperation) :
    scopeCount (first ++ second) =
      scopeCount first + second.countP makesScope := by
  simp only [scopeCount, List.countP_append]
  omega

theorem possible_concat_iff :
    Possible (history ++ [operation]) ↔
      Possible history ∧ operation.scope < scopeCount history := by
  constructor
  · intro hPossible
    generalize hShape : history ++ [operation] = whole at hPossible
    cases hPossible with
    | none => simp at hShape
    | next hHistory hScope =>
        rcases List.append_inj' hShape rfl with ⟨rfl, hLast⟩
        cases hLast
        exact ⟨hHistory, hScope⟩
  · exact fun hBoth => .next hBoth.1 hBoth.2

/- A list with one more item is split before that or at it. -/
theorem exists_split_concat_iff
    {α : Type}
    {items : List α}
    {last item : α}
    {holds : List α → List α → Prop} :
    (∃ before after,
      items ++ [last] = before ++ item :: after ∧ holds before after) ↔
      (∃ before after,
        items = before ++ item :: after ∧
          holds before (after ++ [last])) ∨
        (last = item ∧ holds items []) := by
  constructor
  · rintro ⟨before, after, hShape, hHolds⟩
    induction after using List.reverseRecOn with
    | nil =>
        rcases List.append_inj' hShape rfl with ⟨rfl, hLast⟩
        cases hLast
        exact .inr ⟨rfl, hHolds⟩
    | append_singleton after other _ =>
        rw [← List.cons_append, ← List.append_assoc] at hShape
        rcases List.append_inj' hShape rfl with ⟨rfl, hLast⟩
        cases hLast
        exact .inl ⟨before, after, rfl, hHolds⟩
  · rintro (⟨before, after, rfl, hHolds⟩ | ⟨rfl, hHolds⟩)
    · exact ⟨before, after ++ [last], by simp, hHolds⟩
    · exact ⟨items, [], rfl, hHolds⟩

theorem madeInside_concat_iff
    {inner outer : ScopeId} :
    MadeInside (history ++ [operation]) inner outer ↔
      MadeInside history inner outer ∨
        (operation = .extend outer ∧ inner = scopeCount history) :=
  exists_split_concat_iff

/- Only an operation that makes a scope puts one inside another. -/
theorem madeInside_concat_of_makesNoScope
    {inner outer : ScopeId}
    (hOperation : operation.makesScope = false) :
    MadeInside (history ++ [operation]) inner outer ↔
      MadeInside history inner outer := by
  rw [madeInside_concat_iff, or_iff_left]
  rintro ⟨rfl, -⟩
  cases hOperation

theorem lastSet_concat_iff
    {scope : ScopeId} :
    LastSet (history ++ [operation]) scope name value ↔
      (LastSet history scope name value ∧
        ∀ other, operation ≠ .set scope name other) ∨
      operation = .set scope name value := by
  unfold LastSet
  rw [exists_split_concat_iff]
  simp only [List.mem_append, List.mem_singleton, not_or, forall_and,
    List.not_mem_nil, not_false_eq_true, implies_true, and_true,
    ← and_assoc, exists_and_right, eq_comm (a := operation), ne_eq]

/- Where a name was bound, there is a value that it was bound to last. -/
theorem isSet_iff
    {scope : ScopeId} :
    IsSet history scope name ↔
      ∃ value, LastSet history scope name value := by
  constructor
  · rintro ⟨value, hSet⟩
    induction history using List.reverseRecOn with
    | nil => cases hSet
    | append_singleton history operation ih =>
        by_cases hNow : ∃ other, operation = .set scope name other
        · rcases hNow with ⟨other, rfl⟩
          exact ⟨other, lastSet_concat_iff.mpr (.inr rfl)⟩
        · rw [not_exists] at hNow
          rcases List.mem_append.mp hSet with hBefore | hLast
          · rcases ih hBefore with ⟨other, hOther⟩
            exact ⟨other, lastSet_concat_iff.mpr (.inl ⟨hOther, hNow⟩)⟩
          · exact absurd (List.mem_singleton.mp hLast).symm (hNow value)
  · rintro ⟨value, before, after, rfl, -⟩
    exact ⟨value, by simp⟩

/- A name is seen where it was bound, or else from the scope around. -/
theorem sees_iff
    {scope : ScopeId} :
    Sees history scope name value ↔
      LastSet history scope name value ∨
        (¬ IsSet history scope name ∧
          ∃ outer,
            MadeInside history scope outer ∧
              Sees history outer name value) := by
  constructor
  · rintro ⟨passed, found, hPath, hPassed, hLast⟩
    cases hPath with
    | here => exact .inl hLast
    | outward hInside hRest =>
        rw [List.forall_mem_cons] at hPassed
        exact .inr ⟨hPassed.1, _, hInside, _, found, hRest, hPassed.2,
          hLast⟩
  · rintro (hLast | ⟨hNever, outer, hInside, hSees⟩)
    · exact ⟨[], scope, .here, by simp, hLast⟩
    · rcases hSees with ⟨passed, found, hPath, hPassed, hLast⟩
      exact ⟨scope :: passed, found, .outward hInside hPath,
        List.forall_mem_cons.mpr ⟨hNever, hPassed⟩, hLast⟩

end ScopeOperation

------------------------------------------------------------
-- The Heap and Its History
------------------------------------------------------------

open ScopeOperation

/- A name that has just been bound has this value. -/
theorem Scope.get?_bind_self
    (scope : Scope)
    (name : String)
    (value : Value) :
    (scope.bind (.name name) value).get? name = some value := by
  unfold bind get?
  induction scope.bindings with
  | nil => simp [putBinding, Label.same]
  | cons binding rest ih =>
      unfold putBinding
      split
      next hSame => simp [hSame]
      next hOther =>
        rw [List.find?_cons, eq_false_of_ne_true hOther]
        exact ih

/-
  A heap in which scopes are and bind what history says. Scopes
  that are made later have higher numbers.
-/
structure Heap.Reflects
    (history : List ScopeOperation)
    (heap : Heap) :
    Prop where
  size : heap.scopes.size = scopeCount history
  outer :
    ∀ inner outer,
      (heap.scope inner).outer = some outer ↔
        MadeInside history inner outer
  lower :
    ∀ inner outer, MadeInside history inner outer → outer < inner
  bound :
    ∀ scope name value,
      (heap.scope scope).get? name = some value ↔
        LastSet history scope name value

namespace Heap.Reflects

variable {history : List ScopeOperation}
variable {heap : Heap}

theorem initial :
    Heap.initial.Reflects [] where
  size := rfl
  outer inner outer := by
    simp [scope_initial, Scope.within, MadeInside]
  lower inner outer := by simp [MadeInside]
  bound scope name value := by
    simp [scope_initial, Scope.within, Scope.get?, LastSet]

theorem extend
    (hReflects : heap.Reflects history)
    {home : ScopeId}
    (hHome : home < scopeCount history) :
    (heap.newScope (some home) []).2.Reflects
      (history ++ [.extend home]) where
  size := by
    rw [size_newScope, hReflects.size, scopeCount_append]
    rfl
  outer inner outer := by
    rw [madeInside_concat_iff, ← hReflects.outer]
    by_cases hNew : inner = heap.scopes.size
    · subst hNew
      rw [scope_newScope_self, scope_of_size_le (Nat.le_refl _),
        hReflects.size]
      simp [Scope.bindAll, Scope.within]
    · rw [scope_newScope_of_ne hNew]
      simp [← hReflects.size, hNew]
  lower inner outer hInside := by
    rcases madeInside_concat_iff.mp hInside with hOld | ⟨hNew, rfl⟩
    · exact hReflects.lower inner outer hOld
    · cases hNew
      exact hHome
  bound scope name value := by
    have hSame :
        ((heap.newScope (some home) []).2.scope scope).get? name =
          (heap.scope scope).get? name := by
      by_cases hNew : scope = heap.scopes.size
      · rw [hNew, scope_newScope_self, scope_of_size_le (Nat.le_refl _)]
        rfl
      · rw [scope_newScope_of_ne hNew]
    rw [hSame, hReflects.bound, lastSet_concat_iff]
    simp

theorem set
    (hReflects : heap.Reflects history)
    {home : ScopeId}
    (hHome : home < scopeCount history)
    (name : String)
    (value : Value) :
    (heap.bind home (.name name) value).Reflects
      (history ++ [.set home name value]) where
  size := by
    rw [size_bind, hReflects.size, scopeCount_append]
    rfl
  outer inner outer := by
    rw [madeInside_concat_of_makesNoScope rfl, ← hReflects.outer]
    by_cases hSame : inner = home
    · subst hSame
      rw [scope_bind_self (hReflects.size ▸ hHome), Scope.bind]
    · rw [scope_bind_of_ne hSame]
  lower inner outer hInside :=
    hReflects.lower inner outer
      ((madeInside_concat_of_makesNoScope rfl).mp hInside)
  bound scope other found := by
    rw [lastSet_concat_iff, ← hReflects.bound]
    by_cases hScope : scope = home
    · subst hScope
      rw [scope_bind_self (hReflects.size ▸ hHome)]
      by_cases hName : other = name
      · subst hName
        rw [Scope.get?_bind_self]
        simp
      · have hLabel : Label.name name ≠ .name other :=
          fun hSame => hName (Label.name.inj hSame).symm
        rw [Scope.get?_bind_of_ne value hLabel]
        simp [Ne.symm hName]
    · rw [scope_bind_of_ne hScope]
      simp [Ne.symm hScope]

theorem get
    (hReflects : heap.Reflects history)
    (scope : ScopeId)
    (name : String) :
    heap.Reflects (history ++ [.get scope name]) where
  size := by
    rw [hReflects.size, scopeCount_append]
    rfl
  outer inner outer := by
    rw [madeInside_concat_of_makesNoScope rfl, ← hReflects.outer]
  lower inner outer hInside :=
    hReflects.lower inner outer
      ((madeInside_concat_of_makesNoScope rfl).mp hInside)
  bound found other value := by
    rw [lastSet_concat_iff, ← hReflects.bound]
    simp

/- Every operation with a scope that exists keeps the heap in step. -/
theorem next
    (hReflects : heap.Reflects history)
    {operation : ScopeOperation}
    (hScope : operation.scope < scopeCount history) :
    (operation.effect heap).Reflects (history ++ [operation]) := by
  cases operation with
  | extend => exact hReflects.extend hScope
  | set _ name value => exact hReflects.set hScope name value
  | get scope name => exact hReflects.get scope name

/- So the heap after any operations reflects them all. -/
theorem of_possible
    (hPossible : Possible history) :
    (heapAfter history).Reflects history := by
  induction hPossible with
  | none => exact .initial
  | next _ hScope ih =>
      rw [heapAfter_concat]
      exact ih.next hScope

------------------------------------------------------------
-- Lookup
------------------------------------------------------------

/- Where a name was never bound, a scope has no value for it. -/
theorem get?_eq_none_iff
    (hReflects : heap.Reflects history)
    {scope : ScopeId}
    {name : String} :
    (heap.scope scope).get? name = none ↔ ¬ IsSet history scope name := by
  rw [isSet_iff, not_exists, Option.eq_none_iff_forall_ne_some]
  exact forall_congr' fun value =>
    not_congr (hReflects.bound scope name value)

/-
  What is looked up is what history says. The scopes around a
  scope have lower numbers, so that a limit above its number is
  never reached.
-/
theorem lookupWithin_eq_some_iff
    (hReflects : heap.Reflects history)
    {limit : Nat}
    {scope : ScopeId}
    (hLimit : scope < limit)
    {name : String}
    {value : Value} :
    heap.lookupWithin limit scope name = some value ↔
      Sees history scope name value := by
  induction limit generalizing scope with
  | zero => exact absurd hLimit (Nat.not_lt_zero _)
  | succ limit ih =>
      rw [sees_iff, ← hReflects.bound, ← hReflects.get?_eq_none_iff]
      simp only [← hReflects.outer]
      unfold lookupWithin
      cases (heap.scope scope).get? name with
      | some found => simp
      | none =>
          cases hOuter : (heap.scope scope).outer with
          | none => simp
          | some outer =>
              have hInside := (hReflects.outer scope outer).mp hOuter
              have hLower := hReflects.lower scope outer hInside
              have hNear :=
                ih (Nat.lt_of_lt_of_le hLower (Nat.le_of_lt_succ hLimit))
              simpa using hNear

theorem lookup_eq_some_iff
    (hReflects : heap.Reflects history)
    {scope : ScopeId}
    {name : String}
    {value : Value} :
    heap.lookup scope name = some value ↔
      Sees history scope name value :=
  hReflects.lookupWithin_eq_some_iff (Nat.lt_succ_self scope)

end Heap.Reflects

namespace ScopeOperation

variable {history : List ScopeOperation}
variable {scope : ScopeId}
variable {name : String}

/- If a name was bound somewhere on the way, it has a value. -/
theorem Path.exists_sees
    {passed : List ScopeId}
    {found : ScopeId}
    (hPath : Path history scope passed found)
    (hSet : IsSet history found name) :
    ∃ value, Sees history scope name value := by
  induction hPath with
  | here => exact (isSet_iff.mp hSet).imp fun _ => sees_iff.mpr ∘ .inl
  | @outward inner outer _ _ hInside _ ih =>
      by_cases hInner : IsSet history inner name
      · exact (isSet_iff.mp hInner).imp fun _ => sees_iff.mpr ∘ .inl
      · rcases ih hSet with ⟨value, hSees⟩
        exact ⟨value, sees_iff.mpr (.inr ⟨hInner, outer, hInside, hSees⟩)⟩

theorem not_sees_iff :
    (∀ value, ¬ Sees history scope name value) ↔
      ∀ passed found, Path history scope passed found →
        ¬ IsSet history found name := by
  constructor
  · intro hNever passed found hPath hSet
    rcases hPath.exists_sees hSet with ⟨value, hSees⟩
    exact hNever value hSees
  · rintro hNever value ⟨passed, found, hPath, -, hLast⟩
    exact hNever passed found hPath (isSet_iff.mpr ⟨value, hLast⟩)

------------------------------------------------------------
-- One Binding More or Less
------------------------------------------------------------

/- From a way that passes a scope, the part up to that. -/
theorem Path.exists_upTo
    {passed : List ScopeId}
    {found id : ScopeId}
    (hPath : Path history scope passed found)
    (hId : id ∈ passed) :
    ∃ front,
      Path history scope front id ∧
        ∀ between ∈ front, between ∈ passed ∧ between ≠ id := by
  induction hPath with
  | here => cases hId
  | @outward inner outer _ passed hInside _ ih =>
      by_cases hInner : inner = id
      · exact ⟨[], hInner ▸ .here, by simp⟩
      · have hRest := (List.mem_cons.mp hId).resolve_left (Ne.symm hInner)
        rcases ih hRest with ⟨front, hFront, hBetween⟩
        refine ⟨inner :: front, .outward hInside hFront, ?_⟩
        rw [List.forall_mem_cons]
        exact ⟨⟨List.mem_cons_self, hInner⟩, fun between hMember =>
          ⟨List.mem_cons_of_mem _ (hBetween between hMember).1,
            (hBetween between hMember).2⟩⟩

section

variable (before after : List ScopeOperation)
variable (id : ScopeId)
variable (name : String)
variable (value : Value)

theorem scopeCount_set :
    scopeCount (before ++ .set id name value :: after) =
      scopeCount (before ++ after) := by
  rw [scopeCount_append, scopeCount_append,
    List.countP_cons_of_neg Bool.false_ne_true]

variable {before after id name value}

theorem madeInside_set_iff
    {inner outer : ScopeId} :
    MadeInside (before ++ .set id name value :: after) inner outer ↔
      MadeInside (before ++ after) inner outer := by
  induction after using List.reverseRecOn with
  | nil => rw [madeInside_concat_of_makesNoScope rfl, List.append_nil]
  | append_singleton after operation ih =>
      rw [← List.cons_append, ← List.append_assoc, ← List.append_assoc,
        madeInside_concat_iff, madeInside_concat_iff, ih,
        scopeCount_set]

theorem path_set_iff
    {passed : List ScopeId}
    {found : ScopeId} :
    Path (before ++ .set id name value :: after) scope passed found ↔
      Path (before ++ after) scope passed found := by
  constructor
  · intro hPath
    induction hPath with
    | here => exact .here
    | outward hInside _ ih =>
        exact .outward (madeInside_set_iff.mp hInside) ih
  · intro hPath
    induction hPath with
    | here => exact .here
    | outward hInside _ ih =>
        exact .outward (madeInside_set_iff.mpr hInside) ih

theorem Possible.of_set
    (hPossible : Possible (before ++ .set id name value :: after)) :
    Possible (before ++ after) := by
  induction after using List.reverseRecOn with
  | nil =>
      rw [List.append_nil]
      exact (possible_concat_iff.mp hPossible).1
  | append_singleton after operation ih =>
      rw [← List.cons_append, ← List.append_assoc,
        possible_concat_iff, scopeCount_set] at hPossible
      rw [← List.append_assoc, possible_concat_iff]
      exact ⟨ih hPossible.1, hPossible.2⟩

theorem isSet_set_iff
    {other : String} :
    IsSet (before ++ .set id name value :: after) scope other ↔
      IsSet (before ++ after) scope other ∨
        (scope = id ∧ other = name) := by
  unfold IsSet
  constructor
  · rintro ⟨found, hFound⟩
    rw [List.mem_append, List.mem_cons] at hFound
    rcases hFound with hBefore | hHere | hAfter
    · exact .inl ⟨found, List.mem_append_left _ hBefore⟩
    · cases hHere
      exact .inr ⟨rfl, rfl⟩
    · exact .inl ⟨found, List.mem_append_right _ hAfter⟩
  · rintro (⟨found, hFound⟩ | ⟨rfl, rfl⟩)
    · refine ⟨found, ?_⟩
      rw [List.mem_append] at hFound ⊢
      exact hFound.imp_right (List.mem_cons_of_mem _)
    · exact ⟨value, List.mem_append_right _ List.mem_cons_self⟩

/- A binding matters to no other name, and to no other scope. -/
theorem lastSet_set_iff
    {other : String}
    {found : Value}
    (hOther : ¬ (scope = id ∧ other = name)) :
    LastSet (before ++ .set id name value :: after) scope other found ↔
      LastSet (before ++ after) scope other found := by
  have hNot :
      ∀ found, ScopeOperation.set id name value ≠
        .set scope other found := by
    rintro found ⟨⟩
    exact hOther ⟨rfl, rfl⟩
  induction after using List.reverseRecOn with
  | nil =>
      rw [lastSet_concat_iff, List.append_nil]
      simp [hNot]
  | append_singleton after operation ih =>
      rw [← List.cons_append, ← List.append_assoc, ← List.append_assoc,
        lastSet_concat_iff, lastSet_concat_iff]
      exact or_congr_left (and_congr_left' ih)

/-
  A binding changes what is seen only for its own name, and only
  from scopes from which the way outward leads to it past no
  other binding of the name.
-/
theorem sees_set_iff
    {other : String}
    {found : Value}
    (hFar :
      ¬ (other = name ∧
        ∃ passed,
          Path (before ++ .set id name value :: after) scope passed id ∧
            ∀ between ∈ passed,
              ¬ IsSet (before ++ .set id name value :: after) between
                name)) :
    Sees (before ++ .set id name value :: after) scope other found ↔
      Sees (before ++ after) scope other found := by
  constructor
  · rintro ⟨passed, last, hPath, hPassed, hLast⟩
    have hOther : ¬ (last = id ∧ other = name) := by
      rintro ⟨rfl, rfl⟩
      exact hFar ⟨rfl, passed, hPath, hPassed⟩
    exact ⟨passed, last, path_set_iff.mp hPath,
      fun between hBetween hSet =>
        hPassed between hBetween (isSet_set_iff.mpr (.inl hSet)),
      (lastSet_set_iff hOther).mp hLast⟩
  · rintro ⟨passed, last, hPath, hPassed, hLast⟩
    have hWay :
        Path (before ++ .set id name value :: after) scope passed last :=
      path_set_iff.mpr hPath
    have hStill :
        ∀ between ∈ passed,
          ¬ IsSet (before ++ .set id name value :: after) between
            other := by
      intro between hBetween hSet
      rcases isSet_set_iff.mp hSet with hBefore | ⟨rfl, rfl⟩
      · exact hPassed between hBetween hBefore
      · rcases hWay.exists_upTo hBetween with ⟨front, hFront, hNearer⟩
        refine hFar ⟨rfl, front, hFront, fun nearer hMember hNearerSet => ?_⟩
        rcases isSet_set_iff.mp hNearerSet with hBefore | ⟨hSame, -⟩
        · exact hPassed nearer (hNearer nearer hMember).1 hBefore
        · exact (hNearer nearer hMember).2 hSame
    have hOther : ¬ (last = id ∧ other = name) := by
      rintro ⟨rfl, rfl⟩
      exact hFar ⟨rfl, passed, hWay, hStill⟩
    exact ⟨passed, last, hWay, hStill, (lastSet_set_iff hOther).mpr hLast⟩

end

end ScopeOperation

/-
  Scopes follow their whole history. After any operations with
  scopes that exist, a name that is looked up in a scope has the
  value that it was bound to last in the nearest scope, from this
  one outward, in which it was ever bound; it has none if it was
  bound in none of them. One binding more changes what is found
  only for the name that is bound, and only in a scope from which
  the way outward leads to the scope of the binding, without
  passing a scope in which the name is bound.
-/
theorem lookup_follows_history :
    (∀ history, Possible history →
      ∀ scope name,
        (∀ value,
          (heapAfter history).lookup scope name = some value ↔
            Sees history scope name value) ∧
          ((heapAfter history).lookup scope name = none ↔
            ∀ passed found, Path history scope passed found →
              ¬ IsSet history found name)) ∧
      ∀ before after id name value scope other,
        Possible (before ++ .set id name value :: after) →
        (heapAfter (before ++ .set id name value :: after)).lookup scope
            other ≠
          (heapAfter (before ++ after)).lookup scope other →
          other = name ∧
            ∃ passed,
              Path (before ++ .set id name value :: after) scope passed
                  id ∧
                ∀ between ∈ passed,
                  ¬ IsSet (before ++ .set id name value :: after) between
                    name := by
  constructor
  · intro history hPossible scope name
    have hReflects := Heap.Reflects.of_possible hPossible
    refine ⟨fun value => hReflects.lookup_eq_some_iff, ?_⟩
    rw [Option.eq_none_iff_forall_ne_some, ← not_sees_iff]
    exact forall_congr' fun value =>
      not_congr hReflects.lookup_eq_some_iff
  · intro before after id name value scope other hPossible hChanged
    have hWith := Heap.Reflects.of_possible hPossible
    have hWithout := Heap.Reflects.of_possible hPossible.of_set
    by_contra hFar
    refine hChanged (Option.ext fun found => ?_)
    rw [hWith.lookup_eq_some_iff, hWithout.lookup_eq_some_iff,
      sees_set_iff hFar]

/-
  A name is bound in the outermost scope again after two scopes
  have been made inside. It is seen in the first of them, and not
  in the second, where the name has been bound too.
-/
theorem lookup_follows_history_shadowed :
    let before : List ScopeOperation :=
      [.extend 0, .extend 1, .set 2 "a" (.integer 2)]
    let again : ScopeOperation := .set 0 "a" (.integer 3)
    let history := before ++ again :: [.get 1 "a"]
    Possible history ∧
      Sees history 1 "a" (.integer 3) ∧
      Sees history 2 "a" (.integer 2) ∧
      (∀ value, ¬ Sees history 2 "b" value) ∧
      ∃ passed,
        Path history 1 passed 0 ∧
          ∀ between ∈ passed, ¬ IsSet history between "a" := by
  intro before again history
  have hPossible : Possible history := by
    have hOuter := @Possible.next _ (.extend 0) .none (by decide)
    have hInner := @Possible.next _ (.extend 1) hOuter (by decide)
    have hBefore :=
      @Possible.next _ (.set 2 "a" (.integer 2)) hInner (by decide)
    have hAgain := @Possible.next _ again hBefore (by decide)
    exact @Possible.next _ (.get 1 "a") hAgain (by decide)
  rcases lookup_follows_history with ⟨hLookup, hChange⟩
  refine ⟨hPossible, ?_, ?_, ?_, ?_⟩
  · exact ((hLookup history hPossible 1 "a").1 (.integer 3)).mp rfl
  · exact ((hLookup history hPossible 2 "a").1 (.integer 2)).mp rfl
  · intro value hSees
    have hNone : (heapAfter history).lookup 2 "b" = none := rfl
    rw [((hLookup history hPossible 2 "b").1 value).mpr hSees] at hNone
    cases hNone
  · refine (hChange before [.get 1 "a"] 0 "a" (.integer 3) 1 "a"
      hPossible ?_).2
    have hWithout :
        (heapAfter (before ++ [.get 1 "a"])).lookup 1 "a" = none := rfl
    rw [hWithout,
      ((hLookup history hPossible 1 "a").1 (.integer 3)).mpr]
    · exact Option.some_ne_none _
    · exact ((hLookup history hPossible 1 "a").1 (.integer 3)).mp rfl

end MonkeyLang
