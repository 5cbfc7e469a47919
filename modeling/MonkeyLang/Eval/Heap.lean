import MonkeyLang.Eval.Label
import MonkeyLang.Eval.Value

/-
  This file defines scopes and the heap that holds them. A
  scope binds labels to values and may have an outer scope, in
  which names are looked up that it does not bind.

  Key definitions include:
    * `Scope`
    * `Heap`
    * `Heap.lookup`      (the value of a name, seen from a scope)
    * `Heap.bind`        (bind a label in a scope)
    * `Heap.newScope`    (make a scope inside another)
-/

------------------------------------------------------------
-- Scopes
------------------------------------------------------------

namespace MonkeyLang

/- A scope: the labels it binds, and the scope around it. -/
structure Scope where
  bindings : List (Label × Value)
  outer : Option ScopeId

namespace Scope

/- A scope that binds nothing. -/
def within
    (outer : Option ScopeId) :
    Scope :=
  ⟨[], outer⟩

/- The value of a name that the scope itself binds. -/
def get?
    (scope : Scope)
    (name : String) :
    Option Value :=
  (scope.bindings.find? fun binding =>
    binding.1.same (.name name)).map (·.2)

/-
  Put a value under a label that is bound already, which stays
  as it is, or add both behind all others.
-/
def putBinding
    (label : Label)
    (value : Value)
    (bindings : List (Label × Value)) :
    List (Label × Value) :=
  match bindings with
  | [] => [(label, value)]
  | binding :: rest =>
      if binding.1.same label then
        (binding.1, value) :: rest
      else
        binding :: putBinding label value rest

/- Bind a label, whether it is bound already or not. -/
def bind
    (scope : Scope)
    (label : Label)
    (value : Value) :
    Scope :=
  { scope with bindings := putBinding label value scope.bindings }

def bindAll
    (scope : Scope)
    (bindings : List (Label × Value)) :
    Scope :=
  bindings.foldl (fun scope binding => scope.bind binding.1 binding.2) scope

def labels
    (scope : Scope) :
    List Label :=
  scope.bindings.map (·.1)

def names
    (scope : Scope) :
    List String :=
  scope.labels.filterMap Label.name?

def sortedNames
    (scope : Scope) :
    List String :=
  scope.names.mergeSort

/- How a scope is shown: the names it binds, and whether it has an outer scope. -/
def text
    (scope : Scope) :
    String :=
  "Environment([" ++
    Text.join ", " (scope.sortedNames.map Text.quoted) ++
    "], outer=" ++ (if scope.outer.isSome then "True" else "False") ++ ")"

end Scope

------------------------------------------------------------
-- Heaps
------------------------------------------------------------

/-
  All scopes, by their numbers, and how many functions have
  been made. A scope is made after its outer scope, so that its
  number is higher.
-/
structure Heap where
  scopes : Array Scope
  functions : Nat

namespace Heap

def globalScope : ScopeId := 0

/- The heap in which only the global scope exists, and binds nothing. -/
def initial : Heap where
  scopes := #[Scope.within none]
  functions := 0

def scope
    (heap : Heap)
    (id : ScopeId) :
    Scope :=
  heap.scopes[id]?.getD (Scope.within none)

/- Look a name up in a scope and in at most a number of scopes around it. -/
def lookupWithin
    (heap : Heap)
    (limit : Nat)
    (id : ScopeId)
    (name : String) :
    Option Value :=
  match limit with
  | 0 => none
  | limit + 1 =>
      match (heap.scope id).get? name with
      | some value => some value
      | none =>
          match (heap.scope id).outer with
          | some outer => heap.lookupWithin limit outer name
          | none => none

/-
  The value of a name, seen from a scope. The numbers of the
  scopes around it are lower, so there are no more of them than
  its number.
-/
def lookup
    (heap : Heap)
    (id : ScopeId)
    (name : String) :
    Option Value :=
  heap.lookupWithin (id + 1) id name

/- Bind a label in a scope. -/
def bind
    (heap : Heap)
    (id : ScopeId)
    (label : Label)
    (value : Value) :
    Heap :=
  { heap with
    scopes := heap.scopes.modify id fun scope => scope.bind label value }

def newScope
    (heap : Heap)
    (outer : Option ScopeId)
    (bindings : List (Label × Value)) :
    ScopeId × Heap :=
  (heap.scopes.size,
    { heap with
      scopes := heap.scopes.push ((Scope.within outer).bindAll bindings) })

def newFunction
    (heap : Heap) :
    Nat × Heap :=
  (heap.functions, { heap with functions := heap.functions + 1 })

end Heap

end MonkeyLang
