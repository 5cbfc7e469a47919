import MonkeyLang.Proofs.Evaluation.Coupling
import MonkeyLang.Proofs.Evaluation.Frame
import MonkeyLang.Proofs.Evaluation.Lockstep

/-
  Names that are not looked up do not matter. Two heaps may
  differ in what their scopes bind to a name. If neither a tree
  nor any function in reach looks that name up, then its
  evaluation comes to the same in both, and they differ in
  nothing else afterwards.

  Main declarations:
    * `Node.uses`            (the names that a tree looks up)
    * `Value.uses`           (the names that a function looks up)
    * `Scope.SameApartFrom`, `Heap.SameApartFrom`
    * `Coupling.apartFrom`
    * `unused_names_do_not_matter`
-/

------------------------------------------------------------
-- Names in Use
------------------------------------------------------------

namespace MonkeyLang

namespace Node

mutual

/-
  The names that a tree looks up when it is evaluated, those in
  functions that are made in it included. The name of a let
  statement and the parameters of a function are only bound.
-/
def uses
    (node : Node) :
    List String :=
  match node with
  | .identifier id => [id.name]
  | .unary _ _ right => uses right
  | .binary _ left _ right => uses left ++ uses right
  | .ifThen _ condition consequence =>
      uses condition ++ uses consequence
  | .ifElse _ condition consequence alternative =>
      uses condition ++ uses consequence ++ uses alternative
  | .function _ _ body => uses body
  | .call _ callee arguments => uses callee ++ usesOfAll arguments
  | .letStatement _ _ value => uses value
  | .returnStatement _ value => uses value
  | .expressionStatement _ expression => uses expression
  | .block _ statements => usesOfAll statements
  | .program statements => usesOfAll statements
  | .integer _ _ => []
  | .boolean _ _ => []
  | .string _ _ => []
  | .unknown _ => []

/- The names that some trees look up. -/
def usesOfAll
    (nodes : List Node) :
    List String :=
  match nodes with
  | [] => []
  | node :: rest => uses node ++ usesOfAll rest

end

variable {name : String}

theorem not_mem_usesOfAll_iff
    {nodes : List Node} :
    name ∉ usesOfAll nodes ↔
      nodes.Forall fun node => name ∉ node.uses := by
  induction nodes with
  | nil => simp [usesOfAll]
  | cons node rest ih =>
      rw [usesOfAll, List.mem_append, not_or, ih, List.forall_cons]

/- What a tree does not look up, none of its parts does. -/
theorem parts_not_mem_uses
    {tree : Node}
    (hTree : name ∉ tree.uses) :
    tree.parts.Forall fun part => name ∉ part.uses := by
  cases tree with
  | call | block | program =>
      simpa [parts, uses, not_mem_usesOfAll_iff] using hTree
  | identifier | integer | boolean | string | unknown => trivial
  | _ => simpa [parts, uses, and_assoc] using hTree

end Node

/- The names that the function in a value looks up. -/
def Value.uses
    (value : Value) :
    List String :=
  match value with
  | .returned inner => uses inner
  | .function _ _ body _ => body.uses
  | _ => []

------------------------------------------------------------
-- Bindings of Other Names
------------------------------------------------------------

namespace Scope

/- What a scope binds, apart from one name. -/
def others
    (name : String)
    (scope : Scope) :
    List (Label × Value) :=
  scope.bindings.filter fun binding => !binding.1.same (.name name)

variable {name : String}
variable {first second : Scope}

/- The value of a name is among the bindings of all names but another. -/
theorem get?_eq_of_others
    {other : String}
    (hOthers : first.others name = second.others name)
    (hOther : other ≠ name) :
    first.get? other = second.get? other := by
  have hKept :
      ∀ scope : Scope,
        (scope.others name).find? (fun binding =>
            binding.1.same (.name other)) =
          scope.bindings.find? fun binding =>
            binding.1.same (.name other) := by
    intro scope
    unfold others
    rw [List.find?_filter]
    congr 1
    funext binding
    by_cases hSame : binding.1.same (.name other)
    · have hDiffers : ¬binding.1.same (.name name) := by
        rw [Label.same_name_iff] at hSame ⊢
        rw [hSame]
        simpa using hOther
      simp [hSame, hDiffers]
    · simp [hSame]
  unfold get?
  rw [← hKept first, ← hKept second, hOthers]

/- Binding the name itself changes none of the others. -/
theorem others_bind_name
    (scope : Scope)
    (value : Value) :
    (scope.bind (.name name) value).others name = scope.others name := by
  unfold others bind
  induction scope.bindings with
  | nil => simp [putBinding, Label.same]
  | cons binding rest ih =>
      unfold putBinding
      by_cases hSame : binding.1.same (.name name)
      · simp [hSame]
      · simpa [hSame, List.filter_cons] using ih

/- Another label is bound among the others. -/
theorem others_bind_of_ne
    {label : Label}
    (hLabel : label ≠ .name name)
    (scope : Scope)
    (value : Value) :
    (scope.bind label value).others name =
      putBinding label value (scope.others name) := by
  unfold others bind
  induction scope.bindings with
  | nil => simp [putBinding, mt Label.same_name_iff.mp hLabel]
  | cons binding rest ih =>
      by_cases hName : binding.1 = .name name
      · have hDiffers : ¬binding.1.same label := by
          rw [hName, Label.name_same_iff]
          exact hLabel
        have hSame := Label.same_name_iff.mpr hName
        simpa [putBinding, hDiffers, hSame] using ih
      · have hKept := mt Label.same_name_iff.mp hName
        by_cases hSame : binding.1.same label
        · simp [putBinding, hSame, hKept]
        · simpa [putBinding, hSame, hKept] using ih

/- Scopes with the same bindings and scopes around them, apart from one name. -/
structure SameApartFrom
    (name : String)
    (first second : Scope) :
    Prop where
  outer : first.outer = second.outer
  others : first.others name = second.others name

namespace SameApartFrom

theorem refl
    (scope : Scope) :
    scope.SameApartFrom name scope :=
  ⟨rfl, rfl⟩

theorem of_bind_name
    (scope : Scope)
    (value : Value) :
    scope.SameApartFrom name (scope.bind (.name name) value) :=
  ⟨rfl, (others_bind_name scope value).symm⟩

theorem bind
    (hSame : first.SameApartFrom name second)
    (label : Label)
    (value : Value) :
    (first.bind label value).SameApartFrom name
      (second.bind label value) := by
  refine ⟨hSame.outer, ?_⟩
  by_cases hLabel : label = .name name
  · rw [hLabel, others_bind_name, others_bind_name, hSame.others]
  · rw [others_bind_of_ne hLabel, others_bind_of_ne hLabel,
      hSame.others]

end SameApartFrom

end Scope

------------------------------------------------------------
-- Heaps That Differ in One Name
------------------------------------------------------------

namespace Heap

/-
  Heaps with the same scopes, apart from what these bind to one
  name.
-/
structure SameApartFrom
    (name : String)
    (first second : Heap) :
    Prop where
  functions : first.functions = second.functions
  size : first.scopes.size = second.scopes.size
  scope : ∀ id, (first.scope id).SameApartFrom name (second.scope id)

namespace SameApartFrom

variable {name : String}
variable {first second : Heap}

/- To bind the name in any scope makes no other difference. -/
theorem of_bind_name
    (heap : Heap)
    (id : ScopeId)
    (value : Value) :
    heap.SameApartFrom name (heap.bind id (.name name) value) where
  functions := rfl
  size := (size_bind heap id _ value).symm
  scope other := by
    by_cases hSize : id < heap.scopes.size
    · by_cases hOther : other = id
      · rw [hOther, scope_bind_self hSize]
        exact .of_bind_name _ value
      · rw [scope_bind_of_ne hOther]
        exact .refl _
    · rw [bind_of_size_le (Nat.le_of_not_lt hSize)]
      exact .refl _

theorem get?_eq
    (hSame : first.SameApartFrom name second)
    {other : String}
    (hOther : other ≠ name)
    (id : ScopeId) :
    (first.scope id).get? other = (second.scope id).get? other :=
  Scope.get?_eq_of_others (hSame.scope id).others hOther

theorem lookup_eq
    (hSame : first.SameApartFrom name second)
    {other : String}
    (hOther : other ≠ name)
    (id : ScopeId) :
    first.lookup id other = second.lookup id other := by
  have hWithin :
      ∀ limit id,
        first.lookupWithin limit id other =
          second.lookupWithin limit id other := by
    intro limit
    induction limit with
    | zero => exact fun _ => rfl
    | succ limit ih =>
        intro id
        unfold lookupWithin
        rw [hSame.get?_eq hOther, (hSame.scope id).outer]
        cases (second.scope id).get? other with
        | some found => rfl
        | none =>
            cases (second.scope id).outer with
            | some outer => exact ih outer
            | none => rfl
  exact hWithin (id + 1) id

theorem bind
    (hSame : first.SameApartFrom name second)
    (id : ScopeId)
    (label : Label)
    (value : Value) :
    (first.bind id label value).SameApartFrom name
      (second.bind id label value) where
  functions := hSame.functions
  size := by simpa using hSame.size
  scope other := by
    by_cases hSize : id < first.scopes.size
    · by_cases hOther : other = id
      · rw [hOther, scope_bind_self hSize,
          scope_bind_self (hSame.size ▸ hSize)]
        exact (hSame.scope id).bind label value
      · rw [scope_bind_of_ne hOther, scope_bind_of_ne hOther]
        exact hSame.scope other
    · have hBeyond := Nat.le_of_not_lt hSize
      rw [bind_of_size_le hBeyond, bind_of_size_le (hSame.size ▸ hBeyond)]
      exact hSame.scope other

theorem newScope
    (hSame : first.SameApartFrom name second)
    (outer : ScopeId)
    (bindings : List (Label × Value)) :
    (first.newScope (some outer) bindings).2.SameApartFrom name
      (second.newScope (some outer) bindings).2 where
  functions := hSame.functions
  size := by simpa using hSame.size
  scope id := by
    by_cases hNew : id = first.scopes.size
    · rw [hNew, scope_newScope_self, hSame.size, scope_newScope_self]
      exact .refl _
    · rw [scope_newScope_of_ne hNew,
        scope_newScope_of_ne (hSame.size ▸ hNew)]
      exact hSame.scope id

theorem newFunction
    (hSame : first.SameApartFrom name second) :
    first.newFunction.2.SameApartFrom name second.newFunction.2 :=
  ⟨congrArg Nat.succ hSame.functions, hSame.size, hSame.scope⟩

end SameApartFrom

end Heap

------------------------------------------------------------
-- The Coupling
------------------------------------------------------------

/-
  Heaps that differ in one name, where no function in some
  scopes looks it up. These scopes stay the same, since scopes
  that do not exist yet belong to them.
-/
def Coupling.apartFrom
    (name : String)
    (scopes : ScopeId → Prop) :
    Coupling where
  Stage := Unit
  later _ _ := True
  heaps _ first second :=
    first.SameApartFrom name second ∧
      first.Holds scopes fun value => name ∉ value.uses
  scope _ id := scopes id
  value _ found := found.Fits scopes fun value => name ∉ value.uses
  node tree := name ∉ tree.uses
  later_refl _ := trivial
  later_trans _ _ := trivial
  scope_later hScope _ := hScope
  value_later hValue _ := hValue
  part := Node.parts_not_mem_uses
  scalar {_ found} hScalar := by
    cases found with
    | returned | function => cases hScalar
    | _ => exact .of_home?_eq_none (List.not_mem_nil) rfl
  host _ := .of_home?_eq_none (List.not_mem_nil) rfl
  returned := Iff.rfl
  body hFunction := ⟨hFunction.1, hFunction.2 _ rfl⟩
  lookup {_ _ _ id found} hHeaps hScope hNode := by
    have hOther : found.name ≠ name := by
      simpa [Node.uses, eq_comm] using hNode
    exact ⟨hHeaps.1.lookup_eq hOther id,
      fun _ hFound => hHeaps.2.lookup hScope hFound⟩
  bind hHeaps _ hValue label :=
    ⟨hHeaps.1.bind _ label _, Heap.holds_bind hHeaps.2 hValue⟩
  newScope {_ first _ outer bindings} hHeaps hOuter hBindings :=
    ⟨hHeaps.1.size, (), trivial, hHeaps.2.ahead _ (Nat.le_refl _),
      hHeaps.1.newScope outer bindings,
      Heap.holds_newScope hHeaps.2 hOuter hBindings⟩
  newFunction hHeaps hHome hNode := by
    refine ⟨hHeaps.1.functions, (), trivial, ⟨hNode, ?_⟩,
      hHeaps.1.newFunction, Heap.holds_newFunction hHeaps.2⟩
    rintro _ ⟨⟩
    exact hHome

------------------------------------------------------------
-- Evaluations
------------------------------------------------------------

/-
  A tree that does not look a name up, evaluated in heaps that
  differ in that name: both evaluations halt for the same cause,
  or both end with the same value.
-/
theorem Heap.SameApartFrom.evaluate_same
    {name : String}
    {first second : Heap}
    (hSame : first.SameApartFrom name second)
    {scope : ScopeId}
    {node : Node}
    (hNode : name ∉ node.uses)
    (hReach : first.AllReachable scope fun value => name ∉ value.uses)
    (depth : Nat) :
    (∃ cause,
      evaluate depth scope node first = .error cause ∧
        evaluate depth scope node second = .error cause) ∨
      ∃ value after after',
        evaluate depth scope node first = .ok (value, after) ∧
          evaluate depth scope node second = .ok (value, after') ∧
          after.SameApartFrom name after' := by
  have hHeaps :
      (Coupling.apartFrom name (first.Known scope)).heaps () first
        second :=
    ⟨hSame, Heap.holds_known hReach⟩
  have hScope : first.Known scope scope := .inl .origin
  have hOutcomes :=
    Coupling.evaluate_coupled _ hHeaps hScope node hNode depth
  revert hOutcomes
  generalize evaluate depth scope node first = outcome
  generalize evaluate depth scope node second = outcome'
  rintro (cause | ⟨-, hAfter, -⟩)
  · exact .inl ⟨cause, rfl, rfl⟩
  · exact .inr ⟨_, _, _, rfl, rfl, hAfter.1⟩

/-
  Names that are not looked up do not matter. In any scopes of a
  heap, bindings of a name may be added, changed and removed: if
  neither a tree nor any function in reach looks the name up,
  then its evaluation halts for the same cause or ends with the
  same value, in heaps that have the same scopes again, apart
  from that name.

  It does not matter either how scopes and functions are
  numbered, so that values may be added which refer to others.
  Compared to an evaluation in another heap, of whose scopes
  these were copies before the change, the value has the same
  type and text and is the same error, if it is one. So have the
  values of all other names, in the scopes that were copies and
  in those that both evaluations have made.
-/
theorem unused_names_do_not_matter
    (name : String)
    (node : Node)
    (hNode : name ∉ node.uses) :
    (∀ scope first second,
      first.SameApartFrom name second →
      (first.AllReachable scope fun value => name ∉ value.uses) →
      ∀ depth,
        (∃ cause,
          evaluate depth scope node first = .error cause ∧
            evaluate depth scope node second = .error cause) ∨
          ∃ value after after',
            evaluate depth scope node first = .ok (value, after) ∧
              evaluate depth scope node second = .ok (value, after') ∧
              after.SameApartFrom name after') ∧
      ∀ (pairing : Pairing) (heap copy changed : Heap),
        pairing.Copies heap copy →
        (∀ mark mark', pairing.marks mark mark' →
          mark.literal = mark'.literal) →
        copy.SameApartFrom name changed →
        ∀ scope scope', pairing.scopes scope scope' →
        (copy.AllReachable scope' fun value => name ∉ value.uses) →
        ∀ depth,
          (∃ cause,
            evaluate depth scope node heap = .error cause ∧
              evaluate depth scope' node changed = .error cause) ∨
            ∃ value value' after after',
              evaluate depth scope node heap = .ok (value, after) ∧
                evaluate depth scope' node changed =
                  .ok (value', after') ∧
                value.ShownAlike value' ∧
                (∀ message,
                  value = .error message ↔ value' = .error message) ∧
                ∀ id id',
                  pairing.scopes id id' ∨
                      Pairing.Ahead heap.scopes.size copy.scopes.size
                        id id' →
                  id < after.scopes.size →
                  ∀ other, other ≠ name →
                    Option.Rel Value.ShownAlike
                      ((after.scope id).get? other)
                      ((after'.scope id').get? other) := by
  constructor
  · intro scope first second hSame hReach depth
    exact hSame.evaluate_same hNode hReach depth
  · intro pairing heap copy changed hCopies hMarks hSame scope scope'
      hScope hReach depth
    have hAlike : Node.Alike SameLiteral node node := by
      apply Node.alike_refl
      exact fun _ => rfl
    have hLockstep :=
      hCopies.evaluate_lockstep hMarks hScope hAlike depth
    rcases hSame.evaluate_same hNode hReach depth with
      ⟨cause, hHalted, hChanged⟩ |
      ⟨value', copied, after', hEnded, hChanged, hAfter⟩
    · rw [hHalted] at hLockstep
      rcases hLockstep.halted_or_ended with
        ⟨_, hFirst, hSecond⟩ | ⟨_, _, _, _, -, hSecond, -⟩
      · cases hSecond
        exact .inl ⟨cause, hFirst, hChanged⟩
      · cases hSecond
    · rw [hEnded] at hLockstep
      rcases hLockstep.halted_or_ended with
        ⟨_, -, hSecond⟩ |
        ⟨value, _, after, _, hFirst, hSecond, -, hMirrors, hValue⟩
      · cases hSecond
      · cases hSecond
        right
        refine ⟨value, value', after, after', hFirst, hChanged,
          hValue.shownAlike rfl, hValue.error_iff, ?_⟩
        intro id id' hPaired hSize other hOther
        have hScopes :=
          (hMirrors.scope ⟨hPaired, hSize⟩).matches_of fun hBound =>
            hBound.shownAlike rfl
        rw [← hAfter.get?_eq hOther]
        exact hScopes.value other

/-
  A function is added that looks the name up itself, in a scope
  of its own. Therefore the function that the program makes has
  another number than without it, and the scope of the call too.
-/
theorem unused_names_do_not_matter_of_added_function :
    let mark : Mark := ⟨"", 1, 1⟩
    let name (text : String) : Node := .identifier ⟨mark, text⟩
    let body (text : String) : Node :=
      .block mark [.expressionStatement mark (name text)]
    let program : Node :=
      .program [
        .letStatement mark (name "y")
          (.function mark [name "z"] (body "z")),
        .expressionStatement mark
          (.call mark (name "y") [.integer mark 1])]
    let copy : Heap :=
      (Heap.initial.newScope (some 0) [(.name "w", .integer 2)]).2
    let added : Value := .function 0 [] (body "x") 1
    let changed : Heap := copy.newFunction.2.bind 0 (.name "x") added
    "x" ∉ program.uses ∧
      ∃ after copied after',
        evaluate 1 0 program Heap.initial =
            .ok (.integer 1, after) ∧
          evaluate 1 0 program copy.newFunction.2 =
            .ok (.integer 1, copied) ∧
          evaluate 1 0 program changed = .ok (.integer 1, after') ∧
          (after'.scope 0).get? "x" = some added ∧
          copied.SameApartFrom "x" after' ∧
          ∀ other, other ≠ "x" →
            Option.Rel Value.ShownAlike ((after.scope 0).get? other)
                ((after'.scope 0).get? other) ∧
              Option.Rel Value.ShownAlike ((after.scope 1).get? other)
                ((after'.scope 2).get? other) := by
  intro mark name body program copy added changed
  let pairing := Pairing.ofGlobalScope Eq
  have hUses : "x" ∉ program.uses := by decide
  have hCopies : pairing.Copies Heap.initial copy.newFunction.2 := by
    refine ⟨nofun, ?_, ?_⟩
    · rintro _ _ ⟨rfl, rfl⟩
      decide
    · rintro _ _ ⟨rfl, rfl⟩
      exact ⟨.nil, .none⟩
  have hReach :
      copy.newFunction.2.AllReachable 0
        fun value => "x" ∉ value.uses := by
    intro id _ binding hBinding
    rcases id with _ | _ | id
    · cases hBinding
    · rw [List.mem_singleton.mp hBinding]
      exact List.not_mem_nil
    · cases hBinding
  have hSame : copy.newFunction.2.SameApartFrom "x" changed :=
    .of_bind_name _ 0 added
  have hRun :
      ∃ after,
        evaluate 1 0 program Heap.initial = .ok (.integer 1, after) ∧
          after.scopes.size = 2 :=
    ⟨_, rfl, rfl⟩
  have hChanged :
      ∃ after',
        evaluate 1 0 program changed = .ok (.integer 1, after') ∧
          (after'.scope 0).get? "x" = some added :=
    ⟨_, rfl, rfl⟩
  rcases hRun with ⟨after, hRun, hSize⟩
  rcases hChanged with ⟨after', hChanged, hAdded⟩
  rcases unused_names_do_not_matter "x" program hUses with
    ⟨hOneHeap, hAnyHeap⟩
  rcases hOneHeap 0 _ changed hSame hReach 1 with
    ⟨cause, -, hHalted⟩ | ⟨value, copied, last, hCopied, hEnded, hApart⟩
  · rw [hChanged] at hHalted
    cases hHalted
  · rw [hChanged] at hEnded
    cases hEnded
    rcases hAnyHeap pairing _ _ changed hCopies
        (fun _ _ hMark => congrArg Mark.literal hMark) hSame 0 0
        ⟨rfl, rfl⟩ hReach 1 with
      ⟨cause, hHalted, -⟩ |
      ⟨_, _, _, _, hFirst, hSecond, -, -, hScopes⟩
    · rw [hRun] at hHalted
      cases hHalted
    · rw [hRun] at hFirst
      cases hFirst
      rw [hChanged] at hSecond
      cases hSecond
      have hMade : 1 < after.scopes.size := by omega
      have hOuter :=
        hScopes 0 0 (.inl ⟨rfl, rfl⟩) (Nat.zero_lt_of_lt hMade)
      have hInner := hScopes 1 2 (.inr ⟨0, rfl, rfl⟩) hMade
      exact ⟨hUses, after, copied, after', hRun, hCopied, hChanged,
        hAdded, hApart, fun other hOther =>
          ⟨hOuter other hOther, hInner other hOther⟩⟩

end MonkeyLang
