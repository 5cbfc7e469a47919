import MonkeyLang.Proofs.Evaluation.Heap
import MonkeyLang.Proofs.Evaluation.Likeness
import MonkeyLang.Proofs.Evaluation.Operation

/-
  Two heaps that mirror each other. The scopes and functions of
  one are paired with those of the other, one to one; paired
  scopes bind the same labels to values that are alike, and are
  inside scopes that are paired. Values are alike if they are
  equal, or functions that are paired, have trees that are
  alike, and were made in paired scopes.

  No operator can tell values apart that are alike, and looking
  a name up in paired scopes gives values that are alike.

  Copies of scopes are paired one to one as well. If also those
  are paired that are still to be made, their heaps mirror each
  other.

  Main declarations:
    * `Pairing`
    * `Value.Alike`, `Scope.Alike`, `Pairing.Mirrors`
    * `Value.ShownAlike`  (the same type and the same text)
    * `Scope.Matches`     (the same names with related values)
    * `applyUnary_of_alike`, `applyBinary_of_alike`,
      `Builtin.apply_of_alike`
    * `Pairing.Mirrors.lookup`, `Pairing.Mirrors.bind`,
      `Pairing.Mirrors.newScope`, `Pairing.Mirrors.newFunction`
    * `Pairing.Copies`, `Pairing.Copies.mirrors`
    * `Pairing.copies_initial`
-/

------------------------------------------------------------
-- Pairings
------------------------------------------------------------

namespace MonkeyLang

/-
  Which marks are related, and which functions and scopes of
  two heaps belong together, each to at most one of the other.
-/
structure Pairing where
  marks : Mark → Mark → Prop
  functions : Nat → Nat → Prop
  scopes : ScopeId → ScopeId → Prop
  functions_unique :
    ∀ {a a' b b'}, functions a a' → functions b b' → (a = b ↔ a' = b')
  scopes_unique :
    ∀ {a a' b b'}, scopes a a' → scopes b b' → (a = b ↔ a' = b')

/-
  Two scopes that are paired and exist, where the first heap
  has a number of scopes.
-/
def Pairing.Inside
    (pairing : Pairing)
    (size : Nat)
    (first second : ScopeId) :
    Prop :=
  pairing.scopes first second ∧ first < size

/- Values that are equal, or functions that belong together. -/
inductive Value.Alike
    (pairing : Pairing)
    (size : Nat) :
    Value → Value → Prop where
  | scalar {value : Value}
      (hScalar : value.isScalar) :
      Alike pairing size value value
  | builtin (builtin : Builtin) :
      Alike pairing size (.builtin builtin) (.builtin builtin)
  | returned {first second : Value}
      (hInner : Alike pairing size first second) :
      Alike pairing size (.returned first) (.returned second)
  | function {number number' : Nat} {parameters parameters' : List Node}
      {body body' : Node} {scope scope' : ScopeId}
      (hNumber : pairing.functions number number')
      (hParameters :
        List.Forall₂ (Node.Alike pairing.marks) parameters parameters')
      (hBody : Node.Alike pairing.marks body body')
      (hScope : pairing.Inside size scope scope') :
      Alike pairing size (.function number parameters body scope)
        (.function number' parameters' body' scope')

/- Bindings of labels that are alike to values that are alike. -/
def Binding.Alike
    (pairing : Pairing)
    (size : Nat)
    (first second : Label × Value) :
    Prop :=
  Label.Alike pairing.marks first.1 second.1 ∧
    Value.Alike pairing size first.2 second.2

/-
  Scopes with bindings that are alike. The scopes around them
  are paired and older than they are.
-/
structure Scope.Alike
    (pairing : Pairing)
    (size : Nat)
    (id id' : ScopeId)
    (first second : Scope) :
    Prop where
  bindings :
    List.Forall₂ (Binding.Alike pairing size) first.bindings
      second.bindings
  outer :
    Option.Rel
      (fun outer outer' =>
        pairing.scopes outer outer' ∧ outer < id ∧ outer' < id')
      first.outer second.outer

/- Scopes that bind the same names, to values that are related. -/
structure Scope.Matches
    (related : Value → Value → Prop)
    (first second : Scope) :
    Prop where
  names : first.names = second.names
  value :
    ∀ name, Option.Rel related (first.get? name) (second.get? name)

/-
  Heaps whose paired scopes are alike. The scopes and functions
  that they make from now on are paired in the order in which
  they are made.
-/
structure Pairing.Mirrors
    (pairing : Pairing)
    (first second : Heap) :
    Prop where
  scopesAhead :
    ∀ count, pairing.scopes (first.scopes.size + count)
      (second.scopes.size + count)
  functionsAhead :
    ∀ count, pairing.functions (first.functions + count)
      (second.functions + count)
  scope :
    ∀ {id id'}, pairing.Inside first.scopes.size id id' →
      Scope.Alike pairing first.scopes.size id id' (first.scope id)
        (second.scope id')

variable {pairing : Pairing}
variable {size larger : Nat}

theorem Pairing.Inside.mono
    {first second : ScopeId}
    (hInside : pairing.Inside size first second)
    (hSize : size ≤ larger) :
    pairing.Inside larger first second :=
  ⟨hInside.1, Nat.lt_of_lt_of_le hInside.2 hSize⟩

------------------------------------------------------------
-- Values
------------------------------------------------------------

namespace Value.Alike

variable {first second : Value}

theorem mono
    (hAlike : Value.Alike pairing size first second)
    (hSize : size ≤ larger) :
    Value.Alike pairing larger first second := by
  induction hAlike with
  | scalar hScalar => exact .scalar hScalar
  | builtin => exact .builtin _
  | returned _ ih => exact .returned ih
  | function hNumber hParameters hBody hScope =>
      exact .function hNumber hParameters hBody (hScope.mono hSize)

theorem null :
    Value.Alike pairing size .null .null :=
  .scalar rfl

theorem error
    (error : RuntimeError) :
    Value.Alike pairing size error.value error.value :=
  .scalar rfl

theorem typeName_eq
    (hAlike : Value.Alike pairing size first second) :
    first.typeName = second.typeName := by
  cases hAlike <;> rfl

theorem isError_eq
    (hAlike : Value.Alike pairing size first second) :
    first.isError = second.isError := by
  cases hAlike <;> rfl

/- Values that are alike are the same error, or neither is one. -/
theorem error_iff
    (hAlike : Value.Alike pairing size first second)
    (message : String) :
    first = .error message ↔ second = .error message := by
  cases hAlike <;> simp

theorem endsSequence_eq
    (hAlike : Value.Alike pairing size first second) :
    first.endsSequence = second.endsSequence := by
  cases hAlike <;> rfl

theorem truthy_eq
    (hAlike : Value.Alike pairing size first second) :
    first.truthy = second.truthy := by
  cases hAlike <;> rfl

theorem unwrapped
    (hAlike : Value.Alike pairing size first second) :
    Value.Alike pairing size first.unwrapped second.unwrapped := by
  cases hAlike with
  | scalar hScalar =>
      have hSame : first.unwrapped = first := by
        cases first with
        | returned => cases hScalar
        | _ => rfl
      rw [hSame]
      exact .scalar hScalar
  | builtin => exact .builtin _
  | returned hInner => exact hInner
  | function hNumber hParameters hBody hScope =>
      exact .function hNumber hParameters hBody hScope

end Value.Alike

/- Values of the same type that are shown by the same text. -/
structure Value.ShownAlike
    (first second : Value) :
    Prop where
  typeName : first.typeName = second.typeName
  text : first.text = second.text

theorem Value.text_function
    (number : Nat)
    (parameters : List Node)
    (body : Node)
    (scope : ScopeId) :
    (Value.function number parameters body scope).text =
      functionText "fn" (Node.texts parameters) body.text :=
  rfl

/- The text of a function shows no more of the marks than their literals. -/
theorem Value.Alike.shown
    {first second : Value}
    (hAlike : Value.Alike pairing size first second)
    (hMarks :
      ∀ mark mark', pairing.marks mark mark' →
        SameLiteral mark mark') :
    first.ShownAlike second := by
  refine ⟨hAlike.typeName_eq, ?_⟩
  induction hAlike with
  | scalar | builtin => rfl
  | returned _ ih => exact ih
  | function _ hParameters hBody _ =>
      rw [Value.text_function, Value.text_function,
        Node.texts_of_alike (Node.alikeAll_imp hMarks hParameters),
        (hBody.imp hMarks).text_eq]

theorem Value.Alike.shownAlike
    {first second : Value}
    (hAlike : Value.Alike pairing size first second)
    (hMarks : pairing.marks = SameLiteral) :
    first.ShownAlike second := by
  apply hAlike.shown
  intro mark mark' hRelated
  rwa [hMarks] at hRelated

/- Comparing a value without parts to others does not tell them apart. -/
theorem Value.equals_of_isScalar
    {first other other' : Value}
    (hScalar : first.isScalar)
    (hOther : Value.Alike pairing size other other') :
    first.equals other = first.equals other' ∧
      other.equals first = other'.equals first := by
  cases hOther with
  | scalar | builtin => exact ⟨rfl, rfl⟩
  | returned | function => cases first <;> simp_all [equals, isScalar]

/-
  Values that are alike are equal to the same values: of
  functions the numbers are compared, which are paired one to
  one.
-/
theorem Value.equals_of_alike
    {first first' second second' : Value}
    (hFirst : Value.Alike pairing size first first')
    (hSecond : Value.Alike pairing size second second') :
    first.equals second = first'.equals second' := by
  induction hFirst generalizing second second' with
  | scalar hScalar => exact (Value.equals_of_isScalar hScalar hSecond).1
  | builtin => cases hSecond <;> rfl
  | returned hInner ih =>
      cases hSecond with
      | scalar hScalar =>
          exact (Value.equals_of_isScalar hScalar (.returned hInner)).2
      | builtin => rfl
      | returned hOther => exact ih hOther
      | function => rfl
  | function hNumber hParameters hBody hScope =>
      cases hSecond with
      | scalar hScalar =>
          exact (Value.equals_of_isScalar hScalar
            (.function hNumber hParameters hBody hScope)).2
      | builtin => rfl
      | returned => rfl
      | function hOther =>
          rw [Bool.eq_iff_iff]
          simpa [equals] using pairing.functions_unique hNumber hOther

------------------------------------------------------------
-- Operators
------------------------------------------------------------

theorem applyUnary_of_alike
    {first second : Value}
    (hAlike : Value.Alike pairing size first second)
    (operator : String) :
    applyUnary operator first = applyUnary operator second := by
  cases hAlike <;> rfl

theorem applyToAny_of_alike
    {left left' right right' : Value}
    (hLeft : Value.Alike pairing size left left')
    (hRight : Value.Alike pairing size right right')
    (operator : String) :
    applyToAny operator left right = applyToAny operator left' right' := by
  unfold applyToAny
  rw [Value.equals_of_alike hLeft hRight, hLeft.typeName_eq,
    hRight.typeName_eq]

theorem applyBinary_of_alike
    {left left' right right' : Value}
    (hLeft : Value.Alike pairing size left left')
    (hRight : Value.Alike pairing size right right')
    (operator : String) :
    applyBinary operator left right =
      applyBinary operator left' right' := by
  have hAny := applyToAny_of_alike hLeft hRight operator
  cases hLeft with
  | scalar hScalar =>
      cases hRight with
      | scalar | builtin => rfl
      | returned | function => cases left <;> exact hAny
  | builtin | returned | function => exact hAny

theorem Builtin.apply_of_alike
    {first second : List Value}
    (hAlike : List.Forall₂ (Value.Alike pairing size) first second)
    (builtin : Builtin) :
    builtin.apply first = builtin.apply second := by
  have hLength := hAlike.length_eq
  cases hAlike with
  | nil => rfl
  | cons hHead hTail =>
      cases hTail with
      | nil => cases hHead <;> rfl
      | cons =>
          unfold Builtin.apply
          rw [hLength]

------------------------------------------------------------
-- Scopes
------------------------------------------------------------

theorem Binding.Alike.mono
    {first second : Label × Value}
    (hAlike : Binding.Alike pairing size first second)
    (hSize : size ≤ larger) :
    Binding.Alike pairing larger first second :=
  ⟨hAlike.1, hAlike.2.mono hSize⟩

namespace Scope

/- Labels are paired with values in order, as far as both go. -/
theorem alike_zip
    {labels labels' : List Label}
    {values values' : List Value}
    (hLabels : List.Forall₂ (Label.Alike pairing.marks) labels labels')
    (hValues :
      List.Forall₂ (Value.Alike pairing size) values values') :
    List.Forall₂ (Binding.Alike pairing size) (labels.zip values)
      (labels'.zip values') := by
  induction hLabels generalizing values values' with
  | nil => exact .nil
  | cons hLabel _ ih =>
      cases hValues with
      | nil => exact .nil
      | cons hValue hRest => exact .cons ⟨hLabel, hValue⟩ (ih hRest)

theorem alike_putBinding
    {label label' : Label}
    {value value' : Value}
    (hLabel : Label.Alike pairing.marks label label')
    (hValue : Value.Alike pairing size value value')
    {bindings bindings' : List (Label × Value)}
    (hBindings :
      List.Forall₂ (Binding.Alike pairing size) bindings bindings') :
    List.Forall₂ (Binding.Alike pairing size)
      (putBinding label value bindings)
      (putBinding label' value' bindings') := by
  induction hBindings with
  | nil => exact .cons ⟨hLabel, hValue⟩ .nil
  | @cons binding binding' rest rest' hBinding hRest ih =>
      unfold putBinding
      rw [hBinding.1.same_eq hLabel]
      split
      · exact .cons ⟨hBinding.1, hValue⟩ hRest
      · exact .cons hBinding ih

namespace Alike

variable {id id' : ScopeId}
variable {first second : Scope}

theorem mono
    (hAlike : Scope.Alike pairing size id id' first second)
    (hSize : size ≤ larger) :
    Scope.Alike pairing larger id id' first second where
  bindings := hAlike.bindings.imp fun _ _ hBinding => hBinding.mono hSize
  outer := hAlike.outer

theorem get?
    (hAlike : Scope.Alike pairing size id id' first second)
    (name : String) :
    Option.Rel (Value.Alike pairing size) (first.get? name)
      (second.get? name) := by
  have hBindings := hAlike.bindings
  unfold Scope.get?
  revert hBindings
  generalize first.bindings = bindings
  generalize second.bindings = bindings'
  intro hBindings
  induction hBindings with
  | nil => exact .none
  | @cons binding binding' rest rest' hBinding hRest ih =>
      rw [List.find?_cons, List.find?_cons,
        hBinding.1.same_eq (.name name)]
      split
      · exact .some hBinding.2
      · exact ih

theorem bind
    {label label' : Label}
    {value value' : Value}
    (hAlike : Scope.Alike pairing size id id' first second)
    (hLabel : Label.Alike pairing.marks label label')
    (hValue : Value.Alike pairing size value value') :
    Scope.Alike pairing size id id' (first.bind label value)
      (second.bind label' value') where
  bindings := alike_putBinding hLabel hValue hAlike.bindings
  outer := hAlike.outer

theorem bindAll
    {bindings bindings' : List (Label × Value)}
    (hAlike : Scope.Alike pairing size id id' first second)
    (hBindings :
      List.Forall₂ (Binding.Alike pairing size) bindings bindings') :
    Scope.Alike pairing size id id' (first.bindAll bindings)
      (second.bindAll bindings') := by
  unfold Scope.bindAll
  induction hBindings generalizing first second with
  | nil => exact hAlike
  | cons hBinding _ ih => exact ih (hAlike.bind hBinding.1 hBinding.2)

theorem names_eq
    (hAlike : Scope.Alike pairing size id id' first second) :
    first.names = second.names := by
  have hBindings := hAlike.bindings
  unfold names labels
  revert hBindings
  generalize first.bindings = bindings
  generalize second.bindings = bindings'
  intro hBindings
  induction hBindings with
  | nil => rfl
  | cons hBinding _ ih =>
      simp only [List.map_cons, List.filterMap_cons,
        hBinding.1.name?_eq, ih]

/- What holds of all values that are alike holds of those of each name. -/
theorem matches_of
    {related : Value → Value → Prop}
    (hAlike : Scope.Alike pairing size id id' first second)
    (hRelated :
      ∀ {value value'}, Value.Alike pairing size value value' →
        related value value') :
    Scope.Matches related first second where
  names := hAlike.names_eq
  value name := by
    have hFound := hAlike.get? name
    revert hFound
    generalize first.get? name = found
    generalize second.get? name = found'
    rintro (hValue | _)
    · exact .some (hRelated hValue)
    · exact .none

end Alike

end Scope

------------------------------------------------------------
-- Heaps
------------------------------------------------------------

namespace Pairing.Mirrors

variable {first second : Heap}

/- A scope that is paired with one that exists exists as well. -/
theorem lt_size
    (hMirrors : pairing.Mirrors first second)
    {id id' : ScopeId}
    (hInside : pairing.Inside first.scopes.size id id') :
    id' < second.scopes.size := by
  by_contra hAhead
  have hPaired := hMirrors.scopesAhead (id' - second.scopes.size)
  rw [Nat.add_sub_cancel' (Nat.le_of_not_lt hAhead)] at hPaired
  have hSame := (pairing.scopes_unique hInside.1 hPaired).mpr rfl
  have hLower := hSame ▸ hInside.2
  exact absurd (Nat.le_add_right _ _) (Nat.not_le_of_lt hLower)

/- The scopes that are made next. -/
theorem inside_next
    (hMirrors : pairing.Mirrors first second) :
    pairing.Inside (first.scopes.size + 1) first.scopes.size
      second.scopes.size :=
  ⟨hMirrors.scopesAhead 0, Nat.lt_succ_self _⟩

theorem lookupWithin
    (hMirrors : pairing.Mirrors first second)
    (name : String)
    {limit limit' : Nat}
    {id id' : ScopeId}
    (hInside : pairing.Inside first.scopes.size id id')
    (hLimit : id < limit)
    (hLimit' : id' < limit') :
    Option.Rel (Value.Alike pairing first.scopes.size)
      (first.lookupWithin limit id name)
      (second.lookupWithin limit' id' name) := by
  induction limit generalizing limit' id id' with
  | zero => cases hLimit
  | succ limit ih =>
      cases limit' with
      | zero => cases hLimit'
      | succ limit' =>
          have hScope := hMirrors.scope hInside
          have hFound := hScope.get? name
          have hOuter := hScope.outer
          unfold Heap.lookupWithin
          -- Only what was found matters from here on.
          revert hFound hOuter
          generalize (first.scope id).get? name = found
          generalize (second.scope id').get? name = found'
          generalize (first.scope id).outer = outer
          generalize (second.scope id').outer = outer'
          rintro (hValue | _) hOuter
          · exact .some hValue
          · rcases hOuter with ⟨hPaired, hLower, hLower'⟩ | _
            · exact ih ⟨hPaired, Nat.lt_trans hLower hInside.2⟩
                (Nat.lt_of_lt_of_le hLower (Nat.le_of_lt_succ hLimit))
                (Nat.lt_of_lt_of_le hLower' (Nat.le_of_lt_succ hLimit'))
            · exact .none

/- A name has values that are alike in scopes that are paired. -/
theorem lookup
    (hMirrors : pairing.Mirrors first second)
    {id id' : ScopeId}
    (hInside : pairing.Inside first.scopes.size id id')
    (name : String) :
    Option.Rel (Value.Alike pairing first.scopes.size)
      (first.lookup id name) (second.lookup id' name) :=
  hMirrors.lookupWithin name hInside (Nat.lt_succ_self _)
    (Nat.lt_succ_self _)

theorem bind
    (hMirrors : pairing.Mirrors first second)
    {id id' : ScopeId}
    (hInside : pairing.Inside first.scopes.size id id')
    {label label' : Label}
    {value value' : Value}
    (hLabel : Label.Alike pairing.marks label label')
    (hValue : Value.Alike pairing first.scopes.size value value') :
    pairing.Mirrors (first.bind id label value)
      (second.bind id' label' value') where
  scopesAhead := by simpa using hMirrors.scopesAhead
  functionsAhead := hMirrors.functionsAhead
  scope {other other'} hOther := by
    rw [Heap.size_bind] at hOther ⊢
    have hScope := hMirrors.scope hOther
    have hUnique := pairing.scopes_unique hOther.1 hInside.1
    by_cases hSame : other = id
    · have hSame' := hUnique.mp hSame
      subst hSame hSame'
      rw [Heap.scope_bind_self hOther.2,
        Heap.scope_bind_self (hMirrors.lt_size hOther)]
      exact hScope.bind hLabel hValue
    · have hOther' : other' ≠ id' := mt hUnique.mpr hSame
      rw [Heap.scope_bind_of_ne hSame, Heap.scope_bind_of_ne hOther']
      exact hScope

theorem newScope
    (hMirrors : pairing.Mirrors first second)
    {outer outer' : ScopeId}
    (hOuter : pairing.Inside first.scopes.size outer outer')
    {bindings bindings' : List (Label × Value)}
    (hBindings :
      List.Forall₂ (Binding.Alike pairing first.scopes.size) bindings
        bindings') :
    pairing.Mirrors (first.newScope (some outer) bindings).2
      (second.newScope (some outer') bindings').2 where
  scopesAhead count := by
    have hAhead := hMirrors.scopesAhead (1 + count)
    rw [← Nat.add_assoc, ← Nat.add_assoc] at hAhead
    rwa [Heap.size_newScope, Heap.size_newScope]
  functionsAhead := hMirrors.functionsAhead
  scope {id id'} hInside := by
    rw [Heap.size_newScope] at hInside ⊢
    have hUnique :=
      pairing.scopes_unique hInside.1 (hMirrors.scopesAhead 0)
    by_cases hNew : id = first.scopes.size
    · have hNew' : id' = second.scopes.size := hUnique.mp hNew
      subst hNew hNew'
      rw [Heap.scope_newScope_self, Heap.scope_newScope_self]
      apply Scope.Alike.bindAll
      · exact ⟨.nil, .some
          ⟨hOuter.1, hOuter.2, hMirrors.lt_size hOuter⟩⟩
      · exact hBindings.imp fun _ _ hBinding =>
          hBinding.mono (Nat.le_succ _)
    · have hOld : pairing.Inside first.scopes.size id id' :=
        ⟨hInside.1, Nat.lt_of_le_of_ne (Nat.le_of_lt_succ hInside.2) hNew⟩
      rw [Heap.scope_newScope_of_lt hOld.2,
        Heap.scope_newScope_of_lt (hMirrors.lt_size hOld)]
      exact (hMirrors.scope hOld).mono (Nat.le_succ _)

theorem newFunction
    (hMirrors : pairing.Mirrors first second) :
    pairing.Mirrors first.newFunction.2 second.newFunction.2 where
  scopesAhead := hMirrors.scopesAhead
  functionsAhead count := by
    have hAhead := hMirrors.functionsAhead (1 + count)
    rwa [← Nat.add_assoc, ← Nat.add_assoc] at hAhead
  scope := hMirrors.scope

end Pairing.Mirrors

------------------------------------------------------------
-- Copies
------------------------------------------------------------

namespace Pairing

/-
  Heaps in which the scopes that are paired are copies of each
  other. All that is paired exists.
-/
structure Copies
    (pairing : Pairing)
    (first second : Heap) :
    Prop where
  functions :
    ∀ {number number'}, pairing.functions number number' →
      number < first.functions ∧ number' < second.functions
  scopes :
    ∀ {id id'}, pairing.scopes id id' →
      id < first.scopes.size ∧ id' < second.scopes.size
  scope :
    ∀ {id id'}, pairing.scopes id id' →
      Scope.Alike pairing first.scopes.size id id' (first.scope id)
        (second.scope id')

/- Numbers that are as far ahead of one number as of another. -/
def Ahead
    (start start' : Nat)
    (number number' : Nat) :
    Prop :=
  ∃ count, number = start + count ∧ number' = start' + count

/- If a relation below some numbers is one to one, it stays so ahead. -/
theorem unique_or_ahead
    {paired : Nat → Nat → Prop}
    {start start' : Nat}
    (hUnique :
      ∀ {a a' b b'}, paired a a' → paired b b' → (a = b ↔ a' = b'))
    (hBelow :
      ∀ {number number'}, paired number number' →
        number < start ∧ number' < start')
    {a a' b b' : Nat}
    (hFirst : paired a a' ∨ Ahead start start' a a')
    (hSecond : paired b b' ∨ Ahead start start' b b') :
    a = b ↔ a' = b' := by
  rcases hFirst with hFirst | ⟨count, rfl, rfl⟩
  · rcases hSecond with hSecond | ⟨count, rfl, rfl⟩
    · exact hUnique hFirst hSecond
    · have hBounds := hBelow hFirst
      omega
  · rcases hSecond with hSecond | ⟨other, rfl, rfl⟩
    · have hBounds := hBelow hSecond
      omega
    · omega

/-
  A pairing of copies, where more marks may be related and also
  the functions and scopes are paired that are made next.
-/
def Copies.extended
    {pairing : Pairing}
    {first second : Heap}
    (hCopies : pairing.Copies first second)
    (marks : Mark → Mark → Prop) :
    Pairing where
  marks := marks
  functions number number' :=
    pairing.functions number number' ∨
      Ahead first.functions second.functions number number'
  scopes id id' :=
    pairing.scopes id id' ∨
      Ahead first.scopes.size second.scopes.size id id'
  functions_unique :=
    unique_or_ahead pairing.functions_unique hCopies.functions
  scopes_unique := unique_or_ahead pairing.scopes_unique hCopies.scopes

namespace Copies

variable {first second : Heap}
variable {marks : Mark → Mark → Prop}

theorem alike_extended
    (hCopies : pairing.Copies first second)
    (hMarks : ∀ mark mark', pairing.marks mark mark' → marks mark mark')
    {value value' : Value}
    (hAlike : Value.Alike pairing size value value') :
    Value.Alike (hCopies.extended marks) size value value' := by
  induction hAlike with
  | scalar hScalar => exact .scalar hScalar
  | builtin => exact .builtin _
  | returned _ ih => exact .returned ih
  | function hNumber hParameters hBody hScope =>
      exact .function (.inl hNumber)
        (Node.alikeAll_imp hMarks hParameters) (hBody.imp hMarks)
        ⟨.inl hScope.1, hScope.2⟩

/- Scopes that are copies of each other exist. -/
theorem inside
    (hCopies : pairing.Copies first second)
    {id id' : ScopeId}
    (hPaired : pairing.scopes id id') :
    (hCopies.extended marks).Inside first.scopes.size id id' :=
  ⟨.inl hPaired, (hCopies.scopes hPaired).1⟩

/- Heaps with copies mirror each other in all that is made from then on. -/
theorem mirrors
    (hCopies : pairing.Copies first second)
    (hMarks :
      ∀ mark mark', pairing.marks mark mark' → marks mark mark') :
    (hCopies.extended marks).Mirrors first second where
  scopesAhead count := .inr ⟨count, rfl, rfl⟩
  functionsAhead count := .inr ⟨count, rfl, rfl⟩
  scope {id id'} hInside := by
    rcases hInside.1 with hPaired | ⟨count, hAhead, -⟩
    · have hScope := hCopies.scope hPaired
      constructor
      · exact hScope.bindings.imp fun _ _ hBinding =>
          ⟨hBinding.1.imp hMarks,
            hCopies.alike_extended hMarks hBinding.2⟩
      · have hOuter := hScope.outer
        revert hOuter
        generalize (first.scope id).outer = outer
        generalize (second.scope id').outer = outer'
        rintro (⟨hAround, hLower⟩ | _)
        · exact .some ⟨.inl hAround, hLower⟩
        · exact .none
    · have hLower := hAhead ▸ hInside.2
      exact absurd (Nat.le_add_right _ _) (Nat.not_le_of_lt hLower)

end Copies

/- Only the global scope is paired, with itself. -/
def ofGlobalScope
    (marks : Mark → Mark → Prop) :
    Pairing where
  marks := marks
  functions _ _ := False
  scopes id id' := id = Heap.globalScope ∧ id' = Heap.globalScope
  functions_unique := nofun
  scopes_unique := by
    rintro a a' b b' ⟨rfl, rfl⟩ ⟨rfl, rfl⟩
    simp

/- The heap before any evaluation is a copy of itself. -/
theorem copies_initial
    (marks : Mark → Mark → Prop) :
    (ofGlobalScope marks).Copies Heap.initial Heap.initial where
  functions := nofun
  scopes := by
    rintro id id' ⟨rfl, rfl⟩
    decide
  scope := by
    rintro id id' ⟨rfl, rfl⟩
    exact ⟨.nil, .none⟩

end Pairing

end MonkeyLang
