import MonkeyLang.Proofs.Evaluation.Arithmetic
import MonkeyLang.Proofs.Evaluation.Integrity

/-
  Equality of values in the language. Integers, strings and all
  other values are compared in three ways, which agree: values
  are equal if they have the same type and equal contents.
  Inequality is the negation of this. Functions are known by
  their numbers, so that of those that have been made each is
  equal to itself only.

  Main declarations:
    * `Value.SameContent`
    * `Value.equals_iff`
    * `Value.SameContent.eq_of_made`
    * `equality_compares_contents`
-/

------------------------------------------------------------
-- Contents
------------------------------------------------------------

namespace MonkeyLang

/- There is one thing that a built-in function can do. -/
theorem Builtin.eq_of_name_eq
    {first second : Builtin}
    (hName : first.name = second.name) :
    first = second := by
  rcases first with ⟨name, ⟨⟩⟩
  rcases second with ⟨name', ⟨⟩⟩
  rcases hName with rfl
  rfl

namespace Value

/-
  Two values of the same type with equal contents: functions
  have the same number, built-in functions the same name, and
  wrappers wrap values that are equal in this sense.
-/
inductive SameContent : Value → Value → Prop where
  | integer (value : Int) :
      SameContent (.integer value) (.integer value)
  | boolean (value : Bool) :
      SameContent (.boolean value) (.boolean value)
  | string (value : String) :
      SameContent (.string value) (.string value)
  | null :
      SameContent .null .null
  | returned {first second : Value}
      (hInner : SameContent first second) :
      SameContent (.returned first) (.returned second)
  | error (message : String) :
      SameContent (.error message) (.error message)
  | function (number : Nat)
      {parameters parameters' : List Node} {body body' : Node}
      {scope scope' : ScopeId} :
      SameContent (.function number parameters body scope)
        (.function number parameters' body' scope')
  | builtin {first second : Builtin}
      (hName : first.name = second.name) :
      SameContent (.builtin first) (.builtin second)

namespace SameContent

theorem refl
    (value : Value) :
    value.SameContent value := by
  induction value with
  | integer value => exact .integer value
  | boolean value => exact .boolean value
  | string value => exact .string value
  | null => exact .null
  | returned inner ih => exact .returned ih
  | error message => exact .error message
  | function number => exact .function number
  | builtin => exact .builtin rfl

theorem symm
    {first second : Value}
    (hSame : first.SameContent second) :
    second.SameContent first := by
  induction hSame with
  | returned _ ih => exact .returned ih
  | function number => exact .function number
  | builtin hName => exact .builtin hName.symm
  | _ => exact .refl _

theorem trans
    {first second third : Value}
    (hFirst : first.SameContent second)
    (hSecond : second.SameContent third) :
    first.SameContent third := by
  induction hFirst generalizing third with
  | returned _ ih =>
      cases hSecond with
      | returned hInner => exact .returned (ih hInner)
  | function number =>
      cases hSecond
      exact .function number
  | builtin hName =>
      cases hSecond with
      | builtin hNext => exact .builtin (hName.trans hNext)
  | _ => exact hSecond

theorem typeName_eq
    {first second : Value}
    (hSame : first.SameContent second) :
    first.typeName = second.typeName := by
  cases hSame <;> rfl

/- Values that have been made and have the same content are the same. -/
theorem eq_of_made
    {made : List Value}
    {first second : Value}
    (hSame : first.SameContent second)
    (hFirst : first.IsMade made)
    (hSecond : second.IsMade made) :
    first = second := by
  induction hSame with
  | returned _ ih => exact congrArg Value.returned (ih hFirst hSecond)
  | function number =>
      exact Option.some.inj (hFirst.symm.trans hSecond)
  | builtin hName => rw [Builtin.eq_of_name_eq hName]
  | _ => rfl

end SameContent

/- Equality compares contents. -/
theorem equals_iff
    {first second : Value} :
    first.equals second = true ↔ first.SameContent second := by
  constructor
  · intro hEquals
    fun_induction equals first second with
    | case1 a b => exact eq_of_beq hEquals ▸ .integer a
    | case2 a b => exact eq_of_beq hEquals ▸ .boolean a
    | case3 a b => exact eq_of_beq hEquals ▸ .string a
    | case4 => exact .null
    | case5 a b ih => exact .returned (ih hEquals)
    | case6 a b => exact eq_of_beq hEquals ▸ .error a
    | case7 a => exact eq_of_beq hEquals ▸ .function a
    | case8 a b =>
        exact .builtin (eq_of_beq hEquals)
    | case9 => cases hEquals
  · intro hSame
    induction hSame with
    | null => rfl
    | returned _ ih => exact ih
    | builtin hName => exact beq_iff_eq.mpr hName
    | _ => exact beq_self_eq_true _

end Value

------------------------------------------------------------
-- Operators
------------------------------------------------------------

/- All ways of comparing agree. -/
theorem applyBinary_equal
    (left right : Value) :
    applyBinary "==" left right = .boolean (left.equals right) := by
  cases left <;> cases right <;> rfl

theorem applyBinary_notEqual
    (left right : Value) :
    applyBinary "!=" left right = .boolean (!left.equals right) := by
  cases left <;> cases right <;> rfl

theorem applyBinary_equal_iff
    {left right : Value} :
    applyBinary "==" left right = .boolean true ↔
      left.SameContent right := by
  rw [applyBinary_equal, Value.boolean.injEq, Value.equals_iff]

------------------------------------------------------------
-- Comparisons in Trees
------------------------------------------------------------

/- What two operands of one tree are evaluated to has been made. -/
theorem Heap.Intact.operands_made
    {made : List Value}
    {heap middle after : Heap}
    (hIntact : heap.Intact made)
    {depth : Nat}
    {scope : ScopeId}
    (hScope : scope < heap.scopes.size)
    {first second : Node}
    {left right : Value}
    (hFirst : evaluate depth scope first heap = .ok (left, middle))
    (hSecond : evaluate depth scope second middle = .ok (right, after)) :
    ∃ later, left.IsMade later ∧ right.IsMade later := by
  have hFrame :=
    evaluateWith_framed (applyWithin_untouching depth) scope first
      (List.Subset.refl _) heap left middle hFirst
  rcases hIntact.of_evaluation hScope hFirst with
    ⟨between, -, hMiddle, hLeft⟩
  have hStill := Nat.lt_of_lt_of_le hScope hFrame.size
  rcases hMiddle.of_evaluation hStill hSecond with
    ⟨later, hLater, -, hRight⟩
  exact ⟨later, hLeft.mono hLater, hRight⟩

/-
  Equality is an equivalence of all values. It never fails, and
  inequality is its negation. Two values are equal if and only
  if they have the same type and equal contents; wrappers are
  compared by what they wrap, and built-in functions by name.
  The operators in a tree compare what its operands are evaluated
  to. In a heap that evaluations have left, functions with the
  same number are the same, so that values are equal only to
  themselves.
-/
theorem equality_compares_contents :
    (Equivalence fun x y : Value =>
      applyBinary "==" x y = .boolean true) ∧
    (∀ x y : Value,
      ∃ equal : Bool,
        applyBinary "==" x y = .boolean equal ∧
          applyBinary "!=" x y = .boolean (!equal) ∧
          (equal = true ↔ x.SameContent y) ∧
          (equal = true → x.typeName = y.typeName)) ∧
    ∀ depth scope mark first second heap middle after x y,
      evaluate depth scope first heap = .ok (x, middle) →
      x.isError = false →
      evaluate depth scope second middle = .ok (y, after) →
      y.isError = false →
        ∃ equal : Bool,
          evaluate depth scope (.binary mark first "==" second) heap =
              .ok (.boolean equal, after) ∧
            evaluate depth scope (.binary mark first "!=" second)
                heap =
              .ok (.boolean (!equal), after) ∧
            (equal = true ↔ x.SameContent y) ∧
            ∀ made, heap.Intact made → scope < heap.scopes.size →
              (equal = true ↔ x = y) := by
  refine ⟨⟨?_, ?_, ?_⟩, ?_, ?_⟩
  · exact fun x => applyBinary_equal_iff.mpr (.refl x)
  · intro x y hEqual
    exact applyBinary_equal_iff.mpr (applyBinary_equal_iff.mp hEqual).symm
  · intro x y z hFirst hSecond
    exact applyBinary_equal_iff.mpr
      ((applyBinary_equal_iff.mp hFirst).trans
        (applyBinary_equal_iff.mp hSecond))
  · exact fun x y =>
      ⟨x.equals y, applyBinary_equal x y, applyBinary_notEqual x y,
        Value.equals_iff, fun hEqual =>
          (Value.equals_iff.mp hEqual).typeName_eq⟩
  · intro depth scope mark first second heap middle after x y hFirst
      hLeft hSecond hRight
    have hBinary :=
      evaluate_binary hFirst hLeft hSecond hRight mark
    refine ⟨x.equals y, ?_, ?_, Value.equals_iff, ?_⟩
    · rw [hBinary, applyBinary_equal]
    · rw [hBinary, applyBinary_notEqual]
    · intro made hIntact hScope
      rcases hIntact.operands_made hScope hFirst hSecond with
        ⟨later, hMadeLeft, hMadeRight⟩
      rw [Value.equals_iff]
      constructor
      · exact fun hSame => hSame.eq_of_made hMadeLeft hMadeRight
      · rintro rfl
        exact .refl x

/-
  Two functions are made from one literal. They are different,
  while each of them is equal to itself, also in a wrapper.
-/
theorem equality_compares_contents_functions :
    let mark : Mark := ⟨"", 1, 1⟩
    let literal : Node := .function mark [] (.block mark [])
    let made (number : Nat) : Value :=
      .function number [] (.block mark []) 0
    let one : Heap := Heap.initial.newFunction.2
    let two : Heap := one.newFunction.2
    evaluate 0 0 literal Heap.initial = .ok (made 0, one) ∧
      evaluate 0 0 literal one = .ok (made 1, two) ∧
      Heap.initial.Intact [] ∧
      evaluate 0 0 (.binary mark literal "==" literal) Heap.initial =
        .ok (.boolean false, two) ∧
      evaluate 0 0 (.binary mark literal "!=" literal) Heap.initial =
        .ok (.boolean true, two) ∧
      applyBinary "==" (.returned (made 0)) (.returned (made 0)) =
        .boolean true := by
  intro mark literal made one two
  have hFirst :
      evaluate 0 0 literal Heap.initial = .ok (made 0, one) := rfl
  have hSecond : evaluate 0 0 literal one = .ok (made 1, two) := rfl
  rcases equality_compares_contents with ⟨hEquivalence, -, hTrees⟩
  rcases hTrees 0 0 mark literal literal Heap.initial one two (made 0)
    (made 1) hFirst rfl hSecond rfl with
    ⟨equal, hEqual, hNotEqual, -, hSame⟩
  have hDifferent : made 0 ≠ made 1 := by simp [made]
  have hFalse : equal = false := by
    rw [← Bool.not_eq_true, hSame [] .initial (by decide)]
    exact hDifferent
  rw [hFalse] at hEqual hNotEqual
  exact ⟨hFirst, hSecond, .initial, hEqual, hNotEqual,
    hEquivalence.refl _⟩

end MonkeyLang
