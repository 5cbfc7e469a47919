import MonkeyLang.Proofs.Evaluation.History
import MonkeyLang.Proofs.Word64

/-
  Operators between integers compute as a machine does with
  words of 64 bits in two's complement. Integers that are too
  large for a word give the exact results up to multiples of
  2 ^ 64.

  Main declarations:
    * `evaluate_unary`, `evaluate_binary`
    * `Value.IsResidue`
    * `integer_operators_compute_with_words`
-/

------------------------------------------------------------
-- Operators in Trees
------------------------------------------------------------

namespace MonkeyLang

section

variable {depth : Nat}
variable {scope : ScopeId}
variable {heap middle after : Heap}

/- An operand that is no error is what the operator is applied to. -/
theorem evaluate_unary
    {operand : Node}
    {right : Value}
    (hOperand : evaluate depth scope operand heap = .ok (right, after))
    (hRight : right.isError = false)
    (mark : Mark)
    (operator : String) :
    evaluate depth scope (.unary mark operator operand) heap =
      .ok (applyUnary operator right, after) := by
  rw [evaluate] at hOperand
  rw [evaluate, evaluateWith, Eval.bind_of_ok hOperand, hRight]
  rfl

/- So are two operands, of which the left is evaluated first. -/
theorem evaluate_binary
    {first second : Node}
    {left right : Value}
    (hFirst : evaluate depth scope first heap = .ok (left, middle))
    (hLeft : left.isError = false)
    (hSecond : evaluate depth scope second middle = .ok (right, after))
    (hRight : right.isError = false)
    (mark : Mark)
    (operator : String) :
    evaluate depth scope (.binary mark first operator second) heap =
      .ok (applyBinary operator left right, after) := by
  rw [evaluate] at hFirst hSecond
  rw [evaluate, evaluateWith, Eval.bind_of_ok hFirst, hLeft,
    if_neg Bool.false_ne_true, Eval.bind_of_ok hSecond, hRight]
  rfl

end

------------------------------------------------------------
-- Results
------------------------------------------------------------

/- An integer in range that is congruent to an exact result. -/
def Value.IsResidue
    (value : Value)
    (exact : Int) :
    Prop :=
  ∃ result,
    value = .integer result ∧ Word64.inRange result ∧
      result ≡ exact [ZMOD 2 ^ 64]

theorem Value.isResidue_wrap
    (exact : Int) :
    (Value.integer (Word64.wrap exact)).IsResidue exact :=
  ⟨Word64.wrap exact, rfl, Word64.inRange_wrap exact,
    Word64.wrap_modEq exact⟩

theorem applyBinary_divide_zero
    (a : Int) :
    applyBinary "/" (.integer a) (.integer 0) =
      .error "division by zero" :=
  rfl

theorem applyBinary_divide
    {b : Int}
    (hDivisor : b ≠ 0)
    (a : Int) :
    applyBinary "/" (.integer a) (.integer b) =
      .integer (Word64.wrap (a.tdiv b)) := by
  have hQuotient :
      applyBinary "/" (.integer a) (.integer b) =
        if b = 0 then RuntimeError.divisionByZero.value
        else .integer (Word64.wrap (Word64.quotient a b)) :=
    rfl
  rw [hQuotient, if_neg hDivisor, Word64.quotient_eq_tdiv]

/- A division fails only if the divisor is zero. -/
theorem applyBinary_divide_eq_error_iff
    {a b : Int} :
    applyBinary "/" (.integer a) (.integer b) =
        .error "division by zero" ↔
      b = 0 := by
  constructor
  · intro hError
    by_contra hDivisor
    rw [applyBinary_divide hDivisor] at hError
    cases hError
  · rintro rfl
    exact applyBinary_divide_zero a

------------------------------------------------------------
-- Words
------------------------------------------------------------

section

variable {x y : BitVec 64}

/- A word that stands for the balanced residue is the wrapped result. -/
theorem integer_wrap
    {exact : Int}
    (hWord : x.toInt = exact.bmod (2 ^ 64)) :
    Value.integer (Word64.wrap exact) = .integer x.toInt := by
  rw [hWord, Word64.wrap_eq_bmod]

/- Words are equal if and only if they stand for the same number. -/
theorem toInt_beq :
    (x.toInt == y.toInt) = (x == y) := by
  rw [Bool.eq_iff_iff, beq_iff_eq, beq_iff_eq, BitVec.toInt_inj]

theorem toInt_ne_zero
    (hDivisor : y ≠ 0) :
    y.toInt ≠ 0 :=
  fun hZero => hDivisor (BitVec.toInt_inj.mp hZero)

/-
  The quotient of two words is the truncated one, unless that
  is no word: it is 2 ^ 63 for the lowest number and -1.
-/
theorem isTruncatedQuotient_sdiv_iff
    (hDivisor : y ≠ 0) :
    Word64.IsTruncatedQuotient x.toInt y.toInt (x.sdiv y).toInt ↔
      ¬(x.toInt = Word64.minimum ∧ y.toInt = -1) := by
  rw [Word64.isTruncatedQuotient_iff (toInt_ne_zero hDivisor)]
  constructor
  · rintro hExact ⟨hLowest, hMinusOne⟩
    have hRange := BitVec.toInt_lt (x := x.sdiv y)
    rw [hExact, hLowest, hMinusOne] at hRange
    exact absurd hRange (by decide)
  · intro hOther
    apply BitVec.toInt_sdiv_of_ne_or_ne
    by_contra hBoth
    rw [not_or, not_not, not_not] at hBoth
    exact hOther (by rw [hBoth.1, hBoth.2]; decide)

/- The lowest number divided by -1 wraps around to itself. -/
theorem sdiv_lowest
    (hLowest : x.toInt = Word64.minimum)
    (hMinusOne : y.toInt = -1) :
    (x.sdiv y).toInt = Word64.minimum := by
  rw [BitVec.toInt_sdiv, hLowest, hMinusOne]
  decide

end

/-
  Operands that are evaluated to integers are what the operator
  is applied to. The numbers in range are the words of 64 bits.
  Of these a sum, difference, product or negation is computed
  as a machine does, and so are comparisons. A division by zero
  fails. Every other quotient is truncated toward zero, except
  that of the lowest number and -1, which is the lowest number.
  Whatever the integers are, a result is in range and congruent
  to the exact one.
-/
theorem integer_operators_compute_with_words :
    (∀ depth scope mark operator first second heap middle after a b,
      evaluate depth scope first heap = .ok (.integer a, middle) →
      evaluate depth scope second middle = .ok (.integer b, after) →
        evaluate depth scope (.binary mark first operator second)
            heap =
          .ok (applyBinary operator (.integer a) (.integer b),
            after)) ∧
    (∀ depth scope mark operator operand heap after a,
      evaluate depth scope operand heap = .ok (.integer a, after) →
        evaluate depth scope (.unary mark operator operand) heap =
          .ok (applyUnary operator (.integer a), after)) ∧
    (∀ a : Int,
      Word64.inRange a ↔ ∃ word : BitVec 64, word.toInt = a) ∧
    (∀ x y : BitVec 64,
      applyBinary "+" (.integer x.toInt) (.integer y.toInt) =
          .integer (x + y).toInt ∧
        applyBinary "-" (.integer x.toInt) (.integer y.toInt) =
          .integer (x - y).toInt ∧
        applyBinary "*" (.integer x.toInt) (.integer y.toInt) =
          .integer (x * y).toInt ∧
        applyBinary "<" (.integer x.toInt) (.integer y.toInt) =
          .boolean (x.slt y) ∧
        applyBinary ">" (.integer x.toInt) (.integer y.toInt) =
          .boolean (y.slt x) ∧
        applyBinary "==" (.integer x.toInt) (.integer y.toInt) =
          .boolean (x == y) ∧
        applyBinary "!=" (.integer x.toInt) (.integer y.toInt) =
          .boolean (x != y) ∧
        applyUnary "-" (.integer x.toInt) = .integer (-x).toInt) ∧
    (∀ x y : BitVec 64,
      (applyBinary "/" (.integer x.toInt) (.integer y.toInt) =
          .error "division by zero" ↔
        y = 0) ∧
      (y ≠ 0 →
        applyBinary "/" (.integer x.toInt) (.integer y.toInt) =
            .integer (x.sdiv y).toInt ∧
          (Word64.IsTruncatedQuotient x.toInt y.toInt
              (x.sdiv y).toInt ↔
            ¬(x.toInt = Word64.minimum ∧ y.toInt = -1)) ∧
          (x.toInt = Word64.minimum → y.toInt = -1 →
            (x.sdiv y).toInt = Word64.minimum))) ∧
    ∀ a b : Int,
      (applyBinary "+" (.integer a) (.integer b)).IsResidue (a + b) ∧
        (applyBinary "-" (.integer a) (.integer b)).IsResidue
          (a - b) ∧
        (applyBinary "*" (.integer a) (.integer b)).IsResidue
          (a * b) ∧
        (applyUnary "-" (.integer a)).IsResidue (-a) ∧
        (b ≠ 0 →
          ∃ quotient,
            Word64.IsTruncatedQuotient a b quotient ∧
              (applyBinary "/" (.integer a) (.integer b)).IsResidue
                quotient) := by
  refine ⟨?_, ?_, fun a => Word64.inRange_iff_toInt, ?_, ?_, ?_⟩
  · intro depth scope mark operator first second heap middle after a b
      hFirst hSecond
    exact evaluate_binary hFirst rfl hSecond rfl mark operator
  · intro depth scope mark operator operand heap after a hOperand
    exact evaluate_unary hOperand rfl mark operator
  · intro x y
    refine ⟨?_, ?_, ?_, ?_, ?_, ?_, ?_, ?_⟩
    · exact integer_wrap (BitVec.toInt_add x y)
    · exact integer_wrap BitVec.toInt_sub
    · exact integer_wrap (BitVec.toInt_mul x y)
    · exact congrArg Value.boolean BitVec.slt_eq_decide.symm
    · exact congrArg Value.boolean BitVec.slt_eq_decide.symm
    · exact congrArg Value.boolean toInt_beq
    · exact congrArg (fun same => Value.boolean !same) toInt_beq
    · exact integer_wrap BitVec.toInt_neg
  · intro x y
    constructor
    · have hZero : (0 : BitVec 64).toInt = 0 := BitVec.toInt_zero
      rw [applyBinary_divide_eq_error_iff, ← BitVec.toInt_inj, hZero]
    · intro hDivisor
      refine ⟨?_, isTruncatedQuotient_sdiv_iff hDivisor, sdiv_lowest⟩
      rw [applyBinary_divide (toInt_ne_zero hDivisor)]
      exact integer_wrap (BitVec.toInt_sdiv x y)
  · intro a b
    refine ⟨Value.isResidue_wrap _, Value.isResidue_wrap _,
      Value.isResidue_wrap _, Value.isResidue_wrap _, ?_⟩
    intro hDivisor
    refine ⟨a.tdiv b, Word64.isTruncatedQuotient_tdiv hDivisor, ?_⟩
    rw [applyBinary_divide hDivisor]
    exact Value.isResidue_wrap _

/-
  The lowest number divided by the negation of one. The exact
  quotient is one above the highest number.
-/
theorem integer_operators_compute_with_words_lowest :
    let mark : Mark := ⟨"", 1, 1⟩
    let lowest : Node := .integer mark Word64.minimum
    let negated : Node := .unary mark "-" (.integer mark 1)
    let x : BitVec 64 := BitVec.intMin 64
    let y : BitVec 64 := -1
    (y ≠ 0 ∧ x.toInt = Word64.minimum ∧ y.toInt = -1) ∧
      evaluate 0 Heap.globalScope (.binary mark lowest "/" negated)
          Heap.initial =
        .ok (.integer (x.sdiv y).toInt, Heap.initial) ∧
      (x.sdiv y).toInt = Word64.minimum ∧
      ∃ quotient,
        Word64.IsTruncatedQuotient Word64.minimum (-1) quotient ∧
          (Value.integer (x.sdiv y).toInt).IsResidue quotient := by
  intro mark lowest negated x y
  have hNotZero : y ≠ 0 := by decide
  have hLowest : x.toInt = Word64.minimum := by decide
  have hMinusOne : y.toInt = -1 := by decide
  rcases integer_operators_compute_with_words with
    ⟨hBinary, hUnary, -, -, hDivide, hExact⟩
  have hNegated :
      evaluate 0 Heap.globalScope negated Heap.initial =
        .ok (.integer (-1), Heap.initial) :=
    hUnary 0 Heap.globalScope mark "-" _ Heap.initial Heap.initial 1 rfl
  have hRun :=
    hBinary 0 Heap.globalScope mark "/" lowest negated Heap.initial
      Heap.initial Heap.initial Word64.minimum (-1) rfl hNegated
  rcases (hDivide x y).2 hNotZero with ⟨hWords, -, hWrapped⟩
  rcases (hExact Word64.minimum (-1)).2.2.2.2 (by decide) with
    ⟨quotient, hTruncated, hResidue⟩
  rw [hLowest, hMinusOne] at hWords
  rw [hWords] at hRun hResidue
  exact ⟨⟨hNotZero, hLowest, hMinusOne⟩, hRun,
    hWrapped hLowest hMinusOne, quotient, hTruncated, hResidue⟩

end MonkeyLang
