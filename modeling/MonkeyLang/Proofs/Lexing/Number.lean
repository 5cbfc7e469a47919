import MonkeyLang.Numeral
import MonkeyLang.Proofs.Lexing.Recognition
import MonkeyLang.Proofs.Lexing.Trim

/-
  The values of numbers as they are read from a source: a
  number has no sign, so that its value is not negative.

  Main declarations:
    * `Numeral.nonneg_of_isNumber`
-/

------------------------------------------------------------
-- Digits
------------------------------------------------------------

namespace MonkeyLang

namespace Unicode

/- No digit is white space. -/
theorem isWhiteSpace_of_isDigit
    {c : Char}
    (hDigit : isDigit c = true) :
    isWhiteSpace c = false := by
  unfold isDigit decimalValue? at hDigit
  rw [Bool.or_eq_true, isSome_decimalValueFrom] at hDigit
  rcases hDigit with hDecimal | hOther
  · have hApart :
        Ranges.apartWithin 200 whiteSpaceRanges
          (decimalZeros.map fun start => (start, start + 9)) =
            true := by
      decide +kernel
    exact Ranges.contains_of_apartWithin hApart hDecimal
  · have hApart :
        Ranges.apartWithin 200 whiteSpaceRanges otherDigitRanges =
          true := by
      decide +kernel
    exact Ranges.contains_of_apartWithin hApart hOther

theorem decimalValueFrom_lt
    {zeros : List Nat}
    {code value : Nat}
    (hValue : decimalValueFrom zeros code = some value) :
    value < 10 := by
  induction zeros with
  | nil => simp [decimalValueFrom] at hValue
  | cons start rest ih =>
      unfold decimalValueFrom at hValue
      grind

end Unicode

namespace Numeral

/- The plain form of a digit is no sign. -/
theorem plainDigit_of_isDigit
    {c : Char}
    (hDigit : Unicode.isDigit c = true) :
    plainDigit c ≠ '+' ∧ plainDigit c ≠ '-' := by
  unfold plainDigit
  cases hValue : Unicode.decimalValue? c with
  | none =>
      constructor <;> rintro rfl <;> revert hDigit <;> decide
  | some value =>
      have hPlain :
          ∀ value < 10,
            Char.ofNat ('0'.toNat + value) ≠ '+' ∧
              Char.ofNat ('0'.toNat + value) ≠ '-' := by
        decide
      exact hPlain value (Unicode.decimalValueFrom_lt hValue)

/- Every character of a number also continues one. -/
theorem continuesWord_of_isNumber
    {text : List Char}
    (hNumber : IsNumber text) :
    ∀ c ∈ text, continuesWord c = true := by
  match text, hNumber with
  | first :: rest, ⟨hDigit, hRest⟩ =>
      rw [List.forall_mem_cons]
      exact ⟨continuesWord_of_isDigit hDigit, hRest⟩

/- A numeral that starts with a digit is not negative. -/
theorem nonneg_of_isNumber
    {literal : String}
    {value : Int}
    (hNumber : IsNumber literal.toList)
    (hValue : read? literal = some value) :
    0 ≤ value := by
  match hShape : literal.toList, hNumber with
  | c :: rest, ⟨hDigit, _⟩ =>
      rcases Text.exists_trimWhile_cons
        (Unicode.isWhiteSpace_of_isDigit hDigit) rest with
        ⟨others, hTrim⟩
      have hSign := plainDigit_of_isDigit hDigit
      unfold read? at hValue
      rw [hShape, hTrim, List.map_cons] at hValue
      dsimp only at hValue
      split at hValue
      next hPlus => exact absurd (List.cons.inj hPlus).1 hSign.1
      next hMinus => exact absurd (List.cons.inj hMinus).1 hSign.2
      next =>
        rcases Option.map_eq_some_iff.mp hValue with ⟨n, -, rfl⟩
        exact Int.natCast_nonneg n

end Numeral

end MonkeyLang
