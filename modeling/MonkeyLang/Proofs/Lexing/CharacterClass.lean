import MonkeyLang.Token.Lexeme
import MonkeyLang.Unicode.Blank

/-
  How the classes of characters that start and continue a token
  lie to one another: no letter is a digit, no blank is either,
  and whatever starts a word or a number also continues one.

  Main declarations:
    * `decidableForallMemText`, ...    (going through a text)
    * `Unicode.Ranges.apartWithin`     (tables without common codes)
    * `Unicode.isLetter_of_isDigit`
    * `startsWord_of_isDigit`
    * `continuesWord_of_isBlank`
-/

------------------------------------------------------------
-- Deciding along a Text
------------------------------------------------------------

namespace MonkeyLang

/-
  What holds of the characters of a text, or of its first one,
  is decided by going through the text. Declared here, these
  come before an instance that goes through all characters.
-/
instance decidableForallMemText
    {p : Char → Prop}
    [DecidablePred p]
    (text : List Char) :
    Decidable (∀ c ∈ text, p c) :=
  List.decidableBAll p text

instance decidableForallMemHead
    {p : Char → Prop}
    [DecidablePred p]
    (head? : Option Char) :
    Decidable (∀ c ∈ head?, p c) :=
  Option.decidableForallMem head?

instance decidableExistsMemHead
    {p : Char → Prop}
    [DecidablePred p]
    (head? : Option Char) :
    Decidable (∃ c ∈ head?, p c) :=
  Option.decidableExistsMem head?

------------------------------------------------------------
-- Tables without Common Code Points
------------------------------------------------------------

namespace Unicode

/-
  Whether two ascending tables have no code point in common.
  They are read side by side, with a limit on the steps: the
  range that ends first is passed over if it ends before the
  other one begins.
-/
def Ranges.apartWithin
    (limit : Nat)
    (first second : Ranges) :
    Bool :=
  match limit, first, second with
  | 0, _, _ => false
  | _ + 1, [], _ => true
  | _ + 1, _ :: _, [] => true
  | limit + 1, (a, b) :: as, (c, d) :: cs =>
      if b < c then
        Ranges.apartWithin limit as ((c, d) :: cs)
      else if d < a then
        Ranges.apartWithin limit ((a, b) :: as) cs
      else
        false

/- Tables that are apart have no code point in common. -/
theorem Ranges.contains_of_apartWithin
    {limit : Nat}
    {first second : Ranges}
    (hApart : Ranges.apartWithin limit first second = true)
    {code : Nat}
    (hSecond : Ranges.contains second code = true) :
    Ranges.contains first code = false := by
  fun_induction Ranges.apartWithin limit first second with
  | case1 => cases hApart
  | case2 => rfl
  | case3 => cases hSecond
  | case4 limit a b as c d cs hBefore ih =>
      have hRest := ih hApart hSecond
      simp only [Ranges.contains] at hSecond ⊢
      grind
  | case5 limit a b as c d cs hNot hBehind ih =>
      by_cases hLow : code ≤ d
      · simp only [Ranges.contains]
        grind
      · have hRest : Ranges.contains cs code = true := by
          simp only [Ranges.contains] at hSecond
          grind
        exact ih hApart hRest
  | case6 => cases hApart

/- A run of ten code points from a zero is a range. -/
theorem isSome_decimalValueFrom
    (zeros : List Nat)
    (code : Nat) :
    (decimalValueFrom zeros code).isSome =
      Ranges.contains (zeros.map fun start => (start, start + 9))
        code := by
  induction zeros with
  | nil => rfl
  | cons start rest ih =>
      simp only [decimalValueFrom, List.map_cons, Ranges.contains]
      grind

set_option maxRecDepth 4000 in
theorem apartWithin_letters_decimals :
    Ranges.apartWithin 1000 letterRanges
      (decimalZeros.map fun start => (start, start + 9)) =
        true := by
  decide +kernel

set_option maxRecDepth 4000 in
theorem apartWithin_letters_digits :
    Ranges.apartWithin 1000 letterRanges otherDigitRanges =
      true := by
  decide +kernel

/- No digit is a letter. -/
theorem isLetter_of_isDigit
    {c : Char}
    (hDigit : isDigit c = true) :
    isLetter c = false := by
  unfold isDigit decimalValue? at hDigit
  rw [Bool.or_eq_true, isSome_decimalValueFrom] at hDigit
  rcases hDigit with hDecimal | hOther
  · exact Ranges.contains_of_apartWithin
      apartWithin_letters_decimals hDecimal
  · exact Ranges.contains_of_apartWithin
      apartWithin_letters_digits hOther

/- A table apart from those of the blanks has no blank in it. -/
theorem not_contains_of_isBlank
    {table : Ranges}
    (hSpace : Ranges.apartWithin 1000 table whiteSpaceRanges = true)
    (hSeparator : Ranges.apartWithin 1000 table separatorRanges = true)
    {c : Char}
    (hBlank : isBlank c = true) :
    table.contains c.toNat = false := by
  unfold isBlank at hBlank
  rcases Bool.or_eq_true_iff.mp hBlank with hIn | hIn
  · exact Ranges.contains_of_apartWithin hSpace hIn
  · exact Ranges.contains_of_apartWithin hSeparator hIn

set_option maxRecDepth 4000 in
/- No blank is a letter. -/
theorem isLetter_of_isBlank
    {c : Char}
    (hBlank : isBlank c = true) :
    isLetter c = false :=
  not_contains_of_isBlank (by decide +kernel) (by decide +kernel) hBlank

set_option maxRecDepth 4000 in
/- No blank has a numeric value. -/
theorem isNumeric_of_isBlank
    {c : Char}
    (hBlank : isBlank c = true) :
    isNumeric c = false := by
  unfold isNumeric isDigit decimalValue?
  rw [isSome_decimalValueFrom,
    not_contains_of_isBlank (by decide +kernel) (by decide +kernel) hBlank,
    not_contains_of_isBlank (by decide +kernel) (by decide +kernel) hBlank,
    not_contains_of_isBlank (by decide +kernel) (by decide +kernel) hBlank]
  rfl

end Unicode

------------------------------------------------------------
-- Starts of Words and Numbers
------------------------------------------------------------

theorem continuesWord_of_startsWord
    {c : Char}
    (hStart : startsWord c = true) :
    continuesWord c = true := by
  unfold startsWord at hStart
  unfold continuesWord
  grind

theorem continuesWord_of_isDigit
    {c : Char}
    (hDigit : Unicode.isDigit c = true) :
    continuesWord c = true := by
  simp [continuesWord, Unicode.isNumeric, hDigit]

/- A digit does not start a word. -/
theorem startsWord_of_isDigit
    {c : Char}
    (hDigit : Unicode.isDigit c = true) :
    startsWord c = false := by
  unfold startsWord
  rw [Unicode.isLetter_of_isDigit hDigit, Bool.false_or,
    beq_eq_false_iff_ne]
  intro hUnderscore
  subst hUnderscore
  exact absurd hDigit (by decide)

/- No blank starts or continues a word. -/
theorem continuesWord_of_isBlank
    {c : Char}
    (hBlank : Unicode.isBlank c = true) :
    continuesWord c = false := by
  have hUnderscore : c ≠ '_' := by
    rintro rfl
    exact absurd hBlank (by decide)
  simp [continuesWord, Unicode.isLetter_of_isBlank hBlank,
    Unicode.isNumeric_of_isBlank hBlank, hUnderscore]

end MonkeyLang
