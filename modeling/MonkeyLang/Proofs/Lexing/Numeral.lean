import Mathlib.Data.Nat.Digits.Defs
import MonkeyLang.Proofs.Lexing.Number

/-
  Numerals as a relation between texts and numbers: digits of a
  base in a row, with single underscores between them, and the
  number that they stand for by their positions.

  Main declarations:
    * `IsDigit`           (a digit of a base)
    * `Spells`            (digits and underscores)
    * `Unsigned`          (a numeral without a sign)
    * `Denotes`           (a numeral with blanks around it)
    * `read?_eq_some_iff` (what is read is what is denoted)
-/

------------------------------------------------------------
-- The Relation
------------------------------------------------------------

namespace MonkeyLang

namespace Numeral

/-
  A character writes a value: a decimal digit of some script, or
  from ten on a letter of either case.
-/
def Writes
    (c : Char)
    (value : Nat) :
    Prop :=
  Unicode.decimalValue? c = some value ∨
    10 ≤ value ∧
      (c = value.digitChar ∨ c = value.digitChar.toUpper)

instance
    (c : Char)
    (value : Nat) :
    Decidable (Writes c value) := by
  unfold Writes
  infer_instance

/- A digit of a base, with its value. -/
structure IsDigit
    (base : Nat)
    (c : Char)
    (value : Nat) :
    Prop where
  below : value < base
  written : Writes c value

/- Digits with at most one underscore between neighbours. -/
inductive Spells (base : Nat) : List Char → List Nat → Prop where
  | last {c : Char} {value : Nat}
      (hDigit : IsDigit base c value) :
      Spells base [c] [value]
  | digit {c : Char} {value : Nat}
      {text : List Char} {digits : List Nat}
      (hDigit : IsDigit base c value)
      (hRest : Spells base text digits) :
      Spells base (c :: text) (value :: digits)
  | underscore {c : Char} {value : Nat}
      {text : List Char} {digits : List Nat}
      (hDigit : IsDigit base c value)
      (hRest : Spells base text digits) :
      Spells base (c :: '_' :: text) (value :: digits)

/- Digits behind others or a letter: an underscore may come first. -/
def Attached
    (base : Nat)
    (text : List Char)
    (digits : List Nat) :
    Prop :=
  Spells base text digits ∨
    ∃ rest, text = '_' :: rest ∧ Spells base rest digits

/- The number with some digits, the most significant one first. -/
def positional
    (base : Nat)
    (digits : List Nat) :
    Nat :=
  Nat.ofDigits base digits.reverse

/- The letters for the bases other than ten. -/
def baseLetters : List (Char × Nat) := [
  ('x', 16), ('X', 16), ('o', 8), ('O', 8), ('b', 2), ('B', 2) ]

/-
  A numeral without a sign. In other bases than ten a zero and a
  letter come first. In base ten the digits are limited, and a
  zero comes first only if the number is zero.
-/
inductive Unsigned : List Char → Nat → Prop where
  | based {zero letter : Char} {base : Nat}
      {text : List Char} {digits : List Nat}
      (hZero : Unicode.decimalValue? zero = some 0)
      (hLetter : (letter, base) ∈ baseLetters)
      (hDigits : Attached base text digits) :
      Unsigned (zero :: letter :: text) (positional base digits)
  | decimal {text : List Char} {digits : List Nat}
      (hDigits : Spells 10 text digits)
      (hLength : digits.length ≤ 4300)
      (hLead : digits.head? = some 0 → positional 10 digits = 0) :
      Unsigned text (positional 10 digits)

/- A numeral with or without a sign. -/
inductive Signed : List Char → Int → Prop where
  | plain {text : List Char} {n : Nat}
      (hUnsigned : Unsigned text n) :
      Signed text n
  | plus {text : List Char} {n : Nat}
      (hUnsigned : Unsigned text n) :
      Signed ('+' :: text) n
  | minus {text : List Char} {n : Nat}
      (hUnsigned : Unsigned text n) :
      Signed ('-' :: text) (-n)

/- A numeral with white space around it. -/
def Denotes
    (text : List Char)
    (value : Int) :
    Prop :=
  ∃ before body after,
    text = before ++ body ++ after ∧
      (∀ c ∈ before ++ after, Unicode.isWhiteSpace c = true) ∧
        Signed body value

------------------------------------------------------------
-- Digits
------------------------------------------------------------

/- The digits 0 to 9 have their values. -/
theorem decimalValue?_plain :
    ∀ value < 10,
      Unicode.decimalValue? (Char.ofNat ('0'.toNat + value)) =
        some value := by
  decide

/- Letters have no decimal value. -/
theorem decimalValue?_digitChar :
    ∀ value < 16, 10 ≤ value →
      Unicode.decimalValue? value.digitChar = none ∧
        Unicode.decimalValue? value.digitChar.toUpper = none := by
  decide

theorem decimalValue?_plainDigit
    (c : Char) :
    Unicode.decimalValue? (plainDigit c) =
      Unicode.decimalValue? c := by
  unfold plainDigit
  cases hValue : Unicode.decimalValue? c with
  | none => exact hValue
  | some value =>
      exact
        decimalValue?_plain value (Unicode.decimalValueFrom_lt hValue)

/- Only a decimal digit is not the plain form of itself. -/
theorem plainDigit_eq_iff
    {c d : Char}
    (hNone : Unicode.decimalValue? d = none) :
    plainDigit c = d ↔ c = d := by
  have hSame := decimalValue?_plainDigit c
  constructor
  · rintro rfl
    rw [plainDigit, ← hSame, hNone]
  · rintro rfl
    rw [plainDigit, hNone]

theorem plainDigit_eq_zero_iff
    {c : Char} :
    plainDigit c = '0' ↔ Unicode.decimalValue? c = some 0 := by
  have hZero : Unicode.decimalValue? '0' = some 0 := by decide
  unfold plainDigit
  cases hValue : Unicode.decimalValue? c with
  | none =>
      refine iff_of_false ?_ (by simp)
      rintro rfl
      rw [hZero] at hValue
      cases hValue
  | some value =>
      have hPlain :
          ∀ value < 10,
            Char.ofNat ('0'.toNat + value) = '0' ↔ value = 0 := by
        decide
      rw [Option.some.injEq]
      exact hPlain value (Unicode.decimalValueFrom_lt hValue)

/- The base only limits the values. -/
theorem digitValue?_eq_some_iff_sixteen
    {base value : Nat}
    {c : Char}
    (hBase : base ≤ 16) :
    digitValue? base c = some value ↔
      digitValue? 16 c = some value ∧ value < base := by
  simp only [digitValue?, Option.filter_eq_some_iff,
    decide_eq_true_eq]
  constructor
  · rintro ⟨hValue, hLess⟩
    exact ⟨⟨hValue, by omega⟩, hLess⟩
  · rintro ⟨⟨hValue, -⟩, hLess⟩
    exact ⟨hValue, hLess⟩

/- Digits of base sixteen are found by going through ASCII. -/
theorem digitValue?_sixteen
    {value : Nat}
    {c : Char}
    (hPlain : plainDigit c = c) :
    digitValue? 16 c = some value ↔ value < 16 ∧ Writes c value := by
  constructor
  · intro hValue
    have hCode : c.toNat < 128 := by
      simp only [digitValue?, Option.filter_eq_some_iff] at hValue
      have hLast : c ≤ '9' ∨ c ≤ 'z' ∨ c ≤ 'Z' := by grind
      rcases hLast with hLast | hLast | hLast <;>
        exact Nat.lt_of_le_of_lt (UInt32.le_iff_toNat_le.mp hLast)
          (by decide)
    have hTable :
        ∀ code < 128, ∀ value ∈ digitValue? 16 (Char.ofNat code),
          value < 16 ∧ Writes (Char.ofNat code) value := by
      decide
    have hDigit := hTable c.toNat hCode value
    rw [Char.ofNat_toNat] at hDigit
    exact hDigit hValue
  · have hLetters :
        ∀ value < 16,
          digitValue? 16 value.digitChar = some value ∧
            digitValue? 16 value.digitChar.toUpper = some value := by
      decide
    have hDecimals :
        ∀ value < 10,
          digitValue? 16 (Char.ofNat ('0'.toNat + value)) =
            some value := by
      decide
    rintro ⟨hLess, hDecimal | ⟨-, rfl | rfl⟩⟩
    · rw [plainDigit, hDecimal] at hPlain
      rw [← hPlain]
      exact hDecimals value (Unicode.decimalValueFrom_lt hDecimal)
    · exact (hLetters value hLess).1
    · exact (hLetters value hLess).2

/- The plain form of a digit writes the same value. -/
theorem writes_plainDigit_iff
    {value : Nat}
    {c : Char}
    (hLess : value < 16) :
    Writes (plainDigit c) value ↔ Writes c value := by
  unfold Writes
  rw [decimalValue?_plainDigit]
  refine or_congr_right (and_congr_right fun hTen => ?_)
  have hNone := decimalValue?_digitChar value hLess hTen
  rw [plainDigit_eq_iff hNone.1, plainDigit_eq_iff hNone.2]

/- The digits of a base are those that have a value in it. -/
theorem digitValue?_plainDigit
    {base value : Nat}
    {c : Char}
    (hBase : base ≤ 16) :
    digitValue? base (plainDigit c) = some value ↔
      IsDigit base c value := by
  have hPlain : plainDigit (plainDigit c) = plainDigit c := by
    rw [plainDigit, decimalValue?_plainDigit]
    unfold plainDigit
    cases Unicode.decimalValue? c <;> rfl
  rw [digitValue?_eq_some_iff_sixteen hBase,
    digitValue?_sixteen hPlain]
  constructor
  · rintro ⟨⟨hLess, hWrites⟩, hBelow⟩
    exact ⟨hBelow, (writes_plainDigit_iff hLess).mp hWrites⟩
  · rintro ⟨hBelow, hWrites⟩
    have hLess : value < 16 := by omega
    exact ⟨⟨hLess, (writes_plainDigit_iff hLess).mpr hWrites⟩, hBelow⟩

------------------------------------------------------------
-- Digits in a Row
------------------------------------------------------------

section

variable {base : Nat} {c : Char}
variable {text rest : List Char} {digits : List Nat}

/- Behind a digit there is nothing, or there are more digits. -/
theorem spells_cons_iff :
    Spells base (c :: text) digits ↔
      ∃ value others,
        digits = value :: others ∧ IsDigit base c value ∧
          (text = [] ∧ others = [] ∨ Attached base text others) := by
  constructor
  · intro hSpells
    cases hSpells with
    | last hDigit => exact ⟨_, [], rfl, hDigit, .inl ⟨rfl, rfl⟩⟩
    | digit hDigit hRest =>
        exact ⟨_, _, rfl, hDigit, .inr (.inl hRest)⟩
    | underscore hDigit hRest =>
        exact ⟨_, _, rfl, hDigit, .inr (.inr ⟨_, rfl, hRest⟩)⟩
  · rintro ⟨value, others, rfl, hDigit, hBehind⟩
    rcases hBehind with ⟨rfl, rfl⟩ | hRest | ⟨rest, rfl, hRest⟩
    · exact .last hDigit
    · exact .digit hDigit hRest
    · exact .underscore hDigit hRest

theorem not_attached_nil :
    ¬ Attached base [] digits := by
  rintro (hSpells | ⟨rest, hText, -⟩)
  · cases hSpells
  · cases hText

theorem attached_iff_of_ne_underscore
    (hOther : c ≠ '_') :
    Attached base (c :: rest) digits ↔
      Spells base (c :: rest) digits := by
  constructor
  · rintro (hSpells | ⟨others, hText, -⟩)
    · exact hSpells
    · exact absurd (List.cons.inj hText).1 hOther
  · exact .inl

theorem plainDigit_eq_underscore_iff :
    plainDigit c = '_' ↔ c = '_' :=
  plainDigit_eq_iff (by decide)

variable (hBase : base ≤ 16)

include hBase

/- An underscore is no digit. -/
theorem not_spells_underscore :
    ¬ Spells base ('_' :: rest) digits := by
  have hNone : digitValue? 16 (plainDigit '_') = none := by decide
  intro hSpells
  rcases spells_cons_iff.mp hSpells with ⟨value, -, -, hDigit, -⟩
  rw [← digitValue?_plainDigit hBase,
    digitValue?_eq_some_iff_sixteen hBase, hNone] at hDigit
  cases hDigit.1

theorem attached_underscore_iff :
    Attached base ('_' :: rest) digits ↔ Spells base rest digits := by
  constructor
  · rintro (hSpells | ⟨others, hText, hSpells⟩)
    · exact absurd hSpells (not_spells_underscore hBase)
    · cases hText
      exact hSpells
  · exact fun hSpells => .inr ⟨rest, rfl, hSpells⟩

/- One digit is read, and then others behind it. -/
theorem digitsOf?_cons_eq_some_iff
    (afterDigit : Bool)
    (hOther : c ≠ '_') :
    digitsOf? base afterDigit (plainDigit c :: text) = some digits ↔
      ∃ value others,
        digits = value :: others ∧ IsDigit base c value ∧
          digitsOf? base true text = some others := by
  rw [digitsOf?, if_neg (mt plainDigit_eq_underscore_iff.mp hOther)]
  constructor
  · intro hRead
    cases hValue : digitValue? base (plainDigit c) with
    | none =>
        rw [hValue] at hRead
        cases hRead
    | some value =>
        rw [hValue] at hRead
        rcases Option.map_eq_some_iff.mp hRead with
          ⟨others, hOthers, rfl⟩
        exact
          ⟨value, others, rfl, (digitValue?_plainDigit hBase).mp hValue,
            hOthers⟩
  · rintro ⟨value, others, rfl, hDigit, hOthers⟩
    rw [(digitValue?_plainDigit hBase).mpr hDigit]
    exact Option.map_eq_some_iff.mpr ⟨others, hOthers, rfl⟩

/-
  Digits are read as they are spelled, at the beginning and
  behind other digits.
-/
theorem digitsOf?_map_plainDigit
    (text : List Char)
    (digits : List Nat) :
    (digitsOf? base false (text.map plainDigit) = some digits ↔
      Spells base text digits) ∧
    (digitsOf? base true (text.map plainDigit) = some digits ↔
      text = [] ∧ digits = [] ∨ Attached base text digits) := by
  induction text generalizing digits with
  | nil =>
      constructor
      · exact iff_of_false (by simp [digitsOf?]) (by rintro ⟨⟩)
      · simp [digitsOf?, not_attached_nil, eq_comm]
  | cons c rest ih =>
      have hSome : ¬ (c :: rest = [] ∧ digits = []) := by simp
      rw [List.map_cons, or_iff_right hSome]
      by_cases hMark : c = '_'
      · subst hMark
        have hSame := plainDigit_eq_underscore_iff.mpr rfl
        rw [digitsOf?, digitsOf?, if_pos hSame, if_pos hSame,
          attached_underscore_iff hBase]
        refine ⟨iff_of_false (by simp) ?_, (ih digits).1⟩
        exact not_spells_underscore hBase
      · rw [attached_iff_of_ne_underscore hMark, spells_cons_iff,
          digitsOf?_cons_eq_some_iff hBase false hMark,
          digitsOf?_cons_eq_some_iff hBase true hMark]
        simp only [(ih _).2, and_self]

end

/- The value of digits is the one by their positions. -/
theorem valueOf_eq_positional
    (base : Nat)
    (digits : List Nat) :
    valueOf base digits = positional base digits := by
  unfold valueOf positional
  rw [Nat.ofDigits_eq_foldr, List.foldr_reverse]
  congr 1
  funext value digit
  rw [Nat.cast_id, Nat.add_comm, Nat.mul_comm]

------------------------------------------------------------
-- Numerals
------------------------------------------------------------

theorem baseOf?_plainDigit
    {c : Char}
    {base : Nat} :
    baseOf? (plainDigit c) = some base ↔ (c, base) ∈ baseLetters := by
  have hSame :
      ∀ entry ∈ baseLetters, (plainDigit c = entry.1 ↔ c = entry.1) := by
    have hNone :
        ∀ entry ∈ baseLetters,
          Unicode.decimalValue? entry.1 = none := by
      decide
    exact fun entry hEntry => plainDigit_eq_iff (hNone entry hEntry)
  simp only [baseLetters, List.forall_mem_cons] at hSame
  simp only [baseOf?, hSame, baseLetters, List.mem_cons,
    Prod.mk.injEq, List.not_mem_nil, or_false]
  grind

theorem base_le_of_mem
    {letter : Char}
    {base : Nat}
    (hLetter : (letter, base) ∈ baseLetters) :
    base ≤ 16 := by
  have hAll : ∀ entry ∈ baseLetters, entry.2 ≤ 16 := by decide
  exact hAll _ hLetter

/- The letters of the bases are no digits of base ten. -/
theorem not_spells_baseLetter
    {zero letter : Char}
    {base : Nat}
    {text : List Char}
    {digits : List Nat}
    (hLetter : (letter, base) ∈ baseLetters) :
    ¬ Spells 10 (zero :: letter :: text) digits := by
  have hApart :
      ∀ entry ∈ baseLetters,
        entry.1 ≠ '_' ∧
          digitValue? 10 (plainDigit entry.1) = none := by
    decide
  have hNone := hApart _ hLetter
  intro hSpells
  rcases spells_cons_iff.mp hSpells with
    ⟨value, others, -, -, ⟨hText, -⟩ | hBehind⟩
  · cases hText
  · rw [attached_iff_of_ne_underscore hNone.1] at hBehind
    rcases spells_cons_iff.mp hBehind with ⟨digit, -, -, hDigit, -⟩
    rw [← digitValue?_plainDigit (by decide), hNone.2] at hDigit
    cases hDigit

theorem basedMagnitude?_eq_some_iff
    {base n : Nat}
    {text : List Char}
    (hBase : base ≤ 16) :
    basedMagnitude? base (text.map plainDigit) = some n ↔
      ∃ digits,
        Attached base text digits ∧ positional base digits = n := by
  have hRead :
      ∀ text,
        (digitsOf? base false (List.map plainDigit text)).map
            (valueOf base) = some n ↔
          ∃ digits,
            Spells base text digits ∧ positional base digits = n := by
    intro text
    simp only [Option.map_eq_some_iff, valueOf_eq_positional,
      (digitsOf?_map_plainDigit hBase _ _).1]
  cases text with
  | nil =>
      refine iff_of_false (by simp [basedMagnitude?, digitsOf?]) ?_
      rintro ⟨digits, hDigits, -⟩
      exact not_attached_nil hDigits
  | cons c rest =>
      by_cases hMark : c = '_'
      · subst hMark
        simp only [attached_underscore_iff hBase]
        rw [← hRead, List.map_cons,
          plainDigit_eq_underscore_iff.mpr rfl]
        rfl
      · simp only [attached_iff_of_ne_underscore hMark]
        rw [← hRead, List.map_cons]
        have hOther := mt plainDigit_eq_underscore_iff.mp hMark
        unfold basedMagnitude?
        split
        next hText => exact absurd (List.cons.inj hText).1 hOther
        next => rfl

theorem decimalMagnitude?_eq_some_iff
    {text : List Char}
    {n : Nat} :
    decimalMagnitude? (text.map plainDigit) = some n ↔
      ∃ digits,
        Spells 10 text digits ∧ digits.length ≤ 4300 ∧
          (digits.head? = some 0 → positional 10 digits = 0) ∧
            positional 10 digits = n := by
  unfold decimalMagnitude?
  constructor
  · intro hRead
    split at hRead
    next => cases hRead
    next digits hDigits =>
      rw [(digitsOf?_map_plainDigit (by decide) _ _).1] at hDigits
      rw [valueOf_eq_positional] at hRead
      refine ⟨digits, hDigits, ?_⟩
      grind [maxDecimalDigits]
  · rintro ⟨digits, hDigits, hLength, hLead, rfl⟩
    rw [(digitsOf?_map_plainDigit (by decide) _ _).1.mpr hDigits]
    dsimp only
    rw [valueOf_eq_positional,
      if_neg (show ¬ maxDecimalDigits < _ from Nat.not_lt.mpr hLength),
      if_neg fun hZero => hZero.2 (hLead hZero.1)]

/- A text begins with a zero and the letter of a base. -/
def HasBase
    (text : List Char) :
    Prop :=
  ∃ zero letter rest base,
    text = zero :: letter :: rest ∧
      Unicode.decimalValue? zero = some 0 ∧
        (letter, base) ∈ baseLetters

theorem magnitude?_of_hasBase
    {zero letter : Char}
    {base : Nat}
    (rest : List Char)
    (hZero : Unicode.decimalValue? zero = some 0)
    (hLetter : (letter, base) ∈ baseLetters) :
    magnitude? ((zero :: letter :: rest).map plainDigit) =
      basedMagnitude? base (rest.map plainDigit) := by
  rw [List.map_cons, List.map_cons, plainDigit_eq_zero_iff.mpr hZero]
  rw [magnitude?, baseOf?_plainDigit.mpr hLetter]

theorem magnitude?_of_not_hasBase
    {text : List Char}
    (hDecimal : ¬ HasBase text) :
    magnitude? (text.map plainDigit) =
      decimalMagnitude? (text.map plainDigit) := by
  unfold magnitude?
  split
  next letter rest hText =>
    rcases List.map_eq_cons_iff.mp hText with
      ⟨zero, others, rfl, hZero, hOthers⟩
    rcases List.map_eq_cons_iff.mp hOthers with
      ⟨first, behind, rfl, rfl, -⟩
    cases hBase : baseOf? (plainDigit first) with
    | none => rfl
    | some base =>
        exact absurd
          ⟨zero, first, behind, base, rfl,
            plainDigit_eq_zero_iff.mp hZero,
            baseOf?_plainDigit.mp hBase⟩ hDecimal
  next => rfl

/- What is read without a sign is what is denoted without one. -/
theorem magnitude?_eq_some_iff
    {text : List Char}
    {n : Nat} :
    magnitude? (text.map plainDigit) = some n ↔ Unsigned text n := by
  by_cases hHasBase : HasBase text
  · rcases hHasBase with
      ⟨zero, letter, rest, base, rfl, hZero, hLetter⟩
    rw [magnitude?_of_hasBase rest hZero hLetter,
      basedMagnitude?_eq_some_iff (base_le_of_mem hLetter)]
    constructor
    · rintro ⟨digits, hDigits, rfl⟩
      exact .based hZero hLetter hDigits
    · intro hUnsigned
      cases hUnsigned with
      | based _ hOther hDigits =>
          rw [← baseOf?_plainDigit] at hLetter hOther
          cases hLetter.symm.trans hOther
          exact ⟨_, hDigits, rfl⟩
      | decimal hDigits =>
          -- The letter of a base is no decimal digit.
          exact absurd hDigits (not_spells_baseLetter hLetter)
  · rw [magnitude?_of_not_hasBase hHasBase,
      decimalMagnitude?_eq_some_iff]
    constructor
    · rintro ⟨digits, hDigits, hLength, hLead, rfl⟩
      exact .decimal hDigits hLength hLead
    · intro hUnsigned
      cases hUnsigned with
      | based hZero hLetter =>
          exact absurd ⟨_, _, _, _, rfl, hZero, hLetter⟩ hHasBase
      | decimal hDigits hLength hLead =>
          exact ⟨_, hDigits, hLength, hLead, rfl⟩

------------------------------------------------------------
-- Signs and Blanks
------------------------------------------------------------

theorem IsDigit.continuesWord
    {base value : Nat}
    {c : Char}
    (hBase : base ≤ 16)
    (hDigit : IsDigit base c value) :
    MonkeyLang.continuesWord c = true := by
  have hLetters :
      ∀ value < 16, 10 ≤ value →
        MonkeyLang.continuesWord value.digitChar = true ∧
          MonkeyLang.continuesWord value.digitChar.toUpper = true := by
    decide
  rcases hDigit with ⟨hBelow, hDecimal | ⟨hTen, rfl | rfl⟩⟩
  · exact continuesWord_of_isDigit (by simp [Unicode.isDigit, hDecimal])
  · exact (hLetters value (by omega) hTen).1
  · exact (hLetters value (by omega) hTen).2

theorem Spells.continuesWord
    {base : Nat}
    {text : List Char}
    {digits : List Nat}
    (hBase : base ≤ 16)
    (hSpells : Spells base text digits) :
    ∀ c ∈ text, MonkeyLang.continuesWord c = true := by
  have hUnderscore : MonkeyLang.continuesWord '_' = true := by decide
  induction hSpells with
  | last hDigit => simpa using hDigit.continuesWord hBase
  | digit hDigit _ ih => simpa using ⟨hDigit.continuesWord hBase, ih⟩
  | underscore hDigit _ ih =>
      simpa [hUnderscore] using ⟨hDigit.continuesWord hBase, ih⟩

theorem Attached.continuesWord
    {base : Nat}
    {text : List Char}
    {digits : List Nat}
    (hBase : base ≤ 16)
    (hDigits : Attached base text digits) :
    ∀ c ∈ text, MonkeyLang.continuesWord c = true := by
  have hUnderscore : MonkeyLang.continuesWord '_' = true := by decide
  rcases hDigits with hSpells | ⟨rest, rfl, hSpells⟩
  · exact hSpells.continuesWord hBase
  · simpa [hUnderscore] using hSpells.continuesWord hBase

/- A numeral without a sign is read as a number. -/
theorem Unsigned.isNumber
    {text : List Char}
    {n : Nat}
    (hUnsigned : Unsigned text n) :
    IsNumber text := by
  cases hUnsigned with
  | based hZero hLetter hDigits =>
      have hLetters :
          ∀ entry ∈ baseLetters,
            MonkeyLang.continuesWord entry.1 = true := by
        decide
      refine ⟨by simp [Unicode.isDigit, hZero], ?_⟩
      rw [List.forall_mem_cons]
      exact ⟨hLetters _ hLetter,
        hDigits.continuesWord (base_le_of_mem hLetter)⟩
  | @decimal _ digits hDigits =>
      have hAll := hDigits.continuesWord (by decide)
      cases text with
      | nil => cases hDigits
      | cons c rest =>
          rw [List.forall_mem_cons] at hAll
          rcases spells_cons_iff.mp hDigits with
            ⟨value, -, -, ⟨hBelow, hDecimal | ⟨hTen, -⟩⟩, -⟩
          · exact ⟨by simp [Unicode.isDigit, hDecimal], hAll.2⟩
          · omega

theorem Unsigned.isWhiteSpace
    {text : List Char}
    {n : Nat}
    (hUnsigned : Unsigned text n) :
    ∀ c ∈ text, Unicode.isWhiteSpace c = false := by
  intro c hMem
  have hContinues := continuesWord_of_isNumber hUnsigned.isNumber c hMem
  cases hSpace : Unicode.isWhiteSpace c with
  | false => rfl
  | true =>
      have hBlank : Unicode.isBlank c = true := by
        simp [Unicode.isBlank, hSpace]
      rw [continuesWord_of_isBlank hBlank] at hContinues
      cases hContinues

/- A numeral is not empty, and there are no blanks in it. -/
theorem Signed.isWhiteSpace
    {text : List Char}
    {value : Int}
    (hSigned : Signed text value) :
    text ≠ [] ∧ ∀ c ∈ text, Unicode.isWhiteSpace c = false := by
  cases hSigned with
  | plain hUnsigned =>
      refine ⟨?_, hUnsigned.isWhiteSpace⟩
      rintro rfl
      exact hUnsigned.isNumber
  | plus hUnsigned | minus hUnsigned =>
      refine ⟨List.cons_ne_nil _ _, ?_⟩
      rw [List.forall_mem_cons]
      exact ⟨by decide, hUnsigned.isWhiteSpace⟩

theorem plainDigit_eq_sign_iff
    {c sign : Char}
    (hSign : sign = '+' ∨ sign = '-') :
    plainDigit c = sign ↔ c = sign := by
  rcases hSign with rfl | rfl
  · exact plainDigit_eq_iff (by decide)
  · exact plainDigit_eq_iff (by decide)

/- The first character of a numeral without a sign is none. -/
theorem Unsigned.ne_sign
    {text rest : List Char}
    {n : Nat}
    {sign : Char}
    (hUnsigned : Unsigned text n)
    (hSign : sign = '+' ∨ sign = '-') :
    text.map plainDigit ≠ sign :: rest := by
  intro hText
  rcases List.map_eq_cons_iff.mp hText with
    ⟨c, others, rfl, hFirst, -⟩
  rw [plainDigit_eq_sign_iff hSign] at hFirst
  subst hFirst
  rcases hSign with rfl | rfl <;>
    exact absurd hUnsigned.isNumber.1 (by decide)

theorem read?_eq_some_iff_signed
    {text : String}
    {value : Int} :
    read? text = some value ↔
      Signed (Text.trimWhile Unicode.isWhiteSpace text.toList)
        value := by
  unfold read?
  generalize Text.trimWhile Unicode.isWhiteSpace text.toList = body
  dsimp only
  constructor
  · intro hRead
    split at hRead
    next rest hBody =>
      rcases List.map_eq_cons_iff.mp hBody with
        ⟨sign, digits, rfl, hSign, rfl⟩
      rw [plainDigit_eq_sign_iff (.inl rfl)] at hSign
      rcases Option.map_eq_some_iff.mp hRead with ⟨n, hFound, rfl⟩
      rw [hSign]
      exact .plus (magnitude?_eq_some_iff.mp hFound)
    next rest hBody =>
      rcases List.map_eq_cons_iff.mp hBody with
        ⟨sign, digits, rfl, hSign, rfl⟩
      rw [plainDigit_eq_sign_iff (.inr rfl)] at hSign
      rcases Option.map_eq_some_iff.mp hRead with ⟨n, hFound, rfl⟩
      rw [hSign]
      exact .minus (magnitude?_eq_some_iff.mp hFound)
    next =>
      rcases Option.map_eq_some_iff.mp hRead with ⟨n, hFound, rfl⟩
      exact .plain (magnitude?_eq_some_iff.mp hFound)
  · intro hSigned
    cases hSigned with
    | plain hUnsigned =>
        split
        next hBody => exact absurd hBody (hUnsigned.ne_sign (.inl rfl))
        next hBody => exact absurd hBody (hUnsigned.ne_sign (.inr rfl))
        next =>
          exact
            Option.map_eq_some_iff.mpr
              ⟨_, magnitude?_eq_some_iff.mpr hUnsigned, rfl⟩
    | plus hUnsigned =>
        rw [List.map_cons,
          (plainDigit_eq_sign_iff (.inl rfl)).mpr rfl]
        exact
          Option.map_eq_some_iff.mpr
            ⟨_, magnitude?_eq_some_iff.mpr hUnsigned, rfl⟩
    | minus hUnsigned =>
        rw [List.map_cons,
          (plainDigit_eq_sign_iff (.inr rfl)).mpr rfl]
        exact
          Option.map_eq_some_iff.mpr
            ⟨_, magnitude?_eq_some_iff.mpr hUnsigned, rfl⟩

/- The value that is read is the one that is denoted. -/
theorem read?_eq_some_iff
    {text : String}
    {value : Int} :
    read? text = some value ↔ Denotes text.toList value := by
  rw [read?_eq_some_iff_signed]
  constructor
  · intro hSigned
    rcases Text.exists_behind_trimWhile Unicode.isWhiteSpace
        text.toList with ⟨after, hText, hAfter⟩
    refine ⟨_, _, after, hText.trans (List.append_assoc ..).symm, ?_,
      hSigned⟩
    rw [List.forall_mem_append]
    exact ⟨fun c hMem => List.mem_takeWhile_imp hMem, hAfter⟩
  · rintro ⟨before, body, after, hText, hBlank, hSigned⟩
    have hInside := hSigned.isWhiteSpace
    rw [hText, Text.trimWhile_append hBlank hInside.1 hInside.2]
    exact hSigned

end Numeral

end MonkeyLang
