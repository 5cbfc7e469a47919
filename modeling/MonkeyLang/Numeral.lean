import MonkeyLang.Text.Layout
import MonkeyLang.Unicode.Numeric

/-
  This file defines the integer numerals of the language and
  their values.

  A numeral may be surrounded by white space and may carry one
  sign. It is decimal, or begins with 0x, 0o or 0b for base 16,
  8 or 2. Its digits may be separated by single underscores; an
  underscore may also follow the base. A decimal numeral may
  begin with a zero only if its value is zero. The decimal
  digits of every script count as the digits 0 to 9.

  Key definitions include:
    * `digitValue?`    (the value of a digit in a base)
    * `digitsOf?`      (digits with single underscores)
    * `magnitude?`     (an unsigned numeral)
    * `read?`          (a numeral)
-/

------------------------------------------------------------
-- Digits
------------------------------------------------------------

namespace MonkeyLang

namespace Numeral

/- The digits a decimal numeral may have at most. -/
def maxDecimalDigits : Nat := 4300

/- A decimal digit of any script as one of '0' to '9'. -/
def plainDigit
    (c : Char) :
    Char :=
  match Unicode.decimalValue? c with
  | some value => Char.ofNat ('0'.toNat + value)
  | none => c

/- The value of a digit, if it is below the base. -/
def digitValue?
    (base : Nat)
    (c : Char) :
    Option Nat :=
  let value? :=
    if '0' ≤ c ∧ c ≤ '9' then
      some (c.toNat - '0'.toNat)
    else if 'a' ≤ c ∧ c ≤ 'z' then
      some (c.toNat - 'a'.toNat + 10)
    else if 'A' ≤ c ∧ c ≤ 'Z' then
      some (c.toNat - 'A'.toNat + 10)
    else
      none
  value?.filter (· < base)

/-
  The values of digits that are separated by single
  underscores. The flag tells whether a digit has just been
  read: only then may an underscore follow or the text end.
-/
def digitsOf?
    (base : Nat)
    (afterDigit : Bool)
    (text : List Char) :
    Option (List Nat) :=
  match text with
  | [] => if afterDigit then some [] else none
  | c :: rest =>
      if c = '_' then
        if afterDigit then
          digitsOf? base false rest
        else
          none
      else
        match digitValue? base c with
        | none => none
        | some value =>
            (digitsOf? base true rest).map (value :: ·)

/- The number that digits denote, the most significant first. -/
def valueOf
    (base : Nat)
    (digits : List Nat) :
    Nat :=
  digits.foldl (fun value digit => value * base + digit) 0

------------------------------------------------------------
-- Numerals
------------------------------------------------------------

/- The base that a letter after a leading zero selects. -/
def baseOf?
    (c : Char) :
    Option Nat :=
  if c = 'x' ∨ c = 'X' then
    some 16
  else if c = 'o' ∨ c = 'O' then
    some 8
  else if c = 'b' ∨ c = 'B' then
    some 2
  else
    none

/- Digits after the letter of a base: one underscore may come first. -/
def basedMagnitude?
    (base : Nat)
    (text : List Char) :
    Option Nat :=
  let digits :=
    match text with
    | '_' :: rest => rest
    | _ => text
  (digitsOf? base false digits).map (valueOf base)

/-
  A decimal numeral without a sign. Its length is limited, and
  a leading zero is the mark of the value zero.
-/
def decimalMagnitude?
    (text : List Char) :
    Option Nat :=
  match digitsOf? 10 false text with
  | none => none
  | some digits =>
      if digits.length > maxDecimalDigits then
        none
      else if digits.head? = some 0 ∧ valueOf 10 digits ≠ 0 then
        none
      else
        some (valueOf 10 digits)

/- A numeral without sign and surrounding white space. -/
def magnitude?
    (text : List Char) :
    Option Nat :=
  match text with
  | '0' :: letter :: rest =>
      match baseOf? letter with
      | some base => basedMagnitude? base rest
      | none => decimalMagnitude? text
  | _ => decimalMagnitude? text

/- The value of a numeral, or none if the text is not one. -/
def read?
    (text : String) :
    Option Int :=
  let body :=
    (Text.trimWhile Unicode.isWhiteSpace text.toList).map plainDigit
  match body with
  | '+' :: digits => (magnitude? digits).map Int.ofNat
  | '-' :: digits => (magnitude? digits).map fun n => -Int.ofNat n
  | digits => (magnitude? digits).map Int.ofNat

end Numeral

end MonkeyLang
