/-
  This file defines hexadecimal numerals of a fixed width, as
  they appear in character escapes.

  Key definitions include:
    * `hexDigit`    (one lower-case hexadecimal digit)
    * `hexDigits`   (the last digits of a number)
-/

------------------------------------------------------------
-- Hexadecimal Digits
------------------------------------------------------------

namespace MonkeyLang

namespace Text

/- The lower-case hexadecimal digit of a number below 16. -/
def hexDigit
    (n : Nat) :
    Char :=
  if n < 10 then
    Char.ofNat ('0'.toNat + n)
  else
    Char.ofNat ('a'.toNat + (n - 10))

/- The last `width` hexadecimal digits, the most significant first. -/
def hexDigits
    (width : Nat)
    (n : Nat) :
    List Char :=
  match width with
  | 0 => []
  | width + 1 => hexDigits width (n / 16) ++ [hexDigit (n % 16)]

end Text

end MonkeyLang
