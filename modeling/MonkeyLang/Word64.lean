/-
  This file defines the integers of the language: they are
  signed 64-bit numbers, and arithmetic wraps around.

  Key definitions include:
    * `minimum`, `maximum`   (the limits)
    * `inRange`
    * `wrap`               (the signed residue modulo 2 ^ 64)
    * `quotient`           (rounded toward zero)
-/

------------------------------------------------------------
-- Signed 64-bit Numbers
------------------------------------------------------------

namespace MonkeyLang

namespace Word64

/- The lowest number, -2 ^ 63. -/
def minimum : Int := -0x8000000000000000

/- The highest number, 2 ^ 63 - 1. -/
def maximum : Int := 0x7fffffffffffffff

def inRange
    (n : Int) :
    Bool :=
  minimum ≤ n && n ≤ maximum

/- The signed 64-bit number congruent to an integer modulo 2 ^ 64. -/
def wrap
    (n : Int) :
    Int :=
  (n + 0x8000000000000000) % 0x10000000000000000 - 0x8000000000000000

/-
  The quotient of two integers, rounded toward zero: that of
  their magnitudes, negated if one of them is negative and the
  other is not.
-/
def quotient
    (dividend divisor : Int) :
    Int :=
  let magnitude : Int := dividend.natAbs / divisor.natAbs
  if decide (dividend < 0) != decide (divisor < 0) then
    -magnitude
  else
    magnitude

end Word64

end MonkeyLang
