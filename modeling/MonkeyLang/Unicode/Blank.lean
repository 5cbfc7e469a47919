import MonkeyLang.Unicode.Ranges

/-
  This file defines the blank characters that are trimmed
  from the ends of texts.

  Key definitions include:
    * `isWhiteSpace`   (the property White_Space)
    * `isBlank`        (White_Space or an information separator)
-/

------------------------------------------------------------
-- White Space
------------------------------------------------------------

namespace MonkeyLang

namespace Unicode

/- The code points with the property White_Space. -/
def whiteSpaceRanges : Ranges := [
  (0x9, 0xd), (0x20, 0x20), (0x85, 0x85), (0xa0, 0xa0), (0x1680, 0x1680),
  (0x2000, 0x200a), (0x2028, 0x2029), (0x202f, 0x202f), (0x205f, 0x205f),
  (0x3000, 0x3000) ]

def isWhiteSpace
    (c : Char) :
    Bool :=
  whiteSpaceRanges.contains c.toNat

/- The code points of the four information separators. -/
def separatorRanges : Ranges := [(0x1c, 0x1f)]

/- Whether a character is white space or an information separator. -/
def isBlank
    (c : Char) :
    Bool :=
  isWhiteSpace c || separatorRanges.contains c.toNat

end Unicode

end MonkeyLang
