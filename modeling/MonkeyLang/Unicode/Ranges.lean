/-
  This file defines sets of characters given by ranges of
  code points.

  Key definitions include:
    * `Ranges`            (a table of inclusive ranges)
    * `Ranges.contains`   (membership in an ascending table)
-/

------------------------------------------------------------
-- Ranges of Code Points
------------------------------------------------------------

namespace MonkeyLang

namespace Unicode

/-
  A set of code points: inclusive ranges, in ascending
  order, each beginning after the one before it ends.
-/
abbrev Ranges : Type := List (Nat × Nat)

/-
  Whether a code point lies in an ascending table. A range
  that starts beyond the code point ends the search.
-/
def Ranges.contains
    (table : Ranges)
    (code : Nat) :
    Bool :=
  match table with
  | [] => false
  | (first, last) :: rest =>
      if code < first then
        false
      else if code ≤ last then
        true
      else
        Ranges.contains rest code

end Unicode

end MonkeyLang
