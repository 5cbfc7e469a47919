import MonkeyLang.Token.Kind

/-
  This file defines how tightly operators bind.

  Key definitions include:
    * `Precedence`
    * `Precedence.level`   (the order of the precedences)
    * `precedenceOf`       (the precedence of a kind of token)
-/

------------------------------------------------------------
-- Precedences
------------------------------------------------------------

namespace MonkeyLang

/- The binding strengths, from the loosest to the tightest. -/
inductive Precedence where
  | lowest
  | equals
  | lessGreater
  | sum
  | product
  | unary
  | call
deriving DecidableEq

namespace Precedence

def all : List Precedence := [
  .lowest, .equals, .lessGreater, .sum, .product, .unary, .call ]

def level
    (precedence : Precedence) :
    Nat :=
  match precedence with
  | .lowest => 1
  | .equals => 2
  | .lessGreater => 3
  | .sum => 4
  | .product => 5
  | .unary => 6
  | .call => 7

def name
    (precedence : Precedence) :
    String :=
  match precedence with
  | .lowest => "LOWEST"
  | .equals => "EQUALS"
  | .lessGreater => "LESSGREATER"
  | .sum => "SUM"
  | .product => "PRODUCT"
  | .unary => "PREFIX"
  | .call => "CALL"

/- A precedence is lower than another if it binds less tightly. -/
instance : LT Precedence where
  lt first second := first.level < second.level

instance
    (first second : Precedence) :
    Decidable (first < second) :=
  inferInstanceAs (Decidable (first.level < second.level))

end Precedence

------------------------------------------------------------
-- Precedences of Tokens
------------------------------------------------------------

/- The kinds of tokens that continue an expression, and how tightly. -/
def precedences : List (TokenKind × Precedence) := [
  (.eq, .equals),
  (.notEq, .equals),
  (.lt, .lessGreater),
  (.gt, .lessGreater),
  (.plus, .sum),
  (.minus, .sum),
  (.asterisk, .product),
  (.slash, .product),
  (.lparen, .call) ]

/- The precedence of a kind; a kind that continues nothing has the lowest. -/
def precedenceOf
    (kind : TokenKind) :
    Precedence :=
  (precedences.lookup kind).getD .lowest

end MonkeyLang
