import MonkeyLang.Token.Kind

/-
  This file defines which parsing routine each kind of token
  selects, where an expression begins and where it goes on.

  Key definitions include:
    * `Opening`, `opening?`       (what opens an expression)
    * `Extension`, `extension?`   (what extends an expression)
-/

------------------------------------------------------------
-- Openings
------------------------------------------------------------

namespace MonkeyLang

/- The routines that open an expression. -/
inductive Opening where
  | identifier
  | integer
  | string
  | boolean
  | unary
  | grouped
  | ifExpression
  | functionLiteral
deriving DecidableEq

def openings : List (TokenKind × Opening) := [
  (.ident, .identifier),
  (.int, .integer),
  (.string, .string),
  (.trueWord, .boolean),
  (.falseWord, .boolean),
  (.bang, .unary),
  (.minus, .unary),
  (.lparen, .grouped),
  (.ifWord, .ifExpression),
  (.fnWord, .functionLiteral) ]

def opening?
    (kind : TokenKind) :
    Option Opening :=
  openings.lookup kind

------------------------------------------------------------
-- Extensions
------------------------------------------------------------

/- The routines that extend an expression. -/
inductive Extension where
  | binary
  | call
deriving DecidableEq

def extensions : List (TokenKind × Extension) :=
  binaryOperators.map (fun kind => (kind, .binary)) ++ [(.lparen, .call)]

def extension?
    (kind : TokenKind) :
    Option Extension :=
  extensions.lookup kind

end MonkeyLang
