import MonkeyLang.Token.Basic

/-
  This file defines the errors that parsing can report.

  Key definitions include:
    * `SyntaxError.Cause`     (what is wrong)
    * `SyntaxError`           (a cause at a place)
    * `SyntaxError.message`   (the wording)
-/

------------------------------------------------------------
-- Syntax Errors
------------------------------------------------------------

namespace MonkeyLang

/- What can be wrong with the tokens of a program. -/
inductive SyntaxError.Cause where
  | unexpected (wanted found : TokenKind)
  | startsNoExpression (kind : TokenKind)
  | badInteger (literal : String)
  | badBoolean (literal : String)
  | unclosedBlock
deriving DecidableEq

/- An error with the line and the column of the token it is about. -/
structure SyntaxError where
  cause : SyntaxError.Cause
  line : Int
  column : Int
deriving DecidableEq

namespace SyntaxError

def about
    (token : Token)
    (cause : Cause) :
    SyntaxError :=
  ⟨cause, token.line, token.column⟩

def Cause.message
    (cause : Cause) :
    String :=
  match cause with
  | .unexpected wanted found =>
      "expected next token to be " ++ wanted.label ++
        ", got " ++ found.label ++ " instead"
  | .startsNoExpression kind =>
      "no prefix parse function for " ++ kind.label ++ " found"
  | .badInteger literal =>
      "could not parse " ++ Text.quoted literal ++ " as integer"
  | .badBoolean literal =>
      "could not parse " ++ Text.quoted literal ++ " as boolean"
  | .unclosedBlock =>
      "expected '" ++ Text.closeBrace ++ "' to close block, got EOF"

/- The wording of an error: its cause, then its place. -/
def message
    (error : SyntaxError) :
    String :=
  error.cause.message ++ " at line " ++ toString error.line ++
    ", col " ++ toString error.column

end SyntaxError

end MonkeyLang
