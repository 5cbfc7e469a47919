import MonkeyLang.Parser.Routines
import MonkeyLang.Token.Lexer

/-
  This file defines how whole programs are parsed.

  Key definitions include:
    * `Parsed`         (a program and the errors found on the way)
    * `parseTokens`
    * `parse`
-/

------------------------------------------------------------
-- Programs
------------------------------------------------------------

namespace MonkeyLang

/-
  The statements of a program that could be parsed, and the
  errors, in the order in which they were found.
-/
structure Parsed where
  statements : List Node
  errors : List SyntaxError

namespace Parsed

def program
    (parsed : Parsed) :
    Node :=
  .program parsed.statements

def messages
    (parsed : Parsed) :
    List String :=
  parsed.errors.map SyntaxError.message

end Parsed

/- Parse the tokens up to the end of input. -/
def parseTokens
    (tokens : List Token) :
    Parsed :=
  match Parse.programStatements (ParserState.ofTokens tokens) with
  | (statements?, state) => ⟨statements?.getD [], state.errors⟩

def parse
    (source : String) :
    Parsed :=
  parseTokens (tokenize source)

end MonkeyLang
