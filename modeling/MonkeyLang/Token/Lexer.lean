import MonkeyLang.Source.Cursor
import MonkeyLang.Token.Basic
import MonkeyLang.Token.Lexeme

/-
  This file defines how a cursor reads tokens.

  Key definitions include:
    * `Cursor.skipGap`           (pass over blanks and comments)
    * `Cursor.matchSymbol`       (read an operator or delimiter)
    * `Cursor.nextToken`         (read one token)
    * `Cursor.tokens`, `tokenize`  (read all tokens)
-/

------------------------------------------------------------
-- One Token
------------------------------------------------------------

namespace MonkeyLang

namespace Cursor

/-
  Pass over blanks and comments. What stands before the start
  of the source counts as blank.
-/
def skipGap
    (cursor : Cursor) :
    Cursor :=
  let start := cursor.toStart
  start.forwardBy (gapLength false start.ahead)

/-
  Pass over the rest of the line, and before that over what
  stands before the start of the source.
-/
def skipComment
    (cursor : Cursor) :
    Cursor :=
  let start := cursor.toStart
  start.forwardBy (commentLength start.ahead)

/- The token that a lexeme makes at the cursor. -/
def tokenOf
    (cursor : Cursor)
    (lexeme : Lexeme) :
    Token :=
  ⟨⟨String.ofList lexeme.literal, cursor.line, cursor.column⟩, lexeme.kind⟩

/-
  Read the longest operator or delimiter at the cursor. If
  there is none, the cursor stays.
-/
def matchSymbol
    (cursor : Cursor) :
    Option Token × Cursor :=
  match Lexeme.symbol? cursor.ahead with
  | none => (none, cursor)
  | some lexeme =>
      (some (cursor.tokenOf lexeme), cursor.forwardBy lexeme.length)

/-
  Read the next token. At the end of the source it is the end
  of input, however often it is read.
-/
def nextToken
    (cursor : Cursor) :
    Token × Cursor :=
  let start := cursor.skipGap
  match Lexeme.first? start.ahead with
  | none => (Token.endAt start.line start.column, start)
  | some lexeme =>
      (start.tokenOf lexeme, start.forwardBy lexeme.length)

------------------------------------------------------------
-- All Tokens
------------------------------------------------------------

/- Read at most a number of tokens, up to the end of input. -/
def tokensWithin
    (limit : Nat)
    (cursor : Cursor) :
    List Token × Cursor :=
  match limit with
  | 0 => ([], cursor)
  | limit + 1 =>
      let (token, next) := cursor.nextToken
      if token.kind = .eof then
        ([token], next)
      else
        let (tokens, finish) := tokensWithin limit next
        (token :: tokens, finish)

/-
  Read all tokens up to the end of input. Every other token
  takes a character, so there are not more tokens than
  characters.
-/
def tokens
    (cursor : Cursor) :
    List Token × Cursor :=
  cursor.tokensWithin (cursor.rest.length + 1)

end Cursor

def tokenize
    (source : String) :
    List Token :=
  (Cursor.ofString source).tokens.1

end MonkeyLang
