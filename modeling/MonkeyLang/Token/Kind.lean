import MonkeyLang.Text.Layout

/-
  This file defines the kinds of tokens, their names and the
  texts that belong to keywords and operators.

  Key definitions include:
    * `TokenKind`
    * `TokenKind.name`       (the name of a kind)
    * `TokenKind.label`      (how messages refer to a kind)
    * `spellings`            (the texts with a kind of their own)
    * `wordKind`             (the kind of a word)
-/

------------------------------------------------------------
-- Token Kinds
------------------------------------------------------------

namespace MonkeyLang

inductive TokenKind where
  | illegal
  | eof
  | ident
  | int
  | string
  | assign
  | plus
  | minus
  | bang
  | asterisk
  | slash
  | lt
  | gt
  | eq
  | notEq
  | comma
  | semicolon
  | lparen
  | rparen
  | lbrace
  | rbrace
  | fnWord
  | letWord
  | trueWord
  | falseWord
  | ifWord
  | elseWord
  | returnWord
deriving DecidableEq

namespace TokenKind

def all : List TokenKind := [
  .illegal, .eof, .ident, .int, .string, .assign, .plus, .minus, .bang,
  .asterisk, .slash, .lt, .gt, .eq, .notEq, .comma, .semicolon, .lparen,
  .rparen, .lbrace, .rbrace, .fnWord, .letWord, .trueWord, .falseWord,
  .ifWord, .elseWord, .returnWord ]

def name
    (kind : TokenKind) :
    String :=
  match kind with
  | .illegal => "ILLEGAL"
  | .eof => "EOF"
  | .ident => "IDENT"
  | .int => "INT"
  | .string => "STRING"
  | .assign => "ASSIGN"
  | .plus => "PLUS"
  | .minus => "MINUS"
  | .bang => "BANG"
  | .asterisk => "ASTERISK"
  | .slash => "SLASH"
  | .lt => "LT"
  | .gt => "GT"
  | .eq => "EQ"
  | .notEq => "NOT_EQ"
  | .comma => "COMMA"
  | .semicolon => "SEMICOLON"
  | .lparen => "LPAREN"
  | .rparen => "RPAREN"
  | .lbrace => "LBRACE"
  | .rbrace => "RBRACE"
  | .fnWord => "FUNCTION"
  | .letWord => "LET"
  | .trueWord => "TRUE"
  | .falseWord => "FALSE"
  | .ifWord => "IF"
  | .elseWord => "ELSE"
  | .returnWord => "RETURN"

/-
  How messages refer to a kind: an operator or delimiter by
  its text, any other kind by its name.
-/
def label
    (kind : TokenKind) :
    String :=
  match kind with
  | .assign => "="
  | .plus => "+"
  | .minus => "-"
  | .bang => "!"
  | .asterisk => "*"
  | .slash => "/"
  | .lt => "<"
  | .gt => ">"
  | .eq => "=="
  | .notEq => "!="
  | .comma => ","
  | .semicolon => ";"
  | .lparen => "("
  | .rparen => ")"
  | .lbrace => Text.openBrace
  | .rbrace => Text.closeBrace
  | other => other.name

end TokenKind

------------------------------------------------------------
-- Spellings
------------------------------------------------------------

/- The operators that stand between two operands. -/
def binaryOperators : List TokenKind := [
  .plus, .minus, .asterisk, .slash, .lt, .gt, .eq, .notEq ]

/- The remaining operators, and the delimiters. -/
def otherSymbols : List TokenKind := [
  .assign, .bang, .comma, .semicolon, .lparen, .rparen, .lbrace, .rbrace ]

def symbols : List (String × TokenKind) :=
  (otherSymbols ++ binaryOperators).map fun kind => (kind.label, kind)

def keywords : List (String × TokenKind) := [
  ("fn", .fnWord),
  ("let", .letWord),
  ("true", .trueWord),
  ("false", .falseWord),
  ("if", .ifWord),
  ("else", .elseWord),
  ("return", .returnWord) ]

/- Every text that has a kind of its own. -/
def spellings : List (String × TokenKind) :=
  symbols ++ keywords

/- The kind of a word: a keyword's, or that of identifiers. -/
def wordKind
    (word : String) :
    TokenKind :=
  (keywords.lookup word).getD .ident

end MonkeyLang
