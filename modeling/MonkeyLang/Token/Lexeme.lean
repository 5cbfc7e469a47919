import MonkeyLang.Token.Kind
import MonkeyLang.Unicode.Letter
import MonkeyLang.Unicode.Numeric

/-
  This file defines the lexemes of the language: which
  characters at the start of a text form one token, and which
  are skipped before it.

  Key definitions include:
    * `startsWord`, `continuesWord`   (the classes of characters)
    * `gapLength`                   (blanks and comments)
    * `Lexeme`                      (what a token is made of)
    * `Lexeme.symbol?`              (an operator or delimiter)
    * `Lexeme.first?`               (the lexeme a text starts with)
-/

------------------------------------------------------------
-- Classes of Characters
------------------------------------------------------------

namespace MonkeyLang

/- A word starts with a letter or an underscore. -/
def startsWord
    (c : Char) :
    Bool :=
  Unicode.isLetter c || c == '_'

/- Words and numbers go on with letters, numeric characters and underscores. -/
def continuesWord
    (c : Char) :
    Bool :=
  Unicode.isLetter c || Unicode.isNumeric c || c == '_'

def isGapBlank
    (c : Char) :
    Bool :=
  c == ' ' || c == '\t' || c == '\r' || c == '\n'

------------------------------------------------------------
-- Gaps
------------------------------------------------------------

/-
  The number of characters at the start of a text that belong
  to no token: blanks, and comments from a number sign to the
  end of the line. The flag tells whether the text starts
  inside a comment.
-/
def gapLength
    (inComment : Bool)
    (text : List Char) :
    Nat :=
  match text with
  | [] => 0
  | c :: rest =>
      if inComment then
        gapLength (c != '\n') rest + 1
      else if isGapBlank c then
        gapLength false rest + 1
      else if c = '#' then
        gapLength true rest + 1
      else
        0

/- The number of characters before the end of the line. -/
def commentLength
    (text : List Char) :
    Nat :=
  (text.takeWhile (· != '\n')).length

------------------------------------------------------------
-- Lexemes
------------------------------------------------------------

/-
  What a token is made of: its kind, its literal, and the
  number of characters it takes in the source.
-/
structure Lexeme where
  kind : TokenKind
  literal : List Char
  length : Nat

namespace Lexeme

/- No operator or delimiter is longer. -/
def maxSymbolLength : Nat := 2

/- The kind of the first characters of a text, if they have one. -/
def spellingOf?
    (length : Nat)
    (text : List Char) :
    Option Lexeme :=
  let literal := text.take length
  (spellings.lookup (String.ofList literal)).map fun kind =>
    ⟨kind, literal, literal.length⟩

/-
  The longest spelling, of at most a given length, with which
  a text starts.
-/
def longestSpelling?
    (length : Nat)
    (text : List Char) :
    Option Lexeme :=
  match length with
  | 0 => none
  | length + 1 =>
      (spellingOf? (length + 1) text).or (longestSpelling? length text)

def symbol?
    (text : List Char) :
    Option Lexeme :=
  longestSpelling? maxSymbolLength text

/-
  The string that starts after an opening quote. It ends at the
  next quote; without one, all that is left is illegal.
-/
def stringAfterQuote
    (text : List Char) :
    Lexeme :=
  let content := text.takeWhile (· != '"')
  if content.length < text.length then
    ⟨.string, content, content.length + 2⟩
  else
    ⟨.illegal, '"' :: content, content.length + 1⟩

/-
  The lexeme with which a text starts, none for the empty
  text. A character that starts nothing else is illegal.
-/
def first?
    (text : List Char) :
    Option Lexeme :=
  match text with
  | [] => none
  | c :: rest =>
      if startsWord c then
        let word := text.takeWhile continuesWord
        some ⟨wordKind (String.ofList word), word, word.length⟩
      else if Unicode.isDigit c then
        let number := text.takeWhile continuesWord
        some ⟨.int, number, number.length⟩
      else if c = '"' then
        some (stringAfterQuote rest)
      else
        some ((symbol? text).getD ⟨.illegal, [c], 1⟩)

end Lexeme

end MonkeyLang
