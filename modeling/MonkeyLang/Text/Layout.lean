import MonkeyLang.Unicode.Blank

/-
  This file defines how texts are trimmed, joined, put between
  braces and broken into lines.

  Key definitions include:
    * `trimWhile`, `trim`   (remove characters at both ends)
    * `join`              (texts with a separator between them)
    * `braced`            (a text between braces)
    * `unifyLineEnds`     (one way to end a line)
    * `lines`             (the lines of an input)
-/

------------------------------------------------------------
-- Trimming
------------------------------------------------------------

namespace MonkeyLang

namespace Text

/- Remove the characters of a class from both ends. -/
def trimWhile
    (drop : Char → Bool)
    (text : List Char) :
    List Char :=
  ((text.dropWhile drop).reverse.dropWhile drop).reverse

def trim
    (text : String) :
    String :=
  String.ofList (trimWhile Unicode.isBlank text.toList)

------------------------------------------------------------
-- Joining
------------------------------------------------------------

/- The texts in order, with a separator between neighbours. -/
def join
    (separator : String)
    (texts : List String) :
    String :=
  match texts with
  | [] => ""
  | [text] => text
  | text :: rest => text ++ separator ++ join separator rest

------------------------------------------------------------
-- Braces
------------------------------------------------------------

/- The brace that opens a block, and the one that closes it. -/
def openBrace : String := "\x7b"

def closeBrace : String := "\x7d"

@[simp] theorem toList_openBrace : openBrace.toList = ['{'] := rfl

@[simp] theorem toList_closeBrace : closeBrace.toList = ['}'] := rfl

def braced
    (text : String) :
    String :=
  openBrace ++ text ++ closeBrace

@[simp] theorem toList_braced
    (text : String) :
    (braced text).toList = '{' :: (text.toList ++ ['}']) := by
  simp [braced]

------------------------------------------------------------
-- Lines
------------------------------------------------------------

/-
  Write every line end as a line feed: a carriage return, with
  the line feed that may follow it, is one line end.
-/
def unifyLineEnds
    (text : List Char) :
    List Char :=
  match text with
  | [] => []
  | '\r' :: '\n' :: rest => '\n' :: unifyLineEnds rest
  | '\r' :: rest => '\n' :: unifyLineEnds rest
  | c :: rest => c :: unifyLineEnds rest

/-
  The lines of a text, without their line feeds. A last line
  need not be ended; after a line feed at the end of the text
  no further line begins.
-/
def lines
    (text : List Char) :
    List (List Char) :=
  match text with
  | [] => []
  | '\n' :: rest => [] :: lines rest
  | c :: rest =>
      match lines rest with
      | [] => [[c]]
      | line :: others => (c :: line) :: others

end Text

end MonkeyLang
