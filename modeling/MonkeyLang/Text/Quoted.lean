import MonkeyLang.Text.Hex
import MonkeyLang.Unicode.Printable

/-
  This file defines the quoted form of a text: the text
  between quotation marks, with every character that could be
  mistaken or does not print written as an escape.

  Key definitions include:
    * `quotationMark`   (which of the two marks is used)
    * `escaped`         (how one character is written)
    * `quoted`
-/

------------------------------------------------------------
-- Quoted Text
------------------------------------------------------------

namespace MonkeyLang

namespace Text

/-
  The mark around a text: an apostrophe, unless the text
  holds an apostrophe and no double quote.
-/
def quotationMark
    (text : List Char) :
    Char :=
  if text.contains '\'' && !text.contains '"' then
    '"'
  else
    '\''

/-
  How a character is written between two marks. The mark and
  the backslash are preceded by a backslash, the three usual
  controls have a letter, and any other character that does
  not print is written by the shortest of three hexadecimal
  forms that can hold its code point.
-/
def escaped
    (mark : Char)
    (c : Char) :
    List Char :=
  if c = mark || c = '\\' then
    ['\\', c]
  else if c = '\n' then
    ['\\', 'n']
  else if c = '\r' then
    ['\\', 'r']
  else if c = '\t' then
    ['\\', 't']
  else if Unicode.isPrintable c then
    [c]
  else if c.toNat < 0x100 then
    '\\' :: 'x' :: hexDigits 2 c.toNat
  else if c.toNat < 0x10000 then
    '\\' :: 'u' :: hexDigits 4 c.toNat
  else
    '\\' :: 'U' :: hexDigits 8 c.toNat

/- A text between quotation marks. -/
def quoted
    (text : String) :
    String :=
  let mark := quotationMark text.toList
  String.ofList (mark :: text.toList.flatMap (escaped mark) ++ [mark])

end Text

end MonkeyLang
