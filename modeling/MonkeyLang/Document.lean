import MonkeyLang.Text.Hex
import MonkeyLang.Text.Layout

/-
  This file defines structured documents and their text in
  JSON, indented by two spaces a level and written in ASCII.

  Key definitions include:
    * `Document`
    * `escapedText`      (a string of a document)
    * `Document.text`    (the text of a document)
-/

------------------------------------------------------------
-- Documents
------------------------------------------------------------

namespace MonkeyLang

/- Structured data. A record keeps the order of its fields. -/
inductive Document where
  | null
  | boolean (value : Bool)
  | number (value : Int)
  | string (value : String)
  | list (items : List Document)
  | record (fields : List (String × Document))

namespace Document

------------------------------------------------------------
-- Strings
------------------------------------------------------------

/- A 16-bit unit, written by its four hexadecimal digits. -/
def unitEscape
    (unit : Nat) :
    List Char :=
  '\\' :: 'u' :: Text.hexDigits 4 unit

/-
  How a character is written inside a string. Printable ASCII
  stands for itself, apart from the quote and the backslash;
  five controls have a letter; all else is written by its one
  or two UTF-16 units.
-/
def escapedChar
    (c : Char) :
    List Char :=
  if c = '"' || c = '\\' then
    ['\\', c]
  else if c = '\n' then
    ['\\', 'n']
  else if c = '\r' then
    ['\\', 'r']
  else if c = '\t' then
    ['\\', 't']
  else if c = '\x08' then
    ['\\', 'b']
  else if c = '\x0c' then
    ['\\', 'f']
  else if ' ' ≤ c ∧ c ≤ '~' then
    [c]
  else if c.toNat < 0x10000 then
    unitEscape c.toNat
  else
    let offset := c.toNat - 0x10000
    unitEscape (0xd800 + offset / 0x400) ++
      unitEscape (0xdc00 + offset % 0x400)

/- A string between double quotes. -/
def escapedText
    (value : String) :
    String :=
  String.ofList ('"' :: value.toList.flatMap escapedChar ++ ['"'])

------------------------------------------------------------
-- Text of Documents
------------------------------------------------------------

/- A line break, and the indentation of a level. -/
def newLine
    (level : Nat) :
    String :=
  String.ofList ('\n' :: List.replicate (2 * level) ' ')

/-
  The parts of a list or a record between its brackets, each
  on a line of its own; without parts, the brackets alone.
-/
def bracketed
    (opening closing : String)
    (level : Nat)
    (parts : List String) :
    String :=
  match parts with
  | [] => opening ++ closing
  | _ =>
      opening ++ newLine (level + 1) ++
        Text.join ("," ++ newLine (level + 1)) parts ++
        newLine level ++ closing

mutual

/- The text of a document that stands at a level. -/
def textAt
    (level : Nat)
    (document : Document) :
    String :=
  match document with
  | .null => "null"
  | .boolean true => "true"
  | .boolean false => "false"
  | .number value => toString value
  | .string value => escapedText value
  | .list items => bracketed "[" "]" level (itemTexts (level + 1) items)
  | .record fields =>
      bracketed Text.openBrace Text.closeBrace level
        (fieldTexts (level + 1) fields)

def itemTexts
    (level : Nat)
    (items : List Document) :
    List String :=
  match items with
  | [] => []
  | item :: rest => textAt level item :: itemTexts level rest

def fieldTexts
    (level : Nat)
    (fields : List (String × Document)) :
    List String :=
  match fields with
  | [] => []
  | field :: rest => fieldText level field :: fieldTexts level rest

def fieldText
    (level : Nat)
    (field : String × Document) :
    String :=
  match field with
  | (name, document) => escapedText name ++ ": " ++ textAt level document

end

def text
    (document : Document) :
    String :=
  document.textAt 0

end Document

end MonkeyLang
