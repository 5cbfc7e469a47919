/-
  This file defines a cursor over the characters of a source.
  It knows its line and its column.

  A cursor may also stand before the start of a source. There
  it reads the source from its end: at position -1 stands the
  last character, at -2 the one before it. Such a character can
  be read, but not looked at. A cursor that reads on from there
  comes to the start of the source.

  Key definitions include:
    * `Cursor`
    * `Cursor.ofString`    (the cursor at the start of a source)
    * `Cursor.ahead`       (the characters from the cursor on)
    * `Cursor.peek`        (a character at some distance)
    * `Cursor.advance`     (read one character)
    * `Cursor.forwardBy`   (pass over characters)
-/

------------------------------------------------------------
-- Cursors
------------------------------------------------------------

namespace MonkeyLang

/-
  A place in a source: the characters behind it, the nearest
  first, and the rest of the source, with the position and with
  the line and the column of the next character. Before the
  start, nothing is behind, and the rest is the whole source.
-/
structure Cursor where
  behind : List Char
  rest : List Char
  position : Int
  line : Int
  column : Int

/-
  Why no character can be read: the cursor is at the end of the
  source, or too far before its start.
-/
inductive Unreadable where
  | pastEnd (position line : Int)
  | outOfRange

def Unreadable.message
    (failure : Unreadable) :
    String :=
  match failure with
  | .pastEnd position line =>
      "Attempted to read past end of source at position=" ++
        toString position ++ ", line=" ++ toString line
  | .outOfRange => "string index out of range"

namespace Cursor

def startingAt
    (source : String)
    (position : Int)
    (line column : Int) :
    Cursor where
  behind := (source.toList.take position.toNat).reverse
  rest := source.toList.drop position.toNat
  position := position
  line := line
  column := column

def ofString
    (source : String) :
    Cursor :=
  startingAt source 0 1 1

/- Whether the cursor is not before the start of the source. -/
def isInside
    (cursor : Cursor) :
    Bool :=
  decide (0 ≤ cursor.position)

/- The characters from the cursor on, none if it is before the start. -/
def ahead
    (cursor : Cursor) :
    List Char :=
  if cursor.isInside then
    cursor.rest
  else
    []

def atEnd
    (cursor : Cursor) :
    Bool :=
  cursor.isInside && cursor.rest.isEmpty

/-
  The character at a distance from the cursor, which may be
  negative, or none outside the source.
-/
def peek
    (cursor : Cursor)
    (offset : Int) :
    Option Char :=
  let index := cursor.position + offset
  if index < 0 then
    none
  else
    (cursor.behind.reverse ++ cursor.rest)[index.toNat]?

------------------------------------------------------------
-- Movement
------------------------------------------------------------

/-
  The character that is read next, if there is one. Before the
  start it is counted from the end of the source.
-/
def next?
    (cursor : Cursor) :
    Option Char :=
  if cursor.isInside then
    cursor.rest.head?
  else
    cursor.rest.reverse[cursor.position.natAbs - 1]?

/-
  Pass over one character, if there is one. A line feed begins
  the next line; any other character takes one column.
-/
def forward
    (cursor : Cursor) :
    Cursor :=
  match cursor.next? with
  | none => cursor
  | some c =>
      { behind := if cursor.isInside then c :: cursor.behind else cursor.behind
        rest := if cursor.isInside then cursor.rest.tail else cursor.rest
        position := cursor.position + 1
        line := if c = '\n' then cursor.line + 1 else cursor.line
        column := if c = '\n' then 1 else cursor.column + 1 }

/- Pass over a number of characters, or all that are left. -/
def forwardBy
    (count : Nat)
    (cursor : Cursor) :
    Cursor :=
  match count with
  | 0 => cursor
  | count + 1 => forwardBy count cursor.forward

/- Pass over what stands before the start of the source. -/
def toStart
    (cursor : Cursor) :
    Cursor :=
  cursor.forwardBy (-cursor.position).toNat

/- Read one character. Where none can be read, nothing moves. -/
def advance
    (cursor : Cursor) :
    Except Unreadable (Char × Cursor) :=
  if cursor.atEnd then
    .error (.pastEnd cursor.position cursor.line)
  else
    match cursor.next? with
    | none => .error .outOfRange
    | some c => .ok (c, cursor.forward)

end Cursor

end MonkeyLang
