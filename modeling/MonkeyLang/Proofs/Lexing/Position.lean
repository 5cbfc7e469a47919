import Mathlib.Data.List.TakeWhile
import MonkeyLang.Source.Cursor

/-
  Where a cursor stands in a source: behind a part of it, with
  the line and the column that this part determines.

  Main declarations:
    * `lineAfter`, `columnAfter`
    * `Cursor.between`              (between two parts of a source)
    * `Cursor.forwardBy_between`    (passing over a part)
    * `Cursor.advanceBy_between`    (reading it without failure)
    * `Cursor.advanceBy_of_ahead`   (the same for any cursor)
-/

------------------------------------------------------------
-- Lines and Columns
------------------------------------------------------------

namespace MonkeyLang

/- The line of a character: one more than the line feeds before it. -/
def lineAfter
    (before : List Char) :
    Int :=
  1 + before.count '\n'

/-
  The column of a character: one more than the characters
  between it and the last line feed before it.
-/
def columnAfter
    (before : List Char) :
    Int :=
  1 + (before.reverse.takeWhile (· != '\n')).length

theorem lineAfter_concat
    (before : List Char)
    (c : Char) :
    lineAfter (before ++ [c]) =
      if c = '\n' then lineAfter before + 1
      else lineAfter before := by
  unfold lineAfter
  rw [List.count_append]
  split
  next hLine =>
    subst hLine
    simp
    omega
  next hOther =>
    simp [hOther]

theorem columnAfter_concat
    (before : List Char)
    (c : Char) :
    columnAfter (before ++ [c]) =
      if c = '\n' then 1
      else columnAfter before + 1 := by
  unfold columnAfter
  rw [List.reverse_append]
  split
  next hLine =>
    subst hLine
    simp
  next hOther =>
    simp [hOther]
    omega

/- Within the first line, the column counts the characters. -/
theorem lineAfter_of_line
    {before : List Char}
    (hLine : '\n' ∉ before) :
    lineAfter before = 1 := by
  simp [lineAfter, List.count_eq_zero.mpr hLine]

theorem columnAfter_of_line
    {before : List Char}
    (hLine : '\n' ∉ before) :
    columnAfter before = before.length + 1 := by
  have hTake :
      before.reverse.takeWhile (· != '\n') = before.reverse := by
    rw [List.takeWhile_eq_self_iff]
    intro c hMem
    rw [bne_iff_ne]
    rintro rfl
    exact hLine (List.mem_reverse.mp hMem)
  rw [columnAfter, hTake, List.length_reverse]
  omega

------------------------------------------------------------
-- Cursors in a Source
------------------------------------------------------------

namespace Cursor

/- The cursor behind one part of a source and before the other. -/
def between
    (before after : List Char) :
    Cursor where
  behind := before.reverse
  rest := after
  position := before.length
  line := lineAfter before
  column := columnAfter before

theorem ofString_eq_between
    (source : String) :
    ofString source = between [] source.toList := by
  simp [ofString, startingAt, between, lineAfter, columnAfter]

@[simp] theorem rest_between
    (before after : List Char) :
    (between before after).rest = after := rfl

@[simp] theorem position_between
    (before after : List Char) :
    (between before after).position = before.length := rfl

@[simp] theorem line_between
    (before after : List Char) :
    (between before after).line = lineAfter before := rfl

@[simp] theorem column_between
    (before after : List Char) :
    (between before after).column = columnAfter before := rfl

@[simp] theorem isInside_between
    (before after : List Char) :
    (between before after).isInside = true := by
  simp [isInside, between]

@[simp] theorem ahead_between
    (before after : List Char) :
    (between before after).ahead = after := by
  simp [ahead]

@[simp] theorem toStart_between
    (before after : List Char) :
    (between before after).toStart = between before after := by
  have hInside : (-(between before after).position).toNat = 0 := by
    simp [between]
  unfold toStart
  rw [hInside]
  rfl

/- Passing over a character takes it from one part to the other. -/
theorem forward_between
    (before after : List Char)
    (c : Char) :
    (between before (c :: after)).forward =
      between (before ++ [c]) after := by
  unfold forward
  simp only [next?, isInside_between, if_true, rest_between,
    List.head?_cons, List.tail_cons, line_between, column_between]
  simp [between, lineAfter_concat, columnAfter_concat]

theorem forwardBy_between
    (before passed after : List Char) :
    (between before (passed ++ after)).forwardBy passed.length =
      between (before ++ passed) after := by
  induction passed generalizing before with
  | nil => simp [forwardBy]
  | cons c passed ih =>
      rw [List.length_cons, forwardBy, List.cons_append,
        forward_between, ih]
      simp

------------------------------------------------------------
-- Reading without Failure
------------------------------------------------------------

/- Read a number of characters, or fail where none can be read. -/
def advanceBy
    (count : Nat)
    (cursor : Cursor) :
    Except Unreadable Cursor :=
  match count with
  | 0 => .ok cursor
  | count + 1 => do
      let (_, next) ← cursor.advance
      advanceBy count next

theorem advance_between
    (before after : List Char)
    (c : Char) :
    (between before (c :: after)).advance =
      .ok (c, between (before ++ [c]) after) := by
  simp [advance, atEnd, next?, forward_between]

theorem advance_between_nil
    (before : List Char) :
    (between before []).advance =
      .error (.pastEnd before.length (lineAfter before)) := by
  simp [advance, atEnd, between, isInside]

theorem advanceBy_between
    (before passed after : List Char) :
    (between before (passed ++ after)).advanceBy passed.length =
      .ok (between (before ++ passed) after) := by
  induction passed generalizing before with
  | nil => simp [advanceBy]
  | cons c passed ih =>
      rw [List.length_cons, advanceBy, List.cons_append,
        advance_between]
      simpa [bind, Except.bind] using ih (before ++ [c])

------------------------------------------------------------
-- Text Ahead of Any Cursor
------------------------------------------------------------

/- What is ahead can be read, whatever the line and the column. -/
theorem advance_of_ahead
    {cursor : Cursor}
    {c : Char}
    {rest : List Char}
    (hAhead : cursor.ahead = c :: rest) :
    cursor.advance = .ok (c, cursor.forward) ∧
      cursor.forward.ahead = rest ∧
      cursor.forward.position = cursor.position + 1 := by
  cases hInside : cursor.isInside with
  | false => simp [ahead, hInside] at hAhead
  | true =>
      have hRest : cursor.rest = c :: rest := by
        simpa [ahead, hInside] using hAhead
      have hNext : cursor.next? = some c := by
        simp [next?, hInside, hRest]
      have hForward :
          cursor.forward.position = cursor.position + 1 := by
        simp [forward, hNext]
      have hStart : 0 ≤ cursor.position := by
        simpa [isInside] using hInside
      refine ⟨by simp [advance, atEnd, hInside, hRest, hNext], ?_,
        hForward⟩
      have hStays : cursor.forward.isInside = true := by
        rw [isInside, hForward, decide_eq_true_eq]
        omega
      rw [ahead, if_pos hStays]
      simp [forward, hNext, hInside, hRest]

theorem advanceBy_of_ahead
    {cursor : Cursor}
    {passed after : List Char}
    (hAhead : cursor.ahead = passed ++ after) :
    cursor.advanceBy passed.length =
        .ok (cursor.forwardBy passed.length) ∧
      (cursor.forwardBy passed.length).position =
        cursor.position + passed.length := by
  induction passed generalizing cursor with
  | nil => simp [advanceBy, forwardBy]
  | cons c passed ih =>
      rcases advance_of_ahead hAhead with
        ⟨hAdvance, hBehind, hPosition⟩
      rcases ih hBehind with ⟨hOthers, hFinish⟩
      rw [List.length_cons, advanceBy, forwardBy, hAdvance]
      refine ⟨hOthers, ?_⟩
      rw [hFinish, hPosition]
      omega

end Cursor

end MonkeyLang
