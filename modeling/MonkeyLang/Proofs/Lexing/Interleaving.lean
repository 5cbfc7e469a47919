import MonkeyLang.Proofs.Lexing.Reading
import MonkeyLang.Proofs.Lexing.Symbol
import MonkeyLang.Proofs.Lexing.Tokenization

/-
  A source that is read by any operations in any order, so that
  one may start inside a string, a comment or a word. The cursor
  stays in the source, its line and its column are those of its
  position, and it only goes forward. Whatever an operation
  passes over is read character by character without failure;
  only who reads a character at the end fails, and stays there.

  Main declarations:
    * `Cursor.IsIn`              (a cursor at an exact place)
    * `Cursor.Operation`         (what can be asked of a cursor)
    * `Cursor.Operation.read_eq`
    * `Cursor.Operation.isFurther_run`
    * `Cursor.IsIn.afterOperations`
    * `operations_keep_place`
-/

------------------------------------------------------------
-- Exact Places
------------------------------------------------------------

namespace MonkeyLang

namespace Cursor

/-
  A cursor stands in a source. Its position is at most the
  length of the source, its line and its column are those of
  the part that it has passed over, and this part is behind it
  and the other ahead.
-/
structure IsIn
    (cursor : Cursor)
    (source : String) :
    Prop where
  fromStart : 0 ≤ cursor.position
  upToEnd : cursor.position ≤ source.length
  line :
    cursor.line =
      lineAfter (source.toList.take cursor.position.toNat)
  column :
    cursor.column =
      columnAfter (source.toList.take cursor.position.toNat)
  behind :
    cursor.behind.reverse =
      source.toList.take cursor.position.toNat
  rest : cursor.rest = source.toList.drop cursor.position.toNat

theorem IsIn.isInside
    {source : String}
    {cursor : Cursor}
    (hIn : cursor.IsIn source) :
    cursor.isInside = true :=
  decide_eq_true hIn.fromStart

/- The place between two parts of a source is exact. -/
theorem isIn_between
    {source : String}
    {before after : List Char}
    (hSource : source.toList = before ++ after) :
    (between before after).IsIn source := by
  have hLength : source.length = before.length + after.length := by
    rw [← String.length_toList, hSource, List.length_append]
  exact
    { fromStart := by simp
      upToEnd := by
        rw [position_between, hLength]
        omega
      line := by simp [hSource]
      column := by simp [hSource]
      behind := by simp [between, hSource]
      rest := by simp [hSource] }

theorem isIn_ofString
    (source : String) :
    (ofString source).IsIn source := by
  rw [ofString_eq_between]
  exact isIn_between rfl

/- A cursor in a source stands between two parts of it. -/
theorem IsIn.exists_between
    {source : String}
    {cursor : Cursor}
    (hIn : cursor.IsIn source) :
    ∃ before after,
      source.toList = before ++ after ∧
        cursor = between before after := by
  refine
    ⟨source.toList.take cursor.position.toNat,
      source.toList.drop cursor.position.toNat,
      (List.take_append_drop _ _).symm, ?_⟩
  have hStart := hIn.fromStart
  have hFinish := hIn.upToEnd
  rw [← String.length_toList] at hFinish
  cases cursor with
  | mk behind rest position line column =>
      simp only [between, mk.injEq]
      refine ⟨?_, hIn.rest, ?_, hIn.line, hIn.column⟩
      · rw [← hIn.behind, List.reverse_reverse]
      · rw [List.length_take]
        dsimp only at hStart hFinish ⊢
        omega

------------------------------------------------------------
-- Operations
------------------------------------------------------------

/- What can be asked of a cursor. -/
inductive Operation where
  | nextToken
  | matchSymbol
  | skipGap
  | skipComment
  | peek
  | advance

/- What is answered. -/
inductive Answer where
  | nothing
  | token (token : Token)
  | symbol (token? : Option Token)
  | ahead (character? : Option Char)
  | character (character : Char)

/-
  What an operation answers, or why it fails, and the cursor
  that it leaves.
-/
def Operation.run
    (operation : Operation)
    (cursor : Cursor) :
    Except Unreadable Answer × Cursor :=
  match operation with
  | .nextToken =>
      cursor.nextToken.map (fun token => .ok (.token token)) id
  | .matchSymbol =>
      cursor.matchSymbol.map (fun token? => .ok (.symbol token?)) id
  | .skipGap => (.ok .nothing, cursor.skipGap)
  | .skipComment => (.ok .nothing, cursor.skipComment)
  | .peek => (.ok (.ahead (cursor.peek 0)), cursor)
  | .advance =>
      match cursor.advance with
      | .ok (c, next) => (.ok (.character c), next)
      | .error failure => (.error failure, cursor)

/-
  An operation whose every step reads a character, and which
  fails with the first step that finds none.
-/
def Operation.read
    (operation : Operation)
    (cursor : Cursor) :
    Except Unreadable (Answer × Cursor) :=
  match operation with
  | .nextToken =>
      cursor.readToken.map fun (token, next) => (.token token, next)
  | .matchSymbol =>
      cursor.readSymbol.map fun (token?, next) => (.symbol token?, next)
  | .skipGap => cursor.readGap.map fun next => (.nothing, next)
  | .skipComment => cursor.readComment.map fun next => (.nothing, next)
  | .peek => .ok (.ahead (cursor.peek 0), cursor)
  | .advance => cursor.advance.map fun (c, next) => (.character c, next)

/- The cursor after some operations, one after another. -/
def afterOperations
    (cursor : Cursor)
    (operations : List Operation) :
    Cursor :=
  operations.foldl (fun cursor operation => (operation.run cursor).2)
    cursor

------------------------------------------------------------
-- One Operation
------------------------------------------------------------

/-
  A cursor stands further on than between two parts of a source,
  behind some characters of the second.
-/
def IsFurther
    (before after : List Char)
    (cursor : Cursor) :
    Prop :=
  ∃ passed others,
    after = passed ++ others ∧
      cursor = between (before ++ passed) others

theorem isFurther_self
    (before after : List Char) :
    IsFurther before after (between before after) :=
  ⟨[], after, rfl, by rw [List.append_nil]⟩

/- A comment is passed over up to the end of its line. -/
theorem isFurther_skipComment
    (before after : List Char) :
    IsFurther before after (between before after).skipComment := by
  refine
    ⟨after.takeWhile (· != '\n'), after.dropWhile (· != '\n'),
      List.takeWhile_append_dropWhile.symm, ?_⟩
  rw [skipComment, toStart_between, ahead_between, commentLength,
    ← forwardBy_between, List.takeWhile_append_dropWhile]

theorem isFurther_skipGap
    (before after : List Char) :
    IsFurther before after (between before after).skipGap := by
  rcases exists_gap after with ⟨gap, others, rfl, hGap, hOthers⟩
  exact ⟨gap, others, rfl, skipGap_between before hGap hOthers⟩

/- Behind the gap the source has ended, or a lexeme stands there. -/
theorem isFurther_nextToken
    (before after : List Char) :
    IsFurther before after (between before after).nextToken.2 := by
  rcases exists_gap after with ⟨gap, others, rfl, hGap, hOthers⟩
  cases others with
  | nil =>
      refine ⟨gap, [], rfl, ?_⟩
      rw [List.append_nil, nextToken_finish hGap]
  | cons c rest =>
      rcases exists_recognised rest (hOthers c rfl) with
        ⟨kind, literal, source, behind, hShape, hRecognised⟩
      rw [hShape] at hGap ⊢
      refine ⟨gap ++ source, behind, by simp, ?_⟩
      rw [nextToken_lexeme hGap hRecognised, List.append_assoc]

theorem isFurther_matchSymbol
    (before after : List Char) :
    IsFurther before after (between before after).matchSymbol.2 := by
  rcases (between before after).matchSymbol_cases with
    ⟨hMatch, -⟩ | ⟨spelling, hLongest, hMatch⟩
  · rw [hMatch]
    exact isFurther_self before after
  · rcases hLongest.begins with ⟨others, hAfter⟩
    rw [ahead_between] at hAfter
    refine ⟨spelling.1.toList, others, hAfter.symm, ?_⟩
    rw [hMatch, ← hAfter, ← String.length_toList]
    exact forwardBy_between before _ others

/-
  In a source no step of an operation fails, unless that is to
  read a character itself.
-/
theorem Operation.read_eq
    {cursor : Cursor}
    (hInside : cursor.isInside = true)
    (operation : Operation) :
    operation.read cursor =
      (operation.run cursor).1.map fun answer =>
        (answer, (operation.run cursor).2) := by
  cases operation with
  | nextToken => simp only [read, run, readToken_eq hInside]; rfl
  | matchSymbol => simp only [read, run, readSymbol_eq]; rfl
  | skipGap => simp only [read, run, readGap_eq hInside]; rfl
  | skipComment => simp only [read, run, readComment_eq hInside]; rfl
  | peek => rfl
  | advance =>
      unfold read run
      cases cursor.advance <;> rfl

/- Every operation passes over a part of what is ahead. -/
theorem Operation.isFurther_run
    (operation : Operation)
    (before after : List Char) :
    IsFurther before after
      (operation.run (between before after)).2 := by
  cases operation with
  | nextToken => exact isFurther_nextToken before after
  | matchSymbol => exact isFurther_matchSymbol before after
  | skipGap => exact isFurther_skipGap before after
  | skipComment => exact isFurther_skipComment before after
  | peek => exact isFurther_self before after
  | advance =>
      cases after with
      | nil =>
          simp only [run, advance_between_nil]
          exact isFurther_self before []
      | cons c others =>
          refine ⟨[c], others, rfl, ?_⟩
          simp only [run, advance_between]

/- Part of what is passed over is read without failure as well. -/
theorem advanceBy_between_take
    (before passed others : List Char)
    {count : Nat}
    (hCount : count ≤ passed.length) :
    (between before (passed ++ others)).advanceBy count =
      .ok (between (before ++ passed.take count)
        (passed.drop count ++ others)) := by
  have hRead :=
    advanceBy_between before (passed.take count)
      (passed.drop count ++ others)
  rwa [← List.append_assoc, List.take_append_drop,
    List.length_take_of_le hCount] at hRead

------------------------------------------------------------
-- Any Operations
------------------------------------------------------------

theorem IsIn.run
    {source : String}
    {cursor : Cursor}
    (hIn : cursor.IsIn source)
    (operation : Operation) :
    (operation.run cursor).2.IsIn source := by
  rcases hIn.exists_between with ⟨before, after, hSource, rfl⟩
  rcases operation.isFurther_run before after with
    ⟨passed, others, rfl, hNext⟩
  rw [hNext]
  exact isIn_between (by rw [hSource, List.append_assoc])

theorem IsIn.afterOperations
    {source : String}
    {cursor : Cursor}
    (hIn : cursor.IsIn source)
    (operations : List Operation) :
    (cursor.afterOperations operations).IsIn source := by
  induction operations generalizing cursor with
  | nil => exact hIn
  | cons operation operations ih => exact ih (hIn.run operation)

/-
  An operation reads a number of characters without failure,
  and the cursor is in the source behind each of them.
-/
theorem IsIn.exists_moments
    {source : String}
    {cursor : Cursor}
    (hIn : cursor.IsIn source)
    (operation : Operation) :
    ∃ count : Nat,
      cursor.advanceBy count = .ok (operation.run cursor).2 ∧
        (operation.run cursor).2.position =
          cursor.position + count ∧
        ∀ passed ≤ count,
          ∃ moment,
            cursor.advanceBy passed = .ok moment ∧
              moment.position = cursor.position + passed ∧
              moment.IsIn source := by
  rcases hIn.exists_between with ⟨before, after, hSource, rfl⟩
  rcases operation.isFurther_run before after with
    ⟨text, others, rfl, hNext⟩
  refine ⟨text.length, ?_, ?_, fun passed hPassed => ?_⟩
  · rw [hNext]
    exact advanceBy_between before text others
  · simp [hNext]
  · refine
      ⟨_, advanceBy_between_take before text others hPassed, ?_,
        isIn_between ?_⟩
    · simp [hPassed]
    · rw [hSource, List.append_assoc,
        ← List.append_assoc (text.take passed),
        List.take_append_drop]

/- Only who reads a character at the end of the source fails. -/
theorem IsIn.run_eq_error_iff
    {source : String}
    {cursor : Cursor}
    (hIn : cursor.IsIn source)
    (operation : Operation)
    (failure : Unreadable) :
    (operation.run cursor).1 = .error failure ↔
      (operation = .advance ∧ cursor.position = source.length) ∧
        failure = .pastEnd cursor.position cursor.line := by
  rcases hIn.exists_between with ⟨before, after, hSource, rfl⟩
  have hLength : source.length = before.length + after.length := by
    rw [← String.length_toList, hSource, List.length_append]
  cases operation with
  | nextToken | matchSymbol | skipGap | skipComment | peek =>
      simp [Operation.run]
  | advance =>
      cases after with
      | nil =>
          simp [Operation.run, advance_between_nil, hLength, eq_comm]
      | cons c others =>
          have hInside :
              ((before.length : Nat) : Int) ≠ source.length := by
            rw [hLength, List.length_cons]
            omega
          simp [Operation.run, advance_between, hInside]

/- Who fails leaves the cursor where it is. -/
theorem Operation.run_of_error
    {operation : Operation}
    {cursor : Cursor}
    {failure : Unreadable}
    (hError : (operation.run cursor).1 = .error failure) :
    (operation.run cursor).2 = cursor := by
  cases operation with
  | nextToken | matchSymbol | skipGap | skipComment | peek =>
      simp [run] at hError
  | advance =>
      cases hAdvance : cursor.advance with
      | error other => simp [run, hAdvance]
      | ok character => simp [run, hAdvance] at hError

end Cursor

/-
  After any operations, one more operation reads a number of
  characters one by one, and none of them fails. At every moment
  the cursor is in the source, at an exact place. Nor does an
  operation fail that takes its steps one by one, whatever
  lengths it has counted out before. It fails if and only if it
  is to read a character at the end of the source; it then tells
  the place, and changes nothing.
-/
theorem operations_keep_place
    (source : String)
    (operations : List Cursor.Operation)
    (operation : Cursor.Operation) :
    let before := (Cursor.ofString source).afterOperations operations
    let after := (operation.run before).2
    before.IsIn source ∧
      (∃ count : Nat,
        before.advanceBy count = .ok after ∧
          after.position = before.position + count ∧
          ∀ passed ≤ count,
            ∃ moment,
              before.advanceBy passed = .ok moment ∧
                moment.position = before.position + passed ∧
                moment.IsIn source) ∧
      operation.read before =
        (operation.run before).1.map (fun answer => (answer, after)) ∧
      ((∃ failure, (operation.run before).1 = .error failure) ↔
        operation = .advance ∧ before.position = source.length) ∧
      ∀ failure,
        (operation.run before).1 = .error failure →
          failure = .pastEnd before.position before.line ∧
            after = before := by
  intro before after
  have hIn : before.IsIn source :=
    (Cursor.isIn_ofString source).afterOperations operations
  have hFails := hIn.run_eq_error_iff operation
  refine ⟨hIn, hIn.exists_moments operation,
    operation.read_eq hIn.isInside, ⟨?_, ?_⟩, ?_⟩
  · rintro ⟨failure, hError⟩
    exact ((hFails failure).mp hError).1
  · intro hEnd
    exact ⟨_, (hFails _).mpr ⟨hEnd, rfl⟩⟩
  · intro failure hError
    exact ⟨((hFails failure).mp hError).2,
      Cursor.Operation.run_of_error hError⟩

/-
  Behind the start of a string, a gap is passed over as one is
  elsewhere: up to the number sign, on to the end of the line,
  and into the next line.
-/
example :
    let cursor :=
      (Cursor.ofString "\"a # b\"\nc").afterOperations
        [.advance, .advance, .skipGap]
    (cursor.position, cursor.line, cursor.column) = (8, 2, 1) := by
  decide

end MonkeyLang
