import MonkeyLang.Proofs.Lexing.Position
import MonkeyLang.Token.Lexer

/-
  The readings of a cursor, made character by character: each
  of them may fail, where a character is to be read and there is
  none. But a gap, a comment or a lexeme is never longer than
  the text ahead, so that a cursor in a source never fails.

  Main declarations:
    * `Cursor.advanceBy_eq_ok`
    * `Lexeme.length_le_of_first?`
    * `Cursor.readGap`, `Cursor.readComment`
    * `Cursor.readSymbol`, `Cursor.readToken`
    * `Cursor.readTokens_eq`
-/

------------------------------------------------------------
-- Lengths
------------------------------------------------------------

namespace MonkeyLang

theorem gapLength_le
    (inComment : Bool)
    (text : List Char) :
    gapLength inComment text ≤ text.length := by
  induction text generalizing inComment with
  | nil => exact Nat.le_refl 0
  | cons c rest ih =>
      have hRest := fun inComment => Nat.succ_le_succ (ih inComment)
      unfold gapLength
      split_ifs
      · exact hRest _
      · exact hRest _
      · exact hRest _
      · exact Nat.zero_le _

theorem commentLength_le
    (text : List Char) :
    commentLength text ≤ text.length :=
  (List.takeWhile_prefix _).length_le

namespace Lexeme

theorem length_le_of_spellingOf?
    {length : Nat}
    {text : List Char}
    {lexeme : Lexeme}
    (hSpelling : spellingOf? length text = some lexeme) :
    lexeme.length ≤ text.length := by
  rcases Option.map_eq_some_iff.mp hSpelling with ⟨kind, -, rfl⟩
  exact List.length_take_le' length text

theorem length_le_of_longestSpelling?
    {length : Nat}
    {text : List Char}
    {lexeme : Lexeme}
    (hLongest : longestSpelling? length text = some lexeme) :
    lexeme.length ≤ text.length := by
  induction length with
  | zero => cases hLongest
  | succ length ih =>
      rcases Option.or_eq_some_iff.mp hLongest with
        hSpelling | ⟨-, hShorter⟩
      · exact length_le_of_spellingOf? hSpelling
      · exact ih hShorter

theorem length_stringAfterQuote_le
    (text : List Char) :
    (stringAfterQuote text).length ≤ text.length + 1 := by
  have hContent := (List.takeWhile_prefix (· != '"') (l := text)).length_le
  unfold stringAfterQuote
  dsimp only
  split
  next hEnded => exact Nat.succ_le_succ hEnded
  next => exact Nat.succ_le_succ hContent

/- No lexeme is longer than the text that it starts. -/
theorem length_le_of_first?
    {text : List Char}
    {lexeme : Lexeme}
    (hFirst : first? text = some lexeme) :
    lexeme.length ≤ text.length := by
  have hWord := (List.takeWhile_prefix continuesWord (l := text)).length_le
  cases text with
  | nil => cases hFirst
  | cons c rest =>
      unfold first? at hFirst
      dsimp only at hFirst
      split_ifs at hFirst with hLetter hDigit hQuote
      · rcases Option.some.inj hFirst with rfl
        exact hWord
      · rcases Option.some.inj hFirst with rfl
        exact hWord
      · rcases Option.some.inj hFirst with rfl
        exact length_stringAfterQuote_le rest
      · cases hSymbol : symbol? (c :: rest) with
        | none =>
            rw [hSymbol] at hFirst
            rcases Option.some.inj hFirst with rfl
            exact Nat.succ_le_succ (Nat.zero_le _)
        | some symbol =>
            rw [hSymbol] at hFirst
            rcases Option.some.inj hFirst with rfl
            exact length_le_of_longestSpelling? hSymbol

end Lexeme

------------------------------------------------------------
-- Cursors That Do Not Stand before the Start
------------------------------------------------------------

namespace Cursor

/- As many characters as are ahead can be read. -/
theorem advanceBy_eq_ok
    {cursor : Cursor}
    {count : Nat}
    (hCount : count ≤ cursor.ahead.length) :
    cursor.advanceBy count = .ok (cursor.forwardBy count) := by
  have hAhead := List.take_append_drop count cursor.ahead
  have hRead := (advanceBy_of_ahead hAhead.symm).1
  rwa [List.length_take_of_le hCount] at hRead

theorem isInside_forward
    {cursor : Cursor}
    (hInside : cursor.isInside = true) :
    cursor.forward.isInside = true := by
  simp only [isInside, decide_eq_true_eq] at hInside ⊢
  unfold forward
  split
  · exact hInside
  · exact Int.le_add_one hInside

theorem isInside_forwardBy
    {cursor : Cursor}
    (hInside : cursor.isInside = true)
    (count : Nat) :
    (cursor.forwardBy count).isInside = true := by
  induction count generalizing cursor with
  | zero => exact hInside
  | succ count ih => exact ih (isInside_forward hInside)

/- Nothing stands before the start if the cursor does not. -/
theorem distance_of_isInside
    {cursor : Cursor}
    (hInside : cursor.isInside = true) :
    (-cursor.position).toNat = 0 := by
  simp only [isInside, decide_eq_true_eq] at hInside
  omega

theorem toStart_of_isInside
    {cursor : Cursor}
    (hInside : cursor.isInside = true) :
    cursor.toStart = cursor := by
  rw [toStart, distance_of_isInside hInside, forwardBy]

theorem isInside_skipGap
    {cursor : Cursor}
    (hInside : cursor.isInside = true) :
    cursor.skipGap.isInside = true := by
  unfold skipGap
  rw [toStart_of_isInside hInside]
  exact isInside_forwardBy hInside _

theorem isInside_nextToken
    {cursor : Cursor}
    (hInside : cursor.isInside = true) :
    cursor.nextToken.2.isInside = true := by
  have hStart := isInside_skipGap hInside
  unfold nextToken
  dsimp only
  split
  · exact hStart
  · exact isInside_forwardBy hStart _

------------------------------------------------------------
-- Readings That May Fail
------------------------------------------------------------

/-
  Read what stands before the start, and then as many characters
  as are counted in the text ahead.
-/
def readOver
    (length : List Char → Nat)
    (cursor : Cursor) :
    Except Unreadable Cursor := do
  let start ← cursor.advanceBy (-cursor.position).toNat
  start.advanceBy (length start.ahead)

def readGap
    (cursor : Cursor) :
    Except Unreadable Cursor :=
  cursor.readOver (gapLength false)

def readComment
    (cursor : Cursor) :
    Except Unreadable Cursor :=
  cursor.readOver commentLength

def readSymbol
    (cursor : Cursor) :
    Except Unreadable (Option Token × Cursor) :=
  match Lexeme.symbol? cursor.ahead with
  | none => return (none, cursor)
  | some lexeme => do
      let next ← cursor.advanceBy lexeme.length
      return (some (cursor.tokenOf lexeme), next)

def readToken
    (cursor : Cursor) :
    Except Unreadable (Token × Cursor) := do
  let start ← cursor.readGap
  match Lexeme.first? start.ahead with
  | none => return (Token.endAt start.line start.column, start)
  | some lexeme =>
      let next ← start.advanceBy lexeme.length
      return (start.tokenOf lexeme, next)

def readTokensWithin
    (limit : Nat)
    (cursor : Cursor) :
    Except Unreadable (List Token × Cursor) :=
  match limit with
  | 0 => return ([], cursor)
  | limit + 1 => do
      let (token, next) ← cursor.readToken
      if token.kind = .eof then
        return ([token], next)
      else
        let (tokens, finish) ← readTokensWithin limit next
        return (token :: tokens, finish)

def readTokens
    (cursor : Cursor) :
    Except Unreadable (List Token × Cursor) :=
  cursor.readTokensWithin (cursor.rest.length + 1)

------------------------------------------------------------
-- They Do Not Fail
------------------------------------------------------------

section

variable {cursor : Cursor}

theorem readOver_eq
    (hInside : cursor.isInside = true)
    {length : List Char → Nat}
    (hLength : ∀ text, length text ≤ text.length) :
    let start := cursor.toStart
    cursor.readOver length =
      .ok (start.forwardBy (length start.ahead)) := by
  unfold readOver
  rw [toStart_of_isInside hInside, distance_of_isInside hInside]
  exact advanceBy_eq_ok (hLength _)

theorem readGap_eq
    (hInside : cursor.isInside = true) :
    cursor.readGap = .ok cursor.skipGap :=
  readOver_eq hInside (gapLength_le false)

theorem readComment_eq
    (hInside : cursor.isInside = true) :
    cursor.readComment = .ok cursor.skipComment :=
  readOver_eq hInside commentLength_le

theorem readSymbol_eq
    (cursor : Cursor) :
    cursor.readSymbol = .ok cursor.matchSymbol := by
  unfold readSymbol matchSymbol
  cases hSymbol : Lexeme.symbol? cursor.ahead with
  | none => rfl
  | some lexeme =>
      have hLength := Lexeme.length_le_of_longestSpelling? hSymbol
      dsimp only
      rw [advanceBy_eq_ok hLength]
      rfl

theorem readToken_eq
    (hInside : cursor.isInside = true) :
    cursor.readToken = .ok cursor.nextToken := by
  unfold readToken nextToken
  rw [readGap_eq hInside]
  dsimp only [bind, Except.bind]
  cases hFirst : Lexeme.first? cursor.skipGap.ahead with
  | none => rfl
  | some lexeme =>
      dsimp only
      rw [advanceBy_eq_ok (Lexeme.length_le_of_first? hFirst)]
      rfl

theorem readTokensWithin_eq
    (hInside : cursor.isInside = true)
    (limit : Nat) :
    cursor.readTokensWithin limit = .ok (cursor.tokensWithin limit) := by
  induction limit generalizing cursor with
  | zero => rfl
  | succ limit ih =>
      have hRest := ih (isInside_nextToken hInside)
      unfold readTokensWithin tokensWithin
      rw [readToken_eq hInside]
      dsimp only [bind, Except.bind]
      split
      · rfl
      · rw [hRest]
        rfl

/- All tokens are read without failure. -/
theorem readTokens_eq
    (hInside : cursor.isInside = true) :
    cursor.readTokens = .ok cursor.tokens :=
  readTokensWithin_eq hInside _

end

theorem isInside_ofString
    (source : String) :
    (ofString source).isInside = true := by
  rw [ofString_eq_between]
  exact isInside_between [] _

end Cursor

end MonkeyLang
