import MonkeyLang.Proofs.Lexing.Reading
import MonkeyLang.Proofs.Lexing.Tokenization

/-
  Reading a source loses nothing: the source is made of gaps
  and of the texts of its tokens, every token carries the place
  at which its text stands, and every text is as long as its
  kind allows.

  Main declarations:
    * `Piece`                  (a token with the gap before it)
    * `Piece.Stands`           (a piece in its place)
    * `Lexed.exists_pieces`
    * `tokenize_coverage`
-/

------------------------------------------------------------
-- Pieces of a Source
------------------------------------------------------------

namespace MonkeyLang

/- A token with its source text and with the gap before it. -/
structure Piece where
  gap : List Char
  source : List Char
  token : Token

namespace Piece

/- The text that a piece takes in a source. -/
def text
    (piece : Piece) :
    List Char :=
  piece.gap ++ piece.source

/- The text of several pieces in turn. -/
def textOf
    (pieces : List Piece) :
    List Char :=
  pieces.flatMap text

@[simp] theorem textOf_nil : textOf [] = [] := rfl

@[simp] theorem textOf_cons
    (piece : Piece)
    (pieces : List Piece) :
    textOf (piece :: pieces) = piece.text ++ textOf pieces := rfl

/-
  A piece stands between two parts of a source: its gap is one,
  its lexeme is recognised in front of what follows, and its
  token is placed where the lexeme begins.
-/
structure Stands
    (piece : Piece)
    (before after : List Char) :
    Prop where
  gap : Gap piece.gap (piece.source ++ after)
  recognised :
    Recognised piece.token.kind piece.token.literal.toList
      piece.source after
  line : piece.token.line = lineAfter (before ++ piece.gap)
  column : piece.token.column = columnAfter (before ++ piece.gap)

end Piece

/- The tokens of a text come from its pieces. -/
theorem Lexed.exists_pieces
    {before text : List Char}
    {tokens : List Token}
    (hLexed : Lexed before text tokens) :
    ∃ pieces last,
      text = Piece.textOf pieces ++ last ∧
        Gap last [] ∧
        tokens =
          pieces.map Piece.token ++ [endAfter (before ++ text)] ∧
        ∀ front piece back,
          pieces = front ++ piece :: back →
            piece.Stands (before ++ Piece.textOf front)
              (Piece.textOf back ++ last) := by
  induction hLexed with
  | finish hGap => exact ⟨[], _, by simp, hGap, by simp, by simp⟩
  | @token before gap source after literal kind _ hGap
      hRecognised _ ih =>
      rcases ih with ⟨pieces, last, rfl, hLast, rfl, hPieces⟩
      refine
        ⟨⟨gap, source, tokenAfter (before ++ gap) kind literal⟩ ::
          pieces, last, by simp [Piece.text], hLast, by simp, ?_⟩
      intro front piece back hSplit
      cases front with
      | nil =>
          rcases List.cons.inj hSplit with ⟨rfl, rfl⟩
          exact
            { gap := hGap
              recognised := by simpa [tokenAfter] using hRecognised
              line := by simp [tokenAfter]
              column := by simp [tokenAfter] }
      | cons first front =>
          rcases List.cons.inj hSplit with ⟨rfl, hRest⟩
          simpa [Piece.text] using hPieces front piece back hRest

------------------------------------------------------------
-- Strings That Are Not Ended
------------------------------------------------------------

/- An illegal token that starts with a quote takes all that is left. -/
theorem Recognised.after_eq_nil
    {literal source after : List Char}
    (hRecognised : Recognised .illegal literal source after)
    (hQuote : literal.head? = some '"') :
    after = [] := by
  cases hRecognised with
  | unended => rfl
  | whole hSpelled =>
      generalize hKind : TokenKind.illegal = kind at hSpelled
      cases hSpelled with
      | keyword hKeyword =>
          subst hKind
          simp [keywords] at hKeyword
      | symbol hSymbol =>
          subst hKind
          exact absurd hSymbol (by decide)
      | stray hStray => exact absurd (by simpa using hQuote) hStray.notQuote
      | identifier | number | string => cases hKind

------------------------------------------------------------
-- Whole Sources
------------------------------------------------------------

/-
  The tokens of a source lose nothing of it. The source is a
  sequence of gaps and of the texts of its tokens; the last
  token, and no other, is the end of input; every piece stands
  in its place; a string that is not ended is the last token
  and reaches the end; and reading the tokens, with each of
  their characters and up to the end, never fails.
-/
theorem tokenize_coverage
    (source : String) :
    ∃ pieces last,
      source.toList = Piece.textOf pieces ++ last ∧
      Gap last [] ∧
      tokenize source =
        pieces.map Piece.token ++ [endAfter source.toList] ∧
      (∀ piece ∈ pieces, piece.token.kind ≠ .eof) ∧
      (∀ front piece back,
        pieces = front ++ piece :: back →
          piece.Stands (Piece.textOf front)
            (Piece.textOf back ++ last)) ∧
      (∀ front piece back,
        pieces = front ++ piece :: back →
          piece.token.kind = .illegal →
          piece.token.literal.toList.head? = some '"' →
            back = [] ∧ last = []) ∧
      (Cursor.ofString source).advanceBy source.length =
        .ok (Cursor.ofString source).tokens.2 ∧
      (Cursor.ofString source).readTokens =
        .ok (tokenize source, (Cursor.ofString source).tokens.2) := by
  rcases exists_lexed [] source.toList with ⟨tokens, hLexed⟩
  have hTokens := tokenize_eq_iff_lexed.mpr hLexed
  rcases hLexed.exists_pieces with
    ⟨pieces, last, hSource, hLast, hSplit, hPieces⟩
  simp only [List.nil_append] at hSplit hPieces
  refine
    ⟨pieces, last, hSource, hLast, hTokens.trans hSplit,
      ?_, hPieces, ?_, ?_,
      Cursor.readTokens_eq (Cursor.isInside_ofString source)⟩
  · intro piece hMem
    rcases List.append_of_mem hMem with ⟨front, back, hShape⟩
    exact (hPieces front piece back hShape).recognised.kind_ne_eof
  · intro front piece back hShape hKind hQuote
    have hRecognised := (hPieces front piece back hShape).recognised
    rw [hKind] at hRecognised
    have hAfter := hRecognised.after_eq_nil hQuote
    rw [List.append_eq_nil_iff] at hAfter
    refine ⟨?_, hAfter.2⟩
    cases back with
    | nil => rfl
    | cons next back =>
        have hNext := hPieces (front ++ [piece]) next back
          (by simp [hShape])
        rcases hNext.recognised.exists_head with ⟨c, rest, hHead, -⟩
        simp [Piece.text, hHead] at hAfter
  · have hAdvance := Cursor.advanceBy_between [] source.toList []
    rw [Cursor.ofString_eq_between, Cursor.tokens_eq_of_lexed hLexed,
      ← String.length_toList]
    simpa only [List.append_nil] using hAdvance

end MonkeyLang
