import Mathlib.Data.List.Induction
import MonkeyLang.Proofs.Lexing.Joining

/-
  A text that is read line by line. Below a text in which every
  string is ended, another text has the tokens it has alone, in
  the same columns, and so many lines further down.

  Main declarations:
    * `Token.lowered`     (a token further down)
    * `Lexed.lowered`     (the tokens of a text below another)
    * `tokenize_lines`
-/

------------------------------------------------------------
-- Places below Other Lines
------------------------------------------------------------

namespace MonkeyLang

/- A token a number of lines further down, in the same column. -/
def Token.lowered
    (count : Int)
    (token : Token) :
    Token :=
  { token with line := token.line + count }

/- The number of lines of a text: one more than its line feeds. -/
def lineCount
    (text : List Char) :
    Int :=
  1 + text.count '\n'

/- Lines count on below other lines. -/
theorem lineAfter_below
    (above before : List Char) :
    lineAfter (above ++ '\n' :: before) =
      lineAfter before + lineCount above := by
  unfold lineAfter lineCount
  rw [List.count_append, List.count_cons_self]
  omega

/- Columns start anew in every line. -/
theorem columnAfter_below
    (above before : List Char) :
    columnAfter (above ++ '\n' :: before) = columnAfter before := by
  induction before using List.reverseRecOn with
  | nil => simp [columnAfter]
  | append_singleton before c ih =>
      rw [← List.cons_append, ← List.append_assoc,
        columnAfter_concat, columnAfter_concat, ih]

theorem tokenAfter_below
    (above before : List Char)
    (kind : TokenKind)
    (literal : List Char) :
    tokenAfter (above ++ '\n' :: before) kind literal =
      (tokenAfter before kind literal).lowered (lineCount above) := by
  simp [tokenAfter, Token.lowered, lineAfter_below, columnAfter_below]

theorem endAfter_below
    (above before : List Char) :
    endAfter (above ++ '\n' :: before) =
      (endAfter before).lowered (lineCount above) := by
  simp [endAfter, Token.endAt, Token.lowered, lineAfter_below,
    columnAfter_below]

------------------------------------------------------------
-- Texts below Other Lines
------------------------------------------------------------

/- Below other lines a text has the same tokens, further down. -/
theorem Lexed.lowered
    {before text : List Char}
    {tokens : List Token}
    (hLexed : Lexed before text tokens)
    (above : List Char) :
    Lexed (above ++ '\n' :: before) text
      (tokens.map (Token.lowered (lineCount above))) := by
  induction hLexed with
  | @finish before gap hGap =>
      rw [List.map_singleton, ← endAfter_below]
      simpa using
        @Lexed.finish (above ++ '\n' :: before) gap hGap
  | @token before gap source after literal kind tokens hGap
      hRecognised _ ih =>
      rw [List.map_cons, ← tokenAfter_below]
      have hRest :
          Lexed (above ++ '\n' :: before ++ gap ++ source) after
            (tokens.map (Token.lowered (lineCount above))) := by
        simpa using ih
      simpa using Lexed.token hGap hRecognised hRest

/- The end of input comes last, and only there. -/
theorem Lexed.exists_ending
    {before text : List Char}
    {tokens : List Token}
    (hLexed : Lexed before text tokens) :
    ∃ front ending,
      tokens = front ++ [ending] ∧ ending.kind = .eof ∧
        ∀ token ∈ front, token.kind ≠ .eof := by
  induction hLexed with
  | finish => exact ⟨[], _, rfl, rfl, by simp⟩
  | token _ hRecognised _ ih =>
      rcases ih with ⟨front, ending, rfl, hEnding, hFront⟩
      exact ⟨_ :: front, ending, rfl, hEnding,
        List.forall_mem_cons.mpr ⟨hRecognised.kind_ne_eof, hFront⟩⟩

/-
  Two texts with a line feed between them. If every string of
  the first is ended, then the tokens are those of the first, up
  to its end of input, and those of the second, each of which
  stands in the same column, and as many lines further down as
  the first text has.
-/
theorem tokenize_lines
    (first second : String)
    (hWhole : ∀ token ∈ tokenize first, ¬ token.IsBroken) :
    ∃ front ending,
      tokenize first = front ++ [ending] ∧ ending.kind = .eof ∧
        (∀ token ∈ front, token.kind ≠ .eof) ∧
        tokenize (first ++ "\n" ++ second) =
          front ++
            (tokenize second).map
              (Token.lowered (lineCount first.toList)) := by
  have hFirst : Lexed [] first.toList (tokenize first) :=
    tokenize_eq_iff_lexed.mp rfl
  have hSecond : Lexed [] second.toList (tokenize second) :=
    tokenize_eq_iff_lexed.mp rfl
  rcases hFirst.exists_ending with
    ⟨front, ending, hTokens, hEnding, hFront⟩
  refine ⟨front, ending, hTokens, hEnding, hFront, ?_⟩
  have hBoth :=
    hFirst.append_line hWhole (hSecond.lowered first.toList)
  rw [hTokens, List.dropLast_concat] at hBoth
  rw [tokenize_eq_iff_lexed]
  simpa using hBoth

/-
  A comment and an operator at the ends of lines. Behind the
  line feed the comment is over, and the operator does not grow.
-/
theorem tokenize_lines_comment :
    (∀ token ∈ tokenize "a # b\n!", ¬ token.IsBroken) ∧
      tokenize ("a # b\n!" ++ "\n" ++ "= c") = [
        ⟨⟨"a", 1, 1⟩, .ident⟩, ⟨⟨"!", 2, 1⟩, .bang⟩,
        ⟨⟨"=", 3, 1⟩, .assign⟩, ⟨⟨"c", 3, 3⟩, .ident⟩,
        ⟨⟨"", 3, 4⟩, .eof⟩] := by
  have hFirst :
      tokenize "a # b\n!" = [
        ⟨⟨"a", 1, 1⟩, .ident⟩, ⟨⟨"!", 2, 1⟩, .bang⟩,
        ⟨⟨"", 2, 2⟩, .eof⟩] := by
    rfl
  have hSecond :
      tokenize "= c" = [
        ⟨⟨"=", 1, 1⟩, .assign⟩, ⟨⟨"c", 1, 3⟩, .ident⟩,
        ⟨⟨"", 1, 4⟩, .eof⟩] := by
    rfl
  have hWhole : ∀ token ∈ tokenize "a # b\n!", ¬ token.IsBroken := by
    rw [hFirst]
    decide
  rcases tokenize_lines "a # b\n!" "= c" hWhole with
    ⟨front, ending, hTokens, -, -, hBoth⟩
  have hFront : front = (tokenize "a # b\n!").dropLast := by
    rw [hTokens, List.dropLast_concat]
  refine ⟨hWhole, ?_⟩
  rw [hBoth, hFront, hFirst, hSecond]
  rfl

end MonkeyLang
