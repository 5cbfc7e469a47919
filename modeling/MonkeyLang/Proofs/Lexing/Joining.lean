import MonkeyLang.Proofs.Lexing.Tokenization

/-
  Two texts with a line feed between them. If every string of
  the first is ended, then no token, comment or string of it
  goes on behind the line feed: the tokens of both texts are
  read one after the other.

  Main declarations:
    * `Token.IsBroken`     (a string that is not ended)
    * `Gap.append_line`
    * `Recognised.append_line`
    * `Lexed.append_line`
    * `Lexed.contents_append_line`
-/

------------------------------------------------------------
-- Gaps
------------------------------------------------------------

namespace MonkeyLang

/- Only the first character behind a gap matters to it. -/
theorem Gap.congr
    {gap after other : List Char}
    (hGap : Gap gap after)
    (hHead : after.head? = other.head?) :
    Gap gap other := by
  induction hGap with
  | none => exact .none
  | blank hBlank _ ih => exact .blank hBlank (ih hHead)
  | @comment text gap after hText hEnd _ ih =>
      apply Gap.comment hText
      · rw [List.head?_append, ← hHead, ← List.head?_append]
        exact hEnd
      · exact ih hHead

/- A gap at the end of a text goes on as a gap in the next line. -/
theorem Gap.append_line
    {gap next after : List Char}
    (hGap : Gap gap [])
    (hNext : Gap next after) :
    Gap (gap ++ '\n' :: next) after := by
  generalize hEnd : ([] : List Char) = finish at hGap
  induction hGap with
  | none => exact .blank (by decide) hNext
  | blank hBlank _ ih => exact .blank hBlank (ih hEnd)
  | @comment text gap after hText hLine _ ih =>
      subst hEnd
      rw [List.append_assoc]
      apply Gap.comment hText
      · cases gap with
        | nil => simp
        | cons c gap => simpa using hLine
      · exact ih rfl

------------------------------------------------------------
-- Lexemes
------------------------------------------------------------

/- A line feed behind a text keeps its last lexeme from going on. -/
theorem Apart.append_line
    {source after : List Char}
    (hApart : Apart source after)
    (rest : List Char) :
    Apart source (after ++ '\n' :: rest) := by
  cases after with
  | nil =>
      have hOther : continuesWord '\n' = false := by decide
      exact ⟨fun _ => by simp [hOther], fun _ => by simp⟩
  | cons c after => exact ⟨hApart.word, hApart.sign⟩

/- An illegal token that starts with a quote: a string that is not ended. -/
def Token.IsBroken
    (token : Token) :
    Prop :=
  token.kind = .illegal ∧ token.literal.toList.head? = some '"'

instance
    (token : Token) :
    Decidable token.IsBroken := by
  unfold Token.IsBroken
  infer_instance

/- Only a string that is not ended would go on in the next line. -/
theorem Recognised.append_line
    {kind : TokenKind}
    {literal source after before : List Char}
    (hRecognised : Recognised kind literal source after)
    (hWhole : ¬ (tokenAfter before kind literal).IsBroken)
    (rest : List Char) :
    Recognised kind literal source (after ++ '\n' :: rest) := by
  cases hRecognised with
  | whole hSpelled hApart =>
      exact .whole hSpelled (hApart.append_line rest)
  | unended => exact absurd ⟨rfl, by simp [tokenAfter]⟩ hWhole

------------------------------------------------------------
-- Texts
------------------------------------------------------------

theorem Lexed.ne_nil
    {before text : List Char}
    {tokens : List Token}
    (hLexed : Lexed before text tokens) :
    tokens ≠ [] := by
  cases hLexed <;> simp

/- A gap in front of a line feed makes no token. -/
theorem Lexed.behind_gap_line
    {before gap text : List Char}
    {tokens : List Token}
    (hGap : Gap gap [])
    (hLexed : Lexed (before ++ gap ++ ['\n']) text tokens) :
    Lexed before (gap ++ '\n' :: text) tokens := by
  cases hLexed with
  | finish hNext =>
      simpa using
        @Lexed.finish before _ (hGap.append_line hNext)
  | @token _ next source after _ _ _ hNext hRecognised hRest =>
      have hPlace :
          before ++ gap ++ ['\n'] ++ next =
            before ++ (gap ++ '\n' :: next) := by
        simp
      have hShape :
          gap ++ '\n' :: (next ++ (source ++ after)) =
            (gap ++ '\n' :: next) ++ (source ++ after) := by
        simp
      rw [hPlace] at hRest ⊢
      rw [hShape]
      exact .token (hGap.append_line hNext) hRecognised hRest

/-
  In front of a line feed, a text in which every string is ended
  has the tokens it has alone, apart from the end of input. The
  tokens of what follows are those that it has there.
-/
theorem Lexed.append_line
    {before text rest : List Char}
    {tokens others : List Token}
    (hLexed : Lexed before text tokens)
    (hWhole : ∀ token ∈ tokens, ¬ token.IsBroken)
    (hOthers : Lexed (before ++ text ++ ['\n']) rest others) :
    Lexed before (text ++ '\n' :: rest) (tokens.dropLast ++ others) := by
  induction hLexed with
  | finish hGap => exact hOthers.behind_gap_line hGap
  | @token before gap source after literal kind tokens hGap
      hRecognised hRest ih =>
      rw [List.forall_mem_cons] at hWhole
      have hNext := hRecognised.append_line hWhole.1 rest
      have hHead :
          (source ++ after).head? =
            (source ++ (after ++ '\n' :: rest)).head? := by
        rcases hRecognised.exists_head with ⟨c, others, rfl, -⟩
        rfl
      have hShape :
          gap ++ (source ++ after) ++ '\n' :: rest =
            gap ++ (source ++ (after ++ '\n' :: rest)) := by
        simp
      rw [hShape, List.dropLast_cons_of_ne_nil hRest.ne_nil]
      apply Lexed.token (hGap.congr hHead) hNext
      exact ih hWhole.2 (by simpa using hOthers)

/- The same holds of the contents of the tokens, wherever they stand. -/
theorem Lexed.contents_append_line
    {before text : List Char}
    {tokens : List Token}
    (hLexed : Lexed before text tokens)
    (hWhole : ∀ token ∈ tokens, ¬ token.IsBroken)
    (rest : List Char) :
    contents (text ++ '\n' :: rest) =
      tokens.dropLast.map Token.content ++ contents rest := by
  rcases exists_lexed (before ++ text ++ ['\n']) rest with
    ⟨others, hOthers⟩
  rw [contents_eq_of_lexed (hLexed.append_line hWhole hOthers),
    contents_eq_of_lexed hOthers, List.map_append]

end MonkeyLang
