import MonkeyLang.Proofs.Lexing.Position
import MonkeyLang.Proofs.Lexing.Recognition
import MonkeyLang.Token.Lexer

/-
  The tokens of a source as a relation: gaps and lexemes in
  turn, each lexeme with the place at which it stands, up to
  the end of input.

  Main declarations:
    * `Lexed`                   (the tokens of the rest of a source)
    * `exists_lexed`            (there always are some)
    * `tokens_eq_of_lexed`      (they are the ones that are read)
    * `tokenize_eq_iff_lexed`
    * `Token.content`           (a token without its place)
    * `Lexed.exists_moved`      (places do not matter otherwise)
-/

------------------------------------------------------------
-- The Relation
------------------------------------------------------------

namespace MonkeyLang

/- The token that a lexeme makes behind some text. -/
def tokenAfter
    (before : List Char)
    (kind : TokenKind)
    (literal : List Char) :
    Token :=
  ⟨⟨String.ofList literal, lineAfter before, columnAfter before⟩,
    kind⟩

/- The end of input behind some text. -/
def endAfter
    (before : List Char) :
    Token :=
  Token.endAt (lineAfter before) (columnAfter before)

@[simp] theorem kind_tokenAfter
    (before : List Char)
    (kind : TokenKind)
    (literal : List Char) :
    (tokenAfter before kind literal).kind = kind := rfl

/-
  The tokens of a text that stands behind other text of its
  source.
-/
inductive Lexed : List Char → List Char → List Token → Prop where
  | finish {before gap : List Char}
      (hGap : Gap gap []) :
      Lexed before gap [endAfter (before ++ gap)]
  | token {before gap source after literal : List Char}
      {kind : TokenKind} {tokens : List Token}
      (hGap : Gap gap (source ++ after))
      (hRecognised : Recognised kind literal source after)
      (hRest : Lexed (before ++ gap ++ source) after tokens) :
      Lexed before (gap ++ (source ++ after))
        (tokenAfter (before ++ gap) kind literal :: tokens)

/- Every text has tokens. -/
theorem exists_lexed
    (before text : List Char) :
    ∃ tokens, Lexed before text tokens := by
  rcases exists_gap text with ⟨gap, others, rfl, hGap, hOthers⟩
  cases others with
  | nil => exact ⟨_, by simpa using Lexed.finish hGap⟩
  | cons c rest =>
      have hStart : ¬ StartsGap c := hOthers c (by simp)
      rcases exists_recognised rest hStart with
        ⟨kind, literal, source, after, hShape, hRecognised⟩
      have hShorter : after.length < (gap ++ c :: rest).length := by
        rcases hRecognised.exists_head with ⟨d, others, rfl, -⟩
        rw [hShape]
        simp
        omega
      rcases exists_lexed (before ++ gap ++ source) after with
        ⟨tokens, hTokens⟩
      rw [hShape] at hGap ⊢
      exact ⟨_, .token hGap hRecognised hTokens⟩
termination_by text.length

------------------------------------------------------------
-- Reading Tokens
------------------------------------------------------------

namespace Cursor

theorem skipGap_between
    (before : List Char)
    {gap after : List Char}
    (hGap : Gap gap after)
    (hAfter : ∀ c ∈ after.head?, ¬ StartsGap c) :
    (between before (gap ++ after)).skipGap =
      between (before ++ gap) after := by
  simp only [skipGap, toStart_between, ahead_between,
    gapLength_eq hGap hAfter]
  exact forwardBy_between before gap after

/- A lexeme is read as its token, wherever it stands. -/
theorem nextToken_lexeme
    {before gap source after literal : List Char}
    {kind : TokenKind}
    (hGap : Gap gap (source ++ after))
    (hRecognised : Recognised kind literal source after) :
    (between before (gap ++ (source ++ after))).nextToken =
      (tokenAfter (before ++ gap) kind literal,
        between (before ++ gap ++ source) after) := by
  unfold nextToken
  rw [skipGap_between before hGap hRecognised.not_startsGap]
  simp only [ahead_between, Lexeme.first?_eq_some hRecognised,
    forwardBy_between]
  rfl

/- Behind the last gap of a source the input has ended. -/
theorem nextToken_finish
    {before gap : List Char}
    (hGap : Gap gap []) :
    (between before gap).nextToken =
      (endAfter (before ++ gap), between (before ++ gap) []) := by
  have hSkip :
      (between before gap).skipGap = between (before ++ gap) [] := by
    simpa using skipGap_between before hGap (by simp)
  unfold nextToken
  rw [hSkip]
  simp [Lexeme.first?, endAfter]

/- All the tokens are read, if the limit is high enough. -/
theorem tokensWithin_eq_of_lexed
    {before text : List Char}
    {tokens : List Token}
    (hLexed : Lexed before text tokens)
    {limit : Nat}
    (hLimit : text.length < limit) :
    (between before text).tokensWithin limit =
      (tokens, between (before ++ text) []) := by
  induction hLexed generalizing limit with
  | finish hGap =>
      cases limit with
      | zero => omega
      | succ limit =>
          rw [tokensWithin, nextToken_finish hGap]
          rfl
  | token hGap hRecognised _ ih =>
      cases limit with
      | zero => omega
      | succ limit =>
          rcases hRecognised.exists_head with ⟨c, others, rfl, -⟩
          have hRest := @ih limit (by
            simp only [List.length_append, List.length_cons] at hLimit
            omega)
          have hKind := hRecognised.kind_ne_eof
          rw [tokensWithin, nextToken_lexeme hGap hRecognised]
          simp only [kind_tokenAfter, hKind, if_false, hRest]
          simp only [List.append_assoc]

theorem tokens_eq_of_lexed
    {before text : List Char}
    {tokens : List Token}
    (hLexed : Lexed before text tokens) :
    (between before text).tokens =
      (tokens, between (before ++ text) []) :=
  tokensWithin_eq_of_lexed hLexed (by simp)

end Cursor

/- The tokens of a source are the ones that the relation allows. -/
theorem tokenize_eq_iff_lexed
    {source : String}
    {tokens : List Token} :
    tokenize source = tokens ↔ Lexed [] source.toList tokens := by
  have hRead :
      ∀ others, Lexed [] source.toList others →
        tokenize source = others := by
    intro others hLexed
    unfold tokenize
    rw [Cursor.ofString_eq_between,
      Cursor.tokens_eq_of_lexed hLexed]
  constructor
  · intro hTokens
    rcases exists_lexed [] source.toList with ⟨others, hLexed⟩
    rw [← hTokens, hRead others hLexed]
    exact hLexed
  · exact hRead tokens

------------------------------------------------------------
-- Tokens without Their Places
------------------------------------------------------------

/- What a token is, wherever it stands: its kind and its literal. -/
def Token.content
    (token : Token) :
    TokenKind × String :=
  (token.kind, token.literal)

@[simp] theorem content_tokenAfter
    (before : List Char)
    (kind : TokenKind)
    (literal : List Char) :
    (tokenAfter before kind literal).content =
      (kind, String.ofList literal) := rfl

@[simp] theorem content_endAfter
    (before : List Char) :
    (endAfter before).content = (.eof, "") := rfl

/- Behind other text, the same tokens stand at other places. -/
theorem Lexed.exists_moved
    {before text : List Char}
    {tokens : List Token}
    (hLexed : Lexed before text tokens)
    (others : List Char) :
    ∃ moved,
      Lexed others text moved ∧
        moved.map Token.content = tokens.map Token.content := by
  induction hLexed generalizing others with
  | finish hGap => exact ⟨_, .finish hGap, rfl⟩
  | token hGap hRecognised _ ih =>
      rcases ih (others ++ _ ++ _) with ⟨moved, hMoved, hSame⟩
      exact ⟨_, .token hGap hRecognised hMoved, by simp [hSame]⟩

/- The contents of the tokens of a text. -/
def contents
    (text : List Char) :
    List (TokenKind × String) :=
  (tokenize (String.ofList text)).map Token.content

theorem contents_eq_of_lexed
    {before text : List Char}
    {tokens : List Token}
    (hLexed : Lexed before text tokens) :
    contents text = tokens.map Token.content := by
  rcases hLexed.exists_moved [] with ⟨moved, hMoved, hSame⟩
  have hRead : tokenize (String.ofList text) = moved := by
    rw [tokenize_eq_iff_lexed, String.toList_ofList]
    exact hMoved
  rw [contents, hRead, hSame]

theorem contents_finish
    {gap : List Char}
    (hGap : Gap gap []) :
    contents gap = [(.eof, "")] := by
  have hLexed : Lexed [] gap [endAfter ([] ++ gap)] :=
    .finish hGap
  simpa using contents_eq_of_lexed hLexed

/- A gap and a lexeme come off the front of a text. -/
theorem contents_lexeme
    {gap source after literal : List Char}
    {kind : TokenKind}
    (hGap : Gap gap (source ++ after))
    (hRecognised : Recognised kind literal source after) :
    contents (gap ++ (source ++ after)) =
      (kind, String.ofList literal) :: contents after := by
  rcases exists_lexed ([] ++ gap ++ source) after with
    ⟨tokens, hTokens⟩
  rw [contents_eq_of_lexed (.token hGap hRecognised hTokens),
    contents_eq_of_lexed hTokens]
  rfl

end MonkeyLang
