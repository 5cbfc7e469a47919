import Mathlib.Data.List.Forall2
import MonkeyLang.Proofs.Lexing.Joining
import MonkeyLang.Proofs.Lexing.Trim

/-
  A text in one line with blanks at its ends. Blanks between
  which tokens may stand are not the only ones: a blank of
  another kind is an illegal token of its own, unless it stands
  in a comment or in a string. If there is no such token at the
  ends, the line has the tokens of the text without its blanks,
  each further along by the blanks in front.

  Main declarations:
    * `IsStray.of_isBlank`       (blanks that are tokens)
    * `Token.MovedTo`            (a token and where it goes)
    * `Lexed.padded`
    * `Text.indent`, `HasStrayEnd`
    * `tokenize_trim`
-/

------------------------------------------------------------
-- Blanks
------------------------------------------------------------

namespace MonkeyLang

/- No operator or delimiter starts with a blank. -/
theorem isBlank_symbols :
    ∀ kind ∈ symbolKinds, ∀ c ∈ kind.label.toList.head?,
      Unicode.isBlank c = false := by
  decide

/- A blank that belongs to no gap is a token of its own. -/
theorem IsStray.of_isBlank
    {c : Char}
    (hBlank : Unicode.isBlank c = true)
    (hGap : isGapBlank c = false) :
    IsStray c where
  notWord := by
    have hOther := continuesWord_of_isBlank hBlank
    by_contra hStart
    rw [Bool.not_eq_false] at hStart
    simp [continuesWord_of_startsWord hStart] at hOther
  notNumber := by
    have hOther := continuesWord_of_isBlank hBlank
    by_contra hStart
    rw [Bool.not_eq_false] at hStart
    simp [continuesWord_of_isDigit hStart] at hOther
  notQuote := by
    rintro rfl
    exact absurd hBlank (by decide)
  notGap := by
    rintro (hStart | rfl)
    · simp [hGap] at hStart
    · exact absurd hBlank (by decide)
  notSymbol := by
    intro kind hKind hHead
    simp [isBlank_symbols kind hKind c hHead] at hBlank

/- Blanks are all of gaps, or one of them is the first that is a token. -/
theorem exists_stray
    {blanks : List Char}
    (hBlanks : ∀ c ∈ blanks, Unicode.isBlank c = true) :
    (∀ c ∈ blanks, isGapBlank c = true) ∨
      ∃ front c back,
        blanks = front ++ c :: back ∧
          (∀ d ∈ front, isGapBlank d = true) ∧ IsStray c := by
  induction blanks with
  | nil => simp
  | cons c blanks ih =>
      rw [List.forall_mem_cons] at hBlanks
      cases hGap : isGapBlank c with
      | false =>
          exact .inr ⟨[], c, blanks, rfl, by simp,
            .of_isBlank hBlanks.1 hGap⟩
      | true =>
          rcases ih hBlanks.2 with
            hAll | ⟨front, d, back, rfl, hFront, hStray⟩
          · exact .inl (List.forall_mem_cons.mpr ⟨hGap, hAll⟩)
          · exact .inr ⟨c :: front, d, back, rfl,
              List.forall_mem_cons.mpr ⟨hGap, hFront⟩, hStray⟩

/- Blanks of a gap can stand in front of a gap. -/
theorem Gap.behind_blanks
    {blanks gap after : List Char}
    (hBlanks : ∀ c ∈ blanks, isGapBlank c = true)
    (hGap : Gap gap after) :
    Gap (blanks ++ gap) after := by
  induction blanks with
  | nil => exact hGap
  | cons c blanks ih =>
      rw [List.forall_mem_cons] at hBlanks
      exact .blank hBlanks.1 (ih hBlanks.2)

/- A gap at the end of a line is a comment at last, or only blanks. -/
theorem Gap.comment_or_blanks
    {gap : List Char}
    (hGap : Gap gap [])
    (hLine : '\n' ∉ gap) :
    (∀ rest, '\n' ∉ rest → Gap (gap ++ rest) []) ∨
      ∀ c ∈ gap, isGapBlank c = true := by
  generalize hEnd : ([] : List Char) = finish at hGap
  induction hGap with
  | none => exact .inr (by simp)
  | @blank c gap after hBlank _ ih =>
      rw [List.mem_cons, not_or] at hLine
      rcases ih hLine.2 hEnd with hOpen | hAll
      · exact .inl fun rest hRest => .blank hBlank (hOpen rest hRest)
      · exact .inr (List.forall_mem_cons.mpr ⟨hBlank, hAll⟩)
  | @comment text gap after hText hStop _ _ =>
      subst hEnd
      left
      intro rest hRest
      -- Only a line feed could end the comment, and there is none.
      have hNone : gap = [] := by
        cases gap with
        | nil => rfl
        | cons c gap =>
            have hFeed : c = '\n' := hStop c (by simp)
            simp [hFeed] at hLine
      subst hNone
      have hWhole : '\n' ∉ text ++ rest := by
        simp [hText, hRest]
      simpa using Gap.comment hWhole (by simp) (.none : Gap [] [])

/- Blanks behind a text keep its last lexeme from going on. -/
theorem Apart.append_blanks
    {source after blanks : List Char}
    (hApart : Apart source after)
    (hBlanks : ∀ c ∈ blanks, Unicode.isBlank c = true) :
    Apart source (after ++ blanks) := by
  cases after with
  | cons c after => exact ⟨hApart.word, hApart.sign⟩
  | nil =>
      cases blanks with
      | nil => exact hApart
      | cons c blanks =>
          have hBlank := hBlanks c (by simp)
          have hSign : c ≠ '=' := by
            rintro rfl
            exact absurd hBlank (by decide)
          have hOther := continuesWord_of_isBlank hBlank
          exact ⟨fun _ => by simp [hOther], fun _ => by simp [hSign]⟩

------------------------------------------------------------
-- Places in One Line
------------------------------------------------------------

/-
  Two tokens of which the second stands in the same line, in the
  column to which the first goes. Only if it is illegal, it may
  have another literal.
-/
structure Token.MovedTo
    (place : Int → Int)
    (first second : Token) :
    Prop where
  kind : first.kind = second.kind
  literal : first.kind ≠ .illegal → first.literal = second.literal
  line : second.line = first.line
  column : second.column = place first.column

/- A token behind one part of a line goes behind another. -/
theorem Token.movedTo_tokenAfter
    {place : Int → Int}
    {before others : List Char}
    (hBefore : '\n' ∉ before)
    (hOthers : '\n' ∉ others)
    (hPlace : place (before.length + 1) = others.length + 1)
    (kind : TokenKind)
    {literal literal' : List Char}
    (hLiteral : kind ≠ .illegal → literal = literal') :
    Token.MovedTo place (tokenAfter before kind literal)
      (tokenAfter others kind literal') where
  kind := rfl
  literal hKind := congrArg String.ofList (hLiteral hKind)
  line := by
    simp [tokenAfter, lineAfter_of_line, hBefore, hOthers]
  column := by
    simp [tokenAfter, columnAfter_of_line, hBefore, hOthers,
      hPlace]

theorem Token.movedTo_endAfter
    {place : Int → Int}
    {before others : List Char}
    (hBefore : '\n' ∉ before)
    (hOthers : '\n' ∉ others)
    (hPlace : place (before.length + 1) = others.length + 1) :
    Token.MovedTo place (endAfter before)
      (endAfter others) where
  kind := rfl
  literal _ := rfl
  line := by
    simp [endAfter, Token.endAt, lineAfter_of_line, hBefore,
      hOthers]
  column := by
    simp [endAfter, Token.endAt, columnAfter_of_line, hBefore,
      hOthers, hPlace]

------------------------------------------------------------
-- Blanks behind a Text
------------------------------------------------------------

/- An illegal token behind so many characters of its line. -/
def Token.IsStrayBehind
    (count : Nat)
    (token : Token) :
    Prop :=
  token.kind = .illegal ∧ count < token.column

/- A blank that is a token stands where it stands. -/
theorem Lexed.exists_stray
    {before gap : List Char}
    {c : Char}
    (hLine : '\n' ∉ before ++ gap)
    (hGap : ∀ d ∈ gap, isGapBlank d = true)
    (hStray : IsStray c)
    (back : List Char) :
    ∃ tokens,
      Lexed before (gap ++ c :: back) (tokenAfter (before ++ gap) .illegal
        [c] :: tokens) ∧
        (tokenAfter (before ++ gap) .illegal [c]).column =
          (before ++ gap).length + 1 := by
  rcases exists_lexed (before ++ gap ++ [c]) back with ⟨tokens, hTokens⟩
  have hBlanks : Gap gap ([c] ++ back) := by
    simpa using Gap.behind_blanks hGap (.none : Gap [] ([c] ++ back))
  exact ⟨tokens, .token hBlanks (hStray.recognised back) hTokens,
    columnAfter_of_line hLine⟩

/- Blanks behind a last gap belong to it, or one of them is a token. -/
theorem Gap.append_blanks
    {gap blanks : List Char}
    (hGap : Gap gap [])
    (hLine : '\n' ∉ gap)
    (hBlanks : ∀ c ∈ blanks, Unicode.isBlank c = true)
    (hBlankLine : '\n' ∉ blanks) :
    Gap (gap ++ blanks) [] ∨
      ∃ front c back,
        blanks = front ++ c :: back ∧
          (∀ d ∈ gap ++ front, isGapBlank d = true) ∧ IsStray c := by
  rcases hGap.comment_or_blanks hLine with hOpen | hAll
  · exact .inl (hOpen blanks hBlankLine)
  · rcases exists_stray hBlanks with
      hMore | ⟨front, c, back, hShape, hFront, hStray⟩
    · left
      simpa using Gap.behind_blanks
        (List.forall_mem_append.mpr ⟨hAll, hMore⟩) (.none : Gap [] [])
    · right
      exact ⟨front, c, back, hShape,
        List.forall_mem_append.mpr ⟨hAll, hFront⟩, hStray⟩

/- Behind the end of a text only the end of input is left. -/
theorem Lexed.eq_of_nil
    {before : List Char}
    {tokens : List Token}
    (hLexed : Lexed before [] tokens) :
    tokens = [endAfter before] := by
  generalize hText : ([] : List Char) = text at hLexed
  cases hLexed with
  | finish =>
      subst hText
      rw [List.append_nil]
  | token _ hRecognised =>
      rcases hRecognised.exists_head with ⟨c, rest, rfl, -⟩
      simp at hText

/-
  Blanks are put behind a text, and the whole stands behind
  another part of its line. Then every token of the text goes to
  the place that is its own there, and the end of input to the
  new end; or one of the blanks is a token.
-/
theorem Lexed.padded
    {before text blanks others : List Char}
    {tokens : List Token}
    {place : Int → Int}
    (hLexed : Lexed before text tokens)
    (hLine : '\n' ∉ before ++ text)
    (hBlanks : ∀ c ∈ blanks, Unicode.isBlank c = true)
    (hBlankLine : '\n' ∉ blanks)
    (hOthers : '\n' ∉ others)
    (hPlace :
      ∀ part, part <+: text → part ≠ text →
        place ((before ++ part).length + 1) = (others ++ part).length + 1)
    (hEnd :
      place ((before ++ text).length + 1) =
        (others ++ (text ++ blanks)).length + 1) :
    ∃ padded,
      Lexed others (text ++ blanks) padded ∧
        (List.Forall₂ (Token.MovedTo place) tokens padded ∨
          ∃ token ∈ padded,
            token.IsStrayBehind (others ++ text).length) := by
  induction hLexed generalizing others with
  | @finish before gap hGap =>
      rw [List.mem_append, not_or] at hLine
      rcases hGap.append_blanks hLine.2 hBlanks hBlankLine with
        hWhole | ⟨front, c, back, rfl, hFront, hStray⟩
      · refine ⟨_, .finish hWhole, .inl (.cons ?_ .nil)⟩
        apply Token.movedTo_endAfter _ _ hEnd
        · simp [hLine]
        · simp [hOthers, hLine, hBlankLine]
      · have hStart : '\n' ∉ others ++ (gap ++ front) := by
          rw [List.mem_append, not_or] at hBlankLine
          simp [hOthers, hLine, hBlankLine]
        rcases Lexed.exists_stray hStart hFront hStray back with
          ⟨padded, hPadded, hColumn⟩
        rw [List.append_assoc] at hPadded
        refine ⟨_, hPadded, .inr ⟨_, List.mem_cons_self, rfl, ?_⟩⟩
        rw [hColumn]
        simp only [List.length_append]
        omega
  | @token before gap source after literal kind tokens hGap hRecognised
      hRest ih =>
      rcases hRecognised.exists_head with ⟨c, word, hSource, -⟩
      have hHere :
          ∀ written, (kind ≠ .illegal → literal = written) →
            Token.MovedTo place (tokenAfter (before ++ gap) kind literal)
              (tokenAfter (others ++ gap) kind written) := by
        intro written hWritten
        apply Token.movedTo_tokenAfter _ _ _ _ hWritten
        · simp_all
        · simp_all
        · exact hPlace gap (List.prefix_append _ _) (by simp [hSource])
      have hGapMore : Gap gap (source ++ (after ++ blanks)) :=
        hGap.congr (by simp [hSource])
      cases hRecognised with
      | whole hSpelled hApart =>
          have hMore :
              Recognised kind literal source (after ++ blanks) :=
            .whole hSpelled (hApart.append_blanks hBlanks)
          have hOthersMore : '\n' ∉ others ++ gap ++ source := by
            simp_all
          have hPlaceMore :
              ∀ part, part <+: after → part ≠ after →
                place ((before ++ gap ++ source ++ part).length + 1) =
                  (others ++ gap ++ source ++ part).length + 1 := by
            intro part hPart hShort
            have hFound :=
              hPlace (gap ++ (source ++ part)) (by simpa using hPart)
                (by simpa using hShort)
            simpa only [List.append_assoc] using hFound
          rcases ih (by simpa only [List.append_assoc] using hLine)
            hOthersMore hPlaceMore
            (by simpa only [List.append_assoc] using hEnd) with
            ⟨padded, hPadded, hTokens⟩
          have hWhole := Lexed.token hGapMore hMore hPadded
          rw [← List.append_assoc source, ← List.append_assoc gap] at hWhole
          refine ⟨_, hWhole, ?_⟩
          rcases hTokens with hMoved | ⟨token, hMember, hStray⟩
          · exact .inl (.cons (hHere literal fun _ => rfl) hMoved)
          · refine .inr ⟨token, List.mem_cons_of_mem _ hMember, ?_⟩
            simpa only [List.append_assoc] using hStray
      | @unended content hContent =>
          -- The string takes the blanks, and nothing is left but the end.
          have hQuote : '"' ∉ content ++ blanks := by
            rw [List.mem_append, not_or]
            refine ⟨hContent, fun hMember => ?_⟩
            exact absurd (hBlanks _ hMember) (by decide)
          have hMore := Recognised.unended hQuote
          have hFinish :
              Lexed (others ++ gap ++ '"' :: (content ++ blanks)) []
                [endAfter
                  (others ++ gap ++ '"' :: (content ++ blanks) ++ [])] :=
            .finish .none
          have hWhole := Lexed.token (hGap.congr (by simp)) hMore hFinish
          rw [hRest.eq_of_nil]
          refine ⟨_, by simpa using hWhole, .inl (.cons ?_ (.cons ?_ .nil))⟩
          · exact hHere _ fun hLegal => absurd rfl hLegal
          · apply Token.movedTo_endAfter
            · simpa using hLine
            · simp_all
            · simpa using hEnd

------------------------------------------------------------
-- Trimmed Lines
------------------------------------------------------------

/- The number of blanks in front of the text of a line. -/
def Text.indent
    (line : String) :
    Nat :=
  (line.toList.takeWhile Unicode.isBlank).length

/- A line is its text between blanks. -/
theorem Text.exists_ends
    (line : String) :
    ∃ front back,
      line.toList = front ++ ((Text.trim line).toList ++ back) ∧
        front.length = Text.indent line ∧
        (∀ c ∈ front, Unicode.isBlank c = true) ∧
        ∀ c ∈ back, Unicode.isBlank c = true := by
  rcases exists_behind_trimWhile Unicode.isBlank line.toList with
    ⟨back, hShape, hBack⟩
  refine ⟨line.toList.takeWhile Unicode.isBlank, back, ?_, rfl, ?_, hBack⟩
  · rw [Text.trim, String.toList_ofList]
    exact hShape
  · exact fun c hMember => List.mem_takeWhile_imp hMember

/-
  A blank at an end of a line is a token of its own: it stands
  in front of the text of the line or behind it.
-/
def HasStrayEnd
    (line : String) :
    Prop :=
  ∃ token ∈ tokenize line,
    token.kind = .illegal ∧
      (token.column ≤ Text.indent line ∨
        Text.indent line + (Text.trim line).length < token.column)

instance
    (line : String) :
    Decidable (HasStrayEnd line) := by
  unfold HasStrayEnd
  infer_instance

/- The column of a line that a column of its text is; behind it is the end. -/
def columnTyped
    (line : String)
    (column : Int) :
    Int :=
  if column ≤ (Text.trim line).length then
    Text.indent line + column
  else
    line.length + 1

/- Blanks of a gap in front of a text belong to its first gap. -/
theorem Lexed.behind_blanks
    {before blanks text : List Char}
    {tokens : List Token}
    (hBlanks : ∀ c ∈ blanks, isGapBlank c = true)
    (hLexed : Lexed (before ++ blanks) text tokens) :
    Lexed before (blanks ++ text) tokens := by
  generalize hFront : before ++ blanks = front at hLexed
  cases hLexed with
  | finish hGap =>
      subst hFront
      rw [List.append_assoc]
      exact .finish (hGap.behind_blanks hBlanks)
  | token hGap hRecognised hRest =>
      subst hFront
      rw [List.append_assoc before, ← List.append_assoc blanks] at *
      exact .token (hGap.behind_blanks hBlanks) hRecognised hRest

/-
  Unless a blank at an end of a line is a token, the tokens of
  the line are those of its text, each in its own column.
-/
theorem tokenize_trim
    {line : String}
    (hLine : '\n' ∉ line.toList) :
    HasStrayEnd line ∨
      List.Forall₂ (Token.MovedTo (columnTyped line))
        (tokenize (Text.trim line)) (tokenize line) := by
  rcases Text.exists_ends line with
    ⟨front, back, hShape, hIndent, hFront, hBack⟩
  have hText : Lexed [] (Text.trim line).toList (tokenize (Text.trim line)) :=
    tokenize_eq_iff_lexed.mp rfl
  have hRead :
      ∀ tokens, Lexed [] line.toList tokens → tokenize line = tokens :=
    fun _ hLexed => tokenize_eq_iff_lexed.mpr hLexed
  have hTextLine : '\n' ∉ [] ++ (Text.trim line).toList := by
    rw [hShape] at hLine
    simp_all
  have hPlace :
      ∀ part, part <+: (Text.trim line).toList →
        part ≠ (Text.trim line).toList →
          columnTyped line (([] ++ part).length + 1) =
            (front ++ part).length + 1 := by
    intro part hPart hShort
    have hLess := hPart.length_le
    have hOther := mt hPart.eq_of_length hShort
    unfold columnTyped
    rw [← hIndent, ← String.length_toList, List.nil_append, List.length_append]
    split <;> omega
  have hEnd :
      columnTyped line (([] ++ (Text.trim line).toList).length + 1) =
        (front ++ ((Text.trim line).toList ++ back)).length + 1 := by
    unfold columnTyped
    rw [← hShape, ← String.length_toList, ← String.length_toList,
      List.nil_append]
    split <;> omega
  rw [hShape, List.mem_append, List.mem_append, not_or, not_or] at hLine
  rcases exists_stray hFront with
    hGap | ⟨gap, c, blanks, rfl, hGap, hStray⟩
  · rcases hText.padded hTextLine hBack hLine.2.2 hLine.1 hPlace hEnd with
      ⟨padded, hPadded, hTokens⟩
    have hWhole :
        Lexed [] (front ++ ((Text.trim line).toList ++ back)) padded :=
      Lexed.behind_blanks hGap hPadded
    rw [← hShape] at hWhole
    rw [hRead padded hWhole]
    rcases hTokens with hMoved | ⟨token, hMember, hStray⟩
    · exact .inr hMoved
    · left
      refine ⟨token, hRead padded hWhole ▸ hMember, hStray.1, .inr ?_⟩
      have hColumn := hStray.2
      rw [List.length_append] at hColumn
      rw [← hIndent, ← String.length_toList]
      exact_mod_cast hColumn
  · have hStart : '\n' ∉ [] ++ gap := by
      simp_all
    rcases Lexed.exists_stray hStart hGap hStray
      (blanks ++ ((Text.trim line).toList ++ back)) with
      ⟨tokens, hTokens, hColumn⟩
    have hWhole :
        gap ++ c :: (blanks ++ ((Text.trim line).toList ++ back)) =
          line.toList := by
      rw [hShape]
      simp
    rw [hWhole] at hTokens
    left
    refine ⟨_, hRead _ hTokens ▸ List.mem_cons_self, rfl, .inl ?_⟩
    rw [hColumn, ← hIndent]
    simp only [List.nil_append, List.length_append, List.length_cons]
    omega

end MonkeyLang
