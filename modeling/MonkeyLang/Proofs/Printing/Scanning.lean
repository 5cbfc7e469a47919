import MonkeyLang.Proofs.Lexing.Tokenization

/-
  How printed text is read, lexeme by lexeme. A text is read by
  itself if what follows does not go on with its last lexeme.

  Main declarations:
    * `Ends`               (what goes on with no lexeme)
    * `Scans`              (a text that is read by itself)
    * `Scans.append`       (such texts one behind the other)
    * `Scans.blank`, `Scans.keyword`, `Scans.operator`, ...
-/

------------------------------------------------------------
-- What Follows a Text
------------------------------------------------------------

namespace MonkeyLang

/- What follows goes on with no lexeme, whichever it is. -/
def Ends
    (after : List Char) :
    Prop :=
  ∀ c ∈ after.head?, continuesWord c = false ∧ c ≠ '='

theorem ends_nil : Ends [] := by
  simp [Ends]

theorem ends_cons
    {c : Char}
    (hContinues : continuesWord c = false)
    (hSign : c ≠ '=')
    (after : List Char) :
    Ends (c :: after) := by
  simpa [Ends] using ⟨hContinues, hSign⟩

theorem ends_blank
    (text : List Char) :
    Ends (' ' :: text) :=
  ends_cons (by decide) (by decide) text

theorem ends_lparen
    (text : List Char) :
    Ends ('(' :: text) :=
  ends_cons (by decide) (by decide) text

theorem ends_rparen
    (text : List Char) :
    Ends (')' :: text) :=
  ends_cons (by decide) (by decide) text

theorem ends_rbrace
    (text : List Char) :
    Ends ('}' :: text) :=
  ends_cons (by decide) (by decide) text

theorem ends_comma
    (text : List Char) :
    Ends (',' :: text) :=
  ends_cons (by decide) (by decide) text

theorem ends_semicolon
    (text : List Char) :
    Ends (';' :: text) :=
  ends_cons (by decide) (by decide) text

theorem Ends.append
    {text after : List Char}
    (hText : Ends text)
    (hAfter : Ends after) :
    Ends (text ++ after) := by
  cases text with
  | nil => exact hAfter
  | cons c text => exact hText

theorem Ends.apart
    {after : List Char}
    (hEnds : Ends after)
    (source : List Char) :
    Apart source after where
  word _ c hHead := (hEnds c hHead).1
  sign _ hHead := (hEnds '=' hHead).2 rfl

------------------------------------------------------------
-- Lexemes
------------------------------------------------------------

theorem contents_spelled
    {kind : TokenKind}
    {literal source after : List Char}
    (hSpelled : Spelled kind literal source)
    (hApart : Apart source after) :
    contents (source ++ after) =
      (kind, String.ofList literal) :: contents after := by
  have hGap : Gap [] (source ++ after) := .none
  have hRead := contents_lexeme hGap (.whole hSpelled hApart)
  rwa [List.nil_append] at hRead

/- Blanks make no tokens. -/
theorem contents_blank
    (after : List Char) :
    contents (' ' :: after) = contents after := by
  rcases exists_gap after with ⟨gap, others, rfl, hGap, hOthers⟩
  have hBlank : Gap (' ' :: gap) others := .blank (by decide) hGap
  cases others with
  | nil =>
      rw [List.append_nil, contents_finish hGap,
        contents_finish hBlank]
  | cons c rest =>
      have hStart : ¬ StartsGap c := hOthers c (by simp)
      rcases exists_recognised rest hStart with
        ⟨kind, literal, source, after, hShape, hRecognised⟩
      rw [hShape] at hGap hBlank ⊢
      rw [contents_lexeme hGap hRecognised, ← List.cons_append,
        contents_lexeme hBlank hRecognised]

/- Operators and delimiters, before what does not go on with them. -/
theorem contents_symbol
    {kind : TokenKind}
    {after : List Char}
    (hSymbol : kind ∈ symbolKinds)
    (hSign : kind = .assign ∨ kind = .bang → after.head? ≠ some '=') :
    contents (kind.label.toList ++ after) =
      (kind, kind.label) :: contents after := by
  have hWords :
      ∀ kind ∈ symbolKinds,
        ∀ c ∈ kind.label.toList.head?,
          startsWord c = false ∧ Unicode.isDigit c = false := by
    decide
  have hApart : Apart kind.label.toList after := by
    constructor
    · intro hWord
      have hOther := hWords kind hSymbol
      cases hShape : kind.label.toList with
      | nil => simp [hShape, IsWord, IsNumber] at hWord
      | cons c rest =>
          simp [hShape] at hOther
          simp [hShape, IsWord, IsNumber, hOther] at hWord
    · intro hShape
      apply hSign
      revert hSymbol hShape
      cases kind <;> decide
  simpa using contents_spelled (.symbol hSymbol) hApart

/- A delimiter makes a token whatever follows. -/
theorem contents_delimiter
    {kind : TokenKind}
    {c : Char}
    (hSymbol : kind ∈ symbolKinds)
    (hLabel : kind.label.toList = [c])
    (hSign : c ≠ '=' ∧ c ≠ '!')
    (after : List Char) :
    contents (c :: after) = (kind, kind.label) :: contents after := by
  have hOther : ¬ (kind = .assign ∨ kind = .bang) := by
    rintro (rfl | rfl)
    · exact hSign.1 (by simpa [TokenKind.label] using hLabel.symm)
    · exact hSign.2 (by simpa [TokenKind.label] using hLabel.symm)
  have hRead :=
    @contents_symbol kind after hSymbol fun hSame => absurd hSame hOther
  rwa [hLabel] at hRead

------------------------------------------------------------
-- Texts
------------------------------------------------------------

/- Words and numbers do not start with an equals sign. -/
theorem head?_of_isWord
    {text : List Char}
    (hWord : IsWord text ∨ IsNumber text) :
    text.head? ≠ some '=' := by
  cases text with
  | nil => simp
  | cons c text =>
      intro hHead
      have hEq : c = '=' := by simpa using hHead
      subst hEq
      rcases hWord with ⟨hStart, -⟩ | ⟨hStart, -⟩ <;>
        revert hStart <;> decide

/-
  A text that is read by itself, as tokens of the given
  contents. It starts with no equals sign, so that it goes on
  with no operator in front of it.
-/
structure Scans
    (text : List Char)
    (items : List (TokenKind × String)) :
    Prop where
  head : text.head? ≠ some '='
  contents :
    ∀ after, Ends after →
      contents (text ++ after) = items ++ MonkeyLang.contents after

namespace Scans

theorem head_append
    {text after : List Char}
    {items : List (TokenKind × String)}
    (hScans : Scans text items)
    (hEnds : Ends after) :
    (text ++ after).head? ≠ some '=' := by
  cases text with
  | nil => exact fun hHead => (hEnds '=' hHead).2 rfl
  | cons c text => exact hScans.head

theorem nil : Scans [] [] where
  head := by simp
  contents after _ := by rw [List.nil_append, List.nil_append]

theorem of_spelled
    {kind : TokenKind}
    {literal source : List Char}
    (hSpelled : Spelled kind literal source)
    (hHead : source.head? ≠ some '=') :
    Scans source [(kind, String.ofList literal)] where
  head := hHead
  contents after hEnds := by
    rw [contents_spelled hSpelled (hEnds.apart source),
      List.singleton_append]

theorem append
    {first second : List Char}
    {items others : List (TokenKind × String)}
    (hFirst : Scans first items)
    (hEnds : Ends second)
    (hSecond : Scans second others) :
    Scans (first ++ second) (items ++ others) where
  head := hFirst.head_append hEnds
  contents after hAfter := by
    rw [List.append_assoc, hFirst.contents _ (hEnds.append hAfter),
      hSecond.contents after hAfter, List.append_assoc]

theorem blank
    {text : List Char}
    {items : List (TokenKind × String)}
    (hScans : Scans text items) :
    Scans (' ' :: text) items where
  head := by simp
  contents after hAfter := by
    rw [List.cons_append, contents_blank,
      hScans.contents after hAfter]

theorem keyword
    {kind : TokenKind}
    {word : String}
    {text : List Char}
    {items : List (TokenKind × String)}
    (hKeyword : (word, kind) ∈ keywords)
    (hEnds : Ends text)
    (hScans : Scans text items) :
    Scans (word.toList ++ text) ((kind, word) :: items) := by
  have hWord : IsWord word.toList := isWord_keyword hKeyword
  have hFirst :=
    of_spelled (.keyword hKeyword) (head?_of_isWord (.inl hWord))
  rw [String.ofList_toList] at hFirst
  exact hFirst.append hEnds hScans

/- An operator of one character that is no equals sign. -/
theorem sign
    {kind : TokenKind}
    {c : Char}
    {text : List Char}
    {items : List (TokenKind × String)}
    (hSymbol : kind ∈ symbolKinds)
    (hLabel : kind.label.toList = [c])
    (hSign : c ≠ '=')
    (hScans : Scans text items) :
    Scans (kind.label.toList ++ text)
      ((kind, kind.label) :: items) where
  head := by simpa [hLabel] using hSign
  contents after hAfter := by
    rw [List.append_assoc,
      contents_symbol hSymbol fun _ => hScans.head_append hAfter,
      hScans.contents after hAfter, List.cons_append]

/- An operator with a blank in front. -/
theorem operator
    {kind : TokenKind}
    {text : List Char}
    {items : List (TokenKind × String)}
    (hSymbol : kind ∈ symbolKinds)
    (hScans : Scans text items) :
    Scans (' ' :: (kind.label.toList ++ text))
      ((kind, kind.label) :: items) where
  head := by simp
  contents after hAfter := by
    rw [List.cons_append, contents_blank, List.append_assoc,
      contents_symbol hSymbol fun _ => hScans.head_append hAfter,
      hScans.contents after hAfter, List.cons_append]

theorem delimiter
    {kind : TokenKind}
    {c : Char}
    {text : List Char}
    {items : List (TokenKind × String)}
    (hSymbol : kind ∈ symbolKinds)
    (hLabel : kind.label.toList = [c])
    (hSign : c ≠ '=' ∧ c ≠ '!')
    (hScans : Scans text items) :
    Scans (c :: text) ((kind, kind.label) :: items) where
  head := by simpa using hSign.1
  contents after hAfter := by
    rw [List.cons_append, contents_delimiter hSymbol hLabel hSign,
      hScans.contents after hAfter, List.cons_append]

section

variable {text : List Char} {items : List (TokenKind × String)}

theorem lparen
    (hScans : Scans text items) :
    Scans ('(' :: text) ((.lparen, "(") :: items) :=
  hScans.delimiter (by decide) (by decide) (by decide)

theorem rparen
    (hScans : Scans text items) :
    Scans (')' :: text) ((.rparen, ")") :: items) :=
  hScans.delimiter (by decide) (by decide) (by decide)

theorem lbrace
    (hScans : Scans text items) :
    Scans ('{' :: text) ((.lbrace, Text.openBrace) :: items) :=
  hScans.delimiter (by decide) (by decide) (by decide)

theorem rbrace
    (hScans : Scans text items) :
    Scans ('}' :: text) ((.rbrace, Text.closeBrace) :: items) :=
  hScans.delimiter (by decide) (by decide) (by decide)

theorem comma
    (hScans : Scans text items) :
    Scans (',' :: text) ((.comma, ",") :: items) :=
  hScans.delimiter (by decide) (by decide) (by decide)

theorem semicolon
    (hScans : Scans text items) :
    Scans (';' :: text) ((.semicolon, ";") :: items) :=
  hScans.delimiter (by decide) (by decide) (by decide)

end

end Scans

end MonkeyLang
