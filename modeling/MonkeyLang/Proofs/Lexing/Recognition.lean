import MonkeyLang.Proofs.Lexing.CharacterClass
import MonkeyLang.Proofs.Lexing.Gap

/-
  The lexemes of the language as a relation, and the first
  lexeme of a text as the one that the relation allows.

  Main declarations:
    * `Spelled`             (how a token of a kind is written)
    * `Apart`               (what may not follow it directly)
    * `Recognised`          (the first lexeme of a text)
    * `exists_recognised`   (every text has one)
    * `first?_eq_some`      (it is the one that is read)
-/

------------------------------------------------------------
-- Classes of Lexemes
------------------------------------------------------------

namespace MonkeyLang

/-
  A word: a letter or an underscore, and then letters, numeric
  characters and underscores.
-/
def IsWord
    (text : List Char) :
    Prop :=
  match text with
  | [] => False
  | c :: rest =>
      startsWord c = true ∧ ∀ d ∈ rest, continuesWord d = true

/- A number: a digit, and then what continues a word. -/
def IsNumber
    (text : List Char) :
    Prop :=
  match text with
  | [] => False
  | c :: rest =>
      Unicode.isDigit c = true ∧
        ∀ d ∈ rest, continuesWord d = true

/- The kinds of the operators and delimiters. -/
def symbolKinds : List TokenKind :=
  otherSymbols ++ binaryOperators

/- A character that starts no gap and no other lexeme. -/
structure IsStray
    (c : Char) :
    Prop where
  notWord : startsWord c = false
  notNumber : Unicode.isDigit c = false
  notQuote : c ≠ '"'
  notGap : ¬ StartsGap c
  notSymbol : ∀ kind ∈ symbolKinds, kind.label.toList.head? ≠ some c

/-
  How a token is written: its kind, its literal, and its text
  in a source. Only strings differ from their literals.
-/
inductive Spelled : TokenKind → List Char → List Char → Prop where
  | keyword {word : String} {kind : TokenKind}
      (hKeyword : (word, kind) ∈ keywords) :
      Spelled kind word.toList word.toList
  | identifier {text : List Char}
      (hWord : IsWord text)
      (hFree : ∀ kind, (String.ofList text, kind) ∉ keywords) :
      Spelled .ident text text
  | number {text : List Char}
      (hNumber : IsNumber text) :
      Spelled .int text text
  | symbol {kind : TokenKind}
      (hSymbol : kind ∈ symbolKinds) :
      Spelled kind kind.label.toList kind.label.toList
  | string {content : List Char}
      (hContent : '"' ∉ content) :
      Spelled .string content ('"' :: content ++ ['"'])
  | stray {c : Char}
      (hStray : IsStray c) :
      Spelled .illegal [c] [c]

/-
  What may not follow a lexeme directly, because the lexeme
  would go on: a character that continues words behind a word
  or a number, and an equals sign behind one of two signs.
-/
structure Apart
    (source after : List Char) :
    Prop where
  word :
    IsWord source ∨ IsNumber source →
      ∀ c ∈ after.head?, continuesWord c = false
  sign :
    source = ['='] ∨ source = ['!'] →
      after.head? ≠ some '='

/-
  The first lexeme of a text, with its kind, its literal, its
  source text and the text behind it. A string that is not
  ended takes the rest of the source.
-/
inductive Recognised :
    TokenKind → List Char → List Char → List Char → Prop where
  | whole {kind : TokenKind} {literal source after : List Char}
      (hSpelled : Spelled kind literal source)
      (hApart : Apart source after) :
      Recognised kind literal source after
  | unended {content : List Char}
      (hContent : '"' ∉ content) :
      Recognised .illegal ('"' :: content) ('"' :: content) []

------------------------------------------------------------
-- Texts with a Kind of Their Own
------------------------------------------------------------

/- The spellings, as lists of characters. -/
def spellingTable : List (List Char × TokenKind) := [
  (['='], .assign), (['!'], .bang), ([','], .comma),
  ([';'], .semicolon), (['('], .lparen), ([')'], .rparen),
  (['{'], .lbrace), (['}'], .rbrace), (['+'], .plus),
  (['-'], .minus), (['*'], .asterisk), (['/'], .slash),
  (['<'], .lt), (['>'], .gt), (['=', '='], .eq),
  (['!', '='], .notEq), (['f', 'n'], .fnWord),
  (['l', 'e', 't'], .letWord), (['t', 'r', 'u', 'e'], .trueWord),
  (['f', 'a', 'l', 's', 'e'], .falseWord), (['i', 'f'], .ifWord),
  (['e', 'l', 's', 'e'], .elseWord),
  (['r', 'e', 't', 'u', 'r', 'n'], .returnWord) ]

theorem map_toList_spellings :
    spellings.map (fun entry => (entry.1.toList, entry.2)) =
      spellingTable := by
  decide

/- Texts can be looked up by their characters. -/
theorem lookup_ofList
    (entries : List (String × TokenKind))
    (text : List Char) :
    entries.lookup (String.ofList text) =
      (entries.map fun entry => (entry.1.toList, entry.2)).lookup
        text := by
  induction entries with
  | nil => rfl
  | cons entry entries ih =>
      have hSame :
          (String.ofList text == entry.1) =
            (text == entry.1.toList) := by
        rw [Bool.eq_iff_iff, beq_iff_eq, beq_iff_eq]
        exact ⟨fun h => by rw [← h, String.toList_ofList],
          fun h => by rw [h, String.ofList_toList]⟩
      rw [List.map_cons, List.lookup_cons, List.lookup_cons, ih,
        hSame]

theorem lookup_spellings
    (text : List Char) :
    spellings.lookup (String.ofList text) =
      spellingTable.lookup text := by
  rw [lookup_ofList, map_toList_spellings]

/- The kind of a keyword is its own. -/
theorem wordKind_keyword
    {word : String}
    {kind : TokenKind}
    (hKeyword : (word, kind) ∈ keywords) :
    wordKind word = kind := by
  simp only [keywords, List.mem_cons, Prod.mk.injEq,
    List.not_mem_nil, or_false] at hKeyword
  rcases hKeyword with
    ⟨rfl, rfl⟩ | ⟨rfl, rfl⟩ | ⟨rfl, rfl⟩ | ⟨rfl, rfl⟩ |
    ⟨rfl, rfl⟩ | ⟨rfl, rfl⟩ | ⟨rfl, rfl⟩ <;> decide

/- Any other word is an identifier. -/
theorem wordKind_identifier
    {word : String}
    (hFree : ∀ kind, (word, kind) ∉ keywords) :
    wordKind word = .ident := by
  have hNone : keywords.lookup word = none := by
    rw [List.lookup_eq_none_iff]
    intro entry hEntry
    rw [bne_iff_ne]
    intro hWord
    exact hFree entry.2 (hWord ▸ hEntry)
  simp [wordKind, hNone]

/- A word is either a keyword of its kind or an identifier. -/
theorem spelled_of_isWord
    {text : List Char}
    (hWord : IsWord text) :
    Spelled (wordKind (String.ofList text)) text text := by
  by_cases hKeyword :
      ∃ kind, (String.ofList text, kind) ∈ keywords
  · rcases hKeyword with ⟨kind, hKeyword⟩
    rw [wordKind_keyword hKeyword]
    simpa using Spelled.keyword hKeyword
  · have hFree :
        ∀ kind, (String.ofList text, kind) ∉ keywords := by
      simpa using hKeyword
    rw [wordKind_identifier hFree]
    exact .identifier hWord hFree

/- Keywords are words. -/
theorem isWord_keyword
    {word : String}
    {kind : TokenKind}
    (hKeyword : (word, kind) ∈ keywords) :
    IsWord word.toList := by
  simp only [keywords, List.mem_cons, Prod.mk.injEq,
    List.not_mem_nil, or_false] at hKeyword
  rcases hKeyword with
    ⟨rfl, -⟩ | ⟨rfl, -⟩ | ⟨rfl, -⟩ | ⟨rfl, -⟩ |
    ⟨rfl, -⟩ | ⟨rfl, -⟩ | ⟨rfl, -⟩ <;>
    exact ⟨by decide, by decide⟩

------------------------------------------------------------
-- Operators and Delimiters
------------------------------------------------------------

namespace Lexeme

theorem spellingOf?_eq
    (length : Nat)
    (text : List Char) :
    spellingOf? length text =
      (spellingTable.lookup (text.take length)).map fun kind =>
        ⟨kind, text.take length, (text.take length).length⟩ := by
  simp [spellingOf?, lookup_spellings]

theorem lookup_cons_eq_ite
    (text key : List Char)
    (kind : TokenKind)
    (entries : List (List Char × TokenKind)) :
    ((key, kind) :: entries).lookup text =
      if text = key then some kind else entries.lookup text := by
  rw [List.lookup_cons]
  split <;> simp_all

/- The longest of the spellings of two characters and of one. -/
theorem symbol?_eq
    (text : List Char) :
    symbol? text =
      (spellingOf? 2 text).or (spellingOf? 1 text) := by
  simp [symbol?, maxSymbolLength, longestSpelling?]

/- An operator or delimiter is read as a whole, if it does not go on. -/
theorem symbol?_label
    {kind : TokenKind}
    {after : List Char}
    (hSymbol : kind ∈ symbolKinds)
    (hApart : Apart kind.label.toList after) :
    symbol? (kind.label.toList ++ after) =
      some ⟨kind, kind.label.toList, kind.label.toList.length⟩ := by
  have hSign := hApart.sign
  rw [symbol?_eq, spellingOf?_eq, spellingOf?_eq]
  simp only [symbolKinds, otherSymbols, binaryOperators,
    List.cons_append, List.nil_append, List.mem_cons,
    List.not_mem_nil, or_false] at hSymbol
  rcases hSymbol with
    rfl | rfl | rfl | rfl | rfl | rfl | rfl | rfl |
    rfl | rfl | rfl | rfl | rfl | rfl | rfl | rfl <;>
    cases after <;>
    simp_all [TokenKind.label, spellingTable, lookup_cons_eq_ite]

/- Every spelling starts like a word or like an operator or delimiter. -/
theorem head?_spellingTable :
    ∀ entry ∈ spellingTable,
      entry.1 ≠ [] ∧
        ∀ c ∈ entry.1.head?,
          startsWord c = true ∨
            ∃ kind ∈ symbolKinds,
              kind.label.toList.head? = some c := by
  decide

/- No spelling starts with a stray character. -/
theorem spellingOf?_stray
    {c : Char}
    {length : Nat}
    {after : List Char}
    (hStray : IsStray c) :
    spellingOf? (length + 1) (c :: after) = none := by
  rw [spellingOf?_eq, List.take_succ_cons, Option.map_eq_none_iff,
    List.lookup_eq_none_iff]
  intro entry hEntry
  rw [bne_iff_ne]
  intro hSame
  have hHead : c ∈ entry.1.head? := by
    rw [← hSame]
    rfl
  rcases (head?_spellingTable entry hEntry).2 c hHead with
    hWord | ⟨kind, hKind, hLabel⟩
  · exact absurd hWord (by simp [hStray.notWord])
  · exact hStray.notSymbol kind hKind hLabel

theorem symbol?_stray
    {c : Char}
    {after : List Char}
    (hStray : IsStray c) :
    symbol? (c :: after) = none := by
  rw [symbol?_eq, spellingOf?_stray hStray,
    spellingOf?_stray hStray]
  rfl

------------------------------------------------------------
-- The First Lexeme
------------------------------------------------------------

/- What goes on up to a point is taken up to there. -/
theorem takeWhile_append_eq
    {p : Char → Bool}
    {taken after : List Char}
    (hTaken : ∀ c ∈ taken, p c = true)
    (hAfter : ∀ c ∈ after.head?, p c = false) :
    (taken ++ after).takeWhile p = taken := by
  rw [List.takeWhile_append_of_pos hTaken]
  cases after with
  | nil => simp
  | cons c after =>
      have hStop : p c = false := hAfter c (by simp)
      simp [hStop]

theorem first?_word
    {source after : List Char}
    (hWord : IsWord source)
    (hAfter : ∀ c ∈ after.head?, continuesWord c = false) :
    first? (source ++ after) =
      some ⟨wordKind (String.ofList source), source,
        source.length⟩ := by
  match source, hWord with
  | c :: rest, ⟨hStart, hRest⟩ =>
      have hTaken : ∀ d ∈ c :: rest, continuesWord d = true := by
        intro d hMem
        rcases List.mem_cons.mp hMem with rfl | hMem
        · exact continuesWord_of_startsWord hStart
        · exact hRest d hMem
      have hTake := takeWhile_append_eq hTaken hAfter
      rw [List.cons_append] at hTake
      rw [List.cons_append, first?, if_pos hStart, hTake]

theorem first?_number
    {source after : List Char}
    (hNumber : IsNumber source)
    (hAfter : ∀ c ∈ after.head?, continuesWord c = false) :
    first? (source ++ after) =
      some ⟨.int, source, source.length⟩ := by
  match source, hNumber with
  | c :: rest, ⟨hStart, hRest⟩ =>
      have hTaken : ∀ d ∈ c :: rest, continuesWord d = true := by
        intro d hMem
        rcases List.mem_cons.mp hMem with rfl | hMem
        · exact continuesWord_of_isDigit hStart
        · exact hRest d hMem
      have hTake := takeWhile_append_eq hTaken hAfter
      have hNotWord := startsWord_of_isDigit hStart
      rw [List.cons_append] at hTake
      rw [List.cons_append, first?, if_neg (by simp [hNotWord]),
        if_pos hStart, hTake]

theorem first?_quote
    (rest : List Char) :
    first? ('"' :: rest) = some (stringAfterQuote rest) := by
  rw [first?, if_neg (by decide), if_neg (by decide), if_pos rfl]

theorem first?_string
    {content after : List Char}
    (hContent : '"' ∉ content) :
    first? ('"' :: content ++ ['"'] ++ after) =
      some ⟨.string, content, content.length + 2⟩ := by
  have hTake :
      (content ++ '"' :: after).takeWhile (· != '"') = content := by
    apply takeWhile_append_eq
    · intro c hMem
      rw [bne_iff_ne]
      intro hQuote
      exact hContent (hQuote ▸ hMem)
    · simp
  have hShape :
      '"' :: content ++ ['"'] ++ after =
        '"' :: (content ++ '"' :: after) := by
    simp
  rw [hShape, first?_quote, stringAfterQuote, hTake,
    if_pos (by simp)]

theorem first?_unended
    {content : List Char}
    (hContent : '"' ∉ content) :
    first? ('"' :: content) =
      some ⟨.illegal, '"' :: content, content.length + 1⟩ := by
  have hTake : content.takeWhile (· != '"') = content := by
    rw [List.takeWhile_eq_self_iff]
    intro c hMem
    rw [bne_iff_ne]
    intro hQuote
    exact hContent (hQuote ▸ hMem)
  rw [first?_quote, stringAfterQuote, hTake,
    if_neg (Nat.lt_irrefl _)]

/- An operator or delimiter starts like no other lexeme. -/
theorem starts_label :
    ∀ kind ∈ symbolKinds,
      ∃ c ∈ kind.label.toList.head?,
        startsWord c = false ∧ Unicode.isDigit c = false ∧
          c ≠ '"' ∧ ¬ StartsGap c := by
  decide

theorem first?_symbol
    {kind : TokenKind}
    {after : List Char}
    (hSymbol : kind ∈ symbolKinds)
    (hApart : Apart kind.label.toList after) :
    first? (kind.label.toList ++ after) =
      some ⟨kind, kind.label.toList, kind.label.toList.length⟩ := by
  have hRead := symbol?_label hSymbol hApart
  rcases starts_label kind hSymbol with
    ⟨c, hHead, hWord, hDigit, hQuote, -⟩
  rcases List.head?_eq_some_iff.mp hHead with ⟨rest, hLabel⟩
  rw [hLabel] at hRead ⊢
  rw [List.cons_append] at hRead ⊢
  rw [first?, if_neg (by simp [hWord]), if_neg (by simp [hDigit]),
    if_neg hQuote, hRead]
  rfl

theorem first?_stray
    {c : Char}
    {after : List Char}
    (hStray : IsStray c) :
    first? (c :: after) = some ⟨.illegal, [c], 1⟩ := by
  rw [first?, if_neg (by simp [hStray.notWord]),
    if_neg (by simp [hStray.notNumber]), if_neg hStray.notQuote,
    symbol?_stray hStray]
  rfl

/- The lexeme that the relation allows is the one that is read. -/
theorem first?_eq_some
    {kind : TokenKind}
    {literal source after : List Char}
    (hRecognised : Recognised kind literal source after) :
    first? (source ++ after) =
      some ⟨kind, literal, source.length⟩ := by
  cases hRecognised with
  | unended hContent =>
      simpa using first?_unended hContent
  | whole hSpelled hApart =>
      cases hSpelled with
      | keyword hKeyword =>
          have hWord := isWord_keyword hKeyword
          rw [first?_word hWord (hApart.word (.inl hWord)),
            String.ofList_toList, wordKind_keyword hKeyword]
      | identifier hWord hFree =>
          rw [first?_word hWord (hApart.word (.inl hWord)),
            wordKind_identifier hFree]
      | number hNumber =>
          exact first?_number hNumber
            (hApart.word (.inr hNumber))
      | symbol hSymbol => exact first?_symbol hSymbol hApart
      | string hContent => simpa using first?_string hContent
      | stray hStray => exact first?_stray hStray

end Lexeme

------------------------------------------------------------
-- Every Text Has a First Lexeme
------------------------------------------------------------

/- A word or a number and the text behind it. -/
theorem exists_continued
    (text : List Char) :
    ∃ taken after,
      text = taken ++ after ∧
        (∀ c ∈ taken, continuesWord c = true) ∧
          ∀ c ∈ after.head?, continuesWord c = false := by
  refine
    ⟨text.takeWhile continuesWord, text.dropWhile continuesWord,
      List.takeWhile_append_dropWhile.symm,
      fun c hMem => List.mem_takeWhile_imp hMem, ?_⟩
  intro c hHead
  have hStop := List.head?_dropWhile_not continuesWord text
  rw [Option.mem_def] at hHead
  simpa [hHead] using hStop

/- What starts like neither is neither a word nor a number. -/
theorem not_isWord_or_isNumber
    {c : Char}
    {rest : List Char}
    (hWord : startsWord c = false)
    (hDigit : Unicode.isDigit c = false) :
    ¬ (IsWord (c :: rest) ∨ IsNumber (c :: rest)) := by
  rintro (⟨hStart, -⟩ | ⟨hStart, -⟩)
  · exact absurd hStart (by simp [hWord])
  · exact absurd hStart (by simp [hDigit])

/- Behind a quote stands a string, ended or not. -/
theorem exists_recognised_quote
    (rest : List Char) :
    ∃ kind literal source after,
      '"' :: rest = source ++ after ∧
        Recognised kind literal source after := by
  by_cases hEnded : '"' ∈ rest
  · rcases List.eq_append_cons_of_mem hEnded with
      ⟨content, after, hRest, hContent⟩
    refine
      ⟨.string, content, '"' :: content ++ ['"'], after,
        by simp [hRest], .whole (.string hContent) ⟨?_, ?_⟩⟩
    · intro hWord
      exact absurd hWord
        (not_isWord_or_isNumber (by decide) (by decide))
    · simp
  · exact
      ⟨.illegal, '"' :: rest, '"' :: rest, [], by simp,
        .unended hEnded⟩

/- The first character of an operator or delimiter is one itself. -/
theorem exists_single_symbol :
    ∀ kind ∈ symbolKinds, ∀ c ∈ kind.label.toList.head?,
      ∃ single ∈ symbolKinds, single.label.toList = [c] := by
  decide

/- Where an operator or delimiter starts, one is recognised. -/
theorem exists_recognised_symbol
    {kind : TokenKind}
    {c : Char}
    (rest : List Char)
    (hSymbol : kind ∈ symbolKinds)
    (hHead : kind.label.toList.head? = some c) :
    ∃ kind literal source after,
      c :: rest = source ++ after ∧
        Recognised kind literal source after := by
  have hStart := Lexeme.starts_label kind hSymbol
  rw [hHead] at hStart
  rcases hStart with ⟨d, hSame, hWord, hDigit, -⟩
  have hEq : c = d := by simpa using hSame
  subst hEq
  have hNot : ∀ others, ¬ (IsWord (c :: others) ∨
      IsNumber (c :: others)) := fun others =>
    not_isWord_or_isNumber hWord hDigit
  by_cases hLong : (c = '=' ∨ c = '!') ∧ rest.head? = some '='
  · rcases List.head?_eq_some_iff.mp hLong.2 with ⟨after, rfl⟩
    have hDouble :
        ∃ double ∈ symbolKinds, double.label.toList = [c, '='] := by
      rcases hLong.1 with rfl | rfl <;> decide
    rcases hDouble with ⟨double, hMem, hLabel⟩
    have hSpelled := Spelled.symbol hMem
    rw [hLabel] at hSpelled
    exact
      ⟨double, [c, '='], [c, '='], after, rfl,
        .whole hSpelled
          ⟨fun h => absurd h (hNot _), fun h => by simp at h⟩⟩
  · rcases exists_single_symbol kind hSymbol c (by simp [hHead])
      with ⟨single, hMem, hLabel⟩
    have hSpelled := Spelled.symbol hMem
    rw [hLabel] at hSpelled
    refine
      ⟨single, [c], [c], rest, rfl,
        .whole hSpelled ⟨fun h => absurd h (hNot _), ?_⟩⟩
    intro hSign hNext
    exact hLong ⟨by simpa using hSign, hNext⟩

/- A stray character is recognised whatever follows it. -/
theorem IsStray.recognised
    {c : Char}
    (hStray : IsStray c)
    (after : List Char) :
    Recognised .illegal [c] [c] after := by
  refine .whole (.stray hStray) ⟨?_, ?_⟩
  · intro h
    exact absurd h
      (not_isWord_or_isNumber hStray.notWord hStray.notNumber)
  · rintro (hSign | hSign) <;>
      · rcases List.cons.inj hSign with ⟨rfl, -⟩
        exact absurd hStray.notSymbol (by decide)

/- Every text that starts no gap starts with a lexeme. -/
theorem exists_recognised
    {c : Char}
    (rest : List Char)
    (hGap : ¬ StartsGap c) :
    ∃ kind literal source after,
      c :: rest = source ++ after ∧
        Recognised kind literal source after := by
  rcases exists_continued rest with
    ⟨taken, after, hRest, hTaken, hAfter⟩
  by_cases hWord : startsWord c = true
  · have hIsWord : IsWord (c :: taken) := ⟨hWord, hTaken⟩
    refine
      ⟨_, c :: taken, c :: taken, after, by simp [hRest],
        .whole (spelled_of_isWord hIsWord)
          ⟨fun _ => hAfter, ?_⟩⟩
    rintro (hSign | hSign) <;>
      · rcases List.cons.inj hSign with ⟨rfl, -⟩
        exact absurd hWord (by decide)
  · by_cases hDigit : Unicode.isDigit c = true
    · have hIsNumber : IsNumber (c :: taken) := ⟨hDigit, hTaken⟩
      refine
        ⟨.int, c :: taken, c :: taken, after, by simp [hRest],
          .whole (.number hIsNumber) ⟨fun _ => hAfter, ?_⟩⟩
      rintro (hSign | hSign) <;>
        · rcases List.cons.inj hSign with ⟨rfl, -⟩
          exact absurd hDigit (by decide)
    · by_cases hQuote : c = '"'
      · subst hQuote
        exact exists_recognised_quote rest
      · by_cases hSymbol :
            ∃ kind ∈ symbolKinds,
              kind.label.toList.head? = some c
        · rcases hSymbol with ⟨kind, hKind, hHead⟩
          exact exists_recognised_symbol rest hKind hHead
        · have hStray : IsStray c :=
            { notWord := by simpa using hWord
              notNumber := by simpa using hDigit
              notQuote := hQuote
              notGap := hGap
              notSymbol := by simpa using hSymbol }
          exact
            ⟨.illegal, [c], [c], rest, rfl, hStray.recognised rest⟩

------------------------------------------------------------
-- Lexemes against Gaps and the End
------------------------------------------------------------

/- What starts a gap starts neither a word nor a number. -/
theorem not_startsWord_of_startsGap
    {c : Char}
    (hGap : StartsGap c) :
    startsWord c = false ∧ Unicode.isDigit c = false := by
  have hCases :
      c = ' ' ∨ c = '\t' ∨ c = '\r' ∨ c = '\n' ∨ c = '#' := by
    simpa [StartsGap, isGapBlank, or_assoc] using hGap
  rcases hCases with rfl | rfl | rfl | rfl | rfl <;> decide

theorem IsWord.exists_head
    {text : List Char}
    (hWord : IsWord text) :
    ∃ c rest, text = c :: rest ∧ ¬ StartsGap c := by
  match text, hWord with
  | c :: rest, ⟨hStart, _⟩ =>
      refine ⟨c, rest, rfl, fun hGap => ?_⟩
      exact absurd hStart
        (by simp [(not_startsWord_of_startsGap hGap).1])

theorem IsNumber.exists_head
    {text : List Char}
    (hNumber : IsNumber text) :
    ∃ c rest, text = c :: rest ∧ ¬ StartsGap c := by
  match text, hNumber with
  | c :: rest, ⟨hStart, _⟩ =>
      refine ⟨c, rest, rfl, fun hGap => ?_⟩
      exact absurd hStart
        (by simp [(not_startsWord_of_startsGap hGap).2])

/- A lexeme has a first character, and no gap starts with it. -/
theorem Spelled.exists_head
    {kind : TokenKind}
    {literal source : List Char}
    (hSpelled : Spelled kind literal source) :
    ∃ c rest, source = c :: rest ∧ ¬ StartsGap c := by
  cases hSpelled with
  | keyword hKeyword => exact (isWord_keyword hKeyword).exists_head
  | identifier hWord => exact hWord.exists_head
  | number hNumber => exact hNumber.exists_head
  | symbol hSymbol =>
      rcases Lexeme.starts_label _ hSymbol with
        ⟨c, hHead, -, -, -, hGap⟩
      rcases List.head?_eq_some_iff.mp hHead with ⟨rest, hLabel⟩
      exact ⟨c, rest, hLabel, hGap⟩
  | string => exact ⟨'"', _, rfl, by decide⟩
  | stray hStray => exact ⟨_, [], rfl, hStray.notGap⟩

/- No lexeme is the end of input. -/
theorem Spelled.kind_ne_eof
    {kind : TokenKind}
    {literal source : List Char}
    (hSpelled : Spelled kind literal source) :
    kind ≠ .eof := by
  cases hSpelled with
  | keyword hKeyword =>
      intro hEnd
      subst hEnd
      simp [keywords] at hKeyword
  | symbol hSymbol =>
      intro hEnd
      subst hEnd
      exact absurd hSymbol (by decide)
  | identifier | number | string | stray => simp

namespace Recognised

theorem exists_head
    {kind : TokenKind}
    {literal source after : List Char}
    (hRecognised : Recognised kind literal source after) :
    ∃ c rest, source = c :: rest ∧ ¬ StartsGap c := by
  cases hRecognised with
  | whole hSpelled => exact hSpelled.exists_head
  | unended => exact ⟨'"', _, rfl, by decide⟩

theorem kind_ne_eof
    {kind : TokenKind}
    {literal source after : List Char}
    (hRecognised : Recognised kind literal source after) :
    kind ≠ .eof := by
  cases hRecognised with
  | whole hSpelled => exact hSpelled.kind_ne_eof
  | unended => simp

/- No gap starts where a lexeme is recognised. -/
theorem not_startsGap
    {kind : TokenKind}
    {literal source after : List Char}
    (hRecognised : Recognised kind literal source after) :
    ∀ c ∈ (source ++ after).head?, ¬ StartsGap c := by
  rcases hRecognised.exists_head with ⟨c, rest, rfl, hGap⟩
  simpa using hGap

end Recognised

end MonkeyLang
