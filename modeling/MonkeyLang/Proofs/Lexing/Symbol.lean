import MonkeyLang.Proofs.Lexing.CharacterClass
import MonkeyLang.Proofs.Lexing.Position
import MonkeyLang.Token.Lexer

/-
  Operators and delimiters as they are read at a cursor that
  may stand anywhere. Of the spellings that are not longer than
  the longest operator, the longest is read. That is an operator
  or delimiter where one stands; but two keywords are as short,
  and are read as well, even if they only start a word.

  Main declarations:
    * `IsLongest`                       (the longest spelling)
    * `Lexeme.longestSpelling?_cases`   (it is the one that is found)
    * `Cursor.matchSymbol_cases`        (and the one that is read)
    * `Cursor.MatchesSymbols`
    * `matchSymbol_reads_symbols_iff`
-/

------------------------------------------------------------
-- The Longest Spelling
------------------------------------------------------------

namespace MonkeyLang

variable {entries : List (String × TokenKind)}
variable {text : List Char}
variable {spelling other : String × TokenKind}

/- A text begins with a spelling, whatever follows it. -/
def BeginsWith
    (text : List Char)
    (spelling : String × TokenKind) :
    Prop :=
  spelling.1.toList <+: text

instance
    (text : List Char)
    (spelling : String × TokenKind) :
    Decidable (BeginsWith text spelling) := by
  unfold BeginsWith
  infer_instance

/- Of some spellings, the longest with which a text begins. -/
structure IsLongest
    (entries : List (String × TokenKind))
    (text : List Char)
    (spelling : String × TokenKind) :
    Prop where
  mem : spelling ∈ entries
  begins : BeginsWith text spelling
  longest :
    ∀ other ∈ entries, BeginsWith text other →
      other.1.length ≤ spelling.1.length

/- A longest spelling remains one among fewer spellings. -/
theorem IsLongest.of_subset
    {fewer : List (String × TokenKind)}
    (hLongest : IsLongest entries text spelling)
    (hMem : spelling ∈ fewer)
    (hFewer : fewer ⊆ entries) :
    IsLongest fewer text spelling where
  mem := hMem
  begins := hLongest.begins
  longest := fun other hOther =>
    hLongest.longest other (hFewer hOther)

/- It does so among more, if the text begins with none of these. -/
theorem IsLongest.among_more
    {more : List (String × TokenKind)}
    (hLongest : IsLongest entries text spelling)
    (hMore : entries ⊆ more)
    (hOnly :
      ∀ other ∈ more, BeginsWith text other → other ∈ entries) :
    IsLongest more text spelling where
  mem := hMore hLongest.mem
  begins := hLongest.begins
  longest := fun other hOther hBegins =>
    hLongest.longest other (hOnly other hOther hBegins) hBegins

/- Of two spellings of one length, a text begins with at most one. -/
theorem BeginsWith.text_eq
    (hSpelling : BeginsWith text spelling)
    (hOther : BeginsWith text other)
    (hLength : spelling.1.length = other.1.length) :
    spelling.1 = other.1 := by
  rw [← String.length_toList, ← String.length_toList] at hLength
  have hPrefix : spelling.1.toList <+: other.1.toList :=
    List.prefix_of_prefix_length_le hSpelling hOther hLength.le
  exact String.toList_inj.mp (hPrefix.eq_of_length hLength)

/- Every spelling is looked up as the kind that belongs to it. -/
theorem lookup_of_mem_spellings :
    ∀ spelling ∈ spellings,
      spellings.lookup spelling.1 = some spelling.2 := by
  decide

theorem mem_spellings_of_lookup
    {text : String}
    {kind : TokenKind}
    (hLookup : spellings.lookup text = some kind) :
    (text, kind) ∈ spellings := by
  rcases List.lookup_eq_some_iff.mp hLookup with
    ⟨before, after, hSplit, -⟩
  rw [hSplit]
  exact List.mem_append_right _ List.mem_cons_self

/- There is only one longest spelling. -/
theorem IsLongest.unique
    (hEntries : entries ⊆ spellings)
    (hSpelling : IsLongest entries text spelling)
    (hOther : IsLongest entries text other) :
    spelling = other := by
  have hText : spelling.1 = other.1 :=
    hSpelling.begins.text_eq hOther.begins
      (Nat.le_antisymm
        (hOther.longest spelling hSpelling.mem hSpelling.begins)
        (hSpelling.longest other hOther.mem hOther.begins))
  have hKind : some spelling.2 = some other.2 := by
    rw [← lookup_of_mem_spellings _ (hEntries hSpelling.mem),
      ← lookup_of_mem_spellings _ (hEntries hOther.mem), hText]
  exact Prod.ext hText (Option.some.inj hKind)

------------------------------------------------------------
-- Finding the Longest Spelling
------------------------------------------------------------

/- The spellings of at most a number of characters. -/
def spellingsUpTo
    (length : Nat) :
    List (String × TokenKind) :=
  spellings.filter fun spelling => spelling.1.length ≤ length

theorem mem_spellingsUpTo_iff
    {length : Nat} :
    spelling ∈ spellingsUpTo length ↔
      spelling ∈ spellings ∧ spelling.1.length ≤ length := by
  simp [spellingsUpTo]

/- No spelling is empty. -/
theorem spellingsUpTo_zero :
    spellingsUpTo 0 = [] := by
  decide

theorem spellingsUpTo_subset_succ
    (length : Nat) :
    spellingsUpTo length ⊆ spellingsUpTo (length + 1) := by
  intro spelling hMem
  rw [mem_spellingsUpTo_iff] at hMem ⊢
  exact ⟨hMem.1, Nat.le_succ_of_le hMem.2⟩

/- A spelling in front that is not all of them has fewer characters. -/
theorem mem_spellingsUpTo_of_ne_take
    {length : Nat}
    (hMem : spelling ∈ spellingsUpTo (length + 1))
    (hBegins : BeginsWith text spelling)
    (hOther : spelling.1.toList ≠ text.take (length + 1)) :
    spelling ∈ spellingsUpTo length := by
  rw [mem_spellingsUpTo_iff] at hMem ⊢
  refine ⟨hMem.1, Nat.le_of_lt_succ (hMem.2.lt_of_ne ?_)⟩
  intro hLength
  have hTake := List.prefix_iff_eq_take.mp hBegins
  rw [String.length_toList, hLength] at hTake
  exact hOther hTake

/- A spelling of all the first characters is the longest one. -/
theorem IsLongest.of_eq_take
    {length : Nat}
    (hMem : spelling ∈ spellings)
    (hText : spelling.1.toList = text.take length) :
    IsLongest (spellingsUpTo length) text spelling := by
  have hLength : spelling.1.length = min length text.length := by
    rw [← String.length_toList, hText, List.length_take]
  refine ⟨?_, ?_, fun other hOther hBegins => ?_⟩
  · rw [mem_spellingsUpTo_iff]
    exact ⟨hMem, by omega⟩
  · rw [BeginsWith, hText]
    exact List.take_prefix _ _
  · rw [mem_spellingsUpTo_iff] at hOther
    have hFits := hBegins.length_le
    rw [String.length_toList] at hFits
    omega

namespace Lexeme

/- The lexeme that a spelling makes. -/
def ofSpelling
    (spelling : String × TokenKind) :
    Lexeme :=
  ⟨spelling.2, spelling.1.toList, spelling.1.length⟩

theorem spellingOf?_eq_some
    {length : Nat}
    (hMem : spelling ∈ spellings)
    (hText : spelling.1.toList = text.take length) :
    spellingOf? length text = some (ofSpelling spelling) := by
  have hLookup := lookup_of_mem_spellings spelling hMem
  rw [spellingOf?, ← hText, String.ofList_toList, hLookup,
    String.length_toList]
  rfl

/- What is found are the first characters, if they are a spelling. -/
theorem spellingOf?_cases
    (length : Nat)
    (text : List Char) :
    (spellingOf? length text = none ∧
        ∀ spelling ∈ spellings,
          spelling.1.toList ≠ text.take length) ∨
      ∃ spelling ∈ spellings,
        spelling.1.toList = text.take length ∧
          spellingOf? length text = some (ofSpelling spelling) := by
  cases hLookup :
      spellings.lookup (String.ofList (text.take length)) with
  | none =>
      have hNone : spellingOf? length text = none := by
        simp [spellingOf?, hLookup]
      refine .inl ⟨hNone, fun spelling hMem hText => ?_⟩
      rw [spellingOf?_eq_some hMem hText] at hNone
      cases hNone
  | some kind =>
      have hMem := mem_spellings_of_lookup hLookup
      exact .inr ⟨_, hMem, String.toList_ofList,
        spellingOf?_eq_some hMem String.toList_ofList⟩

/-
  The longest spelling is found, of those up to a length. The
  induction is on the length: as many characters as it allows
  are a spelling, or every spelling in front of the text is
  shorter.
-/
theorem longestSpelling?_cases
    (length : Nat)
    (text : List Char) :
    (longestSpelling? length text = none ∧
        ∀ spelling ∈ spellingsUpTo length,
          ¬ BeginsWith text spelling) ∨
      ∃ spelling,
        IsLongest (spellingsUpTo length) text spelling ∧
          longestSpelling? length text =
            some (ofSpelling spelling) := by
  induction length with
  | zero => exact .inl ⟨rfl, by simp [spellingsUpTo_zero]⟩
  | succ length ih =>
      rw [longestSpelling?]
      rcases spellingOf?_cases (length + 1) text with
        ⟨hNone, hNot⟩ | ⟨spelling, hMem, hText, hSome⟩
      · have hShorter :
            ∀ other ∈ spellingsUpTo (length + 1),
              BeginsWith text other →
                other ∈ spellingsUpTo length := by
          intro other hOther hBegins
          exact mem_spellingsUpTo_of_ne_take hOther hBegins
            (hNot other (mem_spellingsUpTo_iff.mp hOther).1)
        rw [hNone, Option.none_or]
        rcases ih with
          ⟨hNothing, hOthers⟩ | ⟨found, hFound, hSome⟩
        · exact .inl ⟨hNothing, fun other hOther hBegins =>
            hOthers other (hShorter other hOther hBegins) hBegins⟩
        · exact .inr ⟨found,
            hFound.among_more (spellingsUpTo_subset_succ length)
              hShorter, hSome⟩
      · rw [hSome, Option.some_or]
        exact .inr ⟨spelling, .of_eq_take hMem hText, rfl⟩

end Lexeme

------------------------------------------------------------
-- Reading It
------------------------------------------------------------

namespace Cursor

/- The token of a spelling that stands at a cursor. -/
def tokenSpelled
    (cursor : Cursor)
    (spelling : String × TokenKind) :
    Token :=
  ⟨⟨spelling.1, cursor.line, cursor.column⟩, spelling.2⟩

/- The longest spelling is read, of those that are not too long. -/
theorem matchSymbol_cases
    (cursor : Cursor) :
    (cursor.matchSymbol = (none, cursor) ∧
        ∀ spelling ∈ spellingsUpTo Lexeme.maxSymbolLength,
          ¬ BeginsWith cursor.ahead spelling) ∨
      ∃ spelling,
        IsLongest (spellingsUpTo Lexeme.maxSymbolLength)
            cursor.ahead spelling ∧
          cursor.matchSymbol =
            (some (cursor.tokenSpelled spelling),
              cursor.forwardBy spelling.1.length) := by
  rcases Lexeme.longestSpelling?_cases Lexeme.maxSymbolLength
      cursor.ahead with
    ⟨hNone, hNot⟩ | ⟨spelling, hLongest, hSome⟩
  · refine .inl ⟨?_, hNot⟩
    simp [matchSymbol, Lexeme.symbol?, hNone]
  · refine .inr ⟨spelling, hLongest, ?_⟩
    simp [matchSymbol, Lexeme.symbol?, hSome, tokenOf, tokenSpelled,
      Lexeme.ofSpelling]

/-
  A spelling is read at a cursor: its token is placed there, and
  its characters, and no more, are read one by one.
-/
structure Matches
    (cursor : Cursor)
    (spelling : String × TokenKind) :
    Prop where
  token : cursor.matchSymbol.1 = some (cursor.tokenSpelled spelling)
  passed :
    cursor.advanceBy spelling.1.length = .ok cursor.matchSymbol.2
  position :
    cursor.matchSymbol.2.position =
      cursor.position + spelling.1.length

theorem matches_of_isLongest
    {cursor : Cursor}
    (hLongest :
      IsLongest (spellingsUpTo Lexeme.maxSymbolLength) cursor.ahead
        spelling) :
    cursor.Matches spelling := by
  rcases cursor.matchSymbol_cases with
    ⟨-, hNot⟩ | ⟨found, hFound, hMatch⟩
  · exact absurd hLongest.begins (hNot spelling hLongest.mem)
  · have hSame : found = spelling :=
      hFound.unique (fun _ hMem => (mem_spellingsUpTo_iff.mp hMem).1)
        hLongest
    subst hSame
    rcases hFound.begins with ⟨after, hAhead⟩
    have hRead := advanceBy_of_ahead hAhead.symm
    rw [String.length_toList] at hRead
    constructor <;> rw [hMatch]
    · exact hRead.1
    · exact hRead.2

end Cursor

------------------------------------------------------------
-- Operators, Delimiters and Short Keywords
------------------------------------------------------------

/- The keywords that are not longer than the longest operator. -/
def shortKeywords : List (String × TokenKind) := [
  ("fn", .fnWord), ("if", .ifWord) ]

theorem spellingsUpTo_maxSymbolLength :
    spellingsUpTo Lexeme.maxSymbolLength =
      symbols ++ shortKeywords := by
  decide

theorem symbols_subset_spellingsUpTo :
    symbols ⊆ spellingsUpTo Lexeme.maxSymbolLength := by
  rw [spellingsUpTo_maxSymbolLength]
  exact List.subset_append_left _ _

theorem shortKeywords_subset_spellingsUpTo :
    shortKeywords ⊆ spellingsUpTo Lexeme.maxSymbolLength := by
  rw [spellingsUpTo_maxSymbolLength]
  exact List.subset_append_right _ _

/- No operator or delimiter has the kind of a keyword. -/
theorem kind_ne_of_mem_symbols :
    ∀ spelling ∈ symbols, ∀ keyword ∈ keywords,
      spelling.2 ≠ keyword.2 := by
  decide

/- No character of an operator or delimiter continues a word. -/
theorem continuesWord_of_mem_symbols :
    ∀ spelling ∈ symbols, ∀ c ∈ spelling.1.toList,
      continuesWord c = false := by
  decide

/- A short keyword is as long as any spelling that is read. -/
theorem IsLongest.of_shortKeyword
    (hKeyword : spelling ∈ shortKeywords)
    (hBegins : BeginsWith text spelling) :
    IsLongest (spellingsUpTo Lexeme.maxSymbolLength) text
      spelling where
  mem := shortKeywords_subset_spellingsUpTo hKeyword
  begins := hBegins
  longest := by
    have hLength :
        ∀ keyword ∈ shortKeywords,
          keyword.1.length = Lexeme.maxSymbolLength := by
      decide
    intro other hOther _
    rw [hLength spelling hKeyword]
    exact (mem_spellingsUpTo_iff.mp hOther).2

/-
  Only operators and delimiters are read at a cursor. If none
  stands there, nothing is read, and the cursor stays; else the
  longest one is read. What is read is no keyword, and no part
  of a word or a number.
-/
structure Cursor.MatchesSymbols
    (cursor : Cursor) :
    Prop where
  reads :
    (cursor.matchSymbol = (none, cursor) ∧
        ∀ spelling ∈ symbols,
          ¬ BeginsWith cursor.ahead spelling) ∨
      ∃ spelling,
        IsLongest symbols cursor.ahead spelling ∧
          cursor.Matches spelling
  notKeyword :
    ∀ token ∈ cursor.matchSymbol.1,
      ∀ keyword ∈ keywords, token.kind ≠ keyword.2
  notWord :
    ∀ token ∈ cursor.matchSymbol.1,
      ∀ c ∈ token.literal.toList, continuesWord c = false

/- Where no short keyword stands, only symbols are read. -/
theorem Cursor.matchesSymbols_of_not_beginsWith
    {cursor : Cursor}
    (hNot :
      ∀ keyword ∈ shortKeywords,
        ¬ BeginsWith cursor.ahead keyword) :
    cursor.MatchesSymbols := by
  rcases cursor.matchSymbol_cases with
    ⟨hMatch, hOthers⟩ | ⟨spelling, hLongest, -⟩
  · have hSymbols :
        ∀ spelling ∈ symbols,
          ¬ BeginsWith cursor.ahead spelling := by
      intro spelling hMem
      exact hOthers spelling (symbols_subset_spellingsUpTo hMem)
    exact
      { reads := .inl ⟨hMatch, hSymbols⟩
        notKeyword := by simp [hMatch]
        notWord := by simp [hMatch] }
  · have hSymbol : spelling ∈ symbols := by
      have hMem := hLongest.mem
      rw [spellingsUpTo_maxSymbolLength, List.mem_append] at hMem
      exact hMem.resolve_right fun hKeyword =>
        hNot spelling hKeyword hLongest.begins
    have hMatches := matches_of_isLongest hLongest
    have hToken :
        ∀ token ∈ cursor.matchSymbol.1,
          token = cursor.tokenSpelled spelling := by
      intro token hMem
      rw [hMatches.token] at hMem
      exact (Option.some.inj hMem).symm
    have hOnly :=
      hLongest.of_subset hSymbol symbols_subset_spellingsUpTo
    refine ⟨.inr ⟨spelling, hOnly, hMatches⟩, ?_, ?_⟩
    · intro token hMem
      rw [hToken token hMem]
      exact kind_ne_of_mem_symbols spelling hSymbol
    · intro token hMem
      rw [hToken token hMem]
      exact continuesWord_of_mem_symbols spelling hSymbol

/-
  At any cursor, only operators and delimiters are read, if and
  only if neither of the two short keywords stands there. Such a
  keyword is read itself, whatever follows it.
-/
theorem matchSymbol_reads_symbols_iff
    (cursor : Cursor) :
    (cursor.MatchesSymbols ↔
        ∀ keyword ∈ shortKeywords,
          ¬ BeginsWith cursor.ahead keyword) ∧
      ∀ keyword ∈ shortKeywords,
        BeginsWith cursor.ahead keyword → cursor.Matches keyword := by
  have hKeywords :
      ∀ keyword ∈ shortKeywords,
        BeginsWith cursor.ahead keyword → cursor.Matches keyword :=
    fun keyword hKeyword hBegins =>
      Cursor.matches_of_isLongest (.of_shortKeyword hKeyword hBegins)
  refine ⟨⟨fun hMatches keyword hKeyword hBegins => ?_,
    Cursor.matchesSymbols_of_not_beginsWith⟩, hKeywords⟩
  have hShort : shortKeywords ⊆ keywords := by
    decide
  exact hMatches.notKeyword _
    (hKeywords keyword hKeyword hBegins).token keyword
    (hShort hKeyword) rfl

/- Of three equals signs, the first two are read. -/
example :
    (Cursor.ofString "===").matchSymbol.1 =
      some ⟨⟨"==", 1, 1⟩, .eq⟩ := by
  decide

/-
  The first two characters of a name are read as a keyword,
  though no operator or delimiter stands there.
-/
theorem matchSymbol_splits_word :
    let cursor := Cursor.ofString "iffy"
    (∀ spelling ∈ symbols, ¬ BeginsWith cursor.ahead spelling) ∧
      cursor.matchSymbol.1 = some ⟨⟨"if", 1, 1⟩, .ifWord⟩ ∧
      cursor.matchSymbol.2.ahead = ['f', 'y'] ∧
      ¬ cursor.MatchesSymbols := by
  intro cursor
  refine ⟨by decide, by decide, by decide, fun hMatches => ?_⟩
  exact hMatches.notKeyword ⟨⟨"if", 1, 1⟩, .ifWord⟩ (by decide)
    ("if", .ifWord) (by decide) rfl

end MonkeyLang
