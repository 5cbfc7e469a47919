import Mathlib.Data.List.Chain
import MonkeyLang.Proofs.Lexing.Tokenization

/-
  Sources that are laid out from lexemes and from gaps between
  them, and the tokens that are read from them.

  Main declarations:
    * `Spacing`               (a gap that needs no more text)
    * `WrittenLexeme`         (a lexeme with its source text)
    * `Layout`                (gaps for a sequence of lexemes)
    * `Layout.contents_text`  (the lexemes are read back)
-/

------------------------------------------------------------
-- Spacing
------------------------------------------------------------

namespace MonkeyLang

/-
  Blanks, and comments that are ended by a line feed. Whatever
  follows, such a gap stays a gap.
-/
inductive Spacing : List Char → Prop where
  | none :
      Spacing []
  | blank {c : Char} {gap : List Char}
      (hBlank : isGapBlank c = true)
      (hRest : Spacing gap) :
      Spacing (c :: gap)
  | comment {text gap : List Char}
      (hText : '\n' ∉ text)
      (hRest : Spacing gap) :
      Spacing ('#' :: text ++ '\n' :: gap)

theorem Spacing.gap
    {gap : List Char}
    (hSpacing : Spacing gap)
    (after : List Char) :
    Gap gap after := by
  induction hSpacing with
  | none => exact .none
  | blank hBlank _ ih => exact .blank hBlank ih
  | comment hText _ ih =>
      exact .comment hText (by simp) (.blank (by decide) ih)

/- A gap that is not empty keeps what is around it apart. -/
theorem Spacing.startsGap
    {gap : List Char}
    (hSpacing : Spacing gap) :
    ∀ c ∈ gap.head?, StartsGap c := by
  cases hSpacing with
  | none => simp
  | blank hBlank => simp [StartsGap, hBlank]
  | comment => simp [StartsGap]

theorem continuesWord_of_startsGap
    {c : Char}
    (hGap : StartsGap c) :
    continuesWord c = false ∧ c ≠ '=' := by
  have hCases :
      c = ' ' ∨ c = '\t' ∨ c = '\r' ∨ c = '\n' ∨ c = '#' := by
    simpa [StartsGap, isGapBlank, or_assoc] using hGap
  rcases hCases with rfl | rfl | rfl | rfl | rfl <;> decide

------------------------------------------------------------
-- Lexemes and Layouts
------------------------------------------------------------

/- A lexeme that can be written into a source. -/
structure WrittenLexeme where
  kind : TokenKind
  literal : List Char
  source : List Char
  spelled : Spelled kind literal source

namespace WrittenLexeme

/- The content of the token that the lexeme makes. -/
def content
    (lexeme : WrittenLexeme) :
    TokenKind × String :=
  (lexeme.kind, String.ofList lexeme.literal)

/-
  Whether a lexeme would merge with the next one if nothing
  stood between them: a word or a number with what goes on like
  one, and one of two signs with an equals sign.
-/
def Merges
    (lexeme next : WrittenLexeme) :
    Prop :=
  ((IsWord lexeme.source ∨ IsNumber lexeme.source) ∧
    ∃ c ∈ next.source.head?, continuesWord c = true) ∨
  ((lexeme.source = ['='] ∨ lexeme.source = ['!']) ∧
    next.source.head? = some '=')

end WrittenLexeme

/- The text of lexemes, each with the gap behind it. -/
def spacedText
    (spaced : List (WrittenLexeme × List Char)) :
    List Char :=
  spaced.flatMap fun entry => entry.1.source ++ entry.2

@[simp] theorem spacedText_nil : spacedText [] = [] := rfl

@[simp] theorem spacedText_cons
    (lexeme : WrittenLexeme)
    (gap : List Char)
    (spaced : List (WrittenLexeme × List Char)) :
    spacedText ((lexeme, gap) :: spaced) =
      lexeme.source ++ (gap ++ spacedText spaced) := by
  simp [spacedText]

/-
  A layout of some lexemes: a gap before the first and one
  behind each. Neighbours that would merge have a gap between
  them that is not empty.
-/
structure Layout
    (lexemes : List WrittenLexeme) where
  start : List Char
  gaps : List (List Char)
  length_gaps : gaps.length = lexemes.length
  spacing_start : Spacing start
  spacing_gaps : ∀ gap ∈ gaps, Spacing gap
  apart :
    (lexemes.zip gaps).IsChain fun entry next =>
      entry.2 = [] → ¬ entry.1.Merges next.1

/- Any lexemes can be laid out: with a blank behind each. -/
instance
    (lexemes : List WrittenLexeme) :
    Inhabited (Layout lexemes) where
  default :=
    { start := []
      gaps := List.replicate lexemes.length [' ']
      length_gaps := List.length_replicate
      spacing_start := .none
      spacing_gaps := by
        intro gap hGap
        rw [List.eq_of_mem_replicate hGap]
        exact .blank (by decide) .none
      apart := by
        refine (List.isChain_isInfix _).imp_of_mem_imp ?_
        intro entry next hEntry _ _ hEmpty
        have hGap : entry.2 = [' '] :=
          List.eq_of_mem_replicate (List.of_mem_zip hEntry).2
        simp [hGap] at hEmpty }

/- The source that a layout makes. -/
def Layout.text
    {lexemes : List WrittenLexeme}
    (layout : Layout lexemes) :
    String :=
  String.ofList
    (layout.start ++ spacedText (lexemes.zip layout.gaps))

------------------------------------------------------------
-- Reading a Layout
------------------------------------------------------------

/- In a layout, every lexeme is apart from what follows it. -/
theorem apart_spacedText
    {lexeme : WrittenLexeme}
    {gap : List Char}
    {spaced : List (WrittenLexeme × List Char)}
    (hGap : Spacing gap)
    (hNext :
      ∀ next ∈ spaced.head?, gap = [] → ¬ lexeme.Merges next.1) :
    Apart lexeme.source (gap ++ spacedText spaced) := by
  cases gap with
  | cons c gap =>
      have hStart : StartsGap c := hGap.startsGap c (by simp)
      have hOther := continuesWord_of_startsGap hStart
      exact ⟨fun _ => by simp [hOther.1], fun _ => by simp [hOther.2]⟩
  | nil =>
      match spaced with
      | [] => exact ⟨fun _ => by simp, fun _ => by simp⟩
      | (next, behind) :: others =>
          have hApart : ¬ lexeme.Merges next :=
            hNext _ (List.head?_cons ..) rfl
          rcases next.spelled.exists_head with ⟨c, rest, hHead, -⟩
          simp only [WrittenLexeme.Merges, hHead, not_or] at hApart
          constructor
          · intro hWord
            simpa [hHead, hWord] using hApart.1
          · intro hSign
            simpa [hHead, hSign] using hApart.2

/- Spaced lexemes are read back in their order. -/
theorem contents_spacedText
    {start : List Char}
    {spaced : List (WrittenLexeme × List Char)}
    (hStart : Spacing start)
    (hGaps : ∀ entry ∈ spaced, Spacing entry.2)
    (hApart :
      spaced.IsChain fun entry next =>
        entry.2 = [] → ¬ entry.1.Merges next.1) :
    contents (start ++ spacedText spaced) =
      spaced.map (fun entry => entry.1.content) ++
        [(.eof, "")] := by
  induction spaced generalizing start with
  | nil =>
      simpa using contents_finish (hStart.gap [])
  | cons entry spaced ih =>
      rcases entry with ⟨lexeme, gap⟩
      have hGap : Spacing gap := hGaps (lexeme, gap) (by simp)
      have hRest :=
        ih hGap (fun entry hMem => hGaps entry (by simp [hMem]))
          hApart.tail
      have hWhole :
          Recognised lexeme.kind lexeme.literal lexeme.source
            (gap ++ spacedText spaced) := by
        refine .whole lexeme.spelled (apart_spacedText hGap ?_)
        intro next hNext
        cases spaced with
        | nil => simp at hNext
        | cons other others =>
            have hEq : other = next := by simpa using hNext
            subst hEq
            exact (List.isChain_cons_cons.mp hApart).1
      rw [spacedText_cons, contents_lexeme (hStart.gap _) hWhole,
        hRest]
      rfl

/- The lexemes of a layout are read back in their order. -/
theorem Layout.contents_text
    {lexemes : List WrittenLexeme}
    (layout : Layout lexemes) :
    (tokenize layout.text).map Token.content =
      lexemes.map WrittenLexeme.content ++ [(.eof, "")] := by
  have hGaps : ∀ entry ∈ lexemes.zip layout.gaps, Spacing entry.2 :=
    fun entry hMem =>
      layout.spacing_gaps entry.2 (List.of_mem_zip hMem).2
  have hRead :=
    contents_spacedText layout.spacing_start hGaps layout.apart
  have hLexemes :
      (lexemes.zip layout.gaps).map (fun entry => entry.1.content) =
        lexemes.map WrittenLexeme.content := by
    have hFirst :
        (lexemes.zip layout.gaps).map Prod.fst = lexemes :=
      List.map_fst_zip (by simp [layout.length_gaps])
    calc
      (lexemes.zip layout.gaps).map (fun entry => entry.1.content) =
          ((lexemes.zip layout.gaps).map Prod.fst).map
            WrittenLexeme.content := by
        rw [List.map_map]
        rfl
      _ = lexemes.map WrittenLexeme.content := by rw [hFirst]
  rw [← hLexemes]
  exact hRead

end MonkeyLang
