import Mathlib.Data.List.TakeWhile
import MonkeyLang.Token.Lexeme

/-
  The gaps of a source: which characters belong to no token.

  Main declarations:
    * `StartsGap`           (a character that only a gap starts with)
    * `Gap`                 (a gap in front of other text)
    * `exists_gap`          (every text begins with one)
    * `gapLength_eq`        (the whole of it is skipped)
-/

------------------------------------------------------------
-- The Relation
------------------------------------------------------------

namespace MonkeyLang

/- A character that starts a gap: a blank or a number sign. -/
def StartsGap
    (c : Char) :
    Prop :=
  isGapBlank c = true ∨ c = '#'

instance
    (c : Char) :
    Decidable (StartsGap c) := by
  unfold StartsGap
  infer_instance

/-
  A gap in front of other text: blanks, and comments that run
  from a number sign up to the next line feed or to the end of
  the source.
-/
inductive Gap : List Char → List Char → Prop where
  | none {after : List Char} :
      Gap [] after
  | blank {c : Char} {gap after : List Char}
      (hBlank : isGapBlank c = true)
      (hRest : Gap gap after) :
      Gap (c :: gap) after
  | comment {text gap after : List Char}
      (hText : '\n' ∉ text)
      (hEnd : ∀ c ∈ (gap ++ after).head?, c = '\n')
      (hRest : Gap gap after) :
      Gap ('#' :: text ++ gap) after

------------------------------------------------------------
-- Every Text Begins with a Gap
------------------------------------------------------------

/- A line is what stands before the first line feed, if there is one. -/
theorem exists_line
    (text : List Char) :
    ∃ line rest,
      text = line ++ rest ∧ '\n' ∉ line ∧
        ∀ c ∈ rest.head?, c = '\n' := by
  refine
    ⟨text.takeWhile (· != '\n'), text.dropWhile (· != '\n'),
      List.takeWhile_append_dropWhile.symm, ?_, ?_⟩
  · intro hMem
    simpa using List.mem_takeWhile_imp hMem
  · intro c hHead
    have hStop := List.head?_dropWhile_not (· != '\n') text
    rw [Option.mem_def] at hHead
    simpa [hHead] using hStop

/-
  Every text begins with a gap, possibly an empty one, behind
  which no further gap starts.
-/
theorem exists_gap
    (text : List Char) :
    ∃ gap after,
      text = gap ++ after ∧ Gap gap after ∧
        ∀ c ∈ after.head?, ¬ StartsGap c := by
  match text with
  | [] => exact ⟨[], [], rfl, .none, by simp⟩
  | c :: rest =>
      by_cases hBlank : isGapBlank c = true
      · rcases exists_gap rest with
          ⟨gap, after, rfl, hGap, hAfter⟩
        exact ⟨c :: gap, after, rfl, .blank hBlank hGap, hAfter⟩
      · by_cases hSign : c = '#'
        · subst hSign
          rcases exists_line rest with
            ⟨line, others, hRest, hLine, hOthers⟩
          have hShorter : others.length ≤ rest.length := by
            simp [hRest]
          rcases exists_gap others with
            ⟨gap, after, rfl, hGap, hAfter⟩
          refine
            ⟨'#' :: line ++ gap, after, by simp [hRest],
              .comment hLine hOthers hGap, hAfter⟩
        · refine ⟨[], c :: rest, rfl, .none, ?_⟩
          simp [StartsGap, hBlank, hSign]
termination_by text.length

------------------------------------------------------------
-- The Whole Gap Is Skipped
------------------------------------------------------------

/- A comment counts up to the end of its line. -/
theorem gapLength_comment
    (text rest : List Char)
    (hText : '\n' ∉ text)
    (hEnd : ∀ c ∈ rest.head?, c = '\n') :
    gapLength true (text ++ rest) =
      text.length + gapLength false rest := by
  induction text with
  | nil =>
      cases rest with
      | nil => simp [gapLength]
      | cons c rest =>
          have hLine : c = '\n' := hEnd c (by simp)
          subst hLine
          simp [gapLength, isGapBlank]
  | cons c text ih =>
      rw [List.mem_cons, not_or] at hText
      have hOther : (c != '\n') = true := by
        simpa using Ne.symm hText.1
      rw [List.cons_append, gapLength, if_pos rfl, hOther,
        ih hText.2, List.length_cons]
      omega

/- A gap is skipped as a whole, if no other gap starts behind it. -/
theorem gapLength_eq
    {gap after : List Char}
    (hGap : Gap gap after)
    (hAfter : ∀ c ∈ after.head?, ¬ StartsGap c) :
    gapLength false (gap ++ after) = gap.length := by
  induction hGap with
  | none =>
      rename_i after
      cases after with
      | nil => rfl
      | cons c after =>
          have hNot : ¬ StartsGap c := hAfter c (by simp)
          rw [StartsGap, not_or] at hNot
          simp [gapLength, hNot.1, hNot.2]
  | blank hBlank _ ih =>
      simp [gapLength, hBlank, ih hAfter]
  | comment hText hEnd _ ih =>
      rw [List.append_assoc, List.cons_append, gapLength,
        if_neg (by decide), if_neg (by decide), if_pos rfl,
        gapLength_comment _ _ hText hEnd, ih hAfter]
      simp

end MonkeyLang
