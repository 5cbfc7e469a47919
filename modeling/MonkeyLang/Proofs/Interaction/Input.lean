import Mathlib.Data.List.Infix
import MonkeyLang.Repl.Reader

/-
  The inputs of an interactive session. An input takes the
  fewest lines, but at least one, that leave no brace open when
  each line is counted on its own; a first line may ask to
  leave instead.

  Main declarations:
    * `bracesLeftOpen`             (braces that lines leave open)
    * `IsPending`, `IsInput`   (lines of a part and of a whole input)
    * `Reader.Fed`             (what a line can make of an input)
    * `Reader.HasRead`         (what can come of reading an input)
    * `Reader.read_after`
    * `Reader.sources`         (the inputs of all lines)
-/

------------------------------------------------------------
-- Lines of an Input
------------------------------------------------------------

namespace MonkeyLang

/- How many braces lines leave open, if each is read on its own. -/
def bracesLeftOpen
    (lines : List String) :
    Int :=
  lines.foldl (fun count line => count + braceBalance line) 0

@[simp] theorem bracesLeftOpen_nil : bracesLeftOpen [] = 0 := rfl

@[simp] theorem bracesLeftOpen_concat
    (lines : List String)
    (line : String) :
    bracesLeftOpen (lines ++ [line]) =
      bracesLeftOpen lines + braceBalance line := by
  simp [bracesLeftOpen]

/- The first line can be counted apart as well. -/
theorem bracesLeftOpen_cons
    (line : String)
    (lines : List String) :
    bracesLeftOpen (line :: lines) =
      braceBalance line + bracesLeftOpen lines := by
  induction lines using List.reverseRecOn with
  | nil => simp [bracesLeftOpen]
  | append_singleton front last ih =>
      rw [← List.cons_append, bracesLeftOpen_concat,
        bracesLeftOpen_concat, ih, Int.add_assoc]

/- The source text that lines make. -/
def sourceOf
    (lines : List String) :
    String :=
  Text.trim (Text.join "\n" lines)

/-
  Lines behind which an input goes on: they do not ask to leave,
  and however many of them are read, a brace is open.
-/
structure IsPending
    (lines : List String) :
    Prop where
  stays : ∀ line ∈ lines.head?, Reader.isFarewell line = false
  opened : ∀ front, front <+: lines → front ≠ [] → 0 < bracesLeftOpen front

/-
  The lines of one input: they do not ask to leave, they leave
  no brace open, and fewer of them do.
-/
structure IsInput
    (lines : List String) :
    Prop where
  notEmpty : lines ≠ []
  stays : ∀ line ∈ lines.head?, Reader.isFarewell line = false
  closed : bracesLeftOpen lines ≤ 0
  shortest :
    ∀ front, front <+: lines → front ≠ [] → front ≠ lines →
      0 < bracesLeftOpen front

theorem IsPending.nil : IsPending [] where
  stays := by simp
  opened := by simp

theorem head?_concat_forall
    {front : List α}
    {a : α}
    {p : α → Prop} :
    (∀ b ∈ (front ++ [a]).head?, p b) ↔
      (∀ b ∈ front.head?, p b) ∧ (front = [] → p a) := by
  cases front <;> simp

/- One more line stays pending as long as it leaves a brace open. -/
theorem isPending_concat
    {front : List String}
    {line : String} :
    IsPending (front ++ [line]) ↔
      IsPending front ∧
        (front = [] → Reader.isFarewell line = false) ∧
          0 < bracesLeftOpen (front ++ [line]) := by
  constructor
  · rintro ⟨hStays, hOpened⟩
    rw [head?_concat_forall] at hStays
    refine ⟨⟨hStays.1, fun part hPart => ?_⟩, hStays.2, ?_⟩
    · exact hOpened part (hPart.trans (List.prefix_append _ _))
    · exact hOpened _ (List.prefix_refl _) (by simp)
  · rintro ⟨⟨hStays, hOpened⟩, hLine, hOpen⟩
    refine ⟨head?_concat_forall.mpr ⟨hStays, hLine⟩, ?_⟩
    intro part hPart hPartEmpty
    rcases List.prefix_concat_iff.mp hPart with rfl | hFront
    · exact hOpen
    · exact hOpened part hFront hPartEmpty

/- A line completes what is pending if it leaves no brace open. -/
theorem isInput_concat
    {front : List String}
    {line : String} :
    IsInput (front ++ [line]) ↔
      IsPending front ∧
        (front = [] → Reader.isFarewell line = false) ∧
          bracesLeftOpen (front ++ [line]) ≤ 0 := by
  constructor
  · rintro ⟨-, hStays, hClosed, hShortest⟩
    rw [head?_concat_forall] at hStays
    refine ⟨⟨hStays.1, fun part hPart hPartEmpty => ?_⟩, hStays.2, hClosed⟩
    apply hShortest part (hPart.trans (List.prefix_append _ _)) hPartEmpty
    rintro rfl
    exact absurd hPart.length_le (by simp)
  · rintro ⟨⟨hStays, hOpened⟩, hLine, hClosed⟩
    refine ⟨by simp, head?_concat_forall.mpr ⟨hStays, hLine⟩, hClosed, ?_⟩
    intro part hPart hPartEmpty hPartLess
    rcases List.prefix_concat_iff.mp hPart with rfl | hFront
    · exact absurd rfl hPartLess
    · exact hOpened part hFront hPartEmpty

------------------------------------------------------------
-- One More Line
------------------------------------------------------------

namespace Reader

/- The reader behind some lines of an input. -/
def after
    (lines : List String) :
    Reader :=
  ⟨lines, bracesLeftOpen lines⟩

theorem after_nil : after [] = fresh := rfl

@[simp] theorem lines_after
    (lines : List String) :
    (after lines).lines = lines := rfl

/-
  What a line can make of the lines before it: it asks to leave,
  it completes the input, or the input goes on.
-/
inductive Fed
    (front : List String)
    (line : String) :
    Reading → Prop where
  | leaves
      (hFront : front = [])
      (hLine : isFarewell line = true) :
      Fed front line (.complete .leave)
  | completes
      (hInput : IsInput (front ++ [line])) :
      Fed front line (.complete (.source (sourceOf (front ++ [line]))))
  | goesOn
      (hPending : IsPending (front ++ [line])) :
      Fed front line (.incomplete (after (front ++ [line])))

theorem feed_after
    {front : List String}
    (hFront : IsPending front)
    (line : String) :
    Fed front line ((after front).feed line) := by
  unfold feed
  by_cases hLeave : (front.isEmpty && isFarewell line) = true
  · rw [lines_after, if_pos hLeave]
    rw [Bool.and_eq_true, List.isEmpty_iff] at hLeave
    exact .leaves hLeave.1 hLeave.2
  · have hStays : front = [] → isFarewell line = false := by
      rintro rfl
      simpa using hLeave
    have hCount :
        (after front).openBraces + braceBalance line =
          bracesLeftOpen (front ++ [line]) :=
      (bracesLeftOpen_concat front line).symm
    rw [lines_after, if_neg hLeave, hCount]
    by_cases hClosed : bracesLeftOpen (front ++ [line]) ≤ 0
    · simp only [if_pos hClosed]
      exact .completes (isInput_concat.mpr ⟨hFront, hStays, hClosed⟩)
    · simp only [if_neg hClosed]
      exact .goesOn (isPending_concat.mpr
        ⟨hFront, hStays, Int.not_le.mp hClosed⟩)

------------------------------------------------------------
-- One Input
------------------------------------------------------------

/- The prompts for a number of lines, behind some lines of their input. -/
def prompts
    (already count : Nat) :
    String :=
  match count with
  | 0 => ""
  | count + 1 =>
      (if already = 0 then ">> " else ".. ") ++
        prompts (already + 1) count

/-
  What can come of reading an input, behind some lines of it
  and from further lines: a wish to leave, a source, or nothing,
  if the lines run out. Each line that is asked for has a prompt.
-/
inductive HasRead
    (front : List String) :
    List String → Readout → Prop where
  | leaves {line : String} {rest : List String}
      (hFront : front = [])
      (hLine : isFarewell line = true) :
      HasRead front (line :: rest) ⟨prompts 0 1, some .leave, rest⟩
  | completes {taken rest : List String}
      (hInput : IsInput (front ++ taken)) :
      HasRead front (taken ++ rest)
        ⟨prompts front.length taken.length,
          some (.source (sourceOf (front ++ taken))), rest⟩
  | runsOut {lines : List String}
      (hPending : IsPending (front ++ lines)) :
      HasRead front lines
        ⟨prompts front.length (lines.length + 1), none, []⟩

theorem prompt_after
    (front : List String) :
    (after front).prompt = prompts front.length 1 := by
  cases front <;> rfl

/- The prompt for one line comes before those for the next. -/
theorem prompts_succ
    (front : List String)
    (line : String)
    (count : Nat) :
    prompts front.length (count + 1) =
      (after front).prompt ++
        prompts (front ++ [line]).length count := by
  cases front <;> simp [prompts, prompt, after]

/- Reading a line that does not end the input asks for it first. -/
theorem HasRead.cons
    {front lines : List String}
    {line : String}
    {readout : Readout}
    (hRead : HasRead (front ++ [line]) lines readout) :
    HasRead front (line :: lines)
      ⟨(after front).prompt ++ readout.prompts, readout.input?,
        readout.rest⟩ := by
  cases hRead with
  | leaves hEmpty => simp at hEmpty
  | @completes taken rest hInput =>
      rw [List.append_assoc] at hInput ⊢
      dsimp only
      rw [← prompts_succ]
      exact @HasRead.completes front (line :: taken) rest hInput
  | runsOut hPending =>
      rw [List.append_assoc] at hPending
      dsimp only
      rw [← prompts_succ]
      exact .runsOut hPending

/- The rest of an input is read from the lines that follow. -/
theorem read_after
    {front : List String}
    (hFront : IsPending front)
    (lines : List String) :
    HasRead front lines ((after front).read lines) := by
  induction lines generalizing front with
  | nil =>
      rw [read, prompt_after]
      exact .runsOut (by simpa using hFront)
  | cons line lines ih =>
      have hFed := feed_after hFront line
      rw [read]
      generalize (after front).feed line = reading at hFed
      cases hFed with
      | leaves hEmpty hLine =>
          subst hEmpty
          exact .leaves rfl hLine
      | completes hInput =>
          dsimp only
          rw [prompt_after]
          exact .completes hInput
      | goesOn hPending => exact (ih hPending).cons

------------------------------------------------------------
-- All Inputs
------------------------------------------------------------

/-
  The source texts that are read from lines, one input after the
  other, up to a wish to leave or as far as the lines go.
-/
def sources
    (reader : Reader)
    (lines : List String) :
    List String :=
  match lines with
  | [] => []
  | line :: rest =>
      match reader.feed line with
      | .complete .leave => []
      | .complete (.source text) => text :: fresh.sources rest
      | .incomplete next => next.sources rest

/- They are the results of reading inputs again and again. -/
theorem sources_eq_read
    (reader : Reader)
    (lines : List String) :
    reader.sources lines =
      match (reader.read lines).input? with
      | some (.source text) =>
          text :: fresh.sources (reader.read lines).rest
      | _ => [] := by
  induction lines generalizing reader with
  | nil => rfl
  | cons line rest ih =>
      rw [sources, read]
      cases reader.feed line with
      | incomplete next => exact ih next
      | complete input => cases input <;> rfl

end Reader

end MonkeyLang
