import MonkeyLang.Proofs.Interaction.Input
import MonkeyLang.Proofs.Lexing.Coverage
import MonkeyLang.Proofs.Lexing.Joining

/-
  When an input ends, told by the braces of its whole text. An
  input goes on exactly while its text has more opening braces
  than closing ones, unless a string goes on from one of its
  lines to the next: lines are counted on their own, and then
  a quote that ends such a string seems to start one.

  Main declarations:
    * `HasOpenBrace`               (of a text)
    * `LeavesOpen`                 (lines behind which a brace is open)
    * `Unbroken`                   (a line in which strings are ended)
    * `bracesLeftOpen_eq_balance`  (lines counted one by one)
    * `input_ends_with_braces`
-/

------------------------------------------------------------
-- Braces of a Text
------------------------------------------------------------

namespace MonkeyLang

/- How many tokens of a kind a text has. -/
def kindCount
    (kind : TokenKind)
    (text : String) :
    Nat :=
  ((tokenize text).map Token.kind).count kind

/- More braces are opened in a text than are closed. -/
def HasOpenBrace
    (text : String) :
    Prop :=
  kindCount .rbrace text < kindCount .lbrace text

instance
    (text : String) :
    Decidable (HasOpenBrace text) := by
  unfold HasOpenBrace
  infer_instance

/- The balance of tokens is the number of opening less closing braces. -/
theorem sum_braceWeight
    (tokens : List Token) :
    ((tokens.map Token.braceWeight).foldr (· + ·) 0 : Int) =
      (tokens.map Token.kind).count .lbrace -
        (tokens.map Token.kind).count .rbrace := by
  induction tokens with
  | nil => rfl
  | cons token tokens ih =>
      simp only [List.map_cons, List.foldr_cons, ih, List.count_cons]
      unfold Token.braceWeight
      cases hKind : token.kind <;> simp <;> omega

theorem braceBalance_eq
    (text : String) :
    braceBalance text =
      (kindCount .lbrace text : Int) - kindCount .rbrace text :=
  sum_braceWeight (tokenize text)

theorem hasOpenBrace_iff
    {text : String} :
    HasOpenBrace text ↔ 0 < braceBalance text := by
  rw [braceBalance_eq, HasOpenBrace]
  omega

------------------------------------------------------------
-- Braces of Joined Lines
------------------------------------------------------------

/- Every string of a text is ended. -/
def Unbroken
    (text : String) :
    Prop :=
  ∀ token ∈ tokenize text, ¬ token.IsBroken

instance
    (text : String) :
    Decidable (Unbroken text) := by
  unfold Unbroken
  infer_instance

theorem kindCount_eq_contents
    (kind : TokenKind)
    (text : String) :
    kindCount kind text =
      ((contents text.toList).map Prod.fst).count kind := by
  rw [contents, String.ofList_toList, List.map_map]
  rfl

/-
  If no string goes on behind a line feed, the tokens of the
  texts before and behind it can be counted apart.
-/
theorem kindCount_append_line
    {kind : TokenKind}
    {text : String}
    (hKind : kind ≠ .eof)
    (hUnbroken : Unbroken text)
    (rest : String) :
    kindCount kind (text ++ "\n" ++ rest) =
      kindCount kind text + kindCount kind rest := by
  have hLexed : Lexed [] text.toList (tokenize text) :=
    tokenize_eq_iff_lexed.mp rfl
  have hLine := hLexed.contents_append_line hUnbroken rest.toList
  have hText :
      (text ++ "\n" ++ rest).toList = text.toList ++ '\n' :: rest.toList := by
    simp
  -- The end of input behind the first text counts for neither kind.
  have hFront :
      ((tokenize text).dropLast.map Token.content).map Prod.fst =
        ((tokenize text).map Token.kind).dropLast := by
    rw [List.map_map, List.map_dropLast]
    rfl
  have hEnd :
      ((tokenize text).map Token.kind).dropLast.count kind =
        kindCount kind text := by
    rcases hLexed.exists_pieces with ⟨pieces, last, -, -, hTokens, -⟩
    have hOther : kind ∉ [(endAfter ([] ++ text.toList)).kind] := by
      simpa [endAfter, Token.endAt] using hKind
    rw [kindCount, hTokens, List.map_append, List.map_singleton,
      List.dropLast_concat, List.count_append,
      List.count_eq_zero.mpr hOther, Nat.add_zero]
  rw [kindCount_eq_contents, hText, hLine, List.map_append,
    List.count_append, hFront, hEnd, kindCount_eq_contents kind rest]

theorem braceBalance_append_line
    {text : String}
    (hUnbroken : Unbroken text)
    (rest : String) :
    braceBalance (text ++ "\n" ++ rest) =
      braceBalance text + braceBalance rest := by
  simp only [braceBalance_eq]
  rw [kindCount_append_line (by decide) hUnbroken,
    kindCount_append_line (by decide) hUnbroken]
  omega

/- Lines can be counted one by one, if only the last may break a string. -/
theorem bracesLeftOpen_eq_balance
    {lines : List String}
    (hUnbroken : ∀ line ∈ lines.dropLast, Unbroken line) :
    bracesLeftOpen lines = braceBalance (Text.join "\n" lines) := by
  induction lines with
  | nil => rfl
  | cons line rest ih =>
      cases rest with
      | nil => simp [bracesLeftOpen_cons, Text.join]
      | cons next rest =>
          rw [List.dropLast_cons_cons, List.forall_mem_cons] at hUnbroken
          have hRest := ih hUnbroken.2
          have hLine :=
            braceBalance_append_line hUnbroken.1
              (Text.join "\n" (next :: rest))
          rw [bracesLeftOpen_cons, hRest, ← hLine]
          rfl

------------------------------------------------------------
-- The End of an Input
------------------------------------------------------------

/- However many of the lines are read, a brace of their text is open. -/
def LeavesOpen
    (lines : List String) :
    Prop :=
  ∀ front, front <+: lines → front ≠ [] →
    HasOpenBrace (Text.join "\n" front)

theorem leavesOpen_concat
    {front : List String}
    {line : String} :
    LeavesOpen (front ++ [line]) ↔
      LeavesOpen front ∧
        HasOpenBrace (Text.join "\n" (front ++ [line])) := by
  constructor
  · intro hOpen
    constructor
    · intro part hPart
      exact hOpen part (hPart.trans (List.prefix_append _ _))
    · exact hOpen _ (List.prefix_refl _) (by simp)
  · rintro ⟨hFront, hWhole⟩ part hPart hPartEmpty
    rcases List.prefix_concat_iff.mp hPart with rfl | hPart
    · exact hWhole
    · exact hFront part hPart hPartEmpty

/- As long as a brace is open, no line ends inside of a string. -/
def StringsStay
    (lines : List String) :
    Prop :=
  ∀ front, front <+: lines → LeavesOpen front →
    ∀ line ∈ front, Unbroken line

theorem StringsStay.mono
    {front lines : List String}
    (hStrings : StringsStay lines)
    (hFront : front <+: lines) :
    StringsStay front :=
  fun _ hPart => hStrings _ (hPart.trans hFront)

/- Behind lines that leave a brace open, one more can be counted apart. -/
theorem StringsStay.bracesLeftOpen_concat
    {front : List String}
    (hStrings : StringsStay front)
    (hOpen : LeavesOpen front)
    (line : String) :
    bracesLeftOpen (front ++ [line]) =
      braceBalance (Text.join "\n" (front ++ [line])) := by
  apply bracesLeftOpen_eq_balance
  rw [List.dropLast_concat]
  exact hStrings front (List.prefix_refl _) hOpen

/- Lines are pending as long as they leave a brace of their text open. -/
theorem StringsStay.isPending_iff
    {lines : List String}
    (hStrings : StringsStay lines)
    (hStays : ∀ line ∈ lines.head?, Reader.isFarewell line = false) :
    IsPending lines ↔ LeavesOpen lines := by
  induction lines using List.reverseRecOn with
  | nil => exact ⟨fun _ => by simp [LeavesOpen], fun _ => .nil⟩
  | append_singleton front line ih =>
      have hFront := hStrings.mono (List.prefix_append _ _)
      rw [head?_concat_forall] at hStays
      rw [isPending_concat, leavesOpen_concat, ih hFront hStays.1]
      constructor
      · rintro ⟨hOpen, -, hLine⟩
        rw [hFront.bracesLeftOpen_concat hOpen] at hLine
        exact ⟨hOpen, hasOpenBrace_iff.mpr hLine⟩
      · rintro ⟨hOpen, hLine⟩
        rw [hasOpenBrace_iff, ← hFront.bracesLeftOpen_concat hOpen] at hLine
        exact ⟨hOpen, hStays.2, hLine⟩

/-
  The first of some lines does not ask to leave, and as long as
  a brace is open, no line ends inside of a string. Then an
  input takes the fewest lines, at least one, whose text has no
  open brace; it is that text without the blanks around it. If
  there are no such lines, all of them are read and one more is
  asked for.
-/
theorem input_ends_with_braces
    {lines : List String}
    (hStays : ∀ line ∈ lines.head?, Reader.isFarewell line = false)
    (hStrings : StringsStay lines) :
    (∃ input rest,
      lines = input ++ rest ∧ input ≠ [] ∧
        LeavesOpen input.dropLast ∧
        ¬ HasOpenBrace (Text.join "\n" input) ∧
        Reader.fresh.read lines =
          ⟨Reader.prompts 0 input.length,
            some (.source (Text.trim (Text.join "\n" input))), rest⟩) ∨
      LeavesOpen lines ∧
        Reader.fresh.read lines =
          ⟨Reader.prompts 0 (lines.length + 1), none, []⟩ := by
  have hRead := Reader.read_after IsPending.nil lines
  rw [Reader.after_nil] at hRead
  generalize Reader.fresh.read lines = readout at hRead ⊢
  cases hRead with
  | leaves _ hLine => simp [hLine] at hStays
  | @completes taken rest hInput =>
      left
      rw [List.nil_append] at hInput
      rcases List.eq_nil_or_concat' taken with rfl | ⟨front, line, rfl⟩
      · exact absurd rfl hInput.notEmpty
      · rcases isInput_concat.mp hInput with ⟨hPending, -, hClosed⟩
        have hFront : StringsStay front := hStrings.mono (by simp)
        have hOpen := (hFront.isPending_iff hPending.stays).mp hPending
        refine ⟨front ++ [line], rest, rfl, by simp, ?_, ?_, rfl⟩
        · rwa [List.dropLast_concat]
        · rw [hasOpenBrace_iff, ← hFront.bracesLeftOpen_concat hOpen]
          exact Int.not_lt.mpr hClosed
  | runsOut hPending =>
      exact .inr ⟨(hStrings.isPending_iff hStays).mp hPending, rfl⟩

/-
  Three lines of an input, and one behind it. There are braces
  in strings and in a comment, and the second line would ask to
  leave if it were the first.
-/
theorem input_ends_with_braces_in_strings :
    let lines := [
      "if (x) " ++ Text.braced " \"" ++ "\" # " ++ Text.closeBrace,
      "  quit",
      Text.closeBrace ++ "  ",
      "1"]
    (∀ line ∈ lines.head?, Reader.isFarewell line = false) ∧
      StringsStay lines ∧
      ∃ input,
        lines = input ++ ["1"] ∧ LeavesOpen input.dropLast ∧
          ¬ HasOpenBrace (Text.join "\n" input) ∧
          Text.trim (Text.join "\n" input) =
            "if (x) " ++ Text.braced " \"" ++ "\" # " ++
              Text.closeBrace ++ "\n  quit\n" ++ Text.closeBrace := by
  intro lines
  have hRun :
      Reader.fresh.read lines =
        ⟨">> .. .. ",
          some (.source
            ("if (x) " ++ Text.braced " \"" ++ "\" # " ++
              Text.closeBrace ++ "\n  quit\n" ++ Text.closeBrace)),
          ["1"]⟩ := by
    rfl
  have hStays : ∀ line ∈ lines.head?, Reader.isFarewell line = false := by
    decide
  have hUnbroken : ∀ line ∈ lines, Unbroken line := by decide
  have hStrings : StringsStay lines :=
    fun _ hFront _ line hLine => hUnbroken line (hFront.subset hLine)
  refine ⟨hStays, hStrings, ?_⟩
  rcases input_ends_with_braces hStays hStrings with
    ⟨input, rest, hLines, -, hOpen, hClosed, hRead⟩ | ⟨-, hRead⟩
  · rw [hRun, Readout.mk.injEq, Option.some.injEq, Input.source.injEq]
      at hRead
    rcases hRead with ⟨-, hText, rfl⟩
    exact ⟨input, hLines, hOpen, hClosed, hText.symm⟩
  · rw [hRun, Readout.mk.injEq] at hRead
    exact absurd hRead.2.1 (by simp)

/-
  A string that starts in the first line holds the brace of the
  second, so that only the third line closes the brace. But the
  first two are taken as complete: on its own the second line
  closes a brace and then starts a string.
-/
theorem input_ends_inside_string :
    let lines := [
      Text.openBrace ++ " \"a",
      Text.closeBrace ++ " \"",
      Text.closeBrace]
    HasOpenBrace (Text.join "\n" (lines.take 1)) ∧
      HasOpenBrace (Text.join "\n" (lines.take 2)) ∧
      ¬ HasOpenBrace (Text.join "\n" lines) ∧
      Reader.fresh.read lines =
        ⟨">> .. ",
          some (.source
            (Text.openBrace ++ " \"a\n" ++ Text.closeBrace ++ " \"")),
          [Text.closeBrace]⟩ := by
  intro lines
  refine ⟨by decide, by decide, by decide, ?_⟩
  rfl

end MonkeyLang
