import MonkeyLang.Proofs.Interaction.Transcript
import MonkeyLang.Proofs.Lexing.Reading

/-
  How an interactive session goes from its first line to its
  last. Whatever is typed and however programs are evaluated, it
  ends only where a line asks to leave before an input has
  started, or where no more lines come. A failure of the lexer
  would look like the end of the lines, but there is none.

  Main declarations:
    * `Dialogue.Stays`            (no line asks to leave)
    * `Dialogue.Proceeds.ends`
    * `session_ends_where_asked`
-/

------------------------------------------------------------
-- The End of a Session
------------------------------------------------------------

namespace MonkeyLang

namespace Dialogue

/- None of some lines asks to leave where an input starts. -/
def Stays
    (before lines : List String) :
    Prop :=
  ∀ front line rest, lines = front ++ line :: rest →
    ¬ LeavesBehind (before ++ front) line

theorem Stays.nil
    (before : List String) :
    Stays before [] := by
  rintro front line rest hLines
  simp at hLines

theorem Stays.cons
    {before rest : List String}
    {line : String}
    (hLine : ¬ LeavesBehind before line)
    (hRest : Stays (before ++ [line]) rest) :
    Stays before (line :: rest) := by
  intro front other following hLines
  cases front with
  | nil =>
      rcases List.cons.inj hLines with ⟨rfl, -⟩
      rwa [List.append_nil]
  | cons first front =>
      rcases List.cons.inj hLines with ⟨rfl, hFollowing⟩
      rw [List.append_cons]
      exact hRest front other following hFollowing

namespace Proceeds

variable {stop : Stop}
variable {before lines : List String}
variable {exchanges : List Exchange}
variable {ending : Ending}

/- Every line is asked for with the prompt that is due. -/
theorem prompt_eq
    (hProceeds : Proceeds stop before lines exchanges ending)
    {front rest : List Exchange}
    {exchange : Exchange}
    (hExchanges : exchanges = front ++ exchange :: rest) :
    exchange.prompt =
      promptBehind (before ++ front.map Exchange.line) := by
  induction hProceeds generalizing front with
  | stopped => simp at hExchanges
  | left hLeave =>
      rw [List.singleton_eq_append_iff] at hExchanges
      rcases hExchanges with ⟨rfl, hExchange⟩ | ⟨-, hExchange⟩
      · rcases (List.cons.inj hExchange).1 with rfl
        simp
      · cases hExchange
  | goesOn hStays hRest ih =>
      cases front with
      | nil =>
          rcases (List.cons.inj hExchanges).1 with rfl
          simp
      | cons first front =>
          rcases List.cons.inj hExchanges with ⟨rfl, hFollowing⟩
          rw [ih hFollowing, List.map_cons, ← List.append_cons]

/-
  A session is left at the first line that asks to leave where
  an input starts; without one it reads every line.
-/
theorem ends
    (hProceeds : Proceeds stop before lines exchanges ending) :
    (∃ front line rest,
      lines = front ++ line :: rest ∧ Stays before front ∧
        LeavesBehind (before ++ front) line ∧
        exchanges.map Exchange.line = front ++ [line] ∧
        ending = .left) ∨
      Stays before lines ∧ exchanges.map Exchange.line = lines ∧
        ending = .stopped (promptBehind (before ++ lines)) stop := by
  induction hProceeds with
  | stopped before => exact .inr ⟨.nil before, rfl, by simp⟩
  | @left before rest line hLeave =>
      refine .inl ⟨[], line, rest, rfl, .nil before, ?_, rfl, rfl⟩
      rwa [List.append_nil]
  | @goesOn before rest line notices exchanges ending hStays hRest ih =>
      rcases ih with
        ⟨front, last, following, rfl, hFront, hLeave, hLines, hEnding⟩ |
          ⟨hAll, hLines, hEnding⟩
      · refine .inl ⟨line :: front, last, following, rfl,
          .cons hStays hFront, ?_, ?_, hEnding⟩
        · rwa [List.append_cons]
        · rw [List.map_cons, hLines, List.cons_append]
      · refine .inr ⟨.cons hStays hAll, ?_, ?_⟩
        · rw [List.map_cons, hLines]
        · rw [hEnding, ← List.append_cons]

end Proceeds

end Dialogue

/-
  If no evaluation goes on without end, a session has a course,
  whatever is typed, however the lines stop, and whether programs
  have values or halt. It reads lines in order, each with the
  prompt that is due, up to the first that asks to leave where an
  input starts, and says farewell behind it; or else it reads all
  of them, and says farewell when no more come. Nothing else is
  shown than the greeting, then for every line that is read the
  prompt and the texts of the notices, and then the farewell,
  behind one more prompt if the lines have stopped. None of the
  texts that the session takes to tokens is at its end too soon.
-/
theorem session_ends_where_asked
    {evaluator : Evaluator}
    {showTree showTokens : Bool}
    {lines : List String}
    {stop : Dialogue.Stop}
    (hEnded :
      ∀ evaluation ∈
        (Dialogue.start showTree showTokens).evaluations evaluator lines,
          evaluation.HasEnded) :
    ∃ course,
      (Dialogue.start showTree showTokens).courseOf evaluator lines stop =
          some course ∧
        (∀ front exchange rest, course.exchanges = front ++ exchange :: rest →
          exchange.prompt =
            promptBehind (front.map Dialogue.Exchange.line)) ∧
        ((∃ front line rest,
          lines = front ++ line :: rest ∧ Dialogue.Stays [] front ∧
            LeavesBehind front line ∧
            course.exchanges.map Dialogue.Exchange.line =
              front ++ [line] ∧
            course.ending = .left ∧
            course.text =
              "Monkey REPL. Type 'exit' or 'quit' to leave.\n" ++
                Dialogue.shownBehind [] course.exchanges ++
                "Exiting Monkey REPL.\n") ∨
          Dialogue.Stays [] lines ∧
            course.exchanges.map Dialogue.Exchange.line = lines ∧
            course.ending = .stopped (promptBehind lines) stop ∧
            course.text =
              "Monkey REPL. Type 'exit' or 'quit' to leave.\n" ++
                Dialogue.shownBehind [] course.exchanges ++
                (promptBehind lines ++ "\nExiting Monkey REPL.\n")) ∧
        ∀ text ∈ lines ++ Reader.fresh.sources lines,
          ∃ finish,
            (Cursor.ofString text).readTokens =
              .ok (tokenize text, finish) := by
  have hRecorded :=
    (Dialogue.start showTree showTokens).courseOf_recorded evaluator lines
      stop
  generalize hCourse :
    (Dialogue.start showTree showTokens).courseOf evaluator lines stop =
      course? at hRecorded
  cases hRecorded with
  | stuck hMember hStuck => exact absurd (hEnded _ hMember) hStuck
  | @ended course =>
      have hProceeds :
          Dialogue.Proceeds stop [] lines course.exchanges course.ending :=
        Dialogue.courseOf_proceeds .nil hCourse
      have hText := Dialogue.text_of_course hCourse
      unfold Dialogue.Course.transcript at hText
      refine ⟨course, rfl, fun _ _ _ hExchanges => ?_, ?_,
        fun text _ => ?_⟩
      · exact hProceeds.prompt_eq hExchanges
      · rcases hProceeds.ends with
          ⟨front, line, rest, hLines, hFront, hLeave, hRead, hEnding⟩ |
            ⟨hStays, hRead, hEnding⟩
        · left
          rw [hEnding] at hText
          exact ⟨front, line, rest, hLines, hFront, hLeave, hRead,
            hEnding, hText⟩
        · right
          rw [hRead, hEnding] at hText
          exact ⟨hStays, hRead, hEnding, hText⟩
      · exact ⟨_, Cursor.readTokens_eq (Cursor.isInside_ofString text)⟩

/-
  Every evaluation fails. The session goes on behind a line that
  would ask to leave if its input were not unfinished, behind
  syntax errors and behind a failure, and is left at a line with
  blanks around the word.
-/
theorem session_ends_despite_failures :
    let lines := [
      "fn() " ++ Text.openBrace,
      "quit",
      Text.closeBrace,
      "let = 5",
      "1",
      " exit ",
      "2"]
    let evaluator : Evaluator := fun _ => Eval.halt (.hostFault "")
    ∃ course,
      (Dialogue.start true false).courseOf evaluator lines .interrupt =
          some course ∧
        course.ending = .left ∧
        course.text =
          "Monkey REPL. Type 'exit' or 'quit' to leave.\n" ++
            Dialogue.shownBehind [] course.exchanges ++
            "Exiting Monkey REPL.\n" := by
  intro lines evaluator
  have hEnds :
      ∀ program heap, evaluator program heap ≠ .error .outOfDepth := by
    simp [evaluator, Eval.halt]
  have hEnded :=
    Dialogue.hasEnded_of_evaluator hEnds (Dialogue.start true false) lines
  rcases @session_ends_where_asked evaluator true false lines .interrupt
    hEnded with ⟨course, hCourse, -, hLeft | hStopped, -⟩
  · rcases hLeft with ⟨-, -, -, -, -, -, -, hEnding, hText⟩
    exact ⟨course, hCourse, hEnding, hText⟩
  · rcases hStopped with ⟨hStays, -⟩
    exact absurd ⟨by decide, by decide⟩
      (hStays (lines.take 5) " exit " ["2"] rfl)

end MonkeyLang
