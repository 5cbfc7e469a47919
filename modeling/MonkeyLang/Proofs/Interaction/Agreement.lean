import MonkeyLang.Proofs.Evaluation.Succession
import MonkeyLang.Proofs.Interaction.Diagnostics
import MonkeyLang.Proofs.Interaction.Transcript
import MonkeyLang.Proofs.Parsing.Trimming

/-
  A program that is typed into a new session, and the same
  program given to the command. A session trims what is typed,
  the command takes it as it is. Both agree, unless a blank that
  is trimmed would be a token: then the command has an error to
  report. Columns are counted in what each of them has read.

  Main declarations:
    * `Value.Alike.outcomeOf_eq`
    * `evaluate_initial_of_alike`
    * `Dialogue.feed_source`        (what a new session answers)
    * `Dialogue.Shows`              (what it prints of a line)
    * `CommandLine.runText_plain`   (what the command puts out)
    * `CommandLine.runText_of_alike`
    * `session_agrees_with_command`
-/

------------------------------------------------------------
-- Values That Look the Same
------------------------------------------------------------

namespace MonkeyLang

/- The command puts out the same for values that look the same. -/
theorem Value.Alike.outcomeOf_eq
    {pairing : Pairing}
    {size : Nat}
    {first second : Value}
    (hAlike : Value.Alike pairing size first second)
    (hMarks : pairing.marks = SameLiteral)
    (sections : String) :
    CommandLine.outcomeOf sections first =
      CommandLine.outcomeOf sections second := by
  have hText := (hAlike.shownAlike hMarks).text
  cases hAlike with
  | scalar | builtin => rfl
  | returned | function =>
      dsimp only [CommandLine.outcomeOf]
      rw [hText]

theorem Notice.text_result
    (value : Value) :
    (Notice.result value).text =
      if value.isNull then "" else value.text ++ "\n" :=
  rfl

/- A value that is no error is put out as a session shows it. -/
theorem outcomeOf_eq_notice
    {value : Value}
    (hValue : value.isError = false) :
    CommandLine.outcomeOf "" value =
      ⟨some 0, (Notice.result value).text, ""⟩ := by
  cases value with
  | error => cases hValue
  | null => rfl
  | _ =>
      rw [Notice.text_result, if_neg (by simp [Value.isNull])]
      dsimp only [CommandLine.outcomeOf]
      rw [String.empty_append]

/-
  Programs that are alike, evaluated from the heap at the start:
  both halt for the same cause, or have values for which the
  command puts out the same.
-/
theorem evaluate_initial_of_alike
    {program program' : Node}
    (hAlike : Node.Alike SameLiteral program program')
    (depth : Nat) :
    (∃ cause,
      evaluate depth Heap.globalScope program Heap.initial =
          .error cause ∧
        evaluate depth Heap.globalScope program' Heap.initial =
          .error cause) ∨
      ∃ value value' after after',
        evaluate depth Heap.globalScope program Heap.initial =
            .ok (value, after) ∧
          evaluate depth Heap.globalScope program' Heap.initial =
            .ok (value', after') ∧
          ∀ sections,
            CommandLine.outcomeOf sections value =
              CommandLine.outcomeOf sections value' := by
  have hCopies := Pairing.copies_initial SameLiteral
  have hLockstep :=
    hCopies.evaluate_lockstep (fun _ _ hSame => hSame) ⟨rfl, rfl⟩ hAlike
      depth
  rcases hLockstep.halted_or_ended with
    hHalted |
    ⟨value, value', after, after', hFirst, hSecond, -, -, hValue⟩
  · exact .inl hHalted
  · exact .inr ⟨value, value', after, after', hFirst, hSecond,
      hValue.outcomeOf_eq rfl⟩

------------------------------------------------------------
-- A New Session and the Command
------------------------------------------------------------

/- A line that is an input of its own is trimmed. -/
theorem Reader.text_of_feed_fresh
    {line text : String}
    (hFeed : Reader.fresh.feed line = .complete (.source text)) :
    text = Text.trim line := by
  have hFed := Reader.feed_after .nil line
  rw [Reader.after_nil, hFeed] at hFed
  cases hFed
  rfl

/- A line that completes an input is answered as the input is. -/
theorem Dialogue.feed_of_complete
    {dialogue : Dialogue}
    {line : String}
    {input : Input}
    (hFeed : dialogue.reader.feed line = .complete input)
    (evaluator : Evaluator) :
    dialogue.feed evaluator line = dialogue.answerTo evaluator input := by
  unfold feed
  rw [hFeed]

/-
  A new session reports the errors of a source, or shows what
  comes of evaluating it.
-/
theorem Dialogue.feed_source
    {evaluator : Evaluator}
    {line text : String}
    (hFeed : Reader.fresh.feed line = .complete (.source text))
    (hIdle : Session.isIdle text = false)
    (hTree : Session.isCommand "verbose-mode" text = false)
    (hTokens : Session.isCommand "tokens-mode" text = false) :
    ((parse text).errors ≠ [] →
      ((Dialogue.start false false).feed evaluator line).notices =
        [.syntaxErrors (parse text).errors]) ∧
      ((parse text).errors = [] →
        (∀ value after,
          evaluator (parse text).program Heap.initial =
              .ok (value, after) →
            ((Dialogue.start false false).feed evaluator line).notices =
              [.result value])) := by
  have hSubmit :
      (Session.start false false).submit evaluator text =
        (Session.start false false).interpret evaluator text := by
    simp [Session.submit, hIdle, hTree, hTokens]
  have hParsed : parseTokens (tokenize text) = parse text := rfl
  have hAnswer :=
    @feed_of_complete (start false false) line _ hFeed evaluator
  rw [hAnswer]
  unfold answerTo start
  dsimp only
  rw [hSubmit]
  unfold Session.interpret
  dsimp only
  rw [hParsed]
  constructor
  · intro hErrors
    rw [if_neg (by simpa using hErrors)]
    rfl
  · intro hErrors value after hValue
    have hRun :
        (Session.start false false).run evaluator (parse text).program =
          some ([.result value], ⟨after, false, false⟩) := by
      unfold Session.run
      rw [show (Session.start false false).heap = Heap.initial from rfl,
        hValue]
      rfl
    rw [if_pos (by simp [hErrors]), hRun]
    rfl

/-
  A line that is typed alone into a new session without displays
  makes it show a text, between one prompt and the next.
-/
def Dialogue.Shows
    (evaluator : Evaluator)
    (line shown : String) :
    Prop :=
  ∀ stop, ∃ course,
    (start false false).courseOf evaluator [line] stop = some course ∧
      course.text =
        "Monkey REPL. Type 'exit' or 'quit' to leave.\n" ++
          (">> " ++ shown ++ (">> " ++ "\nExiting Monkey REPL.\n"))

section

variable {evaluator : Evaluator}
variable {line text : String}
variable {notice : Notice}

/- A session that answers by a notice waits for the next input. -/
theorem Dialogue.feed_of_notice
    (hFeed : Reader.fresh.feed line = .complete (.source text))
    (hNotice :
      ((start false false).feed evaluator line).notices = [notice]) :
    ∃ session,
      (start false false).feed evaluator line =
        ⟨[notice], .goesOn ⟨session, Reader.fresh⟩⟩ := by
  have hAnswer :=
    @feed_of_complete (start false false) line _ hFeed evaluator
  rw [hAnswer] at hNotice ⊢
  unfold answerTo at hNotice ⊢
  dsimp only at hNotice ⊢
  split at hNotice
  next notices session hSubmit =>
    rcases hNotice with rfl
    exact ⟨session, rfl⟩
  next => cases hNotice

/- If a line is answered by a notice, that is what it shows. -/
theorem Dialogue.shows_of_notice
    (hFeed : Reader.fresh.feed line = .complete (.source text))
    (hNotice :
      ((start false false).feed evaluator line).notices = [notice]) :
    Shows evaluator line notice.text := by
  intro stop
  rcases feed_of_notice hFeed hNotice with ⟨session, hAnswer⟩
  have hCourse :
      (start false false).courseOf evaluator [line] stop =
        some ⟨[⟨">> ", line, [notice]⟩], .stopped ">> " stop, session⟩ := by
    unfold courseOf
    rw [hAnswer]
    rfl
  refine ⟨_, hCourse, ?_⟩
  cases stop <;> simp [Course.text, Exchange.text, Ending.text] <;> rfl

end

/- Without any display, the command reports errors or evaluates. -/
theorem CommandLine.runText_plain
    (evaluator : Evaluator)
    (source : String) :
    ((parse source).errors ≠ [] →
      runText evaluator ⟨false, false, false⟩ source =
        .ok ⟨some 1, "", syntaxErrorsText (parse source).errors⟩) ∧
      ((parse source).errors = [] →
        runText evaluator ⟨false, false, false⟩ source =
          match evaluator (parse source).program Heap.initial with
          | .ok (value, _) => .ok (outcomeOf "" value)
          | .error halt => .error (.halted halt)) := by
  refine ⟨runText_of_errors evaluator ⟨false, false, false⟩,
    fun hErrors => ?_⟩
  have hRun :=
    runText_of_no_errors evaluator ⟨false, false, false⟩ hErrors
  rw [diagnostics_nothing] at hRun
  exact hRun

------------------------------------------------------------
-- The Same Program
------------------------------------------------------------

/-
  Of a source without errors the command puts out what comes of
  evaluating any program that is alike.
-/
theorem CommandLine.runText_of_alike
    {source : String}
    {program : Node}
    (hErrors : (parse source).errors = [])
    (hAlike : Node.Alike SameLiteral program (parse source).program)
    (depth : Nat) :
    let evaluator := evaluate depth Heap.globalScope
    let outcome := runText evaluator ⟨false, false, false⟩ source
    (∃ cause,
      evaluator program Heap.initial = .error cause ∧
        outcome = .error (.halted cause)) ∨
      ∃ value after,
        evaluator program Heap.initial = .ok (value, after) ∧
          outcome = .ok (outcomeOf "" value) := by
  intro evaluator outcome
  have hOutcome := (runText_plain evaluator source).2 hErrors
  rcases evaluate_initial_of_alike hAlike depth with
    ⟨cause, hFirst, hSecond⟩ |
      ⟨value, value', after, after', hFirst, hSecond, hSame⟩
  · rw [show evaluator (parse source).program Heap.initial =
      .error cause from hSecond] at hOutcome
    exact .inl ⟨cause, hFirst, hOutcome⟩
  · rw [show evaluator (parse source).program Heap.initial =
      .ok (value', after') from hSecond] at hOutcome
    refine .inr ⟨value, after, hFirst, ?_⟩
    rw [hSame]
    exact hOutcome

/- A new session evaluates what it has read, if that has no errors. -/
theorem Dialogue.evaluations_of_source
    {evaluator : Evaluator}
    {line text : String}
    (hFeed : Reader.fresh.feed line = .complete (.source text))
    (hIdle : Session.isIdle text = false)
    (hTree : Session.isCommand "verbose-mode" text = false)
    (hTokens : Session.isCommand "tokens-mode" text = false)
    (hErrors : (parse text).errors = []) :
    (Dialogue.start false false).evaluations evaluator [line] =
      [Evaluation.make evaluator Heap.initial (parse text).program] := by
  have hSources : Reader.fresh.sources [line] = [text] := by
    rw [Reader.sources, hFeed]
    rfl
  have hProgram : programOf? text = some (parse text).program := by
    simp [programOf?, Session.isAside, hIdle, hTree, hTokens, hErrors]
  rw [evaluations_eq]
  dsimp only [start, Session.start]
  rw [hSources, List.filterMap_cons_some hProgram, List.filterMap_nil,
    evaluationsOf]
  split <;> rfl

/-
  A line that is an input of its own, neither idle nor a switch,
  is typed into a new session and given to the command.

  If a blank at an end of the line is a token, the command
  reports errors; the session has trimmed the blank. Otherwise
  both report the same errors, each in its own columns; or there
  are none, both evaluate the same program, and unless that
  halts, the command puts out what the session shows between two
  prompts, apart from errors.
-/
theorem session_agrees_with_command
    {depth : Nat}
    {line text : String}
    (hLine : '\n' ∉ line.toList)
    (hFeed : Reader.fresh.feed line = .complete (.source text))
    (hIdle : Session.isIdle text = false)
    (hTree : Session.isCommand "verbose-mode" text = false)
    (hTokens : Session.isCommand "tokens-mode" text = false) :
    let evaluator := evaluate depth Heap.globalScope
    let shown := ((Dialogue.start false false).feed evaluator line).notices
    let outcome :=
      CommandLine.runText evaluator ⟨false, false, false⟩ line
    (HasStrayEnd line →
      (parse line).errors ≠ [] ∧
        outcome =
          .ok ⟨some 1, "", syntaxErrorsText (parse line).errors⟩) ∧
      (¬ HasStrayEnd line →
        (∃ errors,
          errors ≠ [] ∧ shown = [.syntaxErrors errors] ∧
            Dialogue.Shows evaluator line (syntaxErrorsText errors) ∧
            outcome =
              .ok ⟨some 1, "",
                syntaxErrorsText
                  (errors.map (.movedTo (columnTyped line)))⟩) ∨
          (parse text).errors = [] ∧ (parse line).errors = [] ∧
            Node.Alike SameLiteral (parse text).program
              (parse line).program ∧
            (Dialogue.start false false).evaluations evaluator [line] =
              [Evaluation.make evaluator Heap.initial
                (parse text).program] ∧
            ((∃ cause,
              evaluator (parse text).program Heap.initial =
                  .error cause ∧
                outcome = .error (.halted cause)) ∨
              ∃ value,
                shown = [.result value] ∧
                  Dialogue.Shows evaluator line
                    (Notice.result value).text ∧
                  outcome = .ok (CommandLine.outcomeOf "" value) ∧
                  (value.isError = false →
                    outcome =
                      .ok ⟨some 0, (Notice.result value).text, ""⟩))) := by
  intro evaluator shown outcome
  have hText := Reader.text_of_feed_fresh hFeed
  have hSession :=
    @Dialogue.feed_source evaluator line text hFeed hIdle hTree hTokens
  have hCommand := CommandLine.runText_plain evaluator line
  refine ⟨fun hStray => ?_, fun hEnds => ?_⟩
  · have hErrors := errors_ne_nil_of_hasStrayEnd hStray
    exact ⟨hErrors, hCommand.1 hErrors⟩
  · rcases parse_trim hLine hEnds with ⟨hMoved, hProgram⟩
    rw [← hText] at hMoved hProgram
    by_cases hErrors : (parse text).errors = []
    · right
      have hNone : (parse line).errors = [] := by
        rw [hMoved, hErrors]
        rfl
      have hAlike := hProgram hErrors
      have hEvaluations :=
        @Dialogue.evaluations_of_source evaluator line text hFeed hIdle
          hTree hTokens hErrors
      refine ⟨hErrors, hNone, hAlike, hEvaluations, ?_⟩
      rcases CommandLine.runText_of_alike hNone hAlike depth with
        hHalted | ⟨value, after, hValue, hOutcome⟩
      · exact .inl hHalted
      · have hShown := hSession.2 hErrors value after hValue
        have hPrinted := Dialogue.shows_of_notice hFeed hShown
        refine .inr ⟨value, hShown, hPrinted, hOutcome,
          fun hClean => ?_⟩
        rw [← outcomeOf_eq_notice hClean]
        exact hOutcome
    · left
      have hSome : (parse line).errors ≠ [] := by
        rw [hMoved]
        simpa using hErrors
      have hShown := hSession.1 hErrors
      have hPrinted := Dialogue.shows_of_notice hFeed hShown
      refine ⟨_, hErrors, hShown, hPrinted, ?_⟩
      rw [← hMoved]
      exact hCommand.1 hSome

/- A line with blanks at both ends, one of them inside of a comment. -/
theorem session_agrees_with_command_comment :
    ¬ HasStrayEnd " 7 #\u00a0" ∧
      ((Dialogue.start false false).feed
          (evaluate 0 Heap.globalScope) " 7 #\u00a0").notices =
        [.result (.integer 7)] ∧
      CommandLine.runText (evaluate 0 Heap.globalScope)
          ⟨false, false, false⟩ " 7 #\u00a0" =
        .ok ⟨some 0, (Notice.result (.integer 7)).text, ""⟩ ∧
      Dialogue.Shows (evaluate 0 Heap.globalScope) " 7 #\u00a0"
        (Notice.result (.integer 7)).text := by
  have hLine : '\n' ∉ " 7 #\u00a0".toList := by decide
  have hEnds : ¬ HasStrayEnd " 7 #\u00a0" := by decide
  have hFeed :
      Reader.fresh.feed " 7 #\u00a0" =
        .complete (.source "7 #") := by
    rfl
  have hShown :
      ((Dialogue.start false false).feed
          (evaluate 0 Heap.globalScope) " 7 #\u00a0").notices =
        [.result (.integer 7)] := by
    rfl
  rcases (@session_agrees_with_command 0 _ _ hLine hFeed (by decide)
    (by decide) (by decide)).2 hEnds with
      ⟨errors, -, hErrors, -⟩ | ⟨-, -, -, -, hHalted | hEnded⟩
  · rw [hShown] at hErrors
    cases hErrors
  · rcases hHalted with ⟨cause, hCause, -⟩
    cases hCause
  · rcases hEnded with ⟨value, hValue, hTyped, -, hOutcome⟩
    rw [hShown] at hValue
    cases hValue
    exact ⟨hEnds, hShown, hOutcome rfl, hTyped⟩

/-
  Two lines for which a session and the command differ. For the
  first both report an error, in the fifth column of what the
  session has read, and in the seventh of the line itself. From
  the second a session trims a blank that is a token: it shows a
  value, and the command reports an error.
-/
theorem session_differs_from_command :
    ((Dialogue.start false false).feed
        (evaluate 0 Heap.globalScope) "  let 5").notices =
      [.syntaxErrors [⟨.unexpected .ident .int, 1, 5⟩]] ∧
    CommandLine.runText (evaluate 0 Heap.globalScope)
        ⟨false, false, false⟩ "  let 5" =
      .ok ⟨some 1, "",
        syntaxErrorsText [⟨.unexpected .ident .int, 1, 7⟩]⟩ ∧
    ((Dialogue.start false false).feed
        (evaluate 0 Heap.globalScope) "\u00a05").notices =
      [.result (.integer 5)] ∧
    CommandLine.runText (evaluate 0 Heap.globalScope)
        ⟨false, false, false⟩ "\u00a05" =
      .ok ⟨some 1, "",
        syntaxErrorsText [⟨.startsNoExpression .illegal, 1, 1⟩]⟩ := by
  refine ⟨?_, ?_, ?_, ?_⟩ <;> rfl

end MonkeyLang
