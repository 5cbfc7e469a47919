import MonkeyLang.Proofs.Interaction.Input
import MonkeyLang.Repl.Dialogue

/-
  The evaluations that an interactive session makes. They are
  recorded while the session goes its way; the results that it
  shows and the heap that it ends with can be told from the
  record, and so can whether it ends. The record itself can be
  told from the programs among the inputs.

  Main declarations:
    * `Session.isAside`, `programOf?`
    * `Evaluation`
    * `Session.Submitted`        (what an input can bring about)
    * `Dialogue.Answered`        (what a line can bring about)
    * `Dialogue.evaluations`     (the record)
    * `Dialogue.courseOf_recorded`
    * `Dialogue.evaluations_eq`
-/

------------------------------------------------------------
-- Programs
------------------------------------------------------------

namespace MonkeyLang

/-
  Whether a source is not evaluated: it holds nothing to run, it
  is a command that switches a display, or it has syntax errors.
-/
def Session.isAside
    (source : String) :
    Bool :=
  isIdle source || isCommand "verbose-mode" source ||
    isCommand "tokens-mode" source || !(parse source).errors.isEmpty

/- The program of a source that is evaluated. -/
def programOf?
    (source : String) :
    Option Node :=
  if Session.isAside source then
    none
  else
    some (parse source).program

/- Sources that are not evaluated can be left out. -/
theorem filterMap_programOf?
    (sources : List String) :
    sources.filterMap programOf? =
      (sources.filter fun source => !Session.isAside source).map
        fun source => (parse source).program := by
  induction sources with
  | nil => rfl
  | cons source rest ih =>
      cases hAside : Session.isAside source <;>
        simp [programOf?, hAside, ih]

------------------------------------------------------------
-- Evaluations
------------------------------------------------------------

/- The evaluation of a program: the heap it starts from, and what it comes to. -/
structure Evaluation where
  program : Node
  heap : Heap
  outcome : Except Halt (Value × Heap)

namespace Evaluation

/- The evaluation of a program from a heap. -/
def make
    (evaluator : Evaluator)
    (heap : Heap)
    (program : Node) :
    Evaluation :=
  ⟨program, heap, evaluator program heap⟩

/- An evaluation that did not call functions too deeply. -/
def HasEnded
    (evaluation : Evaluation) :
    Prop :=
  evaluation.outcome ≠ .error .outOfDepth

/- What is shown of an evaluation that has ended. -/
def notice
    (evaluation : Evaluation) :
    Notice :=
  match evaluation.outcome with
  | .ok (value, _) => .result value
  | .error halt => .halted halt

/- The heap behind an evaluation. One that halts leaves it as it was. -/
def after
    (evaluation : Evaluation) :
    Heap :=
  match evaluation.outcome with
  | .ok (_, heap) => heap
  | .error _ => evaluation.heap

end Evaluation

/- The heap behind evaluations that were made one after the other. -/
def heapBehind
    (heap : Heap)
    (evaluations : List Evaluation) :
    Heap :=
  match evaluations with
  | [] => heap
  | evaluation :: rest => heapBehind evaluation.after rest

/-
  Evaluate programs one after the other, each from the heap that
  the one before has left. One that does not end is the last.
-/
def evaluationsOf
    (evaluator : Evaluator)
    (heap : Heap)
    (programs : List Node) :
    List Evaluation :=
  match programs with
  | [] => []
  | program :: rest =>
      let evaluation := Evaluation.make evaluator heap program
      match evaluation.outcome with
      | .error .outOfDepth => [evaluation]
      | _ => evaluation :: evaluationsOf evaluator evaluation.after rest

theorem evaluationsOf_cons
    {evaluator : Evaluator}
    {heap : Heap}
    {program : Node}
    (hEnded : (Evaluation.make evaluator heap program).HasEnded)
    (rest : List Node) :
    evaluationsOf evaluator heap (program :: rest) =
      Evaluation.make evaluator heap program ::
        evaluationsOf evaluator
          (Evaluation.make evaluator heap program).after rest := by
  rw [evaluationsOf]
  split
  next hOut => exact absurd hOut hEnded
  next => rfl

theorem evaluationsOf_cons_stuck
    {evaluator : Evaluator}
    {heap : Heap}
    {program : Node}
    (hStuck : ¬ (Evaluation.make evaluator heap program).HasEnded)
    (rest : List Node) :
    evaluationsOf evaluator heap (program :: rest) =
      [Evaluation.make evaluator heap program] := by
  rw [evaluationsOf]
  split
  next => rfl
  next hEnded => exact absurd hEnded hStuck

/- Nothing else is recorded of programs than their evaluations. -/
theorem exists_make_of_mem_evaluationsOf
    {evaluator : Evaluator}
    {heap : Heap}
    {programs : List Node}
    {evaluation : Evaluation}
    (hMember : evaluation ∈ evaluationsOf evaluator heap programs) :
    ∃ before program,
      evaluation = Evaluation.make evaluator before program := by
  induction programs generalizing heap with
  | nil => simp [evaluationsOf] at hMember
  | cons program rest ih =>
      by_cases hEnded : (Evaluation.make evaluator heap program).HasEnded
      · rw [evaluationsOf_cons hEnded] at hMember
        rcases List.mem_cons.mp hMember with rfl | hRest
        · exact ⟨heap, program, rfl⟩
        · exact ih hRest
      · rw [evaluationsOf_cons_stuck hEnded, List.mem_singleton] at hMember
        exact ⟨heap, program, hMember⟩

------------------------------------------------------------
-- One Input
------------------------------------------------------------

/- Whether a notice tells what came of an evaluation. -/
def Notice.isOutcome
    (notice : Notice) :
    Bool :=
  match notice with
  | .result _ | .halted _ => true
  | _ => false

namespace Session

/-
  What an input can bring about in a session: it is not
  evaluated, and the heap stays as it is; its evaluation ends,
  which is shown behind other things; or it does not end.
-/
inductive Submitted
    (session : Session)
    (evaluator : Evaluator)
    (source : String) :
    Option (List Notice × Session) → Prop where
  | aside {notices : List Notice} {next : Session}
      (hProgram : programOf? source = none)
      (hNotices : ∀ notice ∈ notices, notice.isOutcome = false)
      (hHeap : next.heap = session.heap) :
      Submitted session evaluator source (some (notices, next))
  | ended {program : Node} {display : List Notice} {next : Session}
      (hProgram : programOf? source = some program)
      (hEnded : (Evaluation.make evaluator session.heap program).HasEnded)
      (hDisplay : ∀ notice ∈ display, notice.isOutcome = false)
      (hHeap :
        next.heap =
          (Evaluation.make evaluator session.heap program).after) :
      Submitted session evaluator source
        (some (display ++
          [(Evaluation.make evaluator session.heap program).notice], next))
  | stuck {program : Node}
      (hProgram : programOf? source = some program)
      (hStuck :
        ¬ (Evaluation.make evaluator session.heap program).HasEnded) :
      Submitted session evaluator source none

/- A program is evaluated from the heap of the session. -/
theorem run_eq
    (session : Session)
    (evaluator : Evaluator)
    (program : Node) :
    let evaluation := Evaluation.make evaluator session.heap program
    evaluation.HasEnded ∧
        session.run evaluator program =
          some ([evaluation.notice],
            { session with heap := evaluation.after }) ∨
      ¬ evaluation.HasEnded ∧ session.run evaluator program = none := by
  intro evaluation
  have hOutcome : evaluation.outcome = evaluator program session.heap := rfl
  unfold run Evaluation.HasEnded Evaluation.notice Evaluation.after
  rw [hOutcome]
  rcases evaluator program session.heap with (halt | ⟨value, heap⟩)
  · cases halt with
    | outOfDepth => exact .inr ⟨by simp, rfl⟩
    | _ => exact .inl ⟨by simp, rfl⟩
  · exact .inl ⟨by simp, rfl⟩

/- What is shown before an evaluation tells nothing of what comes of it. -/
theorem isOutcome_display
    {shown : Bool}
    {display notice : Notice}
    (hDisplay : display.isOutcome = false)
    (hNotice : notice ∈ if shown then [display] else []) :
    notice.isOutcome = false := by
  cases shown with
  | false => simp at hNotice
  | true =>
      rcases List.mem_singleton.mp hNotice with rfl
      exact hDisplay

theorem interpret_submitted
    (session : Session)
    (evaluator : Evaluator)
    {source : String}
    (hAside : isAside source = !(parse source).errors.isEmpty) :
    session.Submitted evaluator source
      (session.interpret evaluator source) := by
  have hParsed : parseTokens (tokenize source) = parse source := rfl
  unfold interpret
  dsimp only
  rw [hParsed]
  cases hErrors : (parse source).errors.isEmpty with
  | true =>
      have hProgram : programOf? source = some (parse source).program := by
        simp [programOf?, hAside, hErrors]
      rw [if_pos rfl]
      rcases session.run_eq evaluator (parse source).program with
        ⟨hEnded, hRun⟩ | ⟨hStuck, hRun⟩
      · rw [hRun]
        refine .ended hProgram hEnded ?_ rfl
        intro notice hNotice
        rcases List.mem_append.mp hNotice with hTokens | hTree
        · exact isOutcome_display (by rfl) hTokens
        · exact isOutcome_display (by rfl) hTree
      · rw [hRun]
        exact .stuck hProgram hStuck
  | false =>
      rw [if_neg (by simp)]
      refine .aside (by simp [programOf?, hAside, hErrors]) ?_ rfl
      intro notice hNotice
      rcases List.mem_append.mp hNotice with hTokens | hReport
      · exact isOutcome_display (by rfl) hTokens
      · rcases List.mem_singleton.mp hReport with rfl
        rfl

theorem submit_submitted
    (session : Session)
    (evaluator : Evaluator)
    (source : String) :
    session.Submitted evaluator source
      (session.submit evaluator source) := by
  unfold submit
  cases hIdle : isIdle source with
  | true =>
      exact .aside (by simp [programOf?, isAside, hIdle]) (by simp) rfl
  | false =>
      cases hTree : isCommand "verbose-mode" source with
      | true =>
          exact .aside (by simp [programOf?, isAside, hTree])
            (by simp [Notice.isOutcome]) rfl
      | false =>
          cases hTokens : isCommand "tokens-mode" source with
          | true =>
              exact .aside (by simp [programOf?, isAside, hTokens])
                (by simp [Notice.isOutcome]) rfl
          | false =>
              apply interpret_submitted
              simp [isAside, hIdle, hTree, hTokens]

/- The evaluation that a source asks for, if it does. -/
def evaluationFor
    (session : Session)
    (evaluator : Evaluator)
    (source : String) :
    List Evaluation :=
  ((programOf? source).map
    (Evaluation.make evaluator session.heap)).toList

end Session

------------------------------------------------------------
-- One Line
------------------------------------------------------------

namespace Dialogue

/-
  What a line can bring about: its input goes on, or it asks to
  leave, or it completes an input that is not evaluated, whose
  evaluation ends, or whose evaluation does not.
-/
inductive Answered
    (dialogue : Dialogue)
    (evaluator : Evaluator)
    (line : String) :
    Answer → Prop where
  | waits {reader : Reader}
      (hFeed : dialogue.reader.feed line = .incomplete reader) :
      Answered dialogue evaluator line
        ⟨[], .goesOn ⟨dialogue.session, reader⟩⟩
  | leaves
      (hFeed : dialogue.reader.feed line = .complete .leave) :
      Answered dialogue evaluator line ⟨[], .left⟩
  | aside {text : String} {notices : List Notice} {next : Session}
      (hFeed : dialogue.reader.feed line = .complete (.source text))
      (hProgram : programOf? text = none)
      (hNotices : ∀ notice ∈ notices, notice.isOutcome = false)
      (hHeap : next.heap = dialogue.session.heap) :
      Answered dialogue evaluator line
        ⟨notices, .goesOn ⟨next, Reader.fresh⟩⟩
  | ended {text : String} {program : Node} {display : List Notice}
      {next : Session} {evaluation : Evaluation}
      (hFeed : dialogue.reader.feed line = .complete (.source text))
      (hProgram : programOf? text = some program)
      (hMake :
        Evaluation.make evaluator dialogue.session.heap program =
          evaluation)
      (hEnded : evaluation.HasEnded)
      (hDisplay : ∀ notice ∈ display, notice.isOutcome = false)
      (hHeap : next.heap = evaluation.after) :
      Answered dialogue evaluator line
        ⟨display ++ [evaluation.notice], .goesOn ⟨next, Reader.fresh⟩⟩
  | stuck {text : String} {program : Node}
      (hFeed : dialogue.reader.feed line = .complete (.source text))
      (hProgram : programOf? text = some program)
      (hStuck :
        ¬ (Evaluation.make evaluator dialogue.session.heap
          program).HasEnded) :
      Answered dialogue evaluator line ⟨[], .stuck⟩

theorem feed_answered
    (dialogue : Dialogue)
    (evaluator : Evaluator)
    (line : String) :
    dialogue.Answered evaluator line (dialogue.feed evaluator line) := by
  unfold feed
  cases hFeed : dialogue.reader.feed line with
  | incomplete reader => exact .waits hFeed
  | complete input =>
      cases input with
      | leave => exact .leaves hFeed
      | source text =>
          have hSubmitted :=
            dialogue.session.submit_submitted evaluator text
          unfold answerTo
          dsimp only
          generalize dialogue.session.submit evaluator text = submitted
            at hSubmitted
          cases hSubmitted with
          | aside hProgram hNotices hHeap =>
              exact .aside hFeed hProgram hNotices hHeap
          | ended hProgram hEnded hDisplay hHeap =>
              exact .ended hFeed hProgram rfl hEnded hDisplay hHeap
          | stuck hProgram hStuck => exact .stuck hFeed hProgram hStuck

------------------------------------------------------------
-- All Lines
------------------------------------------------------------

/-
  The evaluations that a session makes on lines, recorded while
  it goes its way. One that does not end is the last.
-/
def evaluations
    (dialogue : Dialogue)
    (evaluator : Evaluator)
    (lines : List String) :
    List Evaluation :=
  match lines with
  | [] => []
  | line :: rest =>
      let made :=
        match dialogue.reader.feed line with
        | .complete (.source text) =>
            dialogue.session.evaluationFor evaluator text
        | _ => []
      match (dialogue.feed evaluator line).sequel with
      | .goesOn next => made ++ next.evaluations evaluator rest
      | _ => made

/- What a session shows of its evaluations. -/
def Course.outcomes
    (course : Course) :
    List Notice :=
  (course.exchanges.flatMap Exchange.notices).filter Notice.isOutcome

/-
  What a record tells of a session: if all evaluations have
  ended, what is shown of them and the last heap; if one has
  not, that the session never ends either.
-/
inductive Recorded
    (heap : Heap)
    (evaluations : List Evaluation) :
    Option Course → Prop where
  | ended {course : Course}
      (hEnded : ∀ evaluation ∈ evaluations, evaluation.HasEnded)
      (hOutcomes : course.outcomes = evaluations.map Evaluation.notice)
      (hHeap : course.session.heap = heapBehind heap evaluations) :
      Recorded heap evaluations (some course)
  | stuck {evaluation : Evaluation}
      (hMember : evaluation ∈ evaluations)
      (hStuck : ¬ evaluation.HasEnded) :
      Recorded heap evaluations none

/- An exchange without an evaluation comes before a recorded session. -/
theorem Recorded.aside
    {heap : Heap}
    {evaluations : List Evaluation}
    {course? : Option Course}
    {exchange : Exchange}
    (hRecorded : Recorded heap evaluations course?)
    (hNotices : ∀ notice ∈ exchange.notices, notice.isOutcome = false) :
    Recorded heap evaluations (course?.map fun course =>
      { course with exchanges := exchange :: course.exchanges }) := by
  cases hRecorded with
  | stuck hMember hStuck => exact .stuck hMember hStuck
  | ended hEnded hOutcomes hHeap =>
      have hNone : exchange.notices.filter Notice.isOutcome = [] := by
        simpa using hNotices
      refine .ended hEnded ?_ hHeap
      rw [← hOutcomes]
      simp [Course.outcomes, hNone]

/- So does an exchange that shows what comes of an evaluation. -/
theorem Recorded.evaluated
    {evaluation : Evaluation}
    {evaluations : List Evaluation}
    {course? : Option Course}
    {prompt line : String}
    {display : List Notice}
    (hRecorded : Recorded evaluation.after evaluations course?)
    (hEnded : evaluation.HasEnded)
    (hDisplay : ∀ notice ∈ display, notice.isOutcome = false)
    (heap : Heap) :
    Recorded heap (evaluation :: evaluations)
      (course?.map fun course =>
        { course with
          exchanges :=
            ⟨prompt, line, display ++ [evaluation.notice]⟩ ::
              course.exchanges }) := by
  cases hRecorded with
  | stuck hMember hStuck =>
      exact .stuck (List.mem_cons_of_mem _ hMember) hStuck
  | ended hAll hOutcomes hHeap =>
      have hNone : display.filter Notice.isOutcome = [] := by
        simpa using hDisplay
      have hShown : evaluation.notice.isOutcome = true := by
        unfold Evaluation.notice
        split <;> rfl
      refine .ended (List.forall_mem_cons.mpr ⟨hEnded, hAll⟩) ?_ hHeap
      rw [List.map_cons, ← hOutcomes]
      simp [Course.outcomes, hNone, hShown]

/- The course of a session is as its record tells. -/
theorem courseOf_recorded
    (dialogue : Dialogue)
    (evaluator : Evaluator)
    (lines : List String)
    (stop : Stop) :
    Recorded dialogue.session.heap (dialogue.evaluations evaluator lines)
      (dialogue.courseOf evaluator lines stop) := by
  induction lines generalizing dialogue with
  | nil => exact .ended (by simp [evaluations]) rfl rfl
  | cons line rest ih =>
      have hAnswered := dialogue.feed_answered evaluator line
      unfold evaluations courseOf
      generalize dialogue.feed evaluator line = answer at hAnswered
      cases hAnswered with
      | @waits reader hFeed =>
          rw [hFeed]
          exact (ih ⟨dialogue.session, reader⟩).aside (by simp)
      | leaves hFeed =>
          rw [hFeed]
          exact .ended (List.forall_mem_nil _) rfl rfl
      | @aside text notices next hFeed hProgram hNotices hHeap =>
          rw [hFeed]
          dsimp only [Session.evaluationFor]
          rw [hProgram, ← hHeap]
          exact (ih ⟨next, Reader.fresh⟩).aside hNotices
      | @ended text program _ next _ hFeed hProgram hMake hEnded hDisplay
          hHeap =>
          have hRest := ih ⟨next, Reader.fresh⟩
          rw [hHeap] at hRest
          rw [hFeed]
          dsimp only [Session.evaluationFor]
          rw [hProgram, Option.map_some, hMake]
          exact hRest.evaluated hEnded hDisplay _
      | stuck hFeed hProgram hStuck =>
          rw [hFeed]
          dsimp only [Session.evaluationFor]
          rw [hProgram]
          exact .stuck (by simp) hStuck

/-
  The evaluations of a session are those of the programs among
  its inputs, one after the other.
-/
theorem evaluations_eq
    (dialogue : Dialogue)
    (evaluator : Evaluator)
    (lines : List String) :
    dialogue.evaluations evaluator lines =
      evaluationsOf evaluator dialogue.session.heap
        ((dialogue.reader.sources lines).filterMap programOf?) := by
  induction lines generalizing dialogue with
  | nil => rfl
  | cons line rest ih =>
      have hAnswered := dialogue.feed_answered evaluator line
      unfold evaluations Reader.sources
      generalize dialogue.feed evaluator line = answer at hAnswered
      cases hAnswered with
      | waits hFeed =>
          rw [hFeed]
          exact ih _
      | leaves hFeed =>
          rw [hFeed]
          rfl
      | @aside text notices next hFeed hProgram hNotices hHeap =>
          rw [hFeed]
          dsimp only [Session.evaluationFor]
          rw [List.filterMap_cons_none hProgram, hProgram, ← hHeap]
          exact ih ⟨next, Reader.fresh⟩
      | @ended text program _ next _ hFeed hProgram hMake hEnded hDisplay
          hHeap =>
          have hRest := ih ⟨next, Reader.fresh⟩
          rw [hFeed]
          dsimp only [Session.evaluationFor] at hRest ⊢
          rw [← hMake] at hEnded hHeap
          rw [List.filterMap_cons_some hProgram,
            evaluationsOf_cons hEnded, hProgram, hRest, hHeap]
          rfl
      | stuck hFeed hProgram hStuck =>
          rw [hFeed]
          dsimp only [Session.evaluationFor]
          rw [List.filterMap_cons_some hProgram,
            evaluationsOf_cons_stuck hStuck, hProgram]
          rfl

/- If every program has a value or halts, all evaluations end. -/
theorem hasEnded_of_evaluator
    {evaluator : Evaluator}
    (hEnds : ∀ program heap, evaluator program heap ≠ .error .outOfDepth)
    (dialogue : Dialogue)
    (lines : List String) :
    ∀ evaluation ∈ dialogue.evaluations evaluator lines,
      evaluation.HasEnded := by
  intro evaluation hMember
  rw [evaluations_eq] at hMember
  rcases exists_make_of_mem_evaluationsOf hMember with
    ⟨heap, program, rfl⟩
  exact hEnds program heap

end Dialogue

end MonkeyLang
