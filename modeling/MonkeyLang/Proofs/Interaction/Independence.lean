import MonkeyLang.Proofs.Evaluation.Depth
import MonkeyLang.Proofs.Interaction.Transcript

/-
  What a session computes depends on its programs alone. Blank
  inputs and comments, switches of displays, inputs with syntax
  errors, the displays at the start and the way the lines stop
  do not matter for any result, nor for what names are bound to
  in the end.

  Main declarations:
    * `Evaluator.ConsistentWith`  (the same wherever both end)
    * `evaluationsOf_congr`
    * `evaluate_consistent`       (for any two depths)
    * `session_depends_on_programs`
-/

------------------------------------------------------------
-- Programs in a Row
------------------------------------------------------------

namespace MonkeyLang

/- Evaluators that come to the same wherever they both end. -/
def Evaluator.ConsistentWith
    (first second : Evaluator) :
    Prop :=
  ∀ program heap,
    first program heap ≠ .error .outOfDepth →
      second program heap ≠ .error .outOfDepth →
        first program heap = second program heap

/- The depth to which calls may nest makes evaluators no different. -/
theorem evaluate_consistent
    (depth depth' : Nat)
    (scope : ScopeId) :
    Evaluator.ConsistentWith (evaluate depth scope)
      (evaluate depth' scope) :=
  fun _ _ hFirst hSecond => evaluate_eq_of_ended hFirst hSecond

section

variable {evaluator evaluator' : Evaluator}
variable {heap : Heap}
variable {programs : List Node}

/- All programs are evaluated if each evaluation ends. -/
theorem map_program_evaluationsOf
    (hEnded :
      ∀ evaluation ∈ evaluationsOf evaluator heap programs,
        evaluation.HasEnded) :
    (evaluationsOf evaluator heap programs).map Evaluation.program =
      programs := by
  induction programs generalizing heap with
  | nil => rfl
  | cons program rest ih =>
      by_cases hFirst : (Evaluation.make evaluator heap program).HasEnded
      · rw [evaluationsOf_cons hFirst] at hEnded ⊢
        rw [List.map_cons, ih (List.forall_mem_cons.mp hEnded).2]
        rfl
      · rw [evaluationsOf_cons_stuck hFirst] at hEnded
        exact absurd (hEnded _ (List.mem_singleton_self _)) hFirst

/-
  Consistent evaluators make the same evaluations of the same
  programs, if all of them end.
-/
theorem evaluationsOf_congr
    (hConsistent : evaluator.ConsistentWith evaluator')
    (hEnded :
      ∀ evaluation ∈ evaluationsOf evaluator heap programs,
        evaluation.HasEnded)
    (hEnded' :
      ∀ evaluation ∈ evaluationsOf evaluator' heap programs,
        evaluation.HasEnded) :
    evaluationsOf evaluator heap programs =
      evaluationsOf evaluator' heap programs := by
  induction programs generalizing heap with
  | nil => rfl
  | cons program rest ih =>
      by_cases hFirst : (Evaluation.make evaluator heap program).HasEnded
      · by_cases hSecond :
          (Evaluation.make evaluator' heap program).HasEnded
        · have hSame :
              Evaluation.make evaluator heap program =
                Evaluation.make evaluator' heap program := by
            unfold Evaluation.make
            rw [hConsistent program heap hFirst hSecond]
          rw [evaluationsOf_cons hFirst, List.forall_mem_cons] at hEnded
          rw [evaluationsOf_cons hSecond, ← hSame, List.forall_mem_cons]
            at hEnded'
          rw [evaluationsOf_cons hFirst, evaluationsOf_cons hSecond,
            ← hSame, ih hEnded.2 hEnded'.2]
        · rw [evaluationsOf_cons_stuck hSecond] at hEnded'
          exact absurd (hEnded' _ (List.mem_singleton_self _)) hSecond
      · rw [evaluationsOf_cons_stuck hFirst] at hEnded
        exact absurd (hEnded _ (List.mem_singleton_self _)) hFirst

end

------------------------------------------------------------
-- Two Sessions
------------------------------------------------------------

namespace Dialogue

/- What is recorded of a session that has a course. -/
theorem record_of_course
    {dialogue : Dialogue}
    {evaluator : Evaluator}
    {lines : List String}
    {stop : Stop}
    {course : Course}
    (hCourse : dialogue.courseOf evaluator lines stop = some course) :
    let evaluations := dialogue.evaluations evaluator lines
    (∀ evaluation ∈ evaluations, evaluation.HasEnded) ∧
      course.outcomes = evaluations.map Evaluation.notice ∧
      course.session.heap = heapBehind dialogue.session.heap evaluations := by
  intro evaluations
  have hRecorded := dialogue.courseOf_recorded evaluator lines stop
  rw [hCourse] at hRecorded
  cases hRecorded with
  | ended hEnded hOutcomes hHeap => exact ⟨hEnded, hOutcomes, hHeap⟩

/-
  Sessions that start from the same heap make the same
  evaluations if the same programs are among their inputs.
-/
theorem evaluations_congr
    {dialogue dialogue' : Dialogue}
    {evaluator evaluator' : Evaluator}
    {lines lines' : List String}
    (hConsistent : evaluator.ConsistentWith evaluator')
    (hHeap : dialogue.session.heap = dialogue'.session.heap)
    (hPrograms :
      (dialogue.reader.sources lines).filterMap programOf? =
        (dialogue'.reader.sources lines').filterMap programOf?)
    (hEnded :
      ∀ evaluation ∈ dialogue.evaluations evaluator lines,
        evaluation.HasEnded)
    (hEnded' :
      ∀ evaluation ∈ dialogue'.evaluations evaluator' lines',
        evaluation.HasEnded) :
    dialogue.evaluations evaluator lines =
      dialogue'.evaluations evaluator' lines' := by
  rw [evaluations_eq] at hEnded hEnded' ⊢
  rw [evaluations_eq, ← hHeap, ← hPrograms]
  rw [← hHeap, ← hPrograms] at hEnded'
  exact evaluationsOf_congr hConsistent hEnded hEnded'

end Dialogue

/-
  Two sessions with whatever displays, all of whose evaluations
  end. If their inputs are the same but for those that are not
  evaluated, both evaluate the same programs in the same order
  and from the same heaps, show the same of them, and end with
  the same heap, thus with the same values for all names. What
  is printed are the prompts and the texts of all notices, among
  which those of the evaluations stand in their order.
-/
theorem session_depends_on_programs
    {depth depth' : Nat}
    {showTree showTokens showTree' showTokens' : Bool}
    {lines lines' : List String}
    {stop stop' : Dialogue.Stop}
    {course course' : Dialogue.Course}
    (hCourse :
      (Dialogue.start showTree showTokens).courseOf
        (evaluate depth Heap.globalScope) lines stop = some course)
    (hCourse' :
      (Dialogue.start showTree' showTokens').courseOf
        (evaluate depth' Heap.globalScope) lines' stop' = some course')
    (hSources :
      ((Reader.fresh.sources lines).filter
          fun source => !Session.isAside source) =
        (Reader.fresh.sources lines').filter
          fun source => !Session.isAside source) :
    ∃ evaluations : List Evaluation,
      (Dialogue.start showTree showTokens).evaluations
          (evaluate depth Heap.globalScope) lines = evaluations ∧
        (Dialogue.start showTree' showTokens').evaluations
          (evaluate depth' Heap.globalScope) lines' = evaluations ∧
        evaluations.map Evaluation.program =
          ((Reader.fresh.sources lines).filter
            fun source => !Session.isAside source).map
              (fun source => (parse source).program) ∧
        course.outcomes = evaluations.map Evaluation.notice ∧
        course'.outcomes = evaluations.map Evaluation.notice ∧
        course.text = course.transcript ∧
        course'.text = course'.transcript ∧
        course.session.heap = course'.session.heap := by
  rcases Dialogue.record_of_course hCourse with
    ⟨hEnded, hOutcomes, hHeap⟩
  rcases Dialogue.record_of_course hCourse' with
    ⟨hEnded', hOutcomes', hHeap'⟩
  have hPrograms :
      (Reader.fresh.sources lines).filterMap programOf? =
        (Reader.fresh.sources lines').filterMap programOf? := by
    rw [filterMap_programOf?, filterMap_programOf?, hSources]
  have hSame :
      (Dialogue.start showTree showTokens).evaluations
          (evaluate depth Heap.globalScope) lines =
        (Dialogue.start showTree' showTokens').evaluations
          (evaluate depth' Heap.globalScope) lines' :=
    Dialogue.evaluations_congr
      (evaluate_consistent depth depth' Heap.globalScope) rfl hPrograms
      hEnded hEnded'
  rw [← hSame] at hOutcomes' hHeap'
  refine ⟨_, rfl, hSame.symm, ?_, hOutcomes, hOutcomes',
    Dialogue.text_of_course hCourse, Dialogue.text_of_course hCourse', ?_⟩
  · rw [Dialogue.evaluations_eq] at hEnded ⊢
    rw [map_program_evaluationsOf hEnded]
    exact filterMap_programOf? _
  · rw [hHeap, hHeap']
    rfl

/-
  The same two programs, once on their own, and once among a
  comment, a switch, a blank line and an input of two lines with
  syntax errors.
-/
theorem session_depends_on_programs_among_others :
    let lines := ["let x = 5;", "x + 1"]
    let lines' := [
      "# x",
      "Verbose-Mode",
      "let x = 5;",
      "let = " ++ Text.openBrace,
      Text.closeBrace,
      "  ",
      "x + 1"]
    ∃ course course' : Dialogue.Course,
      (Dialogue.start false false).courseOf
          (evaluate 1 Heap.globalScope) lines .endOfInput = some course ∧
        (Dialogue.start false true).courseOf
          (evaluate 7 Heap.globalScope) lines' .interrupt = some course' ∧
        course.outcomes = course'.outcomes ∧
        course.text = course.transcript ∧
        course'.text = course'.transcript ∧
        course.session.heap = course'.session.heap := by
  intro lines lines'
  have hSources :
      ((Reader.fresh.sources lines).filter
          fun source => !Session.isAside source) =
        (Reader.fresh.sources lines').filter
          fun source => !Session.isAside source := by
    rfl
  have hSome :
      ((Dialogue.start false false).courseOf
        (evaluate 1 Heap.globalScope) lines .endOfInput).isSome = true := by
    rfl
  have hSome' :
      ((Dialogue.start false true).courseOf
        (evaluate 7 Heap.globalScope) lines' .interrupt).isSome = true := by
    rfl
  rcases Option.isSome_iff_exists.mp hSome with ⟨course, hCourse⟩
  rcases Option.isSome_iff_exists.mp hSome' with ⟨course', hCourse'⟩
  rcases session_depends_on_programs hCourse hCourse' hSources with
    ⟨evaluations, -, -, -, hOutcomes, hOutcomes', hText, hText', hHeap⟩
  exact ⟨course, course', hCourse, hCourse',
    hOutcomes.trans hOutcomes'.symm, hText, hText', hHeap⟩

end MonkeyLang
