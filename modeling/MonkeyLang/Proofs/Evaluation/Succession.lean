import MonkeyLang.Proofs.Evaluation.History
import MonkeyLang.Proofs.Evaluation.Lockstep
import MonkeyLang.Proofs.Parsing.Joining

/-
  Programs that are evaluated one after the other in one scope.
  As long as none of them fails or returns before the last, it
  comes to the same as evaluating their statements as a single
  program, also if that is parsed from the joined sources.

  Main declarations:
    * `Succession`
    * `evaluateSequence_append`
    * `Succession.lockstep`
    * `session_equals_script`
-/

------------------------------------------------------------
-- Successions
------------------------------------------------------------

namespace MonkeyLang

/-
  Programs that are evaluated one after the other, from a heap
  to the value of the last and to the heap behind it. The last
  statement of no other program is an error or returns.
-/
inductive Succession
    (scope : ScopeId) :
    Heap → List (List Node) → Value → Heap → Prop where
  | last {depth : Nat} {heap after : Heap} {statements : List Node}
      {value : Value}
      (hRun :
        evaluate depth scope (.program statements) heap =
          .ok (value, after)) :
      Succession scope heap [statements] value after
  | next {depth : Nat} {heap middle after : Heap}
      {statements : List Node} {rest : List (List Node)}
      {value result : Value}
      (hRun :
        evaluateSequence (applyWithin depth) scope .null statements
            heap =
          .ok (value, middle))
      (hOpen : value.endsSequence = false)
      (hRest : Succession scope middle rest result after) :
      Succession scope heap (statements :: rest) result after

------------------------------------------------------------
-- Sequences
------------------------------------------------------------

section

variable {call : Eval.Call}
variable {scope : ScopeId}

/- The value before the first statement matters only if there is none. -/
theorem evaluateSequence_congr
    {statements : List Node}
    (hStatements : statements ≠ [])
    (last other : Value) :
    evaluateSequence call scope last statements =
      evaluateSequence call scope other statements := by
  cases statements with
  | nil => exact absurd rfl hStatements
  | cons => rfl

/- Behind statements that do not end the sequence, the next follow. -/
theorem evaluateSequence_append
    {last value : Value}
    {front : List Node}
    {heap middle : Heap}
    (hRun :
      evaluateSequence call scope last front heap = .ok (value, middle))
    (hOpen : value.endsSequence = false)
    (rest : List Node) :
    evaluateSequence call scope last (front ++ rest) heap =
      evaluateSequence call scope value rest middle := by
  induction front generalizing last heap with
  | nil =>
      cases hRun
      rfl
  | cons statement front ih =>
      rw [evaluateSequence] at hRun
      rcases Eval.bind_eq_ok hRun with ⟨found, next, hFirst, hNext⟩
      rw [List.cons_append, evaluateSequence]
      simp only [Bind.bind, Eval.andThen, hFirst]
      by_cases hEnds : found.endsSequence = true
      · rw [if_pos hEnds] at hNext
        cases hNext
        rw [hOpen] at hEnds
        cases hEnds
      · rw [if_neg hEnds] at hNext ⊢
        exact ih hNext

/- A program ends as the sequence of its statements does. -/
theorem evaluateSequence_of_program
    {depth : Nat}
    {statements : List Node}
    {heap after : Heap}
    {value : Value}
    (hRun :
      evaluate depth scope (.program statements) heap =
        .ok (value, after)) :
    ∃ last,
      evaluateSequence (applyWithin depth) scope .null statements heap =
          .ok (last, after) ∧
        value = last.unwrapped := by
  rw [evaluate, evaluateWith] at hRun
  rcases Eval.bind_eq_ok hRun with ⟨last, middle, hLast, hValue⟩
  cases hValue
  exact ⟨last, hLast, rfl⟩

theorem program_of_evaluateSequence
    {depth : Nat}
    {statements : List Node}
    {heap after : Heap}
    {last : Value}
    (hRun :
      evaluateSequence (applyWithin depth) scope .null statements heap =
        .ok (last, after)) :
    evaluate depth scope (.program statements) heap =
      .ok (last.unwrapped, after) := by
  rw [evaluate, evaluateWith]
  simp only [Bind.bind, Eval.andThen, hRun]
  rfl

end

------------------------------------------------------------
-- Successions in Lockstep
------------------------------------------------------------

variable {pairing : Pairing}
variable {scope scope' : ScopeId}

/-
  If statements end, so do statements that are alike where calls
  may nest at least as deeply.
-/
theorem evaluateSequence_of_alike
    {depth deeper : Nat}
    (hDepth : depth ≤ deeper)
    {heap heap' after : Heap}
    (hMirrors : pairing.Mirrors heap heap')
    (hScope : pairing.Inside heap.scopes.size scope scope')
    {statements statements' : List Node}
    (hStatements : statements ≠ [])
    (hAlike :
      List.Forall₂ (Node.Alike pairing.marks) statements statements')
    {value : Value}
    (hRun :
      evaluateSequence (applyWithin depth) scope .null statements heap =
        .ok (value, after))
    (last : Value) :
    pairing.Outcomes True heap.scopes.size (Value.Alike pairing)
      (.ok (value, after))
      (evaluateSequence (applyWithin deeper) scope' last statements'
        heap') := by
  have hCalls :
      pairing.LockstepCalls True (applyWithin depth)
        (applyWithin deeper) :=
    applyWithin_lockstep pairing hDepth fun _ => trivial
  have hStatements' : statements' ≠ [] := by
    rintro rfl
    cases hAlike
    exact hStatements rfl
  have hOutcomes :=
    evaluateSequence_lockstep hCalls hScope .null hAlike heap heap'
      (Nat.le_refl _) hMirrors
  rwa [hRun, evaluateSequence_congr hStatements' .null last]
    at hOutcomes

/-
  A succession of programs comes to the same as any statements
  that are alike to all of theirs in a row, if calls may nest
  deeply enough: these end too, with a value that is alike.
-/
theorem Succession.lockstep
    {heap after : Heap}
    {programs : List (List Node)}
    {value : Value}
    (hSuccession : Succession scope heap programs value after)
    (hPrograms : ∀ statements ∈ programs, statements ≠ []) :
    ∃ bound, ∀ depth, bound ≤ depth → ∀ heap' statements' last,
      pairing.Mirrors heap heap' →
      pairing.Inside heap.scopes.size scope scope' →
      List.Forall₂ (Node.Alike pairing.marks) programs.flatten
        statements' →
        pairing.Outcomes True heap.scopes.size
          (fun size first second =>
            Value.Alike pairing size first second.unwrapped)
          (.ok (value, after))
          (evaluateSequence (applyWithin depth) scope' last statements'
            heap') := by
  -- The bound is that of the deepest program, whatever heap it meets.
  induction hSuccession with
  | @last depth heap after statements value hRun =>
      rcases evaluateSequence_of_program hRun with ⟨found, hFound, rfl⟩
      refine ⟨depth, fun deeper hDepth heap' statements' last hMirrors
        hScope hAlike => ?_⟩
      rw [List.flatten_singleton] at hAlike
      have hOutcomes :=
        evaluateSequence_of_alike hDepth hMirrors hScope
          (hPrograms statements (by simp)) hAlike hFound last
      rcases hOutcomes.of_ok with
        ⟨value', after', hRun', hSize, hAfter, hValue⟩
      rw [hRun']
      exact .ended hSize hAfter hValue.unwrapped
  | @next depth heap middle after statements rest value result hRun
      hOpen hRest ih =>
      rw [List.forall_mem_cons] at hPrograms
      rcases ih hPrograms.2 with ⟨bound, hBound⟩
      refine ⟨max depth bound, fun deeper hDepth heap' statements' last
        hMirrors hScope hAlike => ?_⟩
      rw [List.flatten_cons] at hAlike
      have hFront := (List.forall₂_take_append _ _ _ hAlike.flip).flip
      have hBehind := (List.forall₂_drop_append _ _ _ hAlike.flip).flip
      have hOutcomes :=
        evaluateSequence_of_alike
          (Nat.le_trans (Nat.le_max_left _ _) hDepth) hMirrors hScope
          hPrograms.1 hFront hRun last
      rcases hOutcomes.of_ok with
        ⟨value', middle', hRun', hSize, hMiddle, hValue⟩
      have hOthers :=
        hBound deeper (Nat.le_trans (Nat.le_max_right _ _) hDepth)
          middle' _ value' hMiddle (hScope.mono hSize) hBehind
      rw [hValue.endsSequence_eq] at hOpen
      rw [← List.take_append_drop statements.length statements',
        evaluateSequence_append hRun' hOpen]
      exact hOthers.grown hSize

------------------------------------------------------------
-- Joined Sources
------------------------------------------------------------

/- A source that ends with a semicolon has statements. -/
theorem statements_ne_nil_of_endsWithSemicolon
    {source : String}
    (hErrors : (parse source).errors = [])
    (hEnded : EndsWithSemicolon source) :
    (parse source).statements ≠ [] := by
  intro hNone
  have hDerived := derivable_of_errors_eq_nil hErrors
  rw [parse] at hNone
  rw [hNone] at hDerived
  rcases hEnded with ⟨token, hToken, -⟩
  generalize beforeEnd (tokenize source) = tokens at hDerived hToken
  cases hDerived
  simp at hToken

theorem statements_ne_nil
    {sources : List String}
    (hErrors : ∀ source ∈ sources, (parse source).errors = [])
    (hEnded : ∀ source ∈ sources.dropLast, EndsWithSemicolon source)
    {last : String}
    (hSource : last ∈ sources.getLast?)
    (hLast : (parse last).statements ≠ []) :
    ∀ source ∈ sources, (parse source).statements ≠ [] := by
  rw [← List.dropLast_append_getLast? last hSource,
    List.forall_mem_append, List.forall_mem_singleton]
  constructor
  · intro source hFront
    have hMember := List.dropLast_subset _ hFront
    exact statements_ne_nil_of_endsWithSemicolon
      (hErrors source hMember) (hEnded source hFront)
  · exact hLast

/-
  Some sources have no errors, all but the last end with a
  semicolon, and the last has a statement. Joined line by line
  they have no errors either, and the statements of the whole
  are those of all sources in a row. If the sources are
  evaluated one after the other and end, so does the whole in a
  copy of the scope they started in, as soon as calls may nest
  deeply enough. The last values have the same type and text,
  and so have the values of all names in the scope.
-/
theorem session_equals_script
    {sources : List String}
    (hErrors : ∀ source ∈ sources, (parse source).errors = [])
    (hEnded : ∀ source ∈ sources.dropLast, EndsWithSemicolon source)
    (hLast :
      ∃ source ∈ sources.getLast?, (parse source).statements ≠ []) :
    (parse (Text.join "\n" sources)).errors = [] ∧
      Node.sameAll (statementsOfAll sources)
        (parse (Text.join "\n" sources)).statements = true ∧
      ∀ {pairing : Pairing} {heap copy : Heap},
        pairing.Copies heap copy →
        (∀ mark mark', pairing.marks mark mark' →
          mark.literal = mark'.literal) →
        ∀ {scope scope' : ScopeId}, pairing.scopes scope scope' →
        ∀ {value : Value} {after : Heap},
          Succession scope heap
            (sources.map fun source => (parse source).statements) value
            after →
          ∃ bound, ∀ depth, bound ≤ depth →
            ∃ value' after',
              evaluate depth scope'
                  (parse (Text.join "\n" sources)).program copy =
                .ok (value', after') ∧
              value.ShownAlike value' ∧
              Scope.Matches Value.ShownAlike (after.scope scope)
                (after'.scope scope') := by
  rcases hLast with ⟨last, hSource, hStatements⟩
  have hSources : sources ≠ [] := by
    rintro rfl
    cases hSource
  have hJoinable := joinable_of_forall hSources hErrors hEnded
  rcases hJoinable.parse_join with ⟨hNoErrors, hAlike⟩
  refine ⟨hNoErrors, Node.sameAll_of_alike hAlike, ?_⟩
  intro pairing heap copy hCopies hMarks scope scope' hScope value after
    hSuccession
  have hMirrors : (hCopies.extended SameLiteral).Mirrors heap copy :=
    hCopies.mirrors hMarks
  have hPrograms :
      ∀ statements ∈
          sources.map fun source => (parse source).statements,
        statements ≠ [] := by
    simpa using statements_ne_nil hErrors hEnded hSource hStatements
  rcases hSuccession.lockstep hPrograms with ⟨bound, hBound⟩
  refine ⟨bound, fun depth hDepth => ?_⟩
  have hOutcomes :=
    hBound depth hDepth copy _ .null hMirrors (hCopies.inside hScope)
      hAlike
  rcases hOutcomes.of_ok with
    ⟨value', after', hRun, hGrown, hAfter, hValue⟩
  have hFinal := hAfter.scope ((hCopies.inside hScope).mono hGrown)
  refine ⟨value'.unwrapped, after', program_of_evaluateSequence hRun,
    hValue.shownAlike rfl, ?_⟩
  exact hFinal.matches_of fun hNamed => hNamed.shownAlike rfl

/-
  An input that uses what another defines. In the whole the
  comment behind the first ends with its line.
-/
theorem session_equals_script_increment :
    let sources := [
      "let f = fn(x) " ++ Text.braced " x + 0x1 " ++ "; # one more",
      "f(2)"]
    (∀ source ∈ sources, (parse source).errors = []) ∧
      (∀ source ∈ sources.dropLast, EndsWithSemicolon source) ∧
      ∃ bound, ∀ depth, bound ≤ depth →
        ∃ value after,
          evaluate depth Heap.globalScope
              (parse (Text.join "\n" sources)).program Heap.initial =
            .ok (value, after) ∧
          value.typeName = "INTEGER" ∧ value.text = "3" ∧
          (after.scope Heap.globalScope).names = ["f"] := by
  intro sources
  let name (text : String) (column : Int) : Node :=
    .identifier ⟨⟨text, 1, column⟩, text⟩
  let sum : Node :=
    .binary ⟨"+", 1, 19⟩ (name "x" 17) "+" (.integer ⟨"0x1", 1, 21⟩ 1)
  let body : Node :=
    .block ⟨Text.openBrace, 1, 15⟩ [.expressionStatement ⟨"x", 1, 17⟩ sum]
  let define : Node :=
    .letStatement ⟨"let", 1, 1⟩ (name "f" 5)
      (.function ⟨"fn", 1, 9⟩ [name "x" 12] body)
  let call : Node :=
    .expressionStatement ⟨"f", 1, 1⟩
      (.call ⟨"(", 1, 2⟩ (name "f" 1) [.integer ⟨"2", 1, 3⟩ 2])
  let defined : Heap :=
    Heap.initial.newFunction.2.bind Heap.globalScope (.name "f")
      (.function 0 [name "x" 12] body Heap.globalScope)
  have hErrors : ∀ source ∈ sources, (parse source).errors = [] := by
    decide +kernel
  have hEnded :
      ∀ source ∈ sources.dropLast, EndsWithSemicolon source := by
    unfold EndsWithSemicolon
    decide +kernel
  have hLast :
      ∃ source ∈ sources.getLast?, (parse source).statements ≠ [] :=
    ⟨"f(2)", rfl, nofun⟩
  have hPrograms :
      sources.map (fun source => (parse source).statements) =
        [[define], [call]] := by
    rfl
  have hFirst :
      evaluateSequence (applyWithin 0) Heap.globalScope .null [define]
          Heap.initial =
        .ok (.null, defined) := by
    rfl
  have hSecond :
      ∃ after,
        evaluate 1 Heap.globalScope (.program [call]) defined =
            .ok (.integer 3, after) ∧
          (after.scope Heap.globalScope).names = ["f"] :=
    ⟨_, rfl, rfl⟩
  rcases hSecond with ⟨after, hSecond, hNames⟩
  have hSuccession :
      Succession Heap.globalScope Heap.initial
        (sources.map fun source => (parse source).statements)
        (.integer 3) after := by
    rw [hPrograms]
    exact .next hFirst rfl (.last hSecond)
  rcases (session_equals_script hErrors hEnded hLast).2.2
    (Pairing.copies_initial Eq) (fun _ _ hSame => hSame ▸ rfl)
    ⟨rfl, rfl⟩ hSuccession with ⟨bound, hBound⟩
  refine ⟨hErrors, hEnded, bound, fun depth hDepth => ?_⟩
  rcases hBound depth hDepth with
    ⟨value, after', hRun, hValue, hScope⟩
  exact ⟨value, after', hRun, hValue.typeName.symm, hValue.text.symm,
    hScope.names.symm.trans hNames⟩

end MonkeyLang
