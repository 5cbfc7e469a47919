import Mathlib.Data.Finset.Dedup
import Mathlib.Data.Fintype.EquivFin
import MonkeyLang.Proofs.Parsing.EarliestError

/-
  What stands behind the first end of input. A program is over
  there. But if the input ends inside an expression or a block,
  that is an error like others, and whoever goes on after it
  steps over the end: then the tokens behind it are read too.

  Two runs are compared, one on the tokens up to the first end
  of input and one on these and others. They do the same as long
  as they are in front of the end.

  Main declarations:
    * `SyntaxError.EndsInside`   (the input ended too early)
    * `ParserState.Twins`        (the same tokens up to the end)
    * `Parse.Accords`            (the same run, or past the end)
    * `Parse.accords`            (every routine, wherever it is)
    * `parseTokens_ignores_behind_end_iff`
-/

------------------------------------------------------------
-- Ends of Input
------------------------------------------------------------

namespace MonkeyLang

/-
  An error that is reported while an end of input is the
  current token.
-/
def SyntaxError.EndsInside
    (error : SyntaxError) :
    Prop :=
  error.cause = .startsNoExpression .eof ∨ error.cause = .unclosedBlock

/-
  Two states with the same tokens in front of the same end of
  input. One has nothing behind it, and the other has the rest.
  So far the input has not ended inside anything.
-/
structure ParserState.Twins
    (ending : Token)
    (rest front : List Token)
    (short long : ParserState) :
    Prop where
  short_ahead : short.ahead = front ++ [ending]
  long_ahead : long.ahead = front ++ ending :: rest
  first : ∀ token ∈ front, token.kind ≠ .eof
  errors : long.errors = short.errors
  inside : ∀ error ∈ short.errors, ¬ error.EndsInside

variable {ending : Token} {rest front : List Token}
variable {short long : ParserState}

namespace ParserState.Twins

theorem current
    (hTwins : Twins ending rest front short long) :
    long.current = short.current := by
  unfold ParserState.current
  rw [hTwins.long_ahead, hTwins.short_ahead]
  cases front <;> rfl

theorem next
    (hTwins : Twins ending rest front short long)
    (hFront : front ≠ []) :
    Twins ending rest front.tail short.next long.next where
  short_ahead := by
    rw [ahead_next, hTwins.short_ahead, List.tail_append_of_ne_nil hFront]
  long_ahead := by
    rw [ahead_next, hTwins.long_ahead, List.tail_append_of_ne_nil hFront]
  first := fun token hToken =>
    hTwins.first token (List.mem_of_mem_tail hToken)
  errors := hTwins.errors
  inside := hTwins.inside

theorem upcoming
    (hTwins : Twins ending rest front short long)
    (hFront : front ≠ []) :
    long.upcoming = short.upcoming :=
  (hTwins.next hFront).current

theorem report
    (hTwins : Twins ending rest front short long)
    {error : SyntaxError}
    (hInside : ¬ error.EndsInside) :
    Twins ending rest front (short.report error)
      (long.report error) where
  short_ahead := hTwins.short_ahead
  long_ahead := hTwins.long_ahead
  first := hTwins.first
  errors := congrArg (· ++ [error]) hTwins.errors
  inside := by
    intro found hFound
    rcases List.mem_append.mp hFound with hBefore | hLast
    · exact hTwins.inside found hBefore
    · rw [List.mem_singleton.mp hLast]
      exact hInside

/- At the end itself there is no token in front of it any more. -/
theorem front_ne_nil
    (hTwins : Twins ending rest front short long)
    (hEnding : ending.kind = .eof)
    (hKind : short.current.kind ≠ .eof) :
    front ≠ [] := by
  rintro rfl
  rw [current_of_ahead hTwins.short_ahead] at hKind
  exact hKind hEnding

theorem kind_ne_eof
    (hTwins : Twins ending rest front short long)
    (hFront : front ≠ []) :
    short.current.kind ≠ .eof := by
  rcases front with _ | ⟨token, others⟩
  · exact absurd rfl hFront
  · rw [current_of_ahead hTwins.short_ahead]
    exact hTwins.first token List.mem_cons_self

theorem kind_of_nil
    (hTwins : Twins ending rest [] short long)
    (hEnding : ending.kind = .eof) :
    short.current.kind = .eof := by
  rw [current_of_ahead hTwins.short_ahead, hEnding]

end ParserState.Twins

------------------------------------------------------------
-- Runs That Accord
------------------------------------------------------------

namespace Parse

/-
  On twins a routine does the same, and so many tokens at least
  are left in front of the end.
-/
def Parallel
    (ending : Token)
    (rest : List Token)
    (least : Nat)
    (routine : Parse α)
    (short long : ParserState) :
    Prop :=
  (routine long).1 = (routine short).1 ∧
    ∃ front,
      ParserState.Twins ending rest front (routine short).2
          (routine long).2 ∧
        least ≤ front.length

/-
  The input has ended inside something. Where more is behind the
  end the routine fails as well, and leaves it to others to step
  over the end; or that has been done, and what was found there
  has been complained about.
-/
structure RunsOut
    (ending : Token)
    (rest : List Token)
    (routine : Parse α)
    (short long : ParserState) :
    Prop where
  ended : ∃ error ∈ (routine short).2.errors, error.EndsInside
  resumed :
    ∀ stray others,
      rest = stray :: others →
        stray.kind = .rparen →
          ((routine long).1 = none ∧
            (routine long).2.ahead = ending :: rest) ∨
          SyntaxError.about stray (.startsNoExpression .rparen) ∈
            (routine long).2.errors

/- On twins a routine does the same, unless the input runs out. -/
def Accords
    (ending : Token)
    (rest : List Token)
    (least : Nat)
    (routine : Parse α)
    (short long : ParserState) :
    Prop :=
  Parallel ending rest least routine short long ∨
    RunsOut ending rest routine short long

/- Behind a routine there are no more tokens in front of the end. -/
theorem length_le_of_twins
    {routine : Parse α}
    [Forward routine]
    {inner : List Token}
    {last : ParserState}
    (hTwins : ParserState.Twins ending rest front short long)
    (hInner :
      ParserState.Twins ending rest inner (routine short).2 last) :
    inner.length ≤ front.length := by
  have hFewer := (leads routine short).length_ahead_le
  rw [hInner.short_ahead, hTwins.short_ahead, List.length_append,
    List.length_append] at hFewer
  exact Nat.le_of_add_le_add_right hFewer

/- What has been reported stays so. -/
theorem mem_errors_bind
    {routine : Parse α}
    {following : α → Parse β}
    [∀ value, Forward (following value)]
    {state : ParserState}
    {error : SyntaxError}
    (hError : error ∈ (routine state).2.errors) :
    error ∈ ((routine >>= following) state).2.errors := by
  rw [bind_apply]
  split
  next value middle hRun =>
    rw [hRun] at hError
    exact (leads (following value) middle).errors.subset hError
  next middle hRun =>
    rw [hRun] at hError
    exact hError

theorem RunsOut.bind
    {routine : Parse α}
    {following : α → Parse β}
    [∀ value, Forward (following value)]
    (hOut : RunsOut ending rest routine short long) :
    RunsOut ending rest (routine >>= following) short long where
  ended := by
    rcases hOut.ended with ⟨error, hError, hInside⟩
    exact ⟨error, mem_errors_bind hError, hInside⟩
  resumed := by
    intro stray others hRest hKind
    rcases hOut.resumed stray others hRest hKind with
      ⟨hNone, hAhead⟩ | hError
    · rcases hRun : routine long with ⟨value?, last⟩
      rw [hRun] at hNone hAhead
      cases hNone
      rw [bind_apply, hRun]
      exact .inl ⟨rfl, hAhead⟩
    · exact .inr (mem_errors_bind hError)

namespace Accords

variable {least : Nat}

theorem pure
    (value : α)
    (hTwins : ParserState.Twins ending rest front short long)
    (hFront : front ≠ []) :
    Accords ending rest 1 (Pure.pure value : Parse α) short long :=
  .inl ⟨rfl, front, hTwins, List.length_pos_iff.mpr hFront⟩

/- An error that does not come from the end of the input. -/
theorem fail
    {token : Token}
    {cause : SyntaxError.Cause}
    (hTwins : ParserState.Twins ending rest front short long)
    (hFront : front ≠ [])
    (hInside : ¬ (SyntaxError.about token cause).EndsInside) :
    Accords ending rest 1 (Parse.fail token cause : Parse α) short
      long :=
  .inl
    ⟨rfl, front, hTwins.report hInside, List.length_pos_iff.mpr hFront⟩

/- An error at the end of the input. -/
theorem fail_at_end
    {cause : SyntaxError.Cause}
    (hTwins : ParserState.Twins ending rest [] short long)
    (token : Token)
    (hInside : (SyntaxError.about token cause).EndsInside) :
    Accords ending rest least (Parse.fail token cause : Parse α) short
      long :=
  .inr
    { ended := ⟨_, List.mem_append_right _ List.mem_cons_self, hInside⟩
      resumed := fun _ _ _ _ => .inl ⟨rfl, hTwins.long_ahead⟩ }

/- Runs that are the same as two others. -/
theorem congr
    {routine other : Parse α}
    {first second : ParserState}
    (hAccords : Accords ending rest least other first second)
    (hShort : routine short = other first)
    (hLong : routine long = other second) :
    Accords ending rest least routine short long := by
  rcases hAccords with hParallel | hOut
  · refine .inl ?_
    unfold Parallel at *
    rwa [hShort, hLong]
  · refine .inr ⟨?_, ?_⟩
    · rw [hShort]
      exact hOut.ended
    · rw [hLong]
      exact hOut.resumed

theorem current_bind
    {following : Token → Parse α}
    (hTwins : ParserState.Twins ending rest front short long)
    (hAccords :
      Accords ending rest least (following short.current) short long) :
    Accords ending rest least (current >>= following) short long := by
  refine hAccords.congr rfl ?_
  rw [Parse.current_bind, hTwins.current]

theorem upcoming_bind
    {following : Token → Parse α}
    (hTwins : ParserState.Twins ending rest front short long)
    (hFront : front ≠ [])
    (hAccords :
      Accords ending rest least (following short.upcoming) short long) :
    Accords ending rest least (upcoming >>= following) short long := by
  refine hAccords.congr rfl ?_
  rw [Parse.upcoming_bind, hTwins.upcoming hFront]

theorem step_bind
    {following : Unit → Parse α}
    (hAccords :
      Accords ending rest least (following ()) short.next long.next) :
    Accords ending rest least (step >>= following) short long :=
  hAccords.congr rfl rfl

/-
  One routine, and then another, on the tokens that the first
  one leaves in front of the end.
-/
theorem bind
    {routine : Parse α}
    {following : α → Parse β}
    [Forward routine]
    [∀ value, Forward (following value)]
    (hFirst : Accords ending rest 1 routine short long)
    (hTwins : ParserState.Twins ending rest front short long)
    (hNext :
      ∀ value inner first second,
        ParserState.Twins ending rest inner first second →
          inner ≠ [] → inner.length ≤ front.length →
            Accords ending rest 1 (following value) first second) :
    Accords ending rest 1 (routine >>= following) short long := by
  rcases hFirst with ⟨hSame, inner, hInner, hLeast⟩ | hOut
  · have hFewer := length_le_of_twins hTwins hInner
    rcases hShort : routine short with ⟨value?, first⟩
    rcases hLong : routine long with ⟨other?, second⟩
    rw [hShort, hLong] at hSame hInner
    dsimp only at hSame hInner
    subst hSame
    cases other? with
    | none =>
        have hFails :
            Accords ending rest 1 (failure : Parse β) first second :=
          .inl ⟨rfl, inner, hInner, hLeast⟩
        refine hFails.congr ?_ ?_
        · rw [bind_apply, hShort]
          rfl
        · rw [bind_apply, hLong]
          rfl
    | some value =>
        have hFollowing :=
          hNext value inner first second hInner
            (List.ne_nil_of_length_pos hLeast) hFewer
        refine hFollowing.congr ?_ ?_
        · rw [bind_apply, hShort]
        · rw [bind_apply, hLong]
  · exact .inr hOut.bind

/- What is built from the result changes nothing. -/
theorem map
    {routine : Parse α}
    [Forward routine]
    (build : α → β)
    (hTwins : ParserState.Twins ending rest front short long)
    (hAccords : Accords ending rest 1 routine short long) :
    Accords ending rest 1
      (routine >>= fun value => Pure.pure (build value)) short long :=
  hAccords.bind hTwins fun _ _ _ _ hInner hSome _ =>
    .pure _ hInner hSome

/- What is wanted is a token in front of the end. -/
theorem expect_bind
    {kind : TokenKind}
    {following : Unit → Parse α}
    (hKind : kind ≠ .eof)
    (hEnding : ending.kind = .eof)
    (hTwins : ParserState.Twins ending rest front short long)
    (hFront : front ≠ [])
    (hNext :
      ParserState.Twins ending rest front.tail short.next long.next →
        front.tail ≠ [] →
          Accords ending rest 1 (following ()) short.next long.next) :
    Accords ending rest 1 (expect kind >>= following) short long := by
  have hAfter := hTwins.next hFront
  have hUpcoming := hTwins.upcoming hFront
  by_cases hFound : short.upcoming.kind = kind
  · have hBehind : front.tail ≠ [] :=
      hAfter.front_ne_nil hEnding (hFound ▸ hKind)
    refine (hNext hAfter hBehind).congr ?_ ?_
    · rw [bind_apply, expect_apply, if_pos hFound]
    · rw [bind_apply, expect_apply, hUpcoming, if_pos hFound]
  · have hFails :
        Accords ending rest 1
          (Parse.fail short.upcoming
            (.unexpected kind short.upcoming.kind) : Parse α)
          short long :=
      .fail hTwins hFront
        (by simp [SyntaxError.EndsInside, SyntaxError.about])
    refine hFails.congr ?_ ?_
    · rw [bind_apply, expect_apply, if_neg hFound]
      rfl
    · rw [bind_apply, expect_apply, hUpcoming, if_neg hFound]
      rfl

theorem branch
    {kind : TokenKind}
    {first second : Parse α}
    (hKind : kind ≠ .eof)
    (hEnding : ending.kind = .eof)
    (hTwins : ParserState.Twins ending rest front short long)
    (hFront : front ≠ [])
    (hFirst :
      ParserState.Twins ending rest front.tail short.next long.next →
        front.tail ≠ [] → Accords ending rest 1 first short long)
    (hSecond : Accords ending rest 1 second short long) :
    Accords ending rest 1
      (upcomingIs kind >>= fun found =>
        if found = true then first else second)
      short long := by
  change
    Accords ending rest 1
      (Parse.upcoming >>= fun token =>
        if decide (token.kind = kind) = true then first else second)
      short long
  refine .upcoming_bind hTwins hFront ?_
  by_cases hFound : short.upcoming.kind = kind
  · rw [if_pos (decide_eq_true hFound)]
    have hAfter := hTwins.next hFront
    exact hFirst hAfter (hAfter.front_ne_nil hEnding (hFound ▸ hKind))
  · rw [if_neg (by simpa using hFound)]
    exact hSecond

/- A semicolon stands in front of the end, or is left where it is. -/
theorem terminated
    {routine : Parse α}
    (hEnding : ending.kind = .eof)
    (hAccords : Accords ending rest 1 routine short long) :
    Accords ending rest 1 (Parse.terminated routine) short long := by
  rcases hAccords with ⟨hSame, inner, hInner, hLeast⟩ | ⟨hEnded, hResumed⟩
  · refine .inl ?_
    unfold Parallel
    rw [terminated_apply, terminated_apply]
    refine ⟨hSame, ?_⟩
    unfold ParserState.pastSemicolon
    have hSome := List.ne_nil_of_length_pos hLeast
    rw [hInner.upcoming hSome]
    split
    next hKind =>
      have hAfter := hInner.next hSome
      refine ⟨inner.tail, hAfter, List.length_pos_iff.mpr ?_⟩
      exact hAfter.front_ne_nil hEnding (by simp [hKind])
    next => exact ⟨inner, hInner, hLeast⟩
  · have hErrors :
        ∀ state : ParserState,
          (Parse.terminated routine state).2.errors =
            (routine state).2.errors := by
      intro state
      rw [terminated_apply, ParserState.errors_pastSemicolon]
    refine .inr ⟨by rwa [hErrors], ?_⟩
    intro stray others hRest hKind
    rcases hResumed stray others hRest hKind with
      ⟨hNone, hAhead⟩ | hError
    · have hNext : (routine long).2.upcoming.kind ≠ .semicolon := by
        simp [ParserState.upcoming, hAhead, hRest, hKind]
      rw [terminated_apply, ParserState.pastSemicolon, if_neg hNext]
      exact .inl ⟨hNone, hAhead⟩
    · rw [hErrors]
      exact .inr hError

end Accords

------------------------------------------------------------
-- Expressions
------------------------------------------------------------

/- On all twins with these tokens, an expression is the same. -/
def AccordsExpression
    (ending : Token)
    (rest front : List Token) :
    Prop :=
  ∀ short long,
    ParserState.Twins ending rest front short long →
      ∀ precedence,
        Accords ending rest 1 (expression precedence) short long

/- So is a statement. -/
def AccordsStatement
    (ending : Token)
    (rest front : List Token) :
    Prop :=
  ∀ short long,
    ParserState.Twins ending rest front short long →
      Accords ending rest 1 statement short long

theorem length_tail_lt
    {front : List Token}
    (hFront : front ≠ []) :
    front.tail.length < front.length := by
  have hSome := List.length_pos_iff.mpr hFront
  rw [List.length_tail]
  omega

section

variable (hTwins : ParserState.Twins ending rest front short long)
variable (hFront : front ≠ [])

include hTwins hFront

theorem integerLiteral_accords :
    Accords ending rest 1 integerLiteral short long := by
  refine .current_bind hTwins ?_
  split
  · exact .pure _ hTwins hFront
  · exact .fail hTwins hFront
      (by simp [SyntaxError.EndsInside, SyntaxError.about])

theorem booleanLiteral_accords :
    Accords ending rest 1 booleanLiteral short long := by
  refine .current_bind hTwins ?_
  split
  · exact .pure _ hTwins hFront
  · split
    · exact .pure _ hTwins hFront
    · exact .fail hTwins hFront
        (by simp [SyntaxError.EndsInside, SyntaxError.about])

variable (hEnding : ending.kind = .eof)

include hEnding

theorem expectName_accords :
    Accords ending rest 1 expectName short long := by
  refine .expect_bind (by decide) hEnding hTwins hFront ?_
  intro hNext hBehind
  exact .current_bind hNext (.pure _ hNext hBehind)

theorem parametersBehind_accords :
    Accords ending rest 1 parametersBehind short long := by
  induction hLength : front.length
    using Nat.strongRecOn generalizing front short long with
  | _ length ih =>
      rw [parametersBehind_eq]
      refine .branch (by decide) hEnding hTwins hFront ?_
        (.pure _ hTwins hFront)
      intro hNext hBehind
      have hShorter := length_tail_lt hFront
      have hName := expectName_accords hNext hBehind hEnding
      refine .step_bind (hName.bind hNext ?_)
      intro name inner first second hInner hSome hFewer
      exact .map _ hInner (ih _ (by omega) hInner hSome rfl)

theorem parameters_accords :
    Accords ending rest 1 parameters short long := by
  rw [parameters_eq]
  refine .branch (by decide) hEnding hTwins hFront
    (fun hNext hBehind => .step_bind (.pure _ hNext hBehind)) ?_
  have hName := expectName_accords hTwins hFront hEnding
  refine hName.bind hTwins ?_
  intro name inner first second hInner hSome _
  have hMore := parametersBehind_accords hInner hSome hEnding
  refine hMore.bind hInner fun names last third fourth hLast hLeft _ => ?_
  exact .expect_bind (by decide) hEnding hLast hLeft fun hAfter hOthers =>
    .pure _ hAfter hOthers

end

section

variable {bound : Nat}
variable
  (hExpression :
    ∀ inner : List Token,
      inner.length < bound → AccordsExpression ending rest inner)
variable
  (hStatement :
    ∀ inner : List Token,
      inner.length < bound → AccordsStatement ending rest inner)
variable (hEnding : ending.kind = .eof)
variable (hTwins : ParserState.Twins ending rest front short long)
variable (hFront : front ≠ [])
variable (hBound : front.length ≤ bound)

include hExpression hTwins hFront hBound

theorem unary_accords :
    Accords ending rest 1 unary short long := by
  have hNext := hTwins.next hFront
  have hShorter := length_tail_lt hFront
  rw [unary_eq]
  refine .current_bind hTwins (.step_bind ?_)
  exact .map _ hNext (hExpression _ (by omega) _ _ hNext _)

theorem binary_accords
    (left : Node) :
    Accords ending rest 1 (binary left) short long := by
  have hNext := hTwins.next hFront
  have hShorter := length_tail_lt hFront
  rw [binary_eq]
  refine .current_bind hTwins (.step_bind ?_)
  exact .map _ hNext (hExpression _ (by omega) _ _ hNext _)

include hEnding

theorem grouped_accords :
    Accords ending rest 1 grouped short long := by
  have hNext := hTwins.next hFront
  have hShorter := length_tail_lt hFront
  have hInner := hExpression _ (by omega) _ _ hNext .lowest
  rw [grouped_eq]
  refine .step_bind (hInner.bind hNext ?_)
  intro node inner first second hLast hSome _
  exact .expect_bind (by decide) hEnding hLast hSome fun hAfter hLeft =>
    .pure _ hAfter hLeft

theorem argumentsBehind_accords :
    Accords ending rest 1 argumentsBehind short long := by
  induction hLength : front.length
    using Nat.strongRecOn generalizing front short long with
  | _ length ih =>
      rw [argumentsBehind_eq]
      refine .branch (by decide) hEnding hTwins hFront ?_
        (.pure _ hTwins hFront)
      intro hNext hBehind
      have hShorter := length_tail_lt hFront
      have hLess := length_tail_lt hBehind
      have hStart := hNext.next hBehind
      have hArgument := hExpression _ (by omega) _ _ hStart .lowest
      refine .step_bind (.step_bind (hArgument.bind hStart ?_))
      intro argument inner first second hInner hSome hFewer
      have hMore := ih _ (by omega) hInner hSome (by omega) rfl
      exact .map _ hInner hMore

theorem arguments_accords :
    Accords ending rest 1 arguments short long := by
  have hNext := hTwins.next hFront
  have hShorter := length_tail_lt hFront
  have hArgument := hExpression _ (by omega) _ _ hNext .lowest
  rw [arguments_eq]
  refine .branch (by decide) hEnding hTwins hFront
    (fun _ hBehind => .step_bind (.pure _ hNext hBehind)) ?_
  refine .step_bind (hArgument.bind hNext ?_)
  intro argument inner first second hInner hSome hFewer
  have hMore :=
    argumentsBehind_accords hExpression hEnding hInner hSome (by omega)
  refine hMore.bind hInner ?_
  intro others last third fourth hLast hLeft _
  exact .expect_bind (by decide) hEnding hLast hLeft fun hAfter hOthers =>
    .pure _ hAfter hOthers

theorem call_accords
    (callee : Node) :
    Accords ending rest 1 (call callee) short long := by
  have hArguments :=
    arguments_accords hExpression hEnding hTwins hFront hBound
  rw [call_eq]
  exact .current_bind hTwins (.map _ hTwins hArguments)

theorem widened_accords
    (extension : Extension)
    (left : Node) :
    Accords ending rest 1 (widened extension left) short long := by
  cases extension with
  | binary => exact binary_accords hExpression hTwins hFront hBound left
  | call =>
      exact call_accords hExpression hEnding hTwins hFront hBound left

/- What extends an expression is no end of input. -/
theorem extend_accords
    (precedence : Precedence)
    (left : Node) :
    Accords ending rest 1 (extend precedence left) short long := by
  induction hLength : front.length
    using Nat.strongRecOn generalizing front short long left with
  | _ length ih =>
      rw [extend_eq]
      refine .upcoming_bind hTwins hFront ?_
      split
      next =>
        cases hExtension : extension? short.upcoming.kind with
        | none => exact .pure _ hTwins hFront
        | some extension =>
            have hNext := hTwins.next hFront
            have hBehind :=
              hNext.front_ne_nil hEnding
                (ne_eof_of_extension? hExtension)
            have hShorter := length_tail_lt hFront
            have hWider :=
              widened_accords hExpression hEnding hNext hBehind
                (by omega) extension left
            refine .step_bind (hWider.bind hNext ?_)
            intro wider inner first second hInner hSome hFewer
            exact ih _ (by omega) hInner hSome (by omega) wider rfl
      next => exact .pure _ hTwins hFront

end

------------------------------------------------------------
-- Statements in a Row
------------------------------------------------------------

/- A parenthesis that nothing has opened starts no statement. -/
theorem errors_statement_of_rparen
    {state : ParserState}
    (hKind : state.current.kind = .rparen) :
    (statement state).2.errors =
      state.errors ++
        [.about state.current (.startsNoExpression .rparen)] := by
  have hNone : opening? .rparen = none := by decide
  have hFails :
      expression .lowest state =
        fail state.current (.startsNoExpression .rparen) state := by
    rw [expression_eq, current_bind, hKind, hNone]
  rw [statement_eq]
  unfold statementWith
  rw [current_bind, hKind]
  change (expressionStatementWith expression state).2.errors = _
  unfold expressionStatementWith
  rw [current_bind, bind_apply, terminated_apply, hFails, fail_apply]
  exact ParserState.errors_pastSemicolon _

section

variable {least : Nat}
variable {loop : Parse (List Node)}
variable [Forward loop]

/- What a statement reports stays, whatever others do. -/
theorem mem_errors_prependWith
    {state : ParserState}
    {error : SyntaxError}
    (hError : error ∈ (statement state).2.errors) :
    error ∈ (prependWith statement loop state).2.errors := by
  rw [prependWith_apply]
  exact (leads loop (statement state).2.next).errors.subset hError

theorem stray_mem_errors
    (hLoop : IsLoop loop)
    {state : ParserState}
    (hKind : state.current.kind = .rparen) :
    SyntaxError.about state.current (.startsNoExpression .rparen) ∈
      (loop state).2.errors := by
  rw [hLoop state (by simp [hKind]) (by simp [hKind])]
  apply mem_errors_prependWith
  rw [errors_statement_of_rparen hKind]
  exact List.mem_append_right _ List.mem_cons_self

/-
  Where the input has run out in a statement, the step behind it
  leads over the end, to the parenthesis.
-/
theorem RunsOut.prependWith
    (hLoop : IsLoop loop)
    (hOut : RunsOut ending rest statement short long) :
    RunsOut ending rest (prependWith statement loop) short long where
  ended := by
    rcases hOut.ended with ⟨error, hError, hInside⟩
    exact ⟨error, mem_errors_prependWith hError, hInside⟩
  resumed := by
    intro stray others hShape hKind
    refine .inr ?_
    rcases hOut.resumed stray others hShape hKind with
      ⟨-, hAhead⟩ | hError
    · have hNext :
          (statement long).2.next.ahead = stray :: others := by
        rw [ParserState.ahead_next, hAhead, hShape]
        rfl
      have hCurrent := ParserState.current_of_ahead hNext
      have hStray := stray_mem_errors hLoop (hCurrent.symm ▸ hKind)
      rw [prependWith_apply]
      rwa [hCurrent] at hStray
    · exact mem_errors_prependWith hError

/- It may as well run out in the others. -/
omit [Forward loop] in
theorem RunsOut.prependWith_others
    (hOut :
      RunsOut ending rest loop (statement short).2.next
        (statement long).2.next) :
    RunsOut ending rest (Parse.prependWith statement loop) short
      long where
  ended := by
    rw [prependWith_apply]
    exact hOut.ended
  resumed := by
    intro stray others hShape hKind
    rw [prependWith_apply]
    refine (hOut.resumed stray others hShape hKind).imp_left ?_
    rintro ⟨hNone, hAhead⟩
    exact ⟨by rw [hNone]; rfl, hAhead⟩

/- A statement, and then others on the tokens behind it. -/
theorem prependWith_accords
    (hLoop : IsLoop loop)
    (hTwins : ParserState.Twins ending rest front short long)
    (hStatement : Accords ending rest 1 statement short long)
    (hOthers :
      ∀ inner first second,
        ParserState.Twins ending rest inner first second →
          inner.length < front.length →
            Accords ending rest least loop first second) :
    Accords ending rest least (prependWith statement loop) short
      long := by
  rcases hStatement with ⟨hSame, inner, hInner, hLeast⟩ | hOut
  · have hFewer := length_le_of_twins hTwins hInner
    have hSome := List.ne_nil_of_length_pos hLeast
    have hShorter := length_tail_lt hSome
    have hBehind :=
      hOthers inner.tail _ _ (hInner.next hSome) (by omega)
    rcases hBehind with ⟨hRest, last, hLast, hLeft⟩ | hOut
    · refine .inl ?_
      unfold Parallel
      rw [prependWith_apply, prependWith_apply]
      exact ⟨by rw [hSame, hRest], last, hLast, hLeft⟩
    · exact .inr hOut.prependWith_others
  · exact .inr (hOut.prependWith hLoop)

end

section

variable {bound : Nat}
variable
  (hExpression :
    ∀ inner : List Token,
      inner.length < bound → AccordsExpression ending rest inner)
variable
  (hStatement :
    ∀ inner : List Token,
      inner.length < bound → AccordsStatement ending rest inner)
variable (hEnding : ending.kind = .eof)

include hStatement hEnding

theorem blockStatements_accords
    (hTwins : ParserState.Twins ending rest front short long)
    (hBound : front.length < bound) :
    Accords ending rest 1 blockStatements short long := by
  induction hLength : front.length
    using Nat.strongRecOn generalizing front short long with
  | _ length ih =>
      by_cases hFront : front = []
      · subst hFront
        have hKind := hTwins.kind_of_nil hEnding
        rw [blockStatements_eq]
        refine .current_bind hTwins ?_
        rw [if_neg (by simp [hKind]), if_pos hKind]
        exact .fail_at_end hTwins _ (.inr rfl)
      · have hEnd := hTwins.kind_ne_eof hFront
        rw [blockStatements_eq]
        refine .current_bind hTwins ?_
        rw [if_neg hEnd]
        split
        next => exact .pure _ hTwins hFront
        next =>
          refine prependWith_accords isLoop_blockStatements hTwins
            (hStatement front hBound _ _ hTwins) ?_
          intro inner first second hInner hShorter
          exact ih _ (by omega) hInner (by omega) rfl

variable (hTwins : ParserState.Twins ending rest front short long)
variable (hFront : front ≠ [])
variable (hBound : front.length ≤ bound)

include hTwins hFront hBound

theorem block_accords :
    Accords ending rest 1 block short long := by
  have hNext := hTwins.next hFront
  have hShorter := length_tail_lt hFront
  have hStatements :=
    blockStatements_accords hStatement hEnding hNext (by omega)
  rw [block_eq]
  exact .current_bind hTwins (.step_bind (.map _ hNext hStatements))

theorem functionLiteral_accords :
    Accords ending rest 1 functionLiteral short long := by
  have hShorter := length_tail_lt hFront
  rw [functionLiteral_eq]
  refine .current_bind hTwins ?_
  refine .expect_bind (by decide) hEnding hTwins hFront ?_
  intro hNext hBehind
  have hNames := parameters_accords hNext hBehind hEnding
  refine hNames.bind hNext ?_
  intro names inner first second hInner hSome _
  refine .expect_bind (by decide) hEnding hInner hSome ?_
  intro hBrace hLeft
  have hLess := length_tail_lt hSome
  exact .map _ hBrace
    (block_accords hStatement hEnding hBrace hLeft (by omega))

include hExpression

set_option synthInstance.maxSize 512 in
theorem ifExpression_accords :
    Accords ending rest 1 ifExpression short long := by
  have hShorter := length_tail_lt hFront
  rw [ifExpression_eq]
  refine .current_bind hTwins ?_
  refine .expect_bind (by decide) hEnding hTwins hFront ?_
  intro hOpening hBehind
  have hInside := hOpening.next hBehind
  have hLess := length_tail_lt hBehind
  have hTest := hExpression _ (by omega) _ _ hInside .lowest
  refine .step_bind (hTest.bind hInside ?_)
  intro condition inner first second hInner hSome _
  refine .expect_bind (by decide) hEnding hInner hSome ?_
  intro hClosing hLeft
  refine .expect_bind (by decide) hEnding hClosing hLeft ?_
  intro hBrace hMore
  have hFewer := length_tail_lt hSome
  have hFewest := length_tail_lt hLeft
  have hBlock :=
    block_accords hStatement hEnding hBrace hMore (by omega)
  refine hBlock.bind hBrace ?_
  intro consequence last third fourth hLast hRest _
  refine .branch (by decide) hEnding hLast hRest (fun hElse hOther => ?_)
    (.pure _ hLast hRest)
  refine .step_bind ?_
  refine .expect_bind (by decide) hEnding hElse hOther ?_
  intro hOtherBrace hOthers
  have hWord := length_tail_lt hRest
  have hSecond := length_tail_lt hOther
  exact .map _ hOtherBrace
    (block_accords hStatement hEnding hOtherBrace hOthers (by omega))

------------------------------------------------------------
-- Expressions and Statements
------------------------------------------------------------

theorem opened_accords
    (opening : Opening) :
    Accords ending rest 1 (opened opening) short long := by
  cases opening with
  | identifier | string =>
      exact .current_bind hTwins (.pure _ hTwins hFront)
  | integer => exact integerLiteral_accords hTwins hFront
  | boolean => exact booleanLiteral_accords hTwins hFront
  | unary => exact unary_accords hExpression hTwins hFront hBound
  | grouped =>
      exact grouped_accords hExpression hEnding hTwins hFront hBound
  | ifExpression =>
      exact
        ifExpression_accords hExpression hStatement hEnding hTwins hFront
          hBound
  | functionLiteral =>
      exact
        functionLiteral_accords hStatement hEnding hTwins hFront hBound

omit hFront in
theorem accordsExpression_of_inner
    (precedence : Precedence) :
    Accords ending rest 1 (expression precedence) short long := by
  rw [expression_eq]
  refine .current_bind hTwins ?_
  by_cases hFront : front = []
  · subst hFront
    rw [hTwins.kind_of_nil hEnding, opening?_eof]
    exact .fail_at_end hTwins _ (.inl rfl)
  · cases opening? short.current.kind with
    | none =>
        refine .fail hTwins hFront ?_
        simpa [SyntaxError.EndsInside, SyntaxError.about] using
          hTwins.kind_ne_eof hFront
    | some opening =>
        have hOpened :=
          opened_accords hExpression hStatement hEnding hTwins hFront
            hBound opening
        refine hOpened.bind hTwins ?_
        intro left inner first second hInner hSome hFewer
        exact
          extend_accords hExpression hEnding hInner hSome (by omega)
            precedence left

omit hStatement hBound in
theorem letStatement_accords
    (hBound : front.length ≤ bound) :
    Accords ending rest 1 (letStatementWith expression) short long := by
  have hShorter := length_tail_lt hFront
  unfold letStatementWith
  refine .current_bind hTwins ?_
  have hName := expectName_accords hTwins hFront hEnding
  refine hName.bind hTwins ?_
  intro name inner first second hInner hSome _
  refine .expect_bind (by decide) hEnding hInner hSome ?_
  intro hSign hBehind
  have hValue := hSign.next hBehind
  have hLess := length_tail_lt hSome
  have hLeast := length_tail_lt hBehind
  have hRead := hExpression _ (by omega) _ _ hValue .lowest
  exact .step_bind (.map _ hValue (hRead.terminated hEnding))

omit hStatement in
theorem returnStatement_accords :
    Accords ending rest 1 (returnStatementWith expression) short
      long := by
  have hShorter := length_tail_lt hFront
  have hNext := hTwins.next hFront
  have hRead := hExpression _ (by omega) _ _ hNext .lowest
  unfold returnStatementWith
  refine .current_bind hTwins (.step_bind ?_)
  exact .map _ hNext (hRead.terminated hEnding)

omit hExpression hStatement hFront hBound in
theorem expressionStatement_accords
    (hHere : AccordsExpression ending rest front) :
    Accords ending rest 1 (expressionStatementWith expression) short
      long := by
  unfold expressionStatementWith
  refine .current_bind hTwins (.map _ hTwins (.terminated hEnding ?_))
  exact hHere _ _ hTwins .lowest

omit hFront in
theorem accordsStatement_of_inner
    (hHere : AccordsExpression ending rest front) :
    Accords ending rest 1 statement short long := by
  rw [statement_eq]
  unfold statementWith
  refine .current_bind hTwins ?_
  split
  next hKind =>
    have hFront := hTwins.front_ne_nil hEnding (by simp [hKind])
    exact letStatement_accords hExpression hEnding hTwins hFront hBound
  next hKind =>
    have hFront := hTwins.front_ne_nil hEnding (by simp [hKind])
    exact
      returnStatement_accords hExpression hEnding hTwins hFront hBound
  next hKind =>
    have hFront := hTwins.front_ne_nil hEnding (by simp [hKind])
    have hBlock :=
      block_accords hStatement hEnding hTwins hFront hBound
    exact hBlock.terminated hEnding
  next => exact expressionStatement_accords hEnding hTwins hHere

end

/- Wherever the end is, a run accords with one on more tokens. -/
theorem accords
    (hEnding : ending.kind = .eof)
    (rest front : List Token) :
    AccordsExpression ending rest front ∧
      AccordsStatement ending rest front := by
  induction hLength : front.length
    using Nat.strongRecOn generalizing front with
  | _ length ih =>
      have hExpression :
          ∀ inner : List Token,
            inner.length < length →
              AccordsExpression ending rest inner :=
        fun inner hInner => (ih _ hInner inner rfl).1
      have hStatement :
          ∀ inner : List Token,
            inner.length < length →
              AccordsStatement ending rest inner :=
        fun inner hInner => (ih _ hInner inner rfl).2
      have hHere : AccordsExpression ending rest front :=
        fun short long hTwins precedence =>
          accordsExpression_of_inner hExpression hStatement hEnding
            hTwins (Nat.le_of_eq hLength) precedence
      exact ⟨hHere, fun short long hTwins =>
        accordsStatement_of_inner hExpression hStatement hEnding
          hTwins (Nat.le_of_eq hLength) hHere⟩

/- The program is over where the end is the current token. -/
theorem programStatements_accords
    (hEnding : ending.kind = .eof)
    (hTwins : ParserState.Twins ending rest front short long) :
    Accords ending rest 0 programStatements short long := by
  induction hLength : front.length
    using Nat.strongRecOn generalizing front short long with
  | _ length ih =>
      by_cases hFront : front = []
      · subst hFront
        have hKind := hTwins.kind_of_nil hEnding
        have hSame := hTwins.current ▸ hKind
        refine .inl ?_
        unfold Parallel
        rw [programStatements_of_eof hKind,
          programStatements_of_eof hSame]
        exact ⟨rfl, [], hTwins, Nat.le_refl _⟩
      · have hEnd := hTwins.kind_ne_eof hFront
        rw [programStatements_eq]
        refine .current_bind hTwins ?_
        rw [if_neg hEnd]
        refine prependWith_accords isLoop_programStatements hTwins
          ((accords hEnding rest front).2 _ _ hTwins) ?_
        intro inner first second hInner hShorter
        exact ih _ (by omega) hInner rfl

end Parse

------------------------------------------------------------
-- Programs
------------------------------------------------------------

theorem ParserState.twins_ofTokens
    (rest : List Token)
    (hFront : ∀ token ∈ front, token.kind ≠ .eof) :
    Twins ending rest front (.ofTokens (front ++ [ending]))
      (.ofTokens (front ++ ending :: rest)) where
  short_ahead := rfl
  long_ahead := rfl
  first := hFront
  errors := rfl
  inside := by simp [ofTokens]

/- Some parenthesis is not what the errors are about. -/
theorem exists_unreported
    (errors : List SyntaxError) :
    ∃ stray : Token,
      stray.kind = .rparen ∧
        SyntaxError.about stray (.startsNoExpression .rparen) ∉
          errors := by
  rcases Infinite.exists_notMem_finset
      (errors.map SyntaxError.line).toFinset with
    ⟨line, hLine⟩
  refine ⟨⟨⟨")", line, 1⟩, .rparen⟩, rfl, fun hError => hLine ?_⟩
  exact List.mem_toFinset.mpr (List.mem_map_of_mem hError)

/-
  Whatever stands behind the first end of input is ignored, if
  and only if the input does not end inside an expression or a
  block.
-/
theorem parseTokens_ignores_behind_end_iff
    (hFront : ∀ token ∈ front, token.kind ≠ .eof)
    (hEnding : ending.kind = .eof) :
    (∀ rest,
      parseTokens (front ++ ending :: rest) =
        parseTokens (front ++ [ending])) ↔
      ∀ error ∈ (parseTokens (front ++ [ending])).errors,
        ¬ error.EndsInside := by
  have hRuns := fun rest =>
    Parse.programStatements_ends (.ofTokens (front ++ ending :: rest))
  have hAccords := fun rest =>
    Parse.programStatements_accords hEnding
      (ParserState.twins_ofTokens rest hFront)
  rcases hRuns [] with ⟨statements, last, hShort, -⟩
  rw [parseTokens_eq_of_run hShort]
  constructor
  · -- A parenthesis behind the end that no error has been about
    -- yet would be complained about.
    intro hIgnored error hError hInside
    rcases exists_unreported last.errors with ⟨stray, hKind, hStray⟩
    rcases hRuns [stray] with ⟨others, final, hLong, -⟩
    have hSame := hIgnored [stray]
    rw [parseTokens_eq_of_run hLong, Parsed.mk.injEq] at hSame
    rcases hAccords [stray] with ⟨-, inner, hTwins, -⟩ | hOut
    · rw [hShort] at hTwins
      exact hTwins.inside error hError hInside
    · rcases hOut.resumed stray [] rfl hKind with ⟨hNone, -⟩ | hFound
      · rw [hLong] at hNone
        cases hNone
      · rw [hLong, hSame.2] at hFound
        exact hStray hFound
  · intro hInside rest
    rcases hRuns rest with ⟨others, final, hLong, -⟩
    rw [parseTokens_eq_of_run hLong]
    rcases hAccords rest with ⟨hSame, inner, hTwins, -⟩ | hOut
    · rw [hLong, hShort, Option.some.injEq] at hSame
      rw [hLong, hShort] at hTwins
      rw [hSame, hTwins.errors]
    · rcases hOut.ended with ⟨error, hError, hEnds⟩
      rw [hShort] at hError
      exact absurd hEnds (hInside error hError)

/- An error in front of the end does not matter. -/
theorem parseTokens_ignores_behind_end_stray :
    let stray : Token := ⟨⟨")", 1, 1⟩, .rparen⟩
    (∀ rest,
      parseTokens (stray :: Token.endAt 1 2 :: rest) =
        parseTokens [stray, Token.endAt 1 2]) ∧
      (parseTokens [stray, Token.endAt 1 2]).errors =
        [.about stray (.startsNoExpression .rparen)] := by
  intro stray
  have hErrors :
      (parseTokens [stray, Token.endAt 1 2]).errors =
        [.about stray (.startsNoExpression .rparen)] := by
    decide +kernel
  refine ⟨?_, hErrors⟩
  refine
    (parseTokens_ignores_behind_end_iff
      (show ∀ token ∈ [stray], token.kind ≠ .eof by decide)
      (show (Token.endAt 1 2).kind = .eof from rfl)).mpr ?_
  change ∀ error ∈ (parseTokens [stray, Token.endAt 1 2]).errors, _
  rw [hErrors]
  simp [SyntaxError.EndsInside, SyntaxError.about]

/- A name behind the end of a sign without an operand. -/
theorem parseTokens_reads_behind_end :
    let sign : Token := ⟨⟨"-", 1, 1⟩, .minus⟩
    let name : Token := ⟨⟨"x", 1, 3⟩, .ident⟩
    parseTokens [sign, Token.endAt 1 2, name] ≠
      parseTokens [sign, Token.endAt 1 2] := by
  intro sign name hSame
  have hLengths :=
    congrArg (fun parsed => parsed.statements.length) hSame
  revert hLengths
  decide +kernel

end MonkeyLang
