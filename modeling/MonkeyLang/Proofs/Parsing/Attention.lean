import Mathlib.Data.List.Forall2
import MonkeyLang.Proofs.Parsing.Forward

/-
  How far the parser looks. It decides by the current token and
  at most the next one, and an error is about one of these two.
  What a run does up to its first error is therefore the same
  on all tokens that agree up to the place of that error.

  Main declarations:
    * `ParserState.tokenAt`    (the token at a distance)
    * `ParserState.SharesTo`   (the same tokens up to a distance)
    * `Parse.Attends`          (what a run reports and looks at)
    * `Parse.Attends.bind`, ...
    * `Parse.within_attends`   (every routine at every depth)
-/

------------------------------------------------------------
-- Tokens at a Distance
------------------------------------------------------------

namespace MonkeyLang

/- An error has the place of a token. -/
def SyntaxError.Concerns
    (error : SyntaxError)
    (token : Token) :
    Prop :=
  error.line = token.line ∧ error.column = token.column

namespace ParserState

/-
  The token at a distance from the current one. Behind the last
  token stand only ends of input.
-/
def tokenAt
    (state : ParserState)
    (distance : Nat) :
    Token :=
  (state.ahead.drop distance).headD state.ending

/-
  The state that is reached by passing over some tokens and
  reporting some errors.
-/
def after
    (state : ParserState)
    (passed : Nat)
    (errors : List SyntaxError) :
    ParserState :=
  { state with
    position := state.position + passed
    ahead := state.ahead.drop passed
    errors := state.errors ++ errors }

/- Two states have the same tokens up to a distance. -/
def SharesTo
    (state : ParserState)
    (limit : Nat)
    (other : ParserState) :
    Prop :=
  ∀ distance ≤ limit, state.tokenAt distance = other.tokenAt distance

variable (state : ParserState)

theorem tokenAt_zero : state.tokenAt 0 = state.current := rfl

theorem tokenAt_one : state.tokenAt 1 = state.upcoming := by
  simp [tokenAt, upcoming]

@[simp] theorem after_nothing : state.after 0 [] = state := by
  simp [after]

theorem next_eq_after : state.next = state.after 1 [] := by
  simp [next, after]

theorem report_eq_after
    (error : SyntaxError) :
    state.report error = state.after 0 [error] := by
  simp [report, after]

@[simp] theorem after_after
    (passed more : Nat)
    (errors others : List SyntaxError) :
    (state.after passed errors).after more others =
      state.after (passed + more) (errors ++ others) := by
  simp [after, List.drop_drop, Nat.add_assoc]

@[simp] theorem tokenAt_after
    (passed distance : Nat)
    (errors : List SyntaxError) :
    (state.after passed errors).tokenAt distance =
      state.tokenAt (passed + distance) := by
  simp [tokenAt, after, List.drop_drop]

variable {state}

theorem SharesTo.mono
    {other : ParserState}
    {low high : Nat}
    (hShares : state.SharesTo high other)
    (hLow : low ≤ high) :
    state.SharesTo low other :=
  fun distance hDistance =>
    hShares distance (Nat.le_trans hDistance hLow)

theorem SharesTo.after
    {other : ParserState}
    {passed limit : Nat}
    {errors others : List SyntaxError}
    (hShares : state.SharesTo (passed + limit) other) :
    (state.after passed errors).SharesTo limit
      (other.after passed others) := by
  intro distance hDistance
  rw [tokenAt_after, tokenAt_after]
  exact hShares _ (Nat.add_le_add_left hDistance passed)

theorem SharesTo.current
    {other : ParserState}
    {limit : Nat}
    (hShares : state.SharesTo limit other) :
    other.current = state.current :=
  (hShares 0 (Nat.zero_le _)).symm

theorem SharesTo.upcoming
    {other : ParserState}
    {limit : Nat}
    (hShares : state.SharesTo limit other)
    (hLimit : 1 ≤ limit) :
    other.upcoming = state.upcoming := by
  rw [← tokenAt_one, ← tokenAt_one]
  exact (hShares 1 hLimit).symm

end ParserState

------------------------------------------------------------
-- Attention
------------------------------------------------------------

namespace Parse

/-
  How far a run has looked when it ends, counted from where it
  started: some tokens, if any, behind the current one. A run
  that failed has looked at most at the next token.
-/
def horizon
    (seen passed : Nat)
    (value? : Option α) :
    Nat :=
  passed + if value?.isSome then seen else 1

/-
  An account of a run: what it passes over and reports, and the
  places of the errors. It starts when some tokens behind the
  current one have been seen already. Errors come in the order
  of their places, and concern no token that was seen before
  and none that has not been seen yet.

  The run goes the same way wherever it finds the same tokens,
  up to where it looks. It fails wherever it finds the same
  tokens up to its first error.
-/
structure Account
    (start seen : Nat)
    (routine : Parse α)
    (state : ParserState)
    (value? : Option α)
    (passed : Nat)
    (errors : List SyntaxError)
    (places : List Nat) :
    Prop where
  run : routine state = (value?, state.after passed errors)
  concerns :
    List.Forall₂
      (fun error place => error.Concerns (state.tokenAt place))
      errors places
  ordered : places.Pairwise (· ≤ ·)
  start_le : start ≤ horizon seen passed value?
  inside :
    ∀ place ∈ places,
      start ≤ place ∧ place ≤ horizon seen passed value?
  repeats :
    errors = [] →
      ∀ other,
        state.SharesTo (horizon seen passed value?) other →
          routine other = (value?, other.after passed [])
  fails :
    ∀ place ∈ places.head?, ∀ other, state.SharesTo place other →
      ∃ error more,
        (routine other).2.errors = other.errors ++ error :: more

/- A run of which there is an account. -/
def Attends
    (start seen : Nat)
    (routine : Parse α)
    (state : ParserState) :
    Prop :=
  ∃ value? passed errors places,
    Account start seen routine state value? passed errors places

namespace Account

variable {start middle seen passed more : Nat} {state : ParserState}
variable {routine : Parse α} {following : α → Parse β}
variable {value? : Option α} {value : α} {last? : Option β}
variable {errors others : List SyntaxError} {places later : List Nat}

theorem errors_eq_nil
    (hAccount :
      Account start seen routine state value? passed errors []) :
    errors = [] :=
  List.forall₂_nil_right_iff.mp hAccount.concerns

/- Every error has a place, up to which the run has looked. -/
theorem exists_place
    (hAccount :
      Account start seen routine state value? passed errors places) :
    ∀ error ∈ errors,
      ∃ place ≤ horizon seen passed value?,
        error.Concerns (state.tokenAt place) := by
  have hInside :=
    fun place hPlace => (hAccount.inside place hPlace).2
  have hConcerns := hAccount.concerns
  clear hAccount
  induction hConcerns with
  | nil => simp
  | cons hFirst _ ih =>
      rw [List.forall_mem_cons] at hInside
      intro error hError
      rcases List.mem_cons.mp hError with rfl | hError
      · exact ⟨_, hInside.1, hFirst⟩
      · exact ih hInside.2 error hError

/- An error of the first routine is one of both together. -/
theorem bind_fails
    (hFirst :
      Account start middle routine state value? passed errors places)
    (hSecond :
      ∀ value next, Attends middle seen (following value) next) :
    ∀ place ∈ places.head?, ∀ other, state.SharesTo place other →
      ∃ error more,
        ((routine >>= following) other).2.errors =
          other.errors ++ error :: more := by
  intro place hPlace other hShares
  rcases hFirst.fails place hPlace other hShares with
    ⟨error, more, hErrors⟩
  rw [bind_apply]
  rcases hRun : routine other with ⟨found?, last⟩
  rw [hRun] at hErrors
  change last.errors = _ at hErrors
  cases found? with
  | none => exact ⟨error, more, hErrors⟩
  | some found =>
      rcases hSecond found last with ⟨_, _, others, _, hNext⟩
      refine ⟨error, more ++ others, ?_⟩
      change (following found last).2.errors = _
      rw [hNext.run]
      simp [ParserState.after, hErrors]

/- If the first routine fails, there is nothing to add. -/
theorem bind_none
    (hFirst :
      Account start middle routine state none passed errors places)
    (hSecond :
      ∀ value next, Attends middle seen (following value) next) :
    Account start seen (routine >>= following) state none passed errors
      places where
  run := by rw [bind_apply, hFirst.run]
  concerns := hFirst.concerns
  ordered := hFirst.ordered
  start_le := hFirst.start_le
  inside := hFirst.inside
  repeats hErrors other hShares := by
    rw [bind_apply, hFirst.repeats hErrors other hShares]
  fails := hFirst.bind_fails hSecond

/- The second routine starts where the first one has looked to. -/
theorem bind_some
    (hFirst :
      Account start middle routine state (some value) passed errors
        places)
    (hNext :
      Account middle seen (following value) (state.after passed errors)
        last? more others later)
    (hSecond :
      ∀ value next, Attends middle seen (following value) next) :
    Account start seen (routine >>= following) state last?
      (passed + more) (errors ++ others)
      (places ++ later.map (passed + ·)) := by
  have hStart : start ≤ passed + middle := hFirst.start_le
  have hReach :
      passed + horizon seen more last? =
        horizon seen (passed + more) last? :=
    (Nat.add_assoc _ _ _).symm
  have hFound := hNext.start_le
  have hRepeats :
      errors = [] →
        ∀ other, state.SharesTo (passed + middle) other →
          (routine >>= following) other =
            following value (other.after passed []) := by
    intro hErrors other hShares
    rw [bind_apply, hFirst.repeats hErrors other hShares]
  exact {
    run := by
      rw [bind_apply, hFirst.run]
      change following value _ = _
      rw [hNext.run, ParserState.after_after]
    concerns := by
      refine List.rel_append hFirst.concerns ?_
      rw [List.forall₂_map_right_iff]
      simpa using hNext.concerns
    ordered := by
      rw [List.pairwise_append, List.pairwise_map]
      refine ⟨hFirst.ordered, ?_, ?_⟩
      · exact hNext.ordered.imp fun hLe => Nat.add_le_add_left hLe _
      · intro low hLow high hHigh
        rcases List.mem_map.mp hHigh with ⟨place, hPlace, rfl⟩
        have hBefore : low ≤ passed + middle :=
          (hFirst.inside low hLow).2
        have hBehind := (hNext.inside place hPlace).1
        omega
    start_le := by omega
    inside := by
      intro place hPlace
      rcases List.mem_append.mp hPlace with hPlace | hPlace
      · have hInside := hFirst.inside place hPlace
        have hBefore : place ≤ passed + middle := hInside.2
        omega
      · rcases List.mem_map.mp hPlace with ⟨later, hLater, rfl⟩
        have hInside := hNext.inside later hLater
        omega
    repeats := by
      intro hNone other hShares
      rcases List.append_eq_nil_iff.mp hNone with ⟨hErrors, hOthers⟩
      rw [← hReach] at hShares
      rw [hRepeats hErrors other (hShares.mono (by omega)),
        hNext.repeats hOthers _ hShares.after, ParserState.after_after]
      rfl
    fails := by
      cases places with
      | cons place places =>
          exact fun first hFirstPlace =>
            hFirst.bind_fails hSecond first hFirstPlace
      | nil =>
          intro first hHead other hShares
          rw [List.nil_append, List.head?_map] at hHead
          rcases Option.map_eq_some_iff.mp hHead with
            ⟨place, hPlace, rfl⟩
          have hInside := hNext.inside place (List.mem_of_head? hPlace)
          rcases hNext.fails place hPlace (other.after passed [])
              hShares.after with
            ⟨error, more, hErrors⟩
          rw [hRepeats hFirst.errors_eq_nil other
            (hShares.mono (by omega))]
          refine ⟨error, more, ?_⟩
          rw [hErrors]
          simp [ParserState.after] }

end Account

namespace Attends

variable {start seen : Nat} {state : ParserState}

/- A run that reports nothing and depends on nothing. -/
theorem of_silent
    {routine : Parse α}
    (value? : Option α)
    (passed : Nat)
    (hRun :
      ∀ other, routine other = (value?, other.after passed []))
    (hStart : start ≤ horizon seen passed value?) :
    Attends start seen routine state :=
  ⟨value?, passed, [], [], {
    run := hRun state
    concerns := .nil
    ordered := .nil
    start_le := hStart
    inside := by simp
    repeats := fun _ other _ => hRun other
    fails := by simp }⟩

theorem pure
    (value : α)
    (hStart : start ≤ seen) :
    Attends start seen (Pure.pure value : Parse α) state :=
  of_silent (some value) 0
    (fun other => by simp) (by simpa [horizon] using hStart)

theorem failure
    (hStart : start ≤ 1) :
    Attends start seen (Parse.failure : Parse α) state :=
  of_silent none 0
    (fun other => by simp [Parse.failure])
    (by simpa [horizon] using hStart)

theorem ofOption
    (value? : Option α)
    (hStart : start ≤ seen)
    (hSeen : seen ≤ 1) :
    Attends start seen (Parse.ofOption value?) state := by
  refine of_silent value? 0 (fun other => ?_) ?_
  · simp [Parse.ofOption]
  · cases value? with
    | none => simpa [horizon] using Nat.le_trans hStart hSeen
    | some => simpa [horizon] using hStart

theorem step
    (hStart : start ≤ 1) :
    Attends start 0 Parse.step state :=
  of_silent (some ()) 1
    (fun other => by rw [← other.next_eq_after]; rfl)
    (by simpa [horizon] using hStart)

/- An error about one of the tokens that may be looked at. -/
theorem fail
    {place : Nat}
    {token : Token}
    (cause : SyntaxError.Cause)
    (hToken : state.tokenAt place = token)
    (hStart : start ≤ place)
    (hPlace : place ≤ 1) :
    Attends start seen (Parse.fail token cause : Parse α) state :=
  ⟨none, 0, [.about token cause], [place], {
    run := by rw [← state.report_eq_after]; rfl
    concerns := .cons (hToken ▸ ⟨rfl, rfl⟩) .nil
    ordered := List.pairwise_singleton _ _
    start_le := by simpa [horizon] using Nat.le_trans hStart hPlace
    inside := by simpa [horizon] using ⟨hStart, hPlace⟩
    repeats := by simp
    fails := fun _ _ _ _ => ⟨_, [], rfl⟩ }⟩

theorem mono
    {routine : Parse α}
    {low high : Nat}
    (hAttends : Attends start seen routine state)
    (hLow : low ≤ start)
    (hHigh : seen ≤ high) :
    Attends low high routine state := by
  rcases hAttends with ⟨value?, passed, errors, places, hAccount⟩
  have hHorizon :
      horizon seen passed value? ≤ horizon high passed value? := by
    unfold horizon
    split <;> omega
  exact ⟨value?, passed, errors, places, {
    run := hAccount.run
    concerns := hAccount.concerns
    ordered := hAccount.ordered
    start_le := by
      have hStart := hAccount.start_le
      omega
    inside := by
      intro place hPlace
      have hInside := hAccount.inside place hPlace
      omega
    repeats := fun hErrors other hShares =>
      hAccount.repeats hErrors other (hShares.mono hHorizon)
    fails := hAccount.fails }⟩

theorem bind
    {middle : Nat}
    {routine : Parse α}
    {following : α → Parse β}
    (hFirst : Attends start middle routine state)
    (hSecond :
      ∀ value next, Attends middle seen (following value) next) :
    Attends start seen (routine >>= following) state := by
  rcases hFirst with ⟨value?, passed, errors, places, hAccount⟩
  cases value? with
  | none => exact ⟨_, _, _, _, hAccount.bind_none hSecond⟩
  | some value =>
      rcases hSecond value (state.after passed errors) with
        ⟨_, _, _, _, hNext⟩
      exact ⟨_, _, _, _, hAccount.bind_some hNext hSecond⟩

/- The current token has been seen from the start. -/
theorem current_bind
    {following : Token → Parse α}
    (hFollowing :
      Attends start seen (following state.current) state) :
    Attends start seen (current >>= following) state := by
  rcases hFollowing with ⟨value?, passed, errors, places, hAccount⟩
  have hSame :
      ∀ limit other, state.SharesTo limit other →
        (current >>= following) other = following state.current other := by
    intro limit other hShares
    rw [Parse.current_bind, hShares.current]
  exact ⟨value?, passed, errors, places, {
    hAccount with
    run := hAccount.run
    repeats := fun hErrors other hShares => by
      rw [hSame _ _ hShares, hAccount.repeats hErrors other hShares]
    fails := fun place hPlace other hShares => by
      rw [hSame _ _ hShares]
      exact hAccount.fails place hPlace other hShares }⟩

/- After a look at the next token, that one has been seen too. -/
theorem upcoming_bind
    {following : Token → Parse α}
    (hFollowing :
      Attends 1 seen (following state.upcoming) state)
    (hStart : start ≤ 1) :
    Attends start seen (upcoming >>= following) state := by
  rcases hFollowing with ⟨value?, passed, errors, places, hAccount⟩
  have hSame :
      ∀ limit other, 1 ≤ limit → state.SharesTo limit other →
        (upcoming >>= following) other =
          following state.upcoming other := by
    intro limit other hLimit hShares
    rw [Parse.upcoming_bind, hShares.upcoming hLimit]
  have hRun :
      Account 1 seen (upcoming >>= following) state value? passed
        errors places := {
    hAccount with
    run := hAccount.run
    repeats := fun hErrors other hShares => by
      rw [hSame _ _ hAccount.start_le hShares,
        hAccount.repeats hErrors other hShares]
    fails := fun place hPlace other hShares => by
      have hInside := hAccount.inside place (List.mem_of_head? hPlace)
      rw [hSame _ _ hInside.1 hShares]
      exact hAccount.fails place hPlace other hShares }
  exact mono ⟨value?, passed, errors, places, hRun⟩ hStart Nat.le.refl

/- Behind the next token, nothing more has been seen. -/
theorem step_bind
    {following : Unit → Parse α}
    (hFollowing : ∀ next, Attends 0 seen (following ()) next)
    (hStart : start ≤ 1) :
    Attends start seen (Parse.step >>= following) state :=
  bind (step hStart) fun _ => hFollowing

theorem branch
    {kind : TokenKind}
    {first second : Parse α}
    (hFirst : Attends 1 seen first state)
    (hSecond : Attends 1 seen second state)
    (hStart : start ≤ 1) :
    Attends start seen
      (upcomingIs kind >>= fun found =>
        if found = true then first else second)
      state := by
  change
    Attends start seen
      (upcoming >>= fun token =>
        if decide (token.kind = kind) = true then first else second)
      state
  refine upcoming_bind ?_ hStart
  split
  · exact hFirst
  · exact hSecond

theorem expect
    (kind : TokenKind)
    (hStart : start ≤ 1) :
    Attends start 0 (Parse.expect kind) state := by
  refine upcoming_bind ?_ hStart
  split
  · exact step Nat.le.refl
  · exact fail _ state.tokenAt_one Nat.le.refl Nat.le.refl

theorem expect_bind
    {kind : TokenKind}
    {following : Unit → Parse α}
    (hFollowing : ∀ next, Attends 0 seen (following ()) next)
    (hStart : start ≤ 1) :
    Attends start seen (Parse.expect kind >>= following) state :=
  bind (expect kind hStart) fun _ => hFollowing

/- Whoever goes on after a failure may have seen the next token. -/
theorem attempt
    {routine : Parse α}
    (hAttends : Attends start seen routine state)
    (hSeen : seen ≤ 1) :
    Attends start 1 (Parse.attempt routine) state := by
  rcases hAttends with ⟨value?, passed, errors, places, hAccount⟩
  have hHorizon :
      horizon seen passed value? ≤ horizon 1 passed (some value?) := by
    cases value? with
    | none => simp [horizon]
    | some => simpa [horizon] using hSeen
  have hRun :
      ∀ other found? last, routine other = (found?, last) →
        Parse.attempt routine other = (some found?, last) := by
    intro other found? last hRun
    rw [Parse.attempt, hRun]
  exact ⟨some value?, passed, errors, places, {
    run := hRun _ _ _ hAccount.run
    concerns := hAccount.concerns
    ordered := hAccount.ordered
    start_le := Nat.le_trans hAccount.start_le hHorizon
    inside := fun place hPlace =>
      (hAccount.inside place hPlace).imp_right fun hBefore =>
        Nat.le_trans hBefore hHorizon
    repeats := fun hErrors other hShares =>
      hRun _ _ _
        (hAccount.repeats hErrors other (hShares.mono hHorizon))
    fails := hAccount.fails }⟩

theorem terminated
    {routine : Parse α}
    (hAttends : Attends start seen routine state)
    (hSeen : seen ≤ 1) :
    Attends start 1 (Parse.terminated routine) state := by
  refine bind (hAttends.attempt hSeen) fun value? next => ?_
  have hSkip : Attends 1 1 skipSemicolon next :=
    branch ((step Nat.le.refl).mono Nat.le.refl (Nat.zero_le _))
      (pure () Nat.le.refl) Nat.le.refl
  exact bind hSkip fun _ _ => ofOption value? Nat.le.refl Nat.le.refl

end Attends

------------------------------------------------------------
-- Expressions
------------------------------------------------------------

/- From everywhere, a routine attends to its tokens. -/
def Watches
    (start seen : Nat)
    (routine : Parse α) :
    Prop :=
  ∀ state, Attends start seen routine state

theorem Watches.mono
    {start seen low high : Nat}
    {routine : Parse α}
    (hWatches : Watches start seen routine)
    (hLow : low ≤ start)
    (hHigh : seen ≤ high) :
    Watches low high routine :=
  fun state => (hWatches state).mono hLow hHigh

theorem identifier_watches : Watches 0 0 identifier := by
  intro state
  apply Attends.current_bind
  exact .pure _ Nat.le.refl

theorem expectName_watches : Watches 1 0 expectName := by
  intro state
  refine .expect_bind (fun next => ?_) Nat.le.refl
  apply Attends.current_bind
  exact .pure _ Nat.le.refl

theorem integerLiteral_watches : Watches 0 0 integerLiteral := by
  intro state
  apply Attends.current_bind
  split
  · exact .pure _ Nat.le.refl
  · exact .fail _ state.tokenAt_zero Nat.le.refl (Nat.zero_le _)

theorem booleanLiteral_watches : Watches 0 0 booleanLiteral := by
  intro state
  apply Attends.current_bind
  split
  · exact .pure _ Nat.le.refl
  · split
    · exact .pure _ Nat.le.refl
    · exact .fail _ state.tokenAt_zero Nat.le.refl (Nat.zero_le _)

theorem stringLiteral_watches : Watches 0 0 stringLiteral := by
  intro state
  apply Attends.current_bind
  exact .pure _ Nat.le.refl

section

variable {expression : Precedence → Parse Node}
variable {block statement : Parse Node}
variable
  (hExpression : ∀ precedence, Watches 0 1 (expression precedence))
variable (hBlock : Watches 0 0 block)
variable (hStatement : Watches 0 1 statement)

include hExpression

theorem unaryWith_watches : Watches 0 1 (unaryWith expression) := by
  intro state
  apply Attends.current_bind
  refine .step_bind (fun next => ?_) (Nat.zero_le _)
  exact .bind (hExpression _ next) fun _ _ => .pure _ Nat.le.refl

theorem binaryWith_watches
    (left : Node) :
    Watches 0 1 (binaryWith expression left) := by
  intro state
  apply Attends.current_bind
  refine .step_bind (fun next => ?_) (Nat.zero_le _)
  exact .bind (hExpression _ next) fun _ _ => .pure _ Nat.le.refl

theorem groupedWith_watches : Watches 0 0 (groupedWith expression) := by
  intro state
  refine .step_bind (fun next => ?_) (Nat.zero_le _)
  refine .bind (hExpression _ next) fun inner last => ?_
  exact .expect_bind (fun _ => .pure _ Nat.le.refl) Nat.le.refl

include hBlock in
theorem ifExpressionWith_watches :
    Watches 0 1 (ifExpressionWith expression block) := by
  intro state
  apply Attends.current_bind
  refine .expect_bind (fun opening => ?_) (Nat.zero_le _)
  refine .step_bind (fun inside => ?_) (Nat.zero_le _)
  refine .bind (hExpression _ inside) fun condition closing => ?_
  refine .expect_bind (fun brace => ?_) Nat.le.refl
  refine .expect_bind (fun start => ?_) (Nat.zero_le _)
  refine .bind (hBlock start) fun consequence last => ?_
  refine .branch ?_ (.pure _ Nat.le.refl) (Nat.zero_le _)
  refine .step_bind (fun next => ?_) Nat.le.refl
  refine .expect_bind (fun other => ?_) (Nat.zero_le _)
  exact .bind (hBlock other) fun _ _ => .pure _ (Nat.zero_le _)

omit hExpression

theorem moreParameters_watches
    (limit : Nat) :
    Watches 1 1 (moreParameters limit) := by
  induction limit with
  | zero => exact fun _ => .failure Nat.le.refl
  | succ limit ih =>
      intro state
      refine .branch ?_ (.pure _ Nat.le.refl) Nat.le.refl
      refine .step_bind (fun next => ?_) Nat.le.refl
      have hName :=
        expectName_watches.mono (Nat.zero_le _) Nat.le.refl next
      have hMore := ih.mono (Nat.zero_le _) Nat.le.refl
      exact .bind hName fun name last =>
        .bind (hMore last) fun _ _ => .pure _ Nat.le.refl

theorem parametersUpTo_watches
    (limit : Nat) :
    Watches 0 0 (parametersUpTo limit) := by
  intro state
  refine .branch ?_ ?_ (Nat.zero_le _)
  · exact .step_bind (fun _ => .pure _ Nat.le.refl) Nat.le.refl
  · refine .bind (expectName_watches state) fun name next => ?_
    have hMore :=
      (moreParameters_watches limit).mono (Nat.zero_le _) Nat.le.refl
    refine .bind (hMore next) fun names last => ?_
    exact .expect_bind (fun _ => .pure _ Nat.le.refl) Nat.le.refl

include hBlock in
theorem functionLiteralWith_watches
    (limit : Nat) :
    Watches 0 0 (functionLiteralWith block limit) := by
  intro state
  apply Attends.current_bind
  refine .expect_bind (fun opening => ?_) (Nat.zero_le _)
  refine .bind (parametersUpTo_watches limit opening)
    fun names closing => ?_
  refine .expect_bind (fun brace => ?_) (Nat.zero_le _)
  exact .bind (hBlock brace) fun _ _ => .pure _ Nat.le.refl

include hExpression

theorem moreArgumentsWith_watches
    (limit : Nat) :
    Watches 1 1 (moreArgumentsWith expression limit) := by
  induction limit with
  | zero => exact fun _ => .failure Nat.le.refl
  | succ limit ih =>
      intro state
      refine .branch ?_ (.pure _ Nat.le.refl) Nat.le.refl
      refine .step_bind (fun comma => ?_) Nat.le.refl
      refine .step_bind (fun next => ?_) (Nat.zero_le _)
      refine .bind (hExpression _ next) fun argument last => ?_
      exact .bind (ih last) fun _ _ => .pure _ Nat.le.refl

theorem argumentsWith_watches
    (limit : Nat) :
    Watches 0 0 (argumentsWith expression limit) := by
  intro state
  refine .branch ?_ ?_ (Nat.zero_le _)
  · exact .step_bind (fun _ => .pure _ Nat.le.refl) Nat.le.refl
  · refine .step_bind (fun next => ?_) Nat.le.refl
    refine .bind (hExpression _ next) fun argument last => ?_
    refine .bind (moreArgumentsWith_watches hExpression limit last)
      fun arguments closing => ?_
    exact .expect_bind (fun _ => .pure _ Nat.le.refl) Nat.le.refl

theorem callWith_watches
    (limit : Nat)
    (callee : Node) :
    Watches 0 0 (callWith expression limit callee) := by
  intro state
  apply Attends.current_bind
  exact .bind (argumentsWith_watches hExpression limit state)
    fun _ _ => .pure _ Nat.le.refl

include hBlock in
theorem openWith_watches
    (limit : Nat)
    (opening : Opening) :
    Watches 0 1 (openWith expression block limit opening) := by
  have hLift {routine : Parse Node} (hWatches : Watches 0 0 routine) :
      Watches 0 1 routine :=
    hWatches.mono Nat.le.refl (Nat.zero_le _)
  cases opening with
  | identifier => exact hLift identifier_watches
  | integer => exact hLift integerLiteral_watches
  | string => exact hLift stringLiteral_watches
  | boolean => exact hLift booleanLiteral_watches
  | unary => exact unaryWith_watches hExpression
  | grouped => exact hLift (groupedWith_watches hExpression)
  | ifExpression => exact ifExpressionWith_watches hExpression hBlock
  | functionLiteral =>
      exact hLift (functionLiteralWith_watches hBlock limit)

theorem widenWith_watches
    (limit : Nat)
    (extension : Extension)
    (left : Node) :
    Watches 0 1 (widenWith expression limit extension left) := by
  cases extension with
  | binary => exact binaryWith_watches hExpression left
  | call =>
      exact (callWith_watches hExpression limit left).mono Nat.le.refl
        (Nat.zero_le _)

theorem extendWith_watches
    (limit : Nat)
    (precedence : Precedence)
    (left : Node) :
    Watches 1 1 (extendWith expression limit precedence left) := by
  induction limit generalizing left with
  | zero => exact fun _ => .failure Nat.le.refl
  | succ limit ih =>
      intro state
      refine .upcoming_bind ?_ Nat.le.refl
      split
      · cases extension? state.upcoming.kind with
        | none => exact .pure _ Nat.le.refl
        | some extension =>
            have hWider :=
              widenWith_watches hExpression limit extension left
            refine .step_bind (fun next => ?_) Nat.le.refl
            exact .bind (hWider next) fun wider last => ih wider last
      · exact .pure _ Nat.le.refl

include hBlock in
theorem expressionWith_watches
    (limit : Nat)
    (precedence : Precedence) :
    Watches 0 1 (expressionWith expression block limit precedence) := by
  intro state
  apply Attends.current_bind
  split
  · exact .fail _ state.tokenAt_zero Nat.le.refl (Nat.zero_le _)
  · refine .bind (openWith_watches hExpression hBlock limit _ state)
      fun left next => ?_
    exact extendWith_watches hExpression limit precedence left next

------------------------------------------------------------
-- Statements
------------------------------------------------------------

theorem letStatementWith_watches :
    Watches 0 1 (letStatementWith expression) := by
  have hName := expectName_watches.mono (Nat.zero_le _) Nat.le.refl
  intro state
  apply Attends.current_bind
  refine .bind (hName state) fun name sign => ?_
  refine .expect_bind (fun last => ?_) (Nat.zero_le _)
  refine .step_bind (fun next => ?_) (Nat.zero_le _)
  exact .bind ((hExpression _ next).terminated Nat.le.refl)
    fun _ _ => .pure _ Nat.le.refl

theorem returnStatementWith_watches :
    Watches 0 1 (returnStatementWith expression) := by
  intro state
  apply Attends.current_bind
  refine .step_bind (fun next => ?_) (Nat.zero_le _)
  exact .bind ((hExpression _ next).terminated Nat.le.refl)
    fun _ _ => .pure _ Nat.le.refl

theorem expressionStatementWith_watches :
    Watches 0 1 (expressionStatementWith expression) := by
  intro state
  apply Attends.current_bind
  exact .bind ((hExpression _ state).terminated Nat.le.refl)
    fun _ _ => .pure _ Nat.le.refl

include hBlock in
theorem statementWith_watches :
    Watches 0 1 (statementWith expression block) := by
  intro state
  apply Attends.current_bind
  split
  · exact letStatementWith_watches hExpression state
  · exact returnStatementWith_watches hExpression state
  · exact (hBlock state).terminated (Nat.zero_le _)
  · exact expressionStatementWith_watches hExpression state

omit hExpression

include hStatement

theorem prependWith_watches
    {others : Parse (List Node)}
    (hOthers : Watches 0 0 others) :
    Watches 0 0 (prependWith statement others) := by
  intro state
  refine .bind ((hStatement state).attempt Nat.le.refl)
    fun statement? last => ?_
  refine .step_bind (fun next => ?_) Nat.le.refl
  exact .bind (hOthers next) fun _ _ => .pure _ Nat.le.refl

theorem blockStatementsWith_watches
    (limit : Nat) :
    Watches 0 0 (blockStatementsWith statement limit) := by
  induction limit with
  | zero => exact fun _ => .failure (Nat.zero_le _)
  | succ limit ih =>
      intro state
      apply Attends.current_bind
      split
      · exact .pure _ Nat.le.refl
      · exact .fail _ state.tokenAt_zero Nat.le.refl (Nat.zero_le _)
      · exact prependWith_watches hStatement ih state

theorem blockWith_watches
    (limit : Nat) :
    Watches 0 0 (blockWith statement limit) := by
  intro state
  apply Attends.current_bind
  refine .step_bind (fun next => ?_) (Nat.zero_le _)
  exact .bind (blockStatementsWith_watches hStatement limit next)
    fun _ _ => .pure _ Nat.le.refl

/- A program is read up to the end of input, and not beyond. -/
theorem programStatementsWith_watches
    (limit : Nat) :
    Watches 0 0 (programStatementsWith statement limit) := by
  induction limit with
  | zero => exact fun _ => .failure (Nat.zero_le _)
  | succ limit ih =>
      intro state
      apply Attends.current_bind
      split
      · exact .pure _ Nat.le.refl
      · exact prependWith_watches hStatement ih state

end

------------------------------------------------------------
-- Every Depth
------------------------------------------------------------

/- Nested expressions and statements attend to their tokens. -/
theorem within_watches
    (depth : Nat) :
    (∀ precedence, Watches 0 1 (expressionWithin depth precedence)) ∧
      Watches 0 1 (statementWithin depth) := by
  induction depth with
  | zero =>
      exact ⟨fun _ _ => .failure (Nat.zero_le _),
        fun _ => .failure (Nat.zero_le _)⟩
  | succ depth ih =>
      have hBlock := blockWith_watches ih.2 depth
      exact ⟨expressionWith_watches ih.1 hBlock depth,
        statementWith_watches ih.1 hBlock⟩

theorem expressionWithin_watches
    (depth : Nat)
    (precedence : Precedence) :
    Watches 0 1 (expressionWithin depth precedence) :=
  (within_watches depth).1 precedence

theorem statementWithin_watches
    (depth : Nat) :
    Watches 0 1 (statementWithin depth) :=
  (within_watches depth).2

theorem blockWithin_watches
    (depth : Nat) :
    Watches 0 0 (blockWithin depth) :=
  blockWith_watches (statementWithin_watches depth) depth

end Parse

end MonkeyLang
