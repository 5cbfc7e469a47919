import MonkeyLang.Proofs.Parsing.Equation

/-
  What a routine reads if it succeeds. It starts at the first
  token of a phrase and ends at the last one, which is still
  the current token then.

  Main declarations:
    * `ParserState.Spans`     (the tokens between two states)
    * `Parse.Clean`           (a run without errors)
    * `Parse.Clean.bind`, ... (how such runs are composed)
-/

------------------------------------------------------------
-- Tokens between States
------------------------------------------------------------

namespace MonkeyLang

namespace ParserState

theorem current_of_ahead
    {state : ParserState}
    {token : Token}
    {rest : List Token}
    (hAhead : state.ahead = token :: rest) :
    state.current = token := by
  simp [current, hAhead]

/- The token under examination is the first one ahead. -/
theorem ahead_eq_cons
    {state : ParserState}
    (hKind : state.current.kind ≠ .eof) :
    state.ahead = state.current :: state.ahead.tail := by
  cases hAhead : state.ahead with
  | nil => simp [current, hAhead, state.ending_kind] at hKind
  | cons token rest => simp [current, hAhead]

@[simp] theorem current_next
    (state : ParserState) :
    state.next.current = state.upcoming := rfl

@[simp] theorem ahead_next
    (state : ParserState) :
    state.next.ahead = state.ahead.tail := rfl

@[simp] theorem ending_next
    (state : ParserState) :
    state.next.ending = state.ending := rfl

@[simp] theorem errors_next
    (state : ParserState) :
    state.next.errors = state.errors := rfl

/- Behind a token that is there, one token less is ahead. -/
theorem length_next_lt
    {state : ParserState}
    (hKind : state.current.kind ≠ .eof) :
    state.next.ahead.length < state.ahead.length := by
  rw [ahead_eq_cons hKind, ahead_next]
  exact Nat.lt_succ_self _

/-
  From one state to another stand the given tokens, and no
  error is reported between them.
-/
structure Spans
    (first : ParserState)
    (tokens : List Token)
    (last : ParserState) :
    Prop where
  ahead : first.ahead = tokens ++ last.ahead
  ending : last.ending = first.ending
  errors : last.errors = first.errors

namespace Spans

theorem refl
    (state : ParserState) :
    state.Spans [] state :=
  ⟨rfl, rfl, rfl⟩

theorem trans
    {first middle last : ParserState}
    {tokens others : List Token}
    (hFirst : first.Spans tokens middle)
    (hLast : middle.Spans others last) :
    first.Spans (tokens ++ others) last where
  ahead := by
    rw [hFirst.ahead, hLast.ahead, List.append_assoc]
  ending := hLast.ending.trans hFirst.ending
  errors := hLast.errors.trans hFirst.errors

theorem one
    {state : ParserState}
    (hKind : state.current.kind ≠ .eof) :
    state.Spans [state.current] state.next :=
  ⟨ahead_eq_cons hKind, rfl, rfl⟩

/- One token, and then others. -/
theorem cons
    {first last : ParserState}
    {tokens : List Token}
    (hKind : first.current.kind ≠ .eof)
    (hRest : first.next.Spans tokens last) :
    first.Spans (first.current :: tokens) last :=
  (one hKind).trans hRest

/- Some tokens, and then one more. -/
theorem concat
    {first last : ParserState}
    {tokens : List Token}
    (hFirst : first.Spans tokens last)
    (hKind : last.current.kind ≠ .eof) :
    first.Spans (tokens ++ [last.current]) last.next :=
  hFirst.trans (one hKind)

theorem length_le
    {first last : ParserState}
    {tokens : List Token}
    (hSpans : first.Spans tokens last) :
    last.ahead.length ≤ first.ahead.length := by
  rw [hSpans.ahead, List.length_append]
  omega

theorem ahead_eq
    {first last : ParserState}
    {tokens rest : List Token}
    (hSpans : first.Spans tokens last)
    (hAhead : first.ahead = tokens ++ rest) :
    last.ahead = rest :=
  List.append_cancel_left (hSpans.ahead.symm.trans hAhead)

theorem current_eq
    {first last : ParserState}
    {tokens rest : List Token}
    (hSpans : first.Spans tokens last)
    (hAhead : first.ahead = tokens ++ rest) :
    last.current = rest.headD first.ending := by
  rw [current, hSpans.ahead_eq hAhead, hSpans.ending]

end Spans

/- The state behind the semicolon that comes next, if one does. -/
def pastSemicolon
    (state : ParserState) :
    ParserState :=
  if state.upcoming.kind = .semicolon then state.next else state

@[simp] theorem errors_pastSemicolon
    (state : ParserState) :
    state.pastSemicolon.errors = state.errors := by
  unfold pastSemicolon
  split <;> rfl

end ParserState

namespace Parse

theorem terminated_apply
    (routine : Parse α)
    (state : ParserState) :
    terminated routine state =
      ((routine state).1, (routine state).2.pastSemicolon) := by
  unfold ParserState.pastSemicolon terminated
  rw [bind_apply]
  change (skipSemicolon >>= fun _ => ofOption _) _ = _
  rw [bind_apply, skipSemicolon, upcomingIs_bind]
  by_cases hKind : (routine state).2.upcoming.kind = .semicolon
  · simp only [hKind, decide_true, if_true]
    rfl
  · simp only [hKind, decide_false, if_false]
    rfl

/- A statement, parsed or not, and then the others. -/
theorem prependWith_apply
    (routine : Parse Node)
    (loop : Parse (List Node))
    (first : ParserState) :
    let found := routine first
    let others := loop found.2.next
    prependWith routine loop first =
      (others.1.map (found.1.toList ++ ·), others.2) := by
  unfold prependWith
  rw [bind_apply]
  unfold attempt
  rcases routine first with ⟨found?, middle⟩
  change (step >>= fun _ => loop >>= fun nodes =>
    pure (found?.toList ++ nodes)) middle = _
  rw [step_bind, bind_apply]
  dsimp only
  rcases loop middle.next with ⟨nodes?, last⟩
  cases nodes? <;> rfl

------------------------------------------------------------
-- Runs without Errors
------------------------------------------------------------

/-
  If a run reports no error then it has a result, for which
  some condition holds.
-/
def Clean
    (routine : Parse α)
    (state : ParserState)
    (condition : α → ParserState → Prop) :
    Prop :=
  (routine state).2.errors = state.errors →
    ∃ value,
      (routine state).1 = some value ∧
        condition value (routine state).2

namespace Clean

theorem of_eq
    {routine : Parse α}
    {state last : ParserState}
    {value : α}
    {condition : α → ParserState → Prop}
    (hRun : routine state = (some value, last))
    (hCondition : condition value last) :
    Clean routine state condition := by
  intro _
  rw [hRun]
  exact ⟨value, rfl, hCondition⟩

theorem pure
    {state : ParserState}
    {value : α}
    {condition : α → ParserState → Prop}
    (hCondition : condition value state) :
    Clean (Pure.pure value) state condition :=
  of_eq rfl hCondition

/- A run that fails reports an error. -/
theorem fail
    (token : Token)
    (cause : SyntaxError.Cause)
    (state : ParserState)
    (condition : α → ParserState → Prop) :
    Clean (Parse.fail token cause) state condition := by
  intro hErrors
  exact absurd hErrors (by simp [ParserState.report])

theorem mono
    {routine : Parse α}
    {state : ParserState}
    {first second : α → ParserState → Prop}
    (hClean : Clean routine state first)
    (hCondition : ∀ value last, first value last → second value last) :
    Clean routine state second := by
  intro hErrors
  rcases hClean hErrors with ⟨value, hRun, hFirst⟩
  exact ⟨value, hRun, hCondition _ _ hFirst⟩

/- Whatever a run reads, it goes forward. -/
theorem forward
    {routine : Parse α}
    {state : ParserState}
    {condition : α → ParserState → Prop}
    [Forward routine]
    (hClean : Clean routine state condition) :
    Clean routine state fun value last =>
      condition value last ∧ state.Leads last := by
  intro hErrors
  rcases hClean hErrors with ⟨value, hRun, hCondition⟩
  exact ⟨value, hRun, hCondition, leads routine state⟩

theorem current_bind
    {following : Token → Parse α}
    {state : ParserState}
    {condition : α → ParserState → Prop} :
    Clean (current >>= following) state condition ↔
      Clean (following state.current) state condition := Iff.rfl

/- A routine that chooses how to go on by the next token. -/
theorem branch
    {kind : TokenKind}
    {first second : Parse α}
    {state : ParserState}
    {condition : α → ParserState → Prop}
    (hFirst :
      state.upcoming.kind = kind → Clean first state condition)
    (hSecond :
      state.upcoming.kind ≠ kind → Clean second state condition) :
    Clean
      (upcomingIs kind >>= fun found =>
        if found = true then first else second)
      state condition := by
  change Clean (if decide _ = true then first else second) _ _
  by_cases hKind : state.upcoming.kind = kind
  · rw [if_pos (decide_eq_true hKind)]
    exact hFirst hKind
  · rw [if_neg (by simpa using hKind)]
    exact hSecond hKind

theorem upcoming_bind
    {following : Token → Parse α}
    {state : ParserState}
    {condition : α → ParserState → Prop} :
    Clean (upcoming >>= following) state condition ↔
      Clean (following state.upcoming) state condition := Iff.rfl

theorem step_bind
    {following : Unit → Parse α}
    {state : ParserState}
    {condition : α → ParserState → Prop} :
    Clean (step >>= following) state condition ↔
      Clean (following ()) state.next condition := Iff.rfl

/- An error stays, so that no part of the run reports one. -/
theorem bind
    {routine : Parse α}
    {following : α → Parse β}
    {state : ParserState}
    {first : α → ParserState → Prop}
    {second : β → ParserState → Prop}
    [Forward routine]
    [∀ value, Forward (following value)]
    (hFirst : Clean routine state first)
    (hSecond :
      ∀ value middle, first value middle →
        middle.errors = state.errors →
          Clean (following value) middle second) :
    Clean (routine >>= following) state second := by
  intro hErrors
  have hBefore := (leads routine state).errors
  rw [bind_apply] at hErrors ⊢
  rcases hRun : routine state with ⟨value?, middle⟩
  rw [hRun] at hErrors hBefore
  cases value? with
  | none =>
      have hNone := hFirst (by rw [hRun]; exact hErrors)
      simp [hRun] at hNone
  | some value =>
      have hBehind := (leads (following value) middle).errors
      have hMiddle : middle.errors = state.errors := by
        have hLast := hErrors ▸ hBehind
        exact hLast.eq_of_length_le hBefore.length_le
      rcases hFirst (by rw [hRun]; exact hMiddle) with
        ⟨found, hFound, hCondition⟩
      rw [hRun] at hFound hCondition
      have hEq : value = found := Option.some.inj hFound
      subst hEq
      exact hSecond value middle hCondition hMiddle
        (hErrors.trans hMiddle.symm)

theorem expect
    (kind : TokenKind)
    (state : ParserState) :
    Clean (Parse.expect kind) state fun _ last =>
      state.upcoming.kind = kind ∧ last = state.next := by
  unfold Clean
  rw [expect_apply]
  split
  next hKind => exact fun _ => ⟨(), rfl, hKind, rfl⟩
  next =>
    intro hErrors
    exact absurd hErrors (by simp [ParserState.report])

/- A required token, and then what follows it. -/
theorem expect_bind
    {kind : TokenKind}
    {following : Unit → Parse α}
    {state : ParserState}
    {condition : α → ParserState → Prop}
    [∀ value, Forward (following value)]
    (hFollowing :
      state.upcoming.kind = kind →
        Clean (following ()) state.next condition) :
    Clean (Parse.expect kind >>= following) state condition := by
  refine bind (expect kind state) fun _ middle hMiddle _ => ?_
  rcases hMiddle with ⟨hKind, rfl⟩
  exact hFollowing hKind

theorem expectName
    (state : ParserState) :
    Clean Parse.expectName state fun name last =>
      state.upcoming.kind = .ident ∧
        name = identifierOf state.upcoming ∧ last = state.next := by
  unfold Parse.expectName
  refine .expect_bind fun hKind => ?_
  rw [Clean.current_bind]
  exact .pure ⟨hKind, rfl, rfl⟩

theorem attempt
    {routine : Parse α}
    {state : ParserState}
    {condition : α → ParserState → Prop}
    (hClean : Clean routine state condition) :
    Clean (Parse.attempt routine) state fun value? last =>
      ∃ value, value? = some value ∧ condition value last := by
  intro hErrors
  rcases hClean hErrors with ⟨value, hRun, hCondition⟩
  exact ⟨_, rfl, value, hRun, hCondition⟩

theorem terminated
    {routine : Parse α}
    {state : ParserState}
    {condition : α → ParserState → Prop}
    (hClean : Clean routine state condition) :
    Clean (Parse.terminated routine) state fun value last =>
      ∃ middle,
        condition value middle ∧ last = middle.pastSemicolon := by
  intro hErrors
  rw [terminated_apply] at hErrors ⊢
  rw [ParserState.errors_pastSemicolon] at hErrors
  rcases hClean hErrors with ⟨value, hRun, hCondition⟩
  exact ⟨value, hRun, _, hCondition, rfl⟩

end Clean

end Parse

end MonkeyLang
