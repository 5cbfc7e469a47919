import MonkeyLang.Proofs.Parsing.Attention
import MonkeyLang.Proofs.Parsing.Soundness

/-
  The first error of a run comes as soon as it can: the tokens
  in front of the one that it is about are the beginning of
  some phrase of the kind that was to be read.

  The proof follows the one for soundness. What has been read
  without errors is known from there; here each routine tells
  how to complete what was read when it reports an error.

  Main declarations:
    * `Viable`          (a beginning of a phrase)
    * `Parse.Stalls`    (the first error comes behind one)
    * `Parse.stalls`
    * `Parse.programStatements_stalls`
-/

------------------------------------------------------------
-- Beginnings of Phrases
------------------------------------------------------------

namespace MonkeyLang

/- Tokens that some others complete to a phrase. -/
def Viable
    (derives : List Token → α → Prop)
    (front : List Token) :
    Prop :=
  ∃ rest tree, derives (front ++ rest) tree

/- A token of some kind, with which a phrase can be completed. -/
def filler
    (kind : TokenKind) :
    Token :=
  ⟨⟨"", 0, 0⟩, kind⟩

namespace Viable

variable {derives : List Token → α → Prop}
variable {others : List Token → β → Prop}
variable {front : List Token}

/- A phrase that is complete. -/
theorem of_derived
    {tree : α}
    (hDerived : derives front tree) :
    Viable derives front :=
  ⟨[], tree, by rwa [List.append_nil]⟩

/- A phrase in which another one stands, and something behind it. -/
theorem inside
    {before : List Token}
    (behind : List Token)
    (hViable : Viable derives front)
    (hInside :
      ∀ tokens tree, derives tokens tree →
        ∃ outer, others (before ++ (tokens ++ behind)) outer) :
    Viable others (before ++ front) := by
  rcases hViable with ⟨rest, tree, hDerived⟩
  rcases hInside _ _ hDerived with ⟨outer, hOuter⟩
  refine ⟨rest ++ behind, outer, ?_⟩
  simpa only [List.append_assoc] using hOuter

/- A phrase at whose end another one stands. -/
theorem last
    {before : List Token}
    (hViable : Viable derives front)
    (hLast :
      ∀ tokens tree, derives tokens tree →
        ∃ outer, others (before ++ tokens) outer) :
    Viable others (before ++ front) := by
  rcases hViable with ⟨rest, tree, hDerived⟩
  rcases hLast _ _ hDerived with ⟨outer, hOuter⟩
  refine ⟨rest, outer, ?_⟩
  rwa [List.append_assoc]

theorem mono
    (hViable : Viable derives front)
    (hDerives :
      ∀ tokens tree, derives tokens tree →
        ∃ outer, others tokens outer) :
    Viable others front :=
  List.nil_append front ▸ hViable.last hDerives

end Viable

/- Expressions of a level are read where tighter ones can be. -/
theorem Viable.loosen
    {low high : Nat}
    {front : List Token}
    (hViable : Viable (Grammar.Expression high) front)
    (hLevel : low ≤ high) :
    Viable (Grammar.Expression low) front :=
  hViable.mono fun _ tree hDerived => ⟨tree, hDerived.loosen hLevel⟩

namespace Grammar

/- A name can stand wherever an expression can. -/
theorem Expression.filler
    {level : Nat}
    (hLevel : level ≤ callLevel) :
    Expression level [MonkeyLang.filler .ident]
      (.identifier ⟨(MonkeyLang.filler .ident).toMark, ""⟩) :=
  .loosen hLevel (.primary (.identifier rfl))

theorem Block.filler :
    Block [MonkeyLang.filler .lbrace, MonkeyLang.filler .rbrace]
      (.block (MonkeyLang.filler .lbrace).toMark []) :=
  .intro rfl .none rfl

end Grammar

/- No tokens at all begin an expression. -/
theorem Viable.nil
    {level : Nat}
    (hLevel : level ≤ Grammar.callLevel) :
    Viable (Grammar.Expression level) [] :=
  ⟨[filler .ident], _, .filler hLevel⟩

------------------------------------------------------------
-- Runs That Stall
------------------------------------------------------------

namespace Parse

/-
  If a run reports errors, the first one is about the token
  behind a beginning of a phrase, counted from some state
  before the run.
-/
def Stalls
    (routine : Parse α)
    (state first : ParserState)
    (viable : List Token → Prop) :
    Prop :=
  ∀ error more,
    (routine state).2.errors = state.errors ++ error :: more →
      ∃ front rest,
        first.ahead = front ++ rest ∧
          error.Concerns (rest.headD first.ending) ∧ viable front

namespace Stalls

variable {routine : Parse α} {following : α → Parse β}
variable {state first : ParserState}
variable {viable others : List Token → Prop}
variable {tokens : List Token}

theorem of_errors_eq
    (hErrors : (routine state).2.errors = state.errors) :
    Stalls routine state first viable := by
  intro error more hMore
  simp [hErrors] at hMore

theorem pure
    (value : α) :
    Stalls (Pure.pure value : Parse α) state first viable :=
  of_errors_eq rfl

theorem mono
    (hStalls : Stalls routine state first viable)
    (hViable : ∀ front, viable front → others front) :
    Stalls routine state first others := by
  intro error more hErrors
  rcases hStalls error more hErrors with
    ⟨front, rest, hAhead, hConcerns, hFront⟩
  exact ⟨front, rest, hAhead, hConcerns, hViable front hFront⟩

theorem congr
    {other : Parse α}
    (hStalls : Stalls other state first viable)
    (hRun : routine state = other state) :
    Stalls routine state first viable := by
  unfold Stalls
  rw [hRun]
  exact hStalls

/- What comes behind some tokens, counted from these on. -/
theorem behind_of_ahead
    {middle : ParserState}
    (hStalls : Stalls routine state middle viable)
    (hSpans : first.Spans tokens middle)
    (hViable :
      ∀ front rest, middle.ahead = front ++ rest → viable front →
        others (tokens ++ front)) :
    Stalls routine state first others := by
  intro error more hErrors
  rcases hStalls error more hErrors with
    ⟨front, rest, hAhead, hConcerns, hFront⟩
  refine
    ⟨tokens ++ front, rest, ?_, ?_, hViable front rest hAhead hFront⟩
  · rw [hSpans.ahead, hAhead, List.append_assoc]
  · rwa [← hSpans.ending]

theorem behind
    {middle : ParserState}
    (hStalls : Stalls routine state middle viable)
    (hSpans : first.Spans tokens middle)
    (hViable : ∀ front, viable front → others (tokens ++ front)) :
    Stalls routine state first others :=
  hStalls.behind_of_ahead hSpans fun front _ _ => hViable front

/- An error about the current token. -/
theorem fail
    (cause : SyntaxError.Cause)
    (hSpans : first.Spans tokens state)
    (hViable : viable tokens) :
    Stalls (Parse.fail state.current cause : Parse α) state first
      viable := by
  intro error more hErrors
  have hError : error = .about state.current cause := by
    have hList := List.append_cancel_left hErrors
    exact (List.cons.inj hList).1.symm
  subst hError
  refine ⟨tokens, state.ahead, hSpans.ahead, ?_, hViable⟩
  rw [← hSpans.ending]
  exact ⟨rfl, rfl⟩

theorem current_bind
    {following : Token → Parse β} :
    Stalls (current >>= following) state first viable ↔
      Stalls (following state.current) state first viable := Iff.rfl

theorem upcoming_bind
    {following : Token → Parse β} :
    Stalls (upcoming >>= following) state first viable ↔
      Stalls (following state.upcoming) state first viable := Iff.rfl

theorem step_bind
    {following : Unit → Parse β} :
    Stalls (step >>= following) state first viable ↔
      Stalls (following ()) state.next first viable := Iff.rfl

/- The first error is in the first routine, or that one is clean. -/
theorem bind
    {condition : α → ParserState → Prop}
    [Forward routine]
    [∀ value, Forward (following value)]
    (hFirst : Stalls routine state first viable)
    (hClean : Clean routine state condition)
    (hNext :
      ∀ value middle, condition value middle →
        Stalls (following value) middle first viable) :
    Stalls (routine >>= following) state first viable := by
  intro error more hErrors
  have hForward := (leads routine state).errors
  rw [bind_apply] at hErrors
  rcases hRun : routine state with ⟨value?, middle⟩
  rw [hRun] at hErrors hForward
  rcases hForward with ⟨found, hFound⟩
  change _ = middle.errors at hFound
  cases found with
  | nil =>
      rw [List.append_nil] at hFound
      rcases hClean (by rw [hRun]; exact hFound.symm) with
        ⟨value, hValue, hCondition⟩
      rw [hRun] at hValue hCondition
      cases hValue
      refine hNext value middle hCondition error more ?_
      rw [← hFound]
      exact hErrors
  | cons earlier later =>
      have hEarlier := hFirst earlier later (by rw [hRun, hFound])
      have hLast :
          ∃ added,
            (state.errors ++ earlier :: later) ++ added =
              state.errors ++ error :: more := by
        cases value? with
        | none =>
            rw [← hFound] at hErrors
            exact ⟨[], by rw [List.append_nil]; exact hErrors⟩
        | some value =>
            have hBehind := (leads (following value) middle).errors
            rw [← hFound] at hBehind
            rcases hBehind with ⟨added, hAdded⟩
            exact ⟨added, hAdded.trans hErrors⟩
      rcases hLast with ⟨added, hAdded⟩
      rw [List.append_assoc] at hAdded
      have hSame := (List.cons.inj (List.append_cancel_left hAdded)).1
      rwa [← hSame]

/- What is built from the result reports nothing. -/
theorem map
    (build : α → β)
    (hStalls : Stalls routine state first viable) :
    Stalls (routine >>= fun value => Pure.pure (build value)) state
      first viable := by
  intro error more hErrors
  refine hStalls error more ?_
  rw [← hErrors, bind_apply]
  split
  next hRun => rw [hRun]; rfl
  next hRun => rw [hRun]

theorem branch
    {kind : TokenKind}
    {one other : Parse β}
    (hFirst :
      state.upcoming.kind = kind → Stalls one state first viable)
    (hSecond :
      state.upcoming.kind ≠ kind → Stalls other state first viable) :
    Stalls
      (upcomingIs kind >>= fun found =>
        if found = true then one else other)
      state first viable := by
  change Stalls (if decide _ = true then one else other) _ _ _
  by_cases hKind : state.upcoming.kind = kind
  · rw [if_pos (decide_eq_true hKind)]
    exact hFirst hKind
  · rw [if_neg (by simpa using hKind)]
    exact hSecond hKind

/- An error about the next token, if that is not the wanted one. -/
theorem expect_bind
    {kind : TokenKind}
    {following : Unit → Parse β}
    [∀ value, Forward (following value)]
    (hSpans : first.Spans tokens state.next)
    (hViable : viable tokens)
    (hNext :
      state.upcoming.kind = kind →
        Stalls (following ()) state.next first viable) :
    Stalls (Parse.expect kind >>= following) state first viable := by
  have hExpect : Stalls (Parse.expect kind) state first viable := by
    unfold Parse.expect
    rw [upcoming_bind]
    split
    · exact of_errors_eq rfl
    · have hNow : Stalls (Parse.fail state.next.current _ : Parse Unit)
          state.next first viable :=
        fail (.unexpected kind state.upcoming.kind) hSpans hViable
      exact hNow
  refine bind hExpect (.expect kind state) fun _ middle hMiddle => ?_
  rcases hMiddle with ⟨hKind, rfl⟩
  exact hNext hKind

theorem expectName
    (hSpans : first.Spans tokens state.next)
    (hViable : viable tokens) :
    Stalls Parse.expectName state first viable := by
  refine expect_bind hSpans hViable fun _ => ?_
  exact of_errors_eq rfl

theorem attempt
    (hStalls : Stalls routine state first viable) :
    Stalls (Parse.attempt routine) state first viable :=
  hStalls

theorem terminated
    (hStalls : Stalls routine state first viable) :
    Stalls (Parse.terminated routine) state first viable := by
  intro error more hErrors
  rw [terminated_apply, ParserState.errors_pastSemicolon] at hErrors
  exact hStalls error more hErrors

end Stalls

/- What is read here, without a bound on the tokens ahead. -/
theorem argumentsBehind_clean
    (state : ParserState) :
    Clean argumentsBehind state fun nodes last =>
      ∃ tokens,
        state.next.Spans tokens last.next ∧
          Grammar.MoreArguments tokens nodes :=
  argumentsBehind_sound (fun inner _ => (sound inner).1) state
    (Nat.le_refl _)

/- From here, the first error of an expression comes early. -/
def StallsExpression
    (state : ParserState) :
    Prop :=
  ∀ precedence,
    Stalls (expression precedence) state state
      (Viable (Grammar.Expression (levelAbove precedence)))

/- So does the first error of a statement. -/
def StallsStatement
    (state : ParserState) :
    Prop :=
  Stalls statement state state (Viable Grammar.Statement)

------------------------------------------------------------
-- Operands
------------------------------------------------------------

theorem integerLiteral_stalls
    {state : ParserState}
    {viable : List Token → Prop}
    (hViable : viable []) :
    Stalls integerLiteral state state viable := by
  unfold integerLiteral
  rw [Stalls.current_bind]
  cases integerValue? state.current.literal with
  | none => exact .fail _ (.refl state) hViable
  | some value => exact .pure _

theorem booleanLiteral_stalls
    {state : ParserState}
    {viable : List Token → Prop}
    (hViable : viable []) :
    Stalls booleanLiteral state state viable := by
  unfold booleanLiteral
  rw [Stalls.current_bind]
  split
  · exact .pure _
  · split
    · exact .pure _
    · exact .fail _ (.refl state) hViable

theorem parametersBehind_stalls
    (state : ParserState) :
    Stalls parametersBehind state state.next
      (Viable Grammar.MoreNames) := by
  induction hLength : state.next.ahead.length
    using Nat.strongRecOn generalizing state with
  | _ length ih =>
      rw [parametersBehind_eq]
      refine .branch (fun hComma => ?_) fun _ => .pure _
      rw [Stalls.step_bind]
      have hFirst : state.next.current.kind ≠ .eof := by
        rw [ParserState.current_next, hComma]
        decide
      have hShorter := ParserState.length_next_lt hFirst
      refine .bind (.expectName (.one hFirst) ?_)
        (.expectName state.next) ?_
      · exact ⟨[filler .ident], _, .more hComma rfl .none⟩
      rintro name middle ⟨hName, rfl, rfl⟩
      have hSecond : state.next.next.current.kind ≠ .eof := by
        rw [ParserState.current_next, hName]
        decide
      have hFewer := ParserState.length_next_lt hSecond
      have hMore := ih _ (by omega) state.next.next rfl
      have hBefore := ParserState.Spans.cons hFirst (.one hSecond)
      refine .map _ (hMore.behind hBefore fun front hFront => ?_)
      exact hFront.last fun _ _ hNames => ⟨_, .more hComma hName hNames⟩

theorem parameters_stalls
    (state : ParserState) :
    Stalls parameters state state.next (Viable Grammar.Names) := by
  rw [parameters_eq]
  refine .branch (fun _ => .of_errors_eq rfl) fun _ => ?_
  refine .bind (.expectName (.refl _) ⟨[], _, .none⟩)
    (.expectName state) ?_
  rintro name middle ⟨hName, rfl, rfl⟩
  have hFirst : state.next.current.kind ≠ .eof := by
    rw [ParserState.current_next, hName]
    decide
  refine .bind
    ((parametersBehind_stalls state.next).behind (.one hFirst)
      fun front hFront => ?_)
    (parametersBehind_sound state.next) ?_
  · exact hFront.last fun _ _ hNames => ⟨_, .some hName hNames⟩
  rintro names last ⟨tokens, hSpans, hNames⟩
  refine .expect_bind (.cons hFirst hSpans) ?_ fun _ => .pure _
  exact .of_derived (.some hName hNames)

section

variable {bound : Nat} {state : ParserState}
variable
  (hExpression :
    ∀ inner : ParserState,
      inner.ahead.length < bound → StallsExpression inner)
variable
  (hStatement :
    ∀ inner : ParserState,
      inner.ahead.length < bound → StallsStatement inner)
variable (hState : state.ahead.length ≤ bound)

include hExpression hState

theorem unary_stalls
    (hKind : state.current.kind ∈ Grammar.unaryOperators) :
    Stalls unary state state
      (Viable (Grammar.Expression Grammar.unaryLevel)) := by
  have hEnd := Grammar.ne_eof_of_mem_unaryOperators hKind
  have hShorter := ParserState.length_next_lt hEnd
  rw [unary_eq]
  unfold unaryWith
  rw [Stalls.current_bind, Stalls.step_bind]
  have hOperand := hExpression state.next (by omega) .unary
  refine .map _ (hOperand.behind (.one hEnd) fun front hFront => ?_)
  exact hFront.last fun _ _ hDerived => ⟨_, .unary hKind hDerived⟩

theorem grouped_stalls
    (hKind : state.current.kind = .lparen) :
    Stalls grouped state state (Viable Grammar.Primary) := by
  have hEnd : state.current.kind ≠ .eof := by simp [hKind]
  have hShorter := ParserState.length_next_lt hEnd
  have hGroup :
      ∀ tokens node, Grammar.Expression Grammar.anyLevel tokens node →
        ∃ outer,
          Grammar.Primary
            ([state.current] ++ (tokens ++ [filler .rparen])) outer :=
    fun _ _ hDerived => ⟨_, .grouped hKind hDerived rfl⟩
  rw [grouped_eq]
  unfold groupedWith
  rw [Stalls.step_bind]
  have hInner := hExpression state.next (by omega) .lowest
  refine .bind (hInner.behind (.one hEnd) fun front hFront => ?_)
    ((sound state.next).1 .lowest) ?_
  · exact hFront.inside _ hGroup
  rintro node last ⟨tokens, hSpans, hDerived, -⟩
  refine .expect_bind (.cons hEnd hSpans) ?_ fun _ => .pure _
  exact (Viable.of_derived hDerived).inside _ hGroup

omit hState in
theorem argumentsBehind_stalls
    (state : ParserState)
    (hState : state.next.ahead.length ≤ bound) :
    Stalls argumentsBehind state state.next
      (Viable Grammar.MoreArguments) := by
  induction hLength : state.next.ahead.length
    using Nat.strongRecOn generalizing state with
  | _ length ih =>
      rw [argumentsBehind_eq]
      refine .branch (fun hComma => ?_) fun _ => .pure _
      rw [Stalls.step_bind, Stalls.step_bind]
      have hFirst : state.next.current.kind ≠ .eof := by
        rw [ParserState.current_next, hComma]
        decide
      have hShorter := ParserState.length_next_lt hFirst
      have hArgument := hExpression state.next.next (by omega) .lowest
      refine .bind (hArgument.behind (.one hFirst) fun front hFront => ?_)
        ((sound _).1 .lowest) ?_
      · refine hFront.last fun tokens node hDerived => ⟨[node], ?_⟩
        simpa using Grammar.MoreArguments.more hComma hDerived .none
      rintro node middle ⟨tokens, hSpans, hDerived, -⟩
      have hFewer := hSpans.length_le
      have hMore := ih _ (by omega) middle (by omega) rfl
      have hBefore := ParserState.Spans.cons hFirst hSpans
      refine .map _ (hMore.behind hBefore fun front hFront => ?_)
      exact hFront.last fun _ _ hOthers =>
        ⟨_, .more hComma hDerived hOthers⟩

theorem arguments_stalls
    (hKind : state.current.kind = .lparen) :
    Stalls arguments state state.next (Viable Grammar.Arguments) := by
  have hShorter : state.next.ahead.length < state.ahead.length :=
    ParserState.length_next_lt (by simp [hKind])
  have hArgument := hExpression state.next (by omega) .lowest
  rw [arguments_eq]
  refine .branch (fun _ => .of_errors_eq rfl) fun _ => ?_
  rw [Stalls.step_bind]
  refine .bind (hArgument.mono fun front hFront => ?_)
    ((sound _).1 .lowest) ?_
  · refine hFront.mono fun tokens node hDerived => ⟨[node], ?_⟩
    simpa using Grammar.Arguments.some hDerived .none
  rintro node middle ⟨tokens, hSpans, hDerived, -⟩
  have hFewer := hSpans.length_le
  have hMore := argumentsBehind_stalls hExpression middle (by omega)
  refine .bind (hMore.behind hSpans fun front hFront => ?_)
    (argumentsBehind_clean middle) ?_
  · exact hFront.last fun _ _ hOthers => ⟨_, .some hDerived hOthers⟩
  rintro nodes last ⟨others, hOthers, hNodes⟩
  refine .expect_bind (hSpans.trans hOthers) ?_ fun _ => .pure _
  exact .of_derived (.some hDerived hNodes)

/- The right operand is looser than what was read before it. -/
theorem binary_stalls
    {middle : ParserState}
    {left : Node}
    {low : Nat}
    (hLeft : ReadsPart low state left middle)
    (hLow : low ≤ (precedenceOf middle.upcoming.kind).level)
    (hKind : extension? middle.upcoming.kind = some .binary) :
    Stalls (binary left) middle.next state
      (Viable (Grammar.Expression low)) := by
  rcases hLeft with
    ⟨level, tokens, -, hBefore, hLeftDerived, hLoose⟩
  rcases level_of_binary hKind with ⟨hOperator, hAbove⟩
  have hEnd : middle.next.current.kind ≠ .eof :=
    Grammar.ne_eof_of_mem_binaryOperatorsAt hOperator
  have hShorter := ParserState.length_next_lt hEnd
  have hFewer := hBefore.length_le
  rw [binary_eq]
  unfold binaryWith
  rw [Stalls.current_bind, Stalls.step_bind]
  have hWhole :
      ∀ right node,
        Grammar.Expression
            ((precedenceOf middle.upcoming.kind).level + 1) right node →
          ∃ outer,
            Grammar.Expression
              (precedenceOf middle.upcoming.kind).level
              (tokens ++ [middle.next.current] ++ right) outer := by
    intro right node hDerived
    rw [List.append_assoc]
    exact
      ⟨_, .binary hOperator (hLeftDerived.loosen hLoose) hDerived⟩
  have hRight :=
    hExpression middle.next.next (by omega)
      (precedenceOf middle.next.current.kind)
  refine
    .map _ (hRight.behind (hBefore.concat hEnd) fun front hFront => ?_)
  rw [ParserState.current_next, hAbove] at hFront
  exact (hFront.last hWhole).loosen hLow

theorem call_stalls
    {middle : ParserState}
    {left : Node}
    {low : Nat}
    (hLeft : ReadsPart low state left middle)
    (hLow : low ≤ (precedenceOf middle.upcoming.kind).level)
    (hKind : middle.upcoming.kind = .lparen) :
    Stalls (call left) middle.next state
      (Viable (Grammar.Expression low)) := by
  rcases hLeft with
    ⟨level, tokens, -, hBefore, hLeftDerived, hLoose⟩
  have hEnd : middle.next.current.kind ≠ .eof := by simp [hKind]
  have hFewer := hBefore.length_le
  rw [hKind] at hLow hLoose
  have hArguments :=
    arguments_stalls hExpression
      (show middle.next.ahead.length ≤ bound by omega) hKind
  rw [call_eq, Stalls.current_bind]
  have hWhole :
      ∀ inner nodes, Grammar.Arguments inner nodes →
        ∃ outer,
          Grammar.Expression Grammar.callLevel
            (tokens ++ [middle.next.current] ++
              (inner ++ [filler .rparen])) outer := by
    intro inner nodes hDerived
    rw [List.append_assoc]
    exact
      ⟨_, .call (hLeftDerived.loosen hLoose) hKind hDerived rfl⟩
  refine
    .map _
      (hArguments.behind (hBefore.concat hEnd) fun front hFront => ?_)
  exact (hFront.inside _ hWhole).loosen hLow

theorem widened_stalls
    {precedence : Precedence}
    {extension : Extension}
    {left : Node}
    {middle : ParserState}
    (hLeft : ReadsPart (levelAbove precedence) state left middle)
    (hLow :
      levelAbove precedence ≤
        (precedenceOf middle.upcoming.kind).level)
    (hExtension : extension? middle.upcoming.kind = some extension) :
    Stalls (widened extension left) middle.next state
      (Viable (Grammar.Expression (levelAbove precedence))) := by
  cases extension with
  | binary =>
      exact binary_stalls hExpression hState hLeft hLow hExtension
  | call =>
      exact
        call_stalls hExpression hState hLeft hLow
          (kind_of_call hExtension)

theorem extend_stalls
    {precedence : Precedence}
    {left : Node}
    {middle : ParserState}
    (hLeft : ReadsPart (levelAbove precedence) state left middle) :
    Stalls (extend precedence left) middle state
      (Viable (Grammar.Expression (levelAbove precedence))) := by
  induction hLength : middle.next.ahead.length
    using Nat.strongRecOn generalizing middle left with
  | _ length ih =>
      rw [extend_eq, Stalls.upcoming_bind]
      split
      next hTighter =>
        have hLow :
            levelAbove precedence ≤
              (precedenceOf middle.upcoming.kind).level :=
          Nat.le_trans (Nat.min_le_left _ _) hTighter.2
        cases hExtension : extension? middle.upcoming.kind with
        | none => exact .pure _
        | some extension =>
            have hWider :=
              widened_sound (fun inner _ => (sound inner).1)
                (Nat.le_refl _) hLeft hLow hExtension
            have hShorter :
                middle.next.next.ahead.length <
                  middle.next.ahead.length :=
              ParserState.length_next_lt
                (ne_eof_of_extension? hExtension)
            rw [Stalls.step_bind]
            refine .bind
              (widened_stalls hExpression hState hLeft hLow hExtension)
              hWider.forward ?_
            rintro wider last ⟨hReads, hLeads⟩
            have hFewer := hLeads.length_ahead_le
            refine ih _ ?_ hReads rfl
            rw [ParserState.length_ahead_next last]
            omega
      next => exact .pure _

end

------------------------------------------------------------
-- Statements in a Row
------------------------------------------------------------

/- Behind a statement, the beginning of others is one as well. -/
theorem ReadsStatement.viable_prepend
    {first middle : ParserState}
    {node : Node}
    (hReads : ReadsStatement first node middle) :
    ∃ tokens,
      first.Spans tokens middle.next ∧
        ∀ front rest, middle.next.ahead = front ++ rest →
          Viable Grammar.Statements front →
            Viable Grammar.Statements (tokens ++ front) := by
  rcases hReads with
    ⟨tokens, hStatement,
      ⟨semicolon, hKind, hSpans⟩ | ⟨hSpans, hNext⟩⟩
  · refine ⟨_, hSpans, fun front rest _ hFront => ?_⟩
    refine hFront.last fun others nodes hOthers => ?_
    rw [List.append_assoc]
    exact ⟨_, .ended hStatement hKind hOthers⟩
  · refine ⟨_, hSpans, fun front rest hAhead hFront => ?_⟩
    cases front with
    | nil =>
        exact .of_derived (.unended hStatement .none (by simp))
    | cons token front =>
        rcases hFront with ⟨more, nodes, hOthers⟩
        have hCurrent : middle.upcoming = token :=
          ParserState.current_of_ahead hAhead
        refine ⟨more, node :: nodes, ?_⟩
        rw [List.append_assoc]
        refine .unended hStatement hOthers fun next hHead => ?_
        have hEq : token = next := by simpa using hHead
        exact hEq ▸ hCurrent ▸ hNext

/-
  A loop over statements: it reports nothing, or that it should
  not end here, or it goes on with one statement more.
-/
theorem statements_stalls
    {bound : Nat}
    {loop : Parse (List Node)}
    [Forward loop]
    (hLoop :
      ∀ state : ParserState,
        (loop state).2.errors = state.errors ∨
        (∃ cause, loop state = fail state.current cause state) ∨
        loop state = prependWith statement loop state)
    (hStatement :
      ∀ inner : ParserState,
        inner.ahead.length < bound → StallsStatement inner)
    {state : ParserState}
    (hState : state.ahead.length < bound) :
    Stalls loop state state (Viable Grammar.Statements) := by
  induction hLength : state.ahead.length
    using Nat.strongRecOn generalizing state with
  | _ length ih =>
      rcases hLoop state with hErrors | ⟨cause, hRun⟩ | hRun
      · exact .of_errors_eq hErrors
      · exact
          .congr (.fail cause (.refl state) ⟨[], [], .none⟩) hRun
      · refine .congr (Stalls.bind (Stalls.attempt ?_)
          (.attempt (sound state).2) ?_) hRun
        · refine (hStatement state hState).mono fun front hFront => ?_
          refine hFront.mono fun tokens node hDerived => ⟨[node], ?_⟩
          simpa using Grammar.Statements.unended hDerived .none (by simp)
        · rintro node? middle ⟨node, rfl, hReads⟩
          have hFewer := hReads.length_lt
          rcases hReads.viable_prepend with ⟨tokens, hSpans, hViable⟩
          rw [Stalls.step_bind]
          have hOthers :
              Stalls loop middle.next middle.next
                (Viable Grammar.Statements) :=
            ih _ (by omega) (by omega) rfl
          exact .map _ (hOthers.behind_of_ahead hSpans hViable)

section

variable {bound : Nat} {state : ParserState}
variable
  (hExpression :
    ∀ inner : ParserState,
      inner.ahead.length < bound → StallsExpression inner)
variable
  (hStatement :
    ∀ inner : ParserState,
      inner.ahead.length < bound → StallsStatement inner)
variable (hState : state.ahead.length ≤ bound)

include hStatement hState

theorem block_stalls
    (hKind : state.current.kind = .lbrace) :
    Stalls block state state (Viable Grammar.Block) := by
  have hEnd : state.current.kind ≠ .eof := by simp [hKind]
  have hShorter := ParserState.length_next_lt hEnd
  have hLoop :
      ∀ inner : ParserState,
        (blockStatements inner).2.errors = inner.errors ∨
        (∃ cause,
          blockStatements inner = fail inner.current cause inner) ∨
        blockStatements inner =
          prependWith statement blockStatements inner := by
    intro inner
    rw [blockStatements_eq, current_bind]
    split
    next => exact .inl rfl
    next =>
      split
      next => exact .inr (.inl ⟨_, rfl⟩)
      next =>
        rw [← blockStatements_eq]
        exact .inr (.inr rfl)
  have hInside :=
    statements_stalls hLoop hStatement
      (show state.next.ahead.length < bound by omega)
  rw [block_eq, Stalls.current_bind, Stalls.step_bind]
  refine .map _ (hInside.behind (.one hEnd) fun front hFront => ?_)
  refine hFront.inside [filler .rbrace] fun tokens nodes hDerived => ?_
  exact ⟨_, .intro hKind hDerived rfl⟩

theorem functionLiteral_stalls
    (hKind : state.current.kind = .fnWord) :
    Stalls functionLiteral state state (Viable Grammar.Primary) := by
  have hWord : state.current.kind ≠ .eof := by simp [hKind]
  have hShorter := ParserState.length_next_lt hWord
  rw [functionLiteral_eq, Stalls.current_bind]
  refine .expect_bind (.one hWord) ?_ fun hOpening => ?_
  · refine
      ⟨[filler .lparen, filler .rparen, filler .lbrace, filler .rbrace],
        ?_⟩
    exact ⟨_, .function hKind rfl .none rfl .filler⟩
  have hOpen : state.next.current.kind ≠ .eof := by simp [hOpening]
  have hFirst := ParserState.length_next_lt hOpen
  have hStart := ParserState.Spans.cons hWord (.one hOpen)
  refine .bind
    ((parameters_stalls state.next).behind hStart fun front hFront => ?_)
    (parameters_sound state.next) ?_
  · refine
      hFront.inside
        [filler .rparen, filler .lbrace, filler .rbrace] ?_
    intro tokens names hNames
    exact ⟨_, .function hKind hOpening hNames rfl .filler⟩
  rintro names middle ⟨hClosing, parameters, hBefore, hNames⟩
  have hClose : middle.current.kind ≠ .eof := by simp [hClosing]
  have hFewer := hBefore.length_le
  have hLast := ParserState.length_next_lt hClose
  have hHead := hStart.trans (hBefore.concat hClose)
  have hWhole :
      ∀ body node, Grammar.Block body node →
        ∃ outer,
          Grammar.Primary
            ([state.current, state.next.current] ++
              (parameters ++ [middle.current]) ++ body) outer := by
    intro body node hBody
    rw [List.append_assoc, List.append_assoc]
    exact ⟨_, .function hKind hOpening hNames hClosing hBody⟩
  refine .expect_bind hHead ?_ fun hBrace => ?_
  · rcases hWhole _ _ .filler with ⟨outer, hOuter⟩
    exact ⟨_, outer, hOuter⟩
  have hBody :=
    block_stalls hStatement
      (show middle.next.ahead.length ≤ bound by omega) hBrace
  exact .map _ (hBody.behind hHead fun front hFront => hFront.last hWhole)

include hExpression

set_option synthInstance.maxSize 512 in
theorem ifExpression_stalls
    (hKind : state.current.kind = .ifWord) :
    Stalls ifExpression state state (Viable Grammar.Primary) := by
  have hWord : state.current.kind ≠ .eof := by simp [hKind]
  have hShorter := ParserState.length_next_lt hWord
  rw [ifExpression_eq]
  unfold ifExpressionWith
  rw [Stalls.current_bind]
  have hName : Grammar.Expression Grammar.anyLevel [filler .ident] _ :=
    .filler (by decide)
  refine .expect_bind (.one hWord) ?_ fun hOpening => ?_
  · refine
      ⟨[filler .lparen, filler .ident, filler .rparen,
        filler .lbrace, filler .rbrace], ?_⟩
    exact ⟨_, .ifThen hKind rfl hName rfl .filler⟩
  have hOpen : state.next.current.kind ≠ .eof := by simp [hOpening]
  have hFirst := ParserState.length_next_lt hOpen
  have hStart := ParserState.Spans.cons hWord (.one hOpen)
  rw [Stalls.step_bind]
  have hTest := hExpression state.next.next (by omega) .lowest
  refine .bind (hTest.behind hStart fun front hFront => ?_)
    ((sound _).1 .lowest) ?_
  · refine
      hFront.inside
        [filler .rparen, filler .lbrace, filler .rbrace] ?_
    intro tokens node hCondition
    exact ⟨_, .ifThen hKind hOpening hCondition rfl .filler⟩
  rintro node middle ⟨condition, hSpans, hCondition, -⟩
  have hFewer := hSpans.length_le
  have hBefore := hStart.trans hSpans
  refine .expect_bind hBefore ?_ fun hClosing => ?_
  · refine ⟨[filler .rparen, filler .lbrace, filler .rbrace], ?_⟩
    rw [List.append_assoc]
    exact ⟨_, .ifThen hKind hOpening hCondition rfl .filler⟩
  have hClose : middle.next.current.kind ≠ .eof := by simp [hClosing]
  have hLast := ParserState.length_next_lt hClose
  have hHead := hBefore.concat hClose
  have hWhole :
      ∀ body node, Grammar.Block body node →
        ∃ outer,
          Grammar.Primary
            ([state.current, state.next.current] ++ condition ++
              [middle.next.current] ++ body) outer := by
    intro body node hBody
    simp only [List.append_assoc]
    exact ⟨_, .ifThen hKind hOpening hCondition hClosing hBody⟩
  refine .expect_bind hHead ?_ fun hBrace => ?_
  · rcases hWhole _ _ .filler with ⟨outer, hOuter⟩
    exact ⟨_, outer, hOuter⟩
  have hBody :=
    block_stalls hStatement
      (show middle.next.next.ahead.length ≤ bound by omega) hBrace
  refine .bind (hBody.behind hHead fun front hFront => hFront.last hWhole)
    (block_sound (fun inner _ => (sound inner).2) (Nat.le_refl _) hBrace)
    ?_
  rintro consequence last ⟨body, hBodySpans, hBlock⟩
  have hBodyFewer := hBodySpans.length_le
  refine .branch (fun hElse => ?_) fun _ => .pure _
  have hOther : last.next.current.kind ≠ .eof := by simp [hElse]
  have hOtherLast := ParserState.length_next_lt hOther
  have hBoth := (hHead.trans hBodySpans).concat hOther
  have hRest :
      ∀ other node, Grammar.Block other node →
        ∃ outer,
          Grammar.Primary
            ([state.current, state.next.current] ++ condition ++
              [middle.next.current] ++ body ++ [last.next.current] ++
              other) outer := by
    intro other node hOtherBody
    simp only [List.append_assoc]
    exact ⟨_, .ifElse hKind hOpening hCondition hClosing hBlock hElse
      hOtherBody⟩
  rw [Stalls.step_bind]
  refine .expect_bind hBoth ?_ fun hOtherBrace => ?_
  · rcases hRest _ _ .filler with ⟨outer, hOuter⟩
    exact ⟨_, outer, hOuter⟩
  have hOtherBody :=
    block_stalls hStatement
      (show last.next.next.ahead.length ≤ bound by omega) hOtherBrace
  exact
    .map _
      (hOtherBody.behind hBoth fun front hFront => hFront.last hRest)

------------------------------------------------------------
-- Expressions and Statements
------------------------------------------------------------

theorem opened_stalls
    {opening : Opening}
    (hOpening : opening? state.current.kind = some opening) :
    Stalls (opened opening) state state
      (Viable (Grammar.Expression Grammar.unaryLevel)) := by
  have hKind := Grammar.kind_of_opening? hOpening
  have hPrimary :
      ∀ front, Viable Grammar.Primary front →
        Viable (Grammar.Expression Grammar.unaryLevel) front := by
    intro front hFront
    refine hFront.mono fun tokens node hDerived => ?_
    exact ⟨node, .loosen (by decide) (.primary hDerived)⟩
  cases opening with
  | identifier | string => exact .of_errors_eq rfl
  | integer => exact integerLiteral_stalls (.nil (by decide))
  | boolean => exact booleanLiteral_stalls (.nil (by decide))
  | unary => exact unary_stalls hExpression hState hKind
  | grouped =>
      exact (grouped_stalls hExpression hState hKind).mono hPrimary
  | ifExpression =>
      exact
        (ifExpression_stalls hExpression hStatement hState hKind).mono
          hPrimary
  | functionLiteral =>
      exact
        (functionLiteral_stalls hStatement hState hKind).mono hPrimary

theorem stallsExpression_of_inner : StallsExpression state := by
  intro precedence
  have hLevel := levelAbove_le_unaryLevel precedence
  rw [expression_eq, Stalls.current_bind]
  cases hOpening : opening? state.current.kind with
  | none =>
      refine .fail _ (.refl state) (.nil ?_)
      exact Nat.le_trans hLevel (by decide)
  | some opening =>
      have hOpened :=
        opened_stalls hExpression hStatement hState hOpening
      refine .bind (hOpened.mono fun front hFront => ?_)
        (opened_sound (fun inner _ => (sound inner).1)
          (fun inner _ => (sound inner).2) (Nat.le_refl _) hOpening) ?_
      · exact hFront.loosen hLevel
      intro left middle hReads
      exact extend_stalls hExpression hState (hReads.mono hLevel)

omit hStatement in
theorem letStatement_stalls
    (hKind : state.current.kind = .letWord) :
    Stalls (letStatementWith expression) state state
      (Viable Grammar.Statement) := by
  have hWord : state.current.kind ≠ .eof := by simp [hKind]
  have hShorter := ParserState.length_next_lt hWord
  have hFiller : Grammar.Expression Grammar.anyLevel [filler .ident] _ :=
    .filler (by decide)
  unfold letStatementWith
  rw [Stalls.current_bind]
  refine .bind (.expectName (.one hWord) ?_) (.expectName state) ?_
  · refine ⟨[filler .ident, filler .assign, filler .ident], ?_⟩
    exact ⟨_, .letStatement hKind rfl rfl hFiller⟩
  rintro name middle ⟨hName, rfl, rfl⟩
  have hSecond : state.next.current.kind ≠ .eof := by simp [hName]
  have hStart := ParserState.Spans.cons hWord (.one hSecond)
  refine .expect_bind hStart ?_ fun hSign => ?_
  · refine ⟨[filler .assign, filler .ident], ?_⟩
    exact ⟨_, .letStatement hKind hName rfl hFiller⟩
  have hThird : state.next.next.current.kind ≠ .eof := by simp [hSign]
  have hFewer :
      state.next.next.next.ahead.length ≤ state.next.ahead.length := by
    simp
    omega
  rw [Stalls.step_bind]
  have hValue := hExpression state.next.next.next (by omega) .lowest
  refine
    .map _ (.terminated
      (hValue.behind (hStart.concat hThird) fun front hFront => ?_))
  exact hFront.last fun _ _ hDerived =>
    ⟨_, .letStatement hKind hName hSign hDerived⟩

omit hStatement in
theorem returnStatement_stalls
    (hKind : state.current.kind = .returnWord) :
    Stalls (returnStatementWith expression) state state
      (Viable Grammar.Statement) := by
  have hWord : state.current.kind ≠ .eof := by simp [hKind]
  have hShorter := ParserState.length_next_lt hWord
  unfold returnStatementWith
  rw [Stalls.current_bind, Stalls.step_bind]
  have hValue := hExpression state.next (by omega) .lowest
  refine
    .map _ (.terminated
      (hValue.behind (.one hWord) fun front hFront => ?_))
  exact hFront.last fun _ _ hDerived =>
    ⟨_, .returnStatement hKind hDerived⟩

omit hExpression hStatement hState in
theorem expressionStatement_stalls
    (hHere : StallsExpression state) :
    Stalls (expressionStatementWith expression) state state
      (Viable Grammar.Statement) := by
  unfold expressionStatementWith
  rw [Stalls.current_bind]
  refine .map _ (.terminated ((hHere .lowest).mono fun front hFront => ?_))
  refine hFront.mono fun tokens node hDerived => ?_
  rcases hDerived.exists_head with ⟨token, rest, rfl, -⟩
  exact ⟨_, .expression hDerived⟩

theorem stallsStatement_of_inner
    (hHere : StallsExpression state) :
    StallsStatement state := by
  unfold StallsStatement
  rw [statement_eq]
  unfold statementWith
  rw [Stalls.current_bind]
  split
  next hKind => exact letStatement_stalls hExpression hState hKind
  next hKind => exact returnStatement_stalls hExpression hState hKind
  next hKind =>
    have hBlock := block_stalls hStatement hState hKind
    refine .terminated (hBlock.mono fun front hFront => ?_)
    exact hFront.mono fun _ node hDerived => ⟨node, .block hDerived⟩
  next => exact expressionStatement_stalls hHere

end

/- Wherever a run starts, its first error comes early. -/
theorem stalls
    (state : ParserState) :
    StallsExpression state ∧ StallsStatement state := by
  induction hLength : state.ahead.length
    using Nat.strongRecOn generalizing state with
  | _ length ih =>
      have hExpression :
          ∀ inner : ParserState,
            inner.ahead.length < length → StallsExpression inner :=
        fun inner hInner => (ih _ hInner inner rfl).1
      have hStatement :
          ∀ inner : ParserState,
            inner.ahead.length < length → StallsStatement inner :=
        fun inner hInner => (ih _ hInner inner rfl).2
      have hHere :=
        stallsExpression_of_inner hExpression hStatement
          (Nat.le_of_eq hLength)
      exact ⟨hHere,
        stallsStatement_of_inner hExpression hStatement
          (Nat.le_of_eq hLength) hHere⟩

theorem programStatements_stalls
    (state : ParserState) :
    Stalls programStatements state state
      (Viable Grammar.Statements) := by
  have hLoop :
      ∀ inner : ParserState,
        (programStatements inner).2.errors = inner.errors ∨
        (∃ cause,
          programStatements inner = fail inner.current cause inner) ∨
        programStatements inner =
          prependWith statement programStatements inner := by
    intro inner
    rw [programStatements_eq, current_bind]
    split
    next => exact .inl rfl
    next =>
      rw [← programStatements_eq]
      exact .inr (.inr rfl)
  exact
    statements_stalls hLoop (fun inner _ => (stalls inner).2)
      (Nat.lt_succ_self _)

end Parse

end MonkeyLang
