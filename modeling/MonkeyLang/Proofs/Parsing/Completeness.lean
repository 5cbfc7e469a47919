import MonkeyLang.Proofs.Parsing.Level
import MonkeyLang.Proofs.Parsing.Phrase

/-
  How the routines read what each production of the grammar
  derives: without an error, and with the tree of the
  production as their result.

  An expression of some level is followed by an operator that
  is no tighter than it, so that reading the expression comes
  down to extending its tree. Some productions are read in front
  of any token, others only in front of some, above all of none
  that is an `else`: what may follow is a parameter.

  Main declarations:
    * `Parse.ParsesExpressionBefore`, `Parse.ParsesStatementsBefore`, ...
    * `Parse.ParsesExpression`, `Parse.ParsesStatement`, ...
    * `Parse.ParsesExpressionBefore.binary`, ...   (one per production)
-/

------------------------------------------------------------
-- Steps
------------------------------------------------------------

namespace MonkeyLang

/- A token that is known, and then others. -/
theorem ParserState.Spans.of_ahead
    {first last : ParserState}
    {token : Token}
    {tokens rest : List Token}
    (hAhead : first.ahead = token :: rest)
    (hRest : first.next.Spans tokens last) :
    first.Spans (token :: tokens) last where
  ahead := by
    rw [hAhead, List.cons_append, ← hRest.ahead, ahead_next, hAhead]
    rfl
  ending := hRest.ending
  errors := hRest.errors

/- Some tokens, and then one more that is known. -/
theorem ParserState.Spans.concat_of_ahead
    {first last : ParserState}
    {token : Token}
    {tokens rest : List Token}
    (hFirst : first.Spans tokens last)
    (hAhead : last.ahead = token :: rest) :
    first.Spans (tokens ++ [token]) last.next :=
  hFirst.trans (.of_ahead hAhead (.refl _))

/- Behind a token that is known stand the others. -/
theorem ParserState.ahead_next_of_ahead
    {state : ParserState}
    {token : Token}
    {rest : List Token}
    (hAhead : state.ahead = token :: rest) :
    state.next.ahead = rest := by
  rw [ahead_next, hAhead]
  rfl

/- What comes next is the first token behind the current one. -/
theorem ParserState.upcoming_eq
    {state : ParserState}
    {rest : List Token}
    (hAhead : state.next.ahead = rest) :
    state.upcoming = rest.headD state.ending := by
  rw [← hAhead]
  rfl

namespace Parse

theorem bind_of_run
    {routine : Parse α}
    {following : α → Parse β}
    {first middle : ParserState}
    {value : α}
    (hRun : routine first = (some value, middle)) :
    (routine >>= following) first = following value middle := by
  rw [bind_apply, hRun]

/- A routine that chooses how to go on by the next token. -/
theorem branch_of_eq
    {kind : TokenKind}
    {routine other : Parse α}
    {state : ParserState}
    (hKind : state.upcoming.kind = kind) :
    (upcomingIs kind >>= fun found =>
      if found = true then routine else other) state =
        routine state := by
  rw [upcomingIs_bind, if_pos (decide_eq_true hKind)]

theorem branch_of_ne
    {kind : TokenKind}
    {routine other : Parse α}
    {state : ParserState}
    (hKind : state.upcoming.kind ≠ kind) :
    (upcomingIs kind >>= fun found =>
      if found = true then routine else other) state =
        other state := by
  rw [upcomingIs_bind, if_neg (by simpa using hKind)]

theorem expect_of_upcoming
    {kind : TokenKind}
    {state : ParserState}
    (hKind : state.upcoming.kind = kind) :
    expect kind state = (some (), state.next) := by
  rw [expect_apply, if_pos hKind]

theorem expectName_of_upcoming
    {state : ParserState}
    (hKind : state.upcoming.kind = .ident) :
    expectName state =
      (some (identifierOf state.upcoming), state.next) := by
  unfold expectName
  rw [bind_apply, expect_of_upcoming hKind]
  rfl

/- An expression is its first operand, extended. -/
theorem expression_of_opened
    {precedence : Precedence}
    {opening : Opening}
    {first last : ParserState}
    {left : Node}
    (hOpening : opening? first.current.kind = some opening)
    (hRun : opened opening first = (some left, last)) :
    expression precedence first = extend precedence left last := by
  rw [expression_eq, current_bind, hOpening]
  change (opened opening >>= extend precedence) first = _
  rw [bind_apply, hRun]

/- What comes next may extend an expression. -/
theorem extend_of_widened
    (extension : Extension)
    {precedence : Precedence}
    {middle last : ParserState}
    {left wider : Node}
    (hExtension : extension? middle.upcoming.kind = some extension)
    (hTighter : precedence < precedenceOf middle.upcoming.kind)
    (hRun : widened extension left middle.next = (some wider, last)) :
    extend precedence left middle = extend precedence wider last := by
  have hKind : middle.upcoming.kind ≠ .semicolon := by
    intro hKind
    have hNone : extension? .semicolon = none := by decide
    simp [hKind, hNone] at hExtension
  rw [extend_eq, upcoming_bind, if_pos ⟨hKind, hTighter⟩, hExtension]
  change (widened extension left >>= extend precedence) middle.next = _
  rw [bind_apply, hRun]

/- Nothing extends an expression before what binds no tighter. -/
theorem extend_of_not_tighter
    {precedence : Precedence}
    {left : Node}
    {last : ParserState}
    (hLevel :
      (precedenceOf last.upcoming.kind).level ≤ precedence.level) :
    extend precedence left last = (some left, last) := by
  rw [extend_eq, upcoming_bind, if_neg]
  · rfl
  · exact fun hTighter => Nat.not_lt_of_le hLevel hTighter.2

theorem prependWith_of_run
    {loop : Parse (List Node)}
    {first middle : ParserState}
    {node : Node}
    (hRun : statement first = (some node, middle)) :
    prependWith statement loop first =
      ((loop middle.next).1.map (node :: ·),
        (loop middle.next).2) := by
  rw [prependWith_apply, hRun]
  rfl

------------------------------------------------------------
-- What Is Parsed
------------------------------------------------------------

/- Something that does not go on with a conditional. -/
abbrev NoElse
    (next : TokenKind) :
    Prop :=
  next ≠ .elseWord

/- Whatever comes next. -/
abbrev AnyNext
    (_ : TokenKind) :
    Prop :=
  True

/-
  A kind of token that may come next after an expression of a
  level: it is no tighter, and it is one of those allowed.
-/
def ClosesAmong
    (allowed : TokenKind → Prop)
    (level : Nat)
    (next : TokenKind) :
    Prop :=
  (precedenceOf next).level ≤ level ∧ allowed next

/- Nor does it go on with a conditional. -/
abbrev Closes : Nat → TokenKind → Prop :=
  ClosesAmong NoElse

/-
  Wherever the tokens stand before what is allowed, they are
  read as an operand.
-/
def ParsesPrimaryBefore
    (allowed : TokenKind → Prop)
    (tokens : List Token)
    (node : Node) :
    Prop :=
  ∀ (first : ParserState) (rest : List Token),
    first.ahead = tokens ++ rest →
      allowed (rest.headD first.ending).kind →
        ∃ opening last,
          opening? first.current.kind = some opening ∧
            first.Spans tokens last.next ∧
            opened opening first = (some node, last)

/- Any operand, before what does not go on with a conditional. -/
abbrev ParsesPrimary : List Token → Node → Prop :=
  ParsesPrimaryBefore NoElse

/-
  Wherever the tokens stand before what is allowed, they are
  read and then extended.
-/
def ParsesExpressionBefore
    (allowed : TokenKind → Prop)
    (level : Nat)
    (tokens : List Token)
    (node : Node) :
    Prop :=
  ∀ (first : ParserState) (rest : List Token)
    (precedence : Precedence),
    first.ahead = tokens ++ rest →
      precedence.level ≤ Grammar.unaryLevel →
      levelAbove precedence ≤ level →
      ClosesAmong allowed level (rest.headD first.ending).kind →
        ∃ last,
          first.Spans tokens last.next ∧
            expression precedence first =
              extend precedence node last

/- Any expression, before what does not go on with a conditional. -/
abbrev ParsesExpression : Nat → List Token → Node → Prop :=
  ParsesExpressionBefore NoElse

/- Parameters that follow are read up to the parenthesis. -/
def ParsesMoreNames
    (tokens : List Token)
    (names : List Identifier) :
    Prop :=
  ∀ (first : ParserState) (rest : List Token),
    first.next.ahead = tokens ++ rest →
      (rest.headD first.ending).kind = .rparen →
        ∃ last,
          first.next.Spans tokens last.next ∧
            parametersBehind first = (some names, last)

/- Arguments that follow are read up to the parenthesis. -/
def ParsesMoreArguments
    (tokens : List Token)
    (nodes : List Node) :
    Prop :=
  ∀ (first : ParserState) (rest : List Token),
    first.next.ahead = tokens ++ rest →
      (rest.headD first.ending).kind = .rparen →
        ∃ last,
          first.next.Spans tokens last.next ∧
            argumentsBehind first = (some nodes, last)

/- Behind an opening parenthesis, arguments are read. -/
def ParsesArguments
    (tokens : List Token)
    (nodes : List Node) :
    Prop :=
  ∀ (first : ParserState) (rest : List Token),
    first.next.ahead = tokens ++ rest →
      (rest.headD first.ending).kind = .rparen →
        ∃ last,
          first.next.Spans tokens last ∧
            arguments first = (some nodes, last)

/- Wherever the tokens stand, they are read as a block. -/
def ParsesBlock
    (tokens : List Token)
    (node : Node) :
    Prop :=
  ∀ (first : ParserState) (rest : List Token),
    first.ahead = tokens ++ rest →
      ∃ last,
        first.Spans tokens last.next ∧
          block first = (some node, last)

/- Wherever the tokens stand, they are read as a statement. -/
def ParsesStatement
    (tokens : List Token)
    (node : Node) :
    Prop :=
  ∀ (first : ParserState) (rest : List Token),
    first.ahead = tokens ++ rest →
      (∃ mark nodes, node = .block mark nodes) ∨
        Closes Precedence.lowest.level
          (rest.headD first.ending).kind →
        ∃ middle : ParserState,
          first.Spans tokens middle.next ∧
            statement first = (some node, middle.pastSemicolon)

/- A loop that reads one statement after the other. -/
def IsLoop
    (loop : Parse (List Node)) :
    Prop :=
  ∀ state : ParserState,
    state.current.kind ≠ .rbrace → state.current.kind ≠ .eof →
      loop state = prependWith statement loop state

/- What ends a block or a program. -/
def EndsStatements
    (next : TokenKind) :
    Prop :=
  next = .rbrace ∨ next = .eof

/-
  Before what is allowed, every loop over statements reads them
  and then goes on.
-/
def ParsesStatementsBefore
    (allowed : TokenKind → Prop)
    (tokens : List Token)
    (nodes : List Node) :
    Prop :=
  ∀ loop, IsLoop loop →
    ∀ (first : ParserState) (rest : List Token),
      first.ahead = tokens ++ rest →
        allowed (rest.headD first.ending).kind →
          ∃ last,
            first.Spans tokens last ∧
              loop first =
                ((loop last).1.map (nodes ++ ·), (loop last).2)

/- All statements of a block or a program. -/
abbrev ParsesStatements : List Token → List Node → Prop :=
  ParsesStatementsBefore EndsStatements

------------------------------------------------------------
-- Expressions
------------------------------------------------------------

/- What stands behind an expression in brackets, lists and rows. -/
theorem closes_lowest
    {kind : TokenKind}
    (hKind :
      kind = .rparen ∨ kind = .comma ∨ kind = .semicolon ∨
        kind = .rbrace ∨ kind = .eof) :
    Closes Precedence.lowest.level kind := by
  rcases hKind with rfl | rfl | rfl | rfl | rfl
  all_goals exact ⟨by decide, by decide⟩

theorem noElse_of_lparen
    {kind : TokenKind}
    (hKind : kind = .lparen) :
    NoElse kind := by
  simp [hKind]

namespace ParsesExpressionBefore

variable {allowed : TokenKind → Prop}

/- Before what binds no tighter, the expression is complete. -/
theorem run
    {level : Nat}
    {tokens rest : List Token}
    {node : Node}
    {first : ParserState}
    (hParses : ParsesExpressionBefore allowed level tokens node)
    (precedence : Precedence)
    (hAhead : first.ahead = tokens ++ rest)
    (hPrecedence : precedence.level ≤ Grammar.unaryLevel)
    (hAbove : levelAbove precedence ≤ level)
    (hLevel : precedence.level ≤ level)
    (hNext :
      ClosesAmong allowed precedence.level
        (rest.headD first.ending).kind) :
    ∃ last,
      first.Spans tokens last.next ∧
        expression precedence first = (some node, last) := by
  rcases
      hParses first rest precedence hAhead hPrecedence hAbove
        ⟨Nat.le_trans hNext.1 hLevel, hNext.2⟩ with
    ⟨last, hSpans, hRun⟩
  refine ⟨last, hSpans, hRun.trans (extend_of_not_tighter ?_)⟩
  rw [← ParserState.current_next, hSpans.current_eq hAhead]
  exact hNext.1

/- Any expression, before what continues none. -/
theorem run_any
    {tokens rest : List Token}
    {node : Node}
    {first : ParserState}
    (hParses :
      ParsesExpressionBefore allowed Grammar.anyLevel tokens node)
    (hAhead : first.ahead = tokens ++ rest)
    (hNext :
      ClosesAmong allowed Precedence.lowest.level
        (rest.headD first.ending).kind) :
    ∃ last,
      first.Spans tokens last.next ∧
        expression .lowest first = (some node, last) :=
  hParses.run .lowest hAhead (by decide) (by decide) (by decide) hNext

theorem tighter
    {level : Nat}
    {tokens : List Token}
    {node : Node}
    (hParses :
      ParsesExpressionBefore allowed (level + 1) tokens node) :
    ParsesExpressionBefore allowed level tokens node :=
  fun first rest precedence hAhead hPrecedence hAbove hNext =>
    hParses first rest precedence hAhead hPrecedence
      (Nat.le_succ_of_le hAbove)
      ⟨Nat.le_succ_of_le hNext.1, hNext.2⟩

/- An expression of a level is one of every looser level. -/
theorem loosen
    {low high : Nat}
    {tokens : List Token}
    {node : Node}
    (hParses : ParsesExpressionBefore allowed high tokens node)
    (hLevel : low ≤ high) :
    ParsesExpressionBefore allowed low tokens node := by
  induction hLevel with
  | refl => exact hParses
  | step _ ih => exact ih hParses.tighter

theorem primary
    {tokens : List Token}
    {node : Node}
    (hParses : ParsesPrimaryBefore allowed tokens node) :
    ParsesExpressionBefore allowed Grammar.callLevel tokens node := by
  intro first rest precedence hAhead _ _ hNext
  rcases hParses first rest hAhead hNext.2 with
    ⟨opening, last, hOpening, hSpans, hRun⟩
  exact ⟨last, hSpans, expression_of_opened hOpening hRun⟩

theorem unary
    {operator : Token}
    {operand : List Token}
    {node : Node}
    (hOperator : operator.kind ∈ Grammar.unaryOperators)
    (hOperand :
      ParsesExpressionBefore allowed Grammar.unaryLevel operand node) :
    ParsesExpressionBefore allowed Grammar.unaryLevel
      (operator :: operand)
      (.unary operator.toMark operator.literal node) := by
  intro first rest precedence hAhead _ _ hNext
  have hCurrent := ParserState.current_of_ahead hAhead
  have hBehind : first.next.ahead = operand ++ rest :=
    ParserState.ahead_next_of_ahead hAhead
  rcases
      hOperand.run .unary hBehind (by decide)
        (by decide) (by decide) hNext with
    ⟨last, hSpans, hRun⟩
  have hUnary :
      Parse.unary first =
        (some (.unary operator.toMark operator.literal node),
          last) := by
    rw [unary_eq]
    unfold unaryWith
    rw [current_bind, step_bind, bind_apply, hRun, hCurrent]
    rfl
  have hOpening : opening? first.current.kind = some .unary := by
    rw [hCurrent]
    exact Grammar.opening?_of_mem_unaryOperators hOperator
  exact ⟨last, .of_ahead hAhead hSpans,
    expression_of_opened hOpening hUnary⟩

theorem binary
    {level : Nat}
    {operator : Token}
    {left right : List Token}
    {leftNode rightNode : Node}
    (hOperator : operator.kind ∈ Grammar.binaryOperatorsAt level)
    (hAllowed : allowed operator.kind)
    (hLeft : ParsesExpressionBefore allowed level left leftNode)
    (hRight :
      ParsesExpressionBefore allowed (level + 1) right rightNode) :
    ParsesExpressionBefore allowed level (left ++ operator :: right)
      (.binary operator.toMark leftNode operator.literal
        rightNode) := by
  rcases of_mem_binaryOperatorsAt hOperator with
    ⟨hExtension, hLevel, hUnary, -⟩
  intro first rest precedence hAhead hPrecedence hAbove hNext
  rw [List.append_assoc] at hAhead
  rcases
      hLeft first _ precedence hAhead hPrecedence hAbove
        ⟨Nat.le_of_eq hLevel, hAllowed⟩ with
    ⟨middle, hBefore, hRun⟩
  have hMiddle : middle.next.ahead = operator :: (right ++ rest) :=
    hBefore.ahead_eq hAhead
  have hCurrent := ParserState.current_of_ahead hMiddle
  have hBehind : middle.next.next.ahead = right ++ rest :=
    ParserState.ahead_next_of_ahead hMiddle
  have hEnding : middle.next.next.ending = first.ending :=
    hBefore.ending
  rcases
      hRight.run (precedenceOf operator.kind) hBehind
        (by omega) (by unfold levelAbove; omega) (by omega)
        (by rw [hLevel, hEnding]; exact hNext) with
    ⟨last, hSpans, hRight⟩
  have hBinary :
      Parse.binary leftNode middle.next =
        (some (.binary operator.toMark leftNode operator.literal
          rightNode), last) := by
    rw [binary_eq]
    unfold binaryWith
    rw [current_bind, step_bind, bind_apply, hCurrent, hRight]
    rfl
  have hTighter :
      precedence < precedenceOf middle.upcoming.kind := by
    rw [ParserState.current_next] at hCurrent
    rw [hCurrent]
    change precedence.level < (precedenceOf operator.kind).level
    unfold levelAbove at hAbove
    omega
  refine ⟨last, hBefore.trans (.of_ahead hMiddle hSpans), ?_⟩
  rw [hRun]
  refine extend_of_widened .binary ?_ hTighter hBinary
  rw [← ParserState.current_next, hCurrent, hExtension]

theorem call
    {opening closing : Token}
    {callee tokens : List Token}
    {calleeNode : Node}
    {nodes : List Node}
    (hCallee :
      ParsesExpressionBefore allowed Grammar.callLevel callee
        calleeNode)
    (hAllowed : allowed opening.kind)
    (hOpening : opening.kind = .lparen)
    (hArguments : ParsesArguments tokens nodes)
    (hClosing : closing.kind = .rparen) :
    ParsesExpressionBefore allowed Grammar.callLevel
      (callee ++ opening :: (tokens ++ [closing]))
      (.call opening.toMark calleeNode nodes) := by
  intro first rest precedence hAhead hPrecedence hAbove hNext
  simp only [List.append_assoc, List.cons_append,
    List.nil_append] at hAhead
  rcases
      hCallee first _ precedence hAhead hPrecedence hAbove
        ⟨level_le_callLevel _, hAllowed⟩ with
    ⟨middle, hBefore, hRun⟩
  have hMiddle := hBefore.ahead_eq hAhead
  have hCurrent := ParserState.current_of_ahead hMiddle
  have hBehind :
      middle.next.next.ahead = tokens ++ closing :: rest :=
    ParserState.ahead_next_of_ahead hMiddle
  rcases hArguments middle.next _ hBehind (by simp [hClosing]) with
    ⟨last, hSpans, hRead⟩
  have hCall :
      Parse.call calleeNode middle.next =
        (some (.call opening.toMark calleeNode nodes), last) := by
    rw [call_eq, current_bind, bind_apply, hRead, hCurrent]
    rfl
  have hUpcoming : middle.upcoming.kind = .lparen := by
    rw [← ParserState.current_next, hCurrent, hOpening]
  have hAll := hSpans.concat_of_ahead (hSpans.ahead_eq hBehind)
  refine ⟨last, hBefore.trans (.of_ahead hMiddle hAll), ?_⟩
  rw [hRun]
  refine
    extend_of_widened .call (by rw [hUpcoming]; decide) ?_ hCall
  rw [hUpcoming]
  exact Nat.lt_succ_of_le hPrecedence

end ParsesExpressionBefore

------------------------------------------------------------
-- Lists
------------------------------------------------------------

theorem parsesMoreNames
    {tokens : List Token}
    {names : List Identifier}
    (hNames : Grammar.MoreNames tokens names) :
    ParsesMoreNames tokens names := by
  induction hNames with
  | none =>
      intro first rest hAhead hClosing
      refine ⟨first, .refl _, ?_⟩
      have hUpcoming : first.upcoming.kind = .rparen := by
        rw [ParserState.upcoming_eq hAhead]
        exact hClosing
      rw [parametersBehind_eq, branch_of_ne (by simp [hUpcoming])]
      rfl
  | @more comma name tokens names hComma hName _ ih =>
      intro first rest hAhead hClosing
      have hFirst : first.upcoming = comma :=
        ParserState.current_of_ahead hAhead
      have hSecond : first.next.next.ahead = name :: (tokens ++ rest) :=
        ParserState.ahead_next_of_ahead hAhead
      have hNext : first.next.upcoming = name :=
        ParserState.current_of_ahead hSecond
      have hThird : first.next.next.next.ahead = tokens ++ rest :=
        ParserState.ahead_next_of_ahead hSecond
      rcases ih first.next.next rest hThird hClosing with
        ⟨last, hSpans, hRun⟩
      refine ⟨last,
        .of_ahead hAhead (.of_ahead hSecond hSpans), ?_⟩
      rw [parametersBehind_eq, branch_of_eq (by rw [hFirst, hComma]),
        step_bind,
        bind_of_run (expectName_of_upcoming (by rw [hNext, hName])),
        bind_of_run hRun, hNext]
      rfl

/- Behind an opening parenthesis, parameters are read. -/
theorem parameters_of_names
    {tokens rest : List Token}
    {names : List Identifier}
    {first : ParserState}
    (hNames : Grammar.Names tokens names)
    (hAhead : first.next.ahead = tokens ++ rest)
    (hClosing : (rest.headD first.ending).kind = .rparen) :
    ∃ last,
      first.next.Spans tokens last ∧
        parameters first = (some names, last) := by
  cases hNames with
  | none =>
      refine ⟨first.next, .refl _, ?_⟩
      have hUpcoming : first.upcoming.kind = .rparen := by
        rw [ParserState.upcoming_eq hAhead]
        exact hClosing
      rw [parameters_eq, branch_of_eq hUpcoming]
      rfl
  | @some name tokens names hName hMore =>
      have hFirst : first.upcoming = name :=
        ParserState.current_of_ahead hAhead
      have hBehind : first.next.next.ahead = tokens ++ rest :=
        ParserState.ahead_next_of_ahead hAhead
      rcases
          parsesMoreNames hMore first.next rest hBehind hClosing with
        ⟨last, hSpans, hRun⟩
      have hLast : last.upcoming.kind = .rparen := by
        rw [← ParserState.current_next, hSpans.current_eq hBehind]
        exact hClosing
      refine ⟨last.next, .of_ahead hAhead hSpans, ?_⟩
      rw [parameters_eq,
        branch_of_ne (by rw [hFirst, hName]; decide),
        bind_of_run (expectName_of_upcoming (by rw [hFirst, hName])),
        bind_of_run hRun, bind_of_run (expect_of_upcoming hLast),
        hFirst]
      rfl

theorem parsesMoreArguments_none :
    ParsesMoreArguments [] [] := by
  intro first rest hAhead hClosing
  refine ⟨first, .refl _, ?_⟩
  have hUpcoming : first.upcoming.kind = .rparen := by
    rw [ParserState.upcoming_eq hAhead]
    exact hClosing
  rw [argumentsBehind_eq, branch_of_ne (by simp [hUpcoming])]
  rfl

/- An argument is followed by a comma or by the parenthesis. -/
theorem closes_of_moreArguments
    {tokens rest : List Token}
    {nodes : List Node}
    {ending : Token}
    (hMore : Grammar.MoreArguments tokens nodes)
    (hClosing : (rest.headD ending).kind = .rparen) :
    Closes Precedence.lowest.level
      ((tokens ++ rest).headD ending).kind := by
  cases hMore with
  | none => exact closes_lowest (.inl hClosing)
  | more hComma => exact closes_lowest (.inr (.inl hComma))

theorem parsesMoreArguments_more
    {comma : Token}
    {tokens others : List Token}
    {node : Node}
    {nodes : List Node}
    (hComma : comma.kind = .comma)
    (hNext : ParsesExpression Grammar.anyLevel tokens node)
    (hDerived : Grammar.MoreArguments others nodes)
    (hMore : ParsesMoreArguments others nodes) :
    ParsesMoreArguments (comma :: (tokens ++ others))
      (node :: nodes) := by
  intro first rest hAhead hClosing
  rw [List.cons_append, List.append_assoc] at hAhead
  have hFirst : first.upcoming = comma :=
    ParserState.current_of_ahead hAhead
  have hSecond :
      first.next.next.ahead = tokens ++ (others ++ rest) :=
    ParserState.ahead_next_of_ahead hAhead
  rcases
      hNext.run_any hSecond (closes_of_moreArguments hDerived hClosing) with
    ⟨middle, hBefore, hRead⟩
  rcases
      hMore middle rest (hBefore.ahead_eq hSecond)
        (by rw [← ParserState.ending_next, hBefore.ending]; exact hClosing) with
    ⟨last, hSpans, hRun⟩
  refine ⟨last, .of_ahead hAhead (hBefore.trans hSpans), ?_⟩
  rw [argumentsBehind_eq, branch_of_eq (by rw [hFirst, hComma]),
    step_bind, step_bind, bind_of_run hRead, bind_of_run hRun]
  rfl

theorem parsesArguments_none :
    ParsesArguments [] [] := by
  intro first rest hAhead hClosing
  refine ⟨first.next, .refl _, ?_⟩
  have hUpcoming : first.upcoming.kind = .rparen := by
    rw [ParserState.upcoming_eq hAhead]
    exact hClosing
  rw [arguments_eq, branch_of_eq hUpcoming]
  rfl

theorem parsesArguments_some
    {tokens others : List Token}
    {node : Node}
    {nodes : List Node}
    (hOpens :
      ∃ token rest,
        tokens = token :: rest ∧ (opening? token.kind).isSome)
    (hFirst : ParsesExpression Grammar.anyLevel tokens node)
    (hDerived : Grammar.MoreArguments others nodes)
    (hMore : ParsesMoreArguments others nodes) :
    ParsesArguments (tokens ++ others) (node :: nodes) := by
  intro first rest hAhead hClosing
  rw [List.append_assoc] at hAhead
  have hUpcoming : first.upcoming.kind ≠ .rparen := by
    rcases hOpens with ⟨token, behind, rfl, hOpening⟩
    have hToken : first.upcoming = token :=
      ParserState.current_of_ahead hAhead
    intro hKind
    rw [← hToken, hKind] at hOpening
    exact absurd hOpening (by decide)
  rcases
      hFirst.run_any hAhead (closes_of_moreArguments hDerived hClosing) with
    ⟨middle, hBefore, hRead⟩
  have hMiddle := hBefore.ahead_eq hAhead
  rcases
      hMore middle rest hMiddle
        (by rw [← ParserState.ending_next, hBefore.ending]; exact hClosing) with
    ⟨last, hSpans, hRun⟩
  have hLast : last.upcoming.kind = .rparen := by
    rw [← ParserState.current_next, hSpans.current_eq hMiddle,
      hBefore.ending]
    exact hClosing
  refine ⟨last.next, hBefore.trans hSpans, ?_⟩
  rw [arguments_eq, branch_of_ne hUpcoming, step_bind,
    bind_of_run hRead, bind_of_run hRun,
    bind_of_run (expect_of_upcoming hLast)]
  rfl

------------------------------------------------------------
-- Operands
------------------------------------------------------------

namespace ParsesPrimaryBefore

variable {allowed : TokenKind → Prop}

/- An operand of one token. -/
theorem single
    {token : Token}
    {node : Node}
    (opening : Opening)
    (hOpening : opening? token.kind = some opening)
    (hRun :
      ∀ first : ParserState, first.current = token →
        opened opening first = (some node, first)) :
    ParsesPrimaryBefore allowed [token] node := by
  intro first rest hAhead _
  have hCurrent := ParserState.current_of_ahead hAhead
  exact ⟨opening, first, by rw [hCurrent, hOpening],
    .of_ahead hAhead (.refl _), hRun first hCurrent⟩

theorem identifier
    {token : Token}
    (hKind : token.kind = .ident) :
    ParsesPrimaryBefore allowed [token]
      (.identifier ⟨token.toMark, token.literal⟩) :=
  single .identifier (by rw [hKind]; decide) fun _ hFirst =>
    hFirst ▸ rfl

theorem string
    {token : Token}
    (hKind : token.kind = .string) :
    ParsesPrimaryBefore allowed [token]
      (.string token.toMark token.literal) :=
  single .string (by rw [hKind]; decide) fun _ hFirst =>
    hFirst ▸ rfl

theorem integer
    {token : Token}
    {value : Int}
    (hKind : token.kind = .int)
    (hValue : Numeral.read? token.literal = some value)
    (hRange : Word64.inRange value = true) :
    ParsesPrimaryBefore allowed [token] (.integer token.toMark value) := by
  refine single .integer (by rw [hKind]; decide) fun first hFirst => ?_
  have hRead : integerValue? token.literal = some value :=
    Option.filter_eq_some_iff.mpr ⟨hValue, hRange⟩
  change integerLiteral first = _
  unfold integerLiteral
  rw [current_bind, hFirst, hRead]
  rfl

theorem boolean
    {token : Token}
    {value : Bool}
    (hKind : token.kind = .trueWord ∨ token.kind = .falseWord)
    (hValue : token.literal = if value then "true" else "false") :
    ParsesPrimaryBefore allowed [token] (.boolean token.toMark value) := by
  have hOpening : opening? token.kind = some .boolean := by
    rcases hKind with hKind | hKind <;> rw [hKind] <;> decide
  refine single .boolean hOpening fun first hFirst => ?_
  change booleanLiteral first = _
  unfold booleanLiteral
  rw [current_bind, hFirst]
  cases value with
  | true =>
      have hTrue : token.literal = "true" := by simpa using hValue
      rw [if_pos hTrue]
      rfl
  | false =>
      have hFalse : token.literal = "false" := by simpa using hValue
      rw [if_neg (by simp [hFalse]), if_pos hFalse]
      rfl

theorem grouped
    {opening closing : Token}
    {tokens : List Token}
    {node : Node}
    (hOpening : opening.kind = .lparen)
    (hInner : ParsesExpression Grammar.anyLevel tokens node)
    (hClosing : closing.kind = .rparen) :
    ParsesPrimaryBefore allowed (opening :: (tokens ++ [closing])) node := by
  intro first rest hAhead _
  simp only [List.cons_append, List.append_assoc,
    List.nil_append] at hAhead
  have hCurrent := ParserState.current_of_ahead hAhead
  have hBehind : first.next.ahead = tokens ++ closing :: rest :=
    ParserState.ahead_next_of_ahead hAhead
  rcases
      hInner.run_any hBehind (closes_lowest (.inl hClosing)) with
    ⟨last, hSpans, hRun⟩
  have hLast : last.upcoming = closing :=
    ParserState.current_of_ahead (hSpans.ahead_eq hBehind)
  refine ⟨.grouped, last.next, ?_, ?_, ?_⟩
  · rw [hCurrent, hOpening]
    decide
  · exact .of_ahead hAhead
      (hSpans.concat_of_ahead (hSpans.ahead_eq hBehind))
  · change Parse.grouped first = _
    rw [grouped_eq]
    unfold groupedWith
    rw [step_bind, bind_of_run hRun,
      bind_of_run (expect_of_upcoming (by rw [hLast, hClosing]))]
    rfl

theorem function
    {word opening closing : Token}
    {tokens body : List Token}
    {names : List Identifier}
    {bodyNode : Node}
    (hWord : word.kind = .fnWord)
    (hOpening : opening.kind = .lparen)
    (hNames : Grammar.Names tokens names)
    (hClosing : closing.kind = .rparen)
    (hBrace :
      ∃ token rest, body = token :: rest ∧ token.kind = .lbrace)
    (hBody : ParsesBlock body bodyNode) :
    ParsesPrimaryBefore allowed (word :: opening :: (tokens ++ closing :: body))
      (.function word.toMark (names.map .identifier) bodyNode) := by
  intro first rest hAhead _
  simp only [List.cons_append, List.append_assoc] at hAhead
  have hCurrent := ParserState.current_of_ahead hAhead
  have hSecond :
      first.next.ahead =
        opening :: (tokens ++ closing :: (body ++ rest)) :=
    ParserState.ahead_next_of_ahead hAhead
  have hOpen : first.upcoming = opening :=
    ParserState.current_of_ahead hSecond
  have hThird :
      first.next.next.ahead = tokens ++ closing :: (body ++ rest) :=
    ParserState.ahead_next_of_ahead hSecond
  rcases parameters_of_names hNames hThird (by simp [hClosing]) with
    ⟨middle, hBefore, hParameters⟩
  have hMiddle := hBefore.ahead_eq hThird
  have hBehind : middle.next.ahead = body ++ rest :=
    ParserState.ahead_next_of_ahead hMiddle
  rcases hBody middle.next rest hBehind with ⟨last, hSpans, hRun⟩
  have hNext : middle.upcoming.kind = .lbrace := by
    rcases hBrace with ⟨token, others, rfl, hKind⟩
    rw [← hKind]
    exact congrArg Token.kind (ParserState.current_of_ahead hBehind)
  refine ⟨.functionLiteral, last, ?_, ?_, ?_⟩
  · rw [hCurrent, hWord]
    decide
  · exact .of_ahead hAhead
      (.of_ahead hSecond (hBefore.trans (.of_ahead hMiddle hSpans)))
  · change functionLiteral first = _
    rw [functionLiteral_eq, current_bind,
      bind_of_run (expect_of_upcoming (by rw [hOpen, hOpening])),
      bind_of_run hParameters, bind_of_run (expect_of_upcoming hNext),
      bind_of_run hRun, hCurrent]
    rfl

/- A conditional, up to where an alternative may follow. -/
theorem consequence_run
    {word opening closing : Token}
    {condition consequence rest : List Token}
    {conditionNode consequenceNode : Node}
    {first : ParserState}
    (hOpening : opening.kind = .lparen)
    (hCondition :
      ParsesExpression Grammar.anyLevel condition conditionNode)
    (hClosing : closing.kind = .rparen)
    (hBrace :
      ∃ token rest, consequence = token :: rest ∧ token.kind = .lbrace)
    (hConsequence : ParsesBlock consequence consequenceNode)
    (hAhead :
      first.ahead =
        word :: opening ::
          (condition ++ closing :: (consequence ++ rest))) :
    ∃ last,
      first.Spans
          (word :: opening :: (condition ++ closing :: consequence))
          last.next ∧
        ifExpression first =
          (do
            if ← upcomingIs .elseWord then
              step
              expect .lbrace
              let alternative ← block
              return .ifElse word.toMark conditionNode consequenceNode
                alternative
            else
              return .ifThen word.toMark conditionNode
                consequenceNode : Parse Node) last := by
  have hCurrent := ParserState.current_of_ahead hAhead
  have hSecond :
      first.next.ahead =
        opening :: (condition ++ closing :: (consequence ++ rest)) :=
    ParserState.ahead_next_of_ahead hAhead
  have hOpen : first.upcoming = opening :=
    ParserState.current_of_ahead hSecond
  have hThird :
      first.next.next.ahead =
        condition ++ closing :: (consequence ++ rest) :=
    ParserState.ahead_next_of_ahead hSecond
  rcases
      hCondition.run_any hThird (closes_lowest (.inl hClosing)) with
    ⟨middle, hBefore, hTest⟩
  have hMiddle := hBefore.ahead_eq hThird
  have hClose : middle.upcoming = closing :=
    ParserState.current_of_ahead hMiddle
  have hBehind : middle.next.next.ahead = consequence ++ rest :=
    ParserState.ahead_next_of_ahead hMiddle
  rcases hConsequence middle.next.next rest hBehind with
    ⟨last, hSpans, hRun⟩
  have hNext : middle.next.upcoming.kind = .lbrace := by
    rcases hBrace with ⟨token, others, rfl, hKind⟩
    rw [← hKind]
    exact congrArg Token.kind (ParserState.current_of_ahead hBehind)
  refine ⟨last, .of_ahead hAhead
    (.of_ahead hSecond (hBefore.trans (.of_ahead hMiddle hSpans))), ?_⟩
  rw [ifExpression_eq]
  unfold ifExpressionWith
  rw [current_bind,
    bind_of_run (expect_of_upcoming (by rw [hOpen, hOpening])),
    step_bind, bind_of_run hTest,
    bind_of_run (expect_of_upcoming (by rw [hClose, hClosing])),
    bind_of_run (expect_of_upcoming hNext), bind_of_run hRun, hCurrent]

theorem ifThen
    {word opening closing : Token}
    {condition consequence : List Token}
    {conditionNode consequenceNode : Node}
    (hWord : word.kind = .ifWord)
    (hOpening : opening.kind = .lparen)
    (hCondition :
      ParsesExpression Grammar.anyLevel condition conditionNode)
    (hClosing : closing.kind = .rparen)
    (hBrace :
      ∃ token rest, consequence = token :: rest ∧ token.kind = .lbrace)
    (hConsequence : ParsesBlock consequence consequenceNode) :
    ParsesPrimary
      (word :: opening :: (condition ++ closing :: consequence))
      (.ifThen word.toMark conditionNode consequenceNode) := by
  intro first rest hAhead hElse
  have hShape := hAhead
  simp only [List.cons_append, List.append_assoc] at hShape
  rcases
      consequence_run hOpening hCondition hClosing hBrace hConsequence
        hShape with
    ⟨last, hSpans, hRun⟩
  refine ⟨.ifExpression, last, ?_, hSpans, ?_⟩
  · rw [ParserState.current_of_ahead hShape, hWord]
    decide
  · have hNext : last.upcoming.kind ≠ .elseWord := by
      rw [← ParserState.current_next, hSpans.current_eq hAhead]
      exact hElse
    change ifExpression first = _
    rw [hRun, branch_of_ne hNext]
    rfl

theorem ifElse
    {word opening closing other : Token}
    {condition consequence alternative : List Token}
    {conditionNode consequenceNode alternativeNode : Node}
    (hWord : word.kind = .ifWord)
    (hOpening : opening.kind = .lparen)
    (hCondition :
      ParsesExpression Grammar.anyLevel condition conditionNode)
    (hClosing : closing.kind = .rparen)
    (hBrace :
      ∃ token rest, consequence = token :: rest ∧ token.kind = .lbrace)
    (hConsequence : ParsesBlock consequence consequenceNode)
    (hOther : other.kind = .elseWord)
    (hOtherBrace :
      ∃ token rest, alternative = token :: rest ∧ token.kind = .lbrace)
    (hAlternative : ParsesBlock alternative alternativeNode) :
    ParsesPrimary
      (word :: opening ::
        (condition ++ closing ::
          (consequence ++ other :: alternative)))
      (.ifElse word.toMark conditionNode consequenceNode
        alternativeNode) := by
  intro first rest hAhead _
  simp only [List.cons_append, List.append_assoc] at hAhead
  rcases
      consequence_run hOpening hCondition hClosing hBrace hConsequence
        hAhead with
    ⟨middle, hBefore, hRun⟩
  have hMiddle : middle.next.ahead = other :: (alternative ++ rest) :=
    hBefore.ahead_eq (by simpa using hAhead)
  have hElse : middle.upcoming = other :=
    ParserState.current_of_ahead hMiddle
  have hBehind : middle.next.next.ahead = alternative ++ rest :=
    ParserState.ahead_next_of_ahead hMiddle
  rcases hAlternative middle.next.next rest hBehind with
    ⟨last, hSpans, hBlock⟩
  have hNext : middle.next.upcoming.kind = .lbrace := by
    rcases hOtherBrace with ⟨token, others, rfl, hKind⟩
    rw [← hKind]
    exact congrArg Token.kind (ParserState.current_of_ahead hBehind)
  refine ⟨.ifExpression, last, ?_, ?_, ?_⟩
  · rw [ParserState.current_of_ahead hAhead, hWord]
    decide
  · simpa using hBefore.trans (.of_ahead hMiddle hSpans)
  · change ifExpression first = _
    rw [hRun, branch_of_eq (by rw [hElse, hOther]), step_bind,
      bind_of_run (expect_of_upcoming hNext), bind_of_run hBlock]
    rfl

end ParsesPrimaryBefore

------------------------------------------------------------
-- Statements
------------------------------------------------------------

/- An expression behind which a semicolon may be passed over. -/
theorem terminated_of_expression
    {tokens rest : List Token}
    {node : Node}
    {first : ParserState}
    (hParses : ParsesExpression Grammar.anyLevel tokens node)
    (hAhead : first.ahead = tokens ++ rest)
    (hNext :
      Closes Precedence.lowest.level
        (rest.headD first.ending).kind) :
    ∃ middle : ParserState,
      first.Spans tokens middle.next ∧
        terminated (expression .lowest) first =
          (some node, middle.pastSemicolon) := by
  rcases hParses.run_any hAhead hNext with ⟨middle, hSpans, hRun⟩
  refine ⟨middle, hSpans, ?_⟩
  rw [terminated_apply, hRun]

/- Only a block may be followed by anything. -/
theorem closes_of_or
    {node : Node}
    {next : TokenKind}
    (hOther : ∀ mark nodes, node ≠ .block mark nodes)
    (hNext :
      (∃ mark nodes, node = .block mark nodes) ∨
        Closes Precedence.lowest.level next) :
    Closes Precedence.lowest.level next := by
  rcases hNext with ⟨mark, nodes, hBlock⟩ | hNext
  · exact absurd hBlock (hOther mark nodes)
  · exact hNext

namespace ParsesStatement

theorem letStatement
    {word name sign : Token}
    {value : List Token}
    {node : Node}
    (hWord : word.kind = .letWord)
    (hName : name.kind = .ident)
    (hSign : sign.kind = .assign)
    (hValue : ParsesExpression Grammar.anyLevel value node) :
    ParsesStatement (word :: name :: sign :: value)
      (.letStatement word.toMark
        (.identifier ⟨name.toMark, name.literal⟩) node) := by
  intro first rest hAhead hNext
  have hCurrent := ParserState.current_of_ahead hAhead
  have hSecond : first.next.ahead = name :: sign :: (value ++ rest) :=
    ParserState.ahead_next_of_ahead hAhead
  have hThird : first.next.next.ahead = sign :: (value ++ rest) :=
    ParserState.ahead_next_of_ahead hSecond
  have hFourth : first.next.next.next.ahead = value ++ rest :=
    ParserState.ahead_next_of_ahead hThird
  have hFirstName : first.upcoming = name :=
    ParserState.current_of_ahead hSecond
  have hThenSign : first.next.upcoming = sign :=
    ParserState.current_of_ahead hThird
  rcases
      terminated_of_expression hValue hFourth
        (closes_of_or (by simp) hNext) with
    ⟨middle, hSpans, hRun⟩
  refine ⟨middle,
    .of_ahead hAhead (.of_ahead hSecond (.of_ahead hThird hSpans)), ?_⟩
  rw [statement_eq]
  unfold statementWith
  rw [current_bind, hCurrent, hWord]
  change letStatementWith expression first = _
  unfold letStatementWith
  rw [current_bind,
    bind_of_run (expectName_of_upcoming (by rw [hFirstName, hName])),
    bind_of_run (expect_of_upcoming (by rw [hThenSign, hSign])),
    step_bind, bind_of_run hRun, hCurrent, hFirstName]
  rfl

theorem returnStatement
    {word : Token}
    {value : List Token}
    {node : Node}
    (hWord : word.kind = .returnWord)
    (hValue : ParsesExpression Grammar.anyLevel value node) :
    ParsesStatement (word :: value)
      (.returnStatement word.toMark node) := by
  intro first rest hAhead hNext
  have hCurrent := ParserState.current_of_ahead hAhead
  have hSecond : first.next.ahead = value ++ rest :=
    ParserState.ahead_next_of_ahead hAhead
  rcases
      terminated_of_expression hValue hSecond
        (closes_of_or (by simp) hNext) with
    ⟨middle, hSpans, hRun⟩
  refine ⟨middle, .of_ahead hAhead hSpans, ?_⟩
  rw [statement_eq]
  unfold statementWith
  rw [current_bind, hCurrent, hWord]
  change returnStatementWith expression first = _
  unfold returnStatementWith
  rw [current_bind, step_bind, bind_of_run hRun, hCurrent]
  rfl

theorem expression
    {token : Token}
    {tokens : List Token}
    {node : Node}
    (hOpens : (opening? token.kind).isSome)
    (hExpression :
      ParsesExpression Grammar.anyLevel (token :: tokens) node) :
    ParsesStatement (token :: tokens)
      (.expressionStatement token.toMark node) := by
  intro first rest hAhead hNext
  have hCurrent := ParserState.current_of_ahead hAhead
  rcases
      terminated_of_expression hExpression hAhead
        (closes_of_or (by simp) hNext) with
    ⟨middle, hSpans, hRun⟩
  refine ⟨middle, hSpans, ?_⟩
  have hStatement :
      statementWith Parse.expression block first =
        expressionStatementWith Parse.expression first := by
    rw [← hCurrent] at hOpens
    unfold statementWith
    rw [current_bind]
    generalize first.current.kind = kind at hOpens ⊢
    cases kind <;> first | rfl | exact absurd hOpens (by decide)
  rw [statement_eq, hStatement]
  unfold expressionStatementWith
  rw [current_bind, bind_of_run hRun, hCurrent]
  rfl

theorem block
    {tokens : List Token}
    {node : Node}
    (hBrace :
      ∃ token rest, tokens = token :: rest ∧ token.kind = .lbrace)
    (hBlock : ParsesBlock tokens node) :
    ParsesStatement tokens node := by
  intro first rest hAhead _
  rcases hBlock first rest hAhead with ⟨middle, hSpans, hRun⟩
  refine ⟨middle, hSpans, ?_⟩
  have hKind : first.current.kind = .lbrace := by
    rcases hBrace with ⟨token, others, rfl, hKind⟩
    rw [ParserState.current_of_ahead hAhead, hKind]
  rw [statement_eq]
  unfold statementWith
  rw [current_bind, hKind]
  change terminated Parse.block first = _
  rw [terminated_apply, hRun]

end ParsesStatement

/- The statements of a block are read in a loop. -/
theorem isLoop_blockStatements : IsLoop blockStatements := by
  intro state hBrace hEnd
  rw [blockStatements_eq, current_bind, if_neg hBrace, if_neg hEnd,
    ← blockStatements_eq]

theorem parsesBlock
    {opening closing : Token}
    {tokens : List Token}
    {nodes : List Node}
    (hStatements : ParsesStatements tokens nodes)
    (hClosing : closing.kind = .rbrace) :
    ParsesBlock (opening :: (tokens ++ [closing]))
      (.block opening.toMark nodes) := by
  intro first rest hAhead
  simp only [List.cons_append, List.append_assoc,
    List.nil_append] at hAhead
  have hCurrent := ParserState.current_of_ahead hAhead
  have hBehind : first.next.ahead = tokens ++ closing :: rest :=
    ParserState.ahead_next_of_ahead hAhead
  rcases
      hStatements _ isLoop_blockStatements first.next _ hBehind
        (.inl hClosing) with
    ⟨last, hSpans, hRun⟩
  have hLast := hSpans.ahead_eq hBehind
  have hStop : blockStatements last = (some [], last) := by
    rw [blockStatements_eq, current_bind, if_pos]
    · rfl
    · rw [ParserState.current_of_ahead hLast, hClosing]
  rw [hStop] at hRun
  refine ⟨last, .of_ahead hAhead (hSpans.concat_of_ahead hLast), ?_⟩
  rw [block_eq, current_bind, step_bind, bind_of_run hRun, hCurrent]
  simp

/- A statement, and then what the loop reads behind it. -/
theorem IsLoop.of_run
    {loop : Parse (List Node)}
    {first middle last : ParserState}
    {tokens rest : List Token}
    {node : Node}
    {nodes : List Node}
    (hLoop : IsLoop loop)
    (hStarts :
      ∃ token rest,
        tokens = token :: rest ∧
          Grammar.startsStatement token.kind = true)
    (hAhead : first.ahead = tokens ++ rest)
    (hRun : statement first = (some node, middle))
    (hRest :
      loop middle.next =
        ((loop last).1.map (nodes ++ ·), (loop last).2)) :
    loop first =
      ((loop last).1.map ((node :: nodes) ++ ·), (loop last).2) := by
  rcases hStarts with ⟨token, behind, rfl, hKind⟩
  have hCurrent := ParserState.current_of_ahead hAhead
  rcases Grammar.kind_of_startsStatement hKind with
    ⟨-, hBrace, hEnd, -⟩
  rw [hLoop first (by rw [hCurrent]; exact hBrace)
      (by rw [hCurrent]; exact hEnd),
    prependWith_of_run hRun, hRest]
  simp [Function.comp_def]

/- What may follow a statement closes it. -/
theorem closes_of_mayFollow
    {node : Node}
    {next : TokenKind}
    (hStart : Grammar.startsStatement next = true)
    (hFollow : Grammar.MayFollow node next) :
    next ≠ .semicolon ∧
      ((∃ mark nodes, node = .block mark nodes) ∨
        Closes Precedence.lowest.level next) := by
  rcases Grammar.kind_of_startsStatement hStart with
    ⟨hSemicolon, -, -, hElse, hLowest⟩
  refine ⟨hSemicolon, ?_⟩
  unfold Grammar.MayFollow at hFollow
  split at hFollow
  · exact .inl ⟨_, _, rfl⟩
  · have hLevel := hLowest hFollow.1 hFollow.2
    exact .inr ⟨Nat.le_of_eq (congrArg Precedence.level hLevel), hElse⟩

namespace ParsesStatementsBefore

variable {allowed : TokenKind → Prop}

theorem none : ParsesStatementsBefore allowed [] [] := by
  intro loop _ first rest _ _
  exact ⟨first, .refl _, by simp⟩

theorem ended
    {semicolon : Token}
    {tokens others : List Token}
    {node : Node}
    {nodes : List Node}
    (hStarts :
      ∃ token rest,
        tokens = token :: rest ∧
          Grammar.startsStatement token.kind = true)
    (hStatement : ParsesStatement tokens node)
    (hSemicolon : semicolon.kind = .semicolon)
    (hOthers : ParsesStatementsBefore allowed others nodes) :
    ParsesStatementsBefore allowed (tokens ++ semicolon :: others)
      (node :: nodes) := by
  intro loop hLoop first rest hAhead hStop
  rw [List.append_assoc] at hAhead
  rcases
      hStatement first _ hAhead
        (.inr (closes_lowest (.inr (.inr (.inl hSemicolon))))) with
    ⟨middle, hBefore, hRun⟩
  have hMiddle : middle.next.ahead = semicolon :: (others ++ rest) :=
    hBefore.ahead_eq hAhead
  have hNext : middle.upcoming = semicolon :=
    ParserState.current_of_ahead hMiddle
  have hPast : middle.pastSemicolon = middle.next := by
    unfold ParserState.pastSemicolon
    rw [hNext, if_pos hSemicolon]
  have hBehind : middle.next.next.ahead = others ++ rest :=
    ParserState.ahead_next_of_ahead hMiddle
  have hEnding : middle.next.next.ending = first.ending :=
    hBefore.ending
  rcases
      hOthers loop hLoop middle.next.next rest hBehind
        (by rw [hEnding]; exact hStop) with
    ⟨last, hSpans, hRest⟩
  rw [hPast] at hRun
  exact ⟨last, hBefore.trans (.of_ahead hMiddle hSpans),
    hLoop.of_run hStarts hAhead hRun hRest⟩

theorem unended
    {tokens others : List Token}
    {node : Node}
    {nodes : List Node}
    (hStarts :
      ∃ token rest,
        tokens = token :: rest ∧
          Grammar.startsStatement token.kind = true)
    (hStatement : ParsesStatement tokens node)
    (hNext :
      ∀ next ∈ others.head?,
        Grammar.startsStatement next.kind = true ∧
          Grammar.MayFollow node next.kind)
    (hNone :
      others = [] → ∀ next, allowed next → EndsStatements next)
    (hOthers : ParsesStatementsBefore allowed others nodes) :
    ParsesStatementsBefore allowed (tokens ++ others)
      (node :: nodes) := by
  intro loop hLoop first rest hAhead hStop
  rw [List.append_assoc] at hAhead
  have hAfter :
      ((others ++ rest).headD first.ending).kind ≠ .semicolon ∧
        ((∃ mark nodes, node = .block mark nodes) ∨
          Closes Precedence.lowest.level
            ((others ++ rest).headD first.ending).kind) := by
    cases others with
    | nil =>
        have hEnds := hNone rfl _ hStop
        refine ⟨?_, .inr (closes_lowest (.inr (.inr (.inr hEnds))))⟩
        rw [List.nil_append]
        rcases hEnds with hKind | hKind
        · simp only [hKind, ne_eq, reduceCtorEq, not_false_eq_true]
        · simp only [hKind, ne_eq, reduceCtorEq, not_false_eq_true]
    | cons next others =>
        rcases hNext next rfl with ⟨hStart, hFollow⟩
        exact closes_of_mayFollow hStart hFollow
  rcases hStatement first _ hAhead hAfter.2 with
    ⟨middle, hBefore, hRun⟩
  have hMiddle : middle.next.ahead = others ++ rest :=
    hBefore.ahead_eq hAhead
  have hPast : middle.pastSemicolon = middle := by
    unfold ParserState.pastSemicolon
    rw [← ParserState.current_next, hBefore.current_eq hAhead,
      if_neg hAfter.1]
  have hEnding : middle.next.ending = first.ending := hBefore.ending
  rcases
      hOthers loop hLoop middle.next rest hMiddle
        (by rw [hEnding]; exact hStop) with
    ⟨last, hSpans, hRest⟩
  rw [hPast] at hRun
  exact ⟨last, hBefore.trans hSpans,
    hLoop.of_run hStarts hAhead hRun hRest⟩

end ParsesStatementsBefore

end Parse

end MonkeyLang
