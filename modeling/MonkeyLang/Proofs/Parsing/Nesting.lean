import MonkeyLang.Proofs.Parsing.Acceptance

/-
  Binary operators in a row. Among all trees over the operands
  of a row one respects the precedences: no operation is looser
  than the operation it is the left operand of, and none that is
  a right operand is as loose. For a precedence the parser takes
  the row up to the first operator that binds no tighter, and
  builds this tree of it.

  Main declarations:
    * `Grammar.Operand`           (what stands between operators)
    * `Row`                       (operands and operators)
    * `Nesting`                   (a tree over the operands)
    * `Nesting.IsOrdered`         (one that respects precedences)
    * `Row.nested`, `Nesting.eq_of_row_eq`
                                  (that there is exactly one)
    * `Nesting.parses`
    * `expression_nests_operators`
-/

------------------------------------------------------------
-- Operands
------------------------------------------------------------

namespace MonkeyLang

namespace Grammar

/-
  A name, a literal or an expression in parentheses, with any
  number of calls behind it. Only a conditional is none of
  these, since it is not complete before an `else`.
-/
inductive Suffixed : List Token → Node → Prop where
  | plain {token : Token} {tokens : List Token} {node : Node}
      (hPrimary : Primary (token :: tokens) node)
      (hPlain : token.kind ≠ .ifWord) :
      Suffixed (token :: tokens) node
  | call {opening closing : Token} {callee tokens : List Token}
      {calleeNode : Node} {nodes : List Node}
      (hCallee : Suffixed callee calleeNode)
      (hOpening : opening.kind = .lparen)
      (hArguments : Arguments tokens nodes)
      (hClosing : closing.kind = .rparen) :
      Suffixed (callee ++ opening :: (tokens ++ [closing]))
        (.call opening.toMark calleeNode nodes)

/- The same, with any number of unary operators in front of it. -/
inductive Operand : List Token → Node → Prop where
  | suffixed {tokens : List Token} {node : Node}
      (hSuffixed : Suffixed tokens node) :
      Operand tokens node
  | unary {operator : Token} {tokens : List Token} {node : Node}
      (hOperator : operator.kind ∈ unaryOperators)
      (hOperand : Operand tokens node) :
      Operand (operator :: tokens)
        (.unary operator.toMark operator.literal node)

/- What is no conditional is read before anything. -/
theorem Primary.parses_plain
    {token : Token}
    {tokens : List Token}
    {node : Node}
    (hPrimary : Primary (token :: tokens) node)
    (hPlain : token.kind ≠ .ifWord) :
    Parse.ParsesPrimaryBefore Parse.AnyNext (token :: tokens) node := by
  cases hPrimary with
  | identifier hKind => exact .identifier hKind
  | string hKind => exact .string hKind
  | integer hKind hValue hRange => exact .integer hKind hValue hRange
  | boolean hKind hValue => exact .boolean hKind hValue
  | grouped hOpening hInner hClosing =>
      exact .grouped hOpening hInner.parses hClosing
  | function hWord hOpening hParameters hClosing hBody =>
      exact .function hWord hOpening hParameters hClosing
        hBody.exists_head hBody.parses
  | ifThen hWord | ifElse hWord => exact absurd hWord hPlain

theorem Suffixed.parses
    {tokens : List Token}
    {node : Node}
    (hSuffixed : Suffixed tokens node) :
    Parse.ParsesExpressionBefore Parse.AnyNext callLevel tokens
      node := by
  induction hSuffixed with
  | plain hPrimary hPlain => exact .primary (hPrimary.parses_plain hPlain)
  | call _ hOpening hArguments hClosing ih =>
      exact .call ih trivial hOpening hArguments.parses hClosing

theorem Operand.parses
    {tokens : List Token}
    {node : Node}
    (hOperand : Operand tokens node) :
    Parse.ParsesExpressionBefore Parse.AnyNext unaryLevel tokens
      node := by
  induction hOperand with
  | suffixed hSuffixed => exact hSuffixed.parses.tighter
  | unary hOperator _ ih => exact .unary hOperator ih

end Grammar

------------------------------------------------------------
-- Rows
------------------------------------------------------------

/- The tokens of an operand with their tree. -/
structure Term where
  tokens : List Token
  node : Node
  derived : Grammar.Operand tokens node

/- A name as an operand. -/
def Term.name
    (token : Token)
    (hKind : token.kind = .ident) :
    Term where
  tokens := [token]
  node := .identifier ⟨token.toMark, token.literal⟩
  derived := .suffixed (.plain (.identifier hKind) (by simp [hKind]))

/- A token that is a binary operator. -/
structure OperatorToken where
  token : Token
  binary : extension? token.kind = some .binary

namespace OperatorToken

/- How tightly an operator binds. -/
def precedence
    (operator : OperatorToken) :
    Precedence :=
  precedenceOf operator.token.kind

/- The level of the grammar that has the operator. -/
def level
    (operator : OperatorToken) :
    Nat :=
  operator.precedence.level

theorem mem_binaryOperatorsAt
    (operator : OperatorToken) :
    operator.token.kind ∈ Grammar.binaryOperatorsAt operator.level :=
  (Parse.level_of_binary operator.binary).1

theorem level_lt_unaryLevel
    (operator : OperatorToken) :
    operator.level < Grammar.unaryLevel :=
  (Parse.of_mem_binaryOperatorsAt operator.mem_binaryOperatorsAt).2.2.1

end OperatorToken

/- Operands with a binary operator between any two neighbours. -/
structure Row where
  first : Term
  others : List (OperatorToken × Term)

namespace Row

/- The tokens of a row. -/
def tokens
    (row : Row) :
    List Token :=
  row.first.tokens ++
    row.others.flatMap fun (operator, term) =>
      operator.token :: term.tokens

/- The row up to the first operator that binds no tighter. -/
def above
    (row : Row)
    (precedence : Precedence) :
    Row where
  first := row.first
  others :=
    row.others.takeWhile fun (operator, _) =>
      precedence < operator.precedence

end Row

------------------------------------------------------------
-- Trees over Operands
------------------------------------------------------------

/- A way to nest the operators of a row. -/
inductive Nesting where
  | operand (term : Term)
  | operation (operator : OperatorToken) (left right : Nesting)

namespace Nesting

/- The syntax tree of a nesting. -/
def node
    (nesting : Nesting) :
    Node :=
  match nesting with
  | .operand term => term.node
  | .operation operator left right =>
      .binary operator.token.toMark left.node operator.token.literal
        right.node

/- The row that is read off from the left to the right. -/
def row
    (nesting : Nesting) :
    Row :=
  match nesting with
  | .operand term => ⟨term, []⟩
  | .operation operator left right =>
      ⟨left.row.first,
        left.row.others ++ (operator, right.row.first) :: right.row.others⟩

/- The level of the outermost operator; operands bind tighter than all. -/
def level
    (nesting : Nesting) :
    Nat :=
  match nesting with
  | .operand _ => Grammar.unaryLevel
  | .operation operator _ _ => operator.level

/-
  Every operation has a left operand that is no looser and a
  right operand that is tighter.
-/
def IsOrdered
    (nesting : Nesting) :
    Prop :=
  match nesting with
  | .operand _ => True
  | .operation operator left right =>
      operator.level ≤ left.level ∧ operator.level < right.level ∧
        left.IsOrdered ∧ right.IsOrdered

theorem row_tokens_operation
    (operator : OperatorToken)
    (left right : Nesting) :
    (operation operator left right).row.tokens =
      left.row.tokens ++ operator.token :: right.row.tokens := by
  simp [row, Row.tokens]

/- The outermost operator is the loosest one. -/
theorem level_le_of_mem
    {nesting : Nesting}
    (hOrdered : nesting.IsOrdered) :
    ∀ other ∈ nesting.row.others, nesting.level ≤ other.1.level := by
  induction nesting with
  | operand term => simp [row]
  | operation operator left right ihLeft ihRight =>
      rcases hOrdered with ⟨hLeft, hRight, hLefts, hRights⟩
      intro other hOther
      simp only [row, List.mem_append, List.mem_cons] at hOther
      rcases hOther with hOther | rfl | hOther
      · exact Nat.le_trans hLeft (ihLeft hLefts other hOther)
      · exact Nat.le_refl _
      · have hLevel := ihRight hRights other hOther
        exact Nat.le_of_lt (Nat.lt_of_lt_of_le hRight hLevel)

/- In front of an operator stand no looser ones, behind it tighter ones. -/
theorem levels_of_isOrdered
    {operator : OperatorToken}
    {left right : Nesting}
    (hOrdered : (operation operator left right).IsOrdered) :
    (∀ other ∈ left.row.others, operator.level ≤ other.1.level) ∧
      ∀ other ∈ right.row.others, operator.level < other.1.level := by
  rcases hOrdered with ⟨hLeft, hRight, hLefts, hRights⟩
  constructor
  · intro other hOther
    exact Nat.le_trans hLeft (level_le_of_mem hLefts other hOther)
  · intro other hOther
    exact Nat.lt_of_lt_of_le hRight (level_le_of_mem hRights other hOther)

------------------------------------------------------------
-- The One Tree of a Row
------------------------------------------------------------

/-
  Put an operator and an operand behind a nesting. Below what is
  looser than the operator they go into the right operand.
-/
def extended
    (nesting : Nesting)
    (operator : OperatorToken)
    (term : Term) :
    Nesting :=
  match nesting with
  | .operand first =>
      .operation operator (.operand first) (.operand term)
  | .operation root left right =>
      if root.level < operator.level then
        .operation root left (right.extended operator term)
      else
        .operation operator (.operation root left right) (.operand term)

theorem row_extended
    (nesting : Nesting)
    (operator : OperatorToken)
    (term : Term) :
    (nesting.extended operator term).row =
      ⟨nesting.row.first, nesting.row.others ++ [(operator, term)]⟩ := by
  induction nesting with
  | operand first => rfl
  | operation root left right _ ih =>
      unfold extended
      split
      · simp [row, ih]
      · simp [row]

theorem lt_level_extended
    {nesting : Nesting}
    {operator : OperatorToken}
    {low : Nat}
    (hNesting : low < nesting.level)
    (hOperator : low < operator.level)
    (term : Term) :
    low < (nesting.extended operator term).level := by
  cases nesting with
  | operand first => exact hOperator
  | operation root left right =>
      unfold extended
      split
      · exact hNesting
      · exact hOperator

theorem isOrdered_extended
    {nesting : Nesting}
    (hOrdered : nesting.IsOrdered)
    (operator : OperatorToken)
    (term : Term) :
    (nesting.extended operator term).IsOrdered := by
  have hTerm : operator.level < (operand term).level :=
    operator.level_lt_unaryLevel
  induction nesting with
  | operand first =>
      exact ⟨Nat.le_of_lt hTerm, hTerm, trivial, trivial⟩
  | operation root left right _ ih =>
      rcases hOrdered with ⟨hLeft, hRight, hLefts, hRights⟩
      unfold extended
      split
      next hLooser =>
        exact ⟨hLeft, lt_level_extended hRight hLooser term, hLefts,
          ih hRights⟩
      next hTighter =>
        exact ⟨Nat.le_of_not_lt hTighter, hTerm,
          ⟨hLeft, hRight, hLefts, hRights⟩, trivial⟩

/-
  In two ways to cut a list, each at an operator that is no
  tighter than those in front and looser than those behind, the
  first does not cut earlier.
-/
theorem length_le_of_cuts
    {before behind before' behind' : List (OperatorToken × Term)}
    {cut cut' : OperatorToken × Term}
    (hSame : before ++ cut :: behind = before' ++ cut' :: behind')
    (hBehind : ∀ other ∈ behind, cut.1.level < other.1.level)
    (hBefore : ∀ other ∈ before', cut'.1.level ≤ other.1.level) :
    before'.length ≤ before.length := by
  rcases List.append_eq_append_iff.mp hSame with
    ⟨more, hLonger, hRest⟩ | ⟨more, hShorter, -⟩
  · cases more with
    | nil => simp [hLonger]
    | cons other more =>
        -- Each of the two operators would be looser than the other.
        simp only [List.cons_append, List.cons.injEq] at hRest
        rcases hRest with ⟨rfl, hRest⟩
        have hLoose := hBehind cut' (by simp [hRest])
        have hTight := hBefore cut (by simp [hLonger])
        omega
  · simp [hShorter]

/- A row has at most one nesting that respects the precedences. -/
theorem eq_of_row_eq
    {first second : Nesting}
    (hFirst : first.IsOrdered)
    (hSecond : second.IsOrdered)
    (hRow : first.row = second.row) :
    first = second := by
  induction first generalizing second with
  | operand term =>
      cases second with
      | operand term' =>
          simp only [row, Row.mk.injEq] at hRow
          rw [hRow.1]
      | operation => simp [row] at hRow
  | operation operator left right ihLeft ihRight =>
      cases second with
      | operand => simp [row] at hRow
      | operation operator' left' right' =>
          rcases levels_of_isOrdered hFirst with ⟨hBefore, hBehind⟩
          rcases levels_of_isOrdered hSecond with ⟨hBefore', hBehind'⟩
          rcases hFirst with ⟨-, -, hLefts, hRights⟩
          rcases hSecond with ⟨-, -, hLefts', hRights'⟩
          simp only [row, Row.mk.injEq] at hRow
          rcases hRow with ⟨hTerm, hOthers⟩
          have hLength :
              left.row.others.length = left'.row.others.length :=
            Nat.le_antisymm
              (length_le_of_cuts hOthers.symm hBehind' hBefore)
              (length_le_of_cuts hOthers hBehind hBefore')
          rcases List.append_inj hOthers hLength with ⟨hFront, hRest⟩
          simp only [List.cons.injEq, Prod.mk.injEq] at hRest
          rcases hRest with ⟨⟨rfl, hTerm'⟩, hBack⟩
          have hLeftRow : left.row = left'.row := by
            rw [Row.mk.injEq]
            exact ⟨hTerm, hFront⟩
          have hRightRow : right.row = right'.row := by
            rw [Row.mk.injEq]
            exact ⟨hTerm', hBack⟩
          rw [ihLeft hLefts hLefts' hLeftRow,
            ihRight hRights hRights' hRightRow]

end Nesting

/- The nesting of a row, one operator after the other. -/
def Row.nested
    (row : Row) :
    Nesting :=
  row.others.foldl
    (fun nesting (operator, term) => nesting.extended operator term)
    (.operand row.first)

theorem Row.nested_spec
    (row : Row) :
    row.nested.row = row ∧ row.nested.IsOrdered := by
  have hFold :
      ∀ (others : List (OperatorToken × Term)) (nesting : Nesting),
        nesting.IsOrdered →
          let result :=
            others.foldl
              (fun nesting (operator, term) =>
                nesting.extended operator term)
              nesting
          result.row =
              ⟨nesting.row.first, nesting.row.others ++ others⟩ ∧
            result.IsOrdered := by
    intro others
    induction others with
    | nil =>
        intro nesting hOrdered
        exact ⟨by simp, hOrdered⟩
    | cons other others ih =>
        intro nesting hOrdered
        have hRest :=
          ih _ (Nesting.isOrdered_extended hOrdered other.1 other.2)
        rw [Nesting.row_extended] at hRest
        simpa using hRest
  exact hFold row.others (.operand row.first) trivial

------------------------------------------------------------
-- Parsing a Row
------------------------------------------------------------

/- Each nesting that respects the precedences is read from its row. -/
theorem Nesting.parses
    {nesting : Nesting}
    (hOrdered : nesting.IsOrdered) :
    Parse.ParsesExpressionBefore Parse.AnyNext nesting.level
      nesting.row.tokens nesting.node := by
  induction nesting with
  | operand term =>
      have hTokens : (operand term).row.tokens = term.tokens := by
        simp [row, Row.tokens]
      rw [hTokens]
      exact term.derived.parses
  | operation operator left right ihLeft ihRight =>
      rcases hOrdered with ⟨hLeft, hRight, hLefts, hRights⟩
      rw [row_tokens_operation]
      exact .binary operator.mem_binaryOperatorsAt trivial
        ((ihLeft hLefts).loosen hLeft) ((ihRight hRights).loosen hRight)

/- What is taken for a precedence belongs to levels above it. -/
theorem Nesting.level_of_tighter
    {nesting : Nesting}
    {precedence : Precedence}
    (hPrecedence : precedence ≠ .call)
    (hTighter :
      ∀ other ∈ nesting.row.others, precedence < other.1.precedence) :
    Parse.levelAbove precedence ≤ nesting.level ∧
      precedence.level ≤ nesting.level := by
  cases nesting with
  | operand term =>
      exact ⟨Parse.levelAbove_le_unaryLevel precedence,
        Parse.level_le_unaryLevel hPrecedence⟩
  | operation operator left right =>
      have hRoot : precedence.level < operator.level :=
        hTighter (operator, right.row.first) (by simp [row])
      have hAbove : Parse.levelAbove precedence ≤ precedence.level + 1 :=
        Nat.min_le_left _ _
      exact ⟨Nat.le_trans hAbove hRoot, Nat.le_of_lt hRoot⟩

/- Behind what is taken stands what binds no tighter. -/
theorem Row.tokens_above
    (row : Row)
    (precedence : Precedence) :
    ∃ remaining,
      row.tokens = (row.above precedence).tokens ++ remaining ∧
        ∀ token ∈ remaining.head?,
          (precedenceOf token.kind).level ≤ precedence.level := by
  let isTighter := fun other : OperatorToken × Term =>
    decide (precedence < other.1.precedence)
  let tokensOf := fun other : OperatorToken × Term =>
    other.1.token :: other.2.tokens
  refine ⟨(row.others.dropWhile isTighter).flatMap tokensOf, ?_, ?_⟩
  · have hSplit :
        row.others.takeWhile isTighter ++ row.others.dropWhile isTighter =
          row.others :=
      List.takeWhile_append_dropWhile
    change row.first.tokens ++ row.others.flatMap tokensOf =
      row.first.tokens ++
        (row.others.takeWhile isTighter).flatMap tokensOf ++ _
    rw [List.append_assoc, ← List.flatMap_append, hSplit]
  · have hHead := List.head?_dropWhile_not isTighter row.others
    cases hRest : row.others.dropWhile isTighter with
    | nil => simp
    | cons other others =>
        rw [hRest] at hHead
        have hLooser : ¬ precedence < other.1.precedence := by
          simpa [isTighter] using hHead
        intro token hToken
        cases hToken
        exact Nat.le_of_not_lt hLooser

/-
  A row that is followed by neither a binary operator nor an
  opening parenthesis. For any precedence but that of calls, the
  expression at its first token is the row up to the first
  operator that binds no tighter. Exactly these tokens are read,
  without an error, and the tree is the only one over their
  operands that respects the precedences.
-/
theorem expression_nests_operators
    {precedence : Precedence}
    {row : Row}
    {first : ParserState}
    {rest : List Token}
    (hPrecedence : precedence ≠ .call)
    (hAhead : first.ahead = row.tokens ++ rest)
    (hNext : extension? (rest.headD first.ending).kind = none) :
    let taken := row.above precedence
    ∃ nesting : Nesting,
      (nesting.row = taken ∧ nesting.IsOrdered) ∧
        (∀ other : Nesting,
          other.row = taken ∧ other.IsOrdered → other = nesting) ∧
        ∃ last,
          Parse.expression precedence first =
              (some nesting.node, last) ∧
            first.Spans taken.tokens last.next ∧
            last.errors = first.errors := by
  intro taken
  rcases taken.nested_spec with ⟨hRow, hOrdered⟩
  have hParses := Nesting.parses hOrdered
  rw [hRow] at hParses
  have hTighter :
      ∀ other ∈ taken.nested.row.others,
        precedence < other.1.precedence := by
    rw [hRow]
    intro other hOther
    have hAll := List.all_eq_true.mp List.all_takeWhile other hOther
    simpa using hAll
  rcases Nesting.level_of_tighter hPrecedence hTighter with
    ⟨hAbove, hLevel⟩
  rcases row.tokens_above precedence with
    ⟨remaining, hTokens, hRemaining⟩
  rw [hTokens, List.append_assoc] at hAhead
  have hCloses :
      Parse.ClosesAmong Parse.AnyNext precedence.level
        ((remaining ++ rest).headD first.ending).kind := by
    refine ⟨?_, trivial⟩
    cases remaining with
    | nil => exact Parse.level_of_extension?_none hNext precedence
    | cons token others => exact hRemaining token rfl
  rcases
      hParses.run precedence hAhead
        (Parse.level_le_unaryLevel hPrecedence) hAbove hLevel hCloses with
    ⟨last, hSpans, hRun⟩
  refine ⟨taken.nested, ⟨hRow, hOrdered⟩, ?_, last, hRun, hSpans,
    hSpans.errors⟩
  rintro other ⟨hOther, hRespects⟩
  exact Nesting.eq_of_row_eq hRespects hOrdered (hOther.trans hRow.symm)

/-
  Five names with four operators, and the precedence of the
  last operator: the first four names are taken.
-/
theorem expression_nests_operators_mixed :
    let a : Token := ⟨⟨"a", 1, 1⟩, .ident⟩
    let minus : Token := ⟨⟨"-", 1, 3⟩, .minus⟩
    let b : Token := ⟨⟨"b", 1, 5⟩, .ident⟩
    let times : Token := ⟨⟨"*", 1, 7⟩, .asterisk⟩
    let c : Token := ⟨⟨"c", 1, 9⟩, .ident⟩
    let plus : Token := ⟨⟨"+", 1, 11⟩, .plus⟩
    let d : Token := ⟨⟨"d", 1, 13⟩, .ident⟩
    let equal : Token := ⟨⟨"==", 1, 15⟩, .eq⟩
    let e : Token := ⟨⟨"e", 1, 18⟩, .ident⟩
    let name (token : Token) : Node :=
      .identifier ⟨token.toMark, token.literal⟩
    let product : Node :=
      .binary times.toMark (name b) "*" (name c)
    let difference : Node :=
      .binary minus.toMark (name a) "-" product
    let taken := [a, minus, b, times, c, plus, d]
    let first := ParserState.ofTokens (taken ++ [equal, e])
    ∃ last,
      Parse.expression .equals first =
          (some (.binary plus.toMark difference "+" (name d)), last) ∧
        first.Spans taken last.next ∧ last.errors = [] := by
  intro a minus b times c plus d equal e name product difference taken
    first
  let before : OperatorToken := ⟨minus, by decide⟩
  let inner : OperatorToken := ⟨times, by decide⟩
  let outer : OperatorToken := ⟨plus, by decide⟩
  let row : Row :=
    ⟨.name a rfl,
      [(before, .name b rfl), (inner, .name c rfl),
        (outer, .name d rfl), (⟨equal, by decide⟩, .name e rfl)]⟩
  let expected : Nesting :=
    .operation outer
      (.operation before (.operand (.name a rfl))
        (.operation inner (.operand (.name b rfl))
          (.operand (.name c rfl))))
      (.operand (.name d rfl))
  have hExpected :
      expected.row = row.above .equals ∧ expected.IsOrdered := by
    refine ⟨rfl, ?_⟩
    simp only [expected, Nesting.IsOrdered, Nesting.level]
    decide
  rcases
      @expression_nests_operators .equals row first [] (by decide) rfl
        (by decide) with
    ⟨nesting, -, hUnique, last, hRun, hSpans, hErrors⟩
  rw [← hUnique expected hExpected] at hRun
  exact ⟨last, hRun, hSpans, hErrors⟩

end MonkeyLang
