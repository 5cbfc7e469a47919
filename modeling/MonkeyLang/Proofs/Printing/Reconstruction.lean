import MonkeyLang.Node.Printer
import MonkeyLang.Proofs.Parsing.Acceptance
import MonkeyLang.Proofs.Parsing.Placement
import MonkeyLang.Proofs.Printing.Scanning
import MonkeyLang.Proofs.Printing.WellFormed
import MonkeyLang.Proofs.Word64

/-
  A well-formed tree is read back from its text: the text is
  read as tokens that can be derived in the grammar, as a tree
  that is equal up to marks and has the same text.

  Main declarations:
    * `ReadsBack`         (a text that is read back)
    * `ReadsBack.join`    (texts with a separator between them)
    * `ReadsBack.exists_parse`
    * `WellFormed.Expression.readsBack`, ...
    * `parse_text_restores`
-/

------------------------------------------------------------
-- Copies
------------------------------------------------------------

namespace MonkeyLang

/- Equality and text are computed along the form of a tree. -/
attribute [local simp] Node.same Node.text

/- A tree that is equal to another up to marks, with its text. -/
structure Node.CopyOf
    (copy node : Node) :
    Prop where
  same : copy.same node = true
  text : copy.text = node.text

theorem Node.texts_eq_map
    (nodes : List Node) :
    Node.texts nodes = nodes.map Node.text := by
  induction nodes with
  | nil => rfl
  | cons node nodes ih => simp [Node.texts, ih]

theorem Node.sameAll_of_copies
    {copies nodes : List Node}
    (hCopies : List.Forall₂ Node.CopyOf copies nodes) :
    Node.sameAll copies nodes = true :=
  Node.sameAll_iff.mpr (hCopies.imp fun _ _ hCopy => hCopy.same)

theorem Node.texts_of_copies
    {copies nodes : List Node}
    (hCopies : List.Forall₂ Node.CopyOf copies nodes) :
    Node.texts copies = Node.texts nodes := by
  induction hCopies with
  | nil => rfl
  | cons hCopy _ ih => simp [Node.texts, hCopy.text, ih]

------------------------------------------------------------
-- Reading Back
------------------------------------------------------------

/-
  A text is read by itself, and from all tokens with those
  contents something can be derived that is a copy.
-/
def ReadsBack
    (text : List Char)
    (derives : List Token → α → Prop)
    (isCopy : α → Prop) :
    Prop :=
  ∃ items,
    Scans text items ∧
      ∀ tokens : List Token, tokens.map Token.content = items →
        ∃ copy, derives tokens copy ∧ isCopy copy

/- The first token of some contents. -/
theorem exists_first_token
    {tokens : List Token}
    {kind : TokenKind}
    {literal : String}
    {items : List (TokenKind × String)}
    (hTokens : tokens.map Token.content = (kind, literal) :: items) :
    ∃ token rest,
      tokens = token :: rest ∧ token.kind = kind ∧
        token.literal = literal ∧ rest.map Token.content = items := by
  rcases List.map_eq_cons_iff.mp hTokens with
    ⟨token, rest, rfl, hToken, hRest⟩
  exact ⟨token, rest, rfl, congrArg Prod.fst hToken,
    congrArg Prod.snd hToken, hRest⟩

/-
  Texts with a separator between them are read back, if each of
  them is and the separator is a delimiter and a blank.
-/
theorem ReadsBack.join
    {textOf : γ → String}
    {derives : List Token → α → Prop}
    {copies : α → γ → Prop}
    {all : List Token → List α → Prop}
    {separator : String}
    {c : Char}
    {kind : TokenKind}
    (hSeparator : separator.toList = [c, ' '])
    (hDelimiter :
      ∀ {text items}, Scans text items →
        Scans (c :: text) ((kind, kind.label) :: items))
    (hEnds : ∀ text, Ends (c :: text))
    (hNone : all [] [])
    (hOne : ∀ {tokens a}, derives tokens a → all tokens [a])
    (hMore :
      ∀ {tokens token others a b more},
        derives tokens a → token.kind = kind →
          all others (b :: more) →
            all (tokens ++ token :: others) (a :: b :: more))
    (list : List γ)
    (hList :
      ∀ item ∈ list,
        ReadsBack (textOf item).toList derives (copies · item)) :
    ReadsBack (Text.join separator (list.map textOf)).toList all
      (List.Forall₂ copies · list) := by
  induction list with
  | nil =>
      refine ⟨[], .nil, fun tokens hTokens => ?_⟩
      rcases List.map_eq_nil_iff.mp hTokens with rfl
      exact ⟨[], hNone, .nil⟩
  | cons item rest ih =>
      rcases hList item (by simp) with ⟨items, hScans, hCopy⟩
      cases rest with
      | nil =>
          refine ⟨items, hScans, fun tokens hTokens => ?_⟩
          rcases hCopy tokens hTokens with ⟨copy, hDerived, hSame⟩
          exact ⟨[copy], hOne hDerived, .cons hSame .nil⟩
      | cons next others =>
          rcases
              ih fun item hItem => hList item (by simp [hItem]) with
            ⟨behind, hScansRest, hCopies⟩
          have hText :
              (Text.join separator
                ((item :: next :: others).map textOf)).toList =
                (textOf item).toList ++ c :: ' ' ::
                  (Text.join separator
                    ((next :: others).map textOf)).toList := by
            simp [Text.join, hSeparator]
          rw [hText]
          refine ⟨items ++ (kind, kind.label) :: behind, ?_, ?_⟩
          · exact
              hScans.append (hEnds _) (hDelimiter hScansRest.blank)
          · intro tokens hTokens
            rcases List.map_eq_append_iff.mp hTokens with
              ⟨front, back, rfl, hFront, hBack⟩
            rcases exists_first_token hBack with
              ⟨token, last, rfl, hKind, -, hLast⟩
            rcases hCopy front hFront with ⟨copy, hDerived, hSame⟩
            rcases hCopies last hLast with ⟨copies, hAll, hSames⟩
            cases hSames with
            | cons hHead hTail =>
                exact ⟨_, hMore hDerived hKind hAll,
                  .cons hSame (.cons hHead hTail)⟩

------------------------------------------------------------
-- Single Tokens
------------------------------------------------------------

/- The text of an expression is read back as one. -/
def Node.ReadsAsExpression
    (node : Node) :
    Prop :=
  ReadsBack node.text.toList (Grammar.Expression Grammar.callLevel)
    (Node.CopyOf · node)

/- An operand of one token. -/
theorem readsAsExpression_single
    {node : Node}
    {kind : TokenKind}
    {literal : List Char}
    (hSpelled : Spelled kind literal node.text.toList)
    (hHead : node.text.toList.head? ≠ some '=')
    (hCopy :
      ∀ token : Token, token.kind = kind →
        token.literal = String.ofList literal →
          ∃ copy,
            Grammar.Primary [token] copy ∧ Node.CopyOf copy node) :
    node.ReadsAsExpression := by
  refine ⟨_, .of_spelled hSpelled hHead, fun tokens hTokens => ?_⟩
  rcases exists_first_token hTokens with
    ⟨token, rest, rfl, hKind, hLiteral, hRest⟩
  rcases List.map_eq_nil_iff.mp hRest with rfl
  rcases hCopy token hKind hLiteral with ⟨copy, hPrimary, hSame⟩
  exact ⟨copy, .primary hPrimary, hSame⟩

theorem spelled_of_isName
    {name : String}
    (hName : WellFormed.IsName name) :
    Spelled .ident name.toList name.toList := by
  refine .identifier hName.1 ?_
  rw [String.ofList_toList]
  exact hName.2

theorem scans_of_isName
    {name : String}
    (hName : WellFormed.IsName name) :
    Scans name.toList [(.ident, name)] := by
  have hScans :=
    Scans.of_spelled (spelled_of_isName hName)
      (head?_of_isWord (.inl hName.1))
  rwa [String.ofList_toList] at hScans

theorem readsAsExpression_identifier
    {id : Identifier}
    (hName : WellFormed.IsName id.name) :
    (Node.identifier id).ReadsAsExpression := by
  refine
    readsAsExpression_single (spelled_of_isName hName)
      (head?_of_isWord (.inl hName.1)) fun token hKind hLiteral => ?_
  rw [String.ofList_toList] at hLiteral
  refine ⟨_, .identifier hKind, ?_, ?_⟩
  · simp [hLiteral]
  · simp [hLiteral]

theorem readsAsExpression_integer
    {mark : Mark}
    {value : Int}
    (hNumber : IsNumber mark.literal.toList)
    (hValue : Numeral.read? mark.literal = some value)
    (hRange : Word64.inRange value = true) :
    (Node.integer mark value).ReadsAsExpression := by
  refine
    readsAsExpression_single (.number hNumber)
      (head?_of_isWord (.inr hNumber)) fun token hKind hLiteral => ?_
  have hSame : token.literal = mark.literal := by
    rw [hLiteral]
    exact String.ofList_toList
  refine ⟨_, .integer hKind (hSame ▸ hValue) hRange, ?_, ?_⟩
  · simp
  · simp [hSame]

theorem readsAsExpression_boolean
    {mark : Mark}
    {value : Bool}
    (hLiteral : mark.literal = if value then "true" else "false") :
    (Node.boolean mark value).ReadsAsExpression := by
  have hWord :
      ∃ kind, (kind = .trueWord ∨ kind = .falseWord) ∧
        (mark.literal, kind) ∈ keywords := by
    rw [hLiteral]
    cases value
    · exact ⟨.falseWord, .inr rfl, by decide⟩
    · exact ⟨.trueWord, .inl rfl, by decide⟩
  rcases hWord with ⟨kind, hKinds, hKeyword⟩
  refine
    readsAsExpression_single (.keyword hKeyword)
      (head?_of_isWord (.inl (isWord_keyword hKeyword)))
      fun token hKind hToken => ?_
  have hSame : token.literal = mark.literal := by
    rw [hToken]
    exact String.ofList_toList
  refine
    ⟨.boolean token.toMark value,
      .boolean (by rw [hKind]; exact hKinds) (hSame.trans hLiteral),
      ?_, ?_⟩
  · simp
  · simp [hSame]

theorem readsAsExpression_string
    {mark : Mark}
    {value : String}
    (hContent : '"' ∉ value.toList) :
    (Node.string mark value).ReadsAsExpression := by
  have hText :
      (Node.string mark value).text.toList =
        '"' :: value.toList ++ ['"'] := by
    simp
  have hSpelled :
      Spelled .string value.toList
        (Node.string mark value).text.toList := by
    rw [hText]
    exact .string hContent
  refine
    readsAsExpression_single hSpelled (by simp)
      fun token hKind hLiteral => ?_
  rw [String.ofList_toList] at hLiteral
  refine ⟨_, .string hKind, ?_, ?_⟩
  · simp [hLiteral]
  · simp [hLiteral]

------------------------------------------------------------
-- Operators
------------------------------------------------------------

/- An operator of an expression in parentheses belongs to a level. -/
theorem exists_level_of_binaryOperator
    {kind : TokenKind}
    (hKind : kind ∈ binaryOperators) :
    ∃ level,
      kind ∈ Grammar.binaryOperatorsAt level ∧
        Grammar.anyLevel ≤ level ∧ level < Grammar.callLevel := by
  refine ⟨(precedenceOf kind).level, ?_⟩
  revert hKind
  cases kind <;> decide

theorem readsAsExpression_unary
    {mark : Mark}
    {operator : String}
    {right : Node}
    (hOperator : operator = "!" ∨ operator = "-")
    (hRight : right.ReadsAsExpression) :
    (Node.unary mark operator right).ReadsAsExpression := by
  have hKinds :
      ∃ kind c, kind ∈ Grammar.unaryOperators ∧
        kind.label.toList = [c] ∧ c ≠ '=' ∧
          kind.label = operator := by
    rcases hOperator with rfl | rfl
    · exact ⟨.bang, '!', by decide, rfl, by decide, rfl⟩
    · exact ⟨.minus, '-', by decide, rfl, by decide, rfl⟩
  rcases hKinds with ⟨kind, c, hKind, hCharacter, hSign, hLabel⟩
  have hSymbol : kind ∈ symbolKinds := by
    revert hKind
    cases kind <;> decide
  subst hLabel
  rcases hRight with ⟨items, hScans, hCopy⟩
  have hText :
      (Node.unary mark kind.label right).text.toList =
        '(' :: (kind.label.toList ++ (right.text.toList ++ [')'])) := by
    simp
  refine
    ⟨(.lparen, "(") :: (kind, kind.label) ::
      (items ++ [(.rparen, ")")]), ?_, ?_⟩
  · have hOperand := hScans.append (ends_rparen []) Scans.nil.rparen
    rw [hText]
    exact (hOperand.sign hSymbol hCharacter hSign).lparen
  · intro tokens hTokens
    rcases exists_first_token hTokens with
      ⟨opening, rest, rfl, hOpening, -, hTokens⟩
    rcases exists_first_token hTokens with
      ⟨sign, rest, rfl, hSign, hLiteral, hTokens⟩
    rcases List.map_eq_append_iff.mp hTokens with
      ⟨operand, rest, rfl, hOperand, hTokens⟩
    rcases exists_first_token hTokens with
      ⟨closing, rest, rfl, hClosing, -, hTokens⟩
    rcases List.map_eq_nil_iff.mp hTokens with rfl
    rcases hCopy operand hOperand with ⟨copy, hDerived, hSame⟩
    have hInner :=
      Grammar.Expression.unary (hSign ▸ hKind)
        (hDerived.loosen (by decide))
    refine ⟨_, .primary (.grouped hOpening
      (hInner.loosen (by decide)) hClosing), ?_, ?_⟩
    · simp [hLiteral, hSame.same]
    · simp [hLiteral, hSame.text]

theorem readsAsExpression_binary
    {mark : Mark}
    {operator : String}
    {left right : Node}
    (hOperator : operator ∈ binaryOperators.map TokenKind.label)
    (hLeft : left.ReadsAsExpression)
    (hRight : right.ReadsAsExpression) :
    (Node.binary mark left operator right).ReadsAsExpression := by
  rcases List.mem_map.mp hOperator with ⟨kind, hKind, rfl⟩
  rcases exists_level_of_binaryOperator hKind with
    ⟨level, hLevel, hLow, hHigh⟩
  have hSymbol : kind ∈ symbolKinds := List.mem_append_right _ hKind
  rcases hLeft with ⟨leftItems, hLeftScans, hLeftCopy⟩
  rcases hRight with ⟨rightItems, hRightScans, hRightCopy⟩
  have hText :
      (Node.binary mark left kind.label right).text.toList =
        '(' :: (left.text.toList ++ ' ' :: (kind.label.toList ++
          ' ' :: (right.text.toList ++ [')']))) := by
    simp
  refine
    ⟨(.lparen, "(") :: (leftItems ++ (kind, kind.label) ::
      (rightItems ++ [(.rparen, ")")])), ?_, ?_⟩
  · have hOperand :=
      hRightScans.append (ends_rparen []) Scans.nil.rparen
    have hRest := hOperand.blank.operator hSymbol
    rw [hText]
    exact (hLeftScans.append (ends_blank _) hRest).lparen
  · intro tokens hTokens
    rcases exists_first_token hTokens with
      ⟨opening, rest, rfl, hOpening, -, hTokens⟩
    rcases List.map_eq_append_iff.mp hTokens with
      ⟨front, rest, rfl, hFront, hTokens⟩
    rcases exists_first_token hTokens with
      ⟨sign, rest, rfl, hSign, hLiteral, hTokens⟩
    rcases List.map_eq_append_iff.mp hTokens with
      ⟨back, rest, rfl, hBack, hTokens⟩
    rcases exists_first_token hTokens with
      ⟨closing, rest, rfl, hClosing, -, hTokens⟩
    rcases List.map_eq_nil_iff.mp hTokens with rfl
    rcases hLeftCopy front hFront with
      ⟨leftCopy, hLeftDerived, hLeftSame⟩
    rcases hRightCopy back hBack with
      ⟨rightCopy, hRightDerived, hRightSame⟩
    have hInner :=
      Grammar.Expression.binary (hSign ▸ hLevel)
        (hLeftDerived.loosen (Nat.le_of_lt hHigh))
        (hRightDerived.loosen hHigh)
    have hGrouped :=
      Grammar.Primary.grouped hOpening (hInner.loosen hLow) hClosing
    rw [List.append_assoc, List.cons_append] at hGrouped
    refine ⟨_, .primary hGrouped, ?_, ?_⟩
    · simp [hLiteral, hLeftSame.same, hRightSame.same]
    · simp [hLiteral, hLeftSame.text, hRightSame.text]

------------------------------------------------------------
-- Blocks
------------------------------------------------------------

/- The text of a statement is read back as one. -/
def Node.ReadsAsStatement
    (node : Node) :
    Prop :=
  ReadsBack node.text.toList Grammar.Statement (Node.CopyOf · node)

/- The text of a block is read back as one. -/
def Node.ReadsAsBlock
    (node : Node) :
    Prop :=
  ReadsBack node.text.toList Grammar.Block (Node.CopyOf · node)

theorem readsBack_statements
    {statements : List Node}
    (hStatements :
      ∀ statement ∈ statements, statement.ReadsAsStatement) :
    ReadsBack (Text.join "; " (Node.texts statements)).toList
      Grammar.Statements (List.Forall₂ Node.CopyOf · statements) := by
  rw [Node.texts_eq_map]
  refine
    ReadsBack.join (by simp) Scans.semicolon ends_semicolon .none
      (fun hDerived => ?_) ?_ statements hStatements
  · simpa using
      Grammar.Statements.unended hDerived .none (by simp)
  · exact fun hDerived hKind hOthers => .ended hDerived hKind hOthers

/- The text of a block, with its statements inside. -/
theorem toList_blockText
    (mark : Mark)
    (statements : List Node) :
    ∃ blanks,
      (blanks = [] ∨ blanks = [' ']) ∧
        (Node.block mark statements).text.toList =
          '{' :: ' ' ::
            ((Text.join "; " (Node.texts statements)).toList ++
              (blanks ++ ['}'])) := by
  cases statements with
  | nil => exact ⟨[], .inl rfl, by simp [Node.texts,
      blockText, Text.join]⟩
  | cons statement statements =>
      exact ⟨[' '], .inr rfl, by simp [Node.texts,
        blockText]⟩

theorem readsAsBlock
    {mark : Mark}
    {statements : List Node}
    (hStatements :
      ∀ statement ∈ statements, statement.ReadsAsStatement) :
    (Node.block mark statements).ReadsAsBlock := by
  rcases readsBack_statements hStatements with
    ⟨items, hScans, hCopy⟩
  rcases toList_blockText mark statements with
    ⟨blanks, hBlanks, hText⟩
  refine
    ⟨(.lbrace, Text.openBrace) ::
      (items ++ [(.rbrace, Text.closeBrace)]), ?_, ?_⟩
  · have hClosing :
        Ends (blanks ++ ['}']) ∧
          Scans (blanks ++ ['}']) [(.rbrace, Text.closeBrace)] := by
      rcases hBlanks with rfl | rfl
      · exact ⟨ends_rbrace [], Scans.nil.rbrace⟩
      · exact ⟨ends_blank _, Scans.nil.rbrace.blank⟩
    rw [hText]
    exact (hScans.append hClosing.1 hClosing.2).blank.lbrace
  · intro tokens hTokens
    rcases exists_first_token hTokens with
      ⟨opening, rest, rfl, hOpening, -, hTokens⟩
    rcases List.map_eq_append_iff.mp hTokens with
      ⟨inner, rest, rfl, hInner, hTokens⟩
    rcases exists_first_token hTokens with
      ⟨closing, rest, rfl, hClosing, -, hTokens⟩
    rcases List.map_eq_nil_iff.mp hTokens with rfl
    rcases hCopy inner hInner with ⟨copies, hDerived, hSame⟩
    refine ⟨_, .intro hOpening hDerived hClosing, ?_, ?_⟩
    · simp [Node.sameAll_of_copies hSame]
    · simp [Node.texts_of_copies hSame]

------------------------------------------------------------
-- Conditionals
------------------------------------------------------------

/-
  The text of a conditional without an alternative, and what
  tokens with its contents derive.
-/
theorem readsAsExpression_ifThen
    {mark : Mark}
    {condition consequence : Node}
    (hCondition : condition.ReadsAsExpression)
    (hConsequence : consequence.ReadsAsBlock) :
    (Node.ifThen mark condition consequence).ReadsAsExpression := by
  rcases hCondition with ⟨testItems, hTest, hTestCopy⟩
  rcases hConsequence with ⟨bodyItems, hBody, hBodyCopy⟩
  have hText :
      (Node.ifThen mark condition consequence).text.toList =
        "if".toList ++ (' ' :: '(' :: (condition.text.toList ++
          ')' :: ' ' :: consequence.text.toList)) := by
    simp
  refine
    ⟨(.ifWord, "if") :: (.lparen, "(") ::
      (testItems ++ (.rparen, ")") :: bodyItems), ?_, ?_⟩
  · have hBehind :=
      hTest.append (ends_rparen _) hBody.blank.rparen
    rw [hText]
    exact .keyword (by decide) (ends_blank _) hBehind.lparen.blank
  · intro tokens hTokens
    rcases exists_first_token hTokens with
      ⟨word, rest, rfl, hWord, -, hTokens⟩
    rcases exists_first_token hTokens with
      ⟨opening, rest, rfl, hOpening, -, hTokens⟩
    rcases List.map_eq_append_iff.mp hTokens with
      ⟨test, rest, rfl, hTestTokens, hTokens⟩
    rcases exists_first_token hTokens with
      ⟨closing, body, rfl, hClosing, -, hBodyTokens⟩
    rcases hTestCopy test hTestTokens with
      ⟨testNode, hTestDerived, hTestSame⟩
    rcases hBodyCopy body hBodyTokens with
      ⟨bodyNode, hBodyDerived, hBodySame⟩
    refine ⟨_, .primary (.ifThen hWord hOpening
      hTestDerived.anywhere hClosing hBodyDerived), ?_, ?_⟩
    · simp [hTestSame.same, hBodySame.same]
    · simp [hTestSame.text, hBodySame.text]

theorem readsAsExpression_ifElse
    {mark : Mark}
    {condition consequence alternative : Node}
    (hCondition : condition.ReadsAsExpression)
    (hConsequence : consequence.ReadsAsBlock)
    (hAlternative : alternative.ReadsAsBlock) :
    (Node.ifElse mark condition consequence
      alternative).ReadsAsExpression := by
  rcases hCondition with ⟨testItems, hTest, hTestCopy⟩
  rcases hConsequence with ⟨bodyItems, hBody, hBodyCopy⟩
  rcases hAlternative with ⟨otherItems, hOther, hOtherCopy⟩
  have hText :
      (Node.ifElse mark condition consequence
          alternative).text.toList =
        "if".toList ++ (' ' :: '(' :: (condition.text.toList ++
          ')' :: ' ' :: (consequence.text.toList ++
            ' ' :: ("else".toList ++
              ' ' :: alternative.text.toList)))) := by
    simp
  refine
    ⟨(.ifWord, "if") :: (.lparen, "(") ::
      (testItems ++ (.rparen, ")") ::
        (bodyItems ++ (.elseWord, "else") :: otherItems)), ?_, ?_⟩
  · have hWord : ("else", TokenKind.elseWord) ∈ keywords := by decide
    have hElse := Scans.keyword hWord (ends_blank _) hOther.blank
    have hBlocks := hBody.append (ends_blank _) hElse.blank
    have hBehind := hTest.append (ends_rparen _) hBlocks.blank.rparen
    rw [hText]
    exact .keyword (by decide) (ends_blank _) hBehind.lparen.blank
  · intro tokens hTokens
    rcases exists_first_token hTokens with
      ⟨word, rest, rfl, hWord, -, hTokens⟩
    rcases exists_first_token hTokens with
      ⟨opening, rest, rfl, hOpening, -, hTokens⟩
    rcases List.map_eq_append_iff.mp hTokens with
      ⟨test, rest, rfl, hTestTokens, hTokens⟩
    rcases exists_first_token hTokens with
      ⟨closing, rest, rfl, hClosing, -, hTokens⟩
    rcases List.map_eq_append_iff.mp hTokens with
      ⟨body, rest, rfl, hBodyTokens, hTokens⟩
    rcases exists_first_token hTokens with
      ⟨elseWord, other, rfl, hElse, -, hOtherTokens⟩
    rcases hTestCopy test hTestTokens with
      ⟨testNode, hTestDerived, hTestSame⟩
    rcases hBodyCopy body hBodyTokens with
      ⟨bodyNode, hBodyDerived, hBodySame⟩
    rcases hOtherCopy other hOtherTokens with
      ⟨otherNode, hOtherDerived, hOtherSame⟩
    refine ⟨_, .primary (.ifElse hWord hOpening
      hTestDerived.anywhere hClosing hBodyDerived hElse
      hOtherDerived), ?_, ?_⟩
    · simp [hTestSame.same, hBodySame.same,
        hOtherSame.same]
    · simp [hTestSame.text, hBodySame.text,
        hOtherSame.text]

------------------------------------------------------------
-- Functions and Calls
------------------------------------------------------------

theorem Node.texts_identifiers
    (names : List Identifier) :
    Node.texts (names.map .identifier) =
      names.map Identifier.name := by
  rw [Node.texts_eq_map, List.map_map]
  exact List.map_congr_left fun id _ => by simp

theorem readsBack_names
    {names : List Identifier}
    (hNames : ∀ id ∈ names, WellFormed.IsName id.name) :
    ReadsBack (Text.join ", " (names.map Identifier.name)).toList
      Grammar.Names
      (List.Forall₂ (fun a b => a.name = b.name) · names) := by
  have hOne :
      ∀ id ∈ names,
        ReadsBack id.name.toList
          (fun tokens (copy : Identifier) =>
            ∃ token : Token, tokens = [token] ∧
              token.kind = .ident ∧
              copy = ⟨token.toMark, token.literal⟩)
          (fun copy => copy.name = id.name) := by
    intro id hId
    have hName := hNames id hId
    refine ⟨_, scans_of_isName hName, fun tokens hTokens => ?_⟩
    rcases exists_first_token hTokens with
      ⟨token, rest, rfl, hKind, hLiteral, hRest⟩
    rcases List.map_eq_nil_iff.mp hRest with rfl
    exact ⟨_, ⟨token, rfl, hKind, rfl⟩, hLiteral⟩
  refine
    ReadsBack.join (by simp) Scans.comma ends_comma .none ?_ ?_
      names hOne
  · rintro tokens id ⟨token, rfl, hKind, rfl⟩
    exact .some hKind .none
  · rintro tokens comma others id next more ⟨token, rfl, hKind, rfl⟩
      hComma hOthers
    cases hOthers with
    | some hNext hMore => exact .some hKind (.more hComma hNext hMore)

theorem readsAsExpression_function
    {mark : Mark}
    {names : List Identifier}
    {body : Node}
    (hWord : mark.literal = "fn")
    (hNames : ∀ id ∈ names, WellFormed.IsName id.name)
    (hBody : body.ReadsAsBlock) :
    (Node.function mark (names.map .identifier)
      body).ReadsAsExpression := by
  rcases readsBack_names hNames with ⟨nameItems, hScans, hNamesCopy⟩
  rcases hBody with ⟨bodyItems, hBodyScans, hBodyCopy⟩
  have hText :
      (Node.function mark (names.map .identifier) body).text.toList =
        "fn".toList ++ ('(' ::
          ((Text.join ", " (names.map Identifier.name)).toList ++
            ')' :: ' ' :: body.text.toList)) := by
    simp [functionText, parametersText,
      Node.texts_identifiers, hWord]
  refine
    ⟨(.fnWord, "fn") :: (.lparen, "(") ::
      (nameItems ++ (.rparen, ")") :: bodyItems), ?_, ?_⟩
  · have hBehind :=
      hScans.append (ends_rparen _) hBodyScans.blank.rparen
    rw [hText]
    exact .keyword (by decide) (ends_lparen _) hBehind.lparen
  · intro tokens hTokens
    rcases exists_first_token hTokens with
      ⟨word, rest, rfl, hFn, hLiteral, hTokens⟩
    rcases exists_first_token hTokens with
      ⟨opening, rest, rfl, hOpening, -, hTokens⟩
    rcases List.map_eq_append_iff.mp hTokens with
      ⟨parameters, rest, rfl, hParameters, hTokens⟩
    rcases exists_first_token hTokens with
      ⟨closing, inner, rfl, hClosing, -, hInner⟩
    rcases hNamesCopy parameters hParameters with
      ⟨ids, hNamesDerived, hNamesSame⟩
    rcases hBodyCopy inner hInner with
      ⟨bodyNode, hBodyDerived, hBodySame⟩
    have hTexts :
        ids.map Identifier.name = names.map Identifier.name := by
      rw [← List.forall₂_eq_eq_eq, List.forall₂_map_left_iff,
        List.forall₂_map_right_iff]
      exact hNamesSame
    refine ⟨_, .primary (.function hFn hOpening hNamesDerived hClosing
      hBodyDerived), ?_, ?_⟩
    · simp [Node.sameAll_identifiers hNamesSame,
        hBodySame.same]
    · simp [functionText, parametersText,
        Node.texts_identifiers, hTexts, hBodySame.text, hLiteral,
        hWord]

theorem readsBack_arguments
    {arguments : List Node}
    (hArguments :
      ∀ argument ∈ arguments, argument.ReadsAsExpression) :
    ReadsBack (Text.join ", " (Node.texts arguments)).toList
      Grammar.Arguments (List.Forall₂ Node.CopyOf · arguments) := by
  rw [Node.texts_eq_map]
  refine
    ReadsBack.join (by simp) Scans.comma ends_comma .none
      (fun hDerived => ?_) ?_ arguments hArguments
  · simpa using
      Grammar.Arguments.some hDerived.anywhere .none
  · intro tokens comma others a b more hDerived hComma hOthers
    cases hOthers with
    | some hNext hMore =>
        exact .some hDerived.anywhere
          (.more hComma hNext hMore)

theorem readsAsExpression_call
    {mark : Mark}
    {callee : Node}
    {arguments : List Node}
    (hCallee : callee.ReadsAsExpression)
    (hArguments :
      ∀ argument ∈ arguments, argument.ReadsAsExpression) :
    (Node.call mark callee arguments).ReadsAsExpression := by
  rcases hCallee with ⟨calleeItems, hScans, hCopy⟩
  rcases readsBack_arguments hArguments with
    ⟨items, hListScans, hListCopy⟩
  have hText :
      (Node.call mark callee arguments).text.toList =
        callee.text.toList ++ '(' ::
          ((Text.join ", " (Node.texts arguments)).toList ++
            [')']) := by
    simp
  refine
    ⟨calleeItems ++ (.lparen, "(") :: (items ++ [(.rparen, ")")]),
      ?_, ?_⟩
  · have hList :=
      hListScans.append (ends_rparen []) Scans.nil.rparen
    rw [hText]
    exact hScans.append (ends_lparen _) hList.lparen
  · intro tokens hTokens
    rcases List.map_eq_append_iff.mp hTokens with
      ⟨front, rest, rfl, hFront, hTokens⟩
    rcases exists_first_token hTokens with
      ⟨opening, rest, rfl, hOpening, -, hTokens⟩
    rcases List.map_eq_append_iff.mp hTokens with
      ⟨list, rest, rfl, hList, hTokens⟩
    rcases exists_first_token hTokens with
      ⟨closing, rest, rfl, hClosing, -, hTokens⟩
    rcases List.map_eq_nil_iff.mp hTokens with rfl
    rcases hCopy front hFront with ⟨calleeNode, hDerived, hSame⟩
    rcases hListCopy list hList with
      ⟨nodes, hListDerived, hListSame⟩
    refine ⟨_, .call hDerived hOpening hListDerived hClosing, ?_, ?_⟩
    · simp [hSame.same, Node.sameAll_of_copies hListSame]
    · simp [hSame.text, Node.texts_of_copies hListSame]

------------------------------------------------------------
-- Statements
------------------------------------------------------------

theorem readsAsStatement_let
    {mark : Mark}
    {id : Identifier}
    {value : Node}
    (hWord : mark.literal = "let")
    (hName : WellFormed.IsName id.name)
    (hValue : value.ReadsAsExpression) :
    (Node.letStatement mark (.identifier id)
      value).ReadsAsStatement := by
  rcases hValue with ⟨items, hScans, hCopy⟩
  have hText :
      (Node.letStatement mark (.identifier id) value).text.toList =
        "let".toList ++ ' ' :: (id.name.toList ++
          ' ' :: (TokenKind.assign.label.toList ++
            ' ' :: value.text.toList)) := by
    simp [TokenKind.label, hWord]
  refine
    ⟨(.letWord, "let") :: (.ident, id.name) :: (.assign, "=") :: items,
      ?_, ?_⟩
  · have hSign : TokenKind.assign ∈ symbolKinds := by decide
    have hBehind :=
      (scans_of_isName hName).append (ends_blank _)
        (hScans.blank.operator hSign)
    rw [hText]
    exact .keyword (by decide) (ends_blank _) hBehind.blank
  · intro tokens hTokens
    rcases exists_first_token hTokens with
      ⟨word, rest, rfl, hLet, hLiteral, hTokens⟩
    rcases exists_first_token hTokens with
      ⟨name, rest, rfl, hIdent, hSame, hTokens⟩
    rcases exists_first_token hTokens with
      ⟨sign, rest, rfl, hSign, -, hTokens⟩
    rcases hCopy rest hTokens with ⟨copy, hDerived, hValue⟩
    refine ⟨_, .letStatement hLet hIdent hSign
      hDerived.anywhere, ?_, ?_⟩
    · simp [hSame, hValue.same]
    · simp [hSame, hValue.text, hLiteral, hWord]

theorem readsAsStatement_return
    {mark : Mark}
    {value : Node}
    (hWord : mark.literal = "return")
    (hValue : value.ReadsAsExpression) :
    (Node.returnStatement mark value).ReadsAsStatement := by
  rcases hValue with ⟨items, hScans, hCopy⟩
  have hText :
      (Node.returnStatement mark value).text.toList =
        "return".toList ++ ' ' :: value.text.toList := by
    simp [hWord]
  refine ⟨(.returnWord, "return") :: items, ?_, ?_⟩
  · rw [hText]
    exact .keyword (by decide) (ends_blank _) hScans.blank
  · intro tokens hTokens
    rcases exists_first_token hTokens with
      ⟨word, rest, rfl, hReturn, hLiteral, hTokens⟩
    rcases hCopy rest hTokens with ⟨copy, hDerived, hSame⟩
    refine ⟨_, .returnStatement hReturn
      hDerived.anywhere, ?_, ?_⟩
    · simp [hSame.same]
    · simp [hSame.text, hLiteral, hWord]

theorem readsAsStatement_expression
    {mark : Mark}
    {inner : Node}
    (hInner : inner.ReadsAsExpression) :
    (Node.expressionStatement mark inner).ReadsAsStatement := by
  rcases hInner with ⟨items, hScans, hCopy⟩
  have hText : (Node.expressionStatement mark inner).text = inner.text := by
    simp
  refine ⟨items, hText ▸ hScans, fun tokens hTokens => ?_⟩
  rcases hCopy tokens hTokens with ⟨copy, hDerived, hSame⟩
  rcases hDerived.exists_head with ⟨token, rest, rfl, -⟩
  refine ⟨_, .expression hDerived.anywhere, ?_, ?_⟩
  · simp [hSame.same]
  · simp [hSame.text]

theorem readsAsStatement_block
    {node : Node}
    (hBlock : node.ReadsAsBlock) :
    node.ReadsAsStatement := by
  rcases hBlock with ⟨items, hScans, hCopy⟩
  refine ⟨items, hScans, fun tokens hTokens => ?_⟩
  rcases hCopy tokens hTokens with ⟨copy, hDerived, hSame⟩
  exact ⟨copy, .block hDerived, hSame⟩

------------------------------------------------------------
-- Well-Formed Trees
------------------------------------------------------------

namespace WellFormed

mutual

theorem Expression.readsBack
    {node : Node} :
    Expression node → node.ReadsAsExpression
  | .identifier hName => readsAsExpression_identifier hName
  | .integer hNumber hValue hLow hHigh =>
      readsAsExpression_integer hNumber hValue
        (Word64.inRange_of_nonneg hLow hHigh)
  | .boolean hLiteral => readsAsExpression_boolean hLiteral
  | .string hContent => readsAsExpression_string hContent
  | .unary hOperator hRight =>
      readsAsExpression_unary hOperator hRight.readsBack
  | .binary hOperator hLeft hRight =>
      readsAsExpression_binary hOperator hLeft.readsBack
        hRight.readsBack
  | .ifThen hCondition hConsequence =>
      readsAsExpression_ifThen hCondition.readsBack
        hConsequence.readsBack
  | .ifElse hCondition hConsequence hAlternative =>
      readsAsExpression_ifElse hCondition.readsBack
        hConsequence.readsBack hAlternative.readsBack
  | .function hWord hNames hBody =>
      readsAsExpression_function hWord hNames hBody.readsBack
  | .call hCallee hArguments =>
      readsAsExpression_call hCallee.readsBack
        fun argument hMember =>
          (hArguments argument hMember).readsBack

theorem Block.readsBack
    {node : Node} :
    Block node → node.ReadsAsBlock
  | .intro hStatements =>
      readsAsBlock fun statement hMember =>
        (hStatements statement hMember).readsBack

theorem Statement.readsBack
    {node : Node} :
    Statement node → node.ReadsAsStatement
  | .letStatement hWord hName hValue =>
      readsAsStatement_let hWord hName hValue.readsBack
  | .returnStatement hWord hValue =>
      readsAsStatement_return hWord hValue.readsBack
  | .expression hInner => readsAsStatement_expression hInner.readsBack
  | .block hBlock => readsAsStatement_block hBlock.readsBack

end

end WellFormed

------------------------------------------------------------
-- Programs
------------------------------------------------------------

/-
  Parsing the text of a program gives the program again: there
  is no error, the tree is equal up to marks, and it has the
  same text.
-/
structure IsRestored
    (program : Node) :
    Prop where
  errors : (parse program.text).errors = []
  same : (parse program.text).program.same program = true
  text : (parse program.text).program.text = program.text

/- A text from which statements can be derived has them as its program. -/
theorem ReadsBack.exists_parse
    {text : String}
    {isCopy : List Node → Prop}
    (hText : ReadsBack text.toList Grammar.Statements isCopy) :
    ∃ copies, parse text = ⟨copies, []⟩ ∧ isCopy copies := by
  rcases hText with ⟨items, hScans, hCopy⟩
  have hTokens :
      (tokenize text).map Token.content = items ++ [(.eof, "")] := by
    have hRead := hScans.contents [] ends_nil
    rw [List.append_nil, contents_finish .none] at hRead
    rw [← hRead, contents, String.ofList_toList]
  rcases List.map_eq_append_iff.mp hTokens with
    ⟨front, rest, hShape, hFront, hRest⟩
  rcases exists_first_token hRest with
    ⟨ending, others, rfl, hEnd, -, -⟩
  rcases hCopy front hFront with ⟨copies, hDerived, hCopies⟩
  have hBefore : beforeEnd (tokenize text) = front := by
    rw [hShape]
    exact beforeEnd_append hDerived.ne_eof (by simpa using hEnd)
  exact ⟨copies, parseTokens_of_derivable (hBefore.symm ▸ hDerived),
    hCopies⟩

theorem isRestored_of_wellFormed
    {statements : List Node}
    (hStatements :
      ∀ statement ∈ statements, WellFormed.Statement statement) :
    IsRestored (.program statements) := by
  have hText :
      (Node.program statements).text =
        Text.join "; " (Node.texts statements) := by
    simp
  have hReadsBack :
      ReadsBack (Node.program statements).text.toList
        Grammar.Statements
        (List.Forall₂ Node.CopyOf · statements) := by
    rw [hText]
    exact readsBack_statements fun statement hMember =>
      (hStatements statement hMember).readsBack
  rcases hReadsBack.exists_parse with ⟨copies, hParse, hCopies⟩
  constructor
  · rw [hParse]
  · rw [hParse]
    exact Node.sameAll_of_copies hCopies
  · rw [hParse, hText]
    exact congrArg (Text.join "; ") (Node.texts_of_copies hCopies)

/-
  Printing loses nothing. The program that is parsed from a
  source, whatever its errors, is restored from its text, and
  so is every program of well-formed statements.
-/
theorem parse_text_restores :
    (∀ source, IsRestored (parse source).program) ∧
      ∀ statements : List Node,
        (∀ statement ∈ statements, WellFormed.Statement statement) →
          IsRestored (.program statements) :=
  ⟨fun source =>
      isRestored_of_wellFormed (WellFormed.statement_of_parse source),
    fun _ hStatements => isRestored_of_wellFormed hStatements⟩

/- A call of a function that is written in place is restored. -/
theorem restores_immediate_call :
    let mark : Mark := ⟨"", 0, 0⟩
    let name : Node := .identifier ⟨mark, "x"⟩
    let body : Node :=
      .block mark [
        .letStatement ⟨"let", 0, 0⟩ name (.string mark "a;b"),
        .returnStatement ⟨"return", 0, 0⟩ (.unary mark "!" name)]
    let call : Node :=
      .call mark (.function ⟨"fn", 0, 0⟩ [name] body)
        [.boolean ⟨"true", 0, 0⟩ true]
    WellFormed.Statement (.expressionStatement mark call) ∧
      IsRestored (.program [.expressionStatement mark call]) := by
  intro mark name body call
  have hName : WellFormed.IsName "x" := by
    refine ⟨⟨by decide, by decide⟩, fun kind hKind => ?_⟩
    have hWords : "x" ∉ keywords.map Prod.fst := by decide
    exact hWords (List.mem_map_of_mem hKind)
  have hBody : WellFormed.Block body := by
    refine .intro fun statement hMember => ?_
    simp only [List.mem_cons, List.not_mem_nil, or_false] at hMember
    rcases hMember with rfl | rfl
    · exact .letStatement rfl hName (.string (by decide))
    · exact .returnStatement rfl (.unary (.inl rfl) (.identifier hName))
  have hFunction :
      WellFormed.Expression (.function ⟨"fn", 0, 0⟩ [name] body) := by
    refine @WellFormed.Expression.function _ [⟨mark, "x"⟩] _ rfl ?_ hBody
    simpa using hName
  have hCall : WellFormed.Statement (.expressionStatement mark call) := by
    refine .expression (.call hFunction ?_)
    simpa using WellFormed.Expression.boolean rfl
  exact ⟨hCall,
    parse_text_restores.2 [_] (by simpa using hCall)⟩

end MonkeyLang
