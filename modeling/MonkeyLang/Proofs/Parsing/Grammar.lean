import MonkeyLang.Node.Basic
import MonkeyLang.Numeral
import MonkeyLang.Parser.Dispatch
import MonkeyLang.Token.Precedence
import MonkeyLang.Word64

/-
  The grammar of the language over tokens, with the tree that
  each derivation builds.

  Expressions are stratified: an operand of an operator is an
  expression of the operator's level or of the next tighter
  one, so that a derivation tells how the operators nest.

  Main declarations:
    * `Grammar.Expression`   (the expressions of a level)
    * `Grammar.Primary`, `Grammar.Arguments`, `Grammar.Block`
    * `Grammar.Statement`
    * `Grammar.Statements`   (a program or the inside of a block)
-/

------------------------------------------------------------
-- Levels
------------------------------------------------------------

namespace MonkeyLang

namespace Grammar

/- The level of any expression, which is that of the equalities. -/
def anyLevel : Nat := 2

/- The binary operators of each level, the loosest level first. -/
def binaryOperatorsAt
    (level : Nat) :
    List TokenKind :=
  match level with
  | 2 => [.eq, .notEq]
  | 3 => [.lt, .gt]
  | 4 => [.plus, .minus]
  | 5 => [.asterisk, .slash]
  | _ => []

/- The unary operators. -/
def unaryOperators : List TokenKind := [.bang, .minus]

/- The level of the unary operators. -/
def unaryLevel : Nat := 6

/- The level of calls and of what takes no operators. -/
def callLevel : Nat := 7

------------------------------------------------------------
-- Parameters
------------------------------------------------------------

/- Parameters that follow, each after a comma. -/
inductive MoreNames : List Token → List Identifier → Prop where
  | none :
      MoreNames [] []
  | more {comma name : Token} {tokens : List Token}
      {names : List Identifier}
      (hComma : comma.kind = .comma)
      (hName : name.kind = .ident)
      (hMore : MoreNames tokens names) :
      MoreNames (comma :: name :: tokens)
        (⟨name.toMark, name.literal⟩ :: names)

/- Parameters, with commas between them. -/
inductive Names : List Token → List Identifier → Prop where
  | none :
      Names [] []
  | some {name : Token} {tokens : List Token}
      {names : List Identifier}
      (hName : name.kind = .ident)
      (hMore : MoreNames tokens names) :
      Names (name :: tokens) (⟨name.toMark, name.literal⟩ :: names)

------------------------------------------------------------
-- Expressions and Statements
------------------------------------------------------------

/-
  What may follow a statement without a semicolon between: not
  what would extend the expression at its end. A block ends by
  itself.
-/
def MayFollow
    (statement : Node)
    (next : TokenKind) :
    Prop :=
  match statement with
  | .block _ _ => True
  | _ => next ≠ .lparen ∧ next ≠ .minus

mutual

/- The expressions of a level, and of all tighter ones. -/
inductive Expression : Nat → List Token → Node → Prop where
  | tighter {level : Nat} {tokens : List Token} {node : Node}
      (hTighter : Expression (level + 1) tokens node) :
      Expression level tokens node
  | binary {level : Nat} {operator : Token}
      {left right : List Token} {leftNode rightNode : Node}
      (hOperator : operator.kind ∈ binaryOperatorsAt level)
      (hLeft : Expression level left leftNode)
      (hRight : Expression (level + 1) right rightNode) :
      Expression level (left ++ operator :: right)
        (.binary operator.toMark leftNode operator.literal
          rightNode)
  | unary {operator : Token} {operand : List Token} {node : Node}
      (hOperator : operator.kind ∈ unaryOperators)
      (hOperand : Expression unaryLevel operand node) :
      Expression unaryLevel (operator :: operand)
        (.unary operator.toMark operator.literal node)
  | call {opening closing : Token} {callee tokens : List Token}
      {calleeNode : Node} {nodes : List Node}
      (hCallee : Expression callLevel callee calleeNode)
      (hOpening : opening.kind = .lparen)
      (hArguments : Arguments tokens nodes)
      (hClosing : closing.kind = .rparen) :
      Expression callLevel
        (callee ++ opening :: (tokens ++ [closing]))
        (.call opening.toMark calleeNode nodes)
  | primary {tokens : List Token} {node : Node}
      (hPrimary : Primary tokens node) :
      Expression callLevel tokens node

/- The expressions that take no operators. -/
inductive Primary : List Token → Node → Prop where
  | identifier {token : Token}
      (hKind : token.kind = .ident) :
      Primary [token] (.identifier ⟨token.toMark, token.literal⟩)
  | string {token : Token}
      (hKind : token.kind = .string) :
      Primary [token] (.string token.toMark token.literal)
  | integer {token : Token} {value : Int}
      (hKind : token.kind = .int)
      (hValue : Numeral.read? token.literal = some value)
      (hRange : Word64.inRange value = true) :
      Primary [token] (.integer token.toMark value)
  | boolean {token : Token} {value : Bool}
      (hKind : token.kind = .trueWord ∨ token.kind = .falseWord)
      (hValue : token.literal = if value then "true" else "false") :
      Primary [token] (.boolean token.toMark value)
  | grouped {opening closing : Token} {tokens : List Token}
      {node : Node}
      (hOpening : opening.kind = .lparen)
      (hInner : Expression anyLevel tokens node)
      (hClosing : closing.kind = .rparen) :
      Primary (opening :: (tokens ++ [closing])) node
  | ifThen {word opening closing : Token}
      {condition consequence : List Token}
      {conditionNode consequenceNode : Node}
      (hWord : word.kind = .ifWord)
      (hOpening : opening.kind = .lparen)
      (hCondition : Expression anyLevel condition conditionNode)
      (hClosing : closing.kind = .rparen)
      (hConsequence : Block consequence consequenceNode) :
      Primary (word :: opening ::
          (condition ++ closing :: consequence))
        (.ifThen word.toMark conditionNode consequenceNode)
  | ifElse {word opening closing other : Token}
      {condition consequence alternative : List Token}
      {conditionNode consequenceNode alternativeNode : Node}
      (hWord : word.kind = .ifWord)
      (hOpening : opening.kind = .lparen)
      (hCondition : Expression anyLevel condition conditionNode)
      (hClosing : closing.kind = .rparen)
      (hConsequence : Block consequence consequenceNode)
      (hOther : other.kind = .elseWord)
      (hAlternative : Block alternative alternativeNode) :
      Primary (word :: opening ::
          (condition ++ closing ::
            (consequence ++ other :: alternative)))
        (.ifElse word.toMark conditionNode consequenceNode
          alternativeNode)
  | function {word opening closing : Token}
      {parameters body : List Token}
      {names : List Identifier} {bodyNode : Node}
      (hWord : word.kind = .fnWord)
      (hOpening : opening.kind = .lparen)
      (hParameters : Names parameters names)
      (hClosing : closing.kind = .rparen)
      (hBody : Block body bodyNode) :
      Primary (word :: opening :: (parameters ++ closing :: body))
        (.function word.toMark (names.map .identifier) bodyNode)

/- Arguments, with commas between them. -/
inductive Arguments : List Token → List Node → Prop where
  | none :
      Arguments [] []
  | some {tokens others : List Token} {node : Node}
      {nodes : List Node}
      (hFirst : Expression anyLevel tokens node)
      (hMore : MoreArguments others nodes) :
      Arguments (tokens ++ others) (node :: nodes)

/- Arguments that follow, each after a comma. -/
inductive MoreArguments : List Token → List Node → Prop where
  | none :
      MoreArguments [] []
  | more {comma : Token} {tokens others : List Token}
      {node : Node} {nodes : List Node}
      (hComma : comma.kind = .comma)
      (hNext : Expression anyLevel tokens node)
      (hMore : MoreArguments others nodes) :
      MoreArguments (comma :: (tokens ++ others)) (node :: nodes)

/- Statements in braces. -/
inductive Block : List Token → Node → Prop where
  | intro {opening closing : Token} {tokens : List Token}
      {nodes : List Node}
      (hOpening : opening.kind = .lbrace)
      (hStatements : Statements tokens nodes)
      (hClosing : closing.kind = .rbrace) :
      Block (opening :: (tokens ++ [closing]))
        (.block opening.toMark nodes)

/- A statement, without the semicolon that may end it. -/
inductive Statement : List Token → Node → Prop where
  | letStatement {word name sign : Token} {value : List Token}
      {node : Node}
      (hWord : word.kind = .letWord)
      (hName : name.kind = .ident)
      (hSign : sign.kind = .assign)
      (hValue : Expression anyLevel value node) :
      Statement (word :: name :: sign :: value)
        (.letStatement word.toMark
          (.identifier ⟨name.toMark, name.literal⟩) node)
  | returnStatement {word : Token} {value : List Token}
      {node : Node}
      (hWord : word.kind = .returnWord)
      (hValue : Expression anyLevel value node) :
      Statement (word :: value) (.returnStatement word.toMark node)
  | expression {token : Token} {tokens : List Token} {node : Node}
      (hExpression : Expression anyLevel (token :: tokens) node) :
      Statement (token :: tokens)
        (.expressionStatement token.toMark node)
  | block {tokens : List Token} {node : Node}
      (hBlock : Block tokens node) :
      Statement tokens node

/-
  Statements in a row. A semicolon may end each of them, and it
  has to if what follows would extend the statement.
-/
inductive Statements : List Token → List Node → Prop where
  | none :
      Statements [] []
  | ended {semicolon : Token} {tokens others : List Token}
      {node : Node} {nodes : List Node}
      (hStatement : Statement tokens node)
      (hSemicolon : semicolon.kind = .semicolon)
      (hOthers : Statements others nodes) :
      Statements (tokens ++ semicolon :: others) (node :: nodes)
  | unended {tokens others : List Token}
      {node : Node} {nodes : List Node}
      (hStatement : Statement tokens node)
      (hOthers : Statements others nodes)
      (hNext : ∀ next ∈ others.head?, MayFollow node next.kind) :
      Statements (tokens ++ others) (node :: nodes)

end

------------------------------------------------------------
-- First Tokens
------------------------------------------------------------

theorem opening?_of_mem_unaryOperators
    {kind : TokenKind}
    (hKind : kind ∈ unaryOperators) :
    opening? kind = some .unary := by
  revert hKind
  cases kind <;> decide

/- The kinds of tokens that open an expression in some way. -/
theorem kind_of_opening?
    {kind : TokenKind}
    {opening : Opening}
    (hOpening : opening? kind = some opening) :
    match opening with
    | .identifier => kind = .ident
    | .integer => kind = .int
    | .string => kind = .string
    | .boolean => kind = .trueWord ∨ kind = .falseWord
    | .unary => kind ∈ unaryOperators
    | .grouped => kind = .lparen
    | .ifExpression => kind = .ifWord
    | .functionLiteral => kind = .fnWord := by
  revert hOpening
  cases kind <;> cases opening <;> decide

theorem mem_binaryOperators_of_binary
    {kind : TokenKind}
    (hExtension : extension? kind = some .binary) :
    kind ∈ binaryOperators := by
  revert hExtension
  cases kind <;> decide

theorem Primary.exists_head
    {tokens : List Token}
    {node : Node}
    (hPrimary : Primary tokens node) :
    ∃ token rest,
      tokens = token :: rest ∧ (opening? token.kind).isSome := by
  cases hPrimary with
  | identifier hKind => exact ⟨_, _, rfl, by rw [hKind]; decide⟩
  | string hKind => exact ⟨_, _, rfl, by rw [hKind]; decide⟩
  | integer hKind => exact ⟨_, _, rfl, by rw [hKind]; decide⟩
  | boolean hKind =>
      refine ⟨_, _, rfl, ?_⟩
      rcases hKind with hKind | hKind <;> rw [hKind] <;> decide
  | grouped hOpening => exact ⟨_, _, rfl, by rw [hOpening]; decide⟩
  | ifThen hWord => exact ⟨_, _, rfl, by rw [hWord]; decide⟩
  | ifElse hWord => exact ⟨_, _, rfl, by rw [hWord]; decide⟩
  | function hWord => exact ⟨_, _, rfl, by rw [hWord]; decide⟩

/- An expression starts with a token that opens one. -/
theorem Expression.exists_head
    {level : Nat}
    {tokens : List Token}
    {node : Node} :
    Expression level tokens node →
      ∃ token rest,
        tokens = token :: rest ∧ (opening? token.kind).isSome
  | .tighter hTighter => hTighter.exists_head
  | .binary _ hLeft _ => by
      rcases hLeft.exists_head with ⟨token, rest, rfl, hOpens⟩
      exact ⟨token, _, rfl, hOpens⟩
  | .unary hOperator _ =>
      ⟨_, _, rfl, by simp [opening?_of_mem_unaryOperators hOperator]⟩
  | .call hCallee _ _ _ => by
      rcases hCallee.exists_head with ⟨token, rest, rfl, hOpens⟩
      exact ⟨token, _, rfl, hOpens⟩
  | .primary hPrimary => hPrimary.exists_head

/- Whether a kind of token starts a statement. -/
def startsStatement
    (kind : TokenKind) :
    Bool :=
  (opening? kind).isSome ||
    [.letWord, .returnWord, .lbrace].contains kind

theorem Block.exists_head
    {tokens : List Token}
    {node : Node}
    (hBlock : Block tokens node) :
    ∃ token rest, tokens = token :: rest ∧ token.kind = .lbrace := by
  cases hBlock with
  | intro hOpening => exact ⟨_, _, rfl, hOpening⟩

theorem Statement.exists_head
    {tokens : List Token}
    {node : Node}
    (hStatement : Statement tokens node) :
    ∃ token rest,
      tokens = token :: rest ∧ startsStatement token.kind = true := by
  cases hStatement with
  | letStatement hWord =>
      exact ⟨_, _, rfl, by rw [hWord]; decide⟩
  | returnStatement hWord =>
      exact ⟨_, _, rfl, by rw [hWord]; decide⟩
  | expression hExpression =>
      rcases hExpression.exists_head with ⟨token, rest, hShape, hOpens⟩
      rw [hShape]
      exact ⟨token, rest, rfl, by simp [startsStatement, hOpens]⟩
  | block hBlock =>
      rcases hBlock.exists_head with ⟨token, rest, rfl, hKind⟩
      exact ⟨token, rest, rfl, by rw [hKind]; decide⟩

/- Several statements start like the first of them. -/
theorem Statements.startsStatement_head
    {tokens : List Token}
    {nodes : List Node}
    (hStatements : Statements tokens nodes) :
    ∀ token ∈ tokens.head?, startsStatement token.kind = true := by
  cases hStatements with
  | none => simp
  | ended hStatement =>
      rcases hStatement.exists_head with ⟨token, rest, rfl, hStarts⟩
      simpa using hStarts
  | unended hStatement =>
      rcases hStatement.exists_head with ⟨token, rest, rfl, hStarts⟩
      simpa using hStarts

/-
  What starts a statement ends no list of statements, is no
  semicolon and goes on with no conditional. It extends an
  expression only if it is one of two tokens.
-/
theorem kind_of_startsStatement
    {kind : TokenKind}
    (hStarts : startsStatement kind = true) :
    kind ≠ .semicolon ∧ kind ≠ .rbrace ∧ kind ≠ .eof ∧
      kind ≠ .elseWord ∧
      (kind ≠ .lparen → kind ≠ .minus →
        precedenceOf kind = .lowest) := by
  revert hStarts
  cases kind <;> decide

------------------------------------------------------------
-- Tokens Inside
------------------------------------------------------------

/-
  The kinds of tokens that occur inside a program: neither the
  end of input nor what no token starts with.
-/
def isProper
    (kind : TokenKind) :
    Bool :=
  kind != .eof && kind != .illegal

theorem ne_eof_of_isProper
    {kind : TokenKind}
    (hProper : isProper kind = true) :
    kind ≠ .eof := by
  rintro rfl
  cases hProper

theorem isProper_of_mem_binaryOperatorsAt
    {level : Nat}
    {kind : TokenKind}
    (hKind : kind ∈ binaryOperatorsAt level) :
    isProper kind = true := by
  unfold binaryOperatorsAt at hKind
  split at hKind <;> revert hKind <;> cases kind <;> decide

theorem ne_eof_of_mem_binaryOperatorsAt
    {level : Nat}
    {kind : TokenKind}
    (hKind : kind ∈ binaryOperatorsAt level) :
    kind ≠ .eof :=
  ne_eof_of_isProper (isProper_of_mem_binaryOperatorsAt hKind)

theorem isProper_of_mem_unaryOperators
    {kind : TokenKind}
    (hKind : kind ∈ unaryOperators) :
    isProper kind = true := by
  revert hKind
  cases kind <;> decide

theorem ne_eof_of_mem_unaryOperators
    {kind : TokenKind}
    (hKind : kind ∈ unaryOperators) :
    kind ≠ .eof :=
  ne_eof_of_isProper (isProper_of_mem_unaryOperators hKind)

theorem MoreNames.proper
    {tokens : List Token}
    {names : List Identifier}
    (hNames : MoreNames tokens names) :
    ∀ token ∈ tokens, isProper token.kind = true := by
  induction hNames with
  | none => simp
  | more hComma hName _ ih => simpa [isProper, hComma, hName] using ih

theorem Names.proper
    {tokens : List Token}
    {names : List Identifier}
    (hNames : Names tokens names) :
    ∀ token ∈ tokens, isProper token.kind = true := by
  cases hNames with
  | none => simp
  | some hName hMore => simpa [isProper, hName] using hMore.proper

mutual

theorem Expression.proper
    {level : Nat}
    {tokens : List Token}
    {node : Node} :
    Expression level tokens node →
      ∀ token ∈ tokens, isProper token.kind = true
  | .tighter hTighter => hTighter.proper
  | .binary hOperator hLeft hRight => by
      have hKind := isProper_of_mem_binaryOperatorsAt hOperator
      simp only [List.forall_mem_append, List.forall_mem_cons]
      exact ⟨hLeft.proper, hKind, hRight.proper⟩
  | .unary hOperator hOperand => by
      have hKind := isProper_of_mem_unaryOperators hOperator
      simp only [List.forall_mem_cons]
      exact ⟨hKind, hOperand.proper⟩
  | .call hCallee hOpening hArguments hClosing => by
      simp only [List.forall_mem_append, List.forall_mem_cons]
      exact ⟨hCallee.proper, by simp [isProper, hOpening],
        hArguments.proper, by simp [isProper, hClosing]⟩
  | .primary hPrimary => hPrimary.proper

theorem Primary.proper
    {tokens : List Token}
    {node : Node} :
    Primary tokens node → ∀ token ∈ tokens, isProper token.kind = true
  | .identifier hKind => by simp [isProper, hKind]
  | .string hKind => by simp [isProper, hKind]
  | .integer hKind _ _ => by simp [isProper, hKind]
  | .boolean hKind _ => by
      rcases hKind with hKind | hKind <;> simp [isProper, hKind]
  | .grouped hOpening hInner hClosing => by
      simp only [List.forall_mem_append, List.forall_mem_cons]
      exact ⟨by simp [isProper, hOpening], hInner.proper, by simp [isProper, hClosing]⟩
  | .ifThen hWord hOpening hCondition hClosing hConsequence => by
      simp only [List.forall_mem_append, List.forall_mem_cons]
      exact ⟨by simp [isProper, hWord], by simp [isProper, hOpening],
        hCondition.proper, by simp [isProper, hClosing], hConsequence.proper⟩
  | .ifElse hWord hOpening hCondition hClosing hConsequence hOther
      hAlternative => by
      simp only [List.forall_mem_append, List.forall_mem_cons]
      exact ⟨by simp [isProper, hWord], by simp [isProper, hOpening],
        hCondition.proper, by simp [isProper, hClosing],
        hConsequence.proper, by simp [isProper, hOther], hAlternative.proper⟩
  | .function hWord hOpening hParameters hClosing hBody => by
      simp only [List.forall_mem_append, List.forall_mem_cons]
      exact ⟨by simp [isProper, hWord], by simp [isProper, hOpening],
        hParameters.proper, by simp [isProper, hClosing], hBody.proper⟩

theorem Arguments.proper
    {tokens : List Token}
    {nodes : List Node} :
    Arguments tokens nodes → ∀ token ∈ tokens, isProper token.kind = true
  | .none => by simp
  | .some hFirst hMore => by
      simp only [List.forall_mem_append]
      exact ⟨hFirst.proper, hMore.proper⟩

theorem MoreArguments.proper
    {tokens : List Token}
    {nodes : List Node} :
    MoreArguments tokens nodes →
      ∀ token ∈ tokens, isProper token.kind = true
  | .none => by simp
  | .more hComma hNext hMore => by
      simp only [List.forall_mem_append, List.forall_mem_cons]
      exact ⟨by simp [isProper, hComma], hNext.proper, hMore.proper⟩

theorem Block.proper
    {tokens : List Token}
    {node : Node} :
    Block tokens node → ∀ token ∈ tokens, isProper token.kind = true
  | .intro hOpening hStatements hClosing => by
      simp only [List.forall_mem_append, List.forall_mem_cons]
      exact ⟨by simp [isProper, hOpening], hStatements.proper,
        by simp [isProper, hClosing]⟩

theorem Statement.proper
    {tokens : List Token}
    {node : Node} :
    Statement tokens node → ∀ token ∈ tokens, isProper token.kind = true
  | .letStatement hWord hName hSign hValue => by
      simpa [isProper, hWord, hName, hSign] using hValue.proper
  | .returnStatement hWord hValue => by
      simpa [isProper, hWord] using hValue.proper
  | .expression hExpression => hExpression.proper
  | .block hBlock => hBlock.proper

/- The tokens of a derivation are all proper. -/
theorem Statements.proper
    {tokens : List Token}
    {nodes : List Node} :
    Statements tokens nodes → ∀ token ∈ tokens, isProper token.kind = true
  | .none => by simp
  | .ended hStatement hSemicolon hOthers => by
      simp only [List.forall_mem_append, List.forall_mem_cons]
      exact ⟨hStatement.proper, by simp [isProper, hSemicolon], hOthers.proper⟩
  | .unended hStatement hOthers _ => by
      simp only [List.forall_mem_append]
      exact ⟨hStatement.proper, hOthers.proper⟩

end

/- No token of a derivation is an end of input. -/
theorem Statements.ne_eof
    {tokens : List Token}
    {nodes : List Node}
    (hStatements : Statements tokens nodes) :
    ∀ token ∈ tokens, token.kind ≠ .eof :=
  fun token hMem => ne_eof_of_isProper (hStatements.proper token hMem)

end Grammar

end MonkeyLang
