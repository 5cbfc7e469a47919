import MonkeyLang.Proofs.Lexing.Number
import MonkeyLang.Proofs.Lexing.Tokenization
import MonkeyLang.Proofs.Parsing.Correspondence

/-
  The trees whose text can be read back. Whatever a source is,
  with or without syntax errors, the parser only builds such
  trees from it.

  Main declarations:
    * `WellFormed.Expression`, `.Block`, `.Statement`
    * `Token.Genuine`                 (what the tokens of a source are like)
    * `WellFormed.statement_of_parse`
-/

------------------------------------------------------------
-- Well-Formed Trees
------------------------------------------------------------

namespace MonkeyLang

namespace WellFormed

/- A name that is read as an identifier: a word, but no keyword. -/
def IsName
    (name : String) :
    Prop :=
  IsWord name.toList ∧ ∀ kind, (name, kind) ∉ keywords

mutual

/-
  An expression with operands that are expressions and with
  bodies that are blocks. Its names, values and operators are
  those that a source can contain, and the literals from which
  it is printed are those of its values.
-/
inductive Expression : Node → Prop where
  | identifier {id : Identifier}
      (hName : IsName id.name) :
      Expression (.identifier id)
  | integer {mark : Mark} {value : Int}
      (hNumber : IsNumber mark.literal.toList)
      (hValue : Numeral.read? mark.literal = some value)
      (hLow : 0 ≤ value)
      (hHigh : value ≤ Word64.maximum) :
      Expression (.integer mark value)
  | boolean {mark : Mark} {value : Bool}
      (hLiteral : mark.literal = if value then "true" else "false") :
      Expression (.boolean mark value)
  | string {mark : Mark} {value : String}
      (hContent : '"' ∉ value.toList) :
      Expression (.string mark value)
  | unary {mark : Mark} {operator : String} {right : Node}
      (hOperator : operator = "!" ∨ operator = "-")
      (hRight : Expression right) :
      Expression (.unary mark operator right)
  | binary {mark : Mark} {operator : String} {left right : Node}
      (hOperator : operator ∈ binaryOperators.map TokenKind.label)
      (hLeft : Expression left)
      (hRight : Expression right) :
      Expression (.binary mark left operator right)
  | ifThen {mark : Mark} {condition consequence : Node}
      (hCondition : Expression condition)
      (hConsequence : Block consequence) :
      Expression (.ifThen mark condition consequence)
  | ifElse {mark : Mark}
      {condition consequence alternative : Node}
      (hCondition : Expression condition)
      (hConsequence : Block consequence)
      (hAlternative : Block alternative) :
      Expression (.ifElse mark condition consequence alternative)
  | function {mark : Mark} {names : List Identifier} {body : Node}
      (hWord : mark.literal = "fn")
      (hNames : ∀ id ∈ names, IsName id.name)
      (hBody : Block body) :
      Expression (.function mark (names.map .identifier) body)
  | call {mark : Mark} {callee : Node} {arguments : List Node}
      (hCallee : Expression callee)
      (hArguments : ∀ argument ∈ arguments, Expression argument) :
      Expression (.call mark callee arguments)

/- A block of statements. -/
inductive Block : Node → Prop where
  | intro {mark : Mark} {statements : List Node}
      (hStatements : ∀ statement ∈ statements, Statement statement) :
      Block (.block mark statements)

/- A statement that is printed with its own keyword. -/
inductive Statement : Node → Prop where
  | letStatement {mark : Mark} {id : Identifier} {value : Node}
      (hWord : mark.literal = "let")
      (hName : IsName id.name)
      (hValue : Expression value) :
      Statement (.letStatement mark (.identifier id) value)
  | returnStatement {mark : Mark} {value : Node}
      (hWord : mark.literal = "return")
      (hValue : Expression value) :
      Statement (.returnStatement mark value)
  | expression {mark : Mark} {inner : Node}
      (hInner : Expression inner) :
      Statement (.expressionStatement mark inner)
  | block {node : Node}
      (hBlock : Block node) :
      Statement node

end

end WellFormed

------------------------------------------------------------
-- Tokens of a Source
------------------------------------------------------------

/-
  What the literal of a token that comes from a source is like,
  by the kind of the token.
-/
structure Token.Genuine
    (token : Token) :
    Prop where
  name : token.kind = .ident → WellFormed.IsName token.literal
  number : token.kind = .int → IsNumber token.literal.toList
  string : token.kind = .string → '"' ∉ token.literal.toList
  spelling :
    ∀ text, (text, token.kind) ∈ spellings → token.literal = text

/- The kinds that have no spelling of their own. -/
theorem not_mem_spellings
    {kind : TokenKind}
    (hKind : kind ∈ [.ident, .int, .string, .illegal, .eof])
    (text : String) :
    (text, kind) ∉ spellings := by
  have hKinds : kind ∉ spellings.map Prod.snd := by
    revert hKind
    cases kind <;> decide
  exact fun hText => hKinds (List.mem_map_of_mem hText)

/- No kind has two spellings. -/
theorem spellings_unique :
    ∀ first ∈ spellings, ∀ second ∈ spellings,
      first.2 = second.2 → first.1 = second.1 := by
  decide

/- A token with a spelling of its own is genuine if it has that. -/
theorem Token.Genuine.of_spelling
    {token : Token}
    (hSpelling : (token.literal, token.kind) ∈ spellings) :
    token.Genuine := by
  have hOther :
      ∀ kind ∈ [TokenKind.ident, .int, .string, .illegal, .eof],
        token.kind ≠ kind :=
    fun kind hKind hSame =>
      not_mem_spellings (hSame ▸ hKind) _ hSpelling
  exact
    { name := fun hKind => absurd hKind (hOther _ (by simp))
      number := fun hKind => absurd hKind (hOther _ (by simp))
      string := fun hKind => absurd hKind (hOther _ (by simp))
      spelling := fun text hText =>
        spellings_unique _ hSpelling _ hText rfl }

/- Of some tokens nothing is required. -/
theorem genuine_of_other
    {token : Token}
    (hKind : token.kind = .illegal ∨ token.kind = .eof) :
    token.Genuine := by
  rcases hKind with hKind | hKind <;>
    exact
      { name := fun hOther => by simp [hKind] at hOther
        number := fun hOther => by simp [hKind] at hOther
        string := fun hOther => by simp [hKind] at hOther
        spelling := fun text hText =>
          absurd hText (not_mem_spellings (by simp [hKind]) text) }

/- Lexemes make genuine tokens. -/
theorem genuine_of_spelled
    {before literal source : List Char}
    {kind : TokenKind}
    (hSpelled : Spelled kind literal source) :
    (tokenAfter before kind literal).Genuine := by
  cases hSpelled with
  | @keyword word kind hKeyword =>
      refine .of_spelling (List.mem_append_right _ ?_)
      simpa [tokenAfter] using hKeyword
  | symbol hSymbol =>
      refine .of_spelling (List.mem_append_left _ ?_)
      simpa [tokenAfter, symbols, symbolKinds] using hSymbol
  | identifier hWord hFree =>
      exact
        { name := fun _ => ⟨by simpa [tokenAfter] using hWord, hFree⟩
          number := fun hKind => by simp at hKind
          string := fun hKind => by simp at hKind
          spelling := fun text hText =>
            absurd hText (not_mem_spellings (by simp) text) }
  | number hNumber =>
      exact
        { name := fun hKind => by simp at hKind
          number := fun _ => by simpa [tokenAfter] using hNumber
          string := fun hKind => by simp at hKind
          spelling := fun text hText =>
            absurd hText (not_mem_spellings (by simp) text) }
  | string hContent =>
      exact
        { name := fun hKind => by simp at hKind
          number := fun hKind => by simp at hKind
          string := fun _ => by simpa [tokenAfter] using hContent
          spelling := fun text hText =>
            absurd hText (not_mem_spellings (by simp) text) }
  | stray => exact genuine_of_other (by simp)

/- All tokens of a source are genuine. -/
theorem Lexed.genuine
    {before text : List Char}
    {tokens : List Token}
    (hLexed : Lexed before text tokens) :
    ∀ token ∈ tokens, token.Genuine := by
  induction hLexed with
  | finish hGap =>
      simp only [List.mem_singleton, forall_eq]
      exact genuine_of_other (.inr rfl)
  | token hGap hRecognised _ ih =>
      simp only [List.forall_mem_cons]
      refine ⟨?_, ih⟩
      cases hRecognised with
      | whole hSpelled => exact genuine_of_spelled hSpelled
      | unended => exact genuine_of_other (.inl rfl)

------------------------------------------------------------
-- What the Parser Builds
------------------------------------------------------------

theorem literal_of_unaryOperator
    {token : Token}
    (hGenuine : token.Genuine)
    (hKind : token.kind ∈ Grammar.unaryOperators) :
    token.literal = "!" ∨ token.literal = "-" := by
  simp only [Grammar.unaryOperators, List.mem_cons,
    List.not_mem_nil, or_false] at hKind
  rcases hKind with hKind | hKind
  · exact .inl (hGenuine.spelling "!" (by rw [hKind]; decide))
  · exact .inr (hGenuine.spelling "-" (by rw [hKind]; decide))

theorem literal_of_binaryOperator
    {token : Token}
    (hGenuine : token.Genuine)
    (hKind : token.kind ∈ binaryOperators) :
    token.literal ∈ binaryOperators.map TokenKind.label := by
  have hSpelling : (token.kind.label, token.kind) ∈ spellings := by
    refine List.mem_append_left _ (List.mem_map_of_mem ?_)
    exact List.mem_append_right _ hKind
  rw [hGenuine.spelling _ hSpelling]
  exact List.mem_map_of_mem hKind

/-
  From genuine tokens only well-formed nodes are built. The
  correspondence is that of a run with itself.
-/
def Correspondence.wellFormed : Correspondence where
  token a b := a = b ∧ a.Genuine
  name a _ := WellFormed.IsName a.name
  expression a _ := WellFormed.Expression a
  block a _ := WellFormed.Block a
  statement a _ := WellFormed.Statement a
  kind hToken := by rw [hToken.1]
  literal hToken _ := by rw [hToken.1]
  nameOf hToken hKind := hToken.2.name hKind
  identifier hName := .identifier hName
  integer hToken hKind hValue := by
    have hNumber := hToken.2.number hKind
    rcases Option.filter_eq_some_iff.mp hValue with ⟨hRead, hRange⟩
    have hHigh := (Bool.and_eq_true _ _).mp hRange
    exact .integer hNumber hRead
      (Numeral.nonneg_of_isNumber hNumber hRead)
      (of_decide_eq_true hHigh.2)
  boolean _ hLiteral := .boolean hLiteral
  string hToken hKind := .string (hToken.2.string hKind)
  unary hToken hKind hRight :=
    .unary (literal_of_unaryOperator hToken.2 hKind) hRight
  binary hToken hKind hLeft hRight :=
    .binary (literal_of_binaryOperator hToken.2 hKind) hLeft hRight
  ifThen _ hTest hBody := .ifThen hTest hBody
  ifElse _ hTest hBody hOther := .ifElse hTest hBody hOther
  function hToken hKind hNames hBody :=
    .function (hToken.2.spelling "fn" (by rw [hKind]; decide))
      (forall_mem_of_forall₂ hNames) hBody
  call _ hCallee hArguments :=
    .call hCallee (forall_mem_of_forall₂ hArguments)
  letStatement hToken hKind hName hValue :=
    .letStatement (hToken.2.spelling "let" (by rw [hKind]; decide))
      hName hValue
  returnStatement hToken hKind hValue :=
    .returnStatement
      (hToken.2.spelling "return" (by rw [hKind]; decide)) hValue
  expressionStatement _ hInner := .expression hInner
  blockOf _ hNodes := .intro (forall_mem_of_forall₂ hNodes)
  blockStatement hBlock := .block hBlock

/-
  Whatever a source is, the statements that are parsed from it
  are well-formed, also if there are errors.
-/
theorem WellFormed.statement_of_parse
    (source : String) :
    ∀ statement ∈ (parse source).statements,
      WellFormed.Statement statement := by
  have hLexed : Lexed [] source.toList (tokenize source) :=
    tokenize_eq_iff_lexed.mp rfl
  have hTokens :
      List.Forall₂ Correspondence.wellFormed.token
        (tokenize source) (tokenize source) :=
    List.forall₂_same.mpr fun token hToken =>
      ⟨rfl, hLexed.genuine token hToken⟩
  have hEnding :
      Correspondence.wellFormed.token
        (ParserState.ofTokens (tokenize source)).ending
        (ParserState.ofTokens (tokenize source)).ending :=
    ⟨rfl, genuine_of_other (.inr (ParserState.ending_kind _))⟩
  exact
    forall_mem_of_forall₂
      (Correspondence.wellFormed.parseTokens_alike hTokens hEnding).1

end MonkeyLang
