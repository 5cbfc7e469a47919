import MonkeyLang.Proofs.Evaluation.Likeness
import MonkeyLang.Proofs.Lexing.Joining
import MonkeyLang.Proofs.Parsing.Acceptance
import MonkeyLang.Proofs.Parsing.Placement

/-
  Sources that are joined line by line. If each has no errors
  and all but the last end with a semicolon, the parser does not
  look past the joints: it finds no errors in the whole, and
  builds the statements of all sources, one after the other.

  Main declarations:
    * `Grammar.Statements.append`
    * `Correspondence.literals`     (tokens up to their places)
    * `EndsWithSemicolon`
    * `parse_joined`
-/

------------------------------------------------------------
-- Derivations
------------------------------------------------------------

namespace MonkeyLang

namespace Grammar

/- Tokens with a last one, which is no semicolon. -/
def Unended
    (tokens : List Token) :
    Prop :=
  ∃ front token, tokens = front ++ [token] ∧ token.kind ≠ .semicolon

theorem Unended.single
    {token : Token}
    {kind : TokenKind}
    (hKind : token.kind = kind)
    (hOther : kind ≠ .semicolon) :
    Unended [token] :=
  ⟨[], token, rfl, hKind ▸ hOther⟩

theorem Unended.append
    {tokens : List Token}
    (hUnended : Unended tokens)
    (front : List Token) :
    Unended (front ++ tokens) := by
  rcases hUnended with ⟨inner, token, rfl, hKind⟩
  exact ⟨front ++ inner, token, by simp, hKind⟩

theorem Unended.cons
    {tokens : List Token}
    (hUnended : Unended tokens)
    (first : Token) :
    Unended (first :: tokens) :=
  hUnended.append [first]

mutual

theorem Block.unended
    {tokens : List Token}
    {node : Node}
    (hBlock : Block tokens node) :
    Unended tokens := by
  cases hBlock with
  | intro _ _ hClosing =>
      have hLast := Unended.single hClosing (by decide)
      exact (hLast.append _).cons _

theorem Primary.unended
    {tokens : List Token}
    {node : Node}
    (hPrimary : Primary tokens node) :
    Unended tokens := by
  cases hPrimary with
  | identifier hKind | string hKind | integer hKind =>
      exact .single hKind (by decide)
  | boolean hKind =>
      rcases hKind with hKind | hKind
      · exact .single hKind (by decide)
      · exact .single hKind (by decide)
  | grouped _ _ hClosing =>
      have hLast := Unended.single hClosing (by decide)
      exact (hLast.append _).cons _
  | ifThen _ _ _ _ hBody | function _ _ _ _ hBody =>
      exact (((hBody.unended.cons _).append _).cons _).cons _
  | ifElse _ _ _ _ _ _ hOther =>
      exact (((((hOther.unended.cons _).append _).cons _).append
        _).cons _).cons _

theorem Expression.unended
    {level : Nat}
    {tokens : List Token}
    {node : Node} :
    Expression level tokens node → Unended tokens
  | .tighter hTighter => hTighter.unended
  | .binary _ _ hRight => (hRight.unended.cons _).append _
  | .unary _ hOperand => hOperand.unended.cons _
  | .call _ _ _ hClosing =>
      have hLast := Unended.single hClosing (by decide)
      ((hLast.append _).cons _).append _
  | .primary hPrimary => hPrimary.unended

end

/- No statement has a semicolon as its own last token. -/
theorem Statement.unended
    {tokens : List Token}
    {node : Node}
    (hStatement : Statement tokens node) :
    Unended tokens := by
  cases hStatement with
  | letStatement _ _ _ hValue =>
      exact ((hValue.unended.cons _).cons _).cons _
  | returnStatement _ hValue => exact hValue.unended.cons _
  | expression hExpression => exact hExpression.unended
  | block hBlock => exact hBlock.unended

/-
  Statements of which the last is ended by a semicolon may stand
  in front of any others.
-/
theorem Statements.append
    {tokens others : List Token}
    {nodes more : List Node} :
    Statements tokens nodes →
      (∀ token ∈ tokens.getLast?, token.kind = .semicolon) →
      Statements others more →
        Statements (tokens ++ others) (nodes ++ more)
  | .none, _, hMore => hMore
  | @Statements.ended semicolon front rest node nodes hStatement
      hSemicolon hRest, hLast, hMore => by
      have hInner : Statements (rest ++ others) (nodes ++ more) := by
        apply hRest.append _ hMore
        intro token hToken
        exact hLast token
          (List.mem_getLast?_append_of_mem_getLast?
            (List.mem_getLast?_cons hToken))
      have hWhole := Statements.ended hStatement hSemicolon hInner
      simpa using hWhole
  | @Statements.unended front rest node nodes hStatement hRest
      hNext, hLast, hMore => by
      cases rest with
      | nil =>
          rcases hStatement.unended with ⟨first, token, rfl, hKind⟩
          exact absurd (hLast token (by simp)) hKind
      | cons next rest =>
          have hInner :
              Statements (next :: rest ++ others) (nodes ++ more) := by
            apply hRest.append _ hMore
            intro token hToken
            exact hLast token
              (List.mem_getLast?_append_of_mem_getLast? hToken)
          have hWhole :=
            Statements.unended hStatement hInner (by simpa using hNext)
          simpa using hWhole

end Grammar

------------------------------------------------------------
-- Literals
------------------------------------------------------------

theorem Node.alike_identifiers
    {marks : Mark → Mark → Prop}
    {names names' : List Identifier}
    (hNames :
      List.Forall₂
        (fun a b => Node.Alike marks (.identifier a) (.identifier b))
        names names') :
    List.Forall₂ (Node.Alike marks) (names.map .identifier)
      (names'.map .identifier) := by
  rw [List.forall₂_map_left_iff, List.forall₂_map_right_iff]
  exact hNames

/-
  Tokens correspond by their contents, and trees if their marks
  have the same literals.
-/
def Correspondence.literals : Correspondence where
  token a b := a.content = b.content
  name a b := Node.Alike SameLiteral (.identifier a) (.identifier b)
  expression := Node.Alike SameLiteral
  block := Node.Alike SameLiteral
  statement := Node.Alike SameLiteral
  kind hToken := Token.kind_of_content hToken
  literal hToken _ := Token.literal_of_content hToken
  nameOf {a b} hToken _ := by
    have hLiteral := Token.literal_of_content hToken
    unfold Parse.identifierOf
    rw [hLiteral]
    exact .identifier hLiteral
  identifier hName := hName
  integer hToken _ _ := .integer (Token.literal_of_content hToken)
  boolean hToken _ := .boolean (Token.literal_of_content hToken)
  string hToken _ := by
    have hLiteral := Token.literal_of_content hToken
    rw [hLiteral]
    exact .string hLiteral
  unary hToken _ hRight := by
    have hLiteral := Token.literal_of_content hToken
    rw [hLiteral]
    exact .unary hLiteral hRight
  binary hToken _ hLeft hRight := by
    have hLiteral := Token.literal_of_content hToken
    rw [hLiteral]
    exact .binary hLiteral hLeft hRight
  ifThen hToken := .ifThen (Token.literal_of_content hToken)
  ifElse hToken := .ifElse (Token.literal_of_content hToken)
  function hToken _ hNames hBody :=
    .function (Token.literal_of_content hToken)
      (Node.alike_identifiers hNames) hBody
  call hToken := .call (Token.literal_of_content hToken)
  letStatement hToken _ hName hValue :=
    .letStatement (Token.literal_of_content hToken) hName hValue
  returnStatement hToken _ hValue :=
    .returnStatement (Token.literal_of_content hToken) hValue
  expressionStatement hToken hInner :=
    .expressionStatement (Token.literal_of_content hToken) hInner
  blockOf hToken hNodes :=
    .block (Token.literal_of_content hToken) hNodes
  blockStatement hBlock := hBlock

theorem parseTokens_alike_of_same_contents
    {tokens others : List Token}
    (hContents :
      tokens.map Token.content = others.map Token.content) :
    List.Forall₂ (Node.Alike SameLiteral)
        (parseTokens tokens).statements (parseTokens others).statements ∧
      (parseTokens tokens).errors.map SyntaxError.cause =
        (parseTokens others).errors.map SyntaxError.cause := by
  apply Correspondence.literals.parseTokens_alike
  · exact Token.forall₂_content hContents
  · exact ParserState.content_endings tokens others

------------------------------------------------------------
-- Sources
------------------------------------------------------------

/- The tokens of a text are those in front of the end of input, and it. -/
theorem Lexed.eq_beforeEnd
    {before text : List Char}
    {tokens : List Token}
    (hLexed : Lexed before text tokens) :
    ∃ ending,
      tokens = beforeEnd tokens ++ [ending] ∧
        ending.content = (.eof, "") := by
  induction hLexed with
  | finish => exact ⟨_, rfl, rfl⟩
  | @token _ _ _ _ _ kind tokens _ hRecognised _ ih =>
      rcases ih with ⟨ending, hTokens, hEnding⟩
      have hKind := hRecognised.kind_ne_eof
      refine ⟨ending, ?_, hEnding⟩
      rw [beforeEnd, List.takeWhile_cons, if_pos (by simp [hKind]),
        List.cons_append]
      exact congrArg _ hTokens

theorem tokenize_eq_beforeEnd
    (source : String) :
    ∃ ending,
      tokenize source = beforeEnd (tokenize source) ++ [ending] ∧
        ending.content = (.eof, "") :=
  (tokenize_eq_iff_lexed.mp rfl).eq_beforeEnd

/- A source without errors has no illegal token. -/
theorem legal_of_errors_eq_nil
    {source : String}
    (hErrors : (parse source).errors = []) :
    ∀ token ∈ tokenize source, token.kind ≠ .illegal := by
  have hDerived := derivable_of_errors_eq_nil hErrors
  rcases tokenize_eq_beforeEnd source with
    ⟨ending, hTokens, hEnding⟩
  rw [hTokens]
  simp only [List.forall_mem_append, List.forall_mem_singleton]
  constructor
  · intro token hToken hKind
    have hProper := hDerived.proper token hToken
    rw [hKind] at hProper
    cases hProper
  · rw [show ending.kind = .eof from congrArg Prod.fst hEnding]
    decide

/- The last token in front of the end of input is a semicolon. -/
def EndsWithSemicolon
    (source : String) :
    Prop :=
  ∃ token ∈ (beforeEnd (tokenize source)).getLast?,
    token.kind = .semicolon

/- The tokens of all sources, without the ends of input. -/
def tokensOfAll
    (sources : List String) :
    List Token :=
  sources.flatMap fun source => beforeEnd (tokenize source)

/- The statements of all sources. -/
def statementsOfAll
    (sources : List String) :
    List Node :=
  sources.flatMap fun source => (parse source).statements

/- Sources without errors, of which all but the last end with a semicolon. -/
inductive Joinable : List String → Prop where
  | single {source : String}
      (hErrors : (parse source).errors = []) :
      Joinable [source]
  | cons {source : String} {rest : List String}
      (hErrors : (parse source).errors = [])
      (hEnded : EndsWithSemicolon source)
      (hRest : Joinable rest) :
      Joinable (source :: rest)

theorem Joinable.ne_nil
    {sources : List String}
    (hJoinable : Joinable sources) :
    sources ≠ [] := by
  cases hJoinable <;> simp

theorem join_cons
    {sources : List String}
    (hSources : sources ≠ [])
    (separator source : String) :
    Text.join separator (source :: sources) =
      source ++ separator ++ Text.join separator sources := by
  cases sources with
  | nil => exact absurd rfl hSources
  | cons => rfl

/- No token goes on from one source to the next. -/
theorem Joinable.contents_join
    {sources : List String}
    (hJoinable : Joinable sources) :
    (tokenize (Text.join "\n" sources)).map Token.content =
      (tokensOfAll sources).map Token.content ++ [(.eof, "")] := by
  induction hJoinable with
  | @single source =>
      rcases tokenize_eq_beforeEnd source with
        ⟨ending, hTokens, hEnding⟩
      have hAll : tokensOfAll [source] = beforeEnd (tokenize source) := by
        simp [tokensOfAll]
      rw [Text.join, hAll, ← hEnding, ← List.map_singleton,
        ← List.map_append, ← hTokens]
  | @cons source rest hErrors _ hRest ih =>
      have hLexed : Lexed [] source.toList (tokenize source) :=
        tokenize_eq_iff_lexed.mp rfl
      have hWhole : ∀ token ∈ tokenize source, ¬ token.IsBroken :=
        fun token hToken hBroken =>
          legal_of_errors_eq_nil hErrors token hToken hBroken.1
      have hLine :=
        hLexed.contents_append_line hWhole (Text.join "\n" rest).toList
      have hFront :
          (tokenize source).dropLast = beforeEnd (tokenize source) := by
        rcases tokenize_eq_beforeEnd source with ⟨ending, hTokens, -⟩
        rw [hTokens, List.dropLast_concat, ← hTokens]
      have hText :
          String.ofList
              (source.toList ++ '\n' :: (Text.join "\n" rest).toList) =
            Text.join "\n" (source :: rest) := by
        rw [join_cons hRest.ne_nil, String.toList_inj.symm]
        simp
      rw [contents, contents, hText, String.ofList_toList, ih, hFront]
        at hLine
      rw [hLine, tokensOfAll, tokensOfAll, List.flatMap_cons,
        List.map_append, List.append_assoc]

theorem Joinable.derived
    {sources : List String}
    (hJoinable : Joinable sources) :
    Grammar.Statements (tokensOfAll sources)
      (statementsOfAll sources) := by
  induction hJoinable with
  | single hErrors =>
      have hDerived := derivable_of_errors_eq_nil hErrors
      simpa [tokensOfAll, statementsOfAll, parse] using hDerived
  | cons hErrors hEnded _ ih =>
      have hDerived := derivable_of_errors_eq_nil hErrors
      apply hDerived.append _ ih
      rcases hEnded with ⟨last, hLast, hKind⟩
      intro token hToken
      rw [Option.mem_unique hToken hLast]
      exact hKind

theorem joinable_of_forall
    {sources : List String}
    (hSources : sources ≠ [])
    (hErrors : ∀ source ∈ sources, (parse source).errors = [])
    (hEnded : ∀ source ∈ sources.dropLast, EndsWithSemicolon source) :
    Joinable sources := by
  induction sources with
  | nil => exact absurd rfl hSources
  | cons source rest ih =>
      rw [List.forall_mem_cons] at hErrors
      by_cases hRest : rest = []
      · subst hRest
        exact .single hErrors.1
      · rw [List.dropLast_cons_of_ne_nil hRest,
          List.forall_mem_cons] at hEnded
        exact .cons hErrors.1 hEnded.1 (ih hRest hErrors.2 hEnded.2)

/-
  From sources that are joined line by line, the statements of
  all of them are parsed, and nothing else.
-/
theorem Joinable.parse_join
    {sources : List String}
    (hJoinable : Joinable sources) :
    (parse (Text.join "\n" sources)).errors = [] ∧
      List.Forall₂ (Node.Alike SameLiteral)
        (statementsOfAll sources)
        (parse (Text.join "\n" sources)).statements := by
  let tokens := tokensOfAll sources ++ [Token.endAt 0 0]
  have hBefore : beforeEnd tokens = tokensOfAll sources := by
    apply beforeEnd_append hJoinable.derived.ne_eof
    simp [Token.endAt]
  have hParsed : parseTokens tokens = ⟨statementsOfAll sources, []⟩ := by
    apply parseTokens_of_derivable
    rw [hBefore]
    exact hJoinable.derived
  have hContents :
      tokens.map Token.content =
        (tokenize (Text.join "\n" sources)).map Token.content := by
    rw [hJoinable.contents_join, List.map_append]
    rfl
  have hAlike := parseTokens_alike_of_same_contents hContents
  rw [hParsed] at hAlike
  constructor
  · exact List.map_eq_nil_iff.mp hAlike.2.symm
  · exact hAlike.1

end MonkeyLang
