import MonkeyLang.Proofs.Lexing.Layout
import MonkeyLang.Proofs.Parsing.Correspondence

/-
  Where tokens stand does not matter to the parser: from tokens
  with the same contents it builds the same trees, and finds
  errors with the same causes. Hence all layouts of the same
  lexemes are the same program.

  Main declarations:
    * `Correspondence.contents`      (tokens up to their places)
    * `parseTokens_of_same_contents`
    * `Layout.parse_same`
-/

------------------------------------------------------------
-- Equality up to Marks
------------------------------------------------------------

namespace MonkeyLang

theorem Node.sameAll_iff
    {firsts seconds : List Node} :
    Node.sameAll firsts seconds = true ↔
      List.Forall₂ (fun a b => Node.same a b = true) firsts
        seconds := by
  induction firsts generalizing seconds with
  | nil => cases seconds <;> simp [Node.sameAll]
  | cons first firsts ih =>
      cases seconds with
      | nil => simp [Node.sameAll]
      | cons second seconds => simp [Node.sameAll, ih]

theorem Node.sameAll_identifiers
    {firsts seconds : List Identifier}
    (hNames :
      List.Forall₂ (fun a b => a.name = b.name) firsts seconds) :
    Node.sameAll (firsts.map .identifier)
      (seconds.map .identifier) = true := by
  rw [Node.sameAll_iff, List.forall₂_map_left_iff,
    List.forall₂_map_right_iff]
  exact hNames.imp fun _ _ hName => by simp [Node.same, hName]

------------------------------------------------------------
-- Tokens with the Same Contents
------------------------------------------------------------

theorem Token.kind_of_content
    {first second : Token}
    (hContent : first.content = second.content) :
    first.kind = second.kind :=
  congrArg Prod.fst hContent

theorem Token.literal_of_content
    {first second : Token}
    (hContent : first.content = second.content) :
    first.literal = second.literal :=
  congrArg Prod.snd hContent

/- Tokens correspond by their contents, and nodes up to marks. -/
def Correspondence.contents : Correspondence where
  token a b := a.content = b.content
  name a b := a.name = b.name
  expression a b := a.same b = true
  block a b := a.same b = true
  statement a b := a.same b = true
  kind hToken := Token.kind_of_content hToken
  literal hToken _ := Token.literal_of_content hToken
  nameOf hToken _ := Token.literal_of_content hToken
  identifier hName := by simp [Node.same, hName]
  integer _ _ _ := by simp [Node.same]
  boolean _ _ := by simp [Node.same]
  string hToken _ := by
    simp [Node.same, Token.literal_of_content hToken]
  unary hToken _ hRight := by
    simp [Node.same, Token.literal_of_content hToken, hRight]
  binary hToken _ hLeft hRight := by
    simp [Node.same, Token.literal_of_content hToken, hLeft, hRight]
  ifThen _ hTest hBody := by simp [Node.same, hTest, hBody]
  ifElse _ hTest hBody hOther := by
    simp [Node.same, hTest, hBody, hOther]
  function _ _ hNames hBody := by
    simp [Node.same, Node.sameAll_identifiers hNames, hBody]
  call _ hCallee hArguments := by
    simp [Node.same, hCallee, Node.sameAll_iff.mpr hArguments]
  letStatement _ _ hName hValue := by simp [Node.same, hName, hValue]
  returnStatement _ _ hValue := by simp [Node.same, hValue]
  expressionStatement _ hInner := by simp [Node.same, hInner]
  blockOf _ hNodes := by simp [Node.same, Node.sameAll_iff.mpr hNodes]
  blockStatement hBlock := hBlock

/- Behind the tokens the input has ended, whatever they are. -/
theorem ParserState.content_ending_ofTokens
    (tokens : List Token) :
    (ofTokens tokens).ending.content = (.eof, "") := by
  simp only [ofTokens]
  split
  · rfl
  · rfl

theorem ParserState.content_endings
    (tokens others : List Token) :
    (ofTokens tokens).ending.content =
      (ofTokens others).ending.content := by
  rw [content_ending_ofTokens, content_ending_ofTokens]

theorem Token.forall₂_content
    {tokens others : List Token}
    (hContents :
      tokens.map Token.content = others.map Token.content) :
    List.Forall₂ (fun a b : Token => a.content = b.content) tokens
      others := by
  rw [← List.forall₂_map_right_iff, ← List.forall₂_map_left_iff,
    List.forall₂_eq_eq_eq]
  exact hContents

theorem parseTokens_of_same_contents
    {tokens others : List Token}
    (hContents :
      tokens.map Token.content = others.map Token.content) :
    (parseTokens tokens).program.same (parseTokens others).program =
        true ∧
      (parseTokens tokens).errors.map SyntaxError.cause =
        (parseTokens others).errors.map SyntaxError.cause := by
  have hTokens :
      List.Forall₂ Correspondence.contents.token tokens others :=
    Token.forall₂_content hContents
  have hEnding :
      Correspondence.contents.token
        (ParserState.ofTokens tokens).ending
        (ParserState.ofTokens others).ending :=
    ParserState.content_endings tokens others
  rcases
      Correspondence.contents.parseTokens_alike hTokens hEnding with
    ⟨hStatements, hErrors⟩
  exact ⟨Node.sameAll_iff.mpr hStatements, hErrors⟩

------------------------------------------------------------
-- Layouts of the Same Lexemes
------------------------------------------------------------

/-
  From every layout the lexemes are read back, and two layouts
  of the same lexemes are the same program up to marks, with
  the same errors up to their places.
-/
theorem Layout.parse_same
    {lexemes : List WrittenLexeme}
    (first second : Layout lexemes) :
    (tokenize first.text).map Token.content =
        lexemes.map WrittenLexeme.content ++ [(.eof, "")] ∧
      (parse first.text).program.same (parse second.text).program =
        true ∧
      (parse first.text).errors.map SyntaxError.cause =
        (parse second.text).errors.map SyntaxError.cause := by
  refine ⟨first.contents_text, parseTokens_of_same_contents ?_⟩
  rw [first.contents_text, second.contents_text]

end MonkeyLang
