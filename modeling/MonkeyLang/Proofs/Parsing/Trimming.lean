import MonkeyLang.Proofs.Lexing.Padding
import MonkeyLang.Proofs.Parsing.Joining

/-
  What trimming a line means for its program. The parser does
  not look at places: if tokens move, the errors about them
  move along, and nothing else changes. A blank at an end of
  the line that is a token always is an error.

  Main declarations:
    * `SyntaxError.movedTo`
    * `Correspondence.moved`     (tokens that move)
    * `parseTokens_errors_of_moved`
    * `parse_trim`
-/

------------------------------------------------------------
-- Errors That Move
------------------------------------------------------------

namespace MonkeyLang

/- The error with the same cause at the place where its column goes. -/
def SyntaxError.movedTo
    (place : Int → Int)
    (error : SyntaxError) :
    SyntaxError :=
  { error with column := place error.column }

/- Tokens correspond if one moves to the other; nodes are not compared. -/
def Correspondence.moved
    (place : Int → Int) :
    Correspondence where
  token := Token.MovedTo place
  name _ _ := True
  expression _ _ := True
  block _ _ := True
  statement _ _ := True
  kind hToken := hToken.kind
  literal hToken := hToken.literal
  nameOf _ _ := trivial
  identifier _ := trivial
  integer _ _ _ := trivial
  boolean _ _ := trivial
  string _ _ := trivial
  unary _ _ _ := trivial
  binary _ _ _ _ := trivial
  ifThen _ _ _ := trivial
  ifElse _ _ _ _ := trivial
  function _ _ _ _ := trivial
  call _ _ _ := trivial
  letStatement _ _ _ _ := trivial
  returnStatement _ _ _ := trivial
  expressionStatement _ _ := trivial
  blockOf _ _ := trivial
  blockStatement _ := trivial

variable {place : Int → Int}
variable {tokens others : List Token}

/- If the tokens move, so does what stands for the end of input. -/
theorem ParserState.movedTo_endings
    (hMoved : List.Forall₂ (Token.MovedTo place) tokens others)
    (hTokens : tokens ≠ []) :
    (ofTokens tokens).ending.MovedTo place (ofTokens others).ending := by
  have hReversed := List.forall₂_reverse_iff.mpr hMoved
  have hSome : tokens.reverse ≠ [] := by simpa using hTokens
  simp only [ofTokens, List.getLast?_eq_head?_reverse]
  generalize tokens.reverse = backwards at hReversed hSome ⊢
  generalize others.reverse = backwards' at hReversed ⊢
  cases hReversed with
  | nil => exact absurd rfl hSome
  | cons hLast _ => exact ⟨rfl, fun _ => rfl, hLast.line, hLast.column⟩

/- Errors about tokens that move are the same at their new places. -/
theorem eq_map_movedTo
    {errors errors' : List SyntaxError}
    (hErrors :
      List.Forall₂ (Correspondence.moved place).ErrorAlike errors
        errors') :
    errors' = errors.map (SyntaxError.movedTo place) := by
  induction hErrors with
  | nil => rfl
  | cons hError _ ih =>
      rcases hError with ⟨a, b, cause, hToken, rfl, rfl⟩
      rw [List.map_cons, ← ih]
      simp [SyntaxError.about, SyntaxError.movedTo, hToken.line,
        hToken.column]

theorem parseTokens_errors_of_moved
    (hMoved : List.Forall₂ (Token.MovedTo place) tokens others)
    (hTokens : tokens ≠ []) :
    (parseTokens others).errors =
      (parseTokens tokens).errors.map (SyntaxError.movedTo place) :=
  eq_map_movedTo
    ((Correspondence.moved place).parseTokens_correspond hMoved
      (ParserState.movedTo_endings hMoved hTokens)).2

/- Tokens that move keep their contents, unless one is illegal. -/
theorem contents_eq_of_moved
    (hMoved : List.Forall₂ (Token.MovedTo place) tokens others)
    (hLegal : ∀ token ∈ tokens, token.kind ≠ .illegal) :
    tokens.map Token.content = others.map Token.content := by
  induction hMoved with
  | nil => rfl
  | cons hToken _ ih =>
      rw [List.forall_mem_cons] at hLegal
      rw [List.map_cons, List.map_cons, ih hLegal.2, Token.content,
        Token.content, hToken.kind, hToken.literal hLegal.1]

------------------------------------------------------------
-- Lines
------------------------------------------------------------

/- A blank at an end of a line that is a token is an error. -/
theorem errors_ne_nil_of_hasStrayEnd
    {line : String}
    (hStray : HasStrayEnd line) :
    (parse line).errors ≠ [] := by
  rcases hStray with ⟨token, hToken, hKind, -⟩
  intro hErrors
  exact legal_of_errors_eq_nil hErrors token hToken hKind

/-
  Unless a blank at an end of a line is a token, the line has
  the errors of its text, each in its own column, and without
  errors it is the same program.
-/
theorem parse_trim
    {line : String}
    (hLine : '\n' ∉ line.toList)
    (hEnds : ¬ HasStrayEnd line) :
    (parse line).errors =
        (parse (Text.trim line)).errors.map
          (SyntaxError.movedTo (columnTyped line)) ∧
      ((parse (Text.trim line)).errors = [] →
        Node.Alike SameLiteral (parse (Text.trim line)).program
          (parse line).program) := by
  have hMoved := (tokenize_trim hLine).resolve_left hEnds
  have hTokens : tokenize (Text.trim line) ≠ [] :=
    (tokenize_eq_iff_lexed.mp rfl).ne_nil
  refine ⟨parseTokens_errors_of_moved hMoved hTokens, fun hErrors => ?_⟩
  have hContents :=
    contents_eq_of_moved hMoved (legal_of_errors_eq_nil hErrors)
  exact .program (parseTokens_alike_of_same_contents hContents).1

end MonkeyLang
