import Mathlib.Data.List.Forall2
import MonkeyLang.Proofs.Parsing.Depth
import MonkeyLang.Proofs.Parsing.Grammar

/-
  Two runs of the parser on tokens that correspond to each
  other. If all ways to build a node from tokens and other
  nodes respect a correspondence, so does the parser: both runs
  go the same way, whatever errors there are, and what they
  build corresponds.

  With one run taken twice, this says what holds of every node
  that is ever built.

  Main declarations:
    * `Correspondence`                  (of tokens and of nodes)
    * `Correspondence.Alike`            (of states)
    * `Correspondence.Respects`         (routines that respect it)
    * `Correspondence.parseTokens_correspond`
    * `Correspondence.identical`        (the same tokens and nodes)
-/

------------------------------------------------------------
-- Correspondences
------------------------------------------------------------

namespace MonkeyLang

/-
  A correspondence between the tokens and the nodes of two
  runs. Tokens that correspond have the same kind and, unless
  they are illegal, the same literal, and every way to build a
  node preserves the correspondence.
-/
structure Correspondence where
  token : Token → Token → Prop
  name : Identifier → Identifier → Prop
  expression : Node → Node → Prop
  block : Node → Node → Prop
  statement : Node → Node → Prop
  kind : ∀ {a b}, token a b → a.kind = b.kind
  literal :
    ∀ {a b}, token a b → a.kind ≠ .illegal → a.literal = b.literal
  nameOf :
    ∀ {a b}, token a b → a.kind = .ident →
      name (Parse.identifierOf a) (Parse.identifierOf b)
  identifier :
    ∀ {a b}, name a b → expression (.identifier a) (.identifier b)
  integer :
    ∀ {a b value}, token a b → a.kind = .int →
      Parse.integerValue? a.literal = some value →
        expression (.integer a.toMark value) (.integer b.toMark value)
  boolean :
    ∀ {a b} {value : Bool}, token a b →
      a.literal = (if value then "true" else "false") →
        expression (.boolean a.toMark value)
          (.boolean b.toMark value)
  string :
    ∀ {a b}, token a b → a.kind = .string →
      expression (.string a.toMark a.literal)
        (.string b.toMark b.literal)
  unary :
    ∀ {a b right right'}, token a b →
      a.kind ∈ Grammar.unaryOperators →
      expression right right' →
        expression (.unary a.toMark a.literal right)
          (.unary b.toMark b.literal right')
  binary :
    ∀ {a b left left' right right'}, token a b →
      a.kind ∈ binaryOperators →
      expression left left' → expression right right' →
        expression (.binary a.toMark left a.literal right)
          (.binary b.toMark left' b.literal right')
  ifThen :
    ∀ {a b test test' body body'}, token a b →
      expression test test' → block body body' →
        expression (.ifThen a.toMark test body)
          (.ifThen b.toMark test' body')
  ifElse :
    ∀ {a b test test' body body' other other'}, token a b →
      expression test test' → block body body' →
      block other other' →
        expression (.ifElse a.toMark test body other)
          (.ifElse b.toMark test' body' other')
  function :
    ∀ {a b names names' body body'}, token a b →
      a.kind = .fnWord →
      List.Forall₂ name names names' → block body body' →
        expression
          (.function a.toMark (names.map .identifier) body)
          (.function b.toMark (names'.map .identifier) body')
  call :
    ∀ {a b callee callee' arguments arguments'}, token a b →
      expression callee callee' →
      List.Forall₂ expression arguments arguments' →
        expression (.call a.toMark callee arguments)
          (.call b.toMark callee' arguments')
  letStatement :
    ∀ {a b id id' value value'}, token a b → a.kind = .letWord →
      name id id' → expression value value' →
        statement (.letStatement a.toMark (.identifier id) value)
          (.letStatement b.toMark (.identifier id') value')
  returnStatement :
    ∀ {a b value value'}, token a b → a.kind = .returnWord →
      expression value value' →
        statement (.returnStatement a.toMark value)
          (.returnStatement b.toMark value')
  expressionStatement :
    ∀ {a b inner inner'}, token a b → expression inner inner' →
      statement (.expressionStatement a.toMark inner)
        (.expressionStatement b.toMark inner')
  blockOf :
    ∀ {a b nodes nodes'}, token a b →
      List.Forall₂ statement nodes nodes' →
        block (.block a.toMark nodes) (.block b.toMark nodes')
  blockStatement : ∀ {a b}, block a b → statement a b

namespace Correspondence

variable (both : Correspondence)

/- Errors with the same cause about tokens that correspond. -/
def ErrorAlike
    (first second : SyntaxError) :
    Prop :=
  ∃ a b cause,
    both.token a b ∧ first = .about a cause ∧ second = .about b cause

/- Two states with tokens and errors that correspond. -/
structure Alike
    (first second : ParserState) :
    Prop where
  ahead : List.Forall₂ both.token first.ahead second.ahead
  ending : both.token first.ending second.ending
  errors : List.Forall₂ both.ErrorAlike first.errors second.errors

/- Both runs fail, or they have results that are related. -/
def RunsAlike
    (related : α → β → Prop)
    (routine : Parse α)
    (other : Parse β)
    (first second : ParserState) :
    Prop :=
  Option.Rel related (routine first).1 (other second).1 ∧
    both.Alike (routine first).2 (other second).2

/- From states that are alike, a routine runs alike. -/
def Respects
    (related : α → α → Prop)
    (routine : Parse α) :
    Prop :=
  ∀ first second, both.Alike first second →
    both.RunsAlike related routine routine first second

variable {both}

theorem option_rel_mono
    {related others : α → β → Prop}
    (hMono : ∀ {a b}, related a b → others a b)
    {a? : Option α}
    {b? : Option β}
    (hRelated : Option.Rel related a? b?) :
    Option.Rel others a? b? := by
  cases hRelated with
  | none => exact .none
  | some hSome => exact .some (hMono hSome)

------------------------------------------------------------
-- States
------------------------------------------------------------

namespace Alike

variable {first second : ParserState}

theorem token_headD
    {tokens others : List Token}
    {ending ending' : Token}
    (hTokens : List.Forall₂ both.token tokens others)
    (hEnding : both.token ending ending') :
    both.token (tokens.headD ending) (others.headD ending') := by
  cases hTokens with
  | nil => exact hEnding
  | cons hHead _ => exact hHead

theorem forall₂_tail
    {tokens others : List Token}
    (hTokens : List.Forall₂ both.token tokens others) :
    List.Forall₂ both.token tokens.tail others.tail := by
  cases hTokens with
  | nil => exact .nil
  | cons _ hTail => exact hTail

theorem current
    (hAlike : both.Alike first second) :
    both.token first.current second.current :=
  token_headD hAlike.ahead hAlike.ending

theorem upcoming
    (hAlike : both.Alike first second) :
    both.token first.upcoming second.upcoming :=
  token_headD (forall₂_tail hAlike.ahead) hAlike.ending

theorem next
    (hAlike : both.Alike first second) :
    both.Alike first.next second.next where
  ahead := forall₂_tail hAlike.ahead
  ending := hAlike.ending
  errors := hAlike.errors

theorem report
    {a b : Token}
    (hAlike : both.Alike first second)
    (hToken : both.token a b)
    (cause : SyntaxError.Cause) :
    both.Alike (first.report (.about a cause))
      (second.report (.about b cause)) where
  ahead := hAlike.ahead
  ending := hAlike.ending
  errors :=
    List.rel_append hAlike.errors
      (.cons ⟨a, b, cause, hToken, rfl, rfl⟩ .nil)

end Alike

------------------------------------------------------------
-- Steps
------------------------------------------------------------

namespace RunsAlike

variable {first second : ParserState}

theorem pure
    {related : α → β → Prop}
    {a : α}
    {b : β}
    (hAlike : both.Alike first second)
    (hRelated : related a b) :
    both.RunsAlike related (Pure.pure a) (Pure.pure b) first second :=
  ⟨.some hRelated, hAlike⟩

theorem fail
    {related : α → β → Prop}
    {a b : Token}
    (hAlike : both.Alike first second)
    (hToken : both.token a b)
    (cause : SyntaxError.Cause) :
    both.RunsAlike related (Parse.fail a cause) (Parse.fail b cause)
      first second :=
  ⟨.none, hAlike.report hToken cause⟩

theorem bind
    {related : α → β → Prop}
    {others : γ → δ → Prop}
    {routine : Parse α}
    {other : Parse β}
    {following : α → Parse γ}
    {behind : β → Parse δ}
    (hFirst : both.RunsAlike related routine other first second)
    (hSecond :
      ∀ a b middle middle', related a b →
        both.Alike middle middle' →
          both.RunsAlike others (following a) (behind b) middle
            middle') :
    both.RunsAlike others (routine >>= following) (other >>= behind)
      first second := by
  unfold RunsAlike at hFirst ⊢
  rw [Parse.bind_apply, Parse.bind_apply]
  rcases hLeft : routine first with ⟨a?, middle⟩
  rcases hRight : other second with ⟨b?, middle'⟩
  rw [hLeft, hRight] at hFirst
  rcases hFirst with ⟨hResult, hMiddle⟩
  cases hResult with
  | none => exact ⟨.none, hMiddle⟩
  | some hRelated => exact hSecond _ _ _ _ hRelated hMiddle

theorem current_bind
    {related : α → β → Prop}
    {following : Token → Parse α}
    {behind : Token → Parse β}
    (hAlike : both.Alike first second)
    (hFollowing :
      both.token first.current second.current →
        both.RunsAlike related (following first.current)
          (behind second.current) first second) :
    both.RunsAlike related (Parse.current >>= following)
      (Parse.current >>= behind) first second :=
  hFollowing hAlike.current

theorem upcoming_bind
    {related : α → β → Prop}
    {following : Token → Parse α}
    {behind : Token → Parse β}
    (hAlike : both.Alike first second)
    (hFollowing :
      both.token first.upcoming second.upcoming →
        both.RunsAlike related (following first.upcoming)
          (behind second.upcoming) first second) :
    both.RunsAlike related (Parse.upcoming >>= following)
      (Parse.upcoming >>= behind) first second :=
  hFollowing hAlike.upcoming

theorem step_bind
    {related : α → β → Prop}
    {following : Unit → Parse α}
    {behind : Unit → Parse β}
    (hAlike : both.Alike first second)
    (hFollowing :
      both.Alike first.next second.next →
        both.RunsAlike related (following ()) (behind ())
          first.next second.next) :
    both.RunsAlike related (Parse.step >>= following)
      (Parse.step >>= behind) first second :=
  hFollowing hAlike.next

theorem branch
    {related : α → β → Prop}
    {kind : TokenKind}
    {routine other : Parse α}
    {routine' other' : Parse β}
    (hAlike : both.Alike first second)
    (hFirst : both.RunsAlike related routine routine' first second)
    (hSecond : both.RunsAlike related other other' first second) :
    both.RunsAlike related
      (Parse.upcomingIs kind >>= fun found =>
        if found = true then routine else other)
      (Parse.upcomingIs kind >>= fun found =>
        if found = true then routine' else other')
      first second := by
  have hKind := both.kind hAlike.upcoming
  unfold RunsAlike
  rw [Parse.upcomingIs_bind, Parse.upcomingIs_bind, hKind]
  split
  · exact hFirst
  · exact hSecond

theorem expect_bind
    {related : α → β → Prop}
    {kind : TokenKind}
    {following : Unit → Parse α}
    {behind : Unit → Parse β}
    (hAlike : both.Alike first second)
    (hFollowing :
      first.next.current.kind = kind →
        both.Alike first.next second.next →
          both.RunsAlike related (following ()) (behind ())
            first.next second.next) :
    both.RunsAlike related (Parse.expect kind >>= following)
      (Parse.expect kind >>= behind) first second := by
  have hKind := both.kind hAlike.upcoming
  unfold RunsAlike
  rw [Parse.bind_apply, Parse.bind_apply, Parse.expect_apply,
    Parse.expect_apply, ← hKind]
  by_cases hFound : first.upcoming.kind = kind
  · rw [if_pos hFound, if_pos hFound]
    exact hFollowing hFound hAlike.next
  · rw [if_neg hFound, if_neg hFound]
    exact ⟨.none, hAlike.report hAlike.upcoming _⟩

/- Whether they failed or not, both runs go on. -/
theorem attempt
    {related : α → β → Prop}
    {routine : Parse α}
    {other : Parse β}
    (hRuns : both.RunsAlike related routine other first second) :
    both.RunsAlike (Option.Rel related) (Parse.attempt routine)
      (Parse.attempt other) first second :=
  ⟨.some hRuns.1, hRuns.2⟩

theorem terminated
    {related : α → β → Prop}
    {routine : Parse α}
    {other : Parse β}
    (hRuns : both.RunsAlike related routine other first second) :
    both.RunsAlike related (Parse.terminated routine)
      (Parse.terminated other) first second := by
  refine hRuns.attempt.bind fun a? b? middle middle' hResult hMiddle => ?_
  have hSkip :
      both.RunsAlike (fun _ _ => True) Parse.skipSemicolon
        Parse.skipSemicolon middle middle' :=
    branch hMiddle ⟨.some trivial, hMiddle.next⟩
      ⟨.some trivial, hMiddle⟩
  exact hSkip.bind fun _ _ _ _ _ hLast => ⟨hResult, hLast⟩

end RunsAlike

------------------------------------------------------------
-- Expressions
------------------------------------------------------------

variable {expression : Precedence → Parse Node}
variable {block statement : Parse Node}
variable {first second : ParserState}

theorem expectName_alike :
    both.Respects both.name Parse.expectName := by
  intro first second hAlike
  apply RunsAlike.expect_bind hAlike
  intro hKind hNext
  exact .current_bind hNext fun hToken =>
    .pure hNext (both.nameOf hToken hKind)

theorem identifier_alike
    (hAlike : both.Alike first second)
    (hKind : first.current.kind = .ident) :
    both.RunsAlike both.expression Parse.identifier Parse.identifier
      first second :=
  .current_bind hAlike fun hToken =>
    .pure hAlike (both.identifier (both.nameOf hToken hKind))

theorem integerLiteral_alike
    (hAlike : both.Alike first second)
    (hKind : first.current.kind = .int) :
    both.RunsAlike both.expression Parse.integerLiteral
      Parse.integerLiteral first second := by
  apply RunsAlike.current_bind hAlike
  intro hToken
  rw [← both.literal hToken (by simp [hKind])]
  cases hValue : Parse.integerValue? first.current.literal with
  | none => exact .fail hAlike hToken _
  | some value => exact .pure hAlike (both.integer hToken hKind hValue)

theorem booleanLiteral_alike
    (hAlike : both.Alike first second)
    (hKind :
      first.current.kind = .trueWord ∨ first.current.kind = .falseWord) :
    both.RunsAlike both.expression Parse.booleanLiteral
      Parse.booleanLiteral first second := by
  apply RunsAlike.current_bind hAlike
  intro hToken
  have hLegal : first.current.kind ≠ .illegal := by
    rcases hKind with hKind | hKind <;> simp [hKind]
  rw [← both.literal hToken hLegal]
  split
  next hLiteral => exact .pure hAlike (both.boolean hToken hLiteral)
  next =>
    split
    next hLiteral => exact .pure hAlike (both.boolean hToken hLiteral)
    next => exact .fail hAlike hToken _

theorem stringLiteral_alike
    (hAlike : both.Alike first second)
    (hKind : first.current.kind = .string) :
    both.RunsAlike both.expression Parse.stringLiteral
      Parse.stringLiteral first second :=
  .current_bind hAlike fun hToken =>
    .pure hAlike (both.string hToken hKind)

section

variable
  (hExpression :
    ∀ precedence, both.Respects both.expression (expression precedence))
variable (hBlock : both.Respects both.block block)

include hExpression

theorem unaryWith_alike
    (hAlike : both.Alike first second)
    (hKind : first.current.kind ∈ Grammar.unaryOperators) :
    both.RunsAlike both.expression (Parse.unaryWith expression)
      (Parse.unaryWith expression) first second := by
  apply RunsAlike.current_bind hAlike
  intro hToken
  apply RunsAlike.step_bind hAlike
  intro hNext
  apply (hExpression _ _ _ hNext).bind
  intro right right' last last' hRight hLast
  exact .pure hLast (both.unary hToken hKind hRight)

theorem binaryWith_alike
    {left left' : Node}
    (hLeft : both.expression left left')
    (hAlike : both.Alike first second)
    (hKind : first.current.kind ∈ binaryOperators) :
    both.RunsAlike both.expression (Parse.binaryWith expression left)
      (Parse.binaryWith expression left') first second := by
  apply RunsAlike.current_bind hAlike
  intro hToken
  apply RunsAlike.step_bind hAlike
  intro hNext
  rw [← both.kind hToken]
  apply (hExpression _ _ _ hNext).bind
  intro right right' last last' hRight hLast
  exact .pure hLast (both.binary hToken hKind hLeft hRight)

theorem groupedWith_alike :
    both.Respects both.expression (Parse.groupedWith expression) := by
  intro first second hAlike
  apply RunsAlike.step_bind hAlike
  intro hNext
  apply (hExpression _ _ _ hNext).bind
  intro inner inner' last last' hInner hLast
  exact .expect_bind hLast fun _ hEnd => .pure hEnd hInner

include hBlock in
theorem ifExpressionWith_alike :
    both.Respects both.expression
      (Parse.ifExpressionWith expression block) := by
  intro first second hAlike
  apply RunsAlike.current_bind hAlike
  intro hToken
  apply RunsAlike.expect_bind hAlike
  intro _ hOpen
  apply RunsAlike.step_bind hOpen
  intro hStart
  apply (hExpression _ _ _ hStart).bind
  intro test test' middle middle' hTest hMiddle
  apply RunsAlike.expect_bind hMiddle
  intro _ hClose
  apply RunsAlike.expect_bind hClose
  intro _ hBrace
  apply (hBlock _ _ hBrace).bind
  intro body body' last last' hBody hLast
  refine .branch hLast ?_ (.pure hLast (both.ifThen hToken hTest hBody))
  apply RunsAlike.step_bind hLast
  intro hElse
  apply RunsAlike.expect_bind hElse
  intro _ hOther
  apply (hBlock _ _ hOther).bind
  intro other other' end' end'' hOther hEnd
  exact .pure hEnd (both.ifElse hToken hTest hBody hOther)

omit hExpression

theorem moreParameters_alike
    (limit : Nat) :
    both.Respects (List.Forall₂ both.name)
      (Parse.moreParameters limit) := by
  induction limit with
  | zero => exact fun _ _ hAlike => ⟨.none, hAlike⟩
  | succ limit ih =>
      intro first second hAlike
      refine .branch hAlike ?_ (.pure hAlike .nil)
      apply RunsAlike.step_bind hAlike
      intro hNext
      apply (expectName_alike _ _ hNext).bind
      intro name name' middle middle' hName hMiddle
      apply (ih _ _ hMiddle).bind
      intro names names' last last' hNames hLast
      exact .pure hLast (.cons hName hNames)

theorem parametersUpTo_alike
    (limit : Nat) :
    both.Respects (List.Forall₂ both.name)
      (Parse.parametersUpTo limit) := by
  intro first second hAlike
  apply RunsAlike.branch hAlike
  · exact .step_bind hAlike fun hNext => .pure hNext .nil
  · apply (expectName_alike _ _ hAlike).bind
    intro name name' middle middle' hName hMiddle
    apply (moreParameters_alike limit _ _ hMiddle).bind
    intro names names' last last' hNames hLast
    exact .expect_bind hLast fun _ hEnd => .pure hEnd (.cons hName hNames)

include hBlock in
theorem functionLiteralWith_alike
    (limit : Nat)
    (hAlike : both.Alike first second)
    (hKind : first.current.kind = .fnWord) :
    both.RunsAlike both.expression
      (Parse.functionLiteralWith block limit)
      (Parse.functionLiteralWith block limit) first second := by
  apply RunsAlike.current_bind hAlike
  intro hToken
  apply RunsAlike.expect_bind hAlike
  intro _ hOpen
  apply (parametersUpTo_alike limit _ _ hOpen).bind
  intro names names' middle middle' hNames hMiddle
  apply RunsAlike.expect_bind hMiddle
  intro _ hBrace
  apply (hBlock _ _ hBrace).bind
  intro body body' last last' hBody hLast
  exact .pure hLast (both.function hToken hKind hNames hBody)

include hExpression

theorem moreArgumentsWith_alike
    (limit : Nat) :
    both.Respects (List.Forall₂ both.expression)
      (Parse.moreArgumentsWith expression limit) := by
  induction limit with
  | zero => exact fun _ _ hAlike => ⟨.none, hAlike⟩
  | succ limit ih =>
      intro first second hAlike
      refine .branch hAlike ?_ (.pure hAlike .nil)
      apply RunsAlike.step_bind hAlike
      intro hNext
      apply RunsAlike.step_bind hNext
      intro hStart
      apply (hExpression _ _ _ hStart).bind
      intro argument argument' middle middle' hArgument hMiddle
      apply (ih _ _ hMiddle).bind
      intro others others' last last' hOthers hLast
      exact .pure hLast (.cons hArgument hOthers)

theorem argumentsWith_alike
    (limit : Nat) :
    both.Respects (List.Forall₂ both.expression)
      (Parse.argumentsWith expression limit) := by
  intro first second hAlike
  apply RunsAlike.branch hAlike
  · exact .step_bind hAlike fun hNext => .pure hNext .nil
  · apply RunsAlike.step_bind hAlike
    intro hStart
    apply (hExpression _ _ _ hStart).bind
    intro argument argument' middle middle' hArgument hMiddle
    apply (moreArgumentsWith_alike hExpression limit _ _ hMiddle).bind
    intro others others' last last' hOthers hLast
    exact .expect_bind hLast fun _ hEnd =>
      .pure hEnd (.cons hArgument hOthers)

theorem callWith_alike
    {callee callee' : Node}
    (limit : Nat)
    (hCallee : both.expression callee callee')
    (hAlike : both.Alike first second) :
    both.RunsAlike both.expression
      (Parse.callWith expression limit callee)
      (Parse.callWith expression limit callee') first second := by
  apply RunsAlike.current_bind hAlike
  intro hToken
  apply (argumentsWith_alike hExpression limit _ _ hAlike).bind
  intro arguments arguments' last last' hArguments hLast
  exact .pure hLast (both.call hToken hCallee hArguments)

include hBlock in
theorem openWith_alike
    {opening : Opening}
    (limit : Nat)
    (hAlike : both.Alike first second)
    (hOpening : opening? first.current.kind = some opening) :
    both.RunsAlike both.expression
      (Parse.openWith expression block limit opening)
      (Parse.openWith expression block limit opening)
      first second := by
  have hKind := Grammar.kind_of_opening? hOpening
  cases opening with
  | identifier => exact identifier_alike hAlike hKind
  | integer => exact integerLiteral_alike hAlike hKind
  | string => exact stringLiteral_alike hAlike hKind
  | boolean => exact booleanLiteral_alike hAlike hKind
  | unary => exact unaryWith_alike hExpression hAlike hKind
  | grouped => exact groupedWith_alike hExpression _ _ hAlike
  | ifExpression =>
      exact ifExpressionWith_alike hExpression hBlock _ _ hAlike
  | functionLiteral =>
      exact functionLiteralWith_alike hBlock limit hAlike hKind

theorem extendWith_alike
    {left left' : Node}
    (limit : Nat)
    (precedence : Precedence)
    (hLeft : both.expression left left')
    (hAlike : both.Alike first second) :
    both.RunsAlike both.expression
      (Parse.extendWith expression limit precedence left)
      (Parse.extendWith expression limit precedence left')
      first second := by
  induction limit generalizing left left' first second with
  | zero => exact ⟨.none, hAlike⟩
  | succ limit ih =>
      apply RunsAlike.upcoming_bind hAlike
      intro hToken
      rw [← both.kind hToken]
      split
      next =>
        cases hExtension : extension? first.upcoming.kind with
        | none => exact .pure hAlike hLeft
        | some extension =>
            apply RunsAlike.step_bind hAlike
            intro hNext
            have hWider :
                both.RunsAlike both.expression
                  (Parse.widenWith expression limit extension left)
                  (Parse.widenWith expression limit extension left')
                  first.next second.next := by
              cases extension with
              | binary =>
                  exact
                    binaryWith_alike hExpression hLeft hNext
                      (Grammar.mem_binaryOperators_of_binary hExtension)
              | call =>
                  exact callWith_alike hExpression limit hLeft hNext
            apply hWider.bind
            intro wider wider' middle middle' hWider hMiddle
            exact ih hWider hMiddle
      next => exact .pure hAlike hLeft

include hBlock in
theorem expressionWith_alike
    (limit : Nat)
    (precedence : Precedence) :
    both.Respects both.expression
      (Parse.expressionWith expression block limit precedence) := by
  intro first second hAlike
  apply RunsAlike.current_bind hAlike
  intro hToken
  rw [← both.kind hToken]
  cases hOpening : opening? first.current.kind with
  | none => exact .fail hAlike hToken _
  | some opening =>
      refine
        (openWith_alike hExpression hBlock limit hAlike hOpening).bind ?_
      intro left left' middle middle' hLeft hMiddle
      exact extendWith_alike hExpression limit precedence hLeft hMiddle

------------------------------------------------------------
-- Statements
------------------------------------------------------------

include hBlock in
theorem statementWith_alike :
    both.Respects both.statement
      (Parse.statementWith expression block) := by
  intro first second hAlike
  apply RunsAlike.current_bind hAlike
  intro hToken
  rw [← both.kind hToken]
  split
  next hKind =>
    apply RunsAlike.current_bind hAlike
    intro hToken
    apply (expectName_alike _ _ hAlike).bind
    intro name name' middle middle' hName hMiddle
    apply RunsAlike.expect_bind hMiddle
    intro _ hSign
    apply RunsAlike.step_bind hSign
    intro hStart
    apply (hExpression _ _ _ hStart).terminated.bind
    intro value value' last last' hValue hLast
    exact .pure hLast (both.letStatement hToken hKind hName hValue)
  next hKind =>
    apply RunsAlike.current_bind hAlike
    intro hToken
    apply RunsAlike.step_bind hAlike
    intro hStart
    apply (hExpression _ _ _ hStart).terminated.bind
    intro value value' last last' hValue hLast
    exact .pure hLast (both.returnStatement hToken hKind hValue)
  next =>
    have hRuns := (hBlock _ _ hAlike).terminated
    refine ⟨?_, hRuns.2⟩
    exact option_rel_mono both.blockStatement hRuns.1
  next =>
    apply RunsAlike.current_bind hAlike
    intro hToken
    apply (hExpression _ _ _ hAlike).terminated.bind
    intro inner inner' last last' hInner hLast
    exact .pure hLast (both.expressionStatement hToken hInner)

end

section

variable (hStatement : both.Respects both.statement statement)

include hStatement

theorem prependWith_alike
    {others : Parse (List Node)}
    (hOthers : both.Respects (List.Forall₂ both.statement) others) :
    both.Respects (List.Forall₂ both.statement)
      (Parse.prependWith statement others) := by
  intro first second hAlike
  apply (hStatement _ _ hAlike).attempt.bind
  intro node? node?' middle middle' hNode hMiddle
  apply RunsAlike.step_bind hMiddle
  intro hNext
  apply (hOthers _ _ hNext).bind
  intro nodes nodes' last last' hNodes hLast
  apply RunsAlike.pure hLast
  cases hNode with
  | none => exact hNodes
  | some hRelated => exact .cons hRelated hNodes

theorem blockStatementsWith_alike
    (limit : Nat) :
    both.Respects (List.Forall₂ both.statement)
      (Parse.blockStatementsWith statement limit) := by
  induction limit with
  | zero => exact fun _ _ hAlike => ⟨.none, hAlike⟩
  | succ limit ih =>
      intro first second hAlike
      apply RunsAlike.current_bind hAlike
      intro hToken
      rw [← both.kind hToken]
      split
      next => exact .pure hAlike .nil
      next => exact .fail hAlike hToken _
      next => exact prependWith_alike hStatement ih _ _ hAlike

theorem blockWith_alike
    (limit : Nat) :
    both.Respects both.block (Parse.blockWith statement limit) := by
  intro first second hAlike
  apply RunsAlike.current_bind hAlike
  intro hToken
  apply RunsAlike.step_bind hAlike
  intro hNext
  apply (blockStatementsWith_alike hStatement limit _ _ hNext).bind
  intro nodes nodes' last last' hNodes hLast
  exact .pure hLast (both.blockOf hToken hNodes)

theorem programStatementsWith_alike
    (limit : Nat) :
    both.Respects (List.Forall₂ both.statement)
      (Parse.programStatementsWith statement limit) := by
  induction limit with
  | zero => exact fun _ _ hAlike => ⟨.none, hAlike⟩
  | succ limit ih =>
      intro first second hAlike
      apply RunsAlike.current_bind hAlike
      intro hToken
      rw [← both.kind hToken]
      split
      next => exact .pure hAlike .nil
      next => exact prependWith_alike hStatement ih _ _ hAlike

end

------------------------------------------------------------
-- Whole Programs
------------------------------------------------------------

/- Nested expressions and statements run alike at every depth. -/
theorem within_alike
    (both : Correspondence)
    (depth : Nat) :
    (∀ precedence,
      both.Respects both.expression
        (Parse.expressionWithin depth precedence)) ∧
      both.Respects both.statement (Parse.statementWithin depth) := by
  induction depth with
  | zero =>
      exact ⟨fun _ _ _ hAlike => ⟨.none, hAlike⟩,
        fun _ _ hAlike => ⟨.none, hAlike⟩⟩
  | succ depth ih =>
      have hBlock := blockWith_alike ih.2 depth
      exact ⟨expressionWith_alike ih.1 hBlock depth,
        statementWith_alike ih.1 hBlock⟩

/- The statements of a program are read alike. -/
theorem programStatements_alike
    (both : Correspondence) :
    both.Respects (List.Forall₂ both.statement)
      Parse.programStatements := by
  intro first second hAlike
  have hDepth :
      Parse.sufficientDepth first = Parse.sufficientDepth second := by
    unfold Parse.sufficientDepth
    rw [hAlike.ahead.length_eq]
  unfold RunsAlike Parse.programStatements Parse.unbounded
  rw [← hDepth]
  exact
    programStatementsWith_alike (within_alike both _).2 _ _ _ hAlike

/-
  From tokens that correspond, the statements correspond one by
  one, and so do the errors.
-/
theorem parseTokens_correspond
    (both : Correspondence)
    {tokens others : List Token}
    (hTokens : List.Forall₂ both.token tokens others)
    (hEnding :
      both.token (ParserState.ofTokens tokens).ending
        (ParserState.ofTokens others).ending) :
    List.Forall₂ both.statement (parseTokens tokens).statements
        (parseTokens others).statements ∧
      List.Forall₂ both.ErrorAlike (parseTokens tokens).errors
        (parseTokens others).errors := by
  have hRuns :=
    both.programStatements_alike (ParserState.ofTokens tokens)
      (ParserState.ofTokens others) ⟨hTokens, hEnding, .nil⟩
  unfold RunsAlike at hRuns
  unfold parseTokens
  rcases hLeft :
    Parse.programStatements (ParserState.ofTokens tokens) with
    ⟨statements?, last⟩
  rcases hRight :
    Parse.programStatements (ParserState.ofTokens others) with
    ⟨statements?', last'⟩
  rw [hLeft, hRight] at hRuns
  rcases hRuns with ⟨hResult, hLast⟩
  refine ⟨?_, hLast.errors⟩
  cases hResult with
  | none => exact .nil
  | some hStatements => exact hStatements

theorem causes_eq
    {errors others : List SyntaxError}
    (hErrors : List.Forall₂ both.ErrorAlike errors others) :
    errors.map SyntaxError.cause = others.map SyntaxError.cause := by
  rw [← List.forall₂_eq_eq_eq, List.forall₂_map_left_iff,
    List.forall₂_map_right_iff]
  refine hErrors.imp ?_
  rintro _ _ ⟨a, b, cause, -, rfl, rfl⟩
  rfl

/- In particular the errors have the same causes. -/
theorem parseTokens_alike
    (both : Correspondence)
    {tokens others : List Token}
    (hTokens : List.Forall₂ both.token tokens others)
    (hEnding :
      both.token (ParserState.ofTokens tokens).ending
        (ParserState.ofTokens others).ending) :
    List.Forall₂ both.statement (parseTokens tokens).statements
        (parseTokens others).statements ∧
      (parseTokens tokens).errors.map SyntaxError.cause =
        (parseTokens others).errors.map SyntaxError.cause := by
  have hBoth := both.parseTokens_correspond hTokens hEnding
  exact ⟨hBoth.1, causes_eq hBoth.2⟩

------------------------------------------------------------
-- Tokens and Nodes That Are the Same
------------------------------------------------------------

/- Tokens and nodes correspond only to themselves. -/
def identical : Correspondence where
  token a b := b = a
  name a b := a = b
  expression a b := a = b
  block a b := a = b
  statement a b := a = b
  kind := by rintro _ _ rfl; rfl
  literal := by rintro _ _ rfl _; rfl
  nameOf := by rintro _ _ rfl _; rfl
  identifier := by rintro _ _ rfl; rfl
  integer := by rintro _ _ _ rfl _ _; rfl
  boolean := by rintro _ _ _ rfl _; rfl
  string := by rintro _ _ rfl _; rfl
  unary := by rintro _ _ _ _ rfl _ rfl; rfl
  binary := by rintro _ _ _ _ _ _ rfl _ rfl rfl; rfl
  ifThen := by rintro _ _ _ _ _ _ rfl rfl rfl; rfl
  ifElse := by rintro _ _ _ _ _ _ _ _ rfl rfl rfl rfl; rfl
  function := by
    rintro _ _ _ _ _ _ rfl _ hNames rfl
    rw [List.forall₂_eq_eq_eq] at hNames
    rw [hNames]
  call := by
    rintro _ _ _ _ _ _ rfl rfl hArguments
    rw [List.forall₂_eq_eq_eq] at hArguments
    rw [hArguments]
  letStatement := by rintro _ _ _ _ _ _ rfl _ rfl rfl; rfl
  returnStatement := by rintro _ _ _ _ rfl _ rfl; rfl
  expressionStatement := by rintro _ _ _ _ rfl rfl; rfl
  blockOf := by
    rintro _ _ _ _ rfl hNodes
    rw [List.forall₂_eq_eq_eq] at hNodes
    rw [hNodes]
  blockStatement := by rintro _ _ rfl; rfl

theorem identical_errors
    {errors others : List SyntaxError}
    (hErrors :
      List.Forall₂ identical.ErrorAlike errors others) :
    errors = others := by
  induction hErrors with
  | nil => rfl
  | cons hError _ ih =>
      rcases hError with ⟨a, _, cause, rfl, rfl, rfl⟩
      rw [ih]

theorem identical_result
    {first second : Option (List Node)}
    (hResult :
      Option.Rel (List.Forall₂ identical.statement) first second) :
    first = second := by
  cases hResult with
  | none => rfl
  | some hStatements =>
      have hSame := List.forall₂_eq_eq_eq ▸ hStatements
      exact congrArg some hSame

end Correspondence

/- What a correspondence says of one of two runs, it says of each node. -/
theorem forall_mem_of_forall₂
    {holds : α → Prop}
    {firsts : List α}
    {seconds : List β}
    (hAll : List.Forall₂ (fun a _ => holds a) firsts seconds) :
    ∀ a ∈ firsts, holds a := by
  induction hAll with
  | nil => simp
  | cons hHead _ ih => simpa using ⟨hHead, ih⟩

end MonkeyLang
