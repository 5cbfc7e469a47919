import MonkeyLang.Node.Basic
import MonkeyLang.Numeral
import MonkeyLang.Parser.Dispatch
import MonkeyLang.Parser.Parse
import MonkeyLang.Token.Precedence
import MonkeyLang.Word64

/-
  This file defines the routines for expressions. What they
  need for the expressions and the blocks inside an expression
  are parameters, so that none of them refers to itself.

  An expression is parsed by operator precedence: one routine
  opens it and reads its first operand, and then others extend
  it as long as the next operator binds tightly enough.

  A list of unknown length is read with a limit on the number
  of its items.

  Key definitions include:
    * `identifier`, `integerLiteral`, ...   (single tokens)
    * `openWith`                          (the first operand)
    * `extendWith`                        (all that follows it)
    * `expressionWith`                    (an expression)
-/

------------------------------------------------------------
-- Single Tokens
------------------------------------------------------------

namespace MonkeyLang

namespace Parse

def identifierOf
    (token : Token) :
    Identifier :=
  ⟨token.toMark, token.literal⟩

/- The current token as an identifier. -/
def identifier : Parse Node := do
  let token ← current
  return .identifier (identifierOf token)

/- The next token as a name, if it is an identifier. -/
def expectName : Parse Identifier := do
  expect .ident
  let token ← current
  return identifierOf token

/- The value of a numeral, if it is a signed 64-bit number. -/
def integerValue?
    (literal : String) :
    Option Int :=
  (Numeral.read? literal).filter Word64.inRange

/- The current token as an integer, if it is a numeral in range. -/
def integerLiteral : Parse Node := do
  let token ← current
  match integerValue? token.literal with
  | some value => return .integer token.toMark value
  | none => fail token (.badInteger token.literal)

/- The current token as a boolean, if it is spelled like one. -/
def booleanLiteral : Parse Node := do
  let token ← current
  if token.literal = "true" then
    return .boolean token.toMark true
  else if token.literal = "false" then
    return .boolean token.toMark false
  else
    fail token (.badBoolean token.literal)

def stringLiteral : Parse Node := do
  let token ← current
  return .string token.toMark token.literal

------------------------------------------------------------
-- Operators
------------------------------------------------------------

def unaryWith
    (expression : Precedence → Parse Node) :
    Parse Node := do
  let token ← current
  step
  let right ← expression .unary
  return .unary token.toMark token.literal right

def binaryWith
    (expression : Precedence → Parse Node)
    (left : Node) :
    Parse Node := do
  let token ← current
  step
  let right ← expression (precedenceOf token.kind)
  return .binary token.toMark left token.literal right

def groupedWith
    (expression : Precedence → Parse Node) :
    Parse Node := do
  step
  let inner ← expression .lowest
  expect .rparen
  return inner

------------------------------------------------------------
-- Conditionals and Functions
------------------------------------------------------------

/- A conditional, with or without an alternative. -/
def ifExpressionWith
    (expression : Precedence → Parse Node)
    (block : Parse Node) :
    Parse Node := do
  let token ← current
  expect .lparen
  step
  let condition ← expression .lowest
  expect .rparen
  expect .lbrace
  let consequence ← block
  if ← upcomingIs .elseWord then
    step
    expect .lbrace
    let alternative ← block
    return .ifElse token.toMark condition consequence alternative
  else
    return .ifThen token.toMark condition consequence

/- The parameters that follow, each after a comma. -/
def moreParameters
    (limit : Nat) :
    Parse (List Identifier) :=
  match limit with
  | 0 => failure
  | limit + 1 => do
      if ← upcomingIs .comma then
        step
        let name ← expectName
        let names ← moreParameters limit
        return name :: names
      else
        return []

/-
  A parameter list. It starts at the opening parenthesis and
  ends at the closing one.
-/
def parametersUpTo
    (limit : Nat) :
    Parse (List Identifier) := do
  if ← upcomingIs .rparen then
    step
    return []
  else
    let name ← expectName
    let names ← moreParameters limit
    expect .rparen
    return name :: names

def functionLiteralWith
    (block : Parse Node)
    (limit : Nat) :
    Parse Node := do
  let token ← current
  expect .lparen
  let parameters ← parametersUpTo limit
  expect .lbrace
  let body ← block
  return .function token.toMark (parameters.map .identifier) body

------------------------------------------------------------
-- Calls
------------------------------------------------------------

/- The arguments that follow, each after a comma. -/
def moreArgumentsWith
    (expression : Precedence → Parse Node)
    (limit : Nat) :
    Parse (List Node) :=
  match limit with
  | 0 => failure
  | limit + 1 => do
      if ← upcomingIs .comma then
        step
        step
        let argument ← expression .lowest
        let arguments ← moreArgumentsWith expression limit
        return argument :: arguments
      else
        return []

/-
  An argument list. It starts at the opening parenthesis and
  ends at the closing one.
-/
def argumentsWith
    (expression : Precedence → Parse Node)
    (limit : Nat) :
    Parse (List Node) := do
  if ← upcomingIs .rparen then
    step
    return []
  else
    step
    let argument ← expression .lowest
    let arguments ← moreArgumentsWith expression limit
    expect .rparen
    return argument :: arguments

/- A call of the function to the left. -/
def callWith
    (expression : Precedence → Parse Node)
    (limit : Nat)
    (callee : Node) :
    Parse Node := do
  let token ← current
  let arguments ← argumentsWith expression limit
  return .call token.toMark callee arguments

------------------------------------------------------------
-- Expressions
------------------------------------------------------------

/- The first operand of an expression. -/
def openWith
    (expression : Precedence → Parse Node)
    (block : Parse Node)
    (limit : Nat)
    (opening : Opening) :
    Parse Node :=
  match opening with
  | .identifier => identifier
  | .integer => integerLiteral
  | .string => stringLiteral
  | .boolean => booleanLiteral
  | .unary => unaryWith expression
  | .grouped => groupedWith expression
  | .ifExpression => ifExpressionWith expression block
  | .functionLiteral => functionLiteralWith block limit

/- An expression that extends the one to the left. -/
def widenWith
    (expression : Precedence → Parse Node)
    (limit : Nat)
    (extension : Extension)
    (left : Node) :
    Parse Node :=
  match extension with
  | .binary => binaryWith expression left
  | .call => callWith expression limit left

/-
  Extend an expression by the operators and calls behind it, as
  long as they bind tighter than the given precedence. A
  semicolon always ends it.
-/
def extendWith
    (expression : Precedence → Parse Node)
    (limit : Nat)
    (precedence : Precedence)
    (left : Node) :
    Parse Node :=
  match limit with
  | 0 => failure
  | limit + 1 => do
      let token ← upcoming
      if token.kind ≠ .semicolon ∧ precedence < precedenceOf token.kind then
        match extension? token.kind with
        | none => return left
        | some extension =>
            step
            let wider ← widenWith expression limit extension left
            extendWith expression limit precedence wider
      else
        return left

/-
  The expression that starts at the current token, and takes
  in only operators that bind tighter than the given
  precedence.
-/
def expressionWith
    (expression : Precedence → Parse Node)
    (block : Parse Node)
    (limit : Nat)
    (precedence : Precedence) :
    Parse Node := do
  let token ← current
  match opening? token.kind with
  | none => fail token (.startsNoExpression token.kind)
  | some opening =>
      let left ← openWith expression block limit opening
      extendWith expression limit precedence left

end Parse

end MonkeyLang
