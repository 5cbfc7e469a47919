import MonkeyLang.Parser.Statement

/-
  This file defines the parsing routines as they are used: each
  with the routines for what is inside it.

  Expressions and statements contain one another. The two
  routines that tie them together have a bound on the depth of
  this nesting; the others supply a bound that suffices. An
  expression inside an expression starts at a later token, and
  so does a statement inside an expression, so that two levels
  for each token are enough.

  Key definitions include:
    * `expressionWithin`, `statementWithin`   (with a bound)
    * `expression`, `statement`, `program`, ...
-/

------------------------------------------------------------
-- Nesting
------------------------------------------------------------

namespace MonkeyLang

namespace Parse

mutual

/- An expression, with a bound on the depth of its nesting. -/
def expressionWithin
    (depth : Nat)
    (precedence : Precedence) :
    Parse Node :=
  match depth with
  | 0 => failure
  | depth + 1 =>
      expressionWith (expressionWithin depth)
        (blockWith (statementWithin depth) depth) depth precedence

/- A statement, with a bound on the depth of its nesting. -/
def statementWithin
    (depth : Nat) :
    Parse Node :=
  match depth with
  | 0 => failure
  | depth + 1 =>
      statementWith (expressionWithin depth)
        (blockWith (statementWithin depth) depth)

end

/- A block, with a bound on the depth of its nesting. -/
def blockWithin
    (depth : Nat) :
    Parse Node :=
  blockWith (statementWithin depth) depth

/- A depth that suffices for any routine on the tokens ahead. -/
def sufficientDepth
    (state : ParserState) :
    Nat :=
  2 * (state.ahead.length + 2)

/- Run a routine with a depth that suffices. -/
def unbounded
    (routine : Nat → Parse α) :
    Parse α :=
  fun state => routine (sufficientDepth state) state

------------------------------------------------------------
-- Statements
------------------------------------------------------------

def statement : Parse Node :=
  unbounded statementWithin

def letStatement : Parse Node :=
  unbounded fun depth => letStatementWith (expressionWithin depth)

def returnStatement : Parse Node :=
  unbounded fun depth => returnStatementWith (expressionWithin depth)

def expressionStatement : Parse Node :=
  unbounded fun depth => expressionStatementWith (expressionWithin depth)

def block : Parse Node :=
  unbounded blockWithin

def programStatements : Parse (List Node) :=
  unbounded fun depth => programStatementsWith (statementWithin depth) depth

def program : Parse Node := do
  let statements ← programStatements
  return .program statements

------------------------------------------------------------
-- Expressions
------------------------------------------------------------

/- An expression of operators that bind tighter than a precedence. -/
def expression
    (precedence : Precedence) :
    Parse Node :=
  unbounded fun depth => expressionWithin depth precedence

def unary : Parse Node :=
  unbounded fun depth => unaryWith (expressionWithin depth)

def binary
    (left : Node) :
    Parse Node :=
  unbounded fun depth => binaryWith (expressionWithin depth) left

def grouped : Parse Node :=
  unbounded fun depth => groupedWith (expressionWithin depth)

def ifExpression : Parse Node :=
  unbounded fun depth =>
    ifExpressionWith (expressionWithin depth) (blockWithin depth)

def functionLiteral : Parse Node :=
  unbounded fun depth => functionLiteralWith (blockWithin depth) depth

def parameters : Parse (List Identifier) :=
  unbounded parametersUpTo

def call
    (callee : Node) :
    Parse Node :=
  unbounded fun depth => callWith (expressionWithin depth) depth callee

def arguments : Parse (List Node) :=
  unbounded fun depth => argumentsWith (expressionWithin depth) depth

end Parse

end MonkeyLang
