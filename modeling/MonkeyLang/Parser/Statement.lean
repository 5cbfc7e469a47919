import MonkeyLang.Node.Basic
import MonkeyLang.Parser.Expression

/-
  This file defines the routines for statements, with those for
  the expressions and the statements inside as parameters.

  Key definitions include:
    * `statementWith`   (a statement)
    * `prependWith`     (go on after a statement that failed)
    * `blockWith`       (a block)
-/

------------------------------------------------------------
-- Simple Statements
------------------------------------------------------------

namespace MonkeyLang

namespace Parse

def letStatementWith
    (expression : Precedence → Parse Node) :
    Parse Node := do
  let token ← current
  let name ← expectName
  expect .assign
  step
  let value ← terminated (expression .lowest)
  return .letStatement token.toMark (.identifier name) value

def returnStatementWith
    (expression : Precedence → Parse Node) :
    Parse Node := do
  let token ← current
  step
  let value ← terminated (expression .lowest)
  return .returnStatement token.toMark value

def expressionStatementWith
    (expression : Precedence → Parse Node) :
    Parse Node := do
  let token ← current
  let inner ← terminated (expression .lowest)
  return .expressionStatement token.toMark inner

/- The statement that starts at the current token. -/
def statementWith
    (expression : Precedence → Parse Node)
    (block : Parse Node) :
    Parse Node := do
  let token ← current
  match token.kind with
  | .letWord => letStatementWith expression
  | .returnWord => returnStatementWith expression
  | .lbrace => terminated block
  | _ => expressionStatementWith expression

------------------------------------------------------------
-- Sequences
------------------------------------------------------------

/-
  One statement and then others. A statement that fails is left
  out, and the next one is tried at the next token.
-/
def prependWith
    (statement : Parse Node)
    (others : Parse (List Node)) :
    Parse (List Node) := do
  let statement? ← attempt statement
  step
  let statements ← others
  return statement?.toList ++ statements

/- The statements up to a closing brace, which must be there. -/
def blockStatementsWith
    (statement : Parse Node)
    (limit : Nat) :
    Parse (List Node) :=
  match limit with
  | 0 => failure
  | limit + 1 => do
      let token ← current
      match token.kind with
      | .rbrace => return []
      | .eof => fail token .unclosedBlock
      | _ => prependWith statement (blockStatementsWith statement limit)

/-
  A block. It starts at the opening brace and ends at the
  closing one.
-/
def blockWith
    (statement : Parse Node)
    (limit : Nat) :
    Parse Node := do
  let token ← current
  step
  let statements ← blockStatementsWith statement limit
  return .block token.toMark statements

/- The statements up to the end of input. -/
def programStatementsWith
    (statement : Parse Node)
    (limit : Nat) :
    Parse (List Node) :=
  match limit with
  | 0 => failure
  | limit + 1 => do
      let token ← current
      match token.kind with
      | .eof => return []
      | _ => prependWith statement (programStatementsWith statement limit)

end Parse

end MonkeyLang
