import MonkeyLang.Token.Basic

/-
  This file defines syntax trees.

  Any node may stand in any place of a tree. The parser only
  builds trees in which statements and expressions are where
  they belong, but the printer, the evaluator and the others
  work on every tree.

  Key definitions include:
    * `Identifier`
    * `Node`
    * `Node.same`           (equality up to marks)
    * `Node.tokenLiteral`   (the literal of a node's token)
-/

------------------------------------------------------------
-- Nodes
------------------------------------------------------------

namespace MonkeyLang

/- A name with the mark of the token it came from. -/
structure Identifier where
  mark : Mark
  name : String

/-
  The nodes of syntax trees. Every node carries the mark of the
  token it came from, except a program and a node of a kind
  that is not part of the language.
-/
inductive Node where
  | identifier (id : Identifier)
  | integer (mark : Mark) (value : Int)
  | boolean (mark : Mark) (value : Bool)
  | string (mark : Mark) (value : String)
  | unary (mark : Mark) (operator : String) (right : Node)
  | binary (mark : Mark) (left : Node) (operator : String) (right : Node)
  | ifThen (mark : Mark) (condition consequence : Node)
  | ifElse (mark : Mark) (condition consequence alternative : Node)
  | function (mark : Mark) (parameters : List Node) (body : Node)
  | call (mark : Mark) (callee : Node) (arguments : List Node)
  | letStatement (mark : Mark) (name value : Node)
  | returnStatement (mark : Mark) (value : Node)
  | expressionStatement (mark : Mark) (expression : Node)
  | block (mark : Mark) (statements : List Node)
  | program (statements : List Node)
  | unknown (kind : String)

namespace Node

def kind
    (node : Node) :
    String :=
  match node with
  | .identifier _ => "identifier"
  | .integer _ _ => "integer"
  | .boolean _ _ => "boolean"
  | .string _ _ => "string"
  | .unary _ _ _ => "prefix"
  | .binary _ _ _ _ => "infix"
  | .ifThen _ _ _ => "if"
  | .ifElse _ _ _ _ => "if"
  | .function _ _ _ => "function"
  | .call _ _ _ => "call"
  | .letStatement _ _ _ => "let"
  | .returnStatement _ _ => "return"
  | .expressionStatement _ _ => "expression_statement"
  | .block _ _ => "block"
  | .program _ => "program"
  | .unknown kind => kind

------------------------------------------------------------
-- Literals of Tokens
------------------------------------------------------------

mutual

/-
  The literal of the token a node came from. For a program it
  is that of its first statement.
-/
def tokenLiteral
    (node : Node) :
    String :=
  match node with
  | .program statements => firstLiteral statements
  | .identifier id => id.mark.literal
  | .integer mark _ => mark.literal
  | .boolean mark _ => mark.literal
  | .string mark _ => mark.literal
  | .unary mark _ _ => mark.literal
  | .binary mark _ _ _ => mark.literal
  | .ifThen mark _ _ => mark.literal
  | .ifElse mark _ _ _ => mark.literal
  | .function mark _ _ => mark.literal
  | .call mark _ _ => mark.literal
  | .letStatement mark _ _ => mark.literal
  | .returnStatement mark _ => mark.literal
  | .expressionStatement mark _ => mark.literal
  | .block mark _ => mark.literal
  | .unknown _ => ""

def firstLiteral
    (nodes : List Node) :
    String :=
  match nodes with
  | [] => ""
  | node :: _ => tokenLiteral node

end

------------------------------------------------------------
-- Equality up to Marks
------------------------------------------------------------

mutual

/-
  Whether two trees have the same structure, names and values.
  Marks are not compared.
-/
def same
    (first second : Node) :
    Bool :=
  match first, second with
  | .identifier a, .identifier b => a.name == b.name
  | .integer _ a, .integer _ b => a == b
  | .boolean _ a, .boolean _ b => a == b
  | .string _ a, .string _ b => a == b
  | .unary _ o a, .unary _ o' a' => o == o' && same a a'
  | .binary _ a o b, .binary _ a' o' b' =>
      same a a' && o == o' && same b b'
  | .ifThen _ c a, .ifThen _ c' a' => same c c' && same a a'
  | .ifElse _ c a b, .ifElse _ c' a' b' =>
      same c c' && same a a' && same b b'
  | .function _ ps b, .function _ ps' b' =>
      sameAll ps ps' && same b b'
  | .call _ f as, .call _ f' as' => same f f' && sameAll as as'
  | .letStatement _ n v, .letStatement _ n' v' =>
      same n n' && same v v'
  | .returnStatement _ v, .returnStatement _ v' => same v v'
  | .expressionStatement _ e, .expressionStatement _ e' => same e e'
  | .block _ ss, .block _ ss' => sameAll ss ss'
  | .program ss, .program ss' => sameAll ss ss'
  | .unknown k, .unknown k' => k == k'
  | _, _ => false

def sameAll
    (firsts seconds : List Node) :
    Bool :=
  match firsts, seconds with
  | [], [] => true
  | a :: as, b :: bs => same a b && sameAll as bs
  | _, _ => false

end

end Node

end MonkeyLang
