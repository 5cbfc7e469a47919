import MonkeyLang.Document
import MonkeyLang.Node.Basic

/-
  This file defines the outline of a syntax tree: the tree as
  a structured document, with the marks of all its nodes.

  Key definitions include:
    * `Node.outline`
-/

------------------------------------------------------------
-- Fields
------------------------------------------------------------

namespace MonkeyLang

/- The outline of a node with a kind, a mark and fields of its own. -/
def nodeRecord
    (kind : String)
    (mark : Mark)
    (fields : List (String × Document)) :
    Document :=
  .record ([
    ("kind", .string kind),
    ("literal", .string mark.literal),
    ("line", .number mark.line),
    ("col", .number mark.column)] ++ fields)

def Identifier.outline
    (identifier : Identifier) :
    Document :=
  nodeRecord "identifier" identifier.mark
    [("value", .string identifier.name)]

------------------------------------------------------------
-- Trees
------------------------------------------------------------

namespace Node

mutual

def outline
    (node : Node) :
    Document :=
  match node with
  | .identifier id => id.outline
  | .integer mark value =>
      nodeRecord "integer" mark [("value", .number value)]
  | .boolean mark value =>
      nodeRecord "boolean" mark [("value", .boolean value)]
  | .string mark value =>
      nodeRecord "string" mark [("value", .string value)]
  | .unary mark operator right =>
      nodeRecord "prefix" mark [
        ("operator", .string operator),
        ("right", outline right)]
  | .binary mark left operator right =>
      nodeRecord "infix" mark [
        ("left", outline left),
        ("operator", .string operator),
        ("right", outline right)]
  | .ifThen mark condition consequence =>
      nodeRecord "if" mark [
        ("condition", outline condition),
        ("consequence", outline consequence),
        ("alternative", .null)]
  | .ifElse mark condition consequence alternative =>
      nodeRecord "if" mark [
        ("condition", outline condition),
        ("consequence", outline consequence),
        ("alternative", outline alternative)]
  | .function mark parameters body =>
      nodeRecord "function" mark [
        ("parameters", .list (outlines parameters)),
        ("body", outline body)]
  | .call mark callee arguments =>
      nodeRecord "call" mark [
        ("function", outline callee),
        ("arguments", .list (outlines arguments))]
  | .letStatement mark name value =>
      nodeRecord "let" mark [
        ("name", outline name),
        ("value", outline value)]
  | .returnStatement mark value =>
      nodeRecord "return" mark [("return_value", outline value)]
  | .expressionStatement mark expression =>
      nodeRecord "expression_statement" mark [
        ("expression", outline expression)]
  | .block mark statements =>
      nodeRecord "block" mark [("statements", .list (outlines statements))]
  | .program statements =>
      .record [
        ("kind", .string "program"),
        ("statements", .list (outlines statements))]
  | .unknown kind => .record [("kind", .string kind)]

def outlines
    (nodes : List Node) :
    List Document :=
  match nodes with
  | [] => []
  | node :: rest => outline node :: outlines rest

end

end Node

end MonkeyLang
