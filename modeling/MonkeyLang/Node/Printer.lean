import MonkeyLang.Node.Basic
import MonkeyLang.Text.Layout

/-
  This file defines how syntax trees are written as source
  text. Operators are fully parenthesised, so that the text
  reads back as the same tree.

  Key definitions include:
    * `Node.text`       (the text of a tree)
    * `functionText`    (a function, from its parts)
-/

------------------------------------------------------------
-- Parts
------------------------------------------------------------

namespace MonkeyLang

def parametersText
    (parameters : List String) :
    String :=
  "(" ++ Text.join ", " parameters ++ ")"

/- The text of a function that begins with a word. -/
def functionText
    (word : String)
    (parameters : List String)
    (body : String) :
    String :=
  word ++ parametersText parameters ++ " " ++ body

def blockText
    (statements : List String) :
    String :=
  match statements with
  | [] => Text.braced " "
  | _ => Text.braced (" " ++ Text.join "; " statements ++ " ")

------------------------------------------------------------
-- Trees
------------------------------------------------------------

namespace Node

mutual

def text
    (node : Node) :
    String :=
  match node with
  | .identifier id => id.name
  | .integer mark _ => mark.literal
  | .boolean mark _ => mark.literal
  | .string _ value => "\"" ++ value ++ "\""
  | .unary _ operator right => "(" ++ operator ++ text right ++ ")"
  | .binary _ left operator right =>
      "(" ++ text left ++ " " ++ operator ++ " " ++ text right ++ ")"
  | .ifThen _ condition consequence =>
      "if (" ++ text condition ++ ") " ++ text consequence
  | .ifElse _ condition consequence alternative =>
      "if (" ++ text condition ++ ") " ++ text consequence ++
        " else " ++ text alternative
  | .function mark parameters body =>
      functionText mark.literal (texts parameters) (text body)
  | .call _ callee arguments =>
      text callee ++ "(" ++ Text.join ", " (texts arguments) ++ ")"
  | .letStatement mark name value =>
      mark.literal ++ " " ++ text name ++ " = " ++ text value
  | .returnStatement mark value => mark.literal ++ " " ++ text value
  | .expressionStatement _ expression => text expression
  | .block _ statements => blockText (texts statements)
  | .program statements => Text.join "; " (texts statements)
  | .unknown _ => ""

def texts
    (nodes : List Node) :
    List String :=
  match nodes with
  | [] => []
  | node :: rest => text node :: texts rest

end

end Node

end MonkeyLang
