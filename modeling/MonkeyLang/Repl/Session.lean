import MonkeyLang.Eval.Evaluation
import MonkeyLang.Parser.Program

/-
  This file defines what an interactive session does with an
  input. How programs are evaluated is a parameter.

  Key definitions include:
    * `Session`          (the heap and what is displayed)
    * `Notice`           (something that is shown)
    * `Session.submit`   (take one input)
-/

------------------------------------------------------------
-- Notices
------------------------------------------------------------

namespace MonkeyLang

abbrev Evaluator : Type :=
  Node → Eval Value

/- What a session shows. -/
inductive Notice where
  | treeMode (on : Bool)
  | tokenMode (on : Bool)
  | tokens (tokens : List Token)
  | syntaxErrors (errors : List SyntaxError)
  | tree (program : Node)
  | result (value : Value)
  | halted (halt : Halt)

def switchText
    (on : Bool) :
    String :=
  if on then
    "ON"
  else
    "OFF"

/- The report of syntax errors, one on a line. -/
def syntaxErrorsText
    (errors : List SyntaxError) :
    String :=
  "[error] >>> parser errors:\n" ++
    String.join (errors.map fun error => "\t" ++ error.message ++ "\n")

/- The line that names the cause of a halt. -/
def Halt.text
    (halt : Halt) :
    String :=
  if halt.message = "" then
    halt.className
  else
    halt.className ++ ": " ++ halt.message

/- The text of a notice. A null result is not shown. -/
def Notice.text
    (notice : Notice) :
    String :=
  match notice with
  | .treeMode on => "[mode] >>> Verbose mode " ++ switchText on ++ "\n"
  | .tokenMode on => "[mode] >>> Token display " ++ switchText on ++ "\n"
  | .tokens all =>
      "[tokens] >>> [" ++ Text.join ", " (all.map Token.text) ++ "]\n"
  | .syntaxErrors errors => syntaxErrorsText errors
  | .tree program => "[ast] >>> " ++ program.text ++ "\n"
  | .result value =>
      if value.isNull then
        ""
      else
        value.text ++ "\n"
  | .halted halt =>
      "[error] >>>\nTraceback (most recent call last):\n" ++
        halt.text ++ "\n\n"

------------------------------------------------------------
-- Sessions
------------------------------------------------------------

/-
  A session: the heap, and whether the tree and the tokens of
  every input are displayed.
-/
structure Session where
  heap : Heap
  showTree : Bool
  showTokens : Bool

namespace Session

def start
    (showTree showTokens : Bool) :
    Session :=
  ⟨Heap.initial, showTree, showTokens⟩

/-
  The small letter for a character. Apart from the capitals A
  to Z only the Kelvin sign has a small letter in ASCII.
-/
def smallLetter
    (c : Char) :
    Char :=
  if c = '\u212a' then
    'k'
  else
    c.toLower

/- Whether a text is a command word, in whatever case. -/
def isCommand
    (word text : String) :
    Bool :=
  text.toList.map smallLetter == word.toList

/- Whether a text holds nothing to run. -/
def isIdle
    (text : String) :
    Bool :=
  match text.toList with
  | [] => true
  | c :: _ => c == '#'

/-
  Evaluate a program. If the evaluation halts, the heap stays
  as it was; if it does not end, there is no result.
-/
def run
    (session : Session)
    (evaluator : Evaluator)
    (program : Node) :
    Option (List Notice × Session) :=
  match evaluator program session.heap with
  | .ok (value, heap) => some ([.result value], { session with heap := heap })
  | .error .outOfDepth => none
  | .error halt => some ([.halted halt], session)

/-
  Parse a source, and evaluate it if it has no syntax errors.
  The tokens and the tree are displayed first, if wanted.
-/
def interpret
    (session : Session)
    (evaluator : Evaluator)
    (source : String) :
    Option (List Notice × Session) :=
  let tokens := tokenize source
  let parsed := parseTokens tokens
  let display := if session.showTokens then [Notice.tokens tokens] else []
  if parsed.errors.isEmpty then
    let echo := if session.showTree then [Notice.tree parsed.program] else []
    (session.run evaluator parsed.program).map fun (notices, session) =>
      (display ++ echo ++ notices, session)
  else
    some (display ++ [.syntaxErrors parsed.errors], session)

/-
  Take one input: nothing to run, a command that switches a
  display, or source text. There is no result if an evaluation
  does not end.
-/
def submit
    (session : Session)
    (evaluator : Evaluator)
    (source : String) :
    Option (List Notice × Session) :=
  if isIdle source then
    some ([], session)
  else if isCommand "verbose-mode" source then
    let on := !session.showTree
    some ([.treeMode on], { session with showTree := on })
  else if isCommand "tokens-mode" source then
    let on := !session.showTokens
    some ([.tokenMode on], { session with showTokens := on })
  else
    session.interpret evaluator source

end Session

end MonkeyLang
