import MonkeyLang.Node.Outline
import MonkeyLang.Repl.Session

/-
  This file defines how one program is run from beginning to
  end: from its source to what is printed and the exit status.

  Key definitions include:
    * `Display`            (what is printed besides the result)
    * `Files`, `loadSource`  (programs in files)
    * `Failure`            (why nothing was run)
    * `runText`            (run a source text)
    * `runScript`          (run a source text or a file)
-/

------------------------------------------------------------
-- Outcomes
------------------------------------------------------------

namespace MonkeyLang

namespace CommandLine

/- What is printed besides the result. -/
structure Display where
  tokens : Bool
  tree : Bool
  pretty : Bool

/- What a command prints, and its exit status, if it sets one. -/
structure Outcome where
  status? : Option Nat
  output : String
  errors : String

/- Why a command has no outcome. -/
inductive Failure where
  | notAProgramFile
  | impossibleName
  | missingFile (name : String)
  | undecodable
  | halted (halt : Halt)
deriving DecidableEq

def Failure.message?
    (failure : Failure) :
    Option String :=
  match failure with
  | .notAProgramFile => some "Only .monkey files are supported."
  | .impossibleName => some "embedded null byte"
  | .missingFile name =>
      some ("[Errno 2] No such file or directory: " ++ Text.quoted name)
  | .undecodable => none
  | .halted halt => some halt.message

------------------------------------------------------------
-- Sources
------------------------------------------------------------

/- The contents of files, by their names. -/
abbrev Files : Type :=
  String → Option ByteArray

def fileEnding : String :=
  ".monkey"

/-
  The source that a file holds: UTF-8 text in which every line
  end counts as a line feed. No file has a null character in
  its name.
-/
def loadSource
    (files : Files)
    (name : String) :
    Except Failure String :=
  if !fileEnding.toList.isSuffixOf name.toList then
    .error .notAProgramFile
  else if name.toList.contains '\x00' then
    .error .impossibleName
  else
    match files name with
    | none => .error (.missingFile name)
    | some bytes =>
        match String.fromUTF8? bytes with
        | none => .error .undecodable
        | some text => .ok (String.ofList (Text.unifyLineEnds text.toList))

------------------------------------------------------------
-- Sections
------------------------------------------------------------

/- A ruled heading. -/
def heading
    (title : String) :
    String :=
  let rule := String.ofList (List.replicate 20 '=')
  rule ++ "\n" ++ title ++ "\n" ++ rule ++ "\n"

/- A section of the output, with its heading if it is to be pretty. -/
def sectionText
    (shown pretty : Bool)
    (title body : String) :
    String :=
  if shown then
    (if pretty then heading title else "") ++ body
  else
    ""

/- The section that shows tokens, one on a line. -/
def tokenSection
    (display : Display)
    (tokens : List Token) :
    String :=
  sectionText display.tokens display.pretty "Tokens"
    (String.join (tokens.map fun token => token.text ++ "\n"))

def treeSection
    (display : Display)
    (program : Node) :
    String :=
  sectionText display.tree display.pretty "AST"
    (program.outline.text ++ "\n")

def resultHeading
    (display : Display) :
    String :=
  if display.pretty then
    "<<< OUTPUT >>>\n"
  else
    ""

------------------------------------------------------------
-- Running
------------------------------------------------------------

/-
  The outcome of a program with a value. An error is reported
  apart from the output, and a null result is not shown.
-/
def outcomeOf
    (sections : String)
    (value : Value) :
    Outcome :=
  match value with
  | .error message => ⟨some 1, sections, "[error] >>> " ++ message ++ "\n"⟩
  | .null => ⟨some 0, sections, ""⟩
  | other => ⟨some 0, sections ++ other.text ++ "\n", ""⟩

/-
  Run a source text. With syntax errors nothing is evaluated.
-/
def runText
    (evaluator : Evaluator)
    (display : Display)
    (source : String) :
    Except Failure Outcome :=
  let tokens := tokenize source
  let parsed := parseTokens tokens
  let shown := tokenSection display tokens
  if parsed.errors.isEmpty then
    match evaluator parsed.program Heap.initial with
    | .ok (value, _) =>
        .ok (outcomeOf
          (shown ++ treeSection display parsed.program ++ resultHeading display)
          value)
    | .error halt => .error (.halted halt)
  else
    .ok ⟨some 1, shown, syntaxErrorsText parsed.errors⟩

/- Run a source text, or the program in a file. -/
def runScript
    (evaluator : Evaluator)
    (files : Files)
    (isString : Bool)
    (display : Display)
    (source : String) :
    Except Failure Outcome :=
  if isString then
    runText evaluator display source
  else
    match loadSource files source with
    | .error failure => .error failure
    | .ok text => runText evaluator display text

end CommandLine

end MonkeyLang
