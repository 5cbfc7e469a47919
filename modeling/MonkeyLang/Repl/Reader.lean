import MonkeyLang.Text.Layout
import MonkeyLang.Token.Lexer

/-
  This file defines how an interactive session reads its
  inputs: one line at a time, and on as long as a brace is
  open.

  Key definitions include:
    * `braceBalance`     (braces that a line opens)
    * `Reader.feed`      (what one more line makes of an input)
    * `Reader.read`      (read one input)
    * `readInputs`       (read several inputs)
-/

------------------------------------------------------------
-- Braces
------------------------------------------------------------

namespace MonkeyLang

/- What a token adds to the number of open braces. -/
def Token.braceWeight
    (token : Token) :
    Int :=
  match token.kind with
  | .lbrace => 1
  | .rbrace => -1
  | _ => 0

/- How many more braces a text opens than it closes. -/
def braceBalance
    (text : String) :
    Int :=
  ((tokenize text).map Token.braceWeight).foldr (· + ·) 0

------------------------------------------------------------
-- One Line
------------------------------------------------------------

/- An input: a wish to leave, or source text. -/
inductive Input where
  | leave
  | source (text : String)
deriving DecidableEq

/-
  What has been read of an input: its lines, the first one
  first, and the number of braces that are open.
-/
structure Reader where
  lines : List String
  openBraces : Int

/- What a line makes of an input: it ends the input, or it does not. -/
inductive Reading where
  | complete (input : Input)
  | incomplete (reader : Reader)

namespace Reader

def fresh : Reader :=
  ⟨[], 0⟩

def prompt
    (reader : Reader) :
    String :=
  if reader.lines.isEmpty then
    ">> "
  else
    ".. "

def isFarewell
    (line : String) :
    Bool :=
  Text.trim line = "exit" || Text.trim line = "quit"

/-
  Take one more line. Only a first line can ask to leave. The
  input is complete once no brace is open.
-/
def feed
    (reader : Reader)
    (line : String) :
    Reading :=
  if reader.lines.isEmpty && isFarewell line then
    .complete .leave
  else
    let lines := reader.lines ++ [line]
    let openBraces := reader.openBraces + braceBalance line
    if openBraces ≤ 0 then
      .complete (.source (Text.trim (Text.join "\n" lines)))
    else
      .incomplete ⟨lines, openBraces⟩

end Reader

------------------------------------------------------------
-- Several Lines
------------------------------------------------------------

/-
  What comes of reading an input: the prompts shown, the input,
  or none if the lines ended before, and the lines left.
-/
structure Readout where
  prompts : String
  input? : Option Input
  rest : List String

def Reader.read
    (reader : Reader)
    (lines : List String) :
    Readout :=
  match lines with
  | [] => ⟨reader.prompt, none, []⟩
  | line :: rest =>
      match reader.feed line with
      | .complete input => ⟨reader.prompt, some input, rest⟩
      | .incomplete next =>
          let readout := next.read rest
          ⟨reader.prompt ++ readout.prompts, readout.input?, readout.rest⟩

/-
  Read a number of inputs: the prompts shown, and the inputs,
  or none if the lines ended before.
-/
def readInputs
    (count : Nat)
    (lines : List String) :
    String × Option (List Input) :=
  match count with
  | 0 => ("", some [])
  | count + 1 =>
      let readout := Reader.fresh.read lines
      match readout.input? with
      | none => (readout.prompts, none)
      | some input =>
          let (prompts, inputs?) := readInputs count readout.rest
          (readout.prompts ++ prompts, inputs?.map (input :: ·))

end MonkeyLang
