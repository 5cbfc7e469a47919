import MonkeyLang.Repl.Reader
import MonkeyLang.Repl.Session

/-
  This file defines whole interactive sessions: prompts, lines
  and what is shown in answer to them.

  Key definitions include:
    * `Dialogue`            (a session that waits for a line)
    * `Dialogue.feed`       (the answer to one line)
    * `Dialogue.courseOf`   (the answers to all lines)
    * `Course.text`         (all that is shown)
-/

------------------------------------------------------------
-- One Line
------------------------------------------------------------

namespace MonkeyLang

/- A session that waits for a line of an input. -/
structure Dialogue where
  session : Session
  reader : Reader

/- What follows a line: the session goes on, or was left, or never answers. -/
inductive Sequel where
  | goesOn (dialogue : Dialogue)
  | left
  | stuck

/- The answer to a line: what is shown, and what follows. -/
structure Answer where
  notices : List Notice
  sequel : Sequel

namespace Dialogue

def greeting : String :=
  "Monkey REPL. Type 'exit' or 'quit' to leave.\n"

def farewell : String :=
  "Exiting Monkey REPL.\n"

def start
    (showTree showTokens : Bool) :
    Dialogue :=
  ⟨Session.start showTree showTokens, Reader.fresh⟩

def prompt
    (dialogue : Dialogue) :
    String :=
  dialogue.reader.prompt

def answerTo
    (dialogue : Dialogue)
    (evaluator : Evaluator)
    (input : Input) :
    Answer :=
  match input with
  | .leave => ⟨[], .left⟩
  | .source text =>
      match dialogue.session.submit evaluator text with
      | some (notices, session) => ⟨notices, .goesOn ⟨session, Reader.fresh⟩⟩
      | none => ⟨[], .stuck⟩

def feed
    (dialogue : Dialogue)
    (evaluator : Evaluator)
    (line : String) :
    Answer :=
  match dialogue.reader.feed line with
  | .complete input => dialogue.answerTo evaluator input
  | .incomplete reader => ⟨[], .goesOn ⟨dialogue.session, reader⟩⟩

------------------------------------------------------------
-- All Lines
------------------------------------------------------------

/- A prompt, the line that was typed, and what was shown then. -/
structure Exchange where
  prompt : String
  line : String
  notices : List Notice

/- How lines stop coming: the input is at its end, or is interrupted. -/
inductive Stop where
  | endOfInput
  | interrupt
deriving DecidableEq

/- How a session ended: it was left, or the lines stopped at a prompt. -/
inductive Ending where
  | left
  | stopped (prompt : String) (stop : Stop)
deriving DecidableEq

/- A whole session: what happened, how it ended, and its last state. -/
structure Course where
  exchanges : List Exchange
  ending : Ending
  session : Session

/-
  The course of a session when the given lines are typed and
  then no more come. There is none if an evaluation does not
  end.
-/
def courseOf
    (dialogue : Dialogue)
    (evaluator : Evaluator)
    (lines : List String)
    (stop : Stop) :
    Option Course :=
  match lines with
  | [] => some ⟨[], .stopped dialogue.prompt stop, dialogue.session⟩
  | line :: rest =>
      let answer := dialogue.feed evaluator line
      let exchange := ⟨dialogue.prompt, line, answer.notices⟩
      match answer.sequel with
      | .goesOn next =>
          (next.courseOf evaluator rest stop).map fun course =>
            { course with exchanges := exchange :: course.exchanges }
      | .left => some ⟨[exchange], .left, dialogue.session⟩
      | .stuck => none

/- What an exchange shows. The line itself is not shown. -/
def Exchange.text
    (exchange : Exchange) :
    String :=
  exchange.prompt ++ String.join (exchange.notices.map Notice.text)

/-
  What the end of a session shows. If the lines stopped, for
  either reason, the farewell is on a line of its own.
-/
def Ending.text
    (ending : Ending) :
    String :=
  match ending with
  | .left => farewell
  | .stopped prompt .endOfInput => prompt ++ "\n" ++ farewell
  | .stopped prompt .interrupt => prompt ++ "\n" ++ farewell

def Course.text
    (course : Course) :
    String :=
  greeting ++ String.join (course.exchanges.map Exchange.text) ++
    course.ending.text

end Dialogue

end MonkeyLang
