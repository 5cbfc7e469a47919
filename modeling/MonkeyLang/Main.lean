import MonkeyLang.CommandLine.Command

/-
  This file holds the command itself: it reads files and lines
  of input, writes what is shown, and leaves all decisions to
  the plan that the arguments make.

  Key definitions include:
    * `main`
-/

------------------------------------------------------------
-- Evaluation
------------------------------------------------------------

namespace MonkeyLang

namespace CommandLine

/- How deep calls may nest. -/
def callDepth : Nat := 1000000000

def globalEvaluator : Evaluator :=
  evaluate callDepth Heap.globalScope

------------------------------------------------------------
-- Input and Output
------------------------------------------------------------

/- The next line of the input without its line feed, or none at its end. -/
def readLine
    (input : IO.FS.Stream) :
    IO (Option String) := do
  let line ← input.getLine
  if line.isEmpty then
    return none
  else
    return some ((line.dropEndWhile (· == '\n')).toString)

/- Write what an outcome shows, and return its exit status. -/
def finish
    (result : Except Failure Outcome) :
    IO UInt32 := do
  match result with
  | .ok outcome =>
      IO.print outcome.output
      IO.eprint outcome.errors
      return (outcome.status?.getD 0).toUInt32
  | .error failure =>
      IO.eprintln (failure.message?.getD "the file is not UTF-8 text")
      return 1

/- Hold an interactive session, line by line. -/
partial def talk
    (dialogue : Dialogue)
    (input output : IO.FS.Stream) :
    IO UInt32 := do
  output.putStr dialogue.prompt
  output.flush
  match ← readLine input with
  | none =>
      output.putStr ("\n" ++ Dialogue.farewell)
      return 0
  | some line =>
      let answer := dialogue.feed globalEvaluator line
      output.putStr (String.join (answer.notices.map Notice.text))
      match answer.sequel with
      | .goesOn next => talk next input output
      | .left =>
          output.putStr Dialogue.farewell
          return 0
      | .stuck => finish (.error (.halted .outOfDepth))

/- The contents of a file, or none if it cannot be read. -/
def readContents
    (name : String) :
    IO (Option ByteArray) := do
  try
    return some (← IO.FS.readBinFile name)
  catch _ =>
    return none

------------------------------------------------------------
-- The Command
------------------------------------------------------------

def perform
    (plan : Plan) :
    IO UInt32 := do
  match plan with
  | .help => finish (.ok ⟨some 0, help, ""⟩)
  | .reject misuse => finish (.ok ⟨some 2, "", misuseText misuse⟩)
  | .interact showTree showTokens =>
      IO.print Dialogue.greeting
      talk (Dialogue.start showTree showTokens) (← IO.getStdin) (← IO.getStdout)
  | .run isString display source =>
      let contents ← if isString then pure none else readContents source
      finish (runScript globalEvaluator (fun _ => contents) isString display source)

end CommandLine

end MonkeyLang

def main
    (arguments : List String) :
    IO UInt32 :=
  MonkeyLang.CommandLine.perform (MonkeyLang.CommandLine.planOf arguments)
