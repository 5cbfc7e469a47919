import MonkeyLang.CommandLine.Arguments
import MonkeyLang.CommandLine.Script
import MonkeyLang.Repl.Dialogue

/-
  This file defines the whole command: its arguments decide
  between help, an interactive session and running a program.

  Key definitions include:
    * `Plan`      (what the command is to do)
    * `planOf`    (the plan that the arguments make)
    * `execute`   (the outcome of the command)
-/

------------------------------------------------------------
-- Plans
------------------------------------------------------------

namespace MonkeyLang

namespace CommandLine

/- What the command is to do. -/
inductive Plan where
  | help
  | reject (misuse : Misuse)
  | interact (showTree showTokens : Bool)
  | run (isString : Bool) (display : Display) (source : String)

/-
  The plan that the arguments make. There is an interactive
  session if it is asked for, or if there is no source.
-/
def planOf
    (arguments : List String) :
    Plan :=
  match understand arguments with
  | .help => .help
  | .misuse misuse => .reject misuse
  | .settings settings =>
      match settings.repl, settings.source with
      | false, some source =>
          .run settings.isString
            ⟨settings.showTokens, settings.showTree, settings.pretty⟩ source
      | _, _ => .interact settings.verbose settings.showTokens

def misuseText
    (misuse : Misuse) :
    String :=
  usage ++ "monkey: error: " ++ misuse.message ++ "\n"

------------------------------------------------------------
-- Execution
------------------------------------------------------------

def interact
    (evaluator : Evaluator)
    (showTree showTokens : Bool)
    (lines : List String)
    (stop : Dialogue.Stop := .endOfInput) :
    Except Failure Outcome :=
  match
    (Dialogue.start showTree showTokens).courseOf evaluator lines stop
  with
  | some course => .ok ⟨none, course.text, ""⟩
  | none => .error (.halted .outOfDepth)

def execute
    (evaluator : Evaluator)
    (files : Files)
    (arguments : List String)
    (lines : List String)
    (stop : Dialogue.Stop := .endOfInput) :
    Except Failure Outcome :=
  match planOf arguments with
  | .help => .ok ⟨some 0, help, ""⟩
  | .reject misuse => .ok ⟨some 2, "", misuseText misuse⟩
  | .interact showTree showTokens =>
      interact evaluator showTree showTokens lines stop
  | .run isString display source =>
      runScript evaluator files isString display source

end CommandLine

end MonkeyLang
