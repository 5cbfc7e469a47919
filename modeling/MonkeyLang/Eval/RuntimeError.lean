import MonkeyLang.Eval.Value

/-
  This file defines the errors of running programs.

  Key definitions include:
    * `RuntimeError`
    * `RuntimeError.message`   (the wording)
    * `RuntimeError.value`     (the error as a value)
-/

------------------------------------------------------------
-- Runtime Errors
------------------------------------------------------------

namespace MonkeyLang

/- What can go wrong when a program runs. Types are given by name. -/
inductive RuntimeError where
  | identifierNotFound (name : String)
  | unknownUnary (operator type : String)
  | unknownBinary (left operator right : String)
  | typeMismatch (left operator right : String)
  | divisionByZero
  | notAFunction (type : String)
  | wrongArgumentCount (given wanted : Nat)
  | unsupportedArgument (function type : String)
deriving DecidableEq

namespace RuntimeError

def message
    (error : RuntimeError) :
    String :=
  match error with
  | .identifierNotFound name => "identifier not found: " ++ name
  | .unknownUnary operator type =>
      "unknown operator: " ++ operator ++ type
  | .unknownBinary left operator right =>
      "unknown operator: " ++ left ++ " " ++ operator ++ " " ++ right
  | .typeMismatch left operator right =>
      "type mismatch: " ++ left ++ " " ++ operator ++ " " ++ right
  | .divisionByZero => "division by zero"
  | .notAFunction type => "not a function: " ++ type
  | .wrongArgumentCount given wanted =>
      "wrong number of arguments. got=" ++ toString given ++
        ", want=" ++ toString wanted
  | .unsupportedArgument function type =>
      "argument to `" ++ function ++ "` not supported, got " ++ type

def value
    (error : RuntimeError) :
    Value :=
  .error error.message

end RuntimeError

end MonkeyLang
