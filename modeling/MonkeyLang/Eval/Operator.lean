import MonkeyLang.Eval.RuntimeError
import MonkeyLang.Word64

/-
  This file defines what operators and built-in functions do
  with values.

  Key definitions include:
    * `BinaryOperator`
    * `applyUnary`
    * `applyBinary`
    * `Builtin.apply`
-/

------------------------------------------------------------
-- Unary Operators
------------------------------------------------------------

namespace MonkeyLang

/- The negation of an integer; no other value has one. -/
def negate
    (right : Value) :
    Value :=
  match right with
  | .integer value => .integer (Word64.wrap (-value))
  | other => (RuntimeError.unknownUnary "-" other.typeName).value

def applyUnary
    (operator : String)
    (right : Value) :
    Value :=
  if operator = "!" then
    .boolean (!right.truthy)
  else if operator = "-" then
    negate right
  else
    (RuntimeError.unknownUnary operator right.typeName).value

------------------------------------------------------------
-- Binary Operators
------------------------------------------------------------

/- The operators that stand between two operands. -/
inductive BinaryOperator where
  | add
  | subtract
  | multiply
  | divide
  | less
  | greater
  | equal
  | notEqual
deriving DecidableEq

namespace BinaryOperator

def texts : List (String × BinaryOperator) := [
  ("+", .add),
  ("-", .subtract),
  ("*", .multiply),
  ("/", .divide),
  ("<", .less),
  (">", .greater),
  ("==", .equal),
  ("!=", .notEqual) ]

def ofText?
    (text : String) :
    Option BinaryOperator :=
  texts.lookup text

end BinaryOperator

/-
  The value of an operator between integers. Results wrap
  around, and a quotient is rounded toward zero.
-/
def applyToIntegers
    (operator : String)
    (left right : Int) :
    Value :=
  match BinaryOperator.ofText? operator with
  | some .add => .integer (Word64.wrap (left + right))
  | some .subtract => .integer (Word64.wrap (left - right))
  | some .multiply => .integer (Word64.wrap (left * right))
  | some .divide =>
      if right = 0 then
        RuntimeError.divisionByZero.value
      else
        .integer (Word64.wrap (Word64.quotient left right))
  | some .less => .boolean (left < right)
  | some .greater => .boolean (right < left)
  | some .equal => .boolean (left == right)
  | some .notEqual => .boolean (left != right)
  | none =>
      (RuntimeError.unknownBinary "INTEGER" operator "INTEGER").value

def applyToStrings
    (operator : String)
    (left right : String) :
    Value :=
  match BinaryOperator.ofText? operator with
  | some .add => .string (left ++ right)
  | some .equal => .boolean (left == right)
  | some .notEqual => .boolean (left != right)
  | _ => (RuntimeError.unknownBinary "STRING" operator "STRING").value

/-
  The value of an operator between any two values: they can
  only be compared for equality.
-/
def applyToAny
    (operator : String)
    (left right : Value) :
    Value :=
  match BinaryOperator.ofText? operator with
  | some .equal => .boolean (left.equals right)
  | some .notEqual => .boolean (!left.equals right)
  | _ =>
      if left.typeName = right.typeName then
        (RuntimeError.unknownBinary
          left.typeName operator right.typeName).value
      else
        (RuntimeError.typeMismatch
          left.typeName operator right.typeName).value

def applyBinary
    (operator : String)
    (left right : Value) :
    Value :=
  match left, right with
  | .integer a, .integer b => applyToIntegers operator a b
  | .string a, .string b => applyToStrings operator a b
  | _, _ => applyToAny operator left right

------------------------------------------------------------
-- Built-in Functions
------------------------------------------------------------

/- The number of characters of a string; no other value has one. -/
def lengthOf
    (argument : Value) :
    Value :=
  match argument with
  | .string value => .integer value.length
  | other =>
      (RuntimeError.unsupportedArgument "len" other.typeName).value

def Builtin.apply
    (builtin : Builtin)
    (arguments : List Value) :
    Value :=
  match builtin.function, arguments with
  | .length, [argument] => lengthOf argument
  | .length, _ =>
      (RuntimeError.wrongArgumentCount arguments.length 1).value

end MonkeyLang
