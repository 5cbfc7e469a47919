import MonkeyLang.Eval.Heap
import MonkeyLang.Eval.Operator

/-
  This file defines how trees are evaluated.

  The value of a return statement and an error travel outward
  as values: every construct looks at the values of its parts
  and stops at the first that is an error, and a sequence of
  statements also stops at a returned value.

  A program may call functions without end. The depth of calls
  is therefore an explicit bound; an evaluation that needs more
  has no value.

  Key definitions include:
    * `Halt`            (why there is no value)
    * `Eval`            (what evaluating does to the heap)
    * `evaluateWith`    (evaluation, given what calls do)
    * `applyWithin`     (calls)
    * `evaluate`
-/

------------------------------------------------------------
-- Evaluations
------------------------------------------------------------

namespace MonkeyLang

/-
  Why an evaluation ends without a value: it met a node that is
  not part of the language, or one in the place of a name that
  has no label; the host failed; or it called functions too
  deeply.
-/
inductive Halt where
  | unknownNode (kind : String)
  | nameless (kind : String)
  | hostFault (message : String)
  | outOfDepth
deriving DecidableEq

def Halt.message
    (halt : Halt) :
    String :=
  match halt with
  | .unknownNode kind => "No evaluator for AST kind: " ++ kind
  | .nameless kind => "No name in AST kind: " ++ kind
  | .hostFault message => message
  | .outOfDepth => "calls nest too deeply"

def Halt.className
    (halt : Halt) :
    String :=
  match halt with
  | .unknownNode _ => "NotImplementedError"
  | .nameless _ => "NamelessNode"
  | .hostFault _ => "RuntimeError"
  | .outOfDepth => "CallDepthExceeded"

/- An evaluation: it changes the heap, and has a result or halts. -/
def Eval
    (α : Type) :
    Type :=
  Heap → Except Halt (α × Heap)

namespace Eval

/- The evaluation that has a result and does nothing. -/
@[inline]
def result
    (value : α) :
    Eval α :=
  fun heap => .ok (value, heap)

def halt
    (cause : Halt) :
    Eval α :=
  fun _ => .error cause

/- One evaluation, and with its result another. A halt ends both. -/
@[inline]
def andThen
    (action : Eval α)
    (following : α → Eval β) :
    Eval β :=
  fun heap =>
    match action heap with
    | .ok (value, heap) => following value heap
    | .error cause => .error cause

instance : Monad Eval where
  pure := result
  bind := andThen

/- What a call of a function with arguments does. -/
abbrev Call : Type :=
  Value → List Value → Eval Value

/- The value of a name: a bound value or a built-in function. -/
def resolve
    (scope : ScopeId)
    (name : String) :
    Eval Value :=
  fun heap =>
    match heap.lookup scope name with
    | some value => .ok (value, heap)
    | none =>
        match Builtin.ofName? name with
        | some builtin => .ok (.builtin builtin, heap)
        | none => .ok ((RuntimeError.identifierNotFound name).value, heap)

/- The label of a node that stands in the place of a name. -/
def labelOf
    (node : Node) :
    Eval Label :=
  match node.label? with
  | some label => result label
  | none => halt (.nameless node.kind)

def labelsOf
    (nodes : List Node) :
    Eval (List Label) :=
  match nodes with
  | [] => return []
  | node :: rest => do
      let label ← labelOf node
      let labels ← labelsOf rest
      return label :: labels

def bindLabel
    (scope : ScopeId)
    (label : Label)
    (value : Value) :
    Eval Unit :=
  fun heap => .ok ((), heap.bind scope label value)

/- Make a scope inside another that binds some labels. -/
def enterScope
    (outer : ScopeId)
    (bindings : List (Label × Value)) :
    Eval ScopeId :=
  fun heap => .ok (heap.newScope (some outer) bindings)

def makeFunction
    (parameters : List Node)
    (body : Node)
    (scope : ScopeId) :
    Eval Value :=
  fun heap =>
    match heap.newFunction with
    | (number, heap) =>
        .ok (.function number parameters body scope, heap)

end Eval

------------------------------------------------------------
-- Nodes
------------------------------------------------------------

mutual

def evaluateWith
    (call : Eval.Call)
    (scope : ScopeId)
    (node : Node) :
    Eval Value :=
  match node with
  | .identifier id => Eval.resolve scope id.name
  | .integer _ value => return .integer value
  | .boolean _ value => return .boolean value
  | .string _ value => return .string value
  | .unary _ operator operand => do
      let right ← evaluateWith call scope operand
      if right.isError then
        return right
      else
        return applyUnary operator right
  | .binary _ first operator second => do
      let left ← evaluateWith call scope first
      if left.isError then
        return left
      else
        let right ← evaluateWith call scope second
        if right.isError then
          return right
        else
          return applyBinary operator left right
  | .ifThen _ condition consequence => do
      let value ← evaluateWith call scope condition
      if value.isError then
        return value
      else if value.truthy then
        evaluateWith call scope consequence
      else
        return .null
  | .ifElse _ condition consequence alternative => do
      let value ← evaluateWith call scope condition
      if value.isError then
        return value
      else if value.truthy then
        evaluateWith call scope consequence
      else
        evaluateWith call scope alternative
  | .function _ parameters body => Eval.makeFunction parameters body scope
  | .call _ callee arguments => do
      let function ← evaluateWith call scope callee
      if function.isError then
        return function
      else
        match ← evaluateArguments call scope arguments with
        | .error failure => return failure
        | .ok values => call function values
  | .letStatement _ name expression => do
      let value ← evaluateWith call scope expression
      if value.isError then
        return value
      else
        let label ← Eval.labelOf name
        Eval.bindLabel scope label value
        return .null
  | .returnStatement _ expression => do
      let value ← evaluateWith call scope expression
      if value.isError then
        return value
      else
        return .returned value
  | .expressionStatement _ expression => evaluateWith call scope expression
  | .block _ statements => evaluateSequence call scope .null statements
  | .program statements => do
      let value ← evaluateSequence call scope .null statements
      return value.unwrapped
  | .unknown kind => Eval.halt (.unknownNode kind)

/-
  Evaluate statements in order, up to the first whose value is
  returned or an error. The value is that of the last statement
  evaluated, or a given one if there are none.
-/
def evaluateSequence
    (call : Eval.Call)
    (scope : ScopeId)
    (last : Value)
    (statements : List Node) :
    Eval Value :=
  match statements with
  | [] => return last
  | statement :: rest => do
      let value ← evaluateWith call scope statement
      if value.endsSequence then
        return value
      else
        evaluateSequence call scope value rest

/-
  Evaluate arguments in order, up to the first that is an
  error. The result is their values, or that error.
-/
def evaluateArguments
    (call : Eval.Call)
    (scope : ScopeId)
    (arguments : List Node) :
    Eval (Except Value (List Value)) :=
  match arguments with
  | [] => return .ok []
  | argument :: rest => do
      let value ← evaluateWith call scope argument
      if value.isError then
        return .error value
      else
        match ← evaluateArguments call scope rest with
        | .error failure => return .error failure
        | .ok values => return .ok (value :: values)

end

------------------------------------------------------------
-- Calls
------------------------------------------------------------

/-
  Call a function with arguments, and nest calls at most to a
  depth. A function of the program is evaluated in a new scope
  inside the scope it was made in, where its parameters are
  bound in order.
-/
def applyWithin
    (depth : Nat)
    (function : Value)
    (arguments : List Value) :
    Eval Value :=
  match depth with
  | 0 => Eval.halt .outOfDepth
  | depth + 1 =>
      match function with
      | .function _ parameters body scope =>
          if arguments.length = parameters.length then do
            let labels ← Eval.labelsOf parameters
            let inner ← Eval.enterScope scope (labels.zip arguments)
            let value ← evaluateWith (applyWithin depth) inner body
            return value.unwrapped
          else
            return (RuntimeError.wrongArgumentCount
              arguments.length parameters.length).value
      | .builtin builtin => return builtin.apply arguments
      | other => return (RuntimeError.notAFunction other.typeName).value

/- Evaluate a tree in a scope, and nest calls at most to a depth. -/
def evaluate
    (depth : Nat)
    (scope : ScopeId)
    (node : Node) :
    Eval Value :=
  evaluateWith (applyWithin depth) scope node

end MonkeyLang
