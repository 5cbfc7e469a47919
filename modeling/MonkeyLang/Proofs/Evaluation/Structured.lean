import MonkeyLang.Eval.Evaluation

/-
  Evaluation with structured control. A return statement and an
  error are signals here, and no values: a signal ends all that
  is under way, a return up to the function that is being called
  or up to the program, and an error altogether. No construct
  has to look at the values of its parts.

  Main declarations:
    * `Signal`, `Control`
    * `Structured.performWith`     (trees, given what calls do)
    * `Structured.performCall`     (calls)
    * `Structured.evaluate`
    * `Node.returnSafe`            (trees that return where they may)
-/

------------------------------------------------------------
-- Signals
------------------------------------------------------------

namespace MonkeyLang

/- What ends an evaluation early: a returned value or an error. -/
inductive Signal where
  | returning (value : Value)
  | failing (message : String)

/- The value by which a signal is told of. -/
def Signal.value
    (signal : Signal) :
    Value :=
  match signal with
  | .returning value => .returned value
  | .failing message => .error message

/- The value by which an outcome is told of. -/
def outcomeValue
    (outcome : Except Signal Value) :
    Value :=
  match outcome with
  | .ok value => value
  | .error signal => signal.value

/- An evaluation that may end with a signal. -/
def Control
    (α : Type) :
    Type :=
  Heap → Except Halt (Except Signal α × Heap)

namespace Control

/- The evaluation that has a result and does nothing. -/
def result
    (value : α) :
    Control α :=
  fun heap => .ok (.ok value, heap)

/- The evaluation that ends with a signal. -/
def raise
    (signal : Signal) :
    Control α :=
  fun heap => .ok (.error signal, heap)

/- One evaluation, and with its result another. A signal ends both. -/
def andThen
    (action : Control α)
    (following : α → Control β) :
    Control β :=
  fun heap =>
    match action heap with
    | .error cause => .error cause
    | .ok (.error signal, heap) => .ok (.error signal, heap)
    | .ok (.ok value, heap) => following value heap

instance : Monad Control where
  pure := result
  bind := andThen

theorem bind_of_error
    {action : Control α}
    {heap : Heap}
    {cause : Halt}
    (hRun : action heap = .error cause)
    (following : α → Control β) :
    (action >>= following) heap = .error cause := by
  simp only [bind, andThen, hRun]

theorem bind_of_signal
    {action : Control α}
    {heap after : Heap}
    {signal : Signal}
    (hRun : action heap = .ok (.error signal, after))
    (following : α → Control β) :
    (action >>= following) heap = .ok (.error signal, after) := by
  simp only [bind, andThen, hRun]

theorem bind_of_ok
    {action : Control α}
    {heap after : Heap}
    {value : α}
    (hRun : action heap = .ok (.ok value, after))
    (following : α → Control β) :
    (action >>= following) heap = following value after := by
  simp only [bind, andThen, hRun]

/- An evaluation that ends without a signal. -/
def ofEval
    (action : Eval α) :
    Control α :=
  fun heap =>
    match action heap with
    | .error cause => .error cause
    | .ok (value, heap) => .ok (.ok value, heap)

/- A returned value is caught: it is an outcome like any other. -/
def caught
    (outcome : Except Signal Value) :
    Except Signal Value :=
  match outcome with
  | .error (.returning value) => .ok value
  | other => other

/- A returned value goes no further. -/
def delimited
    (action : Control Value) :
    Control Value :=
  fun heap =>
    match action heap with
    | .error cause => .error cause
    | .ok (outcome, heap) => .ok (caught outcome, heap)

/- An error is signalled. -/
def fail
    (error : RuntimeError) :
    Control Value :=
  raise (.failing error.message)

/- What an operator makes of its operands. It fails with an error. -/
def operation
    (value : Value) :
    Control Value :=
  match value with
  | .error message => raise (.failing message)
  | other => result other

/- The value of a name: a bound value or a built-in function. -/
def resolve
    (scope : ScopeId)
    (name : String) :
    Control Value :=
  fun heap =>
    match heap.lookup scope name with
    | some value => result value heap
    | none =>
        match Builtin.ofName? name with
        | some builtin => result (.builtin builtin) heap
        | none => fail (.identifierNotFound name) heap

end Control

------------------------------------------------------------
-- Nodes
------------------------------------------------------------

namespace Structured

mutual

/- Evaluate a tree in a scope. -/
def performWith
    (call : Value → List Value → Control Value)
    (scope : ScopeId)
    (node : Node) :
    Control Value :=
  match node with
  | .identifier id => Control.resolve scope id.name
  | .integer _ value => return .integer value
  | .boolean _ value => return .boolean value
  | .string _ value => return .string value
  | .unary _ operator operand => do
      let right ← performWith call scope operand
      Control.operation (applyUnary operator right)
  | .binary _ first operator second => do
      let left ← performWith call scope first
      let right ← performWith call scope second
      Control.operation (applyBinary operator left right)
  | .ifThen _ condition consequence => do
      let value ← performWith call scope condition
      if value.truthy then
        performWith call scope consequence
      else
        return .null
  | .ifElse _ condition consequence alternative => do
      let value ← performWith call scope condition
      if value.truthy then
        performWith call scope consequence
      else
        performWith call scope alternative
  | .function _ parameters body =>
      Control.ofEval (Eval.makeFunction parameters body scope)
  | .call _ callee arguments => do
      let function ← performWith call scope callee
      let values ← performArguments call scope arguments
      call function values
  | .letStatement _ name expression => do
      let value ← performWith call scope expression
      let label ← Control.ofEval (Eval.labelOf name)
      Control.ofEval (Eval.bindLabel scope label value)
      return .null
  | .returnStatement _ expression => do
      let value ← performWith call scope expression
      Control.raise (.returning value)
  | .expressionStatement _ expression =>
      performWith call scope expression
  | .block _ statements => performSequence call scope .null statements
  | .program statements =>
      (performSequence call scope .null statements).delimited
  | .unknown kind => Control.ofEval (Eval.halt (.unknownNode kind))

/- Evaluate statements in order. The result is that of the last. -/
def performSequence
    (call : Value → List Value → Control Value)
    (scope : ScopeId)
    (last : Value)
    (statements : List Node) :
    Control Value :=
  match statements with
  | [] => return last
  | statement :: rest => do
      let value ← performWith call scope statement
      performSequence call scope value rest

/- Evaluate arguments in order. -/
def performArguments
    (call : Value → List Value → Control Value)
    (scope : ScopeId)
    (arguments : List Node) :
    Control (List Value) :=
  match arguments with
  | [] => return []
  | argument :: rest => do
      let value ← performWith call scope argument
      let values ← performArguments call scope rest
      return value :: values

end

/-
  Call a function with arguments, and nest calls at most to a
  depth. A returned value is the value of the call.
-/
def performCall
    (depth : Nat)
    (function : Value)
    (arguments : List Value) :
    Control Value :=
  match depth with
  | 0 => Control.ofEval (Eval.halt .outOfDepth)
  | depth + 1 =>
      match function with
      | .function _ parameters body scope =>
          if arguments.length = parameters.length then do
            let labels ← Control.ofEval (Eval.labelsOf parameters)
            let inner ←
              Control.ofEval
                (Eval.enterScope scope (labels.zip arguments))
            (performWith (performCall depth) inner body).delimited
          else
            Control.fail (.wrongArgumentCount
              arguments.length parameters.length)
      | .builtin builtin => Control.operation (builtin.apply arguments)
      | other => Control.fail (.notAFunction other.typeName)

/- Evaluate a tree in a scope, and nest calls at most to a depth. -/
def evaluate
    (depth : Nat)
    (scope : ScopeId)
    (node : Node) :
    Control Value :=
  performWith (performCall depth) scope node

end Structured

------------------------------------------------------------
-- Where a Tree Returns
------------------------------------------------------------

namespace Node

mutual

/-
  Whether return statements stand in a tree only where a
  statement may: not in the value of a let or return statement,
  in an operand, in a condition, in a callee or in an argument.
  The body of a function is a place for statements again.
-/
def returnSafe
    (allowed : Bool)
    (node : Node) :
    Bool :=
  match node with
  | .returnStatement _ value => allowed && returnSafe false value
  | .letStatement _ _ value => returnSafe false value
  | .unary _ _ right => returnSafe false right
  | .binary _ left _ right =>
      returnSafe false left && returnSafe false right
  | .ifThen _ condition consequence =>
      returnSafe false condition && returnSafe allowed consequence
  | .ifElse _ condition consequence alternative =>
      returnSafe false condition && returnSafe allowed consequence &&
        returnSafe allowed alternative
  | .function _ _ body => returnSafe true body
  | .call _ callee arguments =>
      returnSafe false callee && allReturnSafe false arguments
  | .expressionStatement _ expression => returnSafe allowed expression
  | .block _ statements => allReturnSafe allowed statements
  | .program statements => allReturnSafe allowed statements
  | .identifier _ => true
  | .integer _ _ => true
  | .boolean _ _ => true
  | .string _ _ => true
  | .unknown _ => true

/- Whether return statements stand in some trees only where they may. -/
def allReturnSafe
    (allowed : Bool)
    (nodes : List Node) :
    Bool :=
  match nodes with
  | [] => true
  | node :: rest => returnSafe allowed node && allReturnSafe allowed rest

end

end Node

end MonkeyLang
