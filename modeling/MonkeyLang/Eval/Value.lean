import MonkeyLang.Node.Printer

/-
  This file defines the values of the language.

  Key definitions include:
    * `Value`
    * `Value.typeName`   (the name of a value's type)
    * `Value.text`       (how a value is shown)
    * `Value.truthy`     (which values count as true)
    * `Value.equals`     (equality of values)
-/

------------------------------------------------------------
-- Built-in Functions
------------------------------------------------------------

namespace MonkeyLang

/- What the functions do that are known without a definition. -/
inductive HostFunction where
  | length
deriving DecidableEq

structure Builtin where
  name : String
  function : HostFunction
deriving DecidableEq

namespace Builtin

/- The built-in functions, in a table that no program changes. -/
def all : List Builtin := [⟨"len", .length⟩]

def ofName?
    (name : String) :
    Option Builtin :=
  all.find? fun builtin => builtin.name = name

end Builtin

------------------------------------------------------------
-- Values
------------------------------------------------------------

/- Scopes are known by numbers. -/
abbrev ScopeId : Type := Nat

/-
  The values of the language. The value of a return statement
  is wrapped until it reaches the end of a function or of a
  program. An error is a value too. A function has a number of
  its own, and knows the scope it was made in.
-/
inductive Value where
  | integer (value : Int)
  | boolean (value : Bool)
  | string (value : String)
  | null
  | returned (value : Value)
  | error (message : String)
  | function
      (number : Nat)
      (parameters : List Node)
      (body : Node)
      (scope : ScopeId)
  | builtin (builtin : Builtin)

namespace Value

def typeName
    (value : Value) :
    String :=
  match value with
  | .integer _ => "INTEGER"
  | .boolean _ => "BOOLEAN"
  | .string _ => "STRING"
  | .null => "NULL"
  | .returned _ => "RETURN_VALUE"
  | .error _ => "ERROR"
  | .function _ _ _ _ => "FUNCTION"
  | .builtin _ => "BUILTIN"

def text
    (value : Value) :
    String :=
  match value with
  | .integer value => toString value
  | .boolean true => "true"
  | .boolean false => "false"
  | .string value => value
  | .null => "null"
  | .returned value => text value
  | .error message => "ERROR: " ++ message
  | .function _ parameters body _ =>
      functionText "fn" (Node.texts parameters) body.text
  | .builtin host => "builtin function " ++ host.name

/- Every value counts as true, apart from null and false. -/
def truthy
    (value : Value) :
    Bool :=
  match value with
  | .null => false
  | .boolean value => value
  | _ => true

def isError
    (value : Value) :
    Bool :=
  match value with
  | .error _ => true
  | _ => false

def isNull
    (value : Value) :
    Bool :=
  match value with
  | .null => true
  | _ => false

/- Whether a value ends the statements it occurs among. -/
def endsSequence
    (value : Value) :
    Bool :=
  match value with
  | .returned _ => true
  | .error _ => true
  | _ => false

/- The value inside one wrapper; any other value stays as it is. -/
def unwrapped
    (value : Value) :
    Value :=
  match value with
  | .returned inner => inner
  | other => other

/-
  Equality of values: the same type and the same content.
  Functions are equal only to themselves, and of built-in
  functions the names are compared.
-/
def equals
    (first second : Value) :
    Bool :=
  match first, second with
  | .integer a, .integer b => a == b
  | .boolean a, .boolean b => a == b
  | .string a, .string b => a == b
  | .null, .null => true
  | .returned a, .returned b => equals a b
  | .error a, .error b => a == b
  | .function a _ _ _, .function b _ _ _ => a == b
  | .builtin a, .builtin b => a.name == b.name
  | _, _ => false

end Value

end MonkeyLang
