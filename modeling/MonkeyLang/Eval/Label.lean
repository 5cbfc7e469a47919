import MonkeyLang.Node.Basic

/-
  This file defines the labels under which values are bound.

  Any node may stand in the place of a name. A value is bound
  there under the label of the node. The label of an identifier
  and of a string is a text, and identifiers look texts up. A
  binding under another label takes its place in a scope, but
  no program can see it.

  Key definitions include:
    * `Label`
    * `Node.label?`       (the label of a node)
    * `Label.same`        (labels of one binding)
    * `Label.ordered`     (labels in order)
-/

------------------------------------------------------------
-- Labels
------------------------------------------------------------

namespace MonkeyLang

/- What a value is bound under. -/
inductive Label where
  | name (text : String)
  | number (value : Int)
  | boolean (value : Bool)
  | tree (node : Node)

/-
  The label of a node that stands in the place of a name: the
  text or the value that the node holds, or the tree in the
  case of a let statement. Other nodes hold no single value.
-/
def Node.label?
    (node : Node) :
    Option Label :=
  match node with
  | .identifier id => some (.name id.name)
  | .string _ value => some (.name value)
  | .integer _ value => some (.number value)
  | .boolean _ value => some (.boolean value)
  | .letStatement _ _ value => some (.tree value)
  | _ => none

namespace Label

def name?
    (label : Label) :
    Option String :=
  match label with
  | .name text => some text
  | _ => none

/- What a label counts as among numbers. True is one, and false is zero. -/
def weight?
    (label : Label) :
    Option Int :=
  match label with
  | .number value => some value
  | .boolean true => some 1
  | .boolean false => some 0
  | _ => none

def same
    (first second : Label) :
    Bool :=
  match first, second with
  | .name a, .name b => a == b
  | .tree a, .tree b => a.same b
  | a, b => a.weight?.isSome && a.weight? == b.weight?

------------------------------------------------------------
-- Order
------------------------------------------------------------

/-
  Whether a label is at most another. Texts have an order, and
  so have numbers; all other pairs have none.
-/
def atMost?
    (first second : Label) :
    Option Bool :=
  match first, second with
  | .name a, .name b => some (decide (a ≤ b))
  | a, b =>
      match a.weight?, b.weight? with
      | some m, some n => some (decide (m ≤ n))
      | _, _ => none

/- The first two labels, one behind the other, that have no order. -/
def firstClash?
    (labels : List Label) :
    Option (Label × Label) :=
  match labels with
  | first :: second :: rest =>
      match atMost? first second with
      | some _ => firstClash? (second :: rest)
      | none => some (first, second)
  | _ => none

/- Labels in order, or two of them that have no order. -/
def ordered
    (labels : List Label) :
    Except (Label × Label) (List Label) :=
  match firstClash? labels with
  | some clash => .error clash
  | none =>
      .ok (labels.mergeSort fun first second =>
        (atMost? first second).getD true)

end Label

end MonkeyLang
