import MonkeyLang.Eval.Operator

/-
  What operators and built-in functions result in, whatever
  they are applied to: a value without parts, or an error.

  Main declarations:
    * `Value.isScalar`
    * `isScalar_applyUnary`, `isScalar_applyBinary`
    * `Builtin.isScalar_apply`
-/

------------------------------------------------------------
-- Scalars
------------------------------------------------------------

namespace MonkeyLang

/- Whether a value is neither wrapped nor a function. -/
def Value.isScalar
    (value : Value) :
    Bool :=
  match value with
  | .returned _ => false
  | .function _ _ _ _ => false
  | .builtin _ => false
  | _ => true

theorem isScalar_applyUnary
    (operator : String)
    (right : Value) :
    (applyUnary operator right).isScalar := by
  unfold applyUnary
  split
  next => rfl
  next =>
    split
    next => cases right <;> rfl
    next => rfl

theorem isScalar_applyToIntegers
    (operator : String)
    (left right : Int) :
    (applyToIntegers operator left right).isScalar := by
  unfold applyToIntegers
  split
  case h_4 => split <;> rfl
  all_goals rfl

theorem isScalar_applyToStrings
    (operator : String)
    (left right : String) :
    (applyToStrings operator left right).isScalar := by
  unfold applyToStrings
  split <;> rfl

theorem isScalar_applyToAny
    (operator : String)
    (left right : Value) :
    (applyToAny operator left right).isScalar := by
  unfold applyToAny
  split
  case h_3 => split <;> rfl
  all_goals rfl

theorem isScalar_applyBinary
    (operator : String)
    (left right : Value) :
    (applyBinary operator left right).isScalar := by
  unfold applyBinary
  split
  next => exact isScalar_applyToIntegers _ _ _
  next => exact isScalar_applyToStrings _ _ _
  next => exact isScalar_applyToAny _ _ _

theorem Builtin.isScalar_apply
    (builtin : Builtin)
    (arguments : List Value) :
    (builtin.apply arguments).isScalar := by
  unfold Builtin.apply
  split
  next argument _ => cases argument <;> rfl
  next => rfl

end MonkeyLang
