import MonkeyLang.Eval.Evaluation

/-
  The depth to which calls may nest does not matter once it
  suffices. An evaluation that does not run out of depth comes
  to the same, in every respect, if calls may nest more deeply.

  Main declarations:
    * `Eval.ExtendsTo`          (the same unless out of depth)
    * `Eval.CallsExtendTo`
    * `evaluateWith_extends`    (one case for each kind of node)
    * `applyWithin_extends`
    * `evaluate_eq_of_ended`
-/

------------------------------------------------------------
-- Extension
------------------------------------------------------------

namespace MonkeyLang

namespace Eval

/- Wherever one evaluation does not run out of depth, another is the same. -/
def ExtendsTo
    (first second : Eval α) :
    Prop :=
  ∀ heap, first heap = .error .outOfDepth ∨ first heap = second heap

namespace ExtendsTo

theorem refl
    (action : Eval α) :
    ExtendsTo action action :=
  fun _ => .inr rfl

theorem bind
    {first second : Eval α}
    {following others : α → Eval β}
    (hFirst : ExtendsTo first second)
    (hFollowing : ∀ result, ExtendsTo (following result) (others result)) :
    ExtendsTo (first >>= following) (second >>= others) := by
  intro heap
  simp only [Bind.bind, Eval.andThen]
  rcases hFirst heap with hOut | hSame
  · rw [hOut]
    exact .inl rfl
  · rw [← hSame]
    cases first heap with
    | error cause => exact .inr rfl
    | ok outcome => exact hFollowing outcome.1 outcome.2

theorem ite
    {condition : Prop}
    [Decidable condition]
    {first second others third : Eval α}
    (hThen : ExtendsTo first others)
    (hElse : ExtendsTo second third) :
    ExtendsTo (if condition then first else second)
      (if condition then others else third) := by
  split
  · exact hThen
  · exact hElse

/- Behind a value that is an error nothing is evaluated. -/
theorem unlessError
    {first second : Eval Value}
    {following others : Value → Eval Value}
    (hFirst : ExtendsTo first second)
    (hFollowing : ∀ value, ExtendsTo (following value) (others value)) :
    ExtendsTo
      (first >>= fun value =>
        if value.isError then
          pure value
        else
          following value)
      (second >>= fun value =>
        if value.isError then
          pure value
        else
          others value) :=
  hFirst.bind fun value => .ite (.refl _) (hFollowing value)

end ExtendsTo

/- Every call of one kind extends to the same call of another. -/
def CallsExtendTo
    (first second : Call) :
    Prop :=
  ∀ function arguments,
    ExtendsTo (first function arguments) (second function arguments)

end Eval

------------------------------------------------------------
-- Trees
------------------------------------------------------------

section

variable {call deeper : Eval.Call}

mutual

theorem evaluateWith_extends
    (hCall : Eval.CallsExtendTo call deeper)
    (scope : ScopeId)
    (node : Node) :
    Eval.ExtendsTo (evaluateWith call scope node)
      (evaluateWith deeper scope node) := by
  cases node with
  | identifier | integer | boolean | string | function | unknown =>
      unfold evaluateWith
      exact .refl _
  | unary _ operator operand =>
      unfold evaluateWith
      apply (evaluateWith_extends hCall scope operand).unlessError
      exact fun _ => .refl _
  | binary _ left operator right =>
      unfold evaluateWith
      apply (evaluateWith_extends hCall scope left).unlessError
      intro value
      apply (evaluateWith_extends hCall scope right).unlessError
      exact fun _ => .refl _
  | ifThen _ condition consequence =>
      unfold evaluateWith
      apply (evaluateWith_extends hCall scope condition).unlessError
      intro value
      exact .ite (evaluateWith_extends hCall scope consequence) (.refl _)
  | ifElse _ condition consequence alternative =>
      unfold evaluateWith
      apply (evaluateWith_extends hCall scope condition).unlessError
      intro value
      exact .ite (evaluateWith_extends hCall scope consequence)
        (evaluateWith_extends hCall scope alternative)
  | call _ callee arguments =>
      unfold evaluateWith
      apply (evaluateWith_extends hCall scope callee).unlessError
      intro function
      apply (evaluateArguments_extends hCall scope arguments).bind
      intro result
      cases result with
      | error failure => exact .refl _
      | ok values => exact hCall function values
  | letStatement _ name expression =>
      unfold evaluateWith
      apply (evaluateWith_extends hCall scope expression).unlessError
      exact fun _ => .refl _
  | returnStatement _ expression =>
      unfold evaluateWith
      apply (evaluateWith_extends hCall scope expression).unlessError
      exact fun _ => .refl _
  | expressionStatement _ expression =>
      unfold evaluateWith
      exact evaluateWith_extends hCall scope expression
  | block _ statements =>
      unfold evaluateWith
      exact evaluateSequence_extends hCall scope .null statements
  | program statements =>
      unfold evaluateWith
      apply (evaluateSequence_extends hCall scope .null statements).bind
      exact fun _ => .refl _

theorem evaluateSequence_extends
    (hCall : Eval.CallsExtendTo call deeper)
    (scope : ScopeId)
    (last : Value)
    (statements : List Node) :
    Eval.ExtendsTo (evaluateSequence call scope last statements)
      (evaluateSequence deeper scope last statements) := by
  cases statements with
  | nil => exact .refl _
  | cons statement rest =>
      unfold evaluateSequence
      apply (evaluateWith_extends hCall scope statement).bind
      intro value
      exact .ite (.refl _) (evaluateSequence_extends hCall scope value rest)

theorem evaluateArguments_extends
    (hCall : Eval.CallsExtendTo call deeper)
    (scope : ScopeId)
    (arguments : List Node) :
    Eval.ExtendsTo (evaluateArguments call scope arguments)
      (evaluateArguments deeper scope arguments) := by
  cases arguments with
  | nil => exact .refl _
  | cons argument rest =>
      unfold evaluateArguments
      apply (evaluateWith_extends hCall scope argument).bind
      intro value
      apply Eval.ExtendsTo.ite (.refl _)
      apply (evaluateArguments_extends hCall scope rest).bind
      exact fun _ => .refl _

end

end

------------------------------------------------------------
-- Calls
------------------------------------------------------------

/- A call that may nest to some depth extends to one that may nest further. -/
theorem applyWithin_extends
    {depth deeper : Nat}
    (hDepth : depth ≤ deeper) :
    Eval.CallsExtendTo (applyWithin depth) (applyWithin deeper) := by
  induction depth generalizing deeper with
  | zero => exact fun _ _ _ => .inl rfl
  | succ depth ih =>
      rcases Nat.exists_eq_succ_of_ne_zero
        (Nat.ne_zero_of_lt hDepth) with ⟨deeper, rfl⟩
      have hInner := ih (Nat.le_of_succ_le_succ hDepth)
      intro function arguments
      unfold applyWithin
      cases function with
      | function _ parameters body scope =>
          apply Eval.ExtendsTo.ite ?_ (.refl _)
          apply (Eval.ExtendsTo.refl _).bind
          intro labels
          apply (Eval.ExtendsTo.refl _).bind
          intro inner
          apply (evaluateWith_extends hInner inner body).bind
          exact fun _ => .refl _
      | _ => exact .refl _

theorem evaluate_extends
    {depth deeper : Nat}
    (hDepth : depth ≤ deeper)
    (scope : ScopeId)
    (node : Node) :
    Eval.ExtendsTo (evaluate depth scope node)
      (evaluate deeper scope node) :=
  evaluateWith_extends (applyWithin_extends hDepth) scope node

/- Evaluations that both end come to the same. -/
theorem evaluate_eq_of_ended
    {first second : Nat}
    {scope : ScopeId}
    {node : Node}
    {heap : Heap}
    (hFirst : evaluate first scope node heap ≠ .error .outOfDepth)
    (hSecond : evaluate second scope node heap ≠ .error .outOfDepth) :
    evaluate first scope node heap = evaluate second scope node heap := by
  rcases Nat.le_total first second with hDepth | hDepth
  · exact (evaluate_extends hDepth scope node heap).resolve_left hFirst
  · exact ((evaluate_extends hDepth scope node heap).resolve_left
      hSecond).symm

end MonkeyLang
