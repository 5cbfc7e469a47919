import MonkeyLang.Proofs.Evaluation.Invariant
import MonkeyLang.Proofs.Parsing.Correspondence
import MonkeyLang.Proofs.Word64

/-
  Every integer of the language is a signed 64-bit number. The
  parser builds no other integer, whatever the tokens are, and
  evaluation makes no other, as long as no string is so long
  that its length is no such number.

  Main declarations:
    * `Node.integersInRange`, `Value.integersInRange`
    * `Invariant.integersInRange`
    * `integers_in_range`
-/

------------------------------------------------------------
-- Trees and Values
------------------------------------------------------------

namespace MonkeyLang

namespace Node

mutual

/- Whether all integers in a tree are signed 64-bit numbers. -/
def integersInRange
    (node : Node) :
    Bool :=
  match node with
  | .integer _ value => Word64.inRange value
  | .unary _ _ right => integersInRange right
  | .binary _ left _ right =>
      integersInRange left && integersInRange right
  | .ifThen _ condition consequence =>
      integersInRange condition && integersInRange consequence
  | .ifElse _ condition consequence alternative =>
      integersInRange condition && integersInRange consequence &&
        integersInRange alternative
  | .function _ parameters body =>
      allIntegersInRange parameters && integersInRange body
  | .call _ callee arguments =>
      integersInRange callee && allIntegersInRange arguments
  | .letStatement _ name value =>
      integersInRange name && integersInRange value
  | .returnStatement _ value => integersInRange value
  | .expressionStatement _ expression => integersInRange expression
  | .block _ statements => allIntegersInRange statements
  | .program statements => allIntegersInRange statements
  | .identifier _ => true
  | .boolean _ _ => true
  | .string _ _ => true
  | .unknown _ => true

/- Whether all integers in some trees are signed 64-bit numbers. -/
def allIntegersInRange
    (nodes : List Node) :
    Bool :=
  match nodes with
  | [] => true
  | node :: rest => integersInRange node && allIntegersInRange rest

end

theorem allIntegersInRange_iff
    {nodes : List Node} :
    allIntegersInRange nodes ↔ ∀ node ∈ nodes, node.integersInRange := by
  induction nodes with
  | nil => simp [allIntegersInRange]
  | cons node rest ih => simp [allIntegersInRange, ih]

end Node

namespace Value

/-
  Whether an integer is a signed 64-bit number, also one that
  is wrapped, and those in the body of a function are.
-/
def integersInRange
    (value : Value) :
    Bool :=
  match value with
  | .integer number => Word64.inRange number
  | .returned inner => integersInRange inner
  | .function _ _ body _ => body.integersInRange
  | _ => true

/- Whether the length of a string is a signed 64-bit number. -/
def lengthInRange
    (value : Value) :
    Bool :=
  match value with
  | .string text => Word64.inRange text.length
  | .returned inner => lengthInRange inner
  | _ => true

end Value

------------------------------------------------------------
-- Operators
------------------------------------------------------------

theorem integersInRange_applyUnary
    (operator : String)
    (right : Value) :
    (applyUnary operator right).integersInRange := by
  unfold applyUnary
  split
  · rfl
  · split
    · cases right with
      | integer value => exact Word64.inRange_wrap (-value)
      | _ => rfl
    · rfl

theorem integersInRange_applyBinary
    (operator : String)
    (left right : Value) :
    (applyBinary operator left right).integersInRange := by
  unfold applyBinary
  split
  next =>
    unfold applyToIntegers
    split
    case h_4 =>
      split
      · rfl
      · exact Word64.inRange_wrap _
    all_goals first | rfl | exact Word64.inRange_wrap _
  next =>
    unfold applyToStrings
    split <;> rfl
  next =>
    unfold applyToAny
    split <;> (try split) <;> rfl

theorem integersInRange_builtin
    {arguments : List Value}
    (hLength : ∀ argument ∈ arguments, argument.lengthInRange)
    (builtin : Builtin) :
    (builtin.apply arguments).integersInRange := by
  unfold Builtin.apply
  split
  next argument _ =>
    have hArgument := hLength argument (by simp)
    cases argument with
    | string text => exact hArgument
    | _ => rfl
  next => rfl

/- An error holds no integers. -/
theorem integersInRange_of_isError_or
    {value : Value}
    (hValue : value.isError ∨ value.integersInRange) :
    value.integersInRange := by
  rcases hValue with hError | hValue
  · cases value with
    | error => rfl
    | _ => cases hError
  · exact hValue

------------------------------------------------------------
-- The Invariant
------------------------------------------------------------

/-
  All integers are signed 64-bit numbers, provided that the
  lengths of all strings are.
-/
def Invariant.integersInRange : Invariant where
  node node := node.integersInRange
  value value := value.integersInRange
  assumed value := value.lengthInRange
  part {tree} hTree := by
    rw [List.forall_iff_forall_mem]
    cases tree <;>
      simp_all [Node.integersInRange, Node.parts,
        Node.allIntegersInRange_iff]
  integer hNumber := hNumber
  boolean _ := rfl
  string _ := rfl
  null := rfl
  host _ := rfl
  function hFunction _ _ := by
    simp only [Node.integersInRange, Bool.and_eq_true] at hFunction
    exact hFunction.2
  body hFunction := hFunction
  returned := Iff.rfl
  unary _ _ := .inr (integersInRange_applyUnary _ _)
  binary _ _ _ := .inr (integersInRange_applyBinary _ _ _)
  builtin _ hLength _ := .inr (integersInRange_builtin hLength _)

/-
  From any tokens only nodes are built in which all integers
  are signed 64-bit numbers.
-/
def Correspondence.integersInRange : Correspondence where
  token a b := a = b
  name _ _ := True
  expression a _ := a.integersInRange
  block a _ := a.integersInRange
  statement a _ := a.integersInRange
  kind hToken := by rw [hToken]
  literal hToken _ := by rw [hToken]
  nameOf _ _ := trivial
  identifier _ := rfl
  integer _ _ hValue := (Option.filter_eq_some_iff.mp hValue).2
  boolean _ _ := rfl
  string _ _ := rfl
  unary _ _ hRight := hRight
  binary _ _ hLeft hRight := by
    simp [Node.integersInRange, hLeft, hRight]
  ifThen _ hTest hBody := by
    simp [Node.integersInRange, hTest, hBody]
  ifElse _ hTest hBody hOther := by
    simp [Node.integersInRange, hTest, hBody, hOther]
  function _ _ _ hBody := by
    simp [Node.integersInRange, Node.allIntegersInRange_iff, hBody]
  call _ hCallee hArguments := by
    have hAll := forall_mem_of_forall₂ hArguments
    simpa [Node.integersInRange, Node.allIntegersInRange_iff, hCallee]
      using hAll
  letStatement _ _ _ hValue := by
    simp [Node.integersInRange, hValue]
  returnStatement _ _ hValue := hValue
  expressionStatement _ hInner := hInner
  blockOf _ hNodes :=
    Node.allIntegersInRange_iff.mpr (forall_mem_of_forall₂ hNodes)
  blockStatement hBlock := hBlock

theorem integersInRange_parseTokens
    (tokens : List Token) :
    (parseTokens tokens).program.integersInRange := by
  have hTokens :
      List.Forall₂ Correspondence.integersInRange.token tokens tokens :=
    List.forall₂_same.mpr fun _ _ => rfl
  exact
    Node.allIntegersInRange_iff.mpr (forall_mem_of_forall₂
      (Correspondence.integersInRange.parseTokens_alike hTokens rfl).1)

/-
  Whatever the tokens or the source are, and whether there are
  errors or not, all integers in the program are signed 64-bit
  numbers. If those of a tree are, and those in reach of the
  scope in which it is evaluated, so is every integer that
  occurs during the evaluation, whether it ends with a value or
  not, as long as the length of every string that occurs is
  such a number.
-/
theorem integers_in_range :
    (∀ tokens, (parseTokens tokens).program.integersInRange) ∧
    (∀ source, (parse source).program.integersInRange) ∧
    ∀ depth scope node heap outcome history,
      node.integersInRange →
      heap.AllReachable scope (fun found => found.integersInRange) →
      record depth scope node heap = (outcome, history) →
      (∀ event ∈ history, ∀ found ∈ event.values,
        found.lengthInRange) →
        (∀ event ∈ history, ∀ found ∈ event.values,
          found.integersInRange) ∧
        (heap.replay history).AllReachable scope
          (fun found => found.integersInRange) ∧
        (∀ value after,
          evaluate depth scope node heap = .ok (value, after) →
            outcome = .ok value ∧ value.integersInRange ∧
              after = heap.replay history) ∧
        ∀ cause,
          evaluate depth scope node heap = .error cause →
            outcome = .error cause := by
  refine ⟨integersInRange_parseTokens,
    fun source => integersInRange_parseTokens (tokenize source), ?_⟩
  intro depth scope node heap outcome history hNode hReach hRecord hLength
  rcases Invariant.integersInRange.record_keeps hNode hReach hRecord
    hLength with ⟨hValue, hAfter, hEvents⟩
  refine ⟨?_, hAfter, ?_, ?_⟩
  · intro event hEvent found hFound
    exact integersInRange_of_isError_or
      ((hEvents event hEvent).2 found hFound)
  · intro value after hRun
    rcases evaluate_eq_ok_iff.mp hRun with ⟨_, hSame, hHeap⟩
    cases hRecord.symm.trans hSame
    exact ⟨rfl, integersInRange_of_isError_or (hValue value rfl), hHeap⟩
  · intro cause hRun
    rcases evaluate_eq_error_iff.mp hRun with ⟨_, hSame⟩
    cases hRecord.symm.trans hSame
    rfl

/-
  The greatest integer is bound to a name; with one added it
  wraps around.
-/
theorem integers_in_range_overflow :
    let mark : Mark := ⟨"x", 1, 1⟩
    let name : Node := .identifier ⟨mark, "x"⟩
    let program : Node :=
      .program [
        .letStatement mark name (.integer mark Word64.maximum),
        .expressionStatement mark
          (.binary mark name "+" (.integer mark 1))]
    let after : Heap :=
      Heap.initial.bind Heap.globalScope (.name "x")
        (.integer Word64.maximum)
    program.integersInRange ∧
      evaluate 0 Heap.globalScope program Heap.initial =
        .ok (.integer Word64.minimum, after) ∧
      (Value.integer Word64.minimum).integersInRange ∧
      after.AllReachable Heap.globalScope
        (fun found => found.integersInRange) := by
  intro mark name program after
  have hRun :
      evaluate 0 Heap.globalScope program Heap.initial =
        .ok (.integer Word64.minimum, after) := by rfl
  rcases evaluate_eq_ok_iff.mp hRun with ⟨history, hRecord, hAfter⟩
  have hLength :
      ∀ event ∈ history, ∀ found ∈ event.values,
        found.lengthInRange := by
    cases hRecord
    decide
  rcases integers_in_range.2.2 0 Heap.globalScope program Heap.initial
    _ history rfl (Heap.allReachable_initial _ _) hRecord hLength with
    ⟨-, hReach, hLast, -⟩
  exact ⟨rfl, hRun, (hLast _ _ hRun).2.1, hAfter ▸ hReach⟩

end MonkeyLang
