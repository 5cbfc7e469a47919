import MonkeyLang.Proofs.Evaluation.Invariant
import MonkeyLang.Proofs.Evaluation.Likeness
import MonkeyLang.Proofs.Parsing.Literal
import MonkeyLang.Proofs.Printing.Reconstruction

/-
  The texts of values are read back. That of a number is its
  decimal numeral, behind a minus sign if it is negative: it is
  parsed as an integer or as the negation of one, and evaluated
  to the number. The lowest number is the exception, since the
  numeral behind its sign is too high. That of a function is its
  literal, and the functions that programs make are well-formed.

  Main declarations:
    * `Numeral.unsigned_toDigits`
    * `parse_natText`, `parse_negatedText`
    * `WellFormed.Tree`
    * `Invariant.wellFormed`
    * `Heap.FromSources`
    * `printed_values_read_back`
-/

------------------------------------------------------------
-- Decimal Numerals
------------------------------------------------------------

namespace MonkeyLang

namespace Numeral

/- A digit may be added behind others. -/
theorem Spells.concat
    {base value : Nat}
    {text : List Char}
    {digits : List Nat}
    {c : Char}
    (hSpells : Spells base text digits)
    (hDigit : IsDigit base c value) :
    Spells base (text ++ [c]) (digits ++ [value]) := by
  induction hSpells with
  | last hLast => exact .digit hLast (.last hDigit)
  | digit hFirst _ ih => exact .digit hFirst ih
  | underscore hFirst _ ih => exact .underscore hFirst ih

theorem positional_concat
    (base : Nat)
    (digits : List Nat)
    (value : Nat) :
    positional base (digits ++ [value]) =
      value + base * positional base digits := by
  unfold positional
  rw [List.reverse_append, List.reverse_singleton,
    List.singleton_append, Nat.ofDigits_cons]

theorem isDigit_digitChar
    {value : Nat}
    (hValue : value < 10) :
    IsDigit 10 value.digitChar value := by
  have hWritten :
      ∀ value < 10,
        Unicode.decimalValue? value.digitChar = some value := by
    decide
  exact ⟨hValue, .inl (hWritten value hValue)⟩

/-
  The decimal digits of a number. The last one comes off the
  end, so that the first is a zero only for zero itself.
-/
theorem exists_spells_toDigits
    (n : Nat) :
    ∃ digits,
      Spells 10 (Nat.toDigits 10 n) digits ∧
        positional 10 digits = n ∧
        digits.length = (Nat.toDigits 10 n).length ∧
        (digits.head? = some 0 → n = 0) := by
  induction n using Nat.strongRecOn with
  | ind n ih =>
      by_cases hLess : n < 10
      · rw [Nat.toDigits_of_lt_base hLess]
        refine ⟨[n], .last (isDigit_digitChar hLess), ?_, rfl, ?_⟩
        · exact Nat.ofDigits_singleton
        · simp
      · have hMore := Nat.le_of_not_lt hLess
        rcases ih (n / 10) (by omega) with
          ⟨digits, hSpells, hValue, hLength, hHead⟩
        have hLast := isDigit_digitChar (Nat.mod_lt n (by decide : 0 < 10))
        rw [Nat.toDigits_of_base_le (by decide) hMore]
        refine ⟨digits ++ [n % 10], hSpells.concat hLast, ?_, ?_, ?_⟩
        · rw [positional_concat, hValue]
          exact Nat.mod_add_div n 10
        · rw [List.length_append, List.length_append, hLength]
          rfl
        · intro hZero
          have hDigits : digits ≠ [] := by
            rw [← List.length_pos_iff, hLength]
            exact Nat.length_toDigits_pos
          rw [List.head?_append_of_ne_nil _ hDigits] at hZero
          have hFront := hHead hZero
          omega

/- The digits of a number that is not too high. -/
theorem unsigned_toDigits
    {n : Nat}
    (hHigh : n < 2 ^ 63) :
    Unsigned (Nat.toDigits 10 n) n := by
  rcases exists_spells_toDigits n with
    ⟨digits, hSpells, hValue, hLength, hHead⟩
  have hDigits : digits.length ≤ 19 := by
    rw [hLength, Nat.length_toDigits_le_iff (by decide) (by decide)]
    exact Nat.lt_of_lt_of_le hHigh (by decide)
  have hNumeral :
      Unsigned (Nat.toDigits 10 n) (positional 10 digits) :=
    .decimal hSpells (Nat.le_trans hDigits (by decide)) fun hZero =>
      hValue.trans (hHead hZero)
  rwa [hValue] at hNumeral

end Numeral

------------------------------------------------------------
-- Numbers
------------------------------------------------------------

section

variable {n : Nat}

/- The text of a number is a numeral for it. -/
theorem unsigned_natText
    (hHigh : n < 2 ^ 63) :
    Numeral.Unsigned n.repr.toList n := by
  rw [Nat.repr_eq_ofList_toDigits, String.toList_ofList]
  exact Numeral.unsigned_toDigits hHigh

theorem read?_natText
    (hHigh : n < 2 ^ 63) :
    Numeral.read? n.repr = some (n : Int) := by
  rw [Numeral.read?_eq_some_iff]
  exact ⟨[], _, [], by simp, by simp, .plain (unsigned_natText hHigh)⟩

theorem inRange_natCast
    (hHigh : n < 2 ^ 63) :
    Word64.inRange n = true := by
  rw [Word64.inRange_iff]
  omega

theorem parse_natText
    (hHigh : n < 2 ^ 63) :
    ∃ mark,
      parse n.repr =
        ⟨[.expressionStatement mark (.integer mark n)], []⟩ :=
  ⟨_, parse_of_isNumber (unsigned_natText hHigh).isNumber
    (read?_natText hHigh) (inRange_natCast hHigh)⟩

/- Behind a minus sign a number is the operand of a negation. -/
theorem parse_negatedText
    (hHigh : n < 2 ^ 63) :
    ∃ sign mark,
      parse ("-" ++ n.repr) =
        ⟨[.expressionStatement sign
          (.unary sign "-" (.integer mark n))], []⟩ := by
  have hNumber := (unsigned_natText hHigh).isNumber
  have hDigits : Scans n.repr.toList [(.int, n.repr)] := by
    have hScans :=
      Scans.of_spelled (.number hNumber) (head?_of_isWord (.inr hNumber))
    rwa [String.ofList_toList] at hScans
  have hReadsBack :
      ReadsBack ("-" ++ n.repr).toList Grammar.Statements
        fun statements =>
          ∃ sign mark,
            statements =
              [.expressionStatement sign
                (.unary sign "-" (.integer mark n))] := by
    refine ⟨[(.minus, "-"), (.int, n.repr)], ?_, ?_⟩
    · rw [String.toList_append]
      exact @Scans.sign .minus '-' _ _ (by decide) rfl (by decide)
        hDigits
    · intro tokens hTokens
      rcases exists_first_token hTokens with
        ⟨sign, rest, rfl, hSign, hMinus, hTokens⟩
      rcases exists_first_token hTokens with
        ⟨token, rest, rfl, hKind, hLiteral, hTokens⟩
      rcases List.map_eq_nil_iff.mp hTokens with rfl
      have hOperand :=
        Grammar.Expression.primary
          (.integer hKind (hLiteral ▸ read?_natText hHigh)
            (inRange_natCast hHigh))
      have hNegation :=
        Grammar.Expression.unary (by rw [hSign]; decide)
          (hOperand.loosen (by decide))
      rw [hMinus] at hNegation
      refine ⟨_, .unended (.expression (hNegation.loosen (by decide)))
        .none (by simp), sign.toMark, token.toMark, rfl⟩
  rcases hReadsBack.exists_parse with
    ⟨_, hParse, sign, mark, rfl⟩
  exact ⟨sign, mark, hParse⟩

end

/- A text whose program does nothing but to evaluate to a value. -/
structure Value.IsReadBack
    (value : Value) :
    Prop where
  errors : (parse value.text).errors = []
  evaluate :
    ∀ depth scope heap,
      MonkeyLang.evaluate depth scope (parse value.text).program heap =
        .ok (value, heap)

theorem isReadBack_integer
    {value : Int}
    (hLow : -2 ^ 63 < value)
    (hHigh : value < 2 ^ 63) :
    (Value.integer value).IsReadBack := by
  cases value with
  | ofNat n =>
      rcases parse_natText (Int.ofNat_lt.mp hHigh) with ⟨mark, hParse⟩
      have hText : (Value.integer (Int.ofNat n)).text = n.repr := rfl
      constructor
      · rw [hText, hParse]
      · intro depth scope heap
        rw [hText, hParse]
        rfl
  | negSucc n =>
      have hBound : n + 1 < 2 ^ 63 := by omega
      rcases parse_negatedText hBound with ⟨sign, mark, hParse⟩
      have hText :
          (Value.integer (Int.negSucc n)).text = "-" ++ (n + 1).repr :=
        rfl
      have hWrap : Word64.wrap (-(n + 1 : Nat)) = Int.negSucc n :=
        Word64.wrap_of_inRange (Word64.inRange_iff.mpr (by omega))
      constructor
      · rw [hText, hParse]
      · intro depth scope heap
        rw [hText, hParse, ← hWrap]
        rfl

theorem isReadBack_boolean
    (truth : Bool) :
    (Value.boolean truth).IsReadBack := by
  have hParse :
      ∃ first second,
        parse (Value.boolean truth).text =
          ⟨[.expressionStatement first (.boolean second truth)], []⟩ := by
    cases truth
    · exact ⟨_, _, rfl⟩
    · exact ⟨_, _, rfl⟩
  rcases hParse with ⟨first, second, hParse⟩
  constructor
  · rw [hParse]
  · intro depth scope heap
    rw [hParse]
    rfl

/- The numeral of the lowest number has no value in range. -/
theorem errors_text_lowest :
    (parse (Value.integer (-2 ^ 63)).text).errors ≠ [] := by
  decide +kernel

------------------------------------------------------------
-- Functions
------------------------------------------------------------

/- A tree that occurs when a program is evaluated that was parsed. -/
inductive WellFormed.Tree : Node → Prop where
  | expression {node : Node}
      (hExpression : Expression node) :
      Tree node
  | statement {node : Node}
      (hStatement : Statement node) :
      Tree node
  | program {statements : List Node}
      (hStatements : ∀ statement ∈ statements, Statement statement) :
      Tree (.program statements)

namespace WellFormed

theorem tree_block
    {node : Node}
    (hBlock : Block node) :
    Tree node :=
  .statement (.block hBlock)

theorem Expression.parts
    {node : Node}
    (hExpression : Expression node) :
    node.parts.Forall Tree := by
  cases hExpression with
  | identifier | integer | boolean | string => trivial
  | unary _ hRight => exact .expression hRight
  | binary _ hLeft hRight =>
      exact ⟨.expression hLeft, .expression hRight⟩
  | ifThen hCondition hConsequence =>
      exact ⟨.expression hCondition, tree_block hConsequence⟩
  | ifElse hCondition hConsequence hAlternative =>
      exact ⟨.expression hCondition, tree_block hConsequence,
        tree_block hAlternative⟩
  | function _ _ hBody => exact tree_block hBody
  | call hCallee hArguments =>
      refine (List.forall_cons _ _ _).mpr ⟨.expression hCallee, ?_⟩
      rw [List.forall_iff_forall_mem]
      exact fun argument hArgument =>
        .expression (hArguments argument hArgument)

theorem Statement.parts
    {node : Node}
    (hStatement : Statement node) :
    node.parts.Forall Tree := by
  cases hStatement with
  | letStatement _ _ hValue => exact .expression hValue
  | returnStatement _ hValue => exact .expression hValue
  | expression hInner => exact .expression hInner
  | block hBlock =>
      cases hBlock with
      | intro hStatements =>
          refine List.forall_iff_forall_mem.mpr ?_
          exact fun statement hMember =>
            .statement (hStatements statement hMember)

/- The parts of a well-formed tree are well-formed. -/
theorem Tree.parts
    {node : Node}
    (hTree : Tree node) :
    node.parts.Forall Tree := by
  cases hTree with
  | expression hExpression => exact hExpression.parts
  | statement hStatement => exact hStatement.parts
  | program hStatements =>
      refine List.forall_iff_forall_mem.mpr ?_
      exact fun statement hMember =>
        .statement (hStatements statement hMember)

end WellFormed

/- The literal of a function as it is shown. -/
def functionLiteral
    (parameters : List Node)
    (body : Node) :
    Node :=
  .function ⟨"fn", 1, 1⟩ parameters body

/- A value whose function, if there is one, is shown by a well-formed literal. -/
def Value.IsWellFormed
    (value : Value) :
    Prop :=
  match value with
  | .returned inner => IsWellFormed inner
  | .function _ parameters body _ =>
      WellFormed.Expression (functionLiteral parameters body)
  | _ => True

theorem Value.isWellFormed_of_isScalar
    {value : Value}
    (hScalar : value.isScalar) :
    value.IsWellFormed := by
  cases value with
  | returned | function => cases hScalar
  | _ => trivial

/- Functions in well-formed trees are well-formed, whatever their marks. -/
theorem WellFormed.Tree.function
    {mark : Mark}
    {parameters : List Node}
    {body : Node}
    (hTree : Tree (.function mark parameters body)) :
    Expression (functionLiteral parameters body) := by
  cases hTree with
  | expression hExpression =>
      cases hExpression with
      | function _ hNames hBody => exact .function rfl hNames hBody
  | statement hStatement =>
      cases hStatement with
      | block hBlock => cases hBlock

theorem WellFormed.tree_body
    {parameters : List Node}
    {body : Node}
    (hFunction : Expression (functionLiteral parameters body)) :
    Tree body := by
  cases hFunction with
  | function _ _ hBody => exact tree_block hBody

/- Well-formed trees only make well-formed functions. -/
def Invariant.wellFormed : Invariant where
  node := WellFormed.Tree
  value := Value.IsWellFormed
  assumed _ := True
  part := WellFormed.Tree.parts
  integer _ := trivial
  boolean _ := trivial
  string _ := trivial
  null := trivial
  host _ := trivial
  function hTree _ _ := hTree.function
  body hFunction := WellFormed.tree_body hFunction
  returned := Iff.rfl
  unary _ _ := .inr (Value.isWellFormed_of_isScalar (isScalar_applyUnary _ _))
  binary _ _ _ :=
    .inr (Value.isWellFormed_of_isScalar (isScalar_applyBinary _ _ _))
  builtin _ _ builtin :=
    .inr (Value.isWellFormed_of_isScalar (builtin.isScalar_apply _))

------------------------------------------------------------
-- Programs from Sources
------------------------------------------------------------

/-
  The heaps that programs from sources lead to, one after the
  other and each in any scope. Such a program may have errors,
  or may halt. Scopes may be made for the programs.
-/
inductive Heap.FromSources : Heap → Prop where
  | initial :
      FromSources Heap.initial
  | opened {heap : Heap}
      (hHeap : FromSources heap)
      (outer : Option ScopeId) :
      FromSources (heap.newScope outer []).2
  | evaluated {heap : Heap} {depth : Nat} {scope : ScopeId}
      {source : String} {outcome : Except Halt Value}
      {history : List Event}
      (hHeap : FromSources heap)
      (hRun :
        record depth scope (parse source).program heap =
          (outcome, history)) :
      FromSources (heap.replay history)

section

variable {heap : Heap}
variable {depth : Nat}
variable {scope : ScopeId}
variable {source : String}
variable {outcome : Except Halt Value}
variable {history : List Event}

/- A program makes only well-formed functions, if there are no others. -/
theorem wellFormed_of_record
    (hHeap : heap.Holds (fun _ => True) Value.IsWellFormed)
    (hRun :
      record depth scope (parse source).program heap =
        (outcome, history)) :
    (heap.replay history).Holds (fun _ => True) Value.IsWellFormed ∧
      ∀ event ∈ history, ∀ value ∈ event.values,
        value.IsWellFormed := by
  have hCalls :
      Invariant.wellFormed.KeepsCalls (fun _ => True)
        (recordCall depth) :=
    Invariant.recordCall_keeps depth
  have hTree : WellFormed.Tree (parse source).program :=
    .program (WellFormed.statement_of_parse source)
  have hKeeps :
      Invariant.wellFormed.Keeps (fun _ => True)
        (Invariant.wellFormed.Result fun _ => True)
        (record depth scope (parse source).program) :=
    Invariant.recordWith_keeps hCalls trivial _ hTree
  rcases hKeeps heap outcome history hHeap hRun
    (fun _ _ _ _ => trivial) with ⟨-, hAfter, hEvents⟩
  refine ⟨hAfter, fun event hEvent value hValue => ?_⟩
  rcases (hEvents event hEvent).2 value hValue with hError | hWellFormed
  · cases value with
    | error => trivial
    | _ => cases hError
  · exact hWellFormed

theorem Heap.FromSources.holds
    (hHeap : heap.FromSources) :
    heap.Holds (fun _ => True) Value.IsWellFormed := by
  induction hHeap with
  | initial =>
      rw [Heap.holds_everywhere_iff]
      intro id binding hBinding
      rw [Heap.scope_initial] at hBinding
      cases hBinding
  | @opened heap _ outer ih =>
      rw [Heap.holds_everywhere_iff] at ih ⊢
      intro id
      by_cases hNew : id = heap.scopes.size
      · rw [hNew, Heap.scope_newScope_self]
        exact fun _ hBinding => by cases hBinding
      · rw [Heap.scope_newScope_of_ne hNew]
        exact ih id
  | evaluated _ hRun ih => exact (wellFormed_of_record ih hRun).1

end

------------------------------------------------------------
-- Texts of Functions
------------------------------------------------------------

/-
  A text of a program that is only a function literal, which has
  this text, and some parameters and a body, up to marks.
-/
structure ReadsAsFunction
    (text : String)
    (parameters : List Node)
    (body : Node) :
    Prop where
  errors : (parse text).errors = []
  literal :
    ∃ first mark parameters' body',
      (parse text).program =
          .program [
            .expressionStatement first
              (.function mark parameters' body')] ∧
        Node.sameAll parameters' parameters = true ∧
        body'.same body = true ∧
        (Node.function mark parameters' body').text = text

/- A program of one expression is shown as that. -/
theorem Node.text_program_singleton
    (mark : Mark)
    (expression : Node) :
    (Node.program [.expressionStatement mark expression]).text =
      expression.text := by
  simp [Node.text, Node.texts, Text.join]

theorem readsAsFunction_of_wellFormed
    {parameters : List Node}
    {body : Node}
    (hFunction :
      WellFormed.Expression (functionLiteral parameters body)) :
    ReadsAsFunction (functionLiteral parameters body).text parameters
      body := by
  have hRestored :
      IsRestored
        (.program [
          .expressionStatement ⟨"fn", 1, 1⟩
            (functionLiteral parameters body)]) := by
    apply isRestored_of_wellFormed
    rw [List.forall_mem_singleton]
    exact .expression hFunction
  rcases hRestored with ⟨hErrors, hSame, hSameText⟩
  have hAlike := Node.alike_of_same _ hSame
  rw [Node.text_program_singleton] at hErrors hAlike hSameText
  refine ⟨hErrors, ?_⟩
  generalize (parse (functionLiteral parameters body).text).program =
    parsed at hAlike hSameText
  -- Both trees have the same form.
  cases hAlike with
  | program hStatements =>
      rcases List.forall₂_cons_right_iff.mp hStatements with
        ⟨statement, rest, hStatement, hRest, rfl⟩
      cases hRest
      cases hStatement with
      | expressionStatement _ hInner =>
          cases hInner with
          | function _ hParameters hBody =>
              rw [Node.text_program_singleton] at hSameText
              exact ⟨_, _, _, _, rfl, Node.sameAll_of_alike hParameters,
                hBody.same, hSameText⟩

/-
  Printed values are read back. The text of every signed 64-bit
  number but the lowest is parsed without errors as a program
  that evaluates to the number, and that of the lowest is
  rejected; the texts of true and false are read back as well.

  Whatever sources have been evaluated before, every function
  that occurs when a program from a source is evaluated has a
  text that is parsed without errors as one function literal,
  with the parameters and the body of the function up to marks
  and with the same text.
-/
theorem printed_values_read_back :
    (∀ value : Int, -2 ^ 63 ≤ value → value < 2 ^ 63 →
      ((parse (Value.integer value).text).errors ≠ [] ↔
          value = -2 ^ 63) ∧
        (value ≠ -2 ^ 63 → (Value.integer value).IsReadBack)) ∧
      (∀ truth, (Value.boolean truth).IsReadBack) ∧
      ∀ heap depth scope source outcome history,
        heap.FromSources →
        record depth scope (parse source).program heap =
            (outcome, history) →
          ∀ event ∈ history, ∀ number parameters body home,
            .function number parameters body home ∈ event.values →
              ReadsAsFunction
                (Value.function number parameters body home).text
                parameters body := by
  refine ⟨?_, isReadBack_boolean, ?_⟩
  · intro value hLow hHigh
    have hReadBack :
        value ≠ -2 ^ 63 → (Value.integer value).IsReadBack := by
      intro hNotLowest
      exact isReadBack_integer (by omega) hHigh
    refine ⟨⟨fun hErrors => ?_, ?_⟩, hReadBack⟩
    · by_contra hNotLowest
      exact hErrors (hReadBack hNotLowest).errors
    · rintro rfl
      exact errors_text_lowest
  · intro heap depth scope source outcome history hHeap hRun event hEvent
      number parameters body home hValue
    have hWellFormed := (wellFormed_of_record hHeap.holds hRun).2
    exact readsAsFunction_of_wellFormed
      (hWellFormed event hEvent _ hValue)

/-
  A negative number, and a function that is shown with the
  parentheses that its source leaves out.
-/
theorem printed_values_read_back_operators :
    let name (text : String) (column : Int) : Node :=
      .identifier ⟨⟨text, 1, column⟩, text⟩
    let sum : Node :=
      .binary ⟨"+", 1, 14⟩ (name "x" 12) "+"
        (.binary ⟨"*", 1, 18⟩ (.integer ⟨"2", 1, 16⟩ 2) "*" (name "y" 20))
    let body : Node :=
      .block ⟨Text.openBrace, 1, 10⟩ [.expressionStatement ⟨"x", 1, 12⟩ sum]
    let parameters : List Node := [name "x" 4, name "y" 7]
    let function : Value := .function 0 parameters body 0
    let source := "fn(x, y) " ++ Text.braced " x + 2 * y "
    let text := "fn(x, y) " ++ Text.braced " (x + (2 * y)) "
    evaluate 0 0 (parse source).program Heap.initial =
        .ok (function, Heap.initial.newFunction.2) ∧
      function.text = text ∧
      ReadsAsFunction text parameters body ∧
      (Value.integer (-5)).IsReadBack := by
  intro name sum body parameters function source text
  have hParse :
      (parse source).program =
        .program [
          .expressionStatement ⟨"fn", 1, 1⟩
            (.function ⟨"fn", 1, 1⟩ parameters body)] := by
    dsimp only [source]
    rfl
  have hRun :
      record 0 0 (parse source).program Heap.initial =
        (.ok function,
          [.made, .evaluated function, .evaluated function,
            .evaluated function]) := by
    rw [hParse]
    rfl
  have hText : function.text = text := by rfl
  rcases printed_values_read_back with ⟨hNumbers, -, hFunctions⟩
  have hNumber := (hNumbers (-5) (by decide) (by decide)).2 (by decide)
  have hFunction :=
    hFunctions _ _ _ _ _ _ .initial hRun (.evaluated function) (by simp)
      0 parameters body 0 (.head _)
  refine ⟨evaluate_eq_ok_iff.mpr ⟨_, hRun, rfl⟩, hText, ?_, hNumber⟩
  rwa [hText] at hFunction

end MonkeyLang
