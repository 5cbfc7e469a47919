import MonkeyLang.Proofs.Evaluation.Lockstep

/-
  Evaluation does not depend on marks: not on the spelling of
  numbers, and not on where tokens stand. Only the text of a
  function shows them, and no program sees a text.

  Main declarations:
    * `Value.Resembles`
    * `evaluation_ignores_spelling`
-/

------------------------------------------------------------
-- Values of Programs That Are the Same
------------------------------------------------------------

namespace MonkeyLang

/- The parameters and the body of the function in a value, if there is one. -/
def Value.function?
    (value : Value) :
    Option (List Node × Node) :=
  match value with
  | .returned inner => function? inner
  | .function _ parameters body _ => some (parameters, body)
  | _ => none

/- Functions whose parameters and bodies are the same up to marks. -/
def SameFunction
    (first second : List Node × Node) :
    Prop :=
  Node.sameAll first.1 second.1 = true ∧ first.2.same second.2 = true

/-
  Values of the same type that are the same error, or neither
  is one. They have the same text unless there is a function in
  them, and then the functions are the same up to marks.
-/
structure Value.Resembles
    (first second : Value) :
    Prop where
  typeName : first.typeName = second.typeName
  error : ∀ message, first = .error message ↔ second = .error message
  text : first.function? = none → first.text = second.text
  function : Option.Rel SameFunction first.function? second.function?

variable {pairing : Pairing}
variable {size : Nat}

theorem Value.Alike.text_eq
    {first second : Value}
    (hAlike : Value.Alike pairing size first second)
    (hFunction : first.function? = none) :
    first.text = second.text := by
  induction hAlike with
  | scalar | builtin => rfl
  | returned _ ih => exact ih hFunction
  | function => cases hFunction

theorem Value.Alike.function?_rel
    {first second : Value}
    (hAlike : Value.Alike pairing size first second) :
    Option.Rel SameFunction first.function? second.function? := by
  induction hAlike with
  | @scalar value hScalar =>
      cases value with
      | returned | function => cases hScalar
      | _ => exact .none
  | builtin => exact .none
  | returned _ ih => exact ih
  | function _ hParameters hBody _ =>
      exact .some ⟨Node.sameAll_of_alike hParameters, hBody.same⟩

theorem Value.Alike.resembles
    {first second : Value}
    (hAlike : Value.Alike pairing size first second) :
    first.Resembles second where
  typeName := hAlike.typeName_eq
  error := hAlike.error_iff
  text := hAlike.text_eq
  function := hAlike.function?_rel

------------------------------------------------------------
-- Whole Evaluations
------------------------------------------------------------

/-
  Two trees that are the same up to marks are evaluated in
  copies of one scope. However deep calls may nest, either both
  evaluations halt for the same cause, or both end: then their
  results resemble each other, and all scopes that were copies,
  that of the evaluation among them, bind the same names to
  values that resemble each other.
-/
theorem evaluation_ignores_spelling
    {heap heap' : Heap}
    (hCopies : pairing.Copies heap heap')
    {scope scope' : ScopeId}
    (hScope : pairing.scopes scope scope')
    {tree tree' : Node}
    (hSame : tree.same tree' = true)
    (depth : Nat) :
    (∃ cause,
      evaluate depth scope tree heap = .error cause ∧
        evaluate depth scope' tree' heap' = .error cause) ∨
      ∃ value value' after after',
        evaluate depth scope tree heap = .ok (value, after) ∧
          evaluate depth scope' tree' heap' = .ok (value', after') ∧
          value.Resembles value' ∧
          ∀ id id', pairing.scopes id id' →
            Scope.Matches Value.Resembles (after.scope id)
              (after'.scope id') := by
  have hLockstep :=
    hCopies.evaluate_lockstep (fun _ _ _ => trivial) hScope
      (Node.alike_of_same tree hSame) depth
  rcases hLockstep.halted_or_ended with
    hHalted |
    ⟨value, value', after, after', hFirst, hSecond, hGrown, hAfter,
      hResult⟩
  · exact .inl hHalted
  · right
    refine ⟨value, value', after, after', hFirst, hSecond,
      hResult.resembles, ?_⟩
    intro id id' hPaired
    have hAlike := hAfter.scope ((hCopies.inside hPaired).mono hGrown)
    exact hAlike.matches_of fun hValue => hValue.resembles

/-
  A program that calls a function with a number, which is once
  written in hexadecimal and once in decimal digits. In the
  second heap the scope and the function have other numbers.
-/
theorem evaluation_ignores_spelling_hexadecimal :
    let mark (literal : String) : Mark := ⟨literal, 1, 1⟩
    let name (text : String) : Node := .identifier ⟨mark text, text⟩
    let body : Node :=
      .block (mark Text.openBrace)
        [.returnStatement (mark "return") (name "x")]
    let program (literal : String) : Node :=
      .program [
        .letStatement (mark "let") (name "y")
          (.call (mark "(") (name "f") [.integer (mark literal) 16])]
    let global (number : Nat) (scope : ScopeId) : Scope :=
      ⟨[(.name "f", .function number [name "x"] body scope)], none⟩
    let heap : Heap := ⟨#[global 0 0], 1⟩
    let copy : Heap := ⟨#[Scope.within none, global 5 1], 6⟩
    let pairing : Pairing := {
      marks := AnyMarks
      functions := fun number number' => number = 0 ∧ number' = 5
      scopes := fun id id' => id = 0 ∧ id' = 1
      functions_unique := by rintro _ _ _ _ ⟨rfl, rfl⟩ ⟨rfl, rfl⟩; simp
      scopes_unique := by rintro _ _ _ _ ⟨rfl, rfl⟩ ⟨rfl, rfl⟩; simp }
    pairing.Copies heap copy ∧
      (program "0x10").same (program "16") = true ∧
      ∃ after after',
        evaluate 1 0 (program "0x10") heap = .ok (.null, after) ∧
        evaluate 1 1 (program "16") copy = .ok (.null, after') ∧
        (after.scope 0).get? "y" = some (.integer 16) ∧
        Scope.Matches Value.Resembles (after.scope 0)
          (after'.scope 1) := by
  intro mark name body program global heap copy pairing
  have hSame : (program "0x10").same (program "16") = true := by rfl
  have hCopies : pairing.Copies heap copy := by
    constructor
    · rintro _ _ ⟨rfl, rfl⟩
      decide
    · rintro _ _ ⟨rfl, rfl⟩
      decide
    · rintro _ _ ⟨rfl, rfl⟩
      have hParameters : Node.sameAll [name "x"] [name "x"] = true := by rfl
      have hBody : body.same body = true := by rfl
      have hFunction :=
        @Value.Alike.function pairing 1 0 5 _ _ _ _ 0 1 ⟨rfl, rfl⟩
          (Node.alike_of_sameAll _ hParameters)
          (Node.alike_of_same _ hBody) ⟨⟨rfl, rfl⟩, by decide⟩
      exact ⟨.cons ⟨.name "f", hFunction⟩ .nil, .none⟩
  have hRun :
      ∃ after,
        evaluate 1 0 (program "0x10") heap = .ok (.null, after) ∧
          (after.scope 0).get? "y" = some (.integer 16) :=
    ⟨_, rfl, rfl⟩
  rcases hRun with ⟨after, hFirst, hValue⟩
  rcases evaluation_ignores_spelling hCopies ⟨rfl, rfl⟩ hSame 1 with
    ⟨cause, hHalted, -⟩ |
    ⟨value, value', _, after', hEnded, hSecond, hResembles, hScopes⟩
  · rw [hFirst] at hHalted
    cases hHalted
  · rw [hFirst] at hEnded
    cases hEnded
    have hNull : value' = .null := by
      have hType := hResembles.typeName
      cases value' <;> simp_all [Value.typeName]
    exact ⟨hCopies, hSame, after, after', hFirst, hNull ▸ hSecond,
      hValue, hScopes 0 1 ⟨rfl, rfl⟩⟩

end MonkeyLang
