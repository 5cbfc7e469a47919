import MonkeyLang.Proofs.Evaluation.Integrity
import MonkeyLang.Proofs.Evaluation.Lockstep

/-
  Calls can be repeated. A call finds all scopes that it can see
  as the call before has left them, which is as they were. So
  it goes on in lockstep with that, although the heap has grown:
  what both make is paired in the order in which it is made.

  Main declarations:
    * `Pairing.ofExisting`
    * `Heap.Intact.copies`
    * `Heap.CallsLeadTo`
    * `calls_are_repeatable`
-/

------------------------------------------------------------
-- What Exists
------------------------------------------------------------

namespace MonkeyLang

/- The functions and scopes of a heap, each paired with itself. -/
def Pairing.ofExisting
    (heap : Heap) :
    Pairing where
  marks := Eq
  functions number number' :=
    number = number' ∧ number < heap.functions
  scopes id id' := id = id' ∧ id < heap.scopes.size
  functions_unique := by
    rintro a _ b _ ⟨rfl, -⟩ ⟨rfl, -⟩
    rfl
  scopes_unique := by
    rintro a _ b _ ⟨rfl, -⟩ ⟨rfl, -⟩
    rfl

namespace Heap.Intact

variable {made : List Value}
variable {heap later : Heap}
variable {value value' : Value}

/- What has been made is alike to itself. -/
theorem alike_self
    (hIntact : heap.Intact made)
    (hMade : value.IsMade made) :
    Value.Alike (Pairing.ofExisting heap) heap.scopes.size value
      value := by
  induction value with
  | returned inner ih => exact .returned (ih hMade)
  | function number parameters body scope =>
      have hNumber : number < made.length :=
        (List.getElem?_eq_some_iff.mp hMade).1
      have hScope : scope < heap.scopes.size :=
        hIntact.home_lt hMade scope rfl
      exact .function ⟨rfl, hIntact.count ▸ hNumber⟩
        (Node.alikeAll_refl (fun _ => rfl) parameters)
        (Node.alike_refl (fun _ => rfl) body)
        ⟨⟨rfl, hScope⟩, hScope⟩
  | builtin builtin => exact .builtin builtin
  | _ => exact .scalar rfl

/- A heap and a later one, in which all its scopes are untouched. -/
theorem copies
    (hIntact : heap.Intact made)
    (hUntouched : heap.Untouched later)
    (hFunctions : heap.functions ≤ later.functions) :
    (Pairing.ofExisting heap).Copies heap later where
  functions := by
    rintro number _ ⟨rfl, hNumber⟩
    exact ⟨hNumber, Nat.lt_of_lt_of_le hNumber hFunctions⟩
  scopes := by
    rintro id _ ⟨rfl, hId⟩
    exact ⟨hId, Nat.lt_of_lt_of_le hId hUntouched.size⟩
  scope := by
    rintro id _ ⟨rfl, hId⟩
    rw [hUntouched.scope id hId]
    constructor
    · rw [List.forall₂_same]
      intro binding hBinding
      exact ⟨Label.alike_refl (fun _ => rfl) binding.1,
        hIntact.alike_self (hIntact.bound id binding hBinding)⟩
    · have hOuter := hIntact.outer id
      revert hOuter
      cases (heap.scope id).outer with
      | none => exact fun _ => .none
      | some outer =>
          intro hOuter
          have hLower := hOuter outer rfl
          exact .some ⟨⟨rfl, Nat.lt_trans hLower hId⟩, hLower, hLower⟩

/-
  Of two values that are alike, one with a function that exists
  is equal to the other: only what is new may differ.
-/
theorem eq_of_alike
    (hIntact : heap.Intact made)
    (hCopies : (Pairing.ofExisting heap).Copies heap later)
    {size : Nat}
    (hAlike : Value.Alike (hCopies.extended Eq) size value value')
    (hMade : value.IsMade made) :
    value' = value := by
  induction hAlike with
  | scalar | builtin => rfl
  | returned _ ih => rw [ih hMade]
  | @function number number' _ _ _ _ home home' hNumber hParameters
      hBody hScope =>
      have hOld : number < heap.functions :=
        hIntact.count ▸ (List.getElem?_eq_some_iff.mp hMade).1
      have hHome : home < heap.scopes.size :=
        hIntact.home_lt hMade home rfl
      have hSameNumber : number = number' := by
        rcases hNumber with hSame | ⟨count, hNew, -⟩
        · exact hSame.1
        · exact absurd (Nat.le_add_right _ count)
            (Nat.not_le_of_lt (hNew ▸ hOld))
      have hSameHome : home = home' := by
        rcases hScope.1 with hSame | ⟨count, hNew, -⟩
        · exact hSame.1
        · exact absurd (Nat.le_add_right _ count)
            (Nat.not_le_of_lt (hNew ▸ hHome))
      rw [hSameNumber, hSameHome, Node.eq_of_alikeAll hParameters,
        hBody.eq]

end Heap.Intact

------------------------------------------------------------
-- Calls in a Row
------------------------------------------------------------

/- The heaps that calls lead to, whatever they call with whatever arguments. -/
inductive Heap.CallsLeadTo
    (heap : Heap) :
    Heap → Prop where
  | none :
      CallsLeadTo heap heap
  | call {depth : Nat} {function value : Value}
      {arguments : List Value} {middle after : Heap}
      (hCalls : CallsLeadTo heap middle)
      (hCall :
        applyWithin depth function arguments middle =
          .ok (value, after)) :
      CallsLeadTo heap after

namespace Heap.CallsLeadTo

variable {heap later : Heap}

/- Calls change no scope that exists. -/
theorem untouched
    (hCalls : heap.CallsLeadTo later) :
    heap.Untouched later := by
  induction hCalls with
  | none => exact .refl heap
  | call _ hCall ih =>
      exact ih.trans (applyWithin_untouching _ _ _ _ _ _ hCall)

theorem functions_le
    (hCalls : heap.CallsLeadTo later) :
    heap.functions ≤ later.functions := by
  induction hCalls with
  | none => exact Nat.le_refl _
  | call _ hCall ih =>
      rcases exists_history_of_call hCall with ⟨history, rfl⟩
      exact Nat.le_trans ih (Heap.functions_le_replay _ history)

end Heap.CallsLeadTo

------------------------------------------------------------
-- Calls Again
------------------------------------------------------------

/-
  A value and that of the same call made again: the type and the
  text are the same, and so is the error, if it is one. Unless
  it holds a function that the call has made, it is the value
  again.
-/
structure Value.Recurs
    (made : List Value)
    (first second : Value) :
    Prop where
  shown : first.ShownAlike second
  error : ∀ message, first = .error message ↔ second = .error message
  same : first.IsMade made → second = first

/- A call that has ended ends in the same way after other calls. -/
theorem Heap.Intact.call_recurs
    {made : List Value}
    {heap later after : Heap}
    (hIntact : heap.Intact made)
    (hCalls : heap.CallsLeadTo later)
    {function : Value}
    (hFunction : function.IsMade made)
    {arguments : List Value}
    (hArguments : ∀ argument ∈ arguments, argument.IsMade made)
    {depth : Nat}
    {value : Value}
    (hCall :
      applyWithin depth function arguments heap = .ok (value, after)) :
    ∃ value' last,
      applyWithin depth function arguments later = .ok (value', last) ∧
        value.Recurs made value' := by
  have hCopies := hIntact.copies hCalls.untouched hCalls.functions_le
  have hValues :
      List.Forall₂
        (Value.Alike (Pairing.ofExisting heap) heap.scopes.size)
        arguments arguments :=
    List.forall₂_same.mpr fun argument hArgument =>
      hIntact.alike_self (hArguments argument hArgument)
  have hOutcomes :
      (hCopies.extended Eq).Outcomes False heap.scopes.size
        (Value.Alike (hCopies.extended Eq))
        (applyWithin depth function arguments heap)
        (applyWithin depth function arguments later) :=
    hCopies.apply_lockstep (fun _ _ hSame => hSame)
      (hIntact.alike_self hFunction) hValues depth
  rw [hCall] at hOutcomes
  rcases hOutcomes.of_ok with ⟨value', last, hAgain, -, -, hValue⟩
  refine ⟨value', last, hAgain, ?_, ?_, ?_⟩
  · apply hValue.shown
    rintro mark _ rfl
    rfl
  · exact hValue.error_iff
  · exact hIntact.eq_of_alike hCopies hValue

/-
  Calls are repeatable. An intact heap is what every evaluation
  and every call leaves, from the initial one on, with all that
  they have made behind what was there. If a call of what is
  there ends, then the same call ends right afterwards with a
  value of the same type and the same text, and with the same
  error if it is one; it ends with the same value unless that
  holds a function that the call has made. It does so as well
  after any other calls in any number: no function carries state
  from one call to the next.
-/
theorem calls_are_repeatable :
    Heap.initial.Intact [] ∧
      (∀ made heap scope depth node value after,
        heap.Intact made → scope < heap.scopes.size →
        evaluate depth scope node heap = .ok (value, after) →
          ∃ later,
            made <+: later ∧ after.Intact later ∧
              value.IsMade later) ∧
      ∀ made heap function arguments depth value after,
        heap.Intact made → function.IsMade made →
        (∀ argument ∈ arguments, argument.IsMade made) →
        applyWithin depth function arguments heap =
            .ok (value, after) →
          (∃ later,
            made <+: later ∧ after.Intact later ∧
              value.IsMade later) ∧
          (∃ value' last,
            applyWithin depth function arguments after =
                .ok (value', last) ∧
              value.Recurs made value') ∧
          ∀ later, heap.CallsLeadTo later →
            ∃ value' last,
              applyWithin depth function arguments later =
                  .ok (value', last) ∧
                value.Recurs made value' := by
  refine ⟨.initial, ?_, ?_⟩
  · intro made heap scope depth node value after hIntact hScope hRun
    exact hIntact.of_evaluation hScope hRun
  · intro made heap function arguments depth value after hIntact
      hFunction hArguments hCall
    have hRecurs :
        ∀ later, heap.CallsLeadTo later →
          ∃ value' last,
            applyWithin depth function arguments later =
                .ok (value', last) ∧
              value.Recurs made value' :=
      fun later hCalls =>
        hIntact.call_recurs hCalls hFunction hArguments hCall
    exact ⟨hIntact.of_call hFunction hArguments hCall,
      hRecurs after (.call .none hCall), hRecurs⟩

/-
  A function that makes another one. The second call makes a
  function with another number in another scope, of the same
  text.
-/
theorem calls_are_repeatable_closure :
    let mark : Mark := ⟨"", 1, 1⟩
    let name : Node := .identifier ⟨mark, "x"⟩
    let inner : Node := .block mark [.expressionStatement mark name]
    let body : Node :=
      .block mark [.expressionStatement mark (.function mark [] inner)]
    let definition : Node :=
      .program [.expressionStatement mark (.function mark [name] body)]
    let made : Value := .function 0 [name] body 0
    let heap : Heap := Heap.initial.newFunction.2
    let called (number : Int) (before : Heap) : Heap :=
      (before.newScope (some 0)
        [(.name "x", .integer number)]).2.newFunction.2
    let first : Value := .function 1 [] inner 1
    let second : Value := .function 2 [] inner 2
    evaluate 1 0 definition Heap.initial = .ok (made, heap) ∧
      heap.Intact [made] ∧
      applyWithin 1 made [.integer 5] heap =
        .ok (first, called 5 heap) ∧
      applyWithin 1 made [.integer 5] (called 5 heap) =
        .ok (second, called 5 (called 5 heap)) ∧
      first.equals second = false ∧
      first.Recurs [made] second := by
  intro mark name inner body definition made heap called first second
  have hDefined :
      evaluate 1 0 definition Heap.initial = .ok (made, heap) := by rfl
  have hFirst :
      applyWithin 1 made [.integer 5] heap =
        .ok (first, called 5 heap) := by rfl
  have hSecond :
      applyWithin 1 made [.integer 5] (called 5 heap) =
        .ok (second, called 5 (called 5 heap)) := by rfl
  rcases calls_are_repeatable with ⟨hInitial, hEvaluations, hCalls⟩
  rcases hEvaluations _ _ _ _ _ _ _ hInitial (by decide) hDefined with
    ⟨later, -, hIntact, hMade⟩
  have hLater : later = [made] := by
    have hCount : later.length = 1 := hIntact.count
    rcases List.length_eq_one_iff.mp hCount with ⟨only, rfl⟩
    exact congrArg (fun value => [value]) (Option.some.inj hMade)
  rw [hLater] at hIntact hMade
  rcases hCalls _ _ _ _ _ _ _ hIntact hMade (by simp [Value.IsMade])
    hFirst with ⟨-, hAgain, -⟩
  rcases hAgain with ⟨value', last, hRun, hRecurs⟩
  rw [hSecond] at hRun
  cases hRun
  exact ⟨hDefined, hIntact, hFirst, hSecond, rfl, hRecurs⟩

end MonkeyLang
