import MonkeyLang.Proofs.Lexing.Numeral
import MonkeyLang.Proofs.Lexing.Tokenization
import MonkeyLang.Proofs.Parsing.Acceptance
import MonkeyLang.Proofs.Word64

/-
  Integer literals. A token is read as one if its text denotes
  a signed 64-bit number, and otherwise there is one error. A
  source that is nothing but a numeral without a sign has one
  token, and its program is the integer.

  Main declarations:
    * `Parse.integerLiteral_eq_some_iff`
    * `tokenize_of_isNumber`
    * `integer_literals_denote_values`
-/

------------------------------------------------------------
-- Tokens
------------------------------------------------------------

namespace MonkeyLang

namespace Parse

theorem integerValue?_eq_some_iff
    {literal : String}
    {value : Int} :
    integerValue? literal = some value ↔
      Numeral.Denotes literal.toList value ∧
        -2 ^ 63 ≤ value ∧ value < 2 ^ 63 := by
  rw [integerValue?, Option.filter_eq_some_iff,
    Numeral.read?_eq_some_iff, Word64.inRange_iff]

theorem integerLiteral_of_some
    {state : ParserState}
    {value : Int}
    (hValue : integerValue? state.current.literal = some value) :
    integerLiteral state =
      (some (.integer state.current.toMark value), state) := by
  rw [integerLiteral, current_bind, hValue]
  rfl

theorem integerLiteral_of_none
    {state : ParserState}
    (hValue : integerValue? state.current.literal = none) :
    integerLiteral state =
      (none,
        state.report
          (.about state.current
            (.badInteger state.current.literal))) := by
  rw [integerLiteral, current_bind, hValue]
  rfl

/- An integer is the result only if it is the value of the token. -/
theorem integerLiteral_eq_some_iff
    {state : ParserState}
    {value : Int} :
    integerLiteral state =
        (some (.integer state.current.toMark value), state) ↔
      integerValue? state.current.literal = some value := by
  refine ⟨fun hRun => ?_, integerLiteral_of_some⟩
  cases hValue : integerValue? state.current.literal with
  | none =>
      rw [integerLiteral_of_none hValue, Prod.mk.injEq] at hRun
      cases hRun.1
  | some found =>
      rw [integerLiteral_of_some hValue] at hRun
      cases hRun
      rfl

end Parse

------------------------------------------------------------
-- Sources
------------------------------------------------------------

/- A source that is a number is one token. -/
theorem tokenize_of_isNumber
    {source : String}
    (hNumber : IsNumber source.toList) :
    tokenize source =
      [⟨⟨source, 1, 1⟩, .int⟩, Token.endAt 1 (source.length + 1)] := by
  have hLine : '\n' ∉ source.toList := by
    intro hMem
    have hContinues :=
      Numeral.continuesWord_of_isNumber hNumber _ hMem
    exact absurd hContinues (by decide)
  have hApart : Apart source.toList [] := ⟨by simp, by simp⟩
  have hToken :
      tokenAfter [] .int source.toList =
        ⟨⟨source, 1, 1⟩, .int⟩ := by
    rw [tokenAfter, String.ofList_toList]
    rfl
  have hEnd :
      endAfter source.toList =
        Token.endAt 1 (source.length + 1) := by
    rw [endAfter, lineAfter_of_line hLine, columnAfter_of_line hLine,
      String.length_toList]
  have hLexed :
      Lexed [] ([] ++ (source.toList ++ []))
        [tokenAfter [] .int source.toList,
          endAfter ([] ++ source.toList ++ [])] :=
    .token .none (.whole (.number hNumber) hApart) (.finish .none)
  rw [tokenize_eq_iff_lexed, ← hToken, ← hEnd]
  simpa using hLexed

/- So is its program one integer, if it has a value in range. -/
theorem parse_of_isNumber
    {source : String}
    {value : Int}
    (hNumber : IsNumber source.toList)
    (hValue : Numeral.read? source = some value)
    (hRange : Word64.inRange value = true) :
    parse source =
      ⟨[.expressionStatement ⟨source, 1, 1⟩
        (.integer ⟨source, 1, 1⟩ value)], []⟩ := by
  have hPrimary :
      Grammar.Primary [⟨⟨source, 1, 1⟩, .int⟩]
        (.integer ⟨source, 1, 1⟩ value) :=
    .integer rfl hValue hRange
  have hExpression :=
    (Grammar.Expression.primary hPrimary).loosen
      (by decide : Grammar.anyLevel ≤ _)
  have hRow :
      Grammar.Statements [⟨⟨source, 1, 1⟩, .int⟩]
        [.expressionStatement ⟨source, 1, 1⟩
          (.integer ⟨source, 1, 1⟩ value)] :=
    .unended (.expression hExpression) .none (by simp)
  rw [parse, tokenize_of_isNumber hNumber]
  exact parseTokens_of_derivable hRow

/-
  An integer literal has the value that its text denotes, if
  that is a signed 64-bit number, and otherwise there is one
  error. Every numeral without a sign for such a number is one
  token of a source, and it is parsed as this number.
-/
theorem integer_literals_denote_values :
    (∀ (state : ParserState) (value : Int),
      Parse.integerLiteral state =
          (some (.integer state.current.toMark value), state) ↔
        Numeral.Denotes state.current.literal.toList value ∧
          -2 ^ 63 ≤ value ∧ value < 2 ^ 63) ∧
    (∀ state : ParserState,
      (¬ ∃ value,
        Numeral.Denotes state.current.literal.toList value ∧
          -2 ^ 63 ≤ value ∧ value < 2 ^ 63) →
        Parse.integerLiteral state =
          (none,
            state.report
              (.about state.current
                (.badInteger state.current.literal)))) ∧
    (∀ (source : String) (n : Nat),
      Numeral.Unsigned source.toList n → n < 2 ^ 63 →
        tokenize source =
            [⟨⟨source, 1, 1⟩, .int⟩,
              Token.endAt 1 (source.length + 1)] ∧
          parse source =
            ⟨[.expressionStatement ⟨source, 1, 1⟩
              (.integer ⟨source, 1, 1⟩ n)], []⟩) := by
  refine ⟨fun state value => ?_, fun state hNone => ?_, ?_⟩
  · rw [Parse.integerLiteral_eq_some_iff,
      Parse.integerValue?_eq_some_iff]
  · refine Parse.integerLiteral_of_none ?_
    rw [Option.eq_none_iff_forall_ne_some]
    intro value hValue
    exact hNone ⟨value, Parse.integerValue?_eq_some_iff.mp hValue⟩
  · intro source n hUnsigned hLess
    have hNumber := hUnsigned.isNumber
    have hDenotes : Numeral.Denotes source.toList n :=
      ⟨[], _, [], by simp, by simp, .plain hUnsigned⟩
    refine ⟨tokenize_of_isNumber hNumber, ?_⟩
    refine
      parse_of_isNumber hNumber (Numeral.read?_eq_some_iff.mpr hDenotes)
        (Word64.inRange_iff.mpr ?_)
    omega

/- A hexadecimal numeral, and a decimal one that begins with zeros. -/
theorem integer_literals_denote_values_hexadecimal :
    let mark : Mark := ⟨"0x_1F", 1, 1⟩
    let zeros : Token := ⟨⟨"007", 1, 1⟩, .int⟩
    let state := ParserState.ofTokens [zeros]
    (tokenize "0x_1F" = [⟨mark, .int⟩, Token.endAt 1 6] ∧
      parse "0x_1F" =
        ⟨[.expressionStatement mark (.integer mark 31)], []⟩) ∧
      Parse.integerLiteral state =
        (none, state.report (.about zeros (.badInteger "007"))) := by
  intro mark zeros state
  have hOne : Numeral.IsDigit 16 '1' 1 :=
    ⟨by decide, .inl (by decide)⟩
  have hFifteen : Numeral.IsDigit 16 'F' 15 :=
    ⟨by decide, .inr ⟨by decide, .inr (by decide)⟩⟩
  have hDigits : Numeral.Attached 16 ['_', '1', 'F'] [1, 15] :=
    .inr ⟨['1', 'F'], rfl, .digit hOne (.last hFifteen)⟩
  have hUnsigned : Numeral.Unsigned ['0', 'x', '_', '1', 'F'] 31 :=
    .based (by decide) (by decide) hDigits
  have hNone : Numeral.read? "007" = none := by decide
  refine
    ⟨integer_literals_denote_values.2.2 "0x_1F" 31 hUnsigned
        (by decide),
      integer_literals_denote_values.2.1 state ?_⟩
  rintro ⟨value, hDenotes, -⟩
  rw [← Numeral.read?_eq_some_iff] at hDenotes
  exact absurd (hNone.symm.trans hDenotes) (by simp)

end MonkeyLang
