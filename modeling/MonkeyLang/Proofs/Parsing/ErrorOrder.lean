import MonkeyLang.Proofs.Lexing.Tokenization
import MonkeyLang.Proofs.Parsing.EarliestError
import MonkeyLang.Proofs.Printing.Escape

/-
  Syntax errors come in the order of the source. An error is
  about the current token or about the next one, and whoever has
  complained about the next one goes on to it before anything
  else is reported. The tokens of a source stand in order, and
  so do the places that the messages name.

  Main declarations:
    * `NotBehind`             (the order of places in a text)
    * `SyntaxError.Names`     (the place that a message names)
    * `parseTokens_ordered`   (errors of tokens in order)
    * `messages_in_source_order`
-/

------------------------------------------------------------
-- Places in Order
------------------------------------------------------------

namespace MonkeyLang

/-
  One place is not behind another: its line comes first, or
  they are on one line and its column comes no later.
-/
def NotBehind
    (first second : Int × Int) :
    Prop :=
  first.1 < second.1 ∨ first.1 = second.1 ∧ first.2 ≤ second.2

theorem NotBehind.refl
    (place : Int × Int) :
    NotBehind place place :=
  .inr ⟨rfl, Int.le_refl _⟩

theorem NotBehind.trans
    {first second third : Int × Int}
    (hFirst : NotBehind first second)
    (hSecond : NotBehind second third) :
    NotBehind first third := by
  unfold NotBehind at *
  omega

/- The place behind some text. -/
def placeAfter
    (before : List Char) :
    Int × Int :=
  (lineAfter before, columnAfter before)

/- More text does not lead back. -/
theorem notBehind_placeAfter
    (before more : List Char) :
    NotBehind (placeAfter before) (placeAfter (before ++ more)) := by
  induction more generalizing before with
  | nil =>
      rw [List.append_nil]
      exact .refl _
  | cons c more ih =>
      have hStep :
          NotBehind (placeAfter before) (placeAfter (before ++ [c])) := by
        unfold NotBehind placeAfter
        rw [lineAfter_concat, columnAfter_concat]
        split <;> dsimp only <;> omega
      have hMore := ih (before ++ [c])
      rw [List.append_assoc] at hMore
      exact hStep.trans hMore

namespace Lexed

variable {before text : List Char} {tokens : List Token}

/- Every token stands behind some of the text. -/
theorem exists_placeAfter
    (hLexed : Lexed before text tokens) :
    ∀ token ∈ tokens,
      ∃ passed, token.place = placeAfter (before ++ passed) := by
  induction hLexed with
  | @finish before gap =>
      intro token hToken
      rw [List.mem_singleton.mp hToken]
      exact ⟨gap, rfl⟩
  | @token before gap source after literal kind _ _ _ _ ih =>
      rw [List.forall_mem_cons]
      refine ⟨⟨gap, rfl⟩, fun token hToken => ?_⟩
      rcases ih token hToken with ⟨passed, hPlace⟩
      refine ⟨gap ++ (source ++ passed), ?_⟩
      simpa only [List.append_assoc] using hPlace

theorem pairwise_place
    (hLexed : Lexed before text tokens) :
    (tokens.map Token.place).Pairwise NotBehind := by
  induction hLexed with
  | finish => exact List.pairwise_singleton _ _
  | @token before gap source after literal kind tokens _ _ hRest ih =>
      rw [List.map_cons, List.pairwise_cons]
      refine ⟨?_, ih⟩
      intro place hPlace
      rcases List.mem_map.mp hPlace with ⟨token, hToken, rfl⟩
      rcases hRest.exists_placeAfter token hToken with ⟨passed, hLater⟩
      rw [hLater, List.append_assoc]
      exact notBehind_placeAfter (before ++ gap) (source ++ passed)

end Lexed

/- The endless tokens stay at the place of the last one. -/
theorem place_endless
    {tokens : List Token}
    (hSome : tokens ≠ [])
    (index : Nat) :
    ∃ hIndex :
        min index (tokens.length - 1) <
          (tokens.map Token.place).length,
      (endless tokens index).place =
        (tokens.map Token.place)[min index (tokens.length - 1)] := by
  have hLength := List.length_pos_iff.mpr hSome
  refine ⟨by rw [List.length_map]; omega, ?_⟩
  rw [List.getElem_map]
  unfold endless
  by_cases hIndex : index < tokens.length
  · have hMin : min index (tokens.length - 1) = index := by omega
    simp only [hMin, List.getElem?_eq_getElem hIndex]
  · have hMin : min index (tokens.length - 1) = tokens.length - 1 := by
      omega
    have hLast := List.getLast?_eq_getElem? (l := tokens)
    rw [List.getElem?_eq_getElem (by omega)] at hLast
    simp only [hMin, List.getElem?_eq_none (Nat.le_of_not_lt hIndex), hLast]
    rfl

theorem endless_ordered
    {tokens : List Token}
    (hOrdered : (tokens.map Token.place).Pairwise NotBehind)
    {low high : Nat}
    (hOrder : low ≤ high) :
    NotBehind (endless tokens low).place (endless tokens high).place := by
  by_cases hSome : tokens = []
  · subst hSome
    exact .refl _
  · rcases place_endless hSome low with ⟨hLow, hLowPlace⟩
    rcases place_endless hSome high with ⟨hHigh, hHighPlace⟩
    rw [hLowPlace, hHighPlace]
    rcases Nat.lt_or_ge (min low (tokens.length - 1))
        (min high (tokens.length - 1)) with hLess | hMore
    · exact List.pairwise_iff_getElem.mp hOrdered _ _ hLow hHigh hLess
    · have hSame :
          min low (tokens.length - 1) = min high (tokens.length - 1) := by
        omega
      simp only [hSame]
      exact .refl _

------------------------------------------------------------
-- Errors in Order
------------------------------------------------------------

/- The place that an error is about. -/
def SyntaxError.place
    (error : SyntaxError) :
    Int × Int :=
  (error.line, error.column)

/- On tokens in order, errors are reported in order. -/
theorem parseTokens_ordered
    {tokens : List Token}
    (hOrdered : (tokens.map Token.place).Pairwise NotBehind) :
    ((parseTokens tokens).errors.map SyntaxError.place).Pairwise
      NotBehind := by
  let depth := Parse.sufficientDepth (.ofTokens tokens)
  rcases
      Parse.programStatementsWith_watches
        (Parse.statementWithin_watches depth) depth
        (.ofTokens tokens) with
    ⟨value?, passed, errors, indices, hAccount⟩
  have hErrors : (parseTokens tokens).errors = errors := by
    have hRun := hAccount.run
    rw [Parse.programStatements_agrees_of_le (Nat.le_refl _)] at hRun
    rw [errors_parseTokens, hRun]
    exact List.nil_append _
  have hPlaces :
      errors.map SyntaxError.place =
        indices.map fun index => (endless tokens index).place := by
    have hConcerns := hAccount.concerns
    clear hAccount hErrors
    induction hConcerns with
    | nil => rfl
    | @cons error index _ _ hFirst _ ih =>
        rw [ParserState.tokenAt_ofTokens] at hFirst
        rw [List.map_cons, List.map_cons, ih]
        exact congrArg (· :: _) (Prod.ext hFirst.1 hFirst.2)
  rw [hErrors, hPlaces, List.pairwise_map]
  exact hAccount.ordered.imp fun hOrder => endless_ordered hOrdered hOrder

------------------------------------------------------------
-- Places in Messages
------------------------------------------------------------

/- A message names a place if it ends with it. -/
def SyntaxError.Names
    (message : String)
    (place : Int × Int) :
    Prop :=
  ∃ text,
    message =
      text ++ " at line " ++ toString place.1 ++
        ", col " ++ toString place.2

/- What stands behind the last blank of a text. -/
theorem eq_of_append_blank_eq
    {front front' word word' : List Char}
    (hWord : ' ' ∉ word)
    (hWord' : ' ' ∉ word')
    (hText : front ++ ' ' :: word = front' ++ ' ' :: word') :
    front = front' ∧ word = word' := by
  rcases List.append_eq_append_iff.mp hText with
    ⟨more, rfl, hMore⟩ | ⟨more, rfl, hMore⟩
  · cases more with
    | nil => simpa using hMore
    | cons c more =>
        refine absurd ?_ hWord
        rw [(List.cons.inj hMore).2]
        simp
  · cases more with
    | nil => simpa [eq_comm] using hMore
    | cons c more =>
        refine absurd ?_ hWord'
        rw [(List.cons.inj hMore).2]
        simp

theorem not_mem_toString
    (value : Int) :
    ' ' ∉ (toString value).toList := by
  intro hMember
  have hNumeral := Document.isNumeral_of_mem_toString value hMember
  exact absurd hNumeral (by decide)

/- A message names one place only. -/
theorem SyntaxError.Names.unique
    {message : String}
    {first second : Int × Int}
    (hFirst : Names message first)
    (hSecond : Names message second) :
    first = second := by
  -- The column is the last word, the line the one before "col".
  have hWords :
      ∀ (text : String) (place : Int × Int),
        (text ++ " at line " ++ toString place.1 ++
            ", col " ++ toString place.2).toList =
          ((text ++ " at line").toList ++
              ' ' :: ((toString place.1).toList ++ [',']) ++
            ' ' :: ['c', 'o', 'l']) ++
          ' ' :: (toString place.2).toList := by
    intro text place
    simp
  rcases hFirst with ⟨text, rfl⟩
  rcases hSecond with ⟨text', hText⟩
  have hList := congrArg String.toList hText
  rw [hWords, hWords] at hList
  rcases eq_of_append_blank_eq (not_mem_toString _) (not_mem_toString _)
      hList with ⟨hFront, hColumn⟩
  have hLines :=
    (eq_of_append_blank_eq (by decide) (by decide) hFront).1
  have hComma : ∀ value : Int, ' ' ∉ (toString value).toList ++ [','] := by
    intro value hMember
    rcases List.mem_append.mp hMember with hDigit | hLast
    · exact not_mem_toString value hDigit
    · exact absurd hLast (by decide)
  have hLine := (eq_of_append_blank_eq (hComma _) (hComma _) hLines).2
  rw [List.append_cancel_right_eq] at hLine
  exact
    Prod.ext (Document.eq_of_toString_eq hLine)
      (Document.eq_of_toString_eq hColumn)

theorem SyntaxError.names_message
    (error : SyntaxError) :
    Names error.message error.place :=
  ⟨error.cause.message, rfl⟩

/-
  Every message about a source names a place in it, and no
  message names one that is behind the place of a later message.
-/
theorem messages_in_source_order
    (source : String) :
    (∀ message ∈ (parse source).messages,
      ∃ place, SyntaxError.Names message place) ∧
      (parse source).messages.Pairwise fun first second =>
        ∀ place other,
          SyntaxError.Names first place →
            SyntaxError.Names second other → NotBehind place other := by
  rcases exists_lexed [] source.toList with ⟨tokens, hLexed⟩
  have hTokens : tokenize source = tokens := tokenize_eq_iff_lexed.mpr hLexed
  have hErrors :
      ((parse source).errors.map SyntaxError.place).Pairwise
        NotBehind := by
    unfold parse
    rw [hTokens]
    exact parseTokens_ordered hLexed.pairwise_place
  unfold Parsed.messages
  constructor
  · intro message hMessage
    rcases List.mem_map.mp hMessage with ⟨error, -, rfl⟩
    exact ⟨error.place, error.names_message⟩
  · rw [List.pairwise_map] at hErrors ⊢
    refine hErrors.imp fun {first second} hOrder => ?_
    intro place other hPlace hOther
    rw [hPlace.unique first.names_message,
      hOther.unique second.names_message]
    exact hOrder

end MonkeyLang
