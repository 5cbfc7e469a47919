import Mathlib.Algebra.Group.Nat.Defs
import Mathlib.Data.List.TakeWhile
import Mathlib.Tactic.SplitIfs
import MonkeyLang.Document

/-
  Strings and numbers in the text of a document. Whatever is
  written behind a string, it can be told where the string ends
  and which string it is: a quote inside of it is escaped, and
  every escape stands for one character. A number ends where no
  digit follows.

  Main declarations:
    * `Text.hexDigits_inj`
    * `Document.Escape`                (the forms of an escape)
    * `Document.escapedChar_append_inj`
    * `Document.escapedText_append_inj`
    * `Document.eq_of_toString_eq`
    * `Document.numeral_append_inj`
-/

------------------------------------------------------------
-- Hexadecimal Digits
------------------------------------------------------------

namespace MonkeyLang

namespace Text

theorem hexDigit_inj :
    ∀ m < 16, ∀ n < 16, hexDigit m = hexDigit n → m = n := by
  decide

theorem length_hexDigits
    (width n : Nat) :
    (hexDigits width n).length = width := by
  induction width generalizing n with
  | zero => rfl
  | succ width ih => simp [hexDigits, ih]

/- Numbers of at most so many digits have different digits. -/
theorem hexDigits_inj
    {width m n : Nat}
    (hFirst : m < 16 ^ width)
    (hSecond : n < 16 ^ width)
    (hDigits : hexDigits width m = hexDigits width n) :
    m = n := by
  induction width generalizing m n with
  | zero => omega
  | succ width ih =>
      rw [Nat.pow_succ] at hFirst hSecond
      rcases List.append_inj' hDigits rfl with ⟨hHigh, hLow⟩
      have hDiv : m / 16 = n / 16 := ih (by omega) (by omega) hHigh
      have hMod : m % 16 = n % 16 :=
        hexDigit_inj _ (by omega) _ (by omega)
          (List.singleton_inj.1 hLow)
      omega

end Text

------------------------------------------------------------
-- Characters
------------------------------------------------------------

namespace Document

theorem unitEscape_append_inj
    {m n : Nat}
    {rest rest' : List Char}
    (hFirst : m < 0x10000)
    (hSecond : n < 0x10000)
    (hText : unitEscape m ++ rest = unitEscape n ++ rest') :
    m = n ∧ rest = rest' := by
  rcases List.append_inj hText
      (by simp [unitEscape, Text.length_hexDigits]) with
    ⟨hUnits, hRest⟩
  simp only [unitEscape, List.cons.injEq, true_and] at hUnits
  exact ⟨Text.hexDigits_inj hFirst hSecond hUnits, hRest⟩

/- The character that a backslash and a letter stand for. -/
def unescaped
    (letter : Char) :
    Char :=
  match letter with
  | 'n' => '\n'
  | 'r' => '\r'
  | 't' => '\t'
  | 'b' => '\x08'
  | 'f' => '\x0c'
  | other => other

/-
  The forms in which characters are written: as they are, by a
  letter, by one UTF-16 unit or by a pair of them.
-/
inductive Escape : Char → List Char → Prop where
  | plain {c : Char}
      (hQuote : c ≠ '"')
      (hBackslash : c ≠ '\\') :
      Escape c [c]
  | letter (letter : Char)
      (hLetter : letter ≠ 'u') :
      Escape (unescaped letter) ['\\', letter]
  | unit {c : Char}
      (hUnit : c.toNat < 0x10000) :
      Escape c (unitEscape c.toNat)
  | pair {c : Char}
      (hPair : 0x10000 ≤ c.toNat) :
      Escape c
        (unitEscape (0xd800 + (c.toNat - 0x10000) / 0x400) ++
          unitEscape (0xdc00 + (c.toNat - 0x10000) % 0x400))

theorem escape_escapedChar
    (c : Char) :
    Escape c (escapedChar c) := by
  unfold escapedChar
  split_ifs with hSpecial hFeed hReturn hTab hBack hForm hPlain hUnit
  · rw [Bool.or_eq_true, decide_eq_true_iff, decide_eq_true_iff] at hSpecial
    rcases hSpecial with rfl | rfl
    · exact .letter '"' (by decide)
    · exact .letter '\\' (by decide)
  · subst hFeed
    exact .letter 'n' (by decide)
  · subst hReturn
    exact .letter 'r' (by decide)
  · subst hTab
    exact .letter 't' (by decide)
  · subst hBack
    exact .letter 'b' (by decide)
  · subst hForm
    exact .letter 'f' (by decide)
  · simp only [Bool.or_eq_true, decide_eq_true_iff, not_or] at hSpecial
    exact .plain hSpecial.1 hSpecial.2
  · exact .unit hUnit
  · exact .pair (by omega)

/- No character is half of a pair. -/
theorem toNat_bounds
    (c : Char) :
    c.toNat < 0xd800 ∨ 0xdfff < c.toNat ∧ c.toNat < 0x110000 :=
  c.valid

/- An escape tells where it ends and which character it is of. -/
theorem Escape.append_inj
    {c d : Char}
    {first second rest rest' : List Char}
    (hFirst : Escape c first)
    (hSecond : Escape d second)
    (hText : first ++ rest = second ++ rest') :
    c = d ∧ rest = rest' := by
  have hBounds := toNat_bounds c
  have hBounds' := toNat_bounds d
  cases hFirst with
  | plain hQuote hBackslash =>
      cases hSecond with
      | plain => simpa using hText
      | letter | unit | pair =>
          simp [unitEscape, hBackslash] at hText
  | letter letter hLetter =>
      cases hSecond with
      | plain _ hBackslash => simp [hBackslash.symm] at hText
      | letter =>
          simp only [List.cons_append, List.nil_append, List.cons.injEq,
            true_and] at hText
          exact ⟨congrArg unescaped hText.1, hText.2⟩
      | unit | pair => simp [unitEscape, hLetter] at hText
  | unit hUnit =>
      cases hSecond with
      | plain _ hBackslash => simp [unitEscape, hBackslash.symm] at hText
      | letter _ hLetter => simp [unitEscape, hLetter.symm] at hText
      | unit hUnit' =>
          rcases unitEscape_append_inj hUnit hUnit' hText with
            ⟨hSame, hRest⟩
          exact ⟨Char.toNat_inj.1 hSame, hRest⟩
      | pair hPair =>
          rw [List.append_assoc] at hText
          rcases unitEscape_append_inj hUnit (by omega) hText with
            ⟨hHalf, -⟩
          omega
  | pair hPair =>
      cases hSecond with
      | plain _ hBackslash => simp [unitEscape, hBackslash.symm] at hText
      | letter _ hLetter => simp [unitEscape, hLetter.symm] at hText
      | unit hUnit =>
          rw [List.append_assoc] at hText
          rcases unitEscape_append_inj (by omega) hUnit hText with
            ⟨hHalf, -⟩
          omega
      | pair hPair' =>
          rw [List.append_assoc, List.append_assoc] at hText
          rcases unitEscape_append_inj (by omega) (by omega) hText with
            ⟨hHigh, hText⟩
          rcases unitEscape_append_inj (by omega) (by omega) hText with
            ⟨hLow, hRest⟩
          exact ⟨Char.toNat_inj.1 (by omega), hRest⟩

/- No escape begins with a quote. -/
theorem Escape.head_ne_quote
    {c : Char}
    {text rest rest' : List Char}
    (hEscape : Escape c text) :
    '"' :: rest ≠ text ++ rest' := by
  cases hEscape with
  | plain hQuote => simp [hQuote.symm]
  | letter | unit | pair => simp [unitEscape]

------------------------------------------------------------
-- Strings
------------------------------------------------------------

/- The first quote that is no escape's ends a string. -/
theorem flatMap_escapedChar_inj
    {first second rest rest' : List Char}
    (hText :
      first.flatMap escapedChar ++ '"' :: rest =
        second.flatMap escapedChar ++ '"' :: rest') :
    first = second ∧ rest = rest' := by
  induction first generalizing second with
  | nil =>
      cases second with
      | nil => simpa using hText
      | cons d others =>
          rw [List.flatMap_cons, List.append_assoc] at hText
          exact absurd hText (escape_escapedChar d).head_ne_quote
  | cons c others ih =>
      cases second with
      | nil =>
          rw [List.flatMap_cons, List.append_assoc] at hText
          exact absurd hText.symm (escape_escapedChar c).head_ne_quote
      | cons d others' =>
          rw [List.flatMap_cons, List.flatMap_cons, List.append_assoc,
            List.append_assoc] at hText
          rcases (escape_escapedChar c).append_inj (escape_escapedChar d)
              hText with ⟨rfl, hOthers⟩
          rcases ih hOthers with ⟨rfl, hRest⟩
          exact ⟨rfl, hRest⟩

theorem escapedText_append_inj
    {first second : String}
    {rest rest' : List Char}
    (hText :
      (escapedText first).toList ++ rest =
        (escapedText second).toList ++ rest') :
    first = second ∧ rest = rest' := by
  simp only [escapedText, String.toList_ofList, List.cons_append,
    List.append_assoc, List.nil_append, List.cons.injEq,
    true_and] at hText
  rcases flatMap_escapedChar_inj hText with ⟨hSame, hRest⟩
  exact ⟨String.toList_inj.1 hSame, hRest⟩

------------------------------------------------------------
-- Numbers
------------------------------------------------------------

/- Whether a character may belong to a number. -/
def isNumeral
    (c : Char) :
    Bool :=
  c = '-' || c.isDigit

/- A text that does not go on with a number. -/
def EndsNumeral
    (rest : List Char) :
    Prop :=
  ∀ c ∈ rest.head?, isNumeral c = false

theorem isDigit_of_mem_repr
    {n : Nat}
    {c : Char}
    (hMember : c ∈ n.repr.toList) :
    c.isDigit = true := by
  rw [Nat.repr_eq_ofList_toDigits, String.toList_ofList] at hMember
  exact Nat.isDigit_of_mem_toDigits (by decide) (by decide) hMember

/- The number that is written by digits, or by a minus sign and digits. -/
def numeralValue
    (text : List Char) :
    Int :=
  match text with
  | '-' :: digits => -Nat.ofDigitChars 10 digits 0
  | digits => Nat.ofDigitChars 10 digits 0

theorem numeralValue_repr
    (n : Nat) :
    numeralValue n.repr.toList = n ∧
      numeralValue ('-' :: n.repr.toList) = -n := by
  have hDigits : Nat.ofDigitChars 10 n.repr.toList 0 = n := by
    rw [Nat.repr_eq_ofList_toDigits, String.toList_ofList]
    exact Nat.ofDigitChars_ten_toDigits
  constructor
  · unfold numeralValue
    split
    next digits hText =>
      have hMinus : '-' ∈ n.repr.toList := by simp [hText]
      cases isDigit_of_mem_repr hMinus
    next => rw [hDigits]
  · rw [numeralValue, hDigits]

theorem numeralValue_toString
    (value : Int) :
    numeralValue (toString value).toList = value := by
  change numeralValue value.repr.toList = value
  rw [Int.repr_eq_if]
  split
  next hSign =>
    rw [(numeralValue_repr _).1]
    exact Int.toNat_of_nonneg hSign
  next hSign =>
    rw [String.toList_append]
    refine (numeralValue_repr _).2.trans ?_
    omega

/- No two numbers are written in the same way. -/
theorem eq_of_toString_eq
    {first second : Int}
    (hText : (toString first).toList = (toString second).toList) :
    first = second := by
  rw [← numeralValue_toString first, hText, numeralValue_toString]

theorem isNumeral_of_mem_toString
    (value : Int)
    {c : Char}
    (hMember : c ∈ (toString value).toList) :
    isNumeral c = true := by
  change c ∈ value.repr.toList at hMember
  rw [Int.repr_eq_if] at hMember
  split at hMember
  · simp [isNumeral, isDigit_of_mem_repr hMember]
  · rw [String.toList_append, List.mem_append] at hMember
    rcases hMember with hSign | hDigit
    · rw [List.mem_singleton.1 hSign]
      rfl
    · simp [isNumeral, isDigit_of_mem_repr hDigit]

/- No number is written by nothing. -/
theorem exists_toString_eq_cons
    (value : Int) :
    ∃ c others,
      isNumeral c = true ∧ (toString value).toList = c :: others := by
  have hSome : (toString value).toList ≠ [] := by
    change value.repr.toList ≠ []
    rw [Int.repr_eq_if]
    split <;> simp
  rcases List.exists_cons_of_ne_nil hSome with ⟨c, others, hText⟩
  refine ⟨c, others, isNumeral_of_mem_toString value ?_, hText⟩
  rw [hText]
  exact List.mem_cons_self

/- A number goes up to where the text does not go on with it. -/
theorem takeWhile_isNumeral
    (value : Int)
    {rest : List Char}
    (hRest : EndsNumeral rest) :
    ((toString value).toList ++ rest).takeWhile isNumeral =
      (toString value).toList := by
  rw [List.takeWhile_append_of_pos fun c => isNumeral_of_mem_toString value]
  cases rest with
  | nil => simp
  | cons c others =>
      rw [List.takeWhile_cons_of_neg (by simp [hRest c rfl]),
        List.append_nil]

theorem numeral_append_inj
    {first second : Int}
    {rest rest' : List Char}
    (hRest : EndsNumeral rest)
    (hRest' : EndsNumeral rest')
    (hText :
      (toString first).toList ++ rest =
        (toString second).toList ++ rest') :
    first = second ∧ rest = rest' := by
  have hNumeral := congrArg (List.takeWhile isNumeral) hText
  rw [takeWhile_isNumeral first hRest, takeWhile_isNumeral second hRest']
    at hNumeral
  rw [hNumeral, List.append_cancel_left_eq] at hText
  exact ⟨eq_of_toString_eq hNumeral, hText⟩

end Document

end MonkeyLang
