import MonkeyLang.Proofs.Parsing.Grammar

/-
  How the levels of the grammar and the precedences of the
  parser fit together.

  Main declarations:
    * `Grammar.Expression.loosen`   (an expression of looser levels)
    * `Parse.levelAbove`            (what is read for a precedence)
-/

------------------------------------------------------------
-- Levels and Precedences
------------------------------------------------------------

namespace MonkeyLang

/- An expression of a level is one of every looser level. -/
theorem Grammar.Expression.loosen
    {low high : Nat}
    {tokens : List Token}
    {node : Node}
    (hLevel : low ≤ high)
    (hExpression : Grammar.Expression high tokens node) :
    Grammar.Expression low tokens node := by
  induction hLevel with
  | refl => exact hExpression
  | step _ ih => exact ih (.tighter hExpression)

/- What may be called stands wherever an expression does. -/
theorem Grammar.Expression.anywhere
    {tokens : List Token}
    {node : Node}
    (hExpression : Grammar.Expression Grammar.callLevel tokens node) :
    Grammar.Expression Grammar.anyLevel tokens node :=
  hExpression.loosen (by decide)

namespace Parse

/-
  The level of the expressions that are read for a precedence:
  the one above it, and at most that of unary operators.
-/
def levelAbove
    (precedence : Precedence) :
    Nat :=
  min (precedence.level + 1) Grammar.unaryLevel

theorem levelAbove_le_unaryLevel
    (precedence : Precedence) :
    levelAbove precedence ≤ Grammar.unaryLevel :=
  Nat.min_le_right _ _

theorem level_le_callLevel
    (precedence : Precedence) :
    precedence.level ≤ Grammar.callLevel := by
  cases precedence <;> decide

theorem level_le_unaryLevel
    {precedence : Precedence}
    (hPrecedence : precedence ≠ .call) :
    precedence.level ≤ Grammar.unaryLevel := by
  revert hPrecedence
  cases precedence <;> decide

/- What binary operators bind like. -/
theorem level_of_binary
    {kind : TokenKind}
    (hExtension : extension? kind = some .binary) :
    kind ∈ Grammar.binaryOperatorsAt (precedenceOf kind).level ∧
      levelAbove (precedenceOf kind) =
        (precedenceOf kind).level + 1 := by
  revert hExtension
  cases kind <;> decide

theorem kind_of_call
    {kind : TokenKind}
    (hExtension : extension? kind = some .call) :
    kind = .lparen := by
  revert hExtension
  cases kind <;> decide

/- What binds tighter than something extends an expression. -/
theorem level_of_extension?_none
    {kind : TokenKind}
    (hExtension : extension? kind = none)
    (precedence : Precedence) :
    (precedenceOf kind).level ≤ precedence.level := by
  have hLowest : precedenceOf kind = .lowest := by
    revert hExtension
    cases kind <;> decide
  rw [hLowest]
  cases precedence <;> decide

theorem ne_eof_of_extension?
    {kind : TokenKind}
    {extension : Extension}
    (hExtension : extension? kind = some extension) :
    kind ≠ .eof := by
  rintro rfl
  have hNone : extension? .eof = none := by decide
  simp [hNone] at hExtension

/- An expression stays as it is before what binds no tighter. -/
theorem level_of_not_tighter
    {kind : TokenKind}
    {precedence : Precedence}
    (hStay :
      ¬ (kind ≠ .semicolon ∧ precedence < precedenceOf kind)) :
    (precedenceOf kind).level ≤ precedence.level := by
  by_cases hSemicolon : kind = .semicolon
  · rw [hSemicolon]
    cases precedence <;> decide
  · exact Nat.le_of_not_lt fun hTighter => hStay ⟨hSemicolon, hTighter⟩

theorem mayFollow_of_level
    (statement : Node)
    {kind : TokenKind}
    (hLevel : (precedenceOf kind).level ≤ Precedence.lowest.level) :
    Grammar.MayFollow statement kind := by
  have hKind : kind ≠ .lparen ∧ kind ≠ .minus := by
    revert hLevel
    cases kind <;> decide
  unfold Grammar.MayFollow
  split
  · trivial
  · exact hKind

/- What binary operators are like. -/
theorem of_mem_binaryOperatorsAt
    {level : Nat}
    {kind : TokenKind}
    (hKind : kind ∈ Grammar.binaryOperatorsAt level) :
    extension? kind = some .binary ∧
      (precedenceOf kind).level = level ∧
      level < Grammar.unaryLevel ∧ kind ≠ .elseWord := by
  unfold Grammar.binaryOperatorsAt at hKind
  split at hKind
  all_goals
    simp only [List.mem_cons, List.not_mem_nil, or_false] at hKind
  all_goals rcases hKind with rfl | rfl <;> decide

end Parse

end MonkeyLang
