import Mathlib.Data.List.TakeWhile
import MonkeyLang.Text.Layout

/-
  Texts that are trimmed at both ends: what is left, and what
  stands before and behind it.

  Main declarations:
    * `Text.exists_behind_trimWhile`   (a text and its ends)
    * `Text.trimWhile_append`          (ends that are trimmed)
-/

------------------------------------------------------------
-- Ends of a Text
------------------------------------------------------------

namespace MonkeyLang

namespace Text

variable {drop : Char → Bool}

/- A text is what is trimmed from it, and what is left between. -/
theorem exists_behind_trimWhile
    (drop : Char → Bool)
    (text : List Char) :
    ∃ after,
      text = text.takeWhile drop ++ (trimWhile drop text ++ after) ∧
        ∀ c ∈ after, drop c = true := by
  let back := (text.dropWhile drop).reverse
  refine ⟨(back.takeWhile drop).reverse, ?_, fun c hMem => ?_⟩
  · rw [trimWhile, ← List.reverse_append,
      List.takeWhile_append_dropWhile, List.reverse_reverse,
      List.takeWhile_append_dropWhile]
  · exact List.mem_takeWhile_imp (List.mem_reverse.mp hMem)

/- What is not dropped at the front stays there. -/
theorem exists_trimWhile_cons
    {c : Char}
    (hKeep : drop c = false)
    (rest : List Char) :
    ∃ others, trimWhile drop (c :: rest) = c :: others := by
  unfold trimWhile
  rw [List.dropWhile_cons_of_neg (by simp [hKeep]),
    List.reverse_cons, List.dropWhile_append]
  split
  next => exact ⟨[], by simp [hKeep]⟩
  next => exact ⟨_, by rw [List.reverse_append]; rfl⟩

theorem dropWhile_append_of_head
    {before body : List Char}
    (hBefore : ∀ c ∈ before, drop c = true)
    (hBody : ∀ c ∈ body.head?, drop c = false) :
    (before ++ body).dropWhile drop = body := by
  rw [List.dropWhile_append_of_pos hBefore]
  cases body with
  | nil => rfl
  | cons c rest =>
      rw [List.dropWhile_cons_of_neg (by simp [hBody c rfl])]

/- The ends that are trimmed are the longest ones. -/
theorem trimWhile_append
    {before body after : List Char}
    (hOuter : ∀ c ∈ before ++ after, drop c = true)
    (hSome : body ≠ [])
    (hInner : ∀ c ∈ body, drop c = false) :
    trimWhile drop (before ++ body ++ after) = body := by
  rw [List.forall_mem_append] at hOuter
  have hFront :
      (before ++ body ++ after).dropWhile drop = body ++ after := by
    rw [List.append_assoc]
    refine dropWhile_append_of_head hOuter.1 fun c hHead => ?_
    rw [List.head?_append, List.head?_eq_some_head hSome] at hHead
    cases hHead
    exact hInner _ (List.head_mem hSome)
  rw [trimWhile, hFront, List.reverse_append,
    dropWhile_append_of_head, List.reverse_reverse]
  · simpa using hOuter.2
  · intro c hHead
    exact hInner c (List.mem_reverse.mp (List.mem_of_mem_head? hHead))

end Text

end MonkeyLang
