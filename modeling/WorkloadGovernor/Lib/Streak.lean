import Mathlib.Data.List.Infix

namespace Streak
variable {α : Type*} [DecidableEq α] {a b : α} {l : List α} {n : Nat}

/-- How often in a row a list ends with `a`. -/
def streak (a : α) (l : List α) : Nat := (l.reverse.takeWhile (· == a)).length

@[simp] theorem streak_nil : streak a [] = 0 := rfl

@[simp] theorem streak_concat_self : streak a (l ++ [a]) = streak a l + 1 := by
  simp [streak]

theorem streak_concat_of_ne (other : b ≠ a) : streak a (l ++ [b]) = 0 := by
  simp [streak, other]

theorem replicate_suffix_iff : List.replicate n a <:+ l ↔ n ≤ streak a l := by
  induction l using List.reverseRecOn generalizing n with
  | nil => simp
  | append_singleton l b ih =>
    cases n with
    | zero => simp
    | succ n =>
      rw [List.replicate_succ', List.suffix_concat_iff]
      by_cases same : b = a
      · subst same
        simp [ih]
      · have other : ¬ a = b := fun equal => same equal.symm
        simp [streak_concat_of_ne same, other]

/-- A first stretch of `n` in a row is complete with the last entry of the list. -/
theorem replicate_infix_concat_iff : List.replicate n a <:+: l ++ [b] ↔
    List.replicate n a <:+: l ∨ n ≤ streak a (l ++ [b]) := by
  rw [List.infix_concat_iff, replicate_suffix_iff]
  exact or_comm

end Streak
