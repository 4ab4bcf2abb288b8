import Mathlib.Data.List.Basic

universe u v

namespace Retry
variable {α : Type u} {β : Type v}

section Definitions
variable (settle : α → Option β) (answer : Nat → α)

/-- Asks at most `budget` times, the first being the `i`-th time, until an answer settles the matter. -/
def ask : Nat → Nat → Option β
  | _, 0 => none
  | i, budget + 1 =>
    match settle (answer i) with
    | some result => some result
    | none => ask (i + 1) budget

/-- The answers that come in meanwhile. -/
def asked : Nat → Nat → List α
  | _, 0 => []
  | i, budget + 1 =>
    answer i ::
      match settle (answer i) with
      | some _ => []
      | none => asked (i + 1) budget

end Definitions

section Proofs
variable {settle : α → Option β} {answer : Nat → α} {i budget : Nat} {result : β}

theorem ask_eq_none_iff : ask settle answer i budget = none ↔ ∀ j < budget, settle (answer (i + j)) = none := by
  induction budget generalizing i with
  | zero => simp [ask]
  | succ budget ih =>
    rw [ask]
    constructor
    · intro exhausted j bound
      cases first : settle (answer i) with
      | some result =>
        rw [first] at exhausted
        cases exhausted
      | none =>
        rw [first] at exhausted
        cases j with
        | zero => exact first
        | succ j =>
          have later := ih.mp exhausted j (by omega)
          rwa [Nat.add_right_comm, Nat.add_assoc] at later
    · intro silent
      have first := silent 0 (by omega)
      rw [Nat.add_zero] at first
      rw [first]
      refine ih.mpr fun j bound => ?_
      have later := silent (j + 1) (by omega)
      rwa [← Nat.add_assoc, Nat.add_right_comm] at later

/-- Of the answers only the last settles the matter. -/
theorem ask_eq_some_iff :
    ask settle answer i budget = some result ↔ ∃ heard ∈ asked settle answer i budget, settle heard = some result := by
  induction budget generalizing i with
  | zero => simp [ask, asked]
  | succ budget ih =>
    rw [ask, asked]
    cases first : settle (answer i) with
    | some settled => simp [first]
    | none => simp [first, ih]

end Proofs

end Retry
