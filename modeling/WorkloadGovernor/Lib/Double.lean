import Mathlib.Algebra.Order.Field.Rat
import Mathlib.Algebra.Order.Field.Power
import Mathlib.Data.Int.Log
import Mathlib.Data.Rat.Floor
import Mathlib.Tactic.Linarith
import Mathlib.Tactic.Positivity

namespace Double

/-- The whole number next to a rational; from half way the even one. -/
def nearestEven (x : ℚ) : ℤ :=
  if x - ⌊x⌋ < 1 / 2 then ⌊x⌋
  else if 1 / 2 < x - ⌊x⌋ then ⌊x⌋ + 1
  else if ⌊x⌋ % 2 = 0 then ⌊x⌋
  else ⌊x⌋ + 1

section Nearest
variable {x y : ℚ} {k : ℤ}

theorem floor_le_nearestEven (x : ℚ) : ⌊x⌋ ≤ nearestEven x := by
  unfold nearestEven
  split_ifs <;> omega

theorem nearestEven_le_floor_succ (x : ℚ) : nearestEven x ≤ ⌊x⌋ + 1 := by
  unfold nearestEven
  split_ifs <;> omega

@[simp] theorem nearestEven_intCast (k : ℤ) : nearestEven k = k := by
  have whole : ((k : ℚ) - ⌊(k : ℚ)⌋) < 1 / 2 := by
    rw [Int.floor_intCast, sub_self]
    norm_num
  rw [nearestEven, if_pos whole, Int.floor_intCast]

theorem nearestEven_mono (le : x ≤ y) : nearestEven x ≤ nearestEven y := by
  rcases (Int.floor_mono le).lt_or_eq with below | same
  · have upper := nearestEven_le_floor_succ x
    have lower := floor_le_nearestEven y
    omega
  · unfold nearestEven
    rw [same]
    split_ifs <;> first | omega | (exfalso; linarith)

theorem le_nearestEven (le : (k : ℚ) ≤ x) : k ≤ nearestEven x := by
  have bound := nearestEven_mono le
  rwa [nearestEven_intCast] at bound

theorem nearestEven_le (le : x ≤ k) : nearestEven x ≤ k := by
  have bound := nearestEven_mono le
  rwa [nearestEven_intCast] at bound

theorem nearestEven_neg (x : ℚ) : nearestEven (-x) = -nearestEven x := by
  by_cases whole : x = ⌊x⌋
  · rw [whole, ← Int.cast_neg, nearestEven_intCast, nearestEven_intCast]
  · have above : ((⌊x⌋ : ℤ) : ℚ) < x := lt_of_le_of_ne (Int.floor_le x) (Ne.symm whole)
    have floor : ⌊-x⌋ = -⌊x⌋ - 1 := by
      rw [Int.floor_eq_iff]
      push_cast
      constructor <;> linarith [Int.lt_floor_add_one x]
    unfold nearestEven
    rw [floor]
    push_cast
    split_ifs <;> first | omega | (exfalso; linarith)

theorem nearestEven_abs_le {m : ℤ} (le : |x| ≤ m) : |nearestEven x| ≤ m := by
  obtain ⟨lower, upper⟩ := abs_le.mp le
  refine abs_le.mpr ⟨le_nearestEven ?_, nearestEven_le upper⟩
  push_cast
  exact lower

end Nearest

/-- The exponent of the last place of a double next to `x`: 53 digits, and none below 2⁻¹⁰⁷⁴. -/
def exponent (x : ℚ) : ℤ := max (Int.log 2 |x| - 52) (-1074)

/-- The double next to `x`, were there no largest one. -/
def nearest (x : ℚ) : ℚ := nearestEven (x / 2 ^ exponent x) * 2 ^ exponent x

section Rounding
variable {x y : ℚ} {m e : ℤ}

theorem two_zpow_pos (e : ℤ) : (0 : ℚ) < 2 ^ e := zpow_pos two_pos e

/-- A multiple of a power of two is one of each smaller power. -/
theorem multiple_of_le {low : ℤ} (le : low ≤ e) (m : ℤ) : ∃ n : ℤ, (m : ℚ) * 2 ^ e = n * 2 ^ low := by
  have split : (e - low).toNat + low = e := by omega
  have power : (2 : ℚ) ^ e = 2 ^ (e - low).toNat * 2 ^ low := by
    rw [← zpow_natCast, ← zpow_add₀ two_ne_zero, split]
  refine ⟨m * 2 ^ (e - low).toNat, ?_⟩
  rw [power]
  push_cast
  rw [mul_assoc]

theorem nearest_le (multiple : x ≤ m * 2 ^ exponent x) : nearest x ≤ m * 2 ^ exponent x := by
  have scaled : x / 2 ^ exponent x ≤ m := (div_le_iff₀ (two_zpow_pos _)).mpr multiple
  have rounded : ((nearestEven (x / 2 ^ exponent x) : ℤ) : ℚ) ≤ m := Int.cast_le.mpr (nearestEven_le scaled)
  exact mul_le_mul_of_nonneg_right rounded (two_zpow_pos _).le

theorem le_nearest (multiple : m * 2 ^ exponent x ≤ x) : m * 2 ^ exponent x ≤ nearest x := by
  have scaled : (m : ℚ) ≤ x / 2 ^ exponent x := (le_div_iff₀ (two_zpow_pos _)).mpr multiple
  have rounded : (m : ℚ) ≤ ((nearestEven (x / 2 ^ exponent x) : ℤ) : ℚ) := Int.cast_le.mpr (le_nearestEven scaled)
  exact mul_le_mul_of_nonneg_right rounded (two_zpow_pos _).le

/-- A value with enough places is its own double. -/
theorem nearest_of_exponent_le (fits : exponent (m * 2 ^ e) ≤ e) : nearest (m * 2 ^ e) = m * 2 ^ e := by
  obtain ⟨n, same⟩ := multiple_of_le fits m
  refine le_antisymm ?_ ?_
  · have upper := nearest_le same.le
    rwa [← same] at upper
  · have lower := le_nearest same.ge
    rwa [← same] at lower

/-- So is a whole number of at most 53 binary digits, scaled by a power of two. -/
theorem nearest_dyadic (digits : |m| < 2 ^ 53) (fine : -1074 ≤ e) : nearest (m * 2 ^ e) = m * 2 ^ e := by
  rcases eq_or_ne m 0 with rfl | nonzero
  · simp [nearest, nearestEven]
  · refine nearest_of_exponent_le (max_le ?_ fine)
    have value : (m : ℚ) * 2 ^ e ≠ 0 := mul_ne_zero (Int.cast_ne_zero.mpr nonzero) (two_zpow_pos e).ne'
    have small : |(m : ℚ)| < 2 ^ (53 : ℤ) := by exact_mod_cast digits
    have below : |(m : ℚ) * 2 ^ e| < 2 ^ (53 + e) := by
      rw [abs_mul, abs_of_pos (two_zpow_pos e), zpow_add₀ two_ne_zero]
      exact mul_lt_mul_of_pos_right small (two_zpow_pos e)
    have log := (Int.lt_zpow_iff_log_lt one_lt_two (abs_pos.mpr value)).mp (by exact_mod_cast below)
    omega

theorem nearest_intCast (digits : |m| < 2 ^ 53) : nearest m = m := by
  have exact := nearest_dyadic digits (by norm_num : (-1074 : ℤ) ≤ 0)
  rwa [zpow_zero, mul_one] at exact

theorem nearest_natCast {n : ℕ} (digits : n < 2 ^ 53) : nearest n = n := by
  have exact := @nearest_intCast n (by rw [Nat.abs_cast]; exact_mod_cast digits)
  exact_mod_cast exact

theorem exponent_mono (positive : 0 < x) (le : x ≤ y) : exponent x ≤ exponent y := by
  have log := Int.log_mono_right (b := 2) positive le
  rw [exponent, exponent, abs_of_pos positive, abs_of_pos (positive.trans_le le)]
  omega

theorem nearest_mono (positive : 0 < x) (le : x ≤ y) : nearest x ≤ nearest y := by
  have later := positive.trans_le le
  rcases (exponent_mono positive le).eq_or_lt with same | below
  · have scaled : x / 2 ^ exponent y ≤ y / 2 ^ exponent y := div_le_div_of_nonneg_right le (two_zpow_pos _).le
    have rounded := (Int.cast_le (R := ℚ)).mpr (nearestEven_mono scaled)
    rw [nearest, same]
    exact mul_le_mul_of_nonneg_right rounded (two_zpow_pos _).le
  · -- a power of two lies between the two, and both roundings keep to their side of it
    have order : Int.log 2 x < Int.log 2 y ∧ exponent x ≤ Int.log 2 y ∧ exponent y ≤ Int.log 2 y := by
      rw [exponent, exponent, abs_of_pos positive, abs_of_pos later] at below ⊢
      omega
    have above : x ≤ ((1 : ℤ) : ℚ) * 2 ^ Int.log 2 y := by
      have reach : x < 2 ^ (Int.log 2 x + 1) := Int.lt_zpow_succ_log_self one_lt_two x
      have steps : (2 : ℚ) ^ (Int.log 2 x + 1) ≤ 2 ^ Int.log 2 y := zpow_le_zpow_right₀ one_le_two (by omega)
      rw [Int.cast_one, one_mul]
      exact reach.le.trans steps
    have under : ((1 : ℤ) : ℚ) * 2 ^ Int.log 2 y ≤ y := by
      rw [Int.cast_one, one_mul]
      exact Int.zpow_log_le_self one_lt_two later
    obtain ⟨n, first⟩ := multiple_of_le order.2.1 1
    obtain ⟨k, second⟩ := multiple_of_le order.2.2 1
    calc nearest x ≤ n * 2 ^ exponent x := nearest_le (first ▸ above)
      _ = k * 2 ^ exponent y := first.symm.trans second
      _ ≤ nearest y := le_nearest (second ▸ under)

theorem nearest_nonneg (nonneg : 0 ≤ x) : 0 ≤ nearest x := by
  have lower := @le_nearest x 0 (by simpa using nonneg)
  simpa using lower

theorem nearest_nonpos (nonpos : x ≤ 0) : nearest x ≤ 0 := by
  have upper := @nearest_le x 0 (by simpa using nonpos)
  simpa using upper

/-- What is next to a whole number is a whole number. -/
theorem nearest_isInt (m : ℤ) : ∃ k : ℤ, nearest m = k := by
  rcases lt_or_ge |m| (2 ^ 53) with small | large
  · exact ⟨m, nearest_intCast small⟩
  · have far : (2 : ℚ) ^ (53 : ℤ) ≤ |(m : ℚ)| := by exact_mod_cast large
    have log : 53 ≤ Int.log 2 |(m : ℚ)| :=
      (Int.zpow_le_iff_le_log one_lt_two ((two_zpow_pos 53).trans_le far)).mp (by exact_mod_cast far)
    have whole : 0 ≤ exponent (m : ℚ) := by
      rw [exponent]
      omega
    obtain ⟨k, same⟩ := multiple_of_le whole (nearestEven ((m : ℚ) / 2 ^ exponent (m : ℚ)))
    refine ⟨k, ?_⟩
    rw [nearest, same, zpow_zero, mul_one]

theorem natCast_le_nearest {n : ℕ} (digits : n < 2 ^ 53) (le : (n : ℚ) ≤ x) : (n : ℚ) ≤ nearest x := by
  rcases Nat.eq_zero_or_pos n with rfl | positive
  · rw [Nat.cast_zero] at le ⊢
    exact nearest_nonneg le
  · have bound := nearest_mono (by exact_mod_cast positive) le
    rwa [nearest_natCast digits] at bound

theorem nearest_le_natCast {n : ℕ} (digits : n < 2 ^ 53) (le : x ≤ n) : nearest x ≤ n := by
  rcases le_or_gt x 0 with nonpos | positive
  · exact (nearest_nonpos nonpos).trans (Nat.cast_nonneg n)
  · have bound := nearest_mono positive le
    rwa [nearest_natCast digits] at bound

theorem exponent_neg (x : ℚ) : exponent (-x) = exponent x := by rw [exponent, exponent, abs_neg]

theorem nearest_neg (x : ℚ) : nearest (-x) = -nearest x := by
  rw [nearest, nearest, exponent_neg, neg_div, nearestEven_neg, Int.cast_neg, neg_mul]

/-- What is rounded is a double. -/
theorem nearest_nearest (x : ℚ) : nearest (nearest x) = nearest x := by
  have fine : -1074 ≤ exponent x := le_max_right _ _
  have scaled : |x / 2 ^ exponent x| ≤ (2 ^ 53 : ℤ) := by
    rcases eq_or_ne x 0 with rfl | nonzero
    · simp
    · have log : Int.log 2 |x| + 1 ≤ 53 + exponent x := by
        rw [exponent]
        omega
      have below : |x| < (2 : ℚ) ^ (Int.log 2 |x| + 1) := Int.lt_zpow_succ_log_self one_lt_two |x|
      have within : |x| ≤ (2 : ℚ) ^ (53 + exponent x) := below.le.trans (zpow_le_zpow_right₀ one_le_two log)
      rw [abs_div, abs_of_pos (two_zpow_pos _), div_le_iff₀ (two_zpow_pos _)]
      rw [zpow_add₀ two_ne_zero] at within
      exact_mod_cast within
  obtain ⟨m, value, digits⟩ : ∃ m : ℤ, nearest x = m * 2 ^ exponent x ∧ |m| ≤ 2 ^ 53 :=
    ⟨_, rfl, nearestEven_abs_le scaled⟩
  rw [value]
  rcases digits.lt_or_eq with small | large
  · exact nearest_dyadic small fine
  · -- the next power of two
    have one_digit : |m / 2 ^ 53| < 2 ^ 53 := by
      rcases abs_eq (by norm_num : (0 : ℤ) ≤ 2 ^ 53) |>.mp large with rfl | rfl <;> decide
    have shifted : (m : ℚ) * 2 ^ exponent x = (m / 2 ^ 53 : ℤ) * 2 ^ (53 + exponent x) := by
      rcases abs_eq (by norm_num : (0 : ℤ) ≤ 2 ^ 53) |>.mp large with rfl | rfl <;>
        rw [zpow_add₀ two_ne_zero] <;> norm_num
    rw [shifted]
    exact nearest_dyadic one_digit (by omega)

/-- A rational that is a double. -/
def IsDouble (x : ℚ) : Prop := nearest x = x ∧ |x| < 2 ^ 1024

end Rounding

end Double
