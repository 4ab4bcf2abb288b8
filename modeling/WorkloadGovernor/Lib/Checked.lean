import Mathlib.Data.UInt

namespace Checked
universe u v w

section Except
variable {ε : Type u} {α : Type v} {β : Type v}

theorem bind_eq_ok {x : Except ε α} {f : α → Except ε β} {r : β} :
    (x >>= f) = .ok r ↔ ∃ a, x = .ok a ∧ f a = .ok r := by
  cases x with
  | error e => simp [bind, Except.bind]
  | ok a => simp [bind, Except.bind]

theorem bind_eq_error {x : Except ε α} {f : α → Except ε β} {e : ε} :
    (x >>= f) = .error e ↔ x = .error e ∨ ∃ a, x = .ok a ∧ f a = .error e := by
  cases x with
  | error e' => simp [bind, Except.bind]
  | ok a => simp [bind, Except.bind]

theorem ok_bind (a : α) (f : α → Except ε β) : (Except.ok a >>= f) = f a := rfl

theorem error_bind (e : ε) (f : α → Except ε β) : (Except.error e >>= f) = .error e := rfl

/-- Two computations with the same first step agree if they agree after its success. -/
theorem bind_congr_ok {x : Except ε α} {f g : α → Except ε β} (same : ∀ a, x = .ok a → f a = g a) :
    (x >>= f) = (x >>= g) := by
  cases x with
  | error e => rfl
  | ok a => exact same a rfl

end Except

section Option
variable {α : Type u} {β : Type v} {f : α → Option β}

/-- Checking all elements of a list succeeds where each check does. -/
theorem mapM_eq_some {xs : List α} {ys : List β} : xs.mapM f = some ys ↔ xs.map f = ys.map some := by
  induction xs generalizing ys with
  | nil =>
    rw [List.mapM_nil, List.map_nil]
    constructor
    · intro same
      cases same
      rfl
    · intro same
      rw [List.map_eq_nil_iff.mp same.symm]
      rfl
  | cons x xs ih =>
    rw [List.mapM_cons, List.map_cons]
    constructor
    · intro checked
      obtain ⟨y, first, checked⟩ := Option.bind_eq_some_iff.mp checked
      obtain ⟨rest, others, checked⟩ := Option.bind_eq_some_iff.mp checked
      cases checked
      rw [List.map_cons, first, ih.mp others]
    · intro same
      obtain ⟨y, rest, rfl, first, others⟩ := List.map_eq_cons_iff.mp same.symm
      refine Option.bind_eq_some_iff.mpr ⟨y, first.symm, ?_⟩
      exact Option.bind_eq_some_iff.mpr ⟨rest, ih.mpr others.symm, rfl⟩

end Option

section U32
variable {ε : Type u} (overflow : ε)

/-- `a + b` on `u32` with overflow checks on. -/
def add (a b : UInt32) : Except ε UInt32 :=
  if a.toNat + b.toNat < 2 ^ 32 then .ok (a + b) else .error overflow

/-- `a - b` on `u32` with overflow checks on. -/
def sub (a b : UInt32) : Except ε UInt32 := if b ≤ a then .ok (a - b) else .error overflow

def saturatingSub (a b : UInt32) : UInt32 := if b ≤ a then a - b else 0

@[simp] theorem toNat_saturatingSub (a b : UInt32) :
    (saturatingSub a b).toNat = a.toNat - b.toNat := by
  unfold saturatingSub
  split
  · rename_i le
    exact UInt32.toNat_sub_of_le a b le
  · rename_i above
    have order := UInt32.lt_iff_toNat_lt.mp (UInt32.not_le.mp above)
    simp only [UInt32.toNat_zero]
    omega

theorem saturatingSub_one_eq_zero {a : UInt32} : saturatingSub a 1 = 0 ↔ a.toNat - 1 = 0 := by
  rw [← UInt32.toNat_inj, toNat_saturatingSub, UInt32.toNat_one, UInt32.toNat_zero]

theorem toNat_add_one {a bound : UInt32} (below : a < bound) : (a + 1).toNat = a.toNat + 1 := by
  have order := UInt32.lt_iff_toNat_lt.mp below
  have limit := bound.toNat_lt
  rw [UInt32.toNat_add, UInt32.toNat_one]
  omega

theorem saturatingSub_add_one {a bound : UInt32} (below : a < bound) : saturatingSub (a + 1) 1 = a := by
  rw [← UInt32.toNat_inj, toNat_saturatingSub, toNat_add_one below, UInt32.toNat_one, Nat.add_sub_cancel]

theorem add_one {a bound : UInt32} (below : a < bound) : add overflow a 1 = .ok (a + 1) := by
  have order := UInt32.lt_iff_toNat_lt.mp below
  have limit := bound.toNat_lt
  unfold add
  rw [if_pos]
  rw [UInt32.toNat_one]
  omega

theorem pos_iff {a : UInt32} : a ≠ 0 ↔ 0 < a.toNat := by
  rw [ne_eq, ← UInt32.toNat_inj, UInt32.toNat_zero]
  omega

theorem sub_one {a : UInt32} (positive : a ≠ 0) : sub overflow a 1 = .ok (saturatingSub a 1) := by
  have order : 1 ≤ a := by
    rw [UInt32.le_iff_toNat_le, UInt32.toNat_one]
    exact pos_iff.mp positive
  simp only [sub, saturatingSub, order, if_true]

end U32

end Checked
