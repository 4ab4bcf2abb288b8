import Mathlib.Data.Set.Card

/-- A set next to a counter of its members. -/
structure Tally (K : Type) where
  members : Set K
  counter : Option Nat

namespace Tally
variable {K : Type}

def count (tally : Tally K) : Nat := tally.counter.getD 0

def enrol (tally : Tally K) (k : K) : Tally K := ⟨insert k tally.members, some (tally.count + 1)⟩

/-- A counter that would reach zero is dropped. -/
def dismiss (tally : Tally K) (k : K) : Tally K :=
  ⟨tally.members \ {k}, if tally.count - 1 = 0 then none else some (tally.count - 1)⟩

/-- What can happen to a tally. -/
inductive Op (K : Type) where
  | idle
  | enrol (k : K)
  | dismiss (k : K)

def apply (tally : Tally K) : Op K → Tally K
  | .idle => tally
  | .enrol k => tally.enrol k
  | .dismiss k => tally.dismiss k

/-- What an operation does to the set of members. -/
def Op.on : Op K → Set K → Set K
  | .idle, members => members
  | .enrol k, members => insert k members
  | .dismiss k, members => members \ {k}

/-- Only a stranger is enrolled, and only a member dismissed. -/
def Legal (tally : Tally K) : Op K → Prop
  | .idle => True
  | .enrol k => k ∉ tally.members
  | .dismiss k => k ∈ tally.members

/-- The counter is the number of members, and is kept only while there are any. -/
structure Exact (tally : Tally K) : Prop where
  finite : tally.members.Finite
  counted : tally.members.ncard = tally.count
  kept : tally.counter.isSome ↔ 0 < tally.count

variable {tally : Tally K} {k : K}

theorem blank_exact : (⟨∅, none⟩ : Tally K).Exact where
  finite := Set.finite_empty
  counted := by simp [count]
  kept := by simp [count]

theorem count_enrol : (tally.enrol k).count = tally.count + 1 := rfl

theorem count_dismiss : (tally.dismiss k).count = tally.count - 1 := by
  have value : ∀ n : Nat, (if n = 0 then none else some n : Option Nat).getD 0 = n := by
    intro n
    cases n <;> rfl
  exact value _

theorem members_apply (op : Op K) : (tally.apply op).members = op.on tally.members := by
  cases op with
  | idle => rfl
  | enrol k => rfl
  | dismiss k => rfl

/-- Only an enrolment adds a member. -/
theorem Op.mem_on {op : Op K} {members : Set K} (member : k ∈ op.on members) : k ∈ members ∨ op = .enrol k := by
  cases op with
  | idle => exact Or.inl member
  | enrol j =>
    rcases Set.mem_insert_iff.mp member with fresh | old
    · exact Or.inr (by rw [fresh])
    · exact Or.inl old
  | dismiss j => exact Or.inl member.1

/-- Only an enrolment raises the counter. -/
theorem count_apply (op : Op K) : (tally.apply op).count ≤ tally.count ∨ ∃ k, op = .enrol k := by
  cases op with
  | idle => exact Or.inl le_rfl
  | enrol k => exact Or.inr ⟨k, rfl⟩
  | dismiss k => exact Or.inl (count_dismiss.trans_le (Nat.sub_le _ _))

theorem Exact.count_pos (exact_count : tally.Exact) (member : k ∈ tally.members) : 0 < tally.count := by
  rw [← exact_count.counted]
  exact (Set.ncard_pos exact_count.finite).mpr ⟨k, member⟩

theorem enrol_exact (exact_count : tally.Exact) (fresh : k ∉ tally.members) : (tally.enrol k).Exact where
  finite := exact_count.finite.insert k
  counted := by
    rw [count_enrol, ← exact_count.counted]
    exact Set.ncard_insert_of_notMem fresh exact_count.finite
  kept := by
    rw [count_enrol]
    simp [enrol]

theorem dismiss_exact (exact_count : tally.Exact) (member : k ∈ tally.members) :
    (tally.dismiss k).Exact where
  finite := exact_count.finite.sdiff
  counted := by
    have fewer := Set.ncard_sdiff_singleton_add_one member exact_count.finite
    have counted := exact_count.counted
    rw [count_dismiss]
    simp only [dismiss]
    omega
  kept := by
    rw [count_dismiss]
    by_cases last : tally.count - 1 = 0
    · simp [dismiss, last]
    · simp only [dismiss, last, if_false, Option.isSome_some, true_iff]
      omega

theorem apply_exact (exact_count : tally.Exact) {op : Op K} (legal : tally.Legal op) :
    (tally.apply op).Exact := by
  cases op with
  | idle => exact exact_count
  | enrol k => exact enrol_exact exact_count legal
  | dismiss k => exact dismiss_exact exact_count legal

end Tally
