import Mathlib.Data.List.TakeDrop
import Mathlib.Data.List.Range
import Mathlib.Algebra.Order.BigOperators.Group.List
import Mathlib.Algebra.Order.Ring.Nat

universe u

namespace List
variable {α : Type u} {size : Nat} {xs : List α} {c : List α}

/-- Consecutive pieces of a list, each of `size` items but perhaps the last. -/
def chunked (size : Nat) (xs : List α) : List (List α) :=
  (List.range ((xs.length + size - 1) / size)).map fun i => (xs.drop (i * size)).take size

@[simp] theorem chunked_nil (positive : 0 < size) : ([] : List α).chunked size = [] := by
  have none_needed : (0 + size - 1) / size = 0 := Nat.div_eq_of_lt (by omega)
  rw [chunked, List.length_nil, none_needed]
  rfl

theorem chunked_of_ne_nil (positive : 0 < size) (more : xs ≠ []) :
    xs.chunked size = xs.take size :: (xs.drop size).chunked size := by
  have some_there := List.length_pos_iff.mpr more
  have count : (xs.length + size - 1) / size = ((xs.drop size).length + size - 1) / size + 1 := by
    rw [List.length_drop]
    rcases Nat.lt_or_ge size xs.length with long | short
    · have split : xs.length + size - 1 = xs.length - size + size - 1 + size := by omega
      rw [split, Nat.add_div_right _ positive]
    · have one : (xs.length + size - 1) / size = 1 := by
        have split : xs.length + size - 1 = xs.length - 1 + size := by omega
        rw [split, Nat.add_div_right _ positive, Nat.div_eq_of_lt (by omega)]
      have none_left : (xs.length - size + size - 1) / size = 0 := Nat.div_eq_of_lt (by omega)
      rw [one, none_left]
  rw [chunked, count, List.range_succ_eq_map, List.map_cons, List.map_map, Nat.zero_mul, List.drop_zero]
  refine congrArg _ (List.map_congr_left fun i _ => ?_)
  rw [Function.comp_apply, Nat.succ_mul, Nat.add_comm, ← List.drop_drop]

theorem flatten_chunked (positive : 0 < size) (xs : List α) : (xs.chunked size).flatten = xs := by
  induction n : xs.length using Nat.strongRecOn generalizing xs with
  | ind n ih =>
    by_cases none_left : xs = []
    · rw [none_left, chunked_nil positive, List.flatten_nil]
    · have some_there := List.length_pos_iff.mpr none_left
      have rest := ih (xs.drop size).length (by rw [List.length_drop]; omega) (xs.drop size) rfl
      rw [chunked_of_ne_nil positive none_left, List.flatten_cons, rest, List.take_append_drop]

theorem ne_nil_of_mem_chunked (positive : 0 < size) (member : c ∈ xs.chunked size) : c ≠ [] := by
  induction n : xs.length using Nat.strongRecOn generalizing xs with
  | ind n ih =>
    by_cases none_left : xs = []
    · rw [none_left, chunked_nil positive] at member
      cases member
    · have some_there := List.length_pos_iff.mpr none_left
      rw [chunked_of_ne_nil positive none_left] at member
      rcases List.mem_cons.mp member with first | later
      · rw [first, ← List.length_pos_iff, List.length_take]
        omega
      · exact ih (xs.drop size).length (by rw [List.length_drop]; omega) later rfl

theorem length_le_of_mem_chunked (member : c ∈ xs.chunked size) : c.length ≤ size := by
  obtain ⟨i, _, rfl⟩ := List.mem_map.mp member
  exact List.length_take_le _ _

theorem flatMap_pages (positive : 0 < size) (xs : List α) :
    ((List.range ((xs.length + size - 1) / size)).flatMap fun i => (xs.drop (i * size)).take size) = xs := by
  rw [List.flatMap_def]
  exact flatten_chunked positive xs

/-- The first `count` pages are the beginning of the list. -/
theorem flatMap_first_pages (size count : Nat) (xs : List α) :
    ((List.range count).flatMap fun i => (xs.drop (i * size)).take size) = xs.take (count * size) := by
  induction count with
  | zero => simp
  | succ count ih =>
    rw [List.range_succ, List.flatMap_append, ih, List.flatMap_singleton, Nat.succ_mul, List.take_add]

/-- A page makes a beginning of some pages longer exactly if it is the one that comes next,
or has no items and is not the first. -/
theorem first_pages_append_iff (positive : 0 < size) (xs : List α) (count : Nat) {page : List α}
    (small : page.length ≤ size) :
    (∃ more, xs.take (count * size) ++ page = xs.take ((more + 1) * size)) ↔
      page = (xs.drop (xs.take (count * size)).length).take size ∨ page = [] ∧ xs.take (count * size) ≠ [] := by
  constructor
  · rintro ⟨more, joined⟩
    have rest : page = (xs.drop (xs.take (count * size)).length).take
        ((more + 1) * size - (xs.take (count * size)).length) := by
      rw [← List.drop_take, ← joined, List.drop_left]
    have cut : page = (xs.drop (xs.take (count * size)).length).take
        (min size ((more + 1) * size - (xs.take (count * size)).length)) := by
      rw [← List.take_take, ← rest, List.take_of_length_le small]
    by_cases some_shown : xs.take (count * size) = []
    · have first : size ≤ (more + 1) * size := Nat.le_mul_of_pos_left size more.succ_pos
      rw [some_shown, List.length_nil, Nat.sub_zero, Nat.min_eq_left first] at cut
      rw [some_shown]
      exact Or.inl cut
    · by_cases none_left : page = []
      · exact Or.inr ⟨none_left, some_shown⟩
      · have some_left := List.length_pos_iff.mpr none_left
        rw [cut, List.length_take, List.length_drop] at some_left
        have inside : (xs.take (count * size)).length = count * size := by
          rw [List.length_take] at some_left ⊢
          omega
        have further : count < more + 1 := by
          rw [inside] at some_left
          exact lt_of_mul_lt_mul_right (by omega : count * size < (more + 1) * size) (Nat.zero_le size)
        have next := Nat.mul_le_mul_right size further
        rw [Nat.succ_mul] at next
        rw [Nat.min_eq_left (by omega)] at cut
        exact Or.inl cut
  · rintro (next | ⟨rfl, some_shown⟩)
    · refine ⟨count, ?_⟩
      rw [next, Nat.succ_mul, List.take_add]
      rcases Nat.le_total (count * size) xs.length with inside | short
      · rw [List.length_take_of_le inside]
      · rw [List.take_of_length_le short, List.drop_length, List.drop_of_length_le short]
    · cases count with
      | zero => simp at some_shown
      | succ count => exact ⟨count, List.append_nil _⟩

/-- Pages of `size` items that begin `stride ≥ size` items apart leave items out, unless there is no more than one. -/
theorem flatMap_strided_eq_iff {stride : Nat} (positive : 0 < size) (apart : size < stride) :
    ((List.range ((xs.length + size - 1) / size)).flatMap fun i => (xs.drop (i * stride)).take size) = xs ↔
      xs.length ≤ size := by
  constructor
  · intro whole
    by_contra long
    have counted := congrArg List.length whole
    have consecutive := congrArg List.length (flatMap_pages positive xs)
    rw [List.length_flatMap] at counted consecutive
    have less : ∀ i, ((xs.drop (i * stride)).take size).length ≤ ((xs.drop (i * size)).take size).length := by
      intro i
      have further : i * size ≤ i * stride := Nat.mul_le_mul_left i apart.le
      rw [List.length_take, List.length_take, List.length_drop, List.length_drop]
      omega
    have more : size + size ≤ xs.length + size - 1 := by omega
    have pages : 2 ≤ (xs.length + size - 1) / size := (Nat.le_div_iff_mul_le positive).mpr (by omega)
    -- the last page has lost something
    obtain ⟨last, at_last⟩ : ∃ last, (xs.length + size - 1) / size = last + 1 :=
      ⟨(xs.length + size - 1) / size - 1, by omega⟩
    have reached : last * size < xs.length := by
      have bound := Nat.div_mul_le_self (xs.length + size - 1) size
      rw [at_last, Nat.succ_mul] at bound
      omega
    have last_page : xs.length ≤ last * size + size := by
      have bound := Nat.lt_mul_div_succ (xs.length + size - 1) positive
      rw [at_last, Nat.mul_comm, Nat.add_mul, Nat.add_mul] at bound
      omega
    have lost : ((xs.drop (last * stride)).take size).length < ((xs.drop (last * size)).take size).length := by
      have further : last * size < last * stride := Nat.mul_lt_mul_of_pos_left apart (by omega)
      rw [List.length_take, List.length_take, List.length_drop, List.length_drop]
      omega
    have fewer := List.sum_lt_sum _ _ (fun i _ => less i)
      ⟨last, List.mem_range.mpr (by omega : last < (xs.length + size - 1) / size), lost⟩
    omega
  · intro short
    rcases Nat.eq_zero_or_pos xs.length with empty | some_there
    · rw [List.length_eq_zero_iff.mp empty]
      simp
    · have one : (xs.length + size - 1) / size = 1 := by
        have split : xs.length + size - 1 = xs.length - 1 + size := by omega
        rw [split, Nat.add_div_right _ positive, Nat.div_eq_of_lt (by omega)]
      rw [one]
      simp [List.take_of_length_le short]
end List
