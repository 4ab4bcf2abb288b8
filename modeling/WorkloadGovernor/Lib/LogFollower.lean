import Mathlib.Data.List.Nodup
import Mathlib.Data.List.TakeDrop

namespace LogFollower
universe u v w
variable {α : Type u} {β : Type v} {K : Type w}

/-- `INSERT … ON CONFLICT (key) DO NOTHING` on the rows of a table. -/
def insertNew [DecidableEq K] (key : β → K) (rows : List β) (row : β) : List β :=
  if key row ∈ rows.map key then rows else rows ++ [row]

/-- What the first `n` entries of the log leave in the table. -/
def covered (parse : α → Option β) (log : List α) (n : Nat) : List β := (log.take n).filterMap parse

section Covered
variable {parse : α → Option β} {log : List α} {n i : Nat} {entry : α} {row : β}

theorem mem_covered : row ∈ covered parse log n ↔
    ∃ j entry, j < n ∧ log[j]? = some entry ∧ parse entry = some row := by
  simp only [covered, List.mem_filterMap]
  constructor
  · rintro ⟨entry, member, parsed⟩
    obtain ⟨j, atJ⟩ := List.mem_iff_getElem?.mp member
    rw [List.getElem?_take] at atJ
    split at atJ
    · rename_i inside
      exact ⟨j, entry, inside, atJ, parsed⟩
    · cases atJ
  · rintro ⟨j, entry, inside, atLog, parsed⟩
    refine ⟨entry, List.mem_iff_getElem?.mpr ⟨j, ?_⟩, parsed⟩
    rw [List.getElem?_take, if_pos inside]
    exact atLog

theorem covered_succ (atI : log[i]? = some entry) :
    covered parse log (i + 1) = covered parse log i ++ (parse entry).toList := by
  rw [covered, covered, List.take_add_one, atI, List.filterMap_append, Option.toList_some, List.filterMap_cons]
  cases parse entry <;> rfl

end Covered

section Visit
variable [DecidableEq K] {key : β → K} {parse : α → Option β} {log : List α} {n i : Nat} {entry : α} {row : β}

theorem insertNew_of_mem {rows : List β} (member : row ∈ rows) : insertNew key rows row = rows :=
  if_pos (List.mem_map_of_mem member)

theorem subset_insertNew (rows : List β) (row : β) : rows ⊆ insertNew key rows row := by
  rw [insertNew]
  split
  · exact List.Subset.refl rows
  · exact List.subset_append_left rows [row]

theorem key_mem_insertNew (rows : List β) (row : β) : key row ∈ (insertNew key rows row).map key := by
  rw [insertNew]
  split
  · assumption
  · exact List.mem_map_of_mem (List.mem_append_right _ List.mem_cons_self)

/-- An entry visited again is already in the table. -/
theorem insertNew_old (atI : log[i]? = some entry) (parsed : parse entry = some row) (old : i < n) :
    insertNew key (covered parse log n) row = covered parse log n :=
  insertNew_of_mem (mem_covered.mpr ⟨i, entry, old, atI, parsed⟩)

omit [DecidableEq K] in
/-- The key of the next entry is none of those before it. -/
theorem key_not_mem_covered (unique : ((log.filterMap parse).map key).Nodup) (atN : log[n]? = some entry)
    (parsed : parse entry = some row) : key row ∉ (covered parse log n).map key := by
  have next : covered parse log (n + 1) = covered parse log n ++ (parse entry).toList := covered_succ atN
  rw [parsed, Option.toList_some] at next
  have whole : covered parse log (n + 1) <+: log.filterMap parse := by
    have step := (List.take_prefix (n + 1) log).filterMap parse
    exact step
  have distinct := unique.sublist (whole.map key).sublist
  rw [next, List.map_append, List.map_singleton] at distinct
  intro present
  exact (List.nodup_append.mp distinct).2.2 _ present _ (List.mem_singleton_self _) rfl

/-- An entry visited for the first time, after all the ones before it, is appended. -/
theorem insertNew_next (unique : ((log.filterMap parse).map key).Nodup) (atN : log[n]? = some entry)
    (parsed : parse entry = some row) :
    insertNew key (covered parse log n) row = covered parse log (n + 1) := by
  rw [insertNew, if_neg (key_not_mem_covered unique atN parsed), covered_succ atN, parsed, Option.toList_some]

/-- Visiting the entry at `i` with everything before `i` in the table leaves everything
up to and including `i` there, whether or not it has been visited before. -/
theorem insertNew_visit (unique : ((log.filterMap parse).map key).Nodup) (reached : i ≤ n)
    (atI : log[i]? = some entry) (parsed : parse entry = some row) :
    insertNew key (covered parse log n) row = covered parse log (max n (i + 1)) := by
  rcases Nat.lt_or_eq_of_le reached with old | rfl
  · rw [insertNew_old atI parsed old, Nat.max_eq_left old]
  · rw [insertNew_next unique atI parsed, Nat.max_eq_right (Nat.le_succ i)]

/-- An entry that gives no row can be passed over. -/
theorem covered_visit_none (reached : i ≤ n) (atI : log[i]? = some entry) (skipped : parse entry = none) :
    covered parse log n = covered parse log (max n (i + 1)) := by
  rcases Nat.lt_or_eq_of_le reached with old | rfl
  · rw [Nat.max_eq_left old]
  · rw [Nat.max_eq_right (Nat.le_succ i), covered_succ atI, skipped, Option.toList_none, List.append_nil]

omit [DecidableEq K] in
theorem covered_keys_nodup (unique : ((log.filterMap parse).map key).Nodup) :
    ((covered parse log n).map key).Nodup := by
  have whole : covered parse log n <+: log.filterMap parse := (List.take_prefix n log).filterMap parse
  exact unique.sublist (whole.map key).sublist

end Visit

end LogFollower
