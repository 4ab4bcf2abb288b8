import Mathlib.Data.List.Basic
import Mathlib.Data.List.Induction
import Mathlib.Data.List.Nodup

universe u v w

/-- A way to insert items into a table by key: a row that is made for a new key, and what is refreshed of the row of a
known one. -/
structure Upserts {α : Type u} {κ : Type v} (key : α → κ) (β : Type w) where
  name : β → κ
  fresh : β → α
  refresh : β → α → α
  key_fresh : ∀ item, key (fresh item) = name item
  key_refresh : ∀ item row, key (refresh item row) = key row

namespace Upserts
variable {α : Type u} {κ : Type v} [DecidableEq κ] {β : Type w} {key : α → κ}

section Definitions
variable (upserts : Upserts key β)

/-- Inserts one item. -/
def one (rows : List α) (item : β) : List α :=
  if upserts.name item ∈ rows.map key then
    rows.map fun row => if key row = upserts.name item then upserts.refresh item row else row
  else rows ++ [upserts.fresh item]

/-- Inserts one item after the other. -/
def all (rows : List α) (items : List β) : List α := items.foldl upserts.one rows

end Definitions

section Proofs
variable {upserts : Upserts key β} {rows : List α} {row : α} {item : β} {items : List β}

theorem all_concat (rows : List α) (items : List β) (item : β) :
    upserts.all rows (items ++ [item]) = upserts.one (upserts.all rows items) item := by
  rw [all, List.foldl_append]
  rfl

theorem map_key_one (rows : List α) (item : β) : (upserts.one rows item).map key =
    if upserts.name item ∈ rows.map key then rows.map key else rows.map key ++ [upserts.name item] := by
  unfold one
  split
  · rw [List.map_map]
    refine List.map_congr_left fun row _ => ?_
    rw [Function.comp_apply]
    split
    · exact upserts.key_refresh item row
    · rfl
  · rw [List.map_append, List.map_singleton, upserts.key_fresh]

theorem nodup_one (unique : (rows.map key).Nodup) (item : β) : ((upserts.one rows item).map key).Nodup := by
  rw [map_key_one]
  split
  · exact unique
  · rename_i unknown
    exact unique.append (List.nodup_singleton _) (List.disjoint_singleton.mpr unknown)

theorem mem_keys_one {k : κ} : k ∈ (upserts.one rows item).map key ↔ k ∈ rows.map key ∨ k = upserts.name item := by
  rw [map_key_one]
  split
  · rename_i known
    refine (or_iff_left_of_imp ?_).symm
    rintro rfl
    exact known
  · rw [List.mem_append, List.mem_singleton]

theorem mem_keys_all {k : κ} :
    k ∈ (upserts.all rows items).map key ↔ k ∈ rows.map key ∨ k ∈ items.map upserts.name := by
  induction items using List.reverseRecOn with
  | nil => simp [all]
  | append_singleton items item ih =>
    rw [all_concat, mem_keys_one, ih, List.map_append, List.mem_append, List.map_singleton, List.mem_singleton, or_assoc]

/-- Rows with other keys are not touched. -/
theorem filter_one {p : α → Bool} (other : ∀ row, p row = true → key row ≠ upserts.name item) :
    (upserts.one rows item).filter p = rows.filter p := by
  have excluded : ∀ row, key row = upserts.name item → p row = false := by
    intro row same
    by_contra included
    exact other row (Bool.not_eq_false _ ▸ included) same
  unfold one
  split
  · have kept : ∀ row ∈ rows,
        (p ∘ fun row => if key row = upserts.name item then upserts.refresh item row else row) row = p row := by
      intro row _
      rw [Function.comp_apply]
      split
      · rename_i same
        rw [excluded row same, excluded _ ((upserts.key_refresh item row).trans same)]
      · rfl
    rw [List.filter_map, List.filter_congr kept]
    refine (List.map_congr_left fun row member => ?_).trans (List.map_id _)
    exact if_neg (other row (List.of_mem_filter member))
  · rw [List.filter_append, List.filter_singleton, excluded _ (upserts.key_fresh item)]
    exact List.append_nil _

theorem filter_all {p : α → Bool} (other : ∀ row, p row = true → key row ∉ items.map upserts.name) :
    (upserts.all rows items).filter p = rows.filter p := by
  induction items using List.reverseRecOn with
  | nil => rfl
  | append_singleton items item ih =>
    have split : ∀ row, p row = true → key row ∉ items.map upserts.name ∧ key row ≠ upserts.name item := by
      intro row included
      have absent := other row included
      rw [List.map_append, List.mem_append, not_or, List.map_singleton, List.mem_singleton] at absent
      exact absent
    rw [all_concat, filter_one fun row included => (split row included).2, ih fun row included => (split row included).1]

theorem mem_one : row ∈ upserts.one rows item →
    key row ≠ upserts.name item ∧ row ∈ rows ∨ key row = upserts.name item ∧
      ((∃ old ∈ rows, key old = key row ∧ row = upserts.refresh item old) ∨
        key row ∉ rows.map key ∧ row = upserts.fresh item) := by
  unfold one
  split
  · intro member
    obtain ⟨old, there, rfl⟩ := List.mem_map.mp member
    split
    · rename_i same
      have kept := upserts.key_refresh item old
      exact Or.inr ⟨kept.trans same, Or.inl ⟨old, there, kept.symm, rfl⟩⟩
    · rename_i differs
      exact Or.inl ⟨differs, there⟩
  · rename_i unknown
    intro member
    rcases List.mem_append.mp member with old | new
    · refine Or.inl ⟨fun same => unknown ?_, old⟩
      rw [← same]
      exact List.mem_map_of_mem old
    · cases List.mem_singleton.mp new
      rw [upserts.key_fresh]
      exact Or.inr ⟨rfl, Or.inr ⟨unknown, rfl⟩⟩

/-- The row of an inserted key is as the last of its items leaves it. -/
theorem mem_all_last (member : row ∈ upserts.all rows items) (inserted : key row ∈ items.map upserts.name) :
    ∃ item, items.reverse.find? (fun item => upserts.name item = key row) = some item ∧
      (row = upserts.fresh item ∨ ∃ old, row = upserts.refresh item old) := by
  induction items using List.reverseRecOn generalizing row with
  | nil => cases inserted
  | append_singleton items last ih =>
    rw [all_concat] at member
    rw [List.reverse_concat, List.find?_cons]
    rcases mem_one member with ⟨differs, there⟩ | ⟨same, ⟨old, _, _, refreshed⟩ | ⟨_, made⟩⟩
    · have earlier : key row ∈ items.map upserts.name := by
        rw [List.map_append, List.mem_append, List.map_singleton, List.mem_singleton] at inserted
        exact inserted.resolve_right differs
      rw [decide_eq_false fun same => differs same.symm]
      exact ih there earlier
    · rw [decide_eq_true same.symm]
      exact ⟨last, rfl, Or.inr ⟨old, refreshed⟩⟩
    · rw [decide_eq_true same.symm]
      exact ⟨last, rfl, Or.inl made⟩

/-- What refreshing leaves alone, a row has from the row that was there or from the item it was made for. -/
theorem mem_all_origin {γ : Type*} {column : α → γ}
    (constant : ∀ item row, column (upserts.refresh item row) = column row)
    (member : row ∈ upserts.all rows items) :
    (∃ old ∈ rows, key old = key row ∧ column old = column row) ∨
      key row ∉ rows.map key ∧ ∃ item ∈ items, column (upserts.fresh item) = column row := by
  induction items using List.reverseRecOn generalizing row with
  | nil => exact Or.inl ⟨row, member, rfl, rfl⟩
  | append_singleton items last ih =>
    have lift : ∀ past ∈ upserts.all rows items,
        (∃ old ∈ rows, key old = key past ∧ column old = column past) ∨
          key past ∉ rows.map key ∧ ∃ item ∈ items ++ [last], column (upserts.fresh item) = column past := by
      intro past there
      rcases ih there with old | ⟨unknown, item, listed, same⟩
      · exact Or.inl old
      · exact Or.inr ⟨unknown, item, List.mem_append_left _ listed, same⟩
    rw [all_concat] at member
    rcases mem_one member with ⟨_, there⟩ | ⟨_, ⟨past, there, same, rfl⟩ | ⟨unknown, rfl⟩⟩
    · exact lift row there
    · rw [constant last past, ← same]
      exact lift past there
    · refine Or.inr ⟨fun known => unknown ?_, last, List.mem_append_right _ (List.mem_singleton_self last), rfl⟩
      exact mem_keys_all.mpr (Or.inl known)

end Proofs

end Upserts
