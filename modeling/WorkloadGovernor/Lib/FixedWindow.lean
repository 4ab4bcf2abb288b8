import Mathlib.Data.List.Chain
import Mathlib.Data.List.Pairwise
import Mathlib.Data.List.TakeWhile
import Mathlib.Data.Nat.Notation

namespace FixedWindow
variable {limit len : ℕ} {times : List ℕ}

/-- In no interval shorter than `len` are there more than `limit` of the times. -/
def AtMost (limit len : ℕ) (times : List ℕ) : Prop :=
  ∀ a b, b < a + len → times.countP (fun t => a ≤ t ∧ t ≤ b) ≤ limit

/-- What comes `limit` places later comes at least `len` later. -/
def Spaced (limit len : ℕ) (times : List ℕ) : Prop :=
  ∀ (i early late : ℕ), times[i]? = some early → times[i + limit]? = some late → early + len ≤ late

/-- Each window begins with the first time after the one before it and holds what comes in the `len` from then on. -/
def windows (len : ℕ) : List ℕ → List (List ℕ)
  | [] => []
  | t :: rest => (t :: rest.takeWhile (· ≤ t + len)) :: windows len (rest.dropWhile (· ≤ t + len))
termination_by times => times.length
decreasing_by
  have shorter := (List.dropWhile_sublist (l := rest) (p := (· ≤ t + len))).length_le
  rw [List.length_cons]
  omega

/-- The first `limit` of every window. -/
def admitted (limit len : ℕ) (times : List ℕ) : List ℕ := (windows len times).flatMap (List.take limit)

theorem le_of_getElem? {i j early late : ℕ} (sorted : times.Pairwise (· ≤ ·)) (before : i ≤ j)
    (first : times[i]? = some early) (second : times[j]? = some late) : early ≤ late := by
  obtain ⟨inside, rfl⟩ := List.getElem?_eq_some_iff.mp first
  obtain ⟨inside', rfl⟩ := List.getElem?_eq_some_iff.mp second
  rcases Nat.eq_or_lt_of_le before with rfl | earlier
  · exact Nat.le_refl _
  · exact List.pairwise_iff_getElem.mp sorted i j inside inside' earlier

theorem Spaced.of_append {before after : List ℕ} (spaced : Spaced limit len (before ++ after)) :
    Spaced limit len after := by
  intro i early late first second
  refine spaced (before.length + i) early late ?_ ?_
  · rw [List.getElem?_append_right (by omega), Nat.add_sub_cancel_left]
    exact first
  · rw [List.getElem?_append_right (by omega), Nat.add_assoc, Nat.add_sub_cancel_left]
    exact second

theorem Spaced.of_prefix {before after : List ℕ} (spaced : Spaced limit len (before ++ after)) :
    Spaced limit len before := by
  intro i early late first second
  have inside := (List.getElem?_eq_some_iff.mp first).1
  have inside' := (List.getElem?_eq_some_iff.mp second).1
  refine spaced i early late ?_ ?_
  · rw [List.getElem?_append_left inside, first]
  · rw [List.getElem?_append_left inside', second]

theorem spaced_of_length_le (few : times.length ≤ limit) : Spaced limit len times := by
  intro i early late _ second
  have inside := (List.getElem?_eq_some_iff.mp second).1
  omega

theorem Spaced.of_atMost (sorted : times.Pairwise (· ≤ ·)) (most : AtMost limit len times) : Spaced limit len times := by
  intro i early late first second
  by_contra close
  -- the times from one to the other are too many
  have inside := (List.getElem?_eq_some_iff.mp second).1
  have many : ((times.drop i).take (limit + 1)).length = limit + 1 := by
    rw [List.length_take, List.length_drop]
    omega
  have between : ∀ t ∈ (times.drop i).take (limit + 1), decide (early ≤ t ∧ t ≤ late) = true := by
    intro t member
    obtain ⟨k, there, at_k⟩ := List.getElem_of_mem member
    rw [List.getElem_take, List.getElem_drop] at at_k
    have place : times[i + k]? = some t := List.getElem?_eq_some_iff.mpr ⟨by grind, at_k⟩
    have after := le_of_getElem? sorted (Nat.le_add_right i k) first place
    have before := le_of_getElem? sorted (by omega : i + k ≤ i + limit) place second
    exact decide_eq_true ⟨after, before⟩
  have counted := List.countP_eq_length.mpr between
  have sublist : List.Sublist ((times.drop i).take (limit + 1)) times :=
    (List.take_sublist _ _).trans (List.drop_sublist _ _)
  have fewer := sublist.countP_le (p := fun t => decide (early ≤ t ∧ t ≤ late))
  have bound := most early late (by omega)
  omega

theorem AtMost.of_spaced (sorted : times.Pairwise (· ≤ ·)) (spaced : Spaced limit len times) :
    AtMost limit len times := by
  intro a b short
  induction times with
  | nil => exact Nat.zero_le _
  | cons t rest ih =>
    by_cases before : t < a
    · have skipped : (t :: rest).countP (fun t => a ≤ t ∧ t ≤ b) = rest.countP fun t => a ≤ t ∧ t ≤ b :=
        List.countP_cons_of_neg (by simp; omega)
      rw [skipped]
      have spaced_rest : Spaced limit len ([t] ++ rest) := spaced
      exact ih (List.Pairwise.of_cons sorted) spaced_rest.of_append
    · by_contra many
      have whole := List.countP_le_length (p := fun t => decide (a ≤ t ∧ t ≤ b)) (l := t :: rest)
      obtain ⟨late, there⟩ : ∃ late, (t :: rest)[limit]? = some late :=
        ⟨_, List.getElem?_eq_getElem (by omega)⟩
      have far := spaced 0 t late rfl (by rwa [Nat.zero_add])
      -- what comes from there on is after the interval
      have none_later : ((t :: rest).drop limit).countP (fun t => a ≤ t ∧ t ≤ b) = 0 := by
        refine List.countP_eq_zero.mpr fun later member => ?_
        obtain ⟨k, there', at_k⟩ := List.getElem_of_mem member
        rw [List.getElem_drop] at at_k
        have place : (t :: rest)[limit + k]? = some later := List.getElem?_eq_some_iff.mpr ⟨by grind, at_k⟩
        have after := le_of_getElem? sorted (Nat.le_add_right limit k) there place
        simp only [decide_eq_true_eq]
        omega
      have first := List.countP_le_length (p := fun t => decide (a ≤ t ∧ t ≤ b)) (l := (t :: rest).take limit)
      have few := List.length_take_le limit (t :: rest)
      rw [← List.take_append_drop limit (t :: rest), List.countP_append, none_later] at many
      omega

theorem atMost_iff_spaced (sorted : times.Pairwise (· ≤ ·)) : AtMost limit len times ↔ Spaced limit len times :=
  ⟨Spaced.of_atMost sorted, AtMost.of_spaced sorted⟩

@[simp] theorem windows_nil : windows len [] = [] := by rw [windows]

theorem windows_cons (t : ℕ) (rest : List ℕ) : windows len (t :: rest) =
    (t :: rest.takeWhile (· ≤ t + len)) :: windows len (rest.dropWhile (· ≤ t + len)) := by rw [windows]

theorem admitted_cons (t : ℕ) (rest : List ℕ) : admitted limit len (t :: rest) =
    (t :: rest.takeWhile (· ≤ t + len)).take limit ++ admitted limit len (rest.dropWhile (· ≤ t + len)) := by
  rw [admitted, windows_cons, List.flatMap_cons]
  rfl

theorem admitted_sublist : List.Sublist (admitted limit len times) times := by
  induction times using windows.induct len with
  | case1 => rw [admitted, windows_nil]; exact List.Sublist.refl []
  | case2 t rest ih =>
    rw [admitted_cons]
    have whole : (t :: rest.takeWhile (· ≤ t + len)) ++ rest.dropWhile (· ≤ t + len) = t :: rest := by
      rw [List.cons_append, List.takeWhile_append_dropWhile]
    have parts := (List.take_sublist limit (t :: rest.takeWhile (· ≤ t + len))).append ih
    rwa [whole] at parts

theorem lt_of_mem_dropWhile {bound y : ℕ} (sorted : times.Pairwise (· ≤ ·)) (member : y ∈ times.dropWhile (· ≤ bound)) :
    bound < y := by
  induction times with
  | nil => cases member
  | cons t rest ih =>
    obtain ⟨least, sorted_rest⟩ := List.pairwise_cons.mp sorted
    by_cases inside : t ≤ bound
    · rw [List.dropWhile_cons_of_pos (by simpa using inside)] at member
      exact ih sorted_rest member
    · rw [List.dropWhile_cons_of_neg (by simpa using inside)] at member
      rcases List.mem_cons.mp member with rfl | later
      · omega
      · have after := least y later
        omega

/-- A window further on is more than `len` away. -/
theorem spaced_append_admitted_iff {first : List ℕ} {bound : ℕ} (sorted : times.Pairwise (· ≤ ·))
    (few : first.length ≤ limit) (inside : ∀ x ∈ first, x ≤ bound) (later : ∀ y ∈ times, bound < y) :
    Spaced limit len (first ++ admitted limit len times) ↔
      (∀ second ∈ (windows len times).head?, Spaced limit len (first ++ second.take limit)) ∧
        Spaced limit len (admitted limit len times) := by
  cases times with
  | nil =>
    have nothing : Spaced limit len [] := spaced_of_length_le (Nat.zero_le _)
    rw [admitted, windows_nil, List.flatMap_nil, List.append_nil]
    exact iff_of_true (spaced_of_length_le few) ⟨fun _ none => by simp at none, nothing⟩
  | cons t rest =>
    rw [windows_cons, List.head?_cons, admitted_cons]
    generalize second : (t :: rest.takeWhile (· ≤ t + len)).take limit = next
    constructor
    · intro spaced
      refine ⟨?_, spaced.of_append⟩
      rintro _ ⟨⟩
      rw [second]
      rw [← List.append_assoc] at spaced
      exact spaced.of_prefix
    · rintro ⟨near, spaced⟩ i early late at_i at_late
      have near := near _ rfl
      rw [second] at near
      by_cases before : i < first.length
      · rw [← List.append_assoc] at at_late
        have at_early : (first ++ next)[i]? = some early := by
          rw [List.getElem?_append_left before] at at_i ⊢
          exact at_i
        by_cases reached : i + limit < (first ++ next).length
        · rw [List.getElem?_append_left reached] at at_late
          exact near i early late at_early at_late
        · rw [List.getElem?_append_right (by omega)] at at_late
          have member := admitted_sublist.subset (List.mem_of_getElem? at_late)
          have far := lt_of_mem_dropWhile (List.Pairwise.of_cons sorted) member
          have start := later t List.mem_cons_self
          rw [List.getElem?_append_left before] at at_i
          have early_inside := inside early (List.mem_of_getElem? at_i)
          omega
      · rw [List.getElem?_append_right (by omega)] at at_i at_late
        rw [Nat.sub_add_comm (by omega)] at at_late
        exact spaced _ early late at_i at_late

theorem spaced_admitted_iff (sorted : times.Pairwise (· ≤ ·)) : Spaced limit len (admitted limit len times) ↔
    (windows len times).IsChain fun first second => Spaced limit len (first.take limit ++ second.take limit) := by
  induction times using windows.induct len with
  | case1 =>
    rw [admitted, windows_nil]
    exact iff_of_true (spaced_of_length_le (Nat.zero_le _)) List.isChain_nil
  | case2 t rest ih =>
    have sorted_rest := List.Pairwise.of_cons sorted
    have inside : ∀ x ∈ (t :: rest.takeWhile (· ≤ t + len)).take limit, x ≤ t + len := by
      intro x member
      rcases List.mem_cons.mp (List.mem_of_mem_take member) with rfl | more
      · omega
      · simpa using List.mem_takeWhile_imp more
    rw [admitted_cons, windows_cons, List.isChain_cons, ← ih (sorted_rest.sublist (List.dropWhile_sublist _))]
    exact spaced_append_admitted_iff (sorted_rest.sublist (List.dropWhile_sublist _)) (List.length_take_le _ _) inside
      fun y member => lt_of_mem_dropWhile sorted_rest member

/-- When a limit per window is a limit on every interval. -/
theorem atMost_admitted_iff (sorted : times.Pairwise (· ≤ ·)) : AtMost limit len (admitted limit len times) ↔
    (windows len times).IsChain fun first second => Spaced limit len (first.take limit ++ second.take limit) := by
  rw [atMost_iff_spaced (sorted.sublist admitted_sublist), spaced_admitted_iff sorted]

end FixedWindow
