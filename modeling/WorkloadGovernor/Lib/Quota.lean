import Mathlib.Data.List.Basic

/-- A guarded resource: an attempt takes one unit of it, as long as there is one left. -/
structure Quota (σ τ ε : Type) where
  used : σ → Nat
  limit : σ → Nat
  /-- The state an attempt meets, after what has happened since the one before. -/
  arrive : σ → τ → σ
  attempt : σ → τ → Except ε σ
  exhausted : ε

namespace Quota
variable {σ τ ε : Type} (quota : Quota σ τ ε)

def remaining (s : σ) : Nat := quota.limit s - quota.used s

/-- The state after an attempt. One that fails leaves things as it met them. -/
def next (s : σ) (t : τ) : σ :=
  match quota.attempt (quota.arrive s t) t with
  | .ok after => after
  | .error _ => quota.arrive s t

/-- What comes of attempts made one after the other. -/
def outcomes (s : σ) : List τ → List (Except ε σ)
  | [] => []
  | t :: rest => quota.attempt (quota.arrive s t) t :: outcomes (quota.next s t) rest

/-- The first `k` attempts succeed, and the next one finds the quota exhausted. -/
structure RunsOut (results : List (Except ε σ)) (k : Nat) : Prop where
  succeed : ∀ j, j < k → ∃ after, results[j]? = some (.ok after)
  fails : results[k]? = some (.error quota.exhausted)

/-- `ready` says what an attempt needs besides a unit, and `apart` which attempts do not
get in each other's way. Neither the wait for an attempt nor another attempt apart from it
spoils it, and only a success uses a unit. -/
structure Regular (ready : σ → τ → Prop) (apart : τ → τ → Prop) : Prop where
  arrived : ∀ s t, ready s t →
    quota.used (quota.arrive s t) = quota.used s ∧ quota.limit (quota.arrive s t) = quota.limit s ∧
      ready (quota.arrive s t) t ∧ ∀ u, ready s u → ready (quota.arrive s t) u
  granted : ∀ s t, ready s t → quota.used s < quota.limit s →
    ∃ after, quota.attempt s t = .ok after ∧ quota.used after = quota.used s + 1 ∧
      quota.limit after = quota.limit s ∧ ∀ u, apart t u → ready s u → ready after u
  refused : ∀ s t, ready s t → quota.limit s ≤ quota.used s → quota.attempt s t = .error quota.exhausted

section Regular
variable {quota} {ready : σ → τ → Prop} {apart : τ → τ → Prop}

/-- An attempt that is ready takes a unit or finds none left, and spoils no other. -/
theorem Regular.next (regular : quota.Regular ready apart) {s : σ} {t : τ} (fit : ready s t) :
    quota.remaining (quota.next s t) = quota.remaining s - 1 ∧
      ∀ u, apart t u → ready s u → ready (quota.next s t) u := by
  obtain ⟨used, limit, there, others⟩ := regular.arrived s t fit
  by_cases room : quota.used (quota.arrive s t) < quota.limit (quota.arrive s t)
  · obtain ⟨after, success, one_more, same, spared⟩ := regular.granted _ t there room
    rw [Quota.next, success]
    refine ⟨?_, fun u differs fits => spared u differs (others u fits)⟩
    rw [remaining, remaining, one_more, same, used, limit]
    omega
  · have failure := regular.refused _ t there (Nat.le_of_not_lt room)
    rw [Quota.next, failure]
    refine ⟨?_, fun u _ fits => others u fits⟩
    rw [remaining, remaining, used, limit]
    omega

/-- Of attempts that are all ready and apart, just the first ones succeed, as many as there
are units left. -/
theorem Regular.outcome (regular : quota.Regular ready apart) {s : σ} {ts : List τ} (fit : ∀ t ∈ ts, ready s t)
    (separate : ts.Pairwise apart) {j : Nat} {result : Except ε σ}
    (came : (quota.outcomes s ts)[j]? = some result) :
    (j < quota.remaining s → ∃ after, result = .ok after) ∧
      (quota.remaining s ≤ j → result = .error quota.exhausted) := by
  induction ts generalizing s j with
  | nil => cases came
  | cons t rest ih =>
    have first := fit t List.mem_cons_self
    cases j with
    | zero =>
      rw [outcomes, List.getElem?_cons_zero, Option.some.injEq] at came
      obtain ⟨used, limit, there, _⟩ := regular.arrived s t first
      subst came
      constructor
      · intro room
        obtain ⟨after, success, _⟩ := regular.granted _ t there (by rw [remaining] at room; omega)
        exact ⟨after, success⟩
      · intro none_left
        exact regular.refused _ t there (by rw [remaining] at none_left; omega)
    | succ j =>
      rw [outcomes, List.getElem?_cons_succ] at came
      obtain ⟨differs, separate⟩ := List.pairwise_cons.mp separate
      obtain ⟨fewer, spared⟩ := regular.next first
      have later : ∀ u ∈ rest, ready (quota.next s t) u :=
        fun u member => spared u (differs u member) (fit u (List.mem_cons_of_mem _ member))
      obtain ⟨within, beyond⟩ := ih later separate came
      rw [fewer] at within beyond
      exact ⟨fun room => within (by omega), fun none_left => beyond (by omega)⟩

theorem length_outcomes (quota : Quota σ τ ε) (s : σ) (ts : List τ) : (quota.outcomes s ts).length = ts.length := by
  induction ts generalizing s with
  | nil => rfl
  | cons t rest ih => rw [outcomes, List.length_cons, List.length_cons, ih]

/-- What is left of the quota is the number after which attempts run out. -/
theorem Regular.remaining_eq_iff (regular : quota.Regular ready apart) {s : σ} {ts : List τ}
    (fit : ∀ t ∈ ts, ready s t) (separate : ts.Pairwise apart) {k : Nat} (length : ts.length = k + 1) :
    quota.remaining s = k ↔ quota.RunsOut (quota.outcomes s ts) k := by
  have exists_result : ∀ j, j ≤ k → ∃ result, (quota.outcomes s ts)[j]? = some result := by
    intro j inside
    have bound : j < (quota.outcomes s ts).length := by rw [length_outcomes, length]; omega
    exact ⟨_, List.getElem?_eq_getElem bound⟩
  constructor
  · rintro rfl
    constructor
    · intro j early
      obtain ⟨result, came⟩ := exists_result j (Nat.le_of_lt early)
      obtain ⟨after, rfl⟩ := (regular.outcome fit separate came).1 early
      exact ⟨after, came⟩
    · obtain ⟨result, came⟩ := exists_result (quota.remaining s) (Nat.le_refl _)
      rw [came, (regular.outcome fit separate came).2 (Nat.le_refl _)]
  · rintro ⟨succeed, fails⟩
    rcases Nat.lt_trichotomy (quota.remaining s) k with few | equal | many
    · obtain ⟨after, success⟩ := succeed _ few
      cases (regular.outcome fit separate success).2 (Nat.le_refl _)
    · exact equal
    · obtain ⟨after, impossible⟩ := (regular.outcome fit separate fails).1 many
      cases impossible

end Regular

end Quota
