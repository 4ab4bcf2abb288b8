import Mathlib.Data.Option.Basic
import Mathlib.Logic.Function.Basic
import Mathlib.Order.Lattice
import Mathlib.Order.Nat

/-- A value together with the last ledger at which the host still serves it. -/
structure TtlEntry (V : Type) where
  value : V
  liveUntil : Nat
  deriving DecidableEq, Repr

/-- Key-value storage whose entries lapse on their own. An entry past its
`liveUntil` may stay in the map, but no read returns it. -/
def TtlStore (K V : Type) : Type := K → Option (TtlEntry V)

namespace TtlStore
variable {K V : Type}

def empty : TtlStore K V := fun _ => none

/-- The entry under `k`, if it is there and has not lapsed at ledger `now`. -/
def live (store : TtlStore K V) (now : Nat) (k : K) : Option (TtlEntry V) :=
  match store k with
  | some entry => if now ≤ entry.liveUntil then some entry else none
  | none => none

def get (store : TtlStore K V) (now : Nat) (k : K) : Option V :=
  (store.live now k).map TtlEntry.value

/-- The lifetime of the entry a read at `now` would serve. -/
def liveUntil (store : TtlStore K V) (now : Nat) (k : K) : Option Nat :=
  (store.live now k).map TtlEntry.liveUntil

/-- The `liveUntil` after an extension: raised to `now + extendTo`, unless the entry
already lives that long or has more than `threshold` ledgers left. -/
def extended (now threshold extendTo old : Nat) : Nat :=
  if old < now + extendTo ∧ old - now ≤ threshold then now + extendTo else old

section Write
variable [DecidableEq K]

/-- The map with `entry` stored under `k`, or nothing stored there. -/
def put (store : TtlStore K V) (k : K) (entry : Option (TtlEntry V)) : TtlStore K V :=
  fun j => if j = k then entry else store j

/-- Writing keeps the lifetime of a live entry; an absent or lapsed one is created
anew and lives `fresh` ledgers past the current one. -/
def set (store : TtlStore K V) (now fresh : Nat) (k : K) (v : V) : TtlStore K V :=
  store.put k (some ⟨v, (store.liveUntil now k).getD (now + fresh)⟩)

def remove (store : TtlStore K V) (k : K) : TtlStore K V := store.put k none

/-- Extending an entry that is not live is refused by the host. -/
def extendTtl (store : TtlStore K V) (now threshold extendTo : Nat) (k : K) : Option (TtlStore K V) :=
  (store.live now k).map fun entry =>
    store.put k (some { entry with liveUntil := extended now threshold extendTo entry.liveUntil })

/-- The entry as a write followed by an extension to `now + ttl` leaves it. -/
def renew (store : TtlStore K V) (now fresh ttl : Nat) (k : K) (v : V) : TtlStore K V :=
  store.put k (some ⟨v, max ((store.liveUntil now k).getD (now + fresh)) (now + ttl)⟩)

/-- The store as an extension to `now + ttl` leaves it, whether or not there is a live entry. -/
def prolong (store : TtlStore K V) (now ttl : Nat) (k : K) : TtlStore K V :=
  match store.live now k with
  | some entry => store.put k (some { entry with liveUntil := max entry.liveUntil (now + ttl) })
  | none => store

end Write

/-- With the threshold at the target an extension never shortens a lifetime. -/
theorem extended_same (now ttl old : Nat) : extended now ttl ttl old = max old (now + ttl) := by
  unfold extended
  split <;> omega

/-- An entry is served up to its last moment and not after it. -/
theorem live_eq_some {store : TtlStore K V} {now : Nat} {k : K} {entry : TtlEntry V} :
    store.live now k = some entry ↔ store k = some entry ∧ now ≤ entry.liveUntil := by
  unfold live
  cases store k with
  | none => simp
  | some stored =>
    by_cases current : now ≤ stored.liveUntil
    · simp only [current, if_true, Option.some.injEq]
      constructor
      · rintro rfl
        exact ⟨rfl, current⟩
      · exact And.left
    · simp only [current, if_false, Option.some.injEq]
      constructor
      · intro impossible
        simp at impossible
      · rintro ⟨rfl, late⟩
        exact absurd late current

theorem get_eq_some {store : TtlStore K V} {now : Nat} {k : K} {v : V} :
    store.get now k = some v ↔ ∃ entry, store.live now k = some entry ∧ entry.value = v := by
  simp only [get, Option.map_eq_some_iff]

theorem liveUntil_eq_some {store : TtlStore K V} {now : Nat} {k : K} {deadline : Nat} :
    store.liveUntil now k = some deadline ↔
      ∃ entry, store.live now k = some entry ∧ entry.liveUntil = deadline := by
  simp only [liveUntil, Option.map_eq_some_iff]

/-- A lifetime that is reported has not ended. -/
theorem le_of_liveUntil {store : TtlStore K V} {now : Nat} {k : K} {deadline : Nat}
    (current : store.liveUntil now k = some deadline) : now ≤ deadline := by
  obtain ⟨entry, served, rfl⟩ := liveUntil_eq_some.mp current
  exact (live_eq_some.mp served).2

@[simp] theorem live_empty (now : Nat) (k : K) : (empty : TtlStore K V).live now k = none := rfl

@[simp] theorem get_empty (now : Nat) (k : K) : (empty : TtlStore K V).get now k = none := rfl

@[simp] theorem liveUntil_empty (now : Nat) (k : K) : (empty : TtlStore K V).liveUntil now k = none := rfl

/-- As the ledger advances an entry is served unchanged until it lapses. -/
theorem live_later {store : TtlStore K V} {now later : Nat} {k : K} (order : now ≤ later) :
    store.live later k = (store.live now k).filter (fun entry => later ≤ entry.liveUntil) := by
  unfold live
  cases store k with
  | none => rfl
  | some entry =>
    by_cases current : later ≤ entry.liveUntil
    · simp [current, order.trans current, Option.filter_some]
    · by_cases before : now ≤ entry.liveUntil <;> simp [current, before, Option.filter_some]

section Frame
variable [DecidableEq K]

theorem put_self (store : TtlStore K V) (k : K) (entry : Option (TtlEntry V)) : store.put k entry k = entry := by
  simp only [put, if_true]

theorem put_of_ne {store : TtlStore K V} {k j : K} {entry : Option (TtlEntry V)} (other : j ≠ k) :
    store.put k entry j = store j := by
  simp only [put, other, if_false]

/-- A prolonged entry was there before. -/
theorem isSome_prolong (store : TtlStore K V) (now ttl : Nat) (k j : K) :
    (store.prolong now ttl k j).isSome = (store j).isSome := by
  unfold prolong
  cases served : store.live now k with
  | none => rfl
  | some entry =>
    by_cases same : j = k
    · have stored := (live_eq_some.mp served).1
      simp only [same, put_self, stored, Option.isSome_some]
    · simp only [put_of_ne same]

/-- Writing an entry changes nothing about the others. -/
theorem live_put (store : TtlStore K V) (now : Nat) (k j : K) (entry : Option (TtlEntry V)) :
    (store.put k entry).live now j =
      if j = k then entry.filter (fun e => now ≤ e.liveUntil) else store.live now j := by
  unfold live put
  by_cases same : j = k
  · simp only [same, if_true]
    cases entry with
    | none => rfl
    | some e => by_cases current : now ≤ e.liveUntil <;> simp [current, Option.filter_some]
  · simp only [same, if_false]

theorem live_put_some (store : TtlStore K V) {now : Nat} (k j : K) {entry : TtlEntry V}
    (current : now ≤ entry.liveUntil) :
    (store.put k (some entry)).live now j = if j = k then some entry else store.live now j := by
  simp only [live_put, Option.filter_some, current, decide_true, if_true]

/-- The lifetime an entry has right after a write at `now`. -/
theorem live_set (store : TtlStore K V) (now fresh : Nat) (k j : K) (v : V) :
    (store.set now fresh k v).live now j =
      if j = k then some ⟨v, (store.liveUntil now k).getD (now + fresh)⟩ else store.live now j := by
  unfold set
  apply live_put_some
  cases deadline : store.liveUntil now k with
  | none => simp
  | some d => simpa using le_of_liveUntil deadline

theorem live_remove (store : TtlStore K V) (now : Nat) (k j : K) :
    (store.remove k).live now j = if j = k then none else store.live now j := by
  unfold remove
  rw [live_put]
  rfl

theorem put_put (store : TtlStore K V) (k : K) (first second : Option (TtlEntry V)) :
    (store.put k first).put k second = store.put k second := by
  funext j
  unfold put
  by_cases same : j = k <;> simp only [same, if_true, if_false]

/-- Writing and extending is a renewal, also where the old lifetime is the longer one. -/
theorem extendTtl_set (store : TtlStore K V) (now fresh ttl : Nat) (k : K) (v : V) :
    (store.set now fresh k v).extendTtl now ttl ttl k = some (store.renew now fresh ttl k v) := by
  unfold extendTtl
  rw [live_set, if_pos rfl, Option.map_some, extended_same]
  unfold set
  rw [put_put]
  rfl

/-- An entry that is served can be extended. -/
theorem extendTtl_of_live {store : TtlStore K V} {now : Nat} {k : K} (ttl : Nat)
    (served : (store.live now k).isSome) :
    store.extendTtl now ttl ttl k = some (store.prolong now ttl k) := by
  obtain ⟨entry, current⟩ := Option.isSome_iff_exists.mp served
  simp only [extendTtl, prolong, current, Option.map_some, extended_same]

/-- A renewed entry has the new value, and whichever lifetime ends later. -/
theorem live_renew (store : TtlStore K V) (now fresh ttl : Nat) (k j : K) (v : V) :
    (store.renew now fresh ttl k v).live now j =
      if j = k then some ⟨v, max ((store.liveUntil now k).getD (now + fresh)) (now + ttl)⟩
      else store.live now j := by
  unfold renew
  exact live_put_some store k j (by dsimp only; omega)

/-- A value is read back as it was written, whatever lifetime its entry has. -/
theorem get_set (store : TtlStore K V) (now fresh : Nat) (k j : K) (v : V) :
    (store.set now fresh k v).get now j = if j = k then some v else store.get now j := by
  unfold get
  rw [live_set]
  split <;> rfl

theorem get_remove (store : TtlStore K V) (now : Nat) (k j : K) :
    (store.remove k).get now j = if j = k then none else store.get now j := by
  unfold get
  rw [live_remove]
  split <;> rfl

theorem get_renew (store : TtlStore K V) (now fresh ttl : Nat) (k j : K) (v : V) :
    (store.renew now fresh ttl k v).get now j = if j = k then some v else store.get now j := by
  unfold get
  rw [live_renew]
  split <;> rfl

/-- Prolonging a lifetime keeps the value, and brings back nothing that has lapsed. -/
theorem live_prolong (store : TtlStore K V) (now ttl : Nat) (k j : K) :
    (store.prolong now ttl k).live now j =
      if j = k then (store.live now k).map (fun entry =>
        { entry with liveUntil := max entry.liveUntil (now + ttl) }) else store.live now j := by
  unfold prolong
  cases served : store.live now k with
  | none =>
    by_cases same : j = k
    · simp only [same, served, if_true, Option.map_none]
    · simp only [same, if_false]
  | some entry =>
    exact live_put_some store k j (by dsimp only; omega)

end Frame

section Locality
variable {store other : TtlStore K V} {k : K}

/-- What is served under a key depends on the entry stored there alone. -/
theorem live_congr (same : store k = other k) (now : Nat) : store.live now k = other.live now k := by
  unfold live
  rw [same]

theorem get_congr (same : store k = other k) (now : Nat) : store.get now k = other.get now k := by
  unfold get
  rw [live_congr same]

theorem liveUntil_congr (same : store k = other k) (now : Nat) :
    store.liveUntil now k = other.liveUntil now k := by
  unfold liveUntil
  rw [live_congr same]

variable [DecidableEq K] {j : K}

/-- Stores that agree on a key agree on it after the same write, to this key or another. -/
theorem put_congr (same : store k = other k) {first second : Option (TtlEntry V)}
    (agree : k = j → first = second) : store.put j first k = other.put j second k := by
  by_cases atKey : k = j
  · rw [← atKey, put_self, put_self]
    exact agree atKey
  · rw [put_of_ne atKey, put_of_ne atKey]
    exact same

theorem remove_congr (same : store k = other k) : store.remove j k = other.remove j k :=
  put_congr same fun _ => rfl

theorem set_congr (same : store k = other k) (now fresh : Nat) (v : V) :
    store.set now fresh j v k = other.set now fresh j v k := by
  refine put_congr same fun atKey => ?_
  subst atKey
  rw [liveUntil_congr same]

theorem renew_congr (same : store k = other k) (now fresh ttl : Nat) (v : V) :
    store.renew now fresh ttl j v k = other.renew now fresh ttl j v k := by
  refine put_congr same fun atKey => ?_
  subst atKey
  rw [liveUntil_congr same]

theorem prolong_of_ne (differs : k ≠ j) (now ttl : Nat) : store.prolong now ttl j k = store k := by
  unfold prolong
  cases store.live now j with
  | none => rfl
  | some entry => exact put_of_ne differs

/-- How a key is prolonged depends on its own entry only. -/
theorem prolong_congr (same : store k = other k) (now ttl : Nat) :
    store.prolong now ttl j k = other.prolong now ttl j k := by
  by_cases atKey : k = j
  · subst atKey
    unfold prolong
    rw [live_congr same]
    cases other.live now k with
    | none => exact same
    | some entry => exact (put_self _ _ _).trans (put_self _ _ _).symm
  · rw [prolong_of_ne atKey, prolong_of_ne atKey]
    exact same

end Locality

section GoodUntil
variable {store : TtlStore K V} {now ttl deadline : Nat} {k j : K} {v : V}

/-- The entry under `k` serves `v` up to a ledger, if it is not removed. -/
def GoodUntil (store : TtlStore K V) (k : K) (v : V) (deadline : Nat) : Prop :=
  ∃ entry, store k = some entry ∧ entry.value = v ∧ deadline ≤ entry.liveUntil

/-- What is good until a moment is read up to it. -/
theorem GoodUntil.get (good : store.GoodUntil k v deadline) (early : now ≤ deadline) : store.get now k = some v := by
  obtain ⟨entry, stored, value, bound⟩ := good
  exact get_eq_some.mpr ⟨entry, live_eq_some.mpr ⟨stored, early.trans bound⟩, value⟩

variable [DecidableEq K]

/-- Writing another key leaves a promise as it is. -/
theorem GoodUntil.put_of_ne (good : store.GoodUntil k v deadline) (other : k ≠ j) (entry : Option (TtlEntry V)) :
    (store.put j entry).GoodUntil k v deadline := by
  obtain ⟨old, stored, rest⟩ := good
  exact ⟨old, (if_neg other).trans stored, rest⟩

/-- A renewal with the promised value keeps the promise, on whichever key it is made. -/
theorem GoodUntil.renew (good : store.GoodUntil k v deadline) (now fresh ttl : Nat) :
    (store.renew now fresh ttl j v).GoodUntil k v deadline := by
  by_cases same : k = j
  · subst same
    obtain ⟨old, stored, value, bound⟩ := good
    refine ⟨_, if_pos rfl, rfl, ?_⟩
    by_cases current : now ≤ old.liveUntil
    · have known : store.liveUntil now k = some old.liveUntil :=
        liveUntil_eq_some.mpr ⟨old, live_eq_some.mpr ⟨stored, current⟩, rfl⟩
      rw [known]
      exact bound.trans (Nat.le_max_left _ _)
    · -- a lapsed entry was good for no longer than until now
      exact (by omega : deadline ≤ now + ttl).trans (Nat.le_max_right _ _)
  · exact good.put_of_ne same _

theorem GoodUntil.prolong (good : store.GoodUntil k v deadline) (now ttl : Nat) :
    (store.prolong now ttl j).GoodUntil k v deadline := by
  unfold TtlStore.prolong
  cases served : store.live now j with
  | none => exact good
  | some entry =>
    by_cases same : k = j
    · subst same
      obtain ⟨old, stored, value, bound⟩ := good
      cases stored.symm.trans (live_eq_some.mp served).1
      exact ⟨_, if_pos rfl, value, bound.trans (Nat.le_max_left _ _)⟩
    · exact good.put_of_ne same _

/-- A value that is served is promised for the whole extension. -/
theorem goodUntil_prolong (served : store.get now k = some v) (ttl : Nat) :
    (store.prolong now ttl k).GoodUntil k v (now + ttl) := by
  obtain ⟨entry, live, value⟩ := get_eq_some.mp served
  rw [TtlStore.prolong, live]
  exact ⟨_, if_pos rfl, value, Nat.le_max_right _ _⟩

/-- What the first store serves up to some ledger the second one serves up to there, too. -/
def Outlasted (store after : TtlStore K V) : Prop :=
  ∀ k v deadline, store.GoodUntil k v deadline → after.GoodUntil k v deadline

/-- No entry is worse off after an extension. -/
theorem outlasted_prolong (store : TtlStore K V) (now ttl : Nat) (k : K) :
    store.Outlasted (store.prolong now ttl k) :=
  fun _ _ _ good => good.prolong now ttl

/-- An extension changes no value that is read. -/
theorem get_prolong (store : TtlStore K V) (now ttl : Nat) (k j : K) :
    (store.prolong now ttl k).get now j = store.get now j := by
  unfold TtlStore.get
  rw [live_prolong]
  by_cases same : j = k
  · rw [if_pos same, same, Option.map_map]
    rfl
  · rw [if_neg same]

end GoodUntil

end TtlStore
