import Mathlib.Data.Set.Card

/-- How many leases are thought to be out, and until when that count is kept. -/
structure LeaseCounter where
  value : Nat
  deadline : Nat
  deriving DecidableEq, Repr

/-- Leases with deadlines of their own next to one shared counter that has a deadline,
too. What is past its deadline is no longer in the book. -/
structure LeaseBook (K : Type) where
  now : Nat
  leases : K → Option Nat
  counter : Option LeaseCounter

namespace LeaseBook
variable {K : Type}

def held (book : LeaseBook K) : Set K := {k | (book.leases k).isSome}

def count (book : LeaseBook K) : Nat := (book.counter.map LeaseCounter.value).getD 0

/-- Time passes; what has come past its deadline drops out. -/
def pass (book : LeaseBook K) (n : Nat) : LeaseBook K where
  now := book.now + n
  leases := fun k => (book.leases k).filter (fun deadline => book.now + n ≤ deadline)
  counter := book.counter.filter (fun counter => book.now + n ≤ counter.deadline)

section Operations
variable [DecidableEq K]

/-- A new lease for `ttl` more. The counter is prolonged along with it. -/
def grant (book : LeaseBook K) (ttl : Nat) (k : K) : LeaseBook K :=
  { book with
    leases := fun j => if j = k then some (book.now + ttl) else book.leases j
    counter := some ⟨book.count + 1,
      max ((book.counter.map LeaseCounter.deadline).getD 0) (book.now + ttl)⟩ }

/-- A lease given back. A counter that would reach zero is dropped. -/
def surrender (book : LeaseBook K) (k : K) : LeaseBook K :=
  { book with
    leases := fun j => if j = k then none else book.leases j
    counter := book.counter.bind fun counter =>
      if counter.value - 1 = 0 then none else some { counter with value := counter.value - 1 } }

/-- A lease prolonged, and with it the counter. -/
def prolong (book : LeaseBook K) (ttl : Nat) (k : K) : LeaseBook K :=
  { book with
    leases := fun j => if j = k then (book.leases j).map (fun deadline => max deadline (book.now + ttl))
      else book.leases j
    counter := if book.count > 0 then
        book.counter.map (fun counter => { counter with deadline := max counter.deadline (book.now + ttl) })
      else book.counter }

end Operations

/-- What can happen to a book. -/
inductive Op (K : Type) where
  | idle
  | grant (k : K)
  | surrender (k : K)
  | prolong (k : K)

def apply [DecidableEq K] (book : LeaseBook K) (ttl : Nat) : Op K → LeaseBook K
  | .idle => book
  | .grant k => book.grant ttl k
  | .surrender k => book.surrender k
  | .prolong k => book.prolong ttl k

/-- What an operation does to the set of leases that are out. -/
def Op.on : Op K → Set K → Set K
  | .idle, out => out
  | .grant k, out => insert k out
  | .surrender k, out => out \ {k}
  | .prolong _, out => out

/-- Only a missing lease is granted, and only one that is out is given back or prolonged. -/
def Legal (book : LeaseBook K) : Op K → Prop
  | .idle => True
  | .grant k => k ∉ book.held
  | .surrender k => k ∈ book.held
  | .prolong k => k ∈ book.held

/-- The book can be relied on: the counter outlives every lease, is kept only while it
is positive, and never falls behind the leases that are out. -/
structure Sound (book : LeaseBook K) (ttl : Nat) : Prop where
  covered : ∀ k deadline, book.leases k = some deadline →
    ∃ counter, book.counter = some counter ∧ deadline ≤ counter.deadline
  positive : ∀ counter, book.counter = some counter → 0 < counter.value
  current : ∀ k deadline, book.leases k = some deadline → book.now ≤ deadline ∧ deadline ≤ book.now + ttl
  bounded : ∀ counter, book.counter = some counter →
    book.now ≤ counter.deadline ∧ counter.deadline ≤ book.now + ttl
  finite : book.held.Finite
  counted : book.held.ncard ≤ book.count

def blank (K : Type) (now : Nat) : LeaseBook K := ⟨now, fun _ => none, none⟩

@[simp] theorem count_of_none {book : LeaseBook K} (missing : book.counter = none) : book.count = 0 := by
  simp only [count, missing, Option.map_none, Option.getD_none]

theorem count_of_some {book : LeaseBook K} {counter : LeaseCounter} (stored : book.counter = some counter) :
    book.count = counter.value := by
  simp only [count, stored, Option.map_some, Option.getD_some]

theorem mem_held {book : LeaseBook K} {k : K} : k ∈ book.held ↔ ∃ deadline, book.leases k = some deadline :=
  Option.isSome_iff_exists

theorem held_blank (now : Nat) : (blank K now).held = ∅ := by
  ext k
  simp [held, blank]

theorem blank_sound (ttl now : Nat) : (blank K now).Sound ttl where
  covered := by simp [blank]
  positive := by simp [blank]
  current := by simp [blank]
  bounded := by simp [blank]
  finite := by simp [held_blank]
  counted := by simp [held_blank]

namespace Sound
variable {book : LeaseBook K} {ttl : Nat}

/-- Without a counter nothing is held: the counter ends last. -/
theorem held_of_none (sound : book.Sound ttl) (missing : book.counter = none) : book.held = ∅ := by
  ext k
  simp only [mem_held, Set.mem_empty_iff_false, iff_false]
  rintro ⟨deadline, out⟩
  obtain ⟨counter, stored, _⟩ := sound.covered k deadline out
  simp [missing] at stored

/-- What is held is counted. -/
theorem count_pos {k : K} (sound : book.Sound ttl) (out : k ∈ book.held) : 0 < book.count := by
  obtain ⟨deadline, atK⟩ := mem_held.mp out
  obtain ⟨counter, stored, _⟩ := sound.covered k deadline atK
  rw [count_of_some stored]
  exact sound.positive counter stored

end Sound

section Pass
variable {book : LeaseBook K} {ttl n : Nat}

/-- Passing time ends the leases that are due, and no other. -/
theorem leases_pass {k : K} {deadline : Nat} :
    (book.pass n).leases k = some deadline ↔ book.leases k = some deadline ∧ book.now + n ≤ deadline := by
  simp [pass, Option.filter_eq_some_iff]

theorem counter_pass {counter : LeaseCounter} :
    (book.pass n).counter = some counter ↔ book.counter = some counter ∧ book.now + n ≤ counter.deadline := by
  simp [pass, Option.filter_eq_some_iff]

theorem held_pass_subset : (book.pass n).held ⊆ book.held := by
  intro k out
  obtain ⟨deadline, atK⟩ := mem_held.mp out
  exact mem_held.mpr ⟨deadline, (leases_pass.mp atK).1⟩

/-- A counter that survives does not fall with the leases that end. -/
theorem count_pass {counter : LeaseCounter} (survives : (book.pass n).counter = some counter) :
    (book.pass n).count = book.count := by
  rw [count_of_some survives, count_of_some (counter_pass.mp survives).1]

/-- No lease outlives the counter, however long one waits. -/
theorem pass_sound (sound : book.Sound ttl) : (book.pass n).Sound ttl := by
  have covered : ∀ k deadline, (book.pass n).leases k = some deadline →
      ∃ counter, (book.pass n).counter = some counter ∧ deadline ≤ counter.deadline := by
    intro k deadline out
    obtain ⟨atK, due⟩ := leases_pass.mp out
    obtain ⟨counter, stored, later⟩ := sound.covered k deadline atK
    exact ⟨counter, counter_pass.mpr ⟨stored, due.trans later⟩, later⟩
  have finite : (book.pass n).held.Finite := sound.finite.subset held_pass_subset
  refine ⟨covered, ?positive, ?current, ?bounded, finite, ?counted⟩
  case positive => exact fun counter stored => sound.positive counter (counter_pass.mp stored).1
  case current =>
    intro k deadline out
    obtain ⟨atK, due⟩ := leases_pass.mp out
    have bound := (sound.current k deadline atK).2
    exact ⟨due, by simp only [pass]; omega⟩
  case bounded =>
    intro counter stored
    obtain ⟨before, due⟩ := counter_pass.mp stored
    have bound := (sound.bounded counter before).2
    exact ⟨due, by simp only [pass]; omega⟩
  case counted =>
    -- a counter that lapsed takes every lease with it
    cases stored : (book.pass n).counter with
    | none =>
      have empty : (book.pass n).held = ∅ := by
        ext k
        simp only [mem_held, Set.mem_empty_iff_false, iff_false]
        rintro ⟨deadline, out⟩
        obtain ⟨counter, impossible, _⟩ := covered k deadline out
        simp [stored] at impossible
      simp [empty]
    | some counter =>
      rw [count_pass stored]
      exact (Set.ncard_le_ncard held_pass_subset sound.finite).trans sound.counted

/-- What lapses is exactly what the counter no longer agrees with. -/
theorem ncard_pass (sound : book.Sound ttl) :
    (book.pass n).held.ncard + (book.held \ (book.pass n).held).ncard = book.held.ncard := by
  rw [add_comm]
  exact Set.ncard_sdiff_add_ncard_of_subset held_pass_subset sound.finite

end Pass

/-- Nothing in the book is kept past a moment. -/
structure EndsBy (book : LeaseBook K) (moment : Nat) : Prop where
  leases : ∀ k deadline, book.leases k = some deadline → deadline ≤ moment
  counter : ∀ counter, book.counter = some counter → counter.deadline ≤ moment

namespace EndsBy
variable {book : LeaseBook K} {ttl moment : Nat}

theorem pass (ends : book.EndsBy moment) (n : Nat) : (book.pass n).EndsBy moment where
  leases := fun k deadline out => ends.leases k deadline (leases_pass.mp out).1
  counter := fun counter stored => ends.counter counter (counter_pass.mp stored).1

/-- Past that moment a sound book is empty. -/
theorem cleared (ends : book.EndsBy moment) (sound : book.Sound ttl) (late : moment < book.now) :
    book.held = ∅ ∧ book.count = 0 := by
  have missing : book.counter = none := by
    refine Option.eq_none_iff_forall_ne_some.mpr fun counter stored => ?_
    have bound := ends.counter counter stored
    have current := (sound.bounded counter stored).1
    omega
  exact ⟨sound.held_of_none missing, count_of_none missing⟩

end EndsBy

theorem Sound.endsBy {book : LeaseBook K} {ttl : Nat} (sound : book.Sound ttl) : book.EndsBy (book.now + ttl) where
  leases := fun k deadline out => (sound.current k deadline out).2
  counter := fun counter stored => (sound.bounded counter stored).2

section Operations
variable [DecidableEq K] {book : LeaseBook K} {ttl : Nat} {k : K}

/-- A new lease runs the whole time, and the others as before. -/
theorem leases_grant {j : K} {deadline : Nat} (out : (book.grant ttl k).leases j = some deadline) :
    deadline = book.now + ttl ∨ book.leases j = some deadline := by
  by_cases same : j = k
  · simp only [grant, if_pos same, Option.some.injEq] at out
    exact Or.inl out.symm
  · simp only [grant, if_neg same] at out
    exact Or.inr out

theorem leases_surrender {j : K} {deadline : Nat} :
    (book.surrender k).leases j = some deadline ↔ j ≠ k ∧ book.leases j = some deadline := by
  by_cases same : j = k <;> simp [surrender, same]

/-- A counter that comes to 0 is removed. -/
theorem counter_surrender {counter : LeaseCounter} :
    (book.surrender k).counter = some counter ↔
      ∃ before, book.counter = some before ∧ before.value - 1 ≠ 0 ∧
        { before with value := before.value - 1 } = counter := by
  simp only [surrender, Option.bind_eq_some_iff, Option.ite_none_left_eq_some, Option.some.injEq, ne_eq]

/-- No lease gets shorter. -/
theorem leases_prolong {j : K} {deadline : Nat} (out : (book.prolong ttl k).leases j = some deadline) :
    ∃ before, book.leases j = some before ∧
      (deadline = before ∨ deadline = max before (book.now + ttl)) := by
  by_cases same : j = k
  · simp only [prolong, if_pos same] at out
    obtain ⟨before, atBefore, rfl⟩ := Option.map_eq_some_iff.mp out
    exact ⟨before, atBefore, Or.inr rfl⟩
  · simp only [prolong, if_neg same] at out
    exact ⟨deadline, out, Or.inl rfl⟩

/-- A positive counter is prolonged even where no such lease is out. -/
theorem counter_prolong (positive : 0 < book.count) {counter : LeaseCounter} :
    (book.prolong ttl k).counter = some counter ↔
      ∃ before, book.counter = some before ∧
        { before with deadline := max before.deadline (book.now + ttl) } = counter := by
  simp only [prolong, gt_iff_lt, positive, if_true, Option.map_eq_some_iff]

theorem EndsBy.surrender {moment : Nat} (ends : book.EndsBy moment) (k : K) :
    (book.surrender k).EndsBy moment where
  leases := fun j deadline left => ends.leases j deadline (leases_surrender.mp left).2
  counter := by
    intro counter kept
    obtain ⟨before, stored, _, rfl⟩ := counter_surrender.mp kept
    exact ends.counter before stored

theorem held_grant : (book.grant ttl k).held = insert k book.held := by
  ext j
  by_cases same : j = k <;> simp [held, grant, same]

theorem count_grant : (book.grant ttl k).count = book.count + 1 := rfl

theorem held_surrender : (book.surrender k).held = book.held \ {k} := by
  ext j
  by_cases same : j = k <;> simp [held, surrender, same]

theorem count_surrender : (book.surrender k).count = book.count - 1 := by
  cases stored : book.counter with
  | none => simp [count, surrender, stored]
  | some counter =>
    by_cases last : counter.value - 1 = 0 <;> simp [count, surrender, stored, last]

theorem held_prolong : (book.prolong ttl k).held = book.held := by
  ext j
  by_cases same : j = k <;> simp [held, prolong, same]

theorem count_prolong : (book.prolong ttl k).count = book.count := by
  have values : (book.prolong ttl k).counter.map LeaseCounter.value =
      book.counter.map LeaseCounter.value := by
    simp only [prolong]
    split
    · simp only [Option.map_map, Function.comp_def]
    · rfl
  rw [count, values, count]

omit [DecidableEq K] in
/-- Only a grant adds a lease. -/
theorem Op.mem_on {op : Op K} {out : Set K} (member : k ∈ op.on out) : k ∈ out ∨ op = .grant k := by
  cases op with
  | idle => exact Or.inl member
  | grant j =>
    rcases Set.mem_insert_iff.mp member with fresh | old
    · exact Or.inr (by rw [fresh])
    · exact Or.inl old
  | surrender j => exact Or.inl member.1
  | prolong j => exact Or.inl member

/-- An operation changes what is held as it changes the set. -/
theorem held_apply (op : Op K) : (book.apply ttl op).held = op.on book.held := by
  cases op with
  | idle => rfl
  | grant k => exact held_grant
  | surrender k => exact held_surrender
  | prolong k => exact held_prolong

theorem ncard_grant (sound : book.Sound ttl) (fresh : k ∉ book.held) :
    (book.grant ttl k).held.ncard = book.held.ncard + 1 := by
  rw [held_grant, Set.ncard_insert_of_notMem fresh sound.finite]

theorem ncard_surrender (sound : book.Sound ttl) (out : k ∈ book.held) :
    (book.surrender k).held.ncard + 1 = book.held.ncard := by
  rw [held_surrender]
  exact Set.ncard_sdiff_singleton_add_one out sound.finite

/-- A new lease is covered, since the counter is prolonged with it. -/
theorem grant_sound (sound : book.Sound ttl) (fresh : k ∉ book.held) : (book.grant ttl k).Sound ttl := by
  have old : ∀ counter, book.counter = some counter →
      (book.counter.map LeaseCounter.deadline).getD 0 = counter.deadline := by
    intro counter stored
    simp only [stored, Option.map_some, Option.getD_some]
  have limit : (book.counter.map LeaseCounter.deadline).getD 0 ≤ book.now + ttl := by
    cases stored : book.counter with
    | none => simp
    | some counter => simpa using (sound.bounded counter stored).2
  refine ⟨?covered, ?positive, ?current, ?bounded, ?finite, ?counted⟩
  case covered =>
    intro j deadline out
    refine ⟨_, rfl, ?_⟩
    rcases leases_grant out with rfl | earlier
    · exact le_max_right _ _
    · obtain ⟨counter, stored, later⟩ := sound.covered j deadline earlier
      dsimp only
      rw [old counter stored]
      exact le_max_of_le_left later
  case positive =>
    intro counter stored
    obtain rfl := Option.some.inj stored
    exact Nat.succ_pos _
  case current =>
    intro j deadline out
    rcases leases_grant out with rfl | earlier
    · exact ⟨Nat.le_add_right _ _, le_rfl⟩
    · exact sound.current j deadline earlier
  case bounded =>
    intro counter stored
    obtain rfl := Option.some.inj stored
    simp only [grant]
    omega
  case finite =>
    rw [held_grant]
    exact sound.finite.insert k
  case counted =>
    rw [ncard_grant sound fresh, count_grant]
    exact Nat.succ_le_succ sound.counted

/-- Giving back the last counted lease drops the counter; there is no other lease then. -/
theorem surrender_sound (sound : book.Sound ttl) (out : k ∈ book.held) : (book.surrender k).Sound ttl := by
  have fewer := ncard_surrender sound out
  have lower := sound.counted
  have finite : (book.surrender k).held.Finite := by
    rw [held_surrender]
    exact sound.finite.sdiff
  refine ⟨?covered, ?positive, ?current, ?bounded, finite, ?counted⟩
  case covered =>
    intro j deadline left
    have another : 0 < (book.surrender k).held.ncard :=
      (Set.ncard_pos finite).mpr ⟨j, mem_held.mpr ⟨deadline, left⟩⟩
    obtain ⟨_, earlier⟩ := leases_surrender.mp left
    obtain ⟨counter, stored, later⟩ := sound.covered j deadline earlier
    rw [count_of_some stored] at lower
    have stays : counter.value - 1 ≠ 0 := by omega
    exact ⟨_, counter_surrender.mpr ⟨counter, stored, stays, rfl⟩, later⟩
  case positive =>
    intro counter kept
    obtain ⟨before, _, stays, rfl⟩ := counter_surrender.mp kept
    exact Nat.pos_of_ne_zero stays
  case current =>
    intro j deadline left
    exact sound.current j deadline (leases_surrender.mp left).2
  case bounded =>
    intro counter kept
    obtain ⟨before, stored, _, rfl⟩ := counter_surrender.mp kept
    exact sound.bounded before stored
  case counted =>
    rw [count_surrender]
    omega

theorem prolong_sound (sound : book.Sound ttl) (out : k ∈ book.held) : (book.prolong ttl k).Sound ttl := by
  have positive : 0 < book.count := sound.count_pos out
  refine ⟨?covered, ?positive, ?current, ?bounded, ?finite, ?counted⟩
  case covered =>
    intro j deadline out
    obtain ⟨before, earlier, value⟩ := leases_prolong out
    obtain ⟨counter, stored, later⟩ := sound.covered j before earlier
    refine ⟨_, (counter_prolong positive).mpr ⟨counter, stored, rfl⟩, ?_⟩
    dsimp only
    omega
  case positive =>
    intro counter stored
    obtain ⟨before, earlier, rfl⟩ := (counter_prolong positive).mp stored
    exact sound.positive before earlier
  case current =>
    intro j deadline out
    obtain ⟨before, earlier, value⟩ := leases_prolong out
    have bounds := sound.current j before earlier
    simp only [prolong]
    omega
  case bounded =>
    intro counter stored
    obtain ⟨before, earlier, rfl⟩ := (counter_prolong positive).mp stored
    have bounds := sound.bounded before earlier
    simp only [prolong]
    omega
  case finite =>
    rw [held_prolong]
    exact sound.finite
  case counted =>
    rw [held_prolong, count_prolong]
    exact sound.counted

/-- What is legal keeps the book sound. -/
theorem apply_sound (sound : book.Sound ttl) {op : Op K} (legal : book.Legal op) :
    (book.apply ttl op).Sound ttl := by
  cases op with
  | idle => exact sound
  | grant k => exact grant_sound sound legal
  | surrender k => exact surrender_sound sound legal
  | prolong k => exact prolong_sound sound legal

/-- No operation changes by how much the counter is ahead of the leases that are out. -/
theorem apply_drift (sound : book.Sound ttl) {op : Op K} (legal : book.Legal op) :
    (book.apply ttl op).count + book.held.ncard = book.count + (book.apply ttl op).held.ncard := by
  cases op with
  | idle => rfl
  | grant k =>
    have more := ncard_grant (k := k) sound legal
    simp only [apply, count_grant] at more ⊢
    omega
  | surrender k =>
    have fewer := ncard_surrender (k := k) sound legal
    have positive := sound.count_pos legal
    simp only [apply, count_surrender] at fewer ⊢
    omega
  | prolong k => simp only [apply, count_prolong, held_prolong]

end Operations

end LeaseBook
