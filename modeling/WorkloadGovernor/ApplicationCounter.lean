import WorkloadGovernor.Applications

namespace WorkloadGovernor
open LeaseBook
variable {Address : Type} [DecidableEq Address]

/-- The applications of a contributor that come past their deadline in a step. -/
def lapsed (env : Env Address) (contributor : Address) : Step Address → Set (Symbol × UInt32)
  | .call _ _ => ∅
  | .advance ledgers => pending env contributor \ pending (env.advanced ledgers) contributor

/-- The expiries of a run that the contributor's present counter entry has seen: which
step let which application lapse, with the entry there ever since. -/
def expiries (deployment : Deployment Address) (steps : List (Step Address)) (contributor : Address) :
    Set (Nat × Symbol × UInt32) :=
  {expiry | (∃ s, steps[expiry.1]? = some s ∧
      expiry.2 ∈ lapsed (exec deployment (steps.take expiry.1)) contributor s) ∧
    ∀ j, expiry.1 ≤ j → j ≤ steps.length → CounterStored (exec deployment (steps.take j)) contributor}

section Expiries
variable {deployment : Deployment Address} {steps : List (Step Address)} {contributor : Address}

theorem expiries_bound {expiry : Nat × Symbol × UInt32}
    (member : expiry ∈ expiries deployment steps contributor) : expiry.1 < steps.length := by
  obtain ⟨⟨s, atStep, _⟩, _⟩ := member
  exact (List.getElem?_eq_some_iff.mp atStep).choose

theorem expiries_nil : expiries deployment [] contributor = ∅ := by
  ext expiry
  simp [expiries]

theorem expiries_of_not_stored (missing : ¬ CounterStored (exec deployment steps) contributor) :
    expiries deployment steps contributor = ∅ := by
  ext expiry
  simp only [Set.mem_empty_iff_false, iff_false]
  intro member
  have stored := member.2 steps.length (expiries_bound member).le le_rfl
  rw [List.take_length] at stored
  exact missing stored

/-- While the counter entry stays, a step adds what it lets lapse. -/
theorem expiries_concat {s : Step Address}
    (stored : CounterStored (exec deployment (steps ++ [s])) contributor)
    (before : (lapsed (exec deployment steps) contributor s).Nonempty →
      CounterStored (exec deployment steps) contributor) :
    expiries deployment (steps ++ [s]) contributor = expiries deployment steps contributor ∪
      (fun issue => (steps.length, issue)) '' lapsed (exec deployment steps) contributor s := by
  ext ⟨k, issue⟩
  simp only [Set.mem_union, Set.mem_image, Prod.mk.injEq]
  constructor
  · intro member
    have bound := expiries_bound member
    obtain ⟨⟨t, atStep, lapses⟩, since⟩ := member
    simp only [List.length_append, List.length_singleton] at bound
    by_cases last : k = steps.length
    · subst last
      simp only [List.getElem?_concat_length, Option.some.injEq] at atStep
      subst atStep
      rw [List.take_left] at lapses
      exact Or.inr ⟨issue, lapses, rfl, rfl⟩
    · have earlier : k < steps.length := by omega
      rw [List.getElem?_append_left earlier] at atStep
      rw [List.take_append_of_le_length earlier.le] at lapses
      refine Or.inl ⟨⟨t, atStep, lapses⟩, fun j from_k to_end => ?_⟩
      have there := since j from_k (by simp only [List.length_append]; omega)
      rwa [List.take_append_of_le_length to_end] at there
  · have extend : ∀ j, j ≤ (steps ++ [s]).length →
        (j ≤ steps.length → CounterStored (exec deployment (steps.take j)) contributor) →
        CounterStored (exec deployment ((steps ++ [s]).take j)) contributor := by
      intro j bound there
      by_cases inside : j ≤ steps.length
      · rw [List.take_append_of_le_length inside]
        exact there inside
      · rw [List.take_of_length_le (by simp only [List.length_append, List.length_singleton] at *; omega)]
        exact stored
    rintro (⟨⟨t, atStep, lapses⟩, since⟩ | ⟨issue', lapses, rfl, rfl⟩)
    · have earlier := (List.getElem?_eq_some_iff.mp atStep).choose
      refine ⟨⟨t, ?_, ?_⟩, fun j from_k bound => extend j bound (since j from_k)⟩
      · rw [List.getElem?_append_left earlier]
        exact atStep
      · rw [List.take_append_of_le_length earlier.le]
        exact lapses
    · refine ⟨⟨s, by simp, ?_⟩, fun j from_end bound => extend j bound fun inside => ?_⟩
      · rw [List.take_left]
        exact lapses
      · rw [List.take_of_length_le from_end]
        exact before ⟨issue', lapses⟩

theorem ncard_expiries_concat {s : Step Address}
    (stored : CounterStored (exec deployment (steps ++ [s])) contributor)
    (before : (lapsed (exec deployment steps) contributor s).Nonempty →
      CounterStored (exec deployment steps) contributor)
    (finite : (expiries deployment steps contributor).Finite)
    (few : (lapsed (exec deployment steps) contributor s).Finite) :
    (expiries deployment (steps ++ [s]) contributor).Finite ∧
      (expiries deployment (steps ++ [s]) contributor).ncard =
        (expiries deployment steps contributor).ncard +
          (lapsed (exec deployment steps) contributor s).ncard := by
  have distinct : Function.Injective (fun issue : Symbol × UInt32 => (steps.length, issue)) :=
    fun _ _ same => (Prod.mk.inj same).2
  have disjoint : Disjoint (expiries deployment steps contributor)
      ((fun issue => (steps.length, issue)) '' lapsed (exec deployment steps) contributor s) := by
    rw [Set.disjoint_left]
    rintro _ old ⟨issue, _, rfl⟩
    exact Nat.lt_irrefl _ (expiries_bound old)
  rw [expiries_concat stored before]
  refine ⟨finite.union (few.image _), ?_⟩
  rw [Set.ncard_union_eq disjoint finite (few.image _), Set.ncard_image_of_injective _ distinct]

end Expiries

section Step
variable {env : Env Address} {contributor : Address}

/-- A step as one contributor's book sees it. -/
theorem applicationBook_step (contributor : Address) (inv : ApplicationInv env) (s : Step Address) :
    (∃ n, s = .advance n ∧
      applicationBook (step env s) contributor = (applicationBook env contributor).pass n) ∨
    (∃ auths call op, s = .call auths call ∧ (applicationBook env contributor).Legal op ∧
      applicationBook (step env s) contributor =
        (applicationBook env contributor).apply appTtlLedgers op ∧
      ((∃ k, op = .grant k) → env.getGlobalAppCount contributor < env.getGlobalCap)) := by
  cases s with
  | advance n => exact Or.inl ⟨n, rfl, applicationBook_advanced n⟩
  | call auths call =>
    right
    by_cases allowed : (env.authorisedBy auths).Allowed call
    · refine ⟨auths, call, applicationOp contributor call, rfl, ?_, ?_, ?_⟩
      · exact applicationOp_legal (applicationInv_authorisedBy inv auths).sentinels allowed
      · rw [step_of_allowed allowed]
        exact applicationBook_effect (applicationInv_authorisedBy inv auths).sentinels allowed
      · intro granting
        obtain ⟨issue, granted⟩ := granting
        have application := applicationOp_grant granted
        subst application
        exact allowed.2.2.1
    · refine ⟨auths, call, .idle, rfl, trivial, ?_, ?_⟩
      · rw [step_of_refused allowed]
        rfl
      · rintro ⟨k, impossible⟩
        cases impossible

omit [DecidableEq Address] in
theorem count_of_not_stored (missing : ¬ CounterStored env contributor) :
    (env.getGlobalAppCount contributor).toNat = 0 := by
  rw [counterStored_iff, not_exists] at missing
  rw [← count_applicationBook]
  exact count_of_none (Option.eq_none_iff_forall_not_mem.mpr missing)

omit [DecidableEq Address] in
theorem pending_of_not_stored (inv : ApplicationInv env) (missing : ¬ CounterStored env contributor) :
    pending env contributor = ∅ := by
  rw [counterStored_iff, not_exists] at missing
  rw [pending_eq_held inv.sentinels]
  exact (inv.sound contributor).held_of_none (Option.eq_none_iff_forall_not_mem.mpr missing)

omit [DecidableEq Address] in
theorem pending_finite (inv : ApplicationInv env) : (pending env contributor).Finite := by
  rw [pending_eq_held inv.sentinels]
  exact (inv.sound contributor).finite

omit [DecidableEq Address] in
theorem lapsed_subset (contributor : Address) (s : Step Address) : lapsed env contributor s ⊆ pending env contributor := by
  cases s with
  | call auths call => exact Set.empty_subset _
  | advance n => exact Set.sdiff_subset

/-- While the counter entry stays, the counter follows the applications up to those that lapse. -/
theorem step_balance (inv : ApplicationInv env) {s : Step Address}
    (stored : CounterStored (step env s) contributor) :
    ((step env s).getGlobalAppCount contributor).toNat + (pending env contributor).ncard =
      (env.getGlobalAppCount contributor).toNat + (pending (step env s) contributor).ncard +
        (lapsed env contributor s).ncard := by
  have after := applicationInv_step s inv
  have sound := inv.sound contributor
  rw [counterStored_iff] at stored
  rw [pending_eq_held inv.sentinels, pending_eq_held after.sentinels, ← count_applicationBook,
    ← count_applicationBook]
  rcases applicationBook_step contributor inv s with
    ⟨n, rfl, book⟩ | ⟨auths, call, op, rfl, legal, book, _⟩
  · obtain ⟨counter, survives⟩ := stored
    have drop := ncard_pass (n := n) sound
    have gone : lapsed env contributor (.advance n) =
        (applicationBook env contributor).held \ ((applicationBook env contributor).pass n).held := by
      rw [lapsed, pending_eq_held inv.sentinels, pending_eq_held (applicationInv_advanced inv n).sentinels,
        applicationBook_advanced]
    rw [book] at survives ⊢
    rw [count_pass survives, gone]
    omega
  · have drift := apply_drift sound legal
    rw [book, lapsed, Set.ncard_empty]
    omega

theorem count_effect (inv : ApplicationInv env) {call : Call Address} (allowed : env.Allowed call) :
    ((env.effect call).getGlobalAppCount contributor).toNat =
      ((applicationBook env contributor).apply appTtlLedgers (applicationOp contributor call)).count := by
  rw [← count_applicationBook, applicationBook_effect inv.sentinels allowed]

/-- A call that neither adds an application of the contributor's nor takes one away. -/
theorem count_spared (inv : ApplicationInv env) {call : Call Address} (allowed : env.Allowed call)
    (spared : applicationOp contributor call = .idle ∨ ∃ issue, applicationOp contributor call = .prolong issue) :
    ((env.effect call).getGlobalAppCount contributor).toNat = (env.getGlobalAppCount contributor).toNat := by
  rw [count_effect inv allowed, ← count_applicationBook]
  rcases spared with idle | ⟨issue, prolongs⟩
  · rw [idle]
    rfl
  · rw [prolongs]
    exact count_prolong

/-- Taking an application back or assigning it really lowers the counter by one. -/
theorem count_surrendered (issue : Symbol × UInt32) (inv : ApplicationInv env) {call : Call Address}
    (allowed : env.Allowed call) (surrenders : applicationOp contributor call = .surrender issue) :
    ((env.effect call).getGlobalAppCount contributor).toNat + 1 =
      (env.getGlobalAppCount contributor).toNat := by
  have legal : (applicationBook env contributor).Legal (applicationOp contributor call) :=
    applicationOp_legal inv.sentinels allowed
  rw [surrenders] at legal
  have positive := (inv.sound contributor).count_pos legal
  rw [count_effect inv allowed, surrenders, LeaseBook.apply, count_surrender, ← count_applicationBook]
  omega

/-- Only an application of the contributor raises the counter, and only below the cap. -/
theorem step_count_le (contributor : Address) (inv : ApplicationInv env) (s : Step Address) :
    ((step env s).getGlobalAppCount contributor).toNat ≤ (env.getGlobalAppCount contributor).toNat ∨
      ((step env s).getGlobalAppCount contributor).toNat = (env.getGlobalAppCount contributor).toNat + 1 ∧
        env.getGlobalAppCount contributor < env.getGlobalCap := by
  simp only [← count_applicationBook]
  rcases applicationBook_step contributor inv s with
    ⟨n, rfl, book⟩ | ⟨auths, call, op, rfl, legal, book, room⟩
  · left
    rw [book]
    cases survives : ((applicationBook env contributor).pass n).counter with
    | none => simp [count_of_none survives]
    | some counter => exact (count_pass survives).le
  · rw [book]
    cases op with
    | idle => exact Or.inl le_rfl
    | grant k => exact Or.inr ⟨count_grant, room ⟨k, rfl⟩⟩
    | surrender k => exact Or.inl (count_surrender.trans_le (Nat.sub_le _ _))
    | prolong k => exact Or.inl count_prolong.le

end Step

section Cap
variable {env : Env Address}

def CapInv (env : Env Address) : Prop := env.getGlobalCap ≤ 100

theorem capInv_effect {call : Call Address} (allowed : env.Allowed call) (inv : CapInv env) :
    CapInv (env.effect call) := by
  change (env.change call).getGlobalCap ≤ 100
  cases call with
  | initializeContract admin => exact (by decide : globalAppLimit ≤ 100)
  | setGlobalCap admin newCap => exact allowed.2
  | emergencySetGlobalCap admin newCap => exact allowed.2
  | _ => exact inv

theorem exec_capInv (deployment : Deployment Address) (steps : List (Step Address)) :
    CapInv (exec deployment steps) := by
  have init : CapInv (Env.genesis deployment) := (by decide : globalAppLimit ≤ 100)
  exact Run.exec_invariant init
    (step_invariant (fun _ auths _ inv allowed => capInv_effect allowed inv) (fun _ _ inv => inv)) steps

end Cap

section Run
variable (deployment : Deployment Address) (steps : List (Step Address)) (contributor : Address)

/-- The counter is ahead of the applications by the expiries its present entry has seen. -/
theorem exec_balance : (expiries deployment steps contributor).Finite ∧
    ((exec deployment steps).getGlobalAppCount contributor).toNat =
      (pending (exec deployment steps) contributor).ncard + (expiries deployment steps contributor).ncard := by
  induction steps using List.reverseRecOn with
  | nil =>
    have inv := exec_applicationInv deployment []
    have missing : ¬ CounterStored (exec deployment []) contributor := fun stored => by cases stored
    rw [expiries_nil, pending_of_not_stored inv missing, count_of_not_stored missing]
    exact ⟨Set.finite_empty, by simp⟩
  | append_singleton steps s ih =>
    have inv := exec_applicationInv deployment steps
    have after := exec_applicationInv deployment (steps ++ [s])
    by_cases stored : CounterStored (exec deployment (steps ++ [s])) contributor
    · have before : (lapsed (exec deployment steps) contributor s).Nonempty →
          CounterStored (exec deployment steps) contributor := by
        rintro ⟨issue, lapses⟩
        by_contra missing
        have out := lapsed_subset contributor s lapses
        rw [pending_of_not_stored inv missing] at out
        exact out
      have few := (pending_finite inv).subset (lapsed_subset contributor s)
      obtain ⟨finite, sum⟩ := ncard_expiries_concat stored before ih.1 few
      refine ⟨finite, ?_⟩
      rw [exec_concat] at stored
      have balance := step_balance inv stored
      rw [sum, exec_concat]
      omega
    · rw [expiries_of_not_stored stored, pending_of_not_stored after stored, count_of_not_stored stored]
      exact ⟨Set.finite_empty, by simp⟩

/-- The counter never exceeds the largest cap the run has seen. -/
theorem exec_count_le_cap : ∃ earlier, earlier <+: steps ∧
    (exec deployment steps).getGlobalAppCount contributor ≤ (exec deployment earlier).getGlobalCap := by
  induction steps using List.reverseRecOn with
  | nil => exact ⟨[], List.prefix_rfl, UInt32.le_iff_toNat_le.mpr (Nat.zero_le _)⟩
  | append_singleton steps s ih =>
    simp only [UInt32.le_iff_toNat_le] at ih ⊢
    rw [exec_concat]
    rcases step_count_le contributor (exec_applicationInv deployment steps) s with
      lower | ⟨one_more, room⟩
    · obtain ⟨earlier, inner, bound⟩ := ih
      exact ⟨earlier, inner.trans (List.prefix_append _ _), lower.trans bound⟩
    · refine ⟨steps, List.prefix_append _ _, ?_⟩
      rw [one_more]
      exact UInt32.lt_iff_toNat_lt.mp room

/-- The application counter under expiry: it is the number of live applications plus the
expiries its present entry has seen, so it never falls below the former, never runs
into saturation or overflow, and never exceeds the caps it was raised under. -/
theorem application_counter :
    (pending (exec deployment steps) contributor).Finite ∧
    (expiries deployment steps contributor).Finite ∧
    (getGlobalApplicationCount (exec deployment steps) contributor).toNat =
      (pending (exec deployment steps) contributor).ncard + (expiries deployment steps contributor).ncard ∧
    (¬ CounterStored (exec deployment steps) contributor →
      (getGlobalApplicationCount (exec deployment steps) contributor).toNat = 0 ∧
        pending (exec deployment steps) contributor = ∅) ∧
    (∀ auths call after orgId issueId,
      call = .withdrawApplication contributor orgId issueId ∨
        (∃ maintainer, call = .assignIssue maintainer contributor orgId issueId) →
      invoke (exec deployment steps) auths call = .ok after →
      (getGlobalApplicationCount after contributor).toNat + 1 =
        (getGlobalApplicationCount (exec deployment steps) contributor).toNat) ∧
    (∃ earlier, earlier <+: steps ∧ getGlobalApplicationCount (exec deployment steps) contributor ≤
      (exec deployment earlier).getGlobalCap) ∧
    getGlobalApplicationCount (exec deployment steps) contributor ≤ 100 ∧
    (getGlobalApplicationCount (exec deployment steps) contributor + 1).toNat =
      (getGlobalApplicationCount (exec deployment steps) contributor).toNat + 1 ∧
    ∀ auths orgId issueId after,
      invoke (exec deployment steps) auths (.applyForIssue contributor orgId issueId) = .ok after →
      getGlobalApplicationCount after contributor ≤ (exec deployment steps).getGlobalCap ∧
        after.getGlobalCap = (exec deployment steps).getGlobalCap := by
  have inv := exec_applicationInv deployment steps
  obtain ⟨finite, balance⟩ := exec_balance deployment steps contributor
  obtain ⟨earlier, inner, bound⟩ := exec_count_le_cap deployment steps contributor
  have hundred : (exec deployment steps).getGlobalAppCount contributor ≤ 100 :=
    UInt32.le_trans bound (exec_capInv deployment earlier)
  refine ⟨pending_finite inv, finite, balance, ?_, ?_, ⟨earlier, inner, bound⟩, hundred, ?_, ?_⟩
  · exact fun missing => ⟨count_of_not_stored missing, pending_of_not_stored inv missing⟩
  · intro auths call after orgId issueId lowers success
    obtain ⟨allowed, rfl⟩ := invoke_eq_ok.mp success
    refine count_surrendered (orgId, issueId) (applicationInv_authorisedBy inv auths) allowed ?_
    rcases lowers with rfl | ⟨maintainer, rfl⟩ <;> simp only [applicationOp, if_true]
  · exact Checked.toNat_add_one (UInt32.lt_of_le_of_lt hundred (by decide : (100 : UInt32) < 101))
  · intro auths orgId issueId after success
    obtain ⟨allowed, rfl⟩ := invoke_eq_ok.mp success
    refine ⟨?_, rfl⟩
    have room := UInt32.lt_iff_toNat_lt.mp allowed.2.2.1
    have raised : (getGlobalApplicationCount (((exec deployment steps).authorisedBy auths).effect
        (.applyForIssue contributor orgId issueId)) contributor).toNat =
        ((exec deployment steps).getGlobalAppCount contributor).toNat + 1 := by
      refine (count_effect (applicationInv_authorisedBy inv auths) allowed).trans ?_
      simp only [applicationOp, if_true, LeaseBook.apply, count_grant, count_applicationBook]
      rfl
    rw [UInt32.le_iff_toNat_le, raised]
    exact room

end Run

section Exactness

/-- The documented counter lemma: the counter is the number of live applications. -/
def CounterExact (env : Env Address) (contributor : Address) : Prop :=
  (pending env contributor).Finite ∧
    (getGlobalApplicationCount env contributor).toNat = (pending env contributor).ncard

/-- A step that lets no application of the contributor lapse unless the counter entry
lapses as well. Calls let nothing lapse. -/
def LapseTogether (env : Env Address) (contributor : Address) : Step Address → Prop
  | .call _ _ => True
  | .advance ledgers =>
    (∀ issue deadline, env.storage.app.liveUntil env.sequence (contributor, issue) = some deadline →
      env.sequence + ledgers ≤ deadline) ∨
    (∀ deadline, env.storage.gApps.liveUntil env.sequence contributor = some deadline →
      deadline < env.sequence + ledgers)

variable {env : Env Address} {contributor : Address}

omit [DecidableEq Address] in
theorem counterExact_of_not_stored (inv : ApplicationInv env) (missing : ¬ CounterStored env contributor) :
    CounterExact env contributor := by
  have empty := pending_of_not_stored inv missing
  refine ⟨pending_finite inv, ?_⟩
  rw [empty, Set.ncard_empty]
  exact count_of_not_stored missing

omit [DecidableEq Address] in
theorem counterStored_advanced_iff {n : Nat} : CounterStored (env.advanced n) contributor ↔
    ∃ deadline, env.storage.gApps.liveUntil env.sequence contributor = some deadline ∧
      env.sequence + n ≤ deadline := by
  rw [counterStored_iff, applicationBook_advanced]
  simp only [counter_pass, applicationBook, Option.map_eq_some_iff, TtlStore.liveUntil]
  constructor
  · rintro ⟨_, ⟨entry, served, rfl⟩, due⟩
    exact ⟨_, ⟨entry, served, rfl⟩, due⟩
  · rintro ⟨_, ⟨entry, served, rfl⟩, due⟩
    exact ⟨_, ⟨entry, served, rfl⟩, due⟩

omit [DecidableEq Address] in
theorem lapsed_eq_empty_iff (inv : ApplicationInv env) {n : Nat} : lapsed env contributor (.advance n) = ∅ ↔
    ∀ issue deadline, env.storage.app.liveUntil env.sequence (contributor, issue) = some deadline →
      env.sequence + n ≤ deadline := by
  rw [lapsed, pending_eq_held inv.sentinels, pending_eq_held (applicationInv_advanced inv n).sentinels,
    applicationBook_advanced, Set.sdiff_eq_empty]
  constructor
  · intro kept issue deadline out
    obtain ⟨later, there⟩ := mem_held.mp (kept (mem_held.mpr ⟨deadline, out⟩))
    obtain ⟨same, due⟩ := leases_pass.mp there
    cases out.symm.trans same
    exact due
  · intro due issue out
    obtain ⟨deadline, there⟩ := mem_held.mp out
    exact mem_held.mpr ⟨deadline, leases_pass.mpr ⟨there, due issue deadline there⟩⟩

/-- From an exact state a step leads to an exact one just when it does not let an
application lapse under a counter entry that stays. -/
theorem counterExact_step_iff (inv : ApplicationInv env) (now : CounterExact env contributor)
    (s : Step Address) : CounterExact (step env s) contributor ↔ LapseTogether env contributor s := by
  have after := applicationInv_step s inv
  have few := (pending_finite inv).subset (lapsed_subset contributor s)
  by_cases stored : CounterStored (step env s) contributor
  · have balance := step_balance inv stored
    have exact_iff : CounterExact (step env s) contributor ↔ lapsed env contributor s = ∅ := by
      rw [← Set.ncard_eq_zero few, CounterExact, and_iff_right (pending_finite after)]
      have same := now.2
      simp only [getGlobalApplicationCount] at same ⊢
      omega
    rw [exact_iff]
    cases s with
    | call auths call => exact iff_of_true rfl trivial
    | advance n =>
      rw [lapsed_eq_empty_iff inv, LapseTogether]
      refine ⟨Or.inl, fun together => together.elim id fun gone => ?_⟩
      obtain ⟨deadline, live, due⟩ := counterStored_advanced_iff.mp stored
      exact absurd (gone deadline live) (Nat.not_lt.mpr due)
  · refine iff_of_true (counterExact_of_not_stored after stored) ?_
    cases s with
    | call auths call => trivial
    | advance n =>
      refine Or.inr fun deadline live => Nat.lt_of_not_le fun due => ?_
      exact stored (counterStored_advanced_iff.mpr ⟨deadline, live, due⟩)

/-- A run keeps the counter equal to the number of live applications in all its states
exactly when none of its steps lets an application lapse under a counter entry that stays. -/
theorem counter_exact_iff (deployment : Deployment Address) (contributor : Address)
    (steps : List (Step Address)) :
    Run.Always step (.genesis deployment) (fun env => CounterExact env contributor) steps ↔
      Run.EachStep step (.genesis deployment) (fun env s => LapseTogether env contributor s) steps := by
  have init := applicationInv_genesis deployment
  refine Run.always_iff_eachStep init (fun env s inv => applicationInv_step s inv) ?_ ?_ steps
  · exact counterExact_of_not_stored init fun stored => by cases stored
  · exact fun env s inv now => counterExact_step_iff inv now s

/-- Two applications made 100 ledgers apart; the first one lapses, the counter does not. -/
def staggeredApplications : List (Step Nat) :=
  [.call [0] (.initializeContract 0), .call [1] (.applyForIssue 1 sampleOrg 1), .advance 100,
    .call [1] (.applyForIssue 1 sampleOrg 2), .advance 17181]

/-- The counter still reads 2 when one application is left. -/
theorem staggered_applications_drift :
    ¬ CounterExact (exec (.release Nat) staggeredApplications) 1 := by
  rintro ⟨_, counted⟩
  obtain ⟨finite, balance⟩ := exec_balance (.release Nat) staggeredApplications 1
  have member : (4, sampleOrg, (1 : UInt32)) ∈
      expiries (.release Nat) staggeredApplications 1 := by
    refine ⟨⟨.advance 17181, rfl, ?_, ?_⟩, ?_⟩
    · change hasApplied _ _ _ _ = true
      decide
    · change ¬ hasApplied _ _ _ _ = true
      decide
    · intro j lower upper
      have last : j = 4 ∨ j = 5 := by
        simp only [staggeredApplications, List.length_cons, List.length_nil] at upper
        omega
      rcases last with rfl | rfl
      · change Option.isSome _ = true
        decide
      · change Option.isSome _ = true
        decide
  have some_expiry := (Set.ncard_pos finite).mpr ⟨_, member⟩
  rw [getGlobalApplicationCount, balance] at counted
  omega

end Exactness

end WorkloadGovernor
