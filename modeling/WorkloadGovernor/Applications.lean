import WorkloadGovernor.Lib.LeaseBook
import WorkloadGovernor.Runs

namespace WorkloadGovernor
open LeaseBook
variable {Address : Type} [DecidableEq Address]

/-- A contributor's applications and their counter as one book of leases. -/
def applicationBook (env : Env Address) (contributor : Address) : LeaseBook (Symbol × UInt32) where
  now := env.sequence
  leases := fun issue => env.storage.app.liveUntil env.sequence (contributor, issue)
  counter := (env.storage.gApps.live env.sequence contributor).map
    fun entry => ⟨entry.value.toNat, entry.liveUntil⟩

/-- The pairs of organisation and issue a contributor has an application for. -/
def pending (env : Env Address) (contributor : Address) : Set (Symbol × UInt32) :=
  {issue | hasApplied env contributor issue.1 issue.2 = true}

/-- Whether the host still serves the contributor's counter entry. -/
def CounterStored (env : Env Address) (contributor : Address) : Prop :=
  (env.storage.gApps.live env.sequence contributor).isSome = true

/-- A sentinel is only ever written as `true`. -/
def SentinelsTrue (env : Env Address) : Prop :=
  ∀ key entry, env.storage.app key = some entry → entry.value = true

/-- What a call does to the applications of one contributor. -/
def applicationOp (contributor : Address) : Call Address → Op (Symbol × UInt32)
  | .applyForIssue c orgId issueId => if c = contributor then .grant (orgId, issueId) else .idle
  | .withdrawApplication c orgId issueId => if c = contributor then .surrender (orgId, issueId) else .idle
  | .assignIssue _ c orgId issueId => if c = contributor then .surrender (orgId, issueId) else .idle
  | .extendApplicationTtl c orgId issueId => if c = contributor then .prolong (orgId, issueId) else .idle
  | _ => .idle

/-- Whose applications a call is about, and what it does to them. -/
theorem applicationOp_cases (contributor : Address) (call : Call Address) :
    applicationOp contributor call = .idle ∨ ∃ issue,
      (call = .applyForIssue contributor issue.1 issue.2 ∧ applicationOp contributor call = .grant issue) ∨
      ((call = .withdrawApplication contributor issue.1 issue.2 ∨
          ∃ maintainer, call = .assignIssue maintainer contributor issue.1 issue.2) ∧
        applicationOp contributor call = .surrender issue) ∨
      (call = .extendApplicationTtl contributor issue.1 issue.2 ∧ applicationOp contributor call = .prolong issue) := by
  cases call with
  | applyForIssue c orgId issueId =>
    by_cases own : c = contributor
    · subst own
      exact Or.inr ⟨(orgId, issueId), Or.inl ⟨rfl, if_pos rfl⟩⟩
    · exact Or.inl (if_neg own)
  | withdrawApplication c orgId issueId =>
    by_cases own : c = contributor
    · subst own
      exact Or.inr ⟨(orgId, issueId), Or.inr (Or.inl ⟨Or.inl rfl, if_pos rfl⟩)⟩
    · exact Or.inl (if_neg own)
  | assignIssue maintainer c orgId issueId =>
    by_cases own : c = contributor
    · subst own
      exact Or.inr ⟨(orgId, issueId), Or.inr (Or.inl ⟨Or.inr ⟨maintainer, rfl⟩, if_pos rfl⟩)⟩
    · exact Or.inl (if_neg own)
  | extendApplicationTtl c orgId issueId =>
    by_cases own : c = contributor
    · subst own
      exact Or.inr ⟨(orgId, issueId), Or.inr (Or.inr ⟨rfl, if_pos rfl⟩)⟩
    · exact Or.inl (if_neg own)
  | _ => exact Or.inl rfl

/-- Only an application of the contributor is a grant. -/
theorem applicationOp_grant {contributor : Address} {call : Call Address} {issue : Symbol × UInt32}
    (granted : applicationOp contributor call = .grant issue) :
    call = .applyForIssue contributor issue.1 issue.2 := by
  rcases applicationOp_cases contributor call with idle | ⟨_, ⟨applies, op⟩ | ⟨_, op⟩ | ⟨_, op⟩⟩
  · cases idle.symm.trans granted
  · cases op.symm.trans granted
    exact applies
  · cases op.symm.trans granted
  · cases op.symm.trans granted

section Book
variable {env : Env Address} {contributor : Address} {orgId : Symbol} {issueId : UInt32}

omit [DecidableEq Address] in
theorem count_applicationBook :
    (applicationBook env contributor).count = (env.getGlobalAppCount contributor).toNat := by
  simp only [LeaseBook.count, applicationBook, Env.getGlobalAppCount, TtlStore.get]
  cases env.storage.gApps.live env.sequence contributor <;> simp

omit [DecidableEq Address] in
theorem counterStored_iff : CounterStored env contributor ↔
    ∃ counter, (applicationBook env contributor).counter = some counter := by
  simp only [CounterStored, applicationBook, ← Option.isSome_iff_exists, Option.isSome_map]

omit [DecidableEq Address] in
theorem hasAppEntry_iff (sentinels : SentinelsTrue env) :
    env.hasAppEntry contributor orgId issueId = true ↔
      (orgId, issueId) ∈ (applicationBook env contributor).held := by
  rw [mem_held]
  constructor
  · intro applied
    obtain ⟨entry, served, _⟩ := Env.live_of_hasAppEntry applied
    exact ⟨_, TtlStore.liveUntil_eq_some.mpr ⟨entry, served, rfl⟩⟩
  · rintro ⟨deadline, out⟩
    obtain ⟨entry, served, _⟩ := TtlStore.liveUntil_eq_some.mp out
    have value := sentinels _ entry (TtlStore.live_eq_some.mp served).1
    simp only [Env.hasAppEntry, TtlStore.get, served, Option.map_some, value, Option.getD_some]

omit [DecidableEq Address] in
theorem pending_eq_held (sentinels : SentinelsTrue env) :
    pending env contributor = (applicationBook env contributor).held := by
  ext issue
  exact hasAppEntry_iff sentinels

omit [DecidableEq Address] in
theorem applicationBook_advanced (n : Nat) :
    applicationBook (env.advanced n) contributor = (applicationBook env contributor).pass n := by
  have order : env.sequence ≤ env.sequence + n := Nat.le_add_right _ _
  unfold applicationBook LeaseBook.pass
  congr 1
  · funext issue
    simp only [Env.advanced, TtlStore.liveUntil, TtlStore.live_later order]
    cases env.storage.app.live env.sequence (contributor, issue) with
    | none => rfl
    | some entry => by_cases due : env.sequence + n ≤ entry.liveUntil <;> simp [Option.filter_some, due]
  · simp only [Env.advanced, TtlStore.live_later order]
    cases env.storage.gApps.live env.sequence contributor with
    | none => rfl
    | some entry => by_cases due : env.sequence + n ≤ entry.liveUntil <;> simp [Option.filter_some, due]

/-- The new sentinel was absent, so it lives just as long as the contract asks for. -/
theorem applicationBook_submitted (sentinels : SentinelsTrue env) {c : Address}
    (missing : env.hasAppEntry c orgId issueId = false)
    (room : env.getGlobalAppCount c < env.getGlobalCap) :
    applicationBook (env.submitted c orgId issueId) contributor =
      (applicationBook env contributor).apply appTtlLedgers
        (if c = contributor then .grant (orgId, issueId) else .idle) := by
  have fresh : (orgId, issueId) ∉ (applicationBook env c).held := by
    rw [← hasAppEntry_iff sentinels, missing]
    simp
  have absent : env.storage.app.live env.sequence (c, orgId, issueId) = none := by
    simpa [mem_held, applicationBook, TtlStore.liveUntil, ← Option.isSome_iff_exists] using fresh
  have granted := env.deployment.freshTtl_le
  by_cases same : c = contributor
  · subst same
    simp only [if_true, LeaseBook.apply, LeaseBook.grant, applicationBook, Env.submitted]
    congr 1
    · funext issue
      simp only [TtlStore.liveUntil, TtlStore.live_renew, Prod.mk.injEq, true_and]
      by_cases same : issue = (orgId, issueId)
      · simp only [same, if_true, Option.map_some]
        rw [absent, Option.map_none, Option.getD_none, max_eq_right (by omega)]
      · simp only [same, if_false]
    · simp only [TtlStore.live_renew, if_true, Option.map_some]
      rw [Checked.toNat_add_one room, ← count_applicationBook]
      congr 2
      simp only [TtlStore.liveUntil]
      cases env.storage.gApps.live env.sequence c with
      | none => simp only [Option.map_none, Option.getD_none]; omega
      | some entry => rfl
  · simp only [same, if_false, LeaseBook.apply, applicationBook, Env.submitted]
    have other : contributor ≠ c := fun equal => same equal.symm
    congr 1
    · funext issue
      simp only [TtlStore.liveUntil, TtlStore.live_renew, Prod.mk.injEq, other, false_and, if_false]
    · simp only [TtlStore.live_renew, other, if_false]

theorem applicationBook_consumed {c : Address} :
    applicationBook (env.consumed c orgId issueId) contributor =
      (applicationBook env contributor).apply appTtlLedgers
        (if c = contributor then .surrender (orgId, issueId) else .idle) := by
  by_cases same : c = contributor
  · subst same
    simp only [if_true, LeaseBook.apply, LeaseBook.surrender, applicationBook, Env.consumed]
    congr 1
    · funext issue
      simp only [TtlStore.liveUntil, TtlStore.live_remove, Prod.mk.injEq, true_and]
      by_cases same : issue = (orgId, issueId) <;> simp [same]
    · have zero : Checked.saturatingSub (env.getGlobalAppCount c) 1 = 0 ↔
          (env.getGlobalAppCount c).toNat - 1 = 0 := Checked.saturatingSub_one_eq_zero
      cases served : env.storage.gApps.live env.sequence c with
      | none =>
        have count : (env.getGlobalAppCount c).toNat = 0 := by
          simp [Env.getGlobalAppCount, TtlStore.get, served]
        rw [if_pos (zero.mpr (by omega))]
        simp [TtlStore.live_remove]
      | some entry =>
        have count : env.getGlobalAppCount c = entry.value := by
          simp [Env.getGlobalAppCount, TtlStore.get, served]
        rw [count] at zero
        simp only [count, Option.map_some, Option.bind_some]
        by_cases last : entry.value.toNat - 1 = 0
        · simp [zero.mpr last, last, TtlStore.live_remove]
        · simp [zero, last, TtlStore.live_set, TtlStore.liveUntil, served]
  · simp only [same, if_false, LeaseBook.apply, applicationBook, Env.consumed]
    have other : contributor ≠ c := fun equal => same equal.symm
    congr 1
    · funext issue
      simp only [TtlStore.liveUntil, TtlStore.live_remove, Prod.mk.injEq, other, false_and, if_false]
    · split
      · simp only [TtlStore.live_remove, other, if_false]
      · simp only [TtlStore.live_set, other, if_false]

theorem applicationBook_prolonged {c : Address} :
    applicationBook (env.prolonged c orgId issueId) contributor =
      (applicationBook env contributor).apply appTtlLedgers
        (if c = contributor then .prolong (orgId, issueId) else .idle) := by
  by_cases same : c = contributor
  · subst same
    have positive : env.getGlobalAppCount c > 0 ↔ (applicationBook env c).count > 0 := by
      rw [count_applicationBook, gt_iff_lt, UInt32.lt_iff_toNat_lt, UInt32.toNat_zero]
    simp only [if_true, LeaseBook.apply, LeaseBook.prolong, ← positive]
    simp only [applicationBook, Env.prolonged]
    congr 1
    · funext issue
      simp only [TtlStore.liveUntil, TtlStore.live_prolong, Prod.mk.injEq, true_and]
      by_cases same : issue = (orgId, issueId)
      · simp only [same, if_true, Option.map_map, Function.comp_def]
      · simp only [same, if_false]
    · split
      · simp only [TtlStore.live_prolong, if_true, Option.map_map, Function.comp_def]
      · rfl
  · simp only [same, if_false, LeaseBook.apply, applicationBook, Env.prolonged]
    have other : contributor ≠ c := fun equal => same equal.symm
    congr 1
    · funext issue
      simp only [TtlStore.liveUntil, TtlStore.live_prolong, Prod.mk.injEq, other, false_and, if_false]
    · split
      · simp only [TtlStore.live_prolong, other, if_false]
      · rfl

omit [DecidableEq Address] in
theorem applicationBook_congr (env : Env Address) {after : Env Address} (app : after.storage.app = env.storage.app)
    (gApps : after.storage.gApps = env.storage.gApps) (sequence : after.sequence = env.sequence) :
    applicationBook after contributor = applicationBook env contributor := by
  unfold applicationBook
  rw [app, gApps, sequence]

theorem applicationBook_occupied (env : Env Address) {c : Address} :
    applicationBook (env.occupied c orgId issueId) contributor = applicationBook env contributor :=
  applicationBook_congr env rfl rfl rfl

/-- The effect of an allowed call, as one contributor's book sees it. -/
theorem applicationBook_effect (sentinels : SentinelsTrue env) {call : Call Address}
    (allowed : env.Allowed call) :
    applicationBook (env.effect call) contributor =
      (applicationBook env contributor).apply appTtlLedgers (applicationOp contributor call) := by
  have entries : applicationBook (env.effect call) contributor =
      applicationBook (env.change call) contributor := applicationBook_congr _ rfl rfl rfl
  rw [entries]
  cases call with
  | applyForIssue c orgId issueId =>
    obtain ⟨_, _, room, missing⟩ := allowed
    exact applicationBook_submitted sentinels missing room
  | withdrawApplication c orgId issueId => exact applicationBook_consumed
  | assignIssue maintainer c orgId issueId =>
    exact (applicationBook_occupied _).trans applicationBook_consumed
  | extendApplicationTtl c orgId issueId => exact applicationBook_prolonged
  | _ => exact applicationBook_congr env rfl rfl rfl

theorem applicationOp_legal (sentinels : SentinelsTrue env) {call : Call Address}
    (allowed : env.Allowed call) :
    (applicationBook env contributor).Legal (applicationOp contributor call) := by
  cases call with
  | applyForIssue c orgId issueId =>
    obtain ⟨_, _, _, missing⟩ := allowed
    simp only [applicationOp]
    split
    · rename_i same
      subst same
      rw [LeaseBook.Legal, ← hasAppEntry_iff sentinels, missing]
      simp
    · trivial
  | withdrawApplication c orgId issueId =>
    obtain ⟨_, _, applied⟩ := allowed
    simp only [applicationOp]
    split
    · rename_i same
      subst same
      exact (hasAppEntry_iff sentinels).mp applied
    · trivial
  | assignIssue maintainer c orgId issueId =>
    obtain ⟨_, applied, _⟩ := allowed
    simp only [applicationOp]
    split
    · rename_i same
      subst same
      exact (hasAppEntry_iff sentinels).mp applied
    · trivial
  | extendApplicationTtl c orgId issueId =>
    simp only [applicationOp]
    split
    · rename_i same
      subst same
      exact (hasAppEntry_iff sentinels).mp allowed
    · trivial
  | _ => trivial

end Book

section Invariant
variable {env : Env Address}

theorem sentinelsTrue_put {env : Env Address} (sentinels : SentinelsTrue env)
    (key : Address × Symbol × UInt32) (stored : Option (TtlEntry Bool))
    (written : ∀ entry, stored = some entry → entry.value = true) :
    ∀ j entry, env.storage.app.put key stored j = some entry → entry.value = true := by
  intro j entry present
  unfold TtlStore.put at present
  split at present
  · exact written entry present
  · exact sentinels j entry present

theorem sentinelsTrue_effect (sentinels : SentinelsTrue env) (call : Call Address) :
    SentinelsTrue (env.effect call) := by
  cases call with
  | applyForIssue c orgId issueId =>
    exact sentinelsTrue_put sentinels _ _ fun entry same => by cases same; rfl
  | withdrawApplication c orgId issueId => exact sentinelsTrue_put sentinels _ none (by simp)
  | assignIssue maintainer c orgId issueId => exact sentinelsTrue_put sentinels _ none (by simp)
  | extendApplicationTtl c orgId issueId =>
    intro j entry present
    change env.storage.app.prolong env.sequence appTtlLedgers (c, orgId, issueId) j = some entry at present
    cases served : env.storage.app.live env.sequence (c, orgId, issueId) with
    | none =>
      rw [TtlStore.prolong, served] at present
      exact sentinels j entry present
    | some before =>
      rw [TtlStore.prolong, served] at present
      refine sentinelsTrue_put sentinels _ _ ?_ j entry present
      intro renewed same
      cases same
      exact sentinels _ before (TtlStore.live_eq_some.mp served).1
  | _ => exact sentinels

/-- What every reachable state owes each contributor about applications. -/
structure ApplicationInv (env : Env Address) : Prop where
  sentinels : SentinelsTrue env
  sound : ∀ contributor, (applicationBook env contributor).Sound appTtlLedgers

omit [DecidableEq Address] in
theorem applicationInv_genesis (deployment : Deployment Address) :
    ApplicationInv (Env.genesis deployment) where
  sentinels := by
    intro key entry present
    cases present
  sound := fun _ => blank_sound appTtlLedgers 0

theorem pending_effect (sentinels : SentinelsTrue env) {call : Call Address} (allowed : env.Allowed call)
    (contributor : Address) :
    pending (env.effect call) contributor = (applicationOp contributor call).on (pending env contributor) := by
  rw [pending_eq_held sentinels, pending_eq_held (sentinelsTrue_effect sentinels call),
    applicationBook_effect sentinels allowed, held_apply]

/-- Only an application of the contributor adds an issue. -/
theorem pending_of_effect (sentinels : SentinelsTrue env) {call : Call Address} (allowed : env.Allowed call)
    {contributor : Address} {issue : Symbol × UInt32} (member : issue ∈ pending (env.effect call) contributor) :
    issue ∈ pending env contributor ∨ call = .applyForIssue contributor issue.1 issue.2 := by
  rw [pending_effect sentinels allowed] at member
  rcases Op.mem_on member with old | granted
  · exact Or.inl old
  · exact Or.inr (applicationOp_grant granted)

/-- An application taken back or assigned is gone. -/
theorem not_mem_pending_of_surrender (sentinels : SentinelsTrue env) {call : Call Address}
    (allowed : env.Allowed call) {contributor : Address} {issue : Symbol × UInt32}
    (surrenders : applicationOp contributor call = .surrender issue) :
    issue ∉ pending (env.effect call) contributor := by
  rw [pending_effect sentinels allowed, surrenders]
  exact fun member => member.2 rfl

omit [DecidableEq Address] in
theorem pending_advanced_subset (sentinels : SentinelsTrue env) (contributor : Address) (n : Nat) :
    pending (env.advanced n) contributor ⊆ pending env contributor := by
  have later : SentinelsTrue (env.advanced n) := sentinels
  rw [pending_eq_held sentinels, pending_eq_held later, applicationBook_advanced]
  exact held_pass_subset

theorem applicationInv_effect (inv : ApplicationInv env) {call : Call Address}
    (allowed : env.Allowed call) : ApplicationInv (env.effect call) where
  sentinels := sentinelsTrue_effect inv.sentinels call
  sound := fun contributor => by
    rw [applicationBook_effect inv.sentinels allowed]
    exact apply_sound (inv.sound contributor) (applicationOp_legal inv.sentinels allowed)

omit [DecidableEq Address] in
theorem applicationInv_advanced (inv : ApplicationInv env) (n : Nat) : ApplicationInv (env.advanced n) where
  sentinels := inv.sentinels
  sound := fun contributor => by
    rw [applicationBook_advanced]
    exact pass_sound (inv.sound contributor)

omit [DecidableEq Address] in
theorem applicationInv_authorisedBy (inv : ApplicationInv env) (auths : List Address) :
    ApplicationInv (env.authorisedBy auths) :=
  ⟨inv.sentinels, inv.sound⟩

theorem applicationInv_step (s : Step Address) (inv : ApplicationInv env) : ApplicationInv (step env s) :=
  step_invariant
    (fun _ auths _ inv allowed => applicationInv_effect (applicationInv_authorisedBy inv auths) allowed)
    (fun _ n inv => applicationInv_advanced inv n) env s inv

/-- The counter outlives every live sentinel and never falls behind them, in every
reachable state. -/
theorem exec_applicationInv (deployment : Deployment Address) (steps : List (Step Address)) :
    ApplicationInv (exec deployment steps) :=
  Run.exec_invariant (applicationInv_genesis deployment) (fun _ s inv => applicationInv_step s inv) steps

end Invariant

end WorkloadGovernor
