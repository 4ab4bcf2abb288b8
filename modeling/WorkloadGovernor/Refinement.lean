import WorkloadGovernor.ApplicationCounter
import WorkloadGovernor.Assignments
import WorkloadGovernor.FairnessModel
import WorkloadGovernor.Registry

namespace WorkloadGovernor
variable {Address : Type} [DecidableEq Address]

/-- A step in which no temporary entry comes past its `liveUntil`. -/
def KeepsEntries (env : Env Address) : Step Address → Prop
  | .call _ _ => True
  | .advance ledgers =>
    (∀ key deadline, env.storage.app.liveUntil env.sequence key = some deadline →
      env.sequence + ledgers ≤ deadline) ∧
    ∀ key deadline, env.storage.gApps.liveUntil env.sequence key = some deadline →
      env.sequence + ledgers ≤ deadline

/-- The storage of the contract implements the sets of the fairness model. -/
structure Refines (env : Env Address) (model : FairnessModel Address) : Prop where
  applications : ApplicationInv env
  assignments : AssignmentInv env
  counted : ∀ contributor, CounterExact env contributor
  admin : env.getAdmin = model.admin
  maintainers : registered env = model.maintainers
  globalCap : env.getGlobalCap.toNat = model.globalCap
  orgCap : ∀ orgId, (env.getOrgCap orgId).toNat = model.orgCap orgId
  pending : ∀ contributor, pending env contributor = model.pending contributor
  active : ∀ contributor orgId, assigned env contributor orgId =
    {issueId | (orgId, issueId) ∈ model.active contributor}

section Model
variable (model : FairnessModel Address) (call : Call Address) (contributor : Address) (orgId : Symbol)

theorem coe_update_insert {K : Type} [DecidableEq K] (sets : Address → Finset K) (c : Address) (k : K) :
    (Function.update sets c (insert k (sets c)) contributor : Set K) =
      if c = contributor then insert k (sets contributor : Set K) else sets contributor := by
  by_cases same : c = contributor
  · subst same
    simp
  · have other : contributor ≠ c := fun equal => same equal.symm
    rw [if_neg same, Function.update_of_ne other]

theorem coe_update_erase {K : Type} [DecidableEq K] (sets : Address → Finset K) (c : Address) (k : K) :
    (Function.update sets c ((sets c).erase k) contributor : Set K) =
      if c = contributor then (sets contributor : Set K) \ {k} else sets contributor := by
  by_cases same : c = contributor
  · subst same
    simp
  · have other : contributor ≠ c := fun equal => same equal.symm
    rw [if_neg same, Function.update_of_ne other]

/-- To a contributor's pending applications a call does what its operation does to the set. -/
theorem pending_commit : ((model.commit call).pending contributor : Set (Symbol × UInt32)) =
    (applicationOp contributor call).on (model.pending contributor) := by
  cases call with
  | applyForIssue c o i =>
    refine (coe_update_insert contributor model.pending c (o, i)).trans ?_
    by_cases same : c = contributor <;> simp only [applicationOp, same, if_true, if_false, LeaseBook.Op.on]
  | withdrawApplication c o i =>
    refine (coe_update_erase contributor model.pending c (o, i)).trans ?_
    by_cases same : c = contributor <;> simp only [applicationOp, same, if_true, if_false, LeaseBook.Op.on]
  | assignIssue maintainer c o i =>
    refine (coe_update_erase contributor model.pending c (o, i)).trans ?_
    by_cases same : c = contributor <;> simp only [applicationOp, same, if_true, if_false, LeaseBook.Op.on]
  | extendApplicationTtl c o i =>
    by_cases same : c = contributor <;>
      simp only [FairnessModel.commit, applicationOp, same, if_true, if_false, LeaseBook.Op.on]
  | _ => rfl

theorem mem_insert_issue {active : Address → Finset (Symbol × UInt32)} {c : Address} {o : Symbol}
    {i : UInt32} :
    {issueId | (orgId, issueId) ∈ Function.update active c (insert (o, i) (active c)) contributor} =
      (if (c, o) = (contributor, orgId) then Tally.Op.enrol i else .idle).on
        {issueId | (orgId, issueId) ∈ active contributor} := by
  ext issueId
  rw [mem_enrol_iff, Set.mem_ofPred_eq, ← Finset.mem_coe, coe_update_insert]
  by_cases same : c = contributor
  · simp [same]
  · have other : contributor ≠ c := fun equal => same equal.symm
    simp [same, other]

theorem mem_erase_issue {active : Address → Finset (Symbol × UInt32)} {c : Address} {o : Symbol}
    {i : UInt32} :
    {issueId | (orgId, issueId) ∈ Function.update active c ((active c).erase (o, i)) contributor} =
      (if (c, o) = (contributor, orgId) then Tally.Op.dismiss i else .idle).on
        {issueId | (orgId, issueId) ∈ active contributor} := by
  ext issueId
  rw [mem_dismiss_iff, Set.mem_ofPred_eq, ← Finset.mem_coe, coe_update_erase]
  by_cases same : c = contributor
  · simp [same, and_comm]
  · have other : contributor ≠ c := fun equal => same equal.symm
    simp [same, other]

/-- And so to the active assignments in an organisation. -/
theorem active_commit : {issueId | (orgId, issueId) ∈ (model.commit call).active contributor} =
    (assignmentOp contributor orgId call).on {issueId | (orgId, issueId) ∈ model.active contributor} := by
  cases call with
  | assignIssue maintainer c o i => exact mem_insert_issue contributor orgId
  | completeAssignment maintainer c o i => exact mem_erase_issue contributor orgId
  | revokeAssignment maintainer c o i => exact mem_erase_issue contributor orgId
  | _ => rfl

end Model

namespace Refines
variable {env : Env Address} {model : FairnessModel Address}

omit [DecidableEq Address] in
theorem hasApplied_iff (refines : Refines env model) {contributor : Address} {orgId : Symbol}
    {issueId : UInt32} :
    hasApplied env contributor orgId issueId = true ↔ (orgId, issueId) ∈ model.pending contributor := by
  have same := Set.ext_iff.mp (refines.pending contributor) (orgId, issueId)
  exact same

omit [DecidableEq Address] in
theorem isAssigned_iff (refines : Refines env model) {contributor : Address} {orgId : Symbol}
    {issueId : UInt32} :
    isAssigned env contributor orgId issueId = true ↔ (orgId, issueId) ∈ model.active contributor := by
  have same := Set.ext_iff.mp (refines.active contributor orgId) issueId
  exact same

omit [DecidableEq Address] in
theorem globalCount (refines : Refines env model) (contributor : Address) :
    (getGlobalApplicationCount env contributor).toNat = (model.pending contributor).card := by
  rw [(refines.counted contributor).2, refines.pending, Set.ncard_coe_finset]

omit [DecidableEq Address] in
theorem orgCount (refines : Refines env model) (contributor : Address) (orgId : Symbol) :
    (getOrgAssignmentCount env contributor orgId).toNat = (model.activeIn contributor orgId).card := by
  have tallied := (refines.assignments.tallied contributor orgId).counted.trans count_assignmentTally
  have image : (model.activeIn contributor orgId : Set (Symbol × UInt32)) =
      Prod.mk orgId '' assigned env contributor orgId := by
    ext issue
    rw [refines.active, FairnessModel.activeIn, Finset.coe_filter]
    constructor
    · intro member
      obtain ⟨active, rfl⟩ := member
      exact ⟨issue.2, active, rfl⟩
    · intro member
      obtain ⟨issueId, active, rfl⟩ := member
      exact ⟨active, rfl⟩
  have cards : (model.activeIn contributor orgId).card = (assigned env contributor orgId).ncard := by
    rw [← Set.ncard_coe_finset, image]
    exact Set.ncard_image_of_injective _ fun _ _ same => (Prod.mk.inj same).2
  rw [cards]
  exact tallied.symm

omit [DecidableEq Address] in
/-- The administrator's approval means the same on both levels. -/
theorem byAdmin_iff (refines : Refines env model) (auths : List Address) :
    (env.authorisedBy auths).AdminAllowed ↔ model.ByAdmin auths := by
  unfold Env.AdminAllowed FairnessModel.ByAdmin
  rw [← refines.admin]
  rfl

omit [DecidableEq Address] in
/-- A maintainer is registered on chain just if the model has the pair. -/
theorem isMaintainer_iff (refines : Refines env model) (maintainer : Address) (orgId : Symbol) :
    env.isMaintainer maintainer orgId = true ↔ (maintainer, orgId) ∈ model.maintainers := by
  have same := Set.ext_iff.mp refines.maintainers (maintainer, orgId)
  exact same

omit [DecidableEq Address] in
theorem byMaintainer_iff (refines : Refines env model) (auths : List Address) (maintainer : Address)
    (orgId : Symbol) : (env.authorisedBy auths).MaintainerAllowed maintainer orgId ↔
      model.ByMaintainer auths maintainer orgId := by
  unfold Env.MaintainerAllowed FairnessModel.ByMaintainer
  rw [← refines.admin, ← refines.isMaintainer_iff]
  rfl

omit [DecidableEq Address] in
/-- The counter has room for an application just when the set has. -/
theorem globalRoom_iff (refines : Refines env model) (contributor : Address) :
    env.getGlobalAppCount contributor < env.getGlobalCap ↔
      (model.pending contributor).card < model.globalCap := by
  rw [UInt32.lt_iff_toNat_lt, refines.globalCap, ← refines.globalCount contributor]
  rfl

omit [DecidableEq Address] in
/-- And so for an assignment in an organisation. -/
theorem orgRoom_iff (refines : Refines env model) (contributor : Address) (orgId : Symbol) :
    env.getOrgAssignmentCount contributor orgId < env.getOrgCap orgId ↔
      (model.activeIn contributor orgId).card < model.orgCap orgId := by
  rw [UInt32.lt_iff_toNat_lt, refines.orgCap, ← refines.orgCount contributor]
  rfl

omit [DecidableEq Address] in
/-- The checks of the contract on its counters and sentinels are the rules of the model on its sets. -/
theorem allowed_iff (refines : Refines env model) (auths : List Address) (call : Call Address) :
    (env.authorisedBy auths).Allowed call ↔ model.Permits auths call := by
  have initialized : (env.authorisedBy auths).getAdmin = model.admin := refines.admin
  have admin := refines.byAdmin_iff auths
  have maintainer := refines.byMaintainer_iff auths
  cases call with
  | initializeContract a =>
    simp only [Env.Allowed, FairnessModel.Permits, initialized]
    rfl
  | registerMaintainer a m o => exact admin
  | deregisterMaintainer a m o => exact and_congr admin (refines.isMaintainer_iff m o)
  | upgrade newWasmHash => exact admin
  | setGlobalCap a newCap => exact and_congr admin UInt32.le_iff_toNat_le
  | emergencySetGlobalCap a newCap => exact and_congr admin UInt32.le_iff_toNat_le
  | applyForIssue c o i =>
    have missing : (env.authorisedBy auths).hasAppEntry c o i = false ↔ (o, i) ∉ model.pending c := by
      rw [← refines.hasApplied_iff, Bool.not_eq_true]
      rfl
    simp only [Env.Allowed, FairnessModel.Permits, initialized, missing]
    exact and_congr_right fun _ => and_congr Iff.rfl (and_congr (refines.globalRoom_iff c) Iff.rfl)
  | withdrawApplication c o i =>
    simp only [Env.Allowed, FairnessModel.Permits, initialized]
    exact and_congr_right fun _ => and_congr Iff.rfl refines.hasApplied_iff
  | assignIssue m c o i =>
    have fresh : (env.authorisedBy auths).hasAssignment o i c = false ↔ (o, i) ∉ model.active c := by
      rw [← refines.isAssigned_iff, Bool.not_eq_true]
      rfl
    simp only [Env.Allowed, FairnessModel.Permits, fresh]
    exact and_congr (maintainer m o) (and_congr refines.hasApplied_iff
      (and_congr (refines.orgRoom_iff c o) Iff.rfl))
  | completeAssignment m c o i =>
    refine and_congr (maintainer m o) ?_
    rw [← refines.isAssigned_iff]
    refine ⟨And.left, fun present => ⟨present, fun _ => ?_⟩⟩
    exact refines.assignments.positive present
  | revokeAssignment m c o i =>
    refine and_congr (maintainer m o) ?_
    rw [← refines.isAssigned_iff]
    exact ⟨And.left, fun present => ⟨present, refines.assignments.positive present⟩⟩
  | setOrgCap m o newCap =>
    exact and_congr (maintainer m o) (and_congr UInt32.le_iff_toNat_le UInt32.le_iff_toNat_le)
  | extendApplicationTtl c o i => exact refines.hasApplied_iff

omit [DecidableEq Address] in
theorem authorisedBy (refines : Refines env model) (auths : List Address) :
    Refines (env.authorisedBy auths) model :=
  ⟨applicationInv_authorisedBy refines.applications auths, assignmentInv_authorisedBy refines.assignments auths,
    refines.counted, refines.admin, refines.maintainers, refines.globalCap, refines.orgCap, refines.pending,
    refines.active⟩

theorem admin_commit (refines : Refines env model) (call : Call Address) :
    (env.effect call).getAdmin = (model.commit call).admin := by
  cases call with
  | initializeContract a => rfl
  | _ => exact refines.admin

theorem globalCap_commit (refines : Refines env model) (call : Call Address) :
    (env.effect call).getGlobalCap.toNat = (model.commit call).globalCap := by
  cases call with
  | initializeContract a => rfl
  | setGlobalCap a newCap => rfl
  | emergencySetGlobalCap a newCap => rfl
  | _ => exact refines.globalCap

theorem orgCap_commit (refines : Refines env model) (call : Call Address) (orgId : Symbol) :
    ((env.effect call).getOrgCap orgId).toNat = (model.commit call).orgCap orgId := by
  cases call with
  | setOrgCap m o newCap =>
    change ((write env.storage.oCap o (some newCap) orgId).getD orgAssignmentLimit).toNat =
      Function.update model.orgCap o newCap.toNat orgId
    by_cases same : orgId = o
    · rw [same, write_self, Function.update_self, Option.getD_some]
    · rw [write_of_ne same, Function.update_of_ne same]
      exact refines.orgCap orgId
  | _ => exact refines.orgCap orgId

theorem maintainers_commit (refines : Refines env model) (call : Call Address) :
    registered (env.effect call) = (model.commit call).maintainers := by
  rw [registered_effect, refines.maintainers]
  cases call with
  | registerMaintainer a m o => exact (Finset.coe_insert _ _).symm
  | deregisterMaintainer a m o => exact (Finset.coe_erase _ _).symm
  | _ => rfl

end Refines

omit [DecidableEq Address] in
/-- Time that ends no application leaves them all pending. -/
theorem pending_advanced {env : Env Address} {contributor : Address} {n : Nat} (inv : ApplicationInv env)
    (kept : lapsed env contributor (.advance n) = ∅) :
    pending (env.advanced n) contributor = pending env contributor := by
  apply Set.Subset.antisymm
  · exact pending_advanced_subset inv.sentinels contributor n
  · exact Set.sdiff_eq_empty.mp kept

/-- A step of the contract that lets nothing lapse is a step of the model. -/
theorem step_refines {env : Env Address} {model : FairnessModel Address} {s : Step Address}
    (keeps : KeepsEntries env s) (refines : Refines env model) : Refines (step env s) (model.step s) := by
  have together : ∀ contributor, LapseTogether env contributor s := by
    intro contributor
    cases s with
    | call auths call => trivial
    | advance n => exact Or.inl fun issue => keeps.1 (contributor, issue)
  have counted : ∀ contributor, CounterExact (step env s) contributor := fun contributor =>
    (counterExact_step_iff refines.applications (refines.counted contributor) s).mpr (together contributor)
  have applications := applicationInv_step s refines.applications
  cases s with
  | call auths call =>
    have same := refines.allowed_iff auths call
    have signed := refines.authorisedBy auths
    by_cases allowed : (env.authorisedBy auths).Allowed call
    · rw [FairnessModel.step, if_pos (same.mp allowed)]
      rw [step_of_allowed allowed] at applications counted ⊢
      refine ⟨applications, assignmentInv_effect signed.assignments allowed, counted, signed.admin_commit call,
        signed.maintainers_commit call, signed.globalCap_commit call, signed.orgCap_commit call, ?_, ?_⟩
      · intro contributor
        rw [pending_effect signed.applications.sentinels allowed, signed.pending, pending_commit]
      · intro contributor orgId
        rw [assigned_effect allowed, signed.active, active_commit]
    · rw [FairnessModel.step, if_neg fun permitted => allowed (same.mpr permitted), step_of_refused allowed]
      exact refines
  | advance n =>
    have assignments : AssignmentInv (env.advanced n) :=
      ⟨refines.assignments.tallied, refines.assignments.capped, refines.assignments.limited⟩
    refine ⟨applications, assignments, counted, refines.admin, refines.maintainers, refines.globalCap,
      refines.orgCap, ?_, refines.active⟩
    intro contributor
    have kept : lapsed env contributor (.advance n) = ∅ :=
      (lapsed_eq_empty_iff refines.applications).mpr fun issue => keeps.1 (contributor, issue)
    exact (pending_advanced refines.applications kept).trans (refines.pending contributor)

omit [DecidableEq Address] in
theorem refines_genesis (deployment : Deployment Address) :
    Refines (Env.genesis deployment) (FairnessModel.initial Address) := by
  have inv := applicationInv_genesis deployment
  have none_pending : ∀ contributor, pending (Env.genesis deployment) contributor = ∅ := fun contributor =>
    pending_of_not_stored inv fun stored => by cases stored
  refine ⟨inv, assignmentInv_genesis deployment, ?_, rfl, ?_, rfl, fun _ => rfl, ?_, ?_⟩
  · exact fun contributor => counterExact_of_not_stored inv fun stored => by cases stored
  · ext pair
    exact iff_of_false Bool.false_ne_true (Finset.notMem_empty _)
  · intro contributor
    rw [none_pending]
    exact Finset.coe_empty.symm
  · intro contributor orgId
    ext issueId
    exact iff_of_false Bool.false_ne_true (Finset.notMem_empty _)

/-- Along a run that lets nothing lapse the storage implements the sets of the model. -/
theorem exec_refines (deployment : Deployment Address) {steps : List (Step Address)}
    (keeps : Run.EachStep step (.genesis deployment) KeepsEntries steps) :
    Refines (exec deployment steps) (FairnessModel.exec steps) := by
  have preserved : ∀ (env : Env Address) (model : FairnessModel Address) s, KeepsEntries env s →
      Refines env model → Refines (step env s) (FairnessModel.step model s) :=
    fun _ _ _ keeps refines => step_refines keeps refines
  exact Run.exec_lockstep (refines_genesis deployment) preserved keeps

/-- What a caller reads from the contract, next to the sets of the model. -/
structure ViewsAgree (env : Env Address) (model : FairnessModel Address) (contributor : Address) : Prop where
  hasApplied : ∀ orgId issueId,
    hasApplied env contributor orgId issueId = decide ((orgId, issueId) ∈ model.pending contributor)
  isAssigned : ∀ orgId issueId,
    isAssigned env contributor orgId issueId = decide ((orgId, issueId) ∈ model.active contributor)
  globalCount : (getGlobalApplicationCount env contributor).toNat = (model.pending contributor).card
  orgCount : ∀ orgId,
    (getOrgAssignmentCount env contributor orgId).toNat = (model.activeIn contributor orgId).card
  globalCapacity : (getGlobalApplicationCapacity env contributor).toNat =
    model.globalCap - (model.pending contributor).card
  orgCapacity : ∀ orgId, (getOrgAssignmentCapacity env contributor orgId).toNat =
    model.orgCap orgId - (model.activeIn contributor orgId).card
  globalLimit : isGlobalAppLimitReached env contributor =
    decide (model.globalCap ≤ (model.pending contributor).card)
  orgLimit : ∀ orgId, isOrgAssignmentLimitReached env contributor orgId =
    decide (model.orgCap orgId ≤ (model.activeIn contributor orgId).card)

omit [DecidableEq Address] in
theorem Refines.viewsAgree {env : Env Address} {model : FairnessModel Address} (refines : Refines env model)
    (contributor : Address) : ViewsAgree env model contributor where
  hasApplied := fun orgId issueId => by
    rw [Bool.eq_iff_iff, refines.hasApplied_iff, decide_eq_true_iff]
  isAssigned := fun orgId issueId => by
    rw [Bool.eq_iff_iff, refines.isAssigned_iff, decide_eq_true_iff]
  globalCount := refines.globalCount contributor
  orgCount := refines.orgCount contributor
  globalCapacity := by
    rw [getGlobalApplicationCapacity, Checked.toNat_saturatingSub, refines.globalCap,
      ← refines.globalCount contributor]
    rfl
  orgCapacity := fun orgId => by
    rw [getOrgAssignmentCapacity, Checked.toNat_saturatingSub, refines.orgCap, ← refines.orgCount contributor]
    rfl
  globalLimit := by
    have reached := not_congr (refines.globalRoom_iff contributor)
    rw [UInt32.not_lt, Nat.not_lt] at reached
    exact decide_eq_decide.mpr reached
  orgLimit := fun orgId => by
    have reached := not_congr (refines.orgRoom_iff contributor orgId)
    rw [UInt32.not_lt, Nat.not_lt] at reached
    exact decide_eq_decide.mpr reached

/-- The contract on its counters and sentinels and the model on its sets stay in lock
step along every run in which no temporary entry lapses. -/
theorem contract_refines_fairness_model (deployment : Deployment Address) (steps : List (Step Address))
    (keeps : Run.EachStep step (.genesis deployment) KeepsEntries steps) :
    ∀ before, before <+: steps →
      (∀ contributor, ViewsAgree (exec deployment before) (FairnessModel.exec before) contributor) ∧
      ∀ auths call,
        (Succeeds (exec deployment before) auths call ↔ (FairnessModel.exec before).Permits auths call) ∧
        ((∃ failure, invoke (exec deployment before) auths call = .error failure) →
          exec deployment (before ++ [.call auths call]) = exec deployment before ∧
          FairnessModel.exec (before ++ [.call auths call]) = FairnessModel.exec before) := by
  intro before earlier
  have refines := exec_refines deployment (keeps.of_prefix earlier)
  refine ⟨refines.viewsAgree, fun auths call => ?_⟩
  have same := refines.allowed_iff auths call
  refine ⟨succeeds_iff.trans same, fun failed => ?_⟩
  obtain ⟨failure, outcome⟩ := failed
  have refused := refused_of_error outcome
  constructor
  · rw [exec_concat, step_of_refused refused]
  · rw [FairnessModel.exec_concat, FairnessModel.step, if_neg fun permitted => refused (same.mpr permitted)]

/-- An application, and 100 ledgers later a second one. -/
def promptApplications : List (Step Nat) :=
  [.call [0] (.initializeContract 0), .call [1] (.applyForIssue 1 sampleOrg 1), .advance 100,
    .call [1] (.applyForIssue 1 sampleOrg 2)]

theorem promptApplications_keepsEntries :
    Run.EachStep step (.genesis (.release Nat)) KeepsEntries promptApplications := by
  have allowed : ((exec (.release Nat) (promptApplications.take 1)).authorisedBy [1]).Allowed
      (.applyForIssue 1 sampleOrg 1) := ⟨rfl, by decide, by decide, rfl⟩
  refine Run.eachStep_cons trivial (Run.eachStep_cons trivial (Run.eachStep_cons ?_
    (Run.eachStep_cons trivial Run.eachStep_nil)))
  change KeepsEntries (step (exec (.release Nat) (promptApplications.take 1)) _) _
  rw [step_of_allowed allowed]
  constructor
  · intro key deadline out
    change (TtlStore.renew TtlStore.empty 0 15 17280 (1, _, 1) true).liveUntil 0 key = some deadline at out
    rw [TtlStore.liveUntil, TtlStore.live_renew] at out
    split at out
    · cases out
      decide
    · cases out
  · intro key deadline out
    change (TtlStore.renew TtlStore.empty 0 15 17280 1 1).liveUntil 0 key = some deadline at out
    rw [TtlStore.liveUntil, TtlStore.live_renew] at out
    split at out
    · cases out
      decide
    · cases out

/-- Both sides count two applications after the run. -/
theorem prompt_applications_refine :
    (getGlobalApplicationCount (exec (.release Nat) promptApplications) 1).toNat =
      ((FairnessModel.exec promptApplications).pending 1).card := by
  have whole := contract_refines_fairness_model (.release Nat) promptApplications
    promptApplications_keepsEntries promptApplications List.prefix_rfl
  exact (whole.1 1).globalCount

end WorkloadGovernor
