import WorkloadGovernor.ApplicationCounter
import WorkloadGovernor.Assignments
import WorkloadGovernor.Registry
import WorkloadGovernor.Lib.Quota

namespace WorkloadGovernor
open LeaseBook
variable {Address : Type} [DecidableEq Address]

/-- A call that is attempted after some other steps of the same ledger. -/
structure Attempt (Address Target : Type) where
  meanwhile : List (Step Address)
  auths : List Address
  target : Target

/-- A call with which a step does not close the ledger. -/
def Step.Within (spares : Call Address → Bool) : Step Address → Prop
  | .call _ made => spares made = true
  | .advance _ => False

section Applications

/-- Neither an application, a withdrawal nor an assignment of the contributor's, and no
change of the global cap. -/
def Call.sparesApplications (contributor : Address) : Call Address → Bool
  | .applyForIssue c _ _ => c ≠ contributor
  | .withdrawApplication c _ _ => c ≠ contributor
  | .assignIssue _ c _ _ => c ≠ contributor
  | .setGlobalCap _ _ => false
  | .emergencySetGlobalCap _ _ => false
  | _ => true

def applicationQuota (contributor : Address) :
    Quota (Env Address) (Attempt Address (Symbol × UInt32)) Failure where
  used := fun env => (env.getGlobalAppCount contributor).toNat
  limit := fun env => env.getGlobalCap.toNat
  arrive := fun env attempt => Run.exec step env attempt.meanwhile
  attempt := fun env attempt =>
    invoke env attempt.auths (.applyForIssue contributor attempt.target.1 attempt.target.2)
  exhausted := .contract .globalApplicationLimitReached

/-- An application that only the limit can stand in the way of. -/
structure CanApply (env : Env Address) (contributor : Address) (attempt : Attempt Address (Symbol × UInt32)) :
    Prop where
  meanwhile : ∀ s ∈ attempt.meanwhile, s.Within (Call.sparesApplications contributor)
  authorised : contributor ∈ attempt.auths
  fresh : hasApplied env contributor attempt.target.1 attempt.target.2 = false

/-- An application made without anything happening before it. -/
def atOnce (contributor : Address) (issue : Symbol × UInt32) : Attempt Address (Symbol × UInt32) :=
  ⟨[], [contributor], issue⟩

/-- A state as the applications of a contributor find it unchanged. -/
structure SameApplications (contributor : Address) (env after : Env Address) : Prop where
  inv : ApplicationInv after
  initialized : after.getAdmin.isSome = true
  count : (after.getGlobalAppCount contributor).toNat = (env.getGlobalAppCount contributor).toNat
  cap : after.getGlobalCap = env.getGlobalCap
  pending : pending after contributor = pending env contributor

variable {env : Env Address} {contributor : Address}

theorem isSome_getAdmin_effect (initialized : env.getAdmin.isSome = true) {call : Call Address}
    (allowed : env.Allowed call) : (env.effect call).getAdmin.isSome = true := by
  rcases getAdmin_effect allowed with ⟨admin, _, _, stored⟩ | ⟨_, same⟩
  · rw [stored]
    rfl
  · rw [same]
    exact initialized

theorem applicationOp_of_spares {call : Call Address} (spares : call.sparesApplications contributor = true) :
    applicationOp contributor call = .idle ∨ ∃ issue, applicationOp contributor call = .prolong issue := by
  rcases applicationOp_cases contributor call with idle | ⟨issue, ⟨rfl, _⟩ | ⟨rfl | ⟨_, rfl⟩, _⟩ | ⟨_, op⟩⟩
  · exact Or.inl idle
  · exact absurd rfl (of_decide_eq_true spares)
  · exact absurd rfl (of_decide_eq_true spares)
  · exact absurd rfl (of_decide_eq_true spares)
  · exact Or.inr ⟨issue, op⟩

theorem getGlobalCap_of_spares (initialized : env.getAdmin.isSome = true) {call : Call Address}
    (allowed : env.Allowed call) (spares : call.sparesApplications contributor = true) :
    (env.effect call).getGlobalCap = env.getGlobalCap := by
  cases call with
  | initializeContract admin =>
    rw [allowed.1] at initialized
    cases initialized
  | setGlobalCap admin newCap => cases spares
  | emergencySetGlobalCap admin newCap => cases spares
  | _ => rfl

theorem sameApplications_effect (inv : ApplicationInv env) (initialized : env.getAdmin.isSome = true)
    {call : Call Address} (allowed : env.Allowed call) (spares : call.sparesApplications contributor = true) :
    SameApplications contributor env (env.effect call) where
  inv := applicationInv_effect inv allowed
  initialized := isSome_getAdmin_effect initialized allowed
  count := count_spared inv allowed (applicationOp_of_spares spares)
  cap := getGlobalCap_of_spares initialized allowed spares
  pending := by
    rw [pending_effect inv.sentinels allowed]
    rcases applicationOp_of_spares spares with idle | ⟨issue, prolongs⟩
    · rw [idle]
      rfl
    · rw [prolongs]
      rfl

theorem sameApplications_exec (inv : ApplicationInv env) (initialized : env.getAdmin.isSome = true)
    {steps : List (Step Address)} (within : ∀ s ∈ steps, s.Within (Call.sparesApplications contributor)) :
    SameApplications contributor env (Run.exec step env steps) := by
  have start : SameApplications contributor env env := ⟨inv, initialized, rfl, rfl, rfl⟩
  refine Run.exec_invariant_of start ?_ within
  intro now s spares same
  cases s with
  | advance n => exact spares.elim
  | call auths call =>
    by_cases allowed : (now.authorisedBy auths).Allowed call
    · have next : SameApplications contributor (now.authorisedBy auths) ((now.authorisedBy auths).effect call) :=
        sameApplications_effect (applicationInv_authorisedBy same.inv auths) same.initialized allowed spares
      rw [step_of_allowed allowed]
      exact ⟨next.inv, next.initialized, next.count.trans same.count, next.cap.trans same.cap,
        next.pending.trans same.pending⟩
    · rw [step_of_refused allowed]
      exact same

/-- What makes an attempt possible does not go away on its own. -/
theorem canApply_of_same {after : Env Address} (same : SameApplications contributor env after)
    {attempt : Attempt Address (Symbol × UInt32)} (can : CanApply env contributor attempt) :
    CanApply after contributor attempt := by
  refine ⟨can.meanwhile, can.authorised, ?_⟩
  have absent : attempt.target ∉ pending env contributor := fun member =>
    Bool.false_ne_true (can.fresh.symm.trans member)
  rw [← same.pending] at absent
  exact Bool.eq_false_iff.mpr absent

theorem applyForIssue_limited {auths : List Address} {orgId : Symbol} {issueId : UInt32}
    (initialized : env.getAdmin.isSome = true) (authorised : contributor ∈ auths)
    (full : env.getGlobalCap ≤ env.getGlobalAppCount contributor) :
    invoke env auths (.applyForIssue contributor orgId issueId) =
      .error (.contract .globalApplicationLimitReached) := by
  rw [invoke_eq_error, Env.guards]
  refine Checked.bind_eq_error.mpr (Or.inr ⟨(), Env.requireInitialized_eq_ok.mpr initialized, ?_⟩)
  refine Checked.bind_eq_error.mpr (Or.inr ⟨(), Env.requireAuth_eq_ok.mpr authorised, ?_⟩)
  exact Checked.bind_eq_error.mpr (Or.inl (panicIf_eq_error.mpr ⟨full, rfl⟩))

theorem applicationQuota_regular (contributor : Address) : (applicationQuota contributor).Regular
    (fun env attempt => ApplicationInv env ∧ env.getAdmin.isSome = true ∧ CanApply env contributor attempt)
    (fun first second => first.target ≠ second.target) where
  arrived := by
    rintro env attempt ⟨inv, initialized, can⟩
    have same := sameApplications_exec inv initialized can.meanwhile
    exact ⟨same.count, congrArg UInt32.toNat same.cap, ⟨same.inv, same.initialized, canApply_of_same same can⟩,
      fun other able => ⟨same.inv, same.initialized, canApply_of_same same able.2.2⟩⟩
  granted := by
    rintro env attempt ⟨inv, initialized, can⟩ room
    have signed := applicationInv_authorisedBy inv attempt.auths
    have allowed : (env.authorisedBy attempt.auths).Allowed
        (.applyForIssue contributor attempt.target.1 attempt.target.2) :=
      ⟨initialized, can.authorised, UInt32.lt_iff_toNat_lt.mpr room, can.fresh⟩
    have granted : applicationOp contributor
        (.applyForIssue contributor attempt.target.1 attempt.target.2) = .grant attempt.target := if_pos rfl
    refine ⟨_, invoke_eq_ok.mpr ⟨allowed, rfl⟩, ?_, rfl, ?_⟩
    · refine (count_effect signed allowed).trans ?_
      rw [granted]
      exact count_grant.trans (congrArg (· + 1) count_applicationBook)
    · rintro other differs ⟨_, _, able⟩
      refine ⟨applicationInv_effect signed allowed, initialized, able.meanwhile, able.authorised, ?_⟩
      refine Bool.eq_false_iff.mpr fun applied => ?_
      have member : other.target ∈ pending ((env.authorisedBy attempt.auths).effect
          (.applyForIssue contributor attempt.target.1 attempt.target.2)) contributor := applied
      rcases pending_of_effect signed.sentinels allowed member with old | same
      · exact Bool.false_ne_true (able.fresh.symm.trans old)
      · simp only [Call.applyForIssue.injEq, true_and] at same
        exact differs (Prod.ext same.1 same.2)
  refused := by
    rintro env attempt ⟨_, initialized, can⟩ full
    exact applyForIssue_limited initialized can.authorised (UInt32.le_iff_toNat_le.mpr full)

end Applications

section Assignments

/-- Nothing that touches the contributor's applications to or assignments in the
organisation, its cap or its maintainers. -/
def Call.sparesAssignments (contributor : Address) (orgId : Symbol) : Call Address → Bool
  | .withdrawApplication c o _ => (c, o) ≠ (contributor, orgId)
  | .assignIssue _ c o _ => (c, o) ≠ (contributor, orgId)
  | .completeAssignment _ c o _ => (c, o) ≠ (contributor, orgId)
  | .revokeAssignment _ c o _ => (c, o) ≠ (contributor, orgId)
  | .setOrgCap _ o _ => o ≠ orgId
  | .deregisterMaintainer _ _ o => o ≠ orgId
  | _ => true

/-- The target of an attempt is the maintainer who assigns and the issue. -/
def assignmentQuota (contributor : Address) (orgId : Symbol) :
    Quota (Env Address) (Attempt Address (Address × UInt32)) Failure where
  used := fun env => (env.getOrgAssignmentCount contributor orgId).toNat
  limit := fun env => (env.getOrgCap orgId).toNat
  arrive := fun env attempt => Run.exec step env attempt.meanwhile
  attempt := fun env attempt =>
    invoke env attempt.auths (.assignIssue attempt.target.1 contributor orgId attempt.target.2)
  exhausted := .contract .orgAssignmentLimitReached

/-- An assignment that only the limit can stand in the way of. -/
structure CanAssign (env : Env Address) (contributor : Address) (orgId : Symbol)
    (attempt : Attempt Address (Address × UInt32)) : Prop where
  meanwhile : ∀ s ∈ attempt.meanwhile, s.Within (Call.sparesAssignments contributor orgId)
  authorised : attempt.target.1 ∈ attempt.auths
  registered : env.isMaintainer attempt.target.1 orgId = true
  applied : hasApplied env contributor orgId attempt.target.2 = true
  fresh : isAssigned env contributor orgId attempt.target.2 = false

/-- A state as the assignments of a contributor in an organisation find it unchanged. -/
structure SameAssignments (contributor : Address) (orgId : Symbol) (env after : Env Address) : Prop where
  inv : ApplicationInv after
  initialized : after.getAdmin.isSome = true
  count : (after.getOrgAssignmentCount contributor orgId).toNat = (env.getOrgAssignmentCount contributor orgId).toNat
  cap : after.getOrgCap orgId = env.getOrgCap orgId
  maintainers : ∀ maintainer, env.isMaintainer maintainer orgId = true → after.isMaintainer maintainer orgId = true
  applied : ∀ issueId, hasApplied env contributor orgId issueId = true → hasApplied after contributor orgId issueId = true
  assigned : assigned after contributor orgId = assigned env contributor orgId

variable {env : Env Address} {contributor : Address} {orgId : Symbol}

theorem assignmentOp_of_spares {call : Call Address} (spares : call.sparesAssignments contributor orgId = true) :
    assignmentOp contributor orgId call = .idle := by
  cases call with
  | assignIssue maintainer c o i => exact if_neg (of_decide_eq_true spares)
  | completeAssignment maintainer c o i => exact if_neg (of_decide_eq_true spares)
  | revokeAssignment maintainer c o i => exact if_neg (of_decide_eq_true spares)
  | _ => rfl

theorem getOrgCap_of_spares {call : Call Address} (spares : call.sparesAssignments contributor orgId = true) :
    (env.effect call).getOrgCap orgId = env.getOrgCap orgId := by
  cases call with
  | setOrgCap maintainer o newCap =>
    have other : orgId ≠ o := fun same => of_decide_eq_true spares same.symm
    exact congrArg (Option.getD · orgAssignmentLimit) (write_of_ne other)
  | _ => rfl

theorem isMaintainer_of_spares {call : Call Address} (spares : call.sparesAssignments contributor orgId = true)
    {maintainer : Address} (registered : env.isMaintainer maintainer orgId = true) :
    (env.effect call).isMaintainer maintainer orgId = true := by
  cases call with
  | registerMaintainer admin m o =>
    change (write env.storage.maint (m, o) (some true) (maintainer, orgId)).getD false = true
    by_cases same : (maintainer, orgId) = (m, o)
    · rw [same, write_self]
      rfl
    · rw [write_of_ne same]
      exact registered
  | deregisterMaintainer admin m o =>
    have other : (maintainer, orgId) ≠ (m, o) := by
      intro same
      cases same
      exact of_decide_eq_true spares rfl
    exact (congrArg (Option.getD · false) (write_of_ne other)).trans registered
  | _ => exact registered

/-- An application in the organisation is taken back or assigned by nothing else. -/
theorem hasApplied_of_spares (inv : ApplicationInv env) {call : Call Address} (allowed : env.Allowed call)
    (spares : call.sparesAssignments contributor orgId = true) {issueId : UInt32}
    (applied : hasApplied env contributor orgId issueId = true) :
    hasApplied (env.effect call) contributor orgId issueId = true := by
  have before : (orgId, issueId) ∈ pending env contributor := applied
  have after : (orgId, issueId) ∈ pending (env.effect call) contributor := by
    rw [pending_effect inv.sentinels allowed]
    have surrenders : ∀ c o i, (c, o) ≠ (contributor, orgId) →
        (orgId, issueId) ∈ (if c = contributor then Op.surrender (o, i) else .idle).on (pending env contributor) := by
      intro c o i other
      by_cases same : c = contributor
      · rw [if_pos same]
        refine ⟨before, fun equal => other ?_⟩
        cases equal
        rw [same]
      · rw [if_neg same]
        exact before
    cases call with
    | withdrawApplication c o i => exact surrenders c o i (of_decide_eq_true spares)
    | assignIssue maintainer c o i => exact surrenders c o i (of_decide_eq_true spares)
    | applyForIssue c o i =>
      simp only [applicationOp]
      split
      · exact Set.mem_insert_of_mem _ before
      · exact before
    | extendApplicationTtl c o i =>
      simp only [applicationOp]
      split
      · exact before
      · exact before
    | _ => exact before
  exact after

theorem sameAssignments_effect (inv : ApplicationInv env) (initialized : env.getAdmin.isSome = true)
    {call : Call Address} (allowed : env.Allowed call) (spares : call.sparesAssignments contributor orgId = true) :
    SameAssignments contributor orgId env (env.effect call) where
  inv := applicationInv_effect inv allowed
  initialized := isSome_getAdmin_effect initialized allowed
  count := by
    rw [orgAssignmentCount_effect allowed, assignmentOp_of_spares spares]
    exact count_assignmentTally
  cap := getOrgCap_of_spares spares
  maintainers := fun _ => isMaintainer_of_spares spares
  applied := fun _ => hasApplied_of_spares inv allowed spares
  assigned := by
    rw [assigned_effect allowed, assignmentOp_of_spares spares]
    rfl

theorem sameAssignments_exec (inv : ApplicationInv env) (initialized : env.getAdmin.isSome = true)
    {steps : List (Step Address)} (within : ∀ s ∈ steps, s.Within (Call.sparesAssignments contributor orgId)) :
    SameAssignments contributor orgId env (Run.exec step env steps) := by
  have start : SameAssignments contributor orgId env env :=
    ⟨inv, initialized, rfl, rfl, fun _ => id, fun _ => id, rfl⟩
  refine Run.exec_invariant_of start ?_ within
  intro now s spares same
  cases s with
  | advance n => exact spares.elim
  | call auths call =>
    by_cases allowed : (now.authorisedBy auths).Allowed call
    · have next : SameAssignments contributor orgId (now.authorisedBy auths)
          ((now.authorisedBy auths).effect call) :=
        sameAssignments_effect (applicationInv_authorisedBy same.inv auths) same.initialized allowed spares
      rw [step_of_allowed allowed]
      exact ⟨next.inv, next.initialized, next.count.trans same.count, next.cap.trans same.cap,
        fun m there => next.maintainers m (same.maintainers m there),
        fun i there => next.applied i (same.applied i there), next.assigned.trans same.assigned⟩
    · rw [step_of_refused allowed]
      exact same

theorem canAssign_of_same {after : Env Address} (same : SameAssignments contributor orgId env after)
    {attempt : Attempt Address (Address × UInt32)} (can : CanAssign env contributor orgId attempt) :
    CanAssign after contributor orgId attempt := by
  have absent : attempt.target.2 ∉ assigned env contributor orgId := fun member =>
    Bool.false_ne_true (can.fresh.symm.trans member)
  rw [← same.assigned] at absent
  exact ⟨can.meanwhile, can.authorised, same.maintainers _ can.registered, same.applied _ can.applied,
    Bool.eq_false_iff.mpr absent⟩

theorem assignIssue_limited {auths : List Address} {maintainer : Address} {issueId : UInt32}
    (allowed : (env.authorisedBy auths).MaintainerAllowed maintainer orgId)
    (applied : hasApplied env contributor orgId issueId = true)
    (full : env.getOrgCap orgId ≤ env.getOrgAssignmentCount contributor orgId) :
    invoke env auths (.assignIssue maintainer contributor orgId issueId) =
      .error (.contract .orgAssignmentLimitReached) := by
  rw [invoke_eq_error, Env.guards]
  refine Checked.bind_eq_error.mpr (Or.inr ⟨(), Env.maintainerGuards_eq_ok.mpr allowed, ?_⟩)
  refine Checked.bind_eq_error.mpr (Or.inr ⟨(), panicIf_eq_ok.mpr (not_not.mpr applied), ?_⟩)
  exact Checked.bind_eq_error.mpr (Or.inl (panicIf_eq_error.mpr ⟨full, rfl⟩))

theorem assignmentQuota_regular (contributor : Address) (orgId : Symbol) :
    (assignmentQuota contributor orgId).Regular
      (fun env attempt => ApplicationInv env ∧ env.getAdmin.isSome = true ∧ CanAssign env contributor orgId attempt)
      (fun first second => first.target.2 ≠ second.target.2) where
  arrived := by
    rintro env attempt ⟨inv, initialized, can⟩
    have same := sameAssignments_exec inv initialized can.meanwhile
    exact ⟨same.count, congrArg UInt32.toNat same.cap, ⟨same.inv, same.initialized, canAssign_of_same same can⟩,
      fun other able => ⟨same.inv, same.initialized, canAssign_of_same same able.2.2⟩⟩
  granted := by
    rintro env attempt ⟨inv, initialized, can⟩ room
    have signed := applicationInv_authorisedBy inv attempt.auths
    have allowed : (env.authorisedBy attempt.auths).Allowed
        (.assignIssue attempt.target.1 contributor orgId attempt.target.2) :=
      ⟨⟨initialized, can.authorised, can.registered⟩, can.applied, UInt32.lt_iff_toNat_lt.mpr room, can.fresh⟩
    have enrolled : assignmentOp contributor orgId
        (.assignIssue attempt.target.1 contributor orgId attempt.target.2) = .enrol attempt.target.2 := if_pos rfl
    have surrendered : applicationOp contributor
        (.assignIssue attempt.target.1 contributor orgId attempt.target.2) = .surrender (orgId, attempt.target.2) :=
      if_pos rfl
    refine ⟨_, invoke_eq_ok.mpr ⟨allowed, rfl⟩, ?_, rfl, ?_⟩
    · refine (orgAssignmentCount_effect allowed).trans ?_
      rw [enrolled]
      exact Tally.count_enrol.trans (congrArg (· + 1) count_assignmentTally)
    · rintro other differs ⟨_, _, able⟩
      refine ⟨applicationInv_effect signed allowed, initialized, able.meanwhile, able.authorised, able.registered, ?_, ?_⟩
      · have member : (orgId, other.target.2) ∈ pending ((env.authorisedBy attempt.auths).effect
            (.assignIssue attempt.target.1 contributor orgId attempt.target.2)) contributor := by
          rw [pending_effect signed.sentinels allowed, surrendered]
          refine ⟨able.applied, fun same => differs ?_⟩
          exact (Prod.mk.inj same).2.symm
        exact member
      · refine Bool.eq_false_iff.mpr fun present => ?_
        rcases assigned_of_effect allowed present with old | ⟨maintainer, same⟩
        · exact Bool.false_ne_true (able.fresh.symm.trans old)
        · simp only [Call.assignIssue.injEq, true_and] at same
          exact differs same.2
  refused := by
    rintro env attempt ⟨_, initialized, can⟩ full
    exact assignIssue_limited ⟨initialized, can.authorised, can.registered⟩ can.applied
      (UInt32.le_iff_toNat_le.mpr full)

end Assignments

section Views
variable {env : Env Address} {contributor : Address} {orgId : Symbol}

/-- Another organisation for sample runs. -/
def secondOrg : Symbol := ⟨"second_org", by decide⟩

omit [DecidableEq Address] in
/-- Whatever is pending, there are more issues than a `u32` counts. -/
theorem exists_unapplied (inv : ApplicationInv env) (contributor : Address) (k : UInt32) :
    ∃ issues : List (Symbol × UInt32), issues.length = k.toNat + 1 ∧ issues.Nodup ∧
      ∀ issue ∈ issues, hasApplied env contributor issue.1 issue.2 = false := by
  have finite : (pending env contributor).Finite := pending_finite inv
  have few : finite.toFinset.card < 2 ^ 32 := by
    rw [← Set.ncard_eq_toFinset_card _ finite, pending_eq_held inv.sentinels]
    refine (inv.sound contributor).counted.trans_lt ?_
    rw [count_applicationBook]
    exact UInt32.toNat_lt _
  have distinct : Set.InjOn UInt32.ofNat (Finset.range (2 ^ 32)) := by
    intro i inside j outside same
    have values := congrArg UInt32.toNat same
    rw [Finset.coe_range, Set.mem_Iio] at inside outside
    rwa [UInt32.toNat_ofNat_of_lt' inside, UInt32.toNat_ofNat_of_lt' outside] at values
  have many : (({sampleOrg, secondOrg} : Finset Symbol) ×ˢ (Finset.range (2 ^ 32)).image UInt32.ofNat).card =
      2 * 2 ^ 32 := by
    rw [Finset.card_product, Finset.card_image_of_injOn distinct, Finset.card_range,
      Finset.card_pair (by decide : sampleOrg ≠ secondOrg)]
  have bound := k.toNat_lt
  have left := Finset.le_card_sdiff finite.toFinset
    (({sampleOrg, secondOrg} : Finset Symbol) ×ˢ (Finset.range (2 ^ 32)).image UInt32.ofNat)
  rw [many] at left
  have enough : k.toNat + 1 ≤ _ := (by omega : k.toNat + 1 ≤ 2 * 2 ^ 32 - finite.toFinset.card).trans left
  obtain ⟨chosen, inside, size⟩ := Finset.exists_subset_card_eq enough
  refine ⟨chosen.toList, (Finset.length_toList _).trans size, chosen.nodup_toList, ?_⟩
  intro issue member
  have fresh := (Finset.mem_sdiff.mp (inside (Finset.mem_toList.mp member))).2
  rw [Set.Finite.mem_toFinset] at fresh
  exact Bool.eq_false_iff.mpr fresh

/-- The capacity view gives the number of applications the guard lets through. -/
theorem applicationCapacity_eq_iff (inv : ApplicationInv env) (initialized : env.getAdmin.isSome = true)
    (contributor : Address) (k : UInt32) : getGlobalApplicationCapacity env contributor = k ↔
      ∀ attempts, attempts.length = k.toNat + 1 →
        attempts.Pairwise (fun first second => first.target ≠ second.target) →
        (∀ attempt ∈ attempts, CanApply env contributor attempt) →
        (applicationQuota contributor).RunsOut ((applicationQuota contributor).outcomes env attempts) k.toNat := by
  have value : (getGlobalApplicationCapacity env contributor).toNat = (applicationQuota contributor).remaining env :=
    Checked.toNat_saturatingSub _ _
  rw [← UInt32.toNat_inj, value]
  constructor
  · intro left attempts length separate able
    exact ((applicationQuota_regular contributor).remaining_eq_iff
      (fun attempt member => ⟨inv, initialized, able attempt member⟩) separate length).mp left
  · intro runsOut
    obtain ⟨issues, length, separate, fresh⟩ := exists_unapplied inv contributor k
    have able : ∀ attempt ∈ issues.map (atOnce contributor), CanApply env contributor attempt := by
      intro attempt member
      obtain ⟨issue, listed, rfl⟩ := List.mem_map.mp member
      exact ⟨fun s within => (List.not_mem_nil within).elim, List.mem_singleton_self _, fresh issue listed⟩
    have apart : (issues.map (atOnce contributor)).Pairwise fun first second => first.target ≠ second.target :=
      List.pairwise_map.mpr separate
    have enough : (issues.map (atOnce contributor)).length = k.toNat + 1 := (List.length_map _).trans length
    exact ((applicationQuota_regular contributor).remaining_eq_iff
      (fun attempt member => ⟨inv, initialized, able attempt member⟩) apart enough).mpr (runsOut _ enough apart able)

/-- So does the one of an organisation, for any applications that wait there. -/
theorem assignmentCapacity_eq_iff (inv : ApplicationInv env) (initialized : env.getAdmin.isSome = true)
    (k : UInt32) {attempts : List (Attempt Address (Address × UInt32))} (length : attempts.length = k.toNat + 1)
    (apart : attempts.Pairwise fun first second => first.target.2 ≠ second.target.2)
    (able : ∀ attempt ∈ attempts, CanAssign env contributor orgId attempt) :
    getOrgAssignmentCapacity env contributor orgId = k ↔
      (assignmentQuota contributor orgId).RunsOut ((assignmentQuota contributor orgId).outcomes env attempts)
        k.toNat := by
  have value : (getOrgAssignmentCapacity env contributor orgId).toNat =
      (assignmentQuota contributor orgId).remaining env := Checked.toNat_saturatingSub _ _
  rw [← UInt32.toNat_inj, value]
  exact (assignmentQuota_regular contributor orgId).remaining_eq_iff
    (fun attempt member => ⟨inv, initialized, able attempt member⟩) apart length

omit [DecidableEq Address] in
theorem saturatingSub_eq_zero_iff {limit used : UInt32} : Checked.saturatingSub limit used = 0 ↔ used ≥ limit := by
  rw [← UInt32.toNat_inj, Checked.toNat_saturatingSub, UInt32.toNat_zero, ge_iff_le, UInt32.le_iff_toNat_le]
  omega

/-- In every state of an initialised contract the capacity views predict how many further
applications and assignments their guards let through within the ledger, and the limit views
whether there are none. -/
theorem capacity_views_predict (deployment : Deployment Address) (steps : List (Step Address))
    (initialized : (exec deployment steps).getAdmin.isSome = true) (contributor : Address) (orgId : Symbol) :
    let env := exec deployment steps
    (∀ k, getGlobalApplicationCapacity env contributor = k ↔
      ∀ attempts, attempts.length = k.toNat + 1 →
        attempts.Pairwise (fun first second => first.target ≠ second.target) →
        (∀ attempt ∈ attempts, CanApply env contributor attempt) →
        (applicationQuota contributor).RunsOut ((applicationQuota contributor).outcomes env attempts) k.toNat) ∧
    (∀ k attempts, attempts.length = k.toNat + 1 →
      attempts.Pairwise (fun first second => first.target.2 ≠ second.target.2) →
      (∀ attempt ∈ attempts, CanAssign env contributor orgId attempt) →
      (getOrgAssignmentCapacity env contributor orgId = k ↔
        (assignmentQuota contributor orgId).RunsOut
          ((assignmentQuota contributor orgId).outcomes env attempts) k.toNat)) ∧
    (isGlobalAppLimitReached env contributor = true ↔ getGlobalApplicationCapacity env contributor = 0) ∧
    (isOrgAssignmentLimitReached env contributor orgId = true ↔
      getOrgAssignmentCapacity env contributor orgId = 0) := by
  dsimp only
  have inv := exec_applicationInv deployment steps
  refine ⟨applicationCapacity_eq_iff inv initialized contributor, ?_, ?_, ?_⟩
  · exact fun k attempts length apart able => assignmentCapacity_eq_iff inv initialized k length apart able
  · rw [isGlobalAppLimitReached, decide_eq_true_iff, getGlobalApplicationCapacity, saturatingSub_eq_zero_iff]
  · rw [isOrgAssignmentLimitReached, decide_eq_true_iff, getOrgAssignmentCapacity, saturatingSub_eq_zero_iff]

/-- Two applications, and a cap that is lowered below them. -/
def loweredCap : List (Step Nat) :=
  [.call [0] (.initializeContract 0), .call [1] (.applyForIssue 1 sampleOrg 1),
    .call [1] (.applyForIssue 1 sampleOrg 2), .call [0] (.setGlobalCap 0 1)]

/-- Nothing is left of a cap that is lowered below the count, and the next application,
after one of somebody else's, fails. -/
theorem lowered_cap_runs_out :
    (applicationQuota 1).RunsOut ((applicationQuota 1).outcomes (exec (.release Nat) loweredCap)
      [⟨[.call [2] (.applyForIssue 2 sampleOrg 3)], [1], (sampleOrg, 3)⟩]) 0 := by
  have views := capacity_views_predict (.release Nat) loweredCap rfl 1 sampleOrg
  refine (views.1 0).mp (by decide) _ rfl (List.pairwise_singleton _ _) ?_
  intro attempt member
  cases List.mem_singleton.mp member
  refine ⟨?_, List.mem_singleton_self _, by decide⟩
  intro s within
  cases List.mem_singleton.mp within
  rfl

end Views

end WorkloadGovernor
