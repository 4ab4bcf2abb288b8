import WorkloadGovernor.Applications
import WorkloadGovernor.Assignments

namespace WorkloadGovernor
variable {Address : Type} [DecidableEq Address]

section Assignee
variable {env : Env Address}

/-- No issue is assigned to two contributors. -/
def SingleAssignee (env : Env Address) : Prop :=
  ∀ orgId issueId first second, isAssigned env first orgId issueId = true →
    isAssigned env second orgId issueId = true → first = second

/-- A step that, if it is an assignment passing its checks, finds the issue assigned to nobody. -/
def AssignsFreeIssue (env : Env Address) : Step Address → Prop
  | .call auths (.assignIssue maintainer contributor orgId issueId) =>
    (env.authorisedBy auths).Allowed (.assignIssue maintainer contributor orgId issueId) →
      ∀ other, isAssigned env other orgId issueId = false
  | _ => True

theorem singleAssignee_of_no_assignment (single : SingleAssignee env) {call : Call Address}
    (allowed : env.Allowed call)
    (other : ∀ maintainer contributor orgId issueId, call ≠ .assignIssue maintainer contributor orgId issueId) :
    SingleAssignee (env.effect call) := by
  intro orgId issueId first second atFirst atSecond
  rcases assigned_of_effect allowed atFirst with before | ⟨maintainer, same⟩
  · rcases assigned_of_effect allowed atSecond with earlier | ⟨maintainer, same⟩
    · exact single orgId issueId first second before earlier
    · exact absurd same (other maintainer second orgId issueId)
  · exact absurd same (other maintainer first orgId issueId)

/-- The check reads the sentinel of the assigned contributor only, so an assignment keeps
the assignee single just when nobody else holds the issue. -/
theorem singleAssignee_assignIssue_iff (single : SingleAssignee env) {maintainer contributor : Address}
    {orgId : Symbol} {issueId : UInt32}
    (allowed : env.Allowed (.assignIssue maintainer contributor orgId issueId)) :
    SingleAssignee (env.effect (.assignIssue maintainer contributor orgId issueId)) ↔
      ∀ other, isAssigned env other orgId issueId = false := by
  constructor
  · intro after other
    by_contra held
    have present : isAssigned env other orgId issueId = true := by simpa using held
    have kept := assigned_subset_assignIssue allowed other orgId present
    have same := after orgId issueId other contributor kept (mem_assigned_assignIssue allowed)
    have fresh : env.hasAssignment orgId issueId contributor = false := allowed.2.2.2
    subst same
    exact Bool.false_ne_true (fresh.symm.trans present)
  · intro free o i first second atFirst atSecond
    rcases assigned_of_effect allowed atFirst with before | ⟨m, same⟩
    · rcases assigned_of_effect allowed atSecond with earlier | ⟨m, same⟩
      · exact single o i first second before earlier
      · cases same
        exact absurd ((free first).symm.trans before) Bool.false_ne_true
    · cases same
      rcases assigned_of_effect allowed atSecond with earlier | ⟨m, again⟩
      · exact absurd ((free second).symm.trans earlier) Bool.false_ne_true
      · cases again
        rfl

theorem singleAssignee_step_iff (single : SingleAssignee env) (s : Step Address) :
    SingleAssignee (step env s) ↔ AssignsFreeIssue env s := by
  cases s with
  | advance n => exact iff_of_true single trivial
  | call auths call =>
    have signed : SingleAssignee (env.authorisedBy auths) := single
    by_cases allowed : (env.authorisedBy auths).Allowed call
    · rw [step_of_allowed allowed]
      cases call with
      | assignIssue maintainer contributor orgId issueId =>
        rw [singleAssignee_assignIssue_iff signed allowed]
        exact ⟨fun free _ => free, fun free => free allowed⟩
      | _ => exact iff_of_true (singleAssignee_of_no_assignment signed allowed (by simp)) trivial
    · rw [step_of_refused allowed]
      refine iff_of_true single ?_
      cases call with
      | assignIssue maintainer contributor orgId issueId => exact fun passed => absurd passed allowed
      | _ => trivial

/-- `AlreadyAssigned` is reported exactly where the same contributor holds the issue and
the earlier checks pass. -/
theorem assignIssue_alreadyAssigned_iff {auths : List Address} {maintainer contributor : Address}
    {orgId : Symbol} {issueId : UInt32} :
    invoke env auths (.assignIssue maintainer contributor orgId issueId) =
        .error (.contract .alreadyAssigned) ↔
      (env.authorisedBy auths).MaintainerAllowed maintainer orgId ∧
        hasApplied env contributor orgId issueId = true ∧
        getOrgAssignmentCount env contributor orgId < getOrgCap env orgId ∧
        isAssigned env contributor orgId issueId = true := by
  rw [invoke_eq_error]
  simp only [Env.guards, Checked.bind_eq_error, Env.maintainerGuards_eq_ok, panicIf_eq_ok, panicIf_eq_error,
    not_not, ge_iff_le, UInt32.not_le]
  constructor
  · intro reported
    rcases reported with refused | ⟨_, maintained, ⟨_, impossible⟩ | ⟨_, applied, ⟨_, impossible⟩ |
      ⟨_, room, held, _⟩⟩⟩
    · exact absurd (Env.maintainerGuards_error refused) (by decide)
    · cases impossible
    · cases impossible
    · exact ⟨maintained, applied, room, held⟩
  · intro passed
    obtain ⟨maintained, applied, room, held⟩ := passed
    exact Or.inr ⟨(), maintained, Or.inr ⟨(), applied, Or.inr ⟨(), room, held, trivial⟩⟩⟩

/-- A run keeps every issue with at most one assignee exactly when each of its assignments
finds the issue free; the contract itself only refuses the contributor who holds it. -/
theorem single_assignee_iff (deployment : Deployment Address) (steps : List (Step Address)) :
    (Run.Always step (.genesis deployment) SingleAssignee steps ↔
      Run.EachStep step (.genesis deployment) AssignsFreeIssue steps) ∧
    ∀ auths maintainer contributor orgId issueId,
      invoke (exec deployment steps) auths (.assignIssue maintainer contributor orgId issueId) =
          .error (.contract .alreadyAssigned) ↔
        ((exec deployment steps).authorisedBy auths).MaintainerAllowed maintainer orgId ∧
          hasApplied (exec deployment steps) contributor orgId issueId = true ∧
          getOrgAssignmentCount (exec deployment steps) contributor orgId < getOrgCap (exec deployment steps) orgId ∧
          isAssigned (exec deployment steps) contributor orgId issueId = true := by
  have start : SingleAssignee (Env.genesis deployment) := by
    intro orgId issueId first second impossible
    cases impossible
  refine ⟨?_, fun auths maintainer contributor orgId issueId => assignIssue_alreadyAssigned_iff⟩
  have always : ∀ (env : Env Address) (s : Step Address), True → True := fun _ _ _ => trivial
  exact Run.always_iff_eachStep trivial always start (fun _ s _ single => singleAssignee_step_iff single s) steps

/-- Two contributors apply for one issue, and both are assigned to it. -/
def sharedIssue : List (Step Nat) :=
  [.call [0] (.initializeContract 0), .call [0] (.registerMaintainer 0 9 sampleOrg),
    .call [1] (.applyForIssue 1 sampleOrg 7), .call [2] (.applyForIssue 2 sampleOrg 7),
    .call [9] (.assignIssue 9 1 sampleOrg 7), .call [9] (.assignIssue 9 2 sampleOrg 7)]

theorem shared_issue_two_assignees : ¬ SingleAssignee (exec (.release Nat) sharedIssue) := by
  intro single
  have same : (1 : Nat) = 2 := single sampleOrg 7 1 2 (by decide) (by decide)
  cases same

end Assignee

section Applicant
variable {env : Env Address}

/-- Nobody has an application for an issue they are working on. -/
def ApplicantOrAssignee (env : Env Address) : Prop :=
  ∀ contributor orgId issueId, ¬ (hasApplied env contributor orgId issueId = true ∧
    isAssigned env contributor orgId issueId = true)

/-- A step that, if it is an application passing its checks, is not for an issue the
contributor is assigned to. -/
def AppliesForOtherIssue (env : Env Address) : Step Address → Prop
  | .call auths (.applyForIssue contributor orgId issueId) =>
    (env.authorisedBy auths).Allowed (.applyForIssue contributor orgId issueId) →
      isAssigned env contributor orgId issueId = false
  | _ => True

theorem mem_pending_applyForIssue (sentinels : SentinelsTrue env) {contributor : Address} {orgId : Symbol}
    {issueId : UInt32} (allowed : env.Allowed (.applyForIssue contributor orgId issueId)) :
    (orgId, issueId) ∈ pending (env.effect (.applyForIssue contributor orgId issueId)) contributor := by
  rw [pending_effect sentinels allowed]
  simp only [applicationOp, if_true, LeaseBook.Op.on]
  exact Set.mem_insert _ _

theorem applicantOrAssignee_of_no_application (sentinels : SentinelsTrue env)
    (exclusive : ApplicantOrAssignee env) {call : Call Address} (allowed : env.Allowed call)
    (other : ∀ contributor orgId issueId, call ≠ .applyForIssue contributor orgId issueId) :
    ApplicantOrAssignee (env.effect call) := by
  intro contributor orgId issueId both
  obtain ⟨hasApplied, held⟩ := both
  have applied : (orgId, issueId) ∈ pending (env.effect call) contributor := hasApplied
  have before : (orgId, issueId) ∈ pending env contributor := by
    rcases pending_of_effect sentinels allowed applied with old | same
    · exact old
    · exact absurd same (other contributor orgId issueId)
  rcases assigned_of_effect allowed held with old | ⟨maintainer, rfl⟩
  · exact exclusive contributor orgId issueId ⟨before, old⟩
  · have gone : applicationOp contributor (.assignIssue maintainer contributor orgId issueId) =
        .surrender (orgId, issueId) := by simp only [applicationOp, if_true]
    exact not_mem_pending_of_surrender sentinels allowed gone applied

theorem applicantOrAssignee_applyForIssue_iff (sentinels : SentinelsTrue env)
    (exclusive : ApplicantOrAssignee env) {contributor : Address} {orgId : Symbol} {issueId : UInt32}
    (allowed : env.Allowed (.applyForIssue contributor orgId issueId)) :
    ApplicantOrAssignee (env.effect (.applyForIssue contributor orgId issueId)) ↔
      isAssigned env contributor orgId issueId = false := by
  have kept : ∀ c o i, isAssigned (env.effect (.applyForIssue contributor orgId issueId)) c o i =
      isAssigned env c o i := fun _ _ _ => rfl
  constructor
  · intro after
    rw [← Bool.not_eq_true]
    intro held
    exact after contributor orgId issueId ⟨mem_pending_applyForIssue sentinels allowed, held⟩
  · intro free c o i both
    obtain ⟨hasApplied, held⟩ := both
    have applied : (o, i) ∈ pending (env.effect (.applyForIssue contributor orgId issueId)) c := hasApplied
    rw [kept] at held
    rcases pending_of_effect sentinels allowed applied with old | same
    · exact exclusive c o i ⟨old, held⟩
    · cases same
      exact Bool.false_ne_true (free.symm.trans held)

theorem applicantOrAssignee_step_iff (inv : ApplicationInv env) (exclusive : ApplicantOrAssignee env)
    (s : Step Address) : ApplicantOrAssignee (step env s) ↔ AppliesForOtherIssue env s := by
  cases s with
  | advance n =>
    refine iff_of_true ?_ trivial
    intro contributor orgId issueId both
    have applied : (orgId, issueId) ∈ pending (env.advanced n) contributor := both.1
    have earlier := pending_advanced_subset inv.sentinels contributor n applied
    exact exclusive contributor orgId issueId ⟨earlier, both.2⟩
  | call auths call =>
    have signed := applicationInv_authorisedBy inv auths
    have before : ApplicantOrAssignee (env.authorisedBy auths) := exclusive
    by_cases allowed : (env.authorisedBy auths).Allowed call
    · rw [step_of_allowed allowed]
      cases call with
      | applyForIssue contributor orgId issueId =>
        rw [applicantOrAssignee_applyForIssue_iff signed.sentinels before allowed]
        exact ⟨fun free _ => free, fun free => free allowed⟩
      | _ =>
        exact iff_of_true
          (applicantOrAssignee_of_no_application signed.sentinels before allowed (by simp)) trivial
    · rw [step_of_refused allowed]
      refine iff_of_true exclusive ?_
      cases call with
      | applyForIssue contributor orgId issueId => exact fun passed => absurd passed allowed
      | _ => trivial

/-- A run keeps applicants and assignees of an issue apart exactly when nobody applies
for an issue they are assigned to. -/
theorem applicant_or_assignee_iff (deployment : Deployment Address) (steps : List (Step Address)) :
    Run.Always step (.genesis deployment) ApplicantOrAssignee steps ↔
      Run.EachStep step (.genesis deployment) AppliesForOtherIssue steps := by
  have start : ApplicantOrAssignee (Env.genesis deployment) := by
    intro contributor orgId issueId both
    cases both.1
  exact Run.always_iff_eachStep (applicationInv_genesis deployment) (fun _ s inv => applicationInv_step s inv)
    start (fun _ s inv exclusive => applicantOrAssignee_step_iff inv exclusive s) steps

/-- A contributor applies again for the issue just assigned to them. -/
def repeatedApplication : List (Step Nat) :=
  [.call [0] (.initializeContract 0), .call [0] (.registerMaintainer 0 9 sampleOrg),
    .call [1] (.applyForIssue 1 sampleOrg 7), .call [9] (.assignIssue 9 1 sampleOrg 7),
    .call [1] (.applyForIssue 1 sampleOrg 7)]

theorem repeated_application_both : ¬ ApplicantOrAssignee (exec (.release Nat) repeatedApplication) := by
  intro exclusive
  have applied : hasApplied (exec (.release Nat) repeatedApplication) 1 sampleOrg 7 = true := by decide
  have held : isAssigned (exec (.release Nat) repeatedApplication) 1 sampleOrg 7 = true := by decide
  exact exclusive 1 sampleOrg 7 ⟨applied, held⟩

end Applicant

end WorkloadGovernor
