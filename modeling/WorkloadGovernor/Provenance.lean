import WorkloadGovernor.Applications
import WorkloadGovernor.Assignments
import WorkloadGovernor.Registry

namespace WorkloadGovernor
variable {Address : Type} [DecidableEq Address]

section Initialisation
variable {env : Env Address}

omit [DecidableEq Address] in
/-- Without an admin only the initialisation and the extension of an application can go through. -/
theorem allowed_uninitialized {call : Call Address} (allowed : env.Allowed call) (missing : env.getAdmin = none) :
    (∃ admin, call = .initializeContract admin) ∨
      ∃ contributor orgId issueId, call = .extendApplicationTtl contributor orgId issueId := by
  cases call with
  | initializeContract admin => exact Or.inl ⟨admin, rfl⟩
  | extendApplicationTtl c o i => exact Or.inr ⟨c, o, i, rfl⟩
  | _ => simp [Env.Allowed, Env.AdminAllowed, Env.MaintainerAllowed, missing] at allowed

/-- A contract without an admin has nothing stored at all. -/
def EmptyUntilInitialized (env : Env Address) : Prop := env.getAdmin = none → env.storage = .empty

theorem emptyUntilInitialized_effect (empty : EmptyUntilInitialized env) {call : Call Address}
    (allowed : env.Allowed call) : EmptyUntilInitialized (env.effect call) := by
  intro missing
  rcases getAdmin_effect allowed with ⟨admin, _, _, stored⟩ | ⟨other, same⟩
  · cases stored.symm.trans missing
  · rw [same] at missing
    rcases allowed_uninitialized allowed missing with ⟨admin, rfl⟩ | ⟨c, o, i, rfl⟩
    · exact absurd rfl (other admin)
    · have applied : env.hasAppEntry c o i = true := allowed
      simp [Env.hasAppEntry, empty missing, Storage.empty] at applied

theorem exec_emptyUntilInitialized (deployment : Deployment Address) (steps : List (Step Address)) :
    EmptyUntilInitialized (exec deployment steps) := by
  have preserved : ∀ (env : Env Address) s, EmptyUntilInitialized env → EmptyUntilInitialized (step env s) :=
    step_invariant
      (fun env auths _ empty allowed =>
        emptyUntilInitialized_effect (show EmptyUntilInitialized (env.authorisedBy auths) from empty) allowed)
      (fun _ _ empty => empty)
  exact Run.exec_invariant (fun _ => rfl) preserved steps

def AdminIs (admin : Address) (env : Env Address) : Prop := env.getAdmin = some admin

/-- Once there is an admin no step replaces it. -/
theorem adminIs_step {admin : Address} (env : Env Address) (s : Step Address) (stored : AdminIs admin env) :
    AdminIs admin (step env s) := by
  refine step_invariant ?_ (fun _ _ stored => stored) env s stored
  intro env auths call stored allowed
  rcases getAdmin_effect allowed with ⟨other, _, missing, _⟩ | ⟨_, same⟩
  · cases stored.symm.trans missing
  · exact same.trans stored

/-- An admin is only ever stored by a successful initialisation. -/
theorem getAdmin_of_step {s : Step Address} (missing : env.getAdmin = none)
    (stored : (step env s).getAdmin ≠ none) :
    ∃ auths admin, s = .call auths (.initializeContract admin) ∧
      Succeeds env auths (.initializeContract admin) := by
  obtain ⟨auths, call, rfl, allowed, fresh⟩ :=
    call_of_step (P := fun env => env.getAdmin ≠ none) (fun _ stored => stored missing) stored
  rcases getAdmin_effect allowed with ⟨admin, rfl, _, _⟩ | ⟨_, same⟩
  · exact ⟨auths, admin, rfl, succeeds_iff.mpr allowed⟩
  · exact absurd (same.trans missing) fresh

end Initialisation

section Authorisation
variable {env : Env Address}

/-- A change of the registry or of the global cap is authorised by the admin stored
after the step. -/
theorem admin_authorises {auths : List Address} {call : Call Address}
    (allowed : (env.authorisedBy auths).Allowed call)
    (changed : ((env.authorisedBy auths).effect call).storage.maint ≠ env.storage.maint ∨
      ((env.authorisedBy auths).effect call).storage.gCap ≠ env.storage.gCap) :
    ∃ admin, admin ∈ auths ∧ ((env.authorisedBy auths).effect call).getAdmin = some admin := by
  cases call with
  | initializeContract admin => exact ⟨admin, allowed.2, rfl⟩
  | registerMaintainer a m o =>
    obtain ⟨admin, stored, signed⟩ := allowed
    exact ⟨admin, signed, stored⟩
  | deregisterMaintainer a m o =>
    obtain ⟨⟨admin, stored, signed⟩, _⟩ := allowed
    exact ⟨admin, signed, stored⟩
  | setGlobalCap a newCap =>
    obtain ⟨⟨admin, stored, signed⟩, _⟩ := allowed
    exact ⟨admin, signed, stored⟩
  | emergencySetGlobalCap a newCap =>
    obtain ⟨⟨admin, stored, signed⟩, _⟩ := allowed
    exact ⟨admin, signed, stored⟩
  | _ => exact changed.elim (fun differs => absurd rfl differs) fun differs => absurd rfl differs

/-- The maintainer a call acts as, and for which organisation. -/
def Call.maintainedBy : Call Address → Option (Address × Symbol)
  | .assignIssue maintainer _ orgId _ => some (maintainer, orgId)
  | .completeAssignment maintainer _ orgId _ => some (maintainer, orgId)
  | .revokeAssignment maintainer _ orgId _ => some (maintainer, orgId)
  | .setOrgCap maintainer orgId _ => some (maintainer, orgId)
  | _ => none

/-- An assignment, an assignment counter or the cap of an organisation differs. -/
def OrgChanged (env after : Env Address) (orgId : Symbol) : Prop :=
  (∃ issueId contributor, after.storage.asgn (orgId, issueId, contributor) ≠
    env.storage.asgn (orgId, issueId, contributor)) ∨
  (∃ contributor, after.storage.oAsgn (contributor, orgId) ≠ env.storage.oAsgn (contributor, orgId)) ∨
  after.storage.oCap orgId ≠ env.storage.oCap orgId

theorem not_orgChanged {after : Env Address} {orgId o : Symbol} {i : UInt32} {c : Address}
    {sentinel : Option Bool} {counter : Option UInt32} (other : o ≠ orgId)
    (asgn : after.storage.asgn = write env.storage.asgn (o, i, c) sentinel)
    (oAsgn : after.storage.oAsgn = write env.storage.oAsgn (c, o) counter)
    (oCap : after.storage.oCap = env.storage.oCap) : ¬ OrgChanged env after orgId := by
  intro changed
  rcases changed with ⟨issueId, contributor, differs⟩ | ⟨contributor, differs⟩ | differs
  · have elsewhere : (orgId, issueId, contributor) ≠ (o, i, c) := fun equal => other (Prod.mk.inj equal).1.symm
    rw [asgn, write_of_ne elsewhere] at differs
    exact differs rfl
  · have elsewhere : (contributor, orgId) ≠ (c, o) := fun equal => other (Prod.mk.inj equal).2.symm
    rw [oAsgn, write_of_ne elsewhere] at differs
    exact differs rfl
  · rw [oCap] at differs
    exact differs rfl

/-- Only a call as a maintainer of the organisation changes its assignments or its cap. -/
theorem orgChanged_maintainedBy {call : Call Address} {orgId : Symbol}
    (changed : OrgChanged env (env.effect call) orgId) :
    ∃ maintainer, call.maintainedBy = some (maintainer, orgId) := by
  cases call with
  | assignIssue m c o i =>
    by_cases same : o = orgId
    · exact ⟨m, by rw [Call.maintainedBy, same]⟩
    · exact absurd changed (not_orgChanged same rfl rfl rfl)
  | completeAssignment m c o i =>
    by_cases same : o = orgId
    · exact ⟨m, by rw [Call.maintainedBy, same]⟩
    · exact absurd changed (not_orgChanged same rfl rfl rfl)
  | revokeAssignment m c o i =>
    by_cases same : o = orgId
    · exact ⟨m, by rw [Call.maintainedBy, same]⟩
    · exact absurd changed (not_orgChanged same rfl rfl rfl)
  | setOrgCap m o newCap =>
    by_cases same : orgId = o
    · exact ⟨m, by rw [Call.maintainedBy, same]⟩
    · rcases changed with ⟨issueId, contributor, differs⟩ | ⟨contributor, differs⟩ | differs
      · exact absurd rfl differs
      · exact absurd rfl differs
      · exact absurd (write_of_ne same) differs
  | _ =>
    rcases changed with ⟨issueId, contributor, differs⟩ | ⟨contributor, differs⟩ | differs
    · exact absurd rfl differs
    · exact absurd rfl differs
    · exact absurd rfl differs

omit [DecidableEq Address] in
theorem maintainer_of_allowed {call : Call Address} {maintainer : Address} {orgId : Symbol}
    (allowed : env.Allowed call) (maintained : call.maintainedBy = some (maintainer, orgId)) :
    env.MaintainerAllowed maintainer orgId := by
  cases call with
  | assignIssue m c o i => cases maintained; exact allowed.1
  | completeAssignment m c o i => cases maintained; exact allowed.1
  | revokeAssignment m c o i => cases maintained; exact allowed.1
  | setOrgCap m o newCap => cases maintained; exact allowed.1
  | _ => cases maintained

end Authorisation

section History
variable (deployment : Deployment Address)

/-- The contributor applied, under their own authorisation, and since then the application
has been live throughout, neither withdrawn nor turned into an assignment. -/
def ApplicationOrigin (steps : List (Step Address)) (contributor : Address) (orgId : Symbol)
    (issueId : UInt32) : Prop :=
  ∃ before auths after, steps = before ++ .call auths (.applyForIssue contributor orgId issueId) :: after ∧
    contributor ∈ auths ∧
    Succeeds (exec deployment before) auths (.applyForIssue contributor orgId issueId) ∧
    (∀ middle, middle <+: after → hasApplied (exec deployment
      (before ++ .call auths (.applyForIssue contributor orgId issueId) :: middle)) contributor orgId issueId = true) ∧
    ∀ middle later call, middle ++ [.call later call] <+: after →
      call = .withdrawApplication contributor orgId issueId ∨
        (∃ maintainer, call = .assignIssue maintainer contributor orgId issueId) →
      ¬ Succeeds (exec deployment
        (before ++ .call auths (.applyForIssue contributor orgId issueId) :: middle)) later call

/-- A maintainer registered for the organisation at that step assigned the issue, under
their own authorisation, on an application with an origin of its own, and the assignment
has been neither completed nor revoked since. -/
def AssignmentOrigin (steps : List (Step Address)) (contributor : Address) (orgId : Symbol)
    (issueId : UInt32) : Prop :=
  ∃ before auths maintainer after,
    steps = before ++ .call auths (.assignIssue maintainer contributor orgId issueId) :: after ∧
    maintainer ∈ auths ∧ (exec deployment before).isMaintainer maintainer orgId = true ∧
    Succeeds (exec deployment before) auths (.assignIssue maintainer contributor orgId issueId) ∧
    ApplicationOrigin deployment before contributor orgId issueId ∧
    ∀ middle later other call, middle ++ [.call later call] <+: after →
      call = .completeAssignment other contributor orgId issueId ∨
        call = .revokeAssignment other contributor orgId issueId →
      ¬ Succeeds (exec deployment
        (before ++ .call auths (.assignIssue maintainer contributor orgId issueId) :: middle)) later call

variable {deployment : Deployment Address} {steps : List (Step Address)} {contributor : Address} {orgId : Symbol}
  {issueId : UInt32}

theorem not_applied_after {env : Env Address} (sentinels : SentinelsTrue env) {auths : List Address}
    {call : Call Address} (success : Succeeds env auths call)
    (surrenders : call = .withdrawApplication contributor orgId issueId ∨
      (∃ maintainer, call = .assignIssue maintainer contributor orgId issueId)) :
    ¬ hasApplied (step env (.call auths call)) contributor orgId issueId = true := by
  have allowed := succeeds_iff.mp success
  have gone : applicationOp contributor call = .surrender (orgId, issueId) := by
    rcases surrenders with rfl | ⟨maintainer, rfl⟩ <;> simp only [applicationOp, if_true]
  rw [step_of_allowed allowed]
  have signed : SentinelsTrue (env.authorisedBy auths) := sentinels
  exact not_mem_pending_of_surrender signed allowed gone

theorem not_assigned_after {env : Env Address} {auths : List Address} {call : Call Address}
    (success : Succeeds env auths call) {maintainer : Address}
    (releases : call = .completeAssignment maintainer contributor orgId issueId ∨
      call = .revokeAssignment maintainer contributor orgId issueId) :
    ¬ isAssigned (step env (.call auths call)) contributor orgId issueId = true := by
  have allowed := succeeds_iff.mp success
  have gone : assignmentOp contributor orgId call = .dismiss issueId := by
    rcases releases with rfl | rfl <;> simp only [assignmentOp, if_true]
  rw [step_of_allowed allowed]
  exact not_mem_assigned_of_dismiss allowed gone

theorem exec_after {before middle : List (Step Address)} {s t : Step Address} :
    exec deployment (before ++ s :: (middle ++ [t])) = step (exec deployment (before ++ s :: middle)) t := by
  rw [← exec_concat, List.append_assoc, List.cons_append]

theorem application_origin (applied : hasApplied (exec deployment steps) contributor orgId issueId = true) :
    ApplicationOrigin deployment steps contributor orgId issueId := by
  have absent : ¬ hasApplied (Env.genesis deployment) contributor orgId issueId = true := Bool.false_ne_true
  obtain ⟨before, s, after, rfl, missing, since⟩ :=
    Run.exists_origin (P := fun env => hasApplied env contributor orgId issueId = true) absent applied
  have sentinels := (exec_applicationInv deployment before).sentinels
  have fresh : (orgId, issueId) ∉ pending (exec deployment before) contributor := missing
  have created : (orgId, issueId) ∈ pending (step (exec deployment before) s) contributor :=
    Run.holds_from_origin (P := fun env => hasApplied env contributor orgId issueId = true) since
  obtain ⟨auths, call, rfl, allowed, granted⟩ :=
    call_of_step (P := fun env => (orgId, issueId) ∈ pending env contributor)
      (fun n later => fresh (pending_advanced_subset sentinels contributor n later)) created
  have signed : SentinelsTrue ((exec deployment before).authorisedBy auths) := sentinels
  rcases pending_of_effect signed allowed granted with old | rfl
  · exact absurd old fresh
  · refine ⟨before, auths, after, rfl, allowed.2.1, succeeds_iff.mpr allowed, since, ?_⟩
    intro middle later call inner surrenders success
    have still := since _ inner
    have steady := (exec_applicationInv deployment
      (before ++ .call auths (.applyForIssue contributor orgId issueId) :: middle)).sentinels
    refine not_applied_after steady success surrenders ?_
    rw [← exec_after]
    exact still

theorem assignment_origin (active : isAssigned (exec deployment steps) contributor orgId issueId = true) :
    AssignmentOrigin deployment steps contributor orgId issueId := by
  have absent : ¬ isAssigned (Env.genesis deployment) contributor orgId issueId = true := Bool.false_ne_true
  obtain ⟨before, s, after, rfl, missing, since⟩ :=
    Run.exists_origin (P := fun env => isAssigned env contributor orgId issueId = true) absent active
  have fresh : issueId ∉ assigned (exec deployment before) contributor orgId := missing
  have created : issueId ∈ assigned (step (exec deployment before) s) contributor orgId :=
    Run.holds_from_origin (P := fun env => isAssigned env contributor orgId issueId = true) since
  obtain ⟨auths, call, rfl, allowed, enrolled⟩ :=
    call_of_step (P := fun env => issueId ∈ assigned env contributor orgId) (fun _ => fresh) created
  rcases assigned_of_effect allowed enrolled with old | ⟨maintainer, rfl⟩
  · exact absurd old fresh
  · obtain ⟨⟨_, signed, maintains⟩, applied, _⟩ := id allowed
    refine ⟨before, auths, maintainer, after, rfl, signed, maintains, succeeds_iff.mpr allowed,
      application_origin applied, ?_⟩
    intro middle later other call inner releases success
    have still := since _ inner
    refine not_assigned_after success releases ?_
    rw [← exec_after]
    exact still

/-- Nothing is stored before the first successful initialisation, which fixes the admin;
the registry and the global cap change only under that admin's authorisation; every
assignment has its origin; and what happens in an organisation happens through its own
registered maintainers. -/
theorem provenance_and_authorisation (deployment : Deployment Address) (steps : List (Step Address)) :
    ((∀ before auths admin, before ++ [.call auths (.initializeContract admin)] <+: steps →
        ¬ Succeeds (exec deployment before) auths (.initializeContract admin)) →
      (exec deployment steps).storage = .empty) ∧
    (∀ before auths admin after, steps = before ++ .call auths (.initializeContract admin) :: after →
      Succeeds (exec deployment before) auths (.initializeContract admin) →
      admin ∈ auths ∧ (exec deployment steps).getAdmin = some admin) ∧
    (∀ s, (exec deployment (steps ++ [s])).storage.maint ≠ (exec deployment steps).storage.maint ∨
        (exec deployment (steps ++ [s])).storage.gCap ≠ (exec deployment steps).storage.gCap →
      ∃ auths call admin, s = .call auths call ∧ admin ∈ auths ∧
        (exec deployment (steps ++ [s])).getAdmin = some admin) ∧
    (∀ contributor orgId issueId, isAssigned (exec deployment steps) contributor orgId issueId = true →
      AssignmentOrigin deployment steps contributor orgId issueId) ∧
    ∀ s orgId, OrgChanged (exec deployment steps) (exec deployment (steps ++ [s])) orgId →
      ∃ auths call maintainer, s = .call auths call ∧ call.maintainedBy = some (maintainer, orgId) ∧
        maintainer ∈ auths ∧ (exec deployment steps).isMaintainer maintainer orgId = true := by
  refine ⟨?_, ?_, ?_, fun _ _ _ => assignment_origin, ?_⟩
  · intro never
    apply exec_emptyUntilInitialized
    by_contra initialized
    obtain ⟨before, s, after, rfl, missing, since⟩ :=
      Run.exists_origin (P := fun env : Env Address => env.getAdmin ≠ none) (not_not.mpr rfl) initialized
    have created : (step (exec deployment before) s).getAdmin ≠ none :=
      Run.holds_from_origin (P := fun env : Env Address => env.getAdmin ≠ none) since
    obtain ⟨auths, admin, rfl, success⟩ := getAdmin_of_step (not_not.mp missing) created
    exact never before auths admin (List.prefix_iff_eq_append.mpr (by simp)) success
  · intro before auths admin after whole success
    have allowed := succeeds_iff.mp success
    refine ⟨allowed.2, ?_⟩
    have start : AdminIs admin (step (exec deployment before) (.call auths (.initializeContract admin))) := by
      rw [step_of_allowed allowed]
      rfl
    have split : exec deployment steps =
        Run.exec step (step (exec deployment before) (.call auths (.initializeContract admin))) after := by
      rw [whole, exec, Run.exec_append]
      rfl
    rw [split]
    exact Run.exec_invariant start adminIs_step after
  · intro s changed
    rw [exec_concat] at changed ⊢
    obtain ⟨auths, call, rfl, allowed, touched⟩ :=
      call_of_step (P := fun env => env.storage.maint ≠ (exec deployment steps).storage.maint ∨
        env.storage.gCap ≠ (exec deployment steps).storage.gCap) (fun _ differs => by simp [Env.advanced] at differs)
        changed
    obtain ⟨admin, signed, stored⟩ := admin_authorises allowed touched
    rw [step_of_allowed allowed]
    exact ⟨auths, call, admin, rfl, signed, stored⟩
  · intro s orgId changed
    rw [exec_concat] at changed
    have unchanged : ¬ OrgChanged (exec deployment steps) (exec deployment steps) orgId := by
      simp [OrgChanged]
    obtain ⟨auths, call, rfl, allowed, touched⟩ :=
      call_of_step (P := fun env => OrgChanged (exec deployment steps) env orgId) (fun _ => unchanged) changed
    have signed : OrgChanged ((exec deployment steps).authorisedBy auths)
        (((exec deployment steps).authorisedBy auths).effect call) orgId := touched
    obtain ⟨maintainer, maintained⟩ := orgChanged_maintainedBy signed
    obtain ⟨_, authorised, maintains⟩ := maintainer_of_allowed allowed maintained
    exact ⟨auths, call, maintainer, rfl, maintained, authorised, maintains⟩

end History

end WorkloadGovernor
