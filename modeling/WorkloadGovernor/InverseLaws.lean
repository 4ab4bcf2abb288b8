import WorkloadGovernor.Applications
import WorkloadGovernor.Assignments

namespace WorkloadGovernor
variable {Address : Type} [DecidableEq Address]

/-- The same values are stored, whatever lifetimes they have. An entry that has lapsed is absent. -/
structure SameValues (env after : Env Address) : Prop where
  gApps : ∀ contributor,
    after.storage.gApps.get after.sequence contributor = env.storage.gApps.get env.sequence contributor
  app : ∀ key, after.storage.app.get after.sequence key = env.storage.app.get env.sequence key
  gCap : after.storage.gCap = env.storage.gCap
  admin : after.storage.admin = env.storage.admin
  maint : after.storage.maint = env.storage.maint
  oAsgn : after.storage.oAsgn = env.storage.oAsgn
  asgn : after.storage.asgn = env.storage.asgn
  oCap : after.storage.oCap = env.storage.oCap
  wasm : after.storage.wasm = env.storage.wasm

/-- An assignment is only ever written as `true`. -/
def AssignmentsTrue (env : Env Address) : Prop := ∀ key value, env.storage.asgn key = some value → value = true

section Sentinels
variable {env : Env Address}

theorem assignmentsTrue_write (sentinels : AssignmentsTrue env) (key : Symbol × UInt32 × Address)
    {stored : Option Bool} (written : ∀ value, stored = some value → value = true) :
    ∀ j value, write env.storage.asgn key stored j = some value → value = true := by
  intro j value present
  by_cases same : j = key
  · rw [same, write_self] at present
    exact written value present
  · rw [write_of_ne same] at present
    exact sentinels j value present

theorem assignmentsTrue_effect (sentinels : AssignmentsTrue env) (call : Call Address) :
    AssignmentsTrue (env.effect call) := by
  have gone : ∀ value, (none : Option Bool) = some value → value = true := by simp
  cases call with
  | assignIssue maintainer c o i =>
    exact assignmentsTrue_write sentinels _ fun value same => (Option.some.inj same).symm
  | completeAssignment maintainer c o i => exact assignmentsTrue_write sentinels _ gone
  | revokeAssignment maintainer c o i => exact assignmentsTrue_write sentinels _ gone
  | _ => exact sentinels

theorem exec_assignmentsTrue (deployment : Deployment Address) (steps : List (Step Address)) :
    AssignmentsTrue (exec deployment steps) := by
  have init : AssignmentsTrue (Env.genesis deployment) := fun _ _ present => by cases present
  have calls : ∀ (env : Env Address) auths call, AssignmentsTrue env → (env.authorisedBy auths).Allowed call →
      AssignmentsTrue ((env.authorisedBy auths).effect call) := by
    intro env auths call sentinels _
    have signed : AssignmentsTrue (env.authorisedBy auths) := sentinels
    exact assignmentsTrue_effect signed call
  exact Run.exec_invariant init (step_invariant calls fun _ _ sentinels => sentinels) steps

end Sentinels

section Closing
variable {env : Env Address} {maintainer contributor : Address} {orgId : Symbol} {issueId : UInt32}

/-- Where a sentinel never stands next to a counter of 0, completing and revoking check the
same, though the one looks at the counter in debug builds only. -/
theorem guards_complete_revoke (inv : AssignmentInv env) :
    env.guards (.completeAssignment maintainer contributor orgId issueId) =
      env.guards (.revokeAssignment maintainer contributor orgId issueId) := by
  refine Checked.bind_congr_ok fun _ _ => Checked.bind_congr_ok fun _ present => ?_
  have positive := inv.positive (not_not.mp (panicIf_eq_ok.mp present))
  have completes : panicIf (env.deployment.debugAssertions = true ∧
      env.getOrgAssignmentCount contributor orgId = 0) .counterInconsistency = .ok () :=
    panicIf_eq_ok.mpr fun zero => positive zero.2
  rw [completes]
  exact (panicIf_eq_ok.mpr positive).symm

theorem storage_complete_revoke (env : Env Address) :
    (env.effect (.completeAssignment maintainer contributor orgId issueId)).storage =
      (env.effect (.revokeAssignment maintainer contributor orgId issueId)).storage := rfl

/-- Completing and revoking fail alike or store the same. -/
theorem complete_revoke_agree (inv : AssignmentInv env) (auths : List Address) :
    (∃ failure, invoke env auths (.completeAssignment maintainer contributor orgId issueId) = .error failure ∧
      invoke env auths (.revokeAssignment maintainer contributor orgId issueId) = .error failure) ∨
    ∃ completed revoked,
      invoke env auths (.completeAssignment maintainer contributor orgId issueId) = .ok completed ∧
      invoke env auths (.revokeAssignment maintainer contributor orgId issueId) = .ok revoked ∧
      completed.storage = revoked.storage := by
  have same : (env.authorisedBy auths).guards (.completeAssignment maintainer contributor orgId issueId) =
      (env.authorisedBy auths).guards (.revokeAssignment maintainer contributor orgId issueId) :=
    guards_complete_revoke (assignmentInv_authorisedBy inv auths)
  cases checked : (env.authorisedBy auths).guards (.revokeAssignment maintainer contributor orgId issueId) with
  | error failure =>
    exact Or.inl ⟨failure, invoke_eq_error.mpr (same.trans checked), invoke_eq_error.mpr checked⟩
  | ok _ =>
    have revokes := invoke_eq_ok.mpr ⟨(Env.guards_eq_ok _).mp checked, rfl⟩
    have completes := invoke_eq_ok.mpr ⟨(Env.guards_eq_ok _).mp (same.trans checked), rfl⟩
    exact Or.inr ⟨_, _, completes, revokes, storage_complete_revoke _⟩

end Closing

section RoundTrip
variable {env : Env Address} {contributor : Address} {orgId : Symbol} {issueId : UInt32}

theorem getGlobalAppCount_submitted (env : Env Address) : (env.submitted contributor orgId issueId).getGlobalAppCount
    contributor = env.getGlobalAppCount contributor + 1 := by
  have read : (env.submitted contributor orgId issueId).storage.gApps.get env.sequence contributor =
      some (env.getGlobalAppCount contributor + 1) := (TtlStore.get_renew ..).trans (if_pos rfl)
  exact congrArg (Option.getD · 0) read

theorem hasAppEntry_submitted (env : Env Address) :
    (env.submitted contributor orgId issueId).hasAppEntry contributor orgId issueId = true := by
  have read : (env.submitted contributor orgId issueId).storage.app.get env.sequence (contributor, orgId, issueId) =
      some true := (TtlStore.get_renew ..).trans (if_pos rfl)
  exact congrArg (Option.getD · false) read

omit [DecidableEq Address] in
/-- A counter is stored only while it is positive, so that its value tells what is stored. -/
theorem gApps_get_eq (inv : ApplicationInv env) (contributor : Address) :
    env.storage.gApps.get env.sequence contributor =
      if env.getGlobalAppCount contributor = 0 then none else some (env.getGlobalAppCount contributor) := by
  cases read : env.storage.gApps.get env.sequence contributor with
  | none => rw [Env.getGlobalAppCount, read, Option.getD_none, if_pos rfl]
  | some count =>
    obtain ⟨entry, served, rfl⟩ := TtlStore.get_eq_some.mp read
    have positive := (inv.sound contributor).positive ⟨entry.value.toNat, entry.liveUntil⟩
      (Option.map_eq_some_iff.mpr ⟨entry, served, rfl⟩)
    rw [Env.getGlobalAppCount, read, Option.getD_some, if_neg (Checked.pos_iff.mpr positive)]

/-- Taking a new application back leaves the counter entry as it was, or absent as it was. -/
theorem gApps_submitted_consumed (inv : ApplicationInv env)
    (room : env.getGlobalAppCount contributor < env.getGlobalCap) (c : Address) :
    ((env.submitted contributor orgId issueId).consumed contributor orgId issueId).storage.gApps.get env.sequence c =
      env.storage.gApps.get env.sequence c := by
  have back : Checked.saturatingSub
      ((env.submitted contributor orgId issueId).getGlobalAppCount contributor) 1 =
        env.getGlobalAppCount contributor := by
    rw [getGlobalAppCount_submitted, Checked.saturatingSub_add_one room]
  have others : c ≠ contributor → (env.submitted contributor orgId issueId).storage.gApps.get env.sequence c =
      env.storage.gApps.get env.sequence c := fun other => (TtlStore.get_renew ..).trans (if_neg other)
  have stored := gApps_get_eq inv contributor
  simp only [Env.consumed, back]
  by_cases first : env.getGlobalAppCount contributor = 0
  · rw [if_pos first, TtlStore.get_remove]
    by_cases same : c = contributor
    · rw [if_pos same, same, stored, if_pos first]
    · rw [if_neg same, others same]
  · rw [if_neg first]
    refine (TtlStore.get_set ..).trans ?_
    by_cases same : c = contributor
    · rw [if_pos same, same, stored, if_neg first]
    · rw [if_neg same]
      exact others same

theorem app_submitted_consumed (sentinels : SentinelsTrue env)
    (missing : env.hasAppEntry contributor orgId issueId = false) (key : Address × Symbol × UInt32) :
    ((env.submitted contributor orgId issueId).consumed contributor orgId issueId).storage.app.get env.sequence key =
      env.storage.app.get env.sequence key := by
  refine (TtlStore.get_remove ..).trans ?_
  by_cases same : key = (contributor, orgId, issueId)
  · rw [if_pos same, same]
    cases read : env.storage.app.get env.sequence (contributor, orgId, issueId) with
    | none => rfl
    | some value =>
      obtain ⟨entry, served, rfl⟩ := TtlStore.get_eq_some.mp read
      have present := sentinels _ entry (TtlStore.live_eq_some.mp served).1
      rw [Env.hasAppEntry, read, Option.getD_some, present] at missing
      cases missing
  · rw [if_neg same]
    exact (TtlStore.get_renew ..).trans (if_neg same)

theorem asgn_occupied_released (sentinels : AssignmentsTrue env)
    (missing : env.hasAssignment orgId issueId contributor = false) :
    ((env.occupied contributor orgId issueId).released contributor orgId issueId).storage.asgn = env.storage.asgn := by
  have absent : env.storage.asgn (orgId, issueId, contributor) = none := by
    cases read : env.storage.asgn (orgId, issueId, contributor) with
    | none => rfl
    | some value =>
      rw [Env.hasAssignment, read, sentinels _ value read] at missing
      cases missing
  exact (write_write _ _ _ _).trans (write_eq_self absent)

omit [DecidableEq Address] in
theorem oAsgn_eq (inv : AssignmentInv env) (contributor : Address) (orgId : Symbol) :
    env.storage.oAsgn (contributor, orgId) = if env.getOrgAssignmentCount contributor orgId = 0 then none
      else some (env.getOrgAssignmentCount contributor orgId) := by
  have kept := (inv.tallied contributor orgId).kept
  rw [count_assignmentTally, assignmentTally, Option.isSome_map] at kept
  cases read : env.storage.oAsgn (contributor, orgId) with
  | none => rw [Env.getOrgAssignmentCount, read, Option.getD_none, if_pos rfl]
  | some count =>
    rw [read] at kept
    have positive := Checked.pos_iff.mpr (kept.mp rfl)
    rw [if_neg positive, Env.getOrgAssignmentCount, read, Option.getD_some]

theorem oAsgn_occupied_released (stored : env.storage.oAsgn (contributor, orgId) =
      if env.getOrgAssignmentCount contributor orgId = 0 then none
      else some (env.getOrgAssignmentCount contributor orgId))
    (room : env.getOrgAssignmentCount contributor orgId < env.getOrgCap orgId) :
    ((env.occupied contributor orgId issueId).released contributor orgId issueId).storage.oAsgn =
      env.storage.oAsgn := by
  have raised : (env.occupied contributor orgId issueId).getOrgAssignmentCount contributor orgId =
      env.getOrgAssignmentCount contributor orgId + 1 := congrArg (Option.getD · 0) (write_self _ _ _)
  simp only [Env.released, raised, Checked.saturatingSub_add_one room]
  exact (write_write _ _ _ _).trans (write_eq_self stored)

theorem sameValues_withdrawn (inv : ApplicationInv env)
    (allowed : env.Allowed (.applyForIssue contributor orgId issueId)) :
    SameValues env ((env.submitted contributor orgId issueId).consumed contributor orgId issueId) where
  gApps := gApps_submitted_consumed inv allowed.2.2.1
  app := app_submitted_consumed inv.sentinels allowed.2.2.2
  gCap := rfl
  admin := rfl
  maint := rfl
  oAsgn := rfl
  asgn := rfl
  oCap := rfl
  wasm := rfl

/-- Applications and assignments are stored apart, so that both round trips can be made at once. -/
theorem sameValues_closed (same : SameValues env ((env.submitted contributor orgId issueId).consumed contributor orgId
      issueId)) (inv : AssignmentInv env) (sentinels : AssignmentsTrue env)
    (room : env.getOrgAssignmentCount contributor orgId < env.getOrgCap orgId)
    (missing : env.hasAssignment orgId issueId contributor = false) :
    SameValues env ((((env.submitted contributor orgId issueId).consumed contributor orgId issueId).occupied
      contributor orgId issueId).released contributor orgId issueId) where
  gApps := same.gApps
  app := same.app
  gCap := rfl
  admin := rfl
  maint := rfl
  oAsgn := oAsgn_occupied_released (oAsgn_eq inv contributor orgId) room
  asgn := asgn_occupied_released sentinels missing
  oCap := rfl
  wasm := rfl

end RoundTrip

section Bare

/-- A state without what no check but that of an authorisation and no entry depends on. -/
def Env.bare (env : Env Address) : Env Address :=
  { env with storage := { env.storage with instanceLiveUntil := 0 }, auths := [], events := [] }

variable {env : Env Address}

theorem bare_change (env : Env Address) (call : Call Address) : (env.change call).bare = (env.bare.change call).bare := by
  cases call <;> rfl

theorem bare_effect (env : Env Address) (call : Call Address) : (env.effect call).bare = (env.change call).bare := rfl

/-- A call that follows, as far as the entries are concerned. -/
theorem bare_next {env other : Env Address} (same : env.bare = other.bare) (auths : List Address) (call : Call Address) :
    ((env.authorisedBy auths).effect call).bare = (other.change call).bare := by
  have bare : (env.authorisedBy auths).bare = other.bare := same
  rw [bare_effect, bare_change, bare, ← bare_change]

omit [DecidableEq Address] in
theorem allowed_bare (env : Env Address) (auths : List Address) (call : Call Address) :
    (env.authorisedBy auths).Allowed call ↔ (env.bare.authorisedBy auths).Allowed call := by
  cases call <;> exact Iff.rfl

omit [DecidableEq Address] in
/-- The checks read nothing but the entries and the authorisations. -/
theorem allowed_congr {env other : Env Address} (same : env.bare = other.bare) {auths : List Address} {call : Call Address}
    (allowed : (other.authorisedBy auths).Allowed call) : (env.authorisedBy auths).Allowed call := by
  rw [allowed_bare, same, ← allowed_bare]
  exact allowed

omit [DecidableEq Address] in
theorem SameValues.of_bare {after other : Env Address} (same : SameValues env other) (entries : after.bare = other.bare) :
    SameValues env after := by
  have bare : SameValues env other.bare := ⟨same.gApps, same.app, same.gCap, same.admin, same.maint, same.oAsgn,
    same.asgn, same.oCap, same.wasm⟩
  rw [← entries] at bare
  exact ⟨bare.gApps, bare.app, bare.gCap, bare.admin, bare.maint, bare.oAsgn, bare.asgn, bare.oCap, bare.wasm⟩

end Bare

section Restore
variable {env : Env Address} {contributor : Address} {orgId : Symbol} {issueId : UInt32}

/-- A withdrawal right after the application it takes back. -/
theorem withdraw_restores (inv : ApplicationInv env) (applies : env.Allowed (.applyForIssue contributor orgId issueId))
    {signers : List Address} (signed : contributor ∈ signers) :
    ∃ after, invoke (env.effect (.applyForIssue contributor orgId issueId)) signers
      (.withdrawApplication contributor orgId issueId) = .ok after ∧ SameValues env after := by
  have withdraws : ((env.submitted contributor orgId issueId).authorisedBy signers).Allowed
      (.withdrawApplication contributor orgId issueId) := ⟨applies.1, signed, hasAppEntry_submitted env⟩
  refine ⟨_, invoke_eq_ok.mpr ⟨allowed_congr (bare_effect env _) withdraws, rfl⟩, ?_⟩
  exact (sameValues_withdrawn inv applies).of_bare (bare_next (bare_effect env _) signers _)

/-- The end of an assignment right after the application and the assignment. -/
theorem close_restores (inv : ApplicationInv env) (assignments : AssignmentInv env) (sentinels : AssignmentsTrue env)
    (applies : env.Allowed (.applyForIssue contributor orgId issueId)) {signers : List Address} {maintainer : Address}
    (assigns : ((env.effect (.applyForIssue contributor orgId issueId)).authorisedBy signers).Allowed
      (.assignIssue maintainer contributor orgId issueId))
    {closers : List Address} {closer : Address} (signed : closer ∈ closers)
    (registered : env.isMaintainer closer orgId = true) {call : Call Address}
    (closes : call = .completeAssignment closer contributor orgId issueId ∨
      call = .revokeAssignment closer contributor orgId issueId) :
    ∃ after, invoke (((env.effect (.applyForIssue contributor orgId issueId)).authorisedBy signers).effect
        (.assignIssue maintainer contributor orgId issueId)) closers call = .ok after ∧ SameValues env after := by
  have assigns : ((env.submitted contributor orgId issueId).authorisedBy signers).Allowed
      (.assignIssue maintainer contributor orgId issueId) := allowed_congr (bare_effect env _).symm assigns
  have room : env.getOrgAssignmentCount contributor orgId < env.getOrgCap orgId := assigns.2.2.1
  have raised : (env.occupied contributor orgId issueId).getOrgAssignmentCount contributor orgId =
      env.getOrgAssignmentCount contributor orgId + 1 := congrArg (Option.getD · 0) (write_self _ _ _)
  have positive : (env.occupied contributor orgId issueId).getOrgAssignmentCount contributor orgId ≠ 0 := by
    rw [raised, Checked.pos_iff, Checked.toNat_add_one room]
    omega
  have occupied : (env.occupied contributor orgId issueId).hasAssignment orgId issueId contributor = true :=
    congrArg (Option.getD · false) (write_self _ _ _)
  have restored := sameValues_closed (sameValues_withdrawn inv applies) assignments sentinels room assigns.2.2.2
  have there := bare_next (bare_effect env (.applyForIssue contributor orgId issueId)) signers
    (.assignIssue maintainer contributor orgId issueId)
  rcases closes with rfl | rfl
  · have completes : (((env.submitted contributor orgId issueId).change
        (.assignIssue maintainer contributor orgId issueId)).authorisedBy closers).Allowed
          (.completeAssignment closer contributor orgId issueId) :=
      ⟨⟨applies.1, signed, registered⟩, occupied, fun _ => positive⟩
    refine ⟨_, invoke_eq_ok.mpr ⟨allowed_congr there completes, rfl⟩, ?_⟩
    exact restored.of_bare (bare_next there closers _)
  · have revokes : (((env.submitted contributor orgId issueId).change
        (.assignIssue maintainer contributor orgId issueId)).authorisedBy closers).Allowed
          (.revokeAssignment closer contributor orgId issueId) :=
      ⟨⟨applies.1, signed, registered⟩, occupied, positive⟩
    refine ⟨_, invoke_eq_ok.mpr ⟨allowed_congr there revokes, rfl⟩, ?_⟩
    exact restored.of_bare (bare_next there closers _)

end Restore

/-- Completing and revoking are one operation but for the event, in every build; withdrawing
undoes an application, and either of them an application and its assignment, down to the
entries that were absent. -/
theorem inverse_laws (deployment : Deployment Address) (steps : List (Step Address)) (contributor : Address)
    (orgId : Symbol) (issueId : UInt32) :
    let env := exec deployment steps
    (∀ auths maintainer,
      (∃ failure, invoke env auths (.completeAssignment maintainer contributor orgId issueId) = .error failure ∧
        invoke env auths (.revokeAssignment maintainer contributor orgId issueId) = .error failure) ∨
      ∃ completed revoked,
        invoke env auths (.completeAssignment maintainer contributor orgId issueId) = .ok completed ∧
        invoke env auths (.revokeAssignment maintainer contributor orgId issueId) = .ok revoked ∧
        completed.storage = revoked.storage) ∧
    ∀ auths submitted, invoke env auths (.applyForIssue contributor orgId issueId) = .ok submitted →
      (∀ signers, contributor ∈ signers → ∃ after,
        invoke submitted signers (.withdrawApplication contributor orgId issueId) = .ok after ∧ SameValues env after) ∧
      ∀ signers maintainer assigned,
        invoke submitted signers (.assignIssue maintainer contributor orgId issueId) = .ok assigned →
        ∀ closers closer call, closer ∈ closers → assigned.isMaintainer closer orgId = true →
          call = .completeAssignment closer contributor orgId issueId ∨
            call = .revokeAssignment closer contributor orgId issueId →
          ∃ after, invoke assigned closers call = .ok after ∧ SameValues env after := by
  dsimp only
  have applications := exec_applicationInv deployment steps
  have assignments := exec_assignmentInv deployment steps
  have sentinels := exec_assignmentsTrue deployment steps
  refine ⟨fun auths maintainer => complete_revoke_agree assignments auths, ?_⟩
  intro auths submitted submits
  obtain ⟨applies, rfl⟩ := invoke_eq_ok.mp submits
  have applicationsSigned := applicationInv_authorisedBy applications auths
  have assignmentsSigned := assignmentInv_authorisedBy assignments auths
  have unsigned : ∀ after, SameValues ((exec deployment steps).authorisedBy auths) after →
      SameValues (exec deployment steps) after := fun _ same => ⟨same.gApps, same.app, same.gCap, same.admin,
    same.maint, same.oAsgn, same.asgn, same.oCap, same.wasm⟩
  constructor
  · intro signers signed
    obtain ⟨after, success, same⟩ := withdraw_restores applicationsSigned applies signed
    exact ⟨after, success, unsigned after same⟩
  · intro signers maintainer assigned assigns closers closer call signed registered closes
    obtain ⟨allowed, rfl⟩ := invoke_eq_ok.mp assigns
    obtain ⟨after, success, same⟩ :=
      close_restores applicationsSigned assignmentsSigned sentinels applies allowed signed registered closes
    exact ⟨after, success, unsigned after same⟩

end WorkloadGovernor
