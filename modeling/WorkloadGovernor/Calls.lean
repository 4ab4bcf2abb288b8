import WorkloadGovernor.Contract

namespace WorkloadGovernor

/-- The state-changing entry points with their arguments. The read-only ones take no
part in a run, and the test-only `seed_assignment` is not compiled in. -/
inductive Call (Address : Type) where
  | initializeContract (admin : Address)
  | registerMaintainer (admin maintainer : Address) (orgId : Symbol)
  | deregisterMaintainer (admin maintainer : Address) (orgId : Symbol)
  | upgrade (newWasmHash : WasmHash)
  | setGlobalCap (admin : Address) (newCap : UInt32)
  | emergencySetGlobalCap (admin : Address) (newCap : UInt32)
  | applyForIssue (contributor : Address) (orgId : Symbol) (issueId : UInt32)
  | withdrawApplication (contributor : Address) (orgId : Symbol) (issueId : UInt32)
  | assignIssue (maintainer contributor : Address) (orgId : Symbol) (issueId : UInt32)
  | completeAssignment (maintainer contributor : Address) (orgId : Symbol) (issueId : UInt32)
  | revokeAssignment (maintainer contributor : Address) (orgId : Symbol) (issueId : UInt32)
  | setOrgCap (maintainer : Address) (orgId : Symbol) (newCap : UInt32)
  | extendApplicationTtl (contributor : Address) (orgId : Symbol) (issueId : UInt32)
  deriving DecidableEq

variable {Address : Type} [DecidableEq Address]

def Call.run (env : Env Address) : Call Address → Except Failure (Env Address)
  | .initializeContract admin => WorkloadGovernor.initializeContract env admin
  | .registerMaintainer admin maintainer orgId => WorkloadGovernor.registerMaintainer env admin maintainer orgId
  | .deregisterMaintainer admin maintainer orgId =>
    WorkloadGovernor.deregisterMaintainer env admin maintainer orgId
  | .upgrade newWasmHash => WorkloadGovernor.upgrade env newWasmHash
  | .setGlobalCap admin newCap => WorkloadGovernor.setGlobalCap env admin newCap
  | .emergencySetGlobalCap admin newCap => WorkloadGovernor.emergencySetGlobalCap env admin newCap
  | .applyForIssue contributor orgId issueId => WorkloadGovernor.applyForIssue env contributor orgId issueId
  | .withdrawApplication contributor orgId issueId =>
    WorkloadGovernor.withdrawApplication env contributor orgId issueId
  | .assignIssue maintainer contributor orgId issueId =>
    WorkloadGovernor.assignIssue env maintainer contributor orgId issueId
  | .completeAssignment maintainer contributor orgId issueId =>
    WorkloadGovernor.completeAssignment env maintainer contributor orgId issueId
  | .revokeAssignment maintainer contributor orgId issueId =>
    WorkloadGovernor.revokeAssignment env maintainer contributor orgId issueId
  | .setOrgCap maintainer orgId newCap => WorkloadGovernor.setOrgCap env maintainer orgId newCap
  | .extendApplicationTtl contributor orgId issueId =>
    WorkloadGovernor.extendApplicationTtl env contributor orgId issueId

namespace Env
variable (env : Env Address)

/-- A new application: sentinel and counter are written and live `appTtlLedgers` more. -/
def submitted (contributor : Address) (orgId : Symbol) (issueId : UInt32) : Env Address :=
  { env with storage := { env.storage with
      gApps := env.storage.gApps.renew env.sequence env.deployment.freshTtl appTtlLedgers contributor
        (env.getGlobalAppCount contributor + 1)
      app := env.storage.app.renew env.sequence env.deployment.freshTtl appTtlLedgers
        (contributor, orgId, issueId) true } }

/-- An application taken back or turned into an assignment. -/
def consumed (contributor : Address) (orgId : Symbol) (issueId : UInt32) : Env Address :=
  { env with storage := { env.storage with
      app := env.storage.app.remove (contributor, orgId, issueId)
      gApps := if Checked.saturatingSub (env.getGlobalAppCount contributor) 1 = 0 then
          env.storage.gApps.remove contributor
        else env.storage.gApps.set env.sequence env.deployment.freshTtl contributor
          (Checked.saturatingSub (env.getGlobalAppCount contributor) 1) } }

/-- A new assignment. -/
def occupied (contributor : Address) (orgId : Symbol) (issueId : UInt32) : Env Address :=
  { env with storage := { env.storage with
      oAsgn := write env.storage.oAsgn (contributor, orgId)
        (some (env.getOrgAssignmentCount contributor orgId + 1))
      asgn := write env.storage.asgn (orgId, issueId, contributor) (some true) } }

/-- An assignment completed or revoked. -/
def released (contributor : Address) (orgId : Symbol) (issueId : UInt32) : Env Address :=
  { env with storage := { env.storage with
      asgn := write env.storage.asgn (orgId, issueId, contributor) none
      oAsgn := write env.storage.oAsgn (contributor, orgId)
        (if Checked.saturatingSub (env.getOrgAssignmentCount contributor orgId) 1 = 0 then none
        else some (Checked.saturatingSub (env.getOrgAssignmentCount contributor orgId) 1)) } }

/-- An application extended, and its counter unless that reads 0. -/
def prolonged (contributor : Address) (orgId : Symbol) (issueId : UInt32) : Env Address :=
  { env with storage := { env.storage with
      app := env.storage.app.prolong env.sequence appTtlLedgers (contributor, orgId, issueId)
      gApps := if env.getGlobalAppCount contributor > 0 then
          env.storage.gApps.prolong env.sequence appTtlLedgers contributor
        else env.storage.gApps } }

/-- The checks every admin entry point starts with. -/
def adminGuards : Except Failure Unit := do
  env.requireInitialized .notInitialized
  let storedAdmin ← unwrap env.getAdmin
  env.requireAuth storedAdmin

/-- The checks every maintainer entry point starts with. -/
def maintainerGuards (maintainer : Address) (orgId : Symbol) : Except Failure Unit := do
  env.requireInitialized .notInitialized
  env.requireAuth maintainer
  panicIf (¬ env.isMaintainer maintainer orgId = true) .unauthorizedMaintainer

/-- The checks of a call, in the order the contract makes them. -/
def guards : Call Address → Except Failure Unit
  | .initializeContract admin => do
    panicIf (env.getAdmin.isSome = true) .alreadyInitialized
    env.requireAuth admin
  | .registerMaintainer _ _ _ => env.adminGuards
  | .deregisterMaintainer _ maintainer orgId => do
    env.adminGuards
    panicIf (¬ env.isMaintainer maintainer orgId = true) .maintainerNotFound
  | .upgrade _ => env.adminGuards
  | .setGlobalCap _ newCap => do
    env.adminGuards
    panicIf (newCap > 100) .capOutOfRange
  | .emergencySetGlobalCap _ newCap => do
    env.adminGuards
    panicIf (newCap > 100) .capOutOfRange
  | .applyForIssue contributor orgId issueId => do
    env.requireInitialized .notInitialized
    env.requireAuth contributor
    panicIf (env.getGlobalAppCount contributor ≥ env.getGlobalCap) .globalApplicationLimitReached
    panicIf (env.hasAppEntry contributor orgId issueId = true) .duplicateApplication
  | .withdrawApplication contributor orgId issueId => do
    env.requireInitialized .notInitialized
    env.requireAuth contributor
    panicIf (¬ env.hasAppEntry contributor orgId issueId = true) .applicationNotFound
  | .assignIssue maintainer contributor orgId issueId => do
    env.maintainerGuards maintainer orgId
    panicIf (¬ env.hasAppEntry contributor orgId issueId = true) .applicationNotFound
    panicIf (env.getOrgAssignmentCount contributor orgId ≥ env.getOrgCap orgId) .orgAssignmentLimitReached
    panicIf (env.hasAssignment orgId issueId contributor = true) .alreadyAssigned
  | .completeAssignment maintainer contributor orgId issueId => do
    env.maintainerGuards maintainer orgId
    panicIf (¬ env.hasAssignment orgId issueId contributor = true) .assignmentNotFound
    panicIf (env.deployment.debugAssertions = true ∧
      env.getOrgAssignmentCount contributor orgId = 0) .counterInconsistency
  | .revokeAssignment maintainer contributor orgId issueId => do
    env.maintainerGuards maintainer orgId
    panicIf (¬ env.hasAssignment orgId issueId contributor = true) .assignmentNotFound
    panicIf (env.getOrgAssignmentCount contributor orgId = 0) .counterInconsistency
  | .setOrgCap maintainer orgId newCap => do
    env.maintainerGuards maintainer orgId
    panicIf (newCap < orgCapMin ∨ newCap > orgCapMax) .invalidOrgCap
  | .extendApplicationTtl contributor orgId issueId =>
    panicIf (¬ env.hasAppEntry contributor orgId issueId = true) .applicationNotFound

/-- What a call does to the entries once its checks have passed. -/
def change : Call Address → Env Address
  | .initializeContract admin => (env.setAdmin admin).setGlobalCap globalAppLimit
  | .registerMaintainer _ maintainer orgId => env.setMaintainer maintainer orgId
  | .deregisterMaintainer _ maintainer orgId => env.removeMaintainer maintainer orgId
  | .upgrade newWasmHash => { env with storage := { env.storage with wasm := some newWasmHash } }
  | .setGlobalCap _ newCap => env.setGlobalCap newCap
  | .emergencySetGlobalCap _ newCap => env.setGlobalCap newCap
  | .applyForIssue contributor orgId issueId => env.submitted contributor orgId issueId
  | .withdrawApplication contributor orgId issueId => env.consumed contributor orgId issueId
  | .assignIssue _ contributor orgId issueId =>
    (env.consumed contributor orgId issueId).occupied contributor orgId issueId
  | .completeAssignment _ contributor orgId issueId => env.released contributor orgId issueId
  | .revokeAssignment _ contributor orgId issueId => env.released contributor orgId issueId
  | .setOrgCap _ orgId newCap => env.setOrgCap orgId newCap
  | .extendApplicationTtl contributor orgId issueId => env.prolonged contributor orgId issueId

/-- The instance entry after a call. -/
def instanceAfter : Call Address → Nat
  | .upgrade _ => env.storage.instanceLiveUntil
  | .extendApplicationTtl _ _ _ => env.storage.instanceLiveUntil
  | _ => env.bumpInstance.storage.instanceLiveUntil

/-- All events published once a call has succeeded. -/
def eventsAfter : Call Address → List (Event Address)
  | .initializeContract admin => (env.emitInitialized admin).events
  | .registerMaintainer admin maintainer orgId => (env.emitMaintainerRegistered admin maintainer orgId).events
  | .deregisterMaintainer admin maintainer orgId =>
    (env.emitMaintainerDeregistered admin maintainer orgId).events
  | .upgrade _ => env.events
  | .setGlobalCap admin newCap => (env.emitGlobalCapUpdated admin newCap).events
  | .emergencySetGlobalCap admin newCap =>
    (env.emitEmergencyCapUpdated admin env.getGlobalCap newCap).events
  | .applyForIssue contributor orgId issueId =>
    (env.emitApplicationSubmitted contributor orgId issueId).events
  | .withdrawApplication contributor orgId issueId =>
    (env.emitApplicationWithdrawn contributor orgId issueId).events
  | .assignIssue maintainer contributor orgId issueId =>
    (env.emitIssueAssigned maintainer contributor orgId issueId).events
  | .completeAssignment maintainer contributor orgId issueId =>
    (env.emitAssignmentCompleted maintainer contributor orgId issueId).events
  | .revokeAssignment maintainer contributor orgId issueId =>
    (env.emitAssignmentRevoked maintainer contributor orgId issueId).events
  | .setOrgCap _ orgId newCap => (env.emitOrgCapUpdated orgId (env.getOrgCap orgId) newCap).events
  | .extendApplicationTtl _ _ _ => env.events

/-- What a call leaves behind once its checks have passed. -/
def effect (call : Call Address) : Env Address :=
  { env.change call with
    storage := { (env.change call).storage with instanceLiveUntil := env.instanceAfter call }
    events := env.eventsAfter call }

variable {env}

theorem consumed_eq (contributor : Address) (orgId : Symbol) (issueId : UInt32) :
    (if Checked.saturatingSub ((env.removeAppEntry contributor orgId issueId).getGlobalAppCount contributor) 1 = 0
      then (env.removeAppEntry contributor orgId issueId).removeGlobalAppCount contributor
      else (env.removeAppEntry contributor orgId issueId).setGlobalAppCount contributor
        (Checked.saturatingSub ((env.removeAppEntry contributor orgId issueId).getGlobalAppCount contributor) 1)) =
      env.consumed contributor orgId issueId := by
  have same : (env.removeAppEntry contributor orgId issueId).getGlobalAppCount contributor =
      env.getGlobalAppCount contributor := rfl
  rw [same]
  unfold consumed
  by_cases last : Checked.saturatingSub (env.getGlobalAppCount contributor) 1 = 0
  · simp only [last, if_true]
    rfl
  · simp only [last, if_false]
    rfl

theorem released_eq (contributor : Address) (orgId : Symbol) (issueId : UInt32) :
    (if Checked.saturatingSub
          ((env.removeAssignment orgId issueId contributor).getOrgAssignmentCount contributor orgId) 1 = 0
      then (env.removeAssignment orgId issueId contributor).removeOrgAssignmentCount contributor orgId
      else (env.removeAssignment orgId issueId contributor).setOrgAssignmentCount contributor orgId
        (Checked.saturatingSub
          ((env.removeAssignment orgId issueId contributor).getOrgAssignmentCount contributor orgId) 1)) =
      env.released contributor orgId issueId := by
  have same : (env.removeAssignment orgId issueId contributor).getOrgAssignmentCount contributor orgId =
      env.getOrgAssignmentCount contributor orgId := rfl
  rw [same]
  unfold released
  by_cases last : Checked.saturatingSub (env.getOrgAssignmentCount contributor orgId) 1 = 0
  · simp only [last, if_true]
    rfl
  · simp only [last, if_false]
    rfl

omit [DecidableEq Address] in
theorem live_of_globalAppCount_pos {contributor : Address} (positive : env.getGlobalAppCount contributor > 0) :
    (env.storage.gApps.live env.sequence contributor).isSome := by
  unfold getGlobalAppCount at positive
  rw [← Option.isSome_map (f := TtlEntry.value)]
  cases read : env.storage.gApps.get env.sequence contributor with
  | none => simp [read] at positive
  | some value => exact Option.isSome_iff_exists.mpr ⟨value, read⟩

omit [DecidableEq Address] in
theorem live_of_hasAppEntry {contributor : Address} {orgId : Symbol} {issueId : UInt32}
    (applied : env.hasAppEntry contributor orgId issueId = true) :
    ∃ entry, env.storage.app.live env.sequence (contributor, orgId, issueId) = some entry ∧
      entry.value = true := by
  unfold hasAppEntry at applied
  cases read : env.storage.app.get env.sequence (contributor, orgId, issueId) with
  | none => simp [read] at applied
  | some value =>
    obtain ⟨entry, served, rfl⟩ := TtlStore.get_eq_some.mp read
    exact ⟨entry, served, by simpa [read] using applied⟩

end Env

variable (env : Env Address)

theorem applyForIssue_eq (contributor : Address) (orgId : Symbol) (issueId : UInt32) :
    applyForIssue env contributor orgId issueId = (do
      env.guards (.applyForIssue contributor orgId issueId)
      return env.effect (.applyForIssue contributor orgId issueId)) := by
  simp only [applyForIssue, Env.guards, bind_assoc]
  refine Checked.bind_congr_ok fun _ _ => Checked.bind_congr_ok fun _ _ =>
    Checked.bind_congr_ok fun _ room => Checked.bind_congr_ok fun _ _ => ?_
  have below := UInt32.not_le.mp (panicIf_eq_ok.mp room)
  rw [Checked.add_one _ below]
  simp only [bind, Except.bind, Env.extendGlobalAppCountTtl, Env.setGlobalAppCount, Env.setAppEntry,
    TtlStore.extendTtl_set, Env.extendAppEntryTtl]
  rfl

theorem withdrawApplication_eq (contributor : Address) (orgId : Symbol) (issueId : UInt32) :
    withdrawApplication env contributor orgId issueId = (do
      env.guards (.withdrawApplication contributor orgId issueId)
      return env.effect (.withdrawApplication contributor orgId issueId)) := by
  simp only [withdrawApplication, Env.guards, bind_assoc]
  refine Checked.bind_congr_ok fun _ _ => Checked.bind_congr_ok fun _ _ =>
    Checked.bind_congr_ok fun _ _ => ?_
  rw [Env.consumed_eq]
  rfl

theorem assignIssue_eq (maintainer contributor : Address) (orgId : Symbol) (issueId : UInt32) :
    assignIssue env maintainer contributor orgId issueId = (do
      env.guards (.assignIssue maintainer contributor orgId issueId)
      return env.effect (.assignIssue maintainer contributor orgId issueId)) := by
  simp only [assignIssue, Env.guards, Env.maintainerGuards, bind_assoc]
  refine Checked.bind_congr_ok fun _ _ => Checked.bind_congr_ok fun _ _ =>
    Checked.bind_congr_ok fun _ _ => Checked.bind_congr_ok fun _ _ =>
    Checked.bind_congr_ok fun _ room => Checked.bind_congr_ok fun _ _ => ?_
  have below := UInt32.not_le.mp (panicIf_eq_ok.mp room)
  have positive : env.getOrgAssignmentCount contributor orgId + 1 ≠ 0 := by
    rw [Checked.pos_iff, Checked.toNat_add_one below]
    omega
  rw [Env.consumed_eq, Checked.add_one _ below]
  simp only [bind, Except.bind, Env.getOrgAssignmentCount, Env.setOrgAssignmentCount, Env.setAssignment,
    Env.hasAssignment, write_self, Option.getD_some, panicIf]
  rw [if_neg]
  · rfl
  · rintro ⟨_, zero | missing⟩
    · exact positive zero
    · exact missing trivial

theorem completeAssignment_eq (maintainer contributor : Address) (orgId : Symbol) (issueId : UInt32) :
    completeAssignment env maintainer contributor orgId issueId = (do
      env.guards (.completeAssignment maintainer contributor orgId issueId)
      return env.effect (.completeAssignment maintainer contributor orgId issueId)) := by
  simp only [completeAssignment, Env.guards, Env.maintainerGuards, bind_assoc, Env.released_eq]
  rfl

/-- The counter check made after the sentinel is gone reads the same counter as before. -/
theorem revokeAssignment_eq (maintainer contributor : Address) (orgId : Symbol) (issueId : UInt32) :
    revokeAssignment env maintainer contributor orgId issueId = (do
      env.guards (.revokeAssignment maintainer contributor orgId issueId)
      return env.effect (.revokeAssignment maintainer contributor orgId issueId)) := by
  simp only [revokeAssignment, Env.guards, Env.maintainerGuards, bind_assoc]
  refine Checked.bind_congr_ok fun _ _ => Checked.bind_congr_ok fun _ _ =>
    Checked.bind_congr_ok fun _ _ => Checked.bind_congr_ok fun _ _ =>
    Checked.bind_congr_ok fun _ positive => ?_
  rw [Checked.sub_one _ (panicIf_eq_ok.mp positive)]
  simp only [bind, Except.bind, Env.released_eq]
  rfl

theorem extendApplicationTtl_eq (contributor : Address) (orgId : Symbol) (issueId : UInt32) :
    extendApplicationTtl env contributor orgId issueId = (do
      env.guards (.extendApplicationTtl contributor orgId issueId)
      return env.effect (.extendApplicationTtl contributor orgId issueId)) := by
  simp only [extendApplicationTtl, Env.guards]
  refine Checked.bind_congr_ok fun _ applied => ?_
  obtain ⟨entry, served, _⟩ := Env.live_of_hasAppEntry (not_not.mp (panicIf_eq_ok.mp applied))
  have sentinel := TtlStore.extendTtl_of_live appTtlLedgers (Option.isSome_iff_exists.mpr ⟨entry, served⟩)
  have whole : env.effect (.extendApplicationTtl contributor orgId issueId) =
      env.prolonged contributor orgId issueId := rfl
  simp only [Env.extendAppEntryTtl, sentinel, bind, Except.bind]
  by_cases positive : env.getGlobalAppCount contributor > 0
  · have counter := TtlStore.extendTtl_of_live appTtlLedgers (Env.live_of_globalAppCount_pos positive)
    simp only [Env.extendGlobalAppCountTtl, counter, whole, Env.prolonged, positive, if_true]
    exact if_pos positive
  · simp only [whole, Env.prolonged, positive, if_false]
    exact if_neg positive

/-- A call is its checks followed by its effect; whatever fails, fails before the first write. -/
theorem run_eq (call : Call Address) : call.run env = (do env.guards call; return env.effect call) := by
  cases call with
  | initializeContract admin => simp only [Call.run, initializeContract, Env.guards, bind_assoc]; rfl
  | registerMaintainer admin maintainer orgId =>
    simp only [Call.run, registerMaintainer, Env.guards, Env.adminGuards, bind_assoc]; rfl
  | deregisterMaintainer admin maintainer orgId =>
    simp only [Call.run, deregisterMaintainer, Env.guards, Env.adminGuards, bind_assoc]; rfl
  | upgrade newWasmHash => simp only [Call.run, upgrade, Env.guards, Env.adminGuards, bind_assoc]; rfl
  | setGlobalCap admin newCap =>
    simp only [Call.run, setGlobalCap, Env.guards, Env.adminGuards, bind_assoc]; rfl
  | emergencySetGlobalCap admin newCap =>
    simp only [Call.run, emergencySetGlobalCap, Env.guards, Env.adminGuards, bind_assoc]; rfl
  | applyForIssue contributor orgId issueId => exact applyForIssue_eq env contributor orgId issueId
  | withdrawApplication contributor orgId issueId => exact withdrawApplication_eq env contributor orgId issueId
  | assignIssue maintainer contributor orgId issueId =>
    exact assignIssue_eq env maintainer contributor orgId issueId
  | completeAssignment maintainer contributor orgId issueId =>
    exact completeAssignment_eq env maintainer contributor orgId issueId
  | revokeAssignment maintainer contributor orgId issueId =>
    exact revokeAssignment_eq env maintainer contributor orgId issueId
  | setOrgCap maintainer orgId newCap =>
    simp only [Call.run, setOrgCap, Env.guards, Env.maintainerGuards, bind_assoc]; rfl
  | extendApplicationTtl contributor orgId issueId => exact extendApplicationTtl_eq env contributor orgId issueId

end WorkloadGovernor
