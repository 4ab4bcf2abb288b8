import WorkloadGovernor.Events
import WorkloadGovernor.Lib.Checked

namespace WorkloadGovernor
variable {Address : Type} [DecidableEq Address] (env : Env Address)

/-- The entry point `initialize`, which is a reserved word here. -/
def initializeContract (admin : Address) : Except Failure (Env Address) := do
  panicIf (env.getAdmin.isSome = true) .alreadyInitialized
  env.requireAuth admin
  let env := env.setAdmin admin
  let env := env.setGlobalCap globalAppLimit
  let env := env.bumpInstance
  return env.emitInitialized admin

/-- The stored admin must authorise; the `admin` argument is only handed to the event. -/
def registerMaintainer (admin maintainer : Address) (orgId : Symbol) : Except Failure (Env Address) := do
  env.requireInitialized .notInitialized
  let storedAdmin ← unwrap env.getAdmin
  env.requireAuth storedAdmin
  let env := env.setMaintainer maintainer orgId
  let env := env.bumpInstance
  return env.emitMaintainerRegistered admin maintainer orgId

def deregisterMaintainer (admin maintainer : Address) (orgId : Symbol) : Except Failure (Env Address) := do
  env.requireInitialized .notInitialized
  let storedAdmin ← unwrap env.getAdmin
  env.requireAuth storedAdmin
  panicIf (¬ env.isMaintainer maintainer orgId = true) .maintainerNotFound
  let env := env.removeMaintainer maintainer orgId
  let env := env.bumpInstance
  return env.emitMaintainerDeregistered admin maintainer orgId

/-- `update_current_contract_wasm` replaces the code; no entry of the contract changes. -/
def upgrade (newWasmHash : WasmHash) : Except Failure (Env Address) := do
  env.requireInitialized .notInitialized
  let storedAdmin ← unwrap env.getAdmin
  env.requireAuth storedAdmin
  return { env with storage := { env.storage with wasm := some newWasmHash } }

def setGlobalCap (admin : Address) (newCap : UInt32) : Except Failure (Env Address) := do
  env.requireInitialized .notInitialized
  let storedAdmin ← unwrap env.getAdmin
  env.requireAuth storedAdmin
  panicIf (newCap > 100) .capOutOfRange
  let env := env.setGlobalCap newCap
  let env := env.bumpInstance
  return env.emitGlobalCapUpdated admin newCap

def emergencySetGlobalCap (admin : Address) (newCap : UInt32) : Except Failure (Env Address) := do
  env.requireInitialized .notInitialized
  let storedAdmin ← unwrap env.getAdmin
  env.requireAuth storedAdmin
  panicIf (newCap > 100) .capOutOfRange
  let oldCap := env.getGlobalCap
  let env := env.setGlobalCap newCap
  let env := env.bumpInstance
  return env.emitEmergencyCapUpdated admin oldCap newCap

def applyForIssue (contributor : Address) (orgId : Symbol) (issueId : UInt32) :
    Except Failure (Env Address) := do
  env.requireInitialized .notInitialized
  env.requireAuth contributor
  let count := env.getGlobalAppCount contributor
  panicIf (count ≥ env.getGlobalCap) .globalApplicationLimitReached
  panicIf (env.hasAppEntry contributor orgId issueId = true) .duplicateApplication
  let next ← Checked.add .overflow count 1
  let env := env.setGlobalAppCount contributor next
  let env := env.setAppEntry contributor orgId issueId
  let env ← env.extendGlobalAppCountTtl contributor
  let env ← env.extendAppEntryTtl contributor orgId issueId
  let env := env.bumpInstance
  return env.emitApplicationSubmitted contributor orgId issueId

def withdrawApplication (contributor : Address) (orgId : Symbol) (issueId : UInt32) :
    Except Failure (Env Address) := do
  env.requireInitialized .notInitialized
  env.requireAuth contributor
  panicIf (¬ env.hasAppEntry contributor orgId issueId = true) .applicationNotFound
  let env := env.removeAppEntry contributor orgId issueId
  let count := env.getGlobalAppCount contributor
  let newCount := Checked.saturatingSub count 1
  let env := if newCount = 0 then env.removeGlobalAppCount contributor
    else env.setGlobalAppCount contributor newCount
  let env := env.bumpInstance
  return env.emitApplicationWithdrawn contributor orgId issueId

/-- The last check is compiled in only with debug assertions. -/
def assignIssue (maintainer contributor : Address) (orgId : Symbol) (issueId : UInt32) :
    Except Failure (Env Address) := do
  env.requireInitialized .notInitialized
  env.requireAuth maintainer
  panicIf (¬ env.isMaintainer maintainer orgId = true) .unauthorizedMaintainer
  panicIf (¬ env.hasAppEntry contributor orgId issueId = true) .applicationNotFound
  let asgnCount := env.getOrgAssignmentCount contributor orgId
  panicIf (asgnCount ≥ env.getOrgCap orgId) .orgAssignmentLimitReached
  panicIf (env.hasAssignment orgId issueId contributor = true) .alreadyAssigned
  let env := env.removeAppEntry contributor orgId issueId
  let appCount := env.getGlobalAppCount contributor
  let newAppCount := Checked.saturatingSub appCount 1
  let env := if newAppCount = 0 then env.removeGlobalAppCount contributor
    else env.setGlobalAppCount contributor newAppCount
  let next ← Checked.add .overflow asgnCount 1
  let env := env.setOrgAssignmentCount contributor orgId next
  let env := env.setAssignment orgId issueId contributor
  panicIf (env.deployment.debugAssertions = true ∧
    (env.getOrgAssignmentCount contributor orgId = 0 ∨
      ¬ env.hasAssignment orgId issueId contributor = true)) .counterInconsistency
  let env := env.bumpInstance
  return env.emitIssueAssigned maintainer contributor orgId issueId

/-- The counter is checked only with debug assertions, and decremented saturating. -/
def completeAssignment (maintainer contributor : Address) (orgId : Symbol) (issueId : UInt32) :
    Except Failure (Env Address) := do
  env.requireInitialized .notInitialized
  env.requireAuth maintainer
  panicIf (¬ env.isMaintainer maintainer orgId = true) .unauthorizedMaintainer
  panicIf (¬ env.hasAssignment orgId issueId contributor = true) .assignmentNotFound
  panicIf (env.deployment.debugAssertions = true ∧
    env.getOrgAssignmentCount contributor orgId = 0) .counterInconsistency
  let env := env.removeAssignment orgId issueId contributor
  let asgnCount := env.getOrgAssignmentCount contributor orgId
  let newCount := Checked.saturatingSub asgnCount 1
  let env := if newCount = 0 then env.removeOrgAssignmentCount contributor orgId
    else env.setOrgAssignmentCount contributor orgId newCount
  let env := env.bumpInstance
  return env.emitAssignmentCompleted maintainer contributor orgId issueId

/-- The counter is checked in every build, after the sentinel has been removed. -/
def revokeAssignment (maintainer contributor : Address) (orgId : Symbol) (issueId : UInt32) :
    Except Failure (Env Address) := do
  env.requireInitialized .notInitialized
  env.requireAuth maintainer
  panicIf (¬ env.isMaintainer maintainer orgId = true) .unauthorizedMaintainer
  panicIf (¬ env.hasAssignment orgId issueId contributor = true) .assignmentNotFound
  let env := env.removeAssignment orgId issueId contributor
  let asgnCount := env.getOrgAssignmentCount contributor orgId
  panicIf (asgnCount = 0) .counterInconsistency
  let newCount ← Checked.sub .overflow asgnCount 1
  let env := if newCount = 0 then env.removeOrgAssignmentCount contributor orgId
    else env.setOrgAssignmentCount contributor orgId newCount
  let env := env.bumpInstance
  return env.emitAssignmentRevoked maintainer contributor orgId issueId

/-- The pairs whose counter is 0 although one of the issues has an assignment sentinel.
The inner loop breaks at the first such issue. -/
def checkConsistency (pairs : List (Address × Symbol)) (issueIds : List UInt32) :
    List (Address × Symbol) :=
  pairs.filter fun pair =>
    env.getOrgAssignmentCount pair.1 pair.2 == 0 &&
      issueIds.any fun issueId => env.hasAssignment pair.2 issueId pair.1

def setOrgCap (maintainer : Address) (orgId : Symbol) (newCap : UInt32) : Except Failure (Env Address) := do
  env.requireInitialized .notInitialized
  env.requireAuth maintainer
  panicIf (¬ env.isMaintainer maintainer orgId = true) .unauthorizedMaintainer
  panicIf (newCap < orgCapMin ∨ newCap > orgCapMax) .invalidOrgCap
  let oldCap := env.getOrgCap orgId
  let env := env.setOrgCap orgId newCap
  let env := env.bumpInstance
  return env.emitOrgCapUpdated orgId oldCap newCap

def getOrgCap (orgId : Symbol) : UInt32 := env.getOrgCap orgId

/-- Anyone may call it; neither the instance is bumped nor an event published. -/
def extendApplicationTtl (contributor : Address) (orgId : Symbol) (issueId : UInt32) :
    Except Failure (Env Address) := do
  panicIf (¬ env.hasAppEntry contributor orgId issueId = true) .applicationNotFound
  let env ← env.extendAppEntryTtl contributor orgId issueId
  if env.getGlobalAppCount contributor > 0 then
    env.extendGlobalAppCountTtl contributor
  else
    return env

def getGlobalApplicationCount (contributor : Address) : UInt32 := env.getGlobalAppCount contributor

def getOrgAssignmentCount (contributor : Address) (orgId : Symbol) : UInt32 :=
  env.getOrgAssignmentCount contributor orgId

def hasApplied (contributor : Address) (orgId : Symbol) (issueId : UInt32) : Bool :=
  env.hasAppEntry contributor orgId issueId

def isAssigned (contributor : Address) (orgId : Symbol) (issueId : UInt32) : Bool :=
  env.hasAssignment orgId issueId contributor

def getOrgAssignmentCapacity (contributor : Address) (orgId : Symbol) : UInt32 :=
  Checked.saturatingSub (env.getOrgCap orgId) (env.getOrgAssignmentCount contributor orgId)

def getGlobalApplicationCapacity (contributor : Address) : UInt32 :=
  Checked.saturatingSub env.getGlobalCap (env.getGlobalAppCount contributor)

def isOrgAssignmentLimitReached (contributor : Address) (orgId : Symbol) : Bool :=
  env.getOrgAssignmentCount contributor orgId ≥ env.getOrgCap orgId

def isGlobalAppLimitReached (contributor : Address) : Bool :=
  env.getGlobalAppCount contributor ≥ env.getGlobalCap

end WorkloadGovernor
