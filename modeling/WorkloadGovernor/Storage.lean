import WorkloadGovernor.Errors
import WorkloadGovernor.ScVal
import WorkloadGovernor.Lib.TtlStore

namespace WorkloadGovernor

/-- Ledgers for about a day at five seconds a ledger. -/
def appTtlLedgers : Nat := 17280

def globalAppLimit : UInt32 := 15

def orgAssignmentLimit : UInt32 := 4

/-- `ORG_CAP_MIN` and `ORG_CAP_MAX` are not in the sources; the documented range
of `set_org_cap` is `[1, 20]`. -/
def orgCapMin : UInt32 := 1

def orgCapMax : UInt32 := 20

def instanceTtlLedgers : Nat := 518400

/-- A 32-byte wasm hash. -/
abbrev WasmHash : Type := Vector UInt8 32

/-- What the sources leave to the build and to the network: whether debug assertions
are compiled in, how many ledgers the network grants a fresh temporary entry (never
more than the contract asks for), and what the missing `emit_org_cap_updated` publishes. -/
structure Deployment (Address : Type) where
  debugAssertions : Bool
  freshTtl : Nat
  freshTtl_le : freshTtl ≤ appTtlLedgers
  orgCapUpdated : Symbol → UInt32 → UInt32 → List (Event Address)

/-- The contract's entries, one map for each key prefix of `storage.rs`. The two
temporary tiers lapse; the persistent ones do not. -/
structure Storage (Address : Type) where
  gApps : TtlStore Address UInt32
  app : TtlStore (Address × Symbol × UInt32) Bool
  gCap : Option UInt32
  admin : Option Address
  maint : Address × Symbol → Option Bool
  oAsgn : Address × Symbol → Option UInt32
  asgn : Symbol × UInt32 × Address → Option Bool
  oCap : Symbol → Option UInt32
  instanceLiveUntil : Nat
  wasm : Option WasmHash

def Storage.empty {Address : Type} : Storage Address where
  gApps := .empty
  app := .empty
  gCap := none
  admin := none
  maint := fun _ => none
  oAsgn := fun _ => none
  asgn := fun _ => none
  oCap := fun _ => none
  instanceLiveUntil := 0
  wasm := none

/-- What a contract call sees and leaves behind: the storage, the ledger it runs in,
the addresses that authorised the current invocation and all events published so far. -/
structure Env (Address : Type) where
  deployment : Deployment Address
  storage : Storage Address
  sequence : Nat
  auths : List Address
  events : List (Event Address)

variable {Address : Type} [DecidableEq Address]

/-- A map with the entry under `k` replaced or removed. -/
def write {K V : Type} [DecidableEq K] (store : K → Option V) (k : K) (v : Option V) : K → Option V :=
  fun j => if j = k then v else store j

@[simp] theorem write_self {K V : Type} [DecidableEq K] (store : K → Option V) (k : K) (v : Option V) :
    write store k v k = v := by
  simp only [write, if_true]

theorem write_of_ne {K V : Type} [DecidableEq K] {store : K → Option V} {k j : K} {v : Option V}
    (other : j ≠ k) : write store k v j = store j := by
  simp only [write, other, if_false]

theorem write_congr {K V : Type} [DecidableEq K] {store other : K → Option V} {k j : K} {v w : Option V}
    (same : store k = other k) (agree : k = j → v = w) : write store j v k = write other j w k := by
  by_cases atKey : k = j
  · rw [← atKey, write_self, write_self]
    exact agree atKey
  · rw [write_of_ne atKey, write_of_ne atKey]
    exact same

theorem write_write {K V : Type} [DecidableEq K] (store : K → Option V) (k : K) (v w : Option V) :
    write (write store k v) k w = write store k w := by
  funext j
  by_cases atKey : j = k
  · rw [atKey, write_self, write_self]
  · rw [write_of_ne atKey, write_of_ne atKey, write_of_ne atKey]

theorem write_eq_self {K V : Type} [DecidableEq K] {store : K → Option V} {k : K} {v : Option V}
    (same : store k = v) : write store k v = store := by
  funext j
  by_cases atKey : j = k
  · rw [atKey, write_self, same]
  · exact write_of_ne atKey

/-- `Option::unwrap`. -/
def unwrap {α : Type} (value : Option α) : Except Failure α :=
  match value with
  | some a => .ok a
  | none => .error .unwrapNone

namespace Env

def requireAuth (env : Env Address) (account : Address) : Except Failure Unit :=
  if account ∈ env.auths then .ok () else .error .authRefused

/-- The instance entry is extended on every state-changing call. -/
def bumpInstance (env : Env Address) : Env Address :=
  { env with storage := { env.storage with
      instanceLiveUntil := TtlStore.extended env.sequence (instanceTtlLedgers / 2) instanceTtlLedgers
        env.storage.instanceLiveUntil } }

section GlobalCap

def getGlobalCap (env : Env Address) : UInt32 := env.storage.gCap.getD globalAppLimit

def setGlobalCap (env : Env Address) (cap : UInt32) : Env Address :=
  { env with storage := { env.storage with gCap := some cap } }

end GlobalCap

section Admin

def getAdmin (env : Env Address) : Option Address := env.storage.admin

def setAdmin (env : Env Address) (admin : Address) : Env Address :=
  { env with storage := { env.storage with admin := some admin } }

def requireInitialized (env : Env Address) (error : ContractError) : Except Failure Unit :=
  panicIf (env.getAdmin.isNone = true) error

end Admin

section GlobalAppCount

def getGlobalAppCount (env : Env Address) (contributor : Address) : UInt32 :=
  (env.storage.gApps.get env.sequence contributor).getD 0

def setGlobalAppCount (env : Env Address) (contributor : Address) (count : UInt32) : Env Address :=
  { env with storage := { env.storage with
      gApps := env.storage.gApps.set env.sequence env.deployment.freshTtl contributor count } }

def removeGlobalAppCount (env : Env Address) (contributor : Address) : Env Address :=
  { env with storage := { env.storage with gApps := env.storage.gApps.remove contributor } }

def extendGlobalAppCountTtl (env : Env Address) (contributor : Address) : Except Failure (Env Address) :=
  match env.storage.gApps.extendTtl env.sequence appTtlLedgers appTtlLedgers contributor with
  | some gApps => .ok { env with storage := { env.storage with gApps := gApps } }
  | none => .error .missingEntry

end GlobalAppCount

section AppEntry

def hasAppEntry (env : Env Address) (contributor : Address) (orgId : Symbol) (issueId : UInt32) : Bool :=
  (env.storage.app.get env.sequence (contributor, orgId, issueId)).getD false

def setAppEntry (env : Env Address) (contributor : Address) (orgId : Symbol) (issueId : UInt32) :
    Env Address :=
  { env with storage := { env.storage with
      app := env.storage.app.set env.sequence env.deployment.freshTtl (contributor, orgId, issueId) true } }

def removeAppEntry (env : Env Address) (contributor : Address) (orgId : Symbol) (issueId : UInt32) :
    Env Address :=
  { env with storage := { env.storage with app := env.storage.app.remove (contributor, orgId, issueId) } }

def extendAppEntryTtl (env : Env Address) (contributor : Address) (orgId : Symbol) (issueId : UInt32) :
    Except Failure (Env Address) :=
  match env.storage.app.extendTtl env.sequence appTtlLedgers appTtlLedgers
      (contributor, orgId, issueId) with
  | some app => .ok { env with storage := { env.storage with app := app } }
  | none => .error .missingEntry

end AppEntry

section Maintainer

def isMaintainer (env : Env Address) (maintainer : Address) (orgId : Symbol) : Bool :=
  (env.storage.maint (maintainer, orgId)).getD false

def setMaintainer (env : Env Address) (maintainer : Address) (orgId : Symbol) : Env Address :=
  { env with storage := { env.storage with
      maint := write env.storage.maint (maintainer, orgId) (some true) } }

def removeMaintainer (env : Env Address) (maintainer : Address) (orgId : Symbol) : Env Address :=
  { env with storage := { env.storage with maint := write env.storage.maint (maintainer, orgId) none } }

end Maintainer

section OrgAssignmentCount

def getOrgAssignmentCount (env : Env Address) (contributor : Address) (orgId : Symbol) : UInt32 :=
  (env.storage.oAsgn (contributor, orgId)).getD 0

def setOrgAssignmentCount (env : Env Address) (contributor : Address) (orgId : Symbol) (count : UInt32) :
    Env Address :=
  { env with storage := { env.storage with
      oAsgn := write env.storage.oAsgn (contributor, orgId) (some count) } }

def removeOrgAssignmentCount (env : Env Address) (contributor : Address) (orgId : Symbol) : Env Address :=
  { env with storage := { env.storage with oAsgn := write env.storage.oAsgn (contributor, orgId) none } }

end OrgAssignmentCount

section AssignmentEntry

def hasAssignment (env : Env Address) (orgId : Symbol) (issueId : UInt32) (contributor : Address) : Bool :=
  (env.storage.asgn (orgId, issueId, contributor)).getD false

def setAssignment (env : Env Address) (orgId : Symbol) (issueId : UInt32) (contributor : Address) :
    Env Address :=
  { env with storage := { env.storage with
      asgn := write env.storage.asgn (orgId, issueId, contributor) (some true) } }

def removeAssignment (env : Env Address) (orgId : Symbol) (issueId : UInt32) (contributor : Address) :
    Env Address :=
  { env with storage := { env.storage with
      asgn := write env.storage.asgn (orgId, issueId, contributor) none } }

end AssignmentEntry

section OrgCap

def getOrgCap (env : Env Address) (orgId : Symbol) : UInt32 :=
  (env.storage.oCap orgId).getD orgAssignmentLimit

def setOrgCap (env : Env Address) (orgId : Symbol) (cap : UInt32) : Env Address :=
  { env with storage := { env.storage with oCap := write env.storage.oCap orgId (some cap) } }

end OrgCap

end Env

end WorkloadGovernor
