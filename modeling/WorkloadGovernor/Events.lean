import WorkloadGovernor.Storage

namespace WorkloadGovernor.Env
variable {Address : Type}

/-- `env.events().publish(topics, data)`. -/
def publish (env : Env Address) (topics : List (ScVal Address)) (data : ScVal Address) : Env Address :=
  { env with events := env.events ++ [⟨topics, data⟩] }

def emitInitialized (env : Env Address) (admin : Address) : Env Address :=
  env.publish [.symbol ⟨"init", by decide⟩, .address admin] (.address admin)

/-- The admin handed in is not published. -/
def emitMaintainerRegistered (env : Env Address) (_admin maintainer : Address) (orgId : Symbol) :
    Env Address :=
  env.publish [.symbol ⟨"maint_reg", by decide⟩, .address maintainer] (.symbol orgId)

def emitApplicationSubmitted (env : Env Address) (contributor : Address) (orgId : Symbol)
    (issueId : UInt32) : Env Address :=
  env.publish [.symbol ⟨"applied", by decide⟩, .address contributor]
    (.vec [.symbol orgId, .u32 issueId])

def emitApplicationWithdrawn (env : Env Address) (contributor : Address) (orgId : Symbol)
    (issueId : UInt32) : Env Address :=
  env.publish [.symbol ⟨"withdrew", by decide⟩, .address contributor]
    (.vec [.symbol orgId, .u32 issueId])

def emitIssueAssigned (env : Env Address) (maintainer contributor : Address) (orgId : Symbol)
    (issueId : UInt32) : Env Address :=
  env.publish [.symbol ⟨"assigned", by decide⟩, .address contributor]
    (.vec [.address maintainer, .symbol orgId, .u32 issueId])

def emitAssignmentCompleted (env : Env Address) (maintainer contributor : Address) (orgId : Symbol)
    (issueId : UInt32) : Env Address :=
  env.publish [.symbol ⟨"completed", by decide⟩, .address contributor]
    (.vec [.address maintainer, .symbol orgId, .u32 issueId])

def emitAssignmentRevoked (env : Env Address) (maintainer contributor : Address) (orgId : Symbol)
    (issueId : UInt32) : Env Address :=
  env.publish [.symbol ⟨"revoked", by decide⟩, .address contributor]
    (.vec [.address maintainer, .symbol orgId, .u32 issueId])

def emitMaintainerDeregistered (env : Env Address) (admin maintainer : Address) (orgId : Symbol) :
    Env Address :=
  env.publish [.symbol ⟨"maint_drg", by decide⟩, .address admin]
    (.vec [.address maintainer, .symbol orgId])

def emitGlobalCapUpdated (env : Env Address) (admin : Address) (newCap : UInt32) : Env Address :=
  env.publish [.symbol ⟨"cap_upd", by decide⟩, .address admin] (.vec [.address admin, .u32 newCap])

def emitEmergencyCapUpdated (env : Env Address) (admin : Address) (oldCap newCap : UInt32) :
    Env Address :=
  env.publish [.symbol ⟨"emrg_cap", by decide⟩, .address admin] (.vec [.u32 oldCap, .u32 newCap])

/-- The helper is called in `set_org_cap` but not defined in the sources; what it
publishes is left to the deployment. -/
def emitOrgCapUpdated (env : Env Address) (orgId : Symbol) (oldCap newCap : UInt32) : Env Address :=
  { env with events := env.events ++ env.deployment.orgCapUpdated orgId oldCap newCap }

end WorkloadGovernor.Env

namespace WorkloadGovernor
variable {Address : Type}

/-- The symbol in the first topic. -/
def Event.name (event : Event Address) : Option String :=
  match event.topics with
  | .symbol name :: _ => some name.text
  | _ => none

def publishedNames : List String :=
  ["init", "maint_reg", "applied", "withdrew", "assigned", "completed", "revoked", "maint_drg", "cap_upd", "emrg_cap"]

/-- The missing helper publishes under a name that no other helper uses. -/
def Deployment.OrgCapEventApart (deployment : Deployment Address) : Prop :=
  ∀ orgId oldCap newCap, ∀ event ∈ deployment.orgCapUpdated orgId oldCap newCap,
    ∀ name ∈ publishedNames, event.name ≠ some name

end WorkloadGovernor
