import Mathlib.Data.Finset.Card
import WorkloadGovernor.Runs

namespace WorkloadGovernor
variable {Address : Type} [DecidableEq Address]

/-- The fairness rules over sets: the issues each contributor has applied for and is
working on, the registered maintainers and the caps. There are no counters to keep. -/
structure FairnessModel (Address : Type) where
  admin : Option Address
  maintainers : Finset (Address × Symbol)
  globalCap : Nat
  orgCap : Symbol → Nat
  pending : Address → Finset (Symbol × UInt32)
  active : Address → Finset (Symbol × UInt32)

namespace FairnessModel

def initial (Address : Type) : FairnessModel Address where
  admin := none
  maintainers := ∅
  globalCap := 15
  orgCap := fun _ => 4
  pending := fun _ => ∅
  active := fun _ => ∅

section Rules
variable (model : FairnessModel Address) (auths : List Address)

/-- The active assignments of a contributor in one organisation. -/
def activeIn (contributor : Address) (orgId : Symbol) : Finset (Symbol × UInt32) :=
  (model.active contributor).filter fun issue => issue.1 = orgId

def ByAdmin : Prop := ∃ admin ∈ model.admin, admin ∈ auths

def ByMaintainer (maintainer : Address) (orgId : Symbol) : Prop :=
  model.admin.isSome = true ∧ maintainer ∈ auths ∧ (maintainer, orgId) ∈ model.maintainers

instance : Decidable (model.ByAdmin auths) := by unfold ByAdmin; infer_instance

instance (maintainer : Address) (orgId : Symbol) : Decidable (model.ByMaintainer auths maintainer orgId) := by
  unfold ByMaintainer; infer_instance

/-- The rule of each call: who has to authorise it, and what the sets have to look like. -/
def Permits : Call Address → Prop
  | .initializeContract admin => model.admin = none ∧ admin ∈ auths
  | .registerMaintainer _ _ _ => model.ByAdmin auths
  | .deregisterMaintainer _ maintainer orgId =>
    model.ByAdmin auths ∧ (maintainer, orgId) ∈ model.maintainers
  | .upgrade _ => model.ByAdmin auths
  | .setGlobalCap _ newCap => model.ByAdmin auths ∧ newCap.toNat ≤ 100
  | .emergencySetGlobalCap _ newCap => model.ByAdmin auths ∧ newCap.toNat ≤ 100
  | .applyForIssue contributor orgId issueId =>
    model.admin.isSome = true ∧ contributor ∈ auths ∧
      (model.pending contributor).card < model.globalCap ∧ (orgId, issueId) ∉ model.pending contributor
  | .withdrawApplication contributor orgId issueId =>
    model.admin.isSome = true ∧ contributor ∈ auths ∧ (orgId, issueId) ∈ model.pending contributor
  | .assignIssue maintainer contributor orgId issueId =>
    model.ByMaintainer auths maintainer orgId ∧ (orgId, issueId) ∈ model.pending contributor ∧
      (model.activeIn contributor orgId).card < model.orgCap orgId ∧
      (orgId, issueId) ∉ model.active contributor
  | .completeAssignment maintainer contributor orgId issueId =>
    model.ByMaintainer auths maintainer orgId ∧ (orgId, issueId) ∈ model.active contributor
  | .revokeAssignment maintainer contributor orgId issueId =>
    model.ByMaintainer auths maintainer orgId ∧ (orgId, issueId) ∈ model.active contributor
  | .setOrgCap maintainer orgId newCap =>
    model.ByMaintainer auths maintainer orgId ∧ 1 ≤ newCap.toNat ∧ newCap.toNat ≤ 20
  | .extendApplicationTtl contributor orgId issueId => (orgId, issueId) ∈ model.pending contributor

instance (call : Call Address) : Decidable (model.Permits auths call) := by
  cases call <;> (unfold Permits; infer_instance)

/-- What a permitted call does to the sets. -/
def commit : Call Address → FairnessModel Address
  | .initializeContract admin => { model with admin := some admin, globalCap := 15 }
  | .registerMaintainer _ maintainer orgId =>
    { model with maintainers := insert (maintainer, orgId) model.maintainers }
  | .deregisterMaintainer _ maintainer orgId =>
    { model with maintainers := model.maintainers.erase (maintainer, orgId) }
  | .upgrade _ => model
  | .setGlobalCap _ newCap => { model with globalCap := newCap.toNat }
  | .emergencySetGlobalCap _ newCap => { model with globalCap := newCap.toNat }
  | .applyForIssue contributor orgId issueId =>
    { model with
      pending := Function.update model.pending contributor
        (insert (orgId, issueId) (model.pending contributor)) }
  | .withdrawApplication contributor orgId issueId =>
    { model with
      pending := Function.update model.pending contributor
        ((model.pending contributor).erase (orgId, issueId)) }
  | .assignIssue _ contributor orgId issueId =>
    { model with
      pending := Function.update model.pending contributor
        ((model.pending contributor).erase (orgId, issueId))
      active := Function.update model.active contributor
        (insert (orgId, issueId) (model.active contributor)) }
  | .completeAssignment _ contributor orgId issueId =>
    { model with
      active := Function.update model.active contributor
        ((model.active contributor).erase (orgId, issueId)) }
  | .revokeAssignment _ contributor orgId issueId =>
    { model with
      active := Function.update model.active contributor
        ((model.active contributor).erase (orgId, issueId)) }
  | .setOrgCap _ orgId newCap => { model with orgCap := Function.update model.orgCap orgId newCap.toNat }
  | .extendApplicationTtl _ _ _ => model

/-- A call that is not permitted and the close of ledgers leave the sets alone. -/
def step : Step Address → FairnessModel Address
  | .call auths call => if model.Permits auths call then model.commit call else model
  | .advance _ => model

end Rules

def exec (steps : List (Step Address)) : FairnessModel Address :=
  Run.exec FairnessModel.step (initial Address) steps

theorem exec_concat (steps : List (Step Address)) (s : Step Address) :
    exec (steps ++ [s]) = (exec steps).step s :=
  Run.exec_concat ..

end FairnessModel

end WorkloadGovernor
