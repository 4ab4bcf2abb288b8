import WorkloadGovernor.Calls
import WorkloadGovernor.Lib.Run

namespace WorkloadGovernor
variable {Address : Type} [DecidableEq Address]

namespace Env

def authorisedBy (env : Env Address) (auths : List Address) : Env Address := { env with auths := auths }

def advanced (env : Env Address) (ledgers : Nat) : Env Address :=
  { env with sequence := env.sequence + ledgers }

/-- The contract before `initialize`, with nothing stored and nothing published. -/
def genesis (deployment : Deployment Address) : Env Address where
  deployment := deployment
  storage := .empty
  sequence := 0
  auths := []
  events := []

end Env

/-- A release build on a network that grants a fresh temporary entry 16 ledgers. -/
def Deployment.release (Address : Type) : Deployment Address where
  debugAssertions := false
  freshTtl := 15
  freshTtl_le := by decide
  orgCapUpdated := fun _ _ _ => []

/-- An organisation for sample runs. -/
def sampleOrg : Symbol := ⟨"org", by decide⟩

/-- One step of the chain as the contract sees it: a call with the addresses that
authorised it, or the close of some ledgers. -/
inductive Step (Address : Type) where
  | call (auths : List Address) (call : Call Address)
  | advance (ledgers : Nat)
  deriving DecidableEq

def invoke (env : Env Address) (auths : List Address) (call : Call Address) :
    Except Failure (Env Address) :=
  call.run (env.authorisedBy auths)

/-- A failed call is rolled back as a whole. -/
def step (env : Env Address) : Step Address → Env Address
  | .call auths call =>
    match invoke env auths call with
    | .ok after => after
    | .error _ => env
  | .advance ledgers => env.advanced ledgers

/-- The state the contract is in after a run from the un-initialised contract. -/
def exec (deployment : Deployment Address) (steps : List (Step Address)) : Env Address :=
  Run.exec step (.genesis deployment) steps

@[simp] theorem exec_nil (deployment : Deployment Address) : exec deployment [] = .genesis deployment := rfl

theorem exec_concat (deployment : Deployment Address) (steps : List (Step Address)) (s : Step Address) :
    exec deployment (steps ++ [s]) = step (exec deployment steps) s :=
  Run.exec_concat ..

namespace Env

def AdminAllowed (env : Env Address) : Prop :=
  ∃ admin, env.getAdmin = some admin ∧ admin ∈ env.auths

def MaintainerAllowed (env : Env Address) (maintainer : Address) (orgId : Symbol) : Prop :=
  env.getAdmin.isSome = true ∧ maintainer ∈ env.auths ∧ env.isMaintainer maintainer orgId = true

/-- What the checks of a call ask of the state and of its authorisations. -/
def Allowed (env : Env Address) : Call Address → Prop
  | .initializeContract admin => env.getAdmin = none ∧ admin ∈ env.auths
  | .registerMaintainer _ _ _ => env.AdminAllowed
  | .deregisterMaintainer _ maintainer orgId => env.AdminAllowed ∧ env.isMaintainer maintainer orgId = true
  | .upgrade _ => env.AdminAllowed
  | .setGlobalCap _ newCap => env.AdminAllowed ∧ newCap ≤ 100
  | .emergencySetGlobalCap _ newCap => env.AdminAllowed ∧ newCap ≤ 100
  | .applyForIssue contributor orgId issueId =>
    env.getAdmin.isSome = true ∧ contributor ∈ env.auths ∧
      env.getGlobalAppCount contributor < env.getGlobalCap ∧ env.hasAppEntry contributor orgId issueId = false
  | .withdrawApplication contributor orgId issueId =>
    env.getAdmin.isSome = true ∧ contributor ∈ env.auths ∧ env.hasAppEntry contributor orgId issueId = true
  | .assignIssue maintainer contributor orgId issueId =>
    env.MaintainerAllowed maintainer orgId ∧ env.hasAppEntry contributor orgId issueId = true ∧
      env.getOrgAssignmentCount contributor orgId < env.getOrgCap orgId ∧
      env.hasAssignment orgId issueId contributor = false
  | .completeAssignment maintainer contributor orgId issueId =>
    env.MaintainerAllowed maintainer orgId ∧ env.hasAssignment orgId issueId contributor = true ∧
      (env.deployment.debugAssertions = true → env.getOrgAssignmentCount contributor orgId ≠ 0)
  | .revokeAssignment maintainer contributor orgId issueId =>
    env.MaintainerAllowed maintainer orgId ∧ env.hasAssignment orgId issueId contributor = true ∧
      env.getOrgAssignmentCount contributor orgId ≠ 0
  | .setOrgCap maintainer orgId newCap =>
    env.MaintainerAllowed maintainer orgId ∧ orgCapMin ≤ newCap ∧ newCap ≤ orgCapMax
  | .extendApplicationTtl contributor orgId issueId => env.hasAppEntry contributor orgId issueId = true

variable {env : Env Address}

theorem requireAuth_eq_ok {account : Address} {u : Unit} :
    env.requireAuth account = .ok u ↔ account ∈ env.auths := by
  unfold requireAuth
  split <;> simp_all

omit [DecidableEq Address] in
theorem requireInitialized_eq_ok {u : Unit} {error : ContractError} :
    env.requireInitialized error = .ok u ↔ env.getAdmin.isSome = true := by
  unfold requireInitialized
  rw [panicIf_eq_ok]
  cases env.getAdmin <;> simp

theorem requireAuth_eq_error {account : Address} {failure : Failure} :
    env.requireAuth account = .error failure ↔ account ∉ env.auths ∧ failure = .authRefused := by
  unfold requireAuth
  split <;> simp_all [eq_comm]

omit [DecidableEq Address] in
theorem requireInitialized_eq_error {error : ContractError} {failure : Failure} :
    env.requireInitialized error = .error failure ↔ env.getAdmin = none ∧ failure = .contract error := by
  unfold requireInitialized
  rw [panicIf_eq_error, Option.isNone_iff_eq_none]

theorem adminGuards_eq_ok {u : Unit} : env.adminGuards = .ok u ↔ env.AdminAllowed := by
  unfold adminGuards AdminAllowed
  simp only [Checked.bind_eq_ok, requireInitialized_eq_ok, requireAuth_eq_ok]
  cases stored : env.getAdmin <;> simp [unwrap]

theorem maintainerGuards_eq_ok {maintainer : Address} {orgId : Symbol} {u : Unit} :
    env.maintainerGuards maintainer orgId = .ok u ↔ env.MaintainerAllowed maintainer orgId := by
  simp [maintainerGuards, MaintainerAllowed, Checked.bind_eq_ok, requireInitialized_eq_ok,
    requireAuth_eq_ok, panicIf_eq_ok]

/-- The stored admin is there once the contract is initialised, so the `unwrap` never fails. -/
theorem adminGuards_error {failure : Failure} (refused : env.adminGuards = .error failure) :
    failure = .contract .notInitialized ∨ failure = .authRefused := by
  simp only [adminGuards, Checked.bind_eq_error, requireInitialized_eq_error, requireInitialized_eq_ok,
    requireAuth_eq_error] at refused
  rcases refused with ⟨_, same⟩ | ⟨_, initialized, missing | ⟨admin, _, _, same⟩⟩
  · exact Or.inl same
  · obtain ⟨admin, stored⟩ := Option.isSome_iff_exists.mp initialized
    rw [stored] at missing
    cases missing
  · exact Or.inr same

theorem maintainerGuards_error {maintainer : Address} {orgId : Symbol} {failure : Failure}
    (refused : env.maintainerGuards maintainer orgId = .error failure) :
    failure = .contract .notInitialized ∨ failure = .authRefused ∨
      failure = .contract .unauthorizedMaintainer := by
  simp only [maintainerGuards, Checked.bind_eq_error, requireInitialized_eq_error, requireAuth_eq_error,
    panicIf_eq_error] at refused
  rcases refused with ⟨_, same⟩ | ⟨_, _, ⟨_, same⟩ | ⟨_, _, _, same⟩⟩
  · exact Or.inl same
  · exact Or.inr (Or.inl same)
  · exact Or.inr (Or.inr same)

theorem guards_eq_ok (call : Call Address) : env.guards call = .ok () ↔ env.Allowed call := by
  cases call <;>
    simp [guards, Allowed, Checked.bind_eq_ok, requireInitialized_eq_ok, requireAuth_eq_ok,
      adminGuards_eq_ok, maintainerGuards_eq_ok, panicIf_eq_ok]

end Env

variable {env after : Env Address} {auths : List Address} {call : Call Address}

/-- A call succeeds exactly when its checks pass, and then leaves its effect behind. -/
theorem invoke_eq_ok : invoke env auths call = .ok after ↔
    (env.authorisedBy auths).Allowed call ∧ after = (env.authorisedBy auths).effect call := by
  unfold invoke
  rw [run_eq, Checked.bind_eq_ok]
  constructor
  · rintro ⟨_, passed, result⟩
    exact ⟨(Env.guards_eq_ok call).mp passed, (Except.ok.inj result).symm⟩
  · rintro ⟨allowed, rfl⟩
    exact ⟨(), (Env.guards_eq_ok call).mpr allowed, rfl⟩

theorem invoke_eq_error {failure : Failure} : invoke env auths call = .error failure ↔
    (env.authorisedBy auths).guards call = .error failure := by
  unfold invoke
  rw [run_eq, Checked.bind_eq_error]
  constructor
  · rintro (refused | ⟨_, _, impossible⟩)
    · exact refused
    · cases impossible
  · exact Or.inl

/-- The call would go through in this state. -/
def Succeeds (env : Env Address) (auths : List Address) (call : Call Address) : Prop :=
  ∃ after, invoke env auths call = .ok after

theorem succeeds_iff : Succeeds env auths call ↔ (env.authorisedBy auths).Allowed call := by
  constructor
  · intro success
    obtain ⟨after, outcome⟩ := success
    exact (invoke_eq_ok.mp outcome).1
  · exact fun allowed => ⟨_, invoke_eq_ok.mpr ⟨allowed, rfl⟩⟩

theorem refused_of_error {failure : Failure} (outcome : invoke env auths call = .error failure) :
    ¬ (env.authorisedBy auths).Allowed call := by
  intro allowed
  cases outcome.symm.trans (invoke_eq_ok.mpr ⟨allowed, rfl⟩)

theorem step_of_allowed (allowed : (env.authorisedBy auths).Allowed call) :
    step env (.call auths call) = (env.authorisedBy auths).effect call := by
  simp only [step, invoke_eq_ok.mpr ⟨allowed, rfl⟩]

theorem step_of_refused (refused : ¬ (env.authorisedBy auths).Allowed call) :
    step env (.call auths call) = env := by
  cases outcome : invoke env auths call with
  | error failure => simp only [step, outcome]
  | ok after => exact absurd (invoke_eq_ok.mp outcome).1 refused

/-- What the effect of every allowed call and the close of any number of ledgers preserve,
a step preserves. -/
theorem step_invariant {Inv : Env Address → Prop}
    (calls : ∀ (env : Env Address) auths call, Inv env → (env.authorisedBy auths).Allowed call →
      Inv ((env.authorisedBy auths).effect call))
    (ledgers : ∀ (env : Env Address) n, Inv env → Inv (env.advanced n))
    (env : Env Address) (s : Step Address) (inv : Inv env) : Inv (step env s) := by
  cases s with
  | call auths call =>
    by_cases allowed : (env.authorisedBy auths).Allowed call
    · rw [step_of_allowed allowed]
      exact calls env auths call inv allowed
    · rw [step_of_refused allowed]
      exact inv
  | advance n => exact ledgers env n inv

/-- What a step brings about and no closing ledger does is the effect of an allowed call. -/
theorem call_of_step {P : Env Address → Prop} {s : Step Address} (ledgers : ∀ n, ¬ P (env.advanced n))
    (after : P (step env s)) :
    ∃ auths call, s = .call auths call ∧ (env.authorisedBy auths).Allowed call ∧
      P ((env.authorisedBy auths).effect call) := by
  cases s with
  | advance n => exact absurd after (ledgers n)
  | call auths call =>
    by_cases allowed : (env.authorisedBy auths).Allowed call
    · rw [step_of_allowed allowed] at after
      exact ⟨auths, call, rfl, allowed, after⟩
    · rw [step_of_refused allowed] at after
      have before : ¬ P env := ledgers 0
      exact absurd after before

theorem deployment_step (env : Env Address) (s : Step Address) : (step env s).deployment = env.deployment := by
  cases s with
  | advance n => rfl
  | call auths call =>
    by_cases allowed : (env.authorisedBy auths).Allowed call
    · rw [step_of_allowed allowed]
      cases call <;> rfl
    · rw [step_of_refused allowed]

/-- The missing helper is apart from the others in this state's deployment. -/
def OrgCapApart (env : Env Address) : Prop := env.deployment.OrgCapEventApart

theorem orgCapApart_step {env : Env Address} (apart : OrgCapApart env) (s : Step Address) :
    OrgCapApart (step env s) := by
  unfold OrgCapApart
  rw [deployment_step]
  exact apart

end WorkloadGovernor
