import WorkloadGovernor.FuzzSeeds
import WorkloadGovernor.Isolation
import WorkloadGovernor.Refinement

namespace WorkloadGovernor
open Checked

/-- The addresses a target generates. -/
inductive Actor where
  | admin
  | maintainer
  | contributor
  deriving DecidableEq, Repr

/-- `mock_all_auths`: every address has authorised every call. -/
def everyone : List Actor := [.admin, .maintainer, .contributor]

theorem mem_everyone (actor : Actor) : actor ∈ everyone := by cases actor <;> decide

/-- What a target keeps while it runs: the contract, and the calls that came back. -/
structure FuzzState where
  env : Env Actor
  calls : List (Call Actor)

inductive Panic where
  | refused (failure : Failure)
  | assertion
  /-- `Symbol::new` on a text that is no symbol. -/
  | symbol
  deriving DecidableEq, Repr

/-- A target that died, with the calls that had come back before. -/
structure Crash where
  calls : List (Call Actor)
  panic : Panic

namespace FuzzState

def new (deployment : Deployment Actor) : FuzzState := ⟨.genesis deployment, []⟩

def call (state : FuzzState) (call : Call Actor) : Except Crash FuzzState :=
  match outcome state.env everyone call with
  | .ok _ => .ok ⟨step state.env (.call everyone call), state.calls ++ [call]⟩
  | .error failure => .error ⟨state.calls, .refused failure⟩

/-- The crate is built with `panic = "abort"`: a panic ends the process, and a `catch_unwind` that comes back at all
comes back with `Ok`. -/
def catchUnwind (state : FuzzState) (calls : List (Call Actor)) : Except Crash FuzzState :=
  calls.foldlM call state

def assert (state : FuzzState) (condition : Bool) : Except Crash FuzzState :=
  if condition then .ok state else .error ⟨state.calls, .assertion⟩

end FuzzState

/-- How a target ends on an input: too early to do anything, with a crash that the fuzzer reports, or after its calls. -/
inductive FuzzRun where
  | returned
  | aborted (crash : Crash)
  | finished (state : FuzzState)

def FuzzRun.ofResult : Except Crash FuzzState → FuzzRun
  | .ok state => .finished state
  | .error crash => .aborted crash

/-- `Symbol::new`. -/
def Symbol.new? (text : String) : Option Symbol :=
  if legal : isSymbolText text = true then some ⟨text, legal⟩ else none

/-- The frame of the four targets that decode an issue, an organisation and flags. -/
def fuzzTarget (body : FuzzInput → Symbol → Except Crash FuzzState) (data : List UInt8) : FuzzRun :=
  match decodeInput data with
  | none => .returned
  | some input =>
    match Symbol.new? input.org with
    | none => .aborted ⟨[], .symbol⟩
    | some org => .ofResult (body input org)

section Targets
variable (deployment : Deployment Actor)

def runFuzzApply : List UInt8 → FuzzRun :=
  fuzzTarget fun input org => do
    let state ← (FuzzState.new deployment).catchUnwind [.initializeContract .admin]
    let state ← state.catchUnwind [.applyForIssue .contributor org input.issueId]
    state.catchUnwind [.applyForIssue .contributor org input.issueId]

/-- The two calls every maintainer scenario starts with. -/
def setUp (org : Symbol) : List (Call Actor) :=
  [.initializeContract .admin, .registerMaintainer .admin .maintainer org]

def runFuzzAssign : List UInt8 → FuzzRun :=
  fuzzTarget fun input org => do
    let state ← (FuzzState.new deployment).catchUnwind (setUp org)
    let state ← if input.firstFlag then state.catchUnwind [.applyForIssue .contributor org input.issueId] else pure state
    let state ← state.catchUnwind [.assignIssue .maintainer .contributor org input.issueId]
    let state ← state.catchUnwind [.completeAssignment .maintainer .contributor org input.issueId]
    state.catchUnwind [.revokeAssignment .maintainer .contributor org input.issueId]

def runFuzzRevoke : List UInt8 → FuzzRun :=
  fuzzTarget fun input org => do
    let state ← (FuzzState.new deployment).catchUnwind (setUp org)
    if input.firstFlag then
      let state ← state.catchUnwind [.applyForIssue .contributor org input.issueId]
      let state ← state.catchUnwind [.assignIssue .maintainer .contributor org input.issueId]
      let state ← state.catchUnwind [.revokeAssignment .maintainer .contributor org input.issueId]
      -- `assigned_ok` and `revoke_result` are `Ok` here
      state.assert (getOrgAssignmentCount state.env .contributor org == 0)
    else if input.secondFlag then
      let state ← state.catchUnwind [.applyForIssue .contributor org input.issueId]
      state.catchUnwind [.revokeAssignment .maintainer .contributor org input.issueId]
    else state.catchUnwind [.revokeAssignment .maintainer .contributor org input.issueId]

def runFuzzWithdraw : List UInt8 → FuzzRun :=
  fuzzTarget fun input org => do
    let state ← (FuzzState.new deployment).catchUnwind [.initializeContract .admin]
    let state ← if input.firstFlag then state.catchUnwind [.applyForIssue .contributor org input.issueId] else pure state
    let state ← state.catchUnwind [.withdrawApplication .contributor org input.issueId]
    -- `withdraw_result` is `Ok` here, and `applied` the first flag
    let state ← if input.firstFlag then do
        let state ← state.assert (getGlobalApplicationCount state.env .contributor == 0)
        state.assert (!hasApplied state.env .contributor org input.issueId)
      else pure state
    if input.secondFlag then
      let state ← state.catchUnwind [.withdrawApplication .contributor org input.issueId]
      state.assert (getGlobalApplicationCount state.env .contributor == 0)
    else pure state

/-- `data.chunks(2)`. -/
def chunksOfTwo : List UInt8 → List (List UInt8)
  | [] => []
  | [b₀] => [[b₀]]
  | b₀ :: b₁ :: rest => [b₀, b₁] :: chunksOfTwo rest

def chunkId (chunk : List UInt8) : UInt32 :=
  let lo : UInt32 := (chunk[0]?.getD 0).toUInt32
  let hi : UInt32 := (chunk[1]?.getD 0).toUInt32
  hi <<< 8 ||| lo

/-- At most twenty `u16` issue ids in little-endian order, those that are 0 left out. -/
def batchIds (data : List UInt8) : List UInt32 :=
  (((chunksOfTwo data).take 20).map chunkId).filter (0 < ·)

def fuzzOrg : Symbol := ⟨"fuzzorg", by decide⟩

def applyTo (issueId : UInt32) : Call Actor := .applyForIssue .contributor fuzzOrg issueId

def runFuzzBatchApply (data : List UInt8) : FuzzRun :=
  if data.length < 2 then .returned
  else .ofResult do
    let state ← (FuzzState.new deployment).catchUnwind [.initializeContract .admin]
    let state ← (batchIds data).foldlM (fun state issueId => state.catchUnwind [applyTo issueId]) state
    state.assert (getGlobalApplicationCount state.env .contributor ≤ 15)

end Targets

section Outcomes
variable {env : Env Actor} {model : FairnessModel Actor}

/-- An initialised contract that implements the sets of the fairness model. -/
structure Follows (env : Env Actor) (model : FairnessModel Actor) : Prop where
  refines : Refines env model
  initialized : model.admin = some .admin

namespace Follows

theorem isSome_admin (follows : Follows env model) : model.admin.isSome = true := by
  rw [follows.initialized]
  rfl

theorem requireInitialized_eq (follows : Follows env model) :
    (env.authorisedBy everyone).requireInitialized .notInitialized = .ok () := by
  have admin : (env.authorisedBy everyone).getAdmin = some .admin := follows.refines.admin.trans follows.initialized
  exact Env.requireInitialized_eq_ok.mpr (by rw [admin]; rfl)

theorem requireAuth_eq (env : Env Actor) (actor : Actor) : (env.authorisedBy everyone).requireAuth actor = .ok () :=
  Env.requireAuth_eq_ok.mpr (mem_everyone actor)

theorem maintainerGuards_eq (follows : Follows env model) {orgId : Symbol}
    (registered : (.maintainer, orgId) ∈ model.maintainers) :
    (env.authorisedBy everyone).maintainerGuards .maintainer orgId = .ok () := by
  have admin := follows.isSome_admin
  refine Env.maintainerGuards_eq_ok.mpr ((follows.refines.byMaintainer_iff everyone .maintainer orgId).mpr ?_)
  exact ⟨admin, mem_everyone _, registered⟩

theorem outcome_apply (follows : Follows env model) (orgId : Symbol) (issueId : UInt32) :
    outcome env everyone (.applyForIssue .contributor orgId issueId) =
      if model.globalCap ≤ (model.pending .contributor).card then .error (.contract .globalApplicationLimitReached)
      else if (orgId, issueId) ∈ model.pending .contributor then .error (.contract .duplicateApplication)
      else .ok () := by
  have full : (env.authorisedBy everyone).getGlobalAppCount .contributor ≥ (env.authorisedBy everyone).getGlobalCap ↔
      model.globalCap ≤ (model.pending .contributor).card := by
    have room := not_congr (follows.refines.globalRoom_iff .contributor)
    rwa [UInt32.not_lt, not_lt] at room
  have applied : (env.authorisedBy everyone).hasAppEntry .contributor orgId issueId = true ↔
      (orgId, issueId) ∈ model.pending .contributor := follows.refines.hasApplied_iff
  rw [outcome_eq_guards, Env.guards, follows.requireInitialized_eq, requireAuth_eq]
  simp only [panicIf, full, applied]
  by_cases crowded : model.globalCap ≤ (model.pending .contributor).card
  · simp only [crowded, if_true]
    rfl
  · simp only [crowded, if_false]
    rfl

theorem outcome_withdraw (follows : Follows env model) (orgId : Symbol) (issueId : UInt32) :
    outcome env everyone (.withdrawApplication .contributor orgId issueId) =
      if (orgId, issueId) ∈ model.pending .contributor then .ok ()
      else .error (.contract .applicationNotFound) := by
  have applied : (env.authorisedBy everyone).hasAppEntry .contributor orgId issueId = true ↔
      (orgId, issueId) ∈ model.pending .contributor := follows.refines.hasApplied_iff
  rw [outcome_eq_guards, Env.guards, follows.requireInitialized_eq, requireAuth_eq]
  simp only [panicIf, applied, ite_not]
  rfl

theorem outcome_assign (follows : Follows env model) {orgId : Symbol} {issueId : UInt32}
    (registered : (.maintainer, orgId) ∈ model.maintainers)
    (room : (model.activeIn .contributor orgId).card < model.orgCap orgId)
    (fresh : (orgId, issueId) ∉ model.active .contributor) :
    outcome env everyone (.assignIssue .maintainer .contributor orgId issueId) =
      if (orgId, issueId) ∈ model.pending .contributor then .ok ()
      else .error (.contract .applicationNotFound) := by
  have applied : (env.authorisedBy everyone).hasAppEntry .contributor orgId issueId = true ↔
      (orgId, issueId) ∈ model.pending .contributor := follows.refines.hasApplied_iff
  have below : ¬ (env.authorisedBy everyone).getOrgAssignmentCount .contributor orgId ≥
      (env.authorisedBy everyone).getOrgCap orgId :=
    UInt32.not_le.mpr ((follows.refines.orgRoom_iff .contributor orgId).mpr room)
  have full := (@panicIf_eq_ok _ _ .orgAssignmentLimitReached ()).mpr below
  have free : ¬ (env.authorisedBy everyone).hasAssignment orgId issueId .contributor = true :=
    fun taken => fresh (follows.refines.isAssigned_iff.mp taken)
  have passes := (@panicIf_eq_ok _ _ .alreadyAssigned ()).mpr free
  rw [outcome_eq_guards, Env.guards, follows.maintainerGuards_eq registered, full, passes]
  simp only [panicIf, applied, ite_not]
  by_cases waiting : (orgId, issueId) ∈ model.pending .contributor
  · simp only [waiting, if_true]
    rfl
  · simp only [waiting, if_false]
    rfl

/-- A completion and a revocation end alike. -/
theorem outcome_release (follows : Follows env model) {orgId : Symbol} {issueId : UInt32}
    (registered : (.maintainer, orgId) ∈ model.maintainers) {call : Call Actor}
    (releases : call = .completeAssignment .maintainer .contributor orgId issueId ∨
      call = .revokeAssignment .maintainer .contributor orgId issueId) :
    outcome env everyone call =
      if (orgId, issueId) ∈ model.active .contributor then .ok ()
      else .error (.contract .assignmentNotFound) := by
  have taken : (env.authorisedBy everyone).hasAssignment orgId issueId .contributor = true ↔
      (orgId, issueId) ∈ model.active .contributor := follows.refines.isAssigned_iff
  have permitted : (env.authorisedBy everyone).Allowed call ↔ (orgId, issueId) ∈ model.active .contributor := by
    have admin := follows.isSome_admin
    have byMaintainer : model.ByMaintainer everyone .maintainer orgId := ⟨admin, mem_everyone _, registered⟩
    rw [follows.refines.allowed_iff]
    rcases releases with rfl | rfl
    · exact and_iff_right byMaintainer
    · exact and_iff_right byMaintainer
  rw [outcome_eq_guards]
  by_cases held : (orgId, issueId) ∈ model.active .contributor
  · rw [if_pos held]
    exact (Env.guards_eq_ok call).mpr (permitted.mpr held)
  · have missing : ¬ (env.authorisedBy everyone).hasAssignment orgId issueId .contributor = true :=
      fun present => held (taken.mp present)
    have reported := panicIf_eq_error.mpr ⟨missing, @rfl _ (Failure.contract .assignmentNotFound)⟩
    rw [if_neg held]
    rcases releases with rfl | rfl
    · rw [Env.guards, follows.maintainerGuards_eq registered, reported]
      rfl
    · rw [Env.guards, follows.maintainerGuards_eq registered, reported]
      rfl

/-- A call leads to what the rules make of the sets. -/
theorem next (follows : Follows env model) (call : Call Actor) :
    Follows (step env (.call everyone call)) (model.step (.call everyone call)) where
  refines := step_refines trivial follows.refines
  initialized := by
    have admin := follows.initialized
    rw [FairnessModel.step]
    split
    · rename_i permitted
      cases call with
      | initializeContract a =>
        rw [FairnessModel.Permits, admin] at permitted
        cases permitted.1
      | _ => exact admin
    · exact admin

end Follows

/-- How far the one issue of a target has got: whether the maintainer is registered, whether the
contributor has applied for the issue, and whether they are assigned to it. -/
structure Stage (env : Env Actor) (orgId : Symbol) (issueId : UInt32) (maintained waiting working : Bool)
    (model : FairnessModel Actor) : Prop where
  follows : Follows env model
  registered : maintained = true → (.maintainer, orgId) ∈ model.maintainers
  globalCap : model.globalCap = 15
  orgCap : model.orgCap orgId = 4
  pending : model.pending .contributor = if waiting then {(orgId, issueId)} else ∅
  active : model.active .contributor = if working then {(orgId, issueId)} else ∅

/-- The contract is at a stage. -/
def AtStage (env : Env Actor) (orgId : Symbol) (issueId : UInt32) (maintained waiting working : Bool) : Prop :=
  ∃ model, Stage env orgId issueId maintained waiting working model

section Stage
variable {orgId : Symbol} {issueId : UInt32} {maintained waiting working : Bool}

theorem mem_single {present : Bool} {issue : Symbol × UInt32} :
    issue ∈ (if present then {issue} else (∅ : Finset (Symbol × UInt32))) ↔ present = true := by
  cases present <;> simp

/-- Calls about a contributor leave the registry and the caps alone. -/
theorem Stage.next (stage : Stage env orgId issueId maintained waiting working model) {call : Call Actor}
    (names : call.contributor = some .contributor) {waiting' working' : Bool}
    (pending : (model.step (.call everyone call)).pending .contributor =
      if waiting' then {(orgId, issueId)} else ∅)
    (active : (model.step (.call everyone call)).active .contributor =
      if working' then {(orgId, issueId)} else ∅) :
    AtStage (step env (.call everyone call)) orgId issueId maintained waiting' working' := by
  have frame : (model.step (.call everyone call)).maintainers = model.maintainers ∧
      (model.step (.call everyone call)).globalCap = model.globalCap ∧
      (model.step (.call everyone call)).orgCap = model.orgCap := by
    rw [FairnessModel.step]
    split
    · cases call <;> first | exact ⟨rfl, rfl, rfl⟩ | cases names
    · exact ⟨rfl, rfl, rfl⟩
  obtain ⟨maintainers, globalCap, orgCap⟩ := frame
  refine ⟨_, stage.follows.next call, ?_, globalCap.trans stage.globalCap, ?_, pending, active⟩
  · rw [maintainers]
    exact stage.registered
  · rw [orgCap]
    exact stage.orgCap

namespace AtStage

theorem apply (stage : AtStage env orgId issueId maintained waiting working) :
    outcome env everyone (.applyForIssue .contributor orgId issueId) =
      (if waiting then .error (.contract .duplicateApplication) else .ok ()) ∧
    AtStage (step env (.call everyone (.applyForIssue .contributor orgId issueId))) orgId issueId maintained true
      working := by
  obtain ⟨model, stage⟩ := stage
  have listed : (orgId, issueId) ∈ model.pending .contributor ↔ waiting = true := by
    rw [stage.pending]
    exact mem_single
  have room : (model.pending .contributor).card < model.globalCap := by
    rw [stage.globalCap, stage.pending]
    cases waiting <;> simp
  have permits : model.Permits everyone (.applyForIssue .contributor orgId issueId) ↔ ¬ waiting = true := by
    rw [← listed]
    have admin := stage.follows.isSome_admin
    exact ⟨fun permitted => permitted.2.2.2, fun fresh => ⟨admin, mem_everyone _, room, fresh⟩⟩
  refine ⟨?_, stage.next rfl ?_ ?_⟩
  · rw [stage.follows.outcome_apply, if_neg (not_le.mpr room)]
    exact if_congr listed rfl rfl
  · rw [FairnessModel.step]
    cases waiting with
    | false => simp [permits, FairnessModel.commit, stage.pending]
    | true => simp [permits, stage.pending]
  · rw [FairnessModel.step]
    split
    · exact stage.active
    · exact stage.active

theorem withdraw (stage : AtStage env orgId issueId maintained waiting working) :
    outcome env everyone (.withdrawApplication .contributor orgId issueId) =
      (if waiting then .ok () else .error (.contract .applicationNotFound)) ∧
    AtStage (step env (.call everyone (.withdrawApplication .contributor orgId issueId))) orgId issueId maintained
      false working := by
  obtain ⟨model, stage⟩ := stage
  have listed : (orgId, issueId) ∈ model.pending .contributor ↔ waiting = true := by
    rw [stage.pending]
    exact mem_single
  have permits : model.Permits everyone (.withdrawApplication .contributor orgId issueId) ↔ waiting = true := by
    rw [← listed]
    have admin := stage.follows.isSome_admin
    exact ⟨fun permitted => permitted.2.2, fun applied => ⟨admin, mem_everyone _, applied⟩⟩
  refine ⟨?_, stage.next rfl ?_ ?_⟩
  · rw [stage.follows.outcome_withdraw]
    exact if_congr listed rfl rfl
  · rw [FairnessModel.step]
    cases waiting with
    | false => simp [permits, stage.pending]
    | true => simp [permits, FairnessModel.commit, stage.pending]
  · rw [FairnessModel.step]
    split
    · exact stage.active
    · exact stage.active

/-- An application of a contributor without assignment is assigned, and nothing else is. -/
theorem assign (stage : AtStage env orgId issueId true waiting false) :
    outcome env everyone (.assignIssue .maintainer .contributor orgId issueId) =
      (if waiting then .ok () else .error (.contract .applicationNotFound)) ∧
    AtStage (step env (.call everyone (.assignIssue .maintainer .contributor orgId issueId))) orgId issueId true
      false waiting := by
  obtain ⟨model, stage⟩ := stage
  have listed : (orgId, issueId) ∈ model.pending .contributor ↔ waiting = true := by
    rw [stage.pending]
    exact mem_single
  have idle : model.active .contributor = ∅ := stage.active
  have room : (model.activeIn .contributor orgId).card < model.orgCap orgId := by
    rw [stage.orgCap, FairnessModel.activeIn, idle, Finset.filter_empty]
    decide
  have fresh : (orgId, issueId) ∉ model.active .contributor := by
    rw [idle]
    exact Finset.notMem_empty _
  have permits : model.Permits everyone (.assignIssue .maintainer .contributor orgId issueId) ↔ waiting = true := by
    rw [← listed]
    have admin := stage.follows.isSome_admin
    exact ⟨fun permitted => permitted.2.1,
      fun applied => ⟨⟨admin, mem_everyone _, stage.registered rfl⟩, applied, room, fresh⟩⟩
  refine ⟨?_, stage.next rfl ?_ ?_⟩
  · rw [stage.follows.outcome_assign (stage.registered rfl) room fresh]
    exact if_congr listed rfl rfl
  · rw [FairnessModel.step]
    cases waiting with
    | false => simp [permits, stage.pending]
    | true => simp [permits, FairnessModel.commit, stage.pending]
  · rw [FairnessModel.step]
    cases waiting with
    | false => simp [permits, idle]
    | true => simp [permits, FairnessModel.commit, idle]

theorem release (stage : AtStage env orgId issueId true waiting working) {call : Call Actor}
    (releases : call = .completeAssignment .maintainer .contributor orgId issueId ∨
      call = .revokeAssignment .maintainer .contributor orgId issueId) :
    outcome env everyone call = (if working then .ok () else .error (.contract .assignmentNotFound)) ∧
    AtStage (step env (.call everyone call)) orgId issueId true waiting false := by
  obtain ⟨model, stage⟩ := stage
  have listed : (orgId, issueId) ∈ model.active .contributor ↔ working = true := by
    rw [stage.active]
    exact mem_single
  have permits : model.Permits everyone call ↔ working = true := by
    have admin := stage.follows.isSome_admin
    have byMaintainer : model.ByMaintainer everyone .maintainer orgId := ⟨admin, mem_everyone _, stage.registered rfl⟩
    rw [← listed]
    rcases releases with rfl | rfl
    · exact and_iff_right byMaintainer
    · exact and_iff_right byMaintainer
  have erased : (model.commit call).active .contributor = (model.active .contributor).erase (orgId, issueId) ∧
      (model.commit call).pending .contributor = model.pending .contributor ∧
      call.contributor = some .contributor := by
    rcases releases with rfl | rfl
    · exact ⟨by simp only [FairnessModel.commit, Function.update_self], rfl, rfl⟩
    · exact ⟨by simp only [FairnessModel.commit, Function.update_self], rfl, rfl⟩
  obtain ⟨active, pending, names⟩ := erased
  refine ⟨?_, stage.next names ?_ ?_⟩
  · rw [stage.follows.outcome_release (stage.registered rfl) releases]
    exact if_congr listed rfl rfl
  · rw [FairnessModel.step]
    split
    · exact pending.trans stage.pending
    · exact stage.pending
  · rw [FairnessModel.step]
    cases working with
    | false => simp [permits, stage.active]
    | true => simp [permits, active, stage.active]

/-- What the read-only entry points answer at a stage. -/
theorem reads (stage : AtStage env orgId issueId maintained waiting working) :
    getGlobalApplicationCount env .contributor = (if waiting then 1 else 0) ∧
    getOrgAssignmentCount env .contributor orgId = (if working then 1 else 0) ∧
    hasApplied env .contributor orgId issueId = waiting := by
  obtain ⟨model, stage⟩ := stage
  have refines := stage.follows.refines
  refine ⟨UInt32.toNat_inj.mp ?_, UInt32.toNat_inj.mp ?_, Bool.eq_iff_iff.mpr ?_⟩
  · rw [refines.globalCount, stage.pending]
    cases waiting <;> simp
  · rw [refines.orgCount, FairnessModel.activeIn, stage.active]
    cases working <;> simp [Finset.filter_singleton]
  · rw [refines.hasApplied_iff, stage.pending]
    exact mem_single

end AtStage

end Stage

end Outcomes

section Frame

/-- The bits of `mask` in byte 5 of an input that has one. -/
def flagOf (data : List UInt8) (mask : UInt8) : Bool := data[5]?.any fun b => b &&& mask = mask

/-- What calls the input is about. -/
def Decoded (data : List UInt8) (calls : Symbol → UInt32 → List (Call Actor)) (made : List (Call Actor)) : Prop :=
  ∃ input org, decodeInput data = some input ∧ Symbol.new? input.org = some org ∧ made = calls org input.issueId

/-- The target returns early exactly on inputs shorter than five bytes. On the others the calls listed come back, and then
it is at its end or, where there is an error, dies on the contract's refusal with that error. -/
def FuzzRun.Ends (run : FuzzRun) (data : List UInt8) (calls : Symbol → UInt32 → List (Call Actor))
    (error : Option ContractError) : Prop :=
  match run with
  | .returned => data.length < 5
  | .aborted crash => 5 ≤ data.length ∧ Decoded data calls crash.calls ∧
      ∃ refusal, error = some refusal ∧ crash.panic = .refused (.contract refusal)
  | .finished state => 5 ≤ data.length ∧ Decoded data calls state.calls ∧ error = none

theorem isAlphanum_letter (b : UInt8) : (letter b).isAlphanum = true := by
  have small := Nat.mod_lt b.toNat (by decide : 0 < 26)
  have code : (letter b).val.toNat = b.toNat % 26 + 97 := by
    have value : (letter b).val = (b % 26 + 97).toUInt32 := rfl
    rw [value, UInt8.toNat_toUInt32, UInt8.toNat_add, UInt8.toNat_mod]
    simp only [UInt8.reduceToNat]
    omega
  have lower : (letter b).isLower = true := by
    have first : ('a' : Char).val ≤ (letter b).val := by
      rw [UInt32.le_iff_toNat_le, code]
      exact Nat.le_add_left 97 _
    have last : (letter b).val ≤ ('z' : Char).val := by
      rw [UInt32.le_iff_toNat_le, code]
      have end_code : ('z' : Char).val.toNat = 122 := rfl
      omega
    exact Bool.and_eq_true_iff.mpr ⟨decide_eq_true first, decide_eq_true last⟩
  have alpha : (letter b).isAlpha = true := Bool.or_eq_true_iff.mpr (Or.inr lower)
  exact Bool.or_eq_true_iff.mpr (Or.inl alpha)

theorem symbol_of_orgStr (bytes : List UInt8) : ∃ org, Symbol.new? (orgStr bytes) = some org := by
  have legal : isSymbolText (orgStr bytes) = true := by
    rw [isSymbolText, orgStr_toList, Bool.and_eq_true, decide_eq_true_eq, List.length_map, List.length_take,
      List.all_map, List.all_eq_true]
    refine ⟨Nat.min_le_left _ _, fun b _ => ?_⟩
    rw [Function.comp_apply, isAlphanum_letter, Bool.true_or]
  exact ⟨_, dif_pos legal⟩

theorem decodeInput_cases (data : List UInt8) : (data.length < 5 ∧ decodeInput data = none) ∨
    5 ≤ data.length ∧ ∃ input bytes, decodeInput data = some input ∧ input.org = orgStr bytes ∧
      input.firstFlag = flagOf data 1 ∧ input.secondFlag = flagOf data 2 := by
  match data with
  | [] => exact Or.inl ⟨by decide, rfl⟩
  | [_] => exact Or.inl ⟨by simp, rfl⟩
  | [_, _] => exact Or.inl ⟨by simp, rfl⟩
  | [_, _, _] => exact Or.inl ⟨by simp, rfl⟩
  | [_, _, _, _] => exact Or.inl ⟨by simp, rfl⟩
  | b₀ :: b₁ :: b₂ :: b₃ :: b₄ :: rest =>
    have letters : orgStr (b₄ :: rest) ≠ "" := by
      intro empty
      have chars := orgStr_toList (b₄ :: rest)
      rw [empty] at chars
      cases chars
    refine Or.inr ⟨by simp, _, b₄ :: rest, by rw [decodeInput, if_neg letters], rfl, ?_, ?_⟩
    · cases rest <;> rfl
    · cases rest <;> rfl

/-- How the body of a target comes to its end. -/
def BodyEnds (result : Except Crash FuzzState) (calls : List (Call Actor)) : Option ContractError → Prop
  | none => ∃ env, result = .ok ⟨env, calls⟩
  | some refusal => result = .error ⟨calls, .refused (.contract refusal)⟩

/-- What holds of the body of a target for all that it can decode. -/
theorem fuzzTarget_ends {body : FuzzInput → Symbol → Except Crash FuzzState} (data : List UInt8)
    (calls : Bool → Bool → Symbol → UInt32 → List (Call Actor)) (error : Bool → Bool → Option ContractError)
    (ends : ∀ input org, BodyEnds (body input org) (calls input.firstFlag input.secondFlag org input.issueId)
      (error input.firstFlag input.secondFlag)) :
    (fuzzTarget body data).Ends data (calls (flagOf data 1) (flagOf data 2)) (error (flagOf data 1) (flagOf data 2)) := by
  rcases decodeInput_cases data with ⟨short, nothing⟩ | ⟨long, input, bytes, decoded, org, first, second⟩
  · rw [fuzzTarget, nothing]
    exact short
  · obtain ⟨symbol, legal⟩ := symbol_of_orgStr bytes
    rw [← org] at legal
    have ended := ends input symbol
    rw [first, second] at ended
    have made (calls : Symbol → UInt32 → List (Call Actor)) : Decoded data calls (calls symbol input.issueId) :=
      ⟨input, symbol, decoded, legal, rfl⟩
    simp only [fuzzTarget, decoded, legal]
    cases expected : error (flagOf data 1) (flagOf data 2) with
    | none =>
      rw [expected] at ended
      obtain ⟨env, result⟩ := ended
      rw [result]
      exact ⟨long, made _, rfl⟩
    | some refusal =>
      rw [expected] at ended
      have result : body input symbol = _ := ended
      rw [result]
      exact ⟨long, made _, refusal, rfl, rfl⟩

end Frame

section Calls
variable {env : Env Actor} {calls : List (Call Actor)} {call : Call Actor}

theorem catchUnwind_ok (ended : outcome env everyone call = .ok ()) :
    FuzzState.catchUnwind ⟨env, calls⟩ [call] = .ok ⟨step env (.call everyone call), calls ++ [call]⟩ := by
  rw [FuzzState.catchUnwind, List.foldlM_cons, FuzzState.call, ended]
  rfl

theorem catchUnwind_refused {error : ContractError} (ended : outcome env everyone call = .error (.contract error)) :
    FuzzState.catchUnwind ⟨env, calls⟩ [call] = .error ⟨calls, .refused (.contract error)⟩ := by
  rw [FuzzState.catchUnwind, List.foldlM_cons, FuzzState.call, ended]
  rfl

theorem assert_of_true {state : FuzzState} {condition : Bool} (holds : condition = true) :
    state.assert condition = .ok state := by
  rw [FuzzState.assert, if_pos holds]

theorem initialized_stage (deployment : Deployment Actor) (orgId : Symbol) (issueId : UInt32) :
    outcome (.genesis deployment) everyone (.initializeContract .admin) = .ok () ∧
    AtStage (step (.genesis deployment) (.call everyone (.initializeContract .admin))) orgId issueId false false
      false := by
  have refines := refines_genesis deployment
  have permitted : (FairnessModel.initial Actor).Permits everyone (.initializeContract .admin) :=
    ⟨rfl, mem_everyone _⟩
  have allowed := (refines.allowed_iff everyone (.initializeContract .admin)).mpr permitted
  have next : (FairnessModel.initial Actor).step (.call everyone (.initializeContract .admin)) =
      { FairnessModel.initial Actor with admin := some .admin } := by
    rw [FairnessModel.step, if_pos permitted]
    rfl
  refine ⟨?_, _, ⟨step_refines trivial refines, ?_⟩, ?_, ?_, ?_, ?_, ?_⟩
  · rw [outcome_eq_guards]
    exact (Env.guards_eq_ok _).mpr allowed
  · rw [next]
  · exact fun impossible => absurd impossible Bool.false_ne_true
  · rw [next]
    rfl
  · rw [next]
    rfl
  · rw [next]
    rfl
  · rw [next]
    rfl

theorem setUp_stage (deployment : Deployment Actor) (orgId : Symbol) (issueId : UInt32) : ∃ env,
    (FuzzState.new deployment).catchUnwind (setUp orgId) = .ok ⟨env, setUp orgId⟩ ∧
      AtStage env orgId issueId true false false := by
  obtain ⟨first, model, stage⟩ := initialized_stage deployment orgId issueId
  generalize started : step (.genesis deployment) (.call everyone (.initializeContract .admin)) = env at stage
  have permitted : model.Permits everyone (.registerMaintainer .admin .maintainer orgId) :=
    ⟨.admin, stage.follows.initialized, mem_everyone _⟩
  have allowed := (stage.follows.refines.allowed_iff everyone _).mpr permitted
  have second : outcome env everyone (.registerMaintainer .admin .maintainer orgId) = .ok () := by
    rw [outcome_eq_guards]
    exact (Env.guards_eq_ok _).mpr allowed
  have next : model.step (.call everyone (.registerMaintainer .admin .maintainer orgId)) =
      { model with maintainers := insert (.maintainer, orgId) model.maintainers } := by
    rw [FairnessModel.step, if_pos permitted]
    rfl
  refine ⟨step env (.call everyone (.registerMaintainer .admin .maintainer orgId)), ?_, _,
    stage.follows.next _, ?_, ?_, ?_, ?_, ?_⟩
  · have begun : (FuzzState.new deployment).call (.initializeContract .admin) = .ok ⟨env, [.initializeContract .admin]⟩ := by
      simp only [FuzzState.call, FuzzState.new, first, started, List.nil_append]
    have ended : FuzzState.call ⟨env, [.initializeContract .admin]⟩ (.registerMaintainer .admin .maintainer orgId) =
        .ok ⟨step env (.call everyone (.registerMaintainer .admin .maintainer orgId)), setUp orgId⟩ := by
      simp only [FuzzState.call, second]
      rfl
    rw [FuzzState.catchUnwind, setUp, List.foldlM_cons, begun, ok_bind, List.foldlM_cons, ended]
    rfl
  · rw [next]
    exact fun _ => Finset.mem_insert_self _ _
  · rw [next]
    exact stage.globalCap
  · rw [next]
    exact stage.orgCap
  · rw [next]
    exact stage.pending
  · rw [next]
    exact stage.active

end Calls

section Results
variable (deployment : Deployment Actor)

/-- The calls of `fuzz_apply` before it dies on its second application. -/
def applyCalls (org : Symbol) (issueId : UInt32) : List (Call Actor) :=
  [.initializeContract .admin, .applyForIssue .contributor org issueId]

theorem fuzzApply_ends (data : List UInt8) :
    (runFuzzApply deployment data).Ends data applyCalls (some .duplicateApplication) := by
  refine fuzzTarget_ends data (fun _ _ => applyCalls) (fun _ _ => some .duplicateApplication) ?_
  intro input org
  obtain ⟨first, start⟩ := initialized_stage deployment org input.issueId
  obtain ⟨second, applied⟩ := start.apply
  obtain ⟨third, _⟩ := applied.apply
  simp only [FuzzState.new, catchUnwind_ok first, ok_bind, catchUnwind_ok second]
  exact catchUnwind_refused third

/-- The calls of `fuzz_assign` that come back, by whether the contributor applies. -/
def assignCalls (apply : Bool) (org : Symbol) (issueId : UInt32) : List (Call Actor) :=
  if apply then setUp org ++ [.applyForIssue .contributor org issueId, .assignIssue .maintainer .contributor org issueId,
    .completeAssignment .maintainer .contributor org issueId]
  else setUp org

def assignError (apply : Bool) : ContractError := if apply then .assignmentNotFound else .applicationNotFound

theorem fuzzAssign_ends (data : List UInt8) : (runFuzzAssign deployment data).Ends data (assignCalls (flagOf data 1))
    (some (assignError (flagOf data 1))) := by
  refine fuzzTarget_ends data (fun apply _ => assignCalls apply) (fun apply _ => some (assignError apply)) ?_
  intro input org
  obtain ⟨env, ready, start⟩ := setUp_stage deployment org input.issueId
  cases chosen : input.firstFlag with
  | true =>
    obtain ⟨first, applied⟩ := start.apply
    obtain ⟨second, assigned⟩ := applied.assign
    obtain ⟨third, completed⟩ := assigned.release (Or.inl rfl)
    obtain ⟨fourth, _⟩ := completed.release (Or.inr rfl)
    simp only [ready, ok_bind, if_true, catchUnwind_ok first, catchUnwind_ok second, catchUnwind_ok third]
    exact catchUnwind_refused fourth
  | false =>
    obtain ⟨first, _⟩ := start.assign
    simp only [ready, ok_bind, Bool.false_eq_true, if_false, pure_bind, catchUnwind_refused first, error_bind]
    exact rfl

/-- The calls of `fuzz_revoke` that come back. -/
def revokeCalls (fullCycle revokeBeforeAssign : Bool) (org : Symbol) (issueId : UInt32) : List (Call Actor) :=
  if fullCycle then setUp org ++ [.applyForIssue .contributor org issueId,
    .assignIssue .maintainer .contributor org issueId, .revokeAssignment .maintainer .contributor org issueId]
  else if revokeBeforeAssign then setUp org ++ [.applyForIssue .contributor org issueId]
  else setUp org

def revokeError (fullCycle : Bool) : Option ContractError := if fullCycle then none else some .assignmentNotFound

theorem fuzzRevoke_ends (data : List UInt8) : (runFuzzRevoke deployment data).Ends data
    (revokeCalls (flagOf data 1) (flagOf data 2)) (revokeError (flagOf data 1)) := by
  refine fuzzTarget_ends data revokeCalls (fun fullCycle _ => revokeError fullCycle) ?_
  intro input org
  obtain ⟨env, ready, start⟩ := setUp_stage deployment org input.issueId
  obtain ⟨first, applied⟩ := start.apply
  cases chosen : input.firstFlag with
  | true =>
    obtain ⟨second, assigned⟩ := applied.assign
    obtain ⟨third, revoked⟩ := assigned.release (Or.inr rfl)
    have zero := beq_iff_eq.mpr revoked.reads.2.1
    simp only [ready, ok_bind, if_true, catchUnwind_ok first, catchUnwind_ok second, catchUnwind_ok third]
    exact ⟨_, assert_of_true zero⟩
  | false =>
    cases before : input.secondFlag with
    | true =>
      obtain ⟨second, _⟩ := applied.release (Or.inr rfl)
      simp only [ready, ok_bind, Bool.false_eq_true, if_false, if_true, catchUnwind_ok first]
      exact catchUnwind_refused second
    | false =>
      obtain ⟨second, _⟩ := start.release (Or.inr rfl)
      simp only [ready, ok_bind, Bool.false_eq_true, if_false]
      exact catchUnwind_refused second

/-- The calls of `fuzz_withdraw` that come back. -/
def withdrawCalls (applyFirst : Bool) (org : Symbol) (issueId : UInt32) : List (Call Actor) :=
  if applyFirst then [.initializeContract .admin, .applyForIssue .contributor org issueId,
    .withdrawApplication .contributor org issueId]
  else [.initializeContract .admin]

def withdrawError (applyFirst doubleWithdraw : Bool) : Option ContractError :=
  if applyFirst && !doubleWithdraw then none else some .applicationNotFound

theorem fuzzWithdraw_ends (data : List UInt8) : (runFuzzWithdraw deployment data).Ends data
    (withdrawCalls (flagOf data 1)) (withdrawError (flagOf data 1) (flagOf data 2)) := by
  refine fuzzTarget_ends data (fun applyFirst _ => withdrawCalls applyFirst) withdrawError ?_
  intro input org
  obtain ⟨first, start⟩ := initialized_stage deployment org input.issueId
  cases chosen : input.firstFlag with
  | true =>
    obtain ⟨second, applied⟩ := start.apply
    obtain ⟨third, withdrawn⟩ := applied.withdraw
    obtain ⟨fourth, _⟩ := withdrawn.withdraw
    obtain ⟨count, _, missing⟩ := withdrawn.reads
    have zero := beq_iff_eq.mpr (count.trans (if_neg Bool.false_ne_true))
    have gone := (congrArg Bool.not missing).trans Bool.not_false
    cases double : input.secondFlag with
    | true =>
      simp only [FuzzState.new, catchUnwind_ok first, ok_bind, if_true, catchUnwind_ok second, catchUnwind_ok third,
        assert_of_true zero, assert_of_true gone, catchUnwind_refused fourth, error_bind]
      exact rfl
    | false =>
      simp only [FuzzState.new, catchUnwind_ok first, ok_bind, if_true, Bool.false_eq_true, if_false,
        catchUnwind_ok second, catchUnwind_ok third, assert_of_true zero, assert_of_true gone]
      exact ⟨_, rfl⟩
  | false =>
    obtain ⟨second, _⟩ := start.withdraw
    simp only [FuzzState.new, catchUnwind_ok first, ok_bind, Bool.false_eq_true, if_false, pure_bind,
      catchUnwind_refused second, error_bind]
    exact rfl

end Results

section Batch

/-- How a batch stands after some ids that were let in. -/
structure BatchInv (state : FuzzState) (ids : List UInt32) (model : FairnessModel Actor) : Prop where
  follows : Follows state.env model
  globalCap : model.globalCap = 15
  pending : model.pending .contributor = ids.toFinset.image fun id => (fuzzOrg, id)
  nodup : ids.Nodup
  bound : ids.length ≤ 15
  calls : state.calls = .initializeContract .admin :: ids.map applyTo

/-- Why the next id of a batch is refused. -/
inductive Refuses (done : List UInt32) (id : UInt32) : ContractError → Prop
  | limit (full : done.length = 15) : Refuses done id .globalApplicationLimitReached
  | duplicate (room : done.length < 15) (again : id ∈ done) : Refuses done id .duplicateApplication

theorem BatchInv.size {state : FuzzState} {ids : List UInt32} {model : FairnessModel Actor}
    (inv : BatchInv state ids model) : (model.pending .contributor).card = ids.length := by
  have pairs : Function.Injective fun id : UInt32 => (fuzzOrg, id) := fun _ _ same => (Prod.mk.inj same).2
  rw [inv.pending, Finset.card_image_of_injective _ pairs, List.toFinset_card_of_nodup inv.nodup]

/-- The next id is let in, or the target dies on it. -/
theorem BatchInv.next {state : FuzzState} {ids : List UInt32} {model : FairnessModel Actor}
    (inv : BatchInv state ids model) (id : UInt32) :
    (∃ after model', state.catchUnwind [applyTo id] = .ok after ∧ BatchInv after (ids ++ [id]) model') ∨
      ∃ error, Refuses ids id error ∧
        state.catchUnwind [applyTo id] = .error ⟨state.calls, .refused (.contract error)⟩ := by
  have size := inv.size
  have listed : (fuzzOrg, id) ∈ model.pending .contributor ↔ id ∈ ids := by
    rw [inv.pending, Finset.mem_image]
    constructor
    · rintro ⟨other, member, same⟩
      exact List.mem_toFinset.mp ((Prod.mk.inj same).2 ▸ member)
    · exact fun member => ⟨id, List.mem_toFinset.mpr member, rfl⟩
  have ended := inv.follows.outcome_apply fuzzOrg id
  rw [inv.globalCap, size] at ended
  by_cases full : 15 ≤ ids.length
  · rw [if_pos full] at ended
    exact Or.inr ⟨_, .limit (Nat.le_antisymm inv.bound full), catchUnwind_refused ended⟩
  · have room := Nat.lt_of_not_le full
    rw [if_neg full] at ended
    by_cases again : id ∈ ids
    · rw [if_pos (listed.mpr again)] at ended
      exact Or.inr ⟨_, .duplicate room again, catchUnwind_refused ended⟩
    · rw [if_neg fun member => again (listed.mp member)] at ended
      have permitted : model.Permits everyone (applyTo id) := by
        have admin := inv.follows.isSome_admin
        refine ⟨admin, mem_everyone _, ?_, fun member => again (listed.mp member)⟩
        rw [size, inv.globalCap]
        exact room
      have moves : model.step (.call everyone (applyTo id)) = model.commit (applyTo id) := if_pos permitted
      have follows := inv.follows.next (applyTo id)
      rw [moves] at follows
      refine Or.inl ⟨_, _, catchUnwind_ok ended, follows, inv.globalCap, ?_, ?_, ?_, ?_⟩
      · have grown : (ids ++ [id]).toFinset = insert id ids.toFinset := by
          rw [List.toFinset_append, Finset.union_comm]
          rfl
        rw [grown, Finset.image_insert, ← inv.pending]
        simp only [applyTo, FairnessModel.commit, Function.update_self]
      · exact List.nodup_append.mpr ⟨inv.nodup, List.nodup_singleton id, fun other member own isId same =>
          again (List.mem_singleton.mp isId ▸ same ▸ member)⟩
      · rw [List.length_append, List.length_singleton]
        exact room
      · rw [inv.calls, List.map_append]
        rfl

/-- A batch lets in the ids up to the first that the contract refuses. -/
theorem BatchInv.run {state : FuzzState} {ids : List UInt32} {model : FairnessModel Actor}
    (inv : BatchInv state ids model) (rest : List UInt32) :
    (∃ after model', rest.foldlM (fun state issueId => state.catchUnwind [applyTo issueId]) state = .ok after ∧
      BatchInv after (ids ++ rest) model') ∨
    ∃ more id behind error, rest = more ++ id :: behind ∧ (ids ++ more).Nodup ∧ (ids ++ more).length ≤ 15 ∧
      Refuses (ids ++ more) id error ∧
      rest.foldlM (fun state issueId => state.catchUnwind [applyTo issueId]) state =
        .error ⟨.initializeContract .admin :: (ids ++ more).map applyTo, .refused (.contract error)⟩ := by
  induction rest generalizing state ids model with
  | nil => exact Or.inl ⟨state, model, rfl, (List.append_nil ids).symm ▸ inv⟩
  | cons id rest ih =>
    rw [List.foldlM_cons]
    rcases inv.next id with ⟨after, model', admitted, inv'⟩ | ⟨error, refuses, refused⟩
    · rw [admitted, ok_bind]
      rcases ih inv' with ⟨last, model'', ran, done⟩ | ⟨more, other, behind, error, split, nodup, bound, refuses, ran⟩
      · refine Or.inl ⟨last, model'', ran, ?_⟩
        rwa [List.append_assoc, List.singleton_append] at done
      · rw [List.append_assoc, List.singleton_append] at nodup bound refuses ran
        exact Or.inr ⟨id :: more, other, behind, error, by rw [split, List.cons_append], nodup, bound, refuses, ran⟩
    · rw [refused, error_bind, inv.calls]
      have whole : ids ++ [] = ids := List.append_nil ids
      refine Or.inr ⟨[], id, rest, error, rfl, ?_⟩
      rw [whole]
      exact ⟨inv.nodup, inv.bound, refuses, rfl⟩

theorem batch_start (deployment : Deployment Actor) : ∃ state model,
    (FuzzState.new deployment).catchUnwind [.initializeContract .admin] = .ok state ∧ BatchInv state [] model := by
  obtain ⟨first, model, stage⟩ := initialized_stage deployment fuzzOrg 0
  exact ⟨_, model, catchUnwind_ok first, stage.follows, stage.globalCap, stage.pending, List.nodup_nil,
    Nat.zero_le 15, rfl⟩

/-- `struct.pack("<H", x & 0xFFFF)` for each id. -/
def packBatch (issueIds : List Int) : List UInt8 :=
  issueIds.flatMap fun x =>
    let n := (x % 2 ^ 16).toNat
    [UInt8.ofNat n, UInt8.ofNat (n / 2 ^ 8)]

theorem chunkId_pack {n : Nat} (small : n < 2 ^ 16) :
    chunkId [UInt8.ofNat n, UInt8.ofNat (n / 2 ^ 8)] = UInt32.ofNat n := by
  have low : (UInt8.ofNat n).toUInt32.toNat = n % 2 ^ 8 := by rw [UInt8.toNat_toUInt32, UInt8.toNat_ofNat']
  have high : (UInt8.ofNat (n / 2 ^ 8)).toUInt32.toNat = n / 2 ^ 8 := by
    rw [UInt8.toNat_toUInt32, UInt8.toNat_ofNat']
    omega
  refine UInt32.toNat_inj.mp ?_
  simp only [chunkId, List.getElem?_cons_zero, List.getElem?_cons_succ, Option.getD_some, UInt32.toNat_or,
    UInt32.toNat_shiftLeft, low, high, UInt32.toNat_ofNat', UInt32.reduceToNat, Nat.reduceMod]
  have shifted : (n / 2 ^ 8) <<< 8 % 2 ^ 32 = (n / 2 ^ 8) <<< 8 := by
    rw [Nat.shiftLeft_eq]
    omega
  rw [shifted, ← Nat.shiftLeft_add_eq_or_of_lt (Nat.mod_lt n (by decide)), Nat.shiftLeft_eq]
  omega

/-- The seeds of the batch target are read back as they were packed. -/
theorem batchIds_packBatch (issueIds : List Int) : batchIds (packBatch issueIds) =
    ((issueIds.take 20).map fun x => UInt32.ofNat (x % 2 ^ 16).toNat).filter (0 < ·) := by
  have chunks : chunksOfTwo (packBatch issueIds) = issueIds.map fun x =>
      [UInt8.ofNat (x % 2 ^ 16).toNat, UInt8.ofNat ((x % 2 ^ 16).toNat / 2 ^ 8)] := by
    induction issueIds with
    | nil => rfl
    | cons x rest ih => rw [packBatch, List.flatMap_cons, List.map_cons, ← ih]; rfl
  rw [batchIds, chunks, ← List.map_take, List.map_map]
  refine congrArg (List.filter _) (List.map_congr_left fun x _ => chunkId_pack ?_)
  omega

/-- How the batch target ends. -/
def BatchEnds (data : List UInt8) (run : FuzzRun) : Prop :=
  match run with
  | .returned => data.length < 2
  | .finished state => 2 ≤ data.length ∧ (batchIds data).Nodup ∧ (batchIds data).length ≤ 15 ∧
      state.calls = .initializeContract .admin :: (batchIds data).map applyTo ∧
      (getGlobalApplicationCount state.env .contributor).toNat = (batchIds data).length
  | .aborted crash => 2 ≤ data.length ∧ ∃ done id behind error, batchIds data = done ++ id :: behind ∧ done.Nodup ∧
      done.length ≤ 15 ∧ Refuses done id error ∧
      crash = ⟨.initializeContract .admin :: done.map applyTo, .refused (.contract error)⟩

theorem batchEnds_run (deployment : Deployment Actor) (data : List UInt8) :
    BatchEnds data (runFuzzBatchApply deployment data) := by
  rw [runFuzzBatchApply]
  by_cases short : data.length < 2
  · rw [if_pos short]
    exact short
  · obtain ⟨state, model, begun, inv⟩ := batch_start deployment
    rw [if_neg short, begun, ok_bind]
    rcases inv.run (batchIds data) with ⟨after, model', ran, done⟩ | ⟨done, id, behind, error, split, nodup, bound,
        refuses, ran⟩
    · rw [List.nil_append] at done
      have count := (done.follows.refines.globalCount .contributor).trans done.size
      have few : decide (getGlobalApplicationCount after.env .contributor ≤ 15) = true := by
        refine decide_eq_true (UInt32.le_iff_toNat_le.mpr ?_)
        rw [count]
        exact done.bound
      rw [ran, ok_bind, assert_of_true few]
      exact ⟨not_lt.mp short, done.nodup, done.bound, done.calls, count⟩
    · rw [ran, error_bind]
      exact ⟨not_lt.mp short, done, id, behind, error, split, nodup, bound, refuses, rfl⟩

/-- A batch with a refusal has an id twice or more than fifteen. -/
theorem Refuses.not_all {done behind : List UInt32} {id : UInt32} {error : ContractError} (refuses : Refuses done id error) :
    ¬ ((done ++ id :: behind).Nodup ∧ (done ++ id :: behind).length ≤ 15) := by
  rintro ⟨nodup, bound⟩
  cases refuses with
  | limit full =>
    rw [List.length_append, List.length_cons] at bound
    omega
  | duplicate room again => exact (List.nodup_append.mp nodup).2.2 id again id List.mem_cons_self rfl

/-- The batch target comes to its end exactly on batches of at most fifteen different ids, with all of them let in; on
the others it dies on the first that is there twice or finds no room. Its seeds are read back as they were packed. -/
theorem fuzz_batch_target_ends (deployment : Deployment Actor) (data : List UInt8) :
    BatchEnds data (runFuzzBatchApply deployment data) ∧
    ((∃ state, runFuzzBatchApply deployment data = .finished state) ↔
      2 ≤ data.length ∧ (batchIds data).Nodup ∧ (batchIds data).length ≤ 15) ∧
    ∀ issueIds : List Int, data = packBatch issueIds → batchIds data =
      ((issueIds.take 20).map fun x => UInt32.ofNat (x % 2 ^ 16).toNat).filter (0 < ·) := by
  have ends := batchEnds_run deployment data
  refine ⟨ends, ?_, fun issueIds packed => packed ▸ batchIds_packBatch issueIds⟩
  constructor
  · rintro ⟨state, finished⟩
    rw [finished] at ends
    exact ⟨ends.1, ends.2.1, ends.2.2.1⟩
  · rintro ⟨long, all⟩
    cases ran : runFuzzBatchApply deployment data with
    | returned =>
      rw [ran] at ends
      exact absurd ends (not_lt.mpr long)
    | finished state => exact ⟨state, rfl⟩
    | aborted crash =>
      rw [ran] at ends
      obtain ⟨_, done, id, behind, error, split, _, _, refuses, _⟩ := ends
      exact absurd (split ▸ all) refuses.not_all

end Batch

/-- The other four targets on every input: they return early exactly on inputs that are too short, no assertion they make
fails, and on the rest `fuzz_apply` and `fuzz_assign` always die, `fuzz_revoke` without its first flag, and
`fuzz_withdraw` without its first or with its second, each on the refusal it was written to provoke. -/
theorem fuzz_targets_end (deployment : Deployment Actor) (data : List UInt8) :
    (runFuzzApply deployment data).Ends data applyCalls (some .duplicateApplication) ∧
    (runFuzzAssign deployment data).Ends data (assignCalls (flagOf data 1)) (some (assignError (flagOf data 1))) ∧
    (runFuzzRevoke deployment data).Ends data (revokeCalls (flagOf data 1) (flagOf data 2))
      (revokeError (flagOf data 1)) ∧
    (runFuzzWithdraw deployment data).Ends data (withdrawCalls (flagOf data 1))
      (withdrawError (flagOf data 1) (flagOf data 2)) :=
  ⟨fuzzApply_ends deployment data, fuzzAssign_ends deployment data, fuzzRevoke_ends deployment data,
    fuzzWithdraw_ends deployment data⟩

section Seeds

/-- The apply flag goes into bit 0 of byte 5 or, where there is none, to the end. -/
def packApplyWithFlag (issueId : Int) (org : List UInt8) (applyFlag : Int) : List UInt8 :=
  let data := packApply issueId org
  let flag := UInt8.ofNat (applyFlag % 2).toNat
  if more : 5 < data.length then data.set 5 ((data[5] &&& 0xFE) ||| flag) else data ++ [flag]

variable {issueId : Int} {org : List UInt8} {first second : Int}

theorem flag_bit (flag : Int) : UInt8.ofNat (flag % 2).toNat &&& 1 = 1 ↔ flag % 2 = 1 := by
  rcases Int.emod_two_eq flag with even | odd
  · rw [even]
    decide
  · rw [odd]
    decide

theorem cleared_or (b flag keep mask : UInt8) (clear : keep &&& mask = 0) :
    (b &&& keep ||| flag) &&& mask = flag &&& mask := by
  have split : (b &&& keep ||| flag) &&& mask = b &&& keep &&& mask ||| flag &&& mask := by
    refine UInt8.toNat_inj.mp ?_
    rw [UInt8.toNat_and, UInt8.toNat_or, UInt8.toNat_or, UInt8.toNat_and _ mask, UInt8.toNat_and flag,
      Nat.and_or_distrib_right]
  rw [split, UInt8.and_assoc, clear, UInt8.and_zero, UInt8.zero_or]

theorem flagOf_packApplyWithFlag (some_byte : org ≠ []) :
    flagOf (packApplyWithFlag issueId org first) 1 = decide (first % 2 = 1) := by
  rcases org with _ | ⟨a, _ | ⟨b, rest⟩⟩
  · exact absurd rfl some_byte
  · have packed : packApplyWithFlag issueId [a] first = packApply issueId [a, UInt8.ofNat (first % 2).toNat] := by
      unfold packApplyWithFlag
      dsimp only
      rw [dif_neg (by simp [packApply])]
      rfl
    rw [packed]
    exact decide_eq_decide.mpr (flag_bit first)
  · have packed : packApplyWithFlag issueId (a :: b :: rest) first =
        packApply issueId (a :: (b &&& 0xFE ||| UInt8.ofNat (first % 2).toNat) :: rest) := by
      unfold packApplyWithFlag
      dsimp only
      rw [dif_pos (by simp [packApply])]
      rfl
    have cleared := cleared_or b (UInt8.ofNat (first % 2).toNat) 0xFE 1 (by decide)
    rw [packed]
    refine (decide_eq_decide.mpr ?_ : _ = decide (first % 2 = 1))
    rw [cleared]
    exact flag_bit first

theorem flagOf_packControl (some_byte : org ≠ []) {ctrl mask : UInt8} (clear : 0xFC &&& mask = 0) :
    flagOf (packControl issueId org ctrl) mask = decide (ctrl &&& mask = mask) := by
  rw [packControl_eq]
  rcases org with _ | ⟨a, _ | ⟨b, rest⟩⟩
  · exact absurd rfl some_byte
  · rfl
  · have masked := masked_or b ctrl mask clear
    simp only [flagOf, packApply, withControl, List.cons_append, List.nil_append, List.getElem?_cons_succ,
      List.getElem?_cons_zero, Option.any_some, masked]

/-- Every seed with some byte of an org takes its target as far as its flags name, and no further than the first
refusal. -/
theorem seeds_drive_targets (deployment : Deployment Actor) (some_byte : org ≠ []) (issueId first second : Int) :
    (runFuzzAssign deployment (packApplyWithFlag issueId org first)).Ends (packApplyWithFlag issueId org first)
      (assignCalls (first % 2 = 1)) (some (assignError (first % 2 = 1))) ∧
    (runFuzzRevoke deployment (packRevoke issueId org first second)).Ends (packRevoke issueId org first second)
      (revokeCalls (first % 2 = 1) (second % 2 = 1)) (revokeError (first % 2 = 1)) ∧
    (runFuzzWithdraw deployment (packWithdraw issueId org first second)).Ends (packWithdraw issueId org first second)
      (withdrawCalls (first % 2 = 1)) (withdrawError (first % 2 = 1) (second % 2 = 1)) := by
  have flags := controlBits_flags first second
  have low : flagOf (packControl issueId org (controlBits first second)) 1 = decide (first % 2 = 1) :=
    (flagOf_packControl some_byte (by decide)).trans (decide_eq_decide.mpr flags.1)
  have high : flagOf (packControl issueId org (controlBits first second)) 2 = decide (second % 2 = 1) :=
    (flagOf_packControl some_byte (by decide)).trans (decide_eq_decide.mpr flags.2)
  refine ⟨?_, ?_, ?_⟩
  · rw [← flagOf_packApplyWithFlag some_byte]
    exact fuzzAssign_ends deployment _
  · rw [← low, ← high]
    exact fuzzRevoke_ends deployment _
  · rw [← low, ← high]
    exact fuzzWithdraw_ends deployment _

/-- A seed that asks for the full cycle gets it, and one that asks for a revocation only is a crash. -/
theorem full_cycle_seed_comes_to_its_end :
    (runFuzzRevoke (.release Actor) (packRevoke 1 [111, 114, 103] 1 0)).Ends (packRevoke 1 [111, 114, 103] 1 0)
      (revokeCalls true false) none ∧
    (runFuzzRevoke (.release Actor) (packRevoke 1 [111, 114, 103] 0 0)).Ends (packRevoke 1 [111, 114, 103] 0 0)
      (revokeCalls false false) (some .assignmentNotFound) := by
  have some_byte : ([111, 114, 103] : List UInt8) ≠ [] := by decide
  exact ⟨(seeds_drive_targets (.release Actor) some_byte 1 1 0).2.1,
    (seeds_drive_targets (.release Actor) some_byte 1 0 0).2.1⟩

end Seeds

end WorkloadGovernor
