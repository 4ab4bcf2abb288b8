import WorkloadGovernor.Lib.Tally
import WorkloadGovernor.Runs

namespace WorkloadGovernor
open Tally
variable {Address : Type} [DecidableEq Address]

/-- The issues of an organisation a contributor is assigned to. -/
def assigned (env : Env Address) (contributor : Address) (orgId : Symbol) : Set UInt32 :=
  {issueId | isAssigned env contributor orgId issueId = true}

/-- A contributor's assignments in one organisation with their counter. -/
def assignmentTally (env : Env Address) (contributor : Address) (orgId : Symbol) : Tally UInt32 where
  members := assigned env contributor orgId
  counter := (env.storage.oAsgn (contributor, orgId)).map UInt32.toNat

/-- What a call does to the assignments of one contributor in one organisation. -/
def assignmentOp (contributor : Address) (orgId : Symbol) : Call Address → Op UInt32
  | .assignIssue _ c o issueId => if (c, o) = (contributor, orgId) then .enrol issueId else .idle
  | .completeAssignment _ c o issueId => if (c, o) = (contributor, orgId) then .dismiss issueId else .idle
  | .revokeAssignment _ c o issueId => if (c, o) = (contributor, orgId) then .dismiss issueId else .idle
  | _ => .idle

theorem mem_enrol_iff {c contributor : Address} {o orgId : Symbol} {i issueId : UInt32} {issues : Set UInt32} :
    issueId ∈ (if (c, o) = (contributor, orgId) then Op.enrol i else .idle).on issues ↔
      (contributor, orgId, issueId) = (c, o, i) ∨ issueId ∈ issues := by
  by_cases same : (c, o) = (contributor, orgId)
  · cases same
    simp [Op.on]
  · have other : (contributor, orgId, issueId) ≠ (c, o, i) := by
      intro equal
      cases equal
      exact same rfl
    simp only [same, other, if_false, Op.on, false_or]

theorem mem_dismiss_iff {c contributor : Address} {o orgId : Symbol} {i issueId : UInt32}
    {issues : Set UInt32} :
    issueId ∈ (if (c, o) = (contributor, orgId) then Op.dismiss i else .idle).on issues ↔
      (contributor, orgId, issueId) ≠ (c, o, i) ∧ issueId ∈ issues := by
  by_cases same : (c, o) = (contributor, orgId)
  · cases same
    simp [Op.on, and_comm]
  · have other : (contributor, orgId, issueId) ≠ (c, o, i) := by
      intro equal
      cases equal
      exact same rfl
    simp only [same, if_false, Op.on, ne_eq, other, not_false_eq_true, true_and]

/-- Only an assignment to the contributor is an enrolment. -/
theorem assignmentOp_enrol {contributor : Address} {orgId : Symbol} {call : Call Address} {issueId : UInt32}
    (enrolled : assignmentOp contributor orgId call = .enrol issueId) :
    ∃ maintainer, call = .assignIssue maintainer contributor orgId issueId := by
  cases call with
  | assignIssue maintainer c o i =>
    simp only [assignmentOp] at enrolled
    split at enrolled
    · rename_i same
      cases same
      cases enrolled
      exact ⟨maintainer, rfl⟩
    · cases enrolled
  | completeAssignment maintainer c o i => simp [assignmentOp, ite_eq_iff] at enrolled
  | revokeAssignment maintainer c o i => simp [assignmentOp, ite_eq_iff] at enrolled
  | _ => cases enrolled

section Tally
variable {env : Env Address} {contributor : Address} {orgId : Symbol}

omit [DecidableEq Address] in
theorem count_assignmentTally :
    (assignmentTally env contributor orgId).count = (env.getOrgAssignmentCount contributor orgId).toNat := by
  simp only [Tally.count, assignmentTally, Env.getOrgAssignmentCount]
  cases env.storage.oAsgn (contributor, orgId) <;> simp

omit [DecidableEq Address] in
theorem assignmentTally_congr (env : Env Address) {after : Env Address}
    (asgn : after.storage.asgn = env.storage.asgn) (oAsgn : after.storage.oAsgn = env.storage.oAsgn) :
    assignmentTally after contributor orgId = assignmentTally env contributor orgId := by
  unfold assignmentTally assigned isAssigned Env.hasAssignment
  rw [asgn, oAsgn]

theorem hasAssignment_write (env : Env Address) (value : Option Bool) (o o' : Symbol) (i i' : UInt32)
    (c c' : Address) :
    ((write env.storage.asgn (o, i, c) value) (o', i', c')).getD false =
      if (c', o') = (c, o) ∧ i' = i then value.getD false else env.hasAssignment o' i' c' := by
  by_cases same : (c', o') = (c, o) ∧ i' = i
  · obtain ⟨pair, rfl⟩ := same
    cases pair
    simp only [write_self, and_self, if_true]
  · have other : (o', i', c') ≠ (o, i, c) := by
      rintro equal
      cases equal
      exact same ⟨rfl, rfl⟩
    rw [write_of_ne other, if_neg same]
    rfl

/-- An assignment of another contributor, or in another organisation, is written. -/
theorem assignmentTally_apart (env : Env Address) {after : Env Address} {c : Address} {o : Symbol} {issueId : UInt32}
    {value : Option Bool} {count : Option UInt32} (other : (contributor, orgId) ≠ (c, o))
    (asgn : after.storage.asgn = write env.storage.asgn (o, issueId, c) value)
    (oAsgn : after.storage.oAsgn = write env.storage.oAsgn (c, o) count) :
    assignmentTally after contributor orgId = assignmentTally env contributor orgId := by
  unfold assignmentTally
  congr 1
  · ext i
    simp only [assigned, isAssigned, Env.hasAssignment, asgn, Set.mem_ofPred_eq, hasAssignment_write, other,
      false_and, if_false]
  · rw [oAsgn, write_of_ne other]

theorem assignmentTally_occupied (env : Env Address) {c : Address} {o : Symbol} {issueId : UInt32}
    (room : env.getOrgAssignmentCount c o < env.getOrgCap o) :
    assignmentTally (env.occupied c o issueId) contributor orgId =
      (assignmentTally env contributor orgId).apply
        (if (c, o) = (contributor, orgId) then .enrol issueId else .idle) := by
  by_cases same : (c, o) = (contributor, orgId)
  · cases same
    simp only [if_true, Tally.apply, Tally.enrol, count_assignmentTally]
    unfold assignmentTally
    congr 1
    · ext i
      simp only [assigned, isAssigned, Env.hasAssignment, Env.occupied, Set.mem_ofPred_eq,
        hasAssignment_write, true_and, Set.mem_insert_iff, Option.getD_some]
      by_cases equal : i = issueId <;> simp [equal]
    · simp only [Env.occupied, write_self, Option.map_some, Checked.toNat_add_one room]
  · rw [if_neg same]
    exact assignmentTally_apart env (fun equal => same equal.symm) rfl rfl

theorem assignmentTally_released (env : Env Address) {c : Address} {o : Symbol} {issueId : UInt32} :
    assignmentTally (env.released c o issueId) contributor orgId =
      (assignmentTally env contributor orgId).apply
        (if (c, o) = (contributor, orgId) then .dismiss issueId else .idle) := by
  by_cases same : (c, o) = (contributor, orgId)
  · cases same
    simp only [if_true, Tally.apply, Tally.dismiss, count_assignmentTally]
    unfold assignmentTally
    congr 1
    · ext i
      simp only [assigned, isAssigned, Env.hasAssignment, Env.released, Set.mem_ofPred_eq,
        hasAssignment_write, true_and, Set.mem_sdiff, Set.mem_singleton_iff, Option.getD_none]
      by_cases equal : i = issueId <;> simp [equal]
    · have zero : Checked.saturatingSub (env.getOrgAssignmentCount contributor orgId) 1 = 0 ↔
          (env.getOrgAssignmentCount contributor orgId).toNat - 1 = 0 := Checked.saturatingSub_one_eq_zero
      by_cases last : (env.getOrgAssignmentCount contributor orgId).toNat - 1 = 0
      · simp [Env.released, zero.mpr last, last]
      · simp [Env.released, zero, last]
  · rw [if_neg same]
    exact assignmentTally_apart env (fun equal => same equal.symm) rfl rfl

theorem assignmentTally_consumed (env : Env Address) (c : Address) (o : Symbol) (issueId : UInt32) :
    assignmentTally (env.consumed c o issueId) contributor orgId = assignmentTally env contributor orgId :=
  assignmentTally_congr env rfl rfl

/-- The effect of an allowed call, as the tally of one contributor and organisation sees it. -/
theorem assignmentTally_effect {call : Call Address} (allowed : env.Allowed call) :
    assignmentTally (env.effect call) contributor orgId =
      (assignmentTally env contributor orgId).apply (assignmentOp contributor orgId call) := by
  have entries : assignmentTally (env.effect call) contributor orgId =
      assignmentTally (env.change call) contributor orgId := assignmentTally_congr _ rfl rfl
  rw [entries]
  cases call with
  | assignIssue maintainer c o issueId =>
    obtain ⟨_, _, room, _⟩ := allowed
    refine (assignmentTally_occupied (env.consumed c o issueId) room).trans ?_
    rw [assignmentTally_consumed env c o issueId]
    rfl
  | completeAssignment maintainer c o issueId => exact assignmentTally_released env
  | revokeAssignment maintainer c o issueId => exact assignmentTally_released env
  | _ => exact assignmentTally_congr env rfl rfl

theorem assigned_effect {call : Call Address} (allowed : env.Allowed call) (contributor : Address)
    (orgId : Symbol) : assigned (env.effect call) contributor orgId =
      (assignmentOp contributor orgId call).on (assigned env contributor orgId) := by
  have whole : assignmentTally (env.effect call) contributor orgId =
      (assignmentTally env contributor orgId).apply (assignmentOp contributor orgId call) :=
    assignmentTally_effect allowed
  have members := congrArg Tally.members whole
  rw [members_apply] at members
  exact members

/-- Only an assignment to the contributor adds an issue. -/
theorem assigned_of_effect {call : Call Address} (allowed : env.Allowed call) {issueId : UInt32}
    (member : issueId ∈ assigned (env.effect call) contributor orgId) :
    issueId ∈ assigned env contributor orgId ∨
      ∃ maintainer, call = .assignIssue maintainer contributor orgId issueId := by
  rw [assigned_effect allowed] at member
  rcases Op.mem_on member with old | enrolled
  · exact Or.inl old
  · exact Or.inr (assignmentOp_enrol enrolled)

/-- An assignment completed or revoked is gone. -/
theorem not_mem_assigned_of_dismiss {call : Call Address} (allowed : env.Allowed call) {issueId : UInt32}
    (dismisses : assignmentOp contributor orgId call = .dismiss issueId) :
    issueId ∉ assigned (env.effect call) contributor orgId := by
  rw [assigned_effect allowed, dismisses]
  exact fun member => member.2 rfl

theorem assigned_subset_assignIssue {maintainer c : Address} {o : Symbol} {i : UInt32}
    (allowed : env.Allowed (.assignIssue maintainer c o i)) (contributor : Address) (orgId : Symbol) :
    assigned env contributor orgId ⊆ assigned (env.effect (.assignIssue maintainer c o i)) contributor orgId := by
  rw [assigned_effect allowed]
  by_cases same : (c, o) = (contributor, orgId)
  · simp only [assignmentOp, same, if_true, Op.on]
    exact Set.subset_insert _ _
  · simp only [assignmentOp, same, if_false, Op.on]
    exact subset_rfl

theorem mem_assigned_assignIssue {maintainer : Address} {issueId : UInt32}
    (allowed : env.Allowed (.assignIssue maintainer contributor orgId issueId)) :
    issueId ∈ assigned (env.effect (.assignIssue maintainer contributor orgId issueId)) contributor orgId := by
  rw [assigned_effect allowed]
  simp only [assignmentOp, if_true, Op.on]
  exact Set.mem_insert _ _

theorem assignmentOp_legal {call : Call Address} (allowed : env.Allowed call) :
    (assignmentTally env contributor orgId).Legal (assignmentOp contributor orgId call) := by
  cases call with
  | assignIssue maintainer c o issueId =>
    obtain ⟨_, _, _, missing⟩ := allowed
    simp only [assignmentOp]
    split
    · rename_i same
      cases same
      rw [Tally.Legal]
      exact fun member => Bool.false_ne_true (missing.symm.trans member)
    · trivial
  | completeAssignment maintainer c o issueId =>
    obtain ⟨_, present, _⟩ := allowed
    simp only [assignmentOp]
    split
    · rename_i same
      cases same
      exact present
    · trivial
  | revokeAssignment maintainer c o issueId =>
    obtain ⟨_, present, _⟩ := allowed
    simp only [assignmentOp]
    split
    · rename_i same
      cases same
      exact present
    · trivial
  | _ => trivial

end Tally

section Invariant
variable {env : Env Address} {contributor : Address} {orgId : Symbol}

/-- What every reachable state owes each contributor and organisation about assignments. -/
structure AssignmentInv (env : Env Address) : Prop where
  tallied : ∀ contributor orgId, (assignmentTally env contributor orgId).Exact
  capped : ∀ orgId, env.getOrgCap orgId ≤ orgCapMax
  limited : ∀ contributor orgId, env.getOrgAssignmentCount contributor orgId ≤ orgCapMax

omit [DecidableEq Address] in
theorem assignmentInv_genesis (deployment : Deployment Address) :
    AssignmentInv (Env.genesis deployment) where
  tallied := fun contributor orgId => by
    have blank : assignmentTally (Env.genesis deployment) contributor orgId = ⟨∅, none⟩ := by
      unfold assignmentTally
      congr 1
      ext issueId
      exact iff_of_false Bool.false_ne_true (Set.notMem_empty _)
    rw [blank]
    exact blank_exact
  capped := fun _ => (by decide : orgAssignmentLimit ≤ orgCapMax)
  limited := fun _ _ => (by decide : (0 : UInt32) ≤ orgCapMax)

omit [DecidableEq Address] in
theorem assignmentInv_authorisedBy (inv : AssignmentInv env) (auths : List Address) :
    AssignmentInv (env.authorisedBy auths) :=
  ⟨inv.tallied, inv.capped, inv.limited⟩

theorem getOrgCap_effect {call : Call Address} (allowed : env.Allowed call)
    (capped : env.getOrgCap orgId ≤ orgCapMax) : (env.effect call).getOrgCap orgId ≤ orgCapMax := by
  have entries : (env.effect call).getOrgCap orgId = (env.change call).getOrgCap orgId := rfl
  rw [entries]
  cases call with
  | setOrgCap maintainer o newCap =>
    obtain ⟨_, _, high⟩ := allowed
    simp only [Env.change, Env.getOrgCap, Env.setOrgCap]
    by_cases same : orgId = o
    · rw [same, write_self, Option.getD_some]
      exact high
    · rw [write_of_ne same]
      exact capped
  | _ => exact capped

theorem orgAssignmentCount_effect {call : Call Address} (allowed : env.Allowed call) :
    ((env.effect call).getOrgAssignmentCount contributor orgId).toNat =
      ((assignmentTally env contributor orgId).apply (assignmentOp contributor orgId call)).count := by
  rw [← count_assignmentTally, assignmentTally_effect allowed]

/-- Only an assignment raises the counter, by one and not above the cap it is checked against. -/
theorem orgAssignmentCount_assigned {maintainer : Address} {issueId : UInt32}
    (allowed : env.Allowed (.assignIssue maintainer contributor orgId issueId)) :
    (env.effect (.assignIssue maintainer contributor orgId issueId)).getOrgAssignmentCount contributor orgId ≤
      env.getOrgCap orgId := by
  have room := UInt32.lt_iff_toNat_lt.mp allowed.2.2.1
  rw [UInt32.le_iff_toNat_le, orgAssignmentCount_effect allowed]
  simp only [assignmentOp, if_true, Tally.apply, count_enrol, count_assignmentTally]
  exact room

theorem orgAssignmentCount_le_or (contributor : Address) (orgId : Symbol) {call : Call Address}
    (allowed : env.Allowed call) :
    (env.effect call).getOrgAssignmentCount contributor orgId ≤ env.getOrgAssignmentCount contributor orgId ∨
      ∃ maintainer issueId, call = .assignIssue maintainer contributor orgId issueId := by
  have value : ((env.effect call).getOrgAssignmentCount contributor orgId).toNat =
      ((assignmentTally env contributor orgId).apply (assignmentOp contributor orgId call)).count :=
    orgAssignmentCount_effect allowed
  rw [UInt32.le_iff_toNat_le, value, ← count_assignmentTally]
  rcases count_apply (assignmentOp contributor orgId call) with lower | ⟨issueId, enrolled⟩
  · exact Or.inl lower
  · obtain ⟨maintainer, assignment⟩ := assignmentOp_enrol enrolled
    exact Or.inr ⟨maintainer, issueId, assignment⟩

theorem assignmentInv_effect (inv : AssignmentInv env) {call : Call Address} (allowed : env.Allowed call) :
    AssignmentInv (env.effect call) where
  tallied := fun contributor orgId => by
    rw [assignmentTally_effect allowed]
    exact apply_exact (inv.tallied contributor orgId) (assignmentOp_legal allowed)
  capped := fun orgId => getOrgCap_effect allowed (inv.capped orgId)
  limited := fun contributor orgId => by
    rcases orgAssignmentCount_le_or contributor orgId allowed with lower | ⟨maintainer, issueId, rfl⟩
    · exact UInt32.le_trans lower (inv.limited contributor orgId)
    · exact UInt32.le_trans (orgAssignmentCount_assigned allowed) (inv.capped orgId)

theorem assignmentInv_step (s : Step Address) (inv : AssignmentInv env) : AssignmentInv (step env s) :=
  step_invariant
    (fun _ auths _ inv allowed => assignmentInv_effect (assignmentInv_authorisedBy inv auths) allowed)
    (fun _ _ inv => ⟨inv.tallied, inv.capped, inv.limited⟩) env s inv

theorem exec_assignmentInv (deployment : Deployment Address) (steps : List (Step Address)) :
    AssignmentInv (exec deployment steps) :=
  Run.exec_invariant (assignmentInv_genesis deployment) (fun _ s inv => assignmentInv_step s inv) steps

/-- Completing or revoking really lowers the counter by one. -/
theorem orgAssignmentCount_released (inv : AssignmentInv env) {call : Call Address} (issueId : UInt32)
    (allowed : env.Allowed call) (releases : assignmentOp contributor orgId call = .dismiss issueId) :
    ((env.effect call).getOrgAssignmentCount contributor orgId).toNat + 1 =
      (env.getOrgAssignmentCount contributor orgId).toNat := by
  have legal : (assignmentTally env contributor orgId).Legal (assignmentOp contributor orgId call) :=
    assignmentOp_legal allowed
  rw [releases] at legal
  have positive := (inv.tallied contributor orgId).count_pos legal
  rw [orgAssignmentCount_effect allowed, releases, Tally.apply, count_dismiss, ← count_assignmentTally]
  omega

/-- A call can only report an inconsistent counter where a sentinel stands next to a counter of 0. -/
theorem guards_inconsistent {call : Call Address}
    (reported : env.guards call = .error (.contract .counterInconsistency)) :
    ∃ contributor orgId issueId, env.hasAssignment orgId issueId contributor = true ∧
      env.getOrgAssignmentCount contributor orgId = 0 := by
  cases call with
  | completeAssignment maintainer c o issueId =>
    simp only [Env.guards, Checked.bind_eq_error, panicIf_eq_ok, panicIf_eq_error, not_not] at reported
    rcases reported with refused | ⟨_, _, ⟨_, impossible⟩ | ⟨_, present, ⟨_, zero⟩, _⟩⟩
    · exact absurd (Env.maintainerGuards_error refused) (by decide)
    · cases impossible
    · exact ⟨c, o, issueId, present, zero⟩
  | revokeAssignment maintainer c o issueId =>
    simp only [Env.guards, Checked.bind_eq_error, panicIf_eq_ok, panicIf_eq_error, not_not] at reported
    rcases reported with refused | ⟨_, _, ⟨_, impossible⟩ | ⟨_, present, zero, _⟩⟩
    · exact absurd (Env.maintainerGuards_error refused) (by decide)
    · cases impossible
    · exact ⟨c, o, issueId, present, zero⟩
  | _ =>
    have maintainer_refuses : ∀ m o, env.maintainerGuards m o ≠ .error (.contract .counterInconsistency) :=
      fun m o refused => absurd (Env.maintainerGuards_error refused) (by decide)
    have admin_refuses : env.adminGuards ≠ .error (.contract .counterInconsistency) :=
      fun refused => absurd (Env.adminGuards_error refused) (by decide)
    simp [Env.guards, Checked.bind_eq_error, panicIf_eq_error, Env.requireAuth_eq_error,
      Env.requireInitialized_eq_error, admin_refuses, maintainer_refuses] at reported

omit [DecidableEq Address] in
theorem AssignmentInv.positive (inv : AssignmentInv env) {issueId : UInt32}
    (present : env.hasAssignment orgId issueId contributor = true) :
    env.getOrgAssignmentCount contributor orgId ≠ 0 := by
  rw [Checked.pos_iff, ← count_assignmentTally]
  exact (inv.tallied contributor orgId).count_pos (k := issueId) present

omit [DecidableEq Address] in
theorem checkConsistency_eq_nil (inv : AssignmentInv env) (pairs : List (Address × Symbol))
    (issueIds : List UInt32) : checkConsistency env pairs issueIds = [] := by
  unfold checkConsistency
  rw [List.filter_eq_nil_iff]
  intro pair _ reported
  simp only [Bool.and_eq_true, beq_iff_eq, List.any_eq_true] at reported
  obtain ⟨zero, issueId, _, present⟩ := reported
  exact inv.positive present zero

end Invariant

section Run
variable (deployment : Deployment Address) (steps : List (Step Address))

/-- The assignment counter is the number of active assignments, kept only while there
are any; it is never above the cap an assignment was checked against, and no call or
report ever finds it inconsistent. -/
theorem assignment_counter :
    (∀ contributor orgId,
      (assigned (exec deployment steps) contributor orgId).Finite ∧
      (getOrgAssignmentCount (exec deployment steps) contributor orgId).toNat =
        (assigned (exec deployment steps) contributor orgId).ncard ∧
      (((exec deployment steps).storage.oAsgn (contributor, orgId)).isSome = true ↔
        0 < (assigned (exec deployment steps) contributor orgId).ncard) ∧
      (assigned (exec deployment steps) contributor orgId).ncard ≤ 20) ∧
    (∀ auths maintainer contributor orgId issueId after,
      invoke (exec deployment steps) auths (.assignIssue maintainer contributor orgId issueId) = .ok after →
      (assigned after contributor orgId).ncard ≤ (getOrgCap (exec deployment steps) orgId).toNat) ∧
    (∀ auths call maintainer contributor orgId issueId after,
      call = .completeAssignment maintainer contributor orgId issueId ∨
        call = .revokeAssignment maintainer contributor orgId issueId →
      invoke (exec deployment steps) auths call = .ok after →
      (getOrgAssignmentCount after contributor orgId).toNat + 1 =
        (getOrgAssignmentCount (exec deployment steps) contributor orgId).toNat) ∧
    (∀ auths call,
      invoke (exec deployment steps) auths call ≠ .error (.contract .counterInconsistency)) ∧
    ∀ pairs issueIds, checkConsistency (exec deployment steps) pairs issueIds = [] := by
  have inv := exec_assignmentInv deployment steps
  refine ⟨?_, ?_, ?_, ?_, checkConsistency_eq_nil inv⟩
  · intro contributor orgId
    have tallied := inv.tallied contributor orgId
    have counted : (assigned (exec deployment steps) contributor orgId).ncard =
        (getOrgAssignmentCount (exec deployment steps) contributor orgId).toNat :=
      tallied.counted.trans count_assignmentTally
    have stored : ((exec deployment steps).storage.oAsgn (contributor, orgId)).isSome = true ↔
        0 < (assignmentTally (exec deployment steps) contributor orgId).count := by
      have kept := tallied.kept
      rwa [assignmentTally, Option.isSome_map] at kept
    refine ⟨tallied.finite, counted.symm, ?_, ?_⟩
    · rw [stored, ← tallied.counted]
      rfl
    · rw [counted]
      exact UInt32.le_iff_toNat_le.mp (inv.limited contributor orgId)
  · intro auths maintainer contributor orgId issueId after success
    obtain ⟨allowed, rfl⟩ := invoke_eq_ok.mp success
    have after_inv := assignmentInv_effect (assignmentInv_authorisedBy inv auths) allowed
    have counted := (after_inv.tallied contributor orgId).counted.trans count_assignmentTally
    have bound := UInt32.le_iff_toNat_le.mp (orgAssignmentCount_assigned allowed)
    exact counted.trans_le bound
  · intro auths call maintainer contributor orgId issueId after releases success
    obtain ⟨allowed, rfl⟩ := invoke_eq_ok.mp success
    refine orgAssignmentCount_released (assignmentInv_authorisedBy inv auths) issueId allowed ?_
    rcases releases with rfl | rfl
    · simp only [assignmentOp, if_true]
    · simp only [assignmentOp, if_true]
  · intro auths call reported
    have found := guards_inconsistent (invoke_eq_error.mp reported)
    obtain ⟨contributor, orgId, issueId, present, zero⟩ := found
    exact (assignmentInv_authorisedBy inv auths).positive present zero

end Run

end WorkloadGovernor
