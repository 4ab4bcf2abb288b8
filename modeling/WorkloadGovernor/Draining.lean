import WorkloadGovernor.Provenance
import WorkloadGovernor.SlotRecovery

namespace WorkloadGovernor
open Tally LeaseBook
variable {Address : Type} [DecidableEq Address]

/-- What the admin does about one assignment, as a maintainer of its organisation. -/
def clearance (admin : Address) (triple : Address × Symbol × UInt32) : List (Step Address) :=
  [.call [admin] (.registerMaintainer admin admin triple.2.1),
    .call [admin] (.completeAssignment admin triple.1 triple.2.1 triple.2.2)]

/-- The assignments that a run has tried. -/
def triedAssignments (steps : List (Step Address)) : List (Address × Symbol × UInt32) :=
  steps.filterMap fun s =>
    match s with
    | .call _ (.assignIssue _ contributor orgId issueId) => some (contributor, orgId, issueId)
    | _ => none

/-- The admin ends the assignments and lets the applications lapse. -/
def drain (admin : Address) (steps : List (Step Address)) : List (Step Address) :=
  (triedAssignments steps).flatMap (clearance admin) ++ [.advance (appTtlLedgers + 1)]

/-- A step that needs nobody but the admin. -/
def AdminAlone (admin : Address) : Step Address → Prop
  | .call auths _ => auths = [admin]
  | .advance _ => True

def Standing (env : Env Address) (triple : Address × Symbol × UInt32) : Prop :=
  triple.2.2 ∈ assigned env triple.1 triple.2.1

/-- What the admin can rely on in every state of an initialised contract. -/
structure Governed (admin : Address) (env : Env Address) : Prop where
  assignments : AssignmentInv env
  applications : ApplicationInv env
  stored : AdminIs admin env

section Clearance
variable {env : Env Address} {admin : Address}

theorem governed_step (s : Step Address) (governed : Governed admin env) : Governed admin (step env s) :=
  ⟨assignmentInv_step s governed.assignments, applicationInv_step s governed.applications,
    adminIs_step env s governed.stored⟩

/-- A call other than an assignment starts none. -/
theorem standing_of_step {auths : List Address} {call : Call Address} {triple : Address × Symbol × UInt32}
    (spares : ∀ maintainer, call ≠ .assignIssue maintainer triple.1 triple.2.1 triple.2.2)
    (stands : Standing (step env (.call auths call)) triple) : Standing env triple := by
  by_cases allowed : (env.authorisedBy auths).Allowed call
  · rw [Standing, step_of_allowed allowed] at stands
    rcases assigned_of_effect allowed stands with old | ⟨maintainer, same⟩
    · exact old
    · exact absurd same (spares maintainer)
  · rwa [step_of_refused allowed] at stands

/-- The admin can register itself for an organisation, and then complete what stands there. -/
theorem completes_of_registered (governed : Governed admin env) {contributor : Address} {orgId : Symbol}
    {issueId : UInt32}
    (stands : Standing (step env (.call [admin] (.registerMaintainer admin admin orgId))) (contributor, orgId, issueId)) :
    ((step env (.call [admin] (.registerMaintainer admin admin orgId))).authorisedBy [admin]).Allowed
      (.completeAssignment admin contributor orgId issueId) := by
  have registers : (env.authorisedBy [admin]).Allowed (.registerMaintainer admin admin orgId) :=
    ⟨admin, governed.stored, List.mem_cons_self⟩
  have later := governed_step (.call [admin] (.registerMaintainer admin admin orgId)) governed
  have listed : (admin, orgId) ∈ registered (step env (.call [admin] (.registerMaintainer admin admin orgId))) := by
    rw [step_of_allowed registers, registered_effect]
    exact Set.mem_insert _ _
  exact ⟨⟨Option.isSome_iff_exists.mpr ⟨admin, later.stored⟩, List.mem_cons_self, listed⟩, stands,
    fun _ => later.assignments.positive stands⟩

/-- What the admin clears does not stand any more, and nothing else has come to stand. -/
theorem clearance_clears (governed : Governed admin env) (triple other : Address × Symbol × UInt32)
    (stands : Standing (Run.exec step env (clearance admin triple)) other) : Standing env other ∧ other ≠ triple := by
  obtain ⟨contributor, orgId, issueId⟩ := triple
  have completed : Standing (step (step env (.call [admin] (.registerMaintainer admin admin orgId)))
      (.call [admin] (.completeAssignment admin contributor orgId issueId))) other := stands
  have registered_only := standing_of_step (fun _ same => by cases same) completed
  refine ⟨standing_of_step (fun _ same => by cases same) registered_only, ?_⟩
  rintro rfl
  have allowed := completes_of_registered governed registered_only
  rw [Standing, step_of_allowed allowed] at completed
  exact not_mem_assigned_of_dismiss allowed (if_pos rfl) completed

end Clearance

section Drain
variable {deployment : Deployment Address} {steps : List (Step Address)} {admin : Address}

theorem tried_of_standing {triple : Address × Symbol × UInt32} (stands : Standing (exec deployment steps) triple) :
    triple ∈ triedAssignments steps := by
  obtain ⟨before, auths, maintainer, after, split, _⟩ := assignment_origin stands
  rw [triedAssignments, List.mem_filterMap]
  exact ⟨_, split ▸ List.mem_append_right _ List.mem_cons_self, rfl⟩

omit [DecidableEq Address] in
theorem adminAlone_drain (admin : Address) (steps : List (Step Address)) :
    ∀ s ∈ drain admin steps, AdminAlone admin s := by
  intro s member
  simp only [drain, clearance, List.mem_append, List.mem_flatMap, List.mem_cons, List.not_mem_nil, or_false] at member
  rcases member with ⟨triple, _, rfl | rfl⟩ | rfl
  · rfl
  · rfl
  · trivial

/-- After the lifetime of an application none is left, and neither is what was counted of them. -/
theorem applications_lapse {env : Env Address} (inv : ApplicationInv env) {n : Nat} (late : appTtlLedgers < n)
    (contributor : Address) : (∀ orgId issueId, hasApplied (env.advanced n) contributor orgId issueId = false) ∧
      getGlobalApplicationCount (env.advanced n) contributor = 0 := by
  have after : ApplicationInv (env.advanced n) := applicationInv_step (.advance n) inv
  have ends := (inv.sound contributor).endsBy.pass n
  rw [← applicationBook_advanced] at ends
  have past : env.sequence + appTtlLedgers < env.sequence + n := Nat.add_lt_add_left late _
  obtain ⟨empty, zero⟩ := ends.cleared (after.sound contributor) past
  refine ⟨fun orgId issueId => ?_, ?_⟩
  · rw [Bool.eq_false_iff]
    intro applied
    have out := (hasAppEntry_iff after.sentinels).mp applied
    rw [empty] at out
    exact out
  · rw [← UInt32.toNat_inj, UInt32.toNat_zero, ← zero, count_applicationBook]
    rfl

/-- From every state it can reach, the initialised contract can be brought back, by its admin alone and with nobody
else's cooperation, to a state in which no application and no assignment stands and every slot is free. -/
theorem admin_can_drain (deployment : Deployment Address) (steps : List (Step Address)) {admin : Address}
    (initialised : (exec deployment steps).getAdmin = some admin) :
    (∀ s ∈ drain admin steps, AdminAlone admin s) ∧
    (∀ contributor, getGlobalApplicationCount (exec deployment (steps ++ drain admin steps)) contributor = 0 ∧
      getGlobalApplicationCapacity (exec deployment (steps ++ drain admin steps)) contributor =
        (exec deployment (steps ++ drain admin steps)).getGlobalCap) ∧
    (∀ contributor orgId, getOrgAssignmentCount (exec deployment (steps ++ drain admin steps)) contributor orgId = 0 ∧
      getOrgAssignmentCapacity (exec deployment (steps ++ drain admin steps)) contributor orgId =
        getOrgCap (exec deployment (steps ++ drain admin steps)) orgId) ∧
    ∀ contributor orgId issueId,
      hasApplied (exec deployment (steps ++ drain admin steps)) contributor orgId issueId = false ∧
      isAssigned (exec deployment (steps ++ drain admin steps)) contributor orgId issueId = false := by
  obtain ⟨cleared, during⟩ : ∃ env, Run.exec step (exec deployment steps)
      ((triedAssignments steps).flatMap (clearance admin)) = env := ⟨_, rfl⟩
  have final : exec deployment (steps ++ drain admin steps) = cleared.advanced (appTtlLedgers + 1) := by
    rw [exec, drain, Run.exec_append, Run.exec_append, ← during]
    rfl
  have clears : ∀ (env : Env Address) triple, Governed admin env → Governed admin (Run.exec step env (clearance admin
      triple)) ∧ ∀ other, Standing (Run.exec step env (clearance admin triple)) other →
        Standing env other ∧ other ≠ triple := by
    intro env triple governed
    refine ⟨?_, clearance_clears governed triple⟩
    exact Run.exec_invariant governed (fun _ s governed => governed_step s governed) (clearance admin triple)
  have start : Governed admin (exec deployment steps) :=
    ⟨exec_assignmentInv deployment steps, exec_applicationInv deployment steps, initialised⟩
  obtain ⟨governed, left⟩ := Run.exec_clears Standing (clearance admin) clears start (triedAssignments steps)
  rw [during] at governed left
  have none_stands (triple : Address × Symbol × UInt32) : ¬ Standing cleared triple := by
    intro stands
    obtain ⟨before, untried⟩ := left triple stands
    exact untried (tried_of_standing before)
  have unassigned : ∀ contributor orgId, cleared.getOrgAssignmentCount contributor orgId = 0 := by
    intro contributor orgId
    have tallied := governed.assignments.tallied contributor orgId
    have empty : assigned cleared contributor orgId = ∅ :=
      Set.eq_empty_iff_forall_notMem.mpr fun issueId stands => none_stands (contributor, orgId, issueId) stands
    have counted : (assigned cleared contributor orgId).ncard = (cleared.getOrgAssignmentCount contributor orgId).toNat :=
      tallied.counted.trans count_assignmentTally
    rw [empty, Set.ncard_empty] at counted
    exact UInt32.toNat_inj.mp counted.symm
  have lapsed := fun contributor => applications_lapse governed.applications (Nat.lt_succ_self appTtlLedgers) contributor
  rw [final]
  refine ⟨adminAlone_drain admin steps, ?_, ?_, ?_⟩
  · intro contributor
    have unused : (cleared.advanced (appTtlLedgers + 1)).getGlobalAppCount contributor = 0 := (lapsed contributor).2
    refine ⟨unused, ?_⟩
    rw [getGlobalApplicationCapacity, unused, ← UInt32.toNat_inj, Checked.toNat_saturatingSub]
    rfl
  · intro contributor orgId
    refine ⟨unassigned contributor orgId, ?_⟩
    have unused : (cleared.advanced (appTtlLedgers + 1)).getOrgAssignmentCount contributor orgId = 0 :=
      unassigned contributor orgId
    rw [getOrgAssignmentCapacity, unused, ← UInt32.toNat_inj, Checked.toNat_saturatingSub]
    rfl
  · intro contributor orgId issueId
    refine ⟨(lapsed contributor).1 orgId issueId, ?_⟩
    rw [Bool.eq_false_iff]
    exact none_stands (contributor, orgId, issueId)

/-- An assignment whose organisation has lost its only maintainer, next to an application. -/
def orphanedAssignment : List (Step Nat) :=
  [.call [0] (.initializeContract 0), .call [0] (.registerMaintainer 0 5 sampleOrg),
    .call [1] (.applyForIssue 1 sampleOrg 7), .call [1] (.applyForIssue 1 sampleOrg 8),
    .call [5] (.assignIssue 5 1 sampleOrg 7), .call [0] (.deregisterMaintainer 0 5 sampleOrg)]

theorem orphaned_assignment_drained :
    isAssigned (exec (.release Nat) orphanedAssignment) 1 sampleOrg 7 = true ∧
      isAssigned (exec (.release Nat) (orphanedAssignment ++ drain 0 orphanedAssignment)) 1 sampleOrg 7 = false :=
  ⟨by decide, ((admin_can_drain (.release Nat) orphanedAssignment rfl).2.2.2 1 sampleOrg 7).2⟩

end Drain

end WorkloadGovernor
