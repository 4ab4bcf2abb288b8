import WorkloadGovernor.Runs

namespace WorkloadGovernor
variable {Address : Type} [DecidableEq Address]

/-- The contributor a call names, if it is about one. -/
def Call.contributor : Call Address → Option Address
  | .applyForIssue contributor _ _ => some contributor
  | .withdrawApplication contributor _ _ => some contributor
  | .assignIssue _ contributor _ _ => some contributor
  | .completeAssignment _ contributor _ _ => some contributor
  | .revokeAssignment _ contributor _ _ => some contributor
  | .extendApplicationTtl contributor _ _ => some contributor
  | _ => none

/-- The call names no contributor but this one. -/
def Call.NamesOnly (contributor : Address) (call : Call Address) : Prop :=
  ∀ named, call.contributor = some named → named = contributor

/-- What can matter to one contributor: the ledger, the admin, the registry, the caps, and
the entries stored under the contributor's own keys. -/
@[ext] structure Seen (Address : Type) where
  deployment : Deployment Address
  sequence : Nat
  admin : Option Address
  gCap : Option UInt32
  maint : Address × Symbol → Option Bool
  oCap : Symbol → Option UInt32
  gApps : Option (TtlEntry UInt32)
  app : Symbol × UInt32 → Option (TtlEntry Bool)
  oAsgn : Symbol → Option UInt32
  asgn : Symbol × UInt32 → Option Bool

def Env.seenBy (env : Env Address) (contributor : Address) : Seen Address where
  deployment := env.deployment
  sequence := env.sequence
  admin := env.storage.admin
  gCap := env.storage.gCap
  maint := env.storage.maint
  oCap := env.storage.oCap
  gApps := env.storage.gApps contributor
  app := fun issue => env.storage.app (contributor, issue)
  oAsgn := fun orgId => env.storage.oAsgn (contributor, orgId)
  asgn := fun issue => env.storage.asgn (issue.1, issue.2, contributor)

section Reads
variable {env other : Env Address} {contributor : Address} (same : env.seenBy contributor = other.seenBy contributor)
include same

omit [DecidableEq Address] in
theorem getAdmin_of_seen : env.getAdmin = other.getAdmin := congrArg Seen.admin same

omit [DecidableEq Address] in
theorem getGlobalCap_of_seen : env.getGlobalCap = other.getGlobalCap := by
  have stored : env.storage.gCap = other.storage.gCap := congrArg Seen.gCap same
  rw [Env.getGlobalCap, stored]
  rfl

omit [DecidableEq Address] in
theorem isMaintainer_of_seen (maintainer : Address) (orgId : Symbol) :
    env.isMaintainer maintainer orgId = other.isMaintainer maintainer orgId := by
  have stored : env.storage.maint = other.storage.maint := congrArg Seen.maint same
  rw [Env.isMaintainer, stored]
  rfl

omit [DecidableEq Address] in
theorem getOrgCap_of_seen (orgId : Symbol) : env.getOrgCap orgId = other.getOrgCap orgId := by
  have stored : env.storage.oCap = other.storage.oCap := congrArg Seen.oCap same
  rw [Env.getOrgCap, stored]
  rfl

omit [DecidableEq Address] in
theorem gApps_of_seen : env.sequence = other.sequence ∧
    env.storage.gApps contributor = other.storage.gApps contributor :=
  ⟨congrArg Seen.sequence same, congrArg Seen.gApps same⟩

omit [DecidableEq Address] in
theorem app_of_seen (issue : Symbol × UInt32) : env.sequence = other.sequence ∧
    env.storage.app (contributor, issue) = other.storage.app (contributor, issue) :=
  ⟨congrArg Seen.sequence same, congrFun (congrArg Seen.app same) issue⟩

omit [DecidableEq Address] in
theorem getGlobalAppCount_of_seen :
    env.getGlobalAppCount contributor = other.getGlobalAppCount contributor := by
  obtain ⟨sequence, stored⟩ := gApps_of_seen same
  rw [Env.getGlobalAppCount, sequence, TtlStore.get_congr stored]
  rfl

omit [DecidableEq Address] in
theorem hasAppEntry_of_seen (orgId : Symbol) (issueId : UInt32) :
    env.hasAppEntry contributor orgId issueId = other.hasAppEntry contributor orgId issueId := by
  obtain ⟨sequence, stored⟩ := app_of_seen same (orgId, issueId)
  rw [Env.hasAppEntry, sequence, TtlStore.get_congr stored]
  rfl

omit [DecidableEq Address] in
theorem getOrgAssignmentCount_of_seen (orgId : Symbol) :
    env.getOrgAssignmentCount contributor orgId = other.getOrgAssignmentCount contributor orgId := by
  have stored := congrFun (congrArg Seen.oAsgn same) orgId
  exact congrArg (fun entry => entry.getD 0) stored

omit [DecidableEq Address] in
theorem hasAssignment_of_seen (orgId : Symbol) (issueId : UInt32) :
    env.hasAssignment orgId issueId contributor = other.hasAssignment orgId issueId contributor := by
  have stored := congrFun (congrArg Seen.asgn same) (orgId, issueId)
  exact congrArg (fun entry => entry.getD false) stored

/-- The checks of a call that names nobody else read nothing that could differ. -/
theorem guards_of_seen (auths : env.auths = other.auths) {call : Call Address}
    (own : call.NamesOnly contributor) : env.guards call = other.guards call := by
  have stored := getAdmin_of_seen same
  have initialized : ∀ error, env.requireInitialized error = other.requireInitialized error := by
    intro error
    rw [Env.requireInitialized, stored]
    rfl
  have authorised : ∀ account, env.requireAuth account = other.requireAuth account := by
    intro account
    rw [Env.requireAuth, auths]
    rfl
  have admin : env.adminGuards = other.adminGuards := by
    simp only [Env.adminGuards, initialized, stored, authorised]
  have maintainer : ∀ m o, env.maintainerGuards m o = other.maintainerGuards m o := by
    intro m o
    simp only [Env.maintainerGuards, initialized, authorised, isMaintainer_of_seen same]
  have debug : env.deployment = other.deployment := congrArg Seen.deployment same
  cases call with
  | applyForIssue c o i =>
    obtain rfl := own c rfl
    simp only [Env.guards, initialized, authorised, getGlobalAppCount_of_seen same, getGlobalCap_of_seen same,
      hasAppEntry_of_seen same]
  | withdrawApplication c o i =>
    obtain rfl := own c rfl
    simp only [Env.guards, initialized, authorised, hasAppEntry_of_seen same]
  | assignIssue m c o i =>
    obtain rfl := own c rfl
    simp only [Env.guards, maintainer, hasAppEntry_of_seen same, getOrgAssignmentCount_of_seen same,
      getOrgCap_of_seen same, hasAssignment_of_seen same]
  | completeAssignment m c o i =>
    obtain rfl := own c rfl
    simp only [Env.guards, maintainer, hasAssignment_of_seen same, debug, getOrgAssignmentCount_of_seen same]
  | revokeAssignment m c o i =>
    obtain rfl := own c rfl
    simp only [Env.guards, maintainer, hasAssignment_of_seen same, getOrgAssignmentCount_of_seen same]
  | extendApplicationTtl c o i =>
    obtain rfl := own c rfl
    simp only [Env.guards, hasAppEntry_of_seen same]
  | initializeContract a => simp only [Env.guards, stored, authorised]
  | registerMaintainer a m o => exact admin
  | deregisterMaintainer a m o => simp only [Env.guards, admin, isMaintainer_of_seen same]
  | upgrade newWasmHash => exact admin
  | setGlobalCap a newCap => simp only [Env.guards, admin]
  | emergencySetGlobalCap a newCap => simp only [Env.guards, admin]
  | setOrgCap m o newCap => simp only [Env.guards, maintainer]

end Reads

section Others
variable {contributor c : Address} {o : Symbol} {i : UInt32} (differs : contributor ≠ c) (env : Env Address)
include differs

theorem seenBy_submitted : (env.submitted c o i).seenBy contributor = env.seenBy contributor := by
  unfold Env.seenBy
  congr 1
  · exact TtlStore.put_of_ne differs
  · funext issue
    exact TtlStore.put_of_ne fun equal => differs (Prod.mk.inj equal).1

theorem seenBy_consumed : (env.consumed c o i).seenBy contributor = env.seenBy contributor := by
  unfold Env.seenBy
  congr 1
  · unfold Env.consumed
    split
    · exact TtlStore.put_of_ne differs
    · exact TtlStore.put_of_ne differs
  · funext issue
    exact TtlStore.put_of_ne fun equal => differs (Prod.mk.inj equal).1

/-- Of another contributor only an assignment and the count of assignments are written. -/
theorem seenBy_apart {env after : Env Address} {value : Option Bool} {count : Option UInt32}
    (same : after = { env with storage := { env.storage with
      asgn := write env.storage.asgn (o, i, c) value
      oAsgn := write env.storage.oAsgn (c, o) count } }) : after.seenBy contributor = env.seenBy contributor := by
  rw [same]
  unfold Env.seenBy
  congr 1
  · funext orgId
    exact write_of_ne fun equal => differs (Prod.mk.inj equal).1
  · funext issue
    exact write_of_ne fun equal => differs (Prod.mk.inj (Prod.mk.inj equal).2).2

theorem seenBy_occupied : (env.occupied c o i).seenBy contributor = env.seenBy contributor :=
  seenBy_apart differs rfl

theorem seenBy_released : (env.released c o i).seenBy contributor = env.seenBy contributor :=
  seenBy_apart differs rfl

theorem seenBy_prolonged : (env.prolonged c o i).seenBy contributor = env.seenBy contributor := by
  unfold Env.seenBy
  congr 1
  · unfold Env.prolonged
    split
    · exact TtlStore.prolong_of_ne differs _ _
    · rfl
  · funext issue
    exact TtlStore.prolong_of_ne (fun equal => differs (Prod.mk.inj equal).1) _ _

end Others

/-- What a call about one contributor does is not seen by another. -/
theorem seenBy_effect_of_other {contributor named : Address} (env : Env Address) {call : Call Address}
    (names : call.contributor = some named) (differs : named ≠ contributor) :
    (env.effect call).seenBy contributor = env.seenBy contributor := by
  have change : (env.effect call).seenBy contributor = (env.change call).seenBy contributor := rfl
  rw [change]
  cases call with
  | applyForIssue c o i => cases names; exact seenBy_submitted differs.symm env
  | withdrawApplication c o i => cases names; exact seenBy_consumed differs.symm env
  | assignIssue m c o i =>
    cases names
    exact (seenBy_occupied differs.symm _).trans (seenBy_consumed differs.symm env)
  | completeAssignment m c o i => cases names; exact seenBy_released differs.symm env
  | revokeAssignment m c o i => cases names; exact seenBy_released differs.symm env
  | extendApplicationTtl c o i => cases names; exact seenBy_prolonged differs.symm env
  | _ => cases names

section Own
variable {env other : Env Address} {contributor : Address} (same : env.seenBy contributor = other.seenBy contributor)
include same

omit [DecidableEq Address] in
/-- A change of the contributor's temporary entries is seen alike if the entries are alike. -/
theorem seenBy_of_temporary {f : Env Address → Env Address}
    (frame : ∀ e : Env Address, (f e).seenBy contributor = { e.seenBy contributor with
      gApps := (f e).storage.gApps contributor
      app := fun issue => (f e).storage.app (contributor, issue) })
    (counter : (f env).storage.gApps contributor = (f other).storage.gApps contributor)
    (sentinels : ∀ issue, (f env).storage.app (contributor, issue) =
      (f other).storage.app (contributor, issue)) :
    (f env).seenBy contributor = (f other).seenBy contributor := by
  rw [frame env, frame other, same, counter, funext sentinels]

omit [DecidableEq Address] in
/-- A change of the contributor's persistent entries is seen alike if the entries are alike. -/
theorem seenBy_of_persistent {f : Env Address → Env Address}
    (frame : ∀ e : Env Address, (f e).seenBy contributor = { e.seenBy contributor with
      oAsgn := fun orgId => (f e).storage.oAsgn (contributor, orgId)
      asgn := fun issue => (f e).storage.asgn (issue.1, issue.2, contributor) })
    (counters : ∀ orgId, (f env).storage.oAsgn (contributor, orgId) =
      (f other).storage.oAsgn (contributor, orgId))
    (sentinels : ∀ issue : Symbol × UInt32, (f env).storage.asgn (issue.1, issue.2, contributor) =
      (f other).storage.asgn (issue.1, issue.2, contributor)) :
    (f env).seenBy contributor = (f other).seenBy contributor := by
  rw [frame env, frame other, same, funext counters, funext sentinels]

theorem seenBy_submitted_congr (o : Symbol) (i : UInt32) :
    (env.submitted contributor o i).seenBy contributor = (other.submitted contributor o i).seenBy contributor := by
  have count := getGlobalAppCount_of_seen same
  have fresh : env.deployment = other.deployment := congrArg Seen.deployment same
  obtain ⟨sequence, gApps⟩ := gApps_of_seen same
  refine seenBy_of_temporary same (f := fun e => e.submitted contributor o i) (fun _ => rfl) ?_ ?_
  · simp only [Env.submitted, count, fresh, sequence]
    exact TtlStore.renew_congr gApps _ _ _ _
  · intro issue
    simp only [Env.submitted, fresh, sequence]
    exact TtlStore.renew_congr (app_of_seen same issue).2 _ _ _ _

theorem seenBy_consumed_congr (o : Symbol) (i : UInt32) :
    (env.consumed contributor o i).seenBy contributor = (other.consumed contributor o i).seenBy contributor := by
  have count := getGlobalAppCount_of_seen same
  have fresh : env.deployment = other.deployment := congrArg Seen.deployment same
  obtain ⟨sequence, gApps⟩ := gApps_of_seen same
  refine seenBy_of_temporary same (f := fun e => e.consumed contributor o i) (fun _ => rfl) ?_ ?_
  · simp only [Env.consumed, count, fresh, sequence]
    split
    · exact TtlStore.remove_congr gApps
    · exact TtlStore.set_congr gApps _ _ _
  · intro issue
    exact TtlStore.remove_congr (app_of_seen same issue).2

theorem seenBy_prolonged_congr (o : Symbol) (i : UInt32) :
    (env.prolonged contributor o i).seenBy contributor = (other.prolonged contributor o i).seenBy contributor := by
  have count := getGlobalAppCount_of_seen same
  obtain ⟨sequence, gApps⟩ := gApps_of_seen same
  refine seenBy_of_temporary same (f := fun e => e.prolonged contributor o i) (fun _ => rfl) ?_ ?_
  · simp only [Env.prolonged, count, sequence]
    split
    · exact TtlStore.prolong_congr gApps _ _
    · exact gApps
  · intro issue
    simp only [Env.prolonged, sequence]
    exact TtlStore.prolong_congr (app_of_seen same issue).2 _ _

/-- So is a change of one assignment and of the count of its org. -/
theorem seenBy_of_assignment {f : Env Address → Env Address} {sentinel : Option Bool} {o : Symbol} {i : UInt32}
    (counted : UInt32 → Option UInt32)
    (frame : ∀ e : Env Address, (f e).seenBy contributor = { e.seenBy contributor with
      oAsgn := fun orgId => (f e).storage.oAsgn (contributor, orgId)
      asgn := fun issue => (f e).storage.asgn (issue.1, issue.2, contributor) })
    (counter : ∀ e : Env Address, (f e).storage.oAsgn =
      write e.storage.oAsgn (contributor, o) (counted (e.getOrgAssignmentCount contributor o)))
    (entry : ∀ e : Env Address, (f e).storage.asgn = write e.storage.asgn (o, i, contributor) sentinel) :
    (f env).seenBy contributor = (f other).seenBy contributor := by
  have count := getOrgAssignmentCount_of_seen same o
  refine seenBy_of_persistent same frame ?_ ?_
  · intro orgId
    rw [counter, counter, count]
    exact write_congr (congrFun (congrArg Seen.oAsgn same) orgId) fun _ => rfl
  · intro issue
    rw [entry, entry]
    exact write_congr (congrFun (congrArg Seen.asgn same) issue) fun _ => rfl

theorem seenBy_occupied_congr (o : Symbol) (i : UInt32) :
    (env.occupied contributor o i).seenBy contributor = (other.occupied contributor o i).seenBy contributor :=
  seenBy_of_assignment same (f := fun e => e.occupied contributor o i) (fun count => some (count + 1))
    (fun _ => rfl) (fun _ => rfl) fun _ => rfl

theorem seenBy_released_congr (o : Symbol) (i : UInt32) :
    (env.released contributor o i).seenBy contributor = (other.released contributor o i).seenBy contributor :=
  seenBy_of_assignment same (f := fun e => e.released contributor o i)
    (fun count => if Checked.saturatingSub count 1 = 0 then none else some (Checked.saturatingSub count 1))
    (fun _ => rfl) (fun _ => rfl) fun _ => rfl

/-- What a call that names nobody else does is seen alike. -/
theorem seenBy_effect_congr {call : Call Address} (own : call.NamesOnly contributor) :
    (env.effect call).seenBy contributor = (other.effect call).seenBy contributor := by
  have change : ∀ e : Env Address, (e.effect call).seenBy contributor = (e.change call).seenBy contributor :=
    fun _ => rfl
  rw [change, change]
  cases call with
  | applyForIssue c o i => obtain rfl := own c rfl; exact seenBy_submitted_congr same o i
  | withdrawApplication c o i => obtain rfl := own c rfl; exact seenBy_consumed_congr same o i
  | assignIssue m c o i =>
    obtain rfl := own c rfl
    exact seenBy_occupied_congr (seenBy_consumed_congr same o i) o i
  | completeAssignment m c o i => obtain rfl := own c rfl; exact seenBy_released_congr same o i
  | revokeAssignment m c o i => obtain rfl := own c rfl; exact seenBy_released_congr same o i
  | extendApplicationTtl c o i => obtain rfl := own c rfl; exact seenBy_prolonged_congr same o i
  | initializeContract a =>
    exact congrArg (fun seen : Seen Address => { seen with admin := some a, gCap := some globalAppLimit }) same
  | registerMaintainer a m o =>
    exact congrArg (fun seen : Seen Address => { seen with maint := write seen.maint (m, o) (some true) }) same
  | deregisterMaintainer a m o =>
    exact congrArg (fun seen : Seen Address => { seen with maint := write seen.maint (m, o) none }) same
  | upgrade newWasmHash => exact same
  | setGlobalCap a newCap =>
    exact congrArg (fun seen : Seen Address => { seen with gCap := some newCap }) same
  | emergencySetGlobalCap a newCap =>
    exact congrArg (fun seen : Seen Address => { seen with gCap := some newCap }) same
  | setOrgCap m o newCap =>
    exact congrArg (fun seen : Seen Address => { seen with oCap := write seen.oCap o (some newCap) }) same

end Own

section Run
variable {contributor : Address}

/-- A call about somebody else, which a second run may leave out. -/
def NamesOther (contributor : Address) : Step Address → Prop
  | .call _ call => ∃ named, call.contributor = some named ∧ named ≠ contributor
  | .advance _ => False

/-- How a call ends: success, or the failure it ends with. -/
def outcome (env : Env Address) (auths : List Address) (call : Call Address) : Except Failure Unit :=
  (invoke env auths call).map fun _ => ()

theorem outcome_eq_guards (env : Env Address) (auths : List Address) (call : Call Address) :
    outcome env auths call = (env.authorisedBy auths).guards call := by
  rw [outcome, invoke, run_eq]
  cases (env.authorisedBy auths).guards call <;> rfl

theorem seenBy_step_of_other (env : Env Address) {s : Step Address} (names : NamesOther contributor s) :
    (step env s).seenBy contributor = env.seenBy contributor := by
  cases s with
  | advance n => cases names
  | call auths call =>
    obtain ⟨named, mentions, differs⟩ := names
    by_cases allowed : (env.authorisedBy auths).Allowed call
    · rw [step_of_allowed allowed, seenBy_effect_of_other _ mentions differs]
      rfl
    · rw [step_of_refused allowed]

/-- A step taken in two states that look the same leaves states that look the same, also
where a call about somebody else goes through in one of them only. -/
theorem seenBy_step_congr {env other : Env Address} (same : env.seenBy contributor = other.seenBy contributor)
    (s : Step Address) : (step env s).seenBy contributor = (step other s).seenBy contributor := by
  cases s with
  | advance n =>
    exact congrArg (fun seen : Seen Address => { seen with sequence := seen.sequence + n }) same
  | call auths call =>
    by_cases own : call.NamesOnly contributor
    · have signed : (env.authorisedBy auths).seenBy contributor = (other.authorisedBy auths).seenBy contributor :=
        same
      have checks := guards_of_seen signed rfl own
      have agree : (env.authorisedBy auths).Allowed call ↔ (other.authorisedBy auths).Allowed call := by
        rw [← Env.guards_eq_ok, ← Env.guards_eq_ok, checks]
      by_cases allowed : (env.authorisedBy auths).Allowed call
      · rw [step_of_allowed allowed, step_of_allowed (agree.mp allowed)]
        exact seenBy_effect_congr signed own
      · rw [step_of_refused allowed, step_of_refused fun passed => allowed (agree.mpr passed)]
        exact same
    · have names : NamesOther contributor (.call auths call) := by
        rw [Call.NamesOnly] at own
        push Not at own
        exact own
      rw [seenBy_step_of_other env names, seenBy_step_of_other other names]
      exact same

/-- Everything a contributor can read about themselves, and how long their temporary
entries still live. -/
structure SameViews (contributor : Address) (env other : Env Address) : Prop where
  hasApplied : ∀ orgId issueId,
    hasApplied env contributor orgId issueId = hasApplied other contributor orgId issueId
  isAssigned : ∀ orgId issueId,
    isAssigned env contributor orgId issueId = isAssigned other contributor orgId issueId
  globalCount : getGlobalApplicationCount env contributor = getGlobalApplicationCount other contributor
  orgCount : ∀ orgId, getOrgAssignmentCount env contributor orgId = getOrgAssignmentCount other contributor orgId
  globalCapacity : getGlobalApplicationCapacity env contributor = getGlobalApplicationCapacity other contributor
  orgCapacity : ∀ orgId,
    getOrgAssignmentCapacity env contributor orgId = getOrgAssignmentCapacity other contributor orgId
  globalLimit : isGlobalAppLimitReached env contributor = isGlobalAppLimitReached other contributor
  orgLimit : ∀ orgId,
    isOrgAssignmentLimitReached env contributor orgId = isOrgAssignmentLimitReached other contributor orgId
  counterLiveUntil : env.storage.gApps.liveUntil env.sequence contributor =
    other.storage.gApps.liveUntil other.sequence contributor
  applicationLiveUntil : ∀ issue, env.storage.app.liveUntil env.sequence (contributor, issue) =
    other.storage.app.liveUntil other.sequence (contributor, issue)

omit [DecidableEq Address] in
theorem sameViews_of_seen {env other : Env Address} (same : env.seenBy contributor = other.seenBy contributor) :
    SameViews contributor env other where
  hasApplied := hasAppEntry_of_seen same
  isAssigned := hasAssignment_of_seen same
  globalCount := getGlobalAppCount_of_seen same
  orgCount := getOrgAssignmentCount_of_seen same
  globalCapacity := by
    simp only [getGlobalApplicationCapacity, getGlobalCap_of_seen same, getGlobalAppCount_of_seen same]
  orgCapacity := fun orgId => by
    simp only [getOrgAssignmentCapacity, getOrgCap_of_seen same, getOrgAssignmentCount_of_seen same]
  globalLimit := by
    simp only [isGlobalAppLimitReached, getGlobalCap_of_seen same, getGlobalAppCount_of_seen same]
  orgLimit := fun orgId => by
    simp only [isOrgAssignmentLimitReached, getOrgCap_of_seen same, getOrgAssignmentCount_of_seen same]
  counterLiveUntil := by
    obtain ⟨sequence, stored⟩ := gApps_of_seen same
    rw [sequence, TtlStore.liveUntil_congr stored]
  applicationLiveUntil := fun issue => by
    obtain ⟨sequence, stored⟩ := app_of_seen same issue
    rw [sequence, TtlStore.liveUntil_congr stored]

/-- Leaving out any calls about other contributors changes nothing for a contributor:
every call that names nobody else ends the same way, and all views stay the same. -/
theorem contributor_isolation (deployment : Deployment Address) (contributor : Address)
    (marked : List (Step Address × Bool)) (legal : ∀ s, (s, false) ∈ marked → NamesOther contributor s) :
    ∀ before, before <+: marked →
      SameViews contributor (exec deployment (Run.full before)) (exec deployment (Run.thinned before)) ∧
      ∀ auths call, call.NamesOnly contributor →
        outcome (exec deployment (Run.full before)) auths call =
          outcome (exec deployment (Run.thinned before)) auths call := by
  intro before earlier
  have droppable : ∀ s, (s, false) ∈ before → NamesOther contributor s :=
    fun s member => legal s (earlier.subset member)
  have same : (exec deployment (Run.full before)).seenBy contributor =
      (exec deployment (Run.thinned before)).seenBy contributor := by
    have consistent : ∀ (env other : Env Address) s, env.seenBy contributor = other.seenBy contributor →
        (step env s).seenBy contributor = (step other s).seenBy contributor :=
      fun _ _ s same => seenBy_step_congr same s
    have respected : ∀ (env other : Env Address) s, NamesOther contributor s →
        env.seenBy contributor = other.seenBy contributor →
        (step env s).seenBy contributor = other.seenBy contributor :=
      fun env _ _ names same => (seenBy_step_of_other env names).trans same
    exact Run.exec_unwinding (R := fun env other : Env Address => env.seenBy contributor = other.seenBy contributor)
      rfl consistent respected droppable
  refine ⟨sameViews_of_seen same, fun auths call own => ?_⟩
  have signed : ((exec deployment (Run.full before)).authorisedBy auths).seenBy contributor =
      ((exec deployment (Run.thinned before)).authorisedBy auths).seenBy contributor := same
  rw [outcome_eq_guards, outcome_eq_guards]
  exact guards_of_seen signed rfl own

/-- Contributor 1 applies and withdraws; an application of contributor 2 may be left out. -/
def crowdedIssue : List (Step Nat × Bool) :=
  [(.call [0] (.initializeContract 0), true), (.call [1] (.applyForIssue 1 sampleOrg 7), true),
    (.call [2] (.applyForIssue 2 sampleOrg 7), false), (.advance 100, true),
    (.call [1] (.withdrawApplication 1 sampleOrg 7), true)]

theorem crowded_issue_isolated : getGlobalApplicationCount (exec (.release Nat) (Run.full crowdedIssue)) 1 =
    getGlobalApplicationCount (exec (.release Nat) (Run.thinned crowdedIssue)) 1 := by
  have legal : ∀ s, (s, false) ∈ crowdedIssue → NamesOther 1 s := by
    intro s member
    simp only [crowdedIssue, List.mem_cons, Prod.mk.injEq, Bool.false_eq_true, and_false, and_true,
      List.not_mem_nil, or_false, false_or] at member
    rw [member]
    exact ⟨2, rfl, by decide⟩
  exact (contributor_isolation (.release Nat) 1 crowdedIssue legal crowdedIssue List.prefix_rfl).1.globalCount

end Run

end WorkloadGovernor
