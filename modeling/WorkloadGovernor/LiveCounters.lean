import WorkloadGovernor.ApplicationCounter
import WorkloadGovernor.Assignments

namespace WorkloadGovernor
open LeaseBook

/-- What the hook reads of the data of a streamed event. -/
structure LiveEvent where
  eventType : Option String
  orgId : Option String
  deriving DecidableEq, Repr

structure OrgCount where
  org : String
  assignments : Int
  deriving DecidableEq, Repr

structure CapState where
  globalApplications : Int
  orgCounts : List OrgCount
  deriving DecidableEq, Repr

def initialState : CapState := ⟨0, []⟩

/-- An `orgId` that is missing or empty is falsy. -/
def updateCounts (state : CapState) (event : LiveEvent) : CapState :=
  if event.eventType ≠ some "applied" ∧ event.eventType ≠ some "assigned" then state
  else
    let globalApplications := if event.eventType = some "applied" then state.globalApplications + 1
      else max (state.globalApplications - 1) 0
    match event.orgId with
    | none => { state with globalApplications := globalApplications }
    | some orgId =>
      if orgId = "" ∨ event.eventType ≠ some "assigned" then { state with globalApplications := globalApplications }
      else
        match state.orgCounts.find? fun count => count.org == orgId with
        | some _ =>
          ⟨globalApplications, state.orgCounts.map fun count =>
            if count.org = orgId then { count with assignments := count.assignments + 1 } else count⟩
        | none => ⟨globalApplications, state.orgCounts ++ [⟨orgId, 1⟩]⟩

/-- The assignments entry of an organisation; one that is absent means 0. -/
def CapState.assignments (state : CapState) (org : String) : Int :=
  ((state.orgCounts.find? fun count => count.org == org).map OrgCount.assignments).getD 0

section Update
variable {state : CapState} {org : String}

theorem updateCounts_ignored {kind : String} (applies : kind ≠ "applied") (assigns : kind ≠ "assigned")
    (orgId : Option String) : updateCounts state ⟨some kind, orgId⟩ = state := by
  rw [updateCounts, if_pos]
  exact ⟨fun same => applies (Option.some.inj same), fun same => assigns (Option.some.inj same)⟩

theorem updateCounts_applied (orgId : String) : updateCounts state ⟨some "applied", some orgId⟩ =
    { state with globalApplications := state.globalApplications + 1 } := by
  simp [updateCounts]

/-- With no organisation to enter it under, an assignment is only counted out of the applications. -/
theorem updateCounts_assigned_empty : updateCounts state ⟨some "assigned", some ""⟩ =
    { state with globalApplications := max (state.globalApplications - 1) 0 } := by
  simp [updateCounts]

theorem globalApplications_assigned (orgId : String) :
    (updateCounts state ⟨some "assigned", some orgId⟩).globalApplications =
      max (state.globalApplications - 1) 0 := by
  by_cases empty : orgId = ""
  · rw [empty, updateCounts_assigned_empty]
  · cases found : state.orgCounts.find? fun count => count.org == orgId with
    | none => simp [updateCounts, empty, found]
    | some count => simp [updateCounts, empty, found]

/-- The entry of the assignment's organisation goes up by one, or begins at one. -/
theorem assignments_assigned {orgId : String} (named : orgId ≠ "") (org : String) :
    (updateCounts state ⟨some "assigned", some orgId⟩).assignments org =
      state.assignments org + if org = orgId then 1 else 0 := by
  cases found : state.orgCounts.find? fun count => count.org == orgId with
  | none =>
    have appended : (updateCounts state ⟨some "assigned", some orgId⟩).orgCounts = state.orgCounts ++ [⟨orgId, 1⟩] := by
      simp [updateCounts, named, found]
    rw [CapState.assignments, CapState.assignments, appended, List.find?_append]
    by_cases same : org = orgId
    · subst same
      simp [found]
    · have other : orgId ≠ org := fun equal => same equal.symm
      cases state.orgCounts.find? fun count => count.org == org <;> simp [same, other]
  | some count =>
    have raised : (updateCounts state ⟨some "assigned", some orgId⟩).orgCounts = state.orgCounts.map fun count =>
        if count.org = orgId then { count with assignments := count.assignments + 1 } else count := by
      simp [updateCounts, named, found]
    have kept : ∀ count : OrgCount, (if count.org = orgId then { count with assignments := count.assignments + 1 }
        else count).org = count.org := by
      intro count
      split <;> rfl
    rw [CapState.assignments, CapState.assignments, raised, List.find?_map]
    simp only [Function.comp_def, kept]
    by_cases same : org = orgId
    · subst same
      have entry : count.org = org := by simpa using List.find?_some found
      simp [found, entry]
    · cases present : state.orgCounts.find? fun count => count.org == org with
      | none => simp [same]
      | some other =>
        have entry : other.org = org := by simpa using List.find?_some present
        simp [entry, same]

end Update

section Stream
variable {Address : Type} [DecidableEq Address]

/-- A contract event as the stream carries it, if it is one of the contributor's. -/
def liveEvent (contributor : Address) (event : Event Address) : Option LiveEvent :=
  match event.topics, event.data with
  | [.symbol name, .address account], .vec [.symbol orgId, .u32 _] =>
    if account = contributor ∧ name.text ∈ ["applied", "withdrew"] then some ⟨some name.text, some orgId.text⟩
    else none
  | [.symbol name, .address account], .vec [.address _, .symbol orgId, .u32 _] =>
    if account = contributor ∧ name.text ∈ ["assigned", "completed", "revoked"] then
      some ⟨some name.text, some orgId.text⟩
    else none
  | _, _ => none

/-- The counters shown after a contributor's events out of a log. -/
def liveCounts (contributor : Address) (events : List (Event Address)) : CapState :=
  (events.filterMap (liveEvent contributor)).foldl updateCounts initialState

/-- The counters shown are the ones on the chain. -/
structure MirrorsChain (contributor : Address) (env : Env Address) : Prop where
  applications : (liveCounts contributor env.events).globalApplications =
    (getGlobalApplicationCount env contributor).toNat
  assignments : ∀ orgId : Symbol, (liveCounts contributor env.events).assignments orgId.text =
    (getOrgAssignmentCount env contributor orgId).toNat

/-- What the stream shows of a call about the contributor. -/
def Call.live (contributor : Address) : Call Address → Option LiveEvent
  | .applyForIssue c orgId _ => if c = contributor then some ⟨some "applied", some orgId.text⟩ else none
  | .withdrawApplication c orgId _ => if c = contributor then some ⟨some "withdrew", some orgId.text⟩ else none
  | .assignIssue _ c orgId _ => if c = contributor then some ⟨some "assigned", some orgId.text⟩ else none
  | .completeAssignment _ c orgId _ => if c = contributor then some ⟨some "completed", some orgId.text⟩ else none
  | .revokeAssignment _ c orgId _ => if c = contributor then some ⟨some "revoked", some orgId.text⟩ else none
  | _ => none

/-- The hook counts the call for the contributor, or has nothing to count. -/
def Call.counted (contributor : Address) : Call Address → Bool
  | .withdrawApplication c _ _ => c ≠ contributor
  | .completeAssignment _ c _ _ => c ≠ contributor
  | .revokeAssignment _ c _ _ => c ≠ contributor
  | .assignIssue _ c orgId _ => c ≠ contributor ∨ orgId.text ≠ ""
  | _ => true

/-- A step the counters shown can follow. -/
def Counted (contributor : Address) (env : Env Address) : Step Address → Prop
  | .call auths made => Succeeds env auths made → made.counted contributor = true
  | .advance _ => True

/-- No application of the contributor lapses in the step. -/
def Expiryless (contributor : Address) (env : Env Address) (s : Step Address) : Prop :=
  lapsed env contributor s = ∅

variable {env : Env Address} {contributor : Address}

theorem liveEvent_pair (contributor account : Address) (name orgId : Symbol) (issueId : UInt32) :
    liveEvent contributor ⟨[.symbol name, .address account], .vec [.symbol orgId, .u32 issueId]⟩ =
      if account = contributor ∧ name.text ∈ ["applied", "withdrew"] then some ⟨some name.text, some orgId.text⟩
      else none := rfl

theorem liveEvent_triple (contributor account maintainer : Address) (name orgId : Symbol) (issueId : UInt32) :
    liveEvent contributor ⟨[.symbol name, .address account], .vec [.address maintainer, .symbol orgId, .u32 issueId]⟩ =
      if account = contributor ∧ name.text ∈ ["assigned", "completed", "revoked"] then
        some ⟨some name.text, some orgId.text⟩
      else none := rfl

/-- An event under none of the five names is not shown. -/
theorem liveEvent_of_foreign {event : Event Address}
    (foreign : ∀ name ∈ publishedNames, event.name ≠ some name) (contributor : Address) :
    liveEvent contributor event = none := by
  unfold liveEvent
  split
  · rename_i name account orgId issueId topics data
    refine if_neg fun shown => foreign name.text ?_ (by rw [Event.name, topics])
    have listed := shown.2
    simp only [List.mem_cons, List.not_mem_nil, or_false] at listed
    rcases listed with same | same <;> rw [same] <;> decide
  · rename_i name account maintainer orgId issueId topics data
    refine if_neg fun shown => foreign name.text ?_ (by rw [Event.name, topics])
    have listed := shown.2
    simp only [List.mem_cons, List.not_mem_nil, or_false] at listed
    rcases listed with same | same | same <;> rw [same] <;> decide
  · rfl

/-- What a call publishes is shown as the call. -/
theorem published_live (apart : OrgCapApart env) (contributor : Address) (call : Call Address) :
    ∃ published, (env.effect call).events = env.events ++ published ∧
      published.filterMap (liveEvent contributor) = (call.live contributor).toList := by
  have single : ∀ (event : Event Address), [event].filterMap (liveEvent contributor) =
      (liveEvent contributor event).toList := by
    intro event
    rw [List.filterMap_cons]
    cases liveEvent contributor event <;> rfl
  have pair : ∀ (account : Address) (name orgId : Symbol) (issueId : UInt32), name.text ∈ ["applied", "withdrew"] →
      liveEvent contributor ⟨[.symbol name, .address account], .vec [.symbol orgId, .u32 issueId]⟩ =
        if account = contributor then some ⟨some name.text, some orgId.text⟩ else none := by
    intro account name orgId issueId listed
    rw [liveEvent_pair]
    simp only [listed, and_true]
  have triple : ∀ (account maintainer : Address) (name orgId : Symbol) (issueId : UInt32),
      name.text ∈ ["assigned", "completed", "revoked"] →
      liveEvent contributor
        ⟨[.symbol name, .address account], .vec [.address maintainer, .symbol orgId, .u32 issueId]⟩ =
        if account = contributor then some ⟨some name.text, some orgId.text⟩ else none := by
    intro account maintainer name orgId issueId listed
    rw [liveEvent_triple]
    simp only [listed, and_true]
  cases call with
  | applyForIssue c o i => exact ⟨_, rfl, (single _).trans (congrArg _ (pair c _ o i (by decide)))⟩
  | withdrawApplication c o i => exact ⟨_, rfl, (single _).trans (congrArg _ (pair c _ o i (by decide)))⟩
  | assignIssue m c o i => exact ⟨_, rfl, (single _).trans (congrArg _ (triple c m _ o i (by decide)))⟩
  | completeAssignment m c o i => exact ⟨_, rfl, (single _).trans (congrArg _ (triple c m _ o i (by decide)))⟩
  | revokeAssignment m c o i => exact ⟨_, rfl, (single _).trans (congrArg _ (triple c m _ o i (by decide)))⟩
  | upgrade newWasmHash => exact ⟨[], (List.append_nil _).symm, rfl⟩
  | extendApplicationTtl c o i => exact ⟨[], (List.append_nil _).symm, rfl⟩
  | setOrgCap m o newCap =>
    refine ⟨_, rfl, List.filterMap_eq_nil_iff.mpr fun event member => ?_⟩
    exact liveEvent_of_foreign (fun name listed => apart _ _ _ event member name listed) contributor
  | _ => exact ⟨_, rfl, rfl⟩

theorem liveCounts_effect (apart : OrgCapApart env) (contributor : Address) (call : Call Address) :
    liveCounts contributor (env.effect call).events =
      (call.live contributor).toList.foldl updateCounts (liveCounts contributor env.events) := by
  obtain ⟨published, appended, shown⟩ := published_live apart contributor call
  rw [liveCounts, appended, List.filterMap_append, List.foldl_append, shown]
  rfl

/-- A call that is not shown moves neither counter. -/
theorem counts_of_live_none (inv : ApplicationInv env) {call : Call Address} (allowed : env.Allowed call)
    (hidden : call.live contributor = none) :
    ((env.effect call).getGlobalAppCount contributor).toNat = (env.getGlobalAppCount contributor).toNat ∧
      ∀ orgId, ((env.effect call).getOrgAssignmentCount contributor orgId).toNat =
        (env.getOrgAssignmentCount contributor orgId).toNat := by
  have other : ∀ {c : Address} {event : LiveEvent}, (if c = contributor then some event else none) = none →
      c ≠ contributor := by
    intro c event absent same
    rw [if_pos same] at absent
    cases absent
  have apart : ∀ {c : Address} (o orgId : Symbol), c ≠ contributor → (c, o) ≠ (contributor, orgId) := by
    intro c o orgId differs same
    cases same
    exact differs rfl
  have applications : applicationOp contributor call = .idle ∨ ∃ issue, applicationOp contributor call = .prolong issue := by
    rcases applicationOp_cases contributor call with idle | ⟨issue, ⟨rfl, _⟩ | ⟨rfl | ⟨_, rfl⟩, _⟩ | ⟨_, op⟩⟩
    · exact Or.inl idle
    · exact absurd rfl (other hidden)
    · exact absurd rfl (other hidden)
    · exact absurd rfl (other hidden)
    · exact Or.inr ⟨issue, op⟩
  have assignments : ∀ orgId, assignmentOp contributor orgId call = .idle := by
    intro orgId
    cases call with
    | assignIssue m c o i => exact if_neg (apart o orgId (other hidden))
    | completeAssignment m c o i => exact if_neg (apart o orgId (other hidden))
    | revokeAssignment m c o i => exact if_neg (apart o orgId (other hidden))
    | _ => rfl
  refine ⟨count_spared inv allowed applications, fun orgId => ?_⟩
  rw [orgAssignmentCount_effect allowed, assignments]
  exact count_assignmentTally

theorem mirrors_hidden (inv : ApplicationInv env) (apart : OrgCapApart env) (mirrors : MirrorsChain contributor env)
    {call : Call Address} (allowed : env.Allowed call) (hidden : call.live contributor = none) :
    MirrorsChain contributor (env.effect call) := by
  obtain ⟨applications, assignments⟩ := counts_of_live_none inv allowed hidden
  have shown := liveCounts_effect apart contributor call
  rw [hidden] at shown
  constructor
  · rw [shown]
    exact mirrors.applications.trans (congrArg Nat.cast applications.symm)
  · intro orgId
    rw [shown]
    exact (mirrors.assignments orgId).trans (congrArg Nat.cast (assignments orgId).symm)

theorem mirrors_applied (inv : ApplicationInv env) (apart : OrgCapApart env) (mirrors : MirrorsChain contributor env)
    {orgId : Symbol} {issueId : UInt32} (allowed : env.Allowed (.applyForIssue contributor orgId issueId)) :
    MirrorsChain contributor (env.effect (.applyForIssue contributor orgId issueId)) := by
  have live : (Call.applyForIssue contributor orgId issueId).live contributor =
      some ⟨some "applied", some orgId.text⟩ := if_pos rfl
  have shown := liveCounts_effect apart contributor (.applyForIssue contributor orgId issueId)
  rw [live, Option.toList_some, List.foldl_cons, List.foldl_nil, updateCounts_applied] at shown
  have raised : ((env.effect (.applyForIssue contributor orgId issueId)).getGlobalAppCount contributor).toNat =
      (env.getGlobalAppCount contributor).toNat + 1 := by
    rw [count_effect inv allowed, ← count_applicationBook]
    simp only [applicationOp, if_true, LeaseBook.apply, count_grant]
  have before := mirrors.applications
  constructor
  · rw [shown]
    simp only [getGlobalApplicationCount] at before ⊢
    omega
  · intro org
    rw [shown]
    exact mirrors.assignments org

/-- An assignment raises the count of its organisation and no other. -/
theorem orgAssignmentCount_raised {maintainer : Address} {orgId : Symbol} {issueId : UInt32}
    (allowed : env.Allowed (.assignIssue maintainer contributor orgId issueId)) (org : Symbol) :
    ((env.effect (.assignIssue maintainer contributor orgId issueId)).getOrgAssignmentCount contributor org).toNat =
      (env.getOrgAssignmentCount contributor org).toNat + if org = orgId then 1 else 0 := by
  rw [orgAssignmentCount_effect allowed]
  by_cases same : org = orgId
  · simp only [assignmentOp, same, if_true, Tally.apply, Tally.count_enrol, count_assignmentTally]
  · have other : (contributor, orgId) ≠ (contributor, org) := fun equal => same (Prod.mk.inj equal).2.symm
    simp only [assignmentOp, other, if_false, Tally.apply, count_assignmentTally, same, Nat.add_zero]

/-- An assignment is followed unless the organisation has the empty symbol. -/
theorem mirrors_assigned_iff (inv : ApplicationInv env) (apart : OrgCapApart env)
    (mirrors : MirrorsChain contributor env) {maintainer : Address} {orgId : Symbol} {issueId : UInt32}
    (allowed : env.Allowed (.assignIssue maintainer contributor orgId issueId)) :
    MirrorsChain contributor (env.effect (.assignIssue maintainer contributor orgId issueId)) ↔ orgId.text ≠ "" := by
  have live : (Call.assignIssue maintainer contributor orgId issueId).live contributor =
      some ⟨some "assigned", some orgId.text⟩ := if_pos rfl
  have shown := liveCounts_effect apart contributor (.assignIssue maintainer contributor orgId issueId)
  rw [live, Option.toList_some, List.foldl_cons, List.foldl_nil] at shown
  have lowered := count_surrendered (orgId, issueId) inv allowed (if_pos rfl)
  have counts := orgAssignmentCount_raised allowed
  have before := mirrors.applications
  simp only [getGlobalApplicationCount] at before
  constructor
  · intro after empty
    have there := after.assignments orgId
    have here := mirrors.assignments orgId
    rw [shown, empty, updateCounts_assigned_empty] at there
    rw [empty] at here
    have raised := counts orgId
    rw [if_pos rfl] at raised
    simp only [CapState.assignments, getOrgAssignmentCount] at there here
    omega
  · intro named
    constructor
    · rw [shown, globalApplications_assigned]
      simp only [getGlobalApplicationCount]
      omega
    · intro org
      have here := mirrors.assignments org
      have raised := counts org
      simp only [getOrgAssignmentCount] at here ⊢
      rw [shown, assignments_assigned named]
      by_cases same : org = orgId
      · rw [if_pos same] at raised
        rw [if_pos (congrArg Symbol.text same)]
        omega
      · have texts : org.text ≠ orgId.text := fun equal => same (Symbol.eq_of_text equal)
        rw [if_neg same] at raised
        rw [if_neg texts]
        omega

/-- A withdrawal is not counted, so the applications shown stay one too many. -/
theorem not_mirrors_withdrawn (inv : ApplicationInv env) (apart : OrgCapApart env)
    (mirrors : MirrorsChain contributor env) {orgId : Symbol} {issueId : UInt32}
    (allowed : env.Allowed (.withdrawApplication contributor orgId issueId)) :
    ¬ MirrorsChain contributor (env.effect (.withdrawApplication contributor orgId issueId)) := by
  intro after
  have live : (Call.withdrawApplication contributor orgId issueId).live contributor =
      some ⟨some "withdrew", some orgId.text⟩ := if_pos rfl
  have shown := liveCounts_effect apart contributor (.withdrawApplication contributor orgId issueId)
  rw [live, Option.toList_some, List.foldl_cons, List.foldl_nil,
    updateCounts_ignored (by decide) (by decide)] at shown
  have lowered := count_surrendered (orgId, issueId) inv allowed (if_pos rfl)
  have there := after.applications
  have here := mirrors.applications
  rw [shown] at there
  simp only [getGlobalApplicationCount] at there here
  omega

/-- Neither is the end of an assignment, and the assignments shown stay one too many. -/
theorem not_mirrors_closed (inv : AssignmentInv env) (apart : OrgCapApart env) (mirrors : MirrorsChain contributor env)
    {orgId : Symbol} {issueId : UInt32} {call : Call Address} (allowed : env.Allowed call)
    (closes : assignmentOp contributor orgId call = .dismiss issueId) {kind : String}
    (live : call.live contributor = some ⟨some kind, some orgId.text⟩) (applies : kind ≠ "applied")
    (assigns : kind ≠ "assigned") : ¬ MirrorsChain contributor (env.effect call) := by
  intro after
  have shown := liveCounts_effect apart contributor call
  rw [live, Option.toList_some, List.foldl_cons, List.foldl_nil, updateCounts_ignored applies assigns] at shown
  have lowered := orgAssignmentCount_released inv issueId allowed closes
  have there := after.assignments orgId
  have here := mirrors.assignments orgId
  rw [shown] at there
  simp only [getOrgAssignmentCount] at there here
  omega

theorem mirrors_effect_iff (applications : ApplicationInv env) (assignments : AssignmentInv env) (apart : OrgCapApart env)
    (mirrors : MirrorsChain contributor env) {call : Call Address} (allowed : env.Allowed call) :
    MirrorsChain contributor (env.effect call) ↔ call.counted contributor = true := by
  have hidden : ∀ {c : Address} {event : LiveEvent}, c ≠ contributor →
      (if c = contributor then some event else none) = none := fun other => if_neg other
  have skipped : ∀ {c : Address}, decide (c ≠ contributor) = true ↔ c ≠ contributor := decide_eq_true_iff
  cases call with
  | applyForIssue c o i =>
    refine iff_of_true ?_ rfl
    by_cases same : c = contributor
    · subst same
      exact mirrors_applied applications apart mirrors allowed
    · exact mirrors_hidden applications apart mirrors allowed (hidden same)
  | withdrawApplication c o i =>
    refine Iff.trans ?_ skipped.symm
    by_cases same : c = contributor
    · subst same
      exact iff_of_false (not_mirrors_withdrawn applications apart mirrors allowed) fun other => other rfl
    · exact iff_of_true (mirrors_hidden applications apart mirrors allowed (hidden same)) same
  | assignIssue m c o i =>
    have named : (Call.assignIssue m c o i).counted contributor = true ↔ c ≠ contributor ∨ o.text ≠ "" :=
      decide_eq_true_iff
    refine Iff.trans ?_ named.symm
    by_cases same : c = contributor
    · subst same
      exact (mirrors_assigned_iff applications apart mirrors allowed).trans (or_iff_right fun other => other rfl).symm
    · exact iff_of_true (mirrors_hidden applications apart mirrors allowed (hidden same)) (Or.inl same)
  | completeAssignment m c o i =>
    refine Iff.trans ?_ skipped.symm
    by_cases same : c = contributor
    · subst same
      refine iff_of_false ?_ fun other => other rfl
      exact not_mirrors_closed assignments apart mirrors allowed (if_pos rfl) (if_pos rfl) (by decide) (by decide)
    · exact iff_of_true (mirrors_hidden applications apart mirrors allowed (hidden same)) same
  | revokeAssignment m c o i =>
    refine Iff.trans ?_ skipped.symm
    by_cases same : c = contributor
    · subst same
      refine iff_of_false ?_ fun other => other rfl
      exact not_mirrors_closed assignments apart mirrors allowed (if_pos rfl) (if_pos rfl) (by decide) (by decide)
    · exact iff_of_true (mirrors_hidden applications apart mirrors allowed (hidden same)) same
  | _ => exact iff_of_true (mirrors_hidden applications apart mirrors allowed rfl) rfl

omit [DecidableEq Address] in
/-- Without an expiry a counter that counts the applications stays as it is while ledgers close. -/
theorem count_advanced {n : Nat} (inv : ApplicationInv env) (now : CounterExact env contributor)
    (later : CounterExact (env.advanced n) contributor) (expiryless : lapsed env contributor (.advance n) = ∅) :
    (getGlobalApplicationCount (env.advanced n) contributor).toNat = (getGlobalApplicationCount env contributor).toNat := by
  have fewer := pending_advanced_subset inv.sentinels contributor n
  have none_lapses : pending env contributor ⊆ pending (env.advanced n) contributor := Set.sdiff_eq_empty.mp expiryless
  rw [later.2, now.2, Set.Subset.antisymm fewer none_lapses]

/-- What every state of a run without expiries offers the counters shown. -/
structure LiveInv (contributor : Address) (env : Env Address) : Prop where
  applications : ApplicationInv env
  assignments : AssignmentInv env
  exact_count : CounterExact env contributor
  apart : OrgCapApart env

theorem liveInv_step (inv : LiveInv contributor env) {s : Step Address} (expiryless : Expiryless contributor env s) :
    LiveInv contributor (step env s) where
  applications := applicationInv_step s inv.applications
  assignments := assignmentInv_step s inv.assignments
  exact_count := by
    refine (counterExact_step_iff inv.applications inv.exact_count s).mpr ?_
    cases s with
    | call auths call => trivial
    | advance n => exact Or.inl ((lapsed_eq_empty_iff inv.applications).mp expiryless)
  apart := orgCapApart_step inv.apart s

theorem mirrors_step_iff (inv : LiveInv contributor env) (mirrors : MirrorsChain contributor env) {s : Step Address}
    (expiryless : Expiryless contributor env s) : MirrorsChain contributor (step env s) ↔ Counted contributor env s := by
  have after := liveInv_step inv expiryless
  cases s with
  | advance n =>
    refine iff_of_true ⟨?_, mirrors.assignments⟩ trivial
    have same := count_advanced inv.applications inv.exact_count after.exact_count expiryless
    exact mirrors.applications.trans (congrArg Nat.cast same.symm)
  | call auths call =>
    by_cases allowed : (env.authorisedBy auths).Allowed call
    · have signed : MirrorsChain contributor (env.authorisedBy auths) := ⟨mirrors.applications, mirrors.assignments⟩
      have apart : OrgCapApart (env.authorisedBy auths) := inv.apart
      rw [step_of_allowed allowed, mirrors_effect_iff (applicationInv_authorisedBy inv.applications auths)
        (assignmentInv_authorisedBy inv.assignments auths) apart signed allowed]
      exact ⟨fun counted _ => counted, fun counted => counted (succeeds_iff.mpr allowed)⟩
    · rw [step_of_refused allowed]
      exact iff_of_true mirrors fun success => absurd (succeeds_iff.mp success) allowed

/-- In a run in which no application of a contributor lapses the counters shown follow the
chain throughout exactly if the contributor withdraws nothing, no assignment of theirs ends,
and none is made in the organisation with the empty symbol. -/
theorem live_counters_mirror_iff (deployment : Deployment Address) (apart : deployment.OrgCapEventApart)
    (contributor : Address) (steps : List (Step Address))
    (expiryless : Run.EachStep step (.genesis deployment) (Expiryless contributor) steps) :
    Run.Always step (.genesis deployment) (MirrorsChain contributor) steps ↔
      Run.EachStep step (.genesis deployment) (Counted contributor) steps := by
  have applications := applicationInv_genesis deployment
  have counted : CounterExact (Env.genesis deployment) contributor :=
    counterExact_of_not_stored applications fun stored => by cases stored
  have init : LiveInv contributor (.genesis deployment) :=
    ⟨applications, assignmentInv_genesis deployment, counted, apart⟩
  have blank : MirrorsChain contributor (.genesis deployment) := ⟨rfl, fun _ => rfl⟩
  exact Run.always_iff_eachStep_of init (fun _ _ kept inv => liveInv_step inv kept) blank
    (fun _ _ kept inv mirrors => mirrors_step_iff inv mirrors kept) expiryless

/-- An application that is assigned. -/
def assignedApplication : List (Step Nat) :=
  [.call [0] (.initializeContract 0), .call [0] (.registerMaintainer 0 5 sampleOrg),
    .call [1] (.applyForIssue 1 sampleOrg 7), .call [5] (.assignIssue 5 1 sampleOrg 7)]

theorem assigned_application_mirrored :
    Run.Always step (.genesis (.release Nat)) (MirrorsChain 1) assignedApplication := by
  have apart : (Deployment.release Nat).OrgCapEventApart := fun _ _ _ event member => by cases member
  have expiryless : Run.EachStep step (.genesis (.release Nat)) (Expiryless 1) assignedApplication :=
    Run.eachStep_cons rfl (Run.eachStep_cons rfl (Run.eachStep_cons rfl (Run.eachStep_cons rfl Run.eachStep_nil)))
  refine (live_counters_mirror_iff (.release Nat) apart 1 assignedApplication expiryless).mpr ?_
  exact Run.eachStep_cons (fun _ => rfl) (Run.eachStep_cons (fun _ => rfl)
    (Run.eachStep_cons (fun _ => rfl) (Run.eachStep_cons (fun _ => by decide) Run.eachStep_nil)))

/-- An application that is taken back at once. -/
def withdrawnApplication : List (Step Nat) :=
  [.call [0] (.initializeContract 0), .call [1] (.applyForIssue 1 sampleOrg 7),
    .call [1] (.withdrawApplication 1 sampleOrg 7)]

/-- Nothing lapses, and one application is shown where there is none. -/
theorem withdrawn_application_drifts :
    Run.EachStep step (.genesis (.release Nat)) (Expiryless 1) withdrawnApplication ∧
      ¬ Run.Always step (.genesis (.release Nat)) (MirrorsChain 1) withdrawnApplication := by
  refine ⟨Run.eachStep_cons rfl (Run.eachStep_cons rfl (Run.eachStep_cons rfl Run.eachStep_nil)), fun always => ?_⟩
  have shown : (liveCounts 1 (exec (.release Nat) withdrawnApplication).events).globalApplications = 1 := by decide
  have none_left : getGlobalApplicationCount (exec (.release Nat) withdrawnApplication) 1 = 0 := by decide
  have same := always.last.applications
  have shown_none := shown.symm.trans (same.trans (congrArg (fun count => (count.toNat : Int)) none_left))
  cases shown_none

end Stream

end WorkloadGovernor
