import Mathlib.Data.Finset.Insert
import WorkloadGovernor.Applications
import WorkloadGovernor.Assignments
import WorkloadGovernor.Registry

namespace WorkloadGovernor
variable {Address : Type} [DecidableEq Address]

/-- What an observer who only sees the events knows about the contract. -/
structure Journal (Address : Type) where
  maintainers : Finset (Address × Symbol)
  pending : Finset (Address × Symbol × UInt32)
  active : Finset (Address × Symbol × UInt32)
  globalCap : Option UInt32

namespace Journal

def empty (Address : Type) : Journal Address := ⟨∅, ∅, ∅, none⟩

/-- One event entered, from its topics and data alone. The account in the second topic is
the maintainer, the admin or the contributor, depending on the name in the first. -/
def enter (journal : Journal Address) (event : Event Address) : Journal Address :=
  match event.topics with
  | [.symbol name, .address account] =>
    match name.text, event.data with
    | "init", _ => { journal with globalCap := some 15 }
    | "maint_reg", .symbol orgId =>
      { journal with maintainers := insert (account, orgId) journal.maintainers }
    | "maint_drg", .vec [.address maintainer, .symbol orgId] =>
      { journal with maintainers := journal.maintainers.erase (maintainer, orgId) }
    | "applied", .vec [.symbol orgId, .u32 issueId] =>
      { journal with pending := insert (account, orgId, issueId) journal.pending }
    | "withdrew", .vec [.symbol orgId, .u32 issueId] =>
      { journal with pending := journal.pending.erase (account, orgId, issueId) }
    | "assigned", .vec [.address _, .symbol orgId, .u32 issueId] =>
      { journal with
        pending := journal.pending.erase (account, orgId, issueId)
        active := insert (account, orgId, issueId) journal.active }
    | "completed", .vec [.address _, .symbol orgId, .u32 issueId] =>
      { journal with active := journal.active.erase (account, orgId, issueId) }
    | "revoked", .vec [.address _, .symbol orgId, .u32 issueId] =>
      { journal with active := journal.active.erase (account, orgId, issueId) }
    | "cap_upd", .vec [.address _, .u32 newCap] => { journal with globalCap := some newCap }
    | "emrg_cap", .vec [.u32 _, .u32 newCap] => { journal with globalCap := some newCap }
    | _, _ => journal
  | _ => journal

def replay (events : List (Event Address)) : Journal Address := events.foldl enter (empty Address)

theorem replay_concat (events : List (Event Address)) (event : Event Address) :
    replay (events ++ [event]) = (replay events).enter event := by
  simp only [replay, List.foldl_append, List.foldl_cons, List.foldl_nil]

/-- What a successful call means for the journal. -/
def after (journal : Journal Address) : Call Address → Journal Address
  | .initializeContract _ => { journal with globalCap := some 15 }
  | .registerMaintainer _ maintainer orgId =>
    { journal with maintainers := insert (maintainer, orgId) journal.maintainers }
  | .deregisterMaintainer _ maintainer orgId =>
    { journal with maintainers := journal.maintainers.erase (maintainer, orgId) }
  | .setGlobalCap _ newCap => { journal with globalCap := some newCap }
  | .emergencySetGlobalCap _ newCap => { journal with globalCap := some newCap }
  | .applyForIssue contributor orgId issueId =>
    { journal with pending := insert (contributor, orgId, issueId) journal.pending }
  | .withdrawApplication contributor orgId issueId =>
    { journal with pending := journal.pending.erase (contributor, orgId, issueId) }
  | .assignIssue _ contributor orgId issueId =>
    { journal with
      pending := journal.pending.erase (contributor, orgId, issueId)
      active := insert (contributor, orgId, issueId) journal.active }
  | .completeAssignment _ contributor orgId issueId =>
    { journal with active := journal.active.erase (contributor, orgId, issueId) }
  | .revokeAssignment _ contributor orgId issueId =>
    { journal with active := journal.active.erase (contributor, orgId, issueId) }
  | _ => journal

end Journal

/-- The calls that are journaled by exactly one event. Upgrades and TTL extensions are
not published, and what `set_org_cap` publishes is not in the sources. -/
def Call.Journaled : Call Address → Prop
  | .upgrade _ => False
  | .extendApplicationTtl _ _ _ => False
  | .setOrgCap _ _ _ => False
  | _ => True

/-- The event of a call carries all the call means for the journal. -/
theorem eventsAfter_journaled (env : Env Address) {call : Call Address} (journaled : call.Journaled) :
    ∃ event, env.eventsAfter call = env.events ++ [event] ∧
      ∀ journal : Journal Address, journal.enter event = journal.after call := by
  cases call with
  | upgrade newWasmHash => cases journaled
  | extendApplicationTtl c o i => cases journaled
  | setOrgCap m o newCap => cases journaled
  | _ => exact ⟨_, rfl, fun _ => rfl⟩

/-- The journal agrees with the storage. Of the applications it knows those whose entry
was created and not removed since; some of these entries may have lapsed. -/
structure Tracks (journal : Journal Address) (env : Env Address) : Prop where
  maintainers : registered env = journal.maintainers
  active : ∀ contributor orgId issueId, issueId ∈ assigned env contributor orgId ↔
    (contributor, orgId, issueId) ∈ journal.active
  globalCap : env.storage.gCap = journal.globalCap
  stored : ∀ key, (env.storage.app key).isSome = true ↔ key ∈ journal.pending

section Effect
variable {env : Env Address} {journal : Journal Address}

theorem active_after (tracks : Tracks journal env) {call : Call Address} (allowed : env.Allowed call)
    (contributor : Address) (orgId : Symbol) (issueId : UInt32) :
    issueId ∈ assigned (env.effect call) contributor orgId ↔
      (contributor, orgId, issueId) ∈ (journal.after call).active := by
  rw [assigned_effect allowed]
  have before := tracks.active contributor orgId issueId
  cases call with
  | assignIssue m c o i =>
    refine mem_enrol_iff.trans ?_
    rw [before, Journal.after, Finset.mem_insert]
  | completeAssignment m c o i =>
    refine mem_dismiss_iff.trans ?_
    rw [before, Journal.after, Finset.mem_erase]
  | revokeAssignment m c o i =>
    refine mem_dismiss_iff.trans ?_
    rw [before, Journal.after, Finset.mem_erase]
  | _ => exact before

theorem stored_after (tracks : Tracks journal env) (call : Call Address) (key : Address × Symbol × UInt32) :
    ((env.effect call).storage.app key).isSome = true ↔ key ∈ (journal.after call).pending := by
  have before := tracks.stored key
  have removed : ∀ k, (env.storage.app.remove k key).isSome = true ↔ key ∈ journal.pending.erase k := by
    intro k
    rw [TtlStore.remove, Finset.mem_erase]
    by_cases same : key = k
    · simp [same, TtlStore.put_self]
    · rw [TtlStore.put_of_ne same, and_iff_right same]
      exact before
  cases call with
  | applyForIssue c o i =>
    change (env.storage.app.renew env.sequence env.deployment.freshTtl appTtlLedgers (c, o, i) true key).isSome =
      true ↔ key ∈ insert (c, o, i) journal.pending
    rw [TtlStore.renew, Finset.mem_insert]
    by_cases same : key = (c, o, i)
    · simp [same, TtlStore.put_self]
    · rw [TtlStore.put_of_ne same, or_iff_right same]
      exact before
  | withdrawApplication c o i => exact removed (c, o, i)
  | assignIssue m c o i => exact removed (c, o, i)
  | extendApplicationTtl c o i =>
    change (env.storage.app.prolong env.sequence appTtlLedgers (c, o, i) key).isSome = true ↔
      key ∈ journal.pending
    rw [TtlStore.isSome_prolong]
    exact before
  | _ => exact before

theorem tracks_effect (tracks : Tracks journal env) {call : Call Address} (allowed : env.Allowed call) :
    Tracks (journal.after call) (env.effect call) where
  maintainers := by
    rw [registered_effect, tracks.maintainers]
    cases call with
    | registerMaintainer a m o => exact (Finset.coe_insert _ _).symm
    | deregisterMaintainer a m o => exact (Finset.coe_erase _ _).symm
    | _ => rfl
  active := active_after tracks allowed
  globalCap := by
    rw [gCap_effect, tracks.globalCap]
    cases call <;> rfl
  stored := stored_after tracks call

/-- Without `set_org_cap` the events of a call carry all the call means for the journal. -/
theorem replay_effect {call : Call Address} (noOrgCap : ∀ maintainer orgId newCap,
    call ≠ .setOrgCap maintainer orgId newCap) :
    Journal.replay (env.effect call).events = (Journal.replay env.events).after call := by
  by_cases journaled : call.Journaled
  · obtain ⟨event, appended, meaning⟩ := eventsAfter_journaled env journaled
    have events : (env.effect call).events = env.events ++ [event] := appended
    rw [events, Journal.replay_concat, meaning]
  · cases call with
    | setOrgCap m o newCap => exact absurd rfl (noOrgCap m o newCap)
    | upgrade newWasmHash => rfl
    | extendApplicationTtl c o i => rfl
    | _ => exact absurd trivial journaled

end Effect

section Run
variable (deployment : Deployment Address)

/-- The events published so far track the state. -/
def EventsTrack (env : Env Address) : Prop := Tracks (Journal.replay env.events) env

/-- A step that is no call of `set_org_cap`. -/
def WithoutOrgCap : Step Address → Prop
  | .call _ (.setOrgCap _ _ _) => False
  | _ => True

theorem tracks_step {env : Env Address} {s : Step Address} (withoutOrgCap : WithoutOrgCap s)
    (tracks : EventsTrack env) : EventsTrack (step env s) := by
  cases s with
  | advance n => exact ⟨tracks.maintainers, tracks.active, tracks.globalCap, tracks.stored⟩
  | call auths call =>
    by_cases allowed : (env.authorisedBy auths).Allowed call
    · have signed : EventsTrack (env.authorisedBy auths) :=
        ⟨tracks.maintainers, tracks.active, tracks.globalCap, tracks.stored⟩
      have noOrgCap : ∀ maintainer orgId newCap, call ≠ .setOrgCap maintainer orgId newCap := by
        intro maintainer orgId newCap same
        subst same
        exact withoutOrgCap
      rw [step_of_allowed allowed, EventsTrack, replay_effect noOrgCap]
      exact tracks_effect signed allowed
    · rw [step_of_refused allowed]
      exact tracks

theorem exec_tracks {steps : List (Step Address)} (withoutOrgCap : ∀ s ∈ steps, WithoutOrgCap s) :
    EventsTrack (exec deployment steps) := by
  have init : EventsTrack (Env.genesis deployment) := by
    refine ⟨?_, ?_, rfl, ?_⟩
    · ext pair
      exact iff_of_false Bool.false_ne_true (Finset.notMem_empty _)
    · exact fun contributor orgId issueId => iff_of_false Bool.false_ne_true (Finset.notMem_empty _)
    · exact fun key => iff_of_false Bool.false_ne_true (Finset.notMem_empty _)
  have preserved : ∀ (env : Env Address) s, WithoutOrgCap s → EventsTrack env → EventsTrack (step env s) :=
    fun _ _ withoutOrgCap tracks => tracks_step withoutOrgCap tracks
  exact Run.exec_invariant_of init preserved withoutOrgCap

/-- The event log is a complete journal: replayed, it gives the registered maintainers,
the assignments and the global cap, and the applications up to those that have lapsed. -/
theorem event_log_is_journal (steps : List (Step Address)) (withoutOrgCap : ∀ s ∈ steps, WithoutOrgCap s) :
    registered (exec deployment steps) = (Journal.replay (exec deployment steps).events).maintainers ∧
    (∀ contributor orgId issueId, isAssigned (exec deployment steps) contributor orgId issueId = true ↔
      (contributor, orgId, issueId) ∈ (Journal.replay (exec deployment steps).events).active) ∧
    (exec deployment steps).storage.gCap = (Journal.replay (exec deployment steps).events).globalCap ∧
    (∀ contributor orgId issueId, hasApplied (exec deployment steps) contributor orgId issueId = true →
      (contributor, orgId, issueId) ∈ (Journal.replay (exec deployment steps).events).pending) ∧
    (∀ contributor orgId issueId,
      (contributor, orgId, issueId) ∈ (Journal.replay (exec deployment steps).events).pending →
      hasApplied (exec deployment steps) contributor orgId issueId = false →
      ∃ entry, (exec deployment steps).storage.app (contributor, orgId, issueId) = some entry ∧
        entry.liveUntil < (exec deployment steps).sequence) ∧
    (∀ auths call after, invoke (exec deployment steps) auths call = .ok after → call.Journaled →
      ∃ event, after.events = (exec deployment steps).events ++ [event]) ∧
    ∀ auths call failure, invoke (exec deployment steps) auths call = .error failure →
      (exec deployment (steps ++ [.call auths call])).events = (exec deployment steps).events := by
  have tracks := exec_tracks deployment withoutOrgCap
  have inv := exec_applicationInv deployment steps
  refine ⟨tracks.maintainers, tracks.active, tracks.globalCap, ?_, ?_, ?_, ?_⟩
  · intro contributor orgId issueId applied
    obtain ⟨entry, served, _⟩ := Env.live_of_hasAppEntry applied
    have stored := (TtlStore.live_eq_some.mp served).1
    exact (tracks.stored _).mp (Option.isSome_iff_exists.mpr ⟨entry, stored⟩)
  · intro contributor orgId issueId known missing
    obtain ⟨entry, stored⟩ := Option.isSome_iff_exists.mp ((tracks.stored _).mpr known)
    refine ⟨entry, stored, Nat.lt_of_not_le fun current => ?_⟩
    have value := inv.sentinels _ entry stored
    have served := TtlStore.live_eq_some.mpr ⟨stored, current⟩
    have applied : hasApplied (exec deployment steps) contributor orgId issueId = true := by
      simp only [hasApplied, Env.hasAppEntry, TtlStore.get, served, Option.map_some, value, Option.getD_some]
    exact Bool.false_ne_true (missing.symm.trans applied)
  · intro auths call after success journaled
    obtain ⟨allowed, rfl⟩ := invoke_eq_ok.mp success
    obtain ⟨event, appended, _⟩ := eventsAfter_journaled ((exec deployment steps).authorisedBy auths) journaled
    exact ⟨event, appended⟩
  · intro auths call failure outcome
    rw [exec_concat, step_of_refused (refused_of_error outcome)]

/-- An application that is left to lapse. -/
def forgottenApplication : List (Step Nat) :=
  [.call [0] (.initializeContract 0), .call [1] (.applyForIssue 1 sampleOrg 7), .advance 17281]

/-- The lapsed application is still in the journal, and its entry past its `liveUntil`. -/
theorem forgotten_application_journaled :
    ∃ entry, (exec (.release Nat) forgottenApplication).storage.app (1, sampleOrg, 7) = some entry ∧
      entry.liveUntil < (exec (.release Nat) forgottenApplication).sequence := by
  have withoutOrgCap : ∀ s ∈ forgottenApplication, WithoutOrgCap s := by
    simp [forgottenApplication, WithoutOrgCap]
  have journal := event_log_is_journal (.release Nat) forgottenApplication withoutOrgCap
  exact journal.2.2.2.2.1 1 sampleOrg 7 (by decide) (by decide)

end Run

end WorkloadGovernor
