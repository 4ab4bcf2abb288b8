import WorkloadGovernor.Registry

namespace WorkloadGovernor
variable {Address : Type} [DecidableEq Address]

/-- The names of the events that tell which admin acted. -/
def adminEventNames : List String := ["maint_drg", "cap_upd", "emrg_cap"]

/-- The admins an event names: the one in its second topic, and for `cap_upd` the one in its
data as well. -/
def Event.admins (event : Event Address) : List Address :=
  match event.topics, event.data with
  | [.symbol name, .address admin], .vec (.address again :: _) =>
    if name.text = "cap_upd" then [admin, again] else [admin]
  | [_, .address admin], _ => [admin]
  | _, _ => []

/-- Every event about an admin's doing names the stored admin, and nobody else. -/
def AdminEventsGenuine (env : Env Address) : Prop :=
  ∀ event ∈ env.events, (∃ name ∈ adminEventNames, event.name = some name) →
    ∃ admin, env.getAdmin = some admin ∧ event.admins ≠ [] ∧ ∀ named ∈ event.admins, named = admin

/-- The admin a call is told to publish. -/
def Call.auditedAdmin : Call Address → Option Address
  | .deregisterMaintainer admin _ _ => some admin
  | .setGlobalCap admin _ => some admin
  | .emergencySetGlobalCap admin _ => some admin
  | _ => none

/-- If the call succeeds, the admin it is told to publish is the stored one. -/
def NamesStoredAdmin (env : Env Address) : Step Address → Prop
  | .call auths made => Succeeds env auths made → ∀ admin, made.auditedAdmin = some admin → env.getAdmin = some admin
  | .advance _ => True

section Audit
variable {env : Env Address}

omit [DecidableEq Address] in
theorem adminEventNames_subset {name : String} (member : name ∈ adminEventNames) : name ∈ publishedNames := by
  simp only [adminEventNames, List.mem_cons, List.not_mem_nil, or_false] at member
  rcases member with rfl | rfl | rfl <;> decide

/-- A call told to publish an admin publishes one event, and in it that admin. -/
theorem audited_event {call : Call Address} {admin : Address} (audited : call.auditedAdmin = some admin)
    (env : Env Address) : ∃ event, (env.effect call).events = env.events ++ [event] ∧
      (∃ name ∈ adminEventNames, event.name = some name) ∧ event.admins ≠ [] ∧
      (∀ named ∈ event.admins, named = admin) ∧ (env.effect call).getAdmin = env.getAdmin := by
  cases call with
  | deregisterMaintainer a m o =>
    cases audited
    exact ⟨_, rfl, ⟨"maint_drg", by decide, rfl⟩, List.cons_ne_nil _ _, by simp [Event.admins], rfl⟩
  | setGlobalCap a newCap =>
    cases audited
    exact ⟨_, rfl, ⟨"cap_upd", by decide, rfl⟩, List.cons_ne_nil _ _, by simp [Event.admins], rfl⟩
  | emergencySetGlobalCap a newCap =>
    cases audited
    exact ⟨_, rfl, ⟨"emrg_cap", by decide, rfl⟩, List.cons_ne_nil _ _, by simp [Event.admins], rfl⟩
  | _ => cases audited

/-- Any other call publishes nothing under the three names. -/
theorem unaudited_events (apart : OrgCapApart env) {call : Call Address}
    (unaudited : call.auditedAdmin = none) : ∃ published, (env.effect call).events = env.events ++ published ∧
      ∀ event ∈ published, ∀ name ∈ adminEventNames, event.name ≠ some name := by
  have single : ∀ event : Event Address, (∀ name ∈ adminEventNames, event.name ≠ some name) →
      ∀ other ∈ [event], ∀ name ∈ adminEventNames, other.name ≠ some name := by
    intro event foreign other member
    rw [List.mem_singleton.mp member]
    exact foreign
  cases call with
  | deregisterMaintainer a m o => cases unaudited
  | setGlobalCap a newCap => cases unaudited
  | emergencySetGlobalCap a newCap => cases unaudited
  | upgrade newWasmHash => exact ⟨[], (List.append_nil _).symm, by simp⟩
  | extendApplicationTtl c o i => exact ⟨[], (List.append_nil _).symm, by simp⟩
  | setOrgCap m o newCap =>
    exact ⟨_, rfl, fun event member name listed => apart _ _ _ event member name (adminEventNames_subset listed)⟩
  | _ => exact ⟨_, rfl, single _ (by simp [adminEventNames, Event.name])⟩

theorem genuine_effect_iff (apart : OrgCapApart env) (genuine : AdminEventsGenuine env)
    {call : Call Address} (allowed : env.Allowed call) : AdminEventsGenuine (env.effect call) ↔
      ∀ admin, call.auditedAdmin = some admin → env.getAdmin = some admin := by
  cases audited : call.auditedAdmin with
  | some admin =>
    obtain ⟨event, published, tells, nonempty, names, unchanged⟩ := audited_event audited env
    rw [AdminEventsGenuine, published, unchanged]
    constructor
    · intro after other same
      cases same
      obtain ⟨stored, there, _, all_stored⟩ := after event (List.mem_append_right _ List.mem_cons_self) tells
      obtain ⟨named, listed⟩ := List.exists_mem_of_ne_nil _ nonempty
      rw [there, ← all_stored named listed, names named listed]
    · intro stored other member tells
      rcases List.mem_append.mp member with old | new
      · exact genuine other old tells
      · rw [List.mem_singleton.mp new]
        exact ⟨admin, stored admin rfl, nonempty, names⟩
  | none =>
    refine iff_of_true ?_ fun _ impossible => by cases impossible
    obtain ⟨published, appended, foreign⟩ := unaudited_events apart audited
    intro event member tells
    rw [appended] at member
    rcases List.mem_append.mp member with old | new
    · obtain ⟨admin, stored, rest⟩ := genuine event old tells
      rcases getAdmin_effect allowed with ⟨_, _, missing, _⟩ | ⟨_, same⟩
      · rw [missing] at stored
        cases stored
      · exact ⟨admin, same.trans stored, rest⟩
    · obtain ⟨name, listed, same⟩ := tells
      exact absurd same (foreign event new name listed)

theorem genuine_step_iff (apart : OrgCapApart env) (genuine : AdminEventsGenuine env)
    (s : Step Address) : AdminEventsGenuine (step env s) ↔ NamesStoredAdmin env s := by
  cases s with
  | advance n => exact iff_of_true genuine trivial
  | call auths call =>
    by_cases allowed : (env.authorisedBy auths).Allowed call
    · have signed : AdminEventsGenuine (env.authorisedBy auths) := genuine
      have success := succeeds_iff.mpr allowed
      have signedApart : OrgCapApart (env.authorisedBy auths) := apart
      rw [step_of_allowed allowed, genuine_effect_iff signedApart signed allowed]
      exact ⟨fun stored _ => stored, fun stored => stored success⟩
    · rw [step_of_refused allowed]
      exact iff_of_true genuine fun success => absurd (succeeds_iff.mp success) allowed

/-- The admin events of a run are genuine throughout exactly if every call that publishes an
admin, and succeeds, is told to publish the stored one. -/
theorem admin_events_genuine_iff (deployment : Deployment Address) (apart : deployment.OrgCapEventApart)
    (steps : List (Step Address)) : Run.Always step (.genesis deployment) AdminEventsGenuine steps ↔
      Run.EachStep step (.genesis deployment) NamesStoredAdmin steps := by
  have init : OrgCapApart (Env.genesis deployment) := apart
  have none_published : AdminEventsGenuine (Env.genesis deployment) := fun _ member => by cases member
  exact Run.always_iff_eachStep init (fun env s apart => orgCapApart_step apart s) none_published
    (fun env s apart genuine => genuine_step_iff apart genuine s) steps

/-- The stored admin raises the cap and names itself. -/
def honestAdmin : List (Step Nat) :=
  [.call [0] (.initializeContract 0), .call [0] (.setGlobalCap 0 20)]

theorem honest_admin_genuine : Run.Always step (.genesis (.release Nat)) AdminEventsGenuine honestAdmin := by
  have apart : (Deployment.release Nat).OrgCapEventApart := fun _ _ _ event member => by cases member
  refine (admin_events_genuine_iff (.release Nat) apart honestAdmin).mpr ?_
  refine Run.eachStep_cons (fun _ admin impossible => by cases impossible) (Run.eachStep_cons ?_ Run.eachStep_nil)
  intro _ admin named
  cases named
  rfl

/-- The stored admin raises the cap and names somebody else. -/
def borrowedName : List (Step Nat) :=
  [.call [0] (.initializeContract 0), .call [0] (.setGlobalCap 7 20)]

theorem borrowed_name_published : ¬ AdminEventsGenuine (exec (.release Nat) borrowedName) := by
  intro genuine
  have last : (⟨[.symbol ⟨"cap_upd", by decide⟩, .address 7], .vec [.address 7, .u32 20]⟩ : Event Nat) ∈
      (exec (.release Nat) borrowedName).events := List.mem_append_right _ List.mem_cons_self
  obtain ⟨admin, stored, _, names⟩ := genuine _ last ⟨"cap_upd", by decide, rfl⟩
  have seven : 7 = admin := names 7 List.mem_cons_self
  rw [← seven] at stored
  cases stored

end Audit

end WorkloadGovernor
