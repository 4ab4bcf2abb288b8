import WorkloadGovernor.Isolation
import WorkloadGovernor.Lib.Independence

namespace WorkloadGovernor
variable {Address : Type} [DecidableEq Address]

/-- The step matters to the contributor: it is no call about somebody else. -/
def Step.concerns (contributor : Address) : Step Address → Bool
  | .call _ made => made.contributor.all (· == contributor)
  | .advance _ => true

/-- The steps of a schedule that matter to one contributor. -/
def ownSteps (contributor : Address) (steps : List (Step Address)) : List (Step Address) :=
  Independence.projection Step.concerns contributor steps

theorem concerns_eq_false {contributor : Address} {s : Step Address} :
    s.concerns contributor = false ↔ NamesOther contributor s := by
  cases s with
  | advance n => simp [Step.concerns, NamesOther]
  | call auths call =>
    rw [Step.concerns, NamesOther]
    cases call.contributor with
    | none => simp
    | some named => simp

theorem namesOnly_of_concerns {contributor : Address} {auths : List Address} {call : Call Address}
    (own : (Step.call auths call).concerns contributor = true) : call.NamesOnly contributor := by
  intro named mentions
  rw [Step.concerns, mentions, Option.all_some] at own
  exact beq_iff_eq.mp own

/-- The names of the events published about the contributor in their second topic. -/
def contributorEvents : List String := ["applied", "withdrew", "assigned", "completed", "revoked"]

/-- The event is not published about somebody else. -/
def Event.concerns (contributor : Address) (event : Event Address) : Bool :=
  match event.topics with
  | [.symbol name, .address account] => !contributorEvents.contains name.text || account == contributor
  | _ => true

def toldTo (contributor : Address) (events : List (Event Address)) : List (Event Address) :=
  events.filter (Event.concerns contributor)

/-- All that one contributor can ever learn: their view, the running code, and the events not
about others. -/
structure Share (Address : Type) where
  seen : Seen Address
  wasm : Option WasmHash
  told : List (Event Address)

def Env.shareOf (env : Env Address) (contributor : Address) : Share Address where
  seen := env.seenBy contributor
  wasm := env.storage.wasm
  told := toldTo contributor env.events

omit [DecidableEq Address] in
theorem Share.eq_of_parts {first second : Share Address} (seen : first.seen = second.seen)
    (wasm : first.wasm = second.wasm) (told : first.told = second.told) : first = second := by
  cases first
  cases second
  cases seen
  cases wasm
  cases told
  rfl

section Effect
variable {env other : Env Address} {contributor : Address} {call : Call Address}

theorem toldTo_appended (before new : List (Event Address)) :
    toldTo contributor (before ++ new) = toldTo contributor before ++ toldTo contributor new :=
  List.filter_append ..

/-- A call about somebody else publishes nothing that concerns the contributor. -/
theorem toldTo_effect_of_other {named : Address} (names : call.contributor = some named)
    (differs : named ≠ contributor) : toldTo contributor (env.effect call).events = toldTo contributor env.events := by
  have events : (env.effect call).events = env.eventsAfter call := rfl
  have silent : ∀ event : Event Address, event.concerns contributor = false →
      toldTo contributor (env.events ++ [event]) = toldTo contributor env.events := by
    intro event foreign
    rw [toldTo_appended, toldTo, toldTo, List.filter_singleton, foreign, cond_false, List.append_nil]
  have apart : (named == contributor) = false := beq_false_of_ne differs
  rw [events]
  cases call with
  | applyForIssue c o i => cases names; exact silent _ apart
  | withdrawApplication c o i => cases names; exact silent _ apart
  | assignIssue m c o i => cases names; exact silent _ apart
  | completeAssignment m c o i => cases names; exact silent _ apart
  | revokeAssignment m c o i => cases names; exact silent _ apart
  | extendApplicationTtl c o i => rfl
  | _ => cases names

/-- What a call publishes is decided by its arguments and by what every contributor sees. -/
theorem published_of_seen (same : env.seenBy contributor = other.seenBy contributor) (call : Call Address) :
    ∃ new, (env.effect call).events = env.events ++ new ∧ (other.effect call).events = other.events ++ new := by
  have deployment : env.deployment = other.deployment := congrArg Seen.deployment same
  cases call with
  | setOrgCap m o newCap =>
    refine ⟨env.deployment.orgCapUpdated o (env.getOrgCap o) newCap, rfl, ?_⟩
    rw [deployment, getOrgCap_of_seen same]
    rfl
  | emergencySetGlobalCap a newCap =>
    refine ⟨[⟨[.symbol ⟨"emrg_cap", by decide⟩, .address a], .vec [.u32 env.getGlobalCap, .u32 newCap]⟩], rfl, ?_⟩
    rw [getGlobalCap_of_seen same]
    rfl
  | upgrade newWasmHash => exact ⟨[], (List.append_nil _).symm, (List.append_nil _).symm⟩
  | extendApplicationTtl c o i => exact ⟨[], (List.append_nil _).symm, (List.append_nil _).symm⟩
  | _ => exact ⟨_, rfl, rfl⟩

theorem wasm_effect_of_named {named : Address} (names : call.contributor = some named) :
    (env.effect call).storage.wasm = env.storage.wasm := by
  cases call <;> first | rfl | cases names

theorem wasm_effect_congr (same : env.storage.wasm = other.storage.wasm) (call : Call Address) :
    (env.effect call).storage.wasm = (other.effect call).storage.wasm := by
  cases call with
  | upgrade newWasmHash => rfl
  | _ => exact same

end Effect

theorem share_foreign (env : Env Address) (contributor : Address) (s : Step Address)
    (foreign : s.concerns contributor = false) : (step env s).shareOf contributor = env.shareOf contributor := by
  have names := concerns_eq_false.mp foreign
  have seen := seenBy_step_of_other env names
  cases s with
  | advance n => cases names
  | call auths call =>
    obtain ⟨named, mentions, differs⟩ := names
    by_cases allowed : (env.authorisedBy auths).Allowed call
    · rw [step_of_allowed allowed] at seen ⊢
      exact Share.eq_of_parts seen (wasm_effect_of_named mentions) (toldTo_effect_of_other mentions differs)
    · rw [step_of_refused allowed]

/-- Whether the checks of a call pass is seen alike by everyone the call concerns. -/
theorem allowed_of_seen {env other : Env Address} {contributor : Address} {auths : List Address}
    {call : Call Address} (same : env.seenBy contributor = other.seenBy contributor)
    (own : call.NamesOnly contributor) :
    (env.authorisedBy auths).Allowed call ↔ (other.authorisedBy auths).Allowed call := by
  have signed : (env.authorisedBy auths).seenBy contributor = (other.authorisedBy auths).seenBy contributor := same
  rw [← Env.guards_eq_ok, ← Env.guards_eq_ok, guards_of_seen signed rfl own]

theorem share_acts (env other : Env Address) (contributor : Address) (s : Step Address)
    (same : env.shareOf contributor = other.shareOf contributor) :
    (step env s).shareOf contributor = (step other s).shareOf contributor := by
  cases own : s.concerns contributor with
  | false => rw [share_foreign env contributor s own, share_foreign other contributor s own, same]
  | true =>
    have seen : env.seenBy contributor = other.seenBy contributor := congrArg Share.seen same
    have wasm : env.storage.wasm = other.storage.wasm := congrArg Share.wasm same
    have told : toldTo contributor env.events = toldTo contributor other.events := congrArg Share.told same
    have seenAfter := seenBy_step_congr seen s
    cases s with
    | advance n => exact Share.eq_of_parts seenAfter wasm told
    | call auths call =>
      have agree : (env.authorisedBy auths).Allowed call ↔ (other.authorisedBy auths).Allowed call :=
        allowed_of_seen seen (namesOnly_of_concerns own)
      by_cases allowed : (env.authorisedBy auths).Allowed call
      · rw [step_of_allowed allowed, step_of_allowed (agree.mp allowed)] at seenAfter ⊢
        have signed : (env.authorisedBy auths).seenBy contributor = (other.authorisedBy auths).seenBy contributor :=
          seen
        obtain ⟨new, first, second⟩ := published_of_seen signed call
        have code : (env.authorisedBy auths).storage.wasm = (other.authorisedBy auths).storage.wasm := wasm
        refine Share.eq_of_parts seenAfter (wasm_effect_congr code call) ?_
        simp only [Env.shareOf, first, second, toldTo_appended]
        exact congrArg (· ++ toldTo contributor new) told
      · rw [step_of_refused allowed, step_of_refused fun passed => allowed (agree.mpr passed)]
        exact same

theorem shares_independent :
    Independence.Views (fun env (s : Step Address) => step env s) Env.shareOf Step.concerns where
  foreign := share_foreign
  acts := share_acts

section Instance

/-- How the lifetime of the instance is extended in a ledger. -/
def bumpedAt (sequence liveUntil : Nat) : Nat :=
  TtlStore.extended sequence (instanceTtlLedgers / 2) instanceTtlLedgers liveUntil

/-- A successful call extends the lifetime of the instance in one way, or not at all. -/
theorem instance_effect (call : Call Address) :
    (∀ env : Env Address,
      (env.effect call).storage.instanceLiveUntil = bumpedAt env.sequence env.storage.instanceLiveUntil) ∨
      ∀ env : Env Address, (env.effect call).storage.instanceLiveUntil = env.storage.instanceLiveUntil := by
  cases call with
  | upgrade newWasmHash => exact Or.inr fun _ => rfl
  | extendApplicationTtl c o i => exact Or.inr fun _ => rfl
  | _ => exact Or.inl fun _ => rfl

variable {env other : Env Address}

/-- In two states that somebody the step concerns sees alike, it extends both instances or neither. -/
theorem instance_step {contributor : Address} {s : Step Address} (own : s.concerns contributor = true)
    (seen : env.seenBy contributor = other.seenBy contributor) :
    ((step env s).storage.instanceLiveUntil = bumpedAt env.sequence env.storage.instanceLiveUntil ∧
      (step other s).storage.instanceLiveUntil = bumpedAt env.sequence other.storage.instanceLiveUntil) ∨
    ((step env s).storage.instanceLiveUntil = env.storage.instanceLiveUntil ∧
      (step other s).storage.instanceLiveUntil = other.storage.instanceLiveUntil) := by
  cases s with
  | advance n => exact Or.inr ⟨rfl, rfl⟩
  | call auths call =>
    have agree : (env.authorisedBy auths).Allowed call ↔ (other.authorisedBy auths).Allowed call :=
      allowed_of_seen seen (namesOnly_of_concerns own)
    have sequence : env.sequence = other.sequence := congrArg Seen.sequence seen
    by_cases allowed : (env.authorisedBy auths).Allowed call
    · rw [step_of_allowed allowed, step_of_allowed (agree.mp allowed), sequence]
      rcases instance_effect call with bumps | keeps
      · have ledger : (env.authorisedBy auths).sequence = other.sequence := sequence
        refine Or.inl ⟨?_, bumps _⟩
        rw [bumps, ledger]
        rfl
      · exact Or.inr ⟨keeps _, keeps _⟩
    · rw [step_of_refused allowed, step_of_refused fun passed => allowed (agree.mpr passed)]
      exact Or.inr ⟨rfl, rfl⟩

end Instance

section Schedules
variable [Nonempty Address]

theorem concerns_someone (s : Step Address) : ∃ contributor, s.concerns contributor = true := by
  obtain ⟨anyone⟩ := ‹Nonempty Address›
  cases s with
  | advance n => exact ⟨anyone, rfl⟩
  | call auths call =>
    cases mentions : call.contributor with
    | none => exact ⟨anyone, by rw [Step.concerns, mentions, Option.all_none]⟩
    | some named => exact ⟨named, by rw [Step.concerns, mentions, Option.all_some, beq_self_eq_true]⟩

/-- Everybody sees the same, and the instance lives as long. -/
structure Alike (env other : Env Address) : Prop where
  shares : env.shareOf = other.shareOf
  instanceLiveUntil : env.storage.instanceLiveUntil = other.storage.instanceLiveUntil

omit [Nonempty Address] in
theorem Alike.seen {env other : Env Address} (shares : env.shareOf = other.shareOf) (contributor : Address) :
    env.seenBy contributor = other.seenBy contributor :=
  congrArg Share.seen (congrFun shares contributor)

theorem Alike.step {env other : Env Address} (alike : Alike env other) (s : Step Address) :
    Alike (step env s) (step other s) where
  shares := shares_independent.step_congr alike.shares s
  instanceLiveUntil := by
    obtain ⟨contributor, own⟩ := concerns_someone s
    rcases instance_step own (Alike.seen alike.shares contributor) with ⟨first, second⟩ | ⟨first, second⟩
    · rw [first, second, alike.instanceLiveUntil]
    · rw [first, second, alike.instanceLiveUntil]

/-- Two steps that concern nobody in common may change places. -/
theorem alike_exchanged {s t : Step Address} (env : Env Address) (apart : Independence.Apart Step.concerns s t) :
    Alike (step (step env s) t) (step (step env t) s) where
  shares := shares_independent.diamond apart env
  instanceLiveUntil := by
    obtain ⟨first, ownFirst⟩ := concerns_someone s
    obtain ⟨second, ownSecond⟩ := concerns_someone t
    have foreignSecond : s.concerns second = false := by
      by_contra own
      rw [Bool.not_eq_false] at own
      exact Bool.false_ne_true ((apart second own).symm.trans ownSecond)
    have seenFirst : env.seenBy first = (step env t).seenBy first :=
      (congrArg Share.seen (share_foreign env first t (apart first ownFirst))).symm
    have seenSecond : env.seenBy second = (step env s).seenBy second :=
      (congrArg Share.seen (share_foreign env second s foreignSecond)).symm
    rcases instance_step ownFirst seenFirst with ⟨early, late⟩ | ⟨early, late⟩
    · rcases instance_step ownSecond seenSecond with ⟨before, after⟩ | ⟨before, after⟩
      · rw [after, early, late, before]
      · rw [after, early, late, before]
    · rcases instance_step ownSecond seenSecond with ⟨before, after⟩ | ⟨before, after⟩
      · rw [after, early, late, before]
      · rw [after, early, late, before]

theorem Alike.storage_eq {env other : Env Address} (alike : Alike env other) :
    env.storage = other.storage ∧ env.sequence = other.sequence := by
  have seen := Alike.seen alike.shares
  obtain ⟨anyone⟩ := ‹Nonempty Address›
  have gApps : env.storage.gApps = other.storage.gApps := funext fun c => congrArg Seen.gApps (seen c)
  have app : env.storage.app = other.storage.app :=
    funext fun key => congrFun (congrArg Seen.app (seen key.1)) key.2
  have oAsgn : env.storage.oAsgn = other.storage.oAsgn :=
    funext fun key => congrFun (congrArg Seen.oAsgn (seen key.1)) key.2
  have asgn : env.storage.asgn = other.storage.asgn :=
    funext fun key => congrFun (congrArg Seen.asgn (seen key.2.2)) (key.1, key.2.1)
  have gCap : env.storage.gCap = other.storage.gCap := congrArg Seen.gCap (seen anyone)
  have admin : env.storage.admin = other.storage.admin := congrArg Seen.admin (seen anyone)
  have maint : env.storage.maint = other.storage.maint := congrArg Seen.maint (seen anyone)
  have oCap : env.storage.oCap = other.storage.oCap := congrArg Seen.oCap (seen anyone)
  have wasm : env.storage.wasm = other.storage.wasm := congrArg Share.wasm (congrFun alike.shares anyone)
  have ledger : env.sequence = other.sequence := congrArg Seen.sequence (seen anyone)
  have live := alike.instanceLiveUntil
  refine ⟨?_, ledger⟩
  cases first : env.storage
  cases second : other.storage
  simp only [first, second] at *
  simp only [Storage.mk.injEq]
  exact ⟨gApps, app, gCap, admin, maint, oAsgn, asgn, oCap, live, wasm⟩

/-- How a call that does not concern others ends, for the contributor who watches the chain. -/
def answerTo (contributor : Address) (env : Env Address) (s : Step Address) : Option (Except Failure Unit) :=
  match s with
  | .call auths made => if s.concerns contributor then some (outcome env auths made) else none
  | .advance _ => none

/-- How the contributor's own calls and the calls about nobody end along a schedule. -/
def answersTo (deployment : Deployment Address) (contributor : Address) (steps : List (Step Address)) :
    List (Except Failure Unit) :=
  Run.observed step (answerTo contributor) (.genesis deployment) steps

omit [Nonempty Address] in
theorem answersTo_eq_own (deployment : Deployment Address) (contributor : Address) (steps : List (Step Address)) :
    answersTo deployment contributor steps = answersTo deployment contributor (ownSteps contributor steps) := by
  have silent : ∀ (env : Env Address) s, s.concerns contributor = false → answerTo contributor env s = none := by
    intro env s foreign
    cases s with
    | advance n => rfl
    | call auths call => rw [answerTo, foreign, if_neg Bool.false_ne_true]
  have determined : ∀ (env other : Env Address) s, s.concerns contributor = true →
      env.shareOf contributor = other.shareOf contributor →
      answerTo contributor env s = answerTo contributor other s := by
    intro env other s own same
    cases s with
    | advance n => rfl
    | call auths call =>
      have signed : (env.authorisedBy auths).seenBy contributor = (other.authorisedBy auths).seenBy contributor :=
        congrArg Share.seen same
      have checks := guards_of_seen signed rfl (namesOnly_of_concerns own)
      simp only [answerTo, own, if_true, outcome_eq_guards, checks]
  exact shares_independent.observed_projection silent determined steps rfl

/-- Contributors never contend: two schedules in which every contributor finds the calls about
them, the calls about nobody and the ledgers in the same order leave the same storage in the
same ledger, tell every contributor the same events in the same order, and end each of these
calls the same way. -/
theorem contributors_never_contend (deployment : Deployment Address) {xs ys : List (Step Address)}
    (same : ∀ contributor, ownSteps contributor xs = ownSteps contributor ys) :
    (exec deployment xs).storage = (exec deployment ys).storage ∧
    (exec deployment xs).sequence = (exec deployment ys).sequence ∧
    ∀ contributor,
      toldTo contributor (exec deployment xs).events = toldTo contributor (exec deployment ys).events ∧
      answersTo deployment contributor xs = answersTo deployment contributor ys := by
  have reordered := Independence.reordered_of_projections concerns_someone same
  have refl : ∀ env : Env Address, Alike env env := fun _ => ⟨rfl, rfl⟩
  have trans {env middle other : Env Address} (first : Alike env middle) (second : Alike middle other) :
      Alike env other :=
    ⟨first.shares.trans second.shares, first.instanceLiveUntil.trans second.instanceLiveUntil⟩
  have alike : Alike (exec deployment xs) (exec deployment ys) :=
    reordered.exec refl trans (fun s related => related.step s) (fun env apart => alike_exchanged env apart) _
  obtain ⟨storage, sequence⟩ := alike.storage_eq
  refine ⟨storage, sequence, fun contributor => ⟨?_, ?_⟩⟩
  · exact congrArg Share.told (congrFun alike.shares contributor)
  · rw [answersTo_eq_own deployment contributor xs, answersTo_eq_own deployment contributor ys, same contributor]

/-- Two contributors apply, one after the other and the other way round. -/
def firstThenSecond : List (Step Nat) :=
  [.call [0] (.initializeContract 0), .call [1] (.applyForIssue 1 sampleOrg 7),
    .call [2] (.applyForIssue 2 sampleOrg 7), .advance 100]

def secondThenFirst : List (Step Nat) :=
  [.call [0] (.initializeContract 0), .call [2] (.applyForIssue 2 sampleOrg 7),
    .call [1] (.applyForIssue 1 sampleOrg 7), .advance 100]

theorem either_may_apply_first : (exec (.release Nat) firstThenSecond).storage =
    (exec (.release Nat) secondThenFirst).storage := by
  refine (contributors_never_contend (.release Nat) fun contributor => ?_).1
  unfold ownSteps Independence.projection firstThenSecond secondThenFirst
  by_cases first : contributor = 1
  · subst first
    rfl
  · have apart : (1 == contributor) = false := beq_false_of_ne (Ne.symm first)
    simp [List.filter_cons, Step.concerns, Call.contributor, apart]

end Schedules

end WorkloadGovernor
