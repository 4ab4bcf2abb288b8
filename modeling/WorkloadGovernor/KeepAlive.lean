import WorkloadGovernor.Applications
import WorkloadGovernor.Assignments

namespace WorkloadGovernor

section Life
variable {Address : Type} [DecidableEq Address] {env : Env Address} {contributor : Address} {orgId : Symbol}
  {issueId : UInt32} {ledger : Nat}

/-- A call that takes the application back or turns it into an assignment. -/
def Call.ends (contributor : Address) (orgId : Symbol) (issueId : UInt32) : Call Address → Bool
  | .withdrawApplication c o i => (c, o, i) = (contributor, orgId, issueId)
  | .assignIssue _ c o i => (c, o, i) = (contributor, orgId, issueId)
  | _ => false

/-- A step that ends the application. -/
def Step.Ends (contributor : Address) (orgId : Symbol) (issueId : UInt32) (env : Env Address) : Step Address → Prop
  | .call auths made => made.ends contributor orgId issueId = true ∧ Succeeds env auths made
  | .advance _ => False

/-- Whatever happens on the chain but an end of the application, it is there up to a ledger. -/
def KeptAlive (env : Env Address) (contributor : Address) (orgId : Symbol) (issueId : UInt32) (ledger : Nat) : Prop :=
  ∀ steps, Run.EachStep step env (fun now s => ¬ s.Ends contributor orgId issueId now) steps →
    (Run.exec step env steps).sequence ≤ ledger →
    hasApplied (Run.exec step env steps) contributor orgId issueId = true

theorem goodUntil_effect {call : Call Address}
    (good : env.storage.app.GoodUntil (contributor, orgId, issueId) true ledger)
    (goesOn : call.ends contributor orgId issueId = false) :
    (env.effect call).storage.app.GoodUntil (contributor, orgId, issueId) true ledger := by
  cases call with
  | applyForIssue c o i => exact good.renew _ _ _
  | withdrawApplication c o i =>
    exact good.put_of_ne (fun same => of_decide_eq_false goesOn same.symm) none
  | assignIssue maintainer c o i =>
    exact good.put_of_ne (fun same => of_decide_eq_false goesOn same.symm) none
  | extendApplicationTtl c o i => exact good.prolong _ _
  | _ => exact good

/-- The entry stays good along every run that does not end the application. -/
theorem goodUntil_exec (good : env.storage.app.GoodUntil (contributor, orgId, issueId) true ledger)
    {steps : List (Step Address)}
    (goesOn : Run.EachStep step env (fun now s => ¬ s.Ends contributor orgId issueId now) steps) :
    (Run.exec step env steps).storage.app.GoodUntil (contributor, orgId, issueId) true ledger := by
  induction steps using List.reverseRecOn with
  | nil => exact good
  | append_singleton before s ih =>
    rw [Run.eachStep_concat] at goesOn
    have earlier := ih goesOn.1
    rw [Run.exec_concat]
    cases s with
    | advance ledgers => exact earlier
    | call auths call =>
      by_cases allowed : ((Run.exec step env before).authorisedBy auths).Allowed call
      · rw [step_of_allowed allowed]
        refine goodUntil_effect earlier ?_
        rw [Bool.eq_false_iff]
        exact fun ends => goesOn.2 ⟨ends, succeeds_iff.mpr allowed⟩
      · rw [step_of_refused allowed]
        exact earlier

/-- An application is kept alive up to a later ledger exactly if its entry is good until then. -/
theorem keptAlive_iff (later : env.sequence ≤ ledger) : KeptAlive env contributor orgId issueId ledger ↔
    env.storage.app.GoodUntil (contributor, orgId, issueId) true ledger := by
  constructor
  · intro kept
    -- nothing but ledgers closing is a run that goes on
    have closing : Run.EachStep step env (fun now s => ¬ s.Ends contributor orgId issueId now)
        [.advance (ledger - env.sequence)] := Run.eachStep_cons (fun ends => ends) Run.eachStep_nil
    have arrived : (Run.exec step env [.advance (ledger - env.sequence)]).sequence = ledger := by
      change env.sequence + (ledger - env.sequence) = ledger
      omega
    obtain ⟨entry, live, value⟩ := Env.live_of_hasAppEntry (kept _ closing arrived.le)
    obtain ⟨stored, bound⟩ := TtlStore.live_eq_some.mp live
    exact ⟨entry, stored, value, arrived ▸ bound⟩
  · intro good steps goesOn early
    have read := (goodUntil_exec good goesOn).get early
    rw [hasApplied, Env.hasAppEntry, read]
    rfl

end Life

section Extension
variable {Address : Type} [DecidableEq Address] {env : Env Address}

/-- Both temporary maps serve at least what they did, up to any ledger. -/
structure Env.Outlasted (env after : Env Address) : Prop where
  app : env.storage.app.Outlasted after.storage.app
  gApps : env.storage.gApps.Outlasted after.storage.gApps

theorem outlasted_prolonged (env : Env Address) (contributor : Address) (orgId : Symbol) (issueId : UInt32) :
    env.Outlasted (env.prolonged contributor orgId issueId) where
  app := TtlStore.outlasted_prolong _ _ _ _
  gApps := by
    simp only [Env.prolonged]
    split
    · exact TtlStore.outlasted_prolong _ _ _ _
    · exact fun _ _ _ good => good

theorem getGlobalAppCount_prolonged (env : Env Address) (c contributor : Address) (orgId : Symbol)
    (issueId : UInt32) : (env.prolonged c orgId issueId).getGlobalAppCount contributor =
      env.getGlobalAppCount contributor := by
  have read : (env.prolonged c orgId issueId).storage.gApps.get env.sequence contributor =
      env.storage.gApps.get env.sequence contributor := by
    by_cases positive : env.getGlobalAppCount c > 0
    · simp only [Env.prolonged, positive, if_true, TtlStore.get_prolong]
    · simp only [Env.prolonged, positive, if_false]
  exact congrArg (Option.getD · 0) read

omit [DecidableEq Address] in
/-- A contributor with an application has a counter that counts it. -/
theorem one_le_count (inv : ApplicationInv env) {contributor : Address} {orgId : Symbol} {issueId : UInt32}
    (applied : hasApplied env contributor orgId issueId = true) :
    1 ≤ getGlobalApplicationCount env contributor := by
  have out := (hasAppEntry_iff inv.sentinels).mp applied
  have positive := (inv.sound contributor).count_pos out
  rw [count_applicationBook] at positive
  rw [UInt32.le_iff_toNat_le]
  exact positive

theorem run_applicationInv (inv : ApplicationInv env) (steps : List (Step Address)) :
    ApplicationInv (Run.exec step env steps) :=
  Run.exec_invariant inv (fun _ s inv => applicationInv_step s inv) steps

/-- An application that is extended has its whole lifetime ahead of it again. -/
theorem extended_keptAlive {contributor : Address} {orgId : Symbol} {issueId : UInt32}
    (applied : hasApplied env contributor orgId issueId = true) :
    KeptAlive (env.effect (.extendApplicationTtl contributor orgId issueId)) contributor orgId issueId
      (env.sequence + appTtlLedgers) := by
  obtain ⟨entry, served, value⟩ := Env.live_of_hasAppEntry applied
  have good := TtlStore.goodUntil_prolong (TtlStore.get_eq_some.mpr ⟨entry, served, value⟩) appTtlLedgers
  exact (keptAlive_iff (Nat.le_add_right _ _)).mpr good

/-- Anyone can extend exactly the applications there are. Whatever happens then but the end
of the application, it and a positive counter are there for the promised lifetime; and the
extension changes no count, no assignment and no other application, and shortens no life. -/
theorem extension_keeps_alive (deployment : Deployment Address) (steps : List (Step Address))
    (auths : List Address) (contributor : Address) (orgId : Symbol) (issueId : UInt32) :
    let env := exec deployment steps
    let extension := Call.extendApplicationTtl contributor orgId issueId
    (Succeeds env auths extension ↔ hasApplied env contributor orgId issueId = true) ∧
    ∀ after, invoke env auths extension = .ok after →
      (∀ more, Run.EachStep step after (fun now s => ¬ s.Ends contributor orgId issueId now) more →
        (Run.exec step after more).sequence ≤ env.sequence + appTtlLedgers →
        hasApplied (Run.exec step after more) contributor orgId issueId = true ∧
          1 ≤ getGlobalApplicationCount (Run.exec step after more) contributor) ∧
      (∀ c, getGlobalApplicationCount after c = getGlobalApplicationCount env c) ∧
      (∀ c o, getOrgAssignmentCount after c o = getOrgAssignmentCount env c o) ∧
      (∀ c o i, isAssigned after c o i = isAssigned env c o i) ∧
      (∀ key, key ≠ (contributor, orgId, issueId) → after.storage.app key = env.storage.app key) ∧
      env.Outlasted after ∧ env.storage.instanceLiveUntil ≤ after.storage.instanceLiveUntil := by
  dsimp only
  have inv := applicationInv_authorisedBy (exec_applicationInv deployment steps) auths
  have outlasted := outlasted_prolonged ((exec deployment steps).authorisedBy auths) contributor orgId issueId
  refine ⟨succeeds_iff, ?_⟩
  intro after success
  obtain ⟨applied, rfl⟩ := invoke_eq_ok.mp success
  refine ⟨?_, ?_, fun _ _ => rfl, fun _ _ _ => rfl, ?_, ⟨outlasted.app, outlasted.gApps⟩, le_rfl⟩
  · intro more goesOn early
    have kept := extended_keptAlive applied more goesOn early
    exact ⟨kept, one_le_count (run_applicationInv (applicationInv_effect inv applied) more) kept⟩
  · exact fun c => getGlobalAppCount_prolonged _ contributor c orgId issueId
  · exact fun key other => TtlStore.prolong_of_ne other _ _

end Extension

end WorkloadGovernor
