import WorkloadGovernor.ApplicationCounter

namespace WorkloadGovernor
open LeaseBook
variable {Address : Type} [DecidableEq Address]

/-- A call that gives an entry of the contributor's applications a new lifetime. -/
def Call.renews (contributor : Address) : Call Address → Bool
  | .applyForIssue c _ _ => c = contributor
  | .extendApplicationTtl c _ _ => c = contributor
  | _ => false

def Step.Renews (contributor : Address) (env : Env Address) : Step Address → Prop
  | .call auths made => made.renews contributor = true ∧ Succeeds env auths made
  | .advance _ => False

section Lapse
variable {env : Env Address} {contributor : Address} {moment : Nat}

/-- Any other call leaves the contributor's book alone or gives a lease back. -/
theorem applicationOp_of_not_renews {call : Call Address} (spares : call.renews contributor = false) :
    applicationOp contributor call = .idle ∨ ∃ issue, applicationOp contributor call = .surrender issue := by
  rcases applicationOp_cases contributor call with idle | ⟨issue, ⟨rfl, _⟩ | ⟨_, op⟩ | ⟨rfl, _⟩⟩
  · exact Or.inl idle
  · exact absurd rfl (of_decide_eq_false spares)
  · exact Or.inr ⟨issue, op⟩
  · exact absurd rfl (of_decide_eq_false spares)

theorem endsBy_effect (sentinels : SentinelsTrue env) (ends : (applicationBook env contributor).EndsBy moment)
    {call : Call Address} (allowed : env.Allowed call) (spares : call.renews contributor = false) :
    (applicationBook (env.effect call) contributor).EndsBy moment := by
  rw [applicationBook_effect sentinels allowed]
  rcases applicationOp_of_not_renews spares with idle | ⟨issue, surrenders⟩
  · rw [idle]
    exact ends
  · rw [surrenders]
    exact ends.surrender issue

theorem endsBy_step (inv : ApplicationInv env) (ends : (applicationBook env contributor).EndsBy moment)
    {s : Step Address} (spares : ¬ s.Renews contributor env) :
    (applicationBook (step env s) contributor).EndsBy moment := by
  cases s with
  | advance n =>
    have passed : applicationBook (step env (.advance n)) contributor = (applicationBook env contributor).pass n :=
      applicationBook_advanced n
    rw [passed]
    exact ends.pass n
  | call auths call =>
    by_cases allowed : (env.authorisedBy auths).Allowed call
    · have signed : (applicationBook (env.authorisedBy auths) contributor).EndsBy moment := ends
      rw [step_of_allowed allowed]
      refine endsBy_effect (applicationInv_authorisedBy inv auths).sentinels signed allowed ?_
      rw [Bool.eq_false_iff]
      exact fun renews => spares ⟨renews, succeeds_iff.mpr allowed⟩
    · rw [step_of_refused allowed]
      exact ends

/-- Along a run that renews nothing of the contributor's, no deadline in the book moves back. -/
theorem endsBy_exec (inv : ApplicationInv env) (ends : (applicationBook env contributor).EndsBy moment)
    {more : List (Step Address)}
    (spares : Run.EachStep step env (fun now s => ¬ s.Renews contributor now) more) :
    ApplicationInv (Run.exec step env more) ∧
      (applicationBook (Run.exec step env more) contributor).EndsBy moment := by
  induction more using List.reverseRecOn with
  | nil => exact ⟨inv, ends⟩
  | append_singleton before s ih =>
    rw [Run.eachStep_concat] at spares
    obtain ⟨earlier, due⟩ := ih spares.1
    rw [Run.exec_concat]
    exact ⟨applicationInv_step s earlier, endsBy_step earlier due spares.2⟩

end Lapse

/-- A contributor who neither applies nor is extended has all slots back after the lifetime
of an application, whatever else has happened meanwhile. -/
theorem slots_recovered (deployment : Deployment Address) (steps more : List (Step Address)) (contributor : Address)
    (spares : Run.EachStep step (exec deployment steps) (fun now s => ¬ s.Renews contributor now) more)
    (late : (exec deployment steps).sequence + appTtlLedgers + 1 ≤
      (Run.exec step (exec deployment steps) more).sequence) :
    let final := Run.exec step (exec deployment steps) more
    (∀ orgId issueId, hasApplied final contributor orgId issueId = false) ∧
      getGlobalApplicationCount final contributor = 0 ∧
      getGlobalApplicationCapacity final contributor = final.getGlobalCap := by
  dsimp only
  have start := exec_applicationInv deployment steps
  have due : (applicationBook (exec deployment steps) contributor).EndsBy
      ((exec deployment steps).sequence + appTtlLedgers) := (start.sound contributor).endsBy
  obtain ⟨inv, ends⟩ := endsBy_exec start due spares
  obtain ⟨empty, zero⟩ := ends.cleared (inv.sound contributor) (Nat.lt_of_succ_le late)
  have none_left : getGlobalApplicationCount (Run.exec step (exec deployment steps) more) contributor = 0 := by
    rw [← UInt32.toNat_inj, UInt32.toNat_zero, ← zero, count_applicationBook]
    rfl
  refine ⟨?_, none_left, ?_⟩
  · intro orgId issueId
    rw [Bool.eq_false_iff]
    intro applied
    have out := (hasAppEntry_iff inv.sentinels).mp applied
    rw [empty] at out
    exact out
  · have unused : (Run.exec step (exec deployment steps) more).getGlobalAppCount contributor = 0 := none_left
    rw [getGlobalApplicationCapacity, unused, ← UInt32.toNat_inj, Checked.toNat_saturatingSub]
    rfl

/-- What contributor 1 can do with two applications but renew them: one is withdrawn, the
other is left to lapse, and somebody else applies. -/
def idleDay : List (Step Nat) :=
  [.advance 50, .call [1] (.withdrawApplication 1 sampleOrg 1), .call [2] (.applyForIssue 2 sampleOrg 1),
    .advance 17231]

theorem idle_day_recovers :
    let final := Run.exec step (exec (.release Nat) (staggeredApplications.take 4)) idleDay
    hasApplied final 1 sampleOrg 2 = false ∧ getGlobalApplicationCount final 1 = 0 ∧
      getGlobalApplicationCapacity final 1 = final.getGlobalCap := by
  have spares : Run.EachStep step (exec (.release Nat) (staggeredApplications.take 4))
      (fun now s => ¬ s.Renews 1 now) idleDay := by
    refine Run.eachStep_cons id (Run.eachStep_cons ?_ (Run.eachStep_cons ?_ (Run.eachStep_cons id Run.eachStep_nil)))
    · exact fun renews => Bool.false_ne_true renews.1
    · exact fun renews => Bool.false_ne_true renews.1
  have recovered := slots_recovered (.release Nat) (staggeredApplications.take 4) idleDay 1 spares (by decide)
  exact ⟨recovered.1 sampleOrg 2, recovered.2⟩

end WorkloadGovernor
