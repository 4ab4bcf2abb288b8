import Mathlib.Data.Set.Insert
import WorkloadGovernor.Runs

namespace WorkloadGovernor
variable {Address : Type} [DecidableEq Address] {env : Env Address}

/-- The registered maintainers, each with the organisation they maintain. -/
def registered (env : Env Address) : Set (Address × Symbol) :=
  {pair | env.isMaintainer pair.1 pair.2 = true}

/-- What a call does to the registry. -/
def registryAfter (pairs : Set (Address × Symbol)) : Call Address → Set (Address × Symbol)
  | .registerMaintainer _ maintainer orgId => insert (maintainer, orgId) pairs
  | .deregisterMaintainer _ maintainer orgId => pairs \ {(maintainer, orgId)}
  | _ => pairs

/-- What a call does to the stored global cap. -/
def gCapAfter (gCap : Option UInt32) : Call Address → Option UInt32
  | .initializeContract _ => some globalAppLimit
  | .setGlobalCap _ newCap => some newCap
  | .emergencySetGlobalCap _ newCap => some newCap
  | _ => gCap

theorem registered_effect (call : Call Address) :
    registered (env.effect call) = registryAfter (registered env) call := by
  cases call with
  | registerMaintainer a m o =>
    ext pair
    change (write env.storage.maint (m, o) (some true) pair).getD false = true ↔
      pair ∈ insert (m, o) (registered env)
    by_cases same : pair = (m, o)
    · simp [same]
    · rw [write_of_ne same, Set.mem_insert_iff, or_iff_right same]
      rfl
  | deregisterMaintainer a m o =>
    ext pair
    change (write env.storage.maint (m, o) none pair).getD false = true ↔ pair ∈ registered env \ {(m, o)}
    by_cases same : pair = (m, o)
    · simp [same]
    · rw [write_of_ne same, Set.mem_sdiff, Set.mem_singleton_iff, and_iff_left same]
      rfl
  | _ => rfl

theorem gCap_effect (call : Call Address) :
    (env.effect call).storage.gCap = gCapAfter env.storage.gCap call := by
  cases call <;> rfl

/-- The admin is stored by the initialisation and by nothing else. -/
theorem getAdmin_effect {call : Call Address} (allowed : env.Allowed call) :
    (∃ admin, call = .initializeContract admin ∧ env.getAdmin = none ∧
      (env.effect call).getAdmin = some admin) ∨
    (∀ admin, call ≠ .initializeContract admin) ∧ (env.effect call).getAdmin = env.getAdmin := by
  cases call with
  | initializeContract admin => exact Or.inl ⟨admin, rfl, allowed.1, rfl⟩
  | _ => exact Or.inr ⟨by simp, rfl⟩

end WorkloadGovernor
