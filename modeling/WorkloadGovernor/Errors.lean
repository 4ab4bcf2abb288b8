namespace WorkloadGovernor

/-- The contract's typed errors. `counterInconsistency` and `invalidOrgCap` are raised
by the contract and documented, though the enum in `errors.rs` does not list them. -/
inductive ContractError where
  | alreadyInitialized
  | notInitialized
  | unauthorizedAdmin
  | unauthorizedMaintainer
  | unauthorizedContributor
  | globalApplicationLimitReached
  | orgAssignmentLimitReached
  | duplicateApplication
  | applicationNotFound
  | assignmentNotFound
  | alreadyAssigned
  | capOutOfRange
  | counterInconsistency
  | invalidOrgCap
  | maintainerNotFound
  deriving DecidableEq, Repr

/-- How a contract call can fail. Apart from `panic_with_error!` these are traps
of the host or of the compiled code. -/
inductive Failure where
  | contract (error : ContractError)
  | authRefused
  | unwrapNone
  | missingEntry
  | overflow
  deriving DecidableEq, Repr

/-- `if condition { panic_with_error!(env, error) }`. -/
def panicIf (condition : Prop) [Decidable condition] (error : ContractError) : Except Failure Unit :=
  if condition then .error (.contract error) else .ok ()

theorem panicIf_eq_ok {condition : Prop} [Decidable condition] {error : ContractError} {u : Unit} :
    panicIf condition error = .ok u ↔ ¬ condition := by
  unfold panicIf
  split <;> simp_all

theorem panicIf_eq_error {condition : Prop} [Decidable condition] {error : ContractError} {failure : Failure} :
    panicIf condition error = .error failure ↔ condition ∧ failure = .contract error := by
  unfold panicIf
  split <;> simp_all [eq_comm]

end WorkloadGovernor
