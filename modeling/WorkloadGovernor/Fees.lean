import WorkloadGovernor.Builders
import WorkloadGovernor.Lib.FixedPoint
import WorkloadGovernor.Submission

namespace WorkloadGovernor

section Source

inductive SupportedFunction where
  | applyForIssue
  | withdrawApplication
  | assignIssue
  | completeAssignment
  | revokeAssignment
  deriving DecidableEq, Repr

structure ResourceEstimate where
  fee : String
  instructions : Nat
  readBytes : Nat
  writeBytes : Nat
  deriving DecidableEq, Repr

structure FeeEstimate where
  baseFeeXlm : String
  resourceFeeXlm : String
  totalFeeXlm : String
  feeCushionPct : Nat
  deriving DecidableEq, Repr

inductive SimulateTransactionResponse where
  | error (error : String)
  | success (minResourceFee : String) (instructions readBytes writeBytes : Nat)

/-- The service's configuration and what it uses of the SDK and of the RPC server. -/
structure FeeService where
  sdk : TransactionSdk
  contractId : String
  nowSecs : Nat
  /-- What the SDK throws on values that cannot be written. -/
  unwritable : String
  simulateTransaction : Transaction → Except String SimulateTransactionResponse

def stroopsPerXlm : Int := 10000000

def feeEstimateSource : String := "GAAZI4TCR3TY5OJHCTJC2A4QSY6CJWJH5IAJTGKIN2ER7LBNVKOCCWN"

/-- The name of a code in a message. -/
def SorobanErrorCode.text : SorobanErrorCode → String
  | .internalError => "InternalError"
  | .alreadyInitialized => "AlreadyInitialized"
  | .unauthorizedByAdmin => "UnauthorizedByAdmin"
  | .unauthorizedByMaintainer => "UnauthorizedByMaintainer"
  | .negativeAmount => "NegativeAmount"
  | .balanceError => "BalanceError"
  | .invalidIssueState => "InvalidIssueState"
  | .noAssignment => "NoAssignment"
  | .noApplication => "NoApplication"
  | .amountTooLow => "AmountTooLow"
  | .unclosedPeriod => "UnclosedPeriod"
  | .unknown => "Unknown"

def simulate (service : FeeService) (tx : Transaction) : Except String ResourceEstimate := do
  match ← service.simulateTransaction tx with
  | .error error =>
    let contractError := parseContractError error
    .error ("Simulation failed: " ++ contractError.code.text ++ " - " ++ contractError.message)
  | .success minResourceFee instructions readBytes writeBytes =>
    .ok ⟨minResourceFee, instructions, readBytes, writeBytes⟩

/-- The placeholder transaction that is simulated for a function. -/
def dummyRequest : SupportedFunction → BuildRequest
  | .applyForIssue => .apply feeEstimateSource "sample_org" 1 "0"
  | .withdrawApplication => .withdraw feeEstimateSource "sample_org" 1 "0"
  | .assignIssue => .assign feeEstimateSource feeEstimateSource "sample_org" 1 "0"
  | .completeAssignment => .complete feeEstimateSource feeEstimateSource "sample_org" 1 "0"
  | .revokeAssignment => .revoke feeEstimateSource feeEstimateSource "sample_org" 1 "0"

/-- The simulation that an estimate is made from. -/
def simulateDummy (service : FeeService) (fnName : SupportedFunction) : Except String ResourceEstimate :=
  match (dummyRequest fnName).build service.sdk service.contractId service.nowSecs with
  | some tx => simulate service tx
  | none => .error service.unwritable

/-- Division and remainder of a `bigint` round towards zero. -/
def toXlm (stroops : Int) : String :=
  let whole := stroops.tdiv stroopsPerXlm
  let frac := stroops.tmod stroopsPerXlm
  let fracStr := (frac.repr.toList.leftpad 7 '0').rdropWhile (· = '0')
  whole.repr ++ "." ++ if fracStr = [] then "0" else String.ofList fracStr

/-- What `estimateFee` makes of the simulation. -/
def feeEstimate (estimate : ResourceEstimate) : Except String FeeEstimate :=
  let baseFeeStroops : Int := 100
  let cushionPct : Nat := 20
  match Js.bigInt estimate.fee with
  | none => .error ("Cannot convert " ++ estimate.fee ++ " to a BigInt")
  | some resourceFeeStroops =>
    let cushionedResourceFeeStroops := resourceFeeStroops + (resourceFeeStroops * cushionPct).tdiv 100
    .ok {
      baseFeeXlm := toXlm baseFeeStroops
      resourceFeeXlm := toXlm cushionedResourceFeeStroops
      totalFeeXlm := toXlm (baseFeeStroops + cushionedResourceFeeStroops)
      feeCushionPct := cushionPct }

def estimateFee (service : FeeService) (fnName : SupportedFunction) : Except String FeeEstimate := do
  let estimate ← simulateDummy service fnName
  feeEstimate estimate

end Source

section Amounts
variable {amount : ℕ}

/-- An amount that is not negative is written with its seven places. -/
theorem toXlm_natCast (amount : ℕ) : toXlm amount = Js.fixedPoint 7 amount := by
  have unit : stroopsPerXlm = (10 ^ 7 : ℕ) := by rfl
  have whole : (amount : ℤ).tdiv stroopsPerXlm = (amount / 10 ^ 7 : ℕ) := by
    rw [unit, Int.ofNat_tdiv]
  have frac : (amount : ℤ).tmod stroopsPerXlm = (amount % 10 ^ 7 : ℕ) := by
    rw [unit, Int.ofNat_tmod]
  have digits (n : ℕ) : (n : ℤ).repr = n.repr := rfl
  unfold toXlm Js.fixedPoint Js.fractionDigits
  dsimp only
  rw [whole, frac, digits, digits, Nat.toList_repr]
  split
  · rfl
  · rfl

theorem toXlm_canonical (amount : ℕ) : Js.IsCanonical 7 (toXlm amount) := by
  rw [toXlm_natCast]
  exact Js.fixedPoint_canonical (by decide) amount

theorem unitsOf_toXlm (amount : ℕ) : Js.unitsOf 7 (toXlm amount) = some (amount : ℚ) := by
  rw [toXlm_natCast]
  exact Js.unitsOf_fixedPoint (by decide) amount

theorem toXlm_injective : Function.Injective fun amount : ℕ => toXlm amount := by
  intro amount other same
  refine Js.fixedPoint_injective (by decide : 0 < 7) ?_
  rw [← toXlm_natCast, ← toXlm_natCast]
  exact same

end Amounts

section Estimates
variable {service : FeeService} {fnName : SupportedFunction} {estimate : ResourceEstimate} {r : ℕ}

/-- The resource fee with a fifth of it, rounded down, on top. -/
def cushioned (r : ℕ) : ℕ := r + 20 * r / 100

/-- The estimate for a resource fee. -/
def quoted (r : ℕ) : FeeEstimate := ⟨toXlm (100 : ℕ), toXlm (cushioned r), toXlm (100 + cushioned r : ℕ), 20⟩

theorem feeEstimate_eq (read : Js.bigInt estimate.fee = some (r : ℤ)) : feeEstimate estimate = .ok (quoted r) := by
  have cushion : (r : ℤ) + ((r : ℤ) * (20 : ℕ)).tdiv 100 = cushioned r := by
    rw [cushioned, Int.tdiv_eq_ediv_of_nonneg (by positivity)]
    omega
  rw [feeEstimate, read]
  dsimp only
  rw [cushion]
  rfl

/-- Whatever whole number of stroops the simulation asks for, the three texts of the
estimate denote the base fee, the fee with its cushion and the sum of both; and every amount
is written in the canonical form it is recovered from. What is said of `estimateFee` asks for a
simulation that succeeds, which by `estimateFee_refused` none does where only texts of 56
characters are addresses. -/
theorem estimateFee_exact (read : Js.bigInt estimate.fee = some (r : ℤ)) :
    (∃ quote, feeEstimate estimate = .ok quote ∧
      (∀ service fnName, simulateDummy service fnName = .ok estimate → estimateFee service fnName = .ok quote) ∧
      Js.unitsOf 7 quote.baseFeeXlm = some (100 : ℕ) ∧
      Js.unitsOf 7 quote.resourceFeeXlm = some (r + 20 * r / 100 : ℕ) ∧ r ≤ r + 20 * r / 100 ∧
      Js.unitsOf 7 quote.totalFeeXlm = some (100 + (r + 20 * r / 100) : ℕ)) ∧
    (∀ amount : ℕ, Js.IsCanonical 7 (toXlm amount) ∧ Js.unitsOf 7 (toXlm amount) = some (amount : ℚ)) ∧
    ∀ amount other : ℕ, toXlm amount = toXlm other → amount = other := by
  refine ⟨⟨quoted r, feeEstimate_eq read, ?_, unitsOf_toXlm 100, unitsOf_toXlm _, Nat.le_add_right _ _,
    unitsOf_toXlm _⟩, ?_, ?_⟩
  · intro service fnName simulated
    rw [estimateFee, simulated]
    exact feeEstimate_eq read
  · exact fun amount => ⟨toXlm_canonical amount, unitsOf_toXlm amount⟩
  · exact fun amount other same => toXlm_injective same

theorem large_fee_exact : ∃ quote, feeEstimate ⟨"98765432109876543210", 0, 0, 0⟩ = .ok quote ∧
    Js.unitsOf 7 quote.resourceFeeXlm = some (118518518531851851852 : ℕ) := by
  have read : Js.bigInt (ResourceEstimate.mk "98765432109876543210" 0 0 0).fee = some ((98765432109876543210 : ℕ) : ℤ) :=
    Js.bigInt_repr 98765432109876543210
  obtain ⟨⟨quote, made, _, _, resource, _⟩, _⟩ := estimateFee_exact read
  exact ⟨quote, made, resource⟩

/-- The address of the placeholder has 55 characters. Where only texts of 56 are addresses
the transaction cannot be built, and nothing is simulated. -/
theorem estimateFee_refused (sized : ∀ text key, service.sdk.publicKey.decode text = some key → text.length = 56) :
    estimateFee service fnName = .error service.unwritable := by
  have undecoded : service.sdk.publicKey.decode feeEstimateSource = none := by
    rcases decoded : service.sdk.publicKey.decode feeEstimateSource with _ | key
    · rfl
    · have length := sized _ _ decoded
      exact absurd length (by decide)
  have unbuilt (called : String) (args : List (Option Argument)) : buildRaw service.sdk service.contractId
      service.nowSecs feeEstimateSource "0" called args = none := by
    refine Option.bind_eq_none_iff.mpr fun operation _ => ?_
    rw [buildTransaction, undecoded]
    rfl
  have nothing : (dummyRequest fnName).build service.sdk service.contractId service.nowSecs = none := by
    cases fnName with
    | applyForIssue => exact unbuilt _ _
    | withdrawApplication => exact unbuilt _ _
    | assignIssue => exact unbuilt _ _
    | completeAssignment => exact unbuilt _ _
    | revokeAssignment => exact unbuilt _ _
  rw [estimateFee, simulateDummy, nothing]
  rfl

end Estimates

end WorkloadGovernor
