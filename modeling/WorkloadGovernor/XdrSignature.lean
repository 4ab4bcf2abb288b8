import WorkloadGovernor.XdrVerifier

namespace WorkloadGovernor
open Js

inductive VerifyReason where
  | wrongSigner
  | expired
  | wrongContract
  | malformed
  deriving DecidableEq, Repr

structure VerificationResult (HorizonResult : Type) where
  success : Bool
  status : Nat
  reason : Option VerifyReason
  horizonResult : Option HorizonResult
  deriving DecidableEq, Repr

/-- `submitTx` is given or not, and the promise it returns may be rejected. -/
structure VerifyOptions (HorizonResult : Type) where
  xdrEnvelope : String
  expectedSigner : String
  contractId : String
  nowUnix : Nat
  submitTx : Option (String → Except String HorizonResult)

def testnet : String := "Test SDF Network ; September 2015"

section Steps
variable (sdk : TransactionSdk)

/-- `tx.timeBounds`, which a fee bump does not have. -/
def Envelope.timeBounds : Envelope → Option TimeBounds
  | .txV0 plain | .tx plain => plain.timeBounds
  | .txFeeBump _ => none

/-- `tx.memo`, which a fee bump does not have. -/
def Envelope.memo : Envelope → Memo
  | .txV0 plain | .tx plain => plain.memo
  | .txFeeBump _ => .none

/-- `timeBounds.maxTime` has passed; 0 means that there is no expiry. -/
def hasExpired (timeBounds : Option TimeBounds) (nowUnix : Nat) : Prop :=
  ∃ bounds, timeBounds = some bounds ∧ bounds.maxTime ≠ 0 ∧ bounds.maxTime < nowUnix

instance (timeBounds : Option TimeBounds) (nowUnix : Nat) : Decidable (hasExpired timeBounds nowUnix) :=
  match timeBounds with
  | none => isFalse fun ⟨_, bounded, _⟩ => by cases bounded
  | some bounds =>
    decidable_of_iff (bounds.maxTime ≠ 0 ∧ bounds.maxTime < nowUnix)
      ⟨fun passed => ⟨bounds, rfl, passed⟩, fun ⟨_, bounded, passed⟩ => by cases bounded; exact passed⟩

def memoText : Memo → String
  | .text value => value
  | _ => ""

/-- The text search for the contract. -/
def xdrContainsContract (contractId xdrEnvelope : String) (envelope : Envelope) : Bool :=
  let contractIdPrefix := String.ofList (contractId.toList.take 28)
  startsWith (memoText envelope.memo) contractIdPrefix || includes xdrEnvelope contractId ||
    includes (sdk.toXDR envelope) contractId

/-- A signer whose text is no public key has signed nothing. -/
def signerVerified (expectedSigner : String) (envelope : Envelope) : Bool :=
  let txHash := sdk.hash testnet envelope.payload
  envelope.signatures.any fun sig =>
    match sdk.publicKey.decode expectedSigner with
    | some key => sdk.verify key txHash sig.signature
    | none => false

variable {HorizonResult : Type} (opts : VerifyOptions HorizonResult)

/-- The checks in order, up to the envelope that goes on to be submitted. -/
def verifySteps : Except (Nat × VerifyReason) Envelope :=
  match sdk.fromXDR opts.xdrEnvelope with
  | .error _ => .error (400, .malformed)
  | .ok envelope =>
    if hasExpired envelope.timeBounds opts.nowUnix then .error (403, .expired)
    else if xdrContainsContract sdk opts.contractId opts.xdrEnvelope envelope = false then .error (403, .wrongContract)
    else if signerVerified sdk opts.expectedSigner envelope = false then .error (403, .wrongSigner)
    else .ok envelope

/-- The result and the envelopes handed to `submitTx`. -/
def verifyAndSubmit : Except String (VerificationResult HorizonResult) × List String :=
  match verifySteps sdk opts with
  | .error (status, reason) => (.ok ⟨false, status, some reason, none⟩, [])
  | .ok envelope =>
    match opts.submitTx with
    | some submitTx =>
      ((submitTx (sdk.toXDR envelope)).map fun horizonResult => ⟨true, 200, none, some horizonResult⟩,
        [sdk.toXDR envelope])
    | none => (.ok ⟨true, 200, none, none⟩, [])

end Steps

section Exact
variable {sdk : TransactionSdk} {HorizonResult : Type} {opts : VerifyOptions HorizonResult}

/-- How an envelope that is let through is answered: with success and status 200. The transaction's own text is all that
`submitTx` is given; its result goes into the answer, and a rejection of its promise is passed on. -/
structure PassedOn (sdk : TransactionSdk) (opts : VerifyOptions HorizonResult) (envelope : Envelope) : Prop where
  decoded : sdk.fromXDR opts.xdrEnvelope = .ok envelope
  unsubmitted : opts.submitTx = none → verifyAndSubmit sdk opts = (.ok ⟨true, 200, none, none⟩, [])
  submitted : ∀ submitTx, opts.submitTx = some submitTx → (verifyAndSubmit sdk opts).2 = [sdk.toXDR envelope] ∧
    (∀ horizonResult, submitTx (sdk.toXDR envelope) = .ok horizonResult →
      (verifyAndSubmit sdk opts).1 = .ok ⟨true, 200, none, some horizonResult⟩) ∧
    ∀ rejection, submitTx (sdk.toXDR envelope) = .error rejection → (verifyAndSubmit sdk opts).1 = .error rejection

def LetsThrough (sdk : TransactionSdk) (opts : VerifyOptions HorizonResult) : Prop :=
  ∃ envelope, PassedOn sdk opts envelope

/-- Some attached signature is one under the key of the expected signer. -/
def SignedByExpected (sdk : TransactionSdk) (expectedSigner : String) (envelope : Envelope) : Prop :=
  ∃ key, sdk.publicKey.decode expectedSigner = some key ∧ sdk.SignedBy testnet envelope key

/-- Some operation of the transaction that is carried out calls the contract. -/
def Targets (sdk : TransactionSdk) (contractId : String) (envelope : Envelope) : Prop :=
  ∃ hash, sdk.contract.decode contractId = some hash ∧ ∃ operation ∈ envelope.inner.operations, ∃ invokeArgs,
    operation.invocation = some invokeArgs ∧ invokeArgs.contractAddress = .contract hash

theorem signerVerified_iff {expectedSigner : String} {envelope : Envelope} :
    signerVerified sdk expectedSigner envelope = true ↔ SignedByExpected sdk expectedSigner envelope := by
  rw [signerVerified, SignedByExpected]
  cases sdk.publicKey.decode expectedSigner with
  | none => simp
  | some key => simp [TransactionSdk.SignedBy]

theorem xdrContainsContract_of_memo {contractId xdrEnvelope : String} {envelope : Envelope}
    (named : startsWith (memoText envelope.memo) (String.ofList (contractId.toList.take 28)) = true) :
    xdrContainsContract sdk contractId xdrEnvelope envelope = true := by
  simp only [xdrContainsContract, named, Bool.true_or]

theorem verifySteps_eq_ok {envelope : Envelope} :
    verifySteps sdk opts = .ok envelope ↔ sdk.fromXDR opts.xdrEnvelope = .ok envelope ∧
      ¬ hasExpired envelope.timeBounds opts.nowUnix ∧
      xdrContainsContract sdk opts.contractId opts.xdrEnvelope envelope = true ∧
      SignedByExpected sdk opts.expectedSigner envelope := by
  rw [verifySteps, ← signerVerified_iff]
  cases sdk.fromXDR opts.xdrEnvelope with
  | error message => simp
  | ok decoded =>
    dsimp only
    constructor
    · intro passed
      split at passed
      · cases passed
      · rename_i unexpired
        split at passed
        · cases passed
        · rename_i named
          split at passed
          · cases passed
          · rename_i signed
            cases passed
            exact ⟨rfl, unexpired, Bool.eq_true_of_not_eq_false named, Bool.eq_true_of_not_eq_false signed⟩
    · rintro ⟨same, unexpired, named, signed⟩
      cases same
      rw [if_neg unexpired, if_neg (by rw [named]; decide), if_neg (by rw [signed]; decide)]

/-- What passes the checks is answered as let through, and nothing else is. -/
theorem passedOn_iff {envelope : Envelope} : PassedOn sdk opts envelope ↔ verifySteps sdk opts = .ok envelope := by
  constructor
  · rintro ⟨decoded, unsubmitted, submitted⟩
    cases passed : verifySteps sdk opts with
    | error refusal =>
      have answer : verifyAndSubmit sdk opts = (.ok ⟨false, refusal.1, some refusal.2, none⟩, []) := by
        rw [verifyAndSubmit, passed]
      rw [answer] at unsubmitted submitted
      cases given : opts.submitTx with
      | none => cases unsubmitted given
      | some submitTx => cases (submitted submitTx given).1
    | ok other =>
      have own := (verifySteps_eq_ok.mp passed).1
      rw [Except.ok.inj (decoded.symm.trans own)]
  · intro passed
    refine ⟨(verifySteps_eq_ok.mp passed).1, ?_, ?_⟩
    · intro given
      rw [verifyAndSubmit, passed]
      simp only [given]
    · intro submitTx given
      have answer : verifyAndSubmit sdk opts = ((submitTx (sdk.toXDR envelope)).map fun horizonResult =>
          ⟨true, 200, none, some horizonResult⟩, [sdk.toXDR envelope]) := by
        rw [verifyAndSubmit, passed]
        simp only [given]
      rw [answer]
      refine ⟨rfl, ?_, ?_⟩
      · intro horizonResult accepted
        rw [accepted]
        rfl
      · intro rejection rejected
        rw [rejected]
        rfl

theorem letsThrough_iff : LetsThrough sdk opts ↔ ∃ envelope, verifySteps sdk opts = .ok envelope :=
  exists_congr fun _ => passedOn_iff

/-- The status and the reason for the first of the checks that fails. -/
inductive RefusedFor (sdk : TransactionSdk) (opts : VerifyOptions HorizonResult) : Nat → VerifyReason → Prop
  | malformed {message : String} (undecoded : sdk.fromXDR opts.xdrEnvelope = .error message) :
    RefusedFor sdk opts 400 .malformed
  | expired {envelope : Envelope} (decoded : sdk.fromXDR opts.xdrEnvelope = .ok envelope)
      (passed : hasExpired envelope.timeBounds opts.nowUnix) : RefusedFor sdk opts 403 .expired
  | wrongContract {envelope : Envelope} (decoded : sdk.fromXDR opts.xdrEnvelope = .ok envelope)
      (unexpired : ¬ hasExpired envelope.timeBounds opts.nowUnix)
      (unnamed : xdrContainsContract sdk opts.contractId opts.xdrEnvelope envelope = false) :
    RefusedFor sdk opts 403 .wrongContract
  | wrongSigner {envelope : Envelope} (decoded : sdk.fromXDR opts.xdrEnvelope = .ok envelope)
      (unexpired : ¬ hasExpired envelope.timeBounds opts.nowUnix)
      (named : xdrContainsContract sdk opts.contractId opts.xdrEnvelope envelope = true)
      (unsigned : ¬ SignedByExpected sdk opts.expectedSigner envelope) : RefusedFor sdk opts 403 .wrongSigner

theorem refusedFor_of_error {refusal : Nat × VerifyReason} (refused : verifySteps sdk opts = .error refusal) :
    RefusedFor sdk opts refusal.1 refusal.2 := by
  rw [verifySteps] at refused
  cases decoded : sdk.fromXDR opts.xdrEnvelope with
  | error message =>
    rw [decoded] at refused
    cases refused
    exact .malformed decoded
  | ok envelope =>
    rw [decoded] at refused
    dsimp only at refused
    split at refused
    · rename_i passed
      cases refused
      exact .expired decoded passed
    · rename_i unexpired
      split at refused
      · rename_i unnamed
        cases refused
        exact .wrongContract decoded unexpired unnamed
      · rename_i named
        have found := Bool.eq_true_of_not_eq_false named
        split at refused
        · rename_i unverified
          cases refused
          refine .wrongSigner decoded unexpired found ?_
          rw [← signerVerified_iff, unverified]
          exact Bool.false_ne_true
        · cases refused

/-- A transaction that is not let through is answered with its refusal and not submitted. -/
theorem verifyAndSubmit_refused (refused : ¬ LetsThrough sdk opts) :
    ∃ status reason, RefusedFor sdk opts status reason ∧
      verifyAndSubmit sdk opts = (.ok ⟨false, status, some reason, none⟩, []) := by
  rw [letsThrough_iff] at refused
  rw [verifyAndSubmit]
  cases ends : verifySteps sdk opts with
  | error refusal => exact ⟨refusal.1, refusal.2, refusedFor_of_error ends, rfl⟩
  | ok envelope => exact absurd ⟨envelope, ends⟩ refused

/-- What is let through is signed, names the contract or calls it, and has not expired as
far as its own time bounds say; what is in time, signed and names the contract is let
through. -/
theorem verifyAndSubmit_by_name :
    (∀ envelope, PassedOn sdk opts envelope → sdk.fromXDR opts.xdrEnvelope = .ok envelope ∧
      ¬ hasExpired envelope.timeBounds opts.nowUnix ∧ SignedByExpected sdk opts.expectedSigner envelope ∧
      (xdrContainsContract sdk opts.contractId opts.xdrEnvelope envelope = true ∨
        Targets sdk opts.contractId envelope)) ∧
    (∀ envelope, sdk.fromXDR opts.xdrEnvelope = .ok envelope → ¬ hasExpired envelope.inner.timeBounds opts.nowUnix →
      SignedByExpected sdk opts.expectedSigner envelope →
      xdrContainsContract sdk opts.contractId opts.xdrEnvelope envelope = true → PassedOn sdk opts envelope) ∧
    (¬ LetsThrough sdk opts → ∃ status reason, RefusedFor sdk opts status reason ∧
      verifyAndSubmit sdk opts = (.ok ⟨false, status, some reason, none⟩, [])) := by
  refine ⟨?_, ?_, verifyAndSubmit_refused⟩
  · intro envelope through
    obtain ⟨decoded, unexpired, named, signed⟩ := verifySteps_eq_ok.mp (passedOn_iff.mp through)
    exact ⟨decoded, unexpired, signed, Or.inl named⟩
  · intro envelope decoded unexpired signed named
    have own : ¬ hasExpired envelope.timeBounds opts.nowUnix := by
      cases envelope with
      | txV0 plain => exact unexpired
      | tx plain => exact unexpired
      | txFeeBump feeBump =>
        rintro ⟨_, bounded, _⟩
        cases bounded
    exact passedOn_iff.mpr (verifySteps_eq_ok.mpr ⟨decoded, own, named, signed⟩)

/-- Exactly the signed calls of the contract that have not expired are let through, in
fee bumps too, just if the text search and the outer time bounds say the same as the
operations and the inner time bounds do. -/
theorem letsThrough_calls_iff :
    (LetsThrough sdk opts ↔ ∃ envelope, sdk.fromXDR opts.xdrEnvelope = .ok envelope ∧
      ¬ hasExpired envelope.inner.timeBounds opts.nowUnix ∧ SignedByExpected sdk opts.expectedSigner envelope ∧
      Targets sdk opts.contractId envelope) ↔
    ∀ envelope, sdk.fromXDR opts.xdrEnvelope = .ok envelope → SignedByExpected sdk opts.expectedSigner envelope →
      ((¬ hasExpired envelope.timeBounds opts.nowUnix ∧
          xdrContainsContract sdk opts.contractId opts.xdrEnvelope envelope = true) ↔
        (¬ hasExpired envelope.inner.timeBounds opts.nowUnix ∧ Targets sdk opts.contractId envelope)) := by
  rw [letsThrough_iff]
  simp only [verifySteps_eq_ok]
  constructor
  · intro same envelope decoded signed
    constructor
    · rintro ⟨unexpired, named⟩
      obtain ⟨other, decoded', inTime, _, targets⟩ := same.mp ⟨envelope, decoded, unexpired, named, signed⟩
      cases decoded.symm.trans decoded'
      exact ⟨inTime, targets⟩
    · rintro ⟨inTime, targets⟩
      obtain ⟨other, decoded', unexpired, named, _⟩ := same.mpr ⟨envelope, decoded, inTime, signed, targets⟩
      cases decoded.symm.trans decoded'
      exact ⟨unexpired, named⟩
  · intro agree
    constructor
    · rintro ⟨envelope, decoded, unexpired, named, signed⟩
      obtain ⟨inTime, targets⟩ := (agree envelope decoded signed).mp ⟨unexpired, named⟩
      exact ⟨envelope, decoded, inTime, signed, targets⟩
    · rintro ⟨envelope, decoded, inTime, signed, targets⟩
      obtain ⟨unexpired, named⟩ := (agree envelope decoded signed).mpr ⟨inTime, targets⟩
      exact ⟨envelope, decoded, unexpired, named, signed⟩

end Exact

section Sample

/-- A payment of the sample account to itself, whose memo is the start of the contract's text. -/
def samplePayment : Transaction where
  source := "GAAAAAAAAAAAAAAAAAAAAAAAAAAAAAAAAAAAAAAAAAAAAAAAAAAAC6PV"
  fee := 100
  sequence := 1
  timeBounds := some ⟨0, 1700000030⟩
  memo := .text "CAAAAAAAAAAAAAAAAAAAAAAAAAAA"
  operations := [.other "payment" (List.replicate 35 0 ++ [1] ++ List.replicate 11 0 ++ [1])]
  signatures := [⟨sampleKey.hint, sampleKey.toList ++ List.replicate 32 7⟩]

def paymentXdr : String :=
  "AAAAAgAAAAAAAAAAAAAAAAAAAAAAAAAAAAAAAAAAAAAAAAAAAAAAAQAAAGQAAAAAAAAAAQAAAAEAAAAAAAAAAAAAAABlU/EeAAAAAQAAABxDQUFBQUFBQUFBQUFBQUFBQUFBQUFBQUFBQUFBAAAAAQAAAAAAAAABAAAAAAAAAAAAAAAAAAAAAAAAAAAAAAAAAAAAAAAAAAAAAAABAAAAAAAAAAAAAAABAAAAAAAAAAEAAAABAAAAQAAAAAAAAAAAAAAAAAAAAAAAAAAAAAAAAAAAAAAAAAABBwcHBwcHBwcHBwcHBwcHBwcHBwcHBwcHBwcHBwcHBwc="

def paymentSdk : TransactionSdk := sampleTransactionSdk paymentXdr (.tx samplePayment)

def paymentOptions : VerifyOptions Unit where
  xdrEnvelope := paymentXdr
  expectedSigner := "GAAAAAAAAAAAAAAAAAAAAAAAAAAAAAAAAAAAAAAAAAAAAAAAAAAAC6PV"
  contractId := "CAAAAAAAAAAAAAAAAAAAAAAAAAAAAAAAAAAAAAAAAAAAAAAAAAAABSC4"
  nowUnix := 1700000000
  submitTx := none

/-- A payment that calls no contract is let through for its memo. -/
theorem memo_payment_let_through :
    LetsThrough paymentSdk paymentOptions ∧
      ∀ envelope, paymentSdk.fromXDR paymentXdr = .ok envelope →
        ¬ Targets paymentSdk paymentOptions.contractId envelope := by
  have decoded : paymentSdk.fromXDR paymentXdr = .ok _ := sampleTransactionSdk_fromXDR _ _
  constructor
  · refine letsThrough_iff.mpr ⟨_, verifySteps_eq_ok.mpr ⟨decoded, ?_, ?_, ?_⟩⟩
    · rintro ⟨bounds, bounded, passed⟩
      cases bounded
      exact absurd passed (by decide)
    · have named : startsWith (memoText samplePayment.memo)
          (String.ofList (paymentOptions.contractId.toList.take 28)) = true := by decide
      exact xdrContainsContract_of_memo named
    · exact ⟨sampleKey, sampleStrKey_decode _ _ _, _, List.mem_singleton_self _,
        sampleTransactionSdk_verify _ _ sampleKey _⟩
  · rintro envelope other ⟨hash, _, operation, member, invokeArgs, invoked, _⟩
    cases decoded.symm.trans other
    cases List.mem_singleton.mp member
    cases invoked

end Sample

end WorkloadGovernor
