import WorkloadGovernor.Envelope
import WorkloadGovernor.Lib.Checked

namespace WorkloadGovernor
open Js Checked

inductive VerificationFailureReason where
  | missingSignature
  | signerMismatch
  | transactionExpired
  | transactionNotYetValid
  | wrongContract
  | malformedXdr
  | missingContributorArg
  deriving DecidableEq, Repr

structure VerificationFailure where
  reason : VerificationFailureReason
  detail : String
  deriving DecidableEq, Repr

structure VerificationSuccess where
  signerAddress : String
  contractId : String
  deriving DecidableEq, Repr

/-- How a verification ends otherwise: with a failure as its result, or with an exception. -/
inductive Refusal where
  | failed (failure : VerificationFailure)
  | threw
  deriving DecidableEq, Repr

def refuse {α : Type} (reason : VerificationFailureReason) (detail : String) : Except Refusal α :=
  .error (.failed ⟨reason, detail⟩)

/-- The value of a call that may throw. -/
def orThrow {α : Type} : Option α → Except Refusal α
  | some value => .ok value
  | none => .error .threw

/-- An extracted text, which must be there. -/
def orRefuse (text : Option String) (reason : VerificationFailureReason) (detail : String) : Except Refusal String :=
  match truthy text with
  | some present => .ok present
  | none => refuse reason detail

/-- The two settings the server is started with. -/
structure NetworkConfig where
  contractId : String
  networkPassphrase : String
  deriving DecidableEq, Repr

section Verifier
variable (sdk : TransactionSdk)

def contractIdBytes (contractId : String) : Option (Bytes 32) := sdk.contract.decode contractId

def extractContributorArg (tx : Transaction) : Option String :=
  match tx.invocation with
  | some ⟨_, _, .address (.account key) :: _⟩ => some (sdk.publicKey.encode key)
  | _ => none

def extractContractId (tx : Transaction) : Option String :=
  match tx.invocation with
  | some ⟨.contract hash, _, _⟩ => some (sdk.contract.encode hash)
  | _ => none

def checkTimeBounds (tx : Transaction) (nowSecs : Nat) : Except Refusal Unit :=
  match tx.timeBounds with
  | none => .ok ()
  | some timeBounds =>
    let maxTime := timeBounds.maxTime
    let minTime := timeBounds.minTime
    if maxTime ≠ 0 ∧ maxTime < nowSecs then do
      let expiry ← orThrow (toISOString maxTime)
      let now ← orThrow (toISOString nowSecs)
      refuse .transactionExpired ("Transaction expired at " ++ expiry ++ " (now: " ++ now ++ ")")
    else if minTime > 0 ∧ minTime > nowSecs then do
      let start ← orThrow (toISOString minTime)
      refuse .transactionNotYetValid ("Transaction not valid until " ++ start)
    else .ok ()

/-- Only the hints are compared; no signature is verified. -/
def checkSignerMatchesContributor (tx : Transaction) (contributorAddress : String) : Except Refusal Unit :=
  if tx.signatures.isEmpty then refuse .missingSignature "Transaction has no signatures"
  else do
    let pubKeyBytes ← orThrow (sdk.publicKey.decode contributorAddress)
    let expectedHint := PublicKey.hint pubKeyBytes
    if tx.signatures.any fun sig => sig.hint = expectedHint then .ok ()
    else refuse .signerMismatch ("Transaction is not signed by the contributor address: " ++ contributorAddress)

def decodeTransaction (signedXdr : String) : Except Refusal Transaction :=
  match sdk.fromXDR signedXdr >>= Envelope.newTransaction with
  | .ok tx => .ok tx
  | .error message => refuse .malformedXdr ("Failed to decode XDR: " ++ message)

def checkContract (contractId txContractId : String) : Except Refusal Unit :=
  match contractIdBytes sdk contractId, contractIdBytes sdk txContractId with
  | some expectedBytes, some actualBytes =>
    if expectedBytes = actualBytes then .ok ()
    else refuse .wrongContract ("Transaction targets contract " ++ txContractId ++ ", expected " ++ contractId)
  | _, _ => refuse .wrongContract ("Configured CONTRACT_ID is invalid: " ++ contractId)

/-- The branch for a fee bump behind `new Transaction`, which takes none, is never reached. -/
def verifyTransactionXdr (config : NetworkConfig) (signedXdr : String) (nowSecs : Nat) :
    Except Refusal VerificationSuccess := do
  let tx ← decodeTransaction sdk signedXdr
  let txContractId ← orRefuse (extractContractId sdk tx) .wrongContract
    "Could not extract contract ID from transaction"
  checkContract sdk config.contractId txContractId
  checkTimeBounds tx nowSecs
  let contributorAddress ← orRefuse (extractContributorArg sdk tx) .missingContributorArg
    "Could not extract contributor address from transaction arguments"
  checkSignerMatchesContributor sdk tx contributorAddress
  return ⟨contributorAddress, txContractId⟩

end Verifier

section Accepted
variable {sdk : TransactionSdk}

/-- The first invocation calls the contract, with the account as its first argument. -/
def TransactionBody.Invokes (tx : TransactionBody) (hash : Bytes 32) (key : PublicKey) : Prop :=
  ∃ functionName rest, tx.invocation = some ⟨.contract hash, functionName, .address (.account key) :: rest⟩

def TransactionBody.InTime (tx : TransactionBody) (nowSecs : Nat) : Prop :=
  ∀ timeBounds, tx.timeBounds = some timeBounds →
    (timeBounds.maxTime = 0 ∨ nowSecs ≤ timeBounds.maxTime) ∧ timeBounds.minTime ≤ nowSecs

/-- The transaction calls the configured contract for the account and is in time. -/
structure Transaction.Presented (sdk : TransactionSdk) (config : NetworkConfig) (nowSecs : Nat) (tx : Transaction)
    (hash : Bytes 32) (key : PublicKey) : Prop where
  invokes : tx.Invokes hash key
  configured : sdk.contract.decode config.contractId = some hash
  inTime : tx.InTime nowSecs

theorem refuse_ne_ok {α : Type} {reason : VerificationFailureReason} {detail : String} {value : α} :
    (refuse reason detail : Except Refusal α) ≠ .ok value := by
  intro accepted
  cases accepted

theorem decodeTransaction_eq_ok {signedXdr : String} {tx : Transaction} :
    decodeTransaction sdk signedXdr = .ok tx ↔
      ∃ envelope, sdk.fromXDR signedXdr = .ok envelope ∧ envelope.newTransaction = .ok tx := by
  rw [← bind_eq_ok, decodeTransaction]
  cases decoded : sdk.fromXDR signedXdr >>= Envelope.newTransaction with
  | ok other => simp
  | error message => exact iff_of_false refuse_ne_ok (by simp)

theorem truthy_encode {strKey : StrKey} (documented : strKey.Documented) (bytes : Bytes 32) :
    truthy (some (strKey.encode bytes)) = some (strKey.encode bytes) := by
  rw [truthy, Option.filter_some, if_pos (decide_eq_true (documented.nonempty bytes))]

theorem orRefuse_eq_ok {text : Option String} {reason : VerificationFailureReason} {detail value : String} :
    orRefuse text reason detail = .ok value ↔ truthy text = some value := by
  rw [orRefuse]
  cases truthy text with
  | none => exact iff_of_false refuse_ne_ok (by simp)
  | some present => simp

theorem truthy_extractContractId (documented : sdk.Documented) {tx : Transaction} {text : String} :
    truthy (extractContractId sdk tx) = some text ↔ ∃ hash functionName args,
      tx.invocation = some ⟨.contract hash, functionName, args⟩ ∧ text = sdk.contract.encode hash := by
  constructor
  · intro extracted
    unfold extractContractId at extracted
    split at extracted
    · rename_i hash functionName args invoked
      rw [truthy_encode documented.contract] at extracted
      exact ⟨hash, functionName, args, invoked, (Option.some.inj extracted).symm⟩
    · cases extracted
  · rintro ⟨hash, functionName, args, invoked, rfl⟩
    rw [extractContractId, invoked]
    exact truthy_encode documented.contract hash

theorem truthy_extractContributorArg (documented : sdk.Documented) {tx : Transaction} {text : String} :
    truthy (extractContributorArg sdk tx) = some text ↔ ∃ key contractAddress functionName rest,
      tx.invocation = some ⟨contractAddress, functionName, .address (.account key) :: rest⟩ ∧
        text = sdk.publicKey.encode key := by
  constructor
  · intro extracted
    unfold extractContributorArg at extracted
    split at extracted
    · rename_i contractAddress functionName key rest invoked
      rw [truthy_encode documented.publicKey] at extracted
      exact ⟨key, contractAddress, functionName, rest, invoked, (Option.some.inj extracted).symm⟩
    · cases extracted
  · rintro ⟨key, contractAddress, functionName, rest, invoked, rfl⟩
    rw [extractContributorArg, invoked]
    exact truthy_encode documented.publicKey key

theorem checkContract_eq_ok (documented : sdk.Documented) {contractId : String} {hash : Bytes 32} :
    checkContract sdk contractId (sdk.contract.encode hash) = .ok () ↔ sdk.contract.decode contractId = some hash := by
  rw [checkContract, contractIdBytes, contractIdBytes, documented.contract.decode_encode]
  cases sdk.contract.decode contractId with
  | none => exact iff_of_false refuse_ne_ok (by simp)
  | some expected =>
    dsimp only
    by_cases same : expected = hash
    · rw [if_pos same, same]
      exact iff_of_true rfl rfl
    · rw [if_neg same]
      exact iff_of_false refuse_ne_ok fun other => same (Option.some.inj other)

theorem checkTimeBounds_eq_ok {tx : Transaction} {nowSecs : Nat} :
    checkTimeBounds tx nowSecs = .ok () ↔ tx.InTime nowSecs := by
  rw [checkTimeBounds, TransactionBody.InTime]
  cases tx.timeBounds with
  | none => simp
  | some timeBounds =>
    simp only [Option.some.injEq, forall_eq']
    by_cases expired : timeBounds.maxTime ≠ 0 ∧ timeBounds.maxTime < nowSecs
    · rw [if_pos expired]
      refine iff_of_false ?_ (by omega)
      intro accepted
      obtain ⟨_, _, accepted⟩ := bind_eq_ok.mp accepted
      obtain ⟨_, _, accepted⟩ := bind_eq_ok.mp accepted
      exact refuse_ne_ok accepted
    · rw [if_neg expired]
      by_cases early : timeBounds.minTime > 0 ∧ timeBounds.minTime > nowSecs
      · rw [if_pos early]
        refine iff_of_false ?_ (by omega)
        intro accepted
        obtain ⟨_, _, accepted⟩ := bind_eq_ok.mp accepted
        exact refuse_ne_ok accepted
      · rw [if_neg early]
        exact iff_of_true rfl (by omega)

theorem checkSigner_eq_ok (documented : sdk.Documented) {tx : Transaction} {key : PublicKey} :
    checkSignerMatchesContributor sdk tx (sdk.publicKey.encode key) = .ok () ↔
      ∃ sig ∈ tx.signatures, sig.hint = key.hint := by
  rw [checkSignerMatchesContributor, documented.publicKey.decode_encode]
  by_cases unsigned : tx.signatures.isEmpty = true
  · rw [if_pos unsigned, List.isEmpty_iff.mp unsigned]
    exact iff_of_false refuse_ne_ok (by simp)
  · rw [if_neg unsigned]
    change (if _ then _ else _) = _ ↔ _
    by_cases hinted : ∃ sig ∈ tx.signatures, sig.hint = key.hint
    · rw [if_pos (by simpa using hinted)]
      exact iff_of_true rfl hinted
    · rw [if_neg (by simpa using hinted)]
      exact iff_of_false refuse_ne_ok hinted

/-- A verification succeeds exactly for a plain transaction that calls the contract in
time and bears the hint of its first argument. -/
theorem verifyTransactionXdr_eq_ok (documented : sdk.Documented) {config : NetworkConfig} {signedXdr : String}
    {nowSecs : Nat} {success : VerificationSuccess} :
    verifyTransactionXdr sdk config signedXdr nowSecs = .ok success ↔
      ∃ envelope tx hash key, sdk.fromXDR signedXdr = .ok envelope ∧ envelope.newTransaction = .ok tx ∧
        tx.Presented sdk config nowSecs hash key ∧ (∃ sig ∈ tx.signatures, sig.hint = key.hint) ∧
        success = ⟨sdk.publicKey.encode key, sdk.contract.encode hash⟩ := by
  constructor
  · intro accepted
    obtain ⟨tx, decoded, accepted⟩ := bind_eq_ok.mp accepted
    obtain ⟨envelope, fromXDR, plain⟩ := decodeTransaction_eq_ok.mp decoded
    obtain ⟨contractText, contractThere, accepted⟩ := bind_eq_ok.mp accepted
    obtain ⟨hash, functionName, args, invoked, rfl⟩ :=
      (truthy_extractContractId documented).mp (orRefuse_eq_ok.mp contractThere)
    obtain ⟨_, target, accepted⟩ := bind_eq_ok.mp accepted
    obtain ⟨_, timed, accepted⟩ := bind_eq_ok.mp accepted
    obtain ⟨contributorText, contributorThere, accepted⟩ := bind_eq_ok.mp accepted
    obtain ⟨key, contractAddress, functionName', rest, first, rfl⟩ :=
      (truthy_extractContributorArg documented).mp (orRefuse_eq_ok.mp contributorThere)
    obtain ⟨_, signer, accepted⟩ := bind_eq_ok.mp accepted
    cases invoked.symm.trans first
    cases accepted
    have presented : tx.Presented sdk config nowSecs hash key :=
      ⟨⟨functionName, rest, first⟩, (checkContract_eq_ok documented).mp target, checkTimeBounds_eq_ok.mp timed⟩
    exact ⟨envelope, tx, hash, key, fromXDR, plain, presented, (checkSigner_eq_ok documented).mp signer, rfl⟩
  · rintro ⟨envelope, tx, hash, key, fromXDR, plain, ⟨⟨functionName, rest, invoked⟩, configured, inTime⟩, hinted, rfl⟩
    refine bind_eq_ok.mpr ⟨tx, decodeTransaction_eq_ok.mpr ⟨envelope, fromXDR, plain⟩, ?_⟩
    have target := (truthy_extractContractId documented).mpr ⟨hash, functionName, _, invoked, rfl⟩
    refine bind_eq_ok.mpr ⟨_, orRefuse_eq_ok.mpr target, ?_⟩
    refine bind_eq_ok.mpr ⟨(), (checkContract_eq_ok documented).mpr configured, ?_⟩
    refine bind_eq_ok.mpr ⟨(), checkTimeBounds_eq_ok.mpr inTime, ?_⟩
    have contributor := (truthy_extractContributorArg documented).mpr ⟨key, _, functionName, rest, invoked, rfl⟩
    refine bind_eq_ok.mpr ⟨_, orRefuse_eq_ok.mpr contributor, ?_⟩
    exact bind_eq_ok.mpr ⟨(), (checkSigner_eq_ok documented).mpr hinted, rfl⟩

/-- What gets past the check of the signer without a signature: the transaction is
presented properly, a signature bears the hint of its first argument, and none is made
under that key. -/
def HintOnly (sdk : TransactionSdk) (config : NetworkConfig) (signedXdr : String) (nowSecs : Nat) : Prop :=
  ∃ envelope tx hash key, sdk.fromXDR signedXdr = .ok envelope ∧ envelope.newTransaction = .ok tx ∧
    tx.Presented sdk config nowSecs hash key ∧ (∃ sig ∈ tx.signatures, sig.hint = key.hint) ∧
    ¬ sdk.SignedBy config.networkPassphrase envelope key

/-- An accepted transaction is signed by the account it is accepted for exactly if it
does not bear just the hint of that account. -/
theorem client_signature_sound_iff (documented : sdk.Documented) (config : NetworkConfig) (signedXdr : String)
    (nowSecs : Nat) :
    (∀ success, verifyTransactionXdr sdk config signedXdr nowSecs = .ok success →
      ∃ envelope key, sdk.fromXDR signedXdr = .ok envelope ∧ success.signerAddress = sdk.publicKey.encode key ∧
        sdk.SignedBy config.networkPassphrase envelope key) ↔
      ¬ HintOnly sdk config signedXdr nowSecs := by
  constructor
  · rintro sound ⟨envelope, tx, hash, key, fromXDR, plain, presented, hinted, unsigned⟩
    have accepted := (verifyTransactionXdr_eq_ok documented).mpr
      ⟨envelope, tx, hash, key, fromXDR, plain, presented, hinted, rfl⟩
    obtain ⟨envelope', key', decoded, same, signed⟩ := sound _ accepted
    cases fromXDR.symm.trans decoded
    have own := documented.publicKey.decode_encode key
    dsimp only at same
    rw [same, documented.publicKey.decode_encode] at own
    cases own
    exact unsigned signed
  · intro sound success accepted
    obtain ⟨envelope, tx, hash, key, fromXDR, plain, presented, hinted, rfl⟩ :=
      (verifyTransactionXdr_eq_ok documented).mp accepted
    refine ⟨envelope, key, fromXDR, rfl, ?_⟩
    by_contra unsigned
    exact sound ⟨envelope, tx, hash, key, fromXDR, plain, presented, hinted, unsigned⟩

end Accepted

section Sample

def sampleNetwork : NetworkConfig :=
  ⟨"CAAAAAAAAAAAAAAAAAAAAAAAAAAAAAAAAAAAAAAAAAAAAAAAAAAABSC4", "Test SDF Network ; September 2015"⟩

/-- An application for issue 7 by the sample account, with the signature given. -/
def sampleApply (signature : List UInt8) : Transaction where
  source := "GAAAAAAAAAAAAAAAAAAAAAAAAAAAAAAAAAAAAAAAAAAAAAAAAAAAC6PV"
  fee := 100
  sequence := 1
  timeBounds := some ⟨0, 1700000030⟩
  memo := .none
  operations := [.invokeHostFunction (.invokeContract ⟨.contract sampleContract, "apply_for_issue",
    [.address (.account sampleKey), .symbol "org", .u32 7]⟩)]
  signatures := [⟨sampleKey.hint, signature⟩]

/-- The same application in base64, signed by 64 times the byte 42. -/
def forgedXdr : String :=
  "AAAAAgAAAAAAAAAAAAAAAAAAAAAAAAAAAAAAAAAAAAAAAAAAAAAAAQAAAGQAAAAAAAAAAQAAAAEAAAAAAAAAAAAAAABlU/EeAAAAAAAAAAEAAAAAAAAAGAAAAAAAAAABAAAAAAAAAAAAAAAAAAAAAAAAAAAAAAAAAAAAAAAAAAAAAAAPYXBwbHlfZm9yX2lzc3VlAAAAAAMAAAASAAAAAAAAAAAAAAAAAAAAAAAAAAAAAAAAAAAAAAAAAAAAAAAAAAAAAQAAAA8AAAADb3JnAAAAAAMAAAAHAAAAAAAAAAAAAAABAAAAAQAAAEAqKioqKioqKioqKioqKioqKioqKioqKioqKioqKioqKioqKioqKioqKioqKioqKioqKioqKioqKioqKioqKioq"

def forgedSdk : TransactionSdk := sampleTransactionSdk forgedXdr (.tx (sampleApply (List.replicate 64 42)))

theorem sampleApply_presented (text : String) (signature : List UInt8) (envelope : Envelope) :
    (sampleApply signature).Presented (sampleTransactionSdk text envelope) sampleNetwork 1700000000 sampleContract
      sampleKey where
  invokes := ⟨_, _, rfl⟩
  configured := sampleStrKey_decode _ _ _
  inTime := by
    intro timeBounds bounded
    cases bounded
    decide

/-- 64 bytes that sign nothing are accepted behind the hint of the account. -/
theorem forged_signature_accepted :
    verifyTransactionXdr forgedSdk sampleNetwork forgedXdr 1700000000 =
        .ok ⟨forgedSdk.publicKey.encode sampleKey, forgedSdk.contract.encode sampleContract⟩ ∧
      ¬ ∃ envelope key, forgedSdk.fromXDR forgedXdr = .ok envelope ∧
        forgedSdk.SignedBy sampleNetwork.networkPassphrase envelope key := by
  have decoded : forgedSdk.fromXDR forgedXdr = .ok _ := sampleTransactionSdk_fromXDR _ _
  constructor
  · refine (verifyTransactionXdr_eq_ok (sampleTransactionSdk_documented _ _)).mpr ?_
    exact ⟨_, _, sampleContract, sampleKey, decoded, rfl, sampleApply_presented _ _ _,
      ⟨_, List.mem_singleton_self _, rfl⟩, rfl⟩
  · rintro ⟨envelope, key, other, sig, member, valid⟩
    cases decoded.symm.trans other
    cases List.mem_singleton.mp member
    have whole : List.replicate 64 42 = key.toList ++ List.replicate 32 7 := of_decide_eq_true valid
    have lastByte := congrArg List.getLast? whole
    rw [List.getLast?_append] at lastByte
    cases lastByte

def genuineXdr : String :=
  "AAAAAgAAAAAAAAAAAAAAAAAAAAAAAAAAAAAAAAAAAAAAAAAAAAAAAQAAAGQAAAAAAAAAAQAAAAEAAAAAAAAAAAAAAABlU/EeAAAAAAAAAAEAAAAAAAAAGAAAAAAAAAABAAAAAAAAAAAAAAAAAAAAAAAAAAAAAAAAAAAAAAAAAAAAAAAPYXBwbHlfZm9yX2lzc3VlAAAAAAMAAAASAAAAAAAAAAAAAAAAAAAAAAAAAAAAAAAAAAAAAAAAAAAAAAAAAAAAAQAAAA8AAAADb3JnAAAAAAMAAAAHAAAAAAAAAAAAAAABAAAAAQAAAEAAAAAAAAAAAAAAAAAAAAAAAAAAAAAAAAAAAAAAAAAAAQcHBwcHBwcHBwcHBwcHBwcHBwcHBwcHBwcHBwcHBwcH"

def genuineSdk : TransactionSdk :=
  sampleTransactionSdk genuineXdr (.tx (sampleApply (sampleKey.toList ++ List.replicate 32 7)))

/-- With a signature of its own the application is accepted, and rightly. -/
theorem genuine_signature_sound :
    verifyTransactionXdr genuineSdk sampleNetwork genuineXdr 1700000000 =
        .ok ⟨genuineSdk.publicKey.encode sampleKey, genuineSdk.contract.encode sampleContract⟩ ∧
      ∃ envelope key, genuineSdk.fromXDR genuineXdr = .ok envelope ∧
        genuineSdk.publicKey.encode sampleKey = genuineSdk.publicKey.encode key ∧
        genuineSdk.SignedBy sampleNetwork.networkPassphrase envelope key := by
  have documented : genuineSdk.Documented := sampleTransactionSdk_documented _ _
  have decoded : genuineSdk.fromXDR genuineXdr = .ok _ := sampleTransactionSdk_fromXDR _ _
  have accepted : verifyTransactionXdr genuineSdk sampleNetwork genuineXdr 1700000000 =
      .ok ⟨genuineSdk.publicKey.encode sampleKey, genuineSdk.contract.encode sampleContract⟩ :=
    (verifyTransactionXdr_eq_ok documented).mpr ⟨_, _, sampleContract, sampleKey, decoded, rfl,
      sampleApply_presented _ _ _, ⟨_, List.mem_singleton_self _, rfl⟩, rfl⟩
  refine ⟨accepted, (client_signature_sound_iff documented _ _ _).mpr ?_ _ accepted⟩
  rintro ⟨envelope, tx, hash, key, other, plain, ⟨⟨_, _, invokes⟩, _, _⟩, _, unsigned⟩
  cases decoded.symm.trans other
  cases plain
  cases invokes
  exact unsigned ⟨_, List.mem_singleton_self _, sampleTransactionSdk_verify _ _ sampleKey _⟩

end Sample

end WorkloadGovernor
