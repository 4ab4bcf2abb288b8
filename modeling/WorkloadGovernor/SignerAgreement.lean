import WorkloadGovernor.Builders
import WorkloadGovernor.Runs
import WorkloadGovernor.XdrVerifier

namespace WorkloadGovernor
open Checked

namespace Call

/-- What the builder of a call is given, for the five calls that have one. -/
def request (sdk : TransactionSdk) (sequence : String) : Call ScAddress → Option BuildRequest
  | .applyForIssue contributor orgId issueId =>
    some (.apply (contributor.text sdk) orgId.text issueId.toNat sequence)
  | .withdrawApplication contributor orgId issueId =>
    some (.withdraw (contributor.text sdk) orgId.text issueId.toNat sequence)
  | .assignIssue maintainer contributor orgId issueId =>
    some (.assign (maintainer.text sdk) (contributor.text sdk) orgId.text issueId.toNat sequence)
  | .completeAssignment maintainer contributor orgId issueId =>
    some (.complete (maintainer.text sdk) (contributor.text sdk) orgId.text issueId.toNat sequence)
  | .revokeAssignment maintainer contributor orgId issueId =>
    some (.revoke (maintainer.text sdk) (contributor.text sdk) orgId.text issueId.toNat sequence)
  | _ => none

variable {Address : Type}

/-- The acting address of those five calls. -/
def actor : Call Address → Option Address
  | .applyForIssue contributor _ _ | .withdrawApplication contributor _ _ => some contributor
  | .assignIssue maintainer _ _ _ | .completeAssignment maintainer _ _ _ | .revokeAssignment maintainer _ _ _ =>
    some maintainer
  | _ => none

/-- The entry point asks for the authorisation of the account, and for no other. -/
def Demands [DecidableEq Address] (call : Call Address) (account : Address) : Prop :=
  ∀ (env : Env Address) (auths : List Address),
    (env.getAdmin.isSome = true → account ∉ auths → invoke env auths call = .error .authRefused) ∧
    (account ∈ auths → (Succeeds env auths call ↔ Succeeds env [account] call))

section Demands
variable [DecidableEq Address] {env : Env Address} {auths : List Address}

/-- The authorisation is asked for right after the check that the contract is initialised. -/
theorem requireAuth_refused {account : Address} (initialised : env.getAdmin.isSome = true) (absent : account ∉ auths)
    (rest : Except Failure Unit) :
    (do
      (env.authorisedBy auths).requireInitialized .notInitialized
      (env.authorisedBy auths).requireAuth account
      rest) = .error .authRefused := by
  have refused : (env.authorisedBy auths).requireAuth account = .error .authRefused :=
    Env.requireAuth_eq_error.mpr ⟨absent, rfl⟩
  refine bind_eq_error.mpr (Or.inr ⟨(), Env.requireInitialized_eq_ok.mpr initialised, ?_⟩)
  exact bind_eq_error.mpr (Or.inl refused)

theorem maintainerGuards_refused {maintainer : Address} {orgId : Symbol} (initialised : env.getAdmin.isSome = true)
    (absent : maintainer ∉ auths) :
    (env.authorisedBy auths).maintainerGuards maintainer orgId = .error .authRefused :=
  requireAuth_refused initialised absent _

omit [DecidableEq Address] in
theorem maintainerAllowed_iff {maintainer : Address} {orgId : Symbol} (present : maintainer ∈ auths) :
    (env.authorisedBy auths).MaintainerAllowed maintainer orgId ↔
      (env.authorisedBy [maintainer]).MaintainerAllowed maintainer orgId :=
  and_congr_right fun _ => and_congr_left fun _ => iff_of_true present (List.mem_singleton_self _)

theorem actor_demanded {call : Call Address} {account : Address} (acting : call.actor = some account) :
    call.Demands account := by
  intro env auths
  rw [invoke_eq_error, succeeds_iff, succeeds_iff]
  cases call with
  | applyForIssue contributor orgId issueId =>
    cases acting
    refine ⟨fun initialised absent => requireAuth_refused initialised absent _, fun present => ?_⟩
    exact and_congr_right fun _ => and_congr_left fun _ => iff_of_true present (List.mem_singleton_self _)
  | withdrawApplication contributor orgId issueId =>
    cases acting
    refine ⟨fun initialised absent => requireAuth_refused initialised absent _, fun present => ?_⟩
    exact and_congr_right fun _ => and_congr_left fun _ => iff_of_true present (List.mem_singleton_self _)
  | assignIssue maintainer contributor orgId issueId =>
    cases acting
    refine ⟨fun initialised absent => bind_eq_error.mpr (Or.inl (maintainerGuards_refused initialised absent)), ?_⟩
    exact fun present => and_congr_left fun _ => maintainerAllowed_iff present
  | completeAssignment maintainer contributor orgId issueId =>
    cases acting
    refine ⟨fun initialised absent => bind_eq_error.mpr (Or.inl (maintainerGuards_refused initialised absent)), ?_⟩
    exact fun present => and_congr_left fun _ => maintainerAllowed_iff present
  | revokeAssignment maintainer contributor orgId issueId =>
    cases acting
    refine ⟨fun initialised absent => bind_eq_error.mpr (Or.inl (maintainerGuards_refused initialised absent)), ?_⟩
    exact fun present => and_congr_left fun _ => maintainerAllowed_iff present
  | _ => cases acting

end Demands

end Call

section Agreement
variable {sdk : TransactionSdk} {contractId sequence : String} {hash : Bytes 32} {key : PublicKey} {seqNum : Int}

/-- Each of the five builders makes the call it is for, from its acting account. -/
theorem request_build (documented : sdk.Documented) (configured : sdk.contract.decode contractId = some hash)
    {call : Call ScAddress} (acting : call.actor = some (.account key)) (next : sdk.nextSequence sequence = some seqNum)
    (nowSecs : Nat) :
    ∃ request fnName rest, call.request sdk sequence = some request ∧
      call.sent = some (fnName, .address (.account key) :: rest) ∧
      request.build sdk contractId nowSecs = some (rawTransaction (sdk.publicKey.encode key) seqNum nowSecs
        ⟨.contract hash, fnName, .address (.account key) :: rest⟩) := by
  have account := documented.publicKey.decode_encode key
  have made := fun fnName sent => @buildRaw_eq sdk contractId fnName nowSecs _ _ _ _ _ configured account next sent
  have own : scvAddress sdk (sdk.publicKey.encode key) = some (.address (.account key)) :=
    scvAddress_text documented (.account key)
  have ofContributor (fnName : String) (orgId : Symbol) (issueId : UInt32) :
      buildRaw sdk contractId nowSecs (sdk.publicKey.encode key) sequence fnName
        [scvAddress sdk (sdk.publicKey.encode key), scvSymbol orgId.text, scvU32 issueId.toNat] =
      some (rawTransaction (sdk.publicKey.encode key) seqNum nowSecs
        ⟨.contract hash, fnName, [.address (.account key), .symbol orgId.text, .u32 issueId]⟩) := by
    rw [own, scvSymbol_text, scvU32_toNat]
    exact made fnName [_, _, _]
  have ofMaintainer (fnName : String) (contributor : ScAddress) (orgId : Symbol) (issueId : UInt32) :
      buildRaw sdk contractId nowSecs (sdk.publicKey.encode key) sequence fnName
        [scvAddress sdk (sdk.publicKey.encode key), scvAddress sdk (contributor.text sdk), scvSymbol orgId.text,
          scvU32 issueId.toNat] =
      some (rawTransaction (sdk.publicKey.encode key) seqNum nowSecs
        ⟨.contract hash, fnName, [.address (.account key), .address contributor, .symbol orgId.text, .u32 issueId]⟩) := by
    rw [own, scvAddress_text documented, scvSymbol_text, scvU32_toNat]
    exact made fnName [_, _, _, _]
  cases call with
  | applyForIssue contributor orgId issueId =>
    cases acting
    exact ⟨_, _, _, rfl, rfl, ofContributor _ orgId issueId⟩
  | withdrawApplication contributor orgId issueId =>
    cases acting
    exact ⟨_, _, _, rfl, rfl, ofContributor _ orgId issueId⟩
  | assignIssue maintainer contributor orgId issueId =>
    cases acting
    exact ⟨_, _, _, rfl, rfl, ofMaintainer _ contributor orgId issueId⟩
  | completeAssignment maintainer contributor orgId issueId =>
    cases acting
    exact ⟨_, _, _, rfl, rfl, ofMaintainer _ contributor orgId issueId⟩
  | revokeAssignment maintainer contributor orgId issueId =>
    cases acting
    exact ⟨_, _, _, rfl, rfl, ofMaintainer _ contributor orgId issueId⟩
  | _ => cases acting

/-- The transaction with signatures attached. -/
def Transaction.signed (tx : Transaction) (signatures : List DecoratedSignature) : Transaction :=
  { tx with signatures := signatures }

/-- What `tx.sign(keypair)` attaches: the hint of the key and a signature under it. -/
def DecoratedSignature.MadeBy (sig : DecoratedSignature) (sdk : TransactionSdk) (networkPassphrase : String)
    (tx : Transaction) (key : PublicKey) : Prop :=
  sig.hint = key.hint ∧
    sdk.verify key (sdk.hash networkPassphrase (.tx tx.toTransactionBody)) sig.signature = true

variable (key seqNum) in
theorem rawTransaction_presented {config : NetworkConfig} (configured : sdk.contract.decode config.contractId = some hash)
    {nowSecs clock : Nat} (inTime : clock ≤ nowSecs + 30) (source : String) (fnName : String) (rest : List Argument)
    (signatures : List DecoratedSignature) :
    ((rawTransaction source seqNum nowSecs ⟨.contract hash, fnName, .address (.account key) :: rest⟩).signed
      signatures).Presented sdk config clock hash key where
  invokes := ⟨fnName, rest, rfl⟩
  configured := configured
  inTime := by
    intro timeBounds bounded
    cases bounded
    exact ⟨Or.inr inTime, Nat.zero_le _⟩

/-- Each of the five builders makes a transaction of the account whose authorisation the
entry point demands. Signed by it and in time, it is verified as signed by that account;
with no hint of that account it never is. -/
theorem builder_verifier_contract_agree (documented : sdk.Documented) {config : NetworkConfig}
    (configured : sdk.contract.decode config.contractId = some hash) {call : Call ScAddress}
    (acting : call.actor = some (.account key)) (next : sdk.nextSequence sequence = some seqNum) (nowSecs : Nat) :
    ∃ request tx fnName args, call.request sdk sequence = some request ∧
      request.build sdk config.contractId nowSecs = some tx ∧
      call.sent = some (fnName, args) ∧
      tx.operations = [.invokeHostFunction (.invokeContract ⟨.contract hash, fnName, args⟩)] ∧
      tx.source = sdk.publicKey.encode key ∧ call.Demands (.account key) ∧
      ∀ signatures signedXdr clock, sdk.fromXDR signedXdr = .ok (.tx (tx.signed signatures)) →
        (clock ≤ nowSecs + 30 → (∃ sig ∈ signatures, sig.MadeBy sdk config.networkPassphrase tx key) →
          verifyTransactionXdr sdk config signedXdr clock = .ok ⟨tx.source, sdk.contract.encode hash⟩) ∧
        ((∀ sig ∈ signatures, sig.hint ≠ key.hint) →
          ∀ success, verifyTransactionXdr sdk config signedXdr clock ≠ .ok success) := by
  obtain ⟨request, fnName, rest, named, sent, built⟩ := request_build documented configured acting next nowSecs
  refine ⟨request, _, fnName, _, named, built, sent, rfl, rfl, Call.actor_demanded acting, ?_⟩
  intro signatures signedXdr clock decoded
  constructor
  · rintro inTime ⟨sig, attached, hinted, _⟩
    have presented := rawTransaction_presented key seqNum configured inTime (sdk.publicKey.encode key) fnName rest
      signatures
    exact (verifyTransactionXdr_eq_ok documented).mpr
      ⟨_, _, hash, key, decoded, rfl, presented, ⟨sig, attached, hinted⟩, rfl⟩
  · intro foreign success accepted
    obtain ⟨envelope, tx, _, other, decoded', plain, presented, ⟨sig, attached, hinted⟩, _⟩ :=
      (verifyTransactionXdr_eq_ok documented).mp accepted
    cases decoded.symm.trans decoded'
    cases plain
    obtain ⟨_, _, invoked⟩ := presented.invokes
    cases invoked
    exact foreign sig attached hinted

end Agreement

section Sample

/-- The genuine application is what its builder makes, signed, and it is accepted. -/
theorem built_application_accepted :
    verifyTransactionXdr genuineSdk sampleNetwork genuineXdr 1700000000 =
      .ok ⟨genuineSdk.publicKey.encode sampleKey, genuineSdk.contract.encode sampleContract⟩ := by
  have documented : genuineSdk.Documented := sampleTransactionSdk_documented _ _
  have configured : genuineSdk.contract.decode sampleNetwork.contractId = some sampleContract := sampleStrKey_decode _ _ _
  have next : genuineSdk.nextSequence "0" = some 1 := by decide
  have acting : (Call.applyForIssue (ScAddress.account sampleKey) sampleOrg 7).actor = some (.account sampleKey) := rfl
  have encoded : genuineSdk.publicKey.encode sampleKey = sampleAccount := sampleStrKey_encode _ _ _
  obtain ⟨request, tx, fnName, args, named, built, _, _, source, _, verdict⟩ :=
    builder_verifier_contract_agree documented configured acting next 1700000000
  obtain ⟨request', fnName', rest, named', sent', built'⟩ := request_build documented configured acting next 1700000000
  cases named.symm.trans named'
  cases built.symm.trans built'
  cases sent'
  rw [encoded] at verdict ⊢
  have decoded : genuineSdk.fromXDR genuineXdr = .ok _ := sampleTransactionSdk_fromXDR _ _
  exact (verdict [⟨sampleKey.hint, sampleKey.toList ++ List.replicate 32 7⟩] genuineXdr 1700000000 decoded).1
    (Nat.le_add_right _ _) ⟨_, List.mem_singleton_self _, rfl, sampleTransactionSdk_verify _ _ sampleKey _⟩

end Sample

end WorkloadGovernor
