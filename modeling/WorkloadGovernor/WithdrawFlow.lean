import WorkloadGovernor.RequestIds
import WorkloadGovernor.SignerAgreement
import WorkloadGovernor.Submission
import WorkloadGovernor.WithdrawPage

namespace WorkloadGovernor
open Js

section Source
variable (sdk : TransactionSdk) (config : NetworkConfig)

/-- `JSON.stringify` of a number, read again. -/
def jsonNumber : Number → Json
  | .finite value => .number (if value.den = 1 then some value.num else none)
  | _ => .null

/-- The body of the request for the transaction, in which `undefined` is left out. -/
def withdrawBody (publicKey : String) (target : WithdrawTarget) (sequence : Option Json) : Json :=
  .object ([("contributor", .string publicKey), ("org_id", .string target.orgId),
    ("issue_id", jsonNumber (Number.ofText target.issueId))] ++ sequence.toList.map fun sequence => ("sequence", sequence))

def submitBody (signedTxXdr : String) : Json := .object [("signed_xdr", .string signedTxXdr)]

def textAnswer (status : Nat) (fields : List (String × String)) : Fetched :=
  .response status (.ok (.object (fields.map fun field => (field.1, .string field.2))))

/-- `POST /withdraw`. `simulate` is what the simulation says of a transaction, and `thrown` what building one throws. -/
def postWithdraw (nowSecs : Nat) (simulate : Transaction → Except String (List (String × Json))) (thrown : String)
    (body : Json) : Fetched :=
  match withdrawSchema body with
  | none => textAnswer 400 [("error", "validation failed")]
  | some input =>
    match input.request.build sdk config.contractId nowSecs with
    | none => textAnswer 400 [("error", thrown)]
    | some tx =>
      match simulate tx with
      | .error message => textAnswer 400 [("error", message)]
      | .ok estimate => .response 200 (.ok (.object (("xdr", .string (sdk.toXDR (.tx tx))) :: estimate)))

def VerificationFailureReason.text : VerificationFailureReason → String
  | missingSignature => "MISSING_SIGNATURE"
  | signerMismatch => "SIGNER_MISMATCH"
  | transactionExpired => "TRANSACTION_EXPIRED"
  | transactionNotYetValid => "TRANSACTION_NOT_YET_VALID"
  | wrongContract => "WRONG_CONTRACT"
  | malformedXdr => "MALFORMED_XDR"
  | missingContributorArg => "MISSING_CONTRIBUTOR_ARG"

/-- The answer for what became of the transaction. -/
def submissionAnswer (result : TransactionSubmissionResult) : Fetched :=
  match result.status with
  | .error =>
    textAnswer 400 [("error", "transaction submission failed"),
      ("detail", ((result.error.map SorobanContractError.message).getD "unknown error"))]
  | .success => textAnswer 200 [("hash", result.hash), ("status", "success")]

/-- `POST /submit`: the answer, unless the handler throws, and the transaction that is given to the network. -/
def postSubmit (nowSecs : Nat) (rpc : Transaction → SubmissionRpc) (body : Json) :
    Option Fetched × Option Transaction :=
  match zodString 1 none (body.field "signed_xdr") with
  | none => (some (textAnswer 400 [("error", "validation failed")]), none)
  | some signed_xdr =>
    match verifyTransactionXdr sdk config signed_xdr nowSecs with
    | .error (.failed failure) =>
      (some (textAnswer 403 [("error", "transaction verification failed"), ("reason", failure.reason.text),
        ("detail", failure.detail)]), none)
    | .error .threw => (none, none)
    | .ok _ =>
      match sdk.fromXDR signed_xdr >>= Envelope.newTransaction with
      | .error message => (some (textAnswer 500 [("error", message)]), none)
      | .ok tx => (some (submissionAnswer (SorobanService.submitTransaction (rpc tx))), some tx)

/-- The page, the requests to submit that the server has not taken up, the answers to those it has, and the transactions
that it has given to the network, each with the run that it comes from. -/
structure WithdrawWorld where
  page : DashboardPage
  posted : List (Nat × String)
  answers : List (Nat × Fetched)
  sent : List (Nat × Transaction)

/-- `account`, `build` and `sign` answer the run that waits for it. The request of a run is taken up by the route
(`submit`) or answered before it gets there (`refuse`: a limiter, the check of the API key), whether or not the page
still waits for the answer; `fail` is the exception of a `fetch`. -/
inductive WithdrawMove where
  | page (e : PageEvent)
  | account (i : Nat) (answer : Fetched)
  | build (i : Nat) (nowSecs : Nat) (simulate : Transaction → Except String (List (String × Json))) (thrown : String)
  | sign (i : Nat) (answer : WalletAnswer)
  | submit (i : Nat) (nowSecs : Nat) (rpc : Transaction → SubmissionRpc)
  | refuse (i : Nat) (status : Nat) (body : Except String Json)
  | answer (i : Nat)
  | fail (i : Nat) (message : String)

namespace WithdrawWorld
variable (world : WithdrawWorld)

def start : WithdrawWorld := ⟨.start, [], [], []⟩

def hear (i : Nat) (answer : Fetched) : WithdrawWorld := { world with page := world.page.answered i (.fetched answer) }

/-- The request of the run is there no more. -/
def taken (i : Nat) : List (Nat × String) := world.posted.filter (·.1 ≠ i)

/-- The wallet's answer, after which the run may post its request. -/
def heardWallet (i : Nat) (answer : WalletAnswer) : WithdrawWorld :=
  { world with
    page := world.page.answered i (.wallet answer)
    posted :=
      match world.page.heard i (.wallet answer) with
      | some (_, .waiting (.submit signedTxXdr)) => world.posted ++ [(i, signedTxXdr)]
      | _ => world.posted }

/-- The route handles the request; when it throws there is no answer. -/
def submitted (i : Nat) (nowSecs : Nat) (rpc : Transaction → SubmissionRpc) (signedTxXdr : String) : WithdrawWorld :=
  let (answer, tx) := postSubmit sdk config nowSecs rpc (submitBody signedTxXdr)
  { world with
    posted := world.taken i
    answers := world.answers ++ answer.toList.map (i, ·)
    sent := world.sent ++ tx.toList.map (i, ·) }

def step : WithdrawMove → WithdrawWorld
  | .page e => { world with page := world.page.event e }
  | .account i answer =>
    match world.page.waiting i with
    | some (_, .account) => world.hear i answer
    | _ => world
  | .build i nowSecs simulate thrown =>
    match world.page.waiting i with
    | some (withdrawal, .build sequence) =>
      world.hear i
        (postWithdraw sdk config nowSecs simulate thrown (withdrawBody withdrawal.publicKey withdrawal.target sequence))
    | _ => world
  | .sign i answer => world.heardWallet i answer
  | .submit i nowSecs rpc =>
    match world.posted.find? (·.1 = i) with
    | some (_, signedTxXdr) => world.submitted sdk config i nowSecs rpc signedTxXdr
    | none => world
  | .refuse i status body =>
    if 200 ≤ status ∧ status < 300 then world
    else
      match world.page.waiting i with
      | some (_, .build _) => world.hear i (.response status body)
      | _ =>
        match world.posted.find? (·.1 = i) with
        | some _ => { world with posted := world.taken i, answers := world.answers ++ [(i, .response status body)] }
        | none => world
  | .answer i =>
    match world.answers.find? (·.1 = i) with
    | some (_, answer) => world.hear i answer
    | none => world
  | .fail i message => world.hear i (.threw message)

end WithdrawWorld

end Source

section Transmission
variable (sdk : TransactionSdk) (config : NetworkConfig)

/-- The transaction makes one call, that withdraws the application for an issue from an account. -/
structure WithdrawTarget.CarriedBy (target : WithdrawTarget) (publicKey : String) (tx : Transaction) (hash : Bytes 32)
    (key : PublicKey) (issueId : UInt32) : Prop where
  configured : sdk.contract.decode config.contractId = some hash
  account : sdk.publicKey.decode publicKey = some key
  issue : Number.ofText target.issueId = .finite issueId.toNat
  source : tx.source = publicKey
  operations : tx.operations = [.invokeHostFunction (.invokeContract ⟨.contract hash, "withdraw_application",
    [.address (.account key), .symbol target.orgId, .u32 issueId]⟩)]

/-- What the SDK writes it reads back, and what the wallet signs is the transaction that it was given. -/
def WithdrawWorld.Transmitted (world : WithdrawWorld) : WithdrawMove → Prop
  | .build i nowSecs _ _ => ∀ withdrawal sequence input tx, world.page.waiting i = some (withdrawal, .build sequence) →
      withdrawSchema (withdrawBody withdrawal.publicKey withdrawal.target sequence) = some input →
      input.request.build sdk config.contractId nowSecs = some tx →
      sdk.fromXDR (sdk.toXDR (.tx tx)) = .ok (.tx tx)
  | .sign i (.answered signedTxXdr error) => truthy error = none → ∀ withdrawal xdr tx,
      world.page.waiting i = some (withdrawal, .sign (some (.string xdr))) → sdk.fromXDR xdr = .ok (.tx tx) →
      ∃ signatures, sdk.fromXDR signedTxXdr = .ok (.tx (tx.signed signatures))
  | _ => True

end Transmission

section Routes
variable {sdk : TransactionSdk} {config : NetworkConfig}

theorem number_of_sent {number : Number} {whole : Int} (accepted : zodPositiveInt (some (jsonNumber number)) = some whole) :
    number = .finite whole := by
  unfold jsonNumber at accepted
  split at accepted
  · rename_i value
    by_cases integral : value.den = 1
    · rw [if_pos integral, zodPositiveInt] at accepted
      obtain ⟨_, same⟩ := Option.ite_none_right_eq_some.mp accepted
      cases same
      rw [Rat.coe_int_num_of_den_eq_one integral]
    · rw [if_neg integral] at accepted
      cases accepted
  · cases accepted

/-- What is let through is what the run asked for. -/
theorem withdrawSchema_body {publicKey : String} {target : WithdrawTarget} {sequence : Option Json} {input : WithdrawInput}
    (accepted : withdrawSchema (withdrawBody publicKey target sequence) = some input) :
    input.contributor = publicKey ∧ input.org_id = target.orgId ∧ Number.ofText target.issueId = .finite input.issue_id := by
  obtain ⟨contributor, address, accepted⟩ := Option.bind_eq_some_iff.mp accepted
  obtain ⟨org_id, org, accepted⟩ := Option.bind_eq_some_iff.mp accepted
  obtain ⟨issue_id, issue, accepted⟩ := Option.bind_eq_some_iff.mp accepted
  obtain ⟨_, _, made⟩ := Option.bind_eq_some_iff.mp accepted
  cases made
  have own_address : stellarAddress (some (.string publicKey)) = some contributor := address
  have own_org : zodString 1 (some 256) (some (.string target.orgId)) = some org_id := org
  have own_issue : zodPositiveInt (some (jsonNumber (Number.ofText target.issueId))) = some issue_id := issue
  rw [stellarAddress, zodString] at own_address
  rw [zodString] at own_org
  obtain ⟨text, _⟩ := Option.filter_eq_some_iff.mp own_address
  obtain ⟨_, same⟩ := Option.ite_none_right_eq_some.mp text
  obtain ⟨_, same_org⟩ := Option.ite_none_right_eq_some.mp own_org
  exact ⟨(Option.some.inj same).symm, (Option.some.inj same_org).symm, number_of_sent own_issue⟩

theorem buildRaw_source {contractId source sequence fnName : String} {nowSecs : Nat} {args : List (Option Argument)}
    {tx : Transaction} (built : buildRaw sdk contractId nowSecs source sequence fnName args = some tx) :
    tx.source = source ∧ ∃ key, sdk.publicKey.decode source = some key := by
  obtain ⟨_, _, built⟩ := Option.bind_eq_some_iff.mp built
  obtain ⟨key, account, built⟩ := Option.bind_eq_some_iff.mp built
  obtain ⟨_, _, built⟩ := Option.bind_eq_some_iff.mp built
  cases built
  exact ⟨rfl, key, account⟩

/-- The transaction that `POST /withdraw` hands out carries out what the run asks for. -/
theorem carried_of_build {withdrawal : Withdrawal} {sequence : Option Json} {input : WithdrawInput} {nowSecs : Nat}
    {tx : Transaction}
    (accepted : withdrawSchema (withdrawBody withdrawal.publicKey withdrawal.target sequence) = some input)
    (built : input.request.build sdk config.contractId nowSecs = some tx) :
    ∃ hash key issueId, withdrawal.target.CarriedBy sdk config withdrawal.publicKey tx hash key issueId := by
  obtain ⟨contributor, org, issue⟩ := withdrawSchema_body accepted
  obtain ⟨source, key, account⟩ := buildRaw_source built
  obtain ⟨operation, called, operations⟩ := buildRaw_operations built
  obtain ⟨hash, sent, configured, args, rfl⟩ := contractCall_eq_some.mp called
  have address : scvAddress sdk input.contributor = some (.address (.account key)) := by rw [scvAddress, account]
  obtain ⟨first, rest, rfl, same_first, args⟩ := List.map_eq_cons_iff.mp args.symm
  obtain ⟨second, rest, rfl, symbol, args⟩ := List.map_eq_cons_iff.mp args
  obtain ⟨third, rest, rfl, number, args⟩ := List.map_eq_cons_iff.mp args
  cases List.map_eq_nil_iff.mp args
  cases same_first.trans address
  obtain ⟨_, same_symbol⟩ := Option.ite_none_right_eq_some.mp symbol.symm
  obtain ⟨range, same_number⟩ := Option.ite_none_right_eq_some.mp number.symm
  cases same_symbol
  cases same_number
  have whole : ((UInt32.ofNat input.issue_id.toNat).toNat : Int) = input.issue_id := by
    rw [UInt32.toNat_ofNat']
    omega
  refine ⟨hash, key, UInt32.ofNat input.issue_id.toNat, configured, contributor ▸ account, ?_, source.trans contributor, ?_⟩
  · rw [issue]
    exact_mod_cast congrArg (fun n : Int => Number.finite n) whole.symm
  · rw [operations, org]

theorem textAnswer_refused {status : Nat} {fields : List (String × String)} {value : Unit} (bad : ¬ (200 ≤ status ∧ status < 300)) :
    (textAnswer status fields).submitted ≠ .ok value := by
  rw [textAnswer, Fetched.submitted, Fetched.read, if_neg bad]
  intro same
  cases same

/-- What a run is given to sign is what it asked for. -/
theorem builtXdr_postWithdraw {nowSecs : Nat} {simulate : Transaction → Except String (List (String × Json))}
    {thrown : String} {body : Json} {xdr : Option Json}
    (built : (postWithdraw sdk config nowSecs simulate thrown body).builtXdr = .ok xdr) :
    ∃ input tx, withdrawSchema body = some input ∧ input.request.build sdk config.contractId nowSecs = some tx ∧
      xdr = some (.string (sdk.toXDR (.tx tx))) := by
  have bad : ¬ (200 ≤ 400 ∧ 400 < 300) := by decide
  unfold postWithdraw at built
  split at built
  · rw [textAnswer, Fetched.builtXdr, Fetched.read, if_neg bad] at built
    cases built
  · rename_i input accepted
    split at built
    · rw [textAnswer, Fetched.builtXdr, Fetched.read, if_neg bad] at built
      cases built
    · rename_i tx made
      split at built
      · rw [textAnswer, Fetched.builtXdr, Fetched.read, if_neg bad] at built
        cases built
      · cases built
        exact ⟨input, tx, accepted, made, rfl⟩

theorem postSubmit_eq {nowSecs : Nat} {rpc : Transaction → SubmissionRpc} {body : Json} {signed_xdr : String}
    {success : VerificationSuccess} {tx : Transaction}
    (accepted : zodString 1 none (body.field "signed_xdr") = some signed_xdr)
    (verified : verifyTransactionXdr sdk config signed_xdr nowSecs = .ok success)
    (decoded : sdk.fromXDR signed_xdr >>= Envelope.newTransaction = .ok tx) :
    postSubmit sdk config nowSecs rpc body =
      (some (submissionAnswer (SorobanService.submitTransaction (rpc tx))), some tx) := by
  rw [postSubmit, accepted]
  dsimp only
  rw [verified]
  dsimp only
  rw [decoded]

theorem postSubmit_sent {nowSecs : Nat} {rpc : Transaction → SubmissionRpc} {signedTxXdr : String} {tx : Transaction}
    (sent : (postSubmit sdk config nowSecs rpc (submitBody signedTxXdr)).2 = some tx) :
    (∃ success, verifyTransactionXdr sdk config signedTxXdr nowSecs = .ok success) ∧
      sdk.fromXDR signedTxXdr >>= Envelope.newTransaction = .ok tx := by
  have field : (submitBody signedTxXdr).field "signed_xdr" = some (.string signedTxXdr) := rfl
  unfold postSubmit at sent
  rw [field] at sent
  split at sent
  · cases sent
  · rename_i signed_xdr text
    obtain ⟨_, same⟩ := Option.ite_none_right_eq_some.mp text
    cases same
    split at sent
    · cases sent
    · cases sent
    · rename_i success verified
      split at sent
      · cases sent
      · rename_i decoded
        cases sent
        exact ⟨⟨success, verified⟩, decoded⟩

/-- Only a transaction that the network was given is answered with success. -/
theorem postSubmit_success {nowSecs : Nat} {rpc : Transaction → SubmissionRpc} {body : Json} {answer : Fetched}
    (answered : (postSubmit sdk config nowSecs rpc body).1 = some answer) (success : answer.submitted = .ok ()) :
    (postSubmit sdk config nowSecs rpc body).2.isSome := by
  unfold postSubmit at answered ⊢
  split at answered
  · cases answered
    exact absurd success (textAnswer_refused (by decide))
  · split at answered
    · cases answered
      exact absurd success (textAnswer_refused (by decide))
    · cases answered
    · split at answered
      · cases answered
        exact absurd success (textAnswer_refused (by decide))
      · rfl

end Routes

section Runs
variable {sdk : TransactionSdk} {config : NetworkConfig} {world : WithdrawWorld}

variable (sdk config) in
/-- A text stands for what the run asked for, possibly signed. -/
def Withdrawal.WrittenAs (withdrawal : Withdrawal) (text : String) : Prop :=
  ∃ tx signatures hash key issueId, sdk.fromXDR text = .ok (.tx (Transaction.signed tx signatures)) ∧
    withdrawal.target.CarriedBy sdk config withdrawal.publicKey tx hash key issueId

variable (sdk config) in
/-- The network is given what a run asked for, with the hint of its account. -/
def Withdrawal.SentAs (withdrawal : Withdrawal) (tx : Transaction) : Prop :=
  ∃ hash key issueId, withdrawal.target.CarriedBy sdk config withdrawal.publicKey tx hash key issueId ∧
    ∃ sig ∈ tx.signatures, sig.hint = key.hint

variable (sdk config) in
/-- What a run is given to sign is what it asked for, and it reports success only of its own issue and if its
transaction was given to the network. -/
def Withdrawal.Sound (withdrawal : Withdrawal) (given : Prop) : Prop :=
  match withdrawal.progress with
  | .waiting (.sign xdr) => ∃ text, xdr = some (.string text) ∧ withdrawal.WrittenAs sdk config text
  | .ended (.success issueId) => issueId = withdrawal.target.issueId ∧ given
  | _ => True

variable (sdk config) in
/-- What is posted and what is sent is what a run asked for that is past the wallet, and each run posts one request,
which is sent at most once. -/
structure WithdrawWorld.Faithful (world : WithdrawWorld) : Prop where
  one : world.page.OneAtATime
  runs : ∀ (i : Nat) withdrawal, world.page.withdrawals[i]? = some withdrawal →
    withdrawal.Sound sdk config (i ∈ world.sent.map Prod.fst)
  posted : ∀ i text, (i, text) ∈ world.posted → ∃ withdrawal, world.page.withdrawals[i]? = some withdrawal ∧
    withdrawal.unsigned = false ∧ withdrawal.WrittenAs sdk config text
  answers : ∀ i answer, (i, answer) ∈ world.answers → (∃ withdrawal, world.page.withdrawals[i]? = some withdrawal ∧
    withdrawal.unsigned = false) ∧ (answer.submitted = .ok () → i ∈ world.sent.map Prod.fst)
  sent : ∀ i tx, (i, tx) ∈ world.sent → ∃ withdrawal, world.page.withdrawals[i]? = some withdrawal ∧
    withdrawal.unsigned = false ∧ withdrawal.SentAs sdk config tx
  once : (world.posted.map Prod.fst ++ world.sent.map Prod.fst).Nodup

theorem WithdrawTarget.CarriedBy.signed {target : WithdrawTarget} {publicKey : String} {tx : Transaction}
    {hash : Bytes 32} {key : PublicKey} {issueId : UInt32}
    (carried : target.CarriedBy sdk config publicKey tx hash key issueId) (signatures : List DecoratedSignature) :
    target.CarriedBy sdk config publicKey (tx.signed signatures) hash key issueId :=
  ⟨carried.configured, carried.account, carried.issue, carried.source, carried.operations⟩

/-- What is verified has the hint of the account that the run asked for. -/
theorem sentAs_of_verified (documented : sdk.Documented) {withdrawal : Withdrawal} {signedTxXdr : String} {nowSecs : Nat}
    {success : VerificationSuccess} {tx : Transaction} (written : withdrawal.WrittenAs sdk config signedTxXdr)
    (verified : verifyTransactionXdr sdk config signedTxXdr nowSecs = .ok success)
    (decoded : sdk.fromXDR signedTxXdr >>= Envelope.newTransaction = .ok tx) : withdrawal.SentAs sdk config tx := by
  obtain ⟨plain, signatures, hash, key, issueId, text, carried⟩ := written
  have same : tx = plain.signed signatures := by
    rw [text] at decoded
    exact (Except.ok.inj decoded).symm
  obtain ⟨envelope, other, _, own, text', taken, presented, hinted, _⟩ := (verifyTransactionXdr_eq_ok documented).mp verified
  cases text.symm.trans text'
  cases taken
  obtain ⟨_, _, invoked⟩ := presented.invokes
  have first : (plain.signed signatures).invocation = some ⟨.contract hash, "withdraw_application",
      [.address (.account key), .symbol withdrawal.target.orgId, .u32 issueId]⟩ := by
    rw [TransactionBody.invocation, (carried.signed signatures).operations]
    rfl
  cases first.symm.trans invoked
  rw [same]
  exact ⟨hash, key, issueId, carried.signed signatures, hinted⟩

/-- What a fetched answer makes of a run. -/
theorem sound_fetched {withdrawal : Withdrawal} {stage : WithdrawStage} {answer : Fetched} {progress : Progress}
    {given : Prop} (next : stage.next withdrawal.target (.fetched answer) = some progress)
    (built : ∀ sequence xdr, stage = .build sequence → answer.builtXdr = .ok xdr →
      ∃ text, xdr = some (.string text) ∧ withdrawal.WrittenAs sdk config text)
    (reported : ∀ signedTxXdr, stage = .submit signedTxXdr → answer.submitted = .ok () → given) :
    ({ withdrawal with progress := progress } : Withdrawal).Sound sdk config given := by
  cases stage with
  | account =>
    rcases Progress.after_eq (Option.some.inj next) with ⟨sequence, _, rfl⟩ | ⟨thrown, rfl⟩
    · exact trivial
    · exact trivial
  | build sequence =>
    rcases Progress.after_eq (Option.some.inj next) with ⟨xdr, accepted, rfl⟩ | ⟨thrown, rfl⟩
    · exact built sequence xdr rfl accepted
    · exact trivial
  | sign xdr => cases next
  | submit signedTxXdr =>
    rcases Progress.after_eq (Option.some.inj next) with ⟨_, accepted, rfl⟩ | ⟨thrown, rfl⟩
    · exact ⟨rfl, reported signedTxXdr rfl accepted⟩
    · exact trivial

theorem Withdrawal.Sound.mono {withdrawal : Withdrawal} {given later : Prop} (sound : withdrawal.Sound sdk config given)
    (wider : given → later) : withdrawal.Sound sdk config later := by
  unfold Withdrawal.Sound at sound ⊢
  split at sound
  · exact sound
  · exact ⟨sound.1, wider sound.2⟩
  · exact trivial

theorem Withdrawal.Sound.of_success {withdrawal : Withdrawal} {given : Prop} (sound : withdrawal.Sound sdk config given)
    {issueId : String} (success : withdrawal.outcome = some (.success issueId)) :
    issueId = withdrawal.target.issueId ∧ given := by
  rw [Withdrawal.outcome] at success
  rw [Withdrawal.Sound] at sound
  cases reached : withdrawal.progress with
  | waiting stage =>
    rw [reached] at success
    cases success
  | ended report =>
    rw [reached] at success sound
    cases success
    exact sound

end Runs

section Moves
variable {sdk : TransactionSdk} {config : NetworkConfig} {world : WithdrawWorld}

theorem mem_of_find {α : Type} {l : List (Nat × α)} {i j : Nat} {a : α} (found : l.find? (·.1 = i) = some (j, a)) :
    (i, a) ∈ l := by
  have same : j = i := of_decide_eq_true (List.find?_some (p := fun own : Nat × α => decide (own.1 = i)) found)
  exact same ▸ List.mem_of_find?_eq_some found

namespace WithdrawWorld.Faithful
variable (faithful : world.Faithful sdk config)
include faithful

/-- What was posted, answered and sent stays so while the page goes on. -/
theorem of_page {page : DashboardPage} (one : page.OneAtATime) (kept : world.page.Kept page)
    (runs : ∀ (i : Nat) withdrawal, page.withdrawals[i]? = some withdrawal →
      withdrawal.Sound sdk config (i ∈ world.sent.map Prod.fst)) :
    ({ world with page := page } : WithdrawWorld).Faithful sdk config where
  one := one
  runs := runs
  posted := by
    intro i text listed
    obtain ⟨withdrawal, there, unsigned, written⟩ := faithful.posted i text listed
    obtain ⟨progress, later, same⟩ := kept i withdrawal there
    exact ⟨_, later, same unsigned, written⟩
  answers := by
    intro i answer listed
    obtain ⟨⟨withdrawal, there, unsigned⟩, given⟩ := faithful.answers i answer listed
    obtain ⟨progress, later, same⟩ := kept i withdrawal there
    exact ⟨⟨_, later, same unsigned⟩, given⟩
  sent := by
    intro i tx listed
    obtain ⟨withdrawal, there, unsigned, sentAs⟩ := faithful.sent i tx listed
    obtain ⟨progress, later, same⟩ := kept i withdrawal there
    exact ⟨_, later, same unsigned, sentAs⟩
  once := faithful.once

theorem answered {i : Nat} {answer : Answer}
    (sound : ∀ withdrawal progress, world.page.heard i answer = some (withdrawal, progress) →
      ({ withdrawal with progress := progress } : Withdrawal).Sound sdk config (i ∈ world.sent.map Prod.fst)) :
    ({ world with page := world.page.answered i answer } : WithdrawWorld).Faithful sdk config :=
  faithful.of_page (faithful.one.answered i answer) (world.page.kept_answered i answer)
    (DashboardPage.answered_forall faithful.runs sound)

theorem event (e : PageEvent) : ({ world with page := world.page.event e } : WithdrawWorld).Faithful sdk config :=
  faithful.of_page (faithful.one.event e) (world.page.kept_event e)
    (DashboardPage.event_forall faithful.runs fun _ _ _ => trivial)

/-- An answer other than that of a built transaction or of an accepted submission. -/
theorem hear {i : Nat} {answer : Fetched}
    (built : ∀ withdrawal sequence xdr, world.page.waiting i = some (withdrawal, .build sequence) →
      answer.builtXdr = .ok xdr → ∃ text, xdr = some (.string text) ∧ withdrawal.WrittenAs sdk config text)
    (reported : ∀ withdrawal signedTxXdr, world.page.waiting i = some (withdrawal, .submit signedTxXdr) →
      answer.submitted = .ok () → i ∈ world.sent.map Prod.fst) : (world.hear i answer).Faithful sdk config := by
  refine faithful.answered fun withdrawal progress heard => ?_
  obtain ⟨stage, waits, next⟩ := DashboardPage.heard_eq_some.mp heard
  refine sound_fetched next (fun sequence xdr same => ?_) fun signedTxXdr same => ?_
  · exact built withdrawal sequence xdr (same ▸ waits)
  · exact reported withdrawal signedTxXdr (same ▸ waits)

theorem account (i : Nat) (answer : Fetched) : (world.step sdk config (.account i answer)).Faithful sdk config := by
  rw [step]
  split
  · rename_i own waits
    refine faithful.hear (fun withdrawal sequence xdr other => ?_) fun withdrawal signedTxXdr other => ?_
    · cases waits.symm.trans other
    · cases waits.symm.trans other
  · exact faithful

theorem build {i : Nat} {nowSecs : Nat} {simulate : Transaction → Except String (List (String × Json))} {thrown : String}
    (transmitted : world.Transmitted sdk config (.build i nowSecs simulate thrown)) :
    (world.step sdk config (.build i nowSecs simulate thrown)).Faithful sdk config := by
  rw [step]
  split
  · rename_i own sequence waits
    refine faithful.hear (fun withdrawal given xdr there accepted => ?_) fun withdrawal signedTxXdr other => ?_
    · cases waits.symm.trans there
      obtain ⟨input, tx, read, built, rfl⟩ := builtXdr_postWithdraw accepted
      obtain ⟨hash, key, issueId, carried⟩ := carried_of_build read built
      have text := transmitted own sequence input tx waits read built
      exact ⟨_, rfl, tx, tx.signatures, hash, key, issueId, text, carried⟩
    · cases waits.symm.trans other
  · exact faithful

theorem fail (i : Nat) (message : String) : (world.step sdk config (.fail i message)).Faithful sdk config := by
  refine faithful.hear (fun withdrawal sequence xdr _ built => ?_) fun withdrawal signedTxXdr _ accepted => ?_
  · cases built
  · cases accepted

/-- Only a run that waits for the submission hears the answer to its request. -/
theorem answer (i : Nat) : (world.step sdk config (.answer i)).Faithful sdk config := by
  rw [step]
  split
  · rename_i j given found
    obtain ⟨⟨own, there, signed⟩, sent⟩ := faithful.answers _ _ (mem_of_find found)
    refine faithful.hear (fun withdrawal sequence xdr waits => ?_) fun withdrawal signedTxXdr _ => sent
    obtain ⟨same, waiting⟩ := DashboardPage.waiting_eq_some.mp waits
    cases there.symm.trans same
    rw [Withdrawal.unsigned, waiting] at signed
    cases signed
  · exact faithful

/-- What the wallet signed is what the run asked for. -/
theorem written_signed {i : Nat} {answer : WalletAnswer} (transmitted : world.Transmitted sdk config (.sign i answer))
    {withdrawal : Withdrawal} {xdr : Option Json} {signedTxXdr : String}
    (waits : world.page.waiting i = some (withdrawal, .sign xdr)) (signed : answer.signed = .ok signedTxXdr) :
    withdrawal.WrittenAs sdk config signedTxXdr := by
  obtain ⟨there, waiting⟩ := DashboardPage.waiting_eq_some.mp waits
  have sound := faithful.runs i withdrawal there
  rw [Withdrawal.Sound, waiting] at sound
  obtain ⟨text, rfl, tx, signatures, hash, key, issueId, written, carried⟩ := sound
  cases answer with
  | notFound => cases signed
  | threw message => cases signed
  | answered given error =>
    rw [WalletAnswer.signed] at signed
    split at signed
    · cases signed
    · rename_i unharmed
      cases signed
      obtain ⟨own, decoded⟩ := transmitted unharmed withdrawal text _ waits written
      exact ⟨tx, own, hash, key, issueId, decoded, carried⟩

/-- Nothing is posted or sent for a run that has nothing signed. -/
theorem fresh_of_unsigned {i : Nat} {withdrawal : Withdrawal} (there : world.page.withdrawals[i]? = some withdrawal)
    (unsigned : withdrawal.unsigned = true) : i ∉ world.posted.map Prod.fst ∧ i ∉ world.sent.map Prod.fst := by
  constructor
  · intro member
    obtain ⟨⟨j, text⟩, listed, rfl⟩ := List.mem_map.mp member
    obtain ⟨own, same, signed, _⟩ := faithful.posted _ _ listed
    cases there.symm.trans same
    cases unsigned.symm.trans signed
  · intro member
    obtain ⟨⟨j, tx⟩, listed, rfl⟩ := List.mem_map.mp member
    obtain ⟨own, same, signed, _⟩ := faithful.sent _ _ listed
    cases there.symm.trans same
    cases unsigned.symm.trans signed

/-- A run posts what it asked for, and had not posted before. -/
theorem post {i : Nat} {withdrawal : Withdrawal} {text : String}
    (there : world.page.withdrawals[i]? = some withdrawal) (signed : withdrawal.unsigned = false)
    (written : withdrawal.WrittenAs sdk config text) (unposted : i ∉ world.posted.map Prod.fst)
    (unsent : i ∉ world.sent.map Prod.fst) :
    ({ world with posted := world.posted ++ [(i, text)] } : WithdrawWorld).Faithful sdk config where
  one := faithful.one
  runs := faithful.runs
  posted := by
    intro j other listed
    rcases List.mem_append.mp listed with earlier | now
    · exact faithful.posted j other earlier
    · cases List.mem_singleton.mp now
      exact ⟨withdrawal, there, signed, written⟩
  answers := faithful.answers
  sent := faithful.sent
  once := by
    have fresh : i ∉ world.posted.map Prod.fst ++ world.sent.map Prod.fst := by
      rw [List.mem_append]
      exact not_or.mpr ⟨unposted, unsent⟩
    have order : (world.posted ++ [(i, text)]).map Prod.fst ++ world.sent.map Prod.fst =
        world.posted.map Prod.fst ++ i :: world.sent.map Prod.fst := by
      rw [List.map_append, List.append_assoc]
      rfl
    rw [order, List.perm_middle.nodup_iff]
    exact List.nodup_cons.mpr ⟨fresh, faithful.once⟩

theorem sign {i : Nat} {answer : WalletAnswer} (transmitted : world.Transmitted sdk config (.sign i answer)) :
    (world.step sdk config (.sign i answer)).Faithful sdk config := by
  have heard : ({ world with page := world.page.answered i (.wallet answer) } : WithdrawWorld).Faithful sdk config := by
    refine faithful.answered fun withdrawal progress heard => ?_
    obtain ⟨xdr, _, ⟨signedTxXdr, _, rfl⟩ | ⟨thrown, rfl⟩⟩ := DashboardPage.heard_wallet heard
    · exact trivial
    · exact trivial
  rw [step, heardWallet]
  split
  · rename_i withdrawal signedTxXdr posts
    obtain ⟨xdr, waits, ⟨text, signed, same⟩ | ⟨thrown, other⟩⟩ := DashboardPage.heard_wallet posts
    · cases same
      obtain ⟨there, waiting⟩ := DashboardPage.waiting_eq_some.mp waits
      have unsigned : withdrawal.unsigned = true := by rw [Withdrawal.unsigned, waiting]
      obtain ⟨unposted, unsent⟩ := faithful.fresh_of_unsigned there unsigned
      have later : (world.page.answered i (.wallet answer)).withdrawals[i]? =
          some { withdrawal with progress := .waiting (.submit signedTxXdr) } := by
        rw [DashboardPage.answered_withdrawals posts]
        exact List.getElem?_set_self (List.getElem?_eq_some_iff.mp there).1
      have written := faithful.written_signed transmitted waits signed
      exact heard.post later rfl written unposted unsent
    · cases other
  · exact heard

/-- The request of a run is taken up, answered and perhaps sent on. -/
theorem take {i : Nat} {text : String} (listed : (i, text) ∈ world.posted) {answer : Option Fetched}
    {tx : Option Transaction}
    (sentAs : ∀ withdrawal : Withdrawal, withdrawal.WrittenAs sdk config text → ∀ own ∈ tx, withdrawal.SentAs sdk config own)
    (success : ∀ given ∈ answer, given.submitted = .ok () → tx.isSome) :
    (⟨world.page, world.taken i, world.answers ++ answer.toList.map (i, ·),
      world.sent ++ tx.toList.map (i, ·)⟩ : WithdrawWorld).Faithful sdk config := by
  obtain ⟨withdrawal, there, signed, written⟩ := faithful.posted i text listed
  have firsts : (world.sent ++ tx.toList.map (i, ·)).map Prod.fst = world.sent.map Prod.fst ++ tx.toList.map fun _ => i := by
    rw [List.map_append, List.map_map]
    rfl
  have wider : ∀ {j : Nat}, j ∈ world.sent.map Prod.fst → j ∈ (world.sent ++ tx.toList.map (i, ·)).map Prod.fst := by
    intro j before
    rw [firsts]
    exact List.mem_append_left _ before
  refine ⟨faithful.one, ?_, ?_, ?_, ?_, ?_⟩
  · intro j own found
    exact (faithful.runs j own found).mono wider
  · intro j other kept
    exact faithful.posted j other (List.mem_filter.mp kept).1
  · intro j given member
    rcases List.mem_append.mp member with earlier | now
    · obtain ⟨past, sent⟩ := faithful.answers j given earlier
      exact ⟨past, fun accepted => wider (sent accepted)⟩
    · obtain ⟨own, there_answer, same⟩ := List.mem_map.mp now
      cases same
      refine ⟨⟨withdrawal, there, signed⟩, fun accepted => ?_⟩
      obtain ⟨given_tx, rfl⟩ := Option.isSome_iff_exists.mp (success _ (Option.mem_toList.mp there_answer) accepted)
      rw [firsts]
      exact List.mem_append_right _ (List.mem_singleton_self _)
  · intro j own member
    rcases List.mem_append.mp member with earlier | now
    · exact faithful.sent j own earlier
    · obtain ⟨given, there_tx, same⟩ := List.mem_map.mp now
      cases same
      exact ⟨withdrawal, there, signed, sentAs withdrawal written _ (Option.mem_toList.mp there_tx)⟩
  · obtain ⟨posted, sent, apart⟩ := List.nodup_append'.mp faithful.once
    have unsent : i ∉ world.sent.map Prod.fst := fun other => apart (List.mem_map_of_mem listed) other
    have once : (world.sent.map Prod.fst ++ tx.toList.map fun _ => i).Nodup := by
      cases tx with
      | none => exact (List.append_nil _).symm ▸ sent
      | some own =>
        have longer := List.Nodup.concat unsent sent
        rw [List.concat_eq_append] at longer
        exact longer
    rw [firsts, List.nodup_append']
    refine ⟨posted.sublist (List.filter_sublist.map Prod.fst), once, ?_⟩
    intro j still gone
    obtain ⟨⟨k, other⟩, kept, rfl⟩ := List.mem_map.mp still
    obtain ⟨before, different⟩ := List.mem_filter.mp kept
    rcases List.mem_append.mp gone with earlier | now
    · exact apart (List.mem_map_of_mem before) earlier
    · obtain ⟨own, _, same⟩ := List.mem_map.mp now
      exact of_decide_eq_true different same.symm

theorem submit (documented : sdk.Documented) (i : Nat) (nowSecs : Nat) (rpc : Transaction → SubmissionRpc) :
    (world.step sdk config (.submit i nowSecs rpc)).Faithful sdk config := by
  rw [step]
  split
  · rename_i j signedTxXdr found
    refine faithful.take (mem_of_find found) (fun withdrawal written own sent => ?_) fun given answered =>
      postSubmit_success answered
    obtain ⟨⟨_, verified⟩, decoded⟩ := postSubmit_sent sent
    exact sentAs_of_verified documented written verified decoded
  · exact faithful

theorem refuse (i status : Nat) (body : Except String Json) :
    (world.step sdk config (.refuse i status body)).Faithful sdk config := by
  rw [step]
  split
  · exact faithful
  · rename_i bad
    split
    · rename_i own sequence waits
      refine faithful.hear (fun withdrawal given xdr _ built => ?_) fun withdrawal signedTxXdr _ accepted => ?_
      · rw [Fetched.builtXdr, Fetched.read, if_neg bad] at built
        cases built
      · rw [Fetched.submitted, Fetched.read, if_neg bad] at accepted
        cases accepted
    · split
      · rename_i both found
        obtain ⟨j, text⟩ := both
        have refused : ∀ given ∈ some (Fetched.response status body), given.submitted = .ok () →
            (none : Option Transaction).isSome := by
          intro given same accepted
          cases Option.mem_some_iff.mp same
          rw [Fetched.submitted, Fetched.read, if_neg bad] at accepted
          cases accepted
        have taken := faithful.take (mem_of_find found) (fun _ _ _ none => by cases none) refused
        rw [Option.toList_none, List.map_nil, List.append_nil] at taken
        exact taken
      · exact faithful

end WithdrawWorld.Faithful

theorem faithful_step (documented : sdk.Documented) (faithful : world.Faithful sdk config) {move : WithdrawMove}
    (transmitted : world.Transmitted sdk config move) : (world.step sdk config move).Faithful sdk config := by
  cases move with
  | page e => exact faithful.event e
  | account i answer => exact faithful.account i answer
  | build i nowSecs simulate thrown => exact faithful.build transmitted
  | sign i answer => exact faithful.sign transmitted
  | submit i nowSecs rpc => exact faithful.submit documented i nowSecs rpc
  | refuse i status body => exact faithful.refuse i status body
  | answer i => exact faithful.answer i
  | fail i message => exact faithful.fail i message

theorem faithful_start : WithdrawWorld.start.Faithful sdk config where
  one := DashboardPage.start_one
  runs := fun _ _ there => by cases there
  posted := fun _ _ listed => absurd listed List.not_mem_nil
  answers := fun _ _ listed => absurd listed List.not_mem_nil
  sent := fun _ _ listed => absurd listed List.not_mem_nil
  once := List.nodup_nil

/-- What the host runs for it is the withdrawal. -/
theorem call_of_sent {call : Call ScAddress} {account : ScAddress} {org : String} {issueId : UInt32}
    (sent : call.sent = some ("withdraw_application", [.address account, .symbol org, .u32 issueId])) :
    ∃ orgId, orgId.text = org ∧ call = .withdrawApplication account orgId issueId := by
  cases call with
  | withdrawApplication contributor orgId own =>
    cases sent
    exact ⟨orgId, rfl, rfl⟩
  | upgrade newWasmHash => cases sent
  | _ => simp [Call.sent] at sent

variable (sdk config) in
/-- The network is given a transaction whose only call is the withdrawal that was confirmed, and which has the hint of
the account that confirmed it. -/
def WithdrawTarget.Sent (target : WithdrawTarget) (publicKey : String) (tx : Transaction) : Prop :=
  ∃ hash key issueId, target.CarriedBy sdk config publicKey tx hash key issueId ∧
    (∃ sig ∈ tx.signatures, sig.hint = key.hint) ∧
    ∀ (call : Call ScAddress) fnName args, call.sent = some (fnName, args) →
      tx.operations = [.invokeHostFunction (.invokeContract ⟨.contract hash, fnName, args⟩)] →
      ∃ orgId, orgId.text = target.orgId ∧ call = .withdrawApplication (.account key) orgId issueId

/-- However clicks, answers and losses follow one another, at most one withdrawal is under way, each is sent at most
once and as it was confirmed, and success is reported only for one that was sent. -/
theorem withdrawals_sent_as_confirmed (documented : sdk.Documented) {moves : List WithdrawMove}
    (transmitted : Run.EachStep (WithdrawWorld.step sdk config) .start (WithdrawWorld.Transmitted sdk config) moves)
    (reached : Run.exec (WithdrawWorld.step sdk config) .start moves = world) :
    world.page.OneAtATime ∧ (world.sent.map Prod.fst).Nodup ∧
      (∀ i tx, (i, tx) ∈ world.sent → ∃ withdrawal, world.page.withdrawals[i]? = some withdrawal ∧
        withdrawal.target.Sent sdk config withdrawal.publicKey tx) ∧
      ∀ (i : Nat) withdrawal issueId, world.page.withdrawals[i]? = some withdrawal →
        withdrawal.outcome = some (.success issueId) →
        issueId = withdrawal.target.issueId ∧ i ∈ world.sent.map Prod.fst := by
  have preserved : ∀ (before : WithdrawWorld) move, before.Transmitted sdk config move →
      before.Faithful sdk config → (before.step sdk config move).Faithful sdk config :=
    fun _ _ each faithful => faithful_step documented faithful each
  have faithful := Run.exec_invariant_each faithful_start preserved transmitted
  rw [reached] at faithful
  have once := (List.nodup_append'.mp faithful.once).2.1
  refine ⟨faithful.one, once, fun i tx listed => ?_, fun i withdrawal issueId there ended => ?_⟩
  · obtain ⟨withdrawal, there, _, hash, key, issueId, carried, hinted⟩ := faithful.sent i tx listed
    refine ⟨withdrawal, there, hash, key, issueId, carried, hinted, ?_⟩
    intro call fnName args sent called
    cases carried.operations.symm.trans called
    exact call_of_sent sent
  · exact (faithful.runs i withdrawal there).of_success ended

end Moves

section Sample

/-- A withdrawal from issue 10 by the sample account, with the signatures given. -/
def sampleWithdrawal (signatures : List DecoratedSignature) : Transaction :=
  (rawTransaction sampleAccount 1 1700000000 ⟨.contract sampleContract, "withdraw_application",
    [.address (.account sampleKey), .symbol "org", .u32 10]⟩).signed signatures

/-- The signature of the sample account. -/
def sampleSignature : DecoratedSignature := ⟨sampleKey.hint, sampleKey.toList ++ List.replicate 32 7⟩

/-- The withdrawal in base64, unsigned and signed. -/
@[irreducible] def unsignedXdr : String :=
  "AAAAAgAAAAAAAAAAAAAAAAAAAAAAAAAAAAAAAAAAAAAAAAAAAAAAAQAAAGQAAAAAAAAAAQAAAAEAAAAAAAAAAAAAAABlU/EeAAAAAAAAAAEAAAAAAAAAGAAAAAAAAAABAAAAAAAAAAAAAAAAAAAAAAAAAAAAAAAAAAAAAAAAAAAAAAAUd2l0aGRyYXdfYXBwbGljYXRpb24AAAADAAAAEgAAAAAAAAAAAAAAAAAAAAAAAAAAAAAAAAAAAAAAAAAAAAAAAAAAAAEAAAAPAAAAA29yZwAAAAADAAAACgAAAAAAAAAAAAAAAA=="

@[irreducible] def signedXdr : String :=
  "AAAAAgAAAAAAAAAAAAAAAAAAAAAAAAAAAAAAAAAAAAAAAAAAAAAAAQAAAGQAAAAAAAAAAQAAAAEAAAAAAAAAAAAAAABlU/EeAAAAAAAAAAEAAAAAAAAAGAAAAAAAAAABAAAAAAAAAAAAAAAAAAAAAAAAAAAAAAAAAAAAAAAAAAAAAAAUd2l0aGRyYXdfYXBwbGljYXRpb24AAAADAAAAEgAAAAAAAAAAAAAAAAAAAAAAAAAAAAAAAAAAAAAAAAAAAAAAAAAAAAEAAAAPAAAAA29yZwAAAAADAAAACgAAAAAAAAAAAAAAAQAAAAEAAABAAAAAAAAAAAAAAAAAAAAAAAAAAAAAAAAAAAAAAAAAAAEHBwcHBwcHBwcHBwcHBwcHBwcHBwcHBwcHBwcHBwcHBw=="

/-- An SDK that knows the withdrawal, unsigned and signed. -/
def withdrawalSdk : TransactionSdk :=
  { sampleTransactionSdk unsignedXdr (.tx (sampleWithdrawal [])) with
    fromXDR := fun text =>
      if text = unsignedXdr then .ok (.tx (sampleWithdrawal []))
      else if text = signedXdr then .ok (.tx (sampleWithdrawal [sampleSignature]))
      else .error "XDR Read Error: unknown envelope" }

theorem withdrawalSdk_documented : withdrawalSdk.Documented :=
  ⟨(sampleTransactionSdk_documented unsignedXdr (.tx (sampleWithdrawal []))).publicKey,
    (sampleTransactionSdk_documented unsignedXdr (.tx (sampleWithdrawal []))).contract,
    (sampleTransactionSdk_documented unsignedXdr (.tx (sampleWithdrawal []))).distinct⟩

theorem withdrawalSdk_unsigned : withdrawalSdk.fromXDR unsignedXdr = .ok (.tx (sampleWithdrawal [])) := if_pos rfl

theorem withdrawalSdk_signed : withdrawalSdk.fromXDR signedXdr = .ok (.tx (sampleWithdrawal [sampleSignature])) := by
  have different : signedXdr ≠ unsignedXdr := by simp [signedXdr, unsignedXdr]
  exact (if_neg different).trans (if_pos rfl)

/-- The account connects, withdraws from issue 10 and confirms, and its account is found. -/
def sampleClicks : List WithdrawMove :=
  [.page (.connect (some sampleAccount)), .page (.loaded [⟨"org", 10, "Fix the build", "pending"⟩]),
    .page (.withdraw ⟨"org", 10, "Fix the build", "pending"⟩), .page .confirm,
    .account 0 (.response 200 (.ok (.object [("sequence", .string "0")])))]

def sampleBuild : WithdrawMove := .build 0 1700000000 (fun _ => .ok [("fee", .string "100")]) ""

def sampleSign : WithdrawMove := .sign 0 (.answered signedXdr none)

def sampleSubmit : WithdrawMove :=
  .submit 0 1700000000 (fun _ => ⟨.ok ⟨"6f2c", .pending⟩, fun _ _ => .ok .success⟩)

def sampleMoves : List WithdrawMove := sampleClicks ++ [sampleBuild] ++ [sampleSign] ++ [sampleSubmit] ++ [.answer 0]

def sampleTarget : WithdrawTarget := ⟨"10", "Fix the build", "org"⟩

/-- The page while the withdrawal is under way. -/
def samplePage (stage : WithdrawStage) : DashboardPage :=
  ⟨some sampleAccount, [⟨"org", 10, "Fix the build", "pending"⟩], some sampleTarget, true,
    [⟨sampleTarget, sampleAccount, .waiting stage⟩], []⟩

theorem ofText_ten : Number.ofText "10" = .finite (10 : ℕ) :=
  ((reads_agree_iff (by norm_num) (by norm_num)).mpr spellsWhole_ten).2

theorem sampleBody_accepted : withdrawSchema (withdrawBody sampleAccount sampleTarget (some (.string "0"))) =
    some ⟨sampleAccount, "org", 10, "0"⟩ := by
  have address : stellarAddress (some (.string sampleAccount)) = some sampleAccount := by decide
  have number : jsonNumber (Number.ofText sampleTarget.issueId) = .number (some 10) := by
    rw [sampleTarget, ofText_ten]
    rfl
  rw [withdrawBody, number]
  change (do
    let contributor ← stellarAddress (some (.string sampleAccount))
    let org_id ← orgIdSchema (some (.string "org"))
    let issue_id ← zodPositiveInt (some (.number (some 10)))
    let sequence ← sequenceSchema (some (.string "0"))
    return (⟨contributor, org_id, issue_id, sequence⟩ : WithdrawInput)) = _
  rw [address]
  rfl

theorem sample_built : (WithdrawInput.request ⟨sampleAccount, "org", 10, "0"⟩).build withdrawalSdk sampleNetwork.contractId
    1700000000 = some (sampleWithdrawal []) := by
  have configured : withdrawalSdk.contract.decode sampleNetwork.contractId = some sampleContract := sampleStrKey_decode _ _ _
  have account : withdrawalSdk.publicKey.decode sampleAccount = some sampleKey := sampleStrKey_decode _ _ _
  have next : withdrawalSdk.nextSequence "0" = some 1 := by decide
  have address : scvAddress withdrawalSdk sampleAccount = some (.address (.account sampleKey)) := by rw [scvAddress, account]
  have built := @buildRaw_eq withdrawalSdk sampleNetwork.contractId "withdraw_application" 1700000000 _ _ _ _ _ configured
    account next [.address (.account sampleKey), .symbol "org", .u32 10]
  change buildRaw withdrawalSdk sampleNetwork.contractId 1700000000 sampleAccount "0" "withdraw_application"
    [scvAddress withdrawalSdk sampleAccount, scvSymbol "org", scvU32 10] = _
  rw [address]
  exact built

theorem sample_confirmed : Run.exec (WithdrawWorld.step withdrawalSdk sampleNetwork) .start sampleClicks =
    ⟨samplePage (.build (some (.string "0"))), [], [], []⟩ := rfl

/-- The run waits with the built transaction, and then with the signed one, which it posts. -/
def sampleSigning : WithdrawWorld := ⟨samplePage (.sign (some (.string unsignedXdr))), [], [], []⟩

def samplePosted : WithdrawWorld := ⟨samplePage (.submit signedXdr), [(0, signedXdr)], [], []⟩

theorem sample_signing : WithdrawWorld.step withdrawalSdk sampleNetwork
    ⟨samplePage (.build (some (.string "0"))), [], [], []⟩ sampleBuild = sampleSigning := by
  change WithdrawWorld.hear ⟨samplePage _, [], [], []⟩ 0 (postWithdraw withdrawalSdk sampleNetwork 1700000000 _ ""
    (withdrawBody sampleAccount sampleTarget (some (.string "0")))) = _
  rw [postWithdraw, sampleBody_accepted]
  dsimp only
  rw [sample_built]
  rfl

theorem sample_signed : sampleSigning.step withdrawalSdk sampleNetwork sampleSign = samplePosted := rfl

theorem sample_verified : verifyTransactionXdr withdrawalSdk sampleNetwork signedXdr 1700000000 =
    .ok ⟨withdrawalSdk.publicKey.encode sampleKey, withdrawalSdk.contract.encode sampleContract⟩ := by
  have presented : (sampleWithdrawal [sampleSignature]).Presented withdrawalSdk sampleNetwork 1700000000 sampleContract
      sampleKey :=
    rawTransaction_presented sampleKey 1 (sampleStrKey_decode _ _ _) (Nat.le_add_right _ _) _ _ _ _
  exact (verifyTransactionXdr_eq_ok withdrawalSdk_documented).mpr
    ⟨_, _, sampleContract, sampleKey, withdrawalSdk_signed, rfl, presented, ⟨_, List.mem_singleton_self _, rfl⟩, rfl⟩

/-- What the server answers, and the world with the answer under way and with the withdrawal reported. -/
def sampleAnswer : Fetched := textAnswer 200 [("hash", "6f2c"), ("status", "success")]

def sampleSubmitted : WithdrawWorld :=
  ⟨samplePage (.submit signedXdr), [], [(0, sampleAnswer)], [(0, sampleWithdrawal [sampleSignature])]⟩

def sampleReported : WithdrawWorld :=
  ⟨⟨some sampleAccount, [], none, false, [⟨sampleTarget, sampleAccount, .ended (.success "10")⟩], [.success "10"]⟩,
    [], [(0, sampleAnswer)], [(0, sampleWithdrawal [sampleSignature])]⟩

theorem sample_submitted : samplePosted.step withdrawalSdk sampleNetwork sampleSubmit = sampleSubmitted := by
  have long : 1 ≤ utf16Length signedXdr := utf16Length_pos (by simp [signedXdr])
  have field : zodString 1 none ((submitBody signedXdr).field "signed_xdr") = some signedXdr := if_pos ⟨long, rfl⟩
  have decoded : withdrawalSdk.fromXDR signedXdr >>= Envelope.newTransaction =
      .ok (sampleWithdrawal [sampleSignature]) := by
    rw [withdrawalSdk_signed]
    rfl
  have handled : postSubmit withdrawalSdk sampleNetwork 1700000000
      (fun _ => ⟨.ok ⟨"6f2c", .pending⟩, fun _ _ => .ok .success⟩) (submitBody signedXdr) =
      (some sampleAnswer, some (sampleWithdrawal [sampleSignature])) := by
    exact postSubmit_eq field sample_verified decoded
  change samplePosted.submitted withdrawalSdk sampleNetwork 0 1700000000 _ signedXdr = _
  rw [WithdrawWorld.submitted, handled]
  rfl

theorem sample_reported : sampleSubmitted.step withdrawalSdk sampleNetwork (.answer 0) = sampleReported := by
  have row : [(⟨"org", 10, "Fix the build", "pending"⟩ : PendingApplication)].filter
      (fun a => .finite a.issue_id ≠ Number.ofText "10") = [] := by
    rw [ofText_ten]
    rfl
  change (⟨⟨_, [(⟨"org", 10, "Fix the build", "pending"⟩ : PendingApplication)].filter
      (fun a => .finite a.issue_id ≠ Number.ofText "10"), _, _, _, _⟩, _, _, _⟩ : WithdrawWorld) = _
  rw [row]
  rfl

theorem sample_transmitted :
    Run.EachStep (WithdrawWorld.step withdrawalSdk sampleNetwork) .start
      (WithdrawWorld.Transmitted withdrawalSdk sampleNetwork) sampleMoves := by
  rw [sampleMoves, Run.eachStep_concat, Run.eachStep_concat, Run.eachStep_concat, Run.eachStep_concat, Run.exec_concat,
    sample_confirmed, sample_signing]
  refine ⟨⟨⟨⟨?_, ?_⟩, ?_⟩, trivial⟩, trivial⟩
  · refine Run.eachStep_cons trivial (Run.eachStep_cons trivial (Run.eachStep_cons trivial ?_))
    exact Run.eachStep_cons trivial (Run.eachStep_cons trivial Run.eachStep_nil)
  · intro withdrawal sequence input tx waits accepted built
    cases waits
    cases sampleBody_accepted.symm.trans accepted
    cases sample_built.symm.trans built
    exact withdrawalSdk_unsigned
  · intro _ withdrawal xdr tx waits decoded
    cases waits
    cases withdrawalSdk_unsigned.symm.trans decoded
    exact ⟨[sampleSignature], withdrawalSdk_signed⟩

/-- The withdrawal that the sample account confirms is what the network is given. -/
theorem first_withdrawal_sent :
    ∃ world, Run.exec (WithdrawWorld.step withdrawalSdk sampleNetwork) .start sampleMoves = world ∧
      world.page.OneAtATime ∧ world.page.reports.length = 1 ∧ (0, sampleWithdrawal [sampleSignature]) ∈ world.sent ∧
      sampleTarget.Sent withdrawalSdk sampleNetwork sampleAccount (sampleWithdrawal [sampleSignature]) := by
  have reached : Run.exec (WithdrawWorld.step withdrawalSdk sampleNetwork) .start sampleMoves = sampleReported := by
    rw [sampleMoves, Run.exec_concat, Run.exec_concat, Run.exec_concat, Run.exec_concat, sample_confirmed, sample_signing,
      sample_signed, sample_submitted, sample_reported]
  obtain ⟨one, _, sent, _⟩ := withdrawals_sent_as_confirmed withdrawalSdk_documented sample_transmitted reached
  have listed : (0, sampleWithdrawal [sampleSignature]) ∈ sampleReported.sent := List.mem_singleton_self _
  obtain ⟨withdrawal, there, asked⟩ := sent 0 _ listed
  cases there
  exact ⟨_, reached, one, rfl, listed, asked⟩

end Sample

end WorkloadGovernor
