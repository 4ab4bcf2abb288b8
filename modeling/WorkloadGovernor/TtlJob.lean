import WorkloadGovernor.Builders
import WorkloadGovernor.KeepAlive
import WorkloadGovernor.Lib.Chunks

namespace WorkloadGovernor
open Checked

section Source

/-- The network's and the database's side of the service: its configuration decodes, and
the RPC reports a sequence number before each batch. -/
structure TtlService where
  sdk : TransactionSdk
  documented : sdk.Documented
  contractId : String
  contract : Bytes 32
  configured : sdk.contract.decode contractId = some contract
  source : PublicKey
  sequence : Nat → String
  numbered : ∀ i, (sdk.nextSequence (sequence i)).isSome
  nowSecs : Nat → Nat

/-- The call an invocation of `extend_application_ttl` makes. -/
def InvokeContractArgs.extendCall (invokeArgs : InvokeContractArgs) : Option (Call ScAddress) :=
  match invokeArgs.functionName, invokeArgs.args with
  | "extend_application_ttl", [.address contributor, .symbol orgId, .u32 issueId] =>
    if legal : isSymbolText orgId = true then some (.extendApplicationTtl contributor ⟨orgId, legal⟩ issueId)
    else none
  | _, _ => none

/-- What the network makes of a transaction of the job. One that invokes a host function is
admitted only if that is its single operation. -/
def submitTransaction (contract : Bytes 32) (env : Env ScAddress) (tx : Transaction) : Option (Env ScAddress) :=
  match tx.operations with
  | [.invokeHostFunction (.invokeContract invokeArgs)] =>
    if invokeArgs.contractAddress = .contract contract then
      invokeArgs.extendCall.bind fun call => (invoke env [] call).toOption
    else none
  | _ => none

/-- `BATCH_SIZE`. -/
def batchSize : Nat := 10

/-- The `i`-th batch; it throws where the transaction cannot be built or is not executed. -/
def extendApplicationTtlBatch (service : TtlService) (i : Nat) (env : Env ScAddress)
    (applications : List ApplicationRef) : Option (Env ScAddress) := do
  let tx ← extendApplicationTtlTx service.sdk service.contractId (service.nowSecs i)
    (service.sdk.publicKey.encode service.source) (service.sequence i) applications
  submitTransaction service.contract env tx

/-- The chain and the two counts of the job. -/
structure TtlJob where
  env : Env ScAddress
  extendedCount : Nat
  failedCount : Nat

/-- The chain as the `i`-th batch finds it, after what has happened on it meanwhile. -/
def TtlJob.submission (job : TtlJob) (meanwhile : Nat → List (Step ScAddress)) (i : Nat) : Env ScAddress :=
  Run.exec step job.env (meanwhile i)

/-- One turn of the loop over the batches; a failure does not end it. -/
def runBatch (service : TtlService) (meanwhile : Nat → List (Step ScAddress)) (job : TtlJob)
    (batch : List ApplicationRef × Nat) : TtlJob :=
  let env := job.submission meanwhile batch.2
  match extendApplicationTtlBatch service batch.2 env batch.1 with
  | some after => ⟨after, job.extendedCount + batch.1.length, job.failedCount⟩
  | none => ⟨env, job.extendedCount, job.failedCount + batch.1.length⟩

/-- The job after its first `n` batches of the rows that the database returned. -/
def ttlJobUpTo (service : TtlService) (meanwhile : Nat → List (Step ScAddress)) (env : Env ScAddress)
    (applications : List ApplicationRef) (n : Nat) : TtlJob :=
  (((applications.chunked batchSize).zipIdx).take n).foldl (runBatch service meanwhile) ⟨env, 0, 0⟩

def runTtlExtensionJob (service : TtlService) (meanwhile : Nat → List (Step ScAddress)) (env : Env ScAddress)
    (applications : List ApplicationRef) : TtlJob :=
  ttlJobUpTo service meanwhile env applications (applications.chunked batchSize).length

end Source

section Proofs
variable {service : TtlService} {env : Env ScAddress} {contributor : ScAddress} {orgId : Symbol} {issueId : UInt32}

/-- The row of an application. -/
def applicationRef (sdk : TransactionSdk) (contributor : ScAddress) (orgId : Symbol) (issueId : UInt32) :
    ApplicationRef :=
  ⟨contributor.text sdk, orgId.text, issueId.toNat⟩

/-- No transaction with more than one operation is admitted. -/
theorem extendApplicationTtlBatch_of_many {applications : List ApplicationRef} (many : applications.length ≠ 1)
    (i : Nat) : extendApplicationTtlBatch service i env applications = none := by
  rw [extendApplicationTtlBatch, Option.bind_eq_bind, Option.bind_eq_none_iff]
  intro tx built
  obtain ⟨_, filled⟩ := Option.ite_none_left_eq_some.mp built
  obtain ⟨operations, made, sent⟩ := Option.bind_eq_some_iff.mp filled
  have count := congrArg List.length (mapM_eq_some.mp made)
  rw [List.length_map, List.length_map] at count
  rw [submitTransaction, buildTransaction_operations sent]
  split
  · exact absurd count many
  · rfl

/-- A batch of one live application extends it. -/
theorem extendApplicationTtlBatch_of_live (live : hasApplied env contributor orgId issueId = true) (i : Nat) :
    extendApplicationTtlBatch service i env [applicationRef service.sdk contributor orgId issueId] =
      some ((env.authorisedBy []).effect (.extendApplicationTtl contributor orgId issueId)) := by
  have operation : extendOperation service.sdk service.contractId
      (applicationRef service.sdk contributor orgId issueId) =
        some (.invokeHostFunction (.invokeContract ⟨.contract service.contract, "extend_application_ttl",
          [.address contributor, .symbol orgId.text, .u32 issueId]⟩)) := by
    rw [extendOperation, applicationRef, scvAddress_text service.documented, scvSymbol_text, scvU32_toNat]
    exact contractCall_eq_some.mpr ⟨_, _, service.configured, rfl, rfl⟩
  obtain ⟨seqNum, next⟩ := Option.isSome_iff_exists.mp (service.numbered i)
  have account := service.documented.publicKey.decode_encode service.source
  have ran : invoke env [] (.extendApplicationTtl contributor orgId issueId) =
      .ok ((env.authorisedBy []).effect (.extendApplicationTtl contributor orgId issueId)) :=
    invoke_eq_ok.mpr ⟨live, rfl⟩
  have called : InvokeContractArgs.extendCall ⟨.contract service.contract, "extend_application_ttl",
      [.address contributor, .symbol orgId.text, .u32 issueId]⟩ =
        some (.extendApplicationTtl contributor orgId issueId) := dif_pos orgId.legal
  simp [extendApplicationTtlBatch, extendApplicationTtlTx, operation, buildTransaction, account, next,
    submitTransaction, called, ran, Except.toOption]

/-- What the network executes is a step of the chain. -/
theorem extendApplicationTtlBatch_step {applications : List ApplicationRef} {i : Nat} {after : Env ScAddress}
    (confirmed : extendApplicationTtlBatch service i env applications = some after) :
    ∃ call, step env (.call [] call) = after := by
  obtain ⟨tx, _, submitted⟩ := Option.bind_eq_some_iff.mp confirmed
  unfold submitTransaction at submitted
  split at submitted
  · obtain ⟨_, executed⟩ := Option.ite_none_right_eq_some.mp submitted
    obtain ⟨call, _, ran⟩ := Option.bind_eq_some_iff.mp executed
    refine ⟨call, ?_⟩
    rw [step]
    cases outcome : invoke env [] call with
    | error failure =>
      rw [outcome] at ran
      cases ran
    | ok result =>
      rw [outcome] at ran
      exact Option.some.inj ran
  · cases submitted

section Job
variable {meanwhile : Nat → List (Step ScAddress)} {applications batch : List ApplicationRef} {i : Nat}

theorem ttlJobUpTo_succ (there : (applications.chunked batchSize)[i]? = some batch) :
    ttlJobUpTo service meanwhile env applications (i + 1) =
      runBatch service meanwhile (ttlJobUpTo service meanwhile env applications i) (batch, i) := by
  have next : ((applications.chunked batchSize).zipIdx)[i]? = some (batch, i) := by
    rw [List.getElem?_zipIdx, there, Nat.zero_add]
    rfl
  rw [ttlJobUpTo, List.take_add_one, next, List.foldl_append]
  rfl

/-- The rest of the job is a run of the chain, so that what is kept alive after a batch is
so after the job. -/
theorem ttlJob_run (n : Nat) : ∃ steps, (ttlJobUpTo service meanwhile env applications (i + n)).env =
    Run.exec step (ttlJobUpTo service meanwhile env applications i).env steps := by
  induction n with
  | zero => exact ⟨[], rfl⟩
  | succ n ih =>
    obtain ⟨steps, reached⟩ := ih
    cases there : (applications.chunked batchSize)[i + n]? with
    | none =>
      have none_left : ((applications.chunked batchSize).zipIdx).length ≤ i + n := by
        rw [List.length_zipIdx]
        exact List.getElem?_eq_none_iff.mp there
      refine ⟨steps, ?_⟩
      rw [← reached, ttlJobUpTo, ttlJobUpTo, List.take_of_length_le none_left,
        List.take_of_length_le (none_left.trans (Nat.le_succ (i + n)) : _ ≤ i + (n + 1))]
    | some batch =>
      rw [← Nat.add_assoc, ttlJobUpTo_succ there, runBatch]
      dsimp only
      split
      · rename_i after confirmed
        obtain ⟨call, stepped⟩ := extendApplicationTtlBatch_step confirmed
        refine ⟨steps ++ meanwhile (i + n) ++ [.call [] call], ?_⟩
        rw [Run.exec_concat, Run.exec_append, ← reached]
        exact stepped.symm
      · refine ⟨steps ++ meanwhile (i + n), ?_⟩
        rw [Run.exec_append, ← reached]
        rfl

/-- A listed application that is live when its batch is submitted is kept alive for the
lifetime of an application exactly if it is alone in its batch or lives that long anyway. -/
theorem ttl_job_keeps_alive_iff (there : (applications.chunked batchSize)[i]? = some batch)
    (listed : applicationRef service.sdk contributor orgId issueId ∈ batch)
    (live : hasApplied ((ttlJobUpTo service meanwhile env applications i).submission meanwhile i) contributor orgId
      issueId = true) :
    let submitted := (ttlJobUpTo service meanwhile env applications i).submission meanwhile i
    let after := (ttlJobUpTo service meanwhile env applications (i + 1)).env
    KeptAlive after contributor orgId issueId (submitted.sequence + appTtlLedgers) ↔
      batch.length = 1 ∨ ∃ liveUntil,
        submitted.storage.app.liveUntil submitted.sequence (contributor, orgId, issueId) = some liveUntil ∧
          submitted.sequence + appTtlLedgers ≤ liveUntil := by
  dsimp only
  rw [ttlJobUpTo_succ there, runBatch]
  generalize (ttlJobUpTo service meanwhile env applications i).submission meanwhile i = submitted at live
  dsimp only
  by_cases alone : batch.length = 1
  · obtain ⟨ref, rfl⟩ := List.length_eq_one_iff.mp alone
    cases List.mem_singleton.mp listed
    rw [extendApplicationTtlBatch_of_live live i]
    refine iff_of_true ((keptAlive_iff (Nat.le_add_right _ _)).mpr ?_) (Or.inl alone)
    obtain ⟨entry, served, value⟩ := Env.live_of_hasAppEntry live
    exact TtlStore.goodUntil_prolong (TtlStore.get_eq_some.mpr ⟨entry, served, value⟩) appTtlLedgers
  · rw [extendApplicationTtlBatch_of_many alone]
    rw [or_iff_right alone, keptAlive_iff (Nat.le_add_right _ _)]
    obtain ⟨entry, served, value⟩ := Env.live_of_hasAppEntry live
    constructor
    · rintro ⟨stored, there, _, bound⟩
      cases there.symm.trans (TtlStore.live_eq_some.mp served).1
      exact ⟨_, TtlStore.liveUntil_eq_some.mpr ⟨_, served, rfl⟩, bound⟩
    · rintro ⟨liveUntil, known, bound⟩
      obtain ⟨found, live_found, rfl⟩ := TtlStore.liveUntil_eq_some.mp known
      cases served.symm.trans live_found
      exact ⟨entry, (TtlStore.live_eq_some.mp served).1, value, bound⟩

end Job

end Proofs

section Sample

def sampleService : TtlService where
  sdk := sampleBuilderSdk
  documented := sampleTransactionSdk_documented _ _
  contractId := sampleContractId
  contract := sampleContract
  configured := sampleStrKey_decode _ _ _
  source := sampleKey
  sequence := fun _ => "0"
  numbered := fun _ => rfl
  nowSecs := fun _ => 1700000000

/-- Two applications of one contributor, and a hundred ledgers. -/
def twoApplications : List (Step ScAddress) :=
  [.call [.account sampleKey] (.initializeContract (.account sampleKey)),
    .call [.account sampleKey] (.applyForIssue (.account sampleKey) sampleOrg 7),
    .call [.account sampleKey] (.applyForIssue (.account sampleKey) sampleOrg 8), .advance 100]

def sampleRef (issueId : UInt32) : ApplicationRef :=
  applicationRef sampleService.sdk (.account sampleKey) sampleOrg issueId

/-- Alone in its batch the first of the two is extended. -/
theorem single_application_kept_alive :
    KeptAlive (ttlJobUpTo sampleService (fun _ => []) (exec (.release ScAddress) twoApplications) [sampleRef 7] 1).env
      (.account sampleKey) sampleOrg 7 (100 + appTtlLedgers) := by
  have live : hasApplied (exec (.release ScAddress) twoApplications) (.account sampleKey) sampleOrg 7 = true := by decide
  have there : ([sampleRef 7].chunked batchSize)[0]? = some [sampleRef 7] := rfl
  have alone := @ttl_job_keeps_alive_iff sampleService _ _ _ _ (fun _ => []) _ _ _ there (List.mem_singleton_self _) live
  exact alone.mpr (Or.inl rfl)

/-- Listed together, both live, the two make one batch and neither is. -/
theorem batched_applications_lapse :
    hasApplied (exec (.release ScAddress) twoApplications) (.account sampleKey) sampleOrg 7 = true ∧
      hasApplied (exec (.release ScAddress) twoApplications) (.account sampleKey) sampleOrg 8 = true ∧
      ¬ KeptAlive (runTtlExtensionJob sampleService (fun _ => []) (exec (.release ScAddress) twoApplications)
        [sampleRef 7, sampleRef 8]).env (.account sampleKey) sampleOrg 7 (100 + appTtlLedgers) := by
  refine ⟨by decide, by decide, ?_⟩
  have there : ([sampleRef 7, sampleRef 8].chunked batchSize)[0]? = some [sampleRef 7, sampleRef 8] := rfl
  have refused : (runTtlExtensionJob sampleService (fun _ => []) (exec (.release ScAddress) twoApplications)
      [sampleRef 7, sampleRef 8]).env = exec (.release ScAddress) twoApplications := by
    have two : [sampleRef 7, sampleRef 8].length ≠ 1 := Nat.succ_ne_self 1
    change (ttlJobUpTo _ _ _ _ (0 + 1)).env = _
    rw [ttlJobUpTo_succ there, runBatch, extendApplicationTtlBatch_of_many two]
    rfl
  have stored : (exec (.release ScAddress) twoApplications).storage.app (.account sampleKey, sampleOrg, 7) =
      some ⟨true, appTtlLedgers⟩ := by decide +kernel
  have now : (exec (.release ScAddress) twoApplications).sequence = 100 := rfl
  rw [refused, keptAlive_iff (now ▸ Nat.le_add_right _ _)]
  rintro ⟨entry, there, _, bound⟩
  cases stored.symm.trans there
  exact absurd bound (by decide)

end Sample

end WorkloadGovernor
