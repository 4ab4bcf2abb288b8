import WorkloadGovernor.Submission
import WorkloadGovernor.TtlJob

namespace WorkloadGovernor

section Source

/-- `arr.slice(i, i + size)` for every `size`-th `i`. -/
def chunk {α : Type} (arr : List α) (size : Nat) : List (List α) := arr.chunked size

/-- The service's configuration and what it uses of the SDK. -/
structure TtlConfig where
  sdk : TransactionSdk
  sourceSecret : String
  contractId : String
  /-- `Keypair.fromSecret(secret).publicKey()`. -/
  fromSecret : String → Except String String
  /-- What the SDK throws on values that cannot be written. -/
  unwritable : String
  nowSecs : Nat

/-- A simulation that succeeds comes with the transaction assembled from it and signed. -/
inductive SimulateResponse where
  | error (error : String)
  | success (preparedTx : Transaction)

structure BatchSendResponse extends SendResponse where
  /-- `errorResult?.toXDR("base64")`. -/
  errorResult : Option String

/-- What the RPC does during one batch. -/
structure BatchRpc where
  getAccount : String → Except String String
  simulateTransaction : Transaction → Except String SimulateResponse
  sendTransaction : Transaction → Except String BatchSendResponse
  getTransaction : String → Nat → Except String GetTransactionResponse

namespace TtlScheduler

/-- Up to the hash of the transaction. -/
def sendBatch (config : TtlConfig) (rpc : BatchRpc) (applications : List ApplicationRef) : Except String String :=
  if config.sourceSecret = "" then .error "SOROBAN_SOURCE_SECRET is not set — cannot submit transactions"
  else if config.contractId = "" then .error "CONTRACT_ID is not set"
  else if applications = [] then .error "extendApplicationTtlBatch called with empty batch"
  else do
    let source ← config.fromSecret config.sourceSecret
    let sequence ← rpc.getAccount source
    match extendApplicationTtlTx config.sdk config.contractId config.nowSecs source sequence applications with
    | none => .error config.unwritable
    | some tx =>
      match ← rpc.simulateTransaction tx with
      | .error error => .error ("Simulation failed: " ++ error)
      | .success preparedTx =>
        let sendResult ← rpc.sendTransaction preparedTx
        if sendResult.status = .error then
          .error ("Transaction rejected: " ++ sendResult.errorResult.getD "undefined")
        else .ok sendResult.hash

/-- A poll that is not to be repeated. -/
def confirmation (hash : String) : Except String GetTransactionResponse → Option (Except String String)
  | .ok .notFound => none
  | .ok .success => some (.ok hash)
  | .ok (.failed _) => some (.error ("Transaction " ++ hash ++ " failed on-chain"))
  | .error thrown => some (.error thrown)

/-- The first poll and up to thirty more. -/
def confirmationPolls : Nat := 1 + 30

def extendApplicationTtlBatch (config : TtlConfig) (rpc : BatchRpc) (applications : List ApplicationRef) :
    Except String String := do
  let hash ← sendBatch config rpc applications
  match Retry.ask (confirmation hash) (rpc.getTransaction hash) 0 confirmationPolls with
  | some outcome => outcome
  -- not found by the last poll either: the hash is returned as after a success
  | none => return hash

/-- The calls of `extendApplicationTtlBatch` so far, and the two counts. -/
structure Progress where
  submitted : List (List ApplicationRef)
  extendedCount : Nat
  failedCount : Nat

def Progress.initial : Progress := ⟨[], 0, 0⟩

/-- One turn of the loop over the batches. -/
def runBatch (config : TtlConfig) (rpc : Nat → BatchRpc) (progress : Progress) (batch : List ApplicationRef × Nat) :
    Progress :=
  match extendApplicationTtlBatch config (rpc batch.2) batch.1 with
  | .ok _ => ⟨progress.submitted ++ [batch.1], progress.extendedCount + batch.1.length, progress.failedCount⟩
  | .error _ => ⟨progress.submitted ++ [batch.1], progress.extendedCount, progress.failedCount + batch.1.length⟩

/-- The job after its first `n` batches. -/
def progressUpTo (config : TtlConfig) (rpc : Nat → BatchRpc) (applications : List ApplicationRef) (n : Nat) : Progress :=
  (((chunk applications batchSize).zipIdx).take n).foldl (runBatch config rpc) .initial

/-- How the job ends. -/
inductive JobEnd where
  | loadFailed (err : String)
  | noneExpiring
  | complete (progress : Progress)

def runTtlExtensionJob (config : TtlConfig) (rpc : Nat → BatchRpc) : Except String (List ApplicationRef) → JobEnd
  | .error err => .loadFailed err
  | .ok applications =>
    if applications.isEmpty then .noneExpiring
    else .complete (progressUpTo config rpc applications (chunk applications batchSize).length)

end TtlScheduler

end Source

namespace TtlScheduler

section Proofs
variable {config : TtlConfig} {rpc : BatchRpc} {batch : List ApplicationRef} {hash : String}

/-- The RPC takes the transaction of a batch and names its hash. -/
structure Taken (config : TtlConfig) (rpc : BatchRpc) (batch : List ApplicationRef) (hash : String) : Prop where
  configured : config.sourceSecret ≠ "" ∧ config.contractId ≠ "" ∧ batch ≠ []
  sent : ∃ source sequence tx preparedTx status errorResult, config.fromSecret config.sourceSecret = .ok source ∧
    rpc.getAccount source = .ok sequence ∧
    extendApplicationTtlTx config.sdk config.contractId config.nowSecs source sequence batch = some tx ∧
    rpc.simulateTransaction tx = .ok (.success preparedTx) ∧
    rpc.sendTransaction preparedTx = .ok ⟨⟨hash, status⟩, errorResult⟩ ∧ status ≠ .error

theorem sendBatch_eq_ok : sendBatch config rpc batch = .ok hash ↔ Taken config rpc batch hash := by
  constructor
  · intro sent
    unfold sendBatch at sent
    split_ifs at sent with secret contract empty
    obtain ⟨source, found, sent⟩ := Checked.bind_eq_ok.mp sent
    obtain ⟨sequence, known, sent⟩ := Checked.bind_eq_ok.mp sent
    split at sent
    · cases sent
    · rename_i tx built
      obtain ⟨simulation, simulated, sent⟩ := Checked.bind_eq_ok.mp sent
      split at sent
      · cases sent
      · rename_i preparedTx
        obtain ⟨sendResult, answered, sent⟩ := Checked.bind_eq_ok.mp sent
        split_ifs at sent with refused
        cases sent
        exact ⟨⟨secret, contract, empty⟩, source, sequence, tx, preparedTx, sendResult.status, sendResult.errorResult,
          found, known, built, simulated, answered, refused⟩
  · rintro ⟨⟨secret, contract, some_there⟩, source, sequence, tx, preparedTx, status, errorResult, found, known, built,
      simulated, answered, taken⟩
    rw [sendBatch, if_neg secret, if_neg contract, if_neg some_there, found]
    refine Checked.bind_eq_ok.mpr ⟨source, rfl, Checked.bind_eq_ok.mpr ⟨sequence, known, ?_⟩⟩
    rw [built]
    refine Checked.bind_eq_ok.mpr ⟨_, simulated, Checked.bind_eq_ok.mpr ⟨_, answered, if_neg taken⟩⟩

/-- The RPC reported SUCCESS for the transaction of the batch. -/
def Confirmed (config : TtlConfig) (rpc : BatchRpc) (batch : List ApplicationRef) : Prop :=
  ∃ hash, Taken config rpc batch hash ∧
    .ok .success ∈ Retry.asked (confirmation hash) (rpc.getTransaction hash) 0 confirmationPolls

/-- The transaction of the batch is taken, and no poll finds it. -/
def NeverFound (config : TtlConfig) (rpc : BatchRpc) (batch : List ApplicationRef) : Prop :=
  ∃ hash, Taken config rpc batch hash ∧ ∀ i < confirmationPolls, rpc.getTransaction hash i = .ok .notFound

theorem confirmation_eq_none_iff {answer : Except String GetTransactionResponse} :
    confirmation hash answer = none ↔ answer = .ok .notFound := by
  unfold confirmation
  split <;> simp_all

theorem confirmation_eq_ok_iff {answer : Except String GetTransactionResponse} {found : String} :
    confirmation hash answer = some (.ok found) ↔ answer = .ok .success ∧ hash = found := by
  unfold confirmation
  split <;> simp_all

theorem polls_exhausted_iff {rpc : BatchRpc} :
    Retry.ask (confirmation hash) (rpc.getTransaction hash) 0 confirmationPolls = none ↔
      ∀ i < confirmationPolls, rpc.getTransaction hash i = .ok .notFound := by
  simp only [Retry.ask_eq_none_iff, confirmation_eq_none_iff, Nat.zero_add]

theorem polls_settled {rpc : BatchRpc}
    (member : .ok .success ∈ Retry.asked (confirmation hash) (rpc.getTransaction hash) 0 confirmationPolls) :
    Retry.ask (confirmation hash) (rpc.getTransaction hash) 0 confirmationPolls = some (.ok hash) :=
  Retry.ask_eq_some_iff.mpr ⟨_, member, confirmation_eq_ok_iff.mpr ⟨rfl, rfl⟩⟩

/-- A batch that returns was confirmed or never found. -/
theorem extendBatch_ok_iff :
    (∃ found, extendApplicationTtlBatch config rpc batch = .ok found) ↔
      Confirmed config rpc batch ∨ NeverFound config rpc batch := by
  constructor
  · rintro ⟨found, returned⟩
    obtain ⟨hash, sent, polled⟩ := Checked.bind_eq_ok.mp returned
    have taken := sendBatch_eq_ok.mp sent
    split at polled
    · rename_i outcome settled
      rw [polled] at settled
      obtain ⟨heard, member, decided⟩ := Retry.ask_eq_some_iff.mp settled
      rw [(confirmation_eq_ok_iff.mp decided).1] at member
      exact Or.inl ⟨hash, taken, member⟩
    · rename_i exhausted
      exact Or.inr ⟨hash, taken, polls_exhausted_iff.mp exhausted⟩
  · rintro (⟨hash, taken, member⟩ | ⟨hash, taken, silent⟩)
    · refine ⟨hash, Checked.bind_eq_ok.mpr ⟨hash, sendBatch_eq_ok.mpr taken, ?_⟩⟩
      rw [polls_settled member]
    · refine ⟨hash, Checked.bind_eq_ok.mpr ⟨hash, sendBatch_eq_ok.mpr taken, ?_⟩⟩
      rw [polls_exhausted_iff.mpr silent]
      rfl

theorem Taken.unique {other : String} (taken : Taken config rpc batch hash) (also : Taken config rpc batch other) :
    hash = other := by
  have first := sendBatch_eq_ok.mpr taken
  rw [sendBatch_eq_ok.mpr also] at first
  exact (Except.ok.inj first).symm

theorem NeverFound.not_confirmed (unfound : NeverFound config rpc batch) : ¬ Confirmed config rpc batch := by
  obtain ⟨hash, taken, silent⟩ := unfound
  rintro ⟨other, also, member⟩
  cases taken.unique also
  have exhausted := polls_exhausted_iff.mpr silent
  rw [polls_settled member] at exhausted
  cases exhausted

end Proofs

section Job
variable {config : TtlConfig} {rpc : Nat → BatchRpc} {applications batch : List ApplicationRef} {i : Nat}

/-- What the job reports at its end. -/
def JobEnd.counts : JobEnd → Progress
  | .complete progress => progress
  | _ => .initial

/-- Each application is in one batch, in order and with few others; each batch is submitted once; the counts add up, and
a batch counts as extended only if the RPC reported its success. -/
structure Accounted (config : TtlConfig) (rpc : Nat → BatchRpc) (applications : List ApplicationRef) : Prop where
  placed : (chunk applications batchSize).flatten = applications
  small : ∀ batch ∈ chunk applications batchSize, batch.length ≤ batchSize
  submitted : (runTtlExtensionJob config rpc (.ok applications)).counts.submitted = chunk applications batchSize
  total : (runTtlExtensionJob config rpc (.ok applications)).counts.extendedCount +
    (runTtlExtensionJob config rpc (.ok applications)).counts.failedCount = applications.length
  confirmed : ∀ i batch, (chunk applications batchSize)[i]? = some batch →
    (progressUpTo config rpc applications (i + 1)).extendedCount ≠ (progressUpTo config rpc applications i).extendedCount →
    Confirmed config (rpc i) batch

theorem chunk_flatten : (chunk applications batchSize).flatten = applications :=
  List.flatten_chunked (Nat.succ_pos 9) applications

theorem counts_eq : (runTtlExtensionJob config rpc (.ok applications)).counts =
    progressUpTo config rpc applications (chunk applications batchSize).length := by
  rw [runTtlExtensionJob]
  split
  · rename_i empty
    rw [List.isEmpty_iff.mp empty]
    rfl
  · rfl

theorem progressUpTo_succ (there : (chunk applications batchSize)[i]? = some batch) :
    progressUpTo config rpc applications (i + 1) =
      runBatch config rpc (progressUpTo config rpc applications i) (batch, i) := by
  have next : ((chunk applications batchSize).zipIdx)[i]? = some (batch, i) := by
    rw [List.getElem?_zipIdx, there, Nat.zero_add]
    rfl
  rw [progressUpTo, List.take_add_one, next, List.foldl_append]
  rfl

/-- A batch is submitted, and counted on one side. -/
theorem runBatch_spec (progress : Progress) (batch : List ApplicationRef) (i : Nat) :
    (runBatch config rpc progress (batch, i)).submitted = progress.submitted ++ [batch] ∧
    (runBatch config rpc progress (batch, i)).extendedCount +
        (runBatch config rpc progress (batch, i)).failedCount =
      progress.extendedCount + progress.failedCount + batch.length := by
  unfold runBatch
  split
  · exact ⟨rfl, by dsimp only; omega⟩
  · exact ⟨rfl, by dsimp only; omega⟩

/-- So after every number of batches. -/
theorem progressUpTo_spec (n : Nat) :
    (progressUpTo config rpc applications n).submitted = (chunk applications batchSize).take n ∧
    (progressUpTo config rpc applications n).extendedCount + (progressUpTo config rpc applications n).failedCount =
      ((chunk applications batchSize).take n).flatten.length := by
  induction n with
  | zero => exact ⟨rfl, rfl⟩
  | succ n ih =>
    cases there : (chunk applications batchSize)[n]? with
    | none =>
      have short := List.getElem?_eq_none_iff.mp there
      have same : progressUpTo config rpc applications (n + 1) = progressUpTo config rpc applications n := by
        rw [progressUpTo, progressUpTo, List.take_of_length_le (by rw [List.length_zipIdx]; omega),
          List.take_of_length_le (by rw [List.length_zipIdx]; omega)]
      rw [same, List.take_of_length_le (by omega)]
      rwa [List.take_of_length_le short] at ih
    | some batch =>
      obtain ⟨submitted, total⟩ := @runBatch_spec config rpc (progressUpTo config rpc applications n) batch n
      rw [progressUpTo_succ there, submitted, total, ih.1, ih.2, List.take_add_one, there]
      simp

/-- The turn of a batch adds to the extended ones exactly if the batch returns. -/
theorem extended_iff (there : (chunk applications batchSize)[i]? = some batch) :
    (progressUpTo config rpc applications (i + 1)).extendedCount ≠ (progressUpTo config rpc applications i).extendedCount ↔
      ∃ found, extendApplicationTtlBatch config (rpc i) batch = .ok found := by
  have some_there : batch.length ≠ 0 := by
    have member : batch ∈ applications.chunked batchSize := List.mem_of_getElem? there
    exact fun empty => List.ne_nil_of_mem_chunked (Nat.succ_pos 9) member (List.length_eq_zero_iff.mp empty)
  rw [progressUpTo_succ there, runBatch]
  cases outcome : extendApplicationTtlBatch config (rpc i) batch with
  | ok found => exact iff_of_true (by dsimp only; omega) ⟨found, rfl⟩
  | error thrown => exact iff_of_false (fun grown => grown rfl) fun ⟨_, returned⟩ => by cases returned

theorem NeverFound.not_accounted (there : (chunk applications batchSize)[i]? = some batch)
    (unfound : NeverFound config (rpc i) batch) : ¬ Accounted config rpc applications := by
  intro accounted
  refine unfound.not_confirmed (accounted.confirmed i batch there ?_)
  exact (extended_iff there).mpr (extendBatch_ok_iff.mpr (Or.inr unfound))

/-- The job accounts for its applications exactly if no transaction that the RPC took stays unfound to the last poll. -/
theorem ttl_job_accounted_iff (config : TtlConfig) (rpc : Nat → BatchRpc) (applications : List ApplicationRef) :
    Accounted config rpc applications ↔
      ∀ i batch, (chunk applications batchSize)[i]? = some batch → ¬ NeverFound config (rpc i) batch := by
  constructor
  · exact fun accounted i batch there unfound => unfound.not_accounted there accounted
  · intro found
    obtain ⟨submitted, total⟩ := @progressUpTo_spec config rpc applications (chunk applications batchSize).length
    rw [List.take_length] at submitted total
    refine ⟨chunk_flatten, fun batch => List.length_le_of_mem_chunked, ?_, ?_, fun i batch there grown => ?_⟩
    · rw [counts_eq, submitted]
    · rw [counts_eq, total, chunk_flatten]
    · exact (extendBatch_ok_iff.mp ((extended_iff there).mp grown)).resolve_right (found i batch there)

end Job

section Sample

def sampleTtlConfig : TtlConfig where
  sdk := sampleBuilderSdk
  sourceSecret := "S"
  contractId := sampleContractId
  fromSecret := fun _ => .ok sampleAccount
  unwritable := "XDR Write Error"
  nowSecs := 1700000000

/-- The transaction is taken and then lost. -/
def losingRpc : BatchRpc where
  getAccount := fun _ => .ok "0"
  simulateTransaction := fun tx => .ok (.success tx)
  sendTransaction := fun _ => .ok ⟨⟨"6f2c", .pending⟩, none⟩
  getTransaction := fun _ _ => .ok .notFound

theorem losingRpc_taken : Taken sampleTtlConfig losingRpc [⟨sampleAccount, "org", 7⟩] "6f2c" := by
  have configured : sampleBuilderSdk.contract.decode sampleContractId = some sampleContract := sampleStrKey_decode _ _ _
  have fields : [scvAddress sampleBuilderSdk sampleAccount, scvSymbol "org", scvU32 7] =
      [.address (.account sampleKey), .symbol "org", .u32 7].map some := by
    rw [sampleAccount_scvAddress]
    rfl
  obtain ⟨operation, called⟩ : ∃ operation, extendOperation sampleBuilderSdk sampleContractId
      ⟨sampleAccount, "org", 7⟩ = some operation :=
    ⟨_, contractCall_eq_some.mpr ⟨sampleContract, _, configured, fields, rfl⟩⟩
  have next : sampleBuilderSdk.nextSequence "0" = some 1 := by decide
  have built : ∃ tx, extendApplicationTtlTx sampleBuilderSdk sampleContractId 1700000000 sampleAccount "0"
      [⟨sampleAccount, "org", 7⟩] = some tx := by
    simp [extendApplicationTtlTx, called, buildTransaction, sampleAccount_decode, next]
  obtain ⟨tx, built⟩ := built
  exact ⟨⟨by decide, by decide, List.cons_ne_nil _ _⟩, sampleAccount, "0", tx, tx, .pending, none, rfl, rfl, built, rfl,
    rfl, by decide⟩

/-- The application of a lost transaction counts as extended. -/
theorem lost_batch_counted :
    (runTtlExtensionJob sampleTtlConfig (fun _ => losingRpc) (.ok [⟨sampleAccount, "org", 7⟩])).counts.extendedCount = 1 ∧
      ¬ Accounted sampleTtlConfig (fun _ => losingRpc) [⟨sampleAccount, "org", 7⟩] := by
  have unfound : NeverFound sampleTtlConfig losingRpc [⟨sampleAccount, "org", 7⟩] :=
    ⟨"6f2c", losingRpc_taken, fun _ _ => rfl⟩
  have there : (chunk [(⟨sampleAccount, "org", 7⟩ : ApplicationRef)] batchSize)[0]? =
      some [⟨sampleAccount, "org", 7⟩] := rfl
  refine ⟨?_, @NeverFound.not_accounted sampleTtlConfig (fun _ => losingRpc) _ _ 0 there unfound⟩
  obtain ⟨found, returned⟩ := extendBatch_ok_iff.mpr (Or.inr unfound)
  rw [counts_eq]
  change (progressUpTo _ _ _ (0 + 1)).extendedCount = 1
  rw [progressUpTo_succ there, runBatch, returned]
  rfl

end Sample

end TtlScheduler

end WorkloadGovernor
