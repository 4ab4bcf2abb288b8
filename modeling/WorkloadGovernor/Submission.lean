import WorkloadGovernor.Lib.Number
import WorkloadGovernor.Lib.Retry

namespace WorkloadGovernor

section Source

inductive SorobanErrorCode where
  | internalError
  | alreadyInitialized
  | unauthorizedByAdmin
  | unauthorizedByMaintainer
  | negativeAmount
  | balanceError
  | invalidIssueState
  | noAssignment
  | noApplication
  | amountTooLow
  | unclosedPeriod
  | unknown
  deriving DecidableEq, Repr

structure SorobanContractError where
  code : SorobanErrorCode
  message : String
  details : Option String
  deriving DecidableEq, Repr

/-- `CONTRACT_ERROR_CODES`. -/
def contractErrorCodes : List SorobanErrorCode :=
  [.internalError, .alreadyInitialized, .unauthorizedByAdmin, .unauthorizedByMaintainer, .negativeAmount, .balanceError,
    .invalidIssueState, .noAssignment, .noApplication, .amountTooLow, .unclosedPeriod]

/-- The digits of the first match of `/error code=(\d+)/`. -/
def codeMatch (errorMessage : String) : Option String :=
  errorMessage.toList.tails.findSome? fun rest =>
    let digits := (rest.drop "error code=".length).takeWhile Char.isDigit
    if "error code=".toList.isPrefixOf rest ∧ digits ≠ [] then some (String.ofList digits) else none

example : codeMatch "HostError: error code=7x" = some "7" := by decide

/-- `String(code)` for what `parseInt` makes of digits. -/
def codeText : Js.Number → String
  | .finite code => Js.wholeText code.num
  | _ => "Infinity"

def parseContractError (errorMessage : String) : SorobanContractError :=
  match codeMatch errorMessage with
  | some digits =>
    let code := Js.Number.parseInt digits
    { code := match code with
        | .finite value => contractErrorCodes[value.num.toNat]?.getD .unknown
        | _ => .unknown
      message := errorMessage
      details := some ("Contract error code: " ++ codeText code) }
  | none => ⟨.unknown, errorMessage, none⟩

inductive SendStatus where
  | pending
  | duplicate
  | tryAgainLater
  | error
  deriving DecidableEq, Repr

structure SendResponse where
  hash : String
  status : SendStatus
  deriving DecidableEq, Repr

inductive GetTransactionResponse where
  | notFound
  | success
  | failed (resultXdr : Option String)
  deriving DecidableEq, Repr

/-- What the RPC does with one transaction: sending it, and the queries about a hash one after the other. What is
thrown is given by its message. -/
structure SubmissionRpc where
  sendTransaction : Except String SendResponse
  getTransaction : String → Nat → Except String GetTransactionResponse

inductive SubmissionStatus where
  | success
  | error
  deriving DecidableEq, Repr

structure TransactionSubmissionResult where
  hash : String
  status : SubmissionStatus
  error : Option SorobanContractError
  deriving DecidableEq, Repr

namespace SorobanService

def maxPolls : Nat := 30

def submissionFailure (thrown : String) : TransactionSubmissionResult := ⟨"", .error, some (parseContractError thrown)⟩

/-- What an answer means for the loop, `none` to go on. -/
def settle (hash : String) : Except String GetTransactionResponse → Option TransactionSubmissionResult
  | .ok .notFound => none
  | .ok .success => some ⟨hash, .success, none⟩
  | .ok (.failed resultXdr) =>
    some ⟨hash, .error, some (parseContractError ((Js.truthy resultXdr).getD "Unknown error"))⟩
  | .error thrown => some (submissionFailure thrown)

def submitTransaction (rpc : SubmissionRpc) : TransactionSubmissionResult :=
  match rpc.sendTransaction with
  | .error thrown => submissionFailure thrown
  | .ok sent =>
    if sent.status = .pending then
      match Retry.ask (settle sent.hash) (rpc.getTransaction sent.hash) 0 maxPolls with
      | some result => result
      -- still pending after the last poll: success is assumed
      | none => ⟨sent.hash, .success, none⟩
    else ⟨sent.hash, .success, none⟩

/-- The answers that `getTransaction` gave meanwhile, with the hashes asked for. -/
def queries (rpc : SubmissionRpc) : List (String × Except String GetTransactionResponse) :=
  match rpc.sendTransaction with
  | .error _ => []
  | .ok sent =>
    if sent.status = .pending then
      (Retry.asked (settle sent.hash) (rpc.getTransaction sent.hash) 0 maxPolls).map (sent.hash, ·)
    else []

end SorobanService

end Source

section Proofs
variable {rpc : SubmissionRpc}
open SorobanService

/-- `getTransaction` reported SUCCESS for the transaction that was sent. -/
def ReportedSuccess (rpc : SubmissionRpc) : Prop :=
  ∃ sent, rpc.sendTransaction = .ok sent ∧ (sent.hash, .ok .success) ∈ queries rpc

/-- The send throws, or leads to polls of which one is answered. -/
def Answered (rpc : SubmissionRpc) : Prop :=
  (∃ thrown, rpc.sendTransaction = .error thrown) ∨
    ∃ sent, rpc.sendTransaction = .ok sent ∧ sent.status = .pending ∧
      ∃ i < maxPolls, rpc.getTransaction sent.hash i ≠ .ok .notFound

theorem settle_eq_none_iff {hash : String} {answer : Except String GetTransactionResponse} :
    settle hash answer = none ↔ answer = .ok .notFound := by
  unfold settle
  split <;> simp_all

theorem settle_success_iff {hash : String} {answer : Except String GetTransactionResponse}
    {result : TransactionSubmissionResult} (settled : settle hash answer = some result) :
    result.status = .success ↔ answer = .ok .success := by
  unfold settle at settled
  split at settled <;> cases settled <;> simp [submissionFailure]

theorem submitTransaction_of_pending {sent : SendResponse} (given : rpc.sendTransaction = .ok sent)
    (waits : sent.status = .pending) : submitTransaction rpc =
      (Retry.ask (settle sent.hash) (rpc.getTransaction sent.hash) 0 maxPolls).getD ⟨sent.hash, .success, none⟩ := by
  rw [submitTransaction, given]
  dsimp only
  rw [if_pos waits]
  cases Retry.ask (settle sent.hash) (rpc.getTransaction sent.hash) 0 maxPolls <;> rfl

theorem submitTransaction_of_not_pending {sent : SendResponse} (given : rpc.sendTransaction = .ok sent)
    (taken : sent.status ≠ .pending) : submitTransaction rpc = ⟨sent.hash, .success, none⟩ := by
  rw [submitTransaction, given]
  exact if_neg taken

theorem reportedSuccess_iff {sent : SendResponse} (given : rpc.sendTransaction = .ok sent) :
    ReportedSuccess rpc ↔ sent.status = .pending ∧
      .ok .success ∈ Retry.asked (settle sent.hash) (rpc.getTransaction sent.hash) 0 maxPolls := by
  have only : ∀ other, rpc.sendTransaction = .ok other → other = sent := by
    intro other also
    rw [given] at also
    exact (Except.ok.inj also).symm
  constructor
  · rintro ⟨other, also, member⟩
    cases only other also
    rw [queries, given] at member
    dsimp only at member
    split at member
    · rename_i waits
      obtain ⟨heard, there, same⟩ := List.mem_map.mp member
      cases same
      exact ⟨waits, there⟩
    · cases member
  · rintro ⟨waits, there⟩
    refine ⟨sent, given, ?_⟩
    rw [queries, given]
    dsimp only
    rw [if_pos waits]
    exact List.mem_map_of_mem there

/-- Once a poll is answered, the answer decides. -/
theorem submit_success_iff_of_settled {sent : SendResponse} {result : TransactionSubmissionResult}
    (given : rpc.sendTransaction = .ok sent) (waits : sent.status = .pending)
    (settled : Retry.ask (settle sent.hash) (rpc.getTransaction sent.hash) 0 maxPolls = some result) :
    (submitTransaction rpc).status = .success ↔ ReportedSuccess rpc := by
  obtain ⟨heard, member, decided⟩ := Retry.ask_eq_some_iff.mp settled
  rw [submitTransaction_of_pending given waits, settled, Option.getD_some, reportedSuccess_iff given]
  constructor
  · intro success
    rw [(settle_success_iff decided).mp success] at member
    exact ⟨waits, member⟩
  · rintro ⟨_, there⟩
    have other := Retry.ask_eq_some_iff.mpr ⟨_, there, rfl⟩
    rw [settled] at other
    cases other
    rfl

theorem answered_iff {sent : SendResponse} (given : rpc.sendTransaction = .ok sent) :
    Answered rpc ↔ sent.status = .pending ∧
      Retry.ask (settle sent.hash) (rpc.getTransaction sent.hash) 0 maxPolls ≠ none := by
  rw [Ne, Retry.ask_eq_none_iff]
  constructor
  · rintro (⟨thrown, threw⟩ | ⟨other, also, waits, j, bound, answered⟩)
    · rw [given] at threw
      cases threw
    · rw [given] at also
      cases also
      refine ⟨waits, fun silent => answered ?_⟩
      have waiting := settle_eq_none_iff.mp (silent j bound)
      rwa [Nat.zero_add] at waiting
  · rintro ⟨waits, spoken⟩
    refine Or.inr ⟨sent, given, waits, by_contra fun silent => spoken fun j bound => settle_eq_none_iff.mpr ?_⟩
    rw [Nat.zero_add]
    exact by_contra fun answered => silent ⟨j, bound, answered⟩

theorem SubmissionStatus.eq_error {status : SubmissionStatus} (other : status ≠ .success) : status = .error := by
  cases status with
  | success => exact absurd rfl other
  | error => rfl

/-- Success is reported for nothing else than a SUCCESS of `getTransaction` exactly if the
send throws or one of the polls after it is answered. -/
theorem submit_success_reported_iff (rpc : SubmissionRpc) :
    ((submitTransaction rpc).status = .success → ReportedSuccess rpc) ∧
      (¬ ReportedSuccess rpc → (submitTransaction rpc).status = .error) ↔ Answered rpc := by
  cases given : rpc.sendTransaction with
  | error thrown =>
    have failed : (submitTransaction rpc).status = .error := by
      rw [submitTransaction, given]
      rfl
    rw [failed]
    exact iff_of_true ⟨fun success => SubmissionStatus.noConfusion success, fun _ => rfl⟩ (Or.inl ⟨thrown, given⟩)
  | ok sent =>
    rw [answered_iff given]
    by_cases waits : sent.status = .pending
    · cases settled : Retry.ask (settle sent.hash) (rpc.getTransaction sent.hash) 0 maxPolls with
      | some result =>
        have verdict := submit_success_iff_of_settled given waits settled
        have failed := fun unreported : ¬ ReportedSuccess rpc =>
          SubmissionStatus.eq_error fun success => unreported (verdict.mp success)
        exact iff_of_true ⟨verdict.mp, failed⟩ ⟨waits, Option.some_ne_none result⟩
      | none =>
        -- thirty polls without an answer: the loop falls through to its assumption
        have assumed : (submitTransaction rpc).status = .success := by
          rw [submitTransaction_of_pending given waits, settled]
          rfl
        refine iff_of_false (fun sound => ?_) fun answered => answered.2 rfl
        obtain ⟨_, there⟩ := (reportedSuccess_iff given).mp (sound.1 assumed)
        have other := Retry.ask_eq_some_iff.mpr ⟨_, there, rfl⟩
        rw [settled] at other
        cases other
    · have assumed : (submitTransaction rpc).status = .success := by
        rw [submitTransaction_of_not_pending given waits]
      exact iff_of_false (fun sound => waits ((reportedSuccess_iff given).mp (sound.1 assumed)).1)
        fun answered => waits answered.1

/-- A transaction that the RPC turns away is reported as submitted. -/
theorem rejected_send_succeeds :
    ∃ rpc : SubmissionRpc, rpc.sendTransaction = .ok ⟨"6f2c", .error⟩ ∧ (submitTransaction rpc).status = .success ∧
      ¬ ReportedSuccess rpc := by
  refine ⟨⟨.ok ⟨"6f2c", .error⟩, fun _ _ => .ok .notFound⟩, rfl, rfl, fun reported => ?_⟩
  exact absurd ((reportedSuccess_iff rfl).mp reported).1 (by decide)

end Proofs

end WorkloadGovernor
