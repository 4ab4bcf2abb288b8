import WorkloadGovernor.Lib.FixedPoint
import WorkloadGovernor.Lib.Json
import WorkloadGovernor.Lib.Run

namespace WorkloadGovernor
open Js

section Source

structure WithdrawTarget where
  issueId : String
  issueTitle : String
  orgId : String
  deriving DecidableEq, Repr

/-- How a `fetch` ends: with the message of what it throws, or with a status and what `json()` makes of the body. -/
inductive Fetched where
  | threw (message : String)
  | response (status : Nat) (body : Except String Json)

/-- How `signTransaction` ends, if there is an extension to ask. Of an error only its text is kept. -/
inductive WalletAnswer where
  | notFound
  | threw (message : String)
  | answered (signedTxXdr : String) (error : Option String)

/-- `errBody.name ?? … ?? otherwise`, in the order of the names. -/
def complaint (names : List String) (otherwise : String) (body : Except String Json) : Json :=
  match body.toOption.getD (.object []) with
  | .null => .string ("Cannot read properties of null (reading '" ++ names.headD "" ++ "')")
  | errBody => (names.findSome? fun name =>
      match errBody.field name with
      | some .null => none
      | value => value).getD (.string otherwise)

namespace Fetched
variable {α : Type}

/-- What an answer gives: `refused` says what is thrown for a status that is not `ok`. An error is given by what
`new Error` takes for its message. -/
def read (refused : Nat → Except String Json → Json) (accepted : Except String Json → Except Json α) :
    Fetched → Except Json α
  | threw message => .error (.string message)
  | response status body => if 200 ≤ status ∧ status < 300 then accepted body else .error (refused status body)

/-- `json()`, and then a property of what it gives. -/
def property (name onNull : String) : Except String Json → Except Json (Option Json)
  | .error message => .error (.string message)
  | .ok value =>
    match value.property name with
    | some found => .ok found
    | none => .error (.string onNull)

/-- What `seqRes` comes to. -/
def accountSequence : Fetched → Except Json (Option Json) :=
  read (fun status _ => .string ("Failed to fetch account sequence: " ++ status.repr))
    (property "sequence" "Cannot read properties of null (reading 'sequence')")

/-- What `buildRes` comes to. -/
def builtXdr : Fetched → Except Json (Option Json) :=
  read (fun status body => complaint ["error"] ("Build TX failed: " ++ status.repr) body)
    (property "xdr" "Cannot destructure property 'xdr' of '(intermediate value)' as it is null.")

/-- What `submitRes` comes to. -/
def submitted : Fetched → Except Json Unit :=
  read (fun status body => complaint ["reason", "error"] ("Submit failed: " ++ status.repr) body) fun _ => .ok ()

end Fetched

def WalletAnswer.signed : WalletAnswer → Except Json String
  | notFound => .error (.string "Freighter extension not found.")
  | threw message => .error (.string message)
  | answered signedTxXdr error =>
    match truthy error with
    | some signErr => .error (.string ("Signing failed: " ++ signErr))
    | none => .ok signedTxXdr

/-- What a run of `handleConfirm` waits for. -/
inductive WithdrawStage where
  | account
  | build (sequence : Option Json)
  | sign (xdr : Option Json)
  | submit (signedTxXdr : String)

/-- The call that ends a run: `onSuccess` or `onError`. -/
inductive Report where
  | success (issueId : String)
  | error (message : Json)

inductive Progress where
  | waiting (stage : WithdrawStage)
  | ended (report : Report)

/-- A run of `handleConfirm`, with what it took from its closure. -/
structure Withdrawal where
  target : WithdrawTarget
  publicKey : String
  progress : Progress

inductive Answer where
  | fetched (answer : Fetched)
  | wallet (answer : WalletAnswer)

/-- The next step, or the `catch` of the whole. -/
def Progress.after {α : Type} (goOn : α → Progress) : Except Json α → Progress
  | .ok value => goOn value
  | .error thrown => .ended (.error thrown)

/-- What follows when the answer that a stage waits for is there. -/
def WithdrawStage.next (target : WithdrawTarget) : WithdrawStage → Answer → Option Progress
  | account, .fetched answer => some (.after (fun sequence => .waiting (.build sequence)) answer.accountSequence)
  | build _, .fetched answer => some (.after (fun xdr => .waiting (.sign xdr)) answer.builtXdr)
  | sign _, .wallet answer => some (.after (fun signedTxXdr => .waiting (.submit signedTxXdr)) answer.signed)
  | submit _, .fetched answer => some (.after (fun _ => .ended (.success target.issueId)) answer.submitted)
  | _, _ => none

/-- A row of the list; an issue id is a whole number. -/
structure PendingApplication where
  org_id : String
  issue_id : Int
  title : String
  status : String
  deriving DecidableEq, Repr

/-- The page with its hooks. `withdrawals` has every run of `handleConfirm`, `reports` every call that ended one. -/
structure DashboardPage where
  publicKey : Option String
  applications : List PendingApplication
  pendingTarget : Option WithdrawTarget
  loading : Bool
  withdrawals : List Withdrawal
  reports : List Report

/-- What happens to the page outside the runs of `handleConfirm`. It is rendered again between two clicks. The browser
closes the dialog on Escape even while a run is under way, and then every row can be clicked. -/
inductive PageEvent where
  | connect (publicKey : Option String)
  | loaded (applications : List PendingApplication)
  | withdraw (app : PendingApplication)
  | confirm
  | cancel
  deriving DecidableEq, Repr

namespace DashboardPage
variable (page : DashboardPage)

/-- Before the wallet is connected. -/
def start : DashboardPage := ⟨none, [], none, false, [], []⟩

/-- `applications.filter((a) => a.issue_id !== issueId)`. -/
def removeApplication (issueId : Number) : DashboardPage :=
  { page with applications := page.applications.filter fun a => .finite a.issue_id ≠ issueId }

def initiateWithdraw (target : WithdrawTarget) : DashboardPage := { page with pendingTarget := some target }

def handleCancel : DashboardPage := if page.loading then page else { page with pendingTarget := none }

def handleConfirm : DashboardPage :=
  match page.pendingTarget, truthy page.publicKey with
  | some target, some publicKey =>
    { page with loading := true, withdrawals := page.withdrawals ++ [⟨target, publicKey, .waiting .account⟩] }
  | _, _ => page

/-- `onSuccess` or `onError`, after which the dialog is closed. -/
def report : Report → DashboardPage
  | .success issueId =>
    { page.removeApplication (Number.ofText issueId) with
      reports := page.reports ++ [.success issueId], pendingTarget := none, loading := false }
  | .error message => { page with reports := page.reports ++ [.error message], pendingTarget := none, loading := false }

/-- The run gets as far as this. -/
def proceed (i : Nat) (withdrawal : Withdrawal) (progress : Progress) : DashboardPage :=
  let page := { page with withdrawals := page.withdrawals.set i { withdrawal with progress := progress } }
  match progress with
  | .waiting _ => page
  | .ended report => page.report report

/-- A run that has not ended, with what it waits for. -/
def waiting (i : Nat) : Option (Withdrawal × WithdrawStage) :=
  match page.withdrawals[i]? with
  | some withdrawal =>
    match withdrawal.progress with
    | .waiting stage => some (withdrawal, stage)
    | .ended _ => none
  | none => none

/-- What the answer makes of a run that waits for it. -/
def heard (i : Nat) (answer : Answer) : Option (Withdrawal × Progress) :=
  match page.waiting i with
  | some (withdrawal, stage) => (stage.next withdrawal.target answer).map (withdrawal, ·)
  | none => none

/-- An answer that nothing waits for changes nothing. -/
def answered (i : Nat) (answer : Answer) : DashboardPage :=
  match page.heard i answer with
  | some (withdrawal, progress) => page.proceed i withdrawal progress
  | none => page

/-- The row shows that it is being withdrawn. -/
def withdrawing (app : PendingApplication) : Prop :=
  page.loading = true ∧ ∃ target ∈ page.pendingTarget, target.issueId = wholeText app.issue_id ∧ target.orgId = app.org_id

instance (app : PendingApplication) : Decidable (page.withdrawing app) := inferInstanceAs (Decidable (_ ∧ _))

def event : PageEvent → DashboardPage
  | .connect publicKey => { page with publicKey := publicKey }
  | .loaded applications => { page with applications := applications }
  | .withdraw app =>
    -- the button of a row that is shown
    if (truthy page.publicKey).isSome ∧ app ∈ page.applications ∧ ¬ (page.withdrawing app ∨ app.status = "assigned") then
      page.initiateWithdraw ⟨wholeText app.issue_id, app.title, app.org_id⟩
    else page
  | .confirm => if page.loading then page else page.handleConfirm
  | .cancel => page.handleCancel

end DashboardPage

inductive PageMove where
  | event (e : PageEvent)
  | answer (i : Nat) (answer : Answer)

def DashboardPage.step (page : DashboardPage) : PageMove → DashboardPage
  | .event e => page.event e
  | .answer i answer => page.answered i answer

end Source

section Runs
variable {page : DashboardPage}

namespace DashboardPage

theorem waiting_eq_some {i : Nat} {withdrawal : Withdrawal} {stage : WithdrawStage} :
    page.waiting i = some (withdrawal, stage) ↔
      page.withdrawals[i]? = some withdrawal ∧ withdrawal.progress = .waiting stage := by
  rw [waiting]
  cases found : page.withdrawals[i]? with
  | none => simp
  | some own =>
    dsimp only
    cases reached : own.progress with
    | ended report =>
      refine iff_of_false (Option.some_ne_none _).symm ?_
      rintro ⟨same, waits⟩
      cases same
      cases reached.symm.trans waits
    | waiting next =>
      constructor
      · intro same
        cases same
        exact ⟨rfl, reached⟩
      · rintro ⟨same, waits⟩
        cases same
        cases reached.symm.trans waits
        rfl

theorem heard_eq_some {i : Nat} {answer : Answer} {withdrawal : Withdrawal} {progress : Progress} :
    page.heard i answer = some (withdrawal, progress) ↔ ∃ stage, page.waiting i = some (withdrawal, stage) ∧
      stage.next withdrawal.target answer = some progress := by
  rw [heard]
  cases page.waiting i with
  | none => simp
  | some both =>
    dsimp only
    rw [Option.map_eq_some_iff]
    constructor
    · rintro ⟨next, there, same⟩
      cases same
      exact ⟨both.2, rfl, there⟩
    · rintro ⟨stage, same, there⟩
      cases same
      exact ⟨progress, there, rfl⟩

end DashboardPage

/-- Success is reported only once `submit` is answered, and of the run's own issue. -/
theorem WithdrawStage.next_success {target : WithdrawTarget} {stage : WithdrawStage} {answer : Answer} {issueId : String}
    (ended : stage.next target answer = some (.ended (.success issueId))) :
    issueId = target.issueId ∧ ∃ signedTxXdr fetched, stage = .submit signedTxXdr ∧ answer = .fetched fetched ∧
      fetched.submitted = .ok () := by
  unfold WithdrawStage.next at ended
  split at ended
  · rename_i fetched
    cases read : fetched.accountSequence <;> rw [read] at ended <;> cases ended
  · rename_i fetched
    cases read : fetched.builtXdr <;> rw [read] at ended <;> cases ended
  · rename_i asked
    cases read : asked.signed <;> rw [read] at ended <;> cases ended
  · rename_i signedTxXdr fetched
    cases read : fetched.submitted <;> rw [read] at ended <;> cases ended
    exact ⟨rfl, signedTxXdr, fetched, rfl, rfl, read⟩
  · cases ended

/-- How a run ended, if it has. -/
def Withdrawal.outcome (withdrawal : Withdrawal) : Option Report :=
  match withdrawal.progress with
  | .waiting _ => none
  | .ended report => some report

/-- At most one run is under way, the last; every other has been reported, in the order in
which they were confirmed. -/
structure DashboardPage.OneAtATime (page : DashboardPage) : Prop where
  reports : page.reports = page.withdrawals.filterMap Withdrawal.outcome
  idle : page.loading = false → ∀ withdrawal ∈ page.withdrawals, withdrawal.outcome.isSome
  busy : page.loading = true → ∃ before last, page.withdrawals = before ++ [last] ∧
    (∀ withdrawal ∈ before, withdrawal.outcome.isSome) ∧ last.outcome = none

namespace DashboardPage.OneAtATime
variable {i : Nat} {withdrawal : Withdrawal}

/-- A run that has not ended is the last one. -/
theorem under_way (one : page.OneAtATime) (there : page.withdrawals[i]? = some withdrawal)
    (unfinished : withdrawal.outcome = none) : page.loading = true ∧ ∃ before, page.withdrawals = before ++ [withdrawal] ∧
      i = before.length ∧ ∀ other ∈ before, other.outcome.isSome := by
  have busy : page.loading = true := by
    by_contra idle
    have ended := one.idle (Bool.eq_false_iff.mpr idle) _ (List.mem_of_getElem? there)
    rw [unfinished] at ended
    cases ended
  obtain ⟨before, last, all, earlier, _⟩ := one.busy busy
  refine ⟨busy, ?_⟩
  rw [all] at there
  rcases Nat.lt_trichotomy i before.length with inside | last_one | beyond
  · rw [List.getElem?_append_left inside] at there
    have ended := earlier _ (List.mem_of_getElem? there)
    rw [unfinished] at ended
    cases ended
  · subst last_one
    rw [List.getElem?_concat_length] at there
    cases there
    exact ⟨before, all, rfl, earlier⟩
  · rw [List.getElem?_eq_none (by rw [List.length_append, List.length_singleton]; omega)] at there
    cases there

theorem all_reported {before : List Withdrawal} (earlier : ∀ other ∈ before, other.outcome.isSome) {ended : Withdrawal}
    (reported : ended.outcome.isSome) : ∀ other ∈ before ++ [ended], other.outcome.isSome := by
  intro other member
  rcases List.mem_append.mp member with first | last
  · exact earlier other first
  · rw [List.mem_singleton.mp last]
    exact reported

theorem proceed (one : page.OneAtATime) (there : page.withdrawals[i]? = some withdrawal)
    (unfinished : withdrawal.outcome = none) (progress : Progress) :
    (page.proceed i withdrawal progress).OneAtATime := by
  obtain ⟨busy, before, all, rfl, earlier⟩ := one.under_way there unfinished
  have set : page.withdrawals.set before.length { withdrawal with progress := progress } =
      before ++ [{ withdrawal with progress := progress }] := by
    rw [all, List.set_append_right _ _ le_rfl, Nat.sub_self, List.set_cons_zero]
  have told : page.reports = before.filterMap Withdrawal.outcome := by
    rw [one.reports, all, List.filterMap_append, List.filterMap_cons_none unfinished, List.filterMap_nil, List.append_nil]
  cases progress with
  | waiting stage =>
    rw [DashboardPage.proceed, set]
    refine ⟨?_, fun idle => ?_, fun _ => ⟨before, _, rfl, earlier, rfl⟩⟩
    · rw [List.filterMap_append, List.filterMap_cons_none rfl, List.filterMap_nil, List.append_nil]
      exact told
    · cases busy.symm.trans idle
  | ended report =>
    have ended : ∀ other ∈ before ++ [{ withdrawal with progress := .ended report }], other.outcome.isSome :=
      all_reported earlier rfl
    have reports : page.reports ++ [report] =
        (before ++ [{ withdrawal with progress := .ended report }]).filterMap Withdrawal.outcome := by
      rw [told, List.filterMap_append]
      rfl
    rw [DashboardPage.proceed, set]
    cases report <;> exact ⟨reports, fun _ => ended, fun busy => absurd busy Bool.false_ne_true⟩

theorem answered (one : page.OneAtATime) (i : Nat) (answer : Answer) : (page.answered i answer).OneAtATime := by
  rw [DashboardPage.answered]
  split
  · rename_i withdrawal progress heard
    obtain ⟨stage, waits, _⟩ := heard_eq_some.mp heard
    obtain ⟨there, waiting⟩ := waiting_eq_some.mp waits
    exact one.proceed there (by rw [Withdrawal.outcome, waiting]) progress
  · exact one

theorem event (one : page.OneAtATime) (e : PageEvent) : (page.event e).OneAtATime := by
  cases e with
  | connect publicKey => exact ⟨one.reports, one.idle, one.busy⟩
  | loaded applications => exact ⟨one.reports, one.idle, one.busy⟩
  | withdraw app =>
    rw [DashboardPage.event]
    split
    · exact ⟨one.reports, one.idle, one.busy⟩
    · exact one
  | confirm =>
    rw [DashboardPage.event]
    split
    · exact one
    · rename_i idle
      have all := one.idle (Bool.eq_false_iff.mpr idle)
      rw [handleConfirm]
      split
      · rename_i target publicKey _ _
        refine ⟨?_, fun idle => absurd idle Bool.noConfusion, fun _ => ⟨_, _, rfl, all, rfl⟩⟩
        rw [List.filterMap_append, List.filterMap_cons_none rfl, List.filterMap_nil, List.append_nil]
        exact one.reports
      · exact one
  | cancel =>
    rw [DashboardPage.event, handleCancel]
    split
    · exact one
    · rename_i idle
      exact ⟨one.reports, one.idle, fun busy => absurd busy idle⟩

end DashboardPage.OneAtATime

theorem DashboardPage.start_one : DashboardPage.start.OneAtATime :=
  ⟨rfl, fun _ _ member => absurd member List.not_mem_nil, fun busy => absurd busy Bool.false_ne_true⟩

/-- The wallet has not signed for the run. -/
def Withdrawal.unsigned (withdrawal : Withdrawal) : Bool :=
  match withdrawal.progress with
  | .waiting (.submit _) | .ended _ => false
  | .waiting _ => true

theorem Progress.after_eq {α : Type} {goOn : α → Progress} {read : Except Json α} {progress : Progress}
    (reached : Progress.after goOn read = progress) :
    (∃ value, read = .ok value ∧ progress = goOn value) ∨ ∃ thrown, progress = .ended (.error thrown) := by
  cases read with
  | ok value => exact Or.inl ⟨value, rfl, reached.symm⟩
  | error thrown => exact Or.inr ⟨thrown, reached.symm⟩

/-- Once it is signed for, a run goes on to its end. -/
theorem WithdrawStage.next_unsigned {withdrawal : Withdrawal} {stage : WithdrawStage} {answer : Answer}
    {progress : Progress} (waiting : withdrawal.progress = .waiting stage) (signed : withdrawal.unsigned = false)
    (next : stage.next withdrawal.target answer = some progress) :
    ({ withdrawal with progress := progress } : Withdrawal).unsigned = false := by
  rw [Withdrawal.unsigned, waiting] at signed
  cases stage with
  | submit signedTxXdr =>
    cases answer with
    | wallet asked => cases next
    | fetched answer =>
      rcases Progress.after_eq (Option.some.inj next) with ⟨_, _, rfl⟩ | ⟨thrown, rfl⟩
      · rfl
      · rfl
  | _ => cases signed

namespace DashboardPage
variable {next : DashboardPage} {i : Nat} {answer : Answer}

/-- No run is lost or asks for anything else, and what was signed stays so. -/
def Kept (page next : DashboardPage) : Prop :=
  ∀ (i : Nat) withdrawal, page.withdrawals[i]? = some withdrawal →
    ∃ progress, next.withdrawals[i]? = some { withdrawal with progress := progress } ∧
      (withdrawal.unsigned = false → ({ withdrawal with progress := progress } : Withdrawal).unsigned = false)

theorem answered_withdrawals {withdrawal : Withdrawal} {progress : Progress}
    (heard : page.heard i answer = some (withdrawal, progress)) :
    (page.answered i answer).withdrawals = page.withdrawals.set i { withdrawal with progress := progress } := by
  rw [answered, heard]
  cases progress with
  | waiting stage => rfl
  | ended report => cases report <;> rfl

theorem event_withdrawals (page : DashboardPage) (e : PageEvent) :
    (page.event e).withdrawals = page.withdrawals ∨ ∃ target publicKey,
      (page.event e).withdrawals = page.withdrawals ++ [⟨target, publicKey, .waiting .account⟩] := by
  cases e with
  | connect publicKey => exact Or.inl rfl
  | loaded applications => exact Or.inl rfl
  | withdraw app =>
    rw [event]
    split <;> exact Or.inl rfl
  | confirm =>
    rw [event]
    split
    · exact Or.inl rfl
    · rw [handleConfirm]
      split
      · exact Or.inr ⟨_, _, rfl⟩
      · exact Or.inl rfl
  | cancel =>
    rw [event, handleCancel]
    split <;> exact Or.inl rfl

theorem kept_of_same (same : next.withdrawals = page.withdrawals) : page.Kept next :=
  fun _ withdrawal there => ⟨withdrawal.progress, same ▸ there, id⟩

theorem kept_event (page : DashboardPage) (e : PageEvent) : page.Kept (page.event e) := by
  rcases page.event_withdrawals e with same | ⟨target, publicKey, longer⟩
  · exact kept_of_same same
  · intro i withdrawal there
    refine ⟨withdrawal.progress, ?_, id⟩
    rw [longer, List.getElem?_append_left (List.getElem?_eq_some_iff.mp there).1]
    exact there

theorem kept_answered (page : DashboardPage) (i : Nat) (answer : Answer) : page.Kept (page.answered i answer) := by
  cases heard : page.heard i answer with
  | none => exact kept_of_same (by rw [answered, heard])
  | some both =>
    obtain ⟨own, progress⟩ := both
    obtain ⟨stage, waits, next⟩ := heard_eq_some.mp heard
    obtain ⟨at_index, waiting⟩ := waiting_eq_some.mp waits
    intro j withdrawal there
    rw [answered_withdrawals heard]
    by_cases apart : i = j
    · subst apart
      cases at_index.symm.trans there
      refine ⟨progress, List.getElem?_set_self (List.getElem?_eq_some_iff.mp there).1, fun signed => ?_⟩
      exact WithdrawStage.next_unsigned waiting signed next
    · exact ⟨withdrawal.progress, (List.getElem?_set_ne apart).trans there, id⟩

/-- A run from before, in the list to which one was added. -/
theorem getElem?_concat_eq_some {α : Type} {l : List α} {a b : α} {i : Nat} (found : (l ++ [a])[i]? = some b) :
    l[i]? = some b ∨ b = a := by
  rcases Nat.lt_or_ge i l.length with inside | outside
  · exact Or.inl ((List.getElem?_append_left inside).symm.trans found)
  · rw [List.getElem?_append_right outside] at found
    exact Or.inr (List.mem_singleton.mp (List.mem_of_getElem? found))

variable {property : Nat → Withdrawal → Prop}

/-- An event adds at most a run that waits for its account. -/
theorem event_forall {e : PageEvent} (each : ∀ (i : Nat) withdrawal, page.withdrawals[i]? = some withdrawal →
    property i withdrawal) (added : ∀ i target publicKey, property i ⟨target, publicKey, .waiting .account⟩) :
    ∀ (i : Nat) withdrawal, (page.event e).withdrawals[i]? = some withdrawal → property i withdrawal := by
  intro i withdrawal there
  rcases page.event_withdrawals e with same | ⟨target, publicKey, longer⟩
  · exact each i withdrawal (same ▸ there)
  · rw [longer] at there
    rcases getElem?_concat_eq_some there with before | rfl
    · exact each i withdrawal before
    · exact added i target publicKey

/-- An answer changes at most the run that hears it. -/
theorem answered_forall (each : ∀ (j : Nat) withdrawal, page.withdrawals[j]? = some withdrawal → property j withdrawal)
    (hears : ∀ withdrawal progress, page.heard i answer = some (withdrawal, progress) →
      property i { withdrawal with progress := progress }) :
    ∀ (j : Nat) withdrawal, (page.answered i answer).withdrawals[j]? = some withdrawal → property j withdrawal := by
  intro j withdrawal there
  cases heard : page.heard i answer with
  | none =>
    rw [answered, heard] at there
    exact each j withdrawal there
  | some both =>
    obtain ⟨own, progress⟩ := both
    rw [answered_withdrawals heard] at there
    by_cases apart : i = j
    · subst apart
      obtain ⟨stage, waits, _⟩ := heard_eq_some.mp heard
      have inside := (List.getElem?_eq_some_iff.mp (waiting_eq_some.mp waits).1).1
      rw [List.getElem?_set_self inside] at there
      cases there
      exact hears own progress heard
    · exact each j withdrawal ((List.getElem?_set_ne apart).symm.trans there)

/-- Only a run that waits for its signature hears the wallet. -/
theorem heard_wallet {asked : WalletAnswer} {withdrawal : Withdrawal} {progress : Progress}
    (heard : page.heard i (.wallet asked) = some (withdrawal, progress)) :
    ∃ xdr, page.waiting i = some (withdrawal, .sign xdr) ∧
      ((∃ signedTxXdr, asked.signed = .ok signedTxXdr ∧ progress = .waiting (.submit signedTxXdr)) ∨
        ∃ thrown, progress = .ended (.error thrown)) := by
  obtain ⟨stage, waits, next⟩ := heard_eq_some.mp heard
  cases stage with
  | sign xdr => exact ⟨xdr, waits, Progress.after_eq (Option.some.inj next)⟩
  | _ => cases next

end DashboardPage

end Runs

section Listing

/-- The issue whose withdrawal a step reports as done. -/
def DashboardPage.withdrawn (page : DashboardPage) : PageMove → Option WithdrawTarget
  | .event _ => none
  | .answer i answer =>
    match page.heard i answer with
    | some (withdrawal, .ended (.success _)) => some withdrawal.target
    | _ => none

/-- The row is the application for that issue of that organisation. -/
def PendingApplication.isFor (app : PendingApplication) (target : WithdrawTarget) : Prop :=
  app.org_id = target.orgId ∧ Number.finite app.issue_id = Number.ofText target.issueId

instance (app : PendingApplication) (target : WithdrawTarget) : Decidable (app.isFor target) :=
  inferInstanceAs (Decidable (_ ∧ _))

/-- Of the organisation's rows only the clicked one is the application that its target names. -/
theorem PendingApplication.isFor_clicked {app other : PendingApplication} {number : Nat} (small : number < 2 ^ 53)
    (issue : app.issue_id = number) :
    other.isFor ⟨wholeText app.issue_id, app.title, app.org_id⟩ ↔
      other.org_id = app.org_id ∧ other.issue_id = app.issue_id := by
  have read : Number.ofText (wholeText app.issue_id) = .finite app.issue_id := by
    rw [issue, ofText_wholeText small, Int.cast_natCast]
  rw [isFor, read, Number.finite.injEq, Int.cast_inj]

/-- The page, with the rows that were loaded last without the applications withdrawn since. -/
structure DashboardList where
  page : DashboardPage
  remaining : List PendingApplication

def DashboardList.step (list : DashboardList) (move : PageMove) : DashboardList where
  page := list.page.step move
  remaining :=
    match move with
    | .event (.loaded applications) => applications
    | _ =>
      match list.page.withdrawn move with
      | some target => list.remaining.filter fun app => ¬ app.isFor target
      | none => list.remaining

/-- The list shows what was loaded, without what was withdrawn. -/
def DashboardList.Exact (list : DashboardList) : Prop := list.page.applications = list.remaining

/-- No other organisation's issue of the same number is listed when a withdrawal is reported. -/
def DashboardPage.Unmistaken (page : DashboardPage) (move : PageMove) : Prop :=
  ∀ target, page.withdrawn move = some target →
    ∀ app ∈ page.applications, Number.finite app.issue_id = Number.ofText target.issueId → app.org_id = target.orgId

variable {page : DashboardPage}

/-- What a step does to the rows. -/
theorem applications_step (page : DashboardPage) (move : PageMove) :
    (page.step move).applications =
      match move with
      | .event (.loaded applications) => applications
      | _ =>
        match page.withdrawn move with
        | some target => page.applications.filter fun app => Number.finite app.issue_id ≠ Number.ofText target.issueId
        | none => page.applications := by
  cases move with
  | event e =>
    cases e with
    | connect publicKey => rfl
    | loaded applications => rfl
    | withdraw app =>
      dsimp only [DashboardPage.step, DashboardPage.event, DashboardPage.withdrawn]
      split <;> rfl
    | confirm =>
      dsimp only [DashboardPage.step, DashboardPage.event, DashboardPage.withdrawn, DashboardPage.handleConfirm]
      split
      · rfl
      · split <;> rfl
    | cancel =>
      dsimp only [DashboardPage.step, DashboardPage.event, DashboardPage.withdrawn, DashboardPage.handleCancel]
      split <;> rfl
  | answer i answer =>
    dsimp only [DashboardPage.step, DashboardPage.answered, DashboardPage.withdrawn]
    cases heard : page.heard i answer with
    | none => rfl
    | some both =>
      obtain ⟨withdrawal, progress⟩ := both
      cases progress with
      | waiting stage => rfl
      | ended report =>
        cases report with
        | error message => rfl
        | success issueId =>
          obtain ⟨stage, _, ended⟩ := DashboardPage.heard_eq_some.mp heard
          obtain ⟨rfl, _⟩ := WithdrawStage.next_success ended
          rfl

theorem filter_eq_iff {α : Type} {p q : α → Bool} {l : List α} (weaker : ∀ a, p a = true → q a = true) :
    l.filter p = l.filter q ↔ ∀ a ∈ l, q a = true → p a = true := by
  constructor
  · intro same a member kept
    have there : a ∈ l.filter q := List.mem_filter.mpr ⟨member, kept⟩
    rw [← same] at there
    exact (List.mem_filter.mp there).2
  · intro stronger
    refine List.filter_congr fun a member => ?_
    rw [Bool.eq_iff_iff]
    exact ⟨weaker a, stronger a member⟩

theorem list_step_iff (list : DashboardList) (move : PageMove) (shown : list.Exact) :
    (list.step move).Exact ↔ list.page.Unmistaken move := by
  change (list.page.step move).applications = _ ↔ _
  rw [applications_step]
  cases move with
  | event e =>
    have unmistaken : list.page.Unmistaken (.event e) := fun _ reported => absurd reported (Option.some_ne_none _).symm
    refine iff_of_true ?_ unmistaken
    cases e with
    | loaded applications => rfl
    | _ => exact shown
  | answer i answer =>
    dsimp only [DashboardList.step]
    cases reported : list.page.withdrawn (.answer i answer) with
    | none =>
      have unmistaken : list.page.Unmistaken (.answer i answer) := by
        intro target other
        cases reported.symm.trans other
      exact iff_of_true shown unmistaken
    | some target =>
      have weaker : ∀ app : PendingApplication, decide (Number.finite app.issue_id ≠ Number.ofText target.issueId) = true →
          decide (¬ app.isFor target) = true :=
        fun app kept => decide_eq_true fun own => of_decide_eq_true kept own.2
      dsimp only
      rw [← show list.page.applications = list.remaining from shown, filter_eq_iff weaker]
      constructor
      · intro stronger other same app member number
        cases reported.symm.trans same
        by_contra different
        have kept := stronger app member (decide_eq_true fun own => different own.1)
        exact of_decide_eq_true kept number
      · intro unmistaken app member kept
        refine decide_eq_true fun number => of_decide_eq_true kept ⟨?_, number⟩
        exact unmistaken target reported app member number

/-- The list shows the loaded applications without the withdrawn ones exactly as long as no withdrawal is reported
while another organisation's issue of that number is listed. -/
theorem list_drops_withdrawn_iff (moves : List PageMove) :
    Run.Always DashboardList.step ⟨.start, []⟩ DashboardList.Exact moves ↔
      Run.EachStep DashboardList.step ⟨.start, []⟩ (fun list move => list.page.Unmistaken move) moves := by
  have exact_step : ∀ (list : DashboardList) (move : PageMove), True → list.Exact →
      ((list.step move).Exact ↔ list.page.Unmistaken move) :=
    fun list move _ shown => list_step_iff list move shown
  have empty : DashboardList.Exact ⟨.start, []⟩ := rfl
  exact Run.always_iff_eachStep trivial (fun _ _ _ => trivial) empty exact_step moves

end Listing

end WorkloadGovernor
