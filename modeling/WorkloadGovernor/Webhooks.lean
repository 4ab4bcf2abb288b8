import Mathlib.Data.List.Basic
import WorkloadGovernor.GitHubIssues
import WorkloadGovernor.Lib.Run

namespace WorkloadGovernor

structure WebhookIssue where
  number : Nat
  title : String
  state : IssueState
  deriving DecidableEq, Repr

/-- The body of a correctly signed delivery, with the names of its label and repository. -/
structure GitHubWebhookBody where
  action : Option String
  issue : Option WebhookIssue
  label : Option String
  repository : Option String
  deriving DecidableEq, Repr

/-- A row of `issues`. -/
structure IssueRecord where
  id : Nat
  org_id : String
  title : String
  status : IssueState
  deriving DecidableEq, Repr

structure AssignmentRecord where
  contributor : String
  org_id : String
  issue_id : Nat
  status : String
  deriving DecidableEq, Repr

structure LabelRecord where
  org_id : String
  issue_number : Nat
  label : String
  deriving DecidableEq, Repr

/-- The tables the handler writes, and the next value of the serial `issues.id`. -/
structure WebhookDb where
  issues : List IssueRecord
  nextId : Nat
  assignments : List AssignmentRecord
  labelRecords : List LabelRecord
  deriving DecidableEq, Repr

structure WebhookResponse where
  status : Nat
  message : String
  deriving DecidableEq, Repr

def goodFirstIssue : String := "good first issue"

namespace WebhookDb
variable (db : WebhookDb)

/-- `INSERT INTO issues (org_id, title, status) … ON CONFLICT (org_id, id) DO NOTHING`. A
value of the serial is used up either way. -/
def insertIssue (orgId title : String) (status : IssueState) : WebhookDb :=
  if db.issues.any (fun row => row.org_id = orgId ∧ row.id = db.nextId) then { db with nextId := db.nextId + 1 }
  else { db with issues := db.issues ++ [⟨db.nextId, orgId, title, status⟩], nextId := db.nextId + 1 }

/-- `UPDATE issues SET status, title … WHERE org_id AND id`. -/
def updateIssue (status : IssueState) (title orgId : String) (issueNumber : Nat) : WebhookDb :=
  { db with issues := db.issues.map fun row =>
      if row.org_id = orgId ∧ row.id = issueNumber then { row with status := status, title := title } else row }

def updateAssignments (status orgId : String) (issueNumber : Nat) : WebhookDb :=
  { db with assignments := db.assignments.map fun row =>
      if row.org_id = orgId ∧ row.issue_id = issueNumber then { row with status := status } else row }

/-- `ON CONFLICT (org_id, issue_number, label) DO NOTHING`. -/
def insertLabel (orgId : String) (issueNumber : Nat) (label : String) : WebhookDb :=
  if ⟨orgId, issueNumber, label⟩ ∈ db.labelRecords then db
  else { db with labelRecords := db.labelRecords ++ [⟨orgId, issueNumber, label⟩] }

def deleteLabel (orgId : String) (issueNumber : Nat) (label : String) : WebhookDb :=
  { db with labelRecords := db.labelRecords.filter fun row => row ≠ ⟨orgId, issueNumber, label⟩ }

end WebhookDb

def eventIgnored : WebhookResponse := ⟨200, "event ignored"⟩

def webhookProcessed : WebhookResponse := ⟨200, "webhook processed successfully"⟩

/-- `POST /webhooks/github` after the check of the signature; the queries succeed. -/
def githubWebhook (db : WebhookDb) (body : GitHubWebhookBody) : WebhookDb × WebhookResponse :=
  match body.action, body.issue, body.repository with
  | some action, some issue, some orgId =>
    match action with
    | "" => (db, eventIgnored)
    | "opened" => (db.insertIssue orgId issue.title issue.state, webhookProcessed)
    | "closed" =>
      ((db.updateIssue .closed issue.title orgId issue.number).updateAssignments "pending-review" orgId issue.number,
        webhookProcessed)
    | "edited" => (db.updateIssue issue.state issue.title orgId issue.number, webhookProcessed)
    | "labeled" =>
      if body.label ≠ some goodFirstIssue then (db, eventIgnored)
      else
        ((db.insertIssue orgId issue.title issue.state).insertLabel orgId issue.number goodFirstIssue, webhookProcessed)
    | "unlabeled" =>
      if body.label ≠ some goodFirstIssue then (db, eventIgnored)
      else (db.deleteLabel orgId issue.number goodFirstIssue, webhookProcessed)
    | _ => (db, ⟨200, "event type not supported"⟩)
  | _, _, _ => (db, eventIgnored)

section Meaning

/-- What a delivery is about: it opens an issue (or labels it a good first issue), gives it
a title and a status, takes the label off, or is none of the handler's business. -/
inductive Delivery where
  | opens (orgId : String) (issue : WebhookIssue) (labelled : Bool)
  | rewrites (orgId : String) (issue : WebhookIssue) (closing : Bool)
  | unlabels (orgId : String) (issueNumber : Nat)
  | ignored
  deriving DecidableEq, Repr

def GitHubWebhookBody.delivery (body : GitHubWebhookBody) : Delivery :=
  match body.action, body.issue, body.repository with
  | some "opened", some issue, some orgId => .opens orgId issue false
  | some "closed", some issue, some orgId => .rewrites orgId issue true
  | some "edited", some issue, some orgId => .rewrites orgId issue false
  | some "labeled", some issue, some orgId =>
    if body.label = some goodFirstIssue then .opens orgId issue true else .ignored
  | some "unlabeled", some issue, some orgId =>
    if body.label = some goodFirstIssue then .unlabels orgId issue.number else .ignored
  | _, _, _ => .ignored

/-- What the handler does about it. -/
def Delivery.apply (db : WebhookDb) : Delivery → WebhookDb
  | .opens orgId issue labelled =>
    let inserted := db.insertIssue orgId issue.title issue.state
    if labelled then inserted.insertLabel orgId issue.number goodFirstIssue else inserted
  | .rewrites orgId issue closing =>
    let updated := db.updateIssue (if closing then .closed else issue.state) issue.title orgId issue.number
    if closing then updated.updateAssignments "pending-review" orgId issue.number else updated
  | .unlabels orgId issueNumber => db.deleteLabel orgId issueNumber goodFirstIssue
  | .ignored => db

theorem githubWebhook_eq (db : WebhookDb) (body : GitHubWebhookBody) :
    (githubWebhook db body).1 = body.delivery.apply db := by
  obtain ⟨action, issue, label, repository⟩ := body
  cases action with
  | none => rfl
  | some action =>
    cases issue with
    | none =>
      unfold GitHubWebhookBody.delivery
      split <;> simp_all [githubWebhook, Delivery.apply]
    | some issue =>
      cases repository with
      | none =>
        unfold GitHubWebhookBody.delivery
        split <;> simp_all [githubWebhook, Delivery.apply]
      | some orgId =>
        unfold githubWebhook
        dsimp only
        split
        · rfl
        · rfl
        · rfl
        · rfl
        · by_cases good : label = some goodFirstIssue <;> simp [GitHubWebhookBody.delivery, good, Delivery.apply]
        · by_cases good : label = some goodFirstIssue <;> simp [GitHubWebhookBody.delivery, good, Delivery.apply]
        · unfold GitHubWebhookBody.delivery
          split <;> simp_all [Delivery.apply]

end Meaning

section Convergence

/-- What the deliveries so far say about an issue: whether it has been opened or labelled,
and the title and status it was last given. -/
structure Expectation where
  opened : Bool
  title : String
  status : IssueState
  deriving DecidableEq, Repr

/-- The database beside what is expected of the `issues` table for each repository and number. -/
structure Observed where
  db : WebhookDb
  expected : String → Nat → Expectation

def Delivery.expect (expected : String → Nat → Expectation) : Delivery → String → Nat → Expectation
  | .opens orgId issue _ => fun o n =>
    if o = orgId ∧ n = issue.number then ⟨true, issue.title, issue.state⟩ else expected o n
  | .rewrites orgId issue closing => fun o n =>
    if o = orgId ∧ n = issue.number then
      ⟨(expected o n).opened, issue.title, if closing then .closed else issue.state⟩
    else expected o n
  | .unlabels _ _ | .ignored => expected

def webhookStep (s : Observed) (body : GitHubWebhookBody) : Observed :=
  ⟨(githubWebhook s.db body).1, body.delivery.expect s.expected⟩

/-- The rows of an issue. -/
def WebhookDb.rowsOf (db : WebhookDb) (orgId : String) (issueNumber : Nat) : List IssueRecord :=
  db.issues.filter fun row => row.org_id = orgId ∧ row.id = issueNumber

/-- What the tables say before the first delivery. -/
def WebhookDb.expectation (db : WebhookDb) (orgId : String) (issueNumber : Nat) : Expectation :=
  match db.rowsOf orgId issueNumber with
  | [] => ⟨false, "", .open⟩
  | row :: _ => ⟨true, row.title, row.status⟩

def Observed.init (db : WebhookDb) : Observed := ⟨db, db.expectation⟩

/-- The serial is ahead of every row. -/
def WebhookDb.Fresh (db : WebhookDb) : Prop := ∀ row ∈ db.issues, row.id < db.nextId

/-- What the primary key of `issues` and its serial promise. -/
structure WebhookDb.Keyed (db : WebhookDb) : Prop where
  distinct : (db.issues.map IssueRecord.id).Nodup
  ahead : db.Fresh

/-- Each issue that was opened has exactly one row, as it was last described; no other has any. -/
def WebhookDb.Matches (db : WebhookDb) (expected : String → Nat → Expectation) : Prop :=
  ∀ orgId issueNumber, db.rowsOf orgId issueNumber =
    if (expected orgId issueNumber).opened then
      [⟨issueNumber, orgId, (expected orgId issueNumber).title, (expected orgId issueNumber).status⟩]
    else []

def Converged (s : Observed) : Prop := s.db.Matches s.expected

/-- A delivery that opens an issue is for the one whose number the serial is about to give. -/
def NumberedBySerial (s : Observed) (body : GitHubWebhookBody) : Prop :=
  match body.delivery with
  | .opens _ issue _ => issue.number = s.db.nextId
  | _ => True

/-- The tables, without the serial. -/
def WebhookDb.content (db : WebhookDb) : List IssueRecord × List AssignmentRecord × List LabelRecord :=
  (db.issues, db.assignments, db.labelRecords)

/-- The delivery can be processed twice in a row as well as once. -/
def Repeatable (s : Observed) (body : GitHubWebhookBody) : Prop :=
  (githubWebhook (githubWebhook s.db body).1 body).1.content = (githubWebhook s.db body).1.content

def GitHubWebhookBody.opens (body : GitHubWebhookBody) : Bool :=
  match body.delivery with
  | .opens _ _ _ => true
  | _ => false

section Tables
variable {db : WebhookDb} {orgId : String} {n : Nat}

theorem insertIssue_of_fresh (fresh : db.Fresh) (orgId title : String) (status : IssueState) :
    db.insertIssue orgId title status =
      { db with issues := db.issues ++ [⟨db.nextId, orgId, title, status⟩], nextId := db.nextId + 1 } := by
  refine if_neg ?_
  rw [List.any_eq_true]
  rintro ⟨row, member, same⟩
  have below := fresh row member
  have equal := (of_decide_eq_true same).2
  omega

theorem fresh_insertIssue (fresh : db.Fresh) (orgId title : String) (status : IssueState) :
    (db.insertIssue orgId title status).Fresh := by
  rw [insertIssue_of_fresh fresh]
  intro row member
  rcases List.mem_append.mp member with old | new
  · exact (fresh row old).trans (Nat.lt_succ_self _)
  · rw [List.mem_singleton.mp new]
    exact Nat.lt_succ_self _

theorem fresh_updateIssue (fresh : db.Fresh) (status : IssueState) (title orgId : String) (issueNumber : Nat) :
    (db.updateIssue status title orgId issueNumber).Fresh := by
  intro row member
  obtain ⟨old, there, rfl⟩ := List.mem_map.mp member
  have below := fresh old there
  split
  · exact below
  · exact below

@[simp] theorem issues_insertLabel (label : String) : (db.insertLabel orgId n label).issues = db.issues := by
  unfold WebhookDb.insertLabel
  split <;> rfl

@[simp] theorem nextId_insertLabel (label : String) : (db.insertLabel orgId n label).nextId = db.nextId := by
  unfold WebhookDb.insertLabel
  split <;> rfl

theorem fresh_apply (fresh : db.Fresh) (delivery : Delivery) : (delivery.apply db).Fresh := by
  cases delivery with
  | opens orgId issue labelled =>
    have inserted := fresh_insertIssue fresh orgId issue.title issue.state
    cases labelled with
    | false => exact inserted
    | true =>
      intro row member
      simp only [Delivery.apply, if_true, issues_insertLabel, nextId_insertLabel] at member ⊢
      exact inserted row member
  | rewrites orgId issue closing =>
    cases closing with
    | false => exact fresh_updateIssue fresh _ _ _ _
    | true => exact fresh_updateIssue fresh _ _ _ _
  | unlabels orgId issueNumber => exact fresh
  | ignored => exact fresh

theorem mem_rowsOf {row : IssueRecord} :
    row ∈ db.rowsOf orgId n ↔ row ∈ db.issues ∧ row.org_id = orgId ∧ row.id = n := by
  simp only [WebhookDb.rowsOf, List.mem_filter, decide_eq_true_eq]

/-- A table with distinct keys is as it says itself. -/
theorem WebhookDb.Keyed.matches_expectation (keyed : db.Keyed) : db.Matches db.expectation := by
  intro orgId n
  cases rows : db.rowsOf orgId n with
  | nil => simp only [WebhookDb.expectation, rows, Bool.false_eq_true, if_false]
  | cons row others =>
    have found : row.org_id = orgId ∧ row.id = n := by
      have member : row ∈ db.rowsOf orgId n := rows ▸ List.mem_cons_self
      exact (mem_rowsOf.mp member).2
    have alone : others = [] := by
      refine List.eq_nil_iff_forall_not_mem.mpr fun other member => ?_
      have there : other ∈ db.rowsOf orgId n := rows ▸ List.mem_cons_of_mem row member
      have ids : ((db.rowsOf orgId n).map IssueRecord.id).Nodup :=
        (List.filter_sublist.map IssueRecord.id).nodup keyed.distinct
      rw [rows, List.map_cons, List.nodup_cons] at ids
      refine ids.1 (List.mem_map.mpr ⟨other, member, ?_⟩)
      exact (mem_rowsOf.mp there).2.2.trans found.2.symm
    obtain ⟨rfl, rfl⟩ := found
    simp only [WebhookDb.expectation, rows, alone, if_true]

theorem rowsOf_nextId (fresh : db.Fresh) (orgId : String) : db.rowsOf orgId db.nextId = [] := by
  refine List.filter_eq_nil_iff.mpr fun row member same => ?_
  have below := fresh row member
  have equal := (of_decide_eq_true same).2
  omega

theorem rowsOf_insertIssue (fresh : db.Fresh) (owner title : String) (status : IssueState) :
    (db.insertIssue owner title status).rowsOf orgId n =
      db.rowsOf orgId n ++ if owner = orgId ∧ db.nextId = n then [⟨db.nextId, owner, title, status⟩] else [] := by
  rw [insertIssue_of_fresh fresh, WebhookDb.rowsOf, List.filter_append]
  refine congrArg _ ?_
  by_cases hit : owner = orgId ∧ db.nextId = n
  · rw [if_pos hit]
    exact List.filter_cons_of_pos (decide_eq_true hit)
  · rw [if_neg hit]
    exact List.filter_cons_of_neg (by simpa using hit)

theorem rowsOf_updateIssue (status : IssueState) (title owner : String) (issueNumber : Nat) :
    (db.updateIssue status title owner issueNumber).rowsOf orgId n =
      if orgId = owner ∧ n = issueNumber then
        (db.rowsOf orgId n).map fun row => { row with status := status, title := title }
      else db.rowsOf orgId n := by
  have kept : ∀ row : IssueRecord, decide ((if row.org_id = owner ∧ row.id = issueNumber then
      { row with status := status, title := title } else row).org_id = orgId ∧
        (if row.org_id = owner ∧ row.id = issueNumber then
          { row with status := status, title := title } else row).id = n) =
      decide (row.org_id = orgId ∧ row.id = n) := by
    intro row
    split <;> rfl
  rw [WebhookDb.rowsOf, WebhookDb.updateIssue, List.filter_map]
  simp only [Function.comp_def, kept]
  split
  · rename_i hit
    refine List.map_congr_left fun row member => if_pos ?_
    have same := of_decide_eq_true (List.mem_filter.mp member).2
    exact ⟨same.1.trans hit.1, same.2.trans hit.2⟩
  · rename_i miss
    refine (List.map_congr_left fun row member => if_neg fun hit => miss ?_).trans (List.map_id _)
    have same := of_decide_eq_true (List.mem_filter.mp member).2
    exact ⟨same.1.symm.trans hit.1, same.2.symm.trans hit.2⟩

end Tables

section Step
variable {db : WebhookDb} {expected : String → Nat → Expectation} {s : Observed}

theorem matches_opens_iff (fresh : db.Fresh) (good : db.Matches expected) (orgId : String) (issue : WebhookIssue)
    (labelled : Bool) :
    ((Delivery.opens orgId issue labelled).apply db).Matches ((Delivery.opens orgId issue labelled).expect expected) ↔
      issue.number = db.nextId := by
  have rows : ∀ o n, ((Delivery.opens orgId issue labelled).apply db).rowsOf o n = db.rowsOf o n ++
      if orgId = o ∧ db.nextId = n then [⟨db.nextId, orgId, issue.title, issue.state⟩] else [] := by
    intro o n
    rw [← rowsOf_insertIssue fresh]
    cases labelled with
    | false => rfl
    | true => simp only [WebhookDb.rowsOf, Delivery.apply, if_true, issues_insertLabel]
  constructor
  · intro converged
    -- the row just made is one of the issue with the number of the serial
    by_contra differs
    have made := converged orgId db.nextId
    have before := good orgId db.nextId
    rw [rowsOf_nextId fresh] at before
    have unopened : Delivery.expect expected (.opens orgId issue labelled) orgId db.nextId =
        expected orgId db.nextId := if_neg fun hit => differs hit.2.symm
    rw [rows, rowsOf_nextId fresh, if_pos ⟨rfl, rfl⟩, unopened, ← before] at made
    cases made
  · intro numbered o n
    rw [rows]
    by_cases hit : o = orgId ∧ n = issue.number
    · obtain ⟨rfl, rfl⟩ := hit
      have given : Delivery.expect expected (.opens o issue labelled) o issue.number =
          ⟨true, issue.title, issue.state⟩ := if_pos ⟨rfl, rfl⟩
      rw [given, if_pos rfl, numbered, rowsOf_nextId fresh, if_pos ⟨rfl, rfl⟩]
      rfl
    · have elsewhere : Delivery.expect expected (.opens orgId issue labelled) o n = expected o n := if_neg hit
      rw [elsewhere, if_neg fun same => hit ⟨same.1.symm, same.2.symm.trans numbered.symm⟩, List.append_nil]
      exact good o n

theorem matches_rewrites (good : db.Matches expected) (orgId : String) (issue : WebhookIssue) (closing : Bool) :
    ((Delivery.rewrites orgId issue closing).apply db).Matches
      ((Delivery.rewrites orgId issue closing).expect expected) := by
  intro o n
  have rows : ((Delivery.rewrites orgId issue closing).apply db).rowsOf o n =
      (db.updateIssue (if closing then .closed else issue.state) issue.title orgId issue.number).rowsOf o n := by
    cases closing <;> rfl
  rw [rows, rowsOf_updateIssue, good o n]
  by_cases hit : o = orgId ∧ n = issue.number
  · have given : Delivery.expect expected (.rewrites orgId issue closing) o n =
        ⟨(expected o n).opened, issue.title, if closing then .closed else issue.state⟩ := if_pos hit
    rw [if_pos hit, given]
    cases (expected o n).opened <;> rfl
  · have elsewhere : Delivery.expect expected (.rewrites orgId issue closing) o n = expected o n := if_neg hit
    rw [if_neg hit, elsewhere]

/-- An update that is made again finds everything as it is to be. -/
theorem map_update_twice {α : Type} (hits : α → Prop) [DecidablePred hits] (update : α → α)
    (settled : ∀ row, hits row → hits (update row) ∧ update (update row) = update row) (rows : List α) :
    ((rows.map fun row => if hits row then update row else row).map fun row => if hits row then update row else row) =
      rows.map fun row => if hits row then update row else row := by
  rw [List.map_map]
  refine List.map_congr_left fun row _ => ?_
  rw [Function.comp_apply]
  by_cases hit : hits row
  · obtain ⟨again, same⟩ := settled row hit
    rw [if_pos hit, if_pos again, same]
  · rw [if_neg hit, if_neg hit]

theorem updateIssue_twice (status : IssueState) (title orgId : String) (n : Nat) :
    (db.updateIssue status title orgId n).updateIssue status title orgId n = db.updateIssue status title orgId n := by
  have twice := map_update_twice (fun row : IssueRecord => row.org_id = orgId ∧ row.id = n)
    (fun row => { row with status := status, title := title }) (fun row hit => ⟨hit, rfl⟩) db.issues
  exact congrArg (fun issues => { db with issues := issues }) twice

theorem updateAssignments_twice (status orgId : String) (n : Nat) :
    (db.updateAssignments status orgId n).updateAssignments status orgId n = db.updateAssignments status orgId n := by
  have twice := map_update_twice (fun row : AssignmentRecord => row.org_id = orgId ∧ row.issue_id = n)
    (fun row => { row with status := status }) (fun row hit => ⟨hit, rfl⟩) db.assignments
  exact congrArg (fun assignments => { db with assignments := assignments }) twice

theorem rewrites_twice (orgId : String) (issue : WebhookIssue) (closing : Bool) :
    (Delivery.rewrites orgId issue closing).apply ((Delivery.rewrites orgId issue closing).apply db) =
      (Delivery.rewrites orgId issue closing).apply db := by
  cases closing with
  | false => exact updateIssue_twice _ _ _ _
  | true =>
    -- the two updates are of different tables
    change ((db.updateIssue .closed issue.title orgId issue.number).updateIssue .closed issue.title orgId
      issue.number |>.updateAssignments "pending-review" orgId issue.number).updateAssignments "pending-review" orgId
      issue.number = _
    rw [updateIssue_twice, updateAssignments_twice]
    rfl

/-- From a table that is right a delivery leads to one exactly if it is numbered by the serial. -/
theorem converged_step_iff (fresh : s.db.Fresh) (good : Converged s) (body : GitHubWebhookBody) :
    Converged (webhookStep s body) ↔ NumberedBySerial s body := by
  rw [Converged, webhookStep, githubWebhook_eq, NumberedBySerial]
  cases body.delivery with
  | opens orgId issue labelled => exact matches_opens_iff fresh good orgId issue labelled
  | rewrites orgId issue closing => exact iff_of_true (matches_rewrites good orgId issue closing) trivial
  | unlabels orgId issueNumber => exact iff_of_true good trivial
  | ignored => exact iff_of_true good trivial

/-- A delivery can be repeated exactly if it opens no issue. -/
theorem repeatable_iff (fresh : s.db.Fresh) (body : GitHubWebhookBody) :
    Repeatable s body ↔ body.opens = false := by
  rw [Repeatable, githubWebhook_eq, githubWebhook_eq, GitHubWebhookBody.opens]
  cases body.delivery with
  | opens orgId issue labelled =>
    refine iff_of_false (fun same => ?_) (fun same => Bool.noConfusion same)
    -- the second insertion makes another row
    have grows : ∀ db : WebhookDb, db.Fresh →
        ((Delivery.opens orgId issue labelled).apply db).issues.length = db.issues.length + 1 := by
      intro db ahead
      have inserted : (db.insertIssue orgId issue.title issue.state).issues.length = db.issues.length + 1 := by
        rw [insertIssue_of_fresh ahead]
        exact List.length_append
      cases labelled with
      | false => exact inserted
      | true => rw [← inserted]; simp only [Delivery.apply, if_true, issues_insertLabel]
    have lengths := congrArg (fun content => content.1.length) same
    simp only [WebhookDb.content] at lengths
    rw [grows _ (fresh_apply fresh _)] at lengths
    omega
  | rewrites orgId issue closing =>
    refine iff_of_true ?_ rfl
    rw [rewrites_twice]
  | unlabels orgId issueNumber =>
    refine iff_of_true ?_ rfl
    simp only [Delivery.apply, WebhookDb.deleteLabel, List.filter_filter, Bool.and_self]
  | ignored => exact iff_of_true rfl rfl

end Step

section Run
variable {db : WebhookDb} {bodies : List GitHubWebhookBody}

def Observed.Fresh (s : Observed) : Prop := s.db.Fresh

theorem fresh_webhookStep (s : Observed) (body : GitHubWebhookBody) (fresh : s.Fresh) : (webhookStep s body).Fresh := by
  rw [Observed.Fresh, webhookStep, githubWebhook_eq]
  exact fresh_apply fresh _

theorem fresh_exec (fresh : db.Fresh) (bodies : List GitHubWebhookBody) :
    (Run.exec webhookStep (.init db) bodies).Fresh := by
  have start : (Observed.init db).Fresh := fresh
  exact Run.exec_invariant start fresh_webhookStep bodies

theorem nextId_step (s : Observed) (body : GitHubWebhookBody) :
    (webhookStep s body).db.nextId = s.db.nextId + if body.opens then 1 else 0 := by
  rw [webhookStep, githubWebhook_eq, GitHubWebhookBody.opens]
  have inserted : ∀ orgId title status, (s.db.insertIssue orgId title status).nextId = s.db.nextId + 1 := by
    intro orgId title status
    unfold WebhookDb.insertIssue
    split <;> rfl
  cases body.delivery with
  | opens orgId issue labelled =>
    cases labelled with
    | false => exact inserted _ _ _
    | true => exact (nextId_insertLabel _).trans (inserted _ _ _)
  | rewrites orgId issue closing => cases closing <;> rfl
  | unlabels orgId issueNumber => rfl
  | ignored => rfl

/-- The serial counts the deliveries that open an issue. -/
theorem nextId_exec (db : WebhookDb) (bodies : List GitHubWebhookBody) :
    (Run.exec webhookStep (.init db) bodies).db.nextId = db.nextId + bodies.countP GitHubWebhookBody.opens := by
  induction bodies using List.reverseRecOn with
  | nil => rfl
  | append_singleton before body ih =>
    rw [Run.exec_concat, nextId_step, ih, List.countP_append, List.countP_singleton, Nat.add_assoc]

/-- The deliveries that open issues are for the next numbers of the serial, one after the other. -/
def NumberedInOrder (first : Nat) (bodies : List GitHubWebhookBody) : Prop :=
  ∀ before body, before ++ [body] <+: bodies → ∀ orgId issue labelled, body.delivery = .opens orgId issue labelled →
    issue.number = first + before.countP GitHubWebhookBody.opens

theorem numberedInOrder_iff :
    NumberedInOrder db.nextId bodies ↔ Run.EachStep webhookStep (.init db) NumberedBySerial bodies := by
  refine forall_congr' fun before => forall_congr' fun body => imp_congr_right fun _ => ?_
  rw [NumberedBySerial, nextId_exec]
  cases body.delivery with
  | opens orgId issue labelled =>
    constructor
    · exact fun numbered => numbered _ _ _ rfl
    · intro numbered o i l same
      cases same
      exact numbered
  | rewrites orgId issue closing => exact iff_of_true nofun trivial
  | unlabels orgId issueNumber => exact iff_of_true nofun trivial
  | ignored => exact iff_of_true nofun trivial

/-- After every delivery the table is right exactly if the deliveries that open issues are
for the numbers of the serial; and each delivery can be repeated exactly if none opens one. -/
theorem webhook_deliveries_converge_iff {db : WebhookDb} (keyed : db.Keyed) (bodies : List GitHubWebhookBody) :
    (Run.Always webhookStep (.init db) Converged bodies ↔ NumberedInOrder db.nextId bodies) ∧
      (Run.EachStep webhookStep (.init db) Repeatable bodies ↔ ∀ body ∈ bodies, body.opens = false) := by
  constructor
  · rw [numberedInOrder_iff]
    have fresh : (Observed.init db).Fresh := keyed.ahead
    have good : Converged (.init db) := keyed.matches_expectation
    refine Run.always_iff_eachStep fresh fresh_webhookStep good ?_ bodies
    exact fun s body ahead right => converged_step_iff ahead right body
  · constructor
    · intro each body member
      obtain ⟨before, after, rfl⟩ := List.append_of_mem member
      refine (repeatable_iff (fresh_exec keyed.ahead before) body).mp (each before body ⟨after, ?_⟩)
      rw [List.append_assoc, List.singleton_append]
    · intro none_opens before body earlier
      refine (repeatable_iff (fresh_exec keyed.ahead before) body).mpr (none_opens body (earlier.subset ?_))
      exact List.mem_append_right _ (List.mem_singleton_self _)

/-- Issue 7 is in the table, with the serial at 8: the deliveries for 8 and 7 are handled, and can be repeated
only where they open nothing. -/
theorem next_issue_converges :
    let db : WebhookDb := ⟨[⟨7, "repo", "Fix the docs", .open⟩], 8, [], []⟩
    let opened : GitHubWebhookBody := ⟨some "opened", some ⟨8, "Add tests", .open⟩, none, some "repo"⟩
    let closed : GitHubWebhookBody := ⟨some "closed", some ⟨7, "Fix the docs", .closed⟩, none, some "repo"⟩
    Run.Always webhookStep (.init db) Converged [closed, opened] ∧
      ¬ Run.EachStep webhookStep (.init db) Repeatable [closed, opened] := by
  intro db opened closed
  have keyed : db.Keyed := by
    refine ⟨by decide, fun row member => ?_⟩
    rw [List.mem_singleton.mp member]
    decide
  have holds := webhook_deliveries_converge_iff keyed [closed, opened]
  refine ⟨holds.1.mpr ?_, fun each => ?_⟩
  · intro before body earlier orgId issue labelled same
    obtain ⟨after, whole⟩ := earlier
    rw [List.append_assoc] at whole
    rcases before with _ | ⟨first, _ | ⟨second, rest⟩⟩
    · cases whole
      cases same
    · cases whole
      cases same
      decide
    · have lengths := congrArg List.length whole
      simp at lengths
  · have none_opens := holds.2.mp each opened (by decide)
    revert none_opens
    decide

/-- The first delivery is for issue 42: its row gets the number 1, a repetition adds another,
and closing the issue does not find it. -/
theorem opened_issue_not_found :
    let db : WebhookDb := ⟨[], 1, [], []⟩
    let opened : GitHubWebhookBody := ⟨some "opened", some ⟨42, "Fix the docs", .open⟩, none, some "repo"⟩
    let closed : GitHubWebhookBody := ⟨some "closed", some ⟨42, "Fix the docs", .closed⟩, none, some "repo"⟩
    (Run.exec webhookStep (.init db) [opened, opened, closed]).db.issues =
        [⟨1, "repo", "Fix the docs", .open⟩, ⟨2, "repo", "Fix the docs", .open⟩] ∧
      ¬ Converged (Run.exec webhookStep (.init db) [opened, closed]) ∧ ¬ Repeatable (.init db) opened := by
  intro db opened closed
  have fresh : db.Fresh := fun row member => absurd member List.not_mem_nil
  refine ⟨by decide, fun converged => ?_, mt (repeatable_iff fresh _).mp (by decide)⟩
  have found := converged "repo" 42
  revert found
  decide

end Run

end Convergence

end WorkloadGovernor
