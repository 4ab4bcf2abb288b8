import WorkloadGovernor.GitHubIssues
import WorkloadGovernor.Lib.KeyedTable

namespace WorkloadGovernor

namespace RepositorySync

section Source

/-- A row of `github_issues` with the time it was last synced. -/
structure SyncedRow extends IssueRow where
  synced_at : Nat
  deriving DecidableEq, Repr

/-- What an insertion for `(owner, repo)` makes. -/
def insertedRow (owner repo : String) (now : Nat) (issue : GitHubIssue) : SyncedRow where
  id := issue.id
  owner := owner
  repo := repo
  number := issue.number
  title := issue.title
  html_url := issue.html_url
  state := .open
  labels := issue.labels
  author := issue.user
  created_at := issue.created_at
  updated_at := issue.updated_at
  synced_at := now

/-- `DO UPDATE SET …`; `EXCLUDED` is the row that was to be inserted. -/
def updatedRow (now : Nat) (issue : GitHubIssue) (row : SyncedRow) : SyncedRow :=
  { row with
    title := issue.title
    html_url := issue.html_url
    state := .open
    labels := issue.labels
    author := issue.user
    updated_at := issue.updated_at
    synced_at := now }

/-- `INSERT … ON CONFLICT (id) DO UPDATE`. -/
def upsert (owner repo : String) (now : Nat) : Upserts (fun row : SyncedRow => row.id) GitHubIssue where
  name := GitHubIssue.id
  fresh := insertedRow owner repo now
  refresh := updatedRow now
  key_fresh := fun _ => rfl
  key_refresh := fun _ _ => rfl

/-- The table; `id` is its primary key. -/
structure IssueTable where
  rows : List SyncedRow
  unique : (rows.map fun row => row.id).Nodup

/-- `owner = $1 AND repo = $2 AND state = 'open' AND ($3::BIGINT[] IS NULL OR id <> ALL($3))`. -/
def closeCondition (owner repo : String) (openIds : Option (List Int)) (row : SyncedRow) : Bool :=
  row.owner = owner ∧ row.repo = repo ∧ row.state = .open ∧ (openIds.all fun ids => row.id ∉ ids)

def closedRow (now : Nat) (row : SyncedRow) : SyncedRow := { row with state := .closed, synced_at := now }

/-- `openIds.length > 0 ? openIds : null`. -/
def openIdsParam (issues : List GitHubIssue) : Option (List Int) :=
  if issues.map GitHubIssue.id = [] then none else some (issues.map GitHubIssue.id)

/-- The statements of the transaction, in their order. -/
inductive Statement where
  | begin
  | upsert (index : Nat)
  | close
  | commit
  | rollback
  deriving DecidableEq, Repr

structure SyncCounts where
  upserted : Nat
  closed : Nat
  deriving DecidableEq, Repr

/-- The table as others see it, as the transaction has it, and the `rowCount` of the closing statement. -/
structure Session where
  stored : IssueTable
  working : IssueTable
  rowCount : Nat

def IssueTable.upsert (owner repo : String) (now : Nat) (table : IssueTable) (issue : GitHubIssue) : IssueTable where
  rows := (RepositorySync.upsert owner repo now).one table.rows issue
  unique := Upserts.nodup_one table.unique issue

def closeRows (owner repo : String) (now : Nat) (openIds : Option (List Int)) (rows : List SyncedRow) : List SyncedRow :=
  rows.map fun row => if closeCondition owner repo openIds row then closedRow now row else row

theorem ids_closeRows (owner repo : String) (now : Nat) (openIds : Option (List Int)) (rows : List SyncedRow) :
    (closeRows owner repo now openIds rows).map (fun row => row.id) = rows.map fun row => row.id := by
  rw [closeRows, List.map_map]
  refine List.map_congr_left fun row _ => ?_
  rw [Function.comp_apply]
  split <;> rfl

def IssueTable.close (owner repo : String) (now : Nat) (openIds : Option (List Int)) (table : IssueTable) :
    IssueTable where
  rows := closeRows owner repo now openIds table.rows
  unique := by
    rw [ids_closeRows]
    exact table.unique

/-- The session after some statements, and what was thrown if one failed. -/
abbrev Outcome : Type := Session × Option String

def Outcome.followedBy (outcome : Outcome) (next : Session → Outcome) : Outcome :=
  match outcome.2 with
  | none => next outcome.1
  | some _ => outcome

section Sync
variable (fails : Statement → Option String) (owner repo : String) (now : Nat)

/-- A statement takes effect unless it fails. -/
def execute (statement : Statement) (effect : Session → Session) (session : Session) : Outcome :=
  match fails statement with
  | some err => (session, some err)
  | none => (effect session, none)

/-- The loop over the issues, from the `i`-th on. -/
def upsertFrom : Nat → List GitHubIssue → Session → Outcome
  | _, [], session => (session, none)
  | i, issue :: rest, session =>
    (execute fails (.upsert i) (fun session => { session with working := session.working.upsert owner repo now issue })
      session).followedBy (upsertFrom (i + 1) rest)

/-- What is tried. -/
def transaction (issues : List GitHubIssue) (session : Session) : Outcome :=
  (execute fails .begin (fun session => { session with working := session.stored }) session).followedBy fun session =>
  (upsertFrom fails owner repo now 0 issues session).followedBy fun session =>
  (execute fails .close (fun session => { session with
    working := session.working.close owner repo now (openIdsParam issues)
    rowCount := session.working.rows.countP (closeCondition owner repo (openIdsParam issues)) }) session).followedBy
  (execute fails .commit fun session => { session with stored := session.working })

/-- What others see of the table afterwards, and the counts or what is thrown. After a failure there is a `ROLLBACK`;
if that fails too its own error is thrown. -/
def syncIssuesToDb (table : IssueTable) (issues : List GitHubIssue) : IssueTable × Except String SyncCounts :=
  match transaction fails owner repo now issues ⟨table, table, 0⟩ with
  | (session, none) => (session.stored, .ok ⟨issues.length, session.rowCount⟩)
  | (session, some err) => (session.stored, .error ((fails .rollback).getD err))

end Sync

end Source

section Proofs
variable {owner repo : String} {now : Nat} {table : IssueTable} {issues : List GitHubIssue} {row : SyncedRow}

/-- An open row of a repository. -/
def OpenIn (owner repo : String) (row : SyncedRow) : Prop := row.owner = owner ∧ row.repo = repo ∧ row.state = .open

instance : DecidablePred (OpenIn owner repo) := fun _ => inferInstanceAs (Decidable (_ ∧ _ ∧ _))

/-- The open set of `(owner, repo)` is replaced by the issues, and by nothing else. -/
structure Replaced (owner repo : String) (now : Nat) (before : IssueTable) (issues : List GitHubIssue)
    (after : IssueTable) (closed : Nat) : Prop where
  open_ids : ∀ id, (∃ row ∈ after.rows, row.id = id ∧ OpenIn owner repo row) ↔ id ∈ issues.map GitHubIssue.id
  content : ∀ row ∈ after.rows, OpenIn owner repo row →
    ∃ issue, issues.reverse.find? (fun issue => issue.id = row.id) = some issue ∧ row.title = issue.title ∧
      row.labels = issue.labels
  closes : ∀ row ∈ before.rows, OpenIn owner repo row → row.id ∉ issues.map GitHubIssue.id →
    closedRow now row ∈ after.rows
  counted : closed = before.rows.countP fun row => OpenIn owner repo row ∧ row.id ∉ issues.map GitHubIssue.id
  others : ∀ row, ¬ (row.owner = owner ∧ row.repo = repo) → row.id ∉ issues.map GitHubIssue.id →
    (row ∈ after.rows ↔ row ∈ before.rows)

section Transaction
variable {fails : Statement → Option String} {session : Session} {statement : Statement} {effect : Session → Session}
  {outcome : Outcome} {next : Session → Outcome}

theorem execute_ok (done : (execute fails statement effect session).2 = none) :
    execute fails statement effect session = (effect session, none) := by
  unfold execute at done ⊢
  split at done
  · cases done
  · rfl

theorem execute_stored (kept : (effect session).stored = session.stored) :
    (execute fails statement effect session).1.stored = session.stored := by
  unfold execute
  split
  · rfl
  · exact kept

theorem execute_failed (failed : (execute fails statement effect session).2 ≠ none) :
    (execute fails statement effect session).1.stored = session.stored := by
  unfold execute at failed ⊢
  split
  · rfl
  · rename_i works
    rw [works] at failed
    exact absurd rfl failed

theorem followedBy_of_ok (done : outcome.2 = none) : outcome.followedBy next = next outcome.1 := by
  rw [Outcome.followedBy, done]

theorem followedBy_ok (done : (outcome.followedBy next).2 = none) :
    outcome.2 = none ∧ outcome.followedBy next = next outcome.1 := by
  unfold Outcome.followedBy at done ⊢
  cases thrown : outcome.2 with
  | none => exact ⟨rfl, rfl⟩
  | some err =>
    rw [thrown] at done
    cases thrown.symm.trans done

theorem followedBy_failed {stored : IssueTable} (first : outcome.1.stored = stored)
    (second : (next outcome.1).2 ≠ none → (next outcome.1).1.stored = stored)
    (failed : (outcome.followedBy next).2 ≠ none) : (outcome.followedBy next).1.stored = stored := by
  unfold Outcome.followedBy at failed ⊢
  cases thrown : outcome.2 with
  | none =>
    rw [thrown] at failed
    exact second failed
  | some err => exact first

theorem upsertFrom_stored (i : Nat) (issues : List GitHubIssue) (session : Session) :
    (upsertFrom fails owner repo now i issues session).1.stored = session.stored := by
  induction issues generalizing i session with
  | nil => rfl
  | cons issue rest ih =>
    have first : (execute fails (.upsert i) (fun session => { session with
        working := session.working.upsert owner repo now issue }) session).1.stored = session.stored := execute_stored rfl
    rw [upsertFrom, Outcome.followedBy]
    split
    · rw [ih, first]
    · exact first

theorem upsertFrom_ok {i : Nat} (done : (upsertFrom fails owner repo now i issues session).2 = none) :
    (upsertFrom fails owner repo now i issues session).1.working.rows =
      (RepositorySync.upsert owner repo now).all session.working.rows issues := by
  induction issues generalizing i session with
  | nil => rfl
  | cons issue rest ih =>
    rw [upsertFrom] at done ⊢
    obtain ⟨first, continued⟩ := followedBy_ok done
    rw [continued] at done ⊢
    rw [ih done, execute_ok first]
    rfl

/-- Only `COMMIT` changes what others see. -/
theorem transaction_failed (failed : (transaction fails owner repo now issues session).2 ≠ none) :
    (transaction fails owner repo now issues session).1.stored = session.stored := by
  refine followedBy_failed (execute_stored rfl) (fun failed => ?_) failed
  have begun : (execute fails .begin (fun session => { session with working := session.stored }) session).1.stored =
      session.stored := execute_stored rfl
  have inserted := Eq.trans (@upsertFrom_stored owner repo now fails 0 issues _) begun
  refine followedBy_failed inserted (fun failed => ?_) failed
  refine followedBy_failed (Eq.trans (execute_stored rfl) inserted) (fun failed => ?_) failed
  exact (execute_failed failed).trans (Eq.trans (execute_stored rfl) inserted)

theorem transaction_ok (done : (transaction fails owner repo now issues session).2 = none) :
    (transaction fails owner repo now issues session).1.stored.rows = closeRows owner repo now (openIdsParam issues)
        ((RepositorySync.upsert owner repo now).all session.stored.rows issues) ∧
      (transaction fails owner repo now issues session).1.rowCount =
        ((RepositorySync.upsert owner repo now).all session.stored.rows issues).countP
          (closeCondition owner repo (openIdsParam issues)) := by
  unfold transaction at done ⊢
  obtain ⟨begun, continued⟩ := followedBy_ok done
  rw [continued, execute_ok begun] at done ⊢
  obtain ⟨inserted, continued⟩ := followedBy_ok done
  rw [continued] at done ⊢
  have rows := upsertFrom_ok inserted
  obtain ⟨closed, continued⟩ := followedBy_ok done
  rw [continued, execute_ok closed] at done ⊢
  rw [execute_ok done]
  exact ⟨congrArg (closeRows owner repo now _) rows, congrArg (List.countP _) rows⟩

end Transaction

theorem closeCondition_iff : closeCondition owner repo (openIdsParam issues) row = true ↔
    OpenIn owner repo row ∧ row.id ∉ issues.map GitHubIssue.id := by
  unfold closeCondition openIdsParam OpenIn
  split
  · rename_i empty
    simp [empty]
  · simp [and_assoc]

/-- The rows that a transaction which commits leaves. -/
def syncedRows (owner repo : String) (now : Nat) (rows : List SyncedRow) (issues : List GitHubIssue) : List SyncedRow :=
  closeRows owner repo now (openIdsParam issues) ((upsert owner repo now).all rows issues)

/-- No issue is stored under another repository. -/
def AtHome (owner repo : String) (table : IssueTable) (issues : List GitHubIssue) : Prop :=
  ∀ row ∈ table.rows, row.id ∈ issues.map GitHubIssue.id → row.owner = owner ∧ row.repo = repo

theorem mem_syncedRows {rows : List SyncedRow} : row ∈ syncedRows owner repo now rows issues ↔
    ∃ past ∈ (upsert owner repo now).all rows issues,
      (if OpenIn owner repo past ∧ past.id ∉ issues.map GitHubIssue.id then closedRow now past else past) = row := by
  rw [syncedRows, closeRows, List.mem_map]
  simp only [closeCondition_iff]

/-- An inserted issue is open, with the title and the labels it was fetched with last. -/
theorem upserted_content {past : SyncedRow} (member : past ∈ (upsert owner repo now).all table.rows issues)
    (fetched : past.id ∈ issues.map GitHubIssue.id) : past.state = .open ∧
      ∃ issue, issues.reverse.find? (fun issue => issue.id = past.id) = some issue ∧ past.title = issue.title ∧
        past.labels = issue.labels := by
  obtain ⟨issue, last, rfl | ⟨old, rfl⟩⟩ := Upserts.mem_all_last member fetched
  · exact ⟨rfl, issue, last, rfl, rfl⟩
  · exact ⟨rfl, issue, last, rfl, rfl⟩

/-- A row keeps its repository. -/
theorem upserted_home {past : SyncedRow} (member : past ∈ (upsert owner repo now).all table.rows issues) :
    (∃ old ∈ table.rows, old.id = past.id ∧ old.owner = past.owner ∧ old.repo = past.repo) ∨
      past.id ∉ table.rows.map (fun row => row.id) ∧ past.owner = owner ∧ past.repo = repo := by
  rcases @Upserts.mem_all_origin _ _ _ _ _ _ _ _ _ _ (fun row : SyncedRow => (row.owner, row.repo))
    (fun _ _ => rfl) member with ⟨old, there, same, place⟩ | ⟨unknown, issue, _, place⟩
  · exact Or.inl ⟨old, there, same, congrArg Prod.fst place, congrArg Prod.snd place⟩
  · exact Or.inr ⟨unknown, (congrArg Prod.fst place).symm, (congrArg Prod.snd place).symm⟩

/-- Rows that were not fetched stay as they are until they are closed. -/
theorem mem_upserted_of_not_fetched {past : SyncedRow} (absent : past.id ∉ issues.map GitHubIssue.id) :
    past ∈ (upsert owner repo now).all table.rows issues ↔ past ∈ table.rows := by
  have kept : ((upsert owner repo now).all table.rows issues).filter (fun row => row.id ∉ issues.map GitHubIssue.id) =
      table.rows.filter fun row => row.id ∉ issues.map GitHubIssue.id :=
    Upserts.filter_all fun row other => of_decide_eq_true other
  have both := congrArg (past ∈ ·) kept
  simpa only [List.mem_filter, decide_eq_true_eq, absent, not_false_eq_true, and_true, eq_iff_iff] using both

theorem openIn_of_synced {past : SyncedRow}
    (opened : OpenIn owner repo
      (if OpenIn owner repo past ∧ past.id ∉ issues.map GitHubIssue.id then closedRow now past else past)) :
    OpenIn owner repo past ∧ past.id ∈ issues.map GitHubIssue.id := by
  split at opened
  · cases opened.2.2
  · rename_i stays
    exact ⟨opened, by_contra fun absent => stays ⟨opened, absent⟩⟩

/-- With each fetched issue stored at home, the sync replaces the open set. -/
theorem replaced_of_atHome (home : AtHome owner repo table issues) {after : IssueTable}
    (rows : after.rows = syncedRows owner repo now table.rows issues) : Replaced owner repo now table issues after
      (((upsert owner repo now).all table.rows issues).countP (closeCondition owner repo (openIdsParam issues))) where
  open_ids := by
    intro id
    rw [rows]
    constructor
    · rintro ⟨row, member, rfl, opened⟩
      obtain ⟨past, _, rfl⟩ := mem_syncedRows.mp member
      have fetched := (openIn_of_synced opened).2
      rwa [if_neg fun closing => closing.2 fetched]
    · intro fetched
      obtain ⟨past, member, rfl⟩ := List.mem_map.mp (Upserts.mem_keys_all.mpr (Or.inr fetched) :
        id ∈ ((upsert owner repo now).all table.rows issues).map fun row => row.id)
      have place : past.owner = owner ∧ past.repo = repo := by
        rcases upserted_home member with ⟨old, there, same, at_owner, at_repo⟩ | ⟨_, placed⟩
        · rw [← at_owner, ← at_repo]
          exact home old there (same ▸ fetched)
        · exact placed
      refine ⟨past, mem_syncedRows.mpr ⟨past, member, if_neg fun closing => closing.2 fetched⟩, rfl, place.1, place.2, ?_⟩
      exact (upserted_content member fetched).1
  content := by
    intro row member opened
    rw [rows] at member
    obtain ⟨past, there, rfl⟩ := mem_syncedRows.mp member
    have fetched := (openIn_of_synced opened).2
    rw [if_neg fun closing => closing.2 fetched]
    exact (upserted_content there fetched).2
  closes := by
    intro row member opened absent
    rw [rows]
    exact mem_syncedRows.mpr ⟨row, (mem_upserted_of_not_fetched absent).mpr member, if_pos ⟨opened, absent⟩⟩
  counted := by
    have kept : ((upsert owner repo now).all table.rows issues).filter (closeCondition owner repo (openIdsParam issues)) =
        table.rows.filter (closeCondition owner repo (openIdsParam issues)) :=
      Upserts.filter_all fun row closing => (closeCondition_iff.mp closing).2
    rw [List.countP_eq_length_filter, kept, ← List.countP_eq_length_filter]
    refine List.countP_congr fun row _ => ?_
    rw [closeCondition_iff, decide_eq_true_eq]
  others := by
    intro row elsewhere absent
    rw [rows, mem_syncedRows]
    constructor
    · rintro ⟨past, there, rfl⟩
      split at elsewhere
      · rename_i closing
        exact absurd ⟨closing.1.1, closing.1.2.1⟩ elsewhere
      · rename_i stays
        rw [if_neg stays] at absent ⊢
        exact (mem_upserted_of_not_fetched absent).mp there
    · intro there
      exact ⟨row, (mem_upserted_of_not_fetched absent).mpr there, if_neg fun closing =>
        elsewhere ⟨closing.1.1, closing.1.2.1⟩⟩

/-- A fetched issue that is stored elsewhere stays there. -/
theorem atHome_of_replaced {after : IssueTable} {closed : Nat}
    (rows : after.rows = syncedRows owner repo now table.rows issues)
    (replaced : Replaced owner repo now table issues after closed) : AtHome owner repo table issues := by
  intro row member fetched
  obtain ⟨found, there, same, opened⟩ := (replaced.open_ids row.id).mpr fetched
  rw [rows] at there
  obtain ⟨past, kept, rfl⟩ := mem_syncedRows.mp there
  obtain ⟨placed, listed⟩ := openIn_of_synced opened
  rw [if_neg fun closing => closing.2 listed] at same
  rcases upserted_home kept with ⟨old, old_there, old_same, at_owner, at_repo⟩ | ⟨unknown, _⟩
  · have own : old = row := List.inj_on_of_nodup_map table.unique old_there member (old_same.trans same)
    rw [← own, at_owner, at_repo]
    exact ⟨placed.1, placed.2.1⟩
  · refine absurd (List.mem_map_of_mem member) (same ▸ unknown)

section Verdict
variable {fails : Statement → Option String}

theorem sync_ok {counts : SyncCounts} (done : (syncIssuesToDb fails owner repo now table issues).2 = .ok counts) :
    (syncIssuesToDb fails owner repo now table issues).1.rows = syncedRows owner repo now table.rows issues ∧
      counts.closed = ((upsert owner repo now).all table.rows issues).countP
        (closeCondition owner repo (openIdsParam issues)) := by
  have spec := @transaction_ok owner repo now issues fails ⟨table, table, 0⟩
  unfold syncIssuesToDb at done ⊢
  rcases ran : transaction fails owner repo now issues ⟨table, table, 0⟩ with ⟨session, _ | err⟩
  · rw [ran] at done spec
    cases done
    exact spec rfl
  · rw [ran] at done
    cases done

theorem sync_error {err : String} (failed : (syncIssuesToDb fails owner repo now table issues).2 = .error err) :
    (syncIssuesToDb fails owner repo now table issues).1 = table := by
  have spec := @transaction_failed owner repo now issues fails ⟨table, table, 0⟩
  unfold syncIssuesToDb at failed ⊢
  rcases ran : transaction fails owner repo now issues ⟨table, table, 0⟩ with ⟨session, _ | err⟩
  · rw [ran] at failed
    cases failed
  · rw [ran] at spec
    exact spec (Option.some_ne_none err)

theorem upsertFrom_unfailing (i : Nat) (issues : List GitHubIssue) (session : Session) :
    (upsertFrom (fun _ => none) owner repo now i issues session).2 = none := by
  induction issues generalizing i session with
  | nil => rfl
  | cons issue rest ih => exact ih (i + 1) _

theorem sync_commits : ∃ counts, (syncIssuesToDb (fun _ => none) owner repo now table issues).2 = .ok counts := by
  have done : (transaction (fun _ => none) owner repo now issues ⟨table, table, 0⟩).2 = none := by
    rw [transaction, followedBy_of_ok rfl, followedBy_of_ok (upsertFrom_unfailing 0 issues _)]
    rfl
  unfold syncIssuesToDb
  rcases ran : transaction (fun _ => none) owner repo now issues ⟨table, table, 0⟩ with ⟨session, _ | err⟩
  · exact ⟨_, rfl⟩
  · rw [ran] at done
    cases done

/-- A sync that commits replaces the open set of the repository, and one that fails changes nothing, exactly if no fetched
issue is stored under another repository. -/
theorem sync_replaces_open_set_iff (owner repo : String) (now : Nat) (table : IssueTable) (issues : List GitHubIssue) :
    (∀ fails,
      (∀ counts, (syncIssuesToDb fails owner repo now table issues).2 = .ok counts →
        Replaced owner repo now table issues (syncIssuesToDb fails owner repo now table issues).1 counts.closed) ∧
      ∀ err, (syncIssuesToDb fails owner repo now table issues).2 = .error err →
        (syncIssuesToDb fails owner repo now table issues).1 = table) ↔
      ∀ row ∈ table.rows, row.id ∈ issues.map GitHubIssue.id → row.owner = owner ∧ row.repo = repo := by
  constructor
  · intro sound
    obtain ⟨counts, done⟩ := @sync_commits owner repo now table issues
    exact atHome_of_replaced (sync_ok done).1 ((sound _).1 counts done)
  · intro home fails
    refine ⟨fun counts done => ?_, fun err failed => sync_error failed⟩
    obtain ⟨rows, closed⟩ := sync_ok done
    rw [closed]
    exact replaced_of_atHome home rows

/-- An issue of a repository that was renamed. -/
def renamedIssue : GitHubIssue :=
  ⟨1, 7, "Overflow in the counter", "https://github.com/new/repo/issues/7", ["bug"], none, "2026-01-01T00:00:00Z",
    "2026-01-02T00:00:00Z"⟩

def renamedTable : IssueTable := ⟨[insertedRow "old" "repo" 0 renamedIssue], List.nodup_singleton _⟩

/-- Synced under its new name the repository has no open issue. -/
theorem renamed_issue_not_open : (syncIssuesToDb (fun _ => none) "new" "repo" 1 renamedTable [renamedIssue]).2 =
      .ok ⟨1, 0⟩ ∧
    ¬ Replaced "new" "repo" 1 renamedTable [renamedIssue]
      (syncIssuesToDb (fun _ => none) "new" "repo" 1 renamedTable [renamedIssue]).1 0 := by
  refine ⟨rfl, fun replaced => ?_⟩
  have done : (syncIssuesToDb (fun _ => none) "new" "repo" 1 renamedTable [renamedIssue]).2 = .ok ⟨1, 0⟩ := rfl
  have home := atHome_of_replaced (sync_ok done).1 replaced
  exact absurd (home _ List.mem_cons_self List.mem_cons_self).1 (by decide)

end Verdict

section Agreement
variable {repository : Repository} {rows : List SyncedRow}

theorem toIssueRow_one (issue : GitHubIssue) :
    ((upsert repository.owner repository.repo now).one rows issue).map SyncedRow.toIssueRow =
      upsertIssue repository (rows.map SyncedRow.toIssueRow) issue := by
  have ids : (rows.map SyncedRow.toIssueRow).map IssueRow.id = rows.map fun row => row.id := List.map_map
  by_cases known : issue.id ∈ rows.map fun row => row.id
  · have updated : (upsert repository.owner repository.repo now).one rows issue =
        rows.map fun row => if row.id = issue.id then updatedRow now issue row else row := if_pos known
    rw [updated, upsertIssue, ids, if_pos known, List.map_map, List.map_map]
    refine List.map_congr_left fun row _ => ?_
    rw [Function.comp_apply, Function.comp_apply]
    split <;> rfl
  · have inserted : (upsert repository.owner repository.repo now).one rows issue =
        rows ++ [insertedRow repository.owner repository.repo now issue] := if_neg known
    rw [inserted, upsertIssue, ids, if_neg known, List.map_append]
    rfl

/-- The rows are those of the sync without times. -/
theorem toIssueRow_syncedRows (issues : List GitHubIssue) :
    (syncedRows repository.owner repository.repo now rows issues).map SyncedRow.toIssueRow =
      (WorkloadGovernor.syncIssuesToDb repository (rows.map SyncedRow.toIssueRow) issues).1 := by
  have upserted : ((upsert repository.owner repository.repo now).all rows issues).map SyncedRow.toIssueRow =
      issues.foldl (upsertIssue repository) (rows.map SyncedRow.toIssueRow) := by
    induction issues using List.reverseRecOn with
    | nil => rfl
    | append_singleton issues issue ih =>
      rw [Upserts.all_concat, toIssueRow_one, ih, List.foldl_append]
      rfl
  rw [WorkloadGovernor.syncIssuesToDb, ← upserted, syncedRows, closeRows, List.map_map, List.map_map]
  refine List.map_congr_left fun row _ => ?_
  have agree : closeCondition repository.owner repository.repo (openIdsParam issues) row =
      closes repository (issues.map GitHubIssue.id) row.toIssueRow :=
    Bool.eq_iff_iff.mpr (closeCondition_iff.trans (by simp only [closes_iff, OpenIn, and_assoc]))
  rw [Function.comp_apply, Function.comp_apply, agree]
  split <;> rfl

end Agreement

end Proofs

end RepositorySync

end WorkloadGovernor
