import Mathlib.Data.List.Dedup
import Mathlib.Data.List.Sort
import WorkloadGovernor.Lib.Chunks
import WorkloadGovernor.Lib.Js

namespace WorkloadGovernor

namespace ServiceListings

section Source

/-- Each row with every row of the other table that goes with it, or with none. -/
def leftJoined {ρ σ : Type} (on : ρ → σ → Bool) (left : List ρ) (right : List σ) : List (ρ × Option σ) :=
  left.flatMap fun row =>
    match right.filter (on row) with
    | [] => [(row, none)]
    | found => found.map fun other => (row, some other)

/-- What the services rely on the database module for: the operations their queries are made of, and what SQL says of
each. A negative `LIMIT` or `OFFSET` is rejected. -/
structure Database where
  ilike : String → String → Bool
  select : {ρ : Type} → (ρ → Bool) → List ρ → List ρ
  countBy : {ρ κ : Type} → [DecidableEq κ] → (ρ → κ) → List ρ → List (κ × Nat)
  leftJoin : {ρ σ : Type} → (ρ → σ → Bool) → List ρ → List σ → List (ρ × Option σ)
  count : {ρ : Type} → List ρ → Nat
  order : {ρ : Type} → (ρ → Nat) → List ρ → List ρ
  limitOffset : {ρ : Type} → (limit offset : Int) → List ρ → Except String (List ρ)
  refusal : String
  select_eq : ∀ {ρ : Type} (conditions : ρ → Bool) (rows : List ρ), select conditions rows = rows.filter conditions
  countBy_nodup : ∀ {ρ κ : Type} [DecidableEq κ] (key : ρ → κ) (rows : List ρ),
    ((countBy key rows).map Prod.fst).Nodup
  mem_countBy : ∀ {ρ κ : Type} [DecidableEq κ] (key : ρ → κ) (rows : List ρ) (k : κ) (n : Nat),
    (k, n) ∈ countBy key rows ↔ 0 < n ∧ rows.countP (key · = k) = n
  leftJoin_eq : ∀ {ρ σ : Type} (on : ρ → σ → Bool) (left : List ρ) (right : List σ),
    leftJoin on left right = leftJoined on left right
  count_eq : ∀ {ρ : Type} (rows : List ρ), count rows = rows.length
  order_perm : ∀ {ρ : Type} (time : ρ → Nat) (rows : List ρ), (order time rows).Perm rows
  order_desc : ∀ {ρ : Type} (time : ρ → Nat) (rows : List ρ), (order time rows).Pairwise fun a b => time b ≤ time a
  limitOffset_eq : ∀ {ρ : Type} (limit offset : Nat) (rows : List ρ),
    limitOffset limit offset rows = .ok ((rows.drop offset).take limit)
  limitOffset_refused : ∀ {ρ : Type} {limit offset : Int} (rows : List ρ), limit < 0 ∨ offset < 0 →
    limitOffset limit offset rows = .error refusal

structure PaginatedResult (α : Type) where
  data : List α
  total : Nat
  page : Int
  pageSize : Int
  totalPages : Option Nat
  deriving DecidableEq, Repr

/-- `Math.ceil(total / limit)`, which is no number of pages where `limit` is 0. -/
def totalPages (total : Nat) (limit : Int) : Option Nat :=
  if limit ≤ 0 then none else some ((total + limit.toNat - 1) / limit.toNat)

section Listing
variable {ρ α : Type} (db : Database) (time : ρ → Nat)

/-- A page of the rows of a query; of the rows asked for at most `most` come. -/
def listing (most : Int) (process : ρ → α) (query : List ρ) (page pageSize : Int) : Except String (PaginatedResult α) :=
  let offset := (page - 1) * pageSize
  let limit := min pageSize most
  let total := db.count query
  match db.limitOffset limit offset (db.order time query) with
  | .error err => .error err
  | .ok data => .ok {
      data := data.map process
      total := total
      page := page
      pageSize := limit
      totalPages := totalPages total limit }

end Listing

section IssueService

inductive StatusFilter where
  | open
  | assigned
  | available
  deriving DecidableEq, Repr

def StatusFilter.text : StatusFilter → String
  | .open => "open"
  | .assigned => "assigned"
  | .available => "available"

structure IssueFilter where
  org_id : Option String
  label : Option String
  status : Option StatusFilter
  page : Option Int
  page_size : Option Int
  search : Option String
  deriving DecidableEq, Repr

/-- A row of `issues`. -/
structure IssueRecord where
  id : String
  org_id : String
  title : String
  number : Int
  url : String
  labels : Option (List String)
  status : String
  max_applicants : Option Nat
  created_at : Nat
  updated_at : Nat
  deriving DecidableEq, Repr

structure ApplicationRecord where
  issue_id : String
  status : String
  deriving DecidableEq, Repr

structure AssignmentRecord where
  issue_id : String
  contributor : Option String
  status : String
  deriving DecidableEq, Repr

structure IssueTables where
  issues : List IssueRecord
  applications : List ApplicationRecord
  assignments : List AssignmentRecord

/-- A row of the query: an issue, the number of its pending applications, and an active assignee. -/
structure JoinedRecord extends IssueRecord where
  applicant_count : Nat
  assignee : Option String
  deriving DecidableEq, Repr

/-- The left joins of the query, and `COALESCE` of what they may not find. -/
def issueRows (db : Database) (tables : IssueTables) : List JoinedRecord :=
  let applicant_count := db.countBy ApplicationRecord.issue_id (db.select (·.status = "pending") tables.applications)
  let assigned := db.select (·.status = "active") tables.assignments
  let counted := db.leftJoin (fun issue count => issue.id = count.1) tables.issues applicant_count
  (db.leftJoin (fun row a => row.1.id = a.issue_id) counted assigned).map fun row =>
    ⟨row.1.1, (row.1.2.map Prod.snd).getD 0, row.2.bind AssignmentRecord.contributor⟩

def statusMatches : StatusFilter → JoinedRecord → Bool
  | .open, _ => true
  | .assigned, row => row.assignee.isSome
  | .available, row => (row.max_applicants.any (row.applicant_count < ·)) && row.assignee.isNone

/-- The conditions of the query. -/
def issueMatches (db : Database) (filter : IssueFilter) (row : JoinedRecord) : Bool :=
  row.status = "open" &&
  (Js.truthy filter.org_id).all (row.org_id = ·) &&
  (Js.truthy filter.label).all (fun label => row.labels.any (label ∈ ·)) &&
  statusMatches (filter.status.getD .available) row &&
  (Js.truthy filter.search).all (fun search => db.ilike row.title ("%" ++ search ++ "%"))

structure Issue where
  id : String
  org_id : String
  title : String
  number : Int
  url : String
  labels : List String
  applicant_count : Nat
  max_applicants : Nat
  assigned_to : Option String
  created_at : Nat
  updated_at : Nat
  deriving DecidableEq, Repr

def processIssue (row : JoinedRecord) : Issue where
  id := row.id
  org_id := row.org_id
  title := row.title
  number := row.number
  url := row.url
  labels := row.labels.getD []
  applicant_count := row.applicant_count
  max_applicants := (row.max_applicants.filter (· ≠ 0)).getD 1
  assigned_to := Js.truthy row.assignee
  created_at := row.created_at
  updated_at := row.updated_at

def defaultPageSize : Int := 20

def maxPageSize : Int := 100

/-- A number that is there and not 0. -/
def truthyNumber (number : Option Int) : Option Int := number.filter (· ≠ 0)

def buildCacheKey (filter : IssueFilter) : String :=
  String.intercalate ":" (["issues"] ++ ((Js.truthy filter.org_id).map ("org_" ++ ·)).toList ++
    ((Js.truthy filter.label).map ("label_" ++ ·)).toList ++
    (filter.status.map ("status_" ++ ·.text)).toList ++
    ((truthyNumber filter.page).map ("page_" ++ ·.repr)).toList ++
    ((truthyNumber filter.page_size).map ("size_" ++ ·.repr)).toList ++
    ((Js.truthy filter.search).map ("search_" ++ ·)).toList)

/-- What is in the cache under the key is returned as it is. -/
def getIssues (db : Database) (cached : String → Option (PaginatedResult Issue)) (tables : IssueTables)
    (filter : IssueFilter) : Except String (PaginatedResult Issue) :=
  match cached (buildCacheKey filter) with
  | some result => .ok result
  | none =>
    listing db (fun row => row.created_at) maxPageSize processIssue
      (db.select (issueMatches db filter) (issueRows db tables))
      (filter.page.getD 1) (filter.page_size.getD defaultPageSize)

end IssueService

section AuditService

/-- A row of `cancellation_audit`. -/
structure CancellationRow where
  event_type : String
  actor : String
  contributor : String
  org_id : String
  issue_id : Int
  reason : Option String
  timestamp : Nat
  tx_hash : Option String
  deriving DecidableEq, Repr

structure CancellationRecord where
  event_type : String
  actor : String
  contributor : String
  org_id : String
  issue_id : Int
  reason : String
  timestamp : Nat
  tx_hash : String
  deriving DecidableEq, Repr

def mapRecord (record : CancellationRow) : CancellationRecord where
  event_type := record.event_type
  actor := record.actor
  contributor := record.contributor
  org_id := record.org_id
  issue_id := record.issue_id
  reason := record.reason.getD ""
  timestamp := record.timestamp
  tx_hash := record.tx_hash.getD ""

structure PaginationParams where
  page : Option Int
  pageSize : Option Int
  org_id : Option String
  isAdmin : Option Bool
  deriving DecidableEq, Repr

/-- The largest page of audit records. -/
def maxAuditPageSize : Int := 200

def getCancellations (db : Database) (audit : List CancellationRow) (params : PaginationParams) :
    Except String (PaginatedResult CancellationRecord) :=
  if Js.truthy params.org_id = none ∧ params.isAdmin.getD false = false then
    .error "org_id filter is required for non-admin users"
  else
    listing db CancellationRow.timestamp maxAuditPageSize mapRecord
      (db.select (fun row => (Js.truthy params.org_id).all (row.org_id = ·)) audit)
      (params.page.getD 1) (params.pageSize.getD 50)

def getOrgCancellations (db : Database) (audit : List CancellationRow) (org_id : String) (startDate endDate : Option Nat)
    (page pageSize : Option Int) : Except String (PaginatedResult CancellationRecord) :=
  listing db CancellationRow.timestamp maxAuditPageSize mapRecord
    (db.select (fun row => row.org_id = org_id && startDate.all (· ≤ row.timestamp) && endDate.all (row.timestamp ≤ ·))
      audit)
    (page.getD 1) (pageSize.getD 50)

end AuditService

end Source

section Joins
variable {ρ σ τ κ : Type} {db : Database}

theorem leftJoined_map {f : ρ → τ} {on : ρ → σ → Bool} {on' : τ → σ → Bool} {left : List ρ} {right : List σ}
    (same : ∀ row ∈ left, on' (f row) = on row) :
    leftJoined on' (left.map f) right = (leftJoined on left right).map fun row => (f row.1, row.2) := by
  rw [leftJoined, leftJoined, List.flatMap_map, List.map_flatMap]
  refine List.flatMap_congr fun row member => ?_
  rw [same row member]
  cases right.filter (on row) with
  | nil => rfl
  | cons first rest => simp only [List.map_map, Function.comp_def]

theorem filter_key_of_mem [DecidableEq κ] {entries : List (κ × σ)} {k : κ} {value : σ}
    (nodup : (entries.map Prod.fst).Nodup) (member : (k, value) ∈ entries) :
    entries.filter (k = ·.1) = [(k, value)] := by
  induction entries with
  | nil => cases member
  | cons first rest ih =>
    obtain ⟨fresh, nodup⟩ := List.nodup_cons.mp nodup
    rw [List.filter_cons]
    rcases List.mem_cons.mp member with rfl | later
    · have others : rest.filter (k = ·.1) = [] := by
        refine List.filter_eq_nil_iff.mpr fun entry there same => fresh ?_
        exact List.mem_map.mpr ⟨entry, there, (of_decide_eq_true same).symm⟩
      rw [if_pos (decide_eq_true rfl), others]
    · have other : k ≠ first.1 := by
        rintro rfl
        exact fresh (List.mem_map.mpr ⟨_, later, rfl⟩)
      rw [if_neg (by simpa using other), ih nodup later]

/-- A key has one entry where it occurs, with the number of its rows, and none elsewhere. -/
theorem filter_countBy [DecidableEq κ] (db : Database) (key : ρ → κ) (rows : List ρ) (k : κ) :
    (db.countBy key rows).filter (k = ·.1) =
      if rows.countP (key · = k) = 0 then [] else [(k, rows.countP (key · = k))] := by
  split
  · rename_i nowhere
    refine List.filter_eq_nil_iff.mpr fun entry member same => ?_
    obtain ⟨positive, counted⟩ := (db.mem_countBy key rows entry.1 entry.2).mp member
    rw [← of_decide_eq_true same, nowhere] at counted
    omega
  · rename_i occurs
    have member := (db.mem_countBy key rows k _).mpr ⟨Nat.pos_of_ne_zero occurs, rfl⟩
    exact filter_key_of_mem (db.countBy_nodup key rows) member

/-- Joined with the numbers of rows of each key, a table has its rows once each. -/
theorem leftJoin_countBy [DecidableEq κ] (own : σ → κ) (left : List σ) (key : ρ → κ) (rows : List ρ) :
    (db.leftJoin (fun row count => own row = count.1) left (db.countBy key rows)).map
        (fun row => (row.1, (row.2.map Prod.snd).getD 0)) =
      left.map fun row => (row, rows.countP (key · = own row)) := by
  rw [db.leftJoin_eq, leftJoined, List.map_flatMap, List.map_eq_flatMap]
  refine List.flatMap_congr fun row _ => ?_
  have found := filter_countBy db key rows (own row)
  by_cases nowhere : rows.countP (key · = own row) = 0
  · rw [found, if_pos nowhere, nowhere]
    rfl
  · rw [found, if_neg nowhere]
    rfl

/-- The issues with the number of pending applications, each with every active assignment. -/
def joined (tables : IssueTables) : List JoinedRecord :=
  tables.issues.flatMap fun issue =>
    let count := tables.applications.countP fun a => a.status = "pending" ∧ a.issue_id = issue.id
    match tables.assignments.filter fun a => a.status = "active" ∧ a.issue_id = issue.id with
    | [] => [⟨issue, count, none⟩]
    | active => active.map fun a => ⟨issue, count, a.contributor⟩

theorem countP_pending (applications : List ApplicationRecord) (id : String) :
    (applications.filter (·.status = "pending")).countP (·.issue_id = id) =
      applications.countP fun a => a.status = "pending" ∧ a.issue_id = id := by
  rw [List.countP_filter]
  congr 1
  funext a
  rw [Bool.decide_and, Bool.and_comm]

theorem filter_active (assignments : List AssignmentRecord) (id : String) :
    (assignments.filter (·.status = "active")).filter (fun a => id = a.issue_id) =
      assignments.filter fun a => a.status = "active" ∧ a.issue_id = id := by
  rw [List.filter_filter]
  congr 1
  funext a
  rw [Bool.decide_and, Bool.and_comm]
  exact congrArg (_ && ·) (decide_eq_decide.mpr eq_comm)

/-- Whatever way the database takes, the rows of the query are the joined ones. -/
theorem issueRows_eq (tables : IssueTables) : issueRows db tables = joined tables := by
  let pending := tables.applications.filter (·.status = "pending")
  let active := tables.assignments.filter (·.status = "active")
  let counted := db.leftJoin (fun issue count => issue.id = count.1) tables.issues
    (db.countBy ApplicationRecord.issue_id pending)
  let withCount (row : IssueRecord × Option (String × Nat)) : IssueRecord × Nat := (row.1, (row.2.map Prod.snd).getD 0)
  let record (row : (IssueRecord × Nat) × Option AssignmentRecord) : JoinedRecord :=
    ⟨row.1.1, row.1.2, row.2.bind AssignmentRecord.contributor⟩
  have counts : counted.map withCount =
      tables.issues.map fun issue => (issue, pending.countP (·.issue_id = issue.id)) :=
    leftJoin_countBy IssueRecord.id tables.issues ApplicationRecord.issue_id pending
  have assigned : leftJoined (fun row a => row.1.id = a.issue_id) (counted.map withCount) active =
      (leftJoined (fun row a => row.1.id = a.issue_id) counted active).map fun row => (withCount row.1, row.2) :=
    leftJoined_map fun _ _ => rfl
  calc issueRows db tables
    _ = ((leftJoined (fun row a => row.1.id = a.issue_id) counted active).map
          fun row => (withCount row.1, row.2)).map record := by
        rw [issueRows, db.leftJoin_eq, db.select_eq, db.select_eq, List.map_map]
        rfl
    _ = (leftJoined (fun row a => row.1.id = a.issue_id)
          (tables.issues.map fun issue => (issue, pending.countP (·.issue_id = issue.id))) active).map record := by
        rw [← assigned, counts]
    _ = joined tables := by
        rw [leftJoined, List.flatMap_map, List.map_flatMap, joined]
        refine List.flatMap_congr fun issue _ => ?_
        rw [filter_active, countP_pending]
        cases tables.assignments.filter fun a => a.status = "active" ∧ a.issue_id = issue.id with
        | nil => rfl
        | cons first rest => simp only [List.map_map, Function.comp_def, record, Option.bind_some]

end Joins

section Proofs
variable {ρ α : Type} {db : Database} {time : ρ → Nat} {process : ρ → α} {rows : List ρ}

/-- The data of the pages 1 to `totalPages`, as the first page gives it. -/
def allPages (fetch : Int → Except String (PaginatedResult α)) : Except String (List α) := do
  let first ← fetch 1
  let pages ← (List.range (first.totalPages.getD 0)).mapM fun (i : Nat) => fetch (i + 1)
  return pages.flatMap PaginatedResult.data

theorem mapM_ok {β γ : Type} {f : β → Except String γ} {g : β → γ} {items : List β}
    (each : ∀ b ∈ items, f b = .ok (g b)) : items.mapM f = .ok (items.map g) := by
  induction items with
  | nil => rfl
  | cons b rest ih =>
    rw [List.mapM_cons, each b List.mem_cons_self, ih fun c member => each c (List.mem_cons_of_mem _ member)]
    rfl

/-- The page of a listing that begins `i` times the size asked for into the rows. -/
def pageAt (db : Database) (time : ρ → Nat) (process : ρ → α) (rows : List ρ) (most n i : Nat) : PaginatedResult α where
  data := (((db.order time rows).map process).drop (i * n)).take (min n most)
  total := rows.length
  page := i + 1
  pageSize := (min n most : Nat)
  totalPages := some ((rows.length + min n most - 1) / min n most)

theorem listing_eq {most n : Nat} (positive : 0 < min n most) (i : Nat) :
    listing db time most process rows (i + 1) n = .ok (pageAt db time process rows most n i) := by
  have offset : ((i : Int) + 1 - 1) * n = (i * n : Nat) := by rw [Int.add_sub_cancel, Int.natCast_mul]
  have limit : min (n : Int) most = (min n most : Nat) := by omega
  simp only [listing, pageAt, offset, limit, db.limitOffset_eq, db.count_eq, totalPages,
    if_neg (by omega : ¬ ((min n most : Nat) : Int) ≤ 0), Int.toNat_natCast, List.map_take, List.map_drop]

theorem allPages_listing {most n : Nat} (positive : 0 < min n most) :
    allPages (fun page => listing db time most process rows page n) =
      .ok ((List.range ((rows.length + min n most - 1) / min n most)).flatMap fun i =>
        (((db.order time rows).map process).drop (i * n)).take (min n most)) := by
  have first : listing db time most process rows 1 n = .ok (pageAt db time process rows most n 0) := listing_eq positive 0
  have pages : (List.range ((rows.length + min n most - 1) / min n most)).mapM
      (fun (i : Nat) => listing db time most process rows (i + 1) n) =
      .ok ((List.range ((rows.length + min n most - 1) / min n most)).map (pageAt db time process rows most n)) :=
    mapM_ok fun i _ => listing_eq positive i
  rw [allPages, first]
  simp only [Bind.bind, Except.bind, pageAt, Option.getD_some] at pages ⊢
  rw [pages]
  simp [List.flatMap_map, pageAt, Pure.pure, Except.pure]

/-- The pages of a listing make up the whole just when pages of the size asked for are given, or one page is enough. -/
theorem allPages_listing_iff {most n : Nat} (positive : 0 < n) (some_rows : 0 < most) :
    allPages (fun page => listing db time most process rows page n) = .ok ((db.order time rows).map process) ↔
      n ≤ most ∨ rows.length ≤ most := by
  have count : rows.length = ((db.order time rows).map process).length := by
    rw [List.length_map, (db.order_perm time rows).length_eq]
  rw [allPages_listing (by omega), Except.ok.injEq, count]
  rcases Nat.lt_or_ge most n with large | small
  · rw [Nat.min_eq_right large.le, List.flatMap_strided_eq_iff some_rows large]
    exact ⟨Or.inr, fun either => either.resolve_left (Nat.not_le.mpr large)⟩
  · rw [Nat.min_eq_left small]
    exact iff_of_true (List.flatMap_pages positive _) (Or.inl small)

/-- The rows a filter asks for. -/
def matching (db : Database) (tables : IssueTables) (filter : IssueFilter) : List JoinedRecord :=
  (joined tables).filter (issueMatches db filter)

theorem getIssues_uncached (tables : IssueTables) (filter : IssueFilter) : getIssues db (fun _ => none) tables filter =
    listing db (fun row => row.created_at) maxPageSize processIssue (matching db tables filter) (filter.page.getD 1)
      (filter.page_size.getD defaultPageSize) := by
  rw [getIssues, db.select_eq, issueRows_eq, matching]

theorem getCancellations_accepted {params : PaginationParams}
    (accepted : Js.truthy params.org_id ≠ none ∨ params.isAdmin = some true) (audit : List CancellationRow)
    (page pageSize : Option Int) : getCancellations db audit { params with page := page, pageSize := pageSize } =
    listing db CancellationRow.timestamp maxAuditPageSize mapRecord
      (audit.filter fun row => (Js.truthy params.org_id).all (row.org_id = ·)) (page.getD 1) (pageSize.getD 50) := by
  have let_in : ¬ (Js.truthy params.org_id = none ∧ params.isAdmin.getD false = false) := by
    rintro ⟨no_org, no_admin⟩
    rcases accepted with org | admin
    · exact org no_org
    · rw [admin] at no_admin
      cases no_admin
  rw [getCancellations, if_neg let_in, db.select_eq]

theorem getOrgCancellations_eq (audit : List CancellationRow) (org_id : String) (startDate endDate : Option Nat)
    (page pageSize : Option Int) : getOrgCancellations db audit org_id startDate endDate page pageSize =
    listing db CancellationRow.timestamp maxAuditPageSize mapRecord
      (audit.filter fun row => row.org_id = org_id && startDate.all (· ≤ row.timestamp) &&
        endDate.all (row.timestamp ≤ ·)) (page.getD 1) (pageSize.getD 50) := by
  rw [getOrgCancellations, db.select_eq]

/-- Concatenating all pages gives the matching rows in their order just when the page size asked for is not above the
maximum, or no more rows match than the maximum. -/
theorem pages_partition_iff {n : Nat} (positive : 1 ≤ n) :
    (∀ (tables : IssueTables) (filter : IssueFilter),
      allPages (fun page => getIssues db (fun _ => none) tables { filter with page := some page, page_size := some n }) =
          .ok ((db.order (fun row => row.created_at) ((joined tables).filter (issueMatches db filter))).map processIssue) ↔
        n ≤ 100 ∨ ((joined tables).filter (issueMatches db filter)).length ≤ 100) ∧
    (∀ (audit : List CancellationRow) (params : PaginationParams),
      (Js.truthy params.org_id ≠ none ∨ params.isAdmin = some true) →
      (allPages (fun page => getCancellations db audit { params with page := some page, pageSize := some n }) =
          .ok ((db.order CancellationRow.timestamp
            (audit.filter fun row => (Js.truthy params.org_id).all (row.org_id = ·))).map mapRecord) ↔
        n ≤ 200 ∨ (audit.filter fun row => (Js.truthy params.org_id).all (row.org_id = ·)).length ≤ 200)) ∧
    (∀ (audit : List CancellationRow) (org_id : String) (startDate endDate : Option Nat),
      allPages (fun page => getOrgCancellations db audit org_id startDate endDate (some page) (some n)) =
          .ok ((db.order CancellationRow.timestamp (audit.filter fun row =>
            row.org_id = org_id && startDate.all (· ≤ row.timestamp) && endDate.all (row.timestamp ≤ ·))).map mapRecord) ↔
        n ≤ 200 ∨ (audit.filter fun row =>
            row.org_id = org_id && startDate.all (· ≤ row.timestamp) && endDate.all (row.timestamp ≤ ·)).length ≤ 200) := by
  refine ⟨fun tables filter => ?_, fun audit params accepted => ?_, fun audit org_id startDate endDate => ?_⟩
  · simp only [getIssues_uncached, matching]
    exact allPages_listing_iff positive (by decide)
  · simp only [getCancellations_accepted accepted]
    exact allPages_listing_iff positive (by decide)
  · simp only [getOrgCancellations_eq]
    exact allPages_listing_iff positive (by decide)

section Examples

/-- Tables as lists, and rows in the order of their times, the latest first. -/
def latestFirst : Database where
  ilike title pattern := pattern.toLower.toList.tail.dropLast <:+: title.toLower.toList
  select conditions rows := rows.filter conditions
  countBy key rows := (rows.map key).dedup.map fun k => (k, rows.countP (key · = k))
  leftJoin := leftJoined
  count := List.length
  order time rows := rows.insertionSort fun a b => time b ≤ time a
  limitOffset limit offset rows :=
    if limit < 0 ∨ offset < 0 then .error "OFFSET must not be negative"
    else .ok ((rows.drop offset.toNat).take limit.toNat)
  refusal := "OFFSET must not be negative"
  select_eq _ _ := rfl
  countBy_nodup key rows := by
    rw [List.map_map, Function.comp_def, List.map_id']
    exact List.nodup_dedup _
  mem_countBy key rows k n := by
    simp only [List.mem_map, List.mem_dedup, Prod.mk.injEq]
    constructor
    · rintro ⟨_, ⟨row, member, rfl⟩, rfl, rfl⟩
      exact ⟨List.countP_pos_iff.mpr ⟨row, member, decide_eq_true rfl⟩, rfl⟩
    · rintro ⟨positive, rfl⟩
      obtain ⟨row, member, same⟩ := List.countP_pos_iff.mp positive
      exact ⟨k, ⟨row, member, of_decide_eq_true same⟩, rfl, rfl⟩
  leftJoin_eq _ _ _ := rfl
  count_eq _ := rfl
  limitOffset_eq limit offset rows := by rw [if_neg (by omega), Int.toNat_natCast, Int.toNat_natCast]
  limitOffset_refused rows refused := if_pos refused
  order_perm time rows := List.perm_insertionSort _ rows
  order_desc time rows := by
    have total : Std.Total fun a b => time b ≤ time a := ⟨fun a b => Nat.le_total _ _⟩
    have transitive : IsTrans _ fun a b => time b ≤ time a := ⟨fun a b c first second => Nat.le_trans second first⟩
    exact List.pairwise_insertionSort _ rows

def openIssue (id : String) (created_at : Nat) : IssueRecord :=
  ⟨id, "org", "title", 1, "url", none, "open", some 3, created_at, created_at⟩

def cancellation (timestamp : Nat) : CancellationRow := ⟨"revoke", "M", "C", "org", 7, none, timestamp, none⟩

theorem single_rows_listed :
    allPages (fun page => getIssues latestFirst (fun _ => none) ⟨[openIssue "a" 1, openIssue "b" 2], [], []⟩
        ⟨none, none, none, some page, some (1 : Nat), none⟩) =
      .ok ([⟨openIssue "b" 2, 0, none⟩, ⟨openIssue "a" 1, 0, none⟩].map processIssue) ∧
    allPages (fun page => getCancellations latestFirst [cancellation 1, cancellation 2]
        ⟨some page, some (1 : Nat), none, some true⟩) = .ok ([cancellation 2, cancellation 1].map mapRecord) ∧
    allPages (fun page => getOrgCancellations latestFirst [cancellation 1, cancellation 2] "org" (some 2) none (some page)
        (some (1 : Nat))) = .ok ([cancellation 2].map mapRecord) := by
  obtain ⟨issues, cancellations, orgCancellations⟩ := @pages_partition_iff latestFirst 1 (Nat.le_refl 1)
  refine ⟨?_, ?_, ?_⟩
  · exact (issues ⟨[openIssue "a" 1, openIssue "b" 2], [], []⟩ ⟨none, none, none, none, none, none⟩).mpr
      (Or.inl (by decide))
  · exact (cancellations [cancellation 1, cancellation 2] ⟨none, none, none, some true⟩ (Or.inr rfl)).mpr
      (Or.inl (by decide))
  · exact (orgCancellations [cancellation 1, cancellation 2] "org" (some 2) none).mpr (Or.inl (by decide))

/-- Pages of 201 rows are asked for, and the row after the first 200 is on none of them. -/
theorem row_between_pages_lost :
    allPages (fun page => getOrgCancellations latestFirst ((List.range 201).map cancellation) "org" none none (some page)
        (some (201 : Nat))) ≠
      .ok ((latestFirst.order CancellationRow.timestamp ((List.range 201).map cancellation)).map mapRecord) := by
  intro whole
  have every : ((List.range 201).map cancellation).filter (fun row => row.org_id = "org" &&
      (none : Option Nat).all (· ≤ row.timestamp) && (none : Option Nat).all (row.timestamp ≤ ·)) =
      (List.range 201).map cancellation := by
    refine List.filter_eq_self.mpr fun row member => ?_
    obtain ⟨timestamp, _, rfl⟩ := List.mem_map.mp member
    rfl
  simp only [getOrgCancellations_eq, every] at whole
  have one_page := (allPages_listing_iff (by decide) (by decide)).mp whole
  simp at one_page

end Examples

end Proofs

end ServiceListings

end WorkloadGovernor
