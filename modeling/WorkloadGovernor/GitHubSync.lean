import Mathlib.Logic.Function.Basic
import WorkloadGovernor.GitHubIssues
import WorkloadGovernor.Lib.Chunks
import WorkloadGovernor.Lib.Run

namespace WorkloadGovernor

/-- How a request for a page goes: GitHub answers it as its state says, refuses it for the
rate limit (429, or 403 with nothing remaining; a time of reset may be known), or it fails. -/
inductive HttpOutcome where
  | answered
  | rateLimited (resetAt : Bool)
  | failed
  deriving DecidableEq, Repr

inductive DbOutcome where
  | committed
  | failed
  deriving DecidableEq, Repr

inductive SyncError where
  | rateLimited (resetAt : Bool)
  | github
  | database
  deriving DecidableEq, Repr

inductive GitHubApiResponse where
  | notModified
  | modified (issues : List GitHubIssue)
  deriving DecidableEq, Repr

structure SyncResult where
  org : String
  repo : String
  upserted : Nat
  closed : Nat
  skipped : Bool
  deriving DecidableEq, Repr

/-- The pages GitHub divides a listing into; there is a first page, be it empty. -/
def listingPages (issues : List GitHubIssue) : List (List GitHubIssue) :=
  match issues.chunked 100 with
  | [] => [[]]
  | pages => pages

section Source
variable {ETag : Type} [DecidableEq ETag] {origin : Int → IssueOrigin}

/-- The loop over the pages that are left, from number `page` on. `If-None-Match` is sent
with every request; an unmodified page ends the loop with nothing. -/
def fetchPages (etag : Nat → List GitHubIssue → ETag) (ifNoneMatch : Option ETag) (http : Nat → HttpOutcome) :
    Nat → List (List GitHubIssue) → Except SyncError (Option (List GitHubIssue))
  | _, [] => .ok (some [])
  | page, data :: later =>
    match http page with
    | .rateLimited resetAt => .error (.rateLimited resetAt)
    | .failed => .error .github
    | .answered =>
      if ifNoneMatch = some (etag page data) then .ok none
      else if data = [] then .ok (some [])
      else (fetchPages etag ifNoneMatch http (page + 1) later).map fun rest => rest.map (data ++ ·)

/-- GitHub, the memory of the service and its table. -/
structure GitHubWorld (ETag : Type) (origin : Int → IssueOrigin) where
  github : (repo : Repository) → Listing origin repo
  etagCache : String → Option ETag
  rows : List IssueRow

/-- The ETag of the first page is remembered once all pages have been read. -/
def fetchIssuesForRepo (etag : Nat → List GitHubIssue → ETag) (s : GitHubWorld ETag origin) (repo : Repository)
    (http : Nat → HttpOutcome) : GitHubWorld ETag origin × Except SyncError GitHubApiResponse :=
  let pages := listingPages (s.github repo).issues
  match fetchPages etag (s.etagCache repo.repoKey) http 1 pages with
  | .error error => (s, .error error)
  | .ok none => (s, .ok .notModified)
  | .ok (some issues) =>
    ({ s with etagCache := Function.update s.etagCache repo.repoKey (pages.head?.map (etag 1)) },
      .ok (.modified issues))

/-- The body of the `try` block; a failed transaction is rolled back. -/
def syncAttempt (etag : Nat → List GitHubIssue → ETag) (s : GitHubWorld ETag origin) (repo : Repository)
    (http : Nat → HttpOutcome) (db : DbOutcome) : GitHubWorld ETag origin × Except SyncError SyncResult :=
  match fetchIssuesForRepo etag s repo http with
  | (t, .error error) => (t, .error error)
  | (t, .ok .notModified) => (t, .ok ⟨repo.owner, repo.repo, 0, 0, true⟩)
  | (t, .ok (.modified issues)) =>
    match db with
    | .failed => (t, .error .database)
    | .committed =>
      let (rows, upserted, closed) := syncIssuesToDb repo t.rows issues
      ({ t with rows := rows }, .ok ⟨repo.owner, repo.repo, upserted, closed, false⟩)

/-- One retry after a rate limit whose reset time is known; `http` has the requests of
either attempt. -/
def syncRepo (etag : Nat → List GitHubIssue → ETag) (s : GitHubWorld ETag origin) (repo : Repository)
    (http : Nat → Nat → HttpOutcome) (db : DbOutcome) : GitHubWorld ETag origin × Except SyncError SyncResult :=
  match syncAttempt etag s repo (http 1) db with
  | (t, .error (.rateLimited true)) => syncAttempt etag t repo (http 2) db
  | outcome => outcome

/-- The issues of a repository change, one of them is synced, or the service is restarted. -/
inductive GitHubStep (origin : Int → IssueOrigin) where
  | change (repo : Repository) (listing : Listing origin repo)
  | sync (repo : Repository) (http : Nat → Nat → HttpOutcome) (db : DbOutcome)
  | restart

def gitHubStep (etag : Nat → List GitHubIssue → ETag) (s : GitHubWorld ETag origin) :
    GitHubStep origin → GitHubWorld ETag origin
  | .change repo listing => { s with github := Function.update s.github repo listing }
  | .sync repo http db => (syncRepo etag s repo http db).1
  | .restart => { s with etagCache := fun _ => none }

def GitHubWorld.init : GitHubWorld ETag origin where
  github := fun _ => ⟨[], List.nodup_nil, fun _ member => absurd member List.not_mem_nil⟩
  etagCache := fun _ => none
  rows := []

def gitHubRun (etag : Nat → List GitHubIssue → ETag) (steps : List (GitHubStep origin)) : GitHubWorld ETag origin :=
  Run.exec (gitHubStep etag) .init steps

end Source

section Fetch
variable {ETag : Type} {etag : Nat → List GitHubIssue → ETag} {sent : Option ETag}
  {http : Nat → HttpOutcome} {page : Nat} {pages : List (List GitHubIssue)}

/-- The requests are answered up to a page that bears the ETag sent. -/
def MeetsETag (etag : Nat → List GitHubIssue → ETag) (sent : Option ETag) (http : Nat → HttpOutcome) (page : Nat)
    (pages : List (List GitHubIssue)) : Prop :=
  ∃ n data, pages[n]? = some data ∧ sent = some (etag (page + n) data) ∧ ∀ m ≤ n, http (page + m) = .answered

/-- After pages that are answered and do not bear the ETag sent, one is refused for the
rate limit with a known reset time. -/
def MeetsLimit (etag : Nat → List GitHubIssue → ETag) (sent : Option ETag) (http : Nat → HttpOutcome) (page : Nat)
    (pages : List (List GitHubIssue)) : Prop :=
  ∃ n, n < pages.length ∧ http (page + n) = .rateLimited true ∧
    ∀ m < n, http (page + m) = .answered ∧ ∀ data, pages[m]? = some data → sent ≠ some (etag (page + m) data)

theorem meetsETag_cons {data : List GitHubIssue} : MeetsETag etag sent http page (data :: pages) ↔
    http page = .answered ∧ (sent = some (etag page data) ∨ MeetsETag etag sent http (page + 1) pages) := by
  constructor
  · rintro ⟨n, found, there, bears, answered⟩
    refine ⟨answered 0 (Nat.zero_le n), ?_⟩
    cases n with
    | zero =>
      cases Option.some.inj there
      exact Or.inl bears
    | succ n =>
      refine Or.inr ⟨n, found, there, ?_, fun m le => ?_⟩
      · rwa [Nat.add_right_comm, Nat.add_assoc]
      · rw [Nat.add_right_comm, Nat.add_assoc]
        exact answered (m + 1) (Nat.succ_le_succ le)
  · rintro ⟨first, bears | ⟨n, found, there, bears, answered⟩⟩
    · refine ⟨0, data, rfl, bears, fun m le => ?_⟩
      rw [Nat.le_zero.mp le]
      exact first
    · refine ⟨n + 1, found, there, ?_, fun m le => ?_⟩
      · rwa [Nat.add_right_comm, Nat.add_assoc] at bears
      · cases m with
        | zero => exact first
        | succ m =>
          have earlier := answered m (Nat.le_of_succ_le_succ le)
          rwa [Nat.add_right_comm, Nat.add_assoc] at earlier

theorem meetsLimit_cons {data : List GitHubIssue} : MeetsLimit etag sent http page (data :: pages) ↔
    http page = .rateLimited true ∨
      http page = .answered ∧ sent ≠ some (etag page data) ∧ MeetsLimit etag sent http (page + 1) pages := by
  constructor
  · rintro ⟨n, bound, limited, before⟩
    cases n with
    | zero => exact Or.inl limited
    | succ n =>
      obtain ⟨answered, bears_not⟩ := before 0 (Nat.succ_pos n)
      refine Or.inr ⟨answered, bears_not data rfl, n, Nat.lt_of_succ_lt_succ bound, ?_, fun m less => ?_⟩
      · rwa [Nat.add_right_comm, Nat.add_assoc]
      · rw [Nat.add_right_comm, Nat.add_assoc]
        exact before (m + 1) (Nat.succ_lt_succ less)
  · rintro (limited | ⟨answered, bears_not, n, bound, limited, before⟩)
    · exact ⟨0, Nat.succ_pos _, limited, fun m less => absurd less (Nat.not_lt_zero m)⟩
    · refine ⟨n + 1, Nat.succ_lt_succ bound, ?_, fun m less => ?_⟩
      · rwa [Nat.add_right_comm, Nat.add_assoc] at limited
      · cases m with
        | zero =>
          refine ⟨answered, fun found there => ?_⟩
          cases Option.some.inj there
          exact bears_not
        | succ m =>
          have earlier := before m (Nat.lt_of_succ_lt_succ less)
          rwa [Nat.add_right_comm, Nat.add_assoc] at earlier

variable [DecidableEq ETag]

/-- Only the last page can be empty. -/
def OnlyLastEmpty (pages : List (List GitHubIssue)) : Prop := ∀ data ∈ pages.dropLast, data ≠ []

theorem OnlyLastEmpty.tail {data : List GitHubIssue} (full : OnlyLastEmpty (data :: pages)) : OnlyLastEmpty pages := by
  intro other member
  cases pages with
  | nil => cases member
  | cons next later => exact full other (List.mem_cons_of_mem _ member)

/-- The loop stops early at an empty page, which is the last one. -/
theorem fetchPages_cons {data : List GitHubIssue} (full : OnlyLastEmpty (data :: pages)) :
    fetchPages etag sent http page (data :: pages) = match http page with
      | .rateLimited resetAt => .error (.rateLimited resetAt)
      | .failed => .error .github
      | .answered =>
        if sent = some (etag page data) then .ok none
        else (fetchPages etag sent http (page + 1) pages).map fun rest => rest.map (data ++ ·) := by
  rw [fetchPages]
  cases http page with
  | rateLimited resetAt => rfl
  | failed => rfl
  | answered =>
    dsimp only
    split
    · rfl
    · split
      · rename_i empty
        have last : pages = [] := by
          by_contra more
          refine full data ?_ empty
          rw [List.dropLast_cons_of_ne_nil more]
          exact List.mem_cons_self
        rw [last, empty]
        rfl
      · rfl

/-- The loop ends unmodified exactly if it comes to a page that bears the ETag. -/
theorem fetchPages_eq_none (full : OnlyLastEmpty pages) :
    fetchPages etag sent http page pages = .ok none ↔ MeetsETag etag sent http page pages := by
  induction pages generalizing page with
  | nil =>
    refine iff_of_false (fun same => ?_) ?_
    · cases Except.ok.inj same
    · rintro ⟨n, data, there, _⟩
      simp at there
  | cons data later ih =>
    rw [fetchPages_cons full, meetsETag_cons, ← ih full.tail]
    cases http page with
    | rateLimited resetAt => simp
    | failed => simp
    | answered =>
      by_cases bears : sent = some (etag page data)
      · simp [bears]
      · simp only [bears, if_false, false_or, true_and]
        cases fetchPages etag sent http (page + 1) later with
        | error error => simp [Except.map]
        | ok rest => cases rest <;> simp [Except.map]

theorem fetchPages_eq_limited (full : OnlyLastEmpty pages) :
    fetchPages etag sent http page pages = .error (.rateLimited true) ↔ MeetsLimit etag sent http page pages := by
  induction pages generalizing page with
  | nil =>
    refine iff_of_false (fun same => ?_) ?_
    · cases same
    · rintro ⟨n, bound, _⟩
      exact absurd bound (Nat.not_lt_zero n)
  | cons data later ih =>
    rw [fetchPages_cons full, meetsLimit_cons, ← ih full.tail]
    cases http page with
    | rateLimited resetAt => simp
    | failed => simp
    | answered =>
      by_cases bears : sent = some (etag page data)
      · simp [bears]
      · simp only [bears, if_false, reduceCtorEq, false_or, true_and, not_false_eq_true, ne_eq]
        cases fetchPages etag sent http (page + 1) later with
        | error error => simp [Except.map]
        | ok rest => simp [Except.map]

/-- A fetch that reads all the pages has all the issues. -/
theorem fetchPages_complete (full : OnlyLastEmpty pages) {issues : List GitHubIssue}
    (fetched : fetchPages etag sent http page pages = .ok (some issues)) : issues = pages.flatten := by
  induction pages generalizing page issues with
  | nil => exact (Option.some.inj (Except.ok.inj fetched)).symm
  | cons data later ih =>
    rw [fetchPages_cons full] at fetched
    cases sees : http page with
    | rateLimited resetAt => simp [sees] at fetched
    | failed => simp [sees] at fetched
    | answered =>
      simp only [sees] at fetched
      split at fetched
      · cases Except.ok.inj fetched
      · cases remaining : fetchPages etag sent http (page + 1) later with
        | error error => simp [remaining, Except.map] at fetched
        | ok rest =>
          cases rest with
          | none => simp [remaining, Except.map] at fetched
          | some rest =>
            rw [remaining] at fetched
            rw [List.flatten_cons, ← ih full.tail remaining]
            exact (Option.some.inj (Except.ok.inj fetched)).symm

/-- No fetch fails in the database. -/
theorem fetchPages_ne_database : fetchPages etag sent http page pages ≠ .error .database := by
  induction pages generalizing page with
  | nil => nofun
  | cons data later ih =>
    rw [fetchPages]
    cases http page with
    | rateLimited resetAt => nofun
    | failed => nofun
    | answered =>
      dsimp only
      split
      · nofun
      · split
        · nofun
        · cases outcome : fetchPages etag sent http (page + 1) later with
          | error error =>
            intro same
            cases same
            exact ih outcome
          | ok rest => nofun

theorem listingPages_flatten (issues : List GitHubIssue) : (listingPages issues).flatten = issues := by
  have whole : (issues.chunked 100).flatten = issues := List.flatten_chunked (by decide) issues
  unfold listingPages
  split
  · rename_i none_there
    rw [← whole, none_there]
    rfl
  · exact whole

theorem listingPages_onlyLastEmpty (issues : List GitHubIssue) : OnlyLastEmpty (listingPages issues) := by
  intro data member
  unfold listingPages at member
  split at member
  · cases member
  · exact List.ne_nil_of_mem_chunked (by decide) (List.mem_of_mem_dropLast member)

end Fetch

section Run
variable {ETag : Type} [DecidableEq ETag] {etag : Nat → List GitHubIssue → ETag} {origin : Int → IssueOrigin}
  {s : GitHubWorld ETag origin} {repo : Repository}

/-- The result that reports a skipped run. -/
def SyncResult.skip (repo : Repository) : SyncResult := ⟨repo.owner, repo.repo, 0, 0, true⟩

/-- The memory once all pages of a repository have been read. -/
def GitHubWorld.remembering (etag : Nat → List GitHubIssue → ETag) (s : GitHubWorld ETag origin) (repo : Repository) :
    String → Option ETag :=
  Function.update s.etagCache repo.repoKey ((listingPages (s.github repo).issues).head?.map (etag 1))

/-- The outcome is an error that leaves the table alone, or the listing has been stored. -/
def Stores (etag : Nat → List GitHubIssue → ETag) (s : GitHubWorld ETag origin) (repo : Repository)
    (outcome : GitHubWorld ETag origin × Except SyncError SyncResult) : Prop :=
  match outcome.2 with
  | .error error => outcome.1.rows = s.rows ∧
      outcome.1.etagCache = if error = .database then s.remembering etag repo else s.etagCache
  | .ok result => result.skipped = false ∧ outcome.1.etagCache = s.remembering etag repo ∧
      outcome.1.rows = (syncIssuesToDb repo s.rows (s.github repo).issues).1

theorem not_meetsETag_of_meetsLimit {sent : Option ETag} {http : Nat → HttpOutcome} {page : Nat}
    {pages : List (List GitHubIssue)} (full : OnlyLastEmpty pages) (limited : MeetsLimit etag sent http page pages) :
    ¬ MeetsETag etag sent http page pages := by
  rw [← fetchPages_eq_none full, (fetchPages_eq_limited full).mpr limited]
  exact nofun

variable (etag) in
/-- How one attempt ends. -/
theorem syncAttempt_cases (s : GitHubWorld ETag origin) (repo : Repository) (http : Nat → HttpOutcome)
    (db : DbOutcome) :
    let pages := listingPages (s.github repo).issues
    let sent := s.etagCache repo.repoKey
    (MeetsETag etag sent http 1 pages ∧ syncAttempt etag s repo http db = (s, .ok (.skip repo))) ∨
    (MeetsLimit etag sent http 1 pages ∧ syncAttempt etag s repo http db = (s, .error (.rateLimited true))) ∨
    (¬ MeetsETag etag sent http 1 pages ∧ ¬ MeetsLimit etag sent http 1 pages ∧
      Stores etag s repo (syncAttempt etag s repo http db) ∧
      (syncAttempt etag s repo http db).2 ≠ .error (.rateLimited true)) := by
  dsimp only
  have full := listingPages_onlyLastEmpty (s.github repo).issues
  rw [← fetchPages_eq_none full, ← fetchPages_eq_limited full]
  unfold syncAttempt fetchIssuesForRepo
  dsimp only
  cases fetched : fetchPages etag (s.etagCache repo.repoKey) http 1 (listingPages (s.github repo).issues) with
  | error error =>
    by_cases limited : error = .rateLimited true
    · subst limited
      exact Or.inr (Or.inl ⟨rfl, rfl⟩)
    · have unread : error ≠ .database := by
        rintro rfl
        exact fetchPages_ne_database fetched
      refine Or.inr (Or.inr ⟨nofun, ?_, ⟨rfl, (if_neg unread).symm⟩, ?_⟩)
      · exact fun same => limited (Except.error.inj same)
      · exact fun same => limited (Except.error.inj same)
  | ok issues =>
    cases issues with
    | none => exact Or.inl ⟨rfl, rfl⟩
    | some issues =>
      have all : issues = (s.github repo).issues := by
        rw [fetchPages_complete full fetched, listingPages_flatten]
      refine Or.inr (Or.inr ⟨fun same => ?_, nofun, ?_⟩)
      · cases Except.ok.inj same
      · cases db with
        | failed => exact ⟨⟨rfl, rfl⟩, nofun⟩
        | committed => exact ⟨⟨rfl, rfl, by rw [all]⟩, nofun⟩

/-- One of the requests of the call is answered with the news that a page bears the
remembered ETag: in the first attempt, or in the second after a rate limit. -/
def MeetsRemembered (etag : Nat → List GitHubIssue → ETag) (s : GitHubWorld ETag origin) (repo : Repository)
    (http : Nat → Nat → HttpOutcome) : Prop :=
  let pages := listingPages (s.github repo).issues
  let sent := s.etagCache repo.repoKey
  MeetsETag etag sent (http 1) 1 pages ∨ MeetsLimit etag sent (http 1) 1 pages ∧ MeetsETag etag sent (http 2) 1 pages

variable (etag) in
/-- A call skips the update exactly if it meets the remembered ETag. -/
theorem syncRepo_cases (s : GitHubWorld ETag origin) (repo : Repository) (http : Nat → Nat → HttpOutcome)
    (db : DbOutcome) :
    (MeetsRemembered etag s repo http ∧ syncRepo etag s repo http db = (s, .ok (.skip repo))) ∨
    (¬ MeetsRemembered etag s repo http ∧ Stores etag s repo (syncRepo etag s repo http db)) := by
  have full := listingPages_onlyLastEmpty (s.github repo).issues
  rcases syncAttempt_cases etag s repo (http 1) db with
    ⟨meets, first⟩ | ⟨limited, first⟩ | ⟨misses, unlimited, stores, differs⟩
  · refine Or.inl ⟨Or.inl meets, ?_⟩
    rw [syncRepo, first]
  · have retried : syncRepo etag s repo http db = syncAttempt etag s repo (http 2) db := by
      rw [syncRepo, first]
    have misses := not_meetsETag_of_meetsLimit full limited
    rw [retried]
    rcases syncAttempt_cases etag s repo (http 2) db with
      ⟨meets, second⟩ | ⟨again, second⟩ | ⟨misses', _, stores, _⟩
    · exact Or.inl ⟨Or.inr ⟨limited, meets⟩, second⟩
    · refine Or.inr ⟨?_, ?_⟩
      · rintro (meets | ⟨_, meets⟩)
        · exact misses meets
        · exact not_meetsETag_of_meetsLimit full again meets
      · rw [second]
        exact ⟨rfl, rfl⟩
    · refine Or.inr ⟨?_, stores⟩
      rintro (meets | ⟨_, meets⟩)
      · exact misses meets
      · exact misses' meets
  · have once : syncRepo etag s repo http db = syncAttempt etag s repo (http 1) db := by
      rw [syncRepo]
      split
      · rename_i same
        rw [same] at differs
        exact absurd rfl differs
      · rfl
    rw [once]
    refine Or.inr ⟨?_, stores⟩
    rintro (meets | ⟨limited, _⟩)
    · exact misses meets
    · exact unlimited limited

/-- The listing a call has stored by a transaction that was committed. -/
def committedListing (etag : Nat → List GitHubIssue → ETag) (repo : Repository) (s : GitHubWorld ETag origin) :
    GitHubStep origin → Option (List GitHubIssue)
  | .sync other http db =>
    match (syncRepo etag s other http db).2 with
    | .ok result => if other = repo ∧ result.skipped = false then some (s.github repo).issues else none
    | .error _ => none
  | _ => none

/-- The listing of a repository that was last committed. -/
def lastCommitted (etag : Nat → List GitHubIssue → ETag) (repo : Repository) (steps : List (GitHubStep origin)) :
    List GitHubIssue :=
  (Run.observed (gitHubStep etag) (committedListing etag repo) .init steps).getLast?.getD []

theorem lastCommitted_concat (steps : List (GitHubStep origin)) (a : GitHubStep origin) :
    lastCommitted etag repo (steps ++ [a]) =
      (committedListing etag repo (gitHubRun etag steps) a).getD (lastCommitted etag repo steps) := by
  rw [lastCommitted, Run.observed_concat]
  change _ = (committedListing etag repo (Run.exec (gitHubStep etag) .init steps) a).getD _
  cases committedListing etag repo (Run.exec (gitHubStep etag) .init steps) a with
  | none => rw [Option.toList_none, List.append_nil]; rfl
  | some issues => rw [Option.toList_some, List.getLast?_concat]; rfl

variable (etag) in
/-- The open rows are always those of the listing last committed. -/
theorem rows_lastCommitted (steps : List (GitHubStep origin)) :
    AtHome origin (gitHubRun etag steps).rows ∧
      ∀ repo, Stored (gitHubRun etag steps).rows repo (lastCommitted etag repo steps) := by
  induction steps using List.reverseRecOn with
  | nil =>
    refine ⟨fun row member => absurd member List.not_mem_nil, fun repo row => iff_of_false ?_ ?_⟩
    · exact fun found => absurd found.1 List.not_mem_nil
    · rintro ⟨_, member, _⟩
      exact absurd member List.not_mem_nil
  | append_singleton before a ih =>
    obtain ⟨home, stored⟩ := ih
    have next : gitHubRun etag (before ++ [a]) = gitHubStep etag (gitHubRun etag before) a := Run.exec_concat ..
    rw [next]
    simp only [lastCommitted_concat]
    generalize gitHubRun etag before = s at home stored
    cases a with
    | change repo listing => exact ⟨home, stored⟩
    | restart => exact ⟨home, stored⟩
    | sync other http db =>
      rw [gitHubStep]
      rcases syncRepo_cases etag s other http db with ⟨_, skipped⟩ | ⟨_, stores⟩
      · have unseen : ∀ repo, committedListing etag repo s (.sync other http db) = none := by
          intro repo
          simp only [committedListing, skipped, SyncResult.skip, Bool.true_eq_false, and_false, if_false]
        simp only [unseen, skipped]
        exact ⟨home, stored⟩
      · cases outcome : (syncRepo etag s other http db).2 with
        | error error =>
          have unseen : ∀ repo, committedListing etag repo s (.sync other http db) = none := by
            intro repo
            rw [committedListing, outcome]
          rw [Stores, outcome] at stores
          simp only [unseen, stores.1]
          exact ⟨home, stored⟩
        | ok result =>
          rw [Stores, outcome] at stores
          obtain ⟨unskipped, _, rows⟩ := stores
          rw [rows]
          refine ⟨atHome_syncIssuesToDb home, fun repo => ?_⟩
          simp only [committedListing, outcome, unskipped, and_true]
          by_cases same : other = repo
          · subst same
            rw [if_pos rfl]
            exact stored_syncIssuesToDb home
          · rw [if_neg same]
            exact stored_syncIssuesToDb_other home (Ne.symm same) (stored repo)

/-- A call that returns leaves the open issues of GitHub stored as open exactly if no page
it is answered bears the remembered ETag, or the listing last committed has the same issues. -/
theorem github_sync_converges_iff (etag : Nat → List GitHubIssue → ETag) (steps : List (GitHubStep origin))
    (repo : Repository) (http : Nat → Nat → HttpOutcome) (db : DbOutcome) :
    let s := gitHubRun etag steps
    (∀ result, (syncRepo etag s repo http db).2 = .ok result →
        Stored (syncRepo etag s repo http db).1.rows repo (s.github repo).issues) ↔
      (MeetsRemembered etag s repo http →
        ∀ issue, issue ∈ lastCommitted etag repo steps ↔ issue ∈ (s.github repo).issues) := by
  dsimp only
  obtain ⟨home, stored⟩ := rows_lastCommitted etag steps
  rcases syncRepo_cases etag (gitHubRun etag steps) repo http db with
    ⟨meets, skipped⟩ | ⟨misses, stores⟩
  · rw [skipped, ← (stored repo).congr_iff]
    exact ⟨fun converges _ => converges _ rfl, fun same result _ => same meets⟩
  · refine iff_of_true ?_ fun meets => absurd meets misses
    intro result returned
    rw [Stores, returned] at stores
    rw [stores.2.2]
    exact stored_syncIssuesToDb home

/-- A complete reading of the issues of a repository, with whether it was committed. A
restart forgets it. -/
def reading (etag : Nat → List GitHubIssue → ETag) (repo : Repository) (s : GitHubWorld ETag origin) :
    GitHubStep origin → Option (Option (List GitHubIssue × Bool))
  | .sync other http db =>
    if other = repo then
      match (syncRepo etag s other http db).2 with
      | .ok result => if result.skipped then none else some (some ((s.github repo).issues, true))
      | .error error => if error = .database then some (some ((s.github repo).issues, false)) else none
    else none
  | .restart => some none
  | .change _ _ => none

/-- The last complete reading since the restart. -/
def lastRead (etag : Nat → List GitHubIssue → ETag) (repo : Repository) (steps : List (GitHubStep origin)) :
    Option (List GitHubIssue × Bool) :=
  (Run.observed (gitHubStep etag) (reading etag repo) .init steps).getLast?.join

theorem lastRead_concat (steps : List (GitHubStep origin)) (a : GitHubStep origin) :
    lastRead etag repo (steps ++ [a]) = (reading etag repo (gitHubRun etag steps) a).getD (lastRead etag repo steps) := by
  rw [lastRead, Run.observed_concat]
  change _ = (reading etag repo (Run.exec (gitHubStep etag) .init steps) a).getD _
  cases reading etag repo (Run.exec (gitHubStep etag) .init steps) a with
  | none => rw [Option.toList_none, List.append_nil]; rfl
  | some read => rw [Option.toList_some, List.getLast?_concat]; rfl

/-- The ETag of the first page of a reading. -/
def firstETag (etag : Nat → List GitHubIssue → ETag) (read : List GitHubIssue × Bool) : Option ETag :=
  (listingPages read.1).head?.map (etag 1)

omit [DecidableEq ETag] in
theorem remembering_apply (s : GitHubWorld ETag origin) (repo other : Repository) :
    s.remembering etag other repo.repoKey =
      if other = repo then (listingPages (s.github repo).issues).head?.map (etag 1) else s.etagCache repo.repoKey := by
  unfold GitHubWorld.remembering
  by_cases same : other = repo
  · subst same
    rw [if_pos rfl, Function.update_self]
  · rw [if_neg same, Function.update_of_ne fun keys => same (repoKey_injective keys).symm]

variable (etag) in
/-- The service remembers the ETag of the first page it read last, whether or not what it
read was committed; what was committed is what was committed last. -/
theorem etagCache_lastRead (steps : List (GitHubStep origin)) (repo : Repository) :
    (gitHubRun etag steps).etagCache repo.repoKey = (lastRead etag repo steps).bind (firstETag etag) ∧
      ∀ issues, lastRead etag repo steps = some (issues, true) → lastCommitted etag repo steps = issues := by
  induction steps using List.reverseRecOn with
  | nil => exact ⟨rfl, nofun⟩
  | append_singleton before a ih =>
    have next : gitHubRun etag (before ++ [a]) = gitHubStep etag (gitHubRun etag before) a := Run.exec_concat ..
    rw [next, lastRead_concat, lastCommitted_concat]
    generalize gitHubRun etag before = s at ih
    cases a with
    | change other listing => exact ih
    | restart => exact ⟨rfl, nofun⟩
    | sync other http db =>
      rw [gitHubStep, reading, committedListing]
      rcases syncRepo_cases etag s other http db with ⟨_, skipped⟩ | ⟨_, stores⟩
      · simp only [skipped, SyncResult.skip, if_true, ite_self, Option.getD_none, Bool.true_eq_false, and_false,
          if_false]
        exact ih
      · cases outcome : (syncRepo etag s other http db).2 with
        | error error =>
          rw [Stores, outcome] at stores
          rw [stores.2]
          by_cases same : other = repo
          · subst same
            by_cases lost : error = .database
            · simp only [lost, if_true, Option.getD_some, remembering_apply]
              exact ⟨rfl, nofun⟩
            · simp only [lost, if_false, if_true, Option.getD_none]
              exact ih
          · simp only [same, if_false, Option.getD_none]
            split
            · rw [remembering_apply, if_neg same]
              exact ih
            · exact ih
        | ok result =>
          rw [Stores, outcome] at stores
          obtain ⟨unskipped, cached, _⟩ := stores
          rw [cached, remembering_apply]
          by_cases same : other = repo
          · subst same
            simp only [unskipped, and_self, if_true, Bool.false_eq_true, if_false, Option.getD_some]
            refine ⟨rfl, fun issues read => ?_⟩
            cases read
            rfl
          · simp only [same, if_false, false_and, Option.getD_none]
            exact ih

/-- What was last read for a repository has been committed and is still listed if its first
page is, and no later page bears its ETag. -/
def ReadingHolds (etag : Nat → List GitHubIssue → ETag) (steps : List (GitHubStep origin)) (repo : Repository) : Prop :=
  let current := ((gitHubRun etag steps).github repo).issues
  ∀ issues committed, lastRead etag repo steps = some (issues, committed) →
    ((listingPages issues).head? = (listingPages current).head? →
      committed = true ∧ ∀ issue, issue ∈ issues ↔ issue ∈ current) ∧
    ∀ n data, (listingPages current)[n + 1]? = some data →
      firstETag etag (issues, committed) ≠ some (etag (1 + (n + 1)) data)

theorem stored_of_meetsETag (identifies : Function.Injective (etag 1)) {steps : List (GitHubStep origin)}
    (holds : ReadingHolds etag steps repo) {http : Nat → HttpOutcome}
    (meets : MeetsETag etag ((gitHubRun etag steps).etagCache repo.repoKey) http 1
      (listingPages ((gitHubRun etag steps).github repo).issues)) :
    Stored (gitHubRun etag steps).rows repo ((gitHubRun etag steps).github repo).issues := by
  obtain ⟨cached, committed_last⟩ := etagCache_lastRead etag steps repo
  obtain ⟨n, data, there, bears, _⟩ := meets
  rw [cached] at bears
  cases read : lastRead etag repo steps with
  | none =>
    rw [read] at bears
    cases bears
  | some reading =>
    obtain ⟨issues, committed⟩ := reading
    obtain ⟨unchanged, elsewhere⟩ := holds issues committed read
    rw [read, Option.bind_some] at bears
    cases n with
    | zero =>
      obtain ⟨first, firstly, same⟩ := Option.map_eq_some_iff.mp bears
      have heads : (listingPages issues).head? =
          (listingPages ((gitHubRun etag steps).github repo).issues).head? := by
        rw [firstly, List.head?_eq_getElem?, there, identifies same]
      obtain ⟨rfl, same_issues⟩ := unchanged heads
      rw [← committed_last issues read] at same_issues
      exact ((rows_lastCommitted etag steps).2 repo).congr_iff.mpr same_issues
    | succ n => exact absurd bears (elsewhere n data there)

/-- The remembered ETag serves its purpose where what was last read holds. -/
theorem syncRepo_stored_of_readingHolds (identifies : Function.Injective (etag 1)) {steps : List (GitHubStep origin)}
    (holds : ReadingHolds etag steps repo) (http : Nat → Nat → HttpOutcome) (db : DbOutcome) {result : SyncResult}
    (returned : (syncRepo etag (gitHubRun etag steps) repo http db).2 = .ok result) :
    Stored (syncRepo etag (gitHubRun etag steps) repo http db).1.rows repo
      ((gitHubRun etag steps).github repo).issues := by
  rcases syncRepo_cases etag (gitHubRun etag steps) repo http db with ⟨meets, skipped⟩ | ⟨_, stores⟩
  · rw [skipped]
    rcases meets with meets | ⟨_, meets⟩
    · exact stored_of_meetsETag identifies holds meets
    · exact stored_of_meetsETag identifies holds meets
  · rw [Stores, returned] at stores
    rw [stores.2.2]
    exact stored_syncIssuesToDb (rows_lastCommitted etag steps).1

end Run

section Sample

def sampleRepository : Repository := ⟨"org", "repo", by decide, by decide⟩

def sampleIssue : GitHubIssue := ⟨1, 7, "Fix the docs", "https://github.com/org/repo/issues/7", ["good first issue"],
  some "maintainer", "2026-01-01", "2026-01-02"⟩

def sampleOrigin (_ : Int) : IssueOrigin := ⟨sampleRepository, 7, "2026-01-01"⟩

def sampleListing : Listing sampleOrigin sampleRepository where
  issues := [sampleIssue]
  distinct := List.nodup_singleton _
  at_home := by
    intro issue member
    rw [List.mem_singleton.mp member]
    rfl

def allAnswered (_ _ : Nat) : HttpOutcome := .answered

/-- An issue is labelled, and the transaction of the run that reads it fails. -/
def uncommittedRun : List (GitHubStep sampleOrigin) :=
  [.change sampleRepository sampleListing, .sync sampleRepository allAnswered .failed]

/-- The next run is skipped, with nothing stored. -/
theorem uncommitted_reading_skipped :
    (syncRepo Prod.mk (gitHubRun Prod.mk uncommittedRun) sampleRepository allAnswered .committed).2 =
        .ok ⟨"org", "repo", 0, 0, true⟩ ∧
      ¬ Stored (syncRepo Prod.mk (gitHubRun Prod.mk uncommittedRun) sampleRepository allAnswered .committed).1.rows
        sampleRepository ((gitHubRun Prod.mk uncommittedRun).github sampleRepository).issues := by
  refine ⟨rfl, fun stored => ?_⟩
  have nothing : (syncRepo Prod.mk (gitHubRun Prod.mk uncommittedRun) sampleRepository allAnswered .committed).1.rows =
      [] := rfl
  have listed : ((gitHubRun Prod.mk uncommittedRun).github sampleRepository).issues = [sampleIssue] := rfl
  rw [nothing, listed] at stored
  have found := (stored (openRow sampleRepository sampleIssue)).mpr ⟨_, List.mem_singleton_self _, rfl⟩
  exact List.not_mem_nil found.1

end Sample

end WorkloadGovernor
