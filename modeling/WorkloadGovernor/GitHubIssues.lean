import Mathlib.Data.List.Basic
import Mathlib.Data.List.Nodup

namespace WorkloadGovernor

/-- An issue as GitHub lists it, with the names of its labels and the login of its author. -/
structure GitHubIssue where
  id : Int
  number : Int
  title : String
  html_url : String
  labels : List String
  user : Option String
  created_at : String
  updated_at : String
  deriving DecidableEq, Repr

/-- A repository; neither name has a slash. -/
structure Repository where
  owner : String
  repo : String
  owner_slashless : '/' ∉ owner.toList
  repo_slashless : '/' ∉ repo.toList
  deriving DecidableEq

/-- `${owner}/${repo}`. -/
def Repository.repoKey (repo : Repository) : String := repo.owner ++ "/" ++ repo.repo

theorem repoKey_injective : Function.Injective Repository.repoKey := by
  intro one other same
  have chars := congrArg String.toList same
  simp only [Repository.repoKey, String.toList_append, List.append_assoc] at chars
  have split : one.owner.toList = other.owner.toList ∧ one.repo.toList = other.repo.toList := by
    have slash : ∀ text : List Char, "/".toList ++ text = '/' :: text := fun _ => rfl
    rw [slash, slash] at chars
    obtain ⟨owner, _, repo⟩ := (List.append_cons_inj_of_notMem one.owner_slashless one.repo_slashless).mp chars
    exact ⟨owner, repo⟩
  cases one
  cases other
  simp only [Repository.mk.injEq]
  exact ⟨String.toList_inj.mp split.1, String.toList_inj.mp split.2⟩

/-- What never changes about an issue. -/
structure IssueOrigin where
  repository : Repository
  number : Int
  created_at : String
  deriving DecidableEq

/-- The open labelled issues of a repository; an issue id stands for one issue for ever. -/
structure Listing (origin : Int → IssueOrigin) (repo : Repository) where
  issues : List GitHubIssue
  distinct : (issues.map GitHubIssue.id).Nodup
  at_home : ∀ issue ∈ issues, origin issue.id = ⟨repo, issue.number, issue.created_at⟩

inductive IssueState where
  | open
  | closed
  deriving DecidableEq, Repr

/-- A row of `github_issues`. -/
structure IssueRow where
  id : Int
  owner : String
  repo : String
  number : Int
  title : String
  html_url : String
  state : IssueState
  labels : List String
  author : Option String
  created_at : String
  updated_at : String
  deriving DecidableEq, Repr

/-- The row an insertion makes. -/
def openRow (repo : Repository) (issue : GitHubIssue) : IssueRow where
  id := issue.id
  owner := repo.owner
  repo := repo.repo
  number := issue.number
  title := issue.title
  html_url := issue.html_url
  state := .open
  labels := issue.labels
  author := issue.user
  created_at := issue.created_at
  updated_at := issue.updated_at

/-- `INSERT … ON CONFLICT (id) DO UPDATE`. -/
def upsertIssue (repo : Repository) (rows : List IssueRow) (issue : GitHubIssue) : List IssueRow :=
  if issue.id ∈ rows.map IssueRow.id then
    rows.map fun row =>
      if row.id = issue.id then
        { row with
          title := issue.title
          html_url := issue.html_url
          state := .open
          labels := issue.labels
          author := issue.user
          updated_at := issue.updated_at }
      else row
  else rows ++ [openRow repo issue]

/-- The rows the closing `UPDATE` selects; without any open id there is no condition on ids. -/
def closes (repo : Repository) (openIds : List Int) (row : IssueRow) : Bool :=
  row.owner = repo.owner ∧ row.repo = repo.repo ∧ row.state = .open ∧ (openIds = [] ∨ row.id ∉ openIds)

def syncIssuesToDb (repo : Repository) (rows : List IssueRow) (issues : List GitHubIssue) :
    List IssueRow × Nat × Nat :=
  let upserted := issues.foldl (upsertIssue repo) rows
  let openIds := issues.map GitHubIssue.id
  (upserted.map fun row => if closes repo openIds row then { row with state := .closed } else row,
    issues.length, upserted.countP (closes repo openIds))

section Table
variable {origin : Int → IssueOrigin} {repo other : Repository} {rows : List IssueRow} {issue : GitHubIssue}
  {row : IssueRow}

/-- Each row has what never changes about the issue its id stands for. -/
def AtHome (origin : Int → IssueOrigin) (rows : List IssueRow) : Prop :=
  ∀ row ∈ rows, row.owner = (origin row.id).repository.owner ∧ row.repo = (origin row.id).repository.repo ∧
    row.number = (origin row.id).number ∧ row.created_at = (origin row.id).created_at

/-- The rows stored open for a repository are those of the issues. -/
def Stored (rows : List IssueRow) (repo : Repository) (issues : List GitHubIssue) : Prop :=
  ∀ row, (row ∈ rows ∧ row.owner = repo.owner ∧ row.repo = repo.repo ∧ row.state = .open) ↔
    ∃ issue ∈ issues, row = openRow repo issue

theorem openRow_injective : Function.Injective (openRow repo) := by
  intro one two same
  cases one
  cases two
  simpa [openRow] using same

/-- Two tables of one repository agree exactly if their issues do. -/
theorem Stored.congr_iff {issues others : List GitHubIssue} (stored : Stored rows repo issues) :
    Stored rows repo others ↔ ∀ issue, issue ∈ issues ↔ issue ∈ others := by
  constructor
  · intro also issue
    have both := (stored (openRow repo issue)).symm.trans (also (openRow repo issue))
    constructor
    · intro member
      obtain ⟨found, there, same⟩ := both.mp ⟨issue, member, rfl⟩
      rwa [openRow_injective same]
    · intro member
      obtain ⟨found, there, same⟩ := both.mpr ⟨issue, member, rfl⟩
      rwa [openRow_injective same]
  · intro same row
    rw [stored row]
    exact exists_congr fun issue => and_congr_left' (same issue)

theorem mem_upsertIssue (home : AtHome origin rows)
    (own : origin issue.id = ⟨repo, issue.number, issue.created_at⟩) :
    row ∈ upsertIssue repo rows issue ↔ row = openRow repo issue ∨ row ∈ rows ∧ row.id ≠ issue.id := by
  have refreshed : ∀ old ∈ rows, old.id = issue.id →
      { old with
        title := issue.title
        html_url := issue.html_url
        state := .open
        labels := issue.labels
        author := issue.user
        updated_at := issue.updated_at } = openRow repo issue := by
    intro old member same
    obtain ⟨owner, name, number, created⟩ := home old member
    rw [same, own] at owner name number created
    simp only [openRow, IssueRow.mk.injEq]
    exact ⟨same, owner, name, number, trivial, trivial, trivial, trivial, trivial, created, trivial⟩
  unfold upsertIssue
  split
  · rename_i known
    obtain ⟨there, there_member, there_id⟩ := List.mem_map.mp known
    rw [List.mem_map]
    constructor
    · rintro ⟨old, member, rfl⟩
      split
      · rename_i same
        exact Or.inl (refreshed old member same)
      · rename_i differs
        exact Or.inr ⟨member, differs⟩
    · rintro (rfl | ⟨member, differs⟩)
      · exact ⟨there, there_member, by rw [if_pos there_id, refreshed there there_member there_id]⟩
      · exact ⟨row, member, if_neg differs⟩
  · rename_i fresh
    rw [List.mem_append, List.mem_singleton]
    constructor
    · rintro (member | rfl)
      · exact Or.inr ⟨member, fun same => fresh (same ▸ List.mem_map_of_mem member)⟩
      · exact Or.inl rfl
    · rintro (rfl | ⟨member, _⟩)
      · exact Or.inr rfl
      · exact Or.inl member

theorem atHome_upsertIssue (home : AtHome origin rows)
    (own : origin issue.id = ⟨repo, issue.number, issue.created_at⟩) : AtHome origin (upsertIssue repo rows issue) := by
  intro row member
  rcases (mem_upsertIssue home own).mp member with rfl | ⟨old, _⟩
  · have there : origin (openRow repo issue).id = ⟨repo, issue.number, issue.created_at⟩ := own
    rw [there]
    exact ⟨rfl, rfl, rfl, rfl⟩
  · exact home row old

theorem atHome_upsertAll {issues : List GitHubIssue} (home : AtHome origin rows)
    (own : ∀ issue ∈ issues, origin issue.id = ⟨repo, issue.number, issue.created_at⟩) :
    AtHome origin (issues.foldl (upsertIssue repo) rows) := by
  induction issues generalizing rows with
  | nil => exact home
  | cons first later ih =>
    exact ih (atHome_upsertIssue home (own first List.mem_cons_self))
      fun issue member => own issue (List.mem_cons_of_mem _ member)

/-- After the upserts the table has the row of each issue, and of other issues what it had. -/
theorem mem_upsertAll {issues : List GitHubIssue} (home : AtHome origin rows)
    (distinct : (issues.map GitHubIssue.id).Nodup)
    (own : ∀ issue ∈ issues, origin issue.id = ⟨repo, issue.number, issue.created_at⟩) :
    row ∈ issues.foldl (upsertIssue repo) rows ↔
      (∃ issue ∈ issues, row = openRow repo issue) ∨ row ∈ rows ∧ row.id ∉ issues.map GitHubIssue.id := by
  induction issues generalizing rows with
  | nil => simp
  | cons first later ih =>
    obtain ⟨first_fresh, rest_distinct⟩ := List.nodup_cons.mp distinct
    have first_own := own first List.mem_cons_self
    rw [List.foldl_cons, ih (atHome_upsertIssue home first_own) rest_distinct
      fun issue member => own issue (List.mem_cons_of_mem _ member),
      mem_upsertIssue home first_own, List.map_cons, List.mem_cons, not_or]
    constructor
    · rintro (⟨issue, member, rfl⟩ | ⟨rfl | ⟨old, differs⟩, absent⟩)
      · exact Or.inl ⟨issue, List.mem_cons_of_mem _ member, rfl⟩
      · exact Or.inl ⟨first, List.mem_cons_self, rfl⟩
      · exact Or.inr ⟨old, differs, absent⟩
    · rintro (⟨issue, member, rfl⟩ | ⟨old, differs, absent⟩)
      · rcases List.mem_cons.mp member with rfl | later_member
        · exact Or.inr ⟨Or.inl rfl, first_fresh⟩
        · exact Or.inl ⟨issue, later_member, rfl⟩
      · exact Or.inr ⟨Or.inr ⟨old, differs⟩, absent⟩

theorem closes_iff {openIds : List Int} : closes repo openIds row = true ↔
    row.owner = repo.owner ∧ row.repo = repo.repo ∧ row.state = .open ∧ row.id ∉ openIds := by
  simp only [closes, decide_eq_true_eq]
  refine and_congr_right fun _ => and_congr_right fun _ => and_congr_right fun _ => or_iff_right_of_imp ?_
  rintro rfl
  exact List.not_mem_nil

section Sync
variable {listing : Listing origin repo}

/-- The open rows of the repository are those of the issues read. -/
theorem stored_syncIssuesToDb (home : AtHome origin rows) :
    Stored (syncIssuesToDb repo rows listing.issues).1 repo listing.issues := by
  have upserted := fun row => @mem_upsertAll _ _ _ row _ home listing.distinct listing.at_home
  intro row
  rw [syncIssuesToDb, List.mem_map]
  constructor
  · rintro ⟨⟨old, member, rfl⟩, owner, name, opened⟩
    split at opened
    · cases opened
    · rename_i stays
      rw [if_neg stays] at owner name ⊢
      have listed : old.id ∈ listing.issues.map GitHubIssue.id := by
        by_contra absent
        exact stays (closes_iff.mpr ⟨owner, name, opened, absent⟩)
      rcases (upserted old).mp member with found | ⟨_, absent⟩
      · exact found
      · exact absurd listed absent
  · rintro ⟨issue, member, rfl⟩
    refine ⟨⟨openRow repo issue, (upserted _).mpr (Or.inl ⟨issue, member, rfl⟩), if_neg fun closing => ?_⟩,
      rfl, rfl, rfl⟩
    exact (closes_iff.mp closing).2.2.2 (List.mem_map_of_mem member)

theorem atHome_syncIssuesToDb (home : AtHome origin rows) :
    AtHome origin (syncIssuesToDb repo rows listing.issues).1 := by
  have upserted := atHome_upsertAll home listing.at_home
  intro row member
  obtain ⟨old, there, rfl⟩ := List.mem_map.mp member
  split
  · exact upserted old there
  · exact upserted old there

/-- The open rows of another repository stay. -/
theorem stored_syncIssuesToDb_other (home : AtHome origin rows) (differs : other ≠ repo) {issues : List GitHubIssue}
    (stored : Stored rows other issues) : Stored (syncIssuesToDb repo rows listing.issues).1 other issues := by
  have foreign : other.owner = repo.owner → other.repo ≠ repo.repo := by
    intro owner name
    refine differs ?_
    cases other
    cases repo
    simp_all
  intro row
  rw [← stored row, syncIssuesToDb, List.mem_map]
  refine ⟨?_, ?_⟩
  · rintro ⟨⟨old, member, rfl⟩, owner, name, opened⟩
    split at opened
    · cases opened
    · rename_i stays
      rw [if_neg stays] at owner name ⊢
      rcases (mem_upsertAll home listing.distinct listing.at_home).mp member with ⟨issue, _, rfl⟩ | ⟨old_member, _⟩
      · exact absurd name.symm (foreign owner.symm)
      · exact ⟨old_member, owner, name, opened⟩
  · rintro ⟨member, owner, name, opened⟩
    refine ⟨⟨row, ?_, if_neg fun closing => ?_⟩, owner, name, opened⟩
    · refine (mem_upsertAll home listing.distinct listing.at_home).mpr (Or.inr ⟨member, fun listed => ?_⟩)
      -- a row of the other repository cannot have the id of an issue of this one
      obtain ⟨issue, issue_member, same⟩ := List.mem_map.mp listed
      obtain ⟨row_owner, row_name, _⟩ := home row member
      rw [← same, listing.at_home issue issue_member] at row_owner row_name
      exact foreign (owner.symm.trans row_owner) (name.symm.trans row_name)
    · obtain ⟨row_owner, row_name, _⟩ := closes_iff.mp closing
      exact foreign (owner.symm.trans row_owner) (name.symm.trans row_name)

end Sync

end Table

end WorkloadGovernor
