import WorkloadGovernor.Lib.Chunks
import WorkloadGovernor.Lib.Js
import WorkloadGovernor.Lib.Run

namespace WorkloadGovernor

namespace InfiniteScroll

section Rows

def PAGE_SIZE : Nat := 20

inductive IssueStatus where
  | open
  | applied
  | assigned
  deriving DecidableEq, Repr

inductive Difficulty where
  | beginner
  | intermediate
  | advanced
  deriving DecidableEq, Repr

/-- A row of a page; its own `status` is not read. -/
structure RawIssue where
  issue_id : String
  org_id : String
  title : String
  reward_xlm : Option Rat
  created_at : String
  labels : Option (List String)
  difficulty : Option Difficulty
  applicant_count : Option Nat
  deriving DecidableEq

structure OrgIssue extends RawIssue where
  status : IssueStatus
  deriving DecidableEq

/-- The page of an org's listing that a server with fixed listings sends. -/
def pageFrom (listing : String → List RawIssue) (orgId : String) (offset : Nat) : List RawIssue :=
  ((listing orgId).drop offset).take PAGE_SIZE

/-- The first pages of an org's listing, one after the other. -/
def firstPages (listing : String → List RawIssue) (orgId : String) (count : Nat) : List RawIssue :=
  (List.range count).flatMap fun i => pageFrom listing orgId (i * PAGE_SIZE)

/-- A row of the counts that a contributor's statistics have by organisation. -/
structure OrgCounts where
  org_id : String
  assignments : Option Int

structure ContributorStats where
  totalApplications : Option Int
  byOrganization : Option (List OrgCounts)

/-- How a request for the state of the contributor ends: rejected or not `ok`, with a body
that cannot be read, or with a body. -/
inductive Answer (α : Type) where
  | refused
  | unreadable (thrown : Option String)
  | body (value : α)

/-- How a request for a page fails: by its status, or by what is thrown. -/
inductive PageFailure where
  | status (code : Nat)
  | thrown (message : Option String)

/-- `err instanceof Error ? err.message : 'Unknown error'`. -/
def errorText (thrown : Option String) : String := thrown.getD "Unknown error"

def PageFailure.text : PageFailure → String
  | .status code => "Issues fetch failed: " ++ toString code
  | .thrown message => errorText message

end Rows

section Hook

/-- The answer a run of `fetchPage` waits for. -/
inductive Stage where
  | applications
  | assignments
  | stats
  | page
  deriving DecidableEq, Repr

/-- A run of `fetchPage`, with the org that it closes over. -/
structure Request where
  orgId : String
  offset : Nat
  stage : Stage
  deriving DecidableEq, Repr

/-- What the hook is called with, its state and refs, and the fetch under way. -/
structure ScrollState where
  orgId : String
  contributorAddress : Option String
  issues : List OrgIssue
  loading : Bool
  hasMore : Bool
  error : Option String
  globalAppCount : Int
  orgAssignCount : Int
  offsetRef : Nat
  fetchingRef : Bool
  appliedRef : List String
  assignedRef : List String
  statsLoadedRef : Bool
  request : Option Request

namespace ScrollState

/-- The stage after `request`'s. -/
def await (state : ScrollState) (request : Request) (stage : Stage) : ScrollState :=
  { state with request := some { request with stage := stage } }

/-- The state of the contributor is fetched with the first page only. -/
def fetchPage (state : ScrollState) (offset : Nat) : ScrollState :=
  if state.fetchingRef then state
  else
    { state with
      fetchingRef := true
      loading := true
      error := none
      statsLoadedRef := if offset = 0 then false else state.statsLoadedRef
      request := some
        { orgId := state.orgId
          offset := offset
          stage := if offset = 0 ∧ (Js.truthy state.contributorAddress).isSome then .applications else .page } }

def loadMore (state : ScrollState) : ScrollState :=
  if state.loading ∨ state.hasMore = false ∨ state.fetchingRef then state else state.fetchPage state.offsetRef

/-- What the effect does as well. -/
def refresh (state : ScrollState) : ScrollState :=
  fetchPage { state with
    offsetRef := 0
    appliedRef := []
    assignedRef := []
    statsLoadedRef := false
    issues := []
    hasMore := true } 0

/-- A change of the org or the contributor, with the effect it causes. -/
def select (state : ScrollState) (orgId : String) (contributorAddress : Option String) : ScrollState :=
  if orgId = state.orgId ∧ contributorAddress = state.contributorAddress then state
  else refresh { state with orgId := orgId, contributorAddress := contributorAddress }

def setIssueStatus (state : ScrollState) (issueId : String) (status : IssueStatus) : ScrollState :=
  { state with
    issues := state.issues.map fun i => if i.issue_id = issueId then { i with status := status } else i }

/-- The status of the contributor on an issue. -/
def statusOf (state : ScrollState) (issueId : String) : IssueStatus :=
  if issueId ∈ state.assignedRef then .assigned else if issueId ∈ state.appliedRef then .applied else .open

def merged (state : ScrollState) (rawIssues : List RawIssue) : List OrgIssue :=
  rawIssues.map fun raw => { raw with status := state.statusOf raw.issue_id }

/-- The `finally` of `fetchPage`. -/
def settle (state : ScrollState) : ScrollState :=
  { state with
    loading := false
    fetchingRef := false
    request := none }

def receivePage (state : ScrollState) (offset : Nat) (rawIssues : List RawIssue) : ScrollState :=
  settle { state with
    issues := if offset = 0 then state.merged rawIssues else state.issues ++ state.merged rawIssues
    offsetRef := offset + rawIssues.length
    hasMore := rawIssues.length = PAGE_SIZE }

def fail (state : ScrollState) (text : String) : ScrollState := settle { state with error := some text }

def receiveStats (state : ScrollState) (orgId : String) (stats : ContributorStats) : ScrollState :=
  { state with
    globalAppCount := stats.totalApplications.getD 0
    orgAssignCount :=
      (((stats.byOrganization.getD []).find? fun r => r.org_id = orgId).bind OrgCounts.assignments).getD 0 }

end ScrollState

/-- What can happen: the page changes what the hook is called with, calls one of its
functions, or an answer arrives. -/
inductive ScrollEvent where
  | select (orgId : String) (contributorAddress : Option String)
  | loadMore
  | refresh
  | setIssueStatus (issueId : String) (status : IssueStatus)
  | applications (answer : Answer (List String))
  | assignments (answer : Answer (List String))
  | stats (answer : Answer ContributorStats)
  | page
  | pageFails (failure : PageFailure)

/-- An answer that is not waited for changes nothing. -/
def step (listing : String → List RawIssue) (state : ScrollState) : ScrollEvent → ScrollState
  | .select orgId contributorAddress => state.select orgId contributorAddress
  | .loadMore => state.loadMore
  | .refresh => state.refresh
  | .setIssueStatus issueId status => state.setIssueStatus issueId status
  | .applications answer =>
    match state.request with
    | some ⟨orgId, offset, .applications⟩ =>
      match answer with
      | .refused => state.await ⟨orgId, offset, .applications⟩ .assignments
      | .unreadable thrown => state.fail (errorText thrown)
      | .body apps => { state with appliedRef := apps }.await ⟨orgId, offset, .applications⟩ .assignments
    | _ => state
  | .assignments answer =>
    match state.request with
    | some ⟨orgId, offset, .assignments⟩ =>
      match answer with
      | .refused => state.await ⟨orgId, offset, .assignments⟩ .stats
      | .unreadable thrown => state.fail (errorText thrown)
      | .body asgns => { state with assignedRef := asgns }.await ⟨orgId, offset, .assignments⟩ .stats
    | _ => state
  | .stats answer =>
    match state.request with
    | some ⟨orgId, offset, .stats⟩ =>
      match answer with
      | .refused => { state with statsLoadedRef := true }.await ⟨orgId, offset, .stats⟩ .page
      | .unreadable thrown => state.fail (errorText thrown)
      | .body stats =>
        { state.receiveStats orgId stats with statsLoadedRef := true }.await ⟨orgId, offset, .stats⟩ .page
    | _ => state
  | .page =>
    match state.request with
    | some ⟨orgId, offset, .page⟩ => state.receivePage offset (pageFrom listing orgId offset)
    | _ => state
  | .pageFails failure =>
    match state.request with
    | some ⟨_, _, .page⟩ => state.fail failure.text
    | _ => state

/-- The hook after its first render and effect. -/
def mounted (orgId : String) (contributorAddress : Option String) : ScrollState :=
  ScrollState.refresh {
    orgId := orgId
    contributorAddress := contributorAddress
    issues := []
    loading := false
    hasMore := true
    error := none
    globalAppCount := 0
    orgAssignCount := 0
    offsetRef := 0
    fetchingRef := false
    appliedRef := []
    assignedRef := []
    statsLoadedRef := false
    request := none }

end Hook

section Effects
open ScrollState
variable {listing : String → List RawIssue} {state next : ScrollState} {event : ScrollEvent} {request : Request}

/-- What is shown, without the contributor's status. -/
def ScrollState.rows (state : ScrollState) : List RawIssue := state.issues.map OrgIssue.toRawIssue

/-- The guard says whether a fetch is under way, and nothing is shown before the first page. -/
structure Guarded (state : ScrollState) : Prop where
  guard : state.fetchingRef = state.request.isSome
  clear : state.request.isSome → state.error = none
  top : state.offsetRef = 0 → state.issues = []
  first : ∀ request ∈ state.request, request.offset = 0 → state.issues = []

/-- What is shown stays, and a fetch that ends has failed. -/
structure Calm (state next : ScrollState) : Prop where
  org : next.orgId = state.orgId
  rows : next.rows = state.rows
  failed : next.request = none → next.error = none → state.request = none ∧ state.error = none

/-- An event that makes a fetch fail. -/
def ScrollEvent.Fails : ScrollEvent → Prop
  | .applications (.unreadable _) | .assignments (.unreadable _) | .stats (.unreadable _) | .pageFails _ => True
  | _ => False

/-- An answer that is no page. -/
def ScrollEvent.Answers : ScrollEvent → Prop
  | .applications _ | .assignments _ | .stats _ | .pageFails _ => True
  | _ => False

/-- What such an answer can do: nothing, end the fetch with an error, or lead to its next stage. -/
inductive Turn (state : ScrollState) (event : ScrollEvent) : ScrollState → Prop where
  | stays : Turn state event state
  | fails (text : String) (fails : event.Fails) : Turn state event (state.fail text)
  | awaits {request : Request} (found : state.request = some request) (stage : Stage) (applied assigned : List String)
      (apps asgns : Int) (loaded : Bool) :
      Turn state event (ScrollState.await { state with
        appliedRef := applied, assignedRef := assigned, globalAppCount := apps, orgAssignCount := asgns,
        statsLoadedRef := loaded } request stage)

/-- What an event can do: leave what is shown as it is, clear it and have a fetch under way,
or show the page that was fetched. -/
inductive Effect (listing : String → List RawIssue) (state : ScrollState) : ScrollEvent → ScrollState → Prop where
  | calm {event : ScrollEvent} {next : ScrollState} (guarded : Guarded next) (calm : Calm state next)
      (unasked : event = .page → ∀ orgId offset, state.request ≠ some ⟨orgId, offset, .page⟩) :
      Effect listing state event next
  | cleared {event : ScrollEvent} {next : ScrollState} (guarded : Guarded next) (empty : next.issues = [])
      (fetching : next.request.isSome) (other : event ≠ .page) : Effect listing state event next
  | received {next : ScrollState} {orgId : String} {offset : Nat} (found : state.request = some ⟨orgId, offset, .page⟩)
      (result : next = state.receivePage offset (pageFrom listing orgId offset)) : Effect listing state .page next

theorem rows_length (state : ScrollState) : state.rows.length = state.issues.length := List.length_map _

@[simp] theorem rows_eq_nil_iff : state.rows = [] ↔ state.issues = [] := List.map_eq_nil_iff

@[simp] theorem merged_rows (state : ScrollState) (rawIssues : List RawIssue) :
    (state.merged rawIssues).map OrgIssue.toRawIssue = rawIssues := by
  rw [merged, List.map_map]
  exact List.map_id _

theorem setIssueStatus_rows (state : ScrollState) (issueId : String) (status : IssueStatus) :
    (state.setIssueStatus issueId status).rows = state.rows := by
  rw [rows, setIssueStatus, List.map_map]
  refine List.map_congr_left fun issue _ => ?_
  rw [Function.comp_apply]
  split <;> rfl

theorem Guarded.fetchPage (guarded : Guarded state) (offset : Nat) (top : offset = 0 → state.issues = []) :
    Guarded (state.fetchPage offset) ∧ (state.fetchPage offset).request.isSome ∧
      (state.fetchPage offset).orgId = state.orgId ∧ (state.fetchPage offset).issues = state.issues := by
  unfold ScrollState.fetchPage
  by_cases fetching : state.fetchingRef
  · rw [if_pos fetching]
    exact ⟨guarded, guarded.guard ▸ fetching, rfl, rfl⟩
  · rw [if_neg fetching]
    refine ⟨⟨rfl, fun _ => rfl, guarded.top, ?_⟩, rfl, rfl, rfl⟩
    intro request sent at_top
    cases sent
    exact top at_top

theorem Guarded.refresh (guarded : Guarded state) :
    Guarded state.refresh ∧ state.refresh.issues = [] ∧ state.refresh.request.isSome := by
  have blank : Guarded { state with
      offsetRef := 0, appliedRef := [], assignedRef := [], statsLoadedRef := false, issues := [], hasMore := true } :=
    ⟨guarded.guard, guarded.clear, fun _ => rfl, fun _ _ _ => rfl⟩
  obtain ⟨own, fetching, _, shown⟩ := blank.fetchPage 0 fun _ => rfl
  exact ⟨own, shown, fetching⟩

theorem Calm.refl (state : ScrollState) : Calm state state := ⟨rfl, rfl, fun settled clear => ⟨settled, clear⟩⟩

theorem Guarded.fail (guarded : Guarded state) (text : String) :
    Guarded (state.fail text) ∧ Calm state (state.fail text) :=
  ⟨⟨rfl, fun fetching => Bool.noConfusion fetching, guarded.top, fun _ member => absurd member (Option.not_mem_none _)⟩,
    ⟨rfl, rfl, fun _ clear => by cases clear⟩⟩

/-- An answer about the contributor leads to the next stage. -/
theorem Guarded.await (guarded : Guarded state) (found : state.request = some request) (stage : Stage)
    (applied assigned : List String) (apps asgns : Int) (loaded : Bool) :
    Guarded (ScrollState.await { state with
      appliedRef := applied, assignedRef := assigned, globalAppCount := apps, orgAssignCount := asgns,
      statsLoadedRef := loaded } request stage) ∧
    Calm state (ScrollState.await { state with
      appliedRef := applied, assignedRef := assigned, globalAppCount := apps, orgAssignCount := asgns,
      statsLoadedRef := loaded } request stage) := by
  have fetching : state.request.isSome := by
    rw [found]
    rfl
  refine ⟨⟨guarded.guard.trans fetching, fun _ => guarded.clear fetching, guarded.top, ?_⟩, rfl, rfl, ?_⟩
  · intro next sent at_top
    cases sent
    exact guarded.first request found at_top
  · intro settled
    cases settled

theorem step_turn (listing : String → List RawIssue) (answers : event.Answers) :
    Turn state event (step listing state event) := by
  cases event with
  | applications answer =>
    rw [step]
    split
    · rename_i found
      cases answer with
      | refused => exact .awaits found .assignments _ _ _ _ _
      | unreadable thrown => exact .fails _ trivial
      | body apps => exact .awaits found .assignments apps _ _ _ _
    · exact .stays
  | assignments answer =>
    rw [step]
    split
    · rename_i found
      cases answer with
      | refused => exact .awaits found .stats _ _ _ _ _
      | unreadable thrown => exact .fails _ trivial
      | body asgns => exact .awaits found .stats _ asgns _ _ _
    · exact .stays
  | stats answer =>
    rw [step]
    split
    · rename_i found
      cases answer with
      | refused => exact .awaits found .page _ _ _ _ true
      | unreadable thrown => exact .fails _ trivial
      | body stats => exact .awaits found .page _ _ _ _ true
    · exact .stays
  | pageFails failure =>
    rw [step]
    split
    · exact .fails _ trivial
    · exact .stays
  | select _ _ | loadMore | refresh | setIssueStatus _ _ | page => cases answers

theorem Turn.effect (turn : Turn state event next) (guarded : Guarded state) (answers : event.Answers) :
    Effect listing state event next := by
  have other : event ≠ .page := by
    rintro rfl
    exact answers
  cases turn with
  | stays => exact .calm guarded (.refl state) fun same => absurd same other
  | fails text _ =>
    obtain ⟨own, calm⟩ := guarded.fail text
    exact .calm own calm fun same => absurd same other
  | awaits found stage applied assigned apps asgns loaded =>
    obtain ⟨own, calm⟩ := guarded.await found stage applied assigned apps asgns loaded
    exact .calm own calm fun same => absurd same other

theorem step_effect (listing : String → List RawIssue) (guarded : Guarded state) (event : ScrollEvent) :
    Effect listing state event (step listing state event) := by
  have stays {event : ScrollEvent} (other : event ≠ .page) : Effect listing state event state :=
    .calm guarded (.refl state) fun same => absurd same other
  have moves {event : ScrollEvent} {next : ScrollState} (other : event ≠ .page)
      (both : Guarded next ∧ Calm state next) : Effect listing state event next :=
    .calm both.1 both.2 fun same => absurd same other
  by_cases answers : event.Answers
  · exact (step_turn listing answers).effect guarded answers
  cases event with
  | select orgId contributorAddress =>
    rw [step, ScrollState.select]
    split
    · exact stays (by simp)
    · have moved : Guarded { state with orgId := orgId, contributorAddress := contributorAddress } :=
        ⟨guarded.guard, guarded.clear, guarded.top, guarded.first⟩
      obtain ⟨own, empty, fetching⟩ := moved.refresh
      exact .cleared own empty fetching (by simp)
  | loadMore =>
    rw [step, ScrollState.loadMore]
    split
    · exact stays (by simp)
    · obtain ⟨own, fetching, org, shown⟩ := guarded.fetchPage state.offsetRef guarded.top
      refine moves (by simp) ⟨own, org, congrArg (List.map _) shown, fun settled => ?_⟩
      rw [settled] at fetching
      cases fetching
  | refresh =>
    obtain ⟨own, empty, fetching⟩ := guarded.refresh
    exact .cleared own empty fetching (by simp)
  | setIssueStatus issueId status =>
    have emptied (empty : state.issues = []) : (state.setIssueStatus issueId status).issues = [] := by
      rw [setIssueStatus, empty]
      rfl
    have own : Guarded (state.setIssueStatus issueId status) :=
      ⟨guarded.guard, guarded.clear, fun top => emptied (guarded.top top),
        fun request sent top => emptied (guarded.first request sent top)⟩
    exact moves (by simp) ⟨own, rfl, setIssueStatus_rows state issueId status, fun settled clear => ⟨settled, clear⟩⟩
  | page =>
    rw [step]
    split
    · rename_i orgId offset found
      exact .received found rfl
    · rename_i unasked
      exact .calm guarded (.refl state) fun _ orgId offset found => unasked orgId offset found
  | applications _ | assignments _ | stats _ | pageFails _ => exact (answers trivial).elim

end Effects

section Runs
open ScrollState
variable {listing : String → List RawIssue} {state next : ScrollState} {event : ScrollEvent} {orgId : String}
  {offset : Nat}

theorem firstPages_eq_take (listing : String → List RawIssue) (orgId : String) (count : Nat) :
    firstPages listing orgId count = (listing orgId).take (count * PAGE_SIZE) :=
  List.flatMap_first_pages PAGE_SIZE count (listing orgId)

/-- The first pages of the selected org are shown, and at least one once every fetch has
ended and the last has not failed. -/
structure ShowsPages (listing : String → List RawIssue) (state : ScrollState) : Prop where
  shown : ∃ count, state.rows = firstPages listing state.orgId count
  loaded : state.request = none → state.error = none → ∃ count, state.rows = firstPages listing state.orgId (count + 1)

/-- A page that arrives is the selected org's page from the end of the list on, or it is
empty and not the first. -/
def Due (listing : String → List RawIssue) (state : ScrollState) : ScrollEvent → Prop
  | .page => ∀ orgId offset, state.request = some ⟨orgId, offset, .page⟩ →
      pageFrom listing orgId offset = pageFrom listing state.orgId state.issues.length ∨
        pageFrom listing orgId offset = [] ∧ state.issues ≠ []
  | _ => True

theorem Calm.shows (calm : Calm state next) (shows : ShowsPages listing state) : ShowsPages listing next := by
  refine ⟨?_, fun settled clear => ?_⟩
  · rw [calm.rows, calm.org]
    exact shows.shown
  · obtain ⟨ended, unfailed⟩ := calm.failed settled clear
    rw [calm.rows, calm.org]
    exact shows.loaded ended unfailed

theorem receivePage_guarded (state : ScrollState) (offset : Nat) (rawIssues : List RawIssue) :
    Guarded (state.receivePage offset rawIssues) := by
  refine ⟨rfl, fun fetching => Bool.noConfusion fetching, fun top => ?_,
    fun _ member => absurd member (Option.not_mem_none _)⟩
  obtain ⟨at_top, none_read⟩ := Nat.add_eq_zero_iff.mp top
  have merged_none : state.merged rawIssues = [] := by rw [merged, List.length_eq_zero_iff.mp none_read, List.map_nil]
  change (if offset = 0 then state.merged rawIssues else state.issues ++ state.merged rawIssues) = []
  rw [if_pos at_top, merged_none]

/-- The page that arrives is put behind what is shown. -/
theorem Guarded.receivePage_rows (guarded : Guarded state) (found : state.request = some ⟨orgId, offset, .page⟩)
    (rawIssues : List RawIssue) : (state.receivePage offset rawIssues).rows = state.rows ++ rawIssues := by
  change (if offset = 0 then state.merged rawIssues else state.issues ++ state.merged rawIssues).map
    OrgIssue.toRawIssue = _
  by_cases top : offset = 0
  · rw [if_pos top, merged_rows, rows, guarded.first _ found top]
    rfl
  · rw [if_neg top, List.map_append, merged_rows]
    rfl

theorem Guarded.receivePage_shows_iff (guarded : Guarded state) (shows : ShowsPages listing state)
    (found : state.request = some ⟨orgId, offset, .page⟩) :
    ShowsPages listing (state.receivePage offset (pageFrom listing orgId offset)) ↔ Due listing state .page := by
  have fetching : state.request.isSome := by
    rw [found]
    rfl
  have clear : (state.receivePage offset (pageFrom listing orgId offset)).error = none := guarded.clear fetching
  obtain ⟨count, shown⟩ := shows.shown
  rw [firstPages_eq_take] at shown
  have small : (pageFrom listing orgId offset).length ≤ PAGE_SIZE := List.length_take_le _ _
  have joined_iff := List.first_pages_append_iff (by decide) (listing state.orgId) count small
  rw [← shown, rows_length, Ne, rows_eq_nil_iff] at joined_iff
  constructor
  · intro after own start awaited
    cases found.symm.trans awaited
    obtain ⟨more, joined⟩ := after.loaded rfl clear
    rw [guarded.receivePage_rows found, firstPages_eq_take] at joined
    exact joined_iff.mp ⟨more, joined⟩
  · intro due
    obtain ⟨more, joined⟩ := joined_iff.mpr (due orgId offset found)
    have pages : (state.receivePage offset (pageFrom listing orgId offset)).rows =
        firstPages listing state.orgId (more + 1) := by
      rw [guarded.receivePage_rows found, firstPages_eq_take, joined]
    exact ⟨⟨more + 1, pages⟩, fun _ _ => ⟨more, pages⟩⟩

theorem Guarded.step (guarded : Guarded state) (event : ScrollEvent) : Guarded (step listing state event) := by
  have effect := step_effect listing guarded event
  generalize InfiniteScroll.step listing state event = next at effect ⊢
  cases effect with
  | calm own calm unasked => exact own
  | cleared own empty fetching other => exact own
  | received found result =>
    rw [result]
    exact receivePage_guarded state _ _

theorem due_of_ne_page (other : event ≠ .page) : Due listing state event := by
  cases event with
  | page => exact absurd rfl other
  | _ => trivial

/-- A step from what should be shown leads to what should be shown exactly if a page that arrives is due. -/
theorem Guarded.step_shows_iff (guarded : Guarded state) (shows : ShowsPages listing state) (event : ScrollEvent) :
    ShowsPages listing (InfiniteScroll.step listing state event) ↔ Due listing state event := by
  have effect := step_effect listing guarded event
  generalize InfiniteScroll.step listing state event = next at effect ⊢
  cases effect with
  | calm own calm unasked =>
    refine iff_of_true (calm.shows shows) ?_
    by_cases page : event = .page
    · rw [page]
      exact fun orgId offset found => absurd found (unasked page orgId offset)
    · exact due_of_ne_page page
  | cleared own empty fetching other =>
    refine iff_of_true ⟨⟨0, ?_⟩, fun settled => ?_⟩ (due_of_ne_page other)
    · exact rows_eq_nil_iff.mpr empty
    · rw [settled] at fetching
      cases fetching
  | received found result =>
    rw [result]
    exact guarded.receivePage_shows_iff shows found

theorem mounted_guarded (listing : String → List RawIssue) (orgId : String) (contributorAddress : Option String) :
    Guarded (mounted orgId contributorAddress) ∧ ShowsPages listing (mounted orgId contributorAddress) :=
  ⟨⟨rfl, fun _ => rfl, fun _ => rfl, fun _ _ _ => rfl⟩, ⟨0, rfl⟩, fun settled => by cases settled⟩

theorem fetchPage_error (state : ScrollState) (offset : Nat) (clear : state.error = none) :
    (state.fetchPage offset).error = none := by
  unfold ScrollState.fetchPage
  split
  · exact clear
  · rfl

theorem Turn.error (turn : Turn state event next) (succeeds : ¬ event.Fails) (clear : state.error = none) :
    next.error = none := by
  cases turn with
  | stays => exact clear
  | fails text failed => exact absurd failed succeeds
  | awaits => exact clear

theorem step_error (event : ScrollEvent) (succeeds : ¬ event.Fails) (clear : state.error = none) :
    (InfiniteScroll.step listing state event).error = none := by
  by_cases answers : event.Answers
  · exact (step_turn listing answers).error succeeds clear
  cases event with
  | select orgId contributorAddress =>
    rw [InfiniteScroll.step, ScrollState.select]
    split
    · exact clear
    · exact fetchPage_error _ 0 clear
  | loadMore =>
    rw [InfiniteScroll.step, ScrollState.loadMore]
    split
    · exact clear
    · exact fetchPage_error _ _ clear
  | refresh => exact fetchPage_error _ 0 clear
  | setIssueStatus issueId status => exact clear
  | page =>
    rw [InfiniteScroll.step]
    split <;> exact clear
  | applications _ | assignments _ | stats _ | pageFails _ => exact (answers trivial).elim

/-- As long as every fetch succeeds there is no error. -/
theorem error_eq_none_of_succeeded (orgId : String) (contributorAddress : Option String) {events : List ScrollEvent}
    (succeed : ∀ event ∈ events, ¬ event.Fails) :
    (Run.exec (InfiniteScroll.step listing) (mounted orgId contributorAddress) events).error = none := by
  have kept (state : ScrollState) (event : ScrollEvent) (succeeds : ¬ event.Fails) (clear : state.error = none) :
      (InfiniteScroll.step listing state event).error = none := step_error event succeeds clear
  refine Run.exec_invariant_of ?_ kept succeed
  rfl

/-- The list is as long as what was read, and a fetch under way goes on from its end. -/
structure InStep (state : ScrollState) : Prop where
  read : state.offsetRef = state.issues.length
  own : ∀ request ∈ state.request, request.orgId = state.orgId ∧ request.offset = state.issues.length

/-- The list is not begun anew while a fetch is under way. -/
def Undisturbed (state : ScrollState) : ScrollEvent → Prop
  | .select orgId contributorAddress =>
    orgId = state.orgId ∧ contributorAddress = state.contributorAddress ∨ state.request = none
  | .refresh => state.request = none
  | _ => True

theorem InStep.fetchPage (inStep : InStep state) : InStep (state.fetchPage state.offsetRef) := by
  unfold ScrollState.fetchPage
  split
  · exact inStep
  · refine ⟨inStep.read, fun request sent => ?_⟩
    cases sent
    exact ⟨rfl, inStep.read⟩

/-- A list that is begun anew with no fetch under way. -/
theorem refresh_inStep (settled : state.request = none) : InStep state.refresh := by
  have blank : InStep { state with
      offsetRef := 0, appliedRef := [], assignedRef := [], statsLoadedRef := false, issues := [], hasMore := true } := by
    refine ⟨rfl, fun request sent => ?_⟩
    rw [settled] at sent
    cases sent
  exact blank.fetchPage

theorem InStep.fail (inStep : InStep state) (text : String) : InStep (state.fail text) :=
  ⟨inStep.read, fun _ sent => by cases sent⟩

/-- An answer about the contributor leaves the list and the page to be fetched as they are. -/
theorem InStep.await {request : Request} (inStep : InStep state) (found : state.request = some request) (stage : Stage)
    (applied assigned : List String) (apps asgns : Int) (loaded : Bool) :
    InStep (ScrollState.await { state with
      appliedRef := applied, assignedRef := assigned, globalAppCount := apps, orgAssignCount := asgns,
      statsLoadedRef := loaded } request stage) := by
  refine ⟨inStep.read, fun next sent => ?_⟩
  cases sent
  exact inStep.own request found

theorem InStep.receivePage (inStep : InStep state) (found : state.request = some ⟨orgId, offset, .page⟩)
    (rawIssues : List RawIssue) : InStep (state.receivePage offset rawIssues) := by
  obtain ⟨_, at_end⟩ := inStep.own _ found
  have at_end : offset = state.issues.length := at_end
  refine ⟨?_, fun _ sent => by cases sent⟩
  change offset + rawIssues.length =
    (if offset = 0 then state.merged rawIssues else state.issues ++ state.merged rawIssues).length
  have merged_length : (state.merged rawIssues).length = rawIssues.length := List.length_map _
  split
  · omega
  · rw [List.length_append, merged_length, at_end]

theorem InStep.turn (inStep : InStep state) (turn : Turn state event next) : InStep next := by
  cases turn with
  | stays => exact inStep
  | fails text _ => exact inStep.fail text
  | awaits found stage applied assigned apps asgns loaded =>
    exact inStep.await found stage applied assigned apps asgns loaded

theorem InStep.step (inStep : InStep state) (undisturbed : Undisturbed state event) :
    InStep (step listing state event) := by
  by_cases answers : event.Answers
  · exact inStep.turn (step_turn listing answers)
  cases event with
  | select orgId contributorAddress =>
    rw [InfiniteScroll.step, ScrollState.select]
    split
    · exact inStep
    · rename_i changed
      exact refresh_inStep (undisturbed.resolve_left changed)
  | loadMore =>
    rw [InfiniteScroll.step, ScrollState.loadMore]
    split
    · exact inStep
    · exact inStep.fetchPage
  | refresh => exact refresh_inStep undisturbed
  | setIssueStatus issueId status =>
    have length : (state.setIssueStatus issueId status).issues.length = state.issues.length := List.length_map _
    exact ⟨inStep.read.trans length.symm, fun request sent => length ▸ inStep.own request sent⟩
  | page =>
    rw [InfiniteScroll.step]
    split
    · rename_i found
      exact inStep.receivePage found _
    · exact inStep
  | applications _ | assignments _ | stats _ | pageFails _ => exact (answers trivial).elim

theorem InStep.due (inStep : InStep state) (event : ScrollEvent) : Due listing state event := by
  cases event with
  | page =>
    intro orgId offset found
    obtain ⟨org, at_end⟩ := inStep.own _ found
    have org : orgId = state.orgId := org
    have at_end : offset = state.issues.length := at_end
    rw [org, at_end]
    exact Or.inl rfl
  | _ => trivial

/-- Every page that arrives is due where org and contributor change, and the list is refreshed, only while no fetch is
under way. -/
theorem due_of_undisturbed {contributorAddress : Option String} {events : List ScrollEvent}
    (undisturbed : Run.EachStep (InfiniteScroll.step listing) (mounted orgId contributorAddress) Undisturbed events) :
    Run.EachStep (InfiniteScroll.step listing) (mounted orgId contributorAddress) (Due listing) events := by
  have start : InStep (mounted orgId contributorAddress) := refresh_inStep rfl
  intro before event earlier
  have before_undisturbed := undisturbed.of_prefix ((List.prefix_append before [event]).trans earlier)
  exact (Run.exec_invariant_each start (fun _ _ met inStep => inStep.step met) before_undisturbed).due event

/-- The hook shows the selected org's pages throughout a run exactly if every page that
arrives in the run is due. -/
theorem scroll_shows_pages_iff (listing : String → List RawIssue) (orgId : String) (contributorAddress : Option String)
    (events : List ScrollEvent) :
    Run.Always (InfiniteScroll.step listing) (mounted orgId contributorAddress) (ShowsPages listing) events ↔
      Run.EachStep (InfiniteScroll.step listing) (mounted orgId contributorAddress) (Due listing) events := by
  obtain ⟨guarded, shows⟩ := mounted_guarded listing orgId contributorAddress
  exact Run.always_iff_eachStep guarded (fun _ event own => own.step event) shows
    (fun _ event own good => own.step_shows_iff good event) events

def firstIssue : RawIssue := ⟨"1", "a", "Leak", none, "2026-01-05", none, none, none⟩

/-- Org `a` has an issue, every other has none. -/
def oneListing : String → List RawIssue := fun orgId => if orgId = "a" then [firstIssue] else []

/-- Org `a` has a page of issues and five more. -/
def twoPageListing : String → List RawIssue := fun orgId => if orgId = "a" then List.replicate 25 firstIssue else []

/-- Both pages of an org are shown, and no more is fetched then. -/
theorem two_pages_shown :
    Run.Always (InfiniteScroll.step twoPageListing) (mounted "a" none) (ShowsPages twoPageListing)
      [.page, .loadMore, .page, .loadMore] ∧
    (Run.exec (InfiniteScroll.step twoPageListing) (mounted "a" none) [.page, .loadMore, .page, .loadMore]).rows =
      List.replicate 25 firstIssue := by
  refine ⟨(scroll_shows_pages_iff _ _ _ _).mpr (due_of_undisturbed ?_), by decide⟩
  exact Run.eachStep_cons trivial (Run.eachStep_cons trivial (Run.eachStep_cons trivial
    (Run.eachStep_cons trivial Run.eachStep_nil)))

/-- Org `b` is selected while the first page of `a` is on its way. -/
theorem late_page_shown : ¬ Run.Always (InfiniteScroll.step oneListing) (mounted "a" none) (ShowsPages oneListing)
    [.select "b" none, .page] := by
  intro always
  obtain ⟨count, shown⟩ := always.last.shown
  have late : (Run.exec (InfiniteScroll.step oneListing) (mounted "a" none) [.select "b" none, .page]).rows =
      [firstIssue] := by decide
  have selected : (Run.exec (InfiniteScroll.step oneListing) (mounted "a" none) [.select "b" none, .page]).orgId =
      "b" := by decide
  have none_of_b : oneListing "b" = [] := by decide
  rw [late, selected, firstPages_eq_take, none_of_b, List.take_nil] at shown
  cases shown

end Runs

end InfiniteScroll

end WorkloadGovernor
