import WorkloadGovernor.GitHubIssues
import WorkloadGovernor.Lib.Number

namespace WorkloadGovernor

namespace GitHubService

section Source

/-- An item of a search result; `pull_request` tells whether the field is there. -/
structure SearchItem where
  id : Int
  number : Int
  title : String
  body : Option String
  labels : Option (List String)
  state : String
  created_at : String
  updated_at : String
  pull_request : Bool
  deriving DecidableEq, Repr

structure Issue where
  id : Int
  number : Int
  title : String
  body : Option String
  labels : List String
  state : IssueState
  created_at : String
  updated_at : String
  deriving DecidableEq, Repr

/-- An answer, without items where `items` is no array, and its headers `link`, `x-ratelimit-remaining` and
`x-ratelimit-reset`. -/
structure SearchResponse where
  items : Option (List SearchItem)
  link : Option String
  remaining : Option String
  reset : Option String
  deriving DecidableEq, Repr

def toIssue (item : SearchItem) : Issue where
  id := item.id
  number := item.number
  title := item.title
  body := item.body
  labels := item.labels.getD []
  state := if item.state = "open" then .open else .closed
  created_at := item.created_at
  updated_at := item.updated_at

/-- The items of a page that are no pull requests. -/
def pageIssues (items : List SearchItem) : List Issue := (items.filter fun item => !item.pull_request).map toIssue

/-- `linkHeader !== null && linkHeader.includes('rel="next"')`. -/
def announcesNext (link : Option String) : Bool := link.any fun header => Js.includes header "rel=\"next\""

/-- Whether a number of milliseconds is a time, so that `toISOString` does not throw. -/
def isTime : Js.Number → Bool
  | .finite ms => |ms| ≤ 8640000000000000
  | _ => false

/-- The time the rate limit is reset at. -/
def resetTime (reset : String) : Js.Number := (Js.Number.parseInt reset).mul (.finite 1000)

/-- What the warning of an approaching rate limit throws. -/
def warnRateLimit (remaining reset : Option String) : Option String :=
  if (Js.truthy remaining).any fun left => (Js.Number.parseInt left).lt (.finite 10) then
    match Js.truthy reset with
    | some reset => if isTime (resetTime reset) then none else some "Invalid time value"
    | none => none
  else none

/-- What `fetchIssues` returns or throws, and the pages it asked for. -/
structure FetchRun where
  result : Except String (List Issue)
  requested : List Nat

/-- The loop from a page on; `none` if it takes more than `fuel` turns. -/
def fetchFrom (fetch : Nat → Except String SearchResponse) (perPage : Nat) :
    Nat → Nat → List Issue → List Nat → Option FetchRun
  | 0, _, _, _ => none
  | fuel + 1, page, issues, requested =>
    match fetch page with
    | .error err => some ⟨.error err, requested ++ [page]⟩
    | .ok response =>
      match response.items with
      | none => some ⟨.ok issues, requested ++ [page]⟩
      | some items =>
        let hasMore := announcesNext response.link && (pageIssues items).length == perPage
        match warnRateLimit response.remaining response.reset with
        | some err => some ⟨.error err, requested ++ [page]⟩
        | none =>
          if hasMore then fetchFrom fetch perPage fuel (page + 1) (issues ++ pageIssues items) (requested ++ [page])
          else some ⟨.ok (issues ++ pageIssues items), requested ++ [page]⟩

def fetchIssues (fetch : Nat → Except String SearchResponse) (perPage fuel : Nat) : Option FetchRun :=
  fetchFrom fetch perPage fuel 1 [] []

end Source

section Proofs
variable {fetch : Nat → Except String SearchResponse} {perPage : Nat} {pages : List (List SearchItem)}

/-- GitHub answers with the pages one after the other, and announces a next page on all but the last. The header
`x-ratelimit-reset` is a time. -/
structure Serves (fetch : Nat → Except String SearchResponse) (perPage : Nat) (pages : List (List SearchItem)) :
    Prop where
  some_page : pages ≠ []
  small : ∀ page ∈ pages, page.length ≤ perPage
  answers : ∀ i page, pages[i]? = some page →
    ∃ link remaining reset, fetch (i + 1) = .ok ⟨some page, link, remaining, reset⟩ ∧
      (announcesNext link = true ↔ i + 1 < pages.length) ∧ ∀ time ∈ reset, isTime (resetTime time) = true

theorem warnRateLimit_eq_none {remaining reset : Option String}
    (dated : ∀ time ∈ reset, isTime (resetTime time) = true) : warnRateLimit remaining reset = none := by
  rw [warnRateLimit]
  split
  · cases kept : Js.truthy reset with
    | none => rfl
    | some time => exact if_pos (dated time (Option.eq_some_of_filter_eq_some kept))
  · rfl

/-- The pages that are read: up to the first that is not full of issues. -/
def readPages (perPage : Nat) : List (List SearchItem) → List (List SearchItem)
  | [] => []
  | page :: rest => if (pageIssues page).length = perPage then page :: readPages perPage rest else [page]

theorem readPages_initial (perPage : Nat) (pages : List (List SearchItem)) : readPages perPage pages <+: pages := by
  induction pages with
  | nil => exact List.prefix_refl []
  | cons page rest ih =>
    rw [readPages]
    split
    · exact List.cons_prefix_cons.mpr ⟨rfl, ih⟩
    · exact ⟨rest, rfl⟩

theorem readPages_eq_self_iff :
    readPages perPage pages = pages ↔ ∀ page ∈ pages.dropLast, (pageIssues page).length = perPage := by
  induction pages with
  | nil => simp [readPages]
  | cons page rest ih =>
    rw [readPages]
    cases rest with
    | nil => simp [readPages]
    | cons second others =>
      rw [List.dropLast_cons_cons]
      split
      · rename_i full
        rw [List.cons.injEq, ih, List.forall_mem_cons]
        simp [full]
      · rename_i short
        refine iff_of_false (fun same => ?_) fun each => short (each page List.mem_cons_self)
        cases (List.cons.inj same).2

/-- The loop from a page on reads what is left up to the first page that is not full of issues. -/
theorem fetchFrom_eq (serves : Serves fetch perPage pages) {fuel i : Nat} (inside : i < pages.length)
    (enough : pages.length ≤ i + fuel) (issues : List Issue) (requested : List Nat) :
    fetchFrom fetch perPage fuel (i + 1) issues requested =
      some ⟨.ok (issues ++ (readPages perPage (pages.drop i)).flatMap pageIssues),
        requested ++ List.range' (i + 1) (readPages perPage (pages.drop i)).length⟩ := by
  induction fuel generalizing i issues requested with
  | zero => omega
  | succ fuel ih =>
    obtain ⟨page, there⟩ : ∃ page, pages[i]? = some page := ⟨_, List.getElem?_eq_getElem inside⟩
    obtain ⟨link, remaining, reset, answered, announced, dated⟩ := serves.answers i page there
    have rest : pages.drop i = page :: pages.drop (i + 1) := by
      rw [List.drop_eq_getElem_cons inside, List.getElem_of_getElem? there |>.2]
    rw [fetchFrom, answered, rest, readPages]
    dsimp only
    rw [warnRateLimit_eq_none dated]
    by_cases full : (pageIssues page).length = perPage
    · rw [if_pos full, full, beq_self_eq_true, Bool.and_true]
      by_cases more : i + 1 < pages.length
      · rw [if_pos (announced.mpr more), ih more (by omega)]
        simp [List.range'_succ]
      · rw [if_neg fun next => more (announced.mp next), List.drop_eq_nil_of_le (by omega)]
        simp [readPages]
    · have stop : (announcesNext link && (pageIssues page).length == perPage) = false := by
        rw [beq_eq_false_iff_ne.mpr full, Bool.and_false]
      rw [stop, if_neg full]
      simp

/-- The loop ends, having read the pages up to the first that is not full of issues. -/
theorem fetchIssues_eq (serves : Serves fetch perPage pages) {fuel : Nat} (enough : pages.length ≤ fuel) :
    fetchIssues fetch perPage fuel = some ⟨.ok ((readPages perPage pages).flatMap pageIssues),
      List.range' 1 (readPages perPage pages).length⟩ := by
  have inside := List.length_pos_iff.mpr serves.some_page
  exact fetchFrom_eq serves inside (by omega) [] []

/-- A page is full of issues if it is full and holds no pull request. -/
theorem full_of_issues_iff {page : List SearchItem} (small : page.length ≤ perPage) :
    (pageIssues page).length = perPage ↔ page.length = perPage ∧ ∀ item ∈ page, item.pull_request = false := by
  have fewer := List.length_filter_le (fun item => !item.pull_request) page
  rw [pageIssues, List.length_map]
  constructor
  · intro full
    have kept : (page.filter fun item => !item.pull_request).length = page.length := by omega
    have all := List.length_filter_eq_length_iff.mp kept
    exact ⟨by omega, fun item member => by simpa using all item member⟩
  · rintro ⟨full, plain⟩
    rw [List.filter_eq_self.mpr fun item member => by rw [plain item member]; rfl, full]

/-- The loop ends. It returns the issues of all pages, having asked for every page, just when every page but the last is
full and holds no pull request. -/
theorem issues_complete_iff (serves : Serves fetch perPage pages) {fuel : Nat} (enough : pages.length ≤ fuel) :
    (∃ run, fetchIssues fetch perPage fuel = some run) ∧
      (fetchIssues fetch perPage fuel = some ⟨.ok (pages.flatMap pageIssues), List.range' 1 pages.length⟩ ↔
        ∀ page ∈ pages.dropLast, page.length = perPage ∧ ∀ item ∈ page, item.pull_request = false) := by
  have small := fun page (member : page ∈ pages.dropLast) => serves.small page (List.mem_of_mem_dropLast member)
  have full : (∀ page ∈ pages.dropLast, page.length = perPage ∧ ∀ item ∈ page, item.pull_request = false) ↔
      readPages perPage pages = pages := by
    rw [readPages_eq_self_iff]
    exact forall₂_congr fun page member => (full_of_issues_iff (small page member)).symm
  rw [fetchIssues_eq serves enough, full]
  refine ⟨⟨_, rfl⟩, fun all => ?_, fun all => by rw [all]⟩
  -- the pages read are the first ones, and as many as there are
  obtain ⟨_, asked⟩ := FetchRun.mk.inj (Option.some.inj all)
  have as_many := congrArg List.length asked
  rw [List.length_range', List.length_range'] at as_many
  exact (readPages_initial perPage pages).eq_of_length as_many

section Examples

def issue (number : Int) : SearchItem := ⟨number, number, "", none, none, "open", "", "", false⟩

def pull (number : Int) : SearchItem := { issue number with pull_request := true }

/-- The pages one after the other. -/
def serve (pages : List (List SearchItem)) (page : Nat) : Except String SearchResponse :=
  match pages[page - 1]? with
  | none => .error "GitHub API error: 422 Unprocessable Entity"
  | some items => .ok ⟨some items, if page < pages.length then some "rel=\"next\"" else none, none, none⟩

theorem serves_serve (some_page : pages ≠ []) (small : ∀ page ∈ pages, page.length ≤ perPage) :
    Serves (serve pages) perPage pages where
  some_page := some_page
  small := small
  answers i page there := by
    refine ⟨if i + 1 < pages.length then some "rel=\"next\"" else none, none, none, ?_, ?_, by simp⟩
    · rw [serve, Nat.add_sub_cancel, there]
    · split <;> simp [announcesNext, Js.includes, *]

theorem two_pages_complete : fetchIssues (serve [[issue 1], [issue 2]]) 1 2 =
    some ⟨.ok (List.flatMap pageIssues [[issue 1], [issue 2]]), List.range' 1 2⟩ :=
  (issues_complete_iff (serves_serve (by decide) (by decide)) (Nat.le_refl 2)).2.mpr (by decide)

/-- A pull request on the first page, and the issues of the second are lost. -/
theorem issue_after_pull_lost :
    Serves (serve [[issue 1, pull 2], [issue 3]]) 2 [[issue 1, pull 2], [issue 3]] ∧
      (fetchIssues (serve [[issue 1, pull 2], [issue 3]]) 2 2).map FetchRun.requested = some [1] ∧
      (fetchIssues (serve [[issue 1, pull 2], [issue 3]]) 2 2).map FetchRun.result =
        some (.ok (pageIssues [issue 1, pull 2])) ∧
      pageIssues [issue 3] ≠ [] := by
  have serves : Serves (serve [[issue 1, pull 2], [issue 3]]) 2 [[issue 1, pull 2], [issue 3]] :=
    serves_serve (by decide) (by decide)
  rw [fetchIssues_eq serves (Nat.le_refl 2)]
  exact ⟨serves, rfl, rfl, by decide⟩

end Examples

end Proofs

end GitHubService

end WorkloadGovernor
