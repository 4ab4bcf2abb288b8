import WorkloadGovernor.EventListing
import WorkloadGovernor.Lib.Json
import WorkloadGovernor.LiveCounters

namespace WorkloadGovernor
open EventListing Js

section Source

def textOrNull : Option String → Json
  | some text => .string text
  | none => .null

/-- A row of `GET /api/events` as it arrives. -/
def EventListing.EventRow.json (row : EventRow) : Json :=
  .object [("id", .number (some row.id)), ("ledger", .number (some row.ledger)), ("tx_hash", .string row.tx_hash),
    ("topic", .string row.topic), ("org_id", textOrNull row.org_id),
    ("issue_id", match row.issue_id with
      | some issueId => .number (some issueId)
      | none => .null),
    ("contributor", textOrNull row.contributor), ("created_at", textOrNull (toISOString row.created_at))]

/-- `a ?? b`. -/
def nullishOr : Option Json → Option Json → Option Json
  | none, other | some .null, other => other
  | value, _ => value

/-- What the hook takes from a polled event. -/
def polledEvent (event : Json) : LiveEvent where
  eventType := asText (nullishOr (event.field "eventType") (event.field "event_type"))
  orgId := asText (nullishOr (event.field "orgId") (event.field "org_id"))

/-- One more assignment of an org. -/
def countAssignment (counts : List OrgCount) (event : LiveEvent) : List OrgCount :=
  match truthy event.orgId with
  | none => counts
  | some orgId =>
    match counts.findIdx? fun count => count.org = orgId with
    | some existing => counts.modify existing fun count => { count with assignments := count.assignments + 1 }
    | none => counts ++ [⟨orgId, 1⟩]

/-- The state that is set from the polled events. -/
def countPolled (events : List LiveEvent) : CapState :=
  let applications := (events.filter fun event => event.eventType = some "applied").length
  let assignments := events.filter fun event => event.eventType = some "assigned"
  { globalApplications := max ((applications : Int) - assignments.length) 0
    orgCounts := assignments.foldl countAssignment [] }

/-- `/api/events?limit=1000`. -/
def pollQuery : EventQuery := ⟨none, none, none, none, none, none, some (.text "1000")⟩

/-- `pollEvents` throws unless it gets events. -/
def pollEvents : Option Answer → Option CapState
  | some (.ok events _) => some (countPolled (events.map fun row => polledEvent row.json))
  | _ => none

/-- The stream's event for a row. -/
def streamed (row : EventRow) : LiveEvent := ⟨some row.topic, row.org_id⟩

end Source

section Streams

/-- An assignment that is entered under an org. -/
def NamesOrg (event : LiveEvent) : Prop := event.eventType = some "assigned" ∧ truthy event.orgId ≠ none

def appliedIn (events : List LiveEvent) : Nat := events.countP fun event => event.eventType = some "applied"

def assignedIn (events : List LiveEvent) : Nat := events.countP fun event => event.eventType = some "assigned"

variable {state : CapState} {event : LiveEvent} {events : List LiveEvent}

theorem updateCounts_applications (state : CapState) (event : LiveEvent) :
    (updateCounts state event).globalApplications =
      if event.eventType = some "applied" then state.globalApplications + 1
      else if event.eventType = some "assigned" then max (state.globalApplications - 1) 0
      else state.globalApplications := by
  unfold updateCounts
  by_cases applied : event.eventType = some "applied"
  · simp only [applied]
    cases event.orgId <;> simp
  · by_cases assigned : event.eventType = some "assigned"
    · simp only [assigned]
      split
      · rename_i ignored
        exact absurd rfl ignored.2
      · split
        · simp
        · split
          · simp
          · split <;> simp
    · rw [if_pos ⟨applied, assigned⟩, if_neg applied, if_neg assigned]

/-- An entry once made stays. -/
theorem updateCounts_orgCounts_eq_nil : (updateCounts state event).orgCounts = [] ↔
    state.orgCounts = [] ∧ ¬ NamesOrg event := by
  unfold updateCounts
  split
  · rename_i ignored
    exact (and_iff_left fun named => ignored.2 named.1).symm
  · cases org : event.orgId with
    | none =>
      have anonymous : ¬ NamesOrg event := fun named => named.2 (by rw [org]; rfl)
      exact (and_iff_left anonymous).symm
    | some orgId =>
      dsimp only
      split
      · rename_i skipped
        have anonymous : ¬ NamesOrg event := by
          rintro ⟨assigned, there⟩
          rw [org] at there
          rcases skipped with empty | other
          · rw [empty] at there
            exact there rfl
          · exact other assigned
        exact (and_iff_left anonymous).symm
      · rename_i entered
        obtain ⟨named, assigned⟩ := not_or.mp entered
        have counted : NamesOrg event := ⟨not_not.mp assigned, by rw [org]; simp [truthy, named]⟩
        refine iff_of_false ?_ fun none_counted => none_counted.2 counted
        split
        · rename_i existing found
          intro empty
          rw [List.map_eq_nil_iff] at empty
          rw [empty] at found
          cases found
        · exact List.append_ne_nil_of_right_ne_nil _ (List.cons_ne_nil _ _)

theorem foldl_orgCounts_eq_nil : (events.foldl updateCounts state).orgCounts = [] ↔
    state.orgCounts = [] ∧ ∀ event ∈ events, ¬ NamesOrg event := by
  induction events generalizing state with
  | nil => simp
  | cons event rest ih =>
    rw [List.foldl_cons, ih, updateCounts_orgCounts_eq_nil, List.forall_mem_cons, and_assoc]

/-- The walk with its floor at 0 ends there exactly if no tail of it rises. -/
theorem foldl_applications_eq_zero (nonneg : 0 ≤ state.globalApplications) :
    (events.foldl updateCounts state).globalApplications = 0 ↔
      state.globalApplications + appliedIn events ≤ assignedIn events ∧
        ∀ tail, tail <:+ events → appliedIn tail ≤ assignedIn tail := by
  induction events generalizing state with
  | nil =>
    simp [appliedIn, assignedIn]
    omega
  | cons event rest ih =>
    have next := updateCounts_applications state event
    have positive : 0 ≤ (updateCounts state event).globalApplications := by
      rw [next]
      split_ifs <;> omega
    have tails : (∀ tail, tail <:+ event :: rest → appliedIn tail ≤ assignedIn tail) ↔
        appliedIn (event :: rest) ≤ assignedIn (event :: rest) ∧
          ∀ tail, tail <:+ rest → appliedIn tail ≤ assignedIn tail := by
      simp only [List.suffix_cons_iff, forall_eq_or_imp]
    rw [List.foldl_cons, ih positive, next, tails]
    have whole (each : ∀ tail, tail <:+ rest → appliedIn tail ≤ assignedIn tail) : appliedIn rest ≤ assignedIn rest :=
      each rest List.suffix_rfl
    by_cases applied : event.eventType = some "applied"
    · have one : appliedIn (event :: rest) = appliedIn rest + 1 := by simp [appliedIn, applied]
      have none_more : assignedIn (event :: rest) = assignedIn rest := by simp [assignedIn, applied]
      rw [if_pos applied, one, none_more]
      constructor
      · rintro ⟨bound, each⟩
        exact ⟨by push_cast; omega, by omega, each⟩
      · rintro ⟨bound, _, each⟩
        exact ⟨by push_cast at bound; omega, each⟩
    · by_cases assigned : event.eventType = some "assigned"
      · have none_more : appliedIn (event :: rest) = appliedIn rest := by simp [appliedIn, assigned]
        have one : assignedIn (event :: rest) = assignedIn rest + 1 := by simp [assignedIn, assigned]
        rw [if_neg applied, if_pos assigned, one, none_more]
        constructor
        · rintro ⟨bound, each⟩
          have last := whole each
          exact ⟨by push_cast; omega, by omega, each⟩
        · rintro ⟨bound, _, each⟩
          have last := whole each
          exact ⟨by push_cast at bound; omega, each⟩
      · have none_applied : appliedIn (event :: rest) = appliedIn rest := by simp [appliedIn, applied]
        have none_assigned : assignedIn (event :: rest) = assignedIn rest := by simp [assignedIn, assigned]
        rw [if_neg applied, if_neg assigned, none_applied, none_assigned]
        constructor
        · rintro ⟨bound, each⟩
          exact ⟨bound, whole each, each⟩
        · rintro ⟨bound, _, each⟩
          exact ⟨bound, each⟩

end Streams

section Polling
variable {db : EventDb} {rows : List EventRow}

/-- The names that are read of a row are none of its names. -/
theorem polledEvent_json (row : EventRow) : (polledEvent row.json).eventType = none := by
  rfl

theorem countPolled_nameless {events : List LiveEvent} (nameless : ∀ event ∈ events, event.eventType = none) :
    countPolled events = initialState := by
  have none_of (name : String) : events.filter (fun event => event.eventType = some name) = [] :=
    List.filter_eq_nil_iff.mpr fun event member => by rw [nameless event member]; simp
  rw [countPolled, none_of, none_of]
  rfl

/-- The limit of 1000 is taken for 100. -/
theorem getEvents_pollQuery (selected : db.select "" [] = .ok rows) :
    getEvents db pollQuery = some (.ok (rows.take 100) (paginationOf rows 1 100 0)) := by
  have limit : rawNumber pollQuery.limit "20" = some (Number.ofRat (1000 : Int)) :=
    rawNumber_eq (by rfl) (by decide)
  have page : rawNumber pollQuery.page "1" = some (Number.ofRat (1 : Int)) := rawNumber_eq (by rfl) (by decide)
  have first : effectivePage (Number.ofRat (1 : Int)) = .finite (1 : ℕ) := by
    rw [← Nat.cast_one, Int.cast_natCast, (effectivePage_natCast (Nat.le_refl 1)).1, Number.ofRat_natCast (by norm_num)]
  have offset := (effectiveOffset_natCast (Nat.le_refl 1) (by norm_num : 1 ≤ 100) (Nat.le_refl 100)).1 (by norm_num)
  have answered := @answerPage_eq db pollQuery 1 100 rows 0 selected (by norm_num) (Nat.le_refl 100) offset
  rw [bigint_natCast (by norm_num)] at answered
  rw [getEvents, page, limit]
  dsimp only
  rw [first, effectiveLimit_eq 1000]
  exact congrArg some answered

/-- Whatever has happened, polling shows the initial state. -/
theorem pollEvents_eq_initialState (selected : db.select "" [] = .ok rows) :
    pollEvents (getEvents db pollQuery) = some initialState := by
  rw [getEvents_pollQuery selected, pollEvents, countPolled_nameless]
  intro event member
  obtain ⟨row, _, rfl⟩ := List.mem_map.mp member
  exact polledEvent_json row

/-- There is nothing to show of the events: no assignment in an org, and behind every event
at least as many assignments as applications. -/
def NothingToShow (rows : List EventRow) : Prop :=
  (∀ row ∈ rows, row.topic = "assigned" → truthy row.org_id = none) ∧
    ∀ tail, tail <:+ rows → tail.countP (fun row => row.topic = "applied") ≤
      tail.countP fun row => row.topic = "assigned"

/-- With the newest row first in the answer, polling agrees with the stream over the same
events in their order exactly if there is nothing to show of them. -/
theorem polled_eq_streamed_iff (selected : db.select "" [] = .ok rows.reverse) :
    pollEvents (getEvents db pollQuery) = some ((rows.map streamed).foldl updateCounts initialState) ↔
      NothingToShow rows := by
  have applications := @foldl_applications_eq_zero initialState (rows.map streamed) (Int.le_refl 0)
  have orgs := @foldl_orgCounts_eq_nil initialState (rows.map streamed)
  have counted (name : String) (tail : List EventRow) :
      (tail.map streamed).countP (fun event => event.eventType = some name) = tail.countP fun row => row.topic = name := by
    rw [List.countP_map]
    simp [Function.comp_def, streamed]
  have walk : ((rows.map streamed).foldl updateCounts initialState).globalApplications = 0 ↔
      ∀ tail, tail <:+ rows → tail.countP (fun row => row.topic = "applied") ≤
        tail.countP fun row => row.topic = "assigned" := by
    rw [applications]
    constructor
    · rintro ⟨_, each⟩ tail suffix
      have falls := each _ (suffix.map streamed)
      rwa [appliedIn, assignedIn, counted, counted] at falls
    · intro each
      have falls : ∀ tail, tail <:+ rows.map streamed → appliedIn tail ≤ assignedIn tail := by
        intro tail suffix
        obtain ⟨own, same, rfl⟩ := List.suffix_map_iff.mp suffix
        rw [appliedIn, assignedIn, counted, counted]
        exact each own same
      have whole := falls _ List.suffix_rfl
      refine ⟨?_, falls⟩
      rw [initialState]
      dsimp only
      omega
  have entries : ((rows.map streamed).foldl updateCounts initialState).orgCounts = [] ↔
      ∀ row ∈ rows, row.topic = "assigned" → truthy row.org_id = none := by
    rw [orgs, List.forall_mem_map]
    simp [initialState, NamesOrg, streamed]
  rw [pollEvents_eq_initialState selected, Option.some.injEq, NothingToShow, ← walk, ← entries]
  constructor
  · intro same
    rw [← same]
    exact ⟨rfl, rfl⟩
  · rintro ⟨no_entry, zero⟩
    rcases shown : (rows.map streamed).foldl updateCounts initialState with ⟨globalApplications, orgCounts⟩
    rw [shown] at no_entry zero
    dsimp only at no_entry zero
    rw [no_entry, zero]
    rfl

/-- A table with the rows, which is only asked for all of them. -/
def tableOf (rows : List EventRow) (bounded : rows.length < 2 ^ 41) : EventDb where
  select clause _ := if clause = "" then .ok rows.reverse else .error "relation \"events\" is not filtered"
  refusal _ _ := "invalid input syntax for type bigint: \"NaN\""
  bounded clause params selected same := by
    split at same
    · cases same
      rwa [List.length_reverse]
    · cases same

def appliedRow : EventRow := ⟨1, 100, "9c1e", "applied", some "org", some 7, none, 1700000000⟩

def assignedRow (org_id : Option String) : EventRow :=
  ⟨2, 101, "b04d", "assigned", org_id, some 7, none, 1700000060⟩

/-- An application that is assigned without an org cancels out. -/
theorem orgless_assignment_polled : pollEvents (getEvents (tableOf [appliedRow, assignedRow none] (by decide)) pollQuery) =
    some (([appliedRow, assignedRow none].map streamed).foldl updateCounts initialState) := by
  have each : ∀ tail ∈ [appliedRow, assignedRow none].tails, tail.countP (fun row => row.topic = "applied") ≤
      tail.countP fun row => row.topic = "assigned" := by decide
  exact (polled_eq_streamed_iff rfl).mpr ⟨by decide, fun tail suffix => each tail ((List.mem_tails _ _).mpr suffix)⟩

/-- One application is shown while streaming, none while polling. -/
theorem one_application_not_polled : pollEvents (getEvents (tableOf [appliedRow] (by decide)) pollQuery) ≠
    some (([appliedRow].map streamed).foldl updateCounts initialState) := by
  have selected : (tableOf [appliedRow] (by decide)).select "" [] = .ok [appliedRow] := rfl
  rw [pollEvents_eq_initialState selected]
  decide

end Polling

end WorkloadGovernor
