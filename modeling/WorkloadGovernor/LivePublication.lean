import WorkloadGovernor.Polling

namespace WorkloadGovernor
open Js LogFollower

inductive LiveEventType where
  | capUpdated
  | assignmentCreated
  | applicationCreated
  deriving DecidableEq, Repr

/-- A field of the data on the bus. JSON leaves out what is undefined, and writes `NaN` as `null`. -/
inductive EventBus.Field (α : Type) where
  | undefined
  | null
  | value (a : α)
  deriving DecidableEq, Repr

def EventBus.Field.value? {α : Type} : EventBus.Field α → Option α
  | .value a => some a
  | _ => none

/-- Reads a property by its name. -/
def EventBus.Field.read {α : Type} (properties : List (String × Option α)) (name : String) : EventBus.Field α :=
  match properties.lookup name with
  | none => .undefined
  | some none => .null
  | some (some a) => .value a

/-- What the event bus hands to its subscribers. -/
structure EventBus.LiveEvent where
  type : LiveEventType
  eventType : EventBus.Field String
  orgId : EventBus.Field String
  issueId : EventBus.Field Int
  deriving DecidableEq, Repr

def ContractEventRecord.texts (record : ContractEventRecord) : List (String × Option String) :=
  [("event_type", some record.event_type.text), ("contributor", record.contributor), ("org_id", record.org_id),
    ("tx_hash", some record.tx_hash)]

def ContractEventRecord.numbers (record : ContractEventRecord) : List (String × Option Int) :=
  [("issue_id", record.issue_id), ("event_index", record.event_index), ("ledger", record.ledger)]

def liveType (event : ContractEventRecord) : LiveEventType :=
  if EventBus.Field.read event.texts "type" = .value "applied" then .applicationCreated
  else if EventBus.Field.read event.texts "type" = .value "assigned" then .assignmentCreated
  else .capUpdated

/-- The undeclared `event` is read as the record. -/
def publishLiveEvent (event : ContractEventRecord) : EventBus.LiveEvent where
  type := liveType event
  eventType := .read event.texts "type"
  orgId := .read event.texts "orgId"
  issueId := .read event.numbers "issueId"

/-- A record has none of the three properties: whatever is stored, the same event without data goes out. -/
theorem publishLiveEvent_eq (event : ContractEventRecord) :
    publishLiveEvent event = ⟨.capUpdated, .undefined, .undefined, .undefined⟩ := by
  rfl

/-- A publication: of which event of the chain, what is sent, and whether the `INSERT` of
the same `storeEvent` created the row. -/
structure Publication where
  raw : RpcEvent
  event : EventBus.LiveEvent
  inserted : Bool
  deriving DecidableEq, Repr

structure LiveIndexer where
  indexer : IndexerState
  log : List Publication
  deriving DecidableEq, Repr

/-- A step of the indexer. Where `storeEvent` throws behind its query, `published` tells
whether it had published by then. -/
structure LiveStep where
  step : IndexerStep
  published : Bool
  deriving DecidableEq, Repr

def IndexerState.next (s : IndexerState) : Option RpcEvent :=
  match s.batch with
  | some (page, done) => page[done]?
  | none => none

/-- `storeEvent` gets as far as its call of `publishLiveEvent`. -/
def LiveStep.reaches (a : LiveStep) : Bool :=
  match a.step with
  | .proceed .stored => true
  | .proceed .threw => a.published
  | _ => false

section Step
variable {Address : Type} (sdk : StellarSdk Address) (rpc : EventsRpc) (history : List RpcEvent)

/-- The event whose record the step takes through the query of `storeEvent`. -/
def IndexerState.handled (s : IndexerState) (a : LiveStep) : Option (RpcEvent × ContractEventRecord) :=
  if a.reaches then
    s.next.bind fun raw =>
      ((parseRpcEvent sdk raw).filter ContractEventRecord.insertable).map fun record => (raw, record)
  else none

/-- Nothing between the query and the publication looks at the number of rows. -/
def publication (s : IndexerState) (a : LiveStep) : Option Publication :=
  (s.handled sdk a).map fun (raw, record) =>
    ⟨raw, publishLiveEvent record, decide (record.key ∉ s.rows.map ContractEventRecord.key)⟩

def liveStep (s : LiveIndexer) (a : LiveStep) : LiveIndexer where
  indexer := pollStep sdk rpc history s.indexer a.step
  log := s.log ++ (publication sdk s.indexer a).toList

def LiveIndexer.fresh : LiveIndexer := ⟨.fresh, []⟩

/-- Every publication comes with the row it reports, and no event is published twice. -/
structure PublishedOnce (s : LiveIndexer) : Prop where
  inserted : ∀ published ∈ s.log, published.inserted = true
  once : (s.log.map Publication.raw).Nodup

/-- The step hands no event to `storeEvent` whose transaction and index are stored already. -/
def FirstTime (s : LiveIndexer) (a : LiveStep) : Prop :=
  ∀ raw record, s.indexer.handled sdk a = some (raw, record) →
    record.key ∉ s.indexer.rows.map ContractEventRecord.key

end Step

section Invariant
variable {Address : Type} {sdk : StellarSdk Address} {rpc : EventsRpc} {history : List RpcEvent}

theorem handled_eq_some {s : IndexerState} {a : LiveStep} {raw : RpcEvent} {record : ContractEventRecord} :
    s.handled sdk a = some (raw, record) ↔ a.reaches = true ∧ s.next = some raw ∧
      parseRpcEvent sdk raw = some record ∧ record.insertable = true := by
  simp only [IndexerState.handled, Option.ite_none_right_eq_some, Option.bind_eq_some_iff, Option.map_eq_some_iff,
    Option.filter_eq_some_iff, Prod.mk.injEq]
  constructor
  · rintro ⟨reaches, _, next, _, ⟨parsed, takes⟩, rfl, rfl⟩
    exact ⟨reaches, next, parsed, takes⟩
  · rintro ⟨reaches, next, parsed, takes⟩
    exact ⟨reaches, raw, next, record, ⟨parsed, takes⟩, rfl, rfl⟩

theorem subset_storeEvent (rows : List ContractEventRecord) (record : ContractEventRecord) (outcome : StoreOutcome) :
    rows ⊆ (storeEvent rows record outcome).1 := by
  rw [storeEvent]
  split
  · exact List.Subset.refl _
  · exact subset_insertNew rows record

/-- No step takes a row away. -/
theorem rows_subset_pollStep (s : IndexerState) (a : IndexerStep) :
    s.rows ⊆ (pollStep sdk rpc history s a).rows := by
  cases a with
  | proceed outcome =>
    intro row stored
    rw [pollStep]
    split
    · rw [proceed]
      split
      · split
        · exact stored
        · exact subset_storeEvent _ _ _ stored
      · exact stored
    · exact stored
  | fetch length =>
    intro row stored
    rw [pollStep]
    split <;> exact stored
  | _ => exact fun row stored => stored

/-- An event that gets through the query has its row then. -/
theorem key_mem_pollStep {s : IndexerState} {a : LiveStep} {raw : RpcEvent} {record : ContractEventRecord}
    (handled : s.handled sdk a = some (raw, record)) :
    record.key ∈ (pollStep sdk rpc history s a.step).rows.map ContractEventRecord.key := by
  obtain ⟨reaches, next, parsed, takes⟩ := handled_eq_some.mp handled
  obtain ⟨step, published⟩ := a
  cases step with
  | proceed outcome =>
    have written : outcome ≠ .refused := by
      rintro rfl
      cases reaches
    cases current : s.batch with
    | none =>
      rw [IndexerState.next, current] at next
      cases next
    | some batch =>
      rw [IndexerState.next, current] at next
      have rows : (storeEvent s.rows record outcome).1 = insertNew ContractEventRecord.key s.rows record := by
        rw [storeEvent, if_neg (by simp [written, takes])]
      simp only [pollStep, current, proceed, next, parsed, rows]
      exact key_mem_insertNew s.rows record
  | _ => cases reaches

/-- What has been published is stored. -/
def Logged (s : LiveIndexer) : Prop :=
  ∀ published ∈ s.log, published.raw.dedupKey ∈ s.indexer.rows.map ContractEventRecord.key

theorem logged_fresh : Logged .fresh := fun _ member => absurd member List.not_mem_nil

theorem publishedOnce_fresh : PublishedOnce .fresh :=
  ⟨fun _ member => absurd member List.not_mem_nil, List.nodup_nil⟩

theorem publication_of_handled {s : IndexerState} {a : LiveStep} {raw : RpcEvent} {record : ContractEventRecord}
    (handled : s.handled sdk a = some (raw, record)) : publication sdk s a =
      some ⟨raw, publishLiveEvent record, decide (record.key ∉ s.rows.map ContractEventRecord.key)⟩ := by
  rw [publication, handled, Option.map_some]

theorem logged_step {s : LiveIndexer} (logged : Logged s) (a : LiveStep) : Logged (liveStep sdk rpc history s a) := by
  intro published member
  rcases List.mem_append.mp member with old | new
  · exact List.map_subset _ (rows_subset_pollStep s.indexer a.step) (logged published old)
  · cases handled : s.indexer.handled sdk a with
    | none =>
      rw [publication, handled] at new
      cases new
    | some pair =>
      obtain ⟨raw, record⟩ := pair
      rw [publication_of_handled handled, Option.toList_some, List.mem_singleton] at new
      rw [new, ← (parseRpcEvent_fields (handled_eq_some.mp handled).2.2.1).1]
      exact key_mem_pollStep handled

theorem publishedOnce_step_iff {s : LiveIndexer} (logged : Logged s) (once : PublishedOnce s) (a : LiveStep) :
    PublishedOnce (liveStep sdk rpc history s a) ↔ FirstTime sdk s a := by
  cases handled : s.indexer.handled sdk a with
  | none =>
    have same : (liveStep sdk rpc history s a).log = s.log := by
      rw [liveStep, publication, handled, Option.map_none, Option.toList_none, List.append_nil]
    refine iff_of_true ⟨?_, ?_⟩ ?_
    · rw [same]
      exact once.inserted
    · rw [same]
      exact once.once
    · intro raw record own
      cases handled.symm.trans own
  | some pair =>
    obtain ⟨raw, record⟩ := pair
    have key : record.key = raw.dedupKey := (parseRpcEvent_fields (handled_eq_some.mp handled).2.2.1).1
    have log : (liveStep sdk rpc history s a).log = s.log ++ [⟨raw, publishLiveEvent record,
        decide (record.key ∉ s.indexer.rows.map ContractEventRecord.key)⟩] := by
      rw [liveStep, publication_of_handled handled, Option.toList_some]
    constructor
    · intro after other otherRecord own
      cases handled.symm.trans own
      have inserted := after.inserted _ (log ▸ List.mem_append_right _ List.mem_cons_self)
      exact of_decide_eq_true inserted
    · intro first
      have absent := first raw record handled
      refine ⟨?_, ?_⟩
      · rw [log]
        intro published member
        rcases List.mem_append.mp member with old | new
        · exact once.inserted published old
        · rw [List.mem_singleton.mp new]
          exact decide_eq_true absent
      · rw [log, List.map_append, List.map_singleton]
        refine List.nodup_append.mpr ⟨once.once, List.nodup_singleton raw, ?_⟩
        intro earlier member own isRaw
        obtain ⟨published, old, rfl⟩ := List.mem_map.mp member
        intro same
        rw [List.mem_singleton.mp isRaw] at same
        have stored := logged published old
        rw [same, ← key] at stored
        exact absent stored

variable (sdk rpc history) in
/-- Throughout a run every event is published at most once, by the `storeEvent` that created
its row, exactly if no event gets through the query again once its key is stored. -/
theorem published_once_iff (steps : List LiveStep) :
    Run.Always (liveStep sdk rpc history) .fresh PublishedOnce steps ↔
      Run.EachStep (liveStep sdk rpc history) .fresh (FirstTime sdk) steps :=
  Run.always_iff_eachStep logged_fresh (fun _ a logged => logged_step logged a) publishedOnce_fresh
    (fun _ a logged once => publishedOnce_step_iff logged once a) steps

/-- A step in which nothing fails on the way and nothing is started again. -/
def IndexerStep.smooth : IndexerStep → Bool
  | .publish | .fetch _ | .fetchFails | .proceed .stored => true
  | _ => false

variable (sdk rpc history) in
/-- What comes next is the first event the table has not got to. -/
def InOrder (s : IndexerState) : Prop :=
  ∃ p c, Caught sdk rpc history s p c ∧ (s.batch = none → p = c) ∧
    ∀ page done, s.batch = some (page, done) → p = c + done

theorem inOrder_step (documented : Documented history) (rpcDocumented : rpc.Documented history) {s : IndexerState}
    (inOrder : InOrder sdk rpc history s) {a : IndexerStep} (smooth : a.smooth = true) :
    InOrder sdk rpc history (pollStep sdk rpc history s a) := by
  obtain ⟨p, c, caught, idle, busy⟩ := inOrder
  cases a with
  | publish => exact ⟨p, c, caught.publish, idle, busy⟩
  | fetchFails => exact ⟨p, c, caught, idle, busy⟩
  | restart readable => cases smooth
  | fetch length =>
    have fetched := caught.fetch length
    cases current : s.batch with
    | some batch =>
      simp only [pollStep, current] at fetched ⊢
      exact ⟨p, c, fetched, idle, busy⟩
    | none =>
      simp only [pollStep, current] at fetched ⊢
      refine ⟨p, c, fetched, (fun ended => by cases ended), ?_⟩
      intro page done started
      cases started
      exact idle current
  | proceed outcome =>
    cases outcome with
    | refused => cases smooth
    | threw => cases smooth
    | stored =>
      cases current : s.batch with
      | none =>
        simp only [pollStep, current]
        exact ⟨p, c, caught, idle, busy⟩
      | some batch =>
        obtain ⟨page, done⟩ := batch
        have reached := busy page done current
        have inside := (caught.batch page done current).2.2.1
        rcases Nat.lt_or_eq_of_le inside with within | whole
        · obtain ⟨rows, after, further⟩ := caught.proceed_stored documented current within
          rw [after]
          refine ⟨_, c, further, (fun ended => by cases ended), ?_⟩
          intro page' done' went
          cases went
          omega
        · have ended : page[done]? = none := List.getElem?_eq_none_iff.mpr whole.ge
          have finished := caught.finish rpcDocumented current ended .stored
          have none_left : (proceed sdk s page done .stored).batch = none := by simp only [proceed, ended]
          simp only [pollStep, current]
          refine ⟨p, c + page.length, finished, (fun _ => by omega), ?_⟩
          intro page' done' went
          cases none_left.symm.trans went

theorem firstTime_of_inOrder (documented : Documented history) {s : LiveIndexer}
    (inOrder : InOrder sdk rpc history s.indexer) (a : LiveStep) : FirstTime sdk s a := by
  obtain ⟨p, c, caught, _, busy⟩ := inOrder
  intro raw record handled
  obtain ⟨_, next, parsed, _⟩ := handled_eq_some.mp handled
  cases current : s.indexer.batch with
  | none =>
    rw [IndexerState.next, current] at next
    cases next
  | some batch =>
    obtain ⟨page, done⟩ := batch
    rw [IndexerState.next, current] at next
    have atDone := (caught.at_done current next).1
    rw [caught.rows, busy page done current]
    exact key_not_mem_covered documented.unique atDone parsed

variable (sdk rpc history) in
structure SmoothInv (s : LiveIndexer) : Prop where
  inOrder : InOrder sdk rpc history s.indexer
  logged : Logged s
  once : PublishedOnce s

/-- As long as nothing fails behind a fetch and the indexer is not started again, every event
is published at most once, by the call that stores it. -/
theorem smooth_run_publishes_once (documented : Documented history) (rpcDocumented : rpc.Documented history)
    {steps : List LiveStep} (smooth : ∀ a ∈ steps, a.step.smooth = true) :
    PublishedOnce (Run.exec (liveStep sdk rpc history) .fresh steps) := by
  have init : SmoothInv sdk rpc history .fresh :=
    ⟨⟨0, 0, caught_fresh rpcDocumented, fun _ => rfl, fun _ _ current => by cases current⟩, logged_fresh,
      publishedOnce_fresh⟩
  have preserved : ∀ (s : LiveIndexer) (a : LiveStep), a.step.smooth = true → SmoothInv sdk rpc history s →
      SmoothInv sdk rpc history (liveStep sdk rpc history s a) := by
    intro s a quiet inv
    refine ⟨inOrder_step documented rpcDocumented inv.inOrder quiet, logged_step inv.logged a, ?_⟩
    exact (publishedOnce_step_iff inv.logged inv.once a).mpr (firstTime_of_inOrder documented inv.inOrder a)
  exact (Run.exec_invariant_of init preserved smooth).once

end Invariant

section Sample

/-- An indexer that stores the one event there is, moves its cursor, and is started again. -/
def restartedIndexer : List LiveStep :=
  [.publish, .fetch 1, .proceed .stored, .proceed .stored, .restart true, .fetch 1, .proceed .stored].map
    fun step => ⟨step, false⟩

/-- A restart reads the last ledger again, and its event is published a second time. -/
theorem restarted_indexer_publishes_twice :
    Documented [sampleApplied] ∧ sampleRpc.Documented [sampleApplied] ∧
    ((Run.exec (liveStep sampleSdk sampleRpc [sampleApplied]) .fresh restartedIndexer).log.map
      Publication.raw) = [sampleApplied, sampleApplied] ∧
    ¬ Run.Always (liveStep sampleSdk sampleRpc [sampleApplied]) .fresh PublishedOnce restartedIndexer := by
  have twice : ((Run.exec (liveStep sampleSdk sampleRpc [sampleApplied]) .fresh restartedIndexer).log.map
      Publication.raw) = [sampleApplied, sampleApplied] := by decide
  refine ⟨sampleApplied_documented, sampleRpc_documented, twice, fun always => ?_⟩
  have once := always.last.once
  rw [twice] at once
  exact (List.nodup_cons.mp once).1 (List.mem_singleton_self _)

end Sample

end WorkloadGovernor
