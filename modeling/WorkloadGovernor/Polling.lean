import WorkloadGovernor.Indexer
import WorkloadGovernor.Lib.LogFollower

namespace WorkloadGovernor
open Js LogFollower

/-- The columns of `UNIQUE (tx_hash, event_index)`. -/
def ContractEventRecord.key (record : ContractEventRecord) : String × Option Int :=
  (record.tx_hash, record.event_index)

/-- The two numbers go to `INTEGER NOT NULL` columns, which take no `NaN`. -/
def ContractEventRecord.insertable (record : ContractEventRecord) : Bool :=
  record.event_index.isSome && record.ledger.isSome

/-- How `storeEvent` ends: without a row, with one but an exception after it, or normally. The
code behind the query names a variable it does not declare, so it is not taken to return. -/
inductive StoreOutcome where
  | refused
  | threw
  | stored
  deriving DecidableEq, Repr

/-- The rows of `contract_events` after `storeEvent`, and whether the call returned. -/
def storeEvent (rows : List ContractEventRecord) (record : ContractEventRecord) (outcome : StoreOutcome) :
    List ContractEventRecord × Bool :=
  if outcome = .refused ∨ record.insertable = false then (rows, false)
  else (insertNew ContractEventRecord.key rows record, outcome == .stored)

/-- `SELECT MAX(ledger_seq) AS max_ledger FROM contract_events`. -/
def maxLedger (rows : List ContractEventRecord) : Option Int :=
  (rows.filterMap ContractEventRecord.ledger).max?

/-- The cursor after a restart. Without rows, or if they cannot be read, there is none. -/
def initCursor (rows : List ContractEventRecord) (readable : Bool) : Option String :=
  match if readable then maxLedger rows else none with
  | some ledger => if ledger > 0 then some (toString ledger) else none
  | none => none

/-- The RPC node as the indexer asks it: how many events of the chain come before the
page a cursor stands for. -/
structure EventsRpc where
  position : List RpcEvent → Option String → Nat

/-- `getEvents` with `limit: 200`; the node may cut the page short. -/
def EventsRpc.getEvents (rpc : EventsRpc) (chain : List RpcEvent) (cursor : Option String) (length : Nat) :
    List RpcEvent :=
  (chain.drop (rpc.position chain cursor)).take (min length 200)

/-- The indexer, its table and the part of the chain there is so far. A batch is the page
being stored and how many of its events are done. -/
structure IndexerState where
  published : Nat
  rows : List ContractEventRecord
  cursor : Option String
  batch : Option (List RpcEvent × Nat)
  deriving DecidableEq, Repr

/-- What can happen at the points where the poll loop waits. -/
inductive IndexerStep where
  | publish
  | fetch (length : Nat)
  | fetchFails
  | proceed (outcome : StoreOutcome)
  | restart (readable : Bool)
  deriving DecidableEq, Repr

section Step
variable {Address : Type} (sdk : StellarSdk Address) (rpc : EventsRpc) (history : List RpcEvent)

def IndexerState.chain (s : IndexerState) : List RpcEvent := history.take s.published

/-- A batch goes on with its next event, or after the last one moves the cursor. An
exception ends the batch and leaves the cursor where it is. -/
def proceed (s : IndexerState) (page : List RpcEvent) (done : Nat) (outcome : StoreOutcome) : IndexerState :=
  match page[done]? with
  | some raw =>
    match parseRpcEvent sdk raw with
    | none => { s with batch := some (page, done + 1) }
    | some record =>
      let result := storeEvent s.rows record outcome
      { s with rows := result.1, batch := if result.2 then some (page, done + 1) else none }
  | none =>
    { s with
      cursor := match page.getLast? with
        | some last => some last.pagingToken
        | none => s.cursor
      batch := none }

def pollStep (s : IndexerState) : IndexerStep → IndexerState
  | .publish => { s with published := min (s.published + 1) history.length }
  | .fetch length =>
    match s.batch with
    | some _ => s
    | none => { s with batch := some (rpc.getEvents (s.chain history) s.cursor length, 0) }
  | .fetchFails => s
  | .proceed outcome =>
    match s.batch with
    | some (page, done) => proceed sdk s page done outcome
    | none => s
  | .restart readable => { s with cursor := initCursor s.rows readable, batch := none }

/-- The indexer before its first start, next to an empty table. -/
def IndexerState.fresh : IndexerState := ⟨0, [], none, none⟩

def poll (steps : List IndexerStep) : IndexerState := Run.exec (pollStep sdk rpc history) .fresh steps

/-- One turn of the loop on a page of `length` events in which nothing fails. -/
def iteration (length : Nat) : List IndexerStep :=
  .fetch length :: List.replicate (length + 1) (.proceed .stored)

end Step

def RpcEvent.ledgerSeq (raw : RpcEvent) : Int := (parseInt raw.ledger).getD 0

def RpcEvent.eventIndex (raw : RpcEvent) : Option Int :=
  let idParts := split raw.id '-'
  if idParts.length ≥ 3 then parseInt (idParts[2]?.getD "") else some 0

/-- The deduplication key of an event: its transaction and its index in there. -/
def RpcEvent.dedupKey (raw : RpcEvent) : String × Option Int := (raw.txHash.getD raw.id, raw.eventIndex)

/-- What the RPC documents about the events of a chain: numbered ledgers in order, ids
that end in the event's index, and no two events with one key. -/
structure Documented (history : List RpcEvent) : Prop where
  numbered : ∀ raw ∈ history, ∃ ledger : Nat, 0 < ledger ∧ parseInt raw.ledger = some (ledger : Int)
  indexed : ∀ raw ∈ history, raw.eventIndex.isSome = true
  ordered : history.Pairwise fun first second => first.ledgerSeq ≤ second.ledgerSeq
  keyed : (history.map RpcEvent.dedupKey).Nodup

/-- Where the documented cursors resume, on every part of the chain. -/
structure EventsRpc.Documented (rpc : EventsRpc) (history : List RpcEvent) : Prop where
  fromStart : ∀ n, rpc.position (history.take n) none = 0
  fromLedger : ∀ n (ledger : Int), rpc.position (history.take n) (some (toString ledger)) =
    (history.take n).findIdx fun raw => ledger ≤ raw.ledgerSeq
  afterEvent : ∀ n i raw, (history.take n)[i]? = some raw →
    rpc.position (history.take n) (some raw.pagingToken) = i + 1

/-- How many rows the table holds for an event. -/
def rowsOf (rows : List ContractEventRecord) (raw : RpcEvent) : Nat :=
  (rows.map ContractEventRecord.key).count raw.dedupKey

section Invariant
variable {Address : Type} {sdk : StellarSdk Address} {rpc : EventsRpc} {history : List RpcEvent}

theorem parseRpcEvent_fields {raw : RpcEvent} {record : ContractEventRecord}
    (parsed : parseRpcEvent sdk raw = some record) :
    record.key = raw.dedupKey ∧ record.ledger = parseInt raw.ledger := by
  unfold parseRpcEvent at parsed
  split at parsed
  · cases parsed
  · dsimp only at parsed
    split at parsed
    · cases parsed
    · cases parsed
      exact ⟨rfl, rfl⟩

namespace Documented

theorem ledger_eq (documented : Documented history) {raw : RpcEvent} (member : raw ∈ history) :
    0 < raw.ledgerSeq ∧ parseInt raw.ledger = some raw.ledgerSeq := by
  obtain ⟨ledger, positive, read⟩ := documented.numbered raw member
  rw [RpcEvent.ledgerSeq, read, Option.getD_some]
  exact ⟨Int.natCast_pos.mpr positive, rfl⟩

theorem record_ledger (documented : Documented history) {raw : RpcEvent} (member : raw ∈ history)
    {record : ContractEventRecord} (parsed : parseRpcEvent sdk raw = some record) :
    record.ledger = some raw.ledgerSeq :=
  (parseRpcEvent_fields parsed).2.trans (documented.ledger_eq member).2

theorem insertable (documented : Documented history) {raw : RpcEvent} (member : raw ∈ history)
    {record : ContractEventRecord} (parsed : parseRpcEvent sdk raw = some record) : record.insertable = true := by
  have index : record.event_index = raw.eventIndex := congrArg Prod.snd (parseRpcEvent_fields parsed).1
  rw [ContractEventRecord.insertable, index, documented.indexed raw member,
    documented.record_ledger member parsed]
  rfl

theorem unique (documented : Documented history) :
    ((history.filterMap (parseRpcEvent sdk)).map ContractEventRecord.key).Nodup := by
  have keyed := documented.keyed
  clear documented
  induction history with
  | nil => exact List.nodup_nil
  | cons raw rest ih =>
    obtain ⟨fresh, others⟩ := List.nodup_cons.mp keyed
    cases parsed : parseRpcEvent sdk raw with
    | none => simpa only [List.filterMap_cons, parsed] using ih others
    | some record =>
      simp only [List.filterMap_cons, parsed, List.map_cons]
      refine List.nodup_cons.mpr ⟨?_, ih others⟩
      intro present
      obtain ⟨twin, member, same⟩ := List.mem_map.mp present
      obtain ⟨other, inRest, parsedOther⟩ := List.mem_filterMap.mp member
      rw [(parseRpcEvent_fields parsed).1, (parseRpcEvent_fields parsedOther).1] at same
      exact fresh (List.mem_map.mpr ⟨other, inRest, same⟩)

end Documented

variable (rpc history) in
/-- The cursor stands for position `c`, and goes on standing for it as the chain grows. -/
def CursorAt (s : IndexerState) (c : Nat) : Prop :=
  ∀ n, s.published ≤ n → rpc.position (history.take n) s.cursor = c

variable (sdk rpc history) in
/-- The table holds what the first `p` events of the chain leave there, and the cursor and
the batch, which is the part of the chain behind the cursor, have not got past `p`. -/
structure Caught (s : IndexerState) (p c : Nat) : Prop where
  available : p ≤ s.published ∧ s.published ≤ history.length
  behind : c ≤ p
  rows : s.rows = covered (parseRpcEvent sdk) history p
  cursor : CursorAt rpc history s c
  batch : ∀ page done, s.batch = some (page, done) →
    page = (history.drop c).take page.length ∧ c + page.length ≤ s.published ∧ done ≤ page.length ∧ c + done ≤ p

namespace Caught
variable {s : IndexerState} {p c : Nat}

theorem fetched (caught : Caught sdk rpc history s p c) (length : Nat) :
    ∃ size, rpc.getEvents (s.chain history) s.cursor length = (history.drop c).take size ∧
      ((history.drop c).take size).length = size ∧ c + size ≤ s.published ∧
      size = min (min length 200) (s.published - c) := by
  have position : rpc.position (s.chain history) s.cursor = c := caught.cursor _ le_rfl
  have bounds := caught.available
  have behind := caught.behind
  refine ⟨min (min length 200) (s.published - c), ?_, ?_, by omega, rfl⟩
  · rw [EventsRpc.getEvents, position, IndexerState.chain, List.drop_take, List.take_take]
  · rw [List.length_take, List.length_drop]
    omega

theorem publish (caught : Caught sdk rpc history s p c) :
    Caught sdk rpc history (pollStep sdk rpc history s .publish) p c := by
  have bounds := caught.available
  have grown : s.published ≤ min (s.published + 1) history.length := by omega
  exact {
    available := ⟨bounds.1.trans grown, Nat.min_le_right _ _⟩
    behind := caught.behind
    rows := caught.rows
    cursor := fun n later => caught.cursor n (grown.trans later)
    batch := fun page done current => by
      obtain ⟨part, inside, rest⟩ := caught.batch page done current
      exact ⟨part, inside.trans grown, rest⟩ }

theorem fetch (caught : Caught sdk rpc history s p c) (length : Nat) :
    Caught sdk rpc history (pollStep sdk rpc history s (.fetch length)) p c := by
  cases busy : s.batch with
  | some batch =>
    simp only [pollStep, busy]
    exact caught
  | none =>
    simp only [pollStep, busy]
    obtain ⟨size, page_eq, page_length, inside, _⟩ := caught.fetched length
    refine ⟨caught.available, caught.behind, caught.rows, caught.cursor, ?_⟩
    intro page done current
    simp only [Option.some.injEq, Prod.mk.injEq] at current
    obtain ⟨rfl, rfl⟩ := current
    rw [page_eq, page_length]
    exact ⟨rfl, inside, Nat.zero_le _, caught.behind⟩

/-- A batch that is broken off leaves the rows as they are and the cursor behind them. -/
theorem drop_batch (caught : Caught sdk rpc history s p c) :
    Caught sdk rpc history { s with batch := none } p c :=
  ⟨caught.available, caught.behind, caught.rows, caught.cursor, fun _ _ current => by cases current⟩

/-- The event a batch comes to next. -/
theorem at_done (caught : Caught sdk rpc history s p c) {page : List RpcEvent} {done : Nat}
    (current : s.batch = some (page, done)) {raw : RpcEvent} (next : page[done]? = some raw) :
    history[c + done]? = some raw ∧ c + done + 1 ≤ s.published ∧ done + 1 ≤ page.length := by
  obtain ⟨part, inside, _, _⟩ := caught.batch page done current
  have within : done < page.length := (List.getElem?_eq_some_iff.mp next).choose
  rw [part, List.getElem?_take, List.getElem?_drop, if_pos within] at next
  exact ⟨next, by omega, within⟩

/-- One more event of the batch is done, and the table has got at least that far. -/
theorem advance (caught : Caught sdk rpc history s p c) {page : List RpcEvent} {done : Nat}
    (current : s.batch = some (page, done)) {raw : RpcEvent} (next : page[done]? = some raw)
    {rows : List ContractEventRecord} (visited : rows = covered (parseRpcEvent sdk) history (max p (c + done + 1)))
    (returned : Bool) :
    Caught sdk rpc history { s with rows := rows, batch := if returned then some (page, done + 1) else none }
      (max p (c + done + 1)) c := by
  obtain ⟨atDone, inside, within⟩ := caught.at_done current next
  obtain ⟨part, room, _, _⟩ := caught.batch page done current
  have bounds := caught.available
  have behind := caught.behind
  refine ⟨⟨by dsimp only; omega, bounds.2⟩, by omega, visited, caught.cursor, ?_⟩
  intro page' done' after
  cases returned with
  | false => cases after
  | true =>
    simp only [if_true, Option.some.injEq, Prod.mk.injEq] at after
    obtain ⟨rfl, rfl⟩ := after
    exact ⟨part, room, within, by omega⟩

/-- Behind the last event of its page the cursor moves to the end of the page. -/
theorem finish (documented : rpc.Documented history) (caught : Caught sdk rpc history s p c)
    {page : List RpcEvent} {done : Nat} (current : s.batch = some (page, done)) (ended : page[done]? = none)
    (outcome : StoreOutcome) : Caught sdk rpc history (proceed sdk s page done outcome) p (c + page.length) := by
  obtain ⟨part, room, reached, behind⟩ := caught.batch page done current
  have whole : done = page.length := Nat.le_antisymm reached (List.getElem?_eq_none_iff.mp ended)
  subst whole
  have bounds := caught.available
  simp only [proceed, ended]
  refine ⟨bounds, behind, caught.rows, ?_, fun _ _ after => by cases after⟩
  intro n later
  have later : s.published ≤ n := later
  cases ends : page.getLast? with
  | none =>
    rw [List.getLast?_eq_none_iff.mp ends]
    exact caught.cursor n later
  | some last =>
    rw [List.getLast?_eq_getElem?] at ends
    have nonempty : page.length - 1 < page.length := (List.getElem?_eq_some_iff.mp ends).choose
    rw [part, List.getElem?_take, List.getElem?_drop, if_pos (by rw [← part]; exact nonempty), ← part] at ends
    have visible : (history.take n)[c + (page.length - 1)]? = some last := by
      rw [List.getElem?_take, if_pos (by omega)]
      exact ends
    have position := documented.afterEvent n _ last visible
    dsimp only
    rw [position]
    omega

theorem proceed (documented : Documented history) (rpcDocumented : rpc.Documented history)
    (caught : Caught sdk rpc history s p c) (outcome : StoreOutcome) :
    ∃ p' c', Caught sdk rpc history (pollStep sdk rpc history s (.proceed outcome)) p' c' := by
  cases current : s.batch with
  | none => exact ⟨p, c, by simpa only [pollStep, current] using caught⟩
  | some batch =>
    obtain ⟨page, done⟩ := batch
    simp only [pollStep, current]
    cases next : page[done]? with
    | none => exact ⟨p, c + page.length, caught.finish rpcDocumented current next outcome⟩
    | some raw =>
      have behind := (caught.batch page done current).2.2.2
      have atDone := (caught.at_done current next).1
      cases parsed : parseRpcEvent sdk raw with
      | none =>
        have visited := covered_visit_none behind atDone parsed
        refine ⟨max p (c + done + 1), c, ?_⟩
        simp only [WorkloadGovernor.proceed, next, parsed]
        exact caught.advance current next (caught.rows.trans visited) true
      | some record =>
        have insertable := documented.insertable (List.mem_of_getElem? atDone) parsed
        simp only [WorkloadGovernor.proceed, next, parsed, storeEvent, insertable, Bool.true_eq_false, or_false]
        by_cases refused : outcome = .refused
        · simp only [refused, if_true]
          exact ⟨p, c, caught.drop_batch⟩
        · simp only [if_neg refused]
          have visited := insertNew_visit documented.unique behind atDone parsed
          rw [← caught.rows] at visited
          exact ⟨max p (c + done + 1), c, caught.advance current next visited _⟩

end Caught

theorem maxLedger_le {rows : List ContractEventRecord} {ledger : Int} (highest : maxLedger rows = some ledger) :
    ∃ record ∈ rows, record.ledger = some ledger :=
  List.mem_filterMap.mp (List.max?_eq_some_iff.mp highest).1

/-- The highest stored ledger is that of an event the table has got to. -/
theorem Caught.highest (documented : Documented history) {s : IndexerState} {p c : Nat}
    (caught : Caught sdk rpc history s p c) {ledger : Int} (highest : maxLedger s.rows = some ledger) :
    ∃ (j : Nat) (raw : RpcEvent), j < p ∧ history[j]? = some raw ∧ raw.ledgerSeq = ledger := by
  obtain ⟨record, stored, atLedger⟩ := maxLedger_le highest
  rw [caught.rows] at stored
  obtain ⟨j, raw, inside, atJ, parsed⟩ := mem_covered.mp stored
  have own := documented.record_ledger (List.mem_of_getElem? atJ) parsed
  exact ⟨j, raw, inside, atJ, Option.some.inj (own.symm.trans atLedger)⟩

/-- A restart puts the cursor at the start of the highest stored ledger, or of the chain. -/
theorem Caught.restart (documented : Documented history) (rpcDocumented : rpc.Documented history)
    {s : IndexerState} {p c : Nat} (caught : Caught sdk rpc history s p c) (readable : Bool) :
    ∃ c', Caught sdk rpc history (pollStep sdk rpc history s (.restart readable)) p c' := by
  have fromStart : Caught sdk rpc history { s with cursor := none, batch := none } p 0 :=
    ⟨caught.available, Nat.zero_le _, caught.rows, fun n _ => rpcDocumented.fromStart n,
      fun _ _ current => by cases current⟩
  simp only [pollStep, initCursor]
  cases resumed : (if readable then maxLedger s.rows else none) with
  | none => exact ⟨0, fromStart⟩
  | some ledger =>
    have highest : maxLedger s.rows = some ledger := by
      cases readable with
      | false => cases resumed
      | true => exact resumed
    obtain ⟨j, raw, inside, atJ, own⟩ := caught.highest documented highest
    have positive : ledger > 0 := by
      rw [← own]
      exact (documented.ledger_eq (List.mem_of_getElem? atJ)).1
    simp only [if_pos positive]
    have bounds := caught.available
    have before : (history.findIdx fun raw => ledger ≤ raw.ledgerSeq) ≤ j := by
      by_contra beyond
      obtain ⟨bound, value⟩ := List.getElem?_eq_some_iff.mp atJ
      have below := List.not_of_lt_findIdx (Nat.lt_of_not_le beyond)
      rw [value, own] at below
      simp at below
    refine ⟨history.findIdx fun raw => ledger ≤ raw.ledgerSeq, caught.available, by omega, caught.rows, ?_,
      fun _ _ current => by cases current⟩
    intro n later
    have later : s.published ≤ n := later
    rw [rpcDocumented.fromLedger, List.findIdx_take]
    exact Nat.min_eq_right (by omega)

theorem caught_step (documented : Documented history) (rpcDocumented : rpc.Documented history) {s : IndexerState}
    (caught : ∃ p c, Caught sdk rpc history s p c) (a : IndexerStep) :
    ∃ p c, Caught sdk rpc history (pollStep sdk rpc history s a) p c := by
  obtain ⟨p, c, caught⟩ := caught
  cases a with
  | publish => exact ⟨p, c, caught.publish⟩
  | fetch length => exact ⟨p, c, caught.fetch length⟩
  | fetchFails => exact ⟨p, c, caught⟩
  | proceed outcome => exact caught.proceed documented rpcDocumented outcome
  | restart readable => exact ⟨p, caught.restart documented rpcDocumented readable⟩

theorem caught_fresh (rpcDocumented : rpc.Documented history) : Caught sdk rpc history .fresh 0 0 :=
  ⟨⟨le_rfl, Nat.zero_le _⟩, le_rfl, rfl, fun n _ => rpcDocumented.fromStart n, fun _ _ current => by cases current⟩

variable (sdk) in
theorem poll_caught (documented : Documented history) (rpcDocumented : rpc.Documented history)
    (steps : List IndexerStep) : ∃ p c, Caught sdk rpc history (poll sdk rpc history steps) p c := by
  have init : ∃ p c, Caught sdk rpc history IndexerState.fresh p c := ⟨0, 0, caught_fresh rpcDocumented⟩
  have preserved : ∀ s a, (∃ p c, Caught sdk rpc history s p c) →
      ∃ p c, Caught sdk rpc history (pollStep sdk rpc history s a) p c :=
    fun s a caught => caught_step documented rpcDocumented caught a
  exact @Run.exec_invariant _ _ _ _ (fun s => ∃ p c, Caught sdk rpc history s p c) init preserved steps

namespace Caught
variable {s : IndexerState} {p c : Nat}

theorem rowsOf_le_one (documented : Documented history) (caught : Caught sdk rpc history s p c) (raw : RpcEvent) :
    rowsOf s.rows raw ≤ 1 := by
  rw [rowsOf, caught.rows]
  exact List.nodup_iff_count_le_one.mp (covered_keys_nodup documented.unique) _

/-- Every event before position `p` has its row. -/
theorem rowsOf_eq_one (documented : Documented history) (caught : Caught sdk rpc history s p c) {i : Nat}
    {raw : RpcEvent} (inside : i < p) (atI : history[i]? = some raw) {record : ContractEventRecord}
    (parsed : parseRpcEvent sdk raw = some record) : record ∈ s.rows ∧ rowsOf s.rows raw = 1 := by
  have stored : record ∈ s.rows := by
    rw [caught.rows]
    exact mem_covered.mpr ⟨i, raw, inside, atI, parsed⟩
  have listed : raw.dedupKey ∈ s.rows.map ContractEventRecord.key := by
    rw [← (parseRpcEvent_fields parsed).1]
    exact List.mem_map_of_mem stored
  have positive : 0 < rowsOf s.rows raw := List.count_pos_iff.mpr listed
  have bound := caught.rowsOf_le_one documented raw
  exact ⟨stored, by omega⟩

theorem of_chain {i : Nat} {raw : RpcEvent} (atI : (s.chain history)[i]? = some raw) :
    i < s.published ∧ history[i]? = some raw := by
  rw [IndexerState.chain, List.getElem?_take] at atI
  split at atI
  · rename_i inside
    exact ⟨inside, atI⟩
  · cases atI

theorem before_cursor (caught : Caught sdk rpc history s p c) {i : Nat} {raw : RpcEvent}
    (before : i < rpc.position (s.chain history) s.cursor) (atI : (s.chain history)[i]? = some raw) :
    i < p ∧ history[i]? = some raw := by
  have position : rpc.position (s.chain history) s.cursor = c := caught.cursor _ le_rfl
  rw [position] at before
  exact ⟨before.trans_le caught.behind, (of_chain atI).2⟩

/-- A ledger below the highest stored one lies before position `p` as a whole. -/
theorem below_highest (documented : Documented history) (caught : Caught sdk rpc history s p c) {ledger : Int}
    (highest : maxLedger s.rows = some ledger) {i : Nat} {raw : RpcEvent} (atI : history[i]? = some raw)
    (below : raw.ledgerSeq < ledger) : i < p := by
  obtain ⟨j, top, inside, atJ, own⟩ := caught.highest documented highest
  by_contra beyond
  obtain ⟨boundI, rfl⟩ := List.getElem?_eq_some_iff.mp atI
  obtain ⟨boundJ, rfl⟩ := List.getElem?_eq_some_iff.mp atJ
  have order := List.pairwise_iff_getElem.mp documented.ordered j i boundJ boundI (by omega)
  omega

end Caught

namespace Caught
variable {s : IndexerState} {p c : Nat} {page : List RpcEvent} {done : Nat}

/-- As long as nothing fails a batch goes on event by event. -/
theorem proceed_stored (documented : Documented history) (caught : Caught sdk rpc history s p c)
    (current : s.batch = some (page, done)) (inside : done < page.length) :
    ∃ rows, pollStep sdk rpc history s (.proceed .stored) = { s with rows := rows, batch := some (page, done + 1) } ∧
      Caught sdk rpc history { s with rows := rows, batch := some (page, done + 1) } (max p (c + done + 1)) c := by
  have next := List.getElem?_eq_getElem inside
  have behind := (caught.batch page done current).2.2.2
  have atDone := (caught.at_done current next).1
  simp only [pollStep, current, WorkloadGovernor.proceed, next]
  cases parsed : parseRpcEvent sdk page[done] with
  | none =>
    have visited := covered_visit_none behind atDone parsed
    exact ⟨s.rows, rfl, caught.advance current next (caught.rows.trans visited) true⟩
  | some record =>
    have insertable := documented.insertable (List.mem_of_getElem? atDone) parsed
    have visited := insertNew_visit documented.unique behind atDone parsed
    rw [← caught.rows] at visited
    simp only [storeEvent, insertable, reduceCtorEq, Bool.true_eq_false, or_self, if_false]
    exact ⟨_, rfl, caught.advance current next visited true⟩

theorem proceed_all (documented : Documented history) (caught : Caught sdk rpc history s p c)
    (current : s.batch = some (page, 0)) :
    ∀ done, done ≤ page.length → ∃ rows p',
      Run.exec (pollStep sdk rpc history) s (List.replicate done (.proceed .stored)) =
        { s with rows := rows, batch := some (page, done) } ∧
      Caught sdk rpc history { s with rows := rows, batch := some (page, done) } p' c := by
  intro done
  induction done with
  | zero =>
    intro _
    refine ⟨s.rows, p, ?_⟩
    rw [← current]
    exact ⟨rfl, caught⟩
  | succ done ih =>
    intro inside
    obtain ⟨rows, p', before, reached⟩ := ih (Nat.le_of_succ_le inside)
    obtain ⟨rows', after, further⟩ := reached.proceed_stored documented rfl inside
    refine ⟨rows', _, ?_, further⟩
    rw [List.replicate_succ', Run.exec_concat, before]
    exact after

/-- A turn of the loop on all that is left of the chain moves the cursor to its end. -/
theorem iteration_reaches_end (documented : Documented history) (rpcDocumented : rpc.Documented history)
    (caught : Caught sdk rpc history s p c) (idle : s.batch = none) {length : Nat}
    (rest : c + length = s.published) (limit : length ≤ 200) :
    ∃ p', Caught sdk rpc history (Run.exec (pollStep sdk rpc history) s (iteration length)) p' s.published ∧
      (Run.exec (pollStep sdk rpc history) s (iteration length)).published = s.published := by
  obtain ⟨n, page_eq, page_length, _, n_eq⟩ := caught.fetched length
  have all : n = length := by omega
  subst all
  have fetched := caught.fetch n
  have started : pollStep sdk rpc history s (.fetch n) = { s with batch := some ((history.drop c).take n, 0) } := by
    simp only [pollStep, idle, page_eq]
  rw [started] at fetched
  obtain ⟨rows, p', stored, reached⟩ := fetched.proceed_all documented rfl n page_length.ge
  have ended : ((history.drop c).take n)[n]? = none := List.getElem?_eq_none_iff.mpr page_length.le
  have finished := reached.finish rpcDocumented rfl ended .stored
  rw [page_length, rest] at finished
  have ran : Run.exec (pollStep sdk rpc history) s (iteration n) = WorkloadGovernor.proceed sdk
      { s with rows := rows, batch := some ((history.drop c).take n, n) } ((history.drop c).take n) n .stored := by
    have first : Run.exec (pollStep sdk rpc history) s [.fetch n] =
        { s with batch := some ((history.drop c).take n, 0) } := started
    have all := Run.exec_append (pollStep sdk rpc history) s [.fetch n] (List.replicate n (.proceed .stored))
    rw [first, stored] at all
    rw [iteration, List.replicate_succ', ← List.cons_append, Run.exec_concat, ← List.singleton_append, all]
    rfl
  rw [ran]
  refine ⟨p', finished, ?_⟩
  simp only [WorkloadGovernor.proceed, ended]

end Caught

/-- A row is that of an event that has appeared on the chain. -/
theorem Caught.row_origin {s : IndexerState} {p c : Nat} (caught : Caught sdk rpc history s p c)
    {record : ContractEventRecord} (stored : record ∈ s.rows) :
    ∃ raw ∈ s.chain history, parseRpcEvent sdk raw = some record := by
  rw [caught.rows] at stored
  obtain ⟨j, raw, inside, atJ, parsed⟩ := mem_covered.mp stored
  refine ⟨raw, ?_, parsed⟩
  rw [IndexerState.chain, List.mem_iff_getElem?]
  refine ⟨j, ?_⟩
  rw [List.getElem?_take, if_pos (inside.trans_le caught.available.1)]
  exact atJ

/-- Every event is stored at most once, whatever fails and whenever the indexer restarts,
and nothing before the cursor or below the highest stored ledger is ever missing. -/
theorem indexer_exactly_once (documented : Documented history) (rpcDocumented : rpc.Documented history)
    (steps : List IndexerStep) :
    let s := poll sdk rpc history steps
    let chain := s.chain history
    (∀ raw, rowsOf s.rows raw ≤ 1) ∧
    (∀ record ∈ s.rows, ∃ raw ∈ chain, parseRpcEvent sdk raw = some record) ∧
    (∀ i raw record, chain[i]? = some raw → parseRpcEvent sdk raw = some record →
      (i < rpc.position chain s.cursor → record ∈ s.rows ∧ rowsOf s.rows raw = 1) ∧
      (∀ ledger, maxLedger s.rows = some ledger → raw.ledgerSeq < ledger →
        record ∈ s.rows ∧ rowsOf s.rows raw = 1)) ∧
    (rpc.position chain s.cursor = chain.length → ∀ raw ∈ chain, ∀ record,
      parseRpcEvent sdk raw = some record → record ∈ s.rows ∧ rowsOf s.rows raw = 1) ∧
    (∀ length, s.batch = none → rpc.position chain s.cursor + length = chain.length → length ≤ 200 →
      ∀ raw ∈ chain, ∀ record, parseRpcEvent sdk raw = some record →
        let t := poll sdk rpc history (steps ++ iteration length)
        t.chain history = chain ∧ record ∈ t.rows ∧ rowsOf t.rows raw = 1) := by
  dsimp only
  obtain ⟨p, c, caught⟩ := poll_caught sdk documented rpcDocumented steps
  generalize reached : poll sdk rpc history steps = s at caught ⊢
  have size : (s.chain history).length = s.published := by
    rw [IndexerState.chain, List.length_take]
    exact Nat.min_eq_left caught.available.2
  have before {i : Nat} {raw : RpcEvent} {record : ContractEventRecord} (atI : (s.chain history)[i]? = some raw)
      (parsed : parseRpcEvent sdk raw = some record) (passed : i < rpc.position (s.chain history) s.cursor) :
      record ∈ s.rows ∧ rowsOf s.rows raw = 1 := by
    obtain ⟨inside, atHistory⟩ := caught.before_cursor passed atI
    exact caught.rowsOf_eq_one documented inside atHistory parsed
  refine ⟨caught.rowsOf_le_one documented, fun _ => caught.row_origin, ?_, ?_, ?_⟩
  · intro i raw record atI parsed
    refine ⟨before atI parsed, ?_⟩
    intro ledger highest below
    have atHistory := (Caught.of_chain atI).2
    exact caught.rowsOf_eq_one documented (caught.below_highest documented highest atHistory below) atHistory parsed
  · intro at_end raw visible record parsed
    obtain ⟨i, atI⟩ := List.mem_iff_getElem?.mp visible
    have bound := (List.getElem?_eq_some_iff.mp atI).choose
    exact before atI parsed (by rw [at_end]; exact bound)
  · intro length idle rest limit raw visible record parsed
    have position : rpc.position (s.chain history) s.cursor = c := caught.cursor _ le_rfl
    rw [position, size] at rest
    obtain ⟨p', finished, published⟩ := caught.iteration_reaches_end documented rpcDocumented idle rest limit
    rw [poll, Run.exec_append]
    rw [poll] at reached
    rw [reached]
    obtain ⟨i, atI⟩ := List.mem_iff_getElem?.mp visible
    obtain ⟨inside, atHistory⟩ := Caught.of_chain atI
    refine ⟨by rw [IndexerState.chain, IndexerState.chain, published], ?_⟩
    exact finished.rowsOf_eq_one documented (inside.trans_le finished.behind) atHistory parsed

end Invariant

section Sample

/-- A node that tells the two documented kinds of cursor apart. -/
def sampleRpc : EventsRpc where
  position := fun chain cursor =>
    match cursor with
    | none => 0
    | some text =>
      match chain.findIdx? fun raw => raw.pagingToken = text with
      | some i => i + 1
      | none =>
        match parseInt text with
        | some ledger => chain.findIdx fun raw => ledger ≤ raw.ledgerSeq
        | none => chain.length

def sampleApplied : RpcEvent :=
  sampleEvent "AAAADwAAAAdhcHBsaWVkAA==" "AAAAEAAAAAEAAAACAAAADwAAAANvcmcAAAAAAwAAAAc="

theorem sampleApplied_documented : Documented [sampleApplied] where
  numbered := by
    intro raw member
    rw [List.mem_singleton.mp member]
    exact ⟨42, by decide, by decide⟩
  indexed := by decide
  ordered := List.pairwise_singleton _ _
  keyed := List.nodup_singleton _

theorem ledger_ne_pagingToken (ledger : Int) : sampleApplied.pagingToken ≠ ledger.repr := by
  intro same
  have chars := congrArg String.toList same
  rw [Int.repr_eq_if] at chars
  split at chars
  · have dash : '-' ∈ Nat.toDigits 10 ledger.toNat := by
      rw [← Nat.toList_repr, ← chars]
      decide
    cases Nat.isDigit_of_mem_toDigits (by decide) (by decide) dash
  · rw [String.toList_append] at chars
    have first : some '0' = some '-' := congrArg List.head? chars
    exact absurd first (by decide)

theorem sampleRpc_documented : sampleRpc.Documented [sampleApplied] where
  fromStart := fun _ => rfl
  fromLedger := by
    intro n ledger
    rw [Int.toString_eq_repr]
    cases n with
    | zero => simp [sampleRpc, parseInt_repr]
    | succ n => simp [sampleRpc, ledger_ne_pagingToken, parseInt_repr]
  afterEvent := by
    intro n i raw atI
    cases n with
    | zero => simp at atI
    | succ n =>
      cases i with
      | zero =>
        cases Option.some.inj atI
        simp [sampleRpc]
      | succ i => simp at atI

/-- An event whose storing was broken off after its row was written, with a restart that
forgot the cursor, is fetched again and still has one row. -/
theorem interrupted_event_stored_once :
    rowsOf (poll sampleSdk sampleRpc [sampleApplied]
      ([.publish, .fetch 1, .proceed .threw, .restart false] ++ iteration 1)).rows sampleApplied = 1 := by
  have parsed : ∃ record, parseRpcEvent sampleSdk sampleApplied = some record := ⟨_, rfl⟩
  obtain ⟨record, parsed⟩ := parsed
  have turn := (@indexer_exactly_once _ sampleSdk _ _ sampleApplied_documented sampleRpc_documented
    [.publish, .fetch 1, .proceed .threw, .restart false]).2.2.2.2 1 rfl rfl (by decide)
  exact (turn sampleApplied (List.mem_singleton_self _) record parsed).2.2

end Sample

end WorkloadGovernor
