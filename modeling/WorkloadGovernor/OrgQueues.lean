import Mathlib.Logic.Function.Iterate
import WorkloadGovernor.Lib.FifoServer
import WorkloadGovernor.Lib.Run

namespace WorkloadGovernor

structure OrgRecord where
  org_id : String
  contract_address : String
  deriving DecidableEq, Repr

inductive OrgEventType where
  | applied | withdrawn | assigned | completed | revoked
  deriving DecidableEq, Repr

structure OrgEvent where
  org_id : String
  event_type : OrgEventType
  issue_id : String
  contributor : String
  tx_hash : String
  occurred_at : Int
  deriving DecidableEq, Repr

/-- How a `saveEvent` ends. It is asynchronous, so it never ends before it is awaited. -/
inductive SaveOutcome where
  | saved
  | failed
  deriving DecidableEq, Repr

/-- An `OrgQueue` and the events whose `saveEvent` its activations of `processNext` await. -/
structure OrgQueue where
  orgId : String
  contractAddress : String
  queue : List OrgEvent
  processing : Bool
  awaiting : List OrgEvent
  deriving DecidableEq, Repr

namespace OrgQueue

def new (orgId contractAddress : String) : OrgQueue := ⟨orgId, contractAddress, [], false, []⟩

/-- An activation up to its `await`, with the `saveEvent` it begins. -/
def processNext (q : OrgQueue) : OrgQueue × Option OrgEvent :=
  match q.queue with
  | [] => ({ q with processing := false }, none)
  | event :: _ => ({ q with processing := true, awaiting := q.awaiting ++ [event] }, some event)

def enqueue (q : OrgQueue) (event : OrgEvent) : OrgQueue × Option OrgEvent :=
  if event.org_id ≠ q.orgId then (q, none)
  else
    let pushed := { q with queue := q.queue ++ [event] }
    if pushed.processing = false then pushed.processNext else (pushed, none)

def shift (q : OrgQueue) : OrgQueue := { q with queue := q.queue.tail }

/-- The `n`-th suspended activation goes on after its `await`: it shifts the queue at the
end of the `try` block or in the `catch` block, and calls `processNext`. -/
def resume (q : OrgQueue) (n : Nat) (outcome : SaveOutcome) : OrgQueue × Option OrgEvent :=
  if n < q.awaiting.length then
    let woken := { q with awaiting := q.awaiting.eraseIdx n }
    match outcome with
    | .saved => woken.shift.processNext
    | .failed => woken.shift.processNext
  else (q, none)

end OrgQueue

/-- The queues that were created for an org are kept in the order of their creation;
`orgQueues` has the place of the one in the map. -/
structure SyncService where
  orgQueues : String → Option Nat
  created : String → List OrgQueue
  /-- How many listeners `event:<orgId>` has. -/
  listeners : String → Nat
  /-- How many reads of the orgs are under way. -/
  loads : Nat
  /-- The calls of `saveEvent`. -/
  saves : List OrgEvent

namespace SyncService

def init : SyncService := ⟨fun _ => none, fun _ => [], fun _ => 0, 0, []⟩

/-- An operation on one of the queues, with the `saveEvent` it begins. -/
def onQueue (s : SyncService) (orgId : String) (place : Nat) (op : OrgQueue → OrgQueue × Option OrgEvent) :
    SyncService :=
  match (s.created orgId)[place]? with
  | none => s
  | some q =>
    { s with
      created := Function.update s.created orgId ((s.created orgId).set place (op q).1)
      saves := s.saves ++ (op q).2.toList }

/-- Events of an unknown org are dropped. -/
def handleEvent (s : SyncService) (orgId : String) (event : OrgEvent) : SyncService :=
  match s.orgQueues orgId with
  | none => s
  | some place => s.onQueue orgId place (·.enqueue event)

/-- `this.on` appends a listener. -/
def startOrgListener (s : SyncService) (orgId : String) : SyncService :=
  { s with listeners := Function.update s.listeners orgId (s.listeners orgId + 1) }

/-- The body of the loop over the orgs read. -/
def register (s : SyncService) (org : OrgRecord) : SyncService :=
  if (s.orgQueues org.org_id).isSome then s
  else
    let queue := OrgQueue.new org.org_id org.contract_address
    startOrgListener
      { s with
        created := Function.update s.created org.org_id (s.created org.org_id ++ [queue])
        orgQueues := Function.update s.orgQueues org.org_id (some (s.created org.org_id).length) }
      org.org_id

/-- Every listener of the channel handles the event. -/
def emit (s : SyncService) (orgId : String) (event : OrgEvent) : SyncService :=
  (fun t => t.handleEvent orgId event)^[s.listeners orgId] s

end SyncService

/-- What can happen between two turns of the event loop: `loadAndRegisterOrgs` is called,
its read of the orgs completes or fails, an event is emitted, a `saveEvent` settles. -/
inductive SyncStep where
  | load
  | loaded (orgs : List OrgRecord)
  | loadFailed
  | emit (orgId : String) (event : OrgEvent)
  | settled (orgId : String) (place n : Nat) (outcome : SaveOutcome)
  deriving DecidableEq, Repr

def syncStep (s : SyncService) : SyncStep → SyncService
  | .load => { s with loads := s.loads + 1 }
  | .loaded orgs => if s.loads = 0 then s else orgs.foldl SyncService.register { s with loads := s.loads - 1 }
  | .loadFailed => { s with loads := s.loads - 1 }
  | .emit orgId event => s.emit orgId event
  | .settled orgId place n outcome => s.onQueue orgId place (·.resume n outcome)

def sync (steps : List SyncStep) : SyncService := Run.exec syncStep .init steps

section Observations

/-- The `saveEvent` calls for the events of an org. -/
def SyncService.savesOf (s : SyncService) (orgId : String) : List OrgEvent :=
  s.saves.filter fun event => event.org_id = orgId

/-- An event of its own emitted for an org that is registered. -/
def accepts (orgId : String) (s : SyncService) : SyncStep → Option OrgEvent
  | .emit channel event =>
    if channel = orgId ∧ event.org_id = orgId ∧ (s.orgQueues orgId).isSome then some event else none
  | _ => none

/-- A save of the org that was under way has settled. -/
def completes (orgId : String) (s : SyncService) : SyncStep → Option SaveOutcome
  | .settled owner place n outcome =>
    if owner = orgId ∧ ∃ q ∈ (s.created orgId)[place]?, n < q.awaiting.length then some outcome else none
  | _ => none

/-- The matching events emitted for an org after its registration. -/
def accepted (orgId : String) (steps : List SyncStep) : List OrgEvent :=
  Run.observed syncStep (accepts orgId) .init steps

/-- How the saves of an org have ended so far. -/
def completed (orgId : String) (steps : List SyncStep) : List SaveOutcome :=
  Run.observed syncStep (completes orgId) .init steps

end Observations

namespace OrgQueue
variable {q : OrgQueue} {server : FifoServer OrgEvent} {event : OrgEvent}

/-- The queue stands where the server does: it is processing while something waits, and
then one activation awaits the save of the first event. -/
structure Serves (q : OrgQueue) (server : FifoServer OrgEvent) : Prop where
  queue : q.queue = server.waiting
  processing : q.processing = !server.waiting.isEmpty
  awaiting : q.awaiting = server.waiting.head?.toList

theorem Serves.one_drain (serves : q.Serves server) : q.awaiting.length ≤ 1 := by
  rw [serves.awaiting]
  exact Option.length_toList_le

theorem Serves.awaiting_eq_nil (serves : q.Serves server) : q.awaiting = [] ↔ server.waiting = [] := by
  rw [serves.awaiting]
  cases server.waiting with
  | nil => exact iff_of_true rfl rfl
  | cons first later => exact iff_of_false (List.cons_ne_nil _ _) (List.cons_ne_nil _ _)

theorem new_serves (orgId contractAddress : String) : (new orgId contractAddress).Serves .idle where
  queue := rfl
  processing := rfl
  awaiting := rfl

theorem processNext_serves (queue : q.queue = server.waiting) (awaiting : q.awaiting = []) :
    q.processNext.1.Serves server ∧ q.processNext.2 = server.waiting.head? := by
  unfold processNext
  cases rest : server.waiting with
  | nil =>
    rw [rest] at queue
    simp only [queue]
    exact ⟨⟨rest.symm, by rw [rest]; rfl, by rw [rest, awaiting]; rfl⟩, rfl⟩
  | cons first later =>
    rw [rest] at queue
    simp only [queue]
    exact ⟨⟨rest.symm, by rw [rest]; rfl, by rw [rest, awaiting]; rfl⟩, rfl⟩

theorem enqueue_serves (serves : q.Serves server) (own : event.org_id = q.orgId) :
    (q.enqueue event).1.Serves (server.arrive event) ∧
      server.started ++ (q.enqueue event).2.toList = (server.arrive event).started := by
  have pushed : q.queue ++ [event] = (server.arrive event).waiting := by
    rw [serves.queue, server.waiting_arrive]
  rw [enqueue, if_neg (not_not.mpr own), server.started_arrive]
  dsimp only
  by_cases quiet : server.waiting = []
  · -- nothing was waiting: the drain starts with this event
    have idle : q.processing = false := by rw [serves.processing, quiet]; rfl
    have none_awaited : q.awaiting = [] := by rw [serves.awaiting, quiet]; rfl
    obtain ⟨drains, save⟩ := processNext_serves (q := { q with queue := q.queue ++ [event] }) pushed none_awaited
    rw [if_pos idle, if_pos quiet, save, server.waiting_arrive, quiet]
    exact ⟨drains, rfl⟩
  · -- the drain under way comes to this event in its turn
    have busy : ¬ q.processing = false := by
      rw [serves.processing]
      simpa using quiet
    have first : (server.waiting ++ [event]).head? = server.waiting.head? := by
      rw [List.head?_append_of_ne_nil _ quiet]
    rw [if_neg busy, if_neg quiet]
    refine ⟨⟨pushed, ?_, ?_⟩, rfl⟩
    · rw [serves.processing, server.waiting_arrive, List.isEmpty_eq_false_iff.mpr quiet,
        List.isEmpty_eq_false_iff.mpr (List.append_ne_nil_of_left_ne_nil quiet _)]
    · rw [serves.awaiting, server.waiting_arrive, first]

theorem resume_serves (serves : q.Serves server) (n : Nat) (outcome : SaveOutcome) :
    (q.resume n outcome).1.Serves (if n = 0 then server.finish else server) ∧
      server.started ++ (q.resume n outcome).2.toList = (if n = 0 then server.finish else server).started := by
  unfold resume
  split
  · rename_i awaited
    rw [serves.awaiting] at awaited
    cases rest : server.waiting with
    | nil => simp [rest] at awaited
    | cons first later =>
      have only : n = 0 := by simpa [rest] using awaited
      have shifted : q.queue.tail = server.finish.waiting := by rw [serves.queue, server.waiting_finish]
      have none_awaited : q.awaiting.eraseIdx 0 = [] := by rw [serves.awaiting, rest]; rfl
      obtain ⟨drains, save⟩ := processNext_serves
        (q := shift { q with awaiting := q.awaiting.eraseIdx 0 }) shifted none_awaited
      subst only
      rw [if_pos rfl, server.started_finish, ← server.waiting_finish, ← save]
      -- both outcomes go on the same way
      cases outcome with
      | saved => exact ⟨drains, rfl⟩
      | failed => exact ⟨drains, rfl⟩
  · rename_i unknown
    have same : (if n = 0 then server.finish else server) = server := by
      split
      · rename_i zero
        refine server.finish_of_waiting_nil ?_
        rw [zero, serves.awaiting] at unknown
        cases rest : server.waiting with
        | nil => rfl
        | cons first later => simp [rest] at unknown
      · rfl
    rw [same]
    exact ⟨serves, List.append_nil _⟩

@[simp] theorem processNext_orgId : q.processNext.1.orgId = q.orgId := by
  unfold processNext
  split <;> rfl

@[simp] theorem enqueue_orgId : (q.enqueue event).1.orgId = q.orgId := by
  unfold enqueue
  split
  · rfl
  · dsimp only
    split
    · exact processNext_orgId
    · rfl

@[simp] theorem resume_orgId {n : Nat} {outcome : SaveOutcome} : (q.resume n outcome).1.orgId = q.orgId := by
  unfold resume
  split
  · cases outcome <;> exact processNext_orgId
  · rfl

end OrgQueue

/-- What a step is to one org. -/
inductive OrgStep where
  | load
  | loaded (listed : Bool)
  | loadFailed
  | emit (event : OrgEvent)
  | settled (place n : Nat)
  deriving DecidableEq, Repr

/-- Emissions and saves of other orgs are not seen, nor is the outcome of a save. -/
def SyncStep.view (orgId : String) : SyncStep → Option OrgStep
  | .load => some .load
  | .loaded orgs => some (.loaded (orgs.any fun org => org.org_id = orgId))
  | .loadFailed => some .loadFailed
  | .emit channel event => if channel = orgId then some (.emit event) else none
  | .settled owner place n _ => if owner = orgId then some (.settled place n) else none

/-- What one org is promised: from its registration on, a server of its events. -/
structure OrgSpec where
  loads : Nat
  server : Option (FifoServer OrgEvent)

def OrgSpec.init : OrgSpec := ⟨0, none⟩

/-- The server of an org that is not registered has seen nothing. -/
def OrgSpec.served (spec : OrgSpec) : FifoServer OrgEvent := spec.server.getD .idle

def orgStep (orgId : String) (spec : OrgSpec) : OrgStep → OrgSpec
  | .load => { spec with loads := spec.loads + 1 }
  | .loaded listed =>
    if spec.loads = 0 then spec
    else ⟨spec.loads - 1, if listed then some (spec.server.getD .idle) else spec.server⟩
  | .loadFailed => { spec with loads := spec.loads - 1 }
  | .emit event =>
    if event.org_id = orgId then { spec with server := spec.server.map (·.arrive event) } else spec
  | .settled place n =>
    if place = 0 ∧ n = 0 then { spec with server := spec.server.map FifoServer.finish } else spec

namespace SyncService
variable {s t : SyncService} {orgId owner : String} {server : FifoServer OrgEvent} {state : Option (FifoServer OrgEvent)}

/-- An org has no queue and no listener, or one of each and a server it follows. -/
inductive Tracks (s : SyncService) (orgId : String) : Option (FifoServer OrgEvent) → Prop where
  | unknown (unmapped : s.orgQueues orgId = none) (fresh : s.created orgId = []) (silent : s.listeners orgId = 0)
    (unsaved : s.savesOf orgId = []) : Tracks s orgId none
  | registered {q : OrgQueue} {server : FifoServer OrgEvent} (mapped : s.orgQueues orgId = some 0)
    (only : s.created orgId = [q]) (heard : s.listeners orgId = 1) (named : q.orgId = orgId)
    (serves : q.Serves server) (own : ∀ event ∈ server.arrived, event.org_id = orgId)
    (saved : s.savesOf orgId = server.started) : Tracks s orgId (some server)

theorem Tracks.congr (tracks : Tracks s orgId state) (mapped : t.orgQueues orgId = s.orgQueues orgId)
    (created : t.created orgId = s.created orgId) (heard : t.listeners orgId = s.listeners orgId)
    (saved : t.savesOf orgId = s.savesOf orgId) : Tracks t orgId state := by
  cases tracks with
  | unknown unmapped fresh silent unsaved =>
    exact .unknown (mapped.trans unmapped) (created.trans fresh) (heard.trans silent) (saved.trans unsaved)
  | registered mapped' only heard' named serves own saved' =>
    exact .registered (mapped.trans mapped') (created.trans only) (heard.trans heard') named serves own
      (saved.trans saved')

theorem savesOf_append_own {saves : List OrgEvent} (own : ∀ event ∈ saves, event.org_id = orgId) :
    { s with saves := s.saves ++ saves }.savesOf orgId = s.savesOf orgId ++ saves := by
  have all : saves.filter (fun event => event.org_id = orgId) = saves := by
    refine List.filter_eq_self.mpr fun event member => ?_
    simpa using own event member
  rw [savesOf, List.filter_append, all]
  rfl

theorem savesOf_append_other {saves : List OrgEvent} (own : ∀ event ∈ saves, event.org_id = owner)
    (other : orgId ≠ owner) : { s with saves := s.saves ++ saves }.savesOf orgId = s.savesOf orgId := by
  have none_here : saves.filter (fun event => event.org_id = orgId) = [] := by
    refine List.filter_eq_nil_iff.mpr fun event member same => other ?_
    rw [← own event member]
    exact (of_decide_eq_true same).symm
  rw [savesOf, List.filter_append, none_here, List.append_nil]
  rfl

section OnQueue
variable {servers : String → Option (FifoServer OrgEvent)} {q : OrgQueue}
  (op : OrgQueue → OrgQueue × Option OrgEvent) {server' : FifoServer OrgEvent}

/-- An operation that takes the queue of one org from one state of its server to another
changes nothing for the other orgs. -/
theorem tracks_onQueue (all : ∀ orgId, Tracks s orgId (servers orgId)) (mapped : s.orgQueues owner = some 0)
    (only : s.created owner = [q]) (heard : s.listeners owner = 1) (saved : s.savesOf owner = server.started)
    (named : (op q).1.orgId = owner) (serves : (op q).1.Serves server')
    (started : server.started ++ (op q).2.toList = server'.started)
    (own : ∀ event ∈ server'.arrived, event.org_id = owner) (orgId : String) :
    Tracks (s.onQueue owner 0 op) orgId (Function.update servers owner (some server') orgId) := by
  have saves_own : ∀ event ∈ (op q).2.toList, event.org_id = owner := by
    intro event member
    have begun : event ∈ server'.started := started ▸ List.mem_append_right _ member
    exact own event (List.mem_of_mem_take begun)
  have ran : s.onQueue owner 0 op = { s with
      created := Function.update s.created owner [(op q).1], saves := s.saves ++ (op q).2.toList } := by
    rw [onQueue, only]
    rfl
  rw [ran]
  by_cases same : orgId = owner
  · subst same
    rw [Function.update_self]
    refine .registered mapped (Function.update_self ..) heard named serves own ?_
    rw [← started, ← saved]
    exact savesOf_append_own saves_own
  · rw [Function.update_of_ne same]
    exact (all orgId).congr rfl (Function.update_of_ne same ..) rfl (savesOf_append_other saves_own same)

/-- Nothing reaches the server of an unknown org. -/
theorem ite_map_unknown {p : Prop} [Decidable p] {f : FifoServer OrgEvent → FifoServer OrgEvent}
    (unknown : p → state = none) : (if p then state.map f else state) = state := by
  split
  · rename_i hit
    rw [unknown hit, Option.map_none]
  · rfl

/-- A matching event emitted for a known org reaches its server. -/
theorem tracks_emit (all : ∀ orgId, Tracks s orgId (servers orgId)) (channel : String) (event : OrgEvent)
    (orgId : String) : Tracks (s.emit channel event) orgId
      (if channel = orgId ∧ event.org_id = orgId then (servers orgId).map (·.arrive event) else servers orgId) := by
  have there := all channel
  generalize known : servers channel = state at there
  cases there with
  | unknown unmapped _ silent =>
    have dropped : s.emit channel event = s := by rw [SyncService.emit, silent, Function.iterate_zero_apply]
    rw [dropped, ite_map_unknown fun hit => hit.1 ▸ known]
    exact all orgId
  | @registered q server mapped only heard named serves own saved =>
    have handled : s.emit channel event = s.onQueue channel 0 (·.enqueue event) := by
      rw [SyncService.emit, heard, Function.iterate_one, handleEvent, mapped]
    rw [handled]
    by_cases match_own : event.org_id = channel
    · obtain ⟨after, begun⟩ := OrgQueue.enqueue_serves serves (match_own.trans named.symm)
      have still_own : ∀ e ∈ (server.arrive event).arrived, e.org_id = channel := by
        intro e member
        rcases List.mem_append.mp member with old | new
        · exact own e old
        · rw [List.mem_singleton.mp new, match_own]
      have done := tracks_onQueue (fun q => q.enqueue event) all mapped only heard saved
        (OrgQueue.enqueue_orgId.trans named) after begun still_own orgId
      by_cases same : channel = orgId
      · subst same
        rw [if_pos ⟨rfl, match_own⟩, known]
        rwa [Function.update_self] at done
      · rw [if_neg fun hit => same hit.1]
        rwa [Function.update_of_ne (Ne.symm same)] at done
    · -- the queue ignores an event of another org
      have ignored : q.enqueue event = (q, none) := if_pos (named ▸ match_own)
      have unchanged : s.onQueue channel 0 (·.enqueue event) = s := by
        rw [onQueue, only]
        simp only [List.getElem?_cons_zero, ignored, List.set_cons_zero, Option.toList_none, List.append_nil]
        rw [← only, Function.update_eq_self]
      rw [unchanged, if_neg fun hit => match_own (hit.2.trans hit.1.symm)]
      exact all orgId

/-- A settled save is the end of one service, if it is one the org was awaiting. -/
theorem tracks_settled (all : ∀ orgId, Tracks s orgId (servers orgId)) (owner : String) (place n : Nat)
    (outcome : SaveOutcome) (orgId : String) : Tracks (s.onQueue owner place (·.resume n outcome)) orgId
      (if owner = orgId ∧ place = 0 ∧ n = 0 then (servers orgId).map FifoServer.finish else servers orgId) := by
  have there := all owner
  generalize known : servers owner = state at there
  cases there with
  | unknown _ fresh =>
    have nothing : s.onQueue owner place (·.resume n outcome) = s := by rw [onQueue, fresh]; rfl
    rw [nothing, ite_map_unknown fun hit => hit.1 ▸ known]
    exact all orgId
  | @registered q server mapped only heard named serves own saved =>
    by_cases first : place = 0
    · subst first
      obtain ⟨after, begun⟩ := OrgQueue.resume_serves serves n outcome
      have still_own : ∀ e ∈ (if n = 0 then server.finish else server).arrived, e.org_id = owner := by
        intro e member
        refine own e ?_
        split at member
        · rwa [server.arrived_finish] at member
        · exact member
      have done := tracks_onQueue (fun q => q.resume n outcome) all mapped only heard saved
        (OrgQueue.resume_orgId.trans named) after begun still_own orgId
      by_cases same : owner = orgId
      · subst same
        rw [Function.update_self] at done
        rw [known]
        by_cases zero : n = 0
        · rw [if_pos zero] at done
          rw [if_pos ⟨rfl, rfl, zero⟩]
          exact done
        · rw [if_neg zero] at done
          rw [if_neg fun hit => zero hit.2.2]
          exact done
      · rw [if_neg fun hit => same hit.1]
        rwa [Function.update_of_ne (Ne.symm same)] at done
    · have nothing : s.onQueue owner place (·.resume n outcome) = s := by
        have none_there : (s.created owner)[place]? = none := by
          rw [only]
          exact List.getElem?_eq_none_iff.mpr (by rw [List.length_singleton]; omega)
        rw [onQueue, none_there]
      rw [nothing, if_neg fun hit => first hit.2.1]
      exact all orgId

end OnQueue

/-- Registering makes an org known, and leaves one that is known as it is. -/
theorem Tracks.register (tracks : Tracks s orgId state) (org : OrgRecord) :
    Tracks (s.register org) orgId (if org.org_id = orgId then some (state.getD .idle) else state) := by
  by_cases same : org.org_id = orgId
  · subst same
    rw [if_pos rfl]
    cases tracks with
    | unknown unmapped fresh silent unsaved =>
      have absent : ¬ (s.orgQueues org.org_id).isSome := by rw [unmapped]; decide
      rw [SyncService.register, if_neg absent]
      refine .registered ?_ ?_ ?_ rfl (OrgQueue.new_serves _ org.contract_address) ?_ unsaved
      · simp [startOrgListener, fresh]
      · simp [startOrgListener, fresh]
      · simp [startOrgListener, silent]
      · exact fun _ member => absurd member List.not_mem_nil
    | registered mapped only heard named serves own saved =>
      have present : (s.orgQueues org.org_id).isSome := by rw [mapped]; rfl
      rw [SyncService.register, if_pos present]
      exact .registered mapped only heard named serves own saved
  · rw [if_neg same, SyncService.register]
    split
    · exact tracks
    · exact tracks.congr (Function.update_of_ne (Ne.symm same) ..) (Function.update_of_ne (Ne.symm same) ..)
        (Function.update_of_ne (Ne.symm same) ..) rfl

theorem Tracks.registerAll (tracks : Tracks s orgId state) (orgs : List OrgRecord) :
    Tracks (orgs.foldl SyncService.register s) orgId
      (if orgs.any (fun org => org.org_id = orgId) then some (state.getD .idle) else state) := by
  induction orgs generalizing s state with
  | nil => exact tracks
  | cons org rest ih =>
    have first := ih (tracks.register org)
    rw [List.foldl_cons, List.any_cons]
    by_cases same : org.org_id = orgId
    · rw [if_pos same] at first
      simpa [same] using first
    · rw [if_neg same] at first
      simpa [same] using first

theorem loads_onQueue (owner : String) (place : Nat) (op : OrgQueue → OrgQueue × Option OrgEvent) :
    (s.onQueue owner place op).loads = s.loads := by
  unfold onQueue
  split <;> rfl

theorem loads_emit (channel : String) (event : OrgEvent) : (s.emit channel event).loads = s.loads := by
  have handled : ∀ t : SyncService, (t.handleEvent channel event).loads = t.loads := by
    intro t
    unfold handleEvent
    split
    · rfl
    · exact t.loads_onQueue ..
  rw [SyncService.emit]
  induction s.listeners channel with
  | zero => rfl
  | succ n ih => rw [Function.iterate_succ_apply', handled, ih]

theorem loads_registerAll (orgs : List OrgRecord) : (orgs.foldl SyncService.register s).loads = s.loads := by
  have each : ∀ (t : SyncService) (org : OrgRecord), (t.register org).loads = t.loads := by
    intro t org
    unfold SyncService.register
    split <;> rfl
  induction orgs generalizing s with
  | nil => rfl
  | cons org rest ih => rw [List.foldl_cons, ih, each]

theorem Tracks.at_most_one (tracks : Tracks s orgId state) : (s.created orgId).length ≤ 1 ∧ s.listeners orgId ≤ 1 := by
  cases tracks with
  | unknown _ fresh silent =>
    rw [fresh, silent]
    decide
  | registered _ only heard =>
    rw [only, heard]
    exact ⟨le_rfl, le_rfl⟩

theorem Tracks.savesOf_eq (tracks : Tracks s orgId state) : s.savesOf orgId = (state.getD .idle).started := by
  cases tracks with
  | unknown _ _ _ unsaved => exact unsaved
  | registered _ _ _ _ _ _ saved => exact saved

theorem Tracks.queue_serves (tracks : Tracks s orgId state) {q : OrgQueue} (there : q ∈ s.created orgId) :
    q.Serves (state.getD .idle) := by
  cases tracks with
  | unknown _ fresh =>
    rw [fresh] at there
    cases there
  | registered _ only _ _ serves =>
    rw [only] at there
    rw [List.mem_singleton.mp there]
    exact serves

/-- What waits, waits in a queue. -/
theorem Tracks.exists_queue (tracks : Tracks s orgId state) (busy : (state.getD .idle).waiting ≠ []) :
    ∃ q, q ∈ s.created orgId := by
  cases tracks with
  | unknown => exact absurd rfl busy
  | registered _ only => exact ⟨_, only ▸ List.mem_singleton_self _⟩

section Served

theorem Tracks.accepts_emit (tracks : Tracks s orgId state) {event : OrgEvent} (own : event.org_id = orgId) :
    ((state.map fun server => FifoServer.arrive server event).getD .idle).arrived =
      (state.getD .idle).arrived ++ (accepts orgId s (.emit orgId event)).toList := by
  rw [accepts]
  cases tracks with
  | unknown unmapped =>
    have absent : ¬ (s.orgQueues orgId).isSome := by rw [unmapped]; decide
    rw [if_neg fun hit => absent hit.2.2]
    rfl
  | registered mapped =>
    have present : (s.orgQueues orgId).isSome := by rw [mapped]; rfl
    rw [if_pos ⟨rfl, own, present⟩]
    rfl

/-- Only the save of the event being served can settle. -/
theorem Tracks.awaited_iff (tracks : Tracks s orgId state) {place n : Nat} :
    (∃ q ∈ (s.created orgId)[place]?, n < q.awaiting.length) ↔
      place = 0 ∧ n = 0 ∧ (state.getD .idle).waiting ≠ [] := by
  cases tracks with
  | unknown _ fresh =>
    rw [fresh]
    refine iff_of_false ?_ fun hit => hit.2.2 rfl
    rintro ⟨_, there, _⟩
    cases there
  | @registered q server _ only _ _ serves =>
    rw [only, Option.getD_some]
    constructor
    · rintro ⟨other, there, awaited⟩
      have bound := (List.getElem?_eq_some_iff.mp there).choose
      have first : place = 0 := by simpa using bound
      subst first
      cases Option.some.inj there
      rw [serves.awaiting] at awaited
      cases rest : server.waiting with
      | nil => simp [rest] at awaited
      | cons item later => exact ⟨rfl, by simpa [rest] using awaited, List.cons_ne_nil _ _⟩
    · rintro ⟨rfl, rfl, busy⟩
      refine ⟨q, rfl, ?_⟩
      rw [serves.awaiting]
      cases rest : server.waiting with
      | nil => exact absurd rest busy
      | cons item later => exact Nat.zero_lt_one

theorem Tracks.completes_settled (tracks : Tracks s orgId state) (place n : Nat) (outcome : SaveOutcome) :
    ((if place = 0 ∧ n = 0 then state.map FifoServer.finish else state).getD .idle).finished =
      (state.getD .idle).finished + (completes orgId s (.settled orgId place n outcome)).toList.length := by
  rw [completes]
  by_cases first : place = 0 ∧ n = 0
  · rw [if_pos first]
    have finished : ((state.map FifoServer.finish).getD .idle).finished =
        (state.getD .idle).finished + if (state.getD .idle).waiting = [] then 0 else 1 := by
      cases state with
      | none => rfl
      | some server => exact server.finished_finish
    rw [finished]
    by_cases quiet : (state.getD .idle).waiting = []
    · rw [if_pos quiet, if_neg fun hit => (tracks.awaited_iff.mp hit.2).2.2 quiet]
      rfl
    · rw [if_neg quiet, if_pos ⟨rfl, tracks.awaited_iff.mpr ⟨first.1, first.2, quiet⟩⟩]
      rfl
  · rw [if_neg first, if_neg fun hit => first ⟨(tracks.awaited_iff.mp hit.2).1, (tracks.awaited_iff.mp hit.2).2.1⟩]
    rfl

/-- A step adds to what has arrived the event it lets in, and to what is finished the save
it settles. -/
theorem Tracks.served_step {spec : OrgSpec} (tracks : Tracks s orgId spec.server) (a : SyncStep) :
    ((a.view orgId).elim spec (orgStep orgId spec)).served.arrived =
        spec.served.arrived ++ (accepts orgId s a).toList ∧
      ((a.view orgId).elim spec (orgStep orgId spec)).served.finished =
        spec.served.finished + (completes orgId s a).toList.length := by
  have quiet : spec.served.arrived = spec.served.arrived ++ [] := (List.append_nil _).symm
  cases a with
  | load => exact ⟨quiet, rfl⟩
  | loaded orgs =>
    have same : (orgStep orgId spec (.loaded (orgs.any fun org => org.org_id = orgId))).served = spec.served := by
      rw [orgStep, OrgSpec.served, OrgSpec.served]
      split
      · rfl
      · dsimp only
        split <;> rfl
    rw [SyncStep.view, Option.elim_some, same]
    exact ⟨quiet, rfl⟩
  | loadFailed => exact ⟨quiet, rfl⟩
  | emit channel event =>
    rw [SyncStep.view]
    by_cases same : channel = orgId
    · subst same
      rw [if_pos rfl, Option.elim_some, orgStep]
      by_cases own : event.org_id = channel
      · rw [if_pos own]
        refine ⟨tracks.accepts_emit own, ?_⟩
        rw [OrgSpec.served, OrgSpec.served]
        cases spec.server <;> rfl
      · rw [if_neg own, accepts, if_neg fun hit => own hit.2.1]
        exact ⟨quiet, rfl⟩
    · rw [if_neg same, accepts, if_neg fun hit => same hit.1]
      exact ⟨quiet, rfl⟩
  | settled owner place n outcome =>
    rw [SyncStep.view]
    by_cases same : owner = orgId
    · subst same
      rw [if_pos rfl, Option.elim_some]
      have next : (orgStep owner spec (.settled place n)).served =
          (if place = 0 ∧ n = 0 then spec.server.map FifoServer.finish else spec.server).getD .idle := by
        rw [orgStep, OrgSpec.served]
        split <;> rfl
      rw [next]
      refine ⟨?_, tracks.completes_settled place n outcome⟩
      rw [OrgSpec.served]
      split
      · cases spec.server with
        | none => rfl
        | some server => exact (server.arrived_finish).trans (List.append_nil _).symm
      · exact quiet
    · rw [if_neg same, completes, if_neg fun hit => same hit.1]
      exact ⟨quiet, rfl⟩

end Served

end SyncService

section Run
open SyncService
variable {orgId : String}

/-- A run as one org sees it. -/
def viewOf (orgId : String) (steps : List SyncStep) : List OrgStep := steps.filterMap (SyncStep.view orgId)

/-- What the run promises the org. -/
def promised (orgId : String) (steps : List SyncStep) : OrgSpec :=
  Run.exec (orgStep orgId) .init (viewOf orgId steps)

theorem promised_concat (steps : List SyncStep) (a : SyncStep) : promised orgId (steps ++ [a]) =
    (a.view orgId).elim (promised orgId steps) (orgStep orgId (promised orgId steps)) := by
  rw [promised, viewOf, List.filterMap_append, Run.exec_append, List.filterMap_cons]
  cases a.view orgId with
  | none => rfl
  | some seen => rfl

/-- Only an org that a step is for sees it, and only if it is also meant does it move. -/
theorem routed {t : SyncService} {here own : Prop} [Decidable here] [Decidable own] {spec : OrgSpec}
    {seen : OrgStep} {loads : Nat} (moved : OrgSpec)
    (after : Tracks t orgId (if here ∧ own then moved.server else spec.server))
    (stepped : orgStep orgId spec seen = if own then moved else spec) (moved_loads : moved.loads = loads)
    (spec_loads : spec.loads = loads) :
    Tracks t orgId ((if here then some seen else none).elim spec (orgStep orgId spec)).server ∧
      ((if here then some seen else none).elim spec (orgStep orgId spec)).loads = loads := by
  by_cases same : here
  · rw [if_pos same, Option.elim_some, stepped]
    by_cases meant : own
    · rw [if_pos ⟨same, meant⟩] at after
      rw [if_pos meant]
      exact ⟨after, moved_loads⟩
    · rw [if_neg fun hit => meant hit.2] at after
      rw [if_neg meant]
      exact ⟨after, spec_loads⟩
  · rw [if_neg fun hit => same hit.1] at after
    rw [if_neg same]
    exact ⟨after, spec_loads⟩

/-- One step of the service is, for each org, the step of what it was promised. -/
theorem syncStep_tracks {s : SyncService} {specs : String → OrgSpec}
    (all : ∀ orgId, Tracks s orgId (specs orgId).server) (loads : ∀ orgId, (specs orgId).loads = s.loads)
    (a : SyncStep) (orgId : String) :
    Tracks (syncStep s a) orgId ((a.view orgId).elim (specs orgId) (orgStep orgId (specs orgId))).server ∧
      ((a.view orgId).elim (specs orgId) (orgStep orgId (specs orgId))).loads = (syncStep s a).loads := by
  cases a with
  | load =>
    refine ⟨(all orgId).congr rfl rfl rfl rfl, ?_⟩
    exact congrArg (· + 1) (loads orgId)
  | loaded orgs =>
    rw [syncStep, SyncStep.view, Option.elim_some, orgStep, loads orgId]
    split
    · exact ⟨all orgId, loads orgId⟩
    · refine ⟨?_, ?_⟩
      · have before : Tracks { s with loads := s.loads - 1 } orgId (specs orgId).server :=
          (all orgId).congr rfl rfl rfl rfl
        exact before.registerAll orgs
      · rw [loads_registerAll]
  | loadFailed =>
    refine ⟨(all orgId).congr rfl rfl rfl rfl, ?_⟩
    exact congrArg (· - 1) (loads orgId)
  | emit channel event =>
    have after := tracks_emit all channel event orgId
    rw [syncStep, SyncStep.view, loads_emit]
    refine routed { specs orgId with server := (specs orgId).server.map (·.arrive event) } after ?_
      (loads orgId) (loads orgId)
    rw [orgStep]
  | settled owner place n outcome =>
    have after := tracks_settled all owner place n outcome orgId
    rw [syncStep, SyncStep.view, loads_onQueue]
    refine routed { specs orgId with server := (specs orgId).server.map FifoServer.finish } after ?_
      (loads orgId) (loads orgId)
    rw [orgStep]

/-- The service keeps its promise to every org along every run. -/
theorem sync_tracks (steps : List SyncStep) : ∀ orgId, Tracks (sync steps) orgId (promised orgId steps).server ∧
    (promised orgId steps).loads = (sync steps).loads := by
  induction steps using List.reverseRecOn with
  | nil => exact fun orgId => ⟨.unknown rfl rfl rfl rfl, rfl⟩
  | append_singleton before a ih =>
    intro orgId
    rw [promised_concat, sync, Run.exec_concat]
    exact syncStep_tracks (fun orgId => (ih orgId).1) (fun orgId => (ih orgId).2) a orgId

/-- What has arrived at the server is what was emitted for the registered org, and what it
has finished are the saves that have settled. -/
theorem served_eq (orgId : String) (steps : List SyncStep) :
    accepted orgId steps = (promised orgId steps).served.arrived ∧
      (completed orgId steps).length = (promised orgId steps).served.finished := by
  induction steps using List.reverseRecOn with
  | nil => exact ⟨rfl, rfl⟩
  | append_singleton before a ih =>
    obtain ⟨arrivals, ends⟩ := ih
    obtain ⟨arrived, finished⟩ := (sync_tracks before orgId).1.served_step a
    have seen_a : accepted orgId (before ++ [a]) = accepted orgId before ++ (accepts orgId (sync before) a).toList :=
      Run.observed_concat ..
    have seen_c : completed orgId (before ++ [a]) =
        completed orgId before ++ (completes orgId (sync before) a).toList := Run.observed_concat ..
    rw [seen_a, seen_c, List.length_append, arrivals, ends, promised_concat, arrived, finished]
    exact ⟨rfl, rfl⟩

/-- An org that is registered stays so. -/
theorem orgStep_registered {spec : OrgSpec} (there : spec.server.isSome) (seen : OrgStep) :
    (orgStep orgId spec seen).server.isSome := by
  obtain ⟨server, known⟩ := Option.isSome_iff_exists.mp there
  cases seen with
  | load => exact there
  | loaded listed =>
    rw [orgStep]
    split
    · exact there
    · dsimp only
      split
      · rfl
      · exact there
  | loadFailed => exact there
  | emit event =>
    rw [orgStep]
    split
    · rw [known]
      rfl
    · exact there
  | settled place n =>
    rw [orgStep]
    split
    · rw [known]
      rfl
    · exact there

/-- An org that a completed read lists is registered from then on. -/
theorem listed_org_registered (before after : List SyncStep) {orgs : List OrgRecord}
    (pending : (sync before).loads ≠ 0) {org : OrgRecord} (listed : org ∈ orgs) :
    ((sync (before ++ .loaded orgs :: after)).orgQueues org.org_id).isSome := by
  have known : (promised org.org_id (before ++ .loaded orgs :: after)).server.isSome := by
    induction after using List.reverseRecOn with
    | nil =>
      have some_listed : (orgs.any fun other => other.org_id = org.org_id) = true :=
        List.any_eq_true.mpr ⟨org, listed, decide_eq_true rfl⟩
      rw [← (sync_tracks before org.org_id).2] at pending
      rw [promised_concat, SyncStep.view, Option.elim_some, orgStep, if_neg pending, some_listed]
      rfl
    | append_singleton later a ih =>
      rw [← List.cons_append, ← List.append_assoc, promised_concat]
      generalize promised org.org_id (before ++ .loaded orgs :: later) = spec at ih
      cases a.view org.org_id with
      | none => exact ih
      | some seen => exact orgStep_registered ih seen
  have tracks := (sync_tracks (before ++ .loaded orgs :: after) org.org_id).1
  generalize (promised org.org_id (before ++ .loaded orgs :: after)).server = state at tracks known
  cases tracks with
  | unknown => cases known
  | registered mapped => rw [mapped]; rfl

/-- Each org has at most one queue, one listener and one drain, and from the first completed
read that lists it on it has them. Its events are passed to `saveEvent` once each and in the
order of their emission, the next one as soon as the save before it has settled, whatever
becomes of the saves and of other orgs. -/
theorem org_queues_exactly_once (steps : List SyncStep) (orgId : String) :
    let s := sync steps
    let events := accepted orgId steps
    let ended := (completed orgId steps).length
    (s.created orgId).length ≤ 1 ∧ s.listeners orgId ≤ 1 ∧
    (∀ before orgs after, steps = before ++ .loaded orgs :: after → (sync before).loads ≠ 0 →
      (∃ org ∈ orgs, org.org_id = orgId) → (s.orgQueues orgId).isSome) ∧
    (∀ q ∈ s.created orgId, q.awaiting.length ≤ 1 ∧ (q.processing = false → q.queue = []) ∧
      (q.queue ≠ [] → q.awaiting ≠ [])) ∧
    s.savesOf orgId = events.take (ended + 1) ∧ ended ≤ events.length ∧
    (∀ event, events[ended]? = some event → ∃ q ∈ s.created orgId, q.awaiting = [event]) ∧
    ((∀ q ∈ s.created orgId, q.awaiting = []) → s.savesOf orgId = events) ∧
    (∀ others, viewOf orgId others = viewOf orgId steps → (sync others).savesOf orgId = s.savesOf orgId) := by
  dsimp only
  have tracks := (sync_tracks steps orgId).1
  obtain ⟨arrivals, ends⟩ := served_eq orgId steps
  rw [arrivals, ends]
  refine ⟨tracks.at_most_one.1, tracks.at_most_one.2, ?_, ?_, tracks.savesOf_eq, FifoServer.finished_le _, ?_, ?_, ?_⟩
  · rintro before orgs after rfl pending ⟨org, listed, rfl⟩
    exact listed_org_registered before after pending listed
  · intro q there
    have serves := tracks.queue_serves there
    refine ⟨serves.one_drain, ?_, ?_⟩
    · intro idle
      rw [serves.processing] at idle
      rw [serves.queue]
      simpa using idle
    · intro busy
      rw [serves.queue] at busy
      exact mt serves.awaiting_eq_nil.mp busy
  · intro event next
    have first : (promised orgId steps).served.waiting.head? = some event := by
      rw [FifoServer.head?_waiting]
      exact next
    have busy : (promised orgId steps).served.waiting ≠ [] := by
      intro quiet
      rw [quiet] at first
      cases first
    obtain ⟨q, there⟩ := tracks.exists_queue busy
    refine ⟨q, there, ?_⟩
    rw [(tracks.queue_serves there).awaiting]
    exact congrArg Option.toList first
  · intro quiet
    refine tracks.savesOf_eq.trans (FifoServer.started_of_waiting_nil _ ?_)
    by_contra busy
    obtain ⟨q, there⟩ := tracks.exists_queue busy
    exact busy ((tracks.queue_serves there).awaiting_eq_nil.mp (quiet q there))
  · intro others same
    rw [tracks.savesOf_eq, (sync_tracks others orgId).1.savesOf_eq, promised, promised, same]

/-- Two overlapping reads list the org; the save of the first event fails. -/
example : (sync [.load, .load, .loaded [⟨"org", "C1"⟩], .emit "org" ⟨"org", .applied, "1", "G", "t1", 0⟩,
    .loaded [⟨"org", "C1"⟩], .emit "org" ⟨"org", .applied, "2", "G", "t2", 0⟩,
    .settled "org" 0 0 .failed]).savesOf "org" =
      [⟨"org", .applied, "1", "G", "t1", 0⟩, ⟨"org", .applied, "2", "G", "t2", 0⟩] := by
  decide

end Run

end WorkloadGovernor
