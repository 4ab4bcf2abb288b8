import WorkloadGovernor.LiveConnection

namespace WorkloadGovernor

namespace LivePipeline
open LiveStream LiveConnection

section Source

/-- A process of the back end with its indexer, and a provider that is mounted next to it. -/
structure Pipeline where
  live : LiveIndexer
  world : World

/-- The indexer is the only publisher: a move besides its steps publishes nothing. -/
inductive Act where
  | index (a : LiveStep)
  | other (m : Move) (unpublished : ∀ event, m ≠ .serve (.publish event))

variable {Address : Type} (sdk : StellarSdk Address) (rpc : EventsRpc) (history : List RpcEvent)

/-- `storeEvent` publishes while it stores. -/
def Pipeline.step (s : Pipeline) : Act → Pipeline
  | .index a =>
    { live := liveStep sdk rpc history s.live a
      world := match publication sdk s.live.indexer a with
        | some published => move s.world (.serve (.publish published.event))
        | none => s.world }
  | .other m _ => { s with world := move s.world m }

/-- The provider is mounted while the indexer and the server are in any state. -/
def Pipeline.start (live : LiveIndexer) (server : Server) : Pipeline := ⟨live, mounted server⟩

end Source

section Silence
variable {Address : Type} {sdk : StellarSdk Address} {rpc : EventsRpc} {history : List RpcEvent} {s : Pipeline}
  {first : List EventBus.LiveEvent} {w : World}

/-- What the provider reads of the event changes nothing. -/
def Mute (event : EventBus.LiveEvent) : Prop := ∀ state, updateCounts state (shown event) = state

theorem mute_publishLiveEvent (record : ContractEventRecord) : Mute (publishLiveEvent record) := by
  intro state
  rw [publishLiveEvent_eq, updateCounts, if_pos]
  exact ⟨Option.some_ne_none _ ∘ Eq.symm, Option.some_ne_none _ ∘ Eq.symm⟩

theorem counted_mute {seen : List EventBus.LiveEvent} (mute : ∀ event ∈ seen, Mute event) :
    counted seen = initialState := by
  induction seen using List.reverseRecOn with
  | nil => rfl
  | append_singleton seen event ih =>
    have earlier := ih fun other member => mute other (List.mem_append_left _ member)
    have last : Mute event := mute event (List.mem_append_right _ List.mem_cons_self)
    rw [counted, List.map_append, List.foldl_append]
    exact (congrArg (fun state => updateCounts state (shown event)) earlier).trans (last initialState)

/-- A poll finds nothing in any rows either. -/
theorem pollEvents_blank {answer : Option EventListing.Answer} {state : CapState} (polled : pollEvents answer = some state) :
    state = initialState := by
  cases answer with
  | none => cases polled
  | some answer =>
    cases answer with
    | ok events pagination =>
      cases polled
      refine countPolled_nameless fun event member => ?_
      obtain ⟨row, _, rfl⟩ := List.mem_map.mp member
      exact polledEvent_json row
    | _ => cases polled

/-- Behind the mount only mute events are published, and a provider that polls shows the initial counters. -/
structure Silent (first : List EventBus.LiveEvent) (w : World) : Prop where
  streaming : Streaming first w
  mute : ∃ later, w.server.events = first ++ later ∧ ∀ event ∈ later, Mute event
  polled : w.provider.liveStatus = .polling → w.provider.capState = initialState

/-- Polling or not, nothing is shown. -/
theorem Silent.blank (silent : Silent first w) : w.provider.capState = initialState := by
  by_cases polls : w.provider.liveStatus = .polling
  · exact silent.polled polls
  · obtain ⟨later, log, mute⟩ := silent.mute
    obtain ⟨own, seen, same, among, state⟩ := (silent.streaming.shows_first polls).counts
    cases List.append_cancel_left (log.symm.trans same)
    rw [state]
    exact counted_mute fun event member => mute event (among.subset member)

/-- A provider that polls reads no stream: only an answer to a poll changes its counters. -/
theorem capState_polling (sound : w.provider.Sound) (polls : w.provider.liveStatus = .polling) (m : Move) :
    (move w m).provider.capState = w.provider.capState ∨
      ∃ answer state, pollEvents answer = some state ∧ (move w m).provider.capState = state := by
  obtain ⟨unread, idle⟩ := sound.ends_polling polls
  cases m with
  | serve s => exact Or.inl rfl
  | opened => exact Or.inl (by rw [move, Provider.onopen, unread])
  | arrive count => exact Or.inl (by rw [move, Provider.arrive, unread])
  | failed => exact Or.inl (onerror_closed w.provider).2
  | retry => exact Or.inl (by rw [move, idle])
  | tick =>
    left
    rw [move]
    split <;> rfl
  | answered answer =>
    rw [move]
    split
    · exact Or.inl rfl
    · cases polled : pollEvents answer with
      | none => exact Or.inl rfl
      | some state => exact Or.inr ⟨answer, state, polled, rfl⟩
  | unmount => exact Or.inl rfl

/-- The first poll is asked for when a connection fails, which leaves the counters alone. -/
theorem capState_begins_polling (sound : w.provider.Sound) (streams : w.provider.liveStatus ≠ .polling) {m : Move}
    (polls : (move w m).provider.liveStatus = .polling) : (move w m).provider.capState = w.provider.capState := by
  cases m with
  | serve s => exact absurd polls streams
  | opened =>
    rw [move, Provider.onopen] at polls
    split at polls
    · cases polls
    · exact absurd polls streams
  | arrive count =>
    rw [move, Provider.arrive] at polls
    split at polls
    · exact absurd polls streams
    · exact absurd polls streams
  | failed => exact (onerror_closed w.provider).2
  | retry =>
    rw [move] at polls
    cases waits : w.provider.retryTimer with
    | none =>
      rw [waits] at polls
      exact absurd polls streams
    | some delay =>
      rw [waits] at polls
      dsimp only at polls
      rw [connect, if_neg (by simp [(sound.waiting waits).1])] at polls
      cases polls
  | tick =>
    rw [move] at polls
    split at polls <;> exact absurd polls streams
  | answered answer =>
    rw [move] at polls
    split at polls <;> exact absurd polls streams
  | unmount => exact absurd polls streams

theorem silent_move (silent : Silent first w) {m : Move}
    (mute : ∀ event, m = .serve (.publish event) → Mute event) : Silent first (move w m) := by
  obtain ⟨later, log, quiet⟩ := silent.mute
  refine ⟨streaming_move silent.streaming m, ?_, fun polls => ?_⟩
  · have grown : ∃ more, (move w m).server.events = w.server.events ++ more ∧ ∀ event ∈ more, Mute event := by
      rcases events_move w m with ⟨event, published, log⟩ | log
      · exact ⟨[event], log, fun other member => List.mem_singleton.mp member ▸ mute event published⟩
      · exact ⟨[], log.trans (List.append_nil _).symm, fun event member => absurd member List.not_mem_nil⟩
    obtain ⟨more, grown, own⟩ := grown
    refine ⟨later ++ more, by rw [grown, log, List.append_assoc], fun event member => ?_⟩
    rcases List.mem_append.mp member with old | new
    · exact quiet event old
    · exact own event new
  · by_cases before : w.provider.liveStatus = .polling
    · rcases capState_polling silent.streaming.sound before m with same | ⟨answer, state, polled, shown⟩
      · exact same.trans silent.blank
      · exact shown.trans (pollEvents_blank polled)
    · exact (capState_begins_polling silent.streaming.sound before polls).trans silent.blank

theorem silent_step (silent : Silent first s.world) (act : Act) : Silent first (s.step sdk rpc history act).world := by
  cases act with
  | index a =>
    rw [Pipeline.step]
    cases published : publication sdk s.live.indexer a with
    | none => exact silent
    | some p =>
      dsimp only
      refine silent_move silent fun event own => ?_
      cases own
      obtain ⟨⟨raw, record⟩, _, rfl⟩ := Option.map_eq_some_iff.mp published
      exact mute_publishLiveEvent record
  | other m unpublished => exact silent_move silent fun event own => absurd own (unpublished event)

variable (sdk rpc history) in
/-- Whatever happens on the chain, however the RPC hands it over and the SDK decodes it, however the indexer fails and is
started again, the stream breaks off and is replaced by polls of any answers: the provider never counts anything. -/
theorem provider_never_counts (live : LiveIndexer) (server : Server) (acts : List Act) :
    (Run.exec (Pipeline.step sdk rpc history) (.start live server) acts).world.provider.capState = initialState := by
  have start : Silent server.events (Pipeline.start live server).world :=
    ⟨streaming_mounted server, ⟨[], rfl, fun event member => absurd member List.not_mem_nil⟩, fun _ => rfl⟩
  have inv := @Run.exec_invariant _ _ (Pipeline.step sdk rpc history) _ (fun s => Silent server.events s.world) start
    (fun s act silent => silent_step silent act) acts
  exact Silent.blank inv

end Silence

end LivePipeline

end WorkloadGovernor
