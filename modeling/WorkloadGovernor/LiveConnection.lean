import WorkloadGovernor.Lib.Streak
import WorkloadGovernor.LiveStream
import WorkloadGovernor.PolledCounters

namespace WorkloadGovernor

namespace LiveConnection
open EventStream LiveStream Streak

section Source

inductive LiveStatus where
  | connected
  | reconnecting
  | polling
  deriving DecidableEq, Repr

/-- An `EventSource` that is not closed: the response it reads, how much of it has come in, and its reader. -/
structure Source where
  response : Nat
  come : Nat
  reader : Reader
  deriving DecidableEq

/-- The state of `LiveUpdatesProvider` and of its effect. `polls` counts the answers that `pollEvents` waits for. -/
structure Provider where
  capState : CapState
  liveStatus : LiveStatus
  source : Option Source
  retryTimer : Option Nat
  pollTimer : Bool
  polls : Nat
  retryCount : Nat
  stopped : Bool
  deriving DecidableEq

def Provider.start : Provider := ⟨initialState, .reconnecting, none, none, false, 0, 0, false⟩

def Provider.startPolling (p : Provider) : Provider :=
  if p.stopped ∨ p.pollTimer then p
  else { p with liveStatus := .polling, polls := p.polls + 1, pollTimer := true }

def Provider.onopen (p : Provider) : Provider :=
  match p.source with
  | some _ => { p with retryCount := 0, liveStatus := .connected }
  | none => p

/-- A closed source calls nothing any more. -/
def Provider.onerror (p : Provider) : Provider :=
  match p.source with
  | some _ =>
    if p.retryCount ≥ 3 then { p with source := none }.startPolling
    else { p with
      source := none, retryTimer := some (min (1000 * 2 ^ p.retryCount) 30000), retryCount := p.retryCount + 1 }
  | none => p

/-- The cleanup of the effect. -/
def Provider.unmount (p : Provider) : Provider :=
  { p with stopped := true, source := none, retryTimer := none, pollTimer := false }

/-- The next characters of the response come in. -/
def Provider.arrive (p : Provider) (responses : List StreamResponse) (count : Nat) : Provider :=
  match p.source with
  | some source =>
    let part := match responses[source.response]? with
      | some response => (response.written.drop source.come).take count
      | none => []
    let read := source.reader.read part
    { p with
      capState := read.2.foldl onMessage p.capState
      source := some { source with come := source.come + part.length, reader := read.1 } }
  | none => p

/-- The responses that a process of the back end serves, and what it has published. -/
structure Server where
  responses : List StreamResponse
  events : List EventBus.LiveEvent

def ServerStep.published : ServerStep → Option EventBus.LiveEvent
  | .publish event => some event
  | _ => none

def Server.step (server : Server) (s : ServerStep) : Server where
  responses := serverStep server.responses s
  events := server.events ++ (ServerStep.published s).toList

/-- One process of the back end and one provider. -/
structure World where
  server : Server
  provider : Provider

inductive Move where
  /-- A step of the process: it publishes, beats, or serves other providers. -/
  | serve (s : ServerStep)
  | opened
  | arrive (count : Nat)
  | failed
  /-- The retry timer fires. -/
  | retry
  /-- The interval of the polls fires. -/
  | tick
  /-- A poll is answered, or its request fails. -/
  | answered (answer : Option EventListing.Answer)
  | unmount

def connect (w : World) : World :=
  if w.provider.stopped then w
  else
    { server := w.server.step .stream
      provider := { w.provider with
        liveStatus := .reconnecting, source := some ⟨w.server.responses.length, 0, .start⟩ } }

def move (w : World) : Move → World
  | .serve s => { w with server := w.server.step s }
  | .opened => { w with provider := w.provider.onopen }
  | .arrive count => { w with provider := w.provider.arrive w.server.responses count }
  | .failed => { w with provider := w.provider.onerror }
  | .retry =>
    match w.provider.retryTimer with
    | some _ => connect { w with provider := { w.provider with retryTimer := none } }
    | none => w
  | .tick => if w.provider.pollTimer then { w with provider := { w.provider with polls := w.provider.polls + 1 } } else w
  | .answered answer =>
    match w.provider.polls with
    | 0 => w
    | polls + 1 =>
      { w with provider := { w.provider with
        polls := polls, capState := (pollEvents answer).getD w.provider.capState } }
  | .unmount => { w with provider := w.provider.unmount }

/-- The provider is mounted next to a process. -/
def mounted (server : Server) : World := connect ⟨server, .start⟩

end Source

section Sound
variable {w : World} {p : Provider}

/-- A mounted provider reads one response, waits for one retry or polls, and does nothing of it once unmounted. -/
def Provider.Exclusive (p : Provider) : Prop :=
  if p.stopped then p.source = none ∧ p.retryTimer = none ∧ p.pollTimer = false
  else
    p.source.isSome = true ∧ p.retryTimer = none ∧ p.pollTimer = false ∨
    p.source = none ∧ p.retryTimer.isSome = true ∧ p.pollTimer = false ∨
    p.source = none ∧ p.retryTimer = none ∧ p.pollTimer = true

structure Provider.Sound (p : Provider) : Prop where
  exclusive : p.Exclusive
  retries : p.retryCount ≤ 3
  delays : ∀ delay, p.retryTimer = some delay → ∃ k < 3, delay = 1000 * 2 ^ k ∧ p.retryCount = k + 1
  polling : p.pollTimer = true → p.liveStatus = .polling
  ends_polling : p.liveStatus = .polling → p.source = none ∧ p.retryTimer = none
  unasked : p.liveStatus ≠ .polling → p.polls = 0

/-- While a stream is open no timer runs. -/
theorem Provider.Sound.reading (sound : p.Sound) {source : Source} (open_now : p.source = some source) :
    p.stopped = false ∧ p.retryTimer = none ∧ p.pollTimer = false ∧ p.liveStatus ≠ .polling := by
  have exclusive := sound.exclusive
  have unended : p.liveStatus ≠ .polling := by
    intro polls
    cases open_now.symm.trans (sound.ends_polling polls).1
  cases stopped : p.stopped with
  | true => simp [Provider.Exclusive, stopped, open_now] at exclusive
  | false =>
    simp only [Provider.Exclusive, stopped, open_now] at exclusive
    simp only [Bool.false_eq_true, if_false, Option.isSome_some, reduceCtorEq, false_and, or_false, true_and] at exclusive
    exact ⟨rfl, exclusive.1, exclusive.2, unended⟩

/-- While a retry is waited for there is no stream. -/
theorem Provider.Sound.waiting (sound : p.Sound) {delay : Nat} (waits : p.retryTimer = some delay) :
    p.stopped = false ∧ p.source = none ∧ p.pollTimer = false ∧ p.liveStatus ≠ .polling := by
  have exclusive := sound.exclusive
  have unended : p.liveStatus ≠ .polling := by
    intro polls
    cases waits.symm.trans (sound.ends_polling polls).2
  cases stopped : p.stopped with
  | true => simp [Provider.Exclusive, stopped, waits] at exclusive
  | false =>
    simp only [Provider.Exclusive, stopped, waits] at exclusive
    simp only [Bool.false_eq_true, if_false, Option.isSome_some, reduceCtorEq, false_and, and_false, or_false, false_or,
      true_and] at exclusive
    exact ⟨rfl, exclusive.1, exclusive.2, unended⟩

theorem sound_onopen (sound : p.Sound) : p.onopen.Sound := by
  rw [Provider.onopen]
  cases reads : p.source with
  | none => exact sound
  | some source =>
    obtain ⟨mounted, idle, unpolled, unended⟩ := sound.reading reads
    refine ⟨?_, Nat.zero_le 3, ?_, ?_, ?_, fun _ => sound.unasked unended⟩
    · simp [Provider.Exclusive, mounted, idle, unpolled]
    · intro delay waits
      cases idle.symm.trans waits
    · intro polls
      cases unpolled.symm.trans polls
    · exact fun polls => nomatch polls

/-- An error closes the stream and leads to one timer: of the next try, or after the last of the poll. -/
theorem sound_onerror (sound : p.Sound) : p.onerror.Sound := by
  rw [Provider.onerror]
  cases reads : p.source with
  | none => exact sound
  | some source =>
    obtain ⟨mounted, idle, unpolled, unended⟩ := sound.reading reads
    have retries := sound.retries
    dsimp only
    split
    · rw [Provider.startPolling, if_neg (by simp [mounted, unpolled])]
      refine ⟨?_, retries, ?_, fun _ => rfl, fun _ => ⟨rfl, idle⟩, fun other => absurd rfl other⟩
      · simp [Provider.Exclusive, mounted, idle]
      · intro delay waits
        cases idle.symm.trans waits
    · rename_i few
      have small : 1000 * 2 ^ p.retryCount ≤ 30000 := by
        have cases_of : p.retryCount = 0 ∨ p.retryCount = 1 ∨ p.retryCount = 2 := by omega
        rcases cases_of with same | same | same <;> rw [same] <;> decide
      refine ⟨?_, Nat.lt_of_not_le few, ?_, ?_, fun polls => absurd polls unended, fun _ => sound.unasked unended⟩
      · simp [Provider.Exclusive, mounted, unpolled]
      · intro delay waits
        cases waits
        exact ⟨p.retryCount, Nat.lt_of_not_le few, Nat.min_eq_left small, rfl⟩
      · intro polls
        cases unpolled.symm.trans polls

theorem sound_arrive (sound : p.Sound) (responses : List StreamResponse) (count : Nat) :
    (p.arrive responses count).Sound := by
  rw [Provider.arrive]
  cases reads : p.source with
  | none => exact sound
  | some source =>
    obtain ⟨mounted, idle, unpolled, unended⟩ := sound.reading reads
    refine ⟨?_, sound.retries, sound.delays, sound.polling, fun polls => absurd polls unended, sound.unasked⟩
    simp [Provider.Exclusive, mounted, idle, unpolled]

theorem sound_unmount (sound : p.Sound) : p.unmount.Sound where
  exclusive := ⟨rfl, rfl, rfl⟩
  retries := sound.retries
  delays := fun _ waits => nomatch waits
  polling := fun polls => nomatch polls
  ends_polling := fun _ => ⟨rfl, rfl⟩
  unasked := sound.unasked

theorem sound_mounted (server : Server) : (mounted server).provider.Sound where
  exclusive := Or.inl ⟨rfl, rfl, rfl⟩
  retries := Nat.zero_le 3
  delays := fun _ waits => nomatch waits
  polling := fun polls => nomatch polls
  ends_polling := fun polls => nomatch polls
  unasked := fun _ => rfl

/-- Whatever happens, there is at most one of stream, retry and poll. -/
theorem sound_move (sound : w.provider.Sound) (m : Move) : (move w m).provider.Sound := by
  cases m with
  | serve s => exact sound
  | opened => exact sound_onopen sound
  | arrive count => exact sound_arrive sound w.server.responses count
  | failed => exact sound_onerror sound
  | retry =>
    rw [move]
    cases waits : w.provider.retryTimer with
    | none => exact sound
    | some delay =>
      obtain ⟨mounted, unread, unpolled, unended⟩ := sound.waiting waits
      dsimp only
      rw [connect, if_neg (by simp [mounted])]
      refine ⟨?_, sound.retries, (fun _ waits => nomatch waits), ?_, (fun polls => nomatch polls),
        fun _ => sound.unasked unended⟩
      · simp [Provider.Exclusive, mounted, unpolled]
      · intro polls
        cases unpolled.symm.trans polls
  | tick =>
    rw [move]
    cases polls : w.provider.pollTimer with
    | false => exact sound
    | true =>
      rw [if_pos rfl]
      refine ⟨sound.exclusive, sound.retries, sound.delays, sound.polling, sound.ends_polling, fun other => ?_⟩
      exact absurd (sound.polling polls) other
  | answered answer =>
    rw [move]
    cases waited : w.provider.polls with
    | zero => exact sound
    | succ polls =>
      refine ⟨sound.exclusive, sound.retries, sound.delays, sound.polling, sound.ends_polling, fun other => ?_⟩
      cases waited.symm.trans (sound.unasked other)
  | unmount => exact sound_unmount sound

/-- No move leads out of polling, and none mounts a provider again. -/
theorem polling_move (sound : w.provider.Sound) (polls : w.provider.liveStatus = .polling) (m : Move) :
    (move w m).provider.liveStatus = .polling := by
  obtain ⟨unread, idle⟩ := sound.ends_polling polls
  cases m with
  | serve s => exact polls
  | opened => rwa [move, Provider.onopen, unread]
  | arrive count => rwa [move, Provider.arrive, unread]
  | failed => rwa [move, Provider.onerror, unread]
  | retry => rwa [move, idle]
  | tick =>
    rw [move]
    split <;> exact polls
  | answered answer =>
    rw [move]
    split <;> exact polls
  | unmount => exact polls

end Sound

section Budget
variable {w : World}

/-- What becomes of a connection: it opens, or it fails. -/
def outcome (w : World) : Move → Option Bool
  | .opened => w.provider.source.map fun _ => true
  | .failed => w.provider.source.map fun _ => false
  | _ => none

/-- The outcomes of the connections decide between the stream and the polls. -/
structure Budget (w : World) (outcomes : List Bool) : Prop where
  polls : w.provider.liveStatus = .polling ↔ List.replicate 4 false <:+: outcomes
  streams : w.provider.liveStatus ≠ .polling → w.provider.retryCount = streak false outcomes

/-- What says nothing about a connection leaves the tries as they are. -/
theorem budget_silent {outcomes : List Bool} (sound : w.provider.Sound) (budget : Budget w outcomes) {m : Move}
    (silent : outcome w m = none) : Budget (move w m) outcomes := by
  have kept {next : World} (status : next.provider.liveStatus = w.provider.liveStatus)
      (count : next.provider.retryCount = w.provider.retryCount) : Budget next outcomes :=
    ⟨by rw [status, budget.polls], by rw [status, count]; exact budget.streams⟩
  cases m with
  | serve s => exact kept rfl rfl
  | opened =>
    have unread := Option.map_eq_none_iff.mp silent
    rw [move, Provider.onopen, unread]
    exact kept rfl rfl
  | failed =>
    have unread := Option.map_eq_none_iff.mp silent
    rw [move, Provider.onerror, unread]
    exact kept rfl rfl
  | arrive count =>
    rw [move, Provider.arrive]
    split <;> exact kept rfl rfl
  | retry =>
    rw [move]
    cases waits : w.provider.retryTimer with
    | none => exact kept rfl rfl
    | some delay =>
      obtain ⟨mounted, _, _, unended⟩ := sound.waiting waits
      dsimp only
      rw [connect, if_neg (by simp [mounted])]
      refine ⟨iff_of_false (fun polls => nomatch polls) fun infix_of => ?_, fun _ => budget.streams unended⟩
      exact unended (budget.polls.mpr infix_of)
  | tick =>
    rw [move]
    split <;> exact kept rfl rfl
  | answered answer =>
    rw [move]
    split <;> exact kept rfl rfl
  | unmount => exact kept rfl rfl

/-- A connection that opens gives all tries back, and one that fails takes one. -/
theorem budget_move {outcomes : List Bool} (sound : w.provider.Sound) (budget : Budget w outcomes) (m : Move) :
    Budget (move w m) (outcomes ++ (outcome w m).toList) := by
  cases heard : outcome w m with
  | none =>
    rw [Option.toList_none, List.append_nil]
    exact budget_silent sound budget heard
  | some opens =>
    rw [Option.toList_some]
    have unended : w.provider.liveStatus ≠ .polling → ¬ List.replicate 4 false <:+: outcomes :=
      fun other infix_of => other (budget.polls.mpr infix_of)
    cases m with
    | opened =>
      obtain ⟨source, reads, rfl⟩ := Option.map_eq_some_iff.mp heard
      obtain ⟨_, _, _, streams⟩ := sound.reading reads
      rw [move, Provider.onopen, reads]
      have reset : streak false (outcomes ++ [true]) = 0 := streak_concat_of_ne (by decide)
      refine ⟨iff_of_false (fun polls => nomatch polls) fun infix_of => ?_, fun _ => reset.symm⟩
      rcases replicate_infix_concat_iff.mp infix_of with earlier | last
      · exact unended streams earlier
      · omega
    | failed =>
      obtain ⟨source, reads, rfl⟩ := Option.map_eq_some_iff.mp heard
      obtain ⟨mounted, _, unpolled, streams⟩ := sound.reading reads
      have count := budget.streams streams
      have longer : streak false (outcomes ++ [false]) = streak false outcomes + 1 := streak_concat_self
      rw [move, Provider.onerror, reads]
      dsimp only
      split
      · rename_i spent
        rw [Provider.startPolling, if_neg (by simp [mounted, unpolled])]
        refine ⟨iff_of_true rfl (replicate_infix_concat_iff.mpr (Or.inr (by omega))), fun other => absurd rfl other⟩
      · refine ⟨iff_of_false streams fun infix_of => ?_, fun _ => by rw [longer, ← count]⟩
        rcases replicate_infix_concat_iff.mp infix_of with earlier | last
        · exact unended streams earlier
        · omega
    | serve | arrive | retry | tick | answered | unmount => cases heard

/-- Throughout, a mounted provider reads one response, waits for one of three retries, which come after one, two and
four seconds, or polls, and it polls from the fourth connection on that fails behind three others with none opened in
between; a provider that is unmounted does nothing of it. -/
theorem connection_outcomes_decide (server : Server) (moves : List Move) :
    (Run.exec (move) (mounted server) moves).provider.Sound ∧
      Budget (Run.exec (move) (mounted server) moves)
        (Run.observed (move) outcome (mounted server) moves) := by
  induction moves using List.reverseRecOn with
  | nil =>
    refine ⟨sound_mounted server, iff_of_false (fun polls => nomatch polls) ?_, fun _ => rfl⟩
    rw [Run.observed, List.infix_nil]
    decide
  | append_singleton moves m ih =>
    rw [Run.exec_concat, Run.observed_concat]
    exact ⟨sound_move ih.1 m, budget_move ih.1 ih.2 m⟩

end Budget

section Log
variable {responses : List StreamResponse} {response : StreamResponse} {k : Nat}

/-- A response is handed what is published while it is subscribed. -/
theorem handed_of_there {step : ServerStep} (there : responses[k]? = some response) :
    handed k responses step = if response.subscribed then ServerStep.published step else none := by
  cases step with
  | publish event => rw [handed, there, Option.any_some, ServerStep.published]
  | stream | heartbeat | close => exact (ite_self none).symm

/-- A response only grows. -/
theorem write_extends (response : StreamResponse) (frame : EventStream.Frame) :
    (response.write frame).subscribed = response.subscribed ∧ response.written <+: (response.write frame).written := by
  rw [StreamResponse.write]
  split
  · exact ⟨rfl, List.prefix_append _ _⟩
  · exact ⟨rfl, List.prefix_rfl⟩

/-- A step leaves a response in its place, takes back nothing of it and does not subscribe it again. -/
theorem extended_step {step : ServerStep} (there : responses[k]? = some response) :
    ∃ next, (serverStep responses step)[k]? = some next ∧ (next.subscribed = true → response.subscribed = true) ∧
      response.written <+: next.written := by
  have same : response.subscribed = true → response.subscribed = true := id
  cases step with
  | stream =>
    refine ⟨response, ?_, same, List.prefix_rfl⟩
    rw [serverStep, List.getElem?_append_left (List.getElem?_eq_some_iff.mp there).1, there]
  | heartbeat index =>
    rw [serverStep, List.getElem?_modify, there]
    refine ⟨_, rfl, ?_⟩
    obtain ⟨still, grown⟩ := write_extends response (.comment " heartbeat".toList)
    split
    · exact ⟨fun now => still.symm.trans now, grown⟩
    · exact ⟨same, List.prefix_rfl⟩
  | publish event =>
    rw [serverStep, List.getElem?_map, there]
    obtain ⟨still, grown⟩ := write_extends response (eventFrame event)
    exact ⟨_, rfl, fun now => still.symm.trans now, grown⟩
  | close index =>
    rw [serverStep, List.getElem?_modify, there]
    refine ⟨_, rfl, ?_⟩
    split
    · exact ⟨fun now => absurd now Bool.false_ne_true, List.prefix_rfl⟩
    · exact ⟨same, List.prefix_rfl⟩

/-- What a response was handed of what the server published behind the first `earlier` events; while it is subscribed it
misses nothing. -/
structure Receives (server : Server) (k : Nat) (earlier : List EventBus.LiveEvent) (response : StreamResponse)
    (events : List EventBus.LiveEvent) : Prop where
  there : server.responses[k]? = some response
  carries : Carries response events
  log_eq : ∃ rest, server.events = earlier ++ (events ++ rest) ∧ (response.subscribed = true → rest = [])

/-- A response that the server has is handed what the server publishes as long as it is subscribed. -/
theorem receives_step {server : Server} {earlier events : List EventBus.LiveEvent}
    (receives : Receives server k earlier response events) (step : ServerStep) :
    ∃ next more, Receives (server.step step) k earlier next (events ++ more) ∧ response.written <+: next.written := by
  obtain ⟨rest, split, whole⟩ := receives.log_eq
  obtain ⟨next, stays, still, grown⟩ := @extended_step _ _ _ step receives.there
  obtain ⟨other, same, carries⟩ := @step_carries _ _ _ _ step receives.there receives.carries
  cases stays.symm.trans same
  rw [handed_of_there receives.there] at carries
  refine ⟨next, _, ⟨stays, carries, ?_⟩, grown⟩
  cases subscribed : response.subscribed with
  | true =>
    refine ⟨[], ?_, fun _ => rfl⟩
    rw [Server.step, split, whole subscribed, if_pos rfl]
    simp
  | false =>
    refine ⟨rest ++ (ServerStep.published step).toList, ?_, fun now => ?_⟩
    · rw [Server.step, split, if_neg Bool.false_ne_true]
      simp
    · rw [still now] at subscribed
      cases subscribed

/-- A request opens a response that has been handed nothing yet. -/
theorem receives_opened (server : Server) : Receives (server.step .stream) server.responses.length server.events
    ⟨(Frame.comment " connected".toList).text, true⟩ [] where
  there := List.getElem?_concat_length
  carries := connected_carries
  log_eq := ⟨[], rfl, fun _ => rfl⟩

end Log

section Taken
variable {w : World} {first : List EventBus.LiveEvent}

def counted (seen : List EventBus.LiveEvent) : CapState := (seen.map shown).foldl updateCounts initialState

/-- The counters are those of events that were published behind the first ones, each taken up once. -/
def Counts (first : List EventBus.LiveEvent) (w : World) : Prop :=
  ∃ later seen, w.server.events = first ++ later ∧ seen.Sublist later ∧ w.provider.capState = counted seen

/-- An open source has read the first of its response, on top of what was counted before its request. -/
def Shows (first : List EventBus.LiveEvent) (w : World) : Prop :=
  match w.provider.source with
  | none => Counts first w
  | some source => ∃ before seen response events,
    Receives w.server source.response (first ++ before) response events ∧
    seen.Sublist before ∧ source.come ≤ response.written.length ∧
    source.reader = (Reader.start.read (response.written.take source.come)).1 ∧
    w.provider.capState = received (counted seen) (response.written.take source.come)

theorem Shows.counts (shows : Shows first w) : Counts first w := by
  cases reads : w.provider.source with
  | none => rwa [Shows, reads] at shows
  | some source =>
    rw [Shows, reads] at shows
    obtain ⟨before, seen, response, events, receives, part, _, _, state⟩ := shows
    obtain ⟨rest, log, _⟩ := receives.log_eq
    obtain ⟨taken, start, took, _⟩ := receives.carries.received (counted seen) (List.take_prefix source.come _)
    refine ⟨before ++ (events ++ rest), seen ++ taken, ?_, ?_, ?_⟩
    · rw [log, List.append_assoc]
    · exact part.append (start.sublist.trans (List.sublist_append_left events rest))
    · rw [state, took, counted, counted, List.map_append, List.foldl_append]

/-- What the server does adds to what is to be read, and changes nothing that was read. -/
theorem shows_serve (shows : Shows first w) (s : ServerStep) : Shows first (move w (.serve s)) := by
  cases reads : w.provider.source with
  | none =>
    rw [Shows, reads] at shows
    obtain ⟨later, seen, log, part, state⟩ := shows
    have same : (move w (.serve s)).provider.source = none := reads
    rw [Shows, same]
    refine ⟨later ++ (ServerStep.published s).toList, seen, ?_, part.trans (List.sublist_append_left later _), state⟩
    rw [move, Server.step, log, List.append_assoc]
  | some source =>
    rw [Shows, reads] at shows
    obtain ⟨before, seen, response, events, receives, part, inside, reader, state⟩ := shows
    obtain ⟨next, more, after, ⟨further, grown⟩⟩ := receives_step receives s
    have same : (move w (.serve s)).provider.source = some source := reads
    have come : next.written.take source.come = response.written.take source.come := by
      rw [← grown, List.take_append_of_le_length inside]
    rw [Shows, same]
    refine ⟨before, seen, next, events ++ more, after, part, ?_, ?_, ?_⟩
    · rw [← grown, List.length_append]
      omega
    · rw [come, reader]
    · rw [come]
      exact state

/-- What arrives is read on where the reading stood. -/
theorem shows_arrive (shows : Shows first w) (count : Nat) : Shows first (move w (.arrive count)) := by
  cases reads : w.provider.source with
  | none => rwa [move, Provider.arrive, reads]
  | some source =>
    rw [Shows, reads] at shows
    obtain ⟨before, seen, response, events, receives, part, inside, reader, state⟩ := shows
    obtain ⟨text, next⟩ : ∃ text, (response.written.drop source.come).take count = text := ⟨_, rfl⟩
    have start : text <+: response.written.drop source.come := next ▸ List.take_prefix count _
    have short := start.length_le
    rw [List.length_drop] at short
    have come : response.written.take (source.come + text.length) = response.written.take source.come ++ text := by
      rw [List.take_add, ← List.prefix_iff_eq_take.mp start]
    rw [move, Provider.arrive, reads]
    dsimp only
    rw [receives.there]
    dsimp only
    rw [next]
    refine ⟨before, seen, response, events, receives, part, ?_, ?_, ?_⟩
    · dsimp only
      omega
    · rw [come, read_append, reader]
    · rw [come, state, received, received, read_append, List.foldl_append, reader]

/-- What is counted stays counted when the stream is gone. -/
theorem Shows.closed (shows : Shows first w) {p : Provider} (closed : p.source = none)
    (kept : p.capState = w.provider.capState) : Shows first { w with provider := p } := by
  obtain ⟨later, seen, log, part, state⟩ := shows.counts
  rw [Shows, closed]
  exact ⟨later, seen, log, part, kept.trans state⟩

/-- A new connection begins with what is published from then on. -/
theorem shows_connect (shows : Shows first w) (mounted : w.provider.stopped = false) :
    Shows first (connect w) := by
  obtain ⟨later, seen, log, part, state⟩ := shows.counts
  have opened := receives_opened w.server
  rw [log] at opened
  rw [connect, if_neg (by simp [mounted])]
  exact ⟨later, seen, _, [], opened, part, Nat.zero_le _, rfl, state⟩

theorem onerror_closed (p : Provider) : p.onerror.source = none ∧ p.onerror.capState = p.capState := by
  rw [Provider.onerror]
  cases reads : p.source with
  | none => exact ⟨reads, rfl⟩
  | some source =>
    dsimp only
    split
    · rw [Provider.startPolling]
      split <;> exact ⟨rfl, rfl⟩
    · exact ⟨rfl, rfl⟩

/-- Until the provider polls, each move leaves it with events that were published, each taken up once. -/
theorem shows_move (sound : w.provider.Sound) (shows : Shows first w) {m : Move}
    (streams : (move w m).provider.liveStatus ≠ .polling) : Shows first (move w m) := by
  have before : w.provider.liveStatus ≠ .polling := fun polls => streams (polling_move sound polls m)
  cases m with
  | serve s => exact shows_serve shows s
  | arrive count => exact shows_arrive shows count
  | opened =>
    rw [move, Provider.onopen]
    split
    · exact shows
    · exact shows
  | failed => exact shows.closed (onerror_closed w.provider).1 (onerror_closed w.provider).2
  | retry =>
    rw [move]
    cases waits : w.provider.retryTimer with
    | none => exact shows
    | some delay =>
      obtain ⟨mounted, unread, _⟩ := sound.waiting waits
      exact shows_connect (shows.closed unread rfl) mounted
  | tick =>
    have unpolled : w.provider.pollTimer = false := by
      cases polls : w.provider.pollTimer with
      | false => rfl
      | true => exact absurd (sound.polling polls) before
    rw [move, unpolled]
    exact shows
  | answered answer =>
    rw [move, sound.unasked before]
    exact shows
  | unmount => exact shows.closed rfl rfl

/-- What a provider keeps to along a run. -/
structure Streaming (first : List EventBus.LiveEvent) (w : World) : Prop where
  sound : w.provider.Sound
  shows_first : w.provider.liveStatus ≠ .polling → Shows first w

theorem streaming_mounted (server : Server) : Streaming server.events (mounted server) := by
  have blank : Shows server.events ⟨server, .start⟩ := ⟨[], [], (List.append_nil _).symm, List.Sublist.refl [], rfl⟩
  exact ⟨sound_mounted server, fun _ => shows_connect blank rfl⟩

/-- Until the provider gives up, each move keeps what its counters are made of. -/
theorem streaming_move (streaming : Streaming first w) (m : Move) : Streaming first (move w m) := by
  refine ⟨sound_move streaming.sound m, fun streams => ?_⟩
  have before : w.provider.liveStatus ≠ .polling := fun polls => streams (polling_move streaming.sound polls m)
  exact shows_move streaming.sound (streaming.shows_first before) streams

/-- Only a publication adds to what was published. -/
theorem events_move (w : World) (m : Move) :
    (∃ event, m = .serve (.publish event) ∧ (move w m).server.events = w.server.events ++ [event]) ∨
      (move w m).server.events = w.server.events := by
  cases m with
  | serve s =>
    cases s with
    | publish event => exact Or.inl ⟨event, rfl, rfl⟩
    | stream | heartbeat | close => exact Or.inr (List.append_nil _)
  | retry =>
    rw [move]
    split
    · rw [connect]
      split
      · exact Or.inr rfl
      · exact Or.inr (List.append_nil _)
    · exact Or.inr rfl
  | tick | answered =>
    rw [move]
    split <;> exact Or.inr rfl
  | opened | arrive | failed | unmount => exact Or.inr rfl

/-- A connection that shows an application fails, and is made anew behind the assignment. -/
def sampleMoves : List Move :=
  [.opened, .serve (.publish ⟨.applicationCreated, .value "applied", .value "acme", .value 7⟩), .arrive 200, .failed,
    .serve (.publish ⟨.assignmentCreated, .value "assigned", .value "acme", .value 7⟩), .retry, .opened, .arrive 200]

end Taken

end LiveConnection

end WorkloadGovernor
