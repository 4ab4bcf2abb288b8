import Mathlib.Logic.Function.Basic
import WorkloadGovernor.Lib.Run

namespace WorkloadGovernor

namespace RedisLimiter

section Source

/-- Whom a request is counted for: the hash of its API key, or its IP. -/
inductive Identifier where
  | key (hash : String)
  | ip (address : String)
  deriving DecidableEq, Repr

def keyLimit : Nat := 120

def ipLimit : Nat := 30

def windowSec : Nat := 60

/-- `rl:${identifier}`. -/
def Identifier.redisKey : Identifier → String
  | .key hash => "rl:" ++ ("key:" ++ hash)
  | .ip address => "rl:" ++ ("ip:" ++ address)

def Identifier.limit : Identifier → Nat
  | .key _ => keyLimit
  | .ip _ => ipLimit

/-- What becomes of a command under `withTimeout`: it is answered, `null` is taken for the answer, or it is rejected. -/
inductive Reply (α : Type) where
  | answer (value : α)
  | timeout
  | failure
  deriving DecidableEq, Repr

inductive LimitCheck where
  | allowed (remaining : Option Nat)
  | refused (retryAfter : Int)
  | thrown
  deriving DecidableEq, Repr

/-- Given what becomes of its `INCR` and, past the limit, of its `TTL`. -/
def checkRedisLimit (limit : Nat) (count : Reply Nat) (ttlRaw : Reply Int) : LimitCheck :=
  match count with
  | .failure => .thrown
  | .timeout => .allowed none
  | .answer count =>
    if count > limit then
      match ttlRaw with
      | .failure => .thrown
      | .timeout => .refused windowSec
      | .answer ttl => .refused (if ttl > 0 then ttl else windowSec)
    else .allowed (some (limit - count))

inductive AuthResult where
  | next (remaining : Option Nat)
  | tooManyRequests (retryAfter : Int)
  | invalidApiKey
  deriving DecidableEq, Repr

/-- What `apiKeyAuth` makes of the check: a known key is turned away if it throws, a request without a key is let
through. -/
def apiKeyAuth : Identifier → LimitCheck → AuthResult
  | _, .allowed remaining => .next remaining
  | _, .refused retryAfter => .tooManyRequests retryAfter
  | .key _, .thrown => .invalidApiKey
  | .ip _, .thrown => .next none

end Source

section Redis

/-- The value of a key, with the last millisecond it is there. -/
structure Counter where
  count : Nat
  deadline : Option Nat
  deriving DecidableEq, Repr

/-- What there is of a key now. -/
def live (now : Nat) (stored : Option Counter) : Option Counter :=
  stored.filter fun counter => counter.deadline.all (now ≤ ·)

def incr (now : Nat) (stored : Option Counter) : Counter :=
  match live now stored with
  | some counter => { counter with count := counter.count + 1 }
  | none => ⟨1, none⟩

def expire (now : Nat) (stored : Option Counter) : Option Counter :=
  (live now stored).map fun counter => { counter with deadline := some (now + windowSec * 1000) }

/-- A command that was sent and may still be executed. -/
inductive Command where
  | incr (identifier : Identifier)
  | expire (identifier : Identifier)
  deriving DecidableEq, Repr

/-- The clock, what Redis holds, the commands that are out, and when each identifier last made a request. -/
structure World where
  now : Nat
  counters : String → Option Counter
  outstanding : List Command
  last : Identifier → Option Nat

def World.start : World := ⟨0, fun _ => none, [], fun _ => none⟩

inductive Step where
  /-- A request; an `INCR` that is answered is executed at once, any other later or never. -/
  | request (identifier : Identifier) (count : Reply Unit) (ttlRaw : Reply Int)
  /-- Redis executes a command that is out. -/
  | execute (index : Nat)
  | advance (ms : Nat)

/-- The count an answered `INCR` comes back with. -/
def World.countReply (w : World) (identifier : Identifier) : Reply Unit → Reply Nat
  | .answer _ => .answer (RedisLimiter.incr w.now (w.counters identifier.redisKey)).count
  | .timeout => .timeout
  | .failure => .failure

def World.request (w : World) (identifier : Identifier) (count : Reply Unit) : World :=
  let asked := { w with last := Function.update w.last identifier (some w.now) }
  match count with
  | .answer _ =>
    let counter := RedisLimiter.incr w.now (w.counters identifier.redisKey)
    { asked with
      counters := Function.update w.counters identifier.redisKey (some counter)
      -- the first hit sends the expiry, and does not wait for it
      outstanding := if counter.count = 1 then w.outstanding ++ [.expire identifier] else w.outstanding }
  | _ => { asked with outstanding := w.outstanding ++ [.incr identifier] }

def World.execute (w : World) : Command → World
  | .incr identifier =>
    { w with
      counters := Function.update w.counters identifier.redisKey
        (some (RedisLimiter.incr w.now (w.counters identifier.redisKey))) }
  | .expire identifier =>
    { w with
      counters := Function.update w.counters identifier.redisKey
        (RedisLimiter.expire w.now (w.counters identifier.redisKey)) }

def World.step (w : World) : Step → World
  | .request identifier count _ => w.request identifier count
  | .execute index =>
    match w.outstanding[index]? with
    | some command => { w.execute command with outstanding := w.outstanding.eraseIdx index }
    | none => w
  | .advance ms => { w with now := w.now + ms }

/-- What a request is answered. -/
def World.authResult (w : World) (identifier : Identifier) (count : Reply Unit) (ttlRaw : Reply Int) : AuthResult :=
  apiKeyAuth identifier (checkRedisLimit identifier.limit (w.countReply identifier count) ttlRaw)

def AuthResult.admitted : AuthResult → Bool
  | .next _ => true
  | _ => false

end Redis

section Proofs
variable {w : World} {identifier other : Identifier} {stored : Option Counter} {counter : Counter} {steps : List Step}

/-- No request was made during the last 60 s. -/
def World.Idle (w : World) (identifier : Identifier) : Prop :=
  ∀ t ∈ w.last identifier, t + windowSec * 1000 < w.now

/-- What is there of an identifier's counter. -/
def World.counterOf (w : World) (identifier : Identifier) : Option Counter := live w.now (w.counters identifier.redisKey)

/-- A counter lasts at most until 60 s after the identifier's latest request. -/
def World.EndsInTime (w : World) (identifier : Identifier) (counter : Counter) : Prop :=
  ∃ t ∈ w.last identifier, counter.deadline.getD w.now ≤ t + windowSec * 1000

/-- What keeps the limiter from locking out: time passes only when every counter that has reached its limit has a
deadline, an `EXPIRE` of such a counter is executed at the time of the latest request, an `INCR` that comes late does not
fill up a counter that outlasts the 60 s, and the `INCR` of an idle key is not rejected. -/
def Timely (w : World) : Step → Prop
  | .advance _ =>
    ∀ identifier, ∀ counter ∈ w.counterOf identifier, identifier.limit ≤ counter.count → counter.deadline ≠ none
  | .execute index =>
    match w.outstanding[index]? with
    | some (.expire identifier) =>
      ∀ counter ∈ w.counterOf identifier, identifier.limit ≤ counter.count → w.last identifier = some w.now
    | some (.incr identifier) =>
      ∀ counter ∈ w.counterOf identifier, identifier.limit ≤ counter.count + 1 → w.EndsInTime identifier counter
    | none => True
  | .request (.key hash) .failure _ => ¬ w.Idle (.key hash)
  | .request _ _ _ => True

theorem redisKey_injective : Function.Injective Identifier.redisKey := by
  intro a b same
  have apart : ∀ hash address, Identifier.redisKey (.key hash) ≠ Identifier.redisKey (.ip address) := by
    intro hash address equal
    have texts := congrArg String.toList equal
    simp [Identifier.redisKey, String.toList_append] at texts
  cases a with
  | key hash =>
    cases b with
    | key hash' => simpa [Identifier.redisKey, ← String.toList_inj] using same
    | ip address => exact absurd same (apart hash address)
  | ip address =>
    cases b with
    | key hash => exact absurd same.symm (apart hash address)
    | ip address' => simpa [Identifier.redisKey, ← String.toList_inj] using same

theorem live_eq_some {now : Nat} :
    live now stored = some counter ↔ stored = some counter ∧ ∀ deadline ∈ counter.deadline, now ≤ deadline := by
  rw [live, Option.filter_eq_some_iff]
  cases counter.deadline <;> simp

/-- An increment keeps a counter's deadline. -/
theorem live_incr (now : Nat) (stored : Option Counter) : live now (some (incr now stored)) = some (incr now stored) := by
  rw [live_eq_some, incr]
  refine ⟨rfl, ?_⟩
  cases there : live now stored with
  | some counter => exact (live_eq_some.mp there).2
  | none => simp

theorem live_expire (now : Nat) (stored : Option Counter) : live now (expire now stored) = expire now stored := by
  rw [expire]
  cases live now stored with
  | none => rfl
  | some counter =>
    refine live_eq_some.mpr ⟨rfl, ?_⟩
    rintro _ ⟨⟩
    exact Nat.le_add_right _ _

/-- The counters of the others are left alone. -/
theorem counterOf_update_of_ne {w' : World} (now : w'.now = w.now)
    (counters : w'.counters = Function.update w.counters identifier.redisKey stored) (apart : other ≠ identifier) :
    w'.counterOf other = w.counterOf other := by
  rw [World.counterOf, World.counterOf, now, counters, Function.update_of_ne (redisKey_injective.ne apart)]

theorem counterOf_update_self {w' : World} (now : w'.now = w.now)
    (counters : w'.counters = Function.update w.counters identifier.redisKey stored) :
    w'.counterOf identifier = live w.now stored := by
  rw [World.counterOf, now, counters, Function.update_self]

/-- No counter has more than 60 s to last, and those that have reached their limit end in time. -/
structure Calm (w : World) : Prop where
  soon : ∀ identifier, ∀ counter ∈ w.counterOf identifier, ∀ deadline ∈ counter.deadline,
    deadline ≤ w.now + windowSec * 1000
  ends : ∀ identifier, ∀ counter ∈ w.counterOf identifier, identifier.limit ≤ counter.count →
    w.EndsInTime identifier counter

theorem calm_start : Calm World.start where
  soon := by simp [World.counterOf, World.start, live]
  ends := by simp [World.counterOf, World.start, live]

/-- A step that does not take time and concerns one identifier. -/
theorem Calm.of_changed {w' : World} (calm : Calm w) (now : w'.now = w.now)
    (others : ∀ other, other ≠ identifier → w'.counterOf other = w.counterOf other ∧ w'.last other = w.last other)
    (soon : ∀ counter ∈ w'.counterOf identifier, ∀ deadline ∈ counter.deadline, deadline ≤ w.now + windowSec * 1000)
    (ends : ∀ counter ∈ w'.counterOf identifier, identifier.limit ≤ counter.count → w'.EndsInTime identifier counter) :
    Calm w' := by
  constructor
  · intro other counter there
    rw [now]
    by_cases same : other = identifier
    · subst same
      exact soon counter there
    · rw [(others other same).1] at there
      exact calm.soon other counter there
  · intro other counter there
    by_cases same : other = identifier
    · subst same
      exact ends counter there
    · obtain ⟨counters, last⟩ := others other same
      rw [counters] at there
      intro full
      rw [World.EndsInTime, last, now]
      exact calm.ends other counter there full

/-- What is requested now lasts at most 60 s. -/
theorem endsInTime_of_last (requested : w.last identifier = some w.now)
    (soon : ∀ deadline ∈ counter.deadline, deadline ≤ w.now + windowSec * 1000) : w.EndsInTime identifier counter := by
  refine ⟨w.now, requested, ?_⟩
  cases within : counter.deadline with
  | none => exact Nat.le_add_right _ _
  | some deadline => exact soon deadline within

/-- An `INCR` leaves the deadline, and counts one up. -/
theorem mem_incr (there : counter ∈ live w.now (some (incr w.now (w.counters identifier.redisKey)))) :
    counter = ⟨1, none⟩ ∨ ∃ earlier ∈ w.counterOf identifier, counter = { earlier with count := earlier.count + 1 } := by
  rw [live_incr] at there
  obtain rfl := Option.some.inj there
  unfold incr World.counterOf
  cases live w.now (w.counters identifier.redisKey) with
  | none => exact Or.inl rfl
  | some earlier => exact Or.inr ⟨earlier, rfl, rfl⟩

theorem Calm.soon_of_incr (calm : Calm w)
    (there : counter ∈ live w.now (some (incr w.now (w.counters identifier.redisKey)))) :
    ∀ deadline ∈ counter.deadline, deadline ≤ w.now + windowSec * 1000 := by
  rcases mem_incr there with rfl | ⟨earlier, held, rfl⟩
  · simp
  · exact calm.soon identifier earlier held

theorem one_lt_limit (identifier : Identifier) : 1 < identifier.limit := by
  cases identifier with
  | key hash => exact (by decide : 1 < keyLimit)
  | ip address => exact (by decide : 1 < ipLimit)

theorem calm_request (calm : Calm w) (count : Reply Unit) : Calm (w.request identifier count) := by
  have requested : (w.request identifier count).last identifier = some w.now := by
    cases count <;> exact Function.update_self _ _ _
  have now : (w.request identifier count).now = w.now := by cases count <;> rfl
  have last : ∀ other, other ≠ identifier → (w.request identifier count).last other = w.last other := by
    intro other apart
    cases count <;> exact Function.update_of_ne apart _ _
  have soon : ∀ counter ∈ (w.request identifier count).counterOf identifier, ∀ deadline ∈ counter.deadline,
      deadline ≤ w.now + windowSec * 1000 := by
    cases count with
    | answer _ =>
      rw [counterOf_update_self (w := w) (by rfl) (by rfl)]
      exact fun counter there => calm.soon_of_incr there
    | timeout => exact calm.soon identifier
    | failure => exact calm.soon identifier
  refine calm.of_changed now (fun other apart => ⟨?_, last other apart⟩) soon fun counter there _ => ?_
  · cases count with
    | answer _ => exact counterOf_update_of_ne (by rfl) (by rfl) apart
    | timeout => rfl
    | failure => rfl
  · refine endsInTime_of_last (by rw [requested, now]) ?_
    rw [now]
    exact soon counter there

theorem counterOf_execute_expire (w : World) (identifier : Identifier) :
    (w.execute (.expire identifier)).counterOf identifier =
      (w.counterOf identifier).map fun counter => { counter with deadline := some (w.now + windowSec * 1000) } := by
  rw [counterOf_update_self (w := w) (by rfl) (by rfl), live_expire]
  rfl

theorem counterOf_execute_incr (w : World) (identifier : Identifier) :
    (w.execute (.incr identifier)).counterOf identifier =
      live w.now (some (incr w.now (w.counters identifier.redisKey))) :=
  counterOf_update_self (by rfl) (by rfl)

theorem step_execute {index : Nat} {command : Command} (out : w.outstanding[index]? = some command) :
    w.step (.execute index) = { w.execute command with outstanding := w.outstanding.eraseIdx index } := by
  rw [World.step, out]

theorem counterOf_outstanding (w : World) (commands : List Command) :
    World.counterOf { w with outstanding := commands } = w.counterOf := rfl

theorem calm_execute {index : Nat} {command : Command} (calm : Calm w) (out : w.outstanding[index]? = some command)
    (timely : Timely w (.execute index)) : Calm (w.execute command) := by
  rw [Timely, out] at timely
  cases command with
  | incr identifier =>
    refine calm.of_changed (by rfl) (fun other apart => ⟨counterOf_update_of_ne (by rfl) (by rfl) apart, rfl⟩) ?_ ?_
    · rw [counterOf_execute_incr]
      exact fun counter there => calm.soon_of_incr there
    · rw [counterOf_execute_incr]
      intro counter there full
      rcases mem_incr there with rfl | ⟨earlier, held, rfl⟩
      · exact absurd full (Nat.not_le.mpr (one_lt_limit identifier))
      · exact timely earlier held full
  | expire identifier =>
    have soon : ∀ counter ∈ (w.execute (.expire identifier)).counterOf identifier, ∀ deadline ∈ counter.deadline,
        deadline ≤ w.now + windowSec * 1000 := by
      rw [counterOf_execute_expire]
      intro counter there deadline set
      obtain ⟨earlier, _, rfl⟩ := Option.map_eq_some_iff.mp there
      obtain rfl := Option.some.inj set
      exact Nat.le_refl _
    refine calm.of_changed (by rfl) (fun other apart => ⟨counterOf_update_of_ne (by rfl) (by rfl) apart, rfl⟩) soon ?_
    intro counter there full
    refine endsInTime_of_last ?_ (soon counter there)
    rw [counterOf_execute_expire] at there
    obtain ⟨earlier, held, rfl⟩ := Option.map_eq_some_iff.mp there
    exact timely earlier held full

theorem mem_advance_iff {ms : Nat} : counter ∈ (w.step (.advance ms)).counterOf identifier ↔
    counter ∈ w.counterOf identifier ∧ ∀ deadline ∈ counter.deadline, w.now + ms ≤ deadline := by
  have after : counter ∈ (w.step (.advance ms)).counterOf identifier ↔ w.counters identifier.redisKey = some counter ∧
      ∀ deadline ∈ counter.deadline, w.now + ms ≤ deadline := live_eq_some
  have before : counter ∈ w.counterOf identifier ↔ w.counters identifier.redisKey = some counter ∧
      ∀ deadline ∈ counter.deadline, w.now ≤ deadline := live_eq_some
  rw [after, before]
  constructor
  · rintro ⟨held, lasting⟩
    exact ⟨⟨held, fun deadline set => Nat.le_trans (Nat.le_add_right _ _) (lasting deadline set)⟩, lasting⟩
  · rintro ⟨⟨held, _⟩, lasting⟩
    exact ⟨held, lasting⟩

theorem calm_step (calm : Calm w) {step : Step} (timely : Timely w step) : Calm (w.step step) := by
  cases step with
  | request identifier count ttlRaw => exact calm_request calm count
  | execute index =>
    rw [World.step]
    split
    · rename_i command out
      have executed := calm_execute calm out timely
      exact ⟨executed.soon, executed.ends⟩
    · exact calm
  | advance ms =>
    constructor
    · intro identifier counter there deadline set
      have before := calm.soon identifier counter (mem_advance_iff.mp there).1 deadline set
      exact Nat.le_trans before (Nat.add_le_add_right (Nat.le_add_right _ _) _)
    · intro identifier counter there full
      obtain ⟨held, _⟩ := mem_advance_iff.mp there
      obtain ⟨t, requested, within⟩ := calm.ends identifier counter held full
      obtain ⟨deadline, set⟩ := Option.ne_none_iff_exists'.mp (timely identifier counter held full)
      refine ⟨t, requested, ?_⟩
      rw [set] at within ⊢
      exact within

/-- In a calm world an idle identifier's counter has not reached its limit. -/
theorem Calm.count_lt (calm : Calm w) (idle : w.Idle identifier) (held : counter ∈ w.counterOf identifier) :
    counter.count < identifier.limit := by
  by_contra full
  obtain ⟨t, requested, within⟩ := calm.ends identifier counter held (Nat.not_lt.mp full)
  have before := idle t requested
  cases set : counter.deadline with
  | none =>
    rw [set, Option.getD_none] at within
    omega
  | some deadline =>
    rw [set, Option.getD_some] at within
    have lasting := (live_eq_some.mp held).2 deadline set
    omega

theorem admitted_of_calm (calm : Calm w) (idle : w.Idle identifier) {count : Reply Unit} {ttlRaw : Reply Int}
    (timely : Timely w (.request identifier count ttlRaw)) : (w.authResult identifier count ttlRaw).admitted = true := by
  rw [World.authResult]
  cases count with
  | answer _ =>
    have within : (incr w.now (w.counters identifier.redisKey)).count ≤ identifier.limit := by
      rcases mem_incr (live_incr w.now (w.counters identifier.redisKey)) with same | ⟨earlier, held, same⟩
      · rw [same]
        exact (one_lt_limit identifier).le
      · rw [same]
        exact calm.count_lt idle held
    have allowed : checkRedisLimit identifier.limit (w.countReply identifier (.answer ())) ttlRaw =
        .allowed (some (identifier.limit - (incr w.now (w.counters identifier.redisKey)).count)) :=
      if_neg (Nat.not_lt.mpr within)
    rw [allowed]
    cases identifier <;> rfl
  | timeout => cases identifier <;> rfl
  | failure =>
    cases identifier with
    | key hash => exact absurd idle timely
    | ip address => rfl

/-- In a run whose steps are all timely, an identifier that made no request during the last 60 s is admitted on its next
request. -/
theorem idle_identifier_admitted (timely : Run.EachStep World.step World.start Timely steps) {before : List Step}
    {count : Reply Unit} {ttlRaw : Reply Int} (made : before ++ [.request identifier count ttlRaw] <+: steps)
    (idle : (Run.exec World.step World.start before).Idle identifier) :
    ((Run.exec World.step World.start before).authResult identifier count ttlRaw).admitted = true := by
  have calm : Calm (Run.exec World.step World.start before) :=
    Run.exec_invariant_each calm_start (fun _ _ timely calm => calm_step calm timely)
      (timely.of_prefix ((List.prefix_append _ _).trans made))
  exact admitted_of_calm calm idle (timely _ _ made)

section Examples

def client : Identifier := .ip "203.0.113.7"

def ask : Step := .request client (.answer ()) (.answer 60)

/-- Redis has the one counter, and the client alone made requests. -/
def clientWorld (now count deadline : Nat) (outstanding : List Command) (last : Nat) : World where
  now := now
  counters := Function.update (fun _ => none) client.redisKey (some ⟨count, some deadline⟩)
  outstanding := outstanding
  last := Function.update (fun _ => none) client (some last)

variable {now count deadline last : Nat} {outstanding : List Command}

theorem mem_clientWorld (there : counter ∈ (clientWorld now count deadline outstanding last).counterOf identifier) :
    identifier = client ∧ counter = ⟨count, some deadline⟩ := by
  have held : Function.update (fun _ => none) client.redisKey (some ⟨count, some deadline⟩) identifier.redisKey =
      some counter := (live_eq_some.mp there).1
  by_cases same : identifier = client
  · rw [same, Function.update_self] at held
    exact ⟨same, (Option.some.inj held).symm⟩
  · rw [Function.update_of_ne (redisKey_injective.ne same)] at held
    cases held

theorem incr_clientWorld (within : now ≤ deadline) :
    incr now (some ⟨count, some deadline⟩) = ⟨count + 1, some deadline⟩ := by
  have there : live now (some ⟨count, some deadline⟩) = some ⟨count, some deadline⟩ :=
    live_eq_some.mpr ⟨rfl, fun _ same => Option.some.inj same ▸ within⟩
  rw [incr, there]

theorem step_ask (within : now ≤ deadline) (some_before : count ≠ 0) :
    (clientWorld now count deadline outstanding last).step ask =
      clientWorld now (count + 1) deadline outstanding now := by
  have later : ¬ count + 1 = 1 := by omega
  simp only [World.step, ask, World.request, clientWorld, Function.update_self, incr_clientWorld within, later, if_false,
    Function.update_idem]

theorem step_late (within : now ≤ deadline) :
    (clientWorld now count deadline [.incr client] last).step (.execute 0) =
      clientWorld now (count + 1) deadline [] last := by
  simp only [World.step, World.execute, clientWorld, List.getElem?_cons_zero, Function.update_self,
    incr_clientWorld within, Function.update_idem, List.eraseIdx_cons_zero]

theorem exec_asks (within : now ≤ deadline) (some_before : count ≠ 0) (k : Nat) :
    Run.exec World.step (clientWorld now count deadline outstanding now) (List.replicate k ask) =
      clientWorld now (count + k) deadline outstanding now := by
  induction k with
  | zero => rfl
  | succ k ih => rw [List.replicate_succ', Run.exec_concat, ih, step_ask within (by omega), Nat.add_assoc]

theorem timely_advance (ms : Nat) : Timely (clientWorld now count deadline outstanding last) (.advance ms) := by
  intro identifier counter there _
  rw [(mem_clientWorld there).2]
  exact Option.some_ne_none deadline

/-- The limit is reached, with the `EXPIRE` executed in time. -/
def reached : List Step := [ask, .execute 0] ++ List.replicate 29 ask

/-- Another `INCR` times out and is executed half a second later; then a minute goes by. -/
def busy : List Step := reached ++ [.request client .timeout (.answer 60)] ++ [.advance 500] ++ [.execute 0]

theorem exec_reached : Run.exec World.step World.start reached = clientWorld 0 30 60000 [] 0 := by
  have first : Run.exec World.step World.start [ask, .execute 0] = clientWorld 0 1 60000 [] 0 := by
    have asked : World.start.step ask = ⟨0, Function.update (fun _ => none) client.redisKey (some ⟨1, none⟩),
        [.expire client], Function.update (fun _ => none) client (some 0)⟩ := rfl
    change (World.start.step ask).step (.execute 0) = _
    rw [asked]
    simp only [World.step, World.execute, List.getElem?_cons_zero, Function.update_self, Function.update_idem]
    rfl
  rw [reached, Run.exec_append, first, exec_asks (Nat.zero_le _) Nat.one_ne_zero]

theorem exec_late : Run.exec World.step World.start
    (reached ++ [.request client .timeout (.answer 60)] ++ [.advance 500]) = clientWorld 500 30 60000 [.incr client] 0 := by
  rw [Run.exec_concat, Run.exec_concat, exec_reached]
  simp only [World.step, World.request, clientWorld, Function.update_idem]
  rfl

theorem exec_busy : Run.exec World.step World.start busy = clientWorld 500 31 60000 [] 0 := by
  rw [busy, Run.exec_concat, exec_late, step_late (by decide)]

theorem reached_timely (k : Nat) :
    Run.EachStep World.step World.start Timely ([ask, .execute 0] ++ List.replicate k ask) := by
  induction k with
  | zero =>
    rw [List.replicate_zero, List.append_nil]
    exact Run.eachStep_cons trivial (Run.eachStep_cons (fun counter _ _ => rfl) Run.eachStep_nil)
  | succ k ih =>
    rw [List.replicate_succ', ← List.append_assoc, Run.eachStep_concat]
    exact ⟨ih, trivial⟩

theorem busy_timely : Run.EachStep World.step World.start Timely (busy ++ [.advance 59501] ++ [ask]) := by
  have timed_out : (clientWorld 0 30 60000 [] 0).step (.request client .timeout (.answer 60)) =
      clientWorld 0 30 60000 [.incr client] 0 := by
    simp only [World.step, World.request, clientWorld, Function.update_idem]
    rfl
  rw [Run.eachStep_concat, Run.eachStep_concat, exec_busy, busy, Run.eachStep_concat, exec_late, Run.eachStep_concat,
    Run.exec_concat, exec_reached, timed_out, Run.eachStep_concat]
  refine ⟨⟨⟨⟨⟨reached_timely 29, trivial⟩, timely_advance 500⟩, ?_⟩, timely_advance 59501⟩, trivial⟩
  -- the late `INCR` fills the counter up, which ends with the minute
  intro counter there _
  rw [(mem_clientWorld there).2]
  exact ⟨0, rfl, by decide⟩

/-- The client is refused while the counter lasts, and admitted when it has been idle for a minute. -/
theorem busy_client_admitted :
    ((Run.exec World.step World.start busy).authResult client (.answer ()) (.answer 60)).admitted = false ∧
      ((Run.exec World.step World.start (busy ++ [.advance 59501])).authResult client (.answer ())
        (.answer 60)).admitted = true := by
  constructor
  · rw [exec_busy]
    decide
  · refine idle_identifier_admitted busy_timely List.prefix_rfl ?_
    rw [Run.exec_concat, exec_busy]
    rintro t requested
    cases requested
    decide

/-- Thirty requests whose `EXPIRE` is never executed, and a minute without a request. -/
def unexpired : List Step := List.replicate 30 (.request client (.answer ()) (.answer (-1))) ++ [.advance 60001]

theorem lost_expiry_locks_out : (Run.exec World.step World.start unexpired).Idle client ∧
    (Run.exec World.step World.start unexpired).authResult client (.answer ()) (.answer (-1)) = .tooManyRequests 60 := by
  refine ⟨?_, by decide +kernel⟩
  have last : (Run.exec World.step World.start unexpired).last client = some 0 := by decide +kernel
  have now : (Run.exec World.step World.start unexpired).now = 60001 := by decide +kernel
  intro t requested
  rw [last] at requested
  cases requested
  rw [now]
  decide

end Examples

/-- An identifier that made no request during the last 60 s is refused if it makes one. -/
def World.LocksOut (w : World) : Prop :=
  ∃ identifier, w.Idle identifier ∧ ∀ ttl, (w.authResult identifier (.answer ()) (.answer ttl)).admitted = false

theorem refused_of_full (held : counter ∈ w.counterOf identifier) (full : identifier.limit ≤ counter.count) (ttl : Int) :
    (w.authResult identifier (.answer ()) (.answer ttl)).admitted = false := by
  have counted : incr w.now (w.counters identifier.redisKey) = { counter with count := counter.count + 1 } := by
    have there : live w.now (w.counters identifier.redisKey) = some counter := held
    rw [incr, there]
  have exceeded : checkRedisLimit identifier.limit (w.countReply identifier (.answer ())) (.answer ttl) =
      .refused (if ttl > 0 then ttl else windowSec) := by
    rw [World.countReply, counted]
    exact if_pos (Nat.lt_succ_of_le full)
  rw [World.authResult, exceeded]
  cases identifier <;> rfl

/-- No request was made later than now. -/
def World.Past (w : World) : Prop := ∀ identifier, ∀ t ∈ w.last identifier, t ≤ w.now

theorem past_reached (steps : List Step) : (Run.exec World.step World.start steps).Past := by
  have past_start : World.start.Past := by simp [World.Past, World.start]
  refine Run.exec_invariant past_start (fun w step past => ?_) steps
  cases step with
  | request identifier count ttlRaw =>
    have changed : (w.request identifier count).last = Function.update w.last identifier (some w.now) ∧
        (w.request identifier count).now = w.now := by cases count <;> exact ⟨rfl, rfl⟩
    intro other t requested
    rw [World.step, changed.1, Function.update_apply] at requested
    rw [World.step, changed.2]
    split at requested
    · exact (Option.some.inj requested).symm.le
    · exact past other t requested
  | execute index =>
    rw [World.step]
    split
    · rename_i command out
      cases command <;> exact past
    · exact past
  | advance ms => exact fun other t requested => Nat.le_trans (past other t requested) (Nat.le_add_right _ _)

/-- A step that is not timely either turns an idle key away, or leaves a counter that refuses its identifier after a
while in which nothing happens. -/
theorem locksOut_of_not_timely (past : w.Past) {step : Step} (untimely : ¬ Timely w step) :
    (∃ hash ttlRaw, step = .request (.key hash) .failure ttlRaw ∧ w.Idle (.key hash)) ∨
      ∃ ms, ((w.step step).step (.advance ms)).LocksOut := by
  cases step with
  | request identifier count ttlRaw =>
    cases identifier with
    | ip address => exact absurd trivial untimely
    | key hash =>
      cases count with
      | failure => exact Or.inl ⟨hash, ttlRaw, rfl, not_not.mp untimely⟩
      | answer _ => exact absurd trivial untimely
      | timeout => exact absurd trivial untimely
  | advance ms =>
    simp only [Timely, not_forall, not_not] at untimely
    obtain ⟨identifier, counter, held, full, unset⟩ := untimely
    have forever : ∀ bound, ∀ deadline ∈ counter.deadline, bound ≤ deadline := by simp [unset]
    refine Or.inr ⟨windowSec * 1000 + 1, identifier, fun t requested => ?_, refused_of_full ?_ full⟩
    · have before := past identifier t requested
      simp only [World.step]
      omega
    · exact mem_advance_iff.mpr ⟨mem_advance_iff.mpr ⟨held, forever _⟩, forever _⟩
  | execute index =>
    rw [Timely] at untimely
    split at untimely
    · rename_i identifier out
      simp only [not_forall] at untimely
      obtain ⟨counter, held, full, later⟩ := untimely
      have renewed : { counter with deadline := some (w.now + windowSec * 1000) } ∈
          (w.step (.execute index)).counterOf identifier := by
        rw [step_execute out, counterOf_outstanding, counterOf_execute_expire]
        exact Option.mem_map_of_mem _ held
      refine Or.inr ⟨windowSec * 1000, identifier, fun t requested => ?_,
        refused_of_full (mem_advance_iff.mpr ⟨renewed, ?_⟩) full⟩
      · rw [step_execute out] at requested ⊢
        have before := past identifier t requested
        have apart : t ≠ w.now := fun same => later (same ▸ requested)
        simp only [World.step, World.execute]
        omega
      · rw [step_execute out]
        rintro _ ⟨⟩
        exact Nat.le_refl _
    · rename_i identifier out
      simp only [not_forall] at untimely
      obtain ⟨counter, held, full, outlasts⟩ := untimely
      have counted : { counter with count := counter.count + 1 } ∈ (w.step (.execute index)).counterOf identifier := by
        have there : live w.now (w.counters identifier.redisKey) = some counter := held
        rw [step_execute out, counterOf_outstanding, counterOf_execute_incr, live_incr, incr, there]
        rfl
      have lasting := (live_eq_some.mp held).2
      have due : w.now ≤ counter.deadline.getD w.now := by
        cases set : counter.deadline with
        | none => exact Nat.le_refl _
        | some deadline => exact lasting deadline set
      refine Or.inr ⟨counter.deadline.getD w.now - w.now, identifier, fun t requested => ?_,
        refused_of_full (mem_advance_iff.mpr ⟨counted, ?_⟩) full⟩
      · rw [step_execute out] at requested ⊢
        have late : ¬ counter.deadline.getD w.now ≤ t + windowSec * 1000 := fun within => outlasts ⟨t, requested, within⟩
        simp only [World.step, World.execute]
        omega
      · rw [step_execute out]
        intro deadline set
        rw [show counter.deadline = some deadline from set, Option.getD_some] at due ⊢
        simp only [World.execute]
        omega
    · exact absurd trivial untimely

end Proofs

end RedisLimiter

end WorkloadGovernor
