import WorkloadGovernor.Lib.JsonLine
import WorkloadGovernor.Lib.Run
import WorkloadGovernor.WebhookSignature

namespace WorkloadGovernor

namespace WebhookDispatcher
open JsonText

section Source

/-- A row of `org_webhooks`. -/
structure OrgWebhook where
  id : Nat
  org_id : String
  url : String
  secret : String
  deriving DecidableEq, Repr

structure WebhookPayload where
  event : String
  org_id : String
  issue_id : Nat
  contributor : String
  ledger : Nat
  timestamp : String
  deriving DecidableEq, Repr

def WebhookPayload.toValue (payload : WebhookPayload) : Value :=
  .object [(units "event", .string (units payload.event)), (units "org_id", .string (units payload.org_id)),
    (units "issue_id", .number (.ofRat payload.issue_id)),
    (units "contributor", .string (units payload.contributor)), (units "ledger", .number (.ofRat payload.ledger)),
    (units "timestamp", .string (units payload.timestamp))]

/-- What is handed to `fetch`, with the headers `X-WG-Signature` and `X-WG-Event`; a redirect that `fetch` follows is its
own request and none of these. -/
structure PostRequest where
  url : String
  signature : String
  event : String
  body : String
  deriving DecidableEq, Repr

structure DeadLetter where
  webhook_id : Nat
  payload : String
  last_error : String
  attempts : Nat
  deriving DecidableEq, Repr

/-- What a `fetch` comes to: a response, or an error such as the timeout after ten seconds. -/
inductive Fetched where
  | response (ok : Bool) (status : Nat) (statusText : String)
  | thrown (message : String)
  deriving DecidableEq, Repr

def Fetched.delivered : Fetched → Bool
  | .response ok _ _ => ok
  | .thrown _ => false

/-- The `lastError` it leaves. -/
def Fetched.error : Fetched → String
  | .response _ status statusText => "HTTP " ++ toString status ++ " " ++ statusText
  | .thrown message => message

def maxAttempts : Nat := 3

variable (hmac : String → String → String)

def signPayload (payload secret : String) : String := "sha256=" ++ hmac secret payload

def postRequest (hook : OrgWebhook) (payload : WebhookPayload) : PostRequest :=
  let body := stringify payload.toValue
  ⟨hook.url, signPayload hmac body hook.secret, payload.event, body⟩

def deadLetter (hook : OrgWebhook) (payload : WebhookPayload) (lastError : String) : DeadLetter :=
  ⟨hook.id, stringify payload.toValue, lastError, maxAttempts⟩

section Routes

structure RegisterBody where
  org_id : Option String
  url : Option String
  secret : Option String
  deriving DecidableEq, Repr

/-- `text.trim()`. -/
def trimmed (text : String) : String := String.ofList (Js.trim text)

/-- The table `org_webhooks`, and the last number its sequence gave. -/
structure HookTable where
  rows : List OrgWebhook
  lastId : Nat

/-- `POST /webhooks/org`: of its two handlers the first takes every request. `inserted` is whether the `INSERT` goes
through. -/
def postOrg (table : HookTable) (body : RegisterBody) (inserted : Bool) : Except (Nat × String) OrgWebhook × HookTable :=
  match body.org_id.filter fun org_id => trimmed org_id ≠ "" with
  | none => (.error (400, "org_id is required"), table)
  | some org_id =>
    match body.url.filter fun url => Js.startsWith url "https://" with
    | none => (.error (400, "url must start with https://"), table)
    | some url =>
      match body.secret.filter fun secret => trimmed secret ≠ "" with
      | none => (.error (400, "secret is required"), table)
      | some secret =>
        if !inserted then (.error (500, "database error"), table)
        else
          let row : OrgWebhook := ⟨table.lastId + 1, trimmed org_id, url, secret⟩
          (.ok row, ⟨table.rows ++ [row], table.lastId + 1⟩)

/-- `DELETE /webhooks/org/:id`. -/
def deleteOrg (table : HookTable) (id : String) (executed : Bool) : Except (Nat × String) Unit × HookTable :=
  match Js.parseInt id with
  | none => (.error (400, "invalid id"), table)
  | some id =>
    if !executed then (.error (500, "database error"), table)
    else if table.rows.any fun row => row.id = id then
      (.ok (), { table with rows := table.rows.filter fun row => row.id ≠ id })
    else (.error (404, "webhook not found"), table)

end Routes

/-- From attempt `attempt` on, with `left` attempts to go: the requests that are made, and the last error where none of
them is delivered. -/
def attempts (request : PostRequest) (answer : Nat → Fetched) : Nat → Nat → String → List PostRequest × Option String
  | _, 0, lastError => ([], some lastError)
  | attempt, left + 1, _ =>
    let response := answer attempt
    if response.delivered then ([request], none)
    else
      let (later, lastError) := attempts request answer (attempt + 1) left response.error
      (request :: later, lastError)

/-- `dispatchToWebhook` by itself, where `answer` gives what each attempt comes to and `inserted` is whether the
`INSERT` of the dead letter goes through: the requests it makes and the dead letters it writes. -/
def dispatchToWebhook (hook : OrgWebhook) (payload : WebhookPayload) (answer : Nat → Fetched) (inserted : Bool) :
    List PostRequest × List DeadLetter :=
  match attempts (postRequest hmac hook payload) answer 0 maxAttempts "" with
  | (requests, none) => (requests, [])
  | (requests, some lastError) => (requests, if inserted then [deadLetter hook payload lastError] else [])

end Source

section Concurrent

/-- What a delivery waits for: the answer to an attempt, the end of a delay, or the database. -/
inductive Stage where
  | sending (attempt : Nat)
  | backingOff (attempt due : Nat)
  | writing
  | settled
  deriving DecidableEq, Repr

/-- A call of `dispatchToWebhook` on its way, with the requests it has made, each with its time, and the dead letters
it has written. -/
structure Delivery where
  hook : OrgWebhook
  payload : WebhookPayload
  stage : Stage
  lastError : String
  sent : List (Nat × PostRequest)
  letters : List DeadLetter

structure World where
  now : Nat
  table : HookTable
  deliveries : List Delivery

def World.start : World := ⟨0, ⟨[], 0⟩, []⟩

inductive Step where
  | register (body : RegisterBody) (inserted : Bool)
  | remove (id : String) (executed : Bool)
  /-- `dispatchAssignmentEvent`; its first requests go out at once. -/
  | dispatch (payload : WebhookPayload) (queried : Bool)
  /-- The `fetch` of a delivery settles. -/
  | answer (index : Nat)
  /-- The timer of a delivery fires. -/
  | fire (index : Nat)
  /-- The `INSERT` of a delivery settles. -/
  | written (index : Nat)
  | advance (ms : Nat)

variable (hmac : String → String → String) (answers : Nat → Nat → Fetched) (inserted : Nat → Bool)

def Delivery.begin (now : Nat) (payload : WebhookPayload) (hook : OrgWebhook) : Delivery :=
  ⟨hook, payload, .sending 0, "", [(now, postRequest hmac hook payload)], []⟩

/-- `delay(attempt)` runs for `1000 * 2 ** attempt` milliseconds, and not after the last attempt. -/
def Delivery.answer (d : Delivery) (now : Nat) (answer : Nat → Fetched) : Delivery :=
  match d.stage with
  | .sending attempt =>
    if (answer attempt).delivered then { d with stage := .settled }
    else
      { d with
        lastError := (answer attempt).error
        stage := if attempt < maxAttempts - 1 then .backingOff attempt (now + 1000 * 2 ^ attempt) else .writing }
  | _ => d

def Delivery.fire (d : Delivery) (now : Nat) : Delivery :=
  match d.stage with
  | .backingOff attempt due =>
    if due ≤ now then
      { d with
        stage := .sending (attempt + 1)
        sent := d.sent ++ [(now, postRequest hmac d.hook d.payload)] }
    else d
  | _ => d

def Delivery.written (d : Delivery) (inserted : Bool) : Delivery :=
  match d.stage with
  | .writing =>
    { d with
      stage := .settled
      letters := if inserted then d.letters ++ [deadLetter d.hook d.payload d.lastError] else d.letters }
  | _ => d

def World.step (w : World) : Step → World
  | .register body inserted => { w with table := (postOrg w.table body inserted).2 }
  | .remove id executed => { w with table := (deleteOrg w.table id executed).2 }
  | .dispatch payload queried =>
    if queried then
      { w with
        deliveries := w.deliveries ++
          (w.table.rows.filter fun row => row.org_id = payload.org_id).map (Delivery.begin hmac w.now payload) }
    else w
  | .answer index =>
    { w with deliveries := w.deliveries.modify index fun d => d.answer w.now (answers index) }
  | .fire index => { w with deliveries := w.deliveries.modify index fun d => d.fire hmac w.now }
  | .written index => { w with deliveries := w.deliveries.modify index fun d => d.written (inserted index) }
  | .advance ms => { w with now := w.now + ms }

end Concurrent

section Alone
variable {request : PostRequest} {answer : Nat → Fetched} {first left : Nat} {lastError : String}

theorem attempts_exhausted (failed : ∀ j < left + 1, (answer (first + j)).delivered = false) :
    attempts request answer first (left + 1) lastError =
      (List.replicate (left + 1) request, some (answer (first + left)).error) := by
  induction left generalizing first lastError with
  | zero =>
    have once : (answer first).delivered = false := failed 0 (by omega)
    rw [attempts, once]
    rfl
  | succ left ih =>
    have once : (answer first).delivered = false := failed 0 (by omega)
    have rest := @ih (first + 1) (answer first).error fun j bound => by
      rw [Nat.add_right_comm, Nat.add_assoc]
      exact failed (j + 1) (by omega)
    rw [attempts]
    simp only [once, Bool.false_eq_true, if_false, rest]
    rw [Nat.add_right_comm, Nat.add_assoc]
    rfl

theorem attempts_delivered {k : Nat} (failed : ∀ j < k, (answer (first + j)).delivered = false)
    (done : (answer (first + k)).delivered = true) (bound : k < left) :
    attempts request answer first left lastError = (List.replicate (k + 1) request, none) := by
  induction k generalizing first left lastError with
  | zero =>
    obtain ⟨left, rfl⟩ := Nat.exists_eq_add_one_of_ne_zero (Nat.ne_of_gt bound)
    have once : (answer first).delivered = true := done
    rw [attempts, if_pos once]
    rfl
  | succ k ih =>
    obtain ⟨left, rfl⟩ := Nat.exists_eq_add_one_of_ne_zero (Nat.ne_of_gt (Nat.zero_lt_of_lt bound))
    have once : (answer first).delivered = false := failed 0 (by omega)
    have rest := @ih (first + 1) left (answer first).error (fun j inner => by
        rw [Nat.add_right_comm, Nat.add_assoc]
        exact failed (j + 1) (by omega))
      (by rwa [Nat.add_right_comm, Nat.add_assoc]) (by omega)
    rw [attempts]
    simp only [once, Bool.false_eq_true, if_false, rest]
    rfl

end Alone

section Proofs
variable {hmac : String → String → String} {answers : Nat → Nat → Fetched} {inserted : Nat → Bool}
  {answer : Nat → Fetched} {stored : Bool} {hook : OrgWebhook} {payload : WebhookPayload} {d : Delivery} {now : Nat}

/-- How far a delivery has come: its stage and last error, the number of its requests, and its dead letters. -/
inductive Reaches (answer : Nat → Fetched) (stored : Bool) (hook : OrgWebhook) (payload : WebhookPayload) :
    Stage → String → Nat → List DeadLetter → Prop
  | sending {a : Nat} {lastError : String} (bound : a < maxAttempts)
      (failed : ∀ j < a, (answer j).delivered = false) : Reaches answer stored hook payload (.sending a) lastError (a + 1) []
  | backingOff {a due : Nat} {lastError : String} (bound : a + 1 < maxAttempts)
      (failed : ∀ j < a + 1, (answer j).delivered = false) :
      Reaches answer stored hook payload (.backingOff a due) lastError (a + 1) []
  | writing (failed : ∀ j < maxAttempts, (answer j).delivered = false) :
      Reaches answer stored hook payload .writing (answer (maxAttempts - 1)).error maxAttempts []
  | delivered {a : Nat} {lastError : String} (bound : a < maxAttempts)
      (failed : ∀ j < a, (answer j).delivered = false) (done : (answer a).delivered = true) :
      Reaches answer stored hook payload .settled lastError (a + 1) []
  | exhausted {lastError : String} (failed : ∀ j < maxAttempts, (answer j).delivered = false) :
      Reaches answer stored hook payload .settled lastError maxAttempts
        (if stored then [deadLetter hook payload (answer (maxAttempts - 1)).error] else [])

/-- Each request leaves at least the delay of its place after the one before. -/
def Spaced (times : List Nat) : Prop :=
  ∀ i early late, times[i]? = some early → times[i + 1]? = some late → early + 1000 * 2 ^ i ≤ late

/-- What holds of a delivery throughout. -/
structure Delivery.Sound (hmac : String → String → String) (answer : Nat → Fetched) (stored : Bool) (now : Nat)
    (d : Delivery) : Prop where
  reaches : Reaches answer stored d.hook d.payload d.stage d.lastError d.sent.length d.letters
  same : ∀ request ∈ d.sent, request.2 = postRequest hmac d.hook d.payload
  past : ∀ request ∈ d.sent, request.1 ≤ now
  spaced : Spaced (d.sent.map Prod.fst)
  waits : ∀ attempt due, d.stage = .backingOff attempt due → ∀ last ∈ d.sent.getLast?, last.1 + 1000 * 2 ^ attempt ≤ due

theorem Spaced.concat {times : List Nat} {t : Nat} (spaced : Spaced times)
    (after : ∀ last ∈ times.getLast?, last + 1000 * 2 ^ (times.length - 1) ≤ t) : Spaced (times ++ [t]) := by
  intro i early late first second
  have inside : i + 1 < (times ++ [t]).length := (List.getElem?_eq_some_iff.mp second).1
  rw [List.length_append, List.length_singleton] at inside
  rw [List.getElem?_append_left (by omega)] at first
  rcases Nat.lt_or_ge (i + 1) times.length with earlier | final
  · rw [List.getElem?_append_left earlier] at second
    exact spaced i early late first second
  · obtain rfl : i = times.length - 1 := by omega
    rw [List.getElem?_append_right final, Nat.sub_add_cancel (by omega), Nat.sub_self] at second
    cases second
    exact after early (by rw [List.getLast?_eq_getElem?]; exact first)

theorem begin_sound : (Delivery.begin hmac now payload hook).Sound hmac answer stored now where
  reaches := .sending (by decide) nofun
  same := by simp [Delivery.begin]
  past := by simp [Delivery.begin]
  spaced := by
    intro i early late _ second
    simp [Delivery.begin] at second
  waits := nofun

theorem Delivery.Sound.later (sound : d.Sound hmac answer stored now) (ms : Nat) :
    d.Sound hmac answer stored (now + ms) :=
  { sound with past := fun request member => Nat.le_add_right_of_le (sound.past request member) }

/-- A delivery that makes no request keeps its times. -/
theorem Delivery.Sound.quiet (sound : d.Sound hmac answer stored now) {stage : Stage} {lastError : String}
    {letters : List DeadLetter} (reaches : Reaches answer stored d.hook d.payload stage lastError d.sent.length letters)
    (waits : ∀ attempt due, stage = .backingOff attempt due → now + 1000 * 2 ^ attempt ≤ due) :
    ({ d with stage := stage, lastError := lastError, letters := letters } : Delivery).Sound hmac answer stored now where
  reaches := reaches
  same := sound.same
  past := sound.past
  spaced := sound.spaced
  waits := by
    intro attempt due backing last member
    have before := sound.past last (List.mem_of_mem_getLast? member)
    have enough := waits attempt due backing
    omega

theorem failed_upto {a : Nat} (failed : ∀ j < a, (answer j).delivered = false) (missed : (answer a).delivered = false) :
    ∀ j < a + 1, (answer j).delivered = false := by
  intro j inside
  rcases Nat.lt_succ_iff_lt_or_eq.mp inside with earlier | rfl
  · exact failed j earlier
  · exact missed

theorem sound_answer (sound : d.Sound hmac answer stored now) : (d.answer now answer).Sound hmac answer stored now := by
  have reaches := sound.reaches
  unfold Delivery.answer
  split
  · rename_i attempt stage
    rw [stage] at reaches
    generalize number : d.sent.length = n at reaches
    generalize d.letters = letters at reaches ⊢
    cases reaches with
    | sending bound failed =>
      split
      · rename_i done
        refine sound.quiet ?_ nofun
        rw [number]
        exact .delivered bound failed done
      · rename_i missed
        have more := failed_upto failed (Bool.eq_false_of_not_eq_true missed)
        split
        · rename_i again
          refine sound.quiet ?_ ?_
          · rw [number]
            exact .backingOff (by omega) more
          · rintro a due ⟨⟩
            exact Nat.le_refl _
        · rename_i last
          obtain rfl : attempt = maxAttempts - 1 := by omega
          refine sound.quiet ?_ nofun
          rw [number]
          exact .writing more
  · exact sound

theorem sound_written (sound : d.Sound hmac answer stored now) : (d.written stored).Sound hmac answer stored now := by
  have reaches := sound.reaches
  unfold Delivery.written
  split
  · rename_i stage
    rw [stage] at reaches
    generalize number : d.sent.length = n at reaches
    generalize d.letters = letters at reaches ⊢
    generalize d.lastError = lastError at reaches ⊢
    cases reaches with
    | writing failed =>
      refine sound.quiet ?_ nofun
      rw [number]
      exact .exhausted failed
  · exact sound

theorem sound_fire (sound : d.Sound hmac answer stored now) : (d.fire hmac now).Sound hmac answer stored now := by
  have reaches := sound.reaches
  unfold Delivery.fire
  split
  · rename_i attempt due stage
    have waited := sound.waits attempt due stage
    split
    · rename_i fired
      rw [stage] at reaches
      generalize number : d.sent.length = n at reaches
      generalize d.letters = letters at reaches ⊢
      cases reaches with
      | backingOff bound failed =>
        refine ⟨?_, ?_, ?_, ?_, nofun⟩
        · rw [List.length_append, List.length_singleton, number]
          exact .sending bound failed
        · intro request member
          rcases List.mem_append.mp member with old | new
          · exact sound.same request old
          · rw [List.mem_singleton.mp new]
        · intro request member
          rcases List.mem_append.mp member with old | new
          · exact sound.past request old
          · rw [List.mem_singleton.mp new]
        · rw [List.map_append, List.map_singleton]
          refine sound.spaced.concat ?_
          intro last member
          rw [List.getLast?_map] at member
          obtain ⟨request, latest, rfl⟩ := Option.map_eq_some_iff.mp member
          rw [List.length_map, number, Nat.add_sub_cancel]
          exact Nat.le_trans (waited request latest) fired
    · exact sound
  · exact sound

section Runs
variable {w : World}

/-- What every registered endpoint meets. -/
def OrgWebhook.Registered (hook : OrgWebhook) : Prop := Js.startsWith hook.url "https://" = true ∧ hook.secret ≠ ""

/-- What holds in every state. -/
structure World.Sound (hmac : String → String → String) (answers : Nat → Nat → Fetched) (inserted : Nat → Bool)
    (w : World) : Prop where
  registered : ∀ row ∈ w.table.rows, row.Registered
  delivery : ∀ (k : Nat) (d : Delivery), w.deliveries[k]? = some d → d.Sound hmac (answers k) (inserted k) w.now
  addressed : ∀ d ∈ w.deliveries, d.hook.Registered ∧ d.hook.org_id = d.payload.org_id

theorem postOrg_rows {table : HookTable} {body : RegisterBody} {stored : Bool} {row : OrgWebhook} :
    row ∈ (postOrg table body stored).2.rows ↔ (postOrg table body stored).1 = .ok row ∨ row ∈ table.rows := by
  have refused {answer : Nat × String} : row ∈ table.rows ↔ (Except.error answer : Except _ OrgWebhook) = .ok row ∨
      row ∈ table.rows := (or_iff_right fun same => by cases same).symm
  unfold postOrg
  split
  · exact refused
  split
  · exact refused
  split
  · exact refused
  split
  · exact refused
  · rw [List.mem_append, List.mem_singleton, Except.ok.injEq, or_comm, eq_comm]

theorem deleteOrg_rows {table : HookTable} {id : String} {executed : Bool} {row : OrgWebhook} :
    row ∈ (deleteOrg table id executed).2.rows ↔
      row ∈ table.rows ∧ ¬ (executed = true ∧ Js.parseInt id = some (row.id : Int)) := by
  unfold deleteOrg
  cases number : Js.parseInt id with
  | none => exact (and_iff_left fun removed => by cases removed.2).symm
  | some n =>
    cases executed with
    | false => exact (and_iff_left fun removed => by cases removed.1).symm
    | true =>
      dsimp only
      rw [if_neg (by decide : ¬ (!true) = true)]
      by_cases found : (table.rows.any fun row => row.id = n) = true
      · rw [if_pos found, List.mem_filter, decide_eq_true_iff]
        refine and_congr_right fun _ => not_congr ⟨fun same => ⟨rfl, congrArg some same.symm⟩, ?_⟩
        exact fun removed => (Option.some.inj removed.2).symm
      · rw [if_neg found]
        refine (and_iff_left_of_imp fun there removed => found ?_).symm
        rw [List.any_eq_true]
        exact ⟨row, there, decide_eq_true (Option.some.inj removed.2).symm⟩

theorem postOrg_registered {table : HookTable} {body : RegisterBody} {stored : Bool}
    (registered : ∀ row ∈ table.rows, row.Registered) : ∀ row ∈ (postOrg table body stored).2.rows, row.Registered := by
  unfold postOrg
  split
  · exact registered
  split
  · exact registered
  rename_i url given
  split
  · exact registered
  rename_i secret chosen
  split
  · exact registered
  intro row member
  rcases List.mem_append.mp member with old | new
  · exact registered row old
  · have https := (Option.filter_eq_some_iff.mp given).2
    have blank := (Option.filter_eq_some_iff.mp chosen).2
    rw [List.mem_singleton.mp new]
    refine ⟨https, ?_⟩
    rintro rfl
    exact absurd blank (by decide)

theorem deleteOrg_registered {table : HookTable} {id : String} {executed : Bool}
    (registered : ∀ row ∈ table.rows, row.Registered) : ∀ row ∈ (deleteOrg table id executed).2.rows, row.Registered :=
  fun row member => registered row (deleteOrg_rows.mp member).1

/-- A delivery of a list in which one has moved on is about the same as one that was there. -/
theorem origin_of_modify {deliveries : List Delivery} {k : Nat} {f : Delivery → Delivery}
    (address : ∀ d, (f d).hook = d.hook ∧ (f d).payload = d.payload) {d : Delivery}
    (there : d ∈ deliveries.modify k f) : ∃ old ∈ deliveries, d.hook = old.hook ∧ d.payload = old.payload := by
  obtain ⟨j, inside, rfl⟩ := List.mem_iff_getElem.mp there
  rw [List.length_modify] at inside
  refine ⟨deliveries[j], List.getElem_mem inside, ?_⟩
  rw [List.getElem_modify]
  split
  · exact address deliveries[j]
  · exact ⟨rfl, rfl⟩

/-- A step of one delivery leaves the others and the table as they are. -/
theorem World.Sound.modify (sound : w.Sound hmac answers inserted) {k : Nat} {f : Delivery → Delivery}
    (kept : ∀ d, d.Sound hmac (answers k) (inserted k) w.now → (f d).Sound hmac (answers k) (inserted k) w.now)
    (address : ∀ d, (f d).hook = d.hook ∧ (f d).payload = d.payload) :
    ({ w with deliveries := w.deliveries.modify k f } : World).Sound hmac answers inserted where
  registered := sound.registered
  delivery := by
    intro j d found
    rw [List.getElem?_modify] at found
    obtain ⟨old, before, rfl⟩ := Option.map_eq_some_iff.mp found
    have same := sound.delivery j old before
    split
    · rename_i here
      subst here
      exact kept old same
    · exact same
  addressed := by
    intro d member
    obtain ⟨old, before, hook, payload⟩ := origin_of_modify address member
    rw [hook, payload]
    exact sound.addressed old before

theorem answer_address (d : Delivery) (now : Nat) (answer : Nat → Fetched) :
    (d.answer now answer).hook = d.hook ∧ (d.answer now answer).payload = d.payload := by
  unfold Delivery.answer
  split
  · split <;> exact ⟨rfl, rfl⟩
  · exact ⟨rfl, rfl⟩

theorem fire_address (d : Delivery) (now : Nat) :
    (d.fire hmac now).hook = d.hook ∧ (d.fire hmac now).payload = d.payload := by
  unfold Delivery.fire
  split
  · split <;> exact ⟨rfl, rfl⟩
  · exact ⟨rfl, rfl⟩

theorem written_address (d : Delivery) (stored : Bool) :
    (d.written stored).hook = d.hook ∧ (d.written stored).payload = d.payload := by
  unfold Delivery.written
  split <;> exact ⟨rfl, rfl⟩

theorem sound_step (sound : w.Sound hmac answers inserted) (s : Step) :
    (w.step hmac answers inserted s).Sound hmac answers inserted := by
  cases s with
  | register body stored => exact { sound with registered := postOrg_registered sound.registered }
  | remove id executed => exact { sound with registered := deleteOrg_registered sound.registered }
  | dispatch payload queried =>
    rw [World.step]
    split
    · have fresh : ∀ d ∈ (w.table.rows.filter fun row => row.org_id = payload.org_id).map
          (Delivery.begin hmac w.now payload), ∃ row ∈ w.table.rows, row.org_id = payload.org_id ∧
            Delivery.begin hmac w.now payload row = d := by
        intro d member
        obtain ⟨row, chosen, begun⟩ := List.mem_map.mp member
        obtain ⟨there, named⟩ := List.mem_filter.mp chosen
        exact ⟨row, there, of_decide_eq_true named, begun⟩
      refine ⟨sound.registered, ?_, ?_⟩
      · intro k d found
        rw [List.getElem?_append] at found
        split at found
        · exact sound.delivery k d found
        · obtain ⟨row, _, _, rfl⟩ := fresh d (List.mem_of_getElem? found)
          exact begin_sound
      · intro d member
        rcases List.mem_append.mp member with old | new
        · exact sound.addressed d old
        · obtain ⟨row, there, named, rfl⟩ := fresh d new
          exact ⟨sound.registered row there, named⟩
    · exact sound
  | answer k => exact sound.modify (fun _ => sound_answer) fun d => answer_address d _ _
  | fire k => exact sound.modify (fun _ => sound_fire) fun d => fire_address d _
  | written k => exact sound.modify (fun _ => sound_written) fun d => written_address d _
  | advance ms =>
    exact { sound with delivery := fun k d found => (sound.delivery k d found).later ms }

theorem sound_exec (steps : List Step) :
    (Run.exec (World.step hmac answers inserted) .start steps).Sound hmac answers inserted := by
  have first : World.start.Sound hmac answers inserted := ⟨nofun, nofun, nofun⟩
  exact Run.exec_invariant first (fun _ s sound => sound_step sound s) steps

end Runs

section Outcomes

/-- All attempts fail, or one is the first that does not. -/
theorem failed_or_first (answer : Nat → Fetched) : (∀ j < maxAttempts, (answer j).delivered = false) ∨
    ∃ k < maxAttempts, (∀ j < k, (answer j).delivered = false) ∧ (answer k).delivered = true := by
  by_cases some_delivered : ∃ j, j < maxAttempts ∧ (answer j).delivered = true
  · have least := Nat.find_spec some_delivered
    refine Or.inr ⟨Nat.find some_delivered, least.1, ?_, least.2⟩
    intro j earlier
    have missed := Nat.find_min some_delivered earlier
    rw [not_and, Bool.not_eq_true] at missed
    exact missed (Nat.lt_trans earlier least.1)
  · refine Or.inl fun j bound => ?_
    rw [← Bool.not_eq_true]
    exact fun done => some_delivered ⟨j, bound, done⟩

theorem alone_exhausted (failed : ∀ j < maxAttempts, (answer j).delivered = false) :
    dispatchToWebhook hmac hook payload answer stored = (List.replicate maxAttempts (postRequest hmac hook payload),
      if stored then [deadLetter hook payload (answer (maxAttempts - 1)).error] else []) := by
  have each : ∀ j < 2 + 1, (answer (0 + j)).delivered = false := by
    intro j bound
    rw [Nat.zero_add]
    exact failed j bound
  have all := @attempts_exhausted (postRequest hmac hook payload) answer 0 2 "" each
  rw [dispatchToWebhook, maxAttempts, all]

theorem alone_delivered {k : Nat} (bound : k < maxAttempts) (failed : ∀ j < k, (answer j).delivered = false)
    (done : (answer k).delivered = true) : dispatchToWebhook hmac hook payload answer stored =
      (List.replicate (k + 1) (postRequest hmac hook payload), []) := by
  have each : ∀ j < k, (answer (0 + j)).delivered = false := by
    intro j earlier
    rw [Nat.zero_add]
    exact failed j earlier
  have last : (answer (0 + k)).delivered = true := by rwa [Nat.zero_add]
  have all := @attempts_delivered (postRequest hmac hook payload) answer 0 maxAttempts "" k each last bound
  rw [dispatchToWebhook, all]

theorem alone_of_settled {lastError : String} {n : Nat} {letters : List DeadLetter}
    (reaches : Reaches answer stored hook payload .settled lastError n letters) :
    dispatchToWebhook hmac hook payload answer stored = (List.replicate n (postRequest hmac hook payload), letters) := by
  cases reaches with
  | delivered bound failed done => exact alone_delivered bound failed done
  | exhausted failed => exact alone_exhausted failed

/-- While earlier attempts fail, the next one is made. -/
theorem alone_prefix {a : Nat} (bound : a < maxAttempts) (failed : ∀ j < a, (answer j).delivered = false) :
    List.replicate (a + 1) (postRequest hmac hook payload) <+:
      (dispatchToWebhook hmac hook payload answer stored).1 := by
  rcases failed_or_first answer with all | ⟨k, inside, earlier, done⟩
  · rw [alone_exhausted all]
    exact List.prefix_replicate_iff.mpr ⟨by rw [List.length_replicate]; omega, by rw [List.length_replicate]⟩
  · rw [alone_delivered inside earlier done]
    have upto : a ≤ k := by
      by_contra beyond
      rw [failed k (by omega)] at done
      cases done
    exact List.prefix_replicate_iff.mpr ⟨by rw [List.length_replicate]; omega, by rw [List.length_replicate]⟩

theorem prefix_of_reaches {stage : Stage} {lastError : String} {n : Nat} {letters : List DeadLetter}
    (reaches : Reaches answer stored hook payload stage lastError n letters) :
    List.replicate n (postRequest hmac hook payload) <+: (dispatchToWebhook hmac hook payload answer stored).1 := by
  cases reaches with
  | sending bound failed => exact alone_prefix bound failed
  | backingOff bound failed => exact alone_prefix (by omega) fun j earlier => failed j (by omega)
  | writing failed => rw [alone_exhausted failed]
  | delivered bound failed done => rw [alone_delivered bound failed done]
  | exhausted failed => rw [alone_exhausted failed]

theorem length_of_reaches {stage : Stage} {lastError : String} {n : Nat} {letters : List DeadLetter}
    (reaches : Reaches answer stored hook payload stage lastError n letters) : n ≤ maxAttempts := by
  cases reaches with
  | sending bound | backingOff bound | delivered bound => omega
  | writing | exhausted => exact Nat.le_refl _

theorem letters_of_reaches {stage : Stage} {lastError : String} {n : Nat} {letters : List DeadLetter}
    (reaches : Reaches answer stored hook payload stage lastError n letters) (open_still : stage ≠ .settled) :
    letters = [] := by
  cases reaches with
  | sending | backingOff | writing => rfl
  | delivered | exhausted => exact absurd rfl open_still

/-- Whatever else goes on, each delivery makes the requests that it would make alone, each after its delay, and writes
the dead letter that it would write alone, once it is settled and no sooner. -/
theorem deliveries_as_alone {steps : List Step} {k : Nat} {d : Delivery}
    (begun : (Run.exec (World.step hmac answers inserted) .start steps).deliveries[k]? = some d) :
    let alone := dispatchToWebhook hmac d.hook d.payload (answers k) (inserted k)
    d.sent.map Prod.snd <+: alone.1 ∧ Spaced (d.sent.map Prod.fst) ∧
      (if d.stage = .settled then d.sent.map Prod.snd = alone.1 ∧ d.letters = alone.2 else d.letters = []) := by
  intro alone
  have sound : d.Sound hmac (answers k) (inserted k) _ := (sound_exec steps).delivery k d begun
  have requests : d.sent.map Prod.snd = List.replicate d.sent.length (postRequest hmac d.hook d.payload) := by
    rw [List.eq_replicate_iff, List.length_map]
    refine ⟨rfl, ?_⟩
    intro request member
    obtain ⟨sent, there, rfl⟩ := List.mem_map.mp member
    exact sound.same sent there
  refine ⟨?_, sound.spaced, ?_⟩
  · rw [requests]
    exact prefix_of_reaches sound.reaches
  · split
    · rename_i ended
      have reaches := sound.reaches
      rw [ended] at reaches
      have same : alone = _ := alone_of_settled reaches
      rw [requests, same]
      exact ⟨rfl, rfl⟩
    · exact letters_of_reaches sound.reaches ‹_›

section Retried

/-- An endpoint is registered and told of an assignment; its first request fails and its second one does not. -/
def retriedSteps : List Step :=
  [.register ⟨some "acme", some "https://a.io", some "s"⟩ true,
    .dispatch ⟨"assignment.created", "acme", 7, "G1", 12, "2024-02-28T23:59:59.000Z"⟩ true, .answer 0, .advance 1000,
    .fire 0, .answer 0]

def secondAnswers (_ attempt : Nat) : Fetched := if attempt = 0 then .thrown "timeout" else .response true 204 ""

def retriedWorld : World := Run.exec (World.step (fun _ _ => "0") secondAnswers fun _ => true) .start retriedSteps

/-- Whether the first delivery has come to its end, and the times of its requests. -/
def firstDelivery (w : World) : Option (Bool × List Nat) :=
  w.deliveries[0]?.map fun d => (decide (d.stage = .settled), d.sent.map Prod.fst)

theorem retried_settles : firstDelivery retriedWorld = some (true, [0, 1000]) := by
  decide

end Retried

theorem retried_as_alone : ∃ d, retriedWorld.deliveries[0]? = some d ∧ d.sent.map Prod.fst = [0, 1000] ∧
    d.sent.map Prod.snd = (dispatchToWebhook (fun _ _ => "0") d.hook d.payload (secondAnswers 0) true).1 := by
  obtain ⟨d, begun, shape⟩ := Option.map_eq_some_iff.mp retried_settles
  obtain ⟨ended, times⟩ := Prod.mk.inj shape
  have alone := (deliveries_as_alone begun).2.2
  rw [if_pos (of_decide_eq_true ended)] at alone
  exact ⟨d, begun, times, alone.1⟩

theorem payload_valid (payload : WebhookPayload) : payload.toValue.Valid := by
  have words : ∀ name ∈ [units "event", units "org_id", units "issue_id", units "contributor", units "ledger",
      units "timestamp"], rank name = 2 ^ 32 - 1 := by
    intro name member
    simp only [List.mem_cons, List.not_mem_nil, or_false] at member
    rcases member with rfl | rfl | rfl | rfl | rfl | rfl <;> exact rank_word (by decide)
  have ordered : Ordered [units "event", units "org_id", units "issue_id", units "contributor", units "ledger",
      units "timestamp"] := ordered_words (by decide) words
  refine .object ordered ?_
  intro field member
  simp only [List.mem_cons, List.not_mem_nil, or_false] at member
  rcases member with rfl | rfl | rfl | rfl | rfl | rfl
  · exact .string _
  · exact .string _
  · exact ofRat_valid _
  · exact .string _
  · exact ofRat_valid _
  · exact .string _

/-- A receiver that checks signatures as this repository does takes what is sent to it. -/
theorem postRequest_accepted (set : hook.secret ≠ "") :
    let request := postRequest hmac hook payload
    (postGithub hmac (some hook.secret) (some request.signature) request.body).isOk := by
  obtain ⟨same, read, again⟩ := parse_stringify (payload_valid payload)
  refine (postGithub_isOk read).mpr ⟨set, ?_⟩
  rw [again]
  rfl

/-- The step is a registration that was accepted with the row. -/
def Registers (w : World) (s : Step) (row : OrgWebhook) : Prop :=
  ∃ body stored, s = .register body stored ∧ (postOrg w.table body stored).1 = .ok row

/-- The step is an executed removal by the row's number. -/
def Removes (s : Step) (row : OrgWebhook) : Prop :=
  ∃ id, s = .remove id true ∧ Js.parseInt id = some (row.id : Int)

theorem table_step (w : World) (s : Step) (row : OrgWebhook) :
    row ∈ (w.step hmac answers inserted s).table.rows ↔ Registers w s row ∨ row ∈ w.table.rows ∧ ¬ Removes s row := by
  cases s with
  | register body stored =>
    rw [World.step, postOrg_rows]
    constructor
    · rintro (made | old)
      · exact Or.inl ⟨body, stored, rfl, made⟩
      · exact Or.inr ⟨old, fun ⟨_, other, _⟩ => by cases other⟩
    · rintro (⟨_, _, same, made⟩ | ⟨old, _⟩)
      · cases same
        exact Or.inl made
      · exact Or.inr old
  | remove id executed =>
    rw [World.step, deleteOrg_rows]
    constructor
    · rintro ⟨old, kept⟩
      refine Or.inr ⟨old, ?_⟩
      rintro ⟨_, same, number⟩
      cases same
      exact kept ⟨rfl, number⟩
    · rintro (⟨_, _, other, _⟩ | ⟨old, kept⟩)
      · cases other
      · exact ⟨old, fun ⟨executed_now, number⟩ => kept ⟨id, by rw [executed_now], number⟩⟩
  | dispatch payload queried =>
    have same : (w.step hmac answers inserted (.dispatch payload queried)).table = w.table := by
      rw [World.step]
      split <;> rfl
    rw [same]
    refine ⟨fun old => Or.inr ⟨old, fun ⟨_, other, _⟩ => by cases other⟩, ?_⟩
    rintro (⟨_, _, other, _⟩ | ⟨old, _⟩)
    · cases other
    · exact old
  | answer | fire | written | advance =>
    refine ⟨fun old => Or.inr ⟨old, fun ⟨_, other, _⟩ => by cases other⟩, ?_⟩
    rintro (⟨_, _, other, _⟩ | ⟨old, _⟩)
    · cases other
    · exact old

/-- A row is there exactly if it was registered and has not been removed since. -/
theorem registered_iff {steps : List Step} {row : OrgWebhook} :
    row ∈ (Run.exec (World.step hmac answers inserted) .start steps).table.rows ↔
      ∃ before s after, steps = before ++ s :: after ∧
        Registers (Run.exec (World.step hmac answers inserted) .start before) s row ∧ ∀ later ∈ after, ¬ Removes later row :=
  Run.exec_iff_brought (fun w row => row ∈ w.table.rows) Registers Removes (fun _ => List.not_mem_nil) table_step

/-- Each delivery was begun by a dispatch that found its endpoint in the table. -/
theorem dispatched_of_begun {steps : List Step} {d : Delivery}
    (begun : d ∈ (Run.exec (World.step hmac answers inserted) .start steps).deliveries) :
    ∃ before after, steps = before ++ .dispatch d.payload true :: after ∧
      d.hook ∈ (Run.exec (World.step hmac answers inserted) .start before).table.rows := by
  induction steps using List.reverseRecOn generalizing d with
  | nil => cases begun
  | append_singleton steps s ih =>
    rw [Run.exec_concat] at begun
    have earlier {old : Delivery} (there : old ∈ (Run.exec (World.step hmac answers inserted) .start steps).deliveries)
        (same : d.hook = old.hook ∧ d.payload = old.payload) : ∃ before after,
        steps ++ [s] = before ++ .dispatch d.payload true :: after ∧
          d.hook ∈ (Run.exec (World.step hmac answers inserted) .start before).table.rows := by
      obtain ⟨before, after, split, found⟩ := ih there
      rw [same.1, same.2]
      exact ⟨before, after ++ [s], by rw [split, List.append_assoc, List.cons_append], found⟩
    cases s with
    | register | remove | advance => exact earlier begun ⟨rfl, rfl⟩
    | dispatch payload queried =>
      rw [World.step] at begun
      cases queried with
      | false => exact earlier begun ⟨rfl, rfl⟩
      | true =>
        rw [if_pos rfl] at begun
        rcases List.mem_append.mp begun with old | new
        · exact earlier old ⟨rfl, rfl⟩
        · obtain ⟨row, chosen, rfl⟩ := List.mem_map.mp new
          exact ⟨steps, [], rfl, (List.mem_filter.mp chosen).1⟩
    | answer k =>
      obtain ⟨old, there, same⟩ := origin_of_modify (fun d => answer_address d _ _) begun
      exact earlier there same
    | fire k =>
      obtain ⟨old, there, same⟩ := origin_of_modify (fun d => fire_address d _) begun
      exact earlier there same
    | written k =>
      obtain ⟨old, there, same⟩ := origin_of_modify (fun d => written_address d _) begun
      exact earlier there same

/-- Every call of `fetch` of every run goes over https to an endpoint that had been registered for the organisation of the
event, and had not been removed, when its dispatch asked for it, and a receiver that has its secret accepts the signature;
no delivery makes more than three, and one that has settled had its last answered well, or has had three fail and has left
its one dead letter, with the last error, if that was stored. -/
theorem requests_authentic {steps : List Step} {k : Nat} {d : Delivery}
    (begun : (Run.exec (World.step hmac answers inserted) .start steps).deliveries[k]? = some d) :
    d.hook.org_id = d.payload.org_id ∧
      (∃ opening s between after, steps = opening ++ s :: (between ++ .dispatch d.payload true :: after) ∧
        Registers (Run.exec (World.step hmac answers inserted) .start opening) s d.hook ∧
        ∀ later ∈ between, ¬ Removes later d.hook) ∧
      (∀ sent ∈ d.sent, sent.2.url = d.hook.url ∧ Js.startsWith sent.2.url "https://" = true ∧
        (postGithub hmac (some d.hook.secret) (some sent.2.signature) sent.2.body).isOk) ∧
      d.sent.length ≤ maxAttempts ∧
      (d.stage = .settled →
        (∃ j, j + 1 = d.sent.length ∧ (answers k j).delivered = true ∧ d.letters = []) ∨
          d.sent.length = maxAttempts ∧ (∀ j < maxAttempts, (answers k j).delivered = false) ∧
            d.letters = if inserted k then
              [deadLetter d.hook d.payload (answers k (maxAttempts - 1)).error] else []) := by
  have whole : World.Sound hmac answers inserted _ := sound_exec steps
  have sound := whole.delivery k d begun
  obtain ⟨⟨https, set⟩, org⟩ := whole.addressed d (List.mem_of_getElem? begun)
  have reaches := sound.reaches
  refine ⟨org, ?_, ?_, ?_, ?_⟩
  · obtain ⟨before, after, split, found⟩ := dispatched_of_begun (List.mem_of_getElem? begun)
    obtain ⟨opening, s, between, own, made, kept⟩ := registered_iff.mp found
    refine ⟨opening, s, between, after, ?_, made, kept⟩
    rw [split, own, List.append_assoc, List.cons_append]
  · intro sent member
    rw [sound.same sent member]
    exact ⟨rfl, https, postRequest_accepted set⟩
  · exact length_of_reaches reaches
  · intro ended
    rw [ended] at reaches
    generalize d.sent.length = n at reaches ⊢
    generalize d.letters = letters at reaches ⊢
    cases reaches with
    | @delivered a _ _ _ done => exact Or.inl ⟨a, rfl, done, rfl⟩
    | exhausted failed => exact Or.inr ⟨rfl, failed, rfl⟩

theorem retried_authentic : ∃ d, retriedWorld.deliveries[0]? = some d ∧ d.letters = [] := by
  obtain ⟨d, begun, shape⟩ := Option.map_eq_some_iff.mp retried_settles
  obtain ⟨ended, _⟩ := Prod.mk.inj shape
  refine ⟨d, begun, ?_⟩
  rcases (requests_authentic begun).2.2.2.2 (of_decide_eq_true ended) with ⟨_, _, _, nothing⟩ | ⟨_, failed, _⟩
  · exact nothing
  · exact absurd (failed 1 (by decide)) (by decide)

end Outcomes

end Proofs

end WebhookDispatcher

end WorkloadGovernor
