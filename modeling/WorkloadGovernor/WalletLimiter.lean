import Mathlib.Logic.Function.Basic
import WorkloadGovernor.Lib.FixedWindow
import WorkloadGovernor.Lib.Run

namespace WorkloadGovernor

namespace WalletLimiter

section Source

/-- A value of a request as `getWalletAddress` looks at it; `String` throws on some objects. -/
inductive Value where
  | nullish
  | falsy
  | truthy (spelled : Option String)
  deriving DecidableEq, Repr

/-- `query['wallet']` and `body?.wallet`. -/
structure LimiterRequest where
  query : Value
  body : Value
  deriving DecidableEq, Repr

/-- The inner option is what is returned; `none` if `String` throws. -/
def getWalletAddress (req : LimiterRequest) : Option (Option String) :=
  match if req.query = .nullish then req.body else req.query with
  | .truthy spelled => spelled.map some
  | _ => some none

def walletLimit : Nat := 10

def walletWindowMs : Nat := 60 * 1000

structure WindowEntry where
  count : Nat
  resetTime : Nat
  within : count ≤ walletLimit

structure Headers where
  limit : Nat
  remaining : Nat
  reset : Nat
  deriving DecidableEq, Repr

inductive Answer where
  | next (headers : Option Headers)
  | tooMany (headers : Headers) (retryAfter : Nat)
  | thrown
  deriving DecidableEq, Repr

/-- `walletLimitStore`. -/
abbrev Store : Type := String → Option WindowEntry

/-- The entry, or a new one if there is none or it has expired. -/
def renewed (entry : Option WindowEntry) (now : Nat) : WindowEntry :=
  match entry with
  | some entry => if now > entry.resetTime then ⟨0, now + walletWindowMs, Nat.zero_le _⟩ else entry
  | none => ⟨0, now + walletWindowMs, Nat.zero_le _⟩

/-- `Math.ceil(ms / 1000)`. -/
def ceilSeconds (ms : Nat) : Nat := (ms + 999) / 1000

def headersOf (entry : WindowEntry) : Headers :=
  ⟨walletLimit, walletLimit - entry.count, ceilSeconds entry.resetTime⟩

def retryAfter (entry : WindowEntry) (now : Nat) : Nat :=
  if ceilSeconds (entry.resetTime - now) > 0 then ceilSeconds (entry.resetTime - now) else walletWindowMs / 1000

/-- The limit check and the count. -/
def countRequest (entry : WindowEntry) (now : Nat) : WindowEntry × Answer :=
  if full : entry.count ≥ walletLimit then (entry, .tooMany (headersOf entry) (retryAfter entry now))
  else (⟨entry.count + 1, entry.resetTime, Nat.lt_of_not_le full⟩, .next (some (headersOf entry)))

/-- The wallet a request is counted for. -/
def walletOf (req : LimiterRequest) : Option String := (getWalletAddress req).join.filter (· ≠ "")

def walletLimiter (store : Store) (now : Nat) (req : LimiterRequest) : Store × Answer :=
  match getWalletAddress req with
  | none => (store, .thrown)
  | some address =>
    match address.filter (· ≠ "") with
    | none => (store, .next none)
    | some wallet =>
      let (entry, answer) := countRequest (renewed (store wallet) now) now
      (Function.update store wallet (some entry), answer)

def cleanupExpiredLimits (store : Store) (now : Nat) : Store :=
  fun wallet => (store wallet).filter fun entry => ¬ now > entry.resetTime

end Source

section Runs

inductive Event where
  | request (req : LimiterRequest)
  | cleanup

/-- An event and the time it happens at. -/
abbrev Timed : Type := Nat × Event

def step (store : Store) : Timed → Store
  | (now, .request req) => (walletLimiter store now req).1
  | (now, .cleanup) => cleanupExpiredLimits store now

/-- What a request of the wallet is answered. -/
def observe (wallet : String) (store : Store) : Timed → Option (Nat × Answer)
  | (now, .request req) => if walletOf req = some wallet then some (now, (walletLimiter store now req).2) else none
  | (_, .cleanup) => none

def requestTime (wallet : String) : Timed → Option Nat
  | (now, .request req) => if walletOf req = some wallet then some now else none
  | (_, .cleanup) => none

/-- The times of the wallet's requests. -/
def requests (wallet : String) (run : List Timed) : List Nat := run.filterMap (requestTime wallet)

/-- The wallet's requests, each with its answer. -/
def decisions (wallet : String) (run : List Timed) : List (Nat × Answer) :=
  Run.observed step (observe wallet) (fun _ => none) run

def passedTime : Nat × Answer → Option Nat
  | (now, .next _) => some now
  | _ => none

def passed (answered : List (Nat × Answer)) : List Nat := answered.filterMap passedTime

def Ordered (run : List Timed) : Prop := (run.map Prod.fst).Pairwise (· ≤ ·)

/-- What the limiter is to guarantee for a wallet in a run. -/
structure SlidingWindow (wallet : String) (run : List Timed) : Prop where
  at_most : FixedWindow.AtMost walletLimit walletWindowMs (passed (decisions wallet run))
  own_requests : ∀ other, Ordered other → requests wallet other = requests wallet run →
    decisions wallet other = decisions wallet run
  refused_full : ∀ before now headers retry, before ++ [(now, .tooMany headers retry)] <+: decisions wallet run →
    walletLimit ≤ (passed before).countP fun t => now ≤ t + walletWindowMs

end Runs

section Proofs
variable {wallet : String} {store : Store} {run : List Timed} {own : Option WindowEntry} {times : List Nat}

@[simp] theorem renewed_none (now : Nat) : renewed none now = ⟨0, now + walletWindowMs, Nat.zero_le _⟩ := rfl

theorem renewed_some_of_le {entry : WindowEntry} {now : Nat} (live : now ≤ entry.resetTime) :
    renewed (some entry) now = entry := if_neg (Nat.not_lt.mpr live)

theorem renewed_some_of_lt {entry : WindowEntry} {now : Nat} (expired : entry.resetTime < now) :
    renewed (some entry) now = renewed none now := if_pos expired

/-- The answers to one wallet's requests alone. -/
def answers : Option WindowEntry → List Nat → List (Nat × Answer)
  | _, [] => []
  | own, now :: rest =>
    (now, (countRequest (renewed own now) now).2) :: answers (some (countRequest (renewed own now) now).1) rest

/-- A cleanup takes away only what is renewed anyway. -/
theorem renewed_cleanup {now later : Nat} (after : now ≤ later) :
    renewed (cleanupExpiredLimits store now wallet) later = renewed (store wallet) later := by
  rw [cleanupExpiredLimits]
  cases store wallet with
  | none => rfl
  | some entry =>
    by_cases expired : now > entry.resetTime
    · rw [Option.filter_some, if_neg (by simpa using expired), renewed_some_of_lt (by omega)]
    · rw [Option.filter_some, if_pos (by simpa using expired)]

theorem walletLimiter_of_wallet {now : Nat} {req : LimiterRequest} (counted : walletOf req = some wallet) :
    walletLimiter store now req = (Function.update store wallet (some (countRequest (renewed (store wallet) now) now).1),
      (countRequest (renewed (store wallet) now) now).2) := by
  unfold walletOf at counted
  unfold walletLimiter
  cases got : getWalletAddress req with
  | none => simp [got] at counted
  | some address =>
    rw [got, Option.join_some] at counted
    simp only [counted]

/-- A request leaves the entries of other wallets alone. -/
theorem walletLimiter_other {now : Nat} {req : LimiterRequest} (other : walletOf req ≠ some wallet) :
    (walletLimiter store now req).1 wallet = store wallet := by
  cases counted : walletOf req with
  | some theirs =>
    rw [walletLimiter_of_wallet counted]
    refine Function.update_of_ne (fun same => other ?_) _ _
    rw [counted, same]
  | none =>
    unfold walletOf at counted
    unfold walletLimiter
    cases got : getWalletAddress req with
    | none => rfl
    | some address =>
      rw [got, Option.join_some] at counted
      simp only [counted]

/-- What a run answers a wallet depends on the wallet's own requests. -/
theorem observed_eq_answers {start : Nat} (ordered : Ordered run) (later : ∀ event ∈ run, start ≤ event.1)
    (agrees : ∀ now, start ≤ now → renewed (store wallet) now = renewed own now) :
    Run.observed step (observe wallet) store run = answers own (requests wallet run) := by
  induction run generalizing start store own with
  | nil => rfl
  | cons event rest ih =>
    obtain ⟨now, event⟩ := event
    obtain ⟨least, ordered_rest⟩ := List.pairwise_cons.mp ordered
    have from_now : ∀ event ∈ rest, now ≤ event.1 := fun event member => least event.1 (List.mem_map_of_mem member)
    have begun : start ≤ now := later _ List.mem_cons_self
    rw [Run.observed, requests]
    cases event with
    | cleanup =>
      rw [List.filterMap_cons_none rfl]
      refine ih ordered_rest from_now fun later after => ?_
      rw [← agrees later (by omega)]
      exact renewed_cleanup after
    | request req =>
      by_cases mine : walletOf req = some wallet
      · have timed : requestTime wallet (now, .request req) = some now := if_pos mine
        rw [List.filterMap_cons_some timed, answers, ← agrees now begun, observe, if_pos mine, step,
          walletLimiter_of_wallet mine]
        refine congrArg _ (ih ordered_rest from_now fun later _ => ?_)
        dsimp only
        rw [Function.update_self]
      · have untimed : requestTime wallet (now, .request req) = none := if_neg mine
        rw [List.filterMap_cons_none untimed, observe, if_neg mine]
        refine ih ordered_rest from_now fun later after => ?_
        rw [← agrees later (by omega), step, walletLimiter_other mine]

theorem decisions_eq_answers (ordered : Ordered run) : decisions wallet run = answers none (requests wallet run) :=
  observed_eq_answers ordered (fun _ _ => Nat.zero_le _) fun _ _ => rfl

theorem requests_sorted (ordered : Ordered run) : (requests wallet run).Pairwise (· ≤ ·) := by
  refine List.Pairwise.filterMap _ ?_ (List.pairwise_map.mp ordered)
  rintro ⟨now, event⟩ ⟨later, event'⟩ before _ first _ second
  cases event with
  | cleanup => cases first
  | request req =>
    cases event' with
    | cleanup => cases second
    | request req' =>
      cases (Option.ite_none_right_eq_some.mp first).2
      cases (Option.ite_none_right_eq_some.mp second).2
      exact before

theorem countRequest_resetTime (entry : WindowEntry) (now : Nat) :
    (countRequest entry now).1.resetTime = entry.resetTime := by
  rw [countRequest]
  split <;> rfl

/-- What passes, and how the count goes with it. -/
theorem passed_countRequest (entry : WindowEntry) (now : Nat) :
    passed [(now, (countRequest entry now).2)] = [now].take (walletLimit - entry.count) ∧
      (countRequest entry now).1.count = entry.count + (passed [(now, (countRequest entry now).2)]).length := by
  rw [countRequest]
  have within := entry.within
  split
  · rename_i full
    rw [Nat.sub_eq_zero_of_le full]
    exact ⟨rfl, rfl⟩
  · rename_i short
    rw [List.take_of_length_le (by simp; omega)]
    exact ⟨rfl, rfl⟩

theorem passed_cons (answered : Nat × Answer) (rest : List (Nat × Answer)) :
    passed (answered :: rest) = passed [answered] ++ passed rest := List.filterMap_append (l := [answered])

/-- Until the entry expires its count fills up. -/
theorem passed_answers_some (entry : WindowEntry) (times : List Nat) : passed (answers (some entry) times) =
    (times.takeWhile (· ≤ entry.resetTime)).take (walletLimit - entry.count) ++
      passed (answers none (times.dropWhile (· ≤ entry.resetTime))) := by
  induction times generalizing entry with
  | nil => simp [answers, passed]
  | cons now rest ih =>
    by_cases live : now ≤ entry.resetTime
    · obtain ⟨first, count⟩ := passed_countRequest entry now
      have same := countRequest_resetTime entry now
      have within := entry.within
      rw [answers, renewed_some_of_le live, passed_cons, ih, same, List.takeWhile_cons_of_pos (by simpa using live),
        List.dropWhile_cons_of_pos (by simpa using live), ← List.append_assoc, count, first]
      congr 1
      rcases Nat.lt_or_eq_of_le within with short | full
      · obtain ⟨left, more⟩ : ∃ left, walletLimit - entry.count = left + 1 := ⟨walletLimit - entry.count - 1, by omega⟩
        have one : [now].take (left + 1) = [now] := List.take_of_length_le (by simp)
        have rest_left : walletLimit - (entry.count + 1) = left := by omega
        rw [more, one, List.length_singleton, rest_left, List.take_succ_cons, List.singleton_append]
      · simp [full]
    · rw [List.takeWhile_cons_of_neg (by simpa using live), List.dropWhile_cons_of_neg (by simpa using live),
        List.take_nil, List.nil_append, answers, answers, renewed_some_of_lt (by omega)]

/-- The first ten of each window pass. -/
theorem passed_answers (times : List Nat) :
    passed (answers none times) = FixedWindow.admitted walletLimit walletWindowMs times := by
  induction times using FixedWindow.windows.induct walletWindowMs with
  | case1 => rw [FixedWindow.admitted, FixedWindow.windows_nil]; rfl
  | case2 now rest ih =>
    obtain ⟨first, count⟩ := passed_countRequest (renewed none now) now
    rw [answers, passed_cons, passed_answers_some, countRequest_resetTime, FixedWindow.admitted_cons, ← ih,
      ← List.append_assoc, count, first]
    rfl

theorem renewed_resetTime_le {t : Nat} (recent : ∀ entry ∈ own, entry.resetTime ≤ t + walletWindowMs) :
    (renewed own t).resetTime ≤ t + walletWindowMs := by
  cases own with
  | none => exact Nat.le_refl _
  | some entry =>
    rw [renewed]
    split
    · exact Nat.le_refl _
    · exact recent entry rfl

/-- As long as an entry lasts its count is kept. -/
theorem renewed_count_le {t now : Nat} (live : now ≤ (renewed own t).resetTime) :
    (renewed own t).count ≤ (renewed own now).count := by
  cases own with
  | none => exact Nat.zero_le _
  | some entry =>
    rcases Nat.lt_or_ge entry.resetTime t with expired | lasting
    · rw [renewed_some_of_lt expired]
      exact Nat.zero_le _
    · rw [renewed_some_of_le lasting] at live ⊢
      rw [renewed_some_of_le live]

/-- Where a request is refused, the count has been reached by what passed in the window. -/
theorem full_of_refused {before : List (Nat × Answer)} {now retry : Nat} {headers : Headers}
    (sorted : times.Pairwise (· ≤ ·)) (recent : ∀ entry ∈ own, ∀ t ∈ times, entry.resetTime ≤ t + walletWindowMs)
    (refused : before ++ [(now, .tooMany headers retry)] <+: answers own times) :
    walletLimit ≤ (renewed own now).count + (passed before).countP fun t => now ≤ t + walletWindowMs := by
  induction times generalizing own before with
  | nil => simp [answers] at refused
  | cons t rest ih =>
    obtain ⟨least, sorted_rest⟩ := List.pairwise_cons.mp sorted
    rw [answers] at refused
    cases before with
    | nil =>
      obtain ⟨same, _⟩ := List.cons_prefix_cons.mp refused
      obtain ⟨rfl, turned_away⟩ := Prod.mk.inj same
      unfold countRequest at turned_away
      split at turned_away
      · rename_i full
        exact Nat.le_add_right_of_le full
      · cases turned_away
    | cons answered before =>
      obtain ⟨rfl, later⟩ := List.cons_prefix_cons.mp refused
      obtain ⟨first, count⟩ := passed_countRequest (renewed own t) t
      have same := countRequest_resetTime (renewed own t) t
      have bound := renewed_resetTime_le fun entry held => recent entry held t List.mem_cons_self
      have reached : walletLimit ≤ (renewed (some (countRequest (renewed own t) t).1) now).count +
          (passed before).countP fun t => now ≤ t + walletWindowMs := by
        refine ih sorted_rest ?_ later
        rintro _ ⟨⟩ t' member
        have after := least t' member
        omega
      rw [passed_cons, List.countP_append]
      rcases Nat.lt_or_ge (countRequest (renewed own t) t).1.resetTime now with expired | live
      · rw [renewed_some_of_lt expired, renewed_none] at reached
        dsimp only at reached
        omega
      · have counted : (passed [(t, (countRequest (renewed own t) t).2)]).countP (fun t => now ≤ t + walletWindowMs) =
            (passed [(t, (countRequest (renewed own t) t).2)]).length := by
          refine List.countP_eq_length.mpr fun passed_at member => ?_
          rw [first] at member
          rw [List.mem_singleton.mp (List.mem_of_mem_take member), decide_eq_true_eq]
          omega
        have kept : (renewed own t).count ≤ (renewed own now).count := renewed_count_le (by omega)
        rw [renewed_some_of_le live] at reached
        omega

/-- The wallet's requests fall into windows of 60 s, each beginning with the first request after the window before.
The limiter is a sliding window just when of the first ten of a window and the first ten of the next, the request ten
places after another comes at least 60 s later. -/
theorem sliding_window_iff (ordered : Ordered run) : SlidingWindow wallet run ↔
    (FixedWindow.windows walletWindowMs (requests wallet run)).IsChain fun first second =>
      FixedWindow.Spaced walletLimit walletWindowMs (first.take walletLimit ++ second.take walletLimit) := by
  have sorted : (requests wallet run).Pairwise (· ≤ ·) := requests_sorted ordered
  have same : decisions wallet run = answers none (requests wallet run) := decisions_eq_answers ordered
  rw [← FixedWindow.atMost_admitted_iff sorted, ← passed_answers, ← same]
  refine ⟨SlidingWindow.at_most, fun most => ⟨most, ?_, ?_⟩⟩
  · intro other ordered_other requests_same
    rw [same, decisions_eq_answers ordered_other, requests_same]
  · intro before now headers retry refused
    rw [same] at refused
    have reached := full_of_refused sorted (by simp) refused
    rw [renewed_none] at reached
    simpa using reached

section Examples

def request (wallet : String) : Event := .request ⟨.nullish, .truthy (some wallet)⟩

/-- One request at the start of a window, nine at its end and ten right afterwards. -/
def burst : List Timed :=
  (0, request "w") :: List.replicate 9 (60000, request "w") ++ List.replicate 10 (60001, request "w")

/-- Eleven requests of which one is refused, a cleanup, and one more when their window is over. -/
def crowd : List Timed :=
  List.replicate 11 (0, request "w") ++ [(30000, .cleanup), (60001, request "w")]

theorem crowd_windows : FixedWindow.windows walletWindowMs (requests "w" crowd) = [List.replicate 11 0, [60001]] := by
  have times : requests "w" crowd = List.replicate 11 0 ++ [60001] := by decide
  rw [times]
  simp [FixedWindow.windows_cons, List.replicate, walletWindowMs]

theorem crowd_spaced : SlidingWindow "w" crowd :=
  (sliding_window_iff (by unfold Ordered; decide)).mpr (by
    rw [crowd_windows, List.isChain_pair]
    intro i early late first second
    have inside := (List.getElem?_eq_some_iff.mp second).1
    obtain rfl : i = 0 := by
      simp [walletLimit] at inside
      omega
    cases first
    cases second
    decide)

theorem burst_passed : Ordered burst ∧
    (passed (decisions "w" burst)).countP (fun t => 60000 ≤ t ∧ t ≤ 60001) = 19 ∧ ¬ SlidingWindow "w" burst := by
  have passed_at : (passed (decisions "w" burst)).countP (fun t => 60000 ≤ t ∧ t ≤ 60001) = 19 := by decide +kernel
  refine ⟨by unfold Ordered; decide, passed_at, fun sliding => ?_⟩
  have bound := sliding.at_most 60000 60001 (by decide)
  rw [passed_at] at bound
  exact absurd bound (by decide)

end Examples

end Proofs

end WalletLimiter

end WorkloadGovernor
