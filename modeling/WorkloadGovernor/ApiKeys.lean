import WorkloadGovernor.Lib.Number
import WorkloadGovernor.Lib.Run
import WorkloadGovernor.RedisLimiter

namespace WorkloadGovernor

namespace ApiKeys
open Js RedisLimiter

section Source

/-- What `replace(/^Bearer\s+/i, '')` leaves of a header. -/
def stripBearer (header : String) : String :=
  let (scheme, rest) := header.toList.splitAt 6
  if scheme.map Char.toLower = "bearer".toList ∧ rest.head?.any isSpace then String.ofList (rest.dropWhile isSpace)
  else header

def requireAdmin (adminToken authorization : Option String) : Bool :=
  match truthy (authorization.map stripBearer) with
  | none => false
  | some token => some token = adminToken

structure ApiKeyRow where
  id : Nat
  key_hash : String
  label : String
  scopes : List String
  /-- In milliseconds, as every time here. -/
  expires_at : Option Nat
  deriving DecidableEq, Repr

/-- The table `api_keys`, and the last number its sequence gave. -/
structure Table where
  rows : List ApiKeyRow
  lastId : Nat
  deriving DecidableEq, Repr

def Table.empty : Table := ⟨[], 0⟩

/-- What becomes of a query: the database answers, it runs the query and the answer is lost, or the query does not
reach it. -/
inductive Delivery where
  | answered
  | lost (message : String)
  | refused (message : String)
  deriving DecidableEq, Repr

/-- The answer to a query, given what the database would answer and be afterwards. -/
def Delivery.of {α : Type} (delivery : Delivery) (before : Table) (run : Except String α × Table) :
    Except String α × Table :=
  match delivery with
  | .answered => run
  | .lost message => (.error message, run.2)
  | .refused message => (.error message, before)

def duplicateKey : String := "duplicate key value violates unique constraint \"api_keys_key_hash_key\""

/-- `INSERT INTO api_keys (…) VALUES (…) RETURNING id`: the sequence moves on also where the hash is taken. -/
def Table.insert (table : Table) (key_hash label : String) (scopes : List String) (expires_at : Option Nat) :
    Except String Nat × Table :=
  let id := table.lastId + 1
  if key_hash ∈ table.rows.map (·.key_hash) then (.error duplicateKey, { table with lastId := id })
  else (.ok id, ⟨table.rows ++ [⟨id, key_hash, label, scopes, expires_at⟩], id⟩)

/-- `DELETE FROM api_keys WHERE id = $1 RETURNING id, label`. -/
def Table.delete (table : Table) (id : Int) : Except String (List (Nat × String)) × Table :=
  (.ok ((table.rows.filter fun row => row.id = id).map fun row => (row.id, row.label)),
    { table with rows := table.rows.filter fun row => row.id ≠ id })

inductive Response where
  | unauthorized
  | labelRequired
  | created (key : String) (id : Nat) (expires_at : Nat)
  | invalidId
  | keyNotFound
  | noContent
  | internalError (message : String)
  deriving DecidableEq, Repr

def defaultTtlDays : Number := .finite 90

/-- `expiresAt.setDate(expiresAt.getDate() + ttl)` on a clock that runs in UTC; `none` is an invalid date. -/
def setDate (now : Nat) (ttl : Number) : Option Nat :=
  let date := (civil (now / 86400000)).2.2
  match (Number.finite date).add ttl with
  | .finite day =>
    let time := (now : Int) + (day.num.tdiv day.den - date) * 86400000
    if 0 ≤ time ∧ time ≤ 8640000000000000 then some time.toNat else none
  | _ => none

/-- The body of a request for a key. -/
structure CreateBody where
  label : Option String
  scopes : Option (List String)
  ttl_days : Option Number
  deriving DecidableEq

def CreateBody.ttl (body : CreateBody) : Number :=
  match body.ttl_days with
  | some ttl_days => if (Number.finite 0).lt ttl_days then ttl_days else defaultTtlDays
  | none => defaultTtlDays

/-- The first `INSERT`, which the database turns down where the date is none. -/
def Table.insertFull (table : Table) (key_hash label : String) (body : CreateBody) (expiresAt : Option Nat) :
    Except String Nat × Table :=
  match expiresAt with
  | some expiresAt => table.insert key_hash label (body.scopes.getD []) (some expiresAt)
  | none => (.error "invalid input syntax for type timestamp with time zone", table)

/-- The `INSERT` with every column, and where it fails the one for a table that might not have them yet. -/
def Table.store (table : Table) (key_hash label : String) (body : CreateBody) (expiresAt : Option Nat)
    (full base : Delivery) : Except String Nat × Table :=
  match full.of table (table.insertFull key_hash label body expiresAt) with
  | (.ok id, table) => (.ok id, table)
  | (.error _, table) => base.of table (table.insert key_hash label [] none)

variable (hashKey : String → String) (adminToken : Option String)

/-- `POST /api/api-keys`, given the random key it draws and what becomes of the two queries. -/
def postApiKey (now : Nat) (table : Table) (authorization : Option String) (body : CreateBody) (key : String)
    (full base : Delivery) : Response × Table :=
  if !requireAdmin adminToken authorization then (.unauthorized, table)
  else
    match truthy body.label with
    | none => (.labelRequired, table)
    | some label =>
      let expiresAt := setDate now body.ttl
      match table.store (hashKey key) label body expiresAt full base with
      | (.error message, table) => (.internalError message, table)
      | (.ok id, table) =>
        match expiresAt with
        | none => (.internalError "Invalid time value", table)
        | some expiresAt => (.created key id expiresAt, table)

/-- `DELETE /api/api-keys/:id`. -/
def deleteApiKey (table : Table) (authorization : Option String) (id : String) (delivery : Delivery) :
    Response × Table :=
  if !requireAdmin adminToken authorization then (.unauthorized, table)
  else
    match parseInt id with
    | none => (.invalidId, table)
    | some id =>
      match delivery.of table (table.delete id) with
      | (.error message, table) => (.internalError message, table)
      | (.ok [], table) => (.keyNotFound, table)
      | (.ok (_ :: _), table) => (.noContent, table)

structure ApiKeyContext where
  id : Nat
  label : String
  scopes : List String
  keyHash : String
  deriving DecidableEq, Repr

def lookupApiKey (table : Table) (raw : String) : Option ApiKeyRow :=
  table.rows.find? fun row => row.key_hash = hashKey raw

inductive Auth where
  | next (apiKey : Option ApiKeyContext) (remaining : Option Nat)
  | tooManyRequests (retryAfter : Int)
  | invalidApiKey (code : Option String)
  deriving DecidableEq, Repr

/-- What `apiKeyAuth` goes on with once it knows whom the request is counted for. -/
def limited (identifier : Identifier) (apiKey : Option ApiKeyContext) (check : LimitCheck) : Auth :=
  match RedisLimiter.apiKeyAuth identifier check with
  | .next remaining => .next apiKey remaining
  | .tooManyRequests retryAfter => .tooManyRequests retryAfter
  | .invalidApiKey => .invalidApiKey none

/-- `reachable` is whether the look-up is answered; `check` is what the limiter finds for whom the request is counted
for. -/
def apiKeyAuth (now : Nat) (table : Table) (authorization : Option String) (ip : String) (reachable : Bool)
    (check : Identifier → LimitCheck) : Auth :=
  match authorization.map stripBearer with
  | none => limited (.ip ip) none (check (.ip ip))
  | some raw =>
    if some raw = adminToken then .next none none
    else if !reachable then .invalidApiKey none
    else
      match lookupApiKey hashKey table raw with
      | none => .invalidApiKey none
      | some row =>
        if row.expires_at.any (· < now) then .invalidApiKey (some "key_expired")
        else limited (.key (hashKey raw)) (some ⟨row.id, row.label, row.scopes, hashKey raw⟩) (check (.key (hashKey raw)))

end Source

section Runs

structure World where
  now : Nat
  table : Table

def World.start (now : Nat) : World := ⟨now, .empty⟩

inductive Step where
  | create (authorization : Option String) (body : CreateBody) (key : String) (full base : Delivery)
  | revoke (authorization : Option String) (id : String) (delivery : Delivery)
  | advance (ms : Nat)

variable (hashKey : String → String) (adminToken : Option String)

def World.step (w : World) : Step → World
  | .create authorization body key full base =>
    { w with table := (postApiKey hashKey adminToken w.now w.table authorization body key full base).2 }
  | .revoke authorization id delivery =>
    { w with table := (deleteApiKey adminToken w.table authorization id delivery).2 }
  | .advance ms => { w with now := w.now + ms }

/-- The database runs the query, whether or not its answer comes back. -/
def Delivery.executed : Delivery → Bool
  | .refused _ => false
  | _ => true

/-- The row for a hash that is free: one without scopes and an end where only the second `INSERT` is run. -/
def storedRow (table : Table) (key_hash label : String) (body : CreateBody) (expiresAt : Option Nat)
    (full base : Delivery) : Option ApiKeyRow :=
  match if full.executed then expiresAt else none with
  | some expires_at => some ⟨table.lastId + 1, key_hash, label, body.scopes.getD [], some expires_at⟩
  | none => if base.executed then some ⟨table.lastId + 1, key_hash, label, [], none⟩ else none

/-- The row that a request for a key leaves in the table. -/
def World.stores (w : World) : Step → Option ApiKeyRow
  | .create authorization body key full base =>
    if requireAdmin adminToken authorization ∧ hashKey key ∉ w.table.rows.map (·.key_hash) then
      (truthy body.label).bind fun label =>
        storedRow w.table (hashKey key) label body (setDate w.now body.ttl) full base
    else none
  | _ => none

def Step.revokes : Step → Option Int
  | .revoke authorization id delivery =>
    if requireAdmin adminToken authorization ∧ delivery.executed then parseInt id else none
  | _ => none

/-- The hash of the key that a request draws. -/
def Step.draws : Step → Option String
  | .create _ _ key _ _ => some (hashKey key)
  | _ => none

/-- The row was stored in the run, and its number was not revoked after that. -/
def Standing (now : Nat) (steps : List Step) (row : ApiKeyRow) : Prop :=
  ∃ before step after, steps = before ++ step :: after ∧
    (Run.exec (World.step hashKey adminToken) (.start now) before).stores hashKey adminToken step = some row ∧
    ∀ later ∈ after, later.revokes adminToken ≠ some row.id

end Runs

section Reading

theorem civil_day_lt (days : Nat) : (civil days).2.2 < 2 ^ 20 := by
  simp only [civil]
  omega

/-- A whole number of days is added as it is. -/
theorem setDate_natCast {now days : Nat} (small : days < 2 ^ 52) : setDate now (.finite days) =
    if now + days * 86400000 ≤ 8640000000000000 then some (now + days * 86400000) else none := by
  have bound := civil_day_lt (now / 86400000)
  have sum : (Number.finite ((civil (now / 86400000)).2.2 : ℕ)).add (.finite days) =
      .finite (((civil (now / 86400000)).2.2 + days : ℕ) : ℚ) := by
    rw [Number.add_natCast, Number.ofRat_natCast (by omega)]
  unfold setDate
  simp only [sum]
  generalize (civil (now / 86400000)).2.2 = date
  have later : (now : Int) + (((date + days : ℕ) : ℚ).num.tdiv ((date + days : ℕ) : ℚ).den - date) * 86400000 =
      ((now + days * 86400000 : ℕ) : Int) := by
    rw [Rat.num_natCast, Rat.den_natCast, Nat.cast_one, Int.tdiv_one]
    push_cast
    ring
  have range : 0 ≤ ((now + days * 86400000 : ℕ) : Int) ∧ ((now + days * 86400000 : ℕ) : Int) ≤ 8640000000000000 ↔
      now + days * 86400000 ≤ 8640000000000000 := by omega
  simp only [later, range, Int.toNat_natCast]

end Reading

section Proofs
variable {hashKey : String → String} {adminToken authorization : Option String} {w : World} {table : Table}
  {row : ApiKeyRow} {key_hash label : String} {body : CreateBody} {expiresAt : Option Nat} {full base : Delivery}

/-- The hashes are unique. -/
def World.Keyed (w : World) : Prop := (w.table.rows.map (·.key_hash)).Nodup

theorem insert_of_taken {scopes : List String} {expires_at : Option Nat}
    (taken : key_hash ∈ table.rows.map (·.key_hash)) :
    table.insert key_hash label scopes expires_at = (.error duplicateKey, { table with lastId := table.lastId + 1 }) :=
  if_pos taken

theorem insert_of_free {scopes : List String} {expires_at : Option Nat}
    (free : key_hash ∉ table.rows.map (·.key_hash)) :
    table.insert key_hash label scopes expires_at = (.ok (table.lastId + 1),
      ⟨table.rows ++ [⟨table.lastId + 1, key_hash, label, scopes, expires_at⟩], table.lastId + 1⟩) :=
  if_neg free

/-- A hash that is taken stays as it is stored, whatever becomes of the queries. -/
theorem store_of_taken (taken : key_hash ∈ table.rows.map (·.key_hash)) :
    (∃ message, (table.store key_hash label body expiresAt full base).1 = .error message) ∧
      (table.store key_hash label body expiresAt full base).2.rows = table.rows := by
  cases expiresAt <;> cases full <;> cases base <;>
    simp [Table.store, Table.insertFull, Delivery.of, insert_of_taken, taken]

theorem store_of_free (free : key_hash ∉ table.rows.map (·.key_hash)) :
    (table.store key_hash label body expiresAt full base).2.rows =
      table.rows ++ (storedRow table key_hash label body expiresAt full base).toList := by
  cases expiresAt <;> cases full <;> cases base <;>
    simp [Table.store, Table.insertFull, Delivery.of, Delivery.executed, storedRow, insert_of_free free,
      insert_of_taken]

/-- What is answered with a number is a row with that number, which has the scopes and the end that were asked for
unless the second `INSERT` was needed. -/
theorem store_eq_ok {id expires_at : Nat}
    (done : (table.store key_hash label body (some expires_at) full base).1 = .ok id) :
    key_hash ∉ table.rows.map (·.key_hash) ∧ storedRow table key_hash label body (some expires_at) full base =
      some (if full = .answered then ⟨id, key_hash, label, body.scopes.getD [], some expires_at⟩
        else ⟨id, key_hash, label, [], none⟩) := by
  have free : key_hash ∉ table.rows.map (·.key_hash) := by
    intro taken
    have refused : ∃ message, (table.store key_hash label body (some expires_at) full base).1 = .error message :=
      (store_of_taken taken).1
    obtain ⟨message, failed⟩ := refused
    rw [failed] at done
    cases done
  refine ⟨free, ?_⟩
  cases full <;> cases base <;>
    simp_all [Table.store, Table.insertFull, Delivery.of, Delivery.executed, storedRow, insert_of_free free,
      insert_of_taken]

theorem create_rows {now : Nat} {key : String} :
    (postApiKey hashKey adminToken now table authorization body key full base).2.rows =
      match truthy body.label with
      | some label =>
        if requireAdmin adminToken authorization then
          (table.store (hashKey key) label body (setDate now body.ttl) full base).2.rows
        else table.rows
      | none => table.rows := by
  unfold postApiKey
  cases requireAdmin adminToken authorization with
  | false => cases truthy body.label <;> rfl
  | true =>
    cases truthy body.label with
    | none => rfl
    | some label =>
      simp only [Bool.not_true, Bool.false_eq_true, if_false, if_true]
      cases stored : table.store (hashKey key) label body (setDate now body.ttl) full base with
      | mk answer rest =>
        cases answer with
        | error message => rfl
        | ok id => cases setDate now body.ttl <;> rfl

theorem delete_rows {id : String} {delivery : Delivery} :
    (deleteApiKey adminToken table authorization id delivery).2.rows =
      table.rows.filter fun row => Step.revokes adminToken (.revoke authorization id delivery) ≠ some (row.id : Int) := by
  cases admin : requireAdmin adminToken authorization with
  | false => simp [deleteApiKey, Step.revokes, admin]
  | true =>
    cases read : parseInt id with
    | none => simp [deleteApiKey, Step.revokes, admin, read]
    | some number =>
      have other : ∀ row : ApiKeyRow, (row.id : Int) ≠ number ↔ some number ≠ some (row.id : Int) := by
        intro row
        rw [ne_comm, Ne, Ne, Option.some_inj]
      cases delivery with
      | refused message => simp [deleteApiKey, Step.revokes, admin, read, Delivery.of, Delivery.executed]
      | lost message =>
        simp [deleteApiKey, Step.revokes, admin, read, Delivery.of, Delivery.executed, Table.delete, other]
      | answered =>
        simp only [deleteApiKey, Step.revokes, admin, read, Delivery.of, Delivery.executed, Table.delete, other]
        cases (table.rows.filter fun row => row.id = number).map fun row => (row.id, row.label) <;> simp

theorem mem_step {s : Step} : row ∈ (w.step hashKey adminToken s).table.rows ↔
    w.stores hashKey adminToken s = some row ∨
      row ∈ w.table.rows ∧ ¬ s.revokes adminToken = some (row.id : Int) := by
  cases s with
  | create authorization body key full base =>
    rw [World.step, World.stores, create_rows]
    by_cases admin : requireAdmin adminToken authorization = true
    · cases truthy body.label with
      | none => simp [Step.revokes]
      | some label =>
        by_cases taken : hashKey key ∈ w.table.rows.map (·.key_hash)
        · simp only [admin, if_true, (store_of_taken taken).2]
          simp [taken, Step.revokes]
        · simp only [admin, if_true, store_of_free taken]
          simp [taken, Step.revokes, or_comm]
    · cases truthy body.label <;> simp [admin, Step.revokes]
  | revoke authorization id delivery =>
    simp [World.step, World.stores, delete_rows]
  | advance ms => simp [World.step, World.stores, Step.revokes]

theorem storedRow_key_hash (stored : storedRow table key_hash label body expiresAt full base = some row) :
    row.key_hash = key_hash := by
  unfold storedRow at stored
  split at stored
  · cases stored
    rfl
  · split at stored
    · cases stored
      rfl
    · cases stored

theorem keyed_step (keyed : w.Keyed) (s : Step) : (w.step hashKey adminToken s).Keyed := by
  unfold World.Keyed at keyed ⊢
  cases s with
  | create authorization body key full base =>
    rw [World.step, create_rows]
    split
    · split
      · rename_i label _ _
        by_cases taken : hashKey key ∈ w.table.rows.map (·.key_hash)
        · rwa [(store_of_taken taken).2]
        · rw [store_of_free taken, List.map_append]
          refine keyed.append ?_ ?_
          · cases storedRow w.table (hashKey key) label body (setDate w.now body.ttl) full base <;> simp
          · intro hash before added
            obtain ⟨row, member, rfl⟩ := List.mem_map.mp added
            rw [storedRow_key_hash (Option.mem_toList.mp member)] at before
            exact taken before
      · exact keyed
    · exact keyed
  | revoke authorization id delivery =>
    rw [World.step, delete_rows]
    exact keyed.sublist (List.filter_sublist.map _)
  | advance ms => exact keyed

theorem lookup_eq_some {raw : String} (keyed : w.Keyed) :
    lookupApiKey hashKey w.table raw = some row ↔ row ∈ w.table.rows ∧ row.key_hash = hashKey raw := by
  constructor
  · intro found
    exact ⟨List.mem_of_find?_eq_some found, by simpa using List.find?_some found⟩
  · rintro ⟨member, named⟩
    cases found : lookupApiKey hashKey w.table raw with
    | none => exact absurd named (by simpa using List.find?_eq_none.mp found row member)
    | some other =>
      have there : other ∈ w.table.rows := List.mem_of_find?_eq_some found
      have same : other.key_hash = row.key_hash := by
        rw [named]
        simpa using List.find?_some found
      exact congrArg some (List.inj_on_of_nodup_map keyed there member same)

section Lifetime
variable {start : Nat} {steps : List Step} {raw ip : String} {check : Identifier → LimitCheck} {remaining : Option Nat}

theorem mem_exec_iff : row ∈ (Run.exec (World.step hashKey adminToken) (.start start) steps).table.rows ↔
    Standing hashKey adminToken start steps row :=
  Run.exec_iff_brought (fun (w : World) row => row ∈ w.table.rows)
    (fun w s row => w.stores hashKey adminToken s = some row)
    (fun s row => s.revokes adminToken = some (row.id : Int)) (fun _ => List.not_mem_nil) (fun _ _ _ => mem_step)

theorem keyed_exec : (Run.exec (World.step hashKey adminToken) (.start start) steps).Keyed := by
  have first : (World.start start).Keyed := List.nodup_nil
  exact Run.exec_invariant first (fun _ s keyed => keyed_step keyed s) steps

/-- What a token that is not the administrator's is answered, by the row that stands for it. -/
theorem apiKeyAuth_presented {now : Nat} (presented : authorization.map stripBearer = some raw)
    (other : some raw ≠ adminToken) :
    apiKeyAuth hashKey adminToken now table authorization ip true check =
      match lookupApiKey hashKey table raw with
      | none => .invalidApiKey none
      | some row =>
        if row.expires_at.any (· < now) then .invalidApiKey (some "key_expired")
        else limited (.key (hashKey raw)) (some ⟨row.id, row.label, row.scopes, hashKey raw⟩)
          (check (.key (hashKey raw))) := by
  rw [apiKeyAuth, presented]
  simp only [other, if_false, Bool.not_true, Bool.false_eq_true]

theorem limited_eq_next {identifier : Identifier} {apiKey : Option ApiKeyContext} {limit : LimitCheck}
    {context : ApiKeyContext} (keyed : identifier = .key (hashKey raw)) :
    limited identifier apiKey limit = .next (some context) remaining ↔
      limit = .allowed remaining ∧ apiKey = some context := by
  subst keyed
  cases limit <;> simp [limited, RedisLimiter.apiKeyAuth, and_comm]

/-- A token that is not the administrator's is let through as the holder of a key exactly when the database and the
limiter let it and some key with its hash stands and has not expired. -/
theorem key_admitted_iff {reachable : Bool} {context : ApiKeyContext}
    (presented : authorization.map stripBearer = some raw) (other : some raw ≠ adminToken) :
    let w := Run.exec (World.step hashKey adminToken) (.start start) steps
    apiKeyAuth hashKey adminToken w.now w.table authorization ip reachable check = .next (some context) remaining ↔
      reachable = true ∧ check (.key (hashKey raw)) = .allowed remaining ∧
        ∃ row, Standing hashKey adminToken start steps row ∧ row.key_hash = hashKey raw ∧
          (∀ expires_at ∈ row.expires_at, w.now ≤ expires_at) ∧
          context = ⟨row.id, row.label, row.scopes, hashKey raw⟩ := by
  intro w
  cases reachable with
  | false =>
    rw [apiKeyAuth, presented]
    simp [other]
  | true =>
    have found : ∀ row, lookupApiKey hashKey w.table raw = some row ↔
        Standing hashKey adminToken start steps row ∧ row.key_hash = hashKey raw := fun row =>
      (lookup_eq_some keyed_exec).trans (and_congr_left fun _ => mem_exec_iff)
    rw [apiKeyAuth_presented presented other, eq_self_iff_true, true_and]
    cases looked : lookupApiKey hashKey w.table raw with
    | none =>
      refine iff_of_false (by simp) ?_
      rintro ⟨_, row, standing, named, _⟩
      rw [(found row).mpr ⟨standing, named⟩] at looked
      cases looked
    | some row =>
      obtain ⟨standing, named⟩ := (found row).mp looked
      have unexpired : row.expires_at.any (· < w.now) = false ↔ ∀ expires_at ∈ row.expires_at, w.now ≤ expires_at := by
        cases row.expires_at <;> simp
      dsimp only
      split
      · rename_i expired
        refine iff_of_false (by simp) ?_
        rintro ⟨_, row', standing', named', valid, _⟩
        have same : row = row' := Option.some.inj (looked.symm.trans ((found row').mpr ⟨standing', named'⟩))
        rw [← same, ← unexpired, expired] at valid
        cases valid
      · rename_i valid
        rw [limited_eq_next rfl, Option.some_inj]
        refine and_congr_right fun _ => ⟨?_, ?_⟩
        · rintro rfl
          exact ⟨row, standing, named, unexpired.mp (by simpa using valid), rfl⟩
        · rintro ⟨row', standing', named', _, rfl⟩
          have same : row = row' := Option.some.inj (looked.symm.trans ((found row').mpr ⟨standing', named'⟩))
          rw [same]

theorem stores_draws {s : Step} (stored : w.stores hashKey adminToken s = some row) :
    s.draws hashKey = some row.key_hash := by
  cases s with
  | create authorization body key full base =>
    simp only [World.stores, Option.ite_none_right_eq_some, Option.bind_eq_some_iff] at stored
    obtain ⟨_, label, _, stored⟩ := stored
    rw [Step.draws, storedRow_key_hash stored]
  | revoke authorization id delivery => cases stored
  | advance ms => cases stored

/-- Where no step draws its key again, a row is the only one with its hash until it is revoked. -/
theorem only_row {after : List Step} {row' : ApiKeyRow}
    (only : ∀ row', row' ∈ w.table.rows ∧ row'.key_hash = row.key_hash ↔ row' = row)
    (fresh : ∀ s ∈ after, s.draws hashKey ≠ some row.key_hash) :
    row' ∈ (Run.exec (World.step hashKey adminToken) w after).table.rows ∧ row'.key_hash = row.key_hash ↔
      row' = row ∧ ∀ s ∈ after, s.revokes adminToken ≠ some row.id := by
  induction after using List.reverseRecOn with
  | nil => simpa using only row'
  | append_singleton earlier s ih =>
    have before := ih fun s member => fresh s (List.mem_append_left _ member)
    have drawn := fresh s (by simp)
    rw [Run.exec_concat, mem_step]
    constructor
    · rintro ⟨stored | ⟨there, kept⟩, named⟩
      · rw [← named] at drawn
        exact absurd (stores_draws stored) drawn
      · obtain ⟨rfl, each⟩ := before.mp ⟨there, named⟩
        refine ⟨rfl, ?_⟩
        intro later member
        rcases List.mem_append.mp member with old | new
        · exact each later old
        · rwa [List.mem_singleton.mp new]
    · rintro ⟨rfl, each⟩
      obtain ⟨there, named⟩ := before.mpr ⟨rfl, fun s member => each s (List.mem_append_left _ member)⟩
      exact ⟨Or.inr ⟨there, each s (by simp)⟩, named⟩

/-- What is answered with a key is the key that was drawn, and its row is in the table. -/
theorem created_spec {key answered : String} {id expires_at : Nat}
    (issued : (postApiKey hashKey adminToken w.now w.table authorization body key full base).1 =
      .created answered id expires_at) :
    answered = key ∧ hashKey key ∉ w.table.rows.map (·.key_hash) ∧
      w.stores hashKey adminToken (.create authorization body key full base) =
        some (if full = .answered then ⟨id, hashKey key, body.label.getD "", body.scopes.getD [], some expires_at⟩
          else ⟨id, hashKey key, body.label.getD "", [], none⟩) := by
  unfold postApiKey at issued
  cases admin : requireAdmin adminToken authorization with
  | false => simp [admin] at issued
  | true =>
    cases labelled : truthy body.label with
    | none => simp [admin, labelled] at issued
    | some label =>
      simp only [admin, labelled, Bool.not_true, Bool.false_eq_true, if_false] at issued
      cases date : setDate w.now body.ttl with
      | none =>
        rw [date] at issued
        cases stored : w.table.store (hashKey key) label body none full base with
        | mk answer rest => cases answer <;> simp [stored] at issued
      | some time =>
        rw [date] at issued
        cases stored : w.table.store (hashKey key) label body (some time) full base with
        | mk answer rest =>
          cases answer with
          | error message => simp [stored] at issued
          | ok number =>
            simp only [stored] at issued
            cases issued
            obtain ⟨free, row⟩ := store_eq_ok (congrArg Prod.fst stored)
            have text : body.label.getD "" = label := by
              rw [(Option.filter_eq_some_iff.mp labelled).1, Option.getD_some]
            refine ⟨rfl, free, ?_⟩
            rw [text, ← row]
            simp only [World.stores, admin, free, labelled, date, not_false_eq_true, and_self, if_true, Option.bind_some]

section Issued

/-- The administrator asks for a key and leaves its time to the default. -/
def firstKey : Step := .create (some "Bearer root") ⟨some "ci", some ["read"], none⟩ "k1" .answered .answered

def firstRow : ApiKeyRow := ⟨1, "#k1", "ci", ["read"], some 7776000000⟩

theorem ninety_days : setDate 0 defaultTtlDays = some 7776000000 := by
  have added : setDate 0 (.finite (90 : ℕ)) = _ := setDate_natCast (by omega)
  exact added.trans (if_pos (by omega))

theorem root_required : requireAdmin (some "root") (some "Bearer root") = true := by decide

theorem firstKey_stored : (World.start 0).stores ("#" ++ ·) (some "root") firstKey = some firstRow := by
  simp only [World.stores, firstKey, root_required, World.start, CreateBody.ttl, ninety_days]
  rfl

end Issued

theorem first_key_admitted :
    let w := Run.exec (World.step ("#" ++ ·) (some "root")) (.start 0) [firstKey, .advance 1000]
    apiKeyAuth ("#" ++ ·) (some "root") w.now w.table (some "Bearer k1") "10.0.0.1" true (fun _ => .allowed (some 119)) =
      .next (some ⟨1, "ci", ["read"], "#k1"⟩) (some 119) := by
  have presented : (some "Bearer k1").map stripBearer = some "k1" := by decide
  have standing : Standing ("#" ++ ·) (some "root") 0 [firstKey, .advance 1000] firstRow :=
    ⟨[], firstKey, [.advance 1000], rfl, firstKey_stored, by simp [Step.revokes]⟩
  refine (key_admitted_iff presented (by decide)).mpr ⟨rfl, rfl, firstRow, standing, rfl, ?_, rfl⟩
  rintro expires_at ⟨⟩
  show 0 + 1000 ≤ 7776000000
  omega

/-- A key that was answered is good until its number is revoked, and past the end that was answered with it only where
the second `INSERT` was needed; nothing else in the run matters. -/
theorem issued_key_lifetime {before after : List Step} {creator : Option String} {key answered : String}
    {id expires_at : Nat} :
    let w := Run.exec (World.step hashKey adminToken) (.start start) before
    let create := Step.create creator body key full base
    let w' := Run.exec (World.step hashKey adminToken) (.start start) (before ++ create :: after)
    (postApiKey hashKey adminToken w.now w.table creator body key full base).1 = .created answered id expires_at →
    (∀ s ∈ after, s.draws hashKey ≠ some (hashKey key)) →
    authorization.map stripBearer = some answered → some key ≠ adminToken →
    check (.key (hashKey key)) = .allowed remaining →
    apiKeyAuth hashKey adminToken w'.now w'.table authorization ip true check =
      if ∃ s ∈ after, s.revokes adminToken = some (id : Int) then .invalidApiKey none
      else if full = .answered ∧ expires_at < w'.now then .invalidApiKey (some "key_expired")
      else .next (some ⟨id, body.label.getD "", if full = .answered then body.scopes.getD [] else [], hashKey key⟩)
        remaining := by
  intro w create w' issued fresh presented other allowed
  obtain ⟨rfl, free, stored⟩ := created_spec issued
  obtain ⟨row, same, shape⟩ : ∃ row, w.stores hashKey adminToken create = some row ∧ row =
      (if full = .answered then ⟨id, hashKey answered, body.label.getD "", body.scopes.getD [], some expires_at⟩
        else ⟨id, hashKey answered, body.label.getD "", [], none⟩ : ApiKeyRow) := ⟨_, stored, rfl⟩
  have hash : row.key_hash = hashKey answered := by
    rw [shape]
    split <;> rfl
  have number : row.id = id := by
    rw [shape]
    split <;> rfl
  have only : ∀ row', row' ∈ (w.step hashKey adminToken create).table.rows ∧ row'.key_hash = row.key_hash ↔
      row' = row := by
    intro row'
    rw [mem_step, same, Option.some_inj]
    constructor
    · rintro ⟨rfl | ⟨there, _⟩, named⟩
      · rfl
      · exact absurd (List.mem_map.mpr ⟨row', there, named.trans hash⟩) free
    · rintro rfl
      exact ⟨Or.inl rfl, rfl⟩
  rw [← hash] at fresh
  have later : w' = Run.exec (World.step hashKey adminToken) (w.step hashKey adminToken create) after :=
    Run.exec_append _ _ before (create :: after)
  have found : ∀ row', lookupApiKey hashKey w'.table answered = some row' ↔
      row' = row ∧ ∀ s ∈ after, s.revokes adminToken ≠ some (id : Int) := by
    intro row'
    have there : row' ∈ w'.table.rows ∧ row'.key_hash = row.key_hash ↔
        row' = row ∧ ∀ s ∈ after, s.revokes adminToken ≠ some (row.id : Int) := by
      rw [later]
      exact only_row only fresh
    rw [number, hash] at there
    exact (lookup_eq_some keyed_exec).trans there
  rw [apiKeyAuth_presented presented other]
  by_cases revoked : ∃ s ∈ after, s.revokes adminToken = some (id : Int)
  · have gone : lookupApiKey hashKey w'.table answered = none := by
      rw [Option.eq_none_iff_forall_ne_some]
      intro row' looked
      obtain ⟨s, member, taken⟩ := revoked
      exact ((found row').mp looked).2 s member taken
    rw [gone, if_pos revoked]
  · have stands : lookupApiKey hashKey w'.table answered = some row := by
      refine (found row).mpr ⟨rfl, ?_⟩
      intro s member taken
      exact revoked ⟨s, member, taken⟩
    rw [stands, if_neg revoked, shape, allowed]
    by_cases whole : full = .answered
    · simp only [whole, if_true, true_and, Option.any_some, decide_eq_true_eq]
      rfl
    · simp only [whole, if_false, false_and, Option.any_none, Bool.false_eq_true]
      rfl

theorem first_key_revoked :
    let w := Run.exec (World.step ("#" ++ ·) (some "root")) (.start 0)
      ([] ++ firstKey :: [.advance 1000, .revoke (some "Bearer root") "1" .answered])
    apiKeyAuth ("#" ++ ·) (some "root") w.now w.table (some "Bearer k1") "10.0.0.1" true (fun _ => .allowed (some 119)) =
      .invalidApiKey none := by
  have presented : (some "Bearer k1").map stripBearer = some "k1" := by decide
  have issued :
      let w := Run.exec (World.step ("#" ++ ·) (some "root")) (.start 0) []
      (postApiKey ("#" ++ ·) (some "root") w.now w.table (some "Bearer root") ⟨some "ci", some ["read"], none⟩ "k1"
        .answered .answered).1 = .created "k1" 1 7776000000 := by
    simp only [postApiKey, root_required, CreateBody.ttl, Run.exec_nil, World.start, ninety_days]
    rfl
  refine (issued_key_lifetime issued (by simp [Step.draws]) presented (by decide) rfl).trans
    (if_pos ⟨.revoke (some "Bearer root") "1" .answered, by simp, ?_⟩)
  simp only [Step.revokes, root_required]
  decide

end Lifetime

end Proofs

end ApiKeys

end WorkloadGovernor
