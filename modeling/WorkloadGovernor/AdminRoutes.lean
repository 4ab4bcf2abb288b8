import WorkloadGovernor.Builders
import WorkloadGovernor.Signature
import WorkloadGovernor.Lib.Run

namespace WorkloadGovernor
open Js

section Schemas

structure RegisterMaintainerBody where
  maintainer_address : String
  org_id : String
  sequence : String
  deriving DecidableEq, Repr

structure DeregisterMaintainerBody where
  maintainer_address : String
  org_id : String
  sequence : Option String
  deriving DecidableEq, Repr

structure RegisterOrgInput where
  github_org : String
  org_id : String
  maintainers : List String
  org_cap : Int
  deriving DecidableEq, Repr

def registerMaintainerBodySchema (body : Json) : Option RegisterMaintainerBody := do
  return {
    maintainer_address := ← zodString 1 none (body.field "maintainer_address")
    org_id := ← zodString 1 none (body.field "org_id")
    sequence := ← zodString 1 none (body.field "sequence") }

def deregisterMaintainerBodySchema (body : Json) : Option DeregisterMaintainerBody := do
  return {
    maintainer_address := ← zodString 1 none (body.field "maintainer_address")
    org_id := ← zodString 1 none (body.field "org_id")
    sequence := ← zodOptional (zodString 0 none) (body.field "sequence") }

/-- `/^G[A-Z2-7]+$/`. -/
def isStellarAddress (text : String) : Bool :=
  match text.toList with
  | 'G' :: rest => !rest.isEmpty && rest.all fun c => ('A' ≤ c ∧ c ≤ 'Z') ∨ ('2' ≤ c ∧ c ≤ '7')
  | _ => false

def stellarAddress (value : Option Json) : Option String := (zodString 50 (some 56) value).filter isStellarAddress

/-- `/^[a-zA-Z0-9_-]+$/`. -/
def isOrgId (text : String) : Bool :=
  !text.isEmpty && text.toList.all fun c => c.isAlphanum || c == '_' || c == '-'

def registerOrgSchema (body : Json) : Option RegisterOrgInput := do
  return {
    github_org := ← zodString 1 (some 100) (body.field "github_org")
    org_id := ← (zodString 1 (some 64) (body.field "org_id")).filter isOrgId
    maintainers := ← zodArray stellarAddress 1 10 (body.field "maintainers")
    org_cap := (← zodOptional (zodInt 1 20) (body.field "org_cap")).getD 4 }

end Schemas

structure RegisteredOrg where
  org_id : String
  github_org : String
  org_cap : Int
  deriving DecidableEq, Repr

structure PendingTransaction where
  admin_address : String
  org_id : String
  maintainer_address : String
  transaction_xdr : String
  deriving DecidableEq, Repr

/-- The columns of `ON CONFLICT (admin_address, maintainer_address, org_id)`. -/
def PendingTransaction.key (row : PendingTransaction) : String × String × String :=
  (row.admin_address, row.maintainer_address, row.org_id)

structure AdminDb where
  orgs : List RegisteredOrg
  pending : List PendingTransaction
  deriving DecidableEq, Repr

inductive AdminWrite where
  | insertOrg (row : RegisteredOrg)
  | deleteOrg (org_id : String)
  | insertPending (row : PendingTransaction)
  | updatePending (row : PendingTransaction)
  deriving DecidableEq, Repr

namespace AdminWrite

def apply (db : AdminDb) : AdminWrite → AdminDb
  | insertOrg row => { db with orgs := db.orgs ++ [row] }
  | deleteOrg org_id => { db with orgs := db.orgs.filter fun row => row.org_id ≠ org_id }
  | insertPending row => { db with pending := db.pending ++ [row] }
  | updatePending row => { db with pending := db.pending.map fun old => if old.key = row.key then row else old }

/-- A row comes or goes, rather than being written again. -/
def comesOrGoes : AdminWrite → Bool
  | updatePending _ => false
  | _ => true

end AdminWrite

/-- `INSERT … ON CONFLICT … DO UPDATE`. -/
def upsertPending (db : AdminDb) (row : PendingTransaction) : AdminWrite :=
  if row.key ∈ db.pending.map PendingTransaction.key then .updatePending row else .insertPending row

theorem upsertPending_comesOrGoes {db : AdminDb} {row : PendingTransaction} :
    (upsertPending db row).comesOrGoes = true ↔ row.key ∉ db.pending.map PendingTransaction.key := by
  rw [upsertPending]
  split
  · rename_i present
    exact iff_of_false Bool.false_ne_true (not_not.mpr present)
  · rename_i absent
    exact iff_of_true rfl absent

inductive AdminRoute where
  | postMaintainers
  | deleteMaintainers
  | postOrgs
  | unmatched
  deriving DecidableEq, Repr

structure AdminRequest where
  route : AdminRoute
  authorization : Option String
  body : Json

/-- What the world around the router answers while a request is handled: whether the GitHub
organisation exists (none if that cannot be found out), which of the queries succeed, how
the n-th call of `registerMaintainer` ends, and the message of whatever is thrown. -/
structure AdminWorld where
  nowSecs : Nat
  accountSequence : String
  validateOrg : Option Bool
  pendingStored : Bool
  orgsRead : Bool
  orgInserted : Bool
  orgDeleted : Bool
  registers : Nat → Bool
  exception : String

inductive AdminReply where
  | unauthorized
  | validationFailed
  | failed (error : String)
  | maintainerNotFound (maintainer_address org_id : String)
  | unsigned (xdr : String)
  | validationError
  | githubApiError (message : String)
  | invalidGithubOrg (github_org : String)
  | conflict (org_id : String)
  | contractError (maintainer message : String) (registered : List String)
  | registered (input : RegisterOrgInput)
  deriving DecidableEq, Repr

def AdminReply.status : AdminReply → Nat
  | unauthorized => 401
  | validationFailed | failed _ | validationError => 400
  | maintainerNotFound _ _ => 404
  | unsigned _ => 200
  | githubApiError _ | contractError _ _ _ => 502
  | invalidGithubOrg _ => 422
  | conflict _ => 409
  | registered _ => 201

/-- What a handler answers, if it does, and what it writes on the way. -/
structure Handled where
  reply : Option AdminReply
  writes : List AdminWrite
  deriving DecidableEq, Repr

section Handlers
variable (sdk : SignatureSdk) (contractId : String)

def postMaintainers (adminAddress : String) (body : Json) (world : AdminWorld) (db : AdminDb) : Handled :=
  match registerMaintainerBodySchema body with
  | none => ⟨some .validationFailed, []⟩
  | some input =>
    match registerMaintainerTx sdk.toTransactionSdk contractId world.nowSecs adminAddress input.maintainer_address
      input.org_id input.sequence with
    | none => ⟨some (.failed world.exception), []⟩
    | some tx =>
      let row : PendingTransaction := ⟨adminAddress, input.org_id, input.maintainer_address, sdk.toXDR (.tx tx)⟩
      if world.pendingStored then ⟨some (.unsigned row.transaction_xdr), [upsertPending db row]⟩
      else ⟨some (.failed world.exception), []⟩

/-- Only the answer tells that a maintainer may be none; nothing is stored. -/
def deleteMaintainers (adminAddress : String) (body : Json) (world : AdminWorld) : Handled :=
  match deregisterMaintainerBodySchema body with
  | none => ⟨some .validationFailed, []⟩
  | some input =>
    match deregisterMaintainerTx sdk.toTransactionSdk contractId world.nowSecs adminAddress input.maintainer_address
      input.org_id input.sequence world.accountSequence with
    | none =>
      if includes world.exception "MaintainerNotFound" || includes world.exception "error code=17" then
        ⟨some (.maintainerNotFound input.maintainer_address input.org_id), []⟩
      else ⟨some (.failed world.exception), []⟩
    | some tx => ⟨some (.unsigned (sdk.toXDR (.tx tx))), []⟩

/-- The calls of `registerMaintainer` in turn; a failed one ends the loop, with the
maintainer it was for and those registered so far. -/
def registerMaintainers (world : AdminWorld) (registered : List String) : List String → Option (String × List String)
  | [] => none
  | maintainer :: rest =>
    if world.registers registered.length then registerMaintainers world (registered ++ [maintainer]) rest
    else some (maintainer, registered)

/-- The queries of the second and third step are not inside a `try`: if one fails there is
no answer. -/
def postOrgs (body : Json) (world : AdminWorld) (db : AdminDb) : Handled :=
  match registerOrgSchema body with
  | none => ⟨some .validationError, []⟩
  | some input =>
    match world.validateOrg with
    | none => ⟨some (.githubApiError world.exception), []⟩
    | some false => ⟨some (.invalidGithubOrg input.github_org), []⟩
    | some true =>
      if world.orgsRead = false then ⟨none, []⟩
      else if input.org_id ∈ db.orgs.map RegisteredOrg.org_id then ⟨some (.conflict input.org_id), []⟩
      else if world.orgInserted = false then ⟨none, []⟩
      else
        let insert := AdminWrite.insertOrg ⟨input.org_id, input.github_org, input.org_cap⟩
        match registerMaintainers world [] input.maintainers with
        | none => ⟨some (.registered input), [insert]⟩
        | some (maintainer, registered) =>
          ⟨some (.contractError maintainer world.exception registered),
            insert :: if world.orgDeleted then [.deleteOrg input.org_id] else []⟩

def adminRouter (request : AdminRequest) (world : AdminWorld) (db : AdminDb) : Handled :=
  if request.route = .unmatched then ⟨none, []⟩
  else
    match signatureAuthMiddleware sdk request.authorization with
    | none => ⟨some .unauthorized, []⟩
    | some adminAddress =>
      match request.route with
      | .postMaintainers => postMaintainers sdk contractId adminAddress request.body world db
      | .deleteMaintainers => deleteMaintainers sdk contractId adminAddress request.body world
      | .postOrgs => postOrgs request.body world db
      | .unmatched => ⟨none, []⟩

def adminStep (db : AdminDb) (request : AdminRequest × AdminWorld) : AdminDb :=
  (adminRouter sdk contractId request.1 request.2 db).writes.foldl AdminWrite.apply db

end Handlers

section Outsiders
variable (sdk : SignatureSdk) (contractId : String)

/-- Some handler gets the request. -/
def LetThrough (request : AdminRequest) : Prop :=
  request.route ≠ .unmatched ∧ (signatureAuthMiddleware sdk request.authorization).isSome = true

/-- An `orgs` row or a `pending_transactions` row is inserted or deleted. -/
def Disturbs (db : AdminDb) (request : AdminRequest × AdminWorld) : Prop :=
  ∃ write ∈ (adminRouter sdk contractId request.1 request.2 db).writes, write.comesOrGoes = true

variable (admin : PublicKey) (observed : List String)

/-- The message stands in a header that has been observed. -/
def SaidBefore (message : List UInt8) : Prop :=
  ∃ header ∈ observed, ∃ signed, parseAuthHeader sdk (some header) = some signed ∧
    signed.messageBuffer sdk = some message

/-- Without the admin's key there is a signature under it only on a message that the admin
has signed before. -/
def Outsider (authorization : Option String) : Prop :=
  ∀ address message, SignedUnder sdk authorization address admin message → SaidBefore sdk observed message

/-- The header is signed under another key than the admin's, which it names itself, or it
repeats a message of the admin's. -/
def Impostor (authorization : Option String) (address : String) : Prop :=
  (∃ key message, key ≠ admin ∧ SignedUnder sdk authorization address key message) ∨
    ∃ message, SignedUnder sdk authorization address admin message ∧ SaidBefore sdk observed message

/-- `POST /maintainers` gets as far as a row there was none of before. -/
def InsertsPending (adminAddress : String) (body : Json) (world : AdminWorld) (db : AdminDb) : Prop :=
  ∃ input, registerMaintainerBodySchema body = some input ∧
    (registerMaintainerTx sdk.toTransactionSdk contractId world.nowSecs adminAddress input.maintainer_address
      input.org_id input.sequence).isSome = true ∧
    world.pendingStored = true ∧
    (adminAddress, input.maintainer_address, input.org_id) ∉ db.pending.map PendingTransaction.key

/-- `POST /orgs` gets as far as its `INSERT`, and that succeeds. -/
def InsertsOrg (body : Json) (world : AdminWorld) (db : AdminDb) : Prop :=
  ∃ input, registerOrgSchema body = some input ∧ world.validateOrg = some true ∧ world.orgsRead = true ∧
    input.org_id ∉ db.orgs.map RegisteredOrg.org_id ∧ world.orgInserted = true

def Inserts (adminAddress : String) (request : AdminRequest) (world : AdminWorld) (db : AdminDb) : Prop :=
  match request.route with
  | .postMaintainers => InsertsPending sdk contractId adminAddress request.body world db
  | .postOrgs => InsertsOrg request.body world db
  | .deleteMaintainers | .unmatched => False

variable {sdk contractId admin observed}

theorem signatureAuthMiddleware_iff_impostor {authorization : Option String}
    (outsider : Outsider sdk admin observed authorization) {address : String} :
    signatureAuthMiddleware sdk authorization = some address ↔ Impostor sdk admin observed authorization address := by
  rw [signatureAuthMiddleware_eq_some]
  constructor
  · rintro ⟨key, message, signed⟩
    by_cases own : key = admin
    · subst own
      exact Or.inr ⟨message, signed, outsider address message signed⟩
    · exact Or.inl ⟨key, message, own, signed⟩
  · rintro (⟨key, message, _, signed⟩ | ⟨message, signed, _⟩)
    · exact ⟨key, message, signed⟩
    · exact ⟨admin, message, signed⟩

theorem deleteMaintainers_writes (adminAddress : String) (body : Json) (world : AdminWorld) :
    (deleteMaintainers sdk contractId adminAddress body world).writes = [] := by
  rw [deleteMaintainers]
  split
  · rfl
  · split
    · split <;> rfl
    · rfl

theorem postMaintainers_disturbs_iff {adminAddress : String} {body : Json} {world : AdminWorld} {db : AdminDb} :
    (∃ write ∈ (postMaintainers sdk contractId adminAddress body world db).writes, write.comesOrGoes = true) ↔
      InsertsPending sdk contractId adminAddress body world db := by
  rw [InsertsPending, postMaintainers]
  cases registerMaintainerBodySchema body with
  | none => simp
  | some input =>
    simp only [Option.some.injEq, exists_eq_left']
    cases registerMaintainerTx sdk.toTransactionSdk contractId world.nowSecs adminAddress input.maintainer_address
        input.org_id input.sequence with
    | none => simp
    | some tx =>
      cases world.pendingStored with
      | false => simp
      | true => simp [upsertPending_comesOrGoes, PendingTransaction.key]

theorem postOrgs_disturbs_iff {body : Json} {world : AdminWorld} {db : AdminDb} :
    (∃ write ∈ (postOrgs body world db).writes, write.comesOrGoes = true) ↔ InsertsOrg body world db := by
  rw [InsertsOrg, postOrgs]
  cases registerOrgSchema body with
  | none => simp
  | some input =>
    simp only [Option.some.injEq, exists_eq_left']
    cases world.validateOrg with
    | none => simp
    | some found =>
      cases found with
      | false => simp
      | true =>
        cases world.orgsRead with
        | false => simp
        | true =>
          by_cases taken : input.org_id ∈ db.orgs.map RegisteredOrg.org_id
          · simp only [taken, Bool.true_eq_false, if_false, if_true, not_true_eq_false, false_and, and_false]
            exact iff_of_false (fun ⟨_, member, _⟩ => by cases member) not_false
          · cases world.orgInserted with
            | false => simp [taken]
            | true =>
              simp only [taken, Bool.true_eq_false, if_false, not_false_eq_true, and_self, iff_true]
              -- The row is there even where a failed registration takes it away again.
              cases registerMaintainers world [] input.maintainers <;> exact ⟨_, List.mem_cons_self, rfl⟩

/-- Behind the middleware it is the handler alone that decides. -/
theorem disturbs_iff {db : AdminDb} {request : AdminRequest} {world : AdminWorld} :
    Disturbs sdk contractId db (request, world) ↔ ∃ adminAddress,
      signatureAuthMiddleware sdk request.authorization = some adminAddress ∧
        Inserts sdk contractId adminAddress request world db := by
  obtain ⟨route, authorization, body⟩ := request
  rw [Disturbs, adminRouter]
  cases passed : signatureAuthMiddleware sdk authorization with
  | none => cases route <;> simp
  | some adminAddress =>
    cases route with
    | postMaintainers => simpa [Inserts] using postMaintainers_disturbs_iff
    | deleteMaintainers => simp [Inserts, deleteMaintainers_writes]
    | postOrgs => simpa [Inserts] using postOrgs_disturbs_iff
    | unmatched => simp [Inserts]

/-- The organisations are as they were, and so are the keys of the pending transactions. -/
structure SameRows (db after : AdminDb) : Prop where
  orgs : after.orgs = db.orgs
  pending : after.pending.map PendingTransaction.key = db.pending.map PendingTransaction.key

theorem sameRows_apply {start db : AdminDb} (same : SameRows start db) {write : AdminWrite}
    (stays : write.comesOrGoes = false) : SameRows start (write.apply db) := by
  cases write with
  | updatePending row =>
    refine ⟨same.orgs, ?_⟩
    rw [← same.pending, AdminWrite.apply, List.map_map]
    refine List.map_congr_left fun old _ => ?_
    by_cases own : old.key = row.key
    · rw [Function.comp_apply, if_pos own, own]
    · rw [Function.comp_apply, if_neg own]
  | insertOrg row => cases stays
  | deleteOrg org_id => cases stays
  | insertPending row => cases stays

theorem sameRows_step {start db : AdminDb} (same : SameRows start db) {request : AdminRequest × AdminWorld}
    (quiet : ¬ Disturbs sdk contractId db request) : SameRows start (adminStep sdk contractId db request) := by
  have each : ∀ write ∈ (adminRouter sdk contractId request.1 request.2 db).writes, write.comesOrGoes = false :=
    fun write member => Bool.eq_false_iff.mpr fun comes => quiet ⟨write, member, comes⟩
  have preserved : ∀ (db : AdminDb) (write : AdminWrite), write.comesOrGoes = false → SameRows start db →
      SameRows start (write.apply db) := fun _ _ stays kept => sameRows_apply kept stays
  exact Run.exec_invariant_of same preserved each

/-- Requests that insert and delete nothing leave every row in place. -/
theorem sameRows_exec {start : AdminDb} {requests : List (AdminRequest × AdminWorld)}
    (each : Run.EachStep (adminStep sdk contractId) start (fun db request => ¬ Disturbs sdk contractId db request)
      requests) : SameRows start (Run.exec (adminStep sdk contractId) start requests) := by
  induction requests using List.reverseRecOn with
  | nil => exact ⟨rfl, rfl⟩
  | append_singleton before request ih =>
    rw [Run.eachStep_concat] at each
    rw [Run.exec_concat]
    exact sameRows_step (ih each.1) each.2

theorem letThrough_iff {request : AdminRequest} (outsider : Outsider sdk admin observed request.authorization) :
    LetThrough sdk request ↔
      request.route ≠ .unmatched ∧ ∃ address, Impostor sdk admin observed request.authorization address := by
  rw [LetThrough, Option.isSome_iff_exists]
  exact and_congr_right fun _ => exists_congr fun _ => signatureAuthMiddleware_iff_impostor outsider

/-- The router is closed to senders without the admin's key exactly as far as they sign
under no key of their own and replay nothing; otherwise rows stay away only where the
handlers stop by themselves. While they do, the tables keep their rows. -/
theorem admin_routes_closed_iff {db : AdminDb} {requests : List (AdminRequest × AdminWorld)}
    (outsiders : ∀ request ∈ requests, Outsider sdk admin observed request.1.authorization) :
    ((∀ request ∈ requests, ¬ LetThrough sdk request.1) ↔ ∀ request ∈ requests, request.1.route ≠ .unmatched →
      ∀ address, ¬ Impostor sdk admin observed request.1.authorization address) ∧
    (Run.EachStep (adminStep sdk contractId) db (fun db request => ¬ Disturbs sdk contractId db request) requests ↔
      Run.EachStep (adminStep sdk contractId) db (fun db request => ∀ address,
        Impostor sdk admin observed request.1.authorization address →
          ¬ Inserts sdk contractId address request.1 request.2 db) requests) ∧
    (Run.EachStep (adminStep sdk contractId) db (fun db request => ¬ Disturbs sdk contractId db request) requests →
      SameRows db (Run.exec (adminStep sdk contractId) db requests)) := by
  refine ⟨?_, ?_, sameRows_exec⟩
  · refine forall₂_congr fun request member => ?_
    rw [letThrough_iff (outsiders request member), not_and, not_exists]
  · refine Run.eachStep_congr fun db request member => ?_
    rw [disturbs_iff, not_exists]
    refine forall_congr' fun address => ?_
    rw [signatureAuthMiddleware_iff_impostor (outsiders request member), not_and]

end Outsiders

section Sample

/-- A key pair of an outsider's, and a message signed with it. -/
def outsiderKey : PublicKey :=
  ⟨[215, 90, 152, 1, 130, 177, 10, 183, 213, 75, 254, 211, 201, 100, 7, 58, 14, 225, 114, 243, 218, 166, 35, 37,
    175, 2, 26, 104, 247, 7, 81, 26], rfl⟩

def outsiderAddress : String := "GDLVVGABQKYQVN6VJP7NHSLEA45A5YLS6PNKMIZFV4BBU2HXA5IRVHUR"

def signedMessage : List UInt8 := [114, 101, 103, 105, 115, 116, 101, 114, 45, 111, 114, 103]

def signatureText : String :=
  "U/tFZ/UqHgDwxNMsbbqhM8yV/lv39+55f8Jp3zVvMfEQSllth4ZMHDYYsYxUA/pZc9X0G99ddiJnO4HqohLmDA=="

def signatureBytes : List UInt8 :=
  [83, 251, 69, 103, 245, 42, 30, 0, 240, 196, 211, 44, 109, 186, 161, 51, 204, 149, 254, 91, 247, 247, 238, 121,
    127, 194, 105, 223, 53, 111, 49, 241, 16, 74, 89, 109, 135, 134, 76, 28, 54, 24, 177, 140, 84, 3, 250, 89, 115,
    213, 244, 27, 223, 93, 118, 34, 103, 59, 129, 234, 162, 18, 230, 12]

def encodedPayload : String :=
  "eyJhZG1pbl9hZGRyZXNzIjoiR0RMVlZHQUJRS1lRVk42VkpQN05IU0xFQTQ1QTVZTFM2UE5LTUlaRlY0QkJVMkhYQTVJUlZIVVIiLCJtZXNz" ++
  "YWdlIjoicmVnaXN0ZXItb3JnIiwic2lnbmF0dXJlIjoiVS90RlovVXFIZ0R3eE5Nc2JicWhNOHlWL2x2MzkrNTVmOEpwM3pWdk1mRVFTbGx0" ++
  "aDRaTUhEWVlzWXhVQS9wWmM5WDBHOTlkZGlKbk80SHFvaExtREE9PSJ9"

def outsiderPayload : Json :=
  .object [("admin_address", .string outsiderAddress), ("message", .string "register-org"),
    ("signature", .string signatureText)]

/-- The SDK as far as the outsider's header goes. -/
def outsiderSdk : SignatureSdk where
  toTransactionSdk := { sampleBuilderSdk with publicKey := sampleStrKey 'G' outsiderKey outsiderAddress }
  parsePayload := fun encoded =>
    if encoded = encodedPayload then some outsiderPayload else none
  bufferFrom := fun value encoding =>
    match value with
    | .string text =>
      if encoding = "base64" ∧ text = signatureText then some signatureBytes
      else if encoding = "utf-8" ∧ text = "register-org" then some signedMessage
      else none
    | _ => none
  detachedVerify := fun message signature key =>
    if signature.length = 64 then
      some (decide (message = signedMessage ∧ signature = signatureBytes ∧ key = outsiderKey))
    else none

/-- The admin's key is the first of all keys. -/
def storedAdmin : PublicKey := ⟨List.replicate 32 0, List.length_replicate⟩

theorem detachedVerify_outsiderSdk {message signature : List UInt8} {key : PublicKey}
    (verified : outsiderSdk.detachedVerify message signature key = some true) :
    message = signedMessage ∧ key = outsiderKey := by
  have length_ok : signature.length = 64 := by
    by_contra short
    simp [outsiderSdk, short] at verified
  simp only [outsiderSdk, length_ok, if_true, Option.some.injEq, decide_eq_true_eq] at verified
  exact ⟨verified.1, verified.2.2⟩

/-- No header at all is signed under the admin's key. -/
theorem outsider_of_outsiderSdk (authorization : Option String) : Outsider outsiderSdk storedAdmin [] authorization := by
  rintro address message ⟨signed, signature, _, _, _, _, _, verified⟩
  exact absurd (detachedVerify_outsiderSdk verified).2 (by decide)

def orgsRequest (authorization : Option String) : AdminRequest where
  route := .postOrgs
  authorization := authorization
  body := .object [("github_org", .string "stellar"), ("org_id", .string "stellar-oss"),
    ("maintainers", .array [.string outsiderAddress])]

/-- Everything the router asks for succeeds. -/
def willingWorld : AdminWorld where
  nowSecs := 0
  accountSequence := "1"
  validateOrg := some true
  pendingStored := true
  orgsRead := true
  orgInserted := true
  orgDeleted := true
  registers := fun _ => true
  exception := ""

theorem outsider_signed :
    SignedUnder outsiderSdk (some ("Bearer " ++ encodedPayload)) outsiderAddress outsiderKey signedMessage := by
  have parsed : outsiderSdk.parsePayload encodedPayload = some outsiderPayload := by
    simp only [outsiderSdk, if_true]
  have header := parseAuthHeader_bearer parsed (by simp [outsiderPayload])
  have named : outsiderPayload.field "admin_address" = some (.string outsiderAddress) := rfl
  have said : outsiderPayload.field "message" = some (.string "register-org") := rfl
  have given : outsiderPayload.field "signature" = some (.string signatureText) := rfl
  rw [named, said, given] at header
  have read : outsiderSdk.bufferFrom (.string "register-org") "utf-8" = some signedMessage := by
    simp [outsiderSdk]
  have attached : outsiderSdk.bufferFrom (.string signatureText) "base64" = some signatureBytes := by
    simp only [outsiderSdk, and_self, if_true]
  have verified : outsiderSdk.detachedVerify signedMessage signatureBytes outsiderKey = some true := by decide
  exact ⟨_, signatureBytes, header, rfl, sampleStrKey_decode _ _ _, read, attached, verified⟩

theorem outsider_passes :
    signatureAuthMiddleware outsiderSdk (some ("Bearer " ++ encodedPayload)) = some outsiderAddress :=
  signatureAuthMiddleware_eq_some.mpr ⟨outsiderKey, signedMessage, outsider_signed⟩

/-- If the key is the admin's and its header was observed, the message is one that was said before. -/
theorem saidBefore_signed : SaidBefore outsiderSdk ["Bearer " ++ encodedPayload] signedMessage := by
  obtain ⟨signed, _, parsed, _, _, read, _⟩ := outsider_signed
  exact ⟨_, List.mem_singleton_self _, signed, parsed, read⟩

theorem outsider_of_observed (authorization : Option String) :
    Outsider outsiderSdk outsiderKey ["Bearer " ++ encodedPayload] authorization := by
  rintro address message ⟨signed, signature, _, _, _, _, _, verified⟩
  obtain ⟨rfl, _⟩ := detachedVerify_outsiderSdk verified
  exact saidBefore_signed

/-- A request without a header, and two with the one header, for an organisation that is registered already. -/
def lateRequests : List (AdminRequest × AdminWorld) :=
  [(orgsRequest none, willingWorld), (orgsRequest (some ("Bearer " ++ encodedPayload)), willingWorld),
    (orgsRequest (some ("Bearer " ++ encodedPayload)), willingWorld)]

def registeredDb : AdminDb := ⟨[⟨"stellar-oss", "stellar", 4⟩], []⟩

/-- Whoever is let through, the organisation is there already. -/
theorem late_request_stopped (authorization : Option String) :
    adminStep outsiderSdk "" registeredDb (orgsRequest authorization, willingWorld) = registeredDb ∧
      ∀ address, ¬ Inserts outsiderSdk "" address (orgsRequest authorization) willingWorld registeredDb := by
  have body : (orgsRequest authorization).body = (orgsRequest none).body := rfl
  have matched : (orgsRequest authorization).route ≠ .unmatched := by
    intro same
    cases same
  constructor
  · have conflict : postOrgs (orgsRequest authorization).body willingWorld registeredDb =
        ⟨some (.conflict "stellar-oss"), []⟩ := by
      rw [body]
      decide
    rw [adminStep, adminRouter]
    dsimp only
    rw [if_neg matched]
    cases signatureAuthMiddleware outsiderSdk (orgsRequest authorization).authorization with
    | none => rfl
    | some adminAddress =>
      change (postOrgs (orgsRequest authorization).body willingWorld registeredDb).writes.foldl _ _ = _
      rw [conflict]
      rfl
  · rintro address ⟨input, accepted, _, _, absent, _⟩
    have read : registerOrgSchema (orgsRequest authorization).body =
        some ⟨"stellar", "stellar-oss", [outsiderAddress], 4⟩ := by
      rw [body]
      decide
    cases read.symm.trans accepted
    exact absent (List.mem_singleton_self _)

/-- Signed with a key of the sender's own, or replayed after the admin, the header is let through, and only the
handler keeps the rows as they are. -/
theorem late_requests_let_through :
    (¬ ∀ request ∈ lateRequests, ¬ LetThrough outsiderSdk request.1) ∧
      (¬ ∀ request ∈ lateRequests, request.1.route ≠ .unmatched → ∀ address,
        ¬ Impostor outsiderSdk outsiderKey ["Bearer " ++ encodedPayload] request.1.authorization address) ∧
      SameRows registeredDb (Run.exec (adminStep outsiderSdk "") registeredDb lateRequests) := by
  have signed := @admin_routes_closed_iff outsiderSdk "" storedAdmin [] registeredDb lateRequests
    fun request _ => outsider_of_outsiderSdk request.1.authorization
  have replayed := @admin_routes_closed_iff outsiderSdk "" outsiderKey ["Bearer " ++ encodedPayload] registeredDb
    lateRequests fun request _ => outsider_of_observed request.1.authorization
  have through : ¬ ∀ request ∈ lateRequests, ¬ LetThrough outsiderSdk request.1 := by
    rw [signed.1]
    intro closed
    refine closed _ (List.mem_cons_of_mem _ List.mem_cons_self) (by decide) outsiderAddress (Or.inl ?_)
    exact ⟨outsiderKey, signedMessage, by decide, outsider_signed⟩
  refine ⟨through, fun closed => through (replayed.1.mpr closed), signed.2.2 (signed.2.1.mpr ?_)⟩
  have stopped := late_request_stopped
  refine Run.eachStep_cons (fun address _ => (stopped _).2 address) ?_
  rw [(stopped none).1]
  refine Run.eachStep_cons (fun address _ => (stopped _).2 address) ?_
  rw [(stopped _).1]
  exact Run.eachStep_cons (fun address _ => (stopped _).2 address) Run.eachStep_nil

/-- An outsider signs a message with a key of their own and registers an organisation. -/
theorem outsider_registers_org :
    (∀ authorization, Outsider outsiderSdk storedAdmin [] authorization) ∧
    LetThrough outsiderSdk (orgsRequest (some ("Bearer " ++ encodedPayload))) ∧
    (adminRouter outsiderSdk "" (orgsRequest (some ("Bearer " ++ encodedPayload))) willingWorld ⟨[], []⟩).writes =
      [.insertOrg ⟨"stellar-oss", "stellar", 4⟩] := by
  refine ⟨outsider_of_outsiderSdk, ⟨by decide, ?_⟩, ?_⟩
  · rw [orgsRequest, outsider_passes]
    rfl
  · have passed : signatureAuthMiddleware outsiderSdk (orgsRequest (some ("Bearer " ++ encodedPayload))).authorization =
        some outsiderAddress := outsider_passes
    rw [adminRouter, passed, if_neg (by decide)]
    decide

end Sample

end WorkloadGovernor
