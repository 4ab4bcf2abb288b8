import WorkloadGovernor.AdminRoutes

namespace WorkloadGovernor
open Js

section Source

/-- The two stores that `POST /orgs` writes to: the database, and on chain who has been
authorised for which org, in the order of the calls. -/
structure OrgStores where
  db : AdminDb
  authorised : List (String × String)
  deriving DecidableEq, Repr

/-- `soroban.registerMaintainer`, which either registers and returns or throws. -/
def callRegisterMaintainer (world : AdminWorld) (call : Nat) (maintainer org_id : String) (stores : OrgStores) :
    Option OrgStores :=
  if world.registers call then some { stores with authorised := stores.authorised ++ [(maintainer, org_id)] } else none

/-- Step 4 with its rollback: the answer, if a call failed, and the stores it is given in. -/
def registerEach (world : AdminWorld) (org_id : String) (registered : List String) (stores : OrgStores) :
    List String → Option AdminReply × OrgStores
  | [] => (none, stores)
  | maintainer :: rest =>
    match callRegisterMaintainer world registered.length maintainer org_id stores with
    | some stores => registerEach world org_id (registered ++ [maintainer]) stores rest
    | none =>
      let rolledBack := if world.orgDeleted then (AdminWrite.deleteOrg org_id).apply stores.db else stores.db
      (some (.contractError maintainer world.exception registered), { stores with db := rolledBack })

/-- `POST /orgs` on both stores; without an answer where a query of step 2 or 3 fails. -/
def createOrg (body : Json) (world : AdminWorld) (stores : OrgStores) : Option AdminReply × OrgStores :=
  match registerOrgSchema body with
  | none => (some .validationError, stores)
  | some input =>
    match world.validateOrg with
    | none => (some (.githubApiError world.exception), stores)
    | some false => (some (.invalidGithubOrg input.github_org), stores)
    | some true =>
      if world.orgsRead = false then (none, stores)
      else if input.org_id ∈ stores.db.orgs.map RegisteredOrg.org_id then (some (.conflict input.org_id), stores)
      else if world.orgInserted = false then (none, stores)
      else
        let row : RegisteredOrg := ⟨input.org_id, input.github_org, input.org_cap⟩
        let inserted := { stores with db := (AdminWrite.insertOrg row).apply stores.db }
        match registerEach world input.org_id [] inserted input.maintainers with
        | (some failure, stores) => (some failure, stores)
        | (none, stores) => (some (.registered input), stores)

end Source

/-- Without a 201 the request leaves no trace; with one, the row and every authorisation
are there. -/
structure AllOrNothing (body : Json) (stores : OrgStores) (outcome : Option AdminReply × OrgStores) : Prop where
  untouched : outcome.1.map AdminReply.status ≠ some 201 →
    outcome.2.db.orgs = stores.db.orgs ∧ outcome.2.authorised = stores.authorised
  complete : outcome.1.map AdminReply.status = some 201 → ∃ input, registerOrgSchema body = some input ∧
    (∃ row ∈ outcome.2.db.orgs, row.org_id = input.org_id) ∧
    ∀ maintainer ∈ input.maintainers, (maintainer, input.org_id) ∈ outcome.2.authorised

/-- Where the request gets as far as its row, either every call succeeds, or already the
first one fails and the row can be deleted again. -/
def FailsEarly (body : Json) (world : AdminWorld) (db : AdminDb) : Prop :=
  InsertsOrg body world db → ∀ input, registerOrgSchema body = some input →
    (∀ call < input.maintainers.length, world.registers call = true) ∨
      world.registers 0 = false ∧ world.orgDeleted = true

section Calls
variable {world : AdminWorld} {org_id : String} {registered : List String} {stores : OrgStores}

/-- The stores once the maintainers are registered. -/
def OrgStores.grant (stores : OrgStores) (org_id : String) (maintainers : List String) : OrgStores :=
  { stores with authorised := stores.authorised ++ maintainers.map fun maintainer => (maintainer, org_id) }

/-- The row is taken away again, if that is possible. -/
def OrgStores.rollBack (stores : OrgStores) (world : AdminWorld) (org_id : String) : OrgStores :=
  { stores with db := if world.orgDeleted then (AdminWrite.deleteOrg org_id).apply stores.db else stores.db }

/-- The loop authorises the maintainers before the first call that fails, and only then
rolls back, or it authorises all of them. -/
theorem registerEach_cases (maintainers : List String) :
    (∀ call < maintainers.length, world.registers (registered.length + call) = true) ∧
      registerEach world org_id registered stores maintainers = (none, stores.grant org_id maintainers) ∨
    ∃ done maintainer rest, maintainers = done ++ maintainer :: rest ∧
      (∀ call < done.length, world.registers (registered.length + call) = true) ∧
      world.registers (registered.length + done.length) = false ∧
      registerEach world org_id registered stores maintainers =
        (some (.contractError maintainer world.exception (registered ++ done)),
          (stores.grant org_id done).rollBack world org_id) := by
  induction maintainers generalizing registered stores with
  | nil =>
    refine Or.inl ⟨fun call below => absurd below (Nat.not_lt_zero call), ?_⟩
    simp [registerEach, OrgStores.grant]
  | cons maintainer rest ih =>
    cases first : world.registers registered.length with
    | false =>
      refine Or.inr ⟨[], maintainer, rest, rfl, fun call below => absurd below (Nat.not_lt_zero call), first, ?_⟩
      simp [registerEach, callRegisterMaintainer, first, OrgStores.grant, OrgStores.rollBack]
    | true =>
      have loop : registerEach world org_id registered stores (maintainer :: rest) =
          registerEach world org_id (registered ++ [maintainer]) (stores.grant org_id [maintainer]) rest := by
        simp [registerEach, callRegisterMaintainer, first, OrgStores.grant]
      have regrant (more : List String) : (stores.grant org_id [maintainer]).grant org_id more =
          stores.grant org_id (maintainer :: more) := by
        simp [OrgStores.grant]
      have shift (call : Nat) : (registered ++ [maintainer]).length + call = registered.length + (call + 1) := by
        rw [List.length_append, List.length_singleton]
        omega
      rcases @ih (registered ++ [maintainer]) (stores.grant org_id [maintainer]) with
        ⟨all, same⟩ | ⟨done, failing, later, split, before, fails, same⟩
      · refine Or.inl ⟨fun call below => ?_, by rw [loop, same, regrant]⟩
        rcases call with _ | call
        · exact first
        · rw [← shift]
          exact all call (Nat.lt_of_succ_lt_succ below)
      · refine Or.inr ⟨maintainer :: done, failing, later, by rw [split]; rfl, fun call below => ?_, ?_, ?_⟩
        · rcases call with _ | call
          · exact first
          · rw [← shift]
            exact before call (Nat.lt_of_succ_lt_succ below)
        · rw [← fails, shift]
          rfl
        · rw [loop, same, regrant, List.append_assoc]
          rfl

end Calls

section Requests
variable {body : Json} {world : AdminWorld} {stores : OrgStores}

def OrgStores.insert (stores : OrgStores) (input : RegisterOrgInput) : OrgStores :=
  { stores with db := (AdminWrite.insertOrg ⟨input.org_id, input.github_org, input.org_cap⟩).apply stores.db }

/-- A request that does not get as far as its row touches nothing. -/
theorem createOrg_stopped (stops : ¬ InsertsOrg body world stores.db) :
    (createOrg body world stores).1.map AdminReply.status ≠ some 201 ∧ (createOrg body world stores).2 = stores := by
  unfold createOrg
  split
  · exact ⟨by simp [AdminReply.status], rfl⟩
  · rename_i input parsed
    split
    · exact ⟨by simp [AdminReply.status], rfl⟩
    · exact ⟨by simp [AdminReply.status], rfl⟩
    · rename_i found
      by_cases read : world.orgsRead = false
      · rw [if_pos read]
        exact ⟨by simp, rfl⟩
      · rw [if_neg read]
        by_cases taken : input.org_id ∈ stores.db.orgs.map RegisteredOrg.org_id
        · rw [if_pos taken]
          exact ⟨by simp [AdminReply.status], rfl⟩
        · rw [if_neg taken]
          by_cases lost : world.orgInserted = false
          · rw [if_pos lost]
            exact ⟨by simp, rfl⟩
          · exact absurd ⟨input, parsed, found, Bool.not_eq_false _ ▸ read, taken, Bool.not_eq_false _ ▸ lost⟩ stops

/-- Any other one goes through the loop with its row inserted. -/
theorem createOrg_inserted {input : RegisterOrgInput} (inserts : InsertsOrg body world stores.db)
    (parsed : registerOrgSchema body = some input) : input.org_id ∉ stores.db.orgs.map RegisteredOrg.org_id ∧
      createOrg body world stores =
        match registerEach world input.org_id [] (stores.insert input) input.maintainers with
        | (some failure, stores) => (some failure, stores)
        | (none, stores) => (some (.registered input), stores) := by
  obtain ⟨same, parsed', found, read, fresh, inserted⟩ := inserts
  cases parsed.symm.trans parsed'
  refine ⟨fresh, ?_⟩
  simp only [createOrg, parsed, found, read, inserted, if_neg fresh, Bool.true_eq_false, if_false]
  rfl

/-- Taking back the row that was inserted restores the table. -/
theorem rollBack_insert {input : RegisterOrgInput} (fresh : input.org_id ∉ stores.db.orgs.map RegisteredOrg.org_id)
    (done : List String) :
    (((stores.insert input).grant input.org_id done).rollBack world input.org_id).db.orgs = stores.db.orgs ↔
      world.orgDeleted = true := by
  have others : stores.db.orgs.filter (fun row => row.org_id ≠ input.org_id) = stores.db.orgs :=
    List.filter_eq_self.mpr fun row member => decide_eq_true fun same => fresh (List.mem_map.mpr ⟨row, member, same⟩)
  cases deleted : world.orgDeleted with
  | false => simp [OrgStores.rollBack, OrgStores.grant, OrgStores.insert, AdminWrite.apply, deleted]
  | true =>
    simp only [OrgStores.rollBack, OrgStores.grant, OrgStores.insert, AdminWrite.apply, deleted, if_true, iff_true,
      List.filter_append, others]
    simp

theorem allOrNothing_of_registered {input : RegisterOrgInput} (parsed : registerOrgSchema body = some input) :
    AllOrNothing body stores (some (.registered input), (stores.insert input).grant input.org_id input.maintainers) where
  untouched := fun refused => absurd rfl refused
  complete := fun _ => by
    refine ⟨input, parsed, ⟨_, List.mem_append_right _ (List.mem_singleton_self _), rfl⟩, fun maintainer member => ?_⟩
    exact List.mem_append_right _ (List.mem_map.mpr ⟨maintainer, member, rfl⟩)

theorem allOrNothing_of_failed_iff {input : RegisterOrgInput} {done : List String} {reply : AdminReply}
    (fresh : input.org_id ∉ stores.db.orgs.map RegisteredOrg.org_id) (failure : reply.status ≠ 201) :
    AllOrNothing body stores
      (some reply, ((stores.insert input).grant input.org_id done).rollBack world input.org_id) ↔
        world.orgDeleted = true ∧ done = [] := by
  have refused : Option.map AdminReply.status (some reply) ≠ some 201 := fun created => failure (Option.some.inj created)
  have chain : (((stores.insert input).grant input.org_id done).rollBack world input.org_id).authorised =
      stores.authorised ↔ done = [] := by
    simp [OrgStores.rollBack, OrgStores.grant, OrgStores.insert]
  constructor
  · intro clean
    obtain ⟨orgs, authorised⟩ := clean.untouched refused
    exact ⟨(rollBack_insert fresh done).mp orgs, chain.mp authorised⟩
  · rintro ⟨deleted, none_done⟩
    exact ⟨fun _ => ⟨(rollBack_insert fresh done).mpr deleted, chain.mpr none_done⟩, fun created => absurd created refused⟩

/-- On both stores the request is all or nothing exactly if no call fails once another one
has authorised a maintainer, and the row can be deleted again where the first one fails. -/
theorem createOrg_allOrNothing_iff (body : Json) (world : AdminWorld) (stores : OrgStores) :
    AllOrNothing body stores (createOrg body world stores) ↔ FailsEarly body world stores.db := by
  by_cases inserts : InsertsOrg body world stores.db
  · obtain ⟨input, parsed, _⟩ := id inserts
    obtain ⟨fresh, run⟩ := createOrg_inserted inserts parsed
    have early : FailsEarly body world stores.db ↔ (∀ call < input.maintainers.length, world.registers call = true) ∨
        world.registers 0 = false ∧ world.orgDeleted = true := by
      refine ⟨fun early => early inserts input parsed, fun early _ input' parsed' => ?_⟩
      cases parsed.symm.trans parsed'
      exact early
    rw [early, run]
    rcases @registerEach_cases world input.org_id [] (stores.insert input) input.maintainers with
      ⟨all, loop⟩ | ⟨done, maintainer, rest, split, before, fails, loop⟩
    · rw [loop]
      refine iff_of_true (allOrNothing_of_registered parsed) (Or.inl fun call below => ?_)
      have called := all call below
      rwa [List.length_nil, Nat.zero_add] at called
    · rw [List.length_nil, Nat.zero_add] at fails
      have reached : done.length < input.maintainers.length := by
        rw [split, List.length_append, List.length_cons]
        omega
      have first : world.registers 0 = false ↔ done = [] := by
        rcases done with _ | ⟨d, done⟩
        · exact iff_of_true fails rfl
        · have called := before 0 (Nat.succ_pos _)
          rw [List.length_nil, Nat.zero_add] at called
          exact iff_of_false (by rw [called]; exact Bool.noConfusion) (List.cons_ne_nil d done)
      rw [loop, first]
      dsimp only
      rw [allOrNothing_of_failed_iff fresh (by rw [AdminReply.status]; decide), and_comm]
      refine ⟨Or.inr, fun early => early.resolve_left fun all => ?_⟩
      rw [all done.length reached] at fails
      cases fails
  · obtain ⟨refused, same⟩ := createOrg_stopped inserts
    refine iff_of_true ⟨fun _ => by rw [same]; exact ⟨rfl, rfl⟩, fun created => absurd created refused⟩ ?_
    exact fun there => absurd there inserts

/-- What the loop answers and leaves in the database is what the router's handler makes of
the calls. -/
theorem registerEach_eq_registerMaintainers {org_id : String} (registered : List String) (stores : OrgStores)
    (maintainers : List String) :
    (registerEach world org_id registered stores maintainers).1 =
      (registerMaintainers world registered maintainers).map
        (fun failed => .contractError failed.1 world.exception failed.2) ∧
    (registerEach world org_id registered stores maintainers).2.db =
      if (registerMaintainers world registered maintainers).isSome then (stores.rollBack world org_id).db
      else stores.db := by
  induction maintainers generalizing registered stores with
  | nil => exact ⟨rfl, rfl⟩
  | cons maintainer rest ih =>
    rw [registerEach, registerMaintainers, callRegisterMaintainer]
    cases world.registers registered.length with
    | false => exact ⟨rfl, rfl⟩
    | true => exact ih (registered ++ [maintainer]) _

theorem createOrg_eq_postOrgs (body : Json) (world : AdminWorld) (stores : OrgStores) :
    (createOrg body world stores).1 = (postOrgs body world stores.db).reply ∧
      (createOrg body world stores).2.db = (postOrgs body world stores.db).writes.foldl AdminWrite.apply stores.db := by
  unfold createOrg postOrgs
  cases registerOrgSchema body with
  | none => exact ⟨rfl, rfl⟩
  | some input =>
    cases world.validateOrg with
    | none => exact ⟨rfl, rfl⟩
    | some found =>
      cases found with
      | false => exact ⟨rfl, rfl⟩
      | true =>
        obtain ⟨reply, db⟩ := @registerEach_eq_registerMaintainers world input.org_id [] (stores.insert input)
          input.maintainers
        rcases loop : registerEach world input.org_id [] (stores.insert input) input.maintainers with ⟨answer, left⟩
        rw [loop] at reply db
        unfold OrgStores.insert at loop
        dsimp only at reply db ⊢
        split
        · exact ⟨rfl, rfl⟩
        · split
          · exact ⟨rfl, rfl⟩
          · split
            · exact ⟨rfl, rfl⟩
            · rw [loop]
              cases calls : registerMaintainers world [] input.maintainers with
              | none =>
                rw [calls] at reply db
                rw [reply]
                exact ⟨rfl, db⟩
              | some failed =>
                rw [calls] at reply db
                rw [reply]
                refine ⟨rfl, db.trans ?_⟩
                cases deleted : world.orgDeleted with
                | false => simp [OrgStores.rollBack, OrgStores.insert, deleted]
                | true => simp [OrgStores.rollBack, OrgStores.insert, deleted]

end Requests

section Sample

def twoMaintainersBody : Json :=
  .object [("github_org", .string "stellar"), ("org_id", .string "stellar-oss"),
    ("maintainers", .array [.string outsiderAddress, .string sampleAccount])]

/-- Of two calls the second one fails; the row is deleted again, and the first maintainer
stays. -/
theorem second_failure_leaves_maintainer : ¬ AllOrNothing twoMaintainersBody ⟨⟨[], []⟩, []⟩
    (createOrg twoMaintainersBody { willingWorld with registers := fun call => call == 0 } ⟨⟨[], []⟩, []⟩) := by
  intro clean
  have outcome : createOrg twoMaintainersBody { willingWorld with registers := fun call => call == 0 } ⟨⟨[], []⟩, []⟩ =
      (some (.contractError sampleAccount "" [outsiderAddress]), ⟨⟨[], []⟩, [(outsiderAddress, "stellar-oss")]⟩) := by
    decide
  rw [outcome] at clean
  exact absurd (clean.untouched (by decide)).2 (by decide)

end Sample

end WorkloadGovernor
