import WorkloadGovernor.PanelIds

namespace WorkloadGovernor

namespace MaintainerPanel
open PanelState

section Provenance
variable {orgIds : List String} {state next : PanelState} {A : Application → Prop} {B : Assignment → Prop}

/-- The entry a handler was called on is of the kind. -/
def Action.Meets (A : Application → Prop) (B : Assignment → Prop) : Action → Prop
  | .assign app => A app
  | .complete asgn | .revoke asgn => B asgn

/-- All entries that are or were listed, or are on their way to the lists, are of a kind. -/
structure From (A : Application → Prop) (B : Assignment → Prop) (state : PanelState) : Prop where
  applications : ∀ app ∈ state.applications, A app
  assignments : ∀ asgn ∈ state.assignments, B asgn
  shownApplications : ∀ app ∈ state.shownApplications, A app
  shownAssignments : ∀ asgn ∈ state.shownAssignments, B asgn
  operations : ∀ operation ∈ state.operations, operation.action.Meets A B
  appResults : ∀ load ∈ state.loads, ∀ result ∈ load.appResults, ∀ app ∈ result.getD [], A app
  asgnResults : ∀ load ∈ state.loads, ∀ result ∈ load.asgnResults, ∀ asgn ∈ result.getD [], B asgn

theorem From.start (inv : From A B state) {action : Action} (kind : action.Meets A B) : From A B (state.start action) :=
  { inv with
    operations := fun operation member => by
      rcases List.mem_append.mp member with old | new
      · exact inv.operations operation old
      · rw [List.mem_singleton.mp new]
        exact kind }

theorem From.advance (inv : From A B state) {op : Nat} {action : Action} {now : Progress}
    (found : state.operations[op]? = some ⟨action, now⟩) (progress : Progress) :
    From A B (state.advance op action progress) := by
  have kind : action.Meets A B := inv.operations ⟨action, now⟩ (List.mem_of_getElem? found)
  exact { inv with
    operations := fun operation member => by
      rcases List.mem_or_eq_of_mem_set member with old | new
      · exact inv.operations operation old
      · rw [new]
        exact kind }

theorem From.leave (inv : From A B state) (id : String) :
    From A B { state with assignments := state.assignments.filter fun a => a.id ≠ id } :=
  { inv with assignments := fun asgn member => inv.assignments asgn (List.mem_filter.mp member).1 }

theorem From.join (inv : From A B state) {asgn : Assignment} (own : B asgn) :
    From A B { state with assignments := state.assignments ++ [asgn] } :=
  { inv with
    assignments := fun other member => by
      rcases List.mem_append.mp member with old | new
      · exact inv.assignments other old
      · rw [List.mem_singleton.mp new]
        exact own }

theorem From.rollBack (inv : From A B state) {action : Action} (kind : action.Meets A B) :
    From A B (state.rollBack action) := by
  cases action with
  | assign app =>
    have left := inv.leave app.id
    exact { left with
      applications := fun other member => by
        rcases List.mem_append.mp member with old | new
        · exact inv.applications other old
        · rw [List.mem_singleton.mp new]
          exact kind }
  | complete asgn => exact inv.join kind
  | revoke asgn => exact inv.join kind

/-- An answer of the kind may come in. -/
theorem From.answer (inv : From A B state) (index : Nat) {load : Load}
    (apps : ∀ result ∈ load.appResults, ∀ app ∈ result.getD [], A app)
    (asgns : ∀ result ∈ load.asgnResults, ∀ asgn ∈ result.getD [], B asgn) : From A B (state.answer index load) :=
  { inv with
    appResults := fun other member => by
      rcases List.mem_or_eq_of_mem_set member with old | new
      · exact inv.appResults other old
      · rw [new]
        exact apps
    asgnResults := fun other member => by
      rcases List.mem_or_eq_of_mem_set member with old | new
      · exact inv.asgnResults other old
      · rw [new]
        exact asgns }

theorem From.settle (inv : From A B state) {index : Nat} {load : Load} (found : state.loads[index]? = some load) :
    From A B (state.answer index { load with settled := true }) := by
  have own := List.mem_of_getElem? found
  exact inv.answer index (inv.appResults load own) (inv.asgnResults load own)

/-- A kind that what the contract lists is of, and that assigning keeps, is kept. -/
theorem From.effect (assigned : ∀ app, A app → B (newAsgn app))
    (listed : ∀ org ∈ orgIds, (∀ app ∈ applicationsOf state.contract org, A app) ∧
      ∀ asgn ∈ assignmentsOf state.contract org, B asgn)
    (inv : From A B state) (effect : Effect orgIds state next) : From A B next := by
  cases effect with
  | stay => exact inv
  | handleAssign app shown =>
    have kind := inv.shownApplications app shown
    have joined := inv.join (assigned app kind)
    have moved : From A B { state with
        applications := state.applications.filter fun a => a.id ≠ app.id
        assignments := state.assignments ++ [newAsgn app] } :=
      { joined with applications := fun other member => inv.applications other (List.mem_filter.mp member).1 }
    exact moved.start kind
  | handleComplete asgn shown => exact (inv.leave asgn.id).start (inv.shownAssignments asgn shown)
  | handleRevoke asgn shown => exact (inv.leave asgn.id).start (inv.shownAssignments asgn shown)
  | execute op action recount found permitted =>
    have carried : From A B { state with contract := (action.carryOut state.contract).map fun row =>
        { row with global_count := (recount row).1, org_count := (recount row).2 } } := { inv with }
    exact carried.advance found .executed
  | succeed op action found => exact inv.advance found .succeeded
  | fail op action found =>
    exact (inv.advance found .failed).rollBack (inv.operations _ (List.mem_of_getElem? found))
  | load =>
    have blank {α : Type} (result : Option (List α)) (member : result ∈ orgIds.map fun _ => none) :
        result.getD [] = [] := by
      obtain ⟨_, _, rfl⟩ := List.mem_map.mp member
      rfl
    exact { inv with
      appResults := fun load member result there app listed => by
        rcases List.mem_append.mp member with old | new
        · exact inv.appResults load old result there app listed
        · rw [List.mem_singleton.mp new] at there
          rw [blank result there] at listed
          cases listed
      asgnResults := fun load member result there asgn listed => by
        rcases List.mem_append.mp member with old | new
        · exact inv.asgnResults load old result there asgn listed
        · rw [List.mem_singleton.mp new] at there
          rw [blank result there] at listed
          cases listed }
  | readApplications index org load orgId found there unread =>
    have own := List.mem_of_getElem? found
    refine inv.answer index (fun result member => ?_) (inv.asgnResults load own)
    rcases List.mem_or_eq_of_mem_set member with old | new
    · exact inv.appResults load own result old
    · rw [new]
      exact (listed orgId (List.mem_of_getElem? there)).1
  | readAssignments index org load orgId found there applied unread =>
    have own := List.mem_of_getElem? found
    refine inv.answer index (inv.appResults load own) (fun result member => ?_)
    rcases List.mem_or_eq_of_mem_set member with old | new
    · exact inv.asgnResults load own result old
    · rw [new]
      exact (listed orgId (List.mem_of_getElem? there)).2
  | loaded index load found complete =>
    have own := List.mem_of_getElem? found
    have kept := inv.settle found
    exact { kept with
      applications := fun app member => by
        obtain ⟨result, there, listed⟩ := List.mem_flatMap.mp member
        exact inv.appResults load own result there app listed
      assignments := fun asgn member => by
        obtain ⟨result, there, listed⟩ := List.mem_flatMap.mp member
        exact inv.asgnResults load own result there asgn listed }
  | loadFails index load message found =>
    have kept := inv.settle found
    exact { kept with }

theorem From.render (inv : From A B state) : From A B state.render :=
  { inv with
    shownApplications := fun app member => by
      rcases List.mem_append.mp member with old | new
      · exact inv.shownApplications app old
      · exact inv.applications app new
    shownAssignments := fun asgn member => by
      rcases List.mem_append.mp member with old | new
      · exact inv.shownAssignments asgn old
      · exact inv.assignments asgn new }

end Provenance

section Contract
variable {orgIds : List String} {state next : PanelState} {contract : List ChainRow} {target : Target}

/-- The contract has an application or an assignment for it. -/
def Carries (contract : List ChainRow) (target : Target) : Prop := ∃ row ∈ contract, row.target = target

/-- The contract has an application for it. -/
def Applies (contract : List ChainRow) (target : Target) : Prop :=
  ∃ row ∈ contract, row.target = target ∧ row.assigned = false

/-- A completion or revocation of it has been carried out. -/
def Closed (state : PanelState) (target : Target) : Prop :=
  ∃ operation ∈ state.operations, operation.action.closes = true ∧ operation.action.target = target ∧
    (operation.progress = .executed ∨ operation.progress = .succeeded)

/-- What no event undoes: an application does not come back, a completion stays carried
out, and only that takes something off the contract. -/
structure Follows (state next : PanelState) : Prop where
  applies : ∀ target, Applies next.contract target → Applies state.contract target
  closed : ∀ target, Closed state target → Closed next target
  carries : ∀ target, Carries state.contract target → Carries next.contract target ∨ Closed next target

theorem Follows.of_contract (same : next.contract = state.contract)
    (closed : ∀ target, Closed state target → Closed next target) : Follows state next where
  applies := fun target applies => by rwa [same] at applies
  closed := closed
  carries := fun target carries => Or.inl (by rwa [same])

theorem Follows.of_operations (contract : next.contract = state.contract) (operations : next.operations = state.operations) :
    Follows state next :=
  .of_contract contract fun target closed => by rwa [Closed, operations]

theorem Follows.of_started {action : Action} (contract : next.contract = state.contract)
    (operations : next.operations = state.operations ++ [⟨action, .pending⟩]) : Follows state next := by
  refine .of_contract contract fun target closed => ?_
  obtain ⟨operation, member, done⟩ := closed
  exact ⟨operation, by rw [operations]; exact List.mem_append_left _ member, done⟩

/-- Another operation than the one that advances stays as it is. -/
theorem mem_advance {op : Nat} {action : Action} {now progress : Progress} {operation : Operation}
    (found : state.operations[op]? = some ⟨action, now⟩) (member : operation ∈ state.operations) :
    operation ∈ (state.advance op action progress).operations ∨ operation = ⟨action, now⟩ := by
  obtain ⟨i, bound, same⟩ := List.getElem_of_mem member
  by_cases own : i = op
  · subst own
    rw [List.getElem?_eq_getElem bound, Option.some.injEq] at found
    exact Or.inr (same.symm.trans found)
  · have kept : (state.operations.set op ⟨action, progress⟩)[i]? = some operation := by
      rw [List.getElem?_set_ne (Ne.symm own), List.getElem?_eq_getElem bound, same]
    exact Or.inl (List.mem_of_getElem? kept)

theorem advanced_mem {op : Nat} {action : Action} {now progress : Progress}
    (found : state.operations[op]? = some ⟨action, now⟩) :
    ⟨action, progress⟩ ∈ (state.advance op action progress).operations := by
  obtain ⟨bound, _⟩ := List.getElem?_eq_some_iff.mp found
  exact List.mem_set bound ⟨action, progress⟩

theorem closed_advance {op : Nat} {action : Action} {now progress : Progress}
    (found : state.operations[op]? = some ⟨action, now⟩)
    (onwards : now = .executed ∨ now = .succeeded → progress = .executed ∨ progress = .succeeded)
    (closed : Closed state target) : Closed (state.advance op action progress) target := by
  obtain ⟨operation, member, closes, about, done⟩ := closed
  rcases mem_advance found member with kept | rfl
  · exact ⟨operation, kept, closes, about, done⟩
  · exact ⟨_, advanced_mem found, closes, about, onwards done⟩

theorem not_executed : ¬ (Progress.pending = .executed ∨ Progress.pending = .succeeded) := by
  decide

theorem execute_follows {op : Nat} {action : Action} (recount : ChainRow → Option Int × Option Int)
    (found : state.operations[op]? = some ⟨action, .pending⟩) : Follows state (state.execute op action recount) where
  applies := by
    rintro target ⟨_, member, about, applied⟩
    obtain ⟨row, carried, rfl⟩ := List.mem_map.mp member
    dsimp only at about applied
    unfold Action.carryOut at carried
    split at carried
    · exact ⟨row, (List.mem_filter.mp carried).1, about, applied⟩
    · obtain ⟨old, there, rfl⟩ := List.mem_map.mp carried
      split at applied
      · cases applied
      · rename_i other
        rw [if_neg other] at about
        exact ⟨old, there, about, applied⟩
  closed := fun target closed => closed_advance found (fun done => absurd done not_executed) closed
  carries := by
    rintro target ⟨row, member, about⟩
    have recounted (carried : ChainRow) (kept : carried ∈ action.carryOut state.contract)
        (same : carried.target = target) : Carries (state.execute op action recount).contract target :=
      ⟨_, List.mem_map.mpr ⟨carried, kept, rfl⟩, same⟩
    cases closes : action.closes with
    | false =>
      refine Or.inl (recounted (if row.target = action.target then { row with assigned := true } else row) ?_ ?_)
      · rw [Action.carryOut, if_neg (by simp [closes])]
        exact List.mem_map.mpr ⟨row, member, rfl⟩
      · split <;> exact about
    | true =>
      by_cases own : row.target = action.target ∧ row.assigned = true
      · exact Or.inr ⟨_, advanced_mem found, closes, own.1.symm.trans about, Or.inl rfl⟩
      · refine Or.inl (recounted row ?_ about)
        rw [Action.carryOut, if_pos closes]
        exact List.mem_filter.mpr ⟨member, decide_eq_true own⟩

theorem Effect.follows (effect : Effect orgIds state next) : Follows state next := by
  cases effect with
  | stay => exact .of_operations rfl rfl
  | handleAssign app shown => exact .of_started rfl rfl
  | handleComplete asgn shown => exact .of_started rfl rfl
  | handleRevoke asgn shown => exact .of_started rfl rfl
  | execute op action recount found permitted => exact execute_follows recount found
  | succeed op action found =>
    exact .of_contract rfl fun target closed => closed_advance found (fun _ => Or.inr rfl) closed
  | fail op action found =>
    have closed {target : Target} (done : Closed state target) : Closed (state.advance op action .failed) target :=
      closed_advance found (fun executed => absurd executed not_executed) done
    cases action with
    | assign app => exact .of_contract rfl fun _ done => closed done
    | complete asgn => exact .of_contract rfl fun _ done => closed done
    | revoke asgn => exact .of_contract rfl fun _ done => closed done
  | load => exact .of_operations rfl rfl
  | readApplications index org load orgId found there unread => exact .of_operations rfl rfl
  | readAssignments index org load orgId found there applied unread => exact .of_operations rfl rfl
  | loaded index load found complete => exact .of_operations rfl rfl
  | loadFails index load message found => exact .of_operations rfl rfl

end Contract

section Accounts
variable {orgIds : List String} {state next : PanelState} {contract : List ChainRow} {target : Target} {id : String}

/-- The id spells what the entry's operation is about. -/
def AppFormed (app : Application) : Prop := app.id = (Action.assign app).target.id

def AsgnFormed (asgn : Assignment) : Prop := asgn.id = (Action.complete asgn).target.id

theorem issueIdOf_title (issueId : String) : issueIdOf ("Issue #" ++ issueId) = issueId := by
  rw [issueIdOf, if_pos (Js.startsWith_append _ _), String.toList_append]
  have prefix_length : "Issue #".length = "Issue #".toList.length := rfl
  rw [prefix_length, List.drop_left, String.ofList_toList]

theorem applicationsOf_formed (contract : List ChainRow) (orgId : String) :
    ∀ app ∈ applicationsOf contract orgId, AppFormed app := by
  intro app member
  obtain ⟨row, _, rfl⟩ := List.mem_map.mp member
  rw [AppFormed, Action.target, Target.id, mapApplication]
  dsimp only
  rw [issueIdOf_title]

theorem assignmentsOf_formed (contract : List ChainRow) (orgId : String) :
    ∀ asgn ∈ assignmentsOf contract orgId, AsgnFormed asgn := by
  intro asgn member
  obtain ⟨row, _, rfl⟩ := List.mem_map.mp member
  rw [AsgnFormed, Action.target, Target.id, mapAssignment]
  dsimp only
  rw [issueIdOf_title]

theorem meets_formed {action : Action} (formed : action.Meets AppFormed AsgnFormed) :
    action.id = action.target.id := by
  cases action with
  | assign app => exact formed
  | complete asgn => exact formed
  | revoke asgn => exact formed

theorem mem_application_ids {org : String} : id ∈ (applicationsOf contract org).map Application.id ↔
    ∃ row ∈ contract, row.target.org = org ∧ row.assigned = false ∧ row.target.id = id := by
  constructor
  · intro listed
    obtain ⟨app, member, rfl⟩ := List.mem_map.mp listed
    obtain ⟨raw, there, rfl⟩ := List.mem_map.mp member
    obtain ⟨row, kept, rfl⟩ := List.mem_map.mp there
    obtain ⟨on_chain, own⟩ := List.mem_filter.mp kept
    obtain ⟨rfl, applied⟩ := of_decide_eq_true own
    exact ⟨row, on_chain, rfl, applied, rfl⟩
  · rintro ⟨row, member, rfl, applied, rfl⟩
    refine List.mem_map.mpr ⟨_, List.mem_map.mpr ⟨_, List.mem_map.mpr ⟨row, ?_, rfl⟩, rfl⟩, rfl⟩
    exact List.mem_filter.mpr ⟨member, decide_eq_true ⟨rfl, applied⟩⟩

theorem mem_assignment_ids {org : String} : id ∈ (assignmentsOf contract org).map Assignment.id ↔
    ∃ row ∈ contract, row.target.org = org ∧ row.assigned = true ∧ row.target.id = id := by
  constructor
  · intro listed
    obtain ⟨asgn, member, rfl⟩ := List.mem_map.mp listed
    obtain ⟨raw, there, rfl⟩ := List.mem_map.mp member
    obtain ⟨row, kept, rfl⟩ := List.mem_map.mp there
    obtain ⟨on_chain, own⟩ := List.mem_filter.mp kept
    obtain ⟨rfl, assigned⟩ := of_decide_eq_true own
    exact ⟨row, on_chain, rfl, assigned, rfl⟩
  · rintro ⟨row, member, rfl, assigned, rfl⟩
    refine List.mem_map.mpr ⟨_, List.mem_map.mpr ⟨_, List.mem_map.mpr ⟨row, ?_, rfl⟩, rfl⟩, rfl⟩
    exact List.mem_filter.mpr ⟨member, decide_eq_true ⟨rfl, assigned⟩⟩

/-- The contract lists what it has an application for. -/
theorem Applies.listed (applies : Applies contract target) :
    target.id ∈ (applicationsOf contract target.org).map Application.id := by
  obtain ⟨row, member, rfl, applied⟩ := applies
  exact mem_application_ids.mpr ⟨row, member, rfl, applied, rfl⟩

/-- What it carries is listed as an assignment unless there is an application for it. -/
theorem Carries.listed (carries : Carries contract target) (closed : ¬ Applies contract target) :
    target.id ∈ (assignmentsOf contract target.org).map Assignment.id := by
  obtain ⟨row, member, rfl⟩ := carries
  have assigned : row.assigned = true := by
    by_contra applied
    exact closed ⟨row, member, rfl, Bool.eq_false_iff.mpr applied⟩
  exact mem_assignment_ids.mpr ⟨row, member, rfl, assigned, rfl⟩

/-- The answers a run of `load` has got leave out of the entries at the start only those
that were no applications any more and those that have been closed. -/
structure Answered (orgIds : List String) (contract : List ChainRow) (state : PanelState) (load : Load) : Prop where
  sizes : load.appResults.length = orgIds.length ∧ load.asgnResults.length = orgIds.length
  apps : ∀ (i : Nat) orgId apps, orgIds[i]? = some orgId → load.appResults[i]? = some (some apps) →
    ∀ target, Carries contract target → target.org = orgId →
      target.id ∈ apps.map Application.id ∨ ¬ Applies state.contract target
  asgns : ∀ (i : Nat) orgId asgns, orgIds[i]? = some orgId → load.asgnResults[i]? = some (some asgns) →
    ∃ apps, load.appResults[i]? = some (some apps) ∧ ∀ target, Carries contract target → target.org = orgId →
      target.id ∈ apps.map Application.id ∨ target.id ∈ asgns.map Assignment.id ∨ Closed state target

theorem Answered.mono {load : Load} (answered : Answered orgIds contract state load) (follows : Follows state next) :
    Answered orgIds contract next load where
  sizes := answered.sizes
  apps := fun i orgId apps there read target carries own => by
    rcases answered.apps i orgId apps there read target carries own with listed | gone
    · exact Or.inl listed
    · exact Or.inr fun applies => gone (follows.applies target applies)
  asgns := fun i orgId asgns there read => by
    obtain ⟨apps, before, each⟩ := answered.asgns i orgId asgns there read
    refine ⟨apps, before, fun target carries own => ?_⟩
    rcases each target carries own with applied | assigned | closed
    · exact Or.inl applied
    · exact Or.inr (Or.inl assigned)
    · exact Or.inr (Or.inr (follows.closed target closed))

theorem Answered.blank : Answered orgIds contract state ⟨orgIds.map fun _ => none, orgIds.map fun _ => none, false⟩ where
  sizes := ⟨List.length_map _, List.length_map _⟩
  apps := fun i orgId apps there read => by
    rw [List.getElem?_map, there] at read
    cases read
  asgns := fun i orgId asgns there read => by
    rw [List.getElem?_map, there] at read
    cases read

/-- Reading the applications of an org. -/
theorem Answered.readApplications {load : Load} {org : Nat} {orgId : String}
    (answered : Answered orgIds contract state load) (there : orgIds[org]? = some orgId)
    (unread : load.appResults[org]? = some none) : Answered orgIds contract state
      { load with appResults := load.appResults.set org (some (applicationsOf state.contract orgId)) } where
  sizes := ⟨by rw [List.length_set]; exact answered.sizes.1, answered.sizes.2⟩
  apps := fun i orgId' apps there' read target carries own => by
    by_cases same : i = org
    · subst same
      cases there.symm.trans there'
      rw [List.getElem?_set_self (List.getElem?_eq_some_iff.mp unread).1] at read
      cases read
      by_cases applies : Applies state.contract target
      · subst own
        exact Or.inl applies.listed
      · exact Or.inr applies
    · rw [List.getElem?_set_ne (Ne.symm same)] at read
      exact answered.apps i orgId' apps there' read target carries own
  asgns := fun i orgId' asgns there' read => by
    obtain ⟨apps, before, each⟩ := answered.asgns i orgId' asgns there' read
    refine ⟨apps, ?_, each⟩
    have other : org ≠ i := by
      rintro rfl
      rw [unread] at before
      cases before
    rw [List.getElem?_set_ne other]
    exact before

/-- Reading the assignments of an org, once its applications are there. -/
theorem Answered.readAssignments {load : Load} {org : Nat} {orgId : String}
    (answered : Answered orgIds contract state load)
    (kept : ∀ target, Carries contract target → Carries state.contract target ∨ Closed state target)
    (there : orgIds[org]? = some orgId) (applied : load.appResults.all Option.isSome)
    (unread : load.asgnResults[org]? = some none) : Answered orgIds contract state
      { load with asgnResults := load.asgnResults.set org (some (assignmentsOf state.contract orgId)) } where
  sizes := ⟨answered.sizes.1, by rw [List.length_set]; exact answered.sizes.2⟩
  apps := answered.apps
  asgns := fun i orgId' asgns there' read => by
    by_cases same : i = org
    · subst same
      cases there.symm.trans there'
      rw [List.getElem?_set_self (List.getElem?_eq_some_iff.mp unread).1] at read
      cases read
      have bound : i < load.appResults.length := by
        rw [answered.sizes.1]
        exact (List.getElem?_eq_some_iff.mp there).1
      obtain ⟨apps, before⟩ := Option.isSome_iff_exists.mp (List.all_eq_true.mp applied _ (List.getElem_mem bound))
      have found : load.appResults[i]? = some (some apps) := by rw [List.getElem?_eq_getElem bound, before]
      refine ⟨apps, found, fun target carries own => ?_⟩
      rcases answered.apps i orgId apps there found target carries own with listed | gone
      · exact Or.inl listed
      · rcases kept target carries with still | closed
        · subst own
          exact Or.inr (Or.inl (still.listed gone))
        · exact Or.inr (Or.inr closed)
    · rw [List.getElem?_set_ne (Ne.symm same)] at read
      exact answered.asgns i orgId' asgns there' read

/-- An operation on the id is under way or has succeeded; one that closes, or an assignment. -/
def UnderWay (state : PanelState) (closes : Bool) (id : String) : Prop :=
  ∃ operation ∈ state.operations, operation.action.closes = closes ∧ operation.action.id = id ∧
    operation.progress ≠ .failed

/-- Every entry the contract had at the start is accounted for: on the contract, in the
answers on their way, and in the lists. -/
structure Accounts (orgIds : List String) (contract : List ChainRow) (state : PanelState) : Prop where
  kept : ∀ target, Carries contract target → Carries state.contract target ∨ Closed state target
  answered : ∀ load ∈ state.loads, Answered orgIds contract state load
  listed : ∀ target, Carries contract target → target.org ∈ orgIds → target.id ∈ state.ids ∨ UnderWay state true target.id

theorem Closed.underWay (closed : Closed state target) (formed : From AppFormed AsgnFormed state) :
    UnderWay state true target.id := by
  obtain ⟨operation, member, closes, rfl, done⟩ := closed
  refine ⟨operation, member, closes, meets_formed (formed.operations operation member), fun failed => ?_⟩
  rw [failed] at done
  exact absurd done (by decide)

theorem pending_open : Progress.pending ≠ .failed := by
  decide

theorem UnderWay.started {closes : Bool} {action : Action} (under_way : UnderWay state closes id)
    (operations : next.operations = state.operations ++ [⟨action, .pending⟩]) : UnderWay next closes id := by
  obtain ⟨operation, member, is_open⟩ := under_way
  exact ⟨operation, by rw [operations]; exact List.mem_append_left _ member, is_open⟩

/-- The operation that is started is under way. -/
theorem underWay_of_started (action : Action)
    (operations : next.operations = state.operations ++ [⟨action, .pending⟩]) : UnderWay next action.closes action.id :=
  ⟨_, by rw [operations]; exact List.mem_append_right _ (List.mem_singleton_self _), rfl, rfl, pending_open⟩

/-- An operation that advances without failing stays under way. -/
theorem UnderWay.advanced {closes : Bool} {op : Nat} {action : Action} {now progress : Progress}
    (found : state.operations[op]? = some ⟨action, now⟩) (onwards : progress ≠ .failed)
    (under_way : UnderWay state closes id) : UnderWay (state.advance op action progress) closes id := by
  obtain ⟨operation, member, kind, about, is_open⟩ := under_way
  rcases mem_advance found member with kept | rfl
  · exact ⟨operation, kept, kind, about, is_open⟩
  · exact ⟨_, advanced_mem found, kind, about, onwards⟩

/-- When one fails the others stay under way. -/
theorem UnderWay.failed {closes : Bool} {op : Nat} {action : Action} {now : Progress}
    (found : state.operations[op]? = some ⟨action, now⟩) (under_way : UnderWay state closes id) :
    UnderWay ((state.advance op action .failed).rollBack action) closes id ∨ action.closes = closes ∧ action.id = id := by
  obtain ⟨operation, member, kind, about, is_open⟩ := under_way
  rcases mem_advance found member with kept | rfl
  · refine Or.inl ⟨operation, ?_, kind, about, is_open⟩
    cases action <;> exact kept
  · exact Or.inr ⟨kind, about⟩

theorem ids_assigned (app : Application) (listed : id ∈ state.ids) : id ∈ (state.handleAssign app).ids := by
  rw [ids_handleAssign]
  by_cases own : id = app.id
  · rw [own]
    exact List.mem_append_right _ (List.mem_append_right _ (List.mem_singleton_self _))
  · rcases List.mem_append.mp listed with applied | assigned
    · exact List.mem_append_left _ (List.mem_filter.mpr ⟨applied, decide_eq_true own⟩)
    · exact List.mem_append_right _ (List.mem_append_left _ assigned)

theorem ids_left {other : String} (listed : id ∈ state.ids) (different : id ≠ other) :
    id ∈ state.applications.map Application.id ++
      (state.assignments.map Assignment.id).filter fun own => own ≠ other := by
  rcases List.mem_append.mp listed with applied | assigned
  · exact List.mem_append_left _ applied
  · exact List.mem_append_right _ (List.mem_filter.mpr ⟨assigned, decide_eq_true different⟩)

theorem ids_rolledBack (action : Action) (listed : id ∈ state.ids ∨ action.id = id) :
    id ∈ (state.rollBack action).ids := by
  rw [ids_rollBack]
  by_cases own : action.id = id
  · subst own
    split
    · exact List.mem_append_right _ (List.mem_append_right _ (List.mem_singleton_self _))
    · exact List.mem_append_left _ (List.mem_append_right _ (List.mem_singleton_self _))
  · rcases List.mem_append.mp (listed.resolve_right own) with applied | assigned
    · split
      · exact List.mem_append_left _ applied
      · exact List.mem_append_left _ (List.mem_append_left _ applied)
    · split
      · exact List.mem_append_right _ (List.mem_append_left _ assigned)
      · exact List.mem_append_right _ (List.mem_filter.mpr ⟨assigned, decide_eq_true (Ne.symm own)⟩)

/-- With all answers there the lists leave out only what has been closed. -/
theorem Answered.complete {load : Load} (answered : Answered orgIds contract state load) (complete : load.Complete)
    (carries : Carries contract target) (org : target.org ∈ orgIds) : target.id ∈ load.ids ∨ Closed state target := by
  obtain ⟨i, bound, there⟩ := List.getElem_of_mem org
  have inside : i < load.asgnResults.length := by
    rw [answered.sizes.2]
    exact bound
  obtain ⟨asgns, result⟩ := Option.isSome_iff_exists.mp (List.all_eq_true.mp complete.2.2 _ (List.getElem_mem inside))
  have found : load.asgnResults[i]? = some (some asgns) := by rw [List.getElem?_eq_getElem inside, result]
  have at_org : orgIds[i]? = some target.org := by rw [List.getElem?_eq_getElem bound, there]
  obtain ⟨apps, before, each⟩ := answered.asgns i target.org asgns at_org found
  rcases each target carries rfl with applied | assigned | closed
  · obtain ⟨app, member, same⟩ := List.mem_map.mp applied
    have there : app ∈ load.appResults.flatMap fun result => result.getD [] :=
      List.mem_flatMap.mpr ⟨some apps, List.mem_of_getElem? before, member⟩
    exact Or.inl (List.mem_append_left _ (List.mem_map.mpr ⟨app, there, same⟩))
  · obtain ⟨asgn, member, same⟩ := List.mem_map.mp assigned
    have there : asgn ∈ load.asgnResults.flatMap fun result => result.getD [] :=
      List.mem_flatMap.mpr ⟨some asgns, List.mem_of_getElem? found, member⟩
    exact Or.inl (List.mem_append_right _ (List.mem_map.mpr ⟨asgn, there, same⟩))
  · exact Or.inr closed

theorem Accounts.answered_effect (accounts : Accounts orgIds contract state) (effect : Effect orgIds state next) :
    ∀ load ∈ next.loads, Answered orgIds contract next load := by
  have follows := effect.follows
  have old : ∀ load ∈ state.loads, Answered orgIds contract next load :=
    fun load member => (accounts.answered load member).mono follows
  have replaced {index : Nat} (own : Load) (answered : Answered orgIds contract next own)
      (loads : next.loads = state.loads.set index own) : ∀ load ∈ next.loads, Answered orgIds contract next load := by
    intro load member
    rw [loads] at member
    rcases List.mem_or_eq_of_mem_set member with there | new
    · exact old load there
    · rwa [new]
  cases effect with
  | stay => exact old
  | handleAssign app shown => exact old
  | handleComplete asgn shown => exact old
  | handleRevoke asgn shown => exact old
  | execute op action recount found permitted => exact old
  | succeed op action found => exact old
  | fail op action found => cases action <;> exact old
  | load =>
    intro load member
    rcases List.mem_append.mp member with there | new
    · exact old load there
    · rw [List.mem_singleton.mp new]
      exact .blank
  | readApplications index org load orgId found there unread =>
    have answered := accounts.answered load (List.mem_of_getElem? found)
    exact replaced _ ((answered.readApplications there unread).mono follows) rfl
  | readAssignments index org load orgId found there applied unread =>
    have answered := accounts.answered load (List.mem_of_getElem? found)
    exact replaced _ ((answered.readAssignments accounts.kept there applied unread).mono follows) rfl
  | loaded index load found complete =>
    have answered := old load (List.mem_of_getElem? found)
    exact replaced { load with settled := true } ⟨answered.sizes, answered.apps, answered.asgns⟩ rfl
  | loadFails index load message found =>
    have answered := old load (List.mem_of_getElem? found)
    exact replaced { load with settled := true } ⟨answered.sizes, answered.apps, answered.asgns⟩ rfl

theorem Accounts.listed_effect (accounts : Accounts orgIds contract state) (formed : From AppFormed AsgnFormed state)
    (effect : Effect orgIds state next) (carries : Carries contract target) (org : target.org ∈ orgIds) :
    target.id ∈ next.ids ∨ UnderWay next true target.id := by
  have listed := accounts.listed target carries org
  cases effect with
  | stay => exact listed
  | handleAssign app shown => exact listed.imp (ids_assigned app) fun closing => closing.started rfl
  | handleComplete asgn shown =>
    by_cases own : target.id = asgn.id
    · rw [own]
      exact Or.inr (underWay_of_started (.complete asgn) rfl)
    · rw [ids_handleComplete]
      exact listed.imp (fun there => ids_left there own) fun closing => closing.started rfl
  | handleRevoke asgn shown =>
    by_cases own : target.id = asgn.id
    · rw [own]
      exact Or.inr (underWay_of_started (.revoke asgn) rfl)
    · rw [ids_handleRevoke]
      exact listed.imp (fun there => ids_left there own) fun closing => closing.started rfl
  | execute op action recount found permitted => exact listed.imp_right fun closing => closing.advanced found (by decide)
  | succeed op action found => exact listed.imp_right fun closing => closing.advanced found (by decide)
  | fail op action found =>
    rcases listed with there | closing
    · exact Or.inl (ids_rolledBack action (Or.inl there))
    · exact (closing.failed found).elim Or.inr fun own => Or.inl (ids_rolledBack action (Or.inr own.2))
  | load => exact listed
  | readApplications index org load orgId found there unread => exact listed
  | readAssignments index org load orgId found there applied unread => exact listed
  | loaded index load found complete =>
    have answered := accounts.answered load (List.mem_of_getElem? found)
    exact (answered.complete complete carries org).imp_right fun closed => closed.underWay formed
  | loadFails index load message found => exact listed

theorem Accounts.effect (accounts : Accounts orgIds contract state) (formed : From AppFormed AsgnFormed state)
    (effect : Effect orgIds state next) : Accounts orgIds contract next where
  kept := fun target carries => by
    rcases accounts.kept target carries with still | closed
    · exact effect.follows.carries target still
    · exact Or.inr (effect.follows.closed target closed)
  answered := accounts.answered_effect effect
  listed := fun _ carries org => accounts.listed_effect formed effect carries org

end Accounts

end MaintainerPanel

end WorkloadGovernor
