import WorkloadGovernor.PanelAccounts

namespace WorkloadGovernor

namespace MaintainerPanel
open PanelState

section Restoring
variable {orgIds : List String} {state next : PanelState} {contract : List ChainRow}

/-- Nothing has been carried out so far. -/
def NothingDone (state : PanelState) : Prop :=
  ∀ operation ∈ state.operations, operation.progress = .pending ∨ operation.progress = .failed

/-- An application of the first load. -/
def FirstApp (orgIds : List String) (contract : List ChainRow) (app : Application) : Prop :=
  app ∈ orgIds.flatMap (applicationsOf contract)

/-- An assignment of the first load, or what an application of it becomes. -/
def FirstAsgn (orgIds : List String) (contract : List ChainRow) (asgn : Assignment) : Prop :=
  asgn ∈ orgIds.flatMap (assignmentsOf contract) ∨ ∃ app, FirstApp orgIds contract app ∧ asgn = newAsgn app

/-- The answers that are there are the ones of the first load. -/
def ReadFirst {α : Type} (orgIds : List String) (part : String → List α) (results : List (Option (List α))) : Prop :=
  ∀ (i : Nat) read, results[i]? = some (some read) → ∃ orgId, orgIds[i]? = some orgId ∧ read = part orgId

theorem ReadFirst.blank {α : Type} {part : String → List α} : ReadFirst orgIds part (orgIds.map fun _ => none) := by
  intro i read found
  rw [List.getElem?_map] at found
  obtain ⟨_, _, blank⟩ := Option.map_eq_some_iff.mp found
  cases blank

theorem ReadFirst.set {α : Type} {part : String → List α} {results : List (Option (List α))} {org : Nat} {orgId : String}
    (first : ReadFirst orgIds part results) (there : orgIds[org]? = some orgId) (unread : results[org]? = some none) :
    ReadFirst orgIds part (results.set org (some (part orgId))) := by
  intro i read found
  by_cases own : org = i
  · subst own
    rw [List.getElem?_set_self (List.getElem?_eq_some_iff.mp unread).1] at found
    cases found
    exact ⟨orgId, there, rfl⟩
  · rw [List.getElem?_set_ne own] at found
    exact first i read found

/-- All of them together make up the list of the first load. -/
theorem ReadFirst.mem_flatMap_iff {α : Type} {part : String → List α} {results : List (Option (List α))}
    (first : ReadFirst orgIds part results) (size : results.length = orgIds.length)
    (complete : results.all Option.isSome) {a : α} :
    a ∈ results.flatMap (fun result => result.getD []) ↔ a ∈ orgIds.flatMap part := by
  constructor
  · intro member
    obtain ⟨result, there, listed⟩ := List.mem_flatMap.mp member
    obtain ⟨read, rfl⟩ := Option.isSome_iff_exists.mp (List.all_eq_true.mp complete _ there)
    obtain ⟨i, bound, same⟩ := List.getElem_of_mem there
    obtain ⟨orgId, at_org, rfl⟩ := first i read (by rw [List.getElem?_eq_getElem bound, same])
    exact List.mem_flatMap.mpr ⟨orgId, List.mem_of_getElem? at_org, listed⟩
  · intro member
    obtain ⟨orgId, there, listed⟩ := List.mem_flatMap.mp member
    obtain ⟨i, bound, same⟩ := List.getElem_of_mem there
    have inside : i < results.length := by
      rw [size]
      exact bound
    obtain ⟨read, result⟩ := Option.isSome_iff_exists.mp (List.all_eq_true.mp complete _ (List.getElem_mem inside))
    obtain ⟨own, at_org, rfl⟩ := first i read (by rw [List.getElem?_eq_getElem inside, result])
    rw [List.getElem?_eq_getElem bound, Option.some.injEq, same] at at_org
    subst at_org
    exact List.mem_flatMap.mpr ⟨some (part orgId), result ▸ List.getElem_mem inside, listed⟩

/-- While nothing has been carried out, every entry of the first load is in its list or has
an operation under way that will put it back. -/
structure Restoring (orgIds : List String) (contract : List ChainRow) (state : PanelState) : Prop where
  contract_same : state.contract = contract
  entries : From (FirstApp orgIds contract) (FirstAsgn orgIds contract) state
  appResults : ∀ load ∈ state.loads, ReadFirst orgIds (applicationsOf contract) load.appResults
  asgnResults : ∀ load ∈ state.loads, ReadFirst orgIds (assignmentsOf contract) load.asgnResults
  apps : ∀ app, FirstApp orgIds contract app → app ∈ state.applications ∨ UnderWay state false app.id
  asgns : ∀ asgn ∈ orgIds.flatMap (assignmentsOf contract), asgn ∈ state.assignments ∨ UnderWay state true asgn.id

/-- No operation has just been carried out. -/
theorem NothingDone.not_advanced {op : Nat} {action : Action} {now progress : Progress} (nothing : NothingDone next)
    (found : state.operations[op]? = some ⟨action, now⟩)
    (operations : next.operations = (state.advance op action progress).operations) :
    ¬ (progress ≠ .pending ∧ progress ≠ .failed) := by
  rintro ⟨carried, out⟩
  have member : ⟨action, progress⟩ ∈ next.operations := by
    rw [operations]
    exact advanced_mem found
  exact (nothing _ member).elim carried out

theorem Effect.nothingDone (effect : Effect orgIds state next) (nothing : NothingDone next) : NothingDone state := by
  have started {action : Action} (operations : next.operations = state.operations ++ [⟨action, .pending⟩]) :
      NothingDone state :=
    fun operation member => nothing operation (by rw [operations]; exact List.mem_append_left _ member)
  have advanced {op : Nat} {action : Action} {progress : Progress}
      (found : state.operations[op]? = some ⟨action, .pending⟩)
      (operations : next.operations = (state.advance op action progress).operations) : NothingDone state := by
    intro operation member
    rcases mem_advance found member with kept | rfl
    · exact nothing operation (by rw [operations]; exact kept)
    · exact Or.inl rfl
  cases effect with
  | stay => exact nothing
  | handleAssign app shown => exact started rfl
  | handleComplete asgn shown => exact started rfl
  | handleRevoke asgn shown => exact started rfl
  | execute op action recount found permitted => exact absurd ⟨nofun, nofun⟩ (nothing.not_advanced found rfl)
  | succeed op action found => exact absurd ⟨nofun, nofun⟩ (nothing.not_advanced found rfl)
  | fail op action found => cases action <;> exact advanced found rfl
  | load => exact nothing
  | readApplications index org load orgId found there unread => exact nothing
  | readAssignments index org load orgId found there applied unread => exact nothing
  | loaded index load found complete => exact nothing
  | loadFails index load message found => exact nothing

section First
variable (once : (loadedPanel orgIds contract).ids.Nodup)
include once

/-- No two entries of the first load have the same id. -/
theorem first_app_unique {app other : Application} (first : FirstApp orgIds contract app)
    (second : FirstApp orgIds contract other) (same : app.id = other.id) : app = other :=
  List.inj_on_of_nodup_map (List.nodup_append'.mp once).1 first second same

theorem first_apart {app : Application} {asgn : Assignment} (first : FirstApp orgIds contract app)
    (second : asgn ∈ orgIds.flatMap (assignmentsOf contract)) : asgn.id ≠ app.id := by
  intro same
  exact (List.nodup_append'.mp once).2.2 (List.mem_map_of_mem first)
    (List.mem_map.mpr ⟨asgn, second, same⟩)

theorem first_asgn_unique {asgn other : Assignment} (first : asgn ∈ orgIds.flatMap (assignmentsOf contract))
    (second : FirstAsgn orgIds contract other) (same : asgn.id = other.id) : asgn = other := by
  rcases second with listed | ⟨app, applied, rfl⟩
  · exact List.inj_on_of_nodup_map (List.nodup_append'.mp once).2.1 first listed same
  · exact absurd same (first_apart once applied first)

end First

theorem Restoring.entries_effect (restoring : Restoring orgIds contract state) (effect : Effect orgIds state next) :
    From (FirstApp orgIds contract) (FirstAsgn orgIds contract) next := by
  refine restoring.entries.effect (fun app first => Or.inr ⟨app, first, rfl⟩) (fun org member => ?_) effect
  rw [restoring.contract_same]
  exact ⟨fun app listed => List.mem_flatMap.mpr ⟨org, member, listed⟩,
    fun asgn listed => Or.inl (List.mem_flatMap.mpr ⟨org, member, listed⟩)⟩

theorem Restoring.results_effect (restoring : Restoring orgIds contract state) (effect : Effect orgIds state next) :
    ∀ load ∈ next.loads, ReadFirst orgIds (applicationsOf contract) load.appResults ∧
      ReadFirst orgIds (assignmentsOf contract) load.asgnResults := by
  have stays : ∀ load ∈ state.loads, ReadFirst orgIds (applicationsOf contract) load.appResults ∧
      ReadFirst orgIds (assignmentsOf contract) load.asgnResults :=
    fun load member => ⟨restoring.appResults load member, restoring.asgnResults load member⟩
  have replaced {index : Nat} (own : Load) (loads : next.loads = state.loads.set index own)
      (first : ReadFirst orgIds (applicationsOf contract) own.appResults ∧
        ReadFirst orgIds (assignmentsOf contract) own.asgnResults) :
      ∀ load ∈ next.loads, ReadFirst orgIds (applicationsOf contract) load.appResults ∧
        ReadFirst orgIds (assignmentsOf contract) load.asgnResults := by
    intro load member
    rw [loads] at member
    rcases List.mem_or_eq_of_mem_set member with old | rfl
    · exact stays load old
    · exact first
  cases effect with
  | stay => exact stays
  | handleAssign app shown => exact stays
  | handleComplete asgn shown => exact stays
  | handleRevoke asgn shown => exact stays
  | execute op action recount found permitted => exact stays
  | succeed op action found => exact stays
  | fail op action found => cases action <;> exact stays
  | load =>
    intro load member
    rcases List.mem_append.mp member with old | new
    · exact stays load old
    · rw [List.mem_singleton.mp new]
      exact ⟨.blank, .blank⟩
  | readApplications index org load orgId found there unread =>
    obtain ⟨apps, asgns⟩ := stays load (List.mem_of_getElem? found)
    refine replaced _ rfl ⟨?_, asgns⟩
    rw [restoring.contract_same]
    exact apps.set there unread
  | readAssignments index org load orgId found there applied unread =>
    obtain ⟨apps, asgns⟩ := stays load (List.mem_of_getElem? found)
    refine replaced _ rfl ⟨apps, ?_⟩
    rw [restoring.contract_same]
    exact asgns.set there unread
  | loaded index load found complete =>
    exact replaced { load with settled := true } rfl (stays load (List.mem_of_getElem? found))
  | loadFails index load message found =>
    exact replaced { load with settled := true } rfl (stays load (List.mem_of_getElem? found))

section Homes
variable (once : (loadedPanel orgIds contract).ids.Nodup) (restoring : Restoring orgIds contract state)
  (accounts : Accounts orgIds contract state)
include once restoring accounts

/-- An application of the first load stays in its list unless its assignment is under way. -/
theorem apps_effect (effect : Effect orgIds state next) {app : Application} (first : FirstApp orgIds contract app) :
    app ∈ next.applications ∨ UnderWay next false app.id := by
  have home := restoring.apps app first
  cases effect with
  | stay => exact home
  | handleAssign other shown =>
    by_cases own : app.id = other.id
    · rw [own]
      exact Or.inr (underWay_of_started (.assign other) rfl)
    · exact home.imp (fun there => List.mem_filter.mpr ⟨there, decide_eq_true own⟩) fun moving => moving.started rfl
  | handleComplete asgn shown => exact home.imp_right fun moving => moving.started rfl
  | handleRevoke asgn shown => exact home.imp_right fun moving => moving.started rfl
  | execute op action recount found permitted => exact home.imp_right fun moving => moving.advanced found (by decide)
  | succeed op action found => exact home.imp_right fun moving => moving.advanced found (by decide)
  | fail op action found =>
    have kind := restoring.entries.operations _ (List.mem_of_getElem? found)
    cases action with
    | assign other =>
      rcases home with there | moving
      · exact Or.inl (List.mem_append_left _ there)
      · rcases moving.failed found with still | ⟨_, own⟩
        · exact Or.inr still
        · cases first_app_unique once kind first own
          exact Or.inl (List.mem_append_right _ (List.mem_singleton_self _))
    | complete asgn =>
      refine home.imp_right fun moving => (moving.failed found).resolve_right fun closing => ?_
      cases closing.1
    | revoke asgn =>
      refine home.imp_right fun moving => (moving.failed found).resolve_right fun closing => ?_
      cases closing.1
  | load => exact home
  | readApplications index org load orgId found there unread => exact home
  | readAssignments index org load orgId found there applied unread => exact home
  | loaded index load found complete =>
    have own := List.mem_of_getElem? found
    have size := (accounts.answered load own).sizes.1
    exact Or.inl (((restoring.appResults load own).mem_flatMap_iff size complete.2.1).mpr first)
  | loadFails index load message found => exact home

/-- An assignment of the first load stays in its list unless an operation closes it. -/
theorem asgns_effect (effect : Effect orgIds state next) {asgn : Assignment}
    (first : asgn ∈ orgIds.flatMap (assignmentsOf contract)) : asgn ∈ next.assignments ∨ UnderWay next true asgn.id := by
  have home := restoring.asgns asgn first
  have left (other : Assignment) (closing : Action) (kind : closing.closes = true) (about : closing.id = other.id)
      (operations : next.operations = state.operations ++ [⟨closing, .pending⟩])
      (assignments : next.assignments = state.assignments.filter fun a => a.id ≠ other.id) :
      asgn ∈ next.assignments ∨ UnderWay next true asgn.id := by
    by_cases own : asgn.id = other.id
    · rw [own, ← about, ← kind]
      exact Or.inr (underWay_of_started closing operations)
    · rw [assignments]
      exact home.imp (fun there => List.mem_filter.mpr ⟨there, decide_eq_true own⟩) fun moving => moving.started operations
  have back {op : Nat} (other : Assignment) (closing : Action) (kind : FirstAsgn orgIds contract other)
      (about : closing.id = other.id) (found : state.operations[op]? = some ⟨closing, .pending⟩)
      (rolled : next = (state.advance op closing .failed).rollBack closing)
      (assignments : next.assignments = state.assignments ++ [other]) :
      asgn ∈ next.assignments ∨ UnderWay next true asgn.id := by
    rw [assignments, rolled]
    rcases home with there | moving
    · exact Or.inl (List.mem_append_left _ there)
    · rcases moving.failed found with still | ⟨_, own⟩
      · exact Or.inr still
      · cases first_asgn_unique once first kind (about ▸ own.symm)
        exact Or.inl (List.mem_append_right _ (List.mem_singleton_self _))
  cases effect with
  | stay => exact home
  | handleAssign other shown =>
    exact home.imp (fun there => List.mem_append_left _ there) fun closing => closing.started rfl
  | handleComplete other shown => exact left other (.complete other) rfl rfl rfl rfl
  | handleRevoke other shown => exact left other (.revoke other) rfl rfl rfl rfl
  | execute op action recount found permitted => exact home.imp_right fun closing => closing.advanced found (by decide)
  | succeed op action found => exact home.imp_right fun closing => closing.advanced found (by decide)
  | fail op action found =>
    have kind := restoring.entries.operations _ (List.mem_of_getElem? found)
    cases action with
    | assign other =>
      have apart := first_apart once kind first
      refine home.imp (fun there => List.mem_filter.mpr ⟨there, decide_eq_true apart⟩) fun closing => ?_
      refine (closing.failed found).resolve_right fun own => ?_
      cases own.1
    | complete other => exact back other _ kind rfl found rfl rfl
    | revoke other => exact back other _ kind rfl found rfl rfl
  | load => exact home
  | readApplications index org load orgId found there unread => exact home
  | readAssignments index org load orgId found there applied unread => exact home
  | loaded index load found complete =>
    have own := List.mem_of_getElem? found
    have size := (accounts.answered load own).sizes.2
    exact Or.inl (((restoring.asgnResults load own).mem_flatMap_iff size complete.2.2).mpr first)
  | loadFails index load message found => exact home

theorem Restoring.effect (effect : Effect orgIds state next) (nothing : NothingDone next) :
    Restoring orgIds contract next where
  contract_same := by
    cases effect with
    | execute op action recount found permitted => exact absurd ⟨nofun, nofun⟩ (nothing.not_advanced found rfl)
    | fail op action found => cases action <;> exact restoring.contract_same
    | _ => exact restoring.contract_same
  entries := restoring.entries_effect effect
  appResults := fun load member => (restoring.results_effect effect load member).1
  asgnResults := fun load member => (restoring.results_effect effect load member).2
  apps := fun _ first => apps_effect once restoring accounts effect first
  asgns := fun _ first => asgns_effect once restoring accounts effect first

end Homes

theorem Restoring.render (restoring : Restoring orgIds contract state) : Restoring orgIds contract state.render :=
  ⟨restoring.contract_same, restoring.entries.render, restoring.appResults, restoring.asgnResults, restoring.apps,
    restoring.asgns⟩

end Restoring

section Runs
variable {orgIds : List String} {state : PanelState} {contract : List ChainRow}

/-- No id is listed twice, none of the first load is missing without a completion or
revocation of it on its way or successful, and once every operation has failed both lists
have the entries of the first load. -/
structure RolledBack (orgIds : List String) (contract : List ChainRow) (state : PanelState) : Prop where
  once : state.ids.Nodup
  accounted : ∀ id ∈ (loadedPanel orgIds contract).ids, id ∈ state.ids ∨ UnderWay state true id
  restored : (∀ operation ∈ state.operations, operation.progress = .failed) →
    (∀ app, app ∈ state.applications ↔ app ∈ (loadedPanel orgIds contract).applications) ∧
      ∀ asgn, asgn ∈ state.assignments ↔ asgn ∈ (loadedPanel orgIds contract).assignments

/-- What a run without clashes keeps. -/
structure PanelInv (orgIds : List String) (contract : List ChainRow) (state : PanelState) : Prop where
  once : state.ids.Nodup
  formed : From AppFormed AsgnFormed state
  accounts : Accounts orgIds contract state
  restoring : NothingDone state → Restoring orgIds contract state

theorem PanelInv.loaded (once : (loadedPanel orgIds contract).ids.Nodup) :
    PanelInv orgIds contract (loadedPanel orgIds contract) where
  once := once
  formed := by
    have apps : ∀ app ∈ orgIds.flatMap (applicationsOf contract), AppFormed app := by
      intro app member
      obtain ⟨orgId, _, listed⟩ := List.mem_flatMap.mp member
      exact applicationsOf_formed contract orgId app listed
    have asgns : ∀ asgn ∈ orgIds.flatMap (assignmentsOf contract), AsgnFormed asgn := by
      intro asgn member
      obtain ⟨orgId, _, listed⟩ := List.mem_flatMap.mp member
      exact assignmentsOf_formed contract orgId asgn listed
    refine From.render ⟨apps, asgns, ?_, ?_, ?_, ?_, ?_⟩
    all_goals exact fun _ member => absurd member List.not_mem_nil
  accounts := {
    kept := fun _ carries => Or.inl carries
    answered := fun _ member => absurd member List.not_mem_nil
    listed := fun target carries org => by
      refine Or.inl ?_
      by_cases applies : Applies contract target
      · obtain ⟨app, member, same⟩ := List.mem_map.mp applies.listed
        exact List.mem_append_left _ (List.mem_map.mpr ⟨app, List.mem_flatMap.mpr ⟨_, org, member⟩, same⟩)
      · obtain ⟨asgn, member, same⟩ := List.mem_map.mp (carries.listed applies)
        exact List.mem_append_right _ (List.mem_map.mpr ⟨asgn, List.mem_flatMap.mpr ⟨_, org, member⟩, same⟩) }
  restoring := fun _ => by
    have nothing_to_do : From (FirstApp orgIds contract) (FirstAsgn orgIds contract) (loadedPanel orgIds contract) := by
      refine From.render ⟨fun _ member => member, fun _ member => Or.inl member, ?_, ?_, ?_, ?_, ?_⟩
      all_goals exact fun _ member => absurd member List.not_mem_nil
    exact ⟨rfl, nothing_to_do, fun _ member => absurd member List.not_mem_nil,
      fun _ member => absurd member List.not_mem_nil, fun _ first => Or.inl first, fun _ first => Or.inl first⟩

theorem PanelInv.step (once : (loadedPanel orgIds contract).ids.Nodup) {event : PanelEvent}
    (clear : NoClash state event) (inv : PanelInv orgIds contract state) :
    PanelInv orgIds contract (step orgIds state event) := by
  have effect := change_effect orgIds state event
  have formed : From AppFormed AsgnFormed (change orgIds state event) :=
    inv.formed.effect (fun _ own => own)
      (fun org _ => ⟨applicationsOf_formed state.contract org, assignmentsOf_formed state.contract org⟩) effect
  have accounts := inv.accounts.effect inv.formed effect
  refine ⟨(step_nodup_iff inv.once event).mpr clear, formed.render, ⟨accounts.kept, ?_, accounts.listed⟩, ?_⟩
  · exact fun load member => (accounts.answered load member).mono (.of_operations rfl rfl)
  · intro nothing
    exact ((inv.restoring (effect.nothingDone nothing)).effect once inv.accounts effect nothing).render

/-- An id of the first load belongs to something on the contract. -/
theorem loaded_target {id : String} (listed : id ∈ (loadedPanel orgIds contract).ids) :
    ∃ target, Carries contract target ∧ target.org ∈ orgIds ∧ target.id = id := by
  rcases List.mem_append.mp listed with applied | assigned
  · obtain ⟨app, member, rfl⟩ := List.mem_map.mp applied
    obtain ⟨orgId, org, own⟩ := List.mem_flatMap.mp member
    obtain ⟨row, on_chain, rfl, _, same⟩ := mem_application_ids.mp (List.mem_map_of_mem own)
    exact ⟨row.target, ⟨row, on_chain, rfl⟩, org, same⟩
  · obtain ⟨asgn, member, rfl⟩ := List.mem_map.mp assigned
    obtain ⟨orgId, org, own⟩ := List.mem_flatMap.mp member
    obtain ⟨row, on_chain, rfl, _, same⟩ := mem_assignment_ids.mp (List.mem_map_of_mem own)
    exact ⟨row.target, ⟨row, on_chain, rfl⟩, org, same⟩

theorem PanelInv.rolledBack (inv : PanelInv orgIds contract state) : RolledBack orgIds contract state where
  once := inv.once
  accounted := fun id listed => by
    obtain ⟨target, carries, org, rfl⟩ := loaded_target listed
    exact inv.accounts.listed target carries org
  restored := fun failed => by
    have restoring := inv.restoring fun operation member => Or.inr (failed operation member)
    have settled {closes : Bool} {id : String} : ¬ UnderWay state closes id := by
      rintro ⟨operation, member, _, _, is_open⟩
      exact is_open (failed operation member)
    have apps : ∀ app, app ∈ state.applications ↔ FirstApp orgIds contract app :=
      fun app => ⟨restoring.entries.applications app, fun first => (restoring.apps app first).resolve_right settled⟩
    refine ⟨apps, fun asgn => ⟨fun listed => ?_, fun first => (restoring.asgns asgn first).resolve_right settled⟩⟩
    rcases restoring.entries.assignments asgn listed with first | ⟨app, first, rfl⟩
    · exact first
    · -- what an application had become would be listed beside it
      exact absurd (List.mem_map_of_mem listed)
        ((List.nodup_append'.mp inv.once).2.2 (List.mem_map_of_mem ((apps app).mpr first)))

/-- From a first load that lists every id once, the panel rolls back cleanly throughout a run
exactly if no step of the run meets a clash, as in every schedule that keeps its calls apart
(`noClash_of_keptApart`). -/
theorem panel_rolls_back_iff (once : (loadedPanel orgIds contract).ids.Nodup) (events : List PanelEvent) :
    Run.Always (step orgIds) (loadedPanel orgIds contract) (RolledBack orgIds contract) events ↔
      Run.EachStep (step orgIds) (loadedPanel orgIds contract) NoClash events := by
  constructor
  · intro always
    have ids : Run.Always (step orgIds) (loadedPanel orgIds contract) (fun state => state.ids.Nodup) events :=
      fun before earlier => (always before earlier).once
    have any : ∀ (state : PanelState) (event : PanelEvent), True → True := fun _ _ _ => trivial
    have exact_step : ∀ (state : PanelState) (event : PanelEvent), True → state.ids.Nodup →
        ((step orgIds state event).ids.Nodup ↔ NoClash state event) := fun _ event _ nodup => step_nodup_iff nodup event
    exact (Run.always_iff_eachStep trivial any once exact_step events).mp ids
  · intro each before earlier
    have inv := Run.exec_invariant_each (PanelInv.loaded once) (fun _ _ clear inv => inv.step once clear)
      (each.of_prefix earlier)
    exact inv.rolledBack

/-- One assignment of one contributor. -/
def oneAssignment : List ChainRow := [⟨⟨"org", "GABC", "7"⟩, "2026-01-05", some 1, some 1, true⟩]

def assignedEntry : Assignment := ⟨"org-GABC-7", "GABC", "org", "Issue #7", some 1, some 1⟩

/-- An application of another contributor beside it. -/
def twoRows : List ChainRow := ⟨⟨"org", "GDEF", "9"⟩, "2026-01-06", some 2, some 1, false⟩ :: oneAssignment

def appliedEntry : Application := ⟨"org-GDEF-9", "GDEF", "org", "Issue #9", "2026-01-06", some 2, some 1⟩

/-- The application is assigned while the completion is on its way, and both fail. -/
def bothFail : List PanelEvent := [.handleComplete assignedEntry, .handleAssign appliedEntry, .fail 0, .fail 1]

theorem overlapping_calls_rolled_back :
    Run.Always (step ["org"]) (loadedPanel ["org"] twoRows) (RolledBack ["org"] twoRows) bothFail := by
  have once : (loadedPanel ["org"] twoRows).ids.Nodup := by
    have two : (loadedPanel ["org"] twoRows).ids = ["org-GDEF-9", "org-GABC-7"] := by decide
    rw [two]
    decide
  refine (panel_rolls_back_iff once _).mpr (noClash_of_keptApart once ?_)
  refine Run.eachStep_cons ⟨by decide, by decide⟩ (Run.eachStep_cons ⟨by decide, by decide⟩ ?_)
  exact Run.eachStep_cons trivial (Run.eachStep_cons trivial Run.eachStep_nil)

/-- The panel is reloaded while a completion is on its way, which then fails. -/
def reloadedMeanwhile : List PanelEvent :=
  [.handleComplete assignedEntry, .load, .readApplications 0 0, .readAssignments 0 0, .loaded 0, .fail 0]

theorem reloaded_entry_listed_twice : ¬ Run.Always (step ["org"]) (loadedPanel ["org"] oneAssignment)
    (RolledBack ["org"] oneAssignment) reloadedMeanwhile := by
  intro always
  have once := always.last.once
  have twice : (Run.exec (step ["org"]) (loadedPanel ["org"] oneAssignment) reloadedMeanwhile).ids =
      ["org-GABC-7", "org-GABC-7"] := by decide
  rw [twice] at once
  exact absurd once (by decide)

end Runs

end MaintainerPanel

end WorkloadGovernor
