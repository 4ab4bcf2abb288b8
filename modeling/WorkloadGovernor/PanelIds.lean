import Mathlib.Data.List.Nodup
import WorkloadGovernor.MaintainerPanel

namespace WorkloadGovernor

namespace MaintainerPanel
open PanelState

/-- The ids of both lists. -/
def PanelState.ids (state : PanelState) : List String :=
  state.applications.map Application.id ++ state.assignments.map Assignment.id

/-- The ids that a run of `load` reports. -/
def Load.ids (load : Load) : List String :=
  (load.appResults.flatMap fun result => result.getD []).map Application.id ++
    (load.asgnResults.flatMap fun result => result.getD []).map Assignment.id

/-- What the step does to the lists meets no id that it would put there a second time: an
entry is assigned that is not among the assignments, a failed assignment goes back to
applications without it, any other failed call to lists without it, and a reload reports
every id once. -/
def NoClash (state : PanelState) : PanelEvent → Prop
  | .handleAssign app => app ∈ state.shownApplications → app.id ∉ state.assignments.map Assignment.id
  | .fail op => ∀ action, state.operations[op]? = some ⟨action, .pending⟩ →
      action.id ∉ state.applications.map Application.id ∧
        (action.closes = true → action.id ∉ state.assignments.map Assignment.id)
  | .loaded index => ∀ load, state.loads[index]? = some load → load.Complete → load.ids.Nodup
  | _ => True

section Ids
variable {first second : List String} {id : String}

/-- An id that moves from one list to the other is there once if it was not there before. -/
theorem nodup_moved_iff (once : (first ++ second).Nodup) :
    (first.filter (fun other => other ≠ id) ++ (second ++ [id])).Nodup ↔ id ∉ second := by
  obtain ⟨left, right, apart⟩ := List.nodup_append'.mp once
  constructor
  · intro nodup there
    have later := (List.nodup_append'.mp nodup).2.1
    exact (List.nodup_append'.mp later).2.2 there (List.mem_singleton_self _)
  · intro fresh
    refine List.nodup_append'.mpr ⟨left.filter _, List.nodup_append'.mpr ⟨right, List.nodup_singleton _, ?_⟩, ?_⟩
    · intro other there same
      rw [List.mem_singleton.mp same] at there
      exact fresh there
    · intro other member there
      obtain ⟨in_first, different⟩ := List.mem_filter.mp member
      rcases List.mem_append.mp there with in_second | same
      · exact apart in_first in_second
      · exact of_decide_eq_true different (List.mem_singleton.mp same)

/-- So it is on its way back. -/
theorem nodup_moved_back_iff (once : (first ++ second).Nodup) :
    (first ++ [id] ++ second.filter fun other => other ≠ id).Nodup ↔ id ∉ first := by
  have swapped : (second ++ first).Nodup := List.perm_append_comm.nodup_iff.mp once
  rw [List.perm_append_comm.nodup_iff]
  exact nodup_moved_iff swapped

/-- An id that is put back must have been in neither list. -/
theorem nodup_restored_iff (once : (first ++ second).Nodup) :
    (first ++ (second ++ [id])).Nodup ↔ id ∉ first ∧ id ∉ second := by
  rw [← List.append_assoc, List.nodup_append', ← not_or, ← List.mem_append]
  constructor
  · rintro ⟨_, _, apart⟩ there
    exact apart there (List.mem_singleton_self _)
  · intro fresh
    refine ⟨once, List.nodup_singleton _, fun other there same => ?_⟩
    rw [List.mem_singleton.mp same] at there
    exact fresh there

end Ids

section Once
variable {orgIds : List String} {state : PanelState}

@[simp] theorem ids_render (state : PanelState) : state.render.ids = state.ids := rfl

/-- The call to the contract has no part in the lists. -/
@[simp] theorem ids_start (state : PanelState) (action : Action) : (state.start action).ids = state.ids := rfl

theorem map_id_filter {α : Type} (entries : List α) (idOf : α → String) (id : String) :
    (entries.filter fun a => idOf a ≠ id).map idOf = (entries.map idOf).filter fun other => other ≠ id := by
  rw [List.filter_map]
  rfl

/-- The id goes from the applications to the assignments. -/
theorem ids_handleAssign (state : PanelState) (app : Application) : (state.handleAssign app).ids =
    (state.applications.map Application.id).filter (fun id => id ≠ app.id) ++
      (state.assignments.map Assignment.id ++ [app.id]) := by
  rw [handleAssign, ids_start, PanelState.ids, map_id_filter, List.map_append]
  rfl

/-- A completion takes its entry out of the assignments at once. -/
theorem ids_handleComplete (state : PanelState) (asgn : Assignment) : (state.handleComplete asgn).ids =
    state.applications.map Application.id ++
      (state.assignments.map Assignment.id).filter fun id => id ≠ asgn.id := by
  rw [handleComplete, ids_start, PanelState.ids, map_id_filter]

theorem ids_handleRevoke (state : PanelState) (asgn : Assignment) : (state.handleRevoke asgn).ids =
    state.applications.map Application.id ++
      (state.assignments.map Assignment.id).filter fun id => id ≠ asgn.id := by
  rw [handleRevoke, ids_start, PanelState.ids, map_id_filter]

/-- The id comes back to the list that the entry was taken from. -/
theorem ids_rollBack (state : PanelState) (action : Action) : (state.rollBack action).ids =
    if action.closes then state.applications.map Application.id ++ (state.assignments.map Assignment.id ++ [action.id])
    else state.applications.map Application.id ++ [action.id] ++
      (state.assignments.map Assignment.id).filter fun id => id ≠ action.id := by
  cases action with
  | assign app =>
    rw [rollBack, PanelState.ids, map_id_filter, List.map_append]
    rfl
  | complete asgn => rw [rollBack, PanelState.ids, List.map_append]; rfl
  | revoke asgn => rw [rollBack, PanelState.ids, List.map_append]; rfl

/-- Taking an entry out leaves no id twice. -/
theorem closed_nodup (once : state.ids.Nodup) (id : String) : (state.applications.map Application.id ++
    (state.assignments.map Assignment.id).filter fun other => other ≠ id).Nodup :=
  once.sublist (List.filter_sublist.append_left _)

/-- A failed call keeps every id in one place exactly if its own is not there again. -/
theorem rollBack_nodup_iff (once : state.ids.Nodup) (action : Action) : (state.rollBack action).ids.Nodup ↔
    action.id ∉ state.applications.map Application.id ∧
      (action.closes = true → action.id ∉ state.assignments.map Assignment.id) := by
  rw [ids_rollBack]
  cases closes : action.closes with
  | false =>
    rw [if_neg Bool.false_ne_true, nodup_moved_back_iff once]
    exact (and_iff_left fun closed => absurd closed Bool.false_ne_true).symm
  | true =>
    rw [if_pos rfl, nodup_restored_iff once]
    exact and_congr_right fun _ => ⟨fun fresh _ => fresh, fun fresh => fresh rfl⟩

/-- Assigning lists an id twice just if it is among the assignments already. -/
theorem handleAssign_nodup_iff (once : state.ids.Nodup) (app : Application) :
    (change orgIds state (.handleAssign app)).ids.Nodup ↔ NoClash state (.handleAssign app) := by
  rw [change, NoClash]
  split
  · rename_i shown
    rw [ids_handleAssign, nodup_moved_iff once]
    exact ⟨fun fresh _ => fresh, fun fresh => fresh shown⟩
  · rename_i hidden
    exact iff_of_true once fun shown => absurd shown hidden

theorem handleComplete_nodup (once : state.ids.Nodup) (asgn : Assignment) :
    (change orgIds state (.handleComplete asgn)).ids.Nodup := by
  rw [change]
  split
  · rw [ids_handleComplete]
    exact closed_nodup once _
  · exact once

theorem handleRevoke_nodup (once : state.ids.Nodup) (asgn : Assignment) :
    (change orgIds state (.handleRevoke asgn)).ids.Nodup := by
  rw [change]
  split
  · rw [ids_handleRevoke]
    exact closed_nodup once _
  · exact once

/-- What is rolled back is listed twice just if it has come back before. -/
theorem fail_nodup_iff (once : state.ids.Nodup) (op : Nat) :
    (change orgIds state (.fail op)).ids.Nodup ↔ NoClash state (.fail op) := by
  rw [change, NoClash]
  split
  · rename_i action found
    rw [rollBack_nodup_iff (by exact once)]
    constructor
    · intro fresh other same
      cases found.symm.trans same
      exact fresh
    · exact fun fresh => fresh action found
  · rename_i settled
    exact iff_of_true once fun action found => absurd found (settled action)

/-- A reload is answered with lists of its own. -/
theorem loaded_nodup_iff (once : state.ids.Nodup) (index : Nat) :
    (change orgIds state (.loaded index)).ids.Nodup ↔ NoClash state (.loaded index) := by
  rw [change, NoClash]
  split
  · rename_i load found
    split
    · rename_i complete
      constructor
      · intro nodup other same _
        cases found.symm.trans same
        exact nodup
      · exact fun fresh => fresh load found complete
    · rename_i incomplete
      refine iff_of_true once fun other same complete => ?_
      cases found.symm.trans same
      exact absurd complete incomplete
  · rename_i absent
    exact iff_of_true once fun load found => by rw [absent] at found; cases found

/-- What the contract does, and what a reload collects until it is complete, change no list. -/
def PanelEvent.quiet : PanelEvent → Bool
  | .execute _ _ | .succeed _ | .load | .readApplications _ _ | .readAssignments _ _ | .loadFails _ _ => true
  | _ => false

/-- A quiet event leaves both lists as they are. -/
theorem quiet_lists (orgIds : List String) (state : PanelState) {event : PanelEvent} (quiet : event.quiet = true) :
    (change orgIds state event).applications = state.applications ∧
      (change orgIds state event).assignments = state.assignments := by
  cases event with
  | load => exact ⟨rfl, rfl⟩
  | succeed op =>
    rw [change]
    split <;> exact ⟨rfl, rfl⟩
  | execute op recount | readApplications index org | readAssignments index org | loadFails index message =>
    rw [change]
    split
    · split <;> exact ⟨rfl, rfl⟩
    · exact ⟨rfl, rfl⟩
  | _ => cases quiet

theorem quiet_nodup (once : state.ids.Nodup) {event : PanelEvent} (quiet : event.quiet = true) :
    (change orgIds state event).ids.Nodup := by
  obtain ⟨applications, assignments⟩ := quiet_lists orgIds state quiet
  rw [PanelState.ids, applications, assignments]
  exact once

/-- A step keeps every id in one place exactly if it meets no clash. -/
theorem step_nodup_iff (once : state.ids.Nodup) (event : PanelEvent) :
    (step orgIds state event).ids.Nodup ↔ NoClash state event := by
  rw [step, ids_render]
  cases event with
  | handleAssign app => exact handleAssign_nodup_iff once app
  | handleComplete asgn => exact iff_of_true (handleComplete_nodup once asgn) trivial
  | handleRevoke asgn => exact iff_of_true (handleRevoke_nodup once asgn) trivial
  | fail op => exact fail_nodup_iff once op
  | loaded index => exact loaded_nodup_iff once index
  | _ => exact iff_of_true (quiet_nodup once rfl) trivial

end Once

section Schedules
variable {orgIds : List String} {state next : PanelState} {contract : List ChainRow} {id : String}

/-- No call for the id is waiting for the contract. -/
def Idle (state : PanelState) (id : String) : Prop :=
  ∀ operation ∈ state.operations, operation.progress = .pending → operation.action.id ≠ id

instance (state : PanelState) (id : String) : Decidable (Idle state id) := List.decidableBAll _ _

/-- A call that is pending is about another entry. -/
theorem Idle.ne {op : Nat} {action : Action} (idle : Idle state id)
    (found : state.operations[op]? = some ⟨action, .pending⟩) : action.id ≠ id :=
  idle _ (List.mem_of_getElem? found) rfl

/-- The calls of a schedule that keeps them apart: a handler is called on an entry that is listed just then and has no
call pending, and a reload is applied that reports no id twice and none with a call pending. -/
def KeptApart (state : PanelState) : PanelEvent → Prop
  | .handleAssign app => app ∈ state.applications ∧ Idle state app.id
  | .handleComplete asgn | .handleRevoke asgn => asgn ∈ state.assignments ∧ Idle state asgn.id
  | .loaded index => ∀ load, state.loads[index]? = some load → load.Complete → load.ids.Nodup ∧
      ∀ id ∈ load.ids, Idle state id
  | _ => True

/-- Each pending call has an id of its own, which is not where a failure would put it. -/
structure Separate (state : PanelState) : Prop where
  once : state.ids.Nodup
  fresh : ∀ (op : Nat) (action : Action), state.operations[op]? = some ⟨action, .pending⟩ →
    action.id ∉ state.applications.map Application.id ∧
      (action.closes = true → action.id ∉ state.assignments.map Assignment.id)
  own : ∀ (op other : Nat) (action second : Action), state.operations[op]? = some ⟨action, .pending⟩ →
    state.operations[other]? = some ⟨second, .pending⟩ → action.id = second.id → op = other

/-- Entries kept apart from the pending calls do not clash. -/
theorem Separate.noClash (separate : Separate state) {event : PanelEvent} (apart : KeptApart state event) :
    NoClash state event := by
  cases event with
  | handleAssign app =>
    intro _ assigned
    exact (List.nodup_append'.mp separate.once).2.2 (List.mem_map_of_mem apart.1) assigned
  | fail op => exact separate.fresh op
  | loaded index => exact fun load found complete => (apart load found complete).1
  | _ => exact trivial

/-- No call is added, and no id is listed anew with a call pending. -/
theorem Separate.fewer (separate : Separate state) (once : next.ids.Nodup)
    (pending : ∀ (op : Nat) (action : Action), next.operations[op]? = some ⟨action, .pending⟩ →
      state.operations[op]? = some ⟨action, .pending⟩ ∧
        (action.id ∈ next.applications.map Application.id → action.id ∈ state.applications.map Application.id) ∧
        (action.id ∈ next.assignments.map Assignment.id → action.id ∈ state.assignments.map Assignment.id)) :
    Separate next where
  once := once
  fresh := by
    intro op action found
    obtain ⟨before, applied, assigned⟩ := pending op action found
    obtain ⟨unapplied, unassigned⟩ := separate.fresh op action before
    exact ⟨fun there => unapplied (applied there), fun closes there => unassigned closes (assigned there)⟩
  own := fun op other action second first last => separate.own op other action second (pending op action first).1
    (pending other second last).1

/-- A call is started on an idle id, which leaves the list it would be put back to. -/
theorem Separate.started (separate : Separate state) {action : Action} (idle : Idle state action.id)
    (once : next.ids.Nodup) (operations : next.operations = state.operations ++ [⟨action, .pending⟩])
    (applied : ∀ id ≠ action.id, id ∈ next.applications.map Application.id → id ∈ state.applications.map Application.id)
    (assigned : ∀ id ≠ action.id, id ∈ next.assignments.map Assignment.id → id ∈ state.assignments.map Assignment.id)
    (left : action.id ∉ next.applications.map Application.id ∧
      (action.closes = true → action.id ∉ next.assignments.map Assignment.id)) : Separate next := by
  have found {op : Nat} {other : Action} (there : next.operations[op]? = some ⟨other, .pending⟩) :
      state.operations[op]? = some ⟨other, .pending⟩ ∨ op = state.operations.length ∧ other = action := by
    rw [operations] at there
    rcases Nat.lt_or_ge op state.operations.length with inside | outside
    · exact Or.inl ((List.getElem?_append_left inside).symm.trans there)
    · rw [List.getElem?_append_right outside] at there
      have last := (List.getElem?_eq_some_iff.mp there).1
      rw [List.length_singleton] at last
      cases List.mem_singleton.mp (List.mem_of_getElem? there)
      exact Or.inr ⟨by omega, rfl⟩
  refine ⟨once, fun op other there => ?_, fun op other first second one two same => ?_⟩
  · rcases found there with before | ⟨_, rfl⟩
    · have different := idle.ne before
      obtain ⟨unapplied, unassigned⟩ := separate.fresh op other before
      exact ⟨fun listed => unapplied (applied _ different listed),
        fun closes listed => unassigned closes (assigned _ different listed)⟩
    · exact left
  · rcases found one with before | ⟨at_op, rfl⟩
    · rcases found two with earlier | ⟨_, rfl⟩
      · exact separate.own op other first second before earlier same
      · exact absurd same (idle.ne before)
    · rcases found two with earlier | ⟨at_other, _⟩
      · exact absurd same.symm (idle.ne earlier)
      · rw [at_op, at_other]

/-- A call that is still pending after another has ended was pending before. -/
theorem pending_of_advance {op other : Nat} {action second : Action} {progress : Progress} (settled : progress ≠ .pending)
    (found : (state.advance op action progress).operations[other]? = some ⟨second, .pending⟩) :
    op ≠ other ∧ state.operations[other]? = some ⟨second, .pending⟩ := by
  have apart : op ≠ other := by
    rintro rfl
    rw [advance, List.getElem?_set_self'] at found
    obtain ⟨_, _, same⟩ := Option.map_eq_some_iff.mp found
    cases same
    exact settled rfl
  refine ⟨apart, ?_⟩
  rw [advance, List.getElem?_set_ne apart] at found
  exact found

theorem quiet_pending {event : PanelEvent} (quiet : event.quiet = true) {op : Nat} {action : Action}
    (found : (change orgIds state event).operations[op]? = some ⟨action, .pending⟩) :
    state.operations[op]? = some ⟨action, .pending⟩ := by
  cases event with
  | load => exact found
  | succeed other =>
    rw [change] at found
    split at found
    · exact (pending_of_advance (show Progress.succeeded ≠ .pending by decide) found).2
    · exact found
  | execute other recount =>
    rw [change] at found
    split at found
    · split at found
      · exact (pending_of_advance (show Progress.executed ≠ .pending by decide) found).2
      · exact found
    · exact found
  | readApplications index org | readAssignments index org | loadFails index message =>
    rw [change] at found
    split at found
    · split at found
      · exact found
      · exact found
    · exact found
  | _ => cases quiet

/-- Nothing else comes back with a failed call. -/
theorem mem_rollBack {action : Action} (different : id ≠ action.id) :
    (id ∈ (state.rollBack action).applications.map Application.id → id ∈ state.applications.map Application.id) ∧
      (id ∈ (state.rollBack action).assignments.map Assignment.id → id ∈ state.assignments.map Assignment.id) := by
  have last {before : List String} (there : id ∈ before ++ [action.id]) : id ∈ before :=
    (List.mem_append.mp there).resolve_right fun same => different (List.mem_singleton.mp same)
  cases action with
  | assign app =>
    refine ⟨fun there => ?_, fun there => (List.filter_sublist.map _).subset there⟩
    rw [rollBack, List.map_append] at there
    exact last there
  | complete asgn | revoke asgn =>
    refine ⟨fun there => there, fun there => ?_⟩
    rw [rollBack, List.map_append] at there
    exact last there

/-- An entry that is completed or revoked leaves the assignments. -/
theorem Separate.closed (separate : Separate state) {asgn : Assignment} (listed : asgn ∈ state.assignments)
    {action : Action} (same : action.id = asgn.id) (idle : Idle state asgn.id) :
    Separate (start { state with assignments := state.assignments.filter fun a => a.id ≠ asgn.id } action) := by
  refine separate.started (same ▸ idle) ?_ rfl (fun _ _ there => there)
    (fun _ _ there => (List.filter_sublist.map _).subset there) ⟨?_, fun _ => ?_⟩
  · rw [ids_start, PanelState.ids, map_id_filter]
    exact closed_nodup separate.once _
  · rw [same]
    exact fun applied => (List.nodup_append'.mp separate.once).2.2 applied (List.mem_map_of_mem listed)
  · intro there
    obtain ⟨other, kept, own⟩ := List.mem_map.mp there
    exact of_decide_eq_true (List.mem_filter.mp kept).2 (own.trans same)

/-- An application without a pending call is moved, and its own call is the one that is pending. -/
theorem Separate.assigned (separate : Separate state) {app : Application} (listed : app ∈ state.applications)
    (idle : Idle state app.id) : Separate (state.handleAssign app) := by
  have unassigned : app.id ∉ state.assignments.map Assignment.id :=
    (List.nodup_append'.mp separate.once).2.2 (List.mem_map_of_mem listed)
  have own : Idle state (Action.assign app).id := idle
  refine separate.started own ?_ rfl
    (fun _ _ there => (List.filter_sublist.map _).subset there) (fun id different there => ?_)
    ⟨fun there => ?_, fun closes => absurd closes Bool.false_ne_true⟩
  · rw [ids_handleAssign, nodup_moved_iff separate.once]
    exact unassigned
  · have longer : id ∈ state.assignments.map Assignment.id ++ [app.id] := by
      rw [handleAssign, start, List.map_append] at there
      exact there
    exact (List.mem_append.mp longer).resolve_right fun same => different (List.mem_singleton.mp same)
  · obtain ⟨other, kept, own⟩ := List.mem_map.mp there
    exact of_decide_eq_true (List.mem_filter.mp kept).2 own

theorem Separate.quieted (separate : Separate state) {event : PanelEvent} (quiet : event.quiet = true) :
    Separate (change orgIds state event) := by
  obtain ⟨applications, assignments⟩ := quiet_lists orgIds state quiet
  refine separate.fewer (quiet_nodup separate.once quiet) fun op action pending => ?_
  rw [applications, assignments]
  exact ⟨quiet_pending quiet pending, fun there => there, fun there => there⟩

/-- Each event of a schedule that keeps the calls apart leaves them apart. -/
theorem Separate.changed (separate : Separate state) {event : PanelEvent} (apart : KeptApart state event) :
    Separate (change orgIds state event) := by
  have once : (change orgIds state event).ids.Nodup :=
    (step_nodup_iff separate.once event).mpr (separate.noClash apart)
  cases event with
  | handleAssign app =>
    rw [change]
    split
    · exact separate.assigned apart.1 apart.2
    · exact separate
  | handleComplete asgn | handleRevoke asgn =>
    rw [change]
    split
    · exact separate.closed apart.1 rfl apart.2
    · exact separate
  | fail op =>
    rw [change] at once ⊢
    split
    · rename_i action found
      rw [found] at once
      refine separate.fewer once fun other second still => ?_
      have before : (state.advance op action .failed).operations[other]? = some ⟨second, .pending⟩ := by
        cases action <;> exact still
      obtain ⟨different, pending⟩ := pending_of_advance (show Progress.failed ≠ .pending by decide) before
      have ids : second.id ≠ action.id := fun same => different (separate.own op other action second found pending same.symm)
      exact ⟨pending, mem_rollBack ids⟩
    · exact separate
  | loaded index =>
    rw [change] at once ⊢
    split
    · rename_i load found
      split
      · rename_i complete
        rw [found] at once
        dsimp only at once
        rw [if_pos complete] at once
        obtain ⟨_, idle⟩ := apart load found complete
        refine separate.fewer once fun op action pending => ⟨pending, fun there => ?_, fun there => ?_⟩
        · exact absurd rfl ((idle action.id (List.mem_append_left _ there)).ne pending)
        · exact absurd rfl ((idle action.id (List.mem_append_right _ there)).ne pending)
      · exact separate
    · exact separate
  | _ => exact separate.quieted rfl

/-- A schedule that keeps its calls apart meets no clash. -/
theorem noClash_of_keptApart (once : (loadedPanel orgIds contract).ids.Nodup) {events : List PanelEvent}
    (apart : Run.EachStep (step orgIds) (loadedPanel orgIds contract) KeptApart events) :
    Run.EachStep (step orgIds) (loadedPanel orgIds contract) NoClash events := by
  have loaded : Separate (loadedPanel orgIds contract) := by
    refine ⟨once, ?_, ?_⟩
    · intro op action found
      cases found
    · intro op other action second found
      cases found
  have preserved : ∀ (state : PanelState) event, KeptApart state event → Separate state →
      Separate (step orgIds state event) := fun state event apart separate =>
    ⟨(separate.changed apart).once, (separate.changed apart).fresh, (separate.changed apart).own⟩
  intro before event earlier
  have separate := Run.exec_invariant_each loaded preserved (apart.of_prefix ((List.prefix_append _ _).trans earlier))
  exact separate.noClash (apart before event earlier)

end Schedules

end MaintainerPanel

end WorkloadGovernor
