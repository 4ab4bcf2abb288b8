import WorkloadGovernor.Lib.Js
import WorkloadGovernor.Lib.Run

namespace WorkloadGovernor

namespace MaintainerPanel

section Rows

structure RawApplicationRow where
  contributor : String
  issue_id : String
  date : String
  global_count : Option Int
  org_count : Option Int
  deriving DecidableEq, Repr

structure RawAssignmentRow where
  contributor : String
  issue_id : String
  global_count : Option Int
  org_count : Option Int
  deriving DecidableEq, Repr

structure Application where
  id : String
  contributor : String
  org : String
  issueTitle : String
  appliedDate : String
  globalCount : Option Int
  orgCount : Option Int
  deriving DecidableEq, Repr

structure Assignment where
  id : String
  contributor : String
  org : String
  issueTitle : String
  globalCount : Option Int
  orgCount : Option Int
  deriving DecidableEq, Repr

/-- What an operation of the contract is about. -/
structure Target where
  org : String
  contributor : String
  issueId : String
  deriving DecidableEq, Repr

def Target.id (target : Target) : String := target.org ++ "-" ++ target.contributor ++ "-" ++ target.issueId

def mapApplication (row : RawApplicationRow) (org : String) : Application where
  id := org ++ "-" ++ row.contributor ++ "-" ++ row.issue_id
  contributor := row.contributor
  org := org
  issueTitle := "Issue #" ++ row.issue_id
  appliedDate := row.date
  globalCount := row.global_count
  orgCount := row.org_count

def mapAssignment (row : RawAssignmentRow) (org : String) : Assignment where
  id := org ++ "-" ++ row.contributor ++ "-" ++ row.issue_id
  contributor := row.contributor
  org := org
  issueTitle := "Issue #" ++ row.issue_id
  globalCount := row.global_count
  orgCount := row.org_count

/-- `title.replace(/^Issue #/, "")`. -/
def issueIdOf (issueTitle : String) : String :=
  if Js.startsWith issueTitle "Issue #" then String.ofList (issueTitle.toList.drop "Issue #".length) else issueTitle

end Rows

section Contract

/-- What the contract has for one contributor and issue: an application, or an assignment. -/
structure ChainRow where
  target : Target
  date : String
  global_count : Option Int
  org_count : Option Int
  assigned : Bool
  deriving DecidableEq, Repr

def listApplications (contract : List ChainRow) (org : String) : List RawApplicationRow :=
  (contract.filter fun row => row.target.org = org ∧ row.assigned = false).map fun row =>
    ⟨row.target.contributor, row.target.issueId, row.date, row.global_count, row.org_count⟩

def listAssignments (contract : List ChainRow) (org : String) : List RawAssignmentRow :=
  (contract.filter fun row => row.target.org = org ∧ row.assigned = true).map fun row =>
    ⟨row.target.contributor, row.target.issueId, row.global_count, row.org_count⟩

/-- One org's part of what `load` asks for. -/
def applicationsOf (contract : List ChainRow) (org : String) : List Application :=
  (listApplications contract org).map fun row => mapApplication row org

def assignmentsOf (contract : List ChainRow) (org : String) : List Assignment :=
  (listAssignments contract org).map fun row => mapAssignment row org

end Contract

section Operations

/-- A call of one of the three handlers, with the entry it was called on. -/
inductive Action where
  | assign (app : Application)
  | complete (asgn : Assignment)
  | revoke (asgn : Assignment)
  deriving DecidableEq, Repr

namespace Action

def id : Action → String
  | assign app => app.id
  | complete asgn | revoke asgn => asgn.id

/-- The entry leaves both lists if it succeeds. -/
def closes : Action → Bool
  | assign _ => false
  | complete _ | revoke _ => true

/-- What the contract is called with. -/
def target : Action → Target
  | assign app => ⟨app.org, app.contributor, issueIdOf app.issueTitle⟩
  | complete asgn | revoke asgn => ⟨asgn.org, asgn.contributor, issueIdOf asgn.issueTitle⟩

/-- The contract can carry it out: there is an application to assign, or an assignment to
end. -/
def Permitted (action : Action) (contract : List ChainRow) : Prop :=
  ∃ row ∈ contract, row.target = action.target ∧ row.assigned = action.closes

instance (action : Action) (contract : List ChainRow) : Decidable (action.Permitted contract) := List.decidableBEx _ _

def carryOut (action : Action) (contract : List ChainRow) : List ChainRow :=
  if action.closes then contract.filter fun row => ¬ (row.target = action.target ∧ row.assigned = true)
  else contract.map fun row => if row.target = action.target then { row with assigned := true } else row

end Action

/-- How far a call to the contract has got. One that fails has not been carried out. -/
inductive Progress where
  | pending
  | executed
  | succeeded
  | failed
  deriving DecidableEq, Repr

structure Operation where
  action : Action
  progress : Progress
  deriving DecidableEq, Repr

/-- A run of `load`: the answers it has got so far, org by org. -/
structure Load where
  appResults : List (Option (List Application))
  asgnResults : List (Option (List Assignment))
  settled : Bool

/-- The state of the hook, the contract behind it, the calls under way, and every entry
that has been on the screen. -/
structure PanelState where
  applications : List Application
  assignments : List Assignment
  loading : Bool
  error : Option String
  contract : List ChainRow
  operations : List Operation
  loads : List Load
  shownApplications : List Application
  shownAssignments : List Assignment

namespace PanelState

/-- What is in the lists is on the screen. -/
def render (state : PanelState) : PanelState :=
  { state with
    shownApplications := state.shownApplications ++ state.applications
    shownAssignments := state.shownAssignments ++ state.assignments }

/-- The entry that an application becomes before its assignment is confirmed. -/
def newAsgn (app : Application) : Assignment :=
  ⟨app.id, app.contributor, app.org, app.issueTitle, app.globalCount, app.orgCount⟩

def start (state : PanelState) (action : Action) : PanelState :=
  { state with operations := state.operations ++ [⟨action, .pending⟩] }

def handleAssign (state : PanelState) (app : Application) : PanelState :=
  start { state with
    applications := state.applications.filter fun a => a.id ≠ app.id
    assignments := state.assignments ++ [newAsgn app] } (.assign app)

def handleComplete (state : PanelState) (asgn : Assignment) : PanelState :=
  start { state with assignments := state.assignments.filter fun a => a.id ≠ asgn.id } (.complete asgn)

def handleRevoke (state : PanelState) (asgn : Assignment) : PanelState :=
  start { state with assignments := state.assignments.filter fun a => a.id ≠ asgn.id } (.revoke asgn)

/-- The `catch` of the three handlers. -/
def rollBack (state : PanelState) : Action → PanelState
  | .assign app => { state with
      applications := state.applications ++ [app]
      assignments := state.assignments.filter fun a => a.id ≠ app.id }
  | .complete asgn | .revoke asgn => { state with assignments := state.assignments ++ [asgn] }

def advance (state : PanelState) (op : Nat) (action : Action) (progress : Progress) : PanelState :=
  { state with operations := state.operations.set op ⟨action, progress⟩ }

/-- The contract carries an operation out; the counts it reports may change in any row. -/
def execute (state : PanelState) (op : Nat) (action : Action) (recount : ChainRow → Option Int × Option Int) :
    PanelState :=
  advance { state with contract := (action.carryOut state.contract).map fun row =>
    { row with global_count := (recount row).1, org_count := (recount row).2 } } op action .executed

/-- One more answer that a run of `load` has got. -/
def answer (state : PanelState) (index : Nat) (load : Load) : PanelState :=
  { state with loads := state.loads.set index load }

/-- `setApplications(appResults.flat())` and `setAssignments(asgnResults.flat())`. -/
def setLists (state : PanelState) (index : Nat) (load : Load) : PanelState :=
  { state with
    applications := load.appResults.flatMap fun result => result.getD []
    assignments := load.asgnResults.flatMap fun result => result.getD []
    loading := false
    loads := state.loads.set index { load with settled := true } }

end PanelState

end Operations

section Steps

/-- What can happen: a handler or `load` is called, the contract carries out a call or
answers one, or an answer arrives. -/
inductive PanelEvent where
  | handleAssign (app : Application)
  | handleComplete (asgn : Assignment)
  | handleRevoke (asgn : Assignment)
  | execute (op : Nat) (recount : ChainRow → Option Int × Option Int)
  | succeed (op : Nat)
  | fail (op : Nat)
  | load
  | readApplications (index org : Nat)
  | readAssignments (index org : Nat)
  | loaded (index : Nat)
  | loadFails (index : Nat) (message : String)

variable (orgIds : List String)

/-- An event that cannot happen changes nothing: a handler is called on an entry that is or
was listed, a call is answered once, and `list_assignments` is asked after all
applications are there. -/
def change (state : PanelState) : PanelEvent → PanelState
  | .handleAssign app => if app ∈ state.shownApplications then state.handleAssign app else state
  | .handleComplete asgn => if asgn ∈ state.shownAssignments then state.handleComplete asgn else state
  | .handleRevoke asgn => if asgn ∈ state.shownAssignments then state.handleRevoke asgn else state
  | .execute op recount =>
    match state.operations[op]? with
    | some ⟨action, .pending⟩ =>
      if action.Permitted state.contract then state.execute op action recount else state
    | _ => state
  | .succeed op =>
    match state.operations[op]? with
    | some ⟨action, .executed⟩ => state.advance op action .succeeded
    | _ => state
  | .fail op =>
    match state.operations[op]? with
    | some ⟨action, .pending⟩ => (state.advance op action .failed).rollBack action
    | _ => state
  | .load => { state with
      loading := true
      error := none
      loads := state.loads ++ [⟨orgIds.map fun _ => none, orgIds.map fun _ => none, false⟩] }
  | .readApplications index org =>
    match state.loads[index]?, orgIds[org]? with
    | some load, some orgId =>
      if load.settled = false ∧ load.appResults[org]? = some none then
        state.answer index { load with appResults := load.appResults.set org (some (applicationsOf state.contract orgId)) }
      else state
    | _, _ => state
  | .readAssignments index org =>
    match state.loads[index]?, orgIds[org]? with
    | some load, some orgId =>
      if load.settled = false ∧ load.appResults.all Option.isSome ∧ load.asgnResults[org]? = some none then
        state.answer index { load with asgnResults := load.asgnResults.set org (some (assignmentsOf state.contract orgId)) }
      else state
    | _, _ => state
  | .loaded index =>
    match state.loads[index]? with
    | some load =>
      if load.settled = false ∧ load.appResults.all Option.isSome ∧ load.asgnResults.all Option.isSome then
        state.setLists index load
      else state
    | none => state
  | .loadFails index message =>
    match state.loads[index]? with
    | some load =>
      if load.settled = false then
        { state with
          loading := false
          error := some message
          loads := state.loads.set index { load with settled := true } }
      else state
    | none => state

def step (state : PanelState) (event : PanelEvent) : PanelState := (change orgIds state event).render

/-- The lists as they are loaded first. -/
def loadedPanel (contract : List ChainRow) : PanelState :=
  PanelState.render {
    applications := orgIds.flatMap (applicationsOf contract)
    assignments := orgIds.flatMap (assignmentsOf contract)
    loading := false
    error := none
    contract := contract
    operations := []
    loads := []
    shownApplications := []
    shownAssignments := [] }

end Steps

section Effects
open PanelState
variable {orgIds : List String} {state next : PanelState}

/-- All answers are there. -/
def Load.Complete (load : Load) : Prop :=
  load.settled = false ∧ load.appResults.all Option.isSome ∧ load.asgnResults.all Option.isSome

/-- What an event can do to a state, with what it takes. -/
inductive Effect (orgIds : List String) (state : PanelState) : PanelState → Prop
  | stay : Effect orgIds state state
  | handleAssign (app : Application) (shown : app ∈ state.shownApplications) :
      Effect orgIds state (state.handleAssign app)
  | handleComplete (asgn : Assignment) (shown : asgn ∈ state.shownAssignments) :
      Effect orgIds state (state.handleComplete asgn)
  | handleRevoke (asgn : Assignment) (shown : asgn ∈ state.shownAssignments) :
      Effect orgIds state (state.handleRevoke asgn)
  | execute (op : Nat) (action : Action) (recount : ChainRow → Option Int × Option Int)
      (found : state.operations[op]? = some ⟨action, .pending⟩) (permitted : action.Permitted state.contract) :
      Effect orgIds state (state.execute op action recount)
  | succeed (op : Nat) (action : Action) (found : state.operations[op]? = some ⟨action, .executed⟩) :
      Effect orgIds state (state.advance op action .succeeded)
  | fail (op : Nat) (action : Action) (found : state.operations[op]? = some ⟨action, .pending⟩) :
      Effect orgIds state ((state.advance op action .failed).rollBack action)
  | load : Effect orgIds state { state with
      loading := true
      error := none
      loads := state.loads ++ [⟨orgIds.map fun _ => none, orgIds.map fun _ => none, false⟩] }
  | readApplications (index org : Nat) (load : Load) (orgId : String) (found : state.loads[index]? = some load)
      (there : orgIds[org]? = some orgId) (unread : load.appResults[org]? = some none) :
      Effect orgIds state (state.answer index
        { load with appResults := load.appResults.set org (some (applicationsOf state.contract orgId)) })
  | readAssignments (index org : Nat) (load : Load) (orgId : String) (found : state.loads[index]? = some load)
      (there : orgIds[org]? = some orgId) (applied : load.appResults.all Option.isSome)
      (unread : load.asgnResults[org]? = some none) :
      Effect orgIds state (state.answer index
        { load with asgnResults := load.asgnResults.set org (some (assignmentsOf state.contract orgId)) })
  | loaded (index : Nat) (load : Load) (found : state.loads[index]? = some load) (complete : load.Complete) :
      Effect orgIds state (state.setLists index load)
  | loadFails (index : Nat) (load : Load) (message : String) (found : state.loads[index]? = some load) :
      Effect orgIds state { state with
        loading := false
        error := some message
        loads := state.loads.set index { load with settled := true } }

theorem change_effect (orgIds : List String) (state : PanelState) (event : PanelEvent) :
    Effect orgIds state (change orgIds state event) := by
  cases event with
  | handleAssign app =>
    rw [change]
    split
    · exact .handleAssign app ‹_›
    · exact .stay
  | handleComplete asgn =>
    rw [change]
    split
    · exact .handleComplete asgn ‹_›
    · exact .stay
  | handleRevoke asgn =>
    rw [change]
    split
    · exact .handleRevoke asgn ‹_›
    · exact .stay
  | execute op recount =>
    rw [change]
    split
    · rename_i action found
      split
      · exact .execute op action recount found ‹_›
      · exact .stay
    · exact .stay
  | succeed op =>
    rw [change]
    split
    · rename_i action found
      exact .succeed op action found
    · exact .stay
  | fail op =>
    rw [change]
    split
    · rename_i action found
      exact .fail op action found
    · exact .stay
  | load => exact .load
  | readApplications index org =>
    rw [change]
    split
    · rename_i load orgId found there
      split
      · rename_i ready
        exact .readApplications index org load orgId found there ready.2
      · exact .stay
    · exact .stay
  | readAssignments index org =>
    rw [change]
    split
    · rename_i load orgId found there
      split
      · rename_i ready
        exact .readAssignments index org load orgId found there ready.2.1 ready.2.2
      · exact .stay
    · exact .stay
  | loaded index =>
    rw [change]
    split
    · rename_i load found
      split
      · exact .loaded index load found ‹_›
      · exact .stay
    · exact .stay
  | loadFails index message =>
    rw [change]
    split
    · rename_i load found
      split
      · exact .loadFails index load message found
      · exact .stay
    · exact .stay

end Effects

end MaintainerPanel

end WorkloadGovernor
