import WorkloadGovernor.ApplicationCounter
import WorkloadGovernor.Lib.Js
import WorkloadGovernor.Provenance

namespace WorkloadGovernor
open Checked

structure ApplicationRow where
  contributor : String
  org_id : String
  issue_id : Int
  status : String
  deriving DecidableEq, Repr

structure OrgRow where
  org_id : String
  org_cap : Option Nat
  deriving DecidableEq, Repr

/-- The tables that `POST /apply` reads. -/
structure ApplyTables where
  applications : List ApplicationRow
  orgs : List OrgRow
  deriving DecidableEq, Repr

structure CapDetails where
  cap_type : String
  limit : Nat
  current : Nat
  deriving DecidableEq, Repr

/-- The answers 409 and 429, or going on to build the transaction. -/
inductive ApplyAnswer where
  | conflict (error : String)
  | tooMany (error : String) (details : CapDetails)
  | building (contributor orgId : String) (issueId : Int)
  deriving DecidableEq, Repr

namespace ApplyTables
variable (tables : ApplyTables)

def applied (contributor orgId : String) (issueId : Int) : Bool :=
  tables.applications.any fun row => row.contributor = contributor ∧ row.org_id = orgId ∧ row.issue_id = issueId

def globalAppsCount (contributor : String) : Nat :=
  tables.applications.countP fun row => row.contributor = contributor ∧ row.status = "pending"

def orgAppsCount (contributor orgId : String) : Nat :=
  tables.applications.countP fun row => row.contributor = contributor ∧ row.org_id = orgId ∧ row.status = "pending"

/-- `rows[0]?.org_cap ?? 4`. -/
def orgCap (orgId : String) : Nat :=
  ((tables.orgs.find? fun row => row.org_id = orgId).bind OrgRow.org_cap).getD 4

end ApplyTables

/-- `const GLOBAL_CAP = 15`. -/
def routeGlobalCap : Nat := 15

/-- The checks of `POST /apply`. The contract is asked too, but a failing lookup is ignored. -/
def applyRoute (tables : ApplyTables) (alreadyAppliedOnChain : Option Bool) (contributor orgId : String)
    (issueIdNum : Int) : ApplyAnswer :=
  if tables.applied contributor orgId issueIdNum then .conflict "Contributor has already applied for this issue"
  else if alreadyAppliedOnChain = some true then .conflict "Contributor has already applied for this issue"
  else if tables.globalAppsCount contributor ≥ routeGlobalCap then
    .tooMany "Global application cap reached" ⟨"global", routeGlobalCap, tables.globalAppsCount contributor⟩
  else if tables.orgAppsCount contributor orgId ≥ tables.orgCap orgId then
    .tooMany "Org application cap reached" ⟨"org", tables.orgCap orgId, tables.orgAppsCount contributor orgId⟩
  else .building contributor orgId issueIdNum

def ApplyAnswer.refuses : ApplyAnswer → Bool
  | .conflict _ | .tooMany _ _ => true
  | .building _ _ _ => false

variable {Address : Type} [DecidableEq Address]

/-- The contributor's own call fails for one of the two reasons. -/
def ContractRefuses (env : Env Address) (contributor : Address) (orgId : Symbol) (issueId : UInt32) : Prop :=
  invoke env [contributor] (.applyForIssue contributor orgId issueId) = .error (.contract .globalApplicationLimitReached) ∨
    invoke env [contributor] (.applyForIssue contributor orgId issueId) = .error (.contract .duplicateApplication)

/-- The row for a live application. -/
def mirrorRow (strkey : Address → String) (contributor : Address) (issue : Symbol × UInt32) : ApplicationRow :=
  ⟨strkey contributor, issue.1.text, issue.2.toNat, "pending"⟩

/-- The tables hold the live applications, all pending, and the caps of the organisations. -/
structure Mirrors (strkey : Address → String) (tables : ApplyTables) (env : Env Address) : Prop where
  distinct : tables.applications.Nodup
  rows : ∀ row, row ∈ tables.applications ↔ ∃ contributor issue, issue ∈ pending env contributor ∧
    row = mirrorRow strkey contributor issue
  caps : ∀ orgId : Symbol, tables.orgCap orgId.text = (env.getOrgCap orgId).toNat

/-- The issues of one organisation a contributor has an application for. -/
def pendingIn (env : Env Address) (contributor : Address) (orgId : Symbol) : Set (Symbol × UInt32) :=
  {issue | issue ∈ pending env contributor ∧ issue.1 = orgId}

section Counts
variable {strkey : Address → String} {tables : ApplyTables} {env : Env Address} {contributor : Address} {orgId : Symbol}
  {issueId : UInt32}

theorem symbol_text_injective {name other : Symbol} (same : name.text = other.text) : name = other := by
  cases name
  cases other
  cases same
  rfl

omit [DecidableEq Address] in
theorem mirrorRow_injective : Function.Injective (mirrorRow strkey contributor) := by
  intro issue other same
  simp only [mirrorRow, ApplicationRow.mk.injEq, true_and, and_true] at same
  obtain ⟨sameOrg, sameIssue⟩ := same
  exact Prod.ext (symbol_text_injective sameOrg) (UInt32.toNat_inj.mp (Int.ofNat.inj sameIssue))

omit [DecidableEq Address] in
/-- Counting the rows that stand for a set of applications counts the set. -/
theorem countP_eq_ncard (strkey : Address → String) (contributor : Address) {rows : List ApplicationRow}
    (distinct : rows.Nodup) {picked : ApplicationRow → Bool} {issues : Set (Symbol × UInt32)}
    (stands : ∀ row, (row ∈ rows ∧ picked row = true) ↔ ∃ issue ∈ issues, row = mirrorRow strkey contributor issue) :
    rows.countP picked = issues.ncard := by
  have image : (↑(rows.filter picked).toFinset : Set ApplicationRow) = mirrorRow strkey contributor '' issues := by
    ext row
    simp only [List.coe_toFinset, List.mem_filter, Set.mem_ofPred_eq, Set.mem_image, stands]
    constructor
    · rintro ⟨issue, member, rfl⟩
      exact ⟨issue, member, rfl⟩
    · rintro ⟨issue, member, rfl⟩
      exact ⟨issue, member, rfl⟩
  rw [← Set.ncard_image_of_injective issues (@mirrorRow_injective _ strkey contributor),
    ← image, Set.ncard_coe_finset, List.toFinset_card_of_nodup (distinct.filter _), List.countP_eq_length_filter]

variable (injective : Function.Injective strkey) (mirrors : Mirrors strkey tables env)
include injective mirrors

omit [DecidableEq Address] in
theorem Mirrors.row_iff {row : ApplicationRow} : (row ∈ tables.applications ∧ row.contributor = strkey contributor) ↔
    ∃ issue ∈ pending env contributor, row = mirrorRow strkey contributor issue := by
  rw [mirrors.rows]
  constructor
  · rintro ⟨⟨other, issue, member, rfl⟩, same⟩
    cases injective same
    exact ⟨issue, member, rfl⟩
  · rintro ⟨issue, member, rfl⟩
    exact ⟨⟨contributor, issue, member, rfl⟩, rfl⟩

omit [DecidableEq Address] in
theorem Mirrors.applied_iff : tables.applied (strkey contributor) orgId.text issueId.toNat = true ↔
    hasApplied env contributor orgId issueId = true := by
  simp only [ApplyTables.applied, List.any_eq_true, decide_eq_true_eq]
  constructor
  · rintro ⟨row, listed, owner, org, issue⟩
    obtain ⟨pair, member, rfl⟩ := (mirrors.row_iff injective).mp ⟨listed, owner⟩
    cases symbol_text_injective org
    cases UInt32.toNat_inj.mp (Int.ofNat.inj issue)
    exact member
  · intro applied
    obtain ⟨listed, owner⟩ := (mirrors.row_iff injective).mpr ⟨(orgId, issueId), applied, rfl⟩
    exact ⟨_, listed, owner, rfl, rfl⟩

omit [DecidableEq Address] in
theorem Mirrors.globalAppsCount_eq :
    tables.globalAppsCount (strkey contributor) = (pending env contributor).ncard := by
  refine countP_eq_ncard strkey contributor mirrors.distinct fun row => ?_
  rw [← mirrors.row_iff injective, decide_eq_true_eq]
  refine and_congr_right fun listed => and_iff_left ?_
  obtain ⟨_, _, _, rfl⟩ := (mirrors.rows row).mp listed
  rfl

omit [DecidableEq Address] in
theorem Mirrors.orgAppsCount_eq :
    tables.orgAppsCount (strkey contributor) orgId.text = (pendingIn env contributor orgId).ncard := by
  refine countP_eq_ncard strkey contributor mirrors.distinct fun row => ?_
  rw [decide_eq_true_eq]
  constructor
  · rintro ⟨listed, owner, org, _⟩
    obtain ⟨issue, member, rfl⟩ := (mirrors.row_iff injective).mp ⟨listed, owner⟩
    exact ⟨issue, ⟨member, symbol_text_injective org⟩, rfl⟩
  · rintro ⟨issue, ⟨member, rfl⟩, rfl⟩
    obtain ⟨listed, owner⟩ := (mirrors.row_iff injective).mpr ⟨issue, member, rfl⟩
    exact ⟨listed, owner, rfl, rfl⟩

end Counts

section Agreement
variable {env : Env Address} {contributor : Address} {orgId : Symbol} {issueId : UInt32}

/-- With the contributor's authorisation only the initialisation and the two checks are left. -/
theorem guards_applyForIssue (initialised : env.getAdmin.isSome = true) :
    (env.authorisedBy [contributor]).guards (.applyForIssue contributor orgId issueId) = (do
      panicIf (env.getGlobalAppCount contributor ≥ env.getGlobalCap) .globalApplicationLimitReached
      panicIf (env.hasAppEntry contributor orgId issueId = true) .duplicateApplication) := by
  have ready : (env.authorisedBy [contributor]).requireInitialized .notInitialized = .ok () :=
    Env.requireInitialized_eq_ok.mpr initialised
  have authorised : (env.authorisedBy [contributor]).requireAuth contributor = .ok () :=
    Env.requireAuth_eq_ok.mpr (List.mem_singleton_self _)
  rw [Env.guards, ready, authorised]
  rfl

theorem contractRefuses_iff : ContractRefuses env contributor orgId issueId ↔
    env.getAdmin.isSome = true ∧
      (env.getGlobalCap ≤ getGlobalApplicationCount env contributor ∨
        hasApplied env contributor orgId issueId = true) := by
  by_cases initialised : env.getAdmin.isSome = true
  · rw [ContractRefuses, invoke_eq_error, invoke_eq_error, guards_applyForIssue initialised]
    by_cases full : env.getGlobalCap ≤ env.getGlobalAppCount contributor
    · exact iff_of_true (Or.inl (bind_eq_error.mpr (Or.inl (panicIf_eq_error.mpr ⟨full, rfl⟩)))) ⟨initialised, Or.inl full⟩
    · have room : panicIf (env.getGlobalAppCount contributor ≥ env.getGlobalCap) .globalApplicationLimitReached = .ok () :=
        panicIf_eq_ok.mpr full
      rw [room]
      change panicIf _ _ = _ ∨ panicIf _ _ = _ ↔ _
      rw [panicIf_eq_error, panicIf_eq_error]
      constructor
      · rintro (⟨_, same⟩ | ⟨applied, _⟩)
        · cases same
        · exact ⟨initialised, Or.inr applied⟩
      · rintro ⟨_, limit | applied⟩
        · exact absurd limit full
        · exact Or.inr ⟨applied, rfl⟩
  · have missing : (env.authorisedBy [contributor]).requireInitialized .notInitialized =
        .error (.contract .notInitialized) :=
      Env.requireInitialized_eq_error.mpr ⟨Option.not_isSome_iff_eq_none.mp initialised, rfl⟩
    rw [ContractRefuses, invoke_eq_error, invoke_eq_error, Env.guards, missing]
    refine iff_of_false ?_ fun claimed => initialised claimed.1
    rintro (same | same) <;> cases same

theorem applyRoute_refuses {tables : ApplyTables} {lookup : Option Bool} {account org : String} {issue : Int} :
    (applyRoute tables lookup account org issue).refuses = true ↔
      tables.applied account org issue = true ∨ lookup = some true ∨ routeGlobalCap ≤ tables.globalAppsCount account ∨
        tables.orgCap org ≤ tables.orgAppsCount account org := by
  unfold applyRoute
  split
  · rename_i applied
    exact iff_of_true rfl (Or.inl applied)
  · rename_i fresh
    split
    · rename_i known
      exact iff_of_true rfl (Or.inr (Or.inl known))
    · rename_i unknown
      split
      · rename_i many
        exact iff_of_true rfl (Or.inr (Or.inr (Or.inl many)))
      · rename_i room
        split
        · rename_i many
          exact iff_of_true rfl (Or.inr (Or.inr (Or.inr many)))
        · rename_i orgRoom
          refine iff_of_false (fun same => Bool.noConfusion same) ?_
          rintro (applied | known | many | many)
          · exact fresh applied
          · exact unknown known
          · exact room many
          · exact orgRoom many

/-- The answer and the contract agree: a refusal is one of the contract's two, and where
the transaction is built the contract has no such reason to refuse it. -/
def PrecheckAgrees (answer : ApplyAnswer) (env : Env Address) (contributor : Address) (orgId : Symbol)
    (issueId : UInt32) : Prop :=
  (answer.refuses = true → ContractRefuses env contributor orgId issueId) ∧
    (answer.refuses = false → ¬ ContractRefuses env contributor orgId issueId)

theorem precheckAgrees_iff {answer : ApplyAnswer} : PrecheckAgrees answer env contributor orgId issueId ↔
    (answer.refuses = true ↔ ContractRefuses env contributor orgId issueId) := by
  rw [PrecheckAgrees]
  cases answer.refuses with
  | true => simp
  | false => simp

/-- On a contract that was never initialised nothing has been applied for and no cap is reached. -/
theorem initialised_of_refusal {deployment : Deployment Address} {steps : List (Step Address)}
    (reason : (exec deployment steps).getGlobalCap ≤ getGlobalApplicationCount (exec deployment steps) contributor ∨
      hasApplied (exec deployment steps) contributor orgId issueId = true) :
    (exec deployment steps).getAdmin.isSome = true := by
  by_contra missing
  have empty := exec_emptyUntilInitialized deployment steps (Option.not_isSome_iff_eq_none.mp missing)
  simp only [Env.getGlobalCap, getGlobalApplicationCount, Env.getGlobalAppCount, hasApplied, Env.hasAppEntry,
    empty] at reason
  rcases reason with full | applied
  · have limit : globalAppLimit ≤ 0 := full
    exact absurd limit (by decide)
  · cases applied

/-- With tables that mirror the state the pre-check agrees with the contract exactly if the
contributor has already applied, or else the two limits of the route are reached just when
the counter has reached the cap of the contract. -/
theorem apply_precheck_iff {strkey : Address → String} (injective : Function.Injective strkey) {tables : ApplyTables}
    {deployment : Deployment Address} {steps : List (Step Address)}
    (mirrors : Mirrors strkey tables (exec deployment steps)) {lookup : Option Bool}
    (honest : lookup = none ∨ lookup = some (hasApplied (exec deployment steps) contributor orgId issueId)) :
    PrecheckAgrees (applyRoute tables lookup (strkey contributor) orgId.text issueId.toNat) (exec deployment steps)
        contributor orgId issueId ↔
      hasApplied (exec deployment steps) contributor orgId issueId = true ∨
        ((15 ≤ (pending (exec deployment steps) contributor).ncard ∨
            (getOrgCap (exec deployment steps) orgId).toNat ≤ (pendingIn (exec deployment steps) contributor orgId).ncard) ↔
          (exec deployment steps).getGlobalCap ≤ getGlobalApplicationCount (exec deployment steps) contributor) := by
  have refusal : ContractRefuses (exec deployment steps) contributor orgId issueId ↔ _ := contractRefuses_iff
  rw [and_iff_right_of_imp initialised_of_refusal] at refusal
  rw [precheckAgrees_iff, applyRoute_refuses, refusal, mirrors.applied_iff injective,
    mirrors.globalAppsCount_eq injective, mirrors.orgAppsCount_eq injective, mirrors.caps]
  by_cases applied : hasApplied (exec deployment steps) contributor orgId issueId = true
  · exact iff_of_true (iff_of_true (Or.inl applied) (Or.inr applied)) (Or.inl applied)
  · have unknown : lookup ≠ some true := by
      rintro rfl
      rcases honest with none | known
      · cases none
      · exact applied (Option.some.inj known).symm
    simp only [applied, unknown, Bool.false_eq_true, false_or, or_false]
    exact Iff.rfl

end Agreement

section Sample

/-- A text form that tells all accounts apart. -/
def strkeyOf (account : Nat) : String := (account : Int).repr

theorem strkeyOf_injective : Function.Injective strkeyOf := by
  intro account other same
  have read := congrArg Js.parseInt same
  rw [strkeyOf, strkeyOf, Js.parseInt_repr, Js.parseInt_repr] at read
  exact Int.ofNat.inj (Option.some.inj read)

/-- One application of contributor 1 in an organisation whose cap its maintainer has set to 1. -/
def cappedOrg : List (Step Nat) :=
  [.call [0] (.initializeContract 0), .call [0] (.registerMaintainer 0 9 sampleOrg),
    .call [9] (.setOrgCap 9 sampleOrg 1), .call [1] (.applyForIssue 1 sampleOrg 7)]

def cappedTables : ApplyTables := ⟨[⟨strkeyOf 1, "org", 7, "pending"⟩], [⟨"org", some 1⟩]⟩

theorem hasApplied_cappedOrg (contributor : Nat) (orgId : Symbol) (issueId : UInt32) :
    hasApplied (exec (.release Nat) cappedOrg) contributor orgId issueId = true ↔
      (contributor, orgId, issueId) = (1, sampleOrg, 7) := by
  have allowed : ((exec (.release Nat) (cappedOrg.take 3)).authorisedBy [1]).Allowed (.applyForIssue 1 sampleOrg 7) :=
    ⟨rfl, List.mem_singleton_self _, by decide, by decide⟩
  have last : exec (.release Nat) cappedOrg =
      ((exec (.release Nat) (cappedOrg.take 3)).authorisedBy [1]).effect (.applyForIssue 1 sampleOrg 7) :=
    (exec_concat (.release Nat) (cappedOrg.take 3) _).trans (step_of_allowed allowed)
  have store : (exec (.release Nat) cappedOrg).storage.app =
      TtlStore.empty.renew 0 15 appTtlLedgers (1, sampleOrg, 7) true := by
    rw [last]
    rfl
  have now : (exec (.release Nat) cappedOrg).sequence = 0 := rfl
  rw [hasApplied, Env.hasAppEntry, TtlStore.get, store, now, TtlStore.live_renew]
  by_cases same : (contributor, orgId, issueId) = (1, sampleOrg, 7)
  · rw [if_pos same]
    exact iff_of_true rfl same
  · rw [if_neg same]
    exact iff_of_false (fun claimed => Bool.noConfusion claimed) same

theorem cappedTables_mirror : Mirrors strkeyOf cappedTables (exec (.release Nat) cappedOrg) where
  distinct := List.nodup_singleton _
  rows := by
    intro row
    constructor
    · intro listed
      exact ⟨1, (sampleOrg, 7), (hasApplied_cappedOrg _ _ _).mpr rfl, List.mem_singleton.mp listed⟩
    · rintro ⟨contributor, issue, applied, rfl⟩
      have key := (hasApplied_cappedOrg _ _ _).mp applied
      simp only [Prod.mk.injEq] at key
      obtain ⟨rfl, org, number⟩ := key
      rw [mirrorRow, org, number]
      exact List.mem_singleton_self _
  caps := by
    intro orgId
    have store : (exec (.release Nat) cappedOrg).storage.oCap = write (fun _ => none) sampleOrg (some 1) := rfl
    rw [Env.getOrgCap, store, write]
    by_cases same : orgId = sampleOrg
    · rw [if_pos same, same]
      rfl
    · have other : sampleOrg.text ≠ orgId.text := fun equal => same (symbol_text_injective equal).symm
      have text : sampleOrg.text = "org" := rfl
      rw [text] at other
      simp [if_neg same, ApplyTables.orgCap, cappedTables, other]
      rfl

/-- There the checks agree on an application that is pending already and on another contributor's, but not on a second
one of contributor 1. -/
theorem capped_org_checks :
    PrecheckAgrees (applyRoute cappedTables (some true) (strkeyOf 1) sampleOrg.text 7) (exec (.release Nat) cappedOrg) 1
        sampleOrg 7 ∧
      PrecheckAgrees (applyRoute cappedTables none (strkeyOf 2) sampleOrg.text 7) (exec (.release Nat) cappedOrg) 2
        sampleOrg 7 ∧
      ¬ PrecheckAgrees (applyRoute cappedTables none (strkeyOf 1) sampleOrg.text 8) (exec (.release Nat) cappedOrg) 1
        sampleOrg 8 := by
  have one : pendingIn (exec (.release Nat) cappedOrg) 1 sampleOrg = {(sampleOrg, 7)} := by
    ext issue
    constructor
    · rintro ⟨applied, _⟩
      exact congrArg Prod.snd ((hasApplied_cappedOrg 1 _ _).mp applied)
    · rintro rfl
      exact ⟨(hasApplied_cappedOrg _ _ _).mpr rfl, rfl⟩
  have none_of_two (issue : Symbol × UInt32) : issue ∉ pending (exec (.release Nat) cappedOrg) 2 := by
    intro applied
    have same := congrArg Prod.fst ((hasApplied_cappedOrg 2 _ _).mp applied)
    cases same
  have two : pending (exec (.release Nat) cappedOrg) 2 = ∅ := Set.eq_empty_of_forall_notMem none_of_two
  have two_in : pendingIn (exec (.release Nat) cappedOrg) 2 sampleOrg = ∅ :=
    Set.eq_empty_of_forall_notMem fun issue own => none_of_two issue own.1
  refine ⟨?_, ?_, ?_⟩
  · have known : hasApplied (exec (.release Nat) cappedOrg) 1 sampleOrg 7 = true := (hasApplied_cappedOrg _ _ _).mpr rfl
    exact (apply_precheck_iff strkeyOf_injective cappedTables_mirror (Or.inr (congrArg some known.symm))).mpr
      (Or.inl known)
  · have checks : PrecheckAgrees (applyRoute cappedTables none (strkeyOf 2) sampleOrg.text (7 : UInt32).toNat) _ 2
        sampleOrg 7 ↔ _ := apply_precheck_iff strkeyOf_injective cappedTables_mirror (Or.inl rfl)
    rw [two, two_in, Set.ncard_empty] at checks
    exact checks.mpr (Or.inr (iff_of_false (by decide) (by decide)))
  · have checks : PrecheckAgrees (applyRoute cappedTables none (strkeyOf 1) sampleOrg.text (8 : UInt32).toNat) _ 1
        sampleOrg 8 ↔ _ := apply_precheck_iff strkeyOf_injective cappedTables_mirror (Or.inl rfl)
    rw [one, Set.ncard_singleton] at checks
    intro agrees
    rcases checks.mp agrees with applied | same
    · exact absurd ((hasApplied_cappedOrg 1 _ _).mp applied) (by decide)
    · exact absurd (same.mp (Or.inr (by decide))) (by decide)

/-- The route refuses a second application there, which the contract would accept. -/
theorem org_cap_refuses_application :
    Mirrors strkeyOf cappedTables (exec (.release Nat) cappedOrg) ∧
      applyRoute cappedTables (some false) (strkeyOf 1) sampleOrg.text 8 =
        .tooMany "Org application cap reached" ⟨"org", 1, 1⟩ ∧
      ¬ ContractRefuses (exec (.release Nat) cappedOrg) 1 sampleOrg 8 ∧
      Succeeds (exec (.release Nat) cappedOrg) [1] (.applyForIssue 1 sampleOrg 8) := by
  have fresh : ¬ hasApplied (exec (.release Nat) cappedOrg) 1 sampleOrg 8 = true := by
    rw [hasApplied_cappedOrg]
    decide
  refine ⟨cappedTables_mirror, by decide, ?_, ?_⟩
  · rw [contractRefuses_iff]
    rintro ⟨_, full | applied⟩
    · exact absurd full (by decide)
    · exact fresh applied
  · exact succeeds_iff.mpr ⟨rfl, List.mem_singleton_self _, by decide, Bool.eq_false_iff.mpr fresh⟩

end Sample

end WorkloadGovernor
