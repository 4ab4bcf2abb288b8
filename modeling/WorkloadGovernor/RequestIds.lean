import WorkloadGovernor.AdminRoutes
import WorkloadGovernor.Builders
import WorkloadGovernor.Lib.Number

namespace WorkloadGovernor
open Js

section Schemas

/-- What `issue_id` of `applyIssueSchema` lets through. -/
inductive IssueIdInput where
  | string (text : String)
  | number (value : Int)
  deriving DecidableEq, Repr

namespace IssueIdInput

/-- `Number(issue_id)`. -/
def asNumber : IssueIdInput → Number
  | .string text => .ofText text
  | .number value => .finite value

/-- `String(issue_id)`. -/
def asText : IssueIdInput → String
  | .string text => text
  | .number value => wholeText value

end IssueIdInput

/-- The union of `applyIssueSchema`, with its refinement; `NaN` is not above 0 either. -/
def issueIdUnion (value : Option Json) : Option IssueIdInput :=
  (((zodString 1 none value).map .string).or ((zodPositiveInt value).map .number)).filter
    fun issueId => (Number.finite 0).lt issueId.asNumber

structure ApplyIssueInput where
  contributor : String
  org_id : String
  issue_id : IssueIdInput
  sequence : Option String
  deriving DecidableEq, Repr

def applyIssueSchema (body : Json) : Option ApplyIssueInput := do
  return {
    contributor := ← stellarAddress (body.field "contributor")
    org_id := ← zodString 1 none (body.field "org_id")
    issue_id := ← issueIdUnion (body.field "issue_id")
    sequence := ← zodOptional (zodString 0 none) (body.field "sequence") }

def orgIdSchema : Option Json → Option String := zodString 1 (some 256)

/-- A text that `BigInt` reads as no negative number. -/
def sequenceSchema (value : Option Json) : Option String :=
  (zodString 0 none value).filter fun text => (bigInt text).any (0 ≤ ·)

structure WithdrawInput where
  contributor : String
  org_id : String
  issue_id : Int
  sequence : String
  deriving DecidableEq, Repr

def withdrawSchema (body : Json) : Option WithdrawInput := do
  return {
    contributor := ← stellarAddress (body.field "contributor")
    org_id := ← orgIdSchema (body.field "org_id")
    issue_id := ← zodPositiveInt (body.field "issue_id")
    sequence := ← sequenceSchema (body.field "sequence") }

/-- The requests of a maintainer about an issue. -/
structure MaintainerInput where
  maintainer : String
  contributor : String
  org_id : String
  issue_id : Int
  sequence : String
  deriving DecidableEq, Repr

def maintainerSchema (body : Json) : Option MaintainerInput := do
  return {
    maintainer := ← stellarAddress (body.field "maintainer")
    contributor := ← stellarAddress (body.field "contributor")
    org_id := ← orgIdSchema (body.field "org_id")
    issue_id := ← zodPositiveInt (body.field "issue_id")
    sequence := ← sequenceSchema (body.field "sequence") }

def assignSchema : Json → Option MaintainerInput := maintainerSchema
def completeSchema : Json → Option MaintainerInput := maintainerSchema
def revokeSchema : Json → Option MaintainerInput := maintainerSchema

end Schemas

section Routes

/-- `parseInt(String(issue_id), 10)`. -/
def ApplyIssueInput.issueIdNum (input : ApplyIssueInput) : Number := .parseInt input.issue_id.asText

/-- What `POST /apply` builds; without a sequence in the request it takes the one of the account. A number
that is not whole cannot be written. -/
def ApplyIssueInput.request (input : ApplyIssueInput) (accountSequence : String) : Option BuildRequest :=
  match input.issueIdNum with
  | .finite value =>
    if value.den = 1 then
      some (.apply input.contributor input.org_id value.num ((truthy input.sequence).getD accountSequence))
    else none
  | _ => none

def WithdrawInput.request (input : WithdrawInput) : BuildRequest :=
  .withdraw input.contributor input.org_id input.issue_id input.sequence

def assignRequest (input : MaintainerInput) : BuildRequest :=
  .assign input.maintainer input.contributor input.org_id input.issue_id input.sequence

def completeRequest (input : MaintainerInput) : BuildRequest :=
  .complete input.maintainer input.contributor input.org_id input.issue_id input.sequence

def revokeRequest (input : MaintainerInput) : BuildRequest :=
  .revoke input.maintainer input.contributor input.org_id input.issue_id input.sequence

structure MaintainerRoute where
  schema : Json → Option MaintainerInput
  request : MaintainerInput → BuildRequest
  fnName : String

def maintainerRoutes : List MaintainerRoute :=
  [⟨assignSchema, assignRequest, "assign_issue"⟩, ⟨completeSchema, completeRequest, "complete_assignment"⟩,
    ⟨revokeSchema, revokeRequest, "revoke_assignment"⟩]

end Routes

section Proofs
variable {body : Json} {orgId : String}

/-- An issue id that the contract takes, and an organisation's id that is a symbol there. -/
structure LegalIds (orgId : String) (issueId : Number) : Prop where
  u32 : ∃ n : ℕ, n < 2 ^ 32 ∧ issueId = .finite n
  symbol : orgId ≠ "" ∧ isSymbolText orgId = true

/-- The spelling of an issue id leaves no doubt, and it is in range. -/
def IssueIdInput.Plain : IssueIdInput → Prop
  | .string text => ∃ n : ℕ, 0 < n ∧ n < 2 ^ 32 ∧ SpellsWhole text n
  | .number value => value < 2 ^ 32

theorem nonempty_of_zodString {value : Option Json} {most : Option Nat} {text : String}
    (accepted : zodString 1 most value = some text) : text ≠ "" := by
  rintro rfl
  exact absurd (zodString_eq_some accepted) (by decide)

theorem issueIdUnion_eq_some {value : Option Json} {issueId : IssueIdInput}
    (accepted : issueIdUnion value = some issueId) :
    (Number.finite 0).lt issueId.asNumber = true ∧ ∀ number, issueId = .number number → 0 < number := by
  obtain ⟨union, positive⟩ := Option.filter_eq_some_iff.mp accepted
  refine ⟨positive, ?_⟩
  rintro number rfl
  rcases Option.or_eq_some_iff.mp union with text | ⟨_, whole⟩
  · obtain ⟨_, _, same⟩ := Option.map_eq_some_iff.mp text
    cases same
  · obtain ⟨_, accepted, same⟩ := Option.map_eq_some_iff.mp whole
    cases same
    exact zodPositiveInt_eq_some accepted

theorem applyIssueSchema_eq_some {input : ApplyIssueInput} (accepted : applyIssueSchema body = some input) :
    input.org_id ≠ "" ∧ issueIdUnion (body.field "issue_id") = some input.issue_id := by
  obtain ⟨_, _, accepted⟩ := Option.bind_eq_some_iff.mp accepted
  obtain ⟨_, org, accepted⟩ := Option.bind_eq_some_iff.mp accepted
  obtain ⟨_, issue, accepted⟩ := Option.bind_eq_some_iff.mp accepted
  obtain ⟨_, _, made⟩ := Option.bind_eq_some_iff.mp accepted
  cases made
  exact ⟨nonempty_of_zodString org, issue⟩

theorem withdrawSchema_eq_some {input : WithdrawInput} (accepted : withdrawSchema body = some input) :
    input.org_id ≠ "" ∧ 0 < input.issue_id := by
  obtain ⟨_, _, accepted⟩ := Option.bind_eq_some_iff.mp accepted
  obtain ⟨_, org, accepted⟩ := Option.bind_eq_some_iff.mp accepted
  obtain ⟨_, issue, accepted⟩ := Option.bind_eq_some_iff.mp accepted
  obtain ⟨_, _, made⟩ := Option.bind_eq_some_iff.mp accepted
  cases made
  exact ⟨nonempty_of_zodString org, zodPositiveInt_eq_some issue⟩

theorem maintainerSchema_eq_some {input : MaintainerInput} (accepted : maintainerSchema body = some input) :
    input.org_id ≠ "" ∧ 0 < input.issue_id := by
  obtain ⟨_, _, accepted⟩ := Option.bind_eq_some_iff.mp accepted
  obtain ⟨_, _, accepted⟩ := Option.bind_eq_some_iff.mp accepted
  obtain ⟨_, org, accepted⟩ := Option.bind_eq_some_iff.mp accepted
  obtain ⟨_, issue, accepted⟩ := Option.bind_eq_some_iff.mp accepted
  obtain ⟨_, _, made⟩ := Option.bind_eq_some_iff.mp accepted
  cases made
  exact ⟨nonempty_of_zodString org, zodPositiveInt_eq_some issue⟩

/-- A whole number is legal exactly if it is below the bound of a `u32`. -/
theorem legalIds_intCast {issueId : Int} (org : orgId ≠ "") (positive : 0 < issueId) :
    LegalIds orgId (.finite issueId) ↔ issueId < 2 ^ 32 ∧ isSymbolText orgId = true := by
  constructor
  · rintro ⟨⟨n, small, same⟩, _, symbol⟩
    have whole : issueId = n := by exact_mod_cast Number.finite.inj same
    exact ⟨by omega, symbol⟩
  · rintro ⟨small, symbol⟩
    obtain ⟨n, rfl⟩ := Int.eq_ofNat_of_zero_le positive.le
    exact ⟨⟨n, by omega, by simp⟩, org, symbol⟩

/-- The route places the number that was validated exactly if the spelling is plain. -/
theorem issueIdNum_iff {input : ApplyIssueInput} {value : Option Json}
    (accepted : issueIdUnion value = some input.issue_id) :
    (input.issueIdNum = input.issue_id.asNumber ∧ ∃ n : ℕ, n < 2 ^ 32 ∧ input.issueIdNum = .finite n) ↔
      input.issue_id.Plain := by
  obtain ⟨positive, number⟩ := issueIdUnion_eq_some accepted
  unfold ApplyIssueInput.issueIdNum
  cases issue : input.issue_id with
  | string text =>
    rw [issue] at positive
    constructor
    · rintro ⟨same, n, small, read⟩
      have value : Number.ofText text = .finite n := same.symm.trans read
      have some_part : 0 < n := by
        rw [IssueIdInput.asNumber, value] at positive
        exact_mod_cast of_decide_eq_true positive
      exact ⟨n, some_part, small, (reads_agree_iff (small.trans (by norm_num)) some_part).mp ⟨read, value⟩⟩
    · rintro ⟨n, some_part, small, spelled⟩
      obtain ⟨read, value⟩ := (reads_agree_iff (small.trans (by norm_num)) some_part).mpr spelled
      exact ⟨read.trans value.symm, n, small, read⟩
  | number value =>
    have some_part := number value issue
    obtain ⟨n, rfl⟩ := Int.eq_ofNat_of_zero_le some_part.le
    constructor
    · rintro ⟨same, m, small, read⟩
      have both : (Number.finite ((n : Int) : ℚ)) = .finite m := same.symm.trans read
      have whole : n = m := by exact_mod_cast Number.finite.inj both
      change (n : Int) < 2 ^ 32
      omega
    · intro plain
      have small : (n : Int) < 2 ^ 32 := plain
      have bound : n < 2 ^ 53 := by omega
      have read : Number.parseInt (wholeText n) = .finite n := by
        rw [wholeText_natCast bound, Number.parseInt, parseInt_repr]
        exact Number.ofRat_natCast bound
      exact ⟨read.trans (by simp [IssueIdInput.asNumber]), n, by exact_mod_cast small, read⟩

/-- The one call of a transaction names the issue and the organisation that it was built for. -/
def Places (tx : Transaction) (fnName orgId : String) (issueId : Int) : Prop :=
  ∃ (hash : Bytes 32) (accounts : List Argument) (placed : UInt32), (placed.toNat : Int) = issueId ∧
    tx.operations = [.invokeHostFunction (.invokeContract
      ⟨.contract hash, fnName, accounts ++ [.symbol orgId, .u32 placed]⟩)]

theorem buildRaw_places {sdk : TransactionSdk} {contractId source sequence fnName : String} {nowSecs : Nat}
    {issueId : Int} {tx : Transaction} (accounts : List (Option Argument))
    (built : buildRaw sdk contractId nowSecs source sequence fnName (accounts ++ [scvSymbol orgId, scvU32 issueId]) =
      some tx) : Places tx fnName orgId issueId := by
  obtain ⟨operation, called, operations⟩ := buildRaw_operations built
  obtain ⟨hash, sent, _, args, rfl⟩ := contractCall_eq_some.mp called
  obtain ⟨addresses, ids, rfl, _, args⟩ := List.map_eq_append_iff.mp args.symm
  obtain ⟨symbol, rest, rfl, name, args⟩ := List.map_eq_cons_iff.mp args
  obtain ⟨u32, last, rfl, number, args⟩ := List.map_eq_cons_iff.mp args
  obtain ⟨_, name_same⟩ := Option.ite_none_right_eq_some.mp name.symm
  obtain ⟨range, number_same⟩ := Option.ite_none_right_eq_some.mp number.symm
  cases List.map_eq_nil_iff.mp args
  cases name_same
  cases number_same
  refine ⟨hash, addresses, UInt32.ofNat issueId.toNat, ?_, operations⟩
  rw [UInt32.toNat_ofNat']
  omega

/-- The transaction that `POST /apply` hands out has the id that was checked. -/
theorem applyRequest_places {sdk : TransactionSdk} {contractId accountSequence : String} {nowSecs : Nat}
    {input : ApplyIssueInput} {request : BuildRequest} {tx : Transaction}
    (made : input.request accountSequence = some request) (built : request.build sdk contractId nowSecs = some tx) :
    ∃ issueId : Int, input.issueIdNum = .finite issueId ∧ Places tx "apply_for_issue" input.org_id issueId := by
  unfold ApplyIssueInput.request at made
  split at made
  · rename_i value read
    obtain ⟨whole, same⟩ := Option.ite_none_right_eq_some.mp made
    cases same
    refine ⟨value.num, read.trans (congrArg Number.finite ?_), ?_⟩
    · exact (Rat.coe_int_num_of_den_eq_one whole).symm
    · exact buildRaw_places [scvAddress sdk input.contributor] built
  · cases made

theorem withdrawRequest_places {sdk : TransactionSdk} {contractId : String} {nowSecs : Nat} {input : WithdrawInput}
    {tx : Transaction} (built : input.request.build sdk contractId nowSecs = some tx) :
    Places tx "withdraw_application" input.org_id input.issue_id :=
  buildRaw_places [scvAddress sdk input.contributor] built

/-- So have those of the maintainers. -/
theorem maintainerRequest_places {sdk : TransactionSdk} {contractId : String} {nowSecs : Nat} {input : MaintainerInput}
    {tx : Transaction} {route : MaintainerRoute} (listed : route ∈ maintainerRoutes)
    (built : (route.request input).build sdk contractId nowSecs = some tx) :
    Places tx route.fnName input.org_id input.issue_id := by
  simp only [maintainerRoutes, List.mem_cons, List.not_mem_nil, or_false] at listed
  rcases listed with rfl | rfl | rfl
  · exact buildRaw_places [scvAddress sdk input.maintainer, scvAddress sdk input.contributor] built
  · exact buildRaw_places [scvAddress sdk input.maintainer, scvAddress sdk input.contributor] built
  · exact buildRaw_places [scvAddress sdk input.maintainer, scvAddress sdk input.contributor] built

theorem maintainerRoute_schema {route : MaintainerRoute} (listed : route ∈ maintainerRoutes) :
    route.schema = maintainerSchema := by
  simp only [maintainerRoutes, List.mem_cons, List.not_mem_nil, or_false] at listed
  rcases listed with rfl | rfl | rfl <;> rfl

/-- The ids of a request reach the contract unchanged and legal there exactly if the issue's is plainly spelled and in
range and the organisation's is a symbol; and a transaction that a route hands out has the ids it has read. -/
theorem accepted_ids_legal_iff (sdk : TransactionSdk) (contractId : String) (nowSecs : Nat) (tx : Transaction)
    (body : Json) :
    (∀ input, applyIssueSchema body = some input →
      (input.issueIdNum = input.issue_id.asNumber ∧ LegalIds input.org_id input.issueIdNum ↔
        input.issue_id.Plain ∧ isSymbolText input.org_id = true) ∧
      ∀ accountSequence request, input.request accountSequence = some request →
        request.build sdk contractId nowSecs = some tx →
        ∃ issueId : Int, input.issueIdNum = .finite issueId ∧ Places tx "apply_for_issue" input.org_id issueId) ∧
    (∀ input, withdrawSchema body = some input →
      (LegalIds input.org_id (.finite input.issue_id) ↔
        input.issue_id < 2 ^ 32 ∧ isSymbolText input.org_id = true) ∧
      (input.request.build sdk contractId nowSecs = some tx →
        Places tx "withdraw_application" input.org_id input.issue_id)) ∧
    ∀ route ∈ maintainerRoutes, ∀ input, route.schema body = some input →
      (LegalIds input.org_id (.finite input.issue_id) ↔
        input.issue_id < 2 ^ 32 ∧ isSymbolText input.org_id = true) ∧
      ((route.request input).build sdk contractId nowSecs = some tx →
        Places tx route.fnName input.org_id input.issue_id) := by
  refine ⟨fun input accepted => ⟨?_, fun accountSequence request => applyRequest_places⟩,
    fun input accepted => ⟨?_, withdrawRequest_places⟩,
    fun route listed input accepted => ⟨?_, maintainerRequest_places listed⟩⟩
  · obtain ⟨org, issue⟩ := applyIssueSchema_eq_some accepted
    rw [← issueIdNum_iff issue]
    constructor
    · rintro ⟨same, u32, symbol⟩
      exact ⟨⟨same, u32⟩, symbol.2⟩
    · rintro ⟨⟨same, u32⟩, symbol⟩
      exact ⟨same, u32, org, symbol⟩
  · obtain ⟨org, positive⟩ := withdrawSchema_eq_some accepted
    exact legalIds_intCast org positive
  · rw [maintainerRoute_schema listed] at accepted
    obtain ⟨org, positive⟩ := maintainerSchema_eq_some accepted
    exact legalIds_intCast org positive

end Proofs

section Sample

/-- An application for the issue `10`, spelled with an exponent or in full. -/
def applyBody (issueId : String) : Json :=
  .object [("contributor", .string sampleAccount), ("org_id", .string "org"), ("issue_id", .string issueId)]

theorem ofText_exponent : Number.ofText "1e1" = .finite (10 : ℕ) := by
  have read : readDecimal (trim "1e1") = some ⟨false, ['1'], [], 1⟩ := rfl
  have digit : digitValue ['1'] = 1 := rfl
  have value : (⟨false, ['1'], [], 1⟩ : DecimalLiteral).value = (10 : ℕ) := by
    norm_num [DecimalLiteral.value, DecimalLiteral.magnitude, digit]
  have literal : Number.ofText "1e1" = .ofRat (⟨false, ['1'], [], 1⟩ : DecimalLiteral).value := rfl
  rw [literal, value]
  exact Number.ofRat_natCast (by norm_num)

theorem parseInt_exponent : Number.parseInt "1e1" = .finite (1 : ℕ) := by
  have read : Js.parseInt "1e1" = some 1 := by decide
  rw [Number.parseInt, read]
  exact Number.ofRat_natCast (by norm_num)

theorem applyBody_accepted {issueId : String} (more : 1 ≤ utf16Length issueId)
    (positive : (Number.finite 0).lt (.ofText issueId) = true) :
    applyIssueSchema (applyBody issueId) = some ⟨sampleAccount, "org", .string issueId, none⟩ := by
  have address : stellarAddress (some (.string sampleAccount)) = some sampleAccount := by decide
  have text : zodString 1 none (some (.string issueId)) = some issueId := if_pos ⟨more, rfl⟩
  have union : issueIdUnion (some (.string issueId)) = some (.string issueId) := by
    rw [issueIdUnion, text]
    exact Option.filter_eq_some_iff.mpr ⟨rfl, positive⟩
  have contributor : (applyBody issueId).field "contributor" = some (.string sampleAccount) := rfl
  have org : (applyBody issueId).field "org_id" = some (.string "org") := rfl
  have issue : (applyBody issueId).field "issue_id" = some (.string issueId) := rfl
  have unsequenced : (applyBody issueId).field "sequence" = none := rfl
  rw [applyIssueSchema, contributor, org, issue, unsequenced, address, union]
  rfl

/-- Asked to apply for issue 10 the route applies for issue 1. -/
theorem exponent_reaches_another_issue :
    ∃ input, applyIssueSchema (applyBody "1e1") = some input ∧ input.issue_id.asNumber = .finite (10 : ℕ) ∧
      input.issueIdNum = .finite (1 : ℕ) ∧ input.issueIdNum ≠ input.issue_id.asNumber := by
  have positive : (Number.finite 0).lt (.ofText "1e1") = true := by
    rw [ofText_exponent]
    rfl
  have other : Number.finite (1 : ℕ) ≠ .finite (10 : ℕ) := by
    intro same
    exact absurd (Number.finite.inj same) (by norm_num)
  refine ⟨_, applyBody_accepted (by decide) positive, ofText_exponent, parseInt_exponent, ?_⟩
  rw [ApplyIssueInput.issueIdNum, IssueIdInput.asText, parseInt_exponent, IssueIdInput.asNumber, ofText_exponent]
  exact other

theorem spellsWhole_ten : SpellsWhole "10" 10 := by
  refine ⟨⟨false, ['1', '0'], [], 0⟩, rfl, rfl, rfl, rfl, ?_⟩
  have value : (⟨false, ['1', '0'], [], 0⟩ : DecimalLiteral).magnitude = (10 : ℕ) := by
    have digits : digitValue ['1', '0'] = 10 := rfl
    norm_num [DecimalLiteral.magnitude, digits]
  rw [value]
  exact Double.nearest_natCast (by norm_num)

/-- Spelled in full the id reaches the contract. -/
theorem plain_id_reaches_contract : ∃ input tx, applyIssueSchema (applyBody "10") = some input ∧
    input.issueIdNum = input.issue_id.asNumber ∧ LegalIds input.org_id input.issueIdNum ∧
    input.issueIdNum = .finite (10 : ℕ) ∧ Places tx "apply_for_issue" "org" 10 := by
  obtain ⟨read, number⟩ := (reads_agree_iff (by norm_num) (by norm_num)).mpr spellsWhole_ten
  have positive : (Number.finite 0).lt (.ofText "10") = true := by
    rw [number]
    rfl
  have accepted := @applyBody_accepted "10" (by decide) positive
  have request : ApplyIssueInput.request ⟨sampleAccount, "org", .string "10", none⟩ "0" =
      some (.apply sampleAccount "org" 10 "0") := by
    rw [ApplyIssueInput.request, ApplyIssueInput.issueIdNum, IssueIdInput.asText, read]
    rfl
  obtain ⟨legal, places⟩ := (accepted_ids_legal_iff (sampleTransactionSdk "" (.tx ⟨⟨"", 100, 1, none, .none, []⟩, []⟩))
    "CAAAAAAAAAAAAAAAAAAAAAAAAAAAAAAAAAAAAAAAAAAAAAAAAAAABSC4" 1700000000 _ (applyBody "10")).1 _ accepted
  obtain ⟨same, ids⟩ := legal.mpr ⟨⟨10, by norm_num, by norm_num, spellsWhole_ten⟩, by decide⟩
  obtain ⟨issueId, value, placed⟩ := places "0" _ request rfl
  have ten : issueId = 10 := by
    exact_mod_cast Number.finite.inj (value.symm.trans read)
  rw [ten] at placed
  exact ⟨_, _, accepted, same, ids, read, placed⟩

end Sample

end WorkloadGovernor
