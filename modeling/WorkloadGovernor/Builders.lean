import WorkloadGovernor.Calls
import WorkloadGovernor.Envelope

namespace WorkloadGovernor
open Checked

section Sdk
variable (sdk : TransactionSdk)

/-- `new Address(address).toScVal()`, which throws on any other text. -/
def scvAddress (address : String) : Option Argument :=
  match sdk.publicKey.decode address with
  | some key => some (.address (.account key))
  | none => (sdk.contract.decode address).map fun hash => .address (.contract hash)

/-- `nativeToScVal(name, { type: 'symbol' })`; more than 32 bytes cannot be written. -/
def scvSymbol (name : String) : Option Argument :=
  if name.utf8ByteSize ≤ 32 then some (.symbol name) else none

/-- `nativeToScVal(value, { type: 'u32' })`; any other number cannot be written. -/
def scvU32 (value : Int) : Option Argument :=
  if 0 ≤ value ∧ value < 2 ^ 32 then some (.u32 (UInt32.ofNat value.toNat)) else none

/-- `contract.call(fnName, ...args)`. -/
def contractCall (contractId fnName : String) (args : List (Option Argument)) : Option Operation := do
  let hash ← sdk.contract.decode contractId
  let args ← args.mapM id
  return .invokeHostFunction (.invokeContract ⟨.contract hash, fnName, args⟩)

/-- `new TransactionBuilder(account, ..).addOperation(..)..setTimeout(timeoutSeconds).build()`.
The fee is paid for each operation. -/
def buildTransaction (source sequence : String) (baseFee : Nat) (operations : List Operation)
    (timeoutSeconds nowSecs : Nat) : Option Transaction := do
  let _ ← sdk.publicKey.decode source
  let seqNum ← sdk.nextSequence sequence
  return {
    source := source
    fee := baseFee * operations.length
    sequence := seqNum
    timeBounds := some ⟨0, nowSecs + timeoutSeconds⟩
    memo := .none
    operations := operations
    signatures := [] }

end Sdk

section Builders
variable (sdk : TransactionSdk) (contractId : String) (nowSecs : Nat)

/-- A transaction that cannot be written as XDR counts as not built. -/
def buildRaw (sourceAddress sequence fnName : String) (args : List (Option Argument)) : Option Transaction := do
  let operation ← contractCall sdk contractId fnName args
  buildTransaction sdk sourceAddress sequence 100 [operation] 30 nowSecs

def buildApplyTx (contributor orgId : String) (issueId : Int) (sequence : String) : Option Transaction :=
  buildRaw sdk contractId nowSecs contributor sequence "apply_for_issue"
    [scvAddress sdk contributor, scvSymbol orgId, scvU32 issueId]

def buildWithdrawTx (contributor orgId : String) (issueId : Int) (sequence : String) : Option Transaction :=
  buildRaw sdk contractId nowSecs contributor sequence "withdraw_application"
    [scvAddress sdk contributor, scvSymbol orgId, scvU32 issueId]

def buildAssignTx (maintainer contributor orgId : String) (issueId : Int) (sequence : String) : Option Transaction :=
  buildRaw sdk contractId nowSecs maintainer sequence "assign_issue"
    [scvAddress sdk maintainer, scvAddress sdk contributor, scvSymbol orgId, scvU32 issueId]

def buildCompleteTx (maintainer contributor orgId : String) (issueId : Int) (sequence : String) : Option Transaction :=
  buildRaw sdk contractId nowSecs maintainer sequence "complete_assignment"
    [scvAddress sdk maintainer, scvAddress sdk contributor, scvSymbol orgId, scvU32 issueId]

def buildRevokeTx (maintainer contributor orgId : String) (issueId : Int) (sequence : String) : Option Transaction :=
  buildRaw sdk contractId nowSecs maintainer sequence "revoke_assignment"
    [scvAddress sdk maintainer, scvAddress sdk contributor, scvSymbol orgId, scvU32 issueId]

/-- The transaction that `POST /api/admin/maintainers` hands out. -/
def registerMaintainerTx (adminAddress maintainerAddress orgId sequence : String) : Option Transaction :=
  buildRaw sdk contractId nowSecs adminAddress sequence "register_maintainer"
    [scvAddress sdk maintainerAddress, scvSymbol orgId]

/-- The transaction that `DELETE /api/admin/maintainers` hands out; without a sequence
number in the request it takes the one of the account. -/
def deregisterMaintainerTx (adminAddress maintainerAddress orgId : String) (sequence : Option String)
    (accountSequence : String) : Option Transaction :=
  buildRaw sdk contractId nowSecs adminAddress (sequence.getD accountSequence) "deregister_maintainer"
    [scvAddress sdk maintainerAddress, scvSymbol orgId]

structure ApplicationRef where
  contributor : String
  orgId : String
  issueId : Int
  deriving DecidableEq, Repr

/-- The operation for one application of a batch. -/
def extendOperation (ref : ApplicationRef) : Option Operation :=
  contractCall sdk contractId "extend_application_ttl"
    [scvAddress sdk ref.contributor, scvSymbol ref.orgId, scvU32 ref.issueId]

/-- The transaction of `extendApplicationTtlBatch`, from the account of the service. -/
def extendApplicationTtlTx (sourceAddress sequence : String) (applications : List ApplicationRef) :
    Option Transaction := do
  if applications.isEmpty then none
  else
    let operations ← applications.mapM (extendOperation sdk contractId)
    buildTransaction sdk sourceAddress sequence 100 operations 30 nowSecs

end Builders

section Encoding
variable {sdk : TransactionSdk}

/-- The text form of an address. -/
def ScAddress.text (sdk : TransactionSdk) : ScAddress → String
  | .account key => sdk.publicKey.encode key
  | .contract hash => sdk.contract.encode hash

theorem utf8Size_of_symbolChar {c : Char} (legal : (c.isAlphanum || c == '_') = true) : c.utf8Size = 1 := by
  have small : c.val.toNat < 128 := by
    have ranges : (((decide (c.val ≥ 'A'.val ∧ c.val ≤ 'Z'.val) || (c.val ≥ 'a'.val && c.val ≤ 'z'.val)) ||
        (c.val ≥ '0'.val && c.val ≤ '9'.val)) || c == '_') = true := legal
    simp only [Bool.or_eq_true, Bool.and_eq_true, decide_eq_true_eq, beq_iff_eq, UInt32.le_iff_toNat_le] at ranges
    rcases ranges with ((⟨_, below⟩ | ⟨_, below⟩) | ⟨_, below⟩) | rfl
    · exact below.trans_lt (by decide)
    · exact below.trans_lt (by decide)
    · exact below.trans_lt (by decide)
    · decide
  exact Char.utf8Size_eq_one_iff.mpr (UInt32.le_iff_toNat_le.mpr (Nat.lt_succ_iff.mp small))

theorem utf8ByteSize_ofList {chars : List Char} (each : ∀ c ∈ chars, c.utf8Size = 1) :
    (String.ofList chars).utf8ByteSize = chars.length := by
  induction chars with
  | nil => rfl
  | cons c chars ih =>
    have split : String.ofList (c :: chars) = String.singleton c ++ String.ofList chars := by
      rw [← List.singleton_append, String.ofList_append]
      rfl
    rw [split, String.utf8ByteSize_append, String.utf8ByteSize_singleton, each c List.mem_cons_self,
      ih fun d member => each d (List.mem_cons_of_mem _ member), List.length_cons, Nat.add_comm]

theorem scvSymbol_text (name : Symbol) : scvSymbol name.text = some (.symbol name.text) := by
  obtain ⟨short, legal⟩ := Bool.and_eq_true_iff.mp name.legal
  have each : ∀ c ∈ name.text.toList, c.utf8Size = 1 :=
    fun c member => utf8Size_of_symbolChar (List.all_eq_true.mp legal c member)
  have size := utf8ByteSize_ofList each
  rw [String.ofList_toList] at size
  rw [scvSymbol, if_pos (by rw [size]; exact of_decide_eq_true short)]

theorem scvU32_toNat (value : UInt32) : scvU32 value.toNat = some (.u32 value) := by
  have bound := value.toNat_lt
  rw [scvU32, if_pos (by omega), Int.toNat_natCast, UInt32.ofNat_toNat]

theorem scvAddress_text (documented : sdk.Documented) (address : ScAddress) :
    scvAddress sdk (address.text sdk) = some (.address address) := by
  cases address with
  | account key =>
    rw [ScAddress.text, scvAddress, documented.publicKey.decode_encode]
  | contract hash =>
    rw [ScAddress.text, scvAddress, documented.distinct, documented.contract.decode_encode]
    rfl

end Encoding

section Interface

inductive ParameterType where
  | address
  | symbol
  | u32
  | bytes32
  deriving DecidableEq, Repr

structure Parameter where
  name : String
  type : ParameterType
  deriving DecidableEq, Repr

def Argument.type : Argument → Option ParameterType
  | .address _ => some .address
  | .symbol _ => some .symbol
  | .u32 _ => some .u32
  | .other _ => none

/-- The parameters of the state-changing entry points, without the environment. -/
def entryPoint : String → Option (List Parameter)
  | "initialize" => some [⟨"admin", .address⟩]
  | "register_maintainer" => some [⟨"admin", .address⟩, ⟨"maintainer", .address⟩, ⟨"org_id", .symbol⟩]
  | "deregister_maintainer" => some [⟨"admin", .address⟩, ⟨"maintainer", .address⟩, ⟨"org_id", .symbol⟩]
  | "upgrade" => some [⟨"new_wasm_hash", .bytes32⟩]
  | "set_global_cap" => some [⟨"admin", .address⟩, ⟨"new_cap", .u32⟩]
  | "emergency_set_global_cap" => some [⟨"admin", .address⟩, ⟨"new_cap", .u32⟩]
  | "apply_for_issue" => some [⟨"contributor", .address⟩, ⟨"org_id", .symbol⟩, ⟨"issue_id", .u32⟩]
  | "withdraw_application" => some [⟨"contributor", .address⟩, ⟨"org_id", .symbol⟩, ⟨"issue_id", .u32⟩]
  | "assign_issue" =>
    some [⟨"maintainer", .address⟩, ⟨"contributor", .address⟩, ⟨"org_id", .symbol⟩, ⟨"issue_id", .u32⟩]
  | "complete_assignment" =>
    some [⟨"maintainer", .address⟩, ⟨"contributor", .address⟩, ⟨"org_id", .symbol⟩, ⟨"issue_id", .u32⟩]
  | "revoke_assignment" =>
    some [⟨"maintainer", .address⟩, ⟨"contributor", .address⟩, ⟨"org_id", .symbol⟩, ⟨"issue_id", .u32⟩]
  | "set_org_cap" => some [⟨"maintainer", .address⟩, ⟨"org_id", .symbol⟩, ⟨"new_cap", .u32⟩]
  | "extend_application_ttl" => some [⟨"contributor", .address⟩, ⟨"org_id", .symbol⟩, ⟨"issue_id", .u32⟩]
  | _ => none

/-- What a call is sent as. The hash of an upgrade is none of the kinds told apart here. -/
def Call.sent : Call ScAddress → Option (String × List Argument)
  | .initializeContract admin => some ("initialize", [.address admin])
  | .registerMaintainer admin maintainer orgId =>
    some ("register_maintainer", [.address admin, .address maintainer, .symbol orgId.text])
  | .deregisterMaintainer admin maintainer orgId =>
    some ("deregister_maintainer", [.address admin, .address maintainer, .symbol orgId.text])
  | .upgrade _ => none
  | .setGlobalCap admin newCap => some ("set_global_cap", [.address admin, .u32 newCap])
  | .emergencySetGlobalCap admin newCap => some ("emergency_set_global_cap", [.address admin, .u32 newCap])
  | .applyForIssue contributor orgId issueId =>
    some ("apply_for_issue", [.address contributor, .symbol orgId.text, .u32 issueId])
  | .withdrawApplication contributor orgId issueId =>
    some ("withdraw_application", [.address contributor, .symbol orgId.text, .u32 issueId])
  | .assignIssue maintainer contributor orgId issueId =>
    some ("assign_issue", [.address maintainer, .address contributor, .symbol orgId.text, .u32 issueId])
  | .completeAssignment maintainer contributor orgId issueId =>
    some ("complete_assignment", [.address maintainer, .address contributor, .symbol orgId.text, .u32 issueId])
  | .revokeAssignment maintainer contributor orgId issueId =>
    some ("revoke_assignment", [.address maintainer, .address contributor, .symbol orgId.text, .u32 issueId])
  | .setOrgCap maintainer orgId newCap =>
    some ("set_org_cap", [.address maintainer, .symbol orgId.text, .u32 newCap])
  | .extendApplicationTtl contributor orgId issueId =>
    some ("extend_application_ttl", [.address contributor, .symbol orgId.text, .u32 issueId])

/-- The declaration fits the entry point that is run. -/
theorem entryPoint_of_sent {call : Call ScAddress} {fnName : String} {args : List Argument}
    (sent : call.sent = some (fnName, args)) : ∃ parameters, entryPoint fnName = some parameters ∧
      args.map Argument.type = parameters.map fun parameter => some parameter.type := by
  cases call <;> cases sent <;> exact ⟨_, rfl, rfl⟩

end Interface

section Callable

/-- A field of a request, with the type it is sent as. -/
inductive Field where
  | address (text : String)
  | symbol (text : String)
  | u32 (value : Int)
  deriving DecidableEq, Repr

def Field.type : Field → ParameterType
  | .address _ => .address
  | .symbol _ => .symbol
  | .u32 _ => .u32

def Field.encode (sdk : TransactionSdk) : Field → Option Argument
  | .address text => scvAddress sdk text
  | .symbol text => scvSymbol text
  | .u32 value => scvU32 value

/-- The code paths that build an invocation, with what they build it from. -/
inductive BuildRequest where
  | apply (contributor orgId : String) (issueId : Int) (sequence : String)
  | withdraw (contributor orgId : String) (issueId : Int) (sequence : String)
  | assign (maintainer contributor orgId : String) (issueId : Int) (sequence : String)
  | complete (maintainer contributor orgId : String) (issueId : Int) (sequence : String)
  | revoke (maintainer contributor orgId : String) (issueId : Int) (sequence : String)
  | registerMaintainer (adminAddress maintainerAddress orgId sequence : String)
  | deregisterMaintainer (adminAddress maintainerAddress orgId : String) (sequence : Option String)
      (accountSequence : String)
  | extendApplicationTtl (sourceAddress sequence : String) (applications : List ApplicationRef)
  deriving DecidableEq, Repr

namespace BuildRequest

def build (sdk : TransactionSdk) (contractId : String) (nowSecs : Nat) : BuildRequest → Option Transaction
  | .apply contributor orgId issueId sequence => buildApplyTx sdk contractId nowSecs contributor orgId issueId sequence
  | .withdraw contributor orgId issueId sequence =>
    buildWithdrawTx sdk contractId nowSecs contributor orgId issueId sequence
  | .assign maintainer contributor orgId issueId sequence =>
    buildAssignTx sdk contractId nowSecs maintainer contributor orgId issueId sequence
  | .complete maintainer contributor orgId issueId sequence =>
    buildCompleteTx sdk contractId nowSecs maintainer contributor orgId issueId sequence
  | .revoke maintainer contributor orgId issueId sequence =>
    buildRevokeTx sdk contractId nowSecs maintainer contributor orgId issueId sequence
  | .registerMaintainer adminAddress maintainerAddress orgId sequence =>
    registerMaintainerTx sdk contractId nowSecs adminAddress maintainerAddress orgId sequence
  | .deregisterMaintainer adminAddress maintainerAddress orgId sequence accountSequence =>
    deregisterMaintainerTx sdk contractId nowSecs adminAddress maintainerAddress orgId sequence accountSequence
  | .extendApplicationTtl sourceAddress sequence applications =>
    extendApplicationTtlTx sdk contractId nowSecs sourceAddress sequence applications

def issueFields (orgId : String) (issueId : Int) : List (String × Field) :=
  [("org_id", .symbol orgId), ("issue_id", .u32 issueId)]

/-- The entry point each operation is meant for, and the fields of the request under the
contract's names for their meaning. -/
def meant : BuildRequest → List (String × List (String × Field))
  | .apply contributor orgId issueId _ =>
    [("apply_for_issue", ("contributor", .address contributor) :: issueFields orgId issueId)]
  | .withdraw contributor orgId issueId _ =>
    [("withdraw_application", ("contributor", .address contributor) :: issueFields orgId issueId)]
  | .assign maintainer contributor orgId issueId _ =>
    [("assign_issue",
      ("maintainer", .address maintainer) :: ("contributor", .address contributor) :: issueFields orgId issueId)]
  | .complete maintainer contributor orgId issueId _ =>
    [("complete_assignment",
      ("maintainer", .address maintainer) :: ("contributor", .address contributor) :: issueFields orgId issueId)]
  | .revoke maintainer contributor orgId issueId _ =>
    [("revoke_assignment",
      ("maintainer", .address maintainer) :: ("contributor", .address contributor) :: issueFields orgId issueId)]
  | .registerMaintainer adminAddress maintainerAddress orgId _ =>
    [("register_maintainer",
      [("admin", .address adminAddress), ("maintainer", .address maintainerAddress), ("org_id", .symbol orgId)])]
  | .deregisterMaintainer adminAddress maintainerAddress orgId _ _ =>
    [("deregister_maintainer",
      [("admin", .address adminAddress), ("maintainer", .address maintainerAddress), ("org_id", .symbol orgId)])]
  | .extendApplicationTtl _ _ applications => applications.map fun ref =>
    ("extend_application_ttl", ("contributor", .address ref.contributor) :: issueFields ref.orgId ref.issueId)

def forMaintainers : BuildRequest → Bool
  | .registerMaintainer _ _ _ _ | .deregisterMaintainer _ _ _ _ _ => true
  | _ => false

end BuildRequest

/-- The operation calls the entry point with arguments of its types, each of them the
field that the parameter is named after. -/
def Callable (sdk : TransactionSdk) (operation : Operation) (meant : String × List (String × Field)) : Prop :=
  ∃ invokeArgs parameters, operation.invocation = some invokeArgs ∧ invokeArgs.functionName = meant.1 ∧
    entryPoint meant.1 = some parameters ∧
    invokeArgs.args.map Argument.type = parameters.map (fun parameter => some parameter.type) ∧
    invokeArgs.args.map some =
      parameters.map fun parameter => (meant.2.lookup parameter.name).bind (Field.encode sdk)

section Proofs
variable {sdk : TransactionSdk} {contractId fnName : String} {nowSecs : Nat} {operation : Operation}

theorem contractCall_eq_some {args : List (Option Argument)} :
    contractCall sdk contractId fnName args = some operation ↔ ∃ hash sent,
      sdk.contract.decode contractId = some hash ∧ args = sent.map some ∧
      operation = .invokeHostFunction (.invokeContract ⟨.contract hash, fnName, sent⟩) := by
  simp only [contractCall, Option.bind_eq_bind, Option.bind_eq_some_iff, mapM_eq_some, List.map_id]
  constructor
  · rintro ⟨hash, decoded, sent, same, called⟩
    cases called
    exact ⟨hash, sent, decoded, same, rfl⟩
  · rintro ⟨hash, sent, decoded, same, rfl⟩
    exact ⟨hash, decoded, sent, same, rfl⟩

theorem buildTransaction_operations {source sequence : String} {baseFee timeoutSeconds : Nat}
    {operations : List Operation} {tx : Transaction}
    (built : buildTransaction sdk source sequence baseFee operations timeoutSeconds nowSecs = some tx) :
    tx.operations = operations := by
  obtain ⟨_, _, built⟩ := Option.bind_eq_some_iff.mp built
  obtain ⟨_, _, built⟩ := Option.bind_eq_some_iff.mp built
  cases built
  rfl

/-- The transaction that `buildRaw` makes. -/
def rawTransaction (source : String) (seqNum : Int) (nowSecs : Nat) (invokeArgs : InvokeContractArgs) :
    Transaction where
  source := source
  fee := 100
  sequence := seqNum
  timeBounds := some ⟨0, nowSecs + 30⟩
  memo := .none
  operations := [.invokeHostFunction (.invokeContract invokeArgs)]
  signatures := []

theorem buildRaw_eq {source sequence : String} {hash : Bytes 32} {key : PublicKey} {seqNum : Int}
    (configured : sdk.contract.decode contractId = some hash) (account : sdk.publicKey.decode source = some key)
    (next : sdk.nextSequence sequence = some seqNum) (sent : List Argument) :
    buildRaw sdk contractId nowSecs source sequence fnName (sent.map some) =
      some (rawTransaction source seqNum nowSecs ⟨.contract hash, fnName, sent⟩) := by
  have called : contractCall sdk contractId fnName (sent.map some) = some _ :=
    contractCall_eq_some.mpr ⟨hash, sent, configured, rfl, rfl⟩
  rw [buildRaw, called]
  change buildTransaction sdk source sequence 100 _ 30 nowSecs = _
  rw [buildTransaction, account, next]
  rfl

theorem buildRaw_operations {source sequence : String} {args : List (Option Argument)} {tx : Transaction}
    (built : buildRaw sdk contractId nowSecs source sequence fnName args = some tx) :
    ∃ operation, contractCall sdk contractId fnName args = some operation ∧ tx.operations = [operation] := by
  obtain ⟨operation, called, built⟩ := Option.bind_eq_some_iff.mp built
  exact ⟨operation, called, buildTransaction_operations built⟩

theorem scvAddress_type {text : String} {arg : Argument} (encoded : scvAddress sdk text = some arg) :
    arg.type = some .address := by
  unfold scvAddress at encoded
  split at encoded
  · cases encoded
    rfl
  · obtain ⟨hash, _, rfl⟩ := Option.map_eq_some_iff.mp encoded
    rfl

theorem Field.type_of_encode {field : Field} {arg : Argument} (encoded : field.encode sdk = some arg) :
    arg.type = some field.type := by
  cases field with
  | address text => exact scvAddress_type encoded
  | symbol text =>
    obtain ⟨_, same⟩ := Option.ite_none_right_eq_some.mp encoded
    cases same
    rfl
  | u32 value =>
    obtain ⟨_, same⟩ := Option.ite_none_right_eq_some.mp encoded
    cases same
    rfl

theorem lookup_of_mem {fields : List (String × Field)} (distinct : (fields.map Prod.fst).Nodup) {name : String}
    {field : Field} (member : (name, field) ∈ fields) : fields.lookup name = some field := by
  induction fields with
  | nil => cases member
  | cons first rest ih =>
    obtain ⟨fresh, others⟩ := List.nodup_cons.mp distinct
    rcases List.mem_cons.mp member with rfl | later
    · exact List.lookup_cons_self
    · have different : name ≠ first.1 := by
        rintro rfl
        exact fresh (List.mem_map.mpr ⟨_, later, rfl⟩)
      rw [List.lookup_cons, beq_eq_false_iff_ne.mpr different]
      exact ih others later

/-- An operation that is sent the fields in the order of the declaration is callable. -/
theorem callable_of_declared {fields : List (String × Field)}
    (called : contractCall sdk contractId fnName (fields.map fun field => field.2.encode sdk) = some operation)
    (declared : entryPoint fnName = some (fields.map fun field => ⟨field.1, field.2.type⟩))
    (distinct : (fields.map Prod.fst).Nodup) : Callable sdk operation (fnName, fields) := by
  obtain ⟨hash, sent, _, same, rfl⟩ := contractCall_eq_some.mp called
  refine ⟨_, _, rfl, rfl, declared, ?_, ?_⟩
  · clear declared distinct called
    induction fields generalizing sent with
    | nil => rw [List.map_eq_nil_iff.mp same.symm]; rfl
    | cons field fields ih =>
      obtain ⟨arg, rest, rfl, first, others⟩ := List.map_eq_cons_iff.mp same.symm
      simp only [List.map_cons, Field.type_of_encode first.symm]
      exact congrArg _ (ih rest others.symm)
  · rw [← same, List.map_map]
    refine List.map_congr_left fun field member => ?_
    simp only [Function.comp_apply, lookup_of_mem distinct member, Option.bind_some]

/-- An operation that is sent too few arguments is not. -/
theorem not_callable_of_fewer {args : List (Option Argument)} {fields : List (String × Field)}
    {parameters : List Parameter} (called : contractCall sdk contractId fnName args = some operation)
    (declared : entryPoint fnName = some parameters) (fewer : args.length < parameters.length) :
    ¬ Callable sdk operation (fnName, fields) := by
  rintro ⟨invokeArgs, parameters', invoked, _, declared', types, _⟩
  obtain ⟨hash, sent, _, rfl, rfl⟩ := contractCall_eq_some.mp called
  cases invoked
  cases declared.symm.trans declared'
  have lengths := congrArg List.length types
  simp only [List.length_map] at lengths fewer
  omega

theorem contributorFields_distinct {contributor orgId : String} {issueId : Int} :
    ((("contributor", Field.address contributor) :: BuildRequest.issueFields orgId issueId).map Prod.fst).Nodup := by
  change ["contributor", "org_id", "issue_id"].Nodup
  decide

theorem maintainerFields_distinct {maintainer contributor orgId : String} {issueId : Int} :
    ((("maintainer", Field.address maintainer) :: ("contributor", Field.address contributor) ::
      BuildRequest.issueFields orgId issueId).map Prod.fst).Nodup := by
  change ["maintainer", "contributor", "org_id", "issue_id"].Nodup
  decide

theorem built_issue_callable {source sequence : String} {fields : List (String × Field)} {tx : Transaction}
    (built : buildRaw sdk contractId nowSecs source sequence fnName (fields.map fun field => field.2.encode sdk) =
      some tx)
    (declared : entryPoint fnName = some (fields.map fun field => ⟨field.1, field.2.type⟩))
    (distinct : (fields.map Prod.fst).Nodup) : List.Forall₂ (Callable sdk) tx.operations [(fnName, fields)] := by
  obtain ⟨operation, called, operations⟩ := buildRaw_operations built
  rw [operations]
  exact .cons (callable_of_declared called declared distinct) .nil

theorem built_maintainer_not_callable {source sequence maintainer orgId : String} {fields : List (String × Field)}
    {parameters : List Parameter} {tx : Transaction}
    (built : buildRaw sdk contractId nowSecs source sequence fnName [scvAddress sdk maintainer, scvSymbol orgId] =
      some tx)
    (declared : entryPoint fnName = some parameters) (three : parameters.length = 3) :
    ¬ List.Forall₂ (Callable sdk) tx.operations [(fnName, fields)] := by
  obtain ⟨operation, called, operations⟩ := buildRaw_operations built
  rw [operations]
  rintro (_ | ⟨callable, _⟩)
  exact not_callable_of_fewer called declared (by rw [three]; exact Nat.lt_succ_self 2) callable

theorem extendOperations_callable {applications : List ApplicationRef} {operations : List Operation}
    (each : applications.map (extendOperation sdk contractId) = operations.map some) :
    List.Forall₂ (Callable sdk) operations (applications.map fun ref =>
      ("extend_application_ttl", ("contributor", .address ref.contributor) ::
        BuildRequest.issueFields ref.orgId ref.issueId)) := by
  induction applications generalizing operations with
  | nil =>
    rw [List.map_eq_nil_iff.mp each.symm]
    exact .nil
  | cons ref applications ih =>
    obtain ⟨operation, rest, rfl, first, others⟩ := List.map_eq_cons_iff.mp each.symm
    exact .cons (callable_of_declared first.symm rfl contributorFields_distinct) (ih others.symm)

theorem built_batch_callable {source sequence : String} {applications : List ApplicationRef} {tx : Transaction}
    (built : extendApplicationTtlTx sdk contractId nowSecs source sequence applications = some tx) :
    List.Forall₂ (Callable sdk) tx.operations
      (BuildRequest.extendApplicationTtl source sequence applications).meant := by
  obtain ⟨_, filled⟩ := Option.ite_none_left_eq_some.mp built
  obtain ⟨operations, made, sent⟩ := Option.bind_eq_some_iff.mp filled
  rw [buildTransaction_operations sent]
  exact extendOperations_callable (mapM_eq_some.mp made)

/-- Every path but the two for maintainers builds operations that the contract can be
called with, with each field of the request in its place. -/
theorem builders_callable_iff {request : BuildRequest} {tx : Transaction}
    (built : request.build sdk contractId nowSecs = some tx) :
    List.Forall₂ (Callable sdk) tx.operations request.meant ↔ request.forMaintainers = false := by
  cases request with
  | apply contributor orgId issueId sequence =>
    exact iff_of_true (built_issue_callable built rfl contributorFields_distinct) rfl
  | withdraw contributor orgId issueId sequence =>
    exact iff_of_true (built_issue_callable built rfl contributorFields_distinct) rfl
  | assign maintainer contributor orgId issueId sequence =>
    exact iff_of_true (built_issue_callable built rfl maintainerFields_distinct) rfl
  | complete maintainer contributor orgId issueId sequence =>
    exact iff_of_true (built_issue_callable built rfl maintainerFields_distinct) rfl
  | revoke maintainer contributor orgId issueId sequence =>
    exact iff_of_true (built_issue_callable built rfl maintainerFields_distinct) rfl
  | registerMaintainer adminAddress maintainerAddress orgId sequence =>
    exact iff_of_false (built_maintainer_not_callable built rfl rfl) fun same => Bool.noConfusion same
  | deregisterMaintainer adminAddress maintainerAddress orgId sequence accountSequence =>
    exact iff_of_false (built_maintainer_not_callable built rfl rfl) fun same => Bool.noConfusion same
  | extendApplicationTtl sourceAddress sequence applications =>
    exact iff_of_true (built_batch_callable built) rfl

end Proofs

end Callable

section Sample

def sampleAccount : String := "GAAAAAAAAAAAAAAAAAAAAAAAAAAAAAAAAAAAAAAAAAAAAAAAAAAAC6PV"

def sampleContractId : String := "CAAAAAAAAAAAAAAAAAAAAAAAAAAAAAAAAAAAAAAAAAAAAAAAAAAABSC4"

def sampleBuilderSdk : TransactionSdk := sampleTransactionSdk "" (.tx ⟨⟨"", 0, 0, none, .none, []⟩, []⟩)

theorem sampleAccount_decode : sampleBuilderSdk.publicKey.decode sampleAccount = some sampleKey :=
  sampleStrKey_decode _ _ _

theorem sample_buildRaw (fnName : String) (args : List Argument) :
    ∃ tx, buildRaw sampleBuilderSdk sampleContractId 1700000000 sampleAccount "0" fnName (args.map some) = some tx := by
  have next : sampleBuilderSdk.nextSequence "0" = some 1 := by decide
  exact ⟨_, buildRaw_eq (sampleStrKey_decode _ _ _) sampleAccount_decode next args⟩

theorem sampleAccount_scvAddress : scvAddress sampleBuilderSdk sampleAccount = some (.address (.account sampleKey)) := by
  rw [scvAddress, sampleAccount_decode]

/-- An application is built so that it can be called. -/
theorem apply_request_callable :
    ∃ tx, (BuildRequest.apply sampleAccount "org" 7 "0").build sampleBuilderSdk sampleContractId 1700000000 = some tx ∧
      List.Forall₂ (Callable sampleBuilderSdk) tx.operations (BuildRequest.apply sampleAccount "org" 7 "0").meant := by
  have fields : [scvAddress sampleBuilderSdk sampleAccount, scvSymbol "org", scvU32 7] =
      [.address (.account sampleKey), .symbol "org", .u32 7].map some := by
    rw [sampleAccount_scvAddress]
    rfl
  obtain ⟨tx, built⟩ := sample_buildRaw "apply_for_issue" [.address (.account sampleKey), .symbol "org", .u32 7]
  rw [← fields] at built
  have request : (BuildRequest.apply sampleAccount "org" 7 "0").build sampleBuilderSdk sampleContractId 1700000000 =
      some tx := built
  exact ⟨tx, request, (builders_callable_iff request).mpr rfl⟩

/-- A registration is built without the admin argument of the entry point. -/
theorem register_request_not_callable :
    ∃ tx, (BuildRequest.registerMaintainer sampleAccount sampleAccount "org" "0").build sampleBuilderSdk
        sampleContractId 1700000000 = some tx ∧
      ¬ List.Forall₂ (Callable sampleBuilderSdk) tx.operations
        (BuildRequest.registerMaintainer sampleAccount sampleAccount "org" "0").meant := by
  have fields : [scvAddress sampleBuilderSdk sampleAccount, scvSymbol "org"] =
      [.address (.account sampleKey), .symbol "org"].map some := by
    rw [sampleAccount_scvAddress]
    rfl
  obtain ⟨tx, built⟩ := sample_buildRaw "register_maintainer" [.address (.account sampleKey), .symbol "org"]
  rw [← fields] at built
  exact ⟨tx, built, built_maintainer_not_callable built rfl rfl⟩

end Sample

example : entryPoint "upgrade" = some [⟨"new_wasm_hash", .bytes32⟩] := by decide

end WorkloadGovernor
