import WorkloadGovernor.Lib.Js
import WorkloadGovernor.Runs

namespace WorkloadGovernor
open Js

inductive ContractEventType where
  | applied
  | withdrew
  | assigned
  | completed
  | revoked
  | maintainerRegistered
  deriving DecidableEq, Repr

def ContractEventType.text : ContractEventType → String
  | .applied => "applied"
  | .withdrew => "withdrew"
  | .assigned => "assigned"
  | .completed => "completed"
  | .revoked => "revoked"
  | .maintainerRegistered => "maintainer_registered"

/-- The record stored for an event. A timestamp is kept as the text the date is made
from, and a number that is `NaN` is missing. -/
structure ContractEventRecord where
  event_type : ContractEventType
  contributor : Option String
  org_id : Option String
  issue_id : Option Int
  tx_hash : String
  event_index : Option Int
  ledger : Option Int
  timestamp : String
  deriving DecidableEq, Repr

/-- A value as the RPC delivers it, in base64. -/
structure XdrValue where
  type : String
  xdr : String
  deriving DecidableEq, Repr

structure RpcEvent where
  type : String
  id : String
  pagingToken : String
  ledger : String
  createdAt : String
  txHash : Option String
  topic : Option (List XdrValue)
  value : Option XdrValue
  deriving DecidableEq, Repr

/-- The two functions of the SDK that the indexer decodes with; either may throw. -/
structure StellarSdk (Address : Type) where
  fromXDR : String → Option (ScVal Address)
  scValToNative : ScVal Address → Option Value

section Decode
variable {Address : Type} (sdk : StellarSdk Address)

def decodeScVal (xdrBase64 : String) : Value :=
  match sdk.fromXDR xdrBase64 with
  | some scVal => (sdk.scValToNative scVal).getD .null
  | none => .null

def known : List ContractEventType :=
  [.applied, .withdrew, .assigned, .completed, .revoked, .maintainerRegistered]

def extractEventType (topics : List String) : Option ContractEventType :=
  match topics with
  | [] => none
  | first :: _ =>
    match asString (some (decodeScVal sdk first)) with
    | some text => known.find? fun eventType => eventType.text == text
    | none => none

def extractContributorFromTopic (topics : List String) : Option String :=
  match topics with
  | _ :: second :: _ => asString (some (decodeScVal sdk second))
  | _ => none

structure ParsedData where
  org_id : Option String
  issue_id : Option Int
  deriving DecidableEq, Repr

def parseEventData (dataXdr : String) (eventType : ContractEventType) : ParsedData :=
  let raw := decodeScVal sdk dataXdr
  if eventType = .maintainerRegistered then ⟨asString (some raw), none⟩
  else
    match raw with
    | .array items =>
      if eventType = .applied ∨ eventType = .withdrew then ⟨asString items[0]?, asNumber items[1]?⟩
      else ⟨asString items[1]?, asNumber items[2]?⟩
    | _ => ⟨none, none⟩

/-- Nothing after the type of the event can fail or be refused. -/
def parseRpcEvent (raw : RpcEvent) : Option ContractEventRecord :=
  if raw.type ≠ "contract" then none
  else
    let topics := (raw.topic.getD []).map XdrValue.xdr
    let dataXdr := (raw.value.map XdrValue.xdr).getD ""
    match extractEventType sdk topics with
    | none => none
    | some eventType =>
      let data := parseEventData sdk dataXdr eventType
      let idParts := split raw.id '-'
      some {
        event_type := eventType
        contributor := if eventType = .maintainerRegistered then none else extractContributorFromTopic sdk topics
        org_id := data.org_id
        issue_id := data.issue_id
        tx_hash := raw.txHash.getD raw.id
        event_index := if idParts.length ≥ 3 then parseInt (idParts[2]?.getD "") else some 0
        ledger := parseInt raw.ledger
        timestamp := raw.createdAt }

end Decode

section Delivery
variable {Address : Type}

/-- What the SDK documents about native values: symbols and addresses become strings,
`u32` numbers, and tuples arrays. -/
structure StellarSdk.Documented (sdk : StellarSdk Address) (strkey : Address → String) : Prop where
  symbol : ∀ name, sdk.scValToNative (.symbol name) = some (.string name.text)
  address : ∀ account, sdk.scValToNative (.address account) = some (.string (strkey account))
  u32 : ∀ value, sdk.scValToNative (.u32 value) = some (.number value.toNat)
  vec : ∀ items natives, List.Forall₂ (fun item native => sdk.scValToNative item = some native) items natives →
    sdk.scValToNative (.vec items) = some (.array natives)

/-- The RPC hands over a contract event unchanged. -/
structure Delivered (sdk : StellarSdk Address) (raw : RpcEvent) (event : Event Address) : Prop where
  type : raw.type = "contract"
  topic : ∃ topic, raw.topic = some topic ∧
    topic.map (fun value => sdk.fromXDR value.xdr) = event.topics.map some
  value : ∃ value, raw.value = some value ∧ sdk.fromXDR value.xdr = some event.data

/-- What an indexed call has to show as: its kind, contributor, organisation and issue. -/
def Call.indexed (strkey : Address → String) : Call Address →
    Option (ContractEventType × Option String × Symbol × Option UInt32)
  | .registerMaintainer _ _ orgId => some (.maintainerRegistered, none, orgId, none)
  | .applyForIssue contributor orgId issueId => some (.applied, some (strkey contributor), orgId, some issueId)
  | .withdrawApplication contributor orgId issueId =>
    some (.withdrew, some (strkey contributor), orgId, some issueId)
  | .assignIssue _ contributor orgId issueId => some (.assigned, some (strkey contributor), orgId, some issueId)
  | .completeAssignment _ contributor orgId issueId =>
    some (.completed, some (strkey contributor), orgId, some issueId)
  | .revokeAssignment _ contributor orgId issueId =>
    some (.revoked, some (strkey contributor), orgId, some issueId)
  | _ => none

/-- The indexer turns the event into a record of that kind with those fields. -/
def Decodes (sdk : StellarSdk Address) (raw : RpcEvent)
    (expected : ContractEventType × Option String × Symbol × Option UInt32) : Prop :=
  ∃ record, parseRpcEvent sdk raw = some record ∧ record.event_type = expected.1 ∧
    record.contributor = expected.2.1 ∧ record.org_id = some expected.2.2.1.text ∧
    record.issue_id = expected.2.2.2.map fun issueId => (issueId.toNat : Int)

variable {sdk : StellarSdk Address} {strkey : Address → String} {raw : RpcEvent} {event : Event Address}

theorem decodeScVal_eq {xdr : String} {scVal : ScVal Address} {native : Value} (read : sdk.fromXDR xdr = some scVal)
    (value : sdk.scValToNative scVal = some native) : decodeScVal sdk xdr = native := by
  simp only [decodeScVal, read, value, Option.getD_some]

theorem delivered_topics (delivered : Delivered sdk raw event) {name : Symbol} {account : Address}
    (topics : event.topics = [.symbol name, .address account]) :
    ∃ first second, (raw.topic.getD []).map XdrValue.xdr = [first, second] ∧
      sdk.fromXDR first = some (.symbol name) ∧ sdk.fromXDR second = some (.address account) := by
  obtain ⟨topic, present, read⟩ := delivered.topic
  rw [topics, List.map_cons, List.map_cons, List.map_nil] at read
  obtain ⟨first, rest, rfl, readFirst, tail⟩ := List.map_eq_cons_iff.mp read
  obtain ⟨second, none_left, rfl, readSecond, nil⟩ := List.map_eq_cons_iff.mp tail
  rw [List.map_eq_nil_iff.mp nil] at present
  rw [present, Option.getD_some]
  exact ⟨first.xdr, second.xdr, rfl, readFirst, readSecond⟩

/-- The name in the first topic decides which event the indexer takes it for, if any. -/
theorem extractEventType_eq (documented : sdk.Documented strkey) {first : String} {name : Symbol}
    (read : sdk.fromXDR first = some (.symbol name)) (rest : List String) :
    extractEventType sdk (first :: rest) = known.find? fun eventType => eventType.text == name.text := by
  have native := decodeScVal_eq read (documented.symbol name)
  simp only [extractEventType, native, asString]

theorem parseRpcEvent_known (documented : sdk.Documented strkey) (delivered : Delivered sdk raw event)
    {name : Symbol} {account : Address} (topics : event.topics = [.symbol name, .address account])
    (kind : ContractEventType) (found : (known.find? fun eventType => eventType.text == name.text) = some kind)
    (named : kind ≠ .maintainerRegistered) :
    ∃ dataXdr record, sdk.fromXDR dataXdr = some event.data ∧ parseRpcEvent sdk raw = some record ∧
      record.event_type = kind ∧ record.contributor = some (strkey account) ∧
      record.org_id = (parseEventData sdk dataXdr kind).org_id ∧
      record.issue_id = (parseEventData sdk dataXdr kind).issue_id := by
  obtain ⟨first, second, texts, readName, readAccount⟩ := delivered_topics delivered topics
  obtain ⟨value, present, read⟩ := delivered.value
  have eventType := (extractEventType_eq documented readName [second]).trans found
  have contributor : extractContributorFromTopic sdk [first, second] = some (strkey account) := by
    simp only [extractContributorFromTopic, decodeScVal_eq readAccount (documented.address account), asString]
  have parsed : ∃ record, parseRpcEvent sdk raw = some record ∧ record.event_type = kind ∧
      record.contributor = some (strkey account) ∧
      record.org_id = (parseEventData sdk value.xdr kind).org_id ∧
      record.issue_id = (parseEventData sdk value.xdr kind).issue_id := by
    simp only [parseRpcEvent, delivered.type, ne_eq, not_true_eq_false, if_false, texts, present, eventType,
      contributor, named, Option.map_some, Option.getD_some, Option.some.injEq, exists_eq_left', and_self]
  obtain ⟨record, found, fields⟩ := parsed
  exact ⟨value.xdr, record, read, found, fields⟩

theorem parseRpcEvent_unknown (documented : sdk.Documented strkey) (delivered : Delivered sdk raw event)
    {name : Symbol} {account : Address} (topics : event.topics = [.symbol name, .address account])
    (unknown : (known.find? fun eventType => eventType.text == name.text) = none) :
    parseRpcEvent sdk raw = none := by
  obtain ⟨first, second, texts, readName, _⟩ := delivered_topics delivered topics
  have eventType := (extractEventType_eq documented readName [second]).trans unknown
  rw [parseRpcEvent, if_neg (not_not.mpr delivered.type), texts]
  simp only [eventType]

/-- The layout of `applied` and `withdrew`. -/
theorem parseEventData_pair (documented : sdk.Documented strkey) {dataXdr : String} {orgId : Symbol}
    {issueId : UInt32} (read : sdk.fromXDR dataXdr = some (.vec [.symbol orgId, .u32 issueId]))
    {kind : ContractEventType} (layout : kind = .applied ∨ kind = .withdrew) :
    parseEventData sdk dataXdr kind = ⟨some orgId.text, some (issueId.toNat : Int)⟩ := by
  have natives := documented.vec _ _
    (.cons (documented.symbol orgId) (.cons (documented.u32 issueId) .nil))
  have native := decodeScVal_eq read natives
  rcases layout with rfl | rfl <;> simp [parseEventData, native, asString, asNumber]

/-- The layout of `assigned`, `completed` and `revoked`. -/
theorem parseEventData_triple (documented : sdk.Documented strkey) {dataXdr : String} {maintainer : Address}
    {orgId : Symbol} {issueId : UInt32}
    (read : sdk.fromXDR dataXdr = some (.vec [.address maintainer, .symbol orgId, .u32 issueId]))
    {kind : ContractEventType} (layout : kind = .assigned ∨ kind = .completed ∨ kind = .revoked) :
    parseEventData sdk dataXdr kind = ⟨some orgId.text, some (issueId.toNat : Int)⟩ := by
  have natives := documented.vec _ _ (.cons (documented.address maintainer)
    (.cons (documented.symbol orgId) (.cons (documented.u32 issueId) .nil)))
  have native := decodeScVal_eq read natives
  rcases layout with rfl | rfl | rfl <;> simp [parseEventData, native, asString, asNumber]

theorem decodes_pair (documented : sdk.Documented strkey) {name : Symbol} {contributor : Address} {orgId : Symbol}
    {issueId : UInt32}
    (delivered : Delivered sdk raw ⟨[.symbol name, .address contributor], .vec [.symbol orgId, .u32 issueId]⟩)
    {kind : ContractEventType} (layout : kind = .applied ∨ kind = .withdrew) (same : kind.text = name.text) :
    Decodes sdk raw (kind, some (strkey contributor), orgId, some issueId) := by
  have found : (known.find? fun eventType => eventType.text == name.text) = some kind := by
    rw [← same]
    rcases layout with rfl | rfl <;> decide
  have named : kind ≠ .maintainerRegistered := by rcases layout with rfl | rfl <;> decide
  obtain ⟨dataXdr, record, read, parsed, type, account, org, issue⟩ :=
    parseRpcEvent_known documented delivered rfl kind found named
  rw [parseEventData_pair documented read layout] at org issue
  exact ⟨record, parsed, type, account, org, issue⟩

theorem decodes_triple (documented : sdk.Documented strkey) {name : Symbol} {maintainer contributor : Address}
    {orgId : Symbol} {issueId : UInt32}
    (delivered : Delivered sdk raw
      ⟨[.symbol name, .address contributor], .vec [.address maintainer, .symbol orgId, .u32 issueId]⟩)
    {kind : ContractEventType} (layout : kind = .assigned ∨ kind = .completed ∨ kind = .revoked)
    (same : kind.text = name.text) : Decodes sdk raw (kind, some (strkey contributor), orgId, some issueId) := by
  have found : (known.find? fun eventType => eventType.text == name.text) = some kind := by
    rw [← same]
    rcases layout with rfl | rfl | rfl <;> decide
  have named : kind ≠ .maintainerRegistered := by rcases layout with rfl | rfl | rfl <;> decide
  obtain ⟨dataXdr, record, read, parsed, type, account, org, issue⟩ :=
    parseRpcEvent_known documented delivered rfl kind found named
  rw [parseEventData_triple documented read layout] at org issue
  exact ⟨record, parsed, type, account, org, issue⟩

/-- `maint_reg` is none of the names the indexer knows. -/
theorem maint_reg_not_parsed (documented : sdk.Documented strkey) {maintainer : Address} {data : ScVal Address}
    (delivered : Delivered sdk raw ⟨[.symbol ⟨"maint_reg", by decide⟩, .address maintainer], data⟩) :
    parseRpcEvent sdk raw = none :=
  parseRpcEvent_unknown documented delivered rfl (by decide)

variable [DecidableEq Address]

/-- A published event of an indexed call decodes to the call's own record, unless the call
registered a maintainer. -/
theorem indexer_decodes_iff (documented : sdk.Documented strkey) {env after : Env Address} {auths : List Address}
    {call : Call Address} (success : invoke env auths call = .ok after)
    {expected : ContractEventType × Option String × Symbol × Option UInt32}
    (indexed : call.indexed strkey = some expected) (published : after.events = env.events ++ [event])
    (delivered : Delivered sdk raw event) :
    Decodes sdk raw expected ↔ ∀ admin maintainer orgId, call ≠ .registerMaintainer admin maintainer orgId := by
  obtain ⟨_, rfl⟩ := invoke_eq_ok.mp success
  have named : ∀ own : Event Address, ((env.authorisedBy auths).effect call).events = env.events ++ [own] →
      Delivered sdk raw own := by
    intro own appended
    have same := List.append_cancel_left (published.symm.trans appended)
    rw [← (List.cons.inj same).1]
    exact delivered
  cases call with
  | registerMaintainer admin maintainer orgId =>
    refine iff_of_false ?_ fun other => other admin maintainer orgId rfl
    intro decodes
    obtain ⟨record, parsed, _⟩ := decodes
    cases (maint_reg_not_parsed documented (named _ rfl)).symm.trans parsed
  | applyForIssue c o i =>
    cases indexed
    exact iff_of_true (decodes_pair documented (named _ rfl) (Or.inl rfl) rfl) (by simp)
  | withdrawApplication c o i =>
    cases indexed
    exact iff_of_true (decodes_pair documented (named _ rfl) (Or.inr rfl) rfl) (by simp)
  | assignIssue m c o i =>
    cases indexed
    exact iff_of_true (decodes_triple documented (named _ rfl) (Or.inl rfl) rfl) (by simp)
  | completeAssignment m c o i =>
    cases indexed
    exact iff_of_true (decodes_triple documented (named _ rfl) (Or.inr (Or.inl rfl)) rfl) (by simp)
  | revokeAssignment m c o i =>
    cases indexed
    exact iff_of_true (decodes_triple documented (named _ rfl) (Or.inr (Or.inr rfl)) rfl) (by simp)
  | _ => cases indexed

end Delivery

section Sample

/-- The text form of an account; 0 and 1 stand for the first two public keys. -/
def accountText : Nat → String
  | 0 => "GAAAAAAAAAAAAAAAAAAAAAAAAAAAAAAAAAAAAAAAAAAAAAAAAAAAAWHF"
  | 1 => "GAAAAAAAAAAAAAAAAAAAAAAAAAAAAAAAAAAAAAAAAAAAAAAAAAAAC6PV"
  | account => toString account

mutual

def nativeOf : ScVal Nat → Value
  | .symbol name => .string name.text
  | .address account => .string (accountText account)
  | .u32 value => .number value.toNat
  | .vec items => .array (nativesOf items)

def nativesOf : List (ScVal Nat) → List Value
  | [] => []
  | item :: items => nativeOf item :: nativesOf items

end

/-- The base64 forms of the values in the sample events. -/
def sampleXdr : List (String × ScVal Nat) :=
  [("AAAADwAAAAltYWludF9yZWcAAAA=", .symbol ⟨"maint_reg", Eq.refl true⟩),
    ("AAAADwAAAAdhcHBsaWVkAA==", .symbol ⟨"applied", Eq.refl true⟩),
    ("AAAADwAAAANvcmcA", .symbol sampleOrg),
    ("AAAAEgAAAAAAAAAAAAAAAAAAAAAAAAAAAAAAAAAAAAAAAAAAAAAAAAAAAAE=", .address 1),
    ("AAAAEAAAAAEAAAACAAAADwAAAANvcmcAAAAAAwAAAAc=", .vec [.symbol sampleOrg, .u32 7])]

def sampleSdk : StellarSdk Nat where
  fromXDR := fun xdr => sampleXdr.lookup xdr
  scValToNative := fun scVal => some (nativeOf scVal)

theorem sampleSdk_documented : sampleSdk.Documented accountText where
  symbol := fun _ => rfl
  address := fun _ => rfl
  u32 := fun _ => rfl
  vec := fun items natives each => by
    have whole : nativesOf items = natives := by
      induction each with
      | nil => rfl
      | cons first _ ih => rw [nativesOf, Option.some.inj first, ih]
    rw [← whole]
    rfl

/-- An event of contributor or maintainer 1 as the RPC delivers it. -/
def sampleEvent (name data : String) : RpcEvent where
  type := "contract"
  id := "0000000042-0000000001-0000000000"
  pagingToken := "0000000042-0000000001-0000000000"
  ledger := "42"
  createdAt := "2024-01-01T00:00:00Z"
  txHash := none
  topic := some [⟨"sym", name⟩, ⟨"address", "AAAAEgAAAAAAAAAAAAAAAAAAAAAAAAAAAAAAAAAAAAAAAAAAAAAAAAAAAAE="⟩]
  value := some ⟨"scval", data⟩

/-- The event of an application decodes to its record. -/
theorem applied_event_decoded :
    Decodes sampleSdk (sampleEvent "AAAADwAAAAdhcHBsaWVkAA==" "AAAAEAAAAAEAAAACAAAADwAAAANvcmcAAAAAAwAAAAc=")
      (.applied, some (accountText 1), sampleOrg, some 7) := by
  have success : invoke (exec (.release Nat) [.call [0] (.initializeContract 0)]) [1]
      (.applyForIssue 1 sampleOrg 7) = .ok _ := invoke_eq_ok.mpr ⟨⟨rfl, by decide, by decide, rfl⟩, rfl⟩
  have delivered : Delivered sampleSdk
      (sampleEvent "AAAADwAAAAdhcHBsaWVkAA==" "AAAAEAAAAAEAAAACAAAADwAAAANvcmcAAAAAAwAAAAc=")
      ⟨[.symbol ⟨"applied", by decide⟩, .address 1], .vec [.symbol sampleOrg, .u32 7]⟩ :=
    ⟨rfl, ⟨_, rfl, rfl⟩, ⟨_, rfl, rfl⟩⟩
  exact (indexer_decodes_iff sampleSdk_documented success rfl rfl delivered).mpr (by simp)

/-- The event of a registration, published and delivered as any other, is dropped. -/
theorem maint_reg_event_dropped :
    (∃ after, invoke (exec (.release Nat) [.call [0] (.initializeContract 0)]) [0]
        (.registerMaintainer 0 1 sampleOrg) = .ok after ∧
      after.events = (exec (.release Nat) [.call [0] (.initializeContract 0)]).events ++
        [⟨[.symbol ⟨"maint_reg", by decide⟩, .address 1], .symbol sampleOrg⟩]) ∧
    Delivered sampleSdk (sampleEvent "AAAADwAAAAltYWludF9yZWcAAAA=" "AAAADwAAAANvcmcA")
      ⟨[.symbol ⟨"maint_reg", by decide⟩, .address 1], .symbol sampleOrg⟩ ∧
    ¬ Decodes sampleSdk (sampleEvent "AAAADwAAAAltYWludF9yZWcAAAA=" "AAAADwAAAANvcmcA")
      (.maintainerRegistered, none, sampleOrg, none) := by
  have delivered : Delivered sampleSdk (sampleEvent "AAAADwAAAAltYWludF9yZWcAAAA=" "AAAADwAAAANvcmcA")
      ⟨[.symbol ⟨"maint_reg", by decide⟩, .address 1], .symbol sampleOrg⟩ :=
    ⟨rfl, ⟨_, rfl, rfl⟩, ⟨_, rfl, rfl⟩⟩
  refine ⟨⟨_, rfl, rfl⟩, delivered, fun decodes => ?_⟩
  obtain ⟨record, parsed, _⟩ := decodes
  cases (maint_reg_not_parsed sampleSdk_documented delivered).symm.trans parsed

end Sample

end WorkloadGovernor
