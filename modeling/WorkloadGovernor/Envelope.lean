import WorkloadGovernor.Lib.Js
import WorkloadGovernor.ScVal

namespace WorkloadGovernor

/-- A fixed number of bytes. -/
structure Bytes (n : Nat) where
  toList : List UInt8
  size : toList.length = n
  deriving DecidableEq, Repr

abbrev PublicKey := Bytes 32

/-- The part of a public key by which a signature names its signer. -/
def PublicKey.hint (key : PublicKey) : Bytes 4 :=
  ⟨key.toList.drop 28, by rw [List.length_drop, key.size]⟩

inductive ScAddress where
  | account (key : PublicKey)
  | contract (hash : Bytes 32)
  deriving DecidableEq, Repr

/-- An argument as it is sent, of a kind the contract takes or of any other. The text of
a symbol is only checked by the host. -/
inductive Argument where
  | address (address : ScAddress)
  | symbol (text : String)
  | u32 (value : UInt32)
  | other (xdr : List UInt8)
  deriving DecidableEq, Repr

structure InvokeContractArgs where
  contractAddress : ScAddress
  functionName : String
  args : List Argument
  deriving DecidableEq, Repr

inductive HostFunction where
  | invokeContract (invokeArgs : InvokeContractArgs)
  | other (xdr : List UInt8)
  deriving DecidableEq, Repr

inductive Operation where
  | invokeHostFunction (func : HostFunction)
  | other (type : String) (xdr : List UInt8)
  deriving DecidableEq, Repr

structure TimeBounds where
  minTime : Nat
  maxTime : Nat
  deriving DecidableEq, Repr

inductive Memo where
  | none
  | text (value : String)
  | other (xdr : List UInt8)
  deriving DecidableEq, Repr

structure DecoratedSignature where
  hint : Bytes 4
  signature : List UInt8
  deriving DecidableEq, Repr

/-- What a signature of a transaction signs, besides the network. -/
structure TransactionBody where
  source : String
  fee : Nat
  sequence : Int
  timeBounds : Option TimeBounds
  memo : Memo
  operations : List Operation
  deriving Repr

structure Transaction extends TransactionBody where
  signatures : List DecoratedSignature
  deriving Repr

structure FeeBumpBody where
  feeSource : String
  fee : Nat
  innerTransaction : Transaction
  deriving Repr

structure FeeBumpTransaction extends FeeBumpBody where
  signatures : List DecoratedSignature
  deriving Repr

inductive Envelope where
  | txV0 (tx : Transaction)
  | tx (tx : Transaction)
  | txFeeBump (tx : FeeBumpTransaction)
  deriving Repr

inductive SignedPayload where
  | tx (body : TransactionBody)
  | txFeeBump (body : FeeBumpBody)

namespace Envelope

def signatures : Envelope → List DecoratedSignature
  | .txV0 plain | .tx plain => plain.signatures
  | .txFeeBump feeBump => feeBump.signatures

/-- A transaction of the first version is signed as one of the second. -/
def payload : Envelope → SignedPayload
  | .txV0 plain | .tx plain => .tx plain.toTransactionBody
  | .txFeeBump feeBump => .txFeeBump feeBump.toFeeBumpBody

/-- The transaction that is carried out, also where another account pays for it. -/
def inner : Envelope → Transaction
  | .txV0 plain | .tx plain => plain
  | .txFeeBump feeBump => feeBump.innerTransaction

/-- `new Transaction(envelope, networkPassphrase)` on a decoded envelope. -/
def newTransaction : Envelope → Except String Transaction
  | .txV0 plain | .tx plain => .ok plain
  | .txFeeBump _ => .error "Invalid TransactionEnvelope: expected an envelopeTypeTxV0 or envelopeTypeTx but received an envelopeTypeTxFeeBump."

end Envelope

/-- A text form of 32 bytes; decoding throws on a text that is none. -/
structure StrKey where
  encode : Bytes 32 → String
  decode : String → Option (Bytes 32)

structure StrKey.Documented (strKey : StrKey) : Prop where
  decode_encode : ∀ bytes, strKey.decode (strKey.encode bytes) = some bytes
  nonempty : ∀ bytes, strKey.encode bytes ≠ ""

/-- What builders and verifiers take from the SDK. Decoding throws with a message; the
operations are decoded with the envelope. The sequence number of a transaction is the
one after that of its account, if the text of that is a number. -/
structure TransactionSdk where
  fromXDR : String → Except String Envelope
  toXDR : Envelope → String
  hash : String → SignedPayload → List UInt8
  verify : PublicKey → List UInt8 → List UInt8 → Bool
  nextSequence : String → Option Int
  publicKey : StrKey
  contract : StrKey

/-- What the SDK documents about the text forms of keys and contracts. -/
structure TransactionSdk.Documented (sdk : TransactionSdk) : Prop where
  publicKey : sdk.publicKey.Documented
  contract : sdk.contract.Documented
  distinct : ∀ hash, sdk.publicKey.decode (sdk.contract.encode hash) = none

/-- Some attached signature is one under the key, of this payload on this network. -/
def TransactionSdk.SignedBy (sdk : TransactionSdk) (networkPassphrase : String) (envelope : Envelope)
    (key : PublicKey) : Prop :=
  ∃ sig ∈ envelope.signatures, sdk.verify key (sdk.hash networkPassphrase envelope.payload) sig.signature = true

section Invocation

def HostFunction.invocation : HostFunction → Option InvokeContractArgs
  | .invokeContract invokeArgs => some invokeArgs
  | .other _ => none

def Operation.invocation : Operation → Option InvokeContractArgs
  | .invokeHostFunction func => func.invocation
  | .other _ _ => none

/-- The first invocation of a contract among the operations. -/
def TransactionBody.invocation (tx : TransactionBody) : Option InvokeContractArgs :=
  tx.operations.findSome? Operation.invocation

end Invocation

section Sample

/-- A text form that is the real one for one key or contract, and byte for byte elsewhere. -/
def sampleStrKey (initial : Char) (bytes : Bytes 32) (text : String) : StrKey where
  encode := fun other =>
    if other = bytes then text
    else String.ofList (initial :: other.toList.map fun b => Char.ofNat b.toNat)
  decode := fun other =>
    if other = text then some bytes
    else
      let codes := (other.toList.drop 1).map fun c => UInt8.ofNat c.toNat
      if size : codes.length = 32 then
        if other.toList.head? = some initial then some ⟨codes, size⟩ else none
      else none

theorem ofNat_toNat_char (b : UInt8) : UInt8.ofNat (Char.ofNat b.toNat).toNat = b := by
  have small : b.toNat.isValidChar := Or.inl (b.toNat_lt.trans (by decide))
  rw [Char.ofNat, dif_pos small]
  exact UInt8.ofNat_toNat

theorem sampleStrKey_documented {initial : Char} {bytes : Bytes 32} {text : String}
    (long : text.toList.length = 56) : (sampleStrKey initial bytes text).Documented where
  decode_encode := by
    intro other
    by_cases same : other = bytes
    · simp [sampleStrKey, same]
    · have short : String.ofList (initial :: other.toList.map fun b => Char.ofNat b.toNat) ≠ text := by
        intro equal
        rw [← equal, String.toList_ofList, List.length_cons, List.length_map, other.size] at long
        cases long
      have back : (other.toList.map fun b => Char.ofNat b.toNat).map (fun c => UInt8.ofNat c.toNat) = other.toList := by
        rw [List.map_map]
        exact (List.map_congr_left fun b _ => ofNat_toNat_char b).trans (List.map_id _)
      simp only [sampleStrKey, if_neg same, if_neg short, String.toList_ofList, List.drop_one, List.tail_cons, back,
        other.size, List.head?_cons, if_true]
      rfl
  nonempty := by
    intro other
    simp only [sampleStrKey]
    split
    · rintro rfl
      cases long
    · intro empty
      have chars := congrArg String.toList empty
      rw [String.toList_ofList] at chars
      cases chars

theorem sampleStrKey_decode (initial : Char) (bytes : Bytes 32) (text : String) :
    (sampleStrKey initial bytes text).decode text = some bytes := if_pos rfl

theorem sampleStrKey_encode (initial : Char) (bytes : Bytes 32) (text : String) :
    (sampleStrKey initial bytes text).encode bytes = text := if_pos rfl

theorem sampleStrKey_head {initial : Char} {bytes other : Bytes 32} {text : String}
    (starts : text.toList.head? = some initial) :
    ((sampleStrKey initial bytes text).encode other).toList.head? = some initial := by
  simp only [sampleStrKey]
  split
  · exact starts
  · rw [String.toList_ofList, List.head?_cons]

/-- A text that starts otherwise is none of the text forms. -/
theorem sampleStrKey_foreign {initial other : Char} {bytes : Bytes 32} {text foreign : String}
    (starts : text.toList.head? = some initial) (begins : foreign.toList.head? = some other)
    (different : initial ≠ other) : (sampleStrKey initial bytes text).decode foreign = none := by
  have unlike : foreign ≠ text := by
    rintro rfl
    exact different (Option.some.inj (starts.symm.trans begins))
  have first : foreign.toList.head? ≠ some initial := by
    rw [begins]
    exact fun same => different (Option.some.inj same).symm
  simp only [sampleStrKey, if_neg unlike, if_neg first, dite_eq_ite, ite_self]

/-- The second of all public keys. -/
def sampleKey : PublicKey := ⟨List.replicate 31 0 ++ [1], rfl⟩

/-- The first of all contracts, which the server is set up with by default. -/
def sampleContract : Bytes 32 := ⟨List.replicate 32 0, rfl⟩

/-- An SDK that knows one envelope and in which a signature is the key and the hash. -/
def sampleTransactionSdk (text : String) (envelope : Envelope) : TransactionSdk where
  fromXDR := fun other => if other = text then .ok envelope else .error "XDR Read Error: unknown envelope"
  toXDR := fun _ => text
  hash := fun _ _ => List.replicate 32 7
  verify := fun key hash signature => signature = key.toList ++ hash
  nextSequence := fun sequence => (Js.parseInt sequence).map (· + 1)
  publicKey := sampleStrKey 'G' sampleKey "GAAAAAAAAAAAAAAAAAAAAAAAAAAAAAAAAAAAAAAAAAAAAAAAAAAAC6PV"
  contract := sampleStrKey 'C' sampleContract "CAAAAAAAAAAAAAAAAAAAAAAAAAAAAAAAAAAAAAAAAAAAAAAAAAAABSC4"

theorem sampleTransactionSdk_fromXDR (text : String) (envelope : Envelope) :
    (sampleTransactionSdk text envelope).fromXDR text = .ok envelope := if_pos rfl

theorem sampleTransactionSdk_verify (text : String) (envelope : Envelope) (key : PublicKey) (hash : List UInt8) :
    (sampleTransactionSdk text envelope).verify key hash (key.toList ++ hash) = true := by
  simp [sampleTransactionSdk]

theorem sampleTransactionSdk_documented (text : String) (envelope : Envelope) :
    (sampleTransactionSdk text envelope).Documented where
  publicKey := sampleStrKey_documented (by decide)
  contract := sampleStrKey_documented (by decide)
  distinct := fun hash => sampleStrKey_foreign (by decide) (sampleStrKey_head (by decide)) (by decide)

end Sample

end WorkloadGovernor
