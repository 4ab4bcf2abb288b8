import WorkloadGovernor.Envelope
import WorkloadGovernor.Lib.Json

namespace WorkloadGovernor
open Js

/-- The SDK with what `signature.ts` takes from the runtime and from `tweetnacl`. An
exception is `none`. -/
structure SignatureSdk extends TransactionSdk where
  parsePayload : String → Option Json
  bufferFrom : Json → String → Option (List UInt8)
  detachedVerify : List UInt8 → List UInt8 → PublicKey → Option Bool

/-- The three fields may hold anything, or nothing. -/
structure SignedMessage where
  adminAddress : Option Json
  message : Option Json
  signature : Option Json

section Verify
variable (sdk : SignatureSdk)

/-- Only a text is decoded as a public key. -/
def decodeEd25519PublicKey : Option Json → Option PublicKey
  | some (.string text) => sdk.publicKey.decode text
  | _ => none

def verifySignature (signed : SignedMessage) : Bool :=
  let verified : Option Bool := do
    let decodedKey ← decodeEd25519PublicKey sdk signed.adminAddress
    let messageBuffer ← signed.message.bind fun message => sdk.bufferFrom message "utf-8"
    let signatureBuffer ← signed.signature.bind fun signature => sdk.bufferFrom signature "base64"
    sdk.detachedVerify messageBuffer signatureBuffer decodedKey
  verified.getD false

def parseAuthHeader (authHeader : Option String) : Option SignedMessage := do
  let header ← authHeader
  if startsWith header "Bearer " then
    let payload ← sdk.parsePayload (String.ofList (header.toList.drop 7))
    return {
      adminAddress := ← payload.property "admin_address"
      message := ← payload.property "message"
      signature := ← payload.property "signature" }
  else none

/-- The address a request is let through with; without one it is answered with 401. -/
def signatureAuthMiddleware (authorization : Option String) : Option String :=
  match parseAuthHeader sdk authorization with
  | some signed => if verifySignature sdk signed then asText signed.adminAddress else none
  | none => none

/-- The bytes of the message in a header. -/
def SignedMessage.messageBuffer (signed : SignedMessage) : Option (List UInt8) :=
  signed.message.bind fun message => sdk.bufferFrom message "utf-8"

/-- The header names an address and carries a message, with a signature of it under the
key of that address. -/
def SignedUnder (authorization : Option String) (address : String) (key : PublicKey) (message : List UInt8) : Prop :=
  ∃ signed signature, parseAuthHeader sdk authorization = some signed ∧
    signed.adminAddress = some (.string address) ∧ sdk.publicKey.decode address = some key ∧
    signed.messageBuffer sdk = some message ∧
    (signed.signature.bind fun text => sdk.bufferFrom text "base64") = some signature ∧
    sdk.detachedVerify message signature key = some true

variable {sdk}

/-- What stands behind the scheme is the payload. -/
theorem parseAuthHeader_bearer {encoded : String} {payload : Json} (parsed : sdk.parsePayload encoded = some payload)
    (present : payload ≠ .null) : parseAuthHeader sdk (some ("Bearer " ++ encoded)) =
      some ⟨payload.field "admin_address", payload.field "message", payload.field "signature"⟩ := by
  have rest : String.ofList (("Bearer " ++ encoded).toList.drop 7) = encoded := by
    rw [String.toList_append]
    exact String.ofList_toList
  simp only [parseAuthHeader, Option.bind_eq_bind, Option.bind_some, startsWith_append, if_true, rest, parsed]
  cases payload <;> first | rfl | exact absurd rfl present

theorem verifySignature_eq_true {signed : SignedMessage} : verifySignature sdk signed = true ↔
    ∃ key message signature, decodeEd25519PublicKey sdk signed.adminAddress = some key ∧
      signed.messageBuffer sdk = some message ∧
      (signed.signature.bind fun text => sdk.bufferFrom text "base64") = some signature ∧
      sdk.detachedVerify message signature key = some true := by
  have yes : ∀ verified : Option Bool, verified.getD false = true ↔ verified = some true := by
    intro verified
    cases verified <;> simp
  rw [verifySignature, yes]
  simp only [Option.bind_eq_bind, Option.bind_eq_some_iff, SignedMessage.messageBuffer]
  constructor
  · rintro ⟨key, decoded, message, read, signature, attached, verified⟩
    exact ⟨key, message, signature, decoded, read, attached, verified⟩
  · rintro ⟨key, message, signature, decoded, read, attached, verified⟩
    exact ⟨key, decoded, message, read, signature, attached, verified⟩

/-- A request is let through exactly if its header is signed under the key that the same
header names. -/
theorem signatureAuthMiddleware_eq_some {authorization : Option String} {address : String} :
    signatureAuthMiddleware sdk authorization = some address ↔
      ∃ key message, SignedUnder sdk authorization address key message := by
  rw [signatureAuthMiddleware]
  cases parsed : parseAuthHeader sdk authorization with
  | none =>
    refine iff_of_false (by simp) ?_
    rintro ⟨key, message, signed, signature, own, _⟩
    cases parsed.symm.trans own
  | some signed =>
    simp only [Option.ite_none_right_eq_some, verifySignature_eq_true]
    constructor
    · rintro ⟨⟨key, message, signature, decoded, read, attached, verified⟩, named⟩
      have text := asText_eq_some.mp named
      rw [text] at decoded
      exact ⟨key, message, signed, signature, parsed, text, decoded, read, attached, verified⟩
    · rintro ⟨key, message, own, signature, isOwn, named, decoded, read, attached, verified⟩
      cases parsed.symm.trans isOwn
      refine ⟨⟨key, message, signature, ?_, read, attached, verified⟩, ?_⟩
      · rw [named]
        exact decoded
      · rw [named]
        rfl

end Verify

end WorkloadGovernor
