namespace WorkloadGovernor

/-- Soroban symbols: at most 32 characters out of letters, digits and `_`. -/
def isSymbolText (text : String) : Bool :=
  text.toList.length ≤ 32 && text.toList.all (fun c => c.isAlphanum || c == '_')

structure Symbol where
  text : String
  legal : isSymbolText text = true
  deriving DecidableEq, Repr

theorem Symbol.eq_of_text {first second : Symbol} (same : first.text = second.text) : first = second := by
  cases first
  cases second
  cases same
  rfl

/-- The host values the contract publishes. `Address` is the type of account and
contract addresses, which the contract only ever compares. -/
inductive ScVal (Address : Type) where
  | symbol (name : Symbol)
  | address (account : Address)
  | u32 (value : UInt32)
  | vec (items : List (ScVal Address))
  deriving Repr

/-- What `env.events().publish(topics, data)` records. -/
structure Event (Address : Type) where
  topics : List (ScVal Address)
  data : ScVal Address
  deriving Repr

end WorkloadGovernor
