import Mathlib.Algebra.Ring.Int.Defs
import Mathlib.Algebra.Ring.Nat
import Mathlib.Data.List.Basic

namespace WorkloadGovernor

section Seeds

/-- `struct.pack("<I", issue_id & 0xFFFFFFFF) + org`. -/
def packApply (issueId : Int) (org : List UInt8) : List UInt8 :=
  let n := (issueId % 2 ^ 32).toNat
  [UInt8.ofNat n, UInt8.ofNat (n / 2 ^ 8), UInt8.ofNat (n / 2 ^ 16), UInt8.ofNat (n / 2 ^ 24)] ++ org

/-- `(first & 1) | ((second & 1) << 1)`. -/
def controlBits (first second : Int) : UInt8 :=
  UInt8.ofNat (first % 2).toNat ||| (UInt8.ofNat (second % 2).toNat <<< 1)

/-- The control bits go into byte 5 or, where there is none, to the end. -/
def packControl (issueId : Int) (org : List UInt8) (ctrl : UInt8) : List UInt8 :=
  let data := packApply issueId org
  if more : 5 < data.length then data.set 5 ((data[5] &&& 0xFC) ||| ctrl) else data ++ [ctrl]

def packWithdraw (issueId : Int) (org : List UInt8) (applyFlag doubleFlag : Int) : List UInt8 :=
  packControl issueId org (controlBits applyFlag doubleFlag)

def packRevoke (issueId : Int) (org : List UInt8) (cycleFlag revokeBeforeAssign : Int) : List UInt8 :=
  packControl issueId org (controlBits cycleFlag revokeBeforeAssign)

end Seeds

section Targets

/-- What a target reads of its input before it acts: the two flags are bits 0 and 1. -/
structure FuzzInput where
  issueId : UInt32
  org : String
  firstFlag : Bool
  secondFlag : Bool
  deriving DecidableEq, Repr

/-- `u32::from_le_bytes`. -/
def fromLeBytes (b₀ b₁ b₂ b₃ : UInt8) : UInt32 :=
  UInt32.ofNat (b₀.toNat + 2 ^ 8 * b₁.toNat + 2 ^ 16 * b₂.toNat + 2 ^ 24 * b₃.toNat)

/-- The org that a target makes of the bytes behind the issue id. -/
def orgStr (bytes : List UInt8) : String :=
  let raw := (bytes.take 32).map fun b => b % 26 + 97
  (String.fromUTF8? raw.toByteArray).getD "org"

/-- A target returns early, with nothing read, where the input is too short. -/
def decodeInput : List UInt8 → Option FuzzInput
  | b₀ :: b₁ :: b₂ :: b₃ :: b₄ :: rest =>
    if orgStr (b₄ :: rest) = "" then none
    else some {
      issueId := fromLeBytes b₀ b₁ b₂ b₃
      org := orgStr (b₄ :: rest)
      firstFlag := rest.head?.any fun b₅ => b₅ &&& 1 = 1
      secondFlag := rest.head?.any fun b₅ => b₅ &&& 2 = 2 }
  | _ => none

/-- The flags are `apply_first` and `double_withdraw`. -/
def fuzzWithdraw (data : List UInt8) : Option FuzzInput := decodeInput data

/-- The flags are `do_full_cycle` and `do_revoke_before_assign`. -/
def fuzzRevoke (data : List UInt8) : Option FuzzInput := decodeInput data

end Targets

/-- A seed is read back as it was packed, but for the second byte of the org. -/
def ReadBack (decoded : Option FuzzInput) (issueId : UInt32) (org : List UInt8) (first second : Int) : Prop :=
  ∃ input, decoded = some input ∧ input.issueId = issueId ∧
    (input.firstFlag = true ↔ first % 2 = 1) ∧ (input.secondFlag = true ↔ second % 2 = 1) ∧
    ∀ i, i ≠ 1 → input.org.toList[i]? = (orgStr org).toList[i]?

section Proofs
variable {issueId : UInt32} {org : List UInt8} {first second : Int}

theorem fromLeBytes_pack (issueId : UInt32) :
    fromLeBytes (UInt8.ofNat issueId.toNat) (UInt8.ofNat (issueId.toNat / 2 ^ 8))
      (UInt8.ofNat (issueId.toNat / 2 ^ 16)) (UInt8.ofNat (issueId.toNat / 2 ^ 24)) = issueId := by
  have bound := issueId.toNat_lt
  refine UInt32.toNat_inj.mp ?_
  simp only [fromLeBytes, UInt8.toNat_ofNat', UInt32.toNat_ofNat']
  omega

/-- The letter that a byte is mapped to. -/
def letter (b : UInt8) : Char := Char.ofUInt8 (b % 26 + 97)

theorem utf8EncodeChar_letter (b : UInt8) : String.utf8EncodeChar (letter b) = [b % 26 + 97] := by
  have bound : (b % 26 + 97).toNat < 128 := by
    have small := Nat.mod_lt b.toNat (by decide : 0 < 26)
    rw [UInt8.toNat_add, UInt8.toNat_mod]
    simp only [UInt8.reduceToNat]
    omega
  have value : (letter b).val = (b % 26 + 97).toUInt32 := rfl
  have single : (letter b).utf8Size = 1 := by
    rw [Char.utf8Size_eq_one_iff, value, UInt32.le_iff_toNat_le, UInt8.toNat_toUInt32]
    exact Nat.le_of_lt_succ bound
  rw [String.utf8EncodeChar_eq_singleton single, value, UInt8.toUInt8_toUInt32]

theorem orgStr_toList (bytes : List UInt8) : (orgStr bytes).toList = (bytes.take 32).map letter := by
  have encoded (bs : List UInt8) : (bs.map fun b => b % 26 + 97).toByteArray = (bs.map letter).utf8Encode := by
    induction bs with
    | nil => rfl
    | cons b bs ih =>
      rw [List.map_cons, List.map_cons, List.utf8Encode_cons, ← ih, List.utf8Encode_singleton, utf8EncodeChar_letter,
        ← List.toByteArray_append, List.singleton_append]
  unfold orgStr
  dsimp only
  rw [encoded]
  have read : String.fromUTF8? ((bytes.take 32).map letter).utf8Encode =
      some (String.ofList ((bytes.take 32).map letter)) := by
    rw [String.fromUTF8?, dif_pos ByteArray.isValidUTF8_utf8Encode]
    rfl
  rw [read, Option.getD_some, String.toList_ofList]

theorem controlBits_flags (first second : Int) : (controlBits first second &&& 1 = 1 ↔ first % 2 = 1) ∧
    (controlBits first second &&& 2 = 2 ↔ second % 2 = 1) := by
  unfold controlBits
  rcases Int.emod_two_eq first with even | odd
  · rcases Int.emod_two_eq second with even' | odd'
    · rw [even, even']
      decide
    · rw [even, odd']
      decide
  · rcases Int.emod_two_eq second with even' | odd'
    · rw [odd, even']
      decide
    · rw [odd, odd']
      decide

/-- Masking leaves the bits of the byte that is written into out of the flags. -/
theorem masked_or (b ctrl mask : UInt8) (clear : 0xFC &&& mask = 0) : (b &&& 0xFC ||| ctrl) &&& mask = ctrl &&& mask := by
  have split : (b &&& 0xFC ||| ctrl) &&& mask = (b &&& 0xFC) &&& mask ||| ctrl &&& mask := by
    refine UInt8.toNat_inj.mp ?_
    rw [UInt8.toNat_and, UInt8.toNat_or, UInt8.toNat_or, UInt8.toNat_and _ mask, UInt8.toNat_and ctrl,
      Nat.and_or_distrib_right]
  rw [split, UInt8.and_assoc, clear, UInt8.and_zero, UInt8.zero_or]

/-- The bytes behind the issue id once the control bits are in. -/
def withControl (ctrl : UInt8) : List UInt8 → List UInt8
  | [] => [ctrl]
  | [a] => [a, ctrl]
  | a :: b :: rest => a :: (b &&& 0xFC ||| ctrl) :: rest

theorem packControl_eq (issueId : Int) (org : List UInt8) (ctrl : UInt8) :
    packControl issueId org ctrl = packApply issueId (withControl ctrl org) := by
  unfold packControl
  dsimp only
  rcases org with _ | ⟨a, _ | ⟨b, rest⟩⟩
  · rw [dif_neg (by simp [packApply])]
    rfl
  · rw [dif_neg (by simp [packApply])]
    rfl
  · rw [dif_pos (by simp [packApply])]
    rfl

theorem decodeInput_packApply (issueId : UInt32) (b₄ : UInt8) (rest : List UInt8) :
    decodeInput (packApply issueId.toNat (b₄ :: rest)) = some ⟨issueId, orgStr (b₄ :: rest),
      rest.head?.any fun b₅ => b₅ &&& 1 = 1, rest.head?.any fun b₅ => b₅ &&& 2 = 2⟩ := by
  have bound := issueId.toNat_lt
  have number : ((issueId.toNat : Int) % 2 ^ 32).toNat = issueId.toNat := by omega
  have letters : orgStr (b₄ :: rest) ≠ "" := by
    intro empty
    have chars := orgStr_toList (b₄ :: rest)
    rw [empty] at chars
    cases chars
  rw [packApply, number]
  simp only [List.cons_append, List.nil_append, decodeInput, if_neg letters, fromLeBytes_pack]

theorem withControl_letters {ctrl : UInt8} {i : Nat} (some_byte : org ≠ []) (other : i ≠ 1) :
    (orgStr (withControl ctrl org)).toList[i]? = (orgStr org).toList[i]? := by
  rw [orgStr_toList, orgStr_toList]
  rcases org with _ | ⟨a, _ | ⟨b, rest⟩⟩
  · exact absurd rfl some_byte
  · rcases i with _ | _ | i
    · rfl
    · exact absurd rfl other
    · rfl
  · rcases i with _ | _ | i
    · rfl
    · exact absurd rfl other
    · rfl

/-- With some byte of an org the flags get to the byte they are read from. -/
theorem readBack_packControl (some_byte : org ≠ []) :
    ReadBack (decodeInput (packControl issueId.toNat org (controlBits first second))) issueId org first second := by
  have letters : ∀ i, i ≠ 1 →
      (orgStr (withControl (controlBits first second) org)).toList[i]? = (orgStr org).toList[i]? :=
    fun _ other => withControl_letters some_byte other
  rw [packControl_eq]
  rcases org with _ | ⟨a, _ | ⟨b, rest⟩⟩
  · exact absurd rfl some_byte
  · refine ⟨_, decodeInput_packApply issueId a _, rfl, ?_, ?_, ?_⟩
    · simp [(controlBits_flags first second).1]
    · simp [(controlBits_flags first second).2]
    · exact letters
  · refine ⟨_, decodeInput_packApply issueId a _, rfl, ?_, ?_, ?_⟩
    · simp [masked_or b _ 1 (by decide), (controlBits_flags first second).1]
    · simp [masked_or b _ 2 (by decide), (controlBits_flags first second).2]
    · exact letters

/-- Without any the control byte is read as the org. -/
theorem not_readBack_nil :
    ¬ ReadBack (decodeInput (packControl issueId.toNat [] (controlBits first second))) issueId [] first second := by
  rw [packControl_eq]
  rintro ⟨input, decoded, _, _, _, letters⟩
  rw [withControl, decodeInput_packApply] at decoded
  cases decoded
  have start := letters 0 (by decide)
  rw [orgStr_toList, orgStr_toList] at start
  cases start

theorem readBack_packControl_iff :
    ReadBack (decodeInput (packControl issueId.toNat org (controlBits first second))) issueId org first second ↔
      org ≠ [] := by
  constructor
  · rintro back rfl
    exact not_readBack_nil back
  · exact readBack_packControl

/-- Both packers reach the path they are meant for with every org but the empty one. -/
theorem seeds_read_back_iff (issueId : UInt32) (org : List UInt8) (first second : Int) :
    (ReadBack (fuzzWithdraw (packWithdraw issueId.toNat org first second)) issueId org first second ↔ org ≠ []) ∧
    (ReadBack (fuzzRevoke (packRevoke issueId.toNat org first second)) issueId org first second ↔ org ≠ []) :=
  ⟨readBack_packControl_iff, readBack_packControl_iff⟩

theorem empty_org_seed_not_read_back : ¬ ReadBack (fuzzWithdraw (packWithdraw 1 [] 1 0)) 1 [] 1 0 :=
  @not_readBack_nil 1 1 0

end Proofs

end WorkloadGovernor
