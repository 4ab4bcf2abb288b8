import Mathlib.Data.List.Infix
import Mathlib.Data.List.TakeWhile

namespace Js

/-- The values a decoder hands to untyped code, as far as numbers are whole. -/
inductive Value where
  | null
  | string (text : String)
  | number (value : Int)
  | array (items : List Value)
  deriving Repr

/-- `typeof value === 'string' ? value : null`, also where there is no value. -/
def asString : Option Value → Option String
  | some (.string text) => some text
  | _ => none

/-- `typeof value === 'number' ? value : null`. -/
def asNumber : Option Value → Option Int
  | some (.number value) => some value
  | _ => none

/-- `text.split(separator)` for a separator of one character. -/
def split (text : String) (separator : Char) : List String :=
  (text.toList.splitOn separator).map String.ofList

/-- The white space and line terminators that `parseInt` skips. -/
def isSpace (c : Char) : Bool :=
  c.toNat ∈ [0x09, 0x0A, 0x0B, 0x0C, 0x0D, 0x20, 0xA0, 0x1680, 0x2028, 0x2029, 0x202F, 0x205F, 0x3000, 0xFEFF] ||
    (0x2000 ≤ c.toNat && c.toNat ≤ 0x200A)

def digits (text : List Char) : Option Nat :=
  match text.takeWhile Char.isDigit with
  | [] => none
  | d :: ds => some ((d :: ds).foldl (fun value c => 10 * value + (c.toNat - 48)) 0)

/-- `parseInt(text, 10)`: a sign and the digits in front, or `NaN` (none) without any. -/
def parseInt (text : String) : Option Int :=
  match text.toList.dropWhile isSpace with
  | '-' :: rest => (digits rest).map fun value => -(value : Int)
  | '+' :: rest => (digits rest).map fun value => (value : Int)
  | rest => (digits rest).map fun value => (value : Int)

theorem digits_toDigits (value : Nat) : digits (Nat.toDigits 10 value) = some value := by
  have each : ∀ c ∈ Nat.toDigits 10 value, c.isDigit = true :=
    fun _ member => Nat.isDigit_of_mem_toDigits (by decide) (by decide) member
  have whole : (Nat.toDigits 10 value).takeWhile Char.isDigit = Nat.toDigits 10 value :=
    List.takeWhile_eq_self_iff.mpr each
  have read : (Nat.toDigits 10 value).foldl (fun value c => 10 * value + (c.toNat - 48)) 0 = value :=
    Nat.ofDigitChars_ten_toDigits
  rw [digits, whole]
  cases chars : Nat.toDigits 10 value with
  | nil => exact absurd chars Nat.toDigits_ne_nil
  | cons d ds =>
    rw [chars] at read
    exact congrArg some read

theorem isDigit_spaceless {c : Char} (digit : c.isDigit = true) : isSpace c = false ∧ c ≠ '-' ∧ c ≠ '+' := by
  have range : 48 ≤ c.toNat ∧ c.toNat ≤ 57 := Char.isDigit_iff_toNat.mp digit
  refine ⟨?_, ?_, ?_⟩
  · simp [isSpace]
    omega
  · rintro rfl
    exact absurd digit (by decide)
  · rintro rfl
    exact absurd digit (by decide)

/-- `parseInt` reads what `String` writes. -/
theorem parseInt_repr (value : Int) : parseInt value.repr = some value := by
  rw [Int.repr_eq_if]
  by_cases nonneg : 0 ≤ value
  · have read := digits_toDigits value.toNat
    rw [if_pos nonneg, parseInt, Nat.toList_repr]
    cases chars : Nat.toDigits 10 value.toNat with
    | nil => exact absurd chars Nat.toDigits_ne_nil
    | cons d ds =>
      obtain ⟨space, minus, plus⟩ := isDigit_spaceless
        (Nat.isDigit_of_mem_toDigits (by decide) (by decide) (chars ▸ List.mem_cons_self))
      rw [chars] at read
      rw [List.dropWhile_cons_of_neg (by simp [space])]
      simp [minus, plus, read, Int.max_eq_left nonneg]
  · have read := digits_toDigits (-value).toNat
    rw [if_neg nonneg, parseInt, String.toList_append, Nat.toList_repr]
    have sign : List.dropWhile isSpace ("-".toList ++ Nat.toDigits 10 (-value).toNat) =
        '-' :: Nat.toDigits 10 (-value).toNat := rfl
    rw [sign]
    simp [read]
    omega

example : parseInt " -12-7" = some (-12) := by decide

/-- Year, month and day of the days counted from 1970-01-01. -/
def civil (days : Nat) : Nat × Nat × Nat :=
  let shifted := days + 719468
  let era := shifted / 146097
  let dayOfEra := shifted % 146097
  let yearOfEra := (dayOfEra - dayOfEra / 1460 + dayOfEra / 36524 - dayOfEra / 146096) / 365
  let dayOfYear := dayOfEra - (365 * yearOfEra + yearOfEra / 4 - yearOfEra / 100)
  let fromMarch := (5 * dayOfYear + 2) / 153
  let month := if fromMarch < 10 then fromMarch + 3 else fromMarch - 9
  let year := yearOfEra + 400 * era + if month ≤ 2 then 1 else 0
  (year, month, dayOfYear - (153 * fromMarch + 2) / 5 + 1)

def padded (width value : Nat) : String := String.ofList ((Nat.toDigits 10 value).leftpad width '0')

/-- `new Date(secs * 1000).toISOString()`, which throws on a date out of range. -/
def toISOString (secs : Nat) : Option String :=
  if secs * 1000 > 8640000000000000 then none
  else
    let (year, month, day) := civil (secs / 86400)
    let yearText := if year > 9999 then "+" ++ padded 6 year else padded 4 year
    some (yearText ++ "-" ++ padded 2 month ++ "-" ++ padded 2 day ++ "T" ++ padded 2 (secs / 3600 % 24) ++ ":" ++
      padded 2 (secs / 60 % 60) ++ ":" ++ padded 2 (secs % 60) ++ ".000Z")

example : toISOString 1709164799 = some "2024-02-28T23:59:59.000Z" := by decide

def startsWith (text start : String) : Bool := start.toList.isPrefixOf text.toList

theorem startsWith_append (start rest : String) : startsWith (start ++ rest) start = true := by
  rw [startsWith, String.toList_append, List.isPrefixOf_iff_prefix]
  exact List.prefix_append _ _

def includes (text part : String) : Bool := decide (part.toList <:+: text.toList)

/-- A text that is there and not empty. -/
def truthy (text : Option String) : Option String := text.filter (· ≠ "")

end Js
