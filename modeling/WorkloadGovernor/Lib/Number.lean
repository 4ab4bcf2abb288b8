import Mathlib.Data.List.DropRight
import WorkloadGovernor.Lib.Double
import WorkloadGovernor.Lib.Js

namespace Js

/-- The values of type `number`. The two zeros are one here. -/
inductive Number where
  | nan
  | infinity (negative : Bool)
  | finite (value : ℚ)
  deriving DecidableEq

namespace Number

/-- The number an exact result is rounded to. -/
def ofRat (exact : ℚ) : Number :=
  if |Double.nearest exact| < 2 ^ 1024 then .finite (Double.nearest exact) else .infinity (exact < 0)

def neg : Number → Number
  | .nan => .nan
  | .infinity negative => .infinity !negative
  | .finite value => .finite (-value)

/-- `a < b`. -/
def lt : Number → Number → Bool
  | .nan, _ | _, .nan => false
  | .finite value, .finite other => value < other
  | .finite _, .infinity negative => !negative
  | .infinity negative, .finite _ => negative
  | .infinity negative, .infinity other => negative && !other

def sub : Number → Number → Number
  | .nan, _ | _, .nan => .nan
  | .finite value, .finite other => ofRat (value - other)
  | .finite _, .infinity negative => .infinity !negative
  | .infinity negative, .finite _ => .infinity negative
  | .infinity negative, .infinity other => if negative = other then .nan else .infinity negative

/-- `a + b`. -/
def add (a b : Number) : Number := a.sub b.neg

def mul : Number → Number → Number
  | .nan, _ | _, .nan => .nan
  | .finite value, .finite other => ofRat (value * other)
  | .finite value, .infinity negative | .infinity negative, .finite value =>
    if value = 0 then .nan else .infinity (negative ^^ decide (value < 0))
  | .infinity negative, .infinity other => .infinity (negative ^^ other)

def div : Number → Number → Number
  | .nan, _ | _, .nan => .nan
  | .finite value, .finite other =>
    if other ≠ 0 then ofRat (value / other)
    else if value = 0 then .nan
    else .infinity (value < 0)
  | .finite _, .infinity _ => .finite 0
  | .infinity negative, .finite value => .infinity (negative ^^ decide (value < 0))
  | .infinity _, .infinity _ => .nan

/-- `Math.max(a, b)`. -/
def max : Number → Number → Number
  | .nan, _ | _, .nan => .nan
  | a, b => if a.lt b then b else a

/-- `Math.min(a, b)`. -/
def min : Number → Number → Number
  | .nan, _ | _, .nan => .nan
  | a, b => if b.lt a then b else a

/-- `Math.ceil(a)`. -/
def ceil : Number → Number
  | .finite value => .finite ⌈value⌉
  | other => other

/-- `parseInt(text, 10)`. -/
def parseInt (text : String) : Number :=
  match Js.parseInt text with
  | some value => ofRat value
  | none => .nan

end Number

/-- The value of decimal digits. -/
def digitValue (digits : List Char) : Nat := Nat.ofDigitChars 10 digits 0

/-- A decimal literal as it is spelled. -/
structure DecimalLiteral where
  negative : Bool
  whole : List Char
  fraction : List Char
  exponent : Int

namespace DecimalLiteral

def magnitude (literal : DecimalLiteral) : ℚ :=
  digitValue (literal.whole ++ literal.fraction) * 10 ^ (literal.exponent - literal.fraction.length)

def value (literal : DecimalLiteral) : ℚ := if literal.negative then -literal.magnitude else literal.magnitude

end DecimalLiteral

/-- Nothing but digits, and at least one. -/
def allDigits (text : List Char) : Option Nat :=
  if text ≠ [] ∧ text.all Char.isDigit then some (digitValue text) else none

def takeSign : List Char → Bool × List Char
  | '-' :: rest => (true, rest)
  | '+' :: rest => (false, rest)
  | rest => (false, rest)

/-- What may follow the digits of a literal. -/
def readExponent : List Char → Option Int
  | [] => some 0
  | c :: rest =>
    if c = 'e' ∨ c = 'E' then
      (allDigits (takeSign rest).2).map fun digits => if (takeSign rest).1 then -digits else digits
    else none

/-- The digits after a point, and what is left. -/
def takeFraction : List Char → List Char × List Char
  | '.' :: rest => (rest.takeWhile Char.isDigit, rest.dropWhile Char.isDigit)
  | rest => ([], rest)

def readDecimal (text : List Char) : Option DecimalLiteral :=
  let (negative, unsigned) := takeSign text
  let whole := unsigned.takeWhile Char.isDigit
  let (fraction, rest) := takeFraction (unsigned.dropWhile Char.isDigit)
  if whole = [] ∧ fraction = [] then none
  else (readExponent rest).map fun exponent => ⟨negative, whole, fraction, exponent⟩

/-- The digits of a literal with a prefix, and how many there are to choose from. -/
def radixPrefix : List Char → Option (Nat × List Char)
  | '0' :: mark :: rest =>
    if mark = 'x' ∨ mark = 'X' then some (16, rest)
    else if mark = 'o' ∨ mark = 'O' then some (8, rest)
    else if mark = 'b' ∨ mark = 'B' then some (2, rest)
    else none
  | _ => none

def radixDigit (c : Char) : Nat :=
  if c.isDigit then c.toNat - 48
  else if 'a' ≤ c ∧ c ≤ 'f' then c.toNat - 87
  else if 'A' ≤ c ∧ c ≤ 'F' then c.toNat - 55
  else 16

def radixValue (radix : Nat) (digits : List Char) : Option Nat :=
  if digits ≠ [] ∧ digits.all (radixDigit · < radix) then
    some (digits.foldl (fun value c => radix * value + radixDigit c) 0)
  else none

/-- A text without the white space around it. -/
def trim (text : String) : List Char := (text.toList.dropWhile isSpace).rdropWhile isSpace

/-- `Number(text)`. -/
def Number.ofText (text : String) : Number :=
  if trim text = [] then .finite 0
  else
    match radixPrefix (trim text) with
    | some (radix, digits) =>
      match radixValue radix digits with
      | some value => .ofRat value
      | none => .nan
    | none =>
      if (takeSign (trim text)).2 = "Infinity".toList then .infinity (takeSign (trim text)).1
      else
        match readDecimal (trim text) with
        | some literal => .ofRat literal.value
        | none => .nan

/-- `BigInt(text)`, which throws on anything but a whole number. -/
def bigInt (text : String) : Option Int :=
  if trim text = [] then some 0
  else
    match radixPrefix (trim text) with
    | some (radix, digits) => (radixValue radix digits).map Nat.cast
    | none =>
      (allDigits (takeSign (trim text)).2).map fun value => if (takeSign (trim text)).1 then -(value : Int) else value

/-- The whole number with the fewest digits before its zeros that is read as `value`. -/
def shortestDecimal (value : Nat) : Nat :=
  if value < 2 ^ 53 then value
  else
    let places := (Nat.toDigits 10 value).length
    let candidates := (List.range 17).flatMap fun k =>
      let unit := 10 ^ (places - (k + 1))
      let below := value / unit * unit
      if value - below ≤ below + unit - value then [below, below + unit] else [below + unit, below]
    (candidates.find? fun (candidate : Nat) => Double.nearest (candidate : ℚ) = value).getD value

/-- `String(value)` for a whole number. -/
def wholeText (value : Int) : String :=
  let digits := Nat.toDigits 10 (shortestDecimal value.natAbs)
  let sign := if value < 0 then "-" else ""
  if value.natAbs < 10 ^ 21 then sign ++ String.ofList digits
  else
    let significant := digits.rdropWhile (· = '0')
    let fraction := significant.drop 1
    sign ++ String.ofList (significant.take 1) ++ (if fraction = [] then "" else "." ++ String.ofList fraction) ++
      "e+" ++ Nat.repr (digits.length - 1)

section Reading
variable {text : String} {literal : DecimalLiteral}

theorem digitValue_append (whole fraction : List Char) :
    digitValue (whole ++ fraction) = 10 ^ fraction.length * digitValue whole + digitValue fraction := by
  rw [digitValue, Nat.ofDigitChars_append, Nat.ofDigitChars_eq_ofDigitChars_zero]
  rfl

theorem wholeText_natCast {value : Nat} (small : value < 2 ^ 53) : wholeText value = (value : Int).repr := by
  have places : value < 10 ^ 21 := small.trans (by norm_num)
  have signless : ¬ (value : Int) < 0 := by omega
  rw [wholeText, Int.natAbs_natCast, shortestDecimal, if_pos small, if_neg signless]
  dsimp only
  rw [if_pos places]
  rfl

theorem digitValue_lt {digits : List Char} (each : ∀ c ∈ digits, c.isDigit = true) :
    digitValue digits < 10 ^ digits.length := by
  induction digits with
  | nil => exact Nat.one_pos
  | cons c rest ih =>
    have below := ih fun d member => each d (List.mem_cons_of_mem _ member)
    have range : 48 ≤ c.toNat ∧ c.toNat ≤ 57 := Char.isDigit_iff_toNat.mp (each c List.mem_cons_self)
    have first : digitValue [c] ≤ 9 := by
      rw [digitValue, Nat.ofDigitChars_cons, Nat.ofDigitChars_nil]
      change 10 * 0 + (c.toNat - 48) ≤ 9
      omega
    rw [← List.singleton_append, digitValue_append, List.singleton_append, List.length_cons, Nat.pow_succ]
    nlinarith

theorem digits_eq (text : List Char) :
    digits text = if text.takeWhile Char.isDigit = [] then none else some (digitValue (text.takeWhile Char.isDigit)) := by
  unfold digits
  split
  · rename_i no_digit
    rw [if_pos no_digit]
  · rename_i d ds there
    rw [there, if_neg (List.cons_ne_nil d ds)]
    rfl

theorem trim_spec (text : String) : ∃ spaces, (∀ c ∈ spaces, isSpace c = true) ∧
    text.toList.dropWhile isSpace = trim text ++ spaces :=
  ⟨_, fun _ member => List.mem_rtakeWhile_imp member, List.rdropWhile_append_rtakeWhile.symm⟩

theorem digitless_of_space {c : Char} (space : isSpace c = true) : c.isDigit = false ∧ c ≠ '-' ∧ c ≠ '+' := by
  refine ⟨?_, ?_, ?_⟩
  · by_contra digit
    have spaceless := (isDigit_spaceless (Bool.not_eq_false _ ▸ digit)).1
    rw [space] at spaceless
    cases spaceless
  · rintro rfl
    exact absurd space (by decide)
  · rintro rfl
    exact absurd space (by decide)

theorem takeSign_append {text : List Char} (more : text ≠ []) (spaces : List Char) :
    takeSign (text ++ spaces) = ((takeSign text).1, (takeSign text).2 ++ spaces) := by
  obtain ⟨c, rest, rfl⟩ := List.exists_cons_of_ne_nil more
  rw [List.cons_append]
  by_cases minus : c = '-'
  · rw [minus]
    rfl
  · by_cases plus : c = '+'
    · rw [plus]
      rfl
    · unfold takeSign
      split <;> simp_all

theorem parseInt_eq (text : String) : parseInt text =
    (digits (takeSign (text.toList.dropWhile isSpace)).2).map
      fun (value : Nat) => if (takeSign (text.toList.dropWhile isSpace)).1 then -(value : Int) else value := by
  unfold parseInt
  generalize text.toList.dropWhile isSpace = rest
  unfold takeSign
  split <;> simp [Option.map_eq_bind, Option.bind_assoc]

/-- White space behind the number makes no difference. -/
theorem parseInt_trim (more : trim text ≠ []) : parseInt text =
    (digits (takeSign (trim text)).2).map
      fun (value : Nat) => if (takeSign (trim text)).1 then -(value : Int) else value := by
  obtain ⟨spaces, each, split⟩ := trim_spec text
  have none_there : spaces.takeWhile Char.isDigit = [] := by
    cases spaces with
    | nil => rfl
    | cons c rest => exact List.takeWhile_cons_of_neg (by simp [(digitless_of_space (each c List.mem_cons_self)).1])
  have same : ((takeSign (trim text)).2 ++ spaces).takeWhile Char.isDigit =
      (takeSign (trim text)).2.takeWhile Char.isDigit := by
    rw [List.takeWhile_append, none_there, List.append_nil]
    split
    · rename_i whole
      exact ((List.takeWhile_prefix _).eq_of_length whole).symm
    · rfl
  rw [parseInt_eq, split, takeSign_append more, digits_eq, digits_eq, same]

theorem takeFraction_digits (text : List Char) : ∀ c ∈ (takeFraction text).1, c.isDigit = true := by
  unfold takeFraction
  split
  · exact fun _ member => List.mem_takeWhile_imp member
  · exact fun _ member => absurd member List.not_mem_nil

theorem readDecimal_eq_some {text : List Char} (read : readDecimal text = some literal) :
    literal.negative = (takeSign text).1 ∧ literal.whole = (takeSign text).2.takeWhile Char.isDigit ∧
      ∀ c ∈ literal.fraction, c.isDigit = true := by
  obtain ⟨_, exponent⟩ := Option.ite_none_left_eq_some.mp read
  obtain ⟨e, _, rfl⟩ := Option.map_eq_some_iff.mp exponent
  exact ⟨rfl, rfl, takeFraction_digits _⟩

/-- Of a decimal literal `parseInt` reads the digits before the point. -/
theorem parseInt_of_literal (read : readDecimal (trim text) = some literal) (more : trim text ≠ []) :
    parseInt text = if literal.whole = [] then none
      else some (if literal.negative then -(digitValue literal.whole : Int) else digitValue literal.whole) := by
  obtain ⟨sign, whole, _⟩ := readDecimal_eq_some read
  rw [parseInt_trim more, digits_eq, sign, whole]
  by_cases none_there : (takeSign (trim text)).2.takeWhile Char.isDigit = []
  · rw [if_pos none_there, if_pos none_there]
    rfl
  · rw [if_neg none_there, if_neg none_there]
    rfl

theorem radixPrefix_spec {text digits : List Char} {radix : Nat} (marked : radixPrefix text = some (radix, digits)) :
    ∃ mark, text = '0' :: mark :: digits ∧ mark.isDigit = false ∧ mark ≠ '.' ∧ mark ≠ 'e' ∧ mark ≠ 'E' := by
  unfold radixPrefix at marked
  split at marked
  · rename_i mark rest
    split_ifs at marked with hex octal binary
    all_goals
      cases marked
      refine ⟨mark, rfl, ?_⟩
    · rcases hex with rfl | rfl <;> decide
    · rcases octal with rfl | rfl <;> decide
    · rcases binary with rfl | rfl <;> decide
  · cases marked

/-- With a prefix `parseInt` stops behind the zero. -/
theorem parseInt_of_radix {digits : List Char} {radix : Nat} (marked : radixPrefix (trim text) = some (radix, digits)) :
    parseInt text = some 0 ∧ readDecimal (trim text) = none := by
  obtain ⟨mark, spelled, digitless, point, small_e, large_e⟩ := radixPrefix_spec marked
  have whole : ('0' :: mark :: digits).takeWhile Char.isDigit = ['0'] := by
    rw [List.takeWhile_cons_of_pos (by decide), List.takeWhile_cons_of_neg (by simp [digitless])]
  have rest : ('0' :: mark :: digits).dropWhile Char.isDigit = mark :: digits := by
    rw [List.dropWhile_cons_of_pos (by decide), List.dropWhile_cons_of_neg (by simp [digitless])]
  have unsigned : takeSign ('0' :: mark :: digits) = (false, '0' :: mark :: digits) := rfl
  have no_point : takeFraction (mark :: digits) = ([], mark :: digits) := by
    unfold takeFraction
    split <;> simp_all
  have no_exponent : readExponent (mark :: digits) = none := if_neg (by simp [small_e, large_e])
  constructor
  · rw [parseInt_trim (by rw [spelled]; exact List.cons_ne_nil _ _), spelled, unsigned, digits_eq, whole]
    rfl
  · rw [spelled, readDecimal, unsigned]
    dsimp only
    rw [whole, rest, no_point, no_exponent]
    rfl

theorem readDecimal_infinity {text : List Char} (infinite : (takeSign text).2 = "Infinity".toList) :
    readDecimal text = none := by
  rcases sign : takeSign text with ⟨negative, unsigned⟩
  rw [sign] at infinite
  rw [readDecimal, sign, show unsigned = "Infinity".toList from infinite]
  rfl

end Reading

section Values
variable {text : String} {literal : DecimalLiteral} {n : ℕ} {x : ℚ}

theorem Number.nearest_of_ofRat {y : ℚ} (rounded : Number.ofRat x = .finite y) : Double.nearest x = y := by
  unfold Number.ofRat at rounded
  split at rounded
  · exact Number.finite.inj rounded
  · cases rounded

/-- An exact result that is rounded to a whole number in range. -/
theorem Number.ofRat_eq_natCast (small : n < 2 ^ 53) : Number.ofRat x = .finite n ↔ Double.nearest x = n := by
  refine ⟨Number.nearest_of_ofRat, fun rounded => ?_⟩
  have bounded : |(n : ℚ)| < 2 ^ 1024 := by
    rw [abs_of_nonneg (Nat.cast_nonneg n)]
    exact (by exact_mod_cast small : (n : ℚ) < 2 ^ 53).trans_le (pow_le_pow_right₀ one_le_two (by norm_num))
  rw [Number.ofRat, rounded, if_pos bounded]

theorem Number.ofRat_natCast (small : n < 2 ^ 53) : Number.ofRat n = .finite n :=
  (Number.ofRat_eq_natCast small).mpr (Double.nearest_natCast small)

/-- The digits before the point, a fraction below one, and a power of ten. -/
theorem DecimalLiteral.magnitude_eq (digits : ∀ c ∈ literal.fraction, c.isDigit = true) :
    ∃ part : ℚ, 0 ≤ part ∧ part < 1 ∧ literal.magnitude = (digitValue literal.whole + part) * 10 ^ literal.exponent := by
  have scale : (0 : ℚ) < 10 ^ literal.fraction.length := by positivity
  have below : (digitValue literal.fraction : ℚ) < 10 ^ literal.fraction.length := by exact_mod_cast digitValue_lt digits
  refine ⟨digitValue literal.fraction / 10 ^ literal.fraction.length, by positivity, (div_lt_one scale).mpr below, ?_⟩
  rw [DecimalLiteral.magnitude, digitValue_append, zpow_sub₀ (by norm_num), zpow_natCast]
  push_cast
  field_simp

/-- A text that spells `n` in digits, but for a fraction too small to count. -/
def SpellsWhole (text : String) (n : ℕ) : Prop :=
  ∃ literal, readDecimal (trim text) = some literal ∧ literal.negative = false ∧ literal.exponent = 0 ∧
    digitValue literal.whole = n ∧ Double.nearest literal.magnitude = n

/-- Rounding keeps what is a half or more away from a whole number on its side. -/
theorem nearest_lt_natCast (small : n < 2 ^ 52) (positive : 0 < x) (below : x ≤ n - 1 / 2) : Double.nearest x < n := by
  have half : ((2 * n - 1 : ℤ) : ℚ) * 2 ^ (-1 : ℤ) = n - 1 / 2 := by
    push_cast
    rw [zpow_neg_one]
    ring
  have exact := @Double.nearest_dyadic (2 * n - 1) (-1) (by rw [abs_lt]; omega) (by norm_num)
  rw [half] at exact
  have bound := Double.nearest_mono positive below
  rw [exact] at bound
  linarith

theorem natCast_lt_nearest (small : n + 1 < 2 ^ 53) (above : (n : ℚ) + 1 ≤ x) : (n : ℚ) < Double.nearest x := by
  have next : ((n + 1 : ℕ) : ℚ) ≤ x := by exact_mod_cast above
  have bound := Double.natCast_le_nearest small next
  push_cast at bound
  linarith

/-- A literal is rounded to the digits before its point only if it has no exponent. -/
theorem exponent_eq_zero (digits : ∀ c ∈ literal.fraction, c.isDigit = true) (small : n < 2 ^ 52) (positive : 0 < n)
    (whole : digitValue literal.whole = n) (rounded : Double.nearest literal.magnitude = n) : literal.exponent = 0 := by
  obtain ⟨part, nonneg, below_one, magnitude⟩ := DecimalLiteral.magnitude_eq digits
  rw [whole] at magnitude
  have one : (1 : ℚ) ≤ n := by exact_mod_cast positive
  rcases lt_trichotomy literal.exponent 0 with negative | zero | larger
  · have tenth : (10 : ℚ) ^ literal.exponent ≤ 10 ^ (-1 : ℤ) := zpow_le_zpow_right₀ (by norm_num) (by omega)
    have power : (0 : ℚ) < 10 ^ literal.exponent := zpow_pos (by norm_num) _
    rw [zpow_neg_one] at tenth
    have less := nearest_lt_natCast small (x := literal.magnitude) (by rw [magnitude]; positivity)
      (by rw [magnitude]; nlinarith)
    exact absurd rounded less.ne
  · exact zero
  · have ten : (10 : ℚ) ^ (1 : ℤ) ≤ 10 ^ literal.exponent := zpow_le_zpow_right₀ (by norm_num) (by omega)
    rw [zpow_one] at ten
    have more := natCast_lt_nearest (n := n) (x := literal.magnitude) (by omega) (by rw [magnitude]; nlinarith)
    exact absurd rounded more.ne'

/-- `parseInt` reads a whole number in range only if it is the one spelled. -/
theorem parseInt_eq_finite (small : n < 2 ^ 52) (positive : 0 < n) (read : Number.parseInt text = .finite n) :
    Js.parseInt text = some (n : Int) := by
  unfold Number.parseInt at read
  split at read
  · rename_i value there
    have rounded := (Number.ofRat_eq_natCast (by omega)).mp read
    have some_part : (0 : ℚ) < n := by exact_mod_cast positive
    rcases lt_trichotomy value n with less | same | more
    · rcases le_or_gt value 0 with nonpos | pos
      · have sign : Double.nearest value ≤ 0 := Double.nearest_nonpos (by exact_mod_cast nonpos)
        linarith
      · have exact := @Double.nearest_intCast value (by rw [abs_lt]; omega)
        have same : (value : ℚ) = (n : ℤ) := by
          rw [← exact, rounded, Int.cast_natCast]
        exact absurd (Int.cast_injective same) less.ne
    · rw [there, same]
    · have above : (n : ℚ) + 1 ≤ value := by exact_mod_cast more
      exact absurd rounded (natCast_lt_nearest (by omega) above).ne'
  · cases read

/-- `parseInt` and `Number` read one and the same whole number exactly from the texts that spell it. -/
theorem reads_agree_iff (small : n < 2 ^ 52) (positive : 0 < n) :
    Number.parseInt text = .finite n ∧ Number.ofText text = .finite n ↔ SpellsWhole text n := by
  have in_range : n < 2 ^ 53 := by omega
  constructor
  · rintro ⟨digits, number⟩
    have spelled := parseInt_eq_finite small positive digits
    unfold Number.ofText at number
    split at number
    · rw [Number.finite.injEq] at number
      exact absurd positive (by exact_mod_cast number.symm.not_gt)
    · rename_i more
      split at number
      · rename_i radix marks marked
        rw [(parseInt_of_radix marked).1] at spelled
        cases spelled
        cases positive
      · split at number
        · cases number
        · split at number
          · rename_i literal read
            rw [parseInt_of_literal read more] at spelled
            obtain ⟨_, whole⟩ := Option.ite_none_left_eq_some.mp spelled
            obtain ⟨_, _, fraction⟩ := readDecimal_eq_some read
            have sign : literal.negative = false := by
              by_contra negative
              rw [if_pos (Bool.not_eq_false _ ▸ negative), Option.some.injEq] at whole
              omega
            rw [sign, if_neg Bool.false_ne_true, Option.some.injEq] at whole
            have magnitude := (Number.ofRat_eq_natCast in_range).mp number
            rw [DecimalLiteral.value, sign] at magnitude
            have value : digitValue literal.whole = n := by exact_mod_cast whole
            exact ⟨literal, read, sign, exponent_eq_zero fraction small positive value magnitude, value, magnitude⟩
          · cases number
  · rintro ⟨literal, read, sign, _, whole, rounded⟩
    have more : trim text ≠ [] := by
      intro empty
      rw [empty] at read
      cases read
    have digit : literal.whole ≠ [] := by
      intro empty
      rw [empty] at whole
      exact positive.ne whole
    constructor
    · rw [Number.parseInt, parseInt_of_literal read more, if_neg digit, sign, whole]
      exact Number.ofRat_natCast in_range
    · have unmarked : radixPrefix (trim text) = none := by
        rcases marked : radixPrefix (trim text) with _ | ⟨radix, marks⟩
        · rfl
        · rw [(parseInt_of_radix marked).2] at read
          cases read
      have finite : (takeSign (trim text)).2 ≠ "Infinity".toList := by
        intro infinite
        rw [readDecimal_infinity infinite] at read
        cases read
      rw [Number.ofText, if_neg more, unmarked]
      dsimp only
      rw [if_neg finite, read]
      dsimp only
      rw [DecimalLiteral.value, sign]
      exact (Number.ofRat_eq_natCast in_range).mpr rounded

end Values

section Arithmetic
namespace Number
variable {a b : ℕ}

/-- A natural number, or too large to be one. -/
def Whole (number : Number) : Prop := number = .infinity false ∨ ∃ k : ℕ, number = .finite k

theorem whole_ofRat (n : ℕ) : Whole (ofRat n) := by
  obtain ⟨k, same⟩ := Double.nearest_isInt n
  rw [Int.cast_natCast] at same
  have nonneg : (0 : ℚ) ≤ k := same ▸ Double.nearest_nonneg (Nat.cast_nonneg n)
  rw [ofRat, same]
  split
  · obtain ⟨k, rfl⟩ := Int.eq_ofNat_of_zero_le (by exact_mod_cast nonneg : 0 ≤ k)
    exact Or.inr ⟨k, by rw [Int.cast_natCast]⟩
  · exact Or.inl (by simp [Nat.cast_nonneg n |>.not_gt])

/-- Rounding does not bring a whole number below one in range that it was not below. -/
theorem le_of_ofRat {k : ℕ} (small : b < 2 ^ 53) (least : b ≤ a) (rounded : ofRat a = .finite k) : b ≤ k := by
  have bound : (b : ℚ) ≤ Double.nearest a := Double.natCast_le_nearest small (Nat.cast_le.mpr least)
  rw [nearest_of_ofRat rounded] at bound
  exact Nat.cast_le.mp bound

theorem infinity_mul (positive : 0 < b) : (infinity false).mul (.finite b) = .infinity false := by
  have nonneg : (0 : ℚ) ≤ b := Nat.cast_nonneg b
  simp [Number.mul, positive.ne', nonneg.not_gt]

theorem Whole.mul {number : Number} (whole : Whole number) (positive : 0 < b) : Whole (number.mul (.finite b)) := by
  rcases whole with rfl | ⟨k, rfl⟩
  · exact Or.inl (infinity_mul positive)
  · have whole := whole_ofRat (k * b)
    rwa [Nat.cast_mul] at whole

theorem sub_natCast (le : b ≤ a) : (finite a).sub (.finite b) = ofRat ((a - b : ℕ) : ℚ) := by
  rw [Nat.cast_sub le]
  rfl

theorem mul_natCast : (finite a).mul (.finite b) = ofRat ((a * b : ℕ) : ℚ) := by
  rw [Nat.cast_mul]
  rfl

theorem add_natCast : (finite a).add (.finite b) = ofRat ((a + b : ℕ) : ℚ) := by
  rw [Nat.cast_add, add, neg, sub, sub_neg_eq_add]

theorem lt_natCast : (finite a).lt (.finite b) = true ↔ a < b := by
  rw [lt, decide_eq_true_eq, Nat.cast_lt]

/-- Rounding up a quotient of natural numbers is exact while the quotient has places left. -/
theorem ceil_div_natCast (small : a < 2 ^ 46) (positive : 0 < b) (divisor : b < 2 ^ 7) :
    ((finite a).div (.finite b)).ceil = .finite ((a + b - 1) / b : ℕ) := by
  obtain ⟨c, count⟩ : ∃ c, (a + b - 1) / b = c := ⟨_, rfl⟩
  have bound : (0 : ℚ) < b := Nat.cast_pos.mpr positive
  have covers : a ≤ c * b := by
    have reach := Nat.lt_mul_div_succ (a + b - 1) positive
    rw [count, Nat.mul_comm, Nat.add_mul] at reach
    omega
  have few : c ≤ a := by
    rw [← count]
    have self := Nat.le_mul_of_pos_left a positive
    exact (Nat.div_le_iff_le_mul_add_pred positive).mpr (by omega)
  have upper : Double.nearest ((a : ℚ) / b) ≤ c :=
    Double.nearest_le_natCast (by omega) ((div_le_iff₀ bound).mpr (by exact_mod_cast covers))
  have lower : (c : ℚ) - 1 < Double.nearest ((a : ℚ) / b) := by
    rcases Nat.eq_zero_or_pos c with zero | some_page
    · have nonneg := Double.nearest_nonneg (div_nonneg (Nat.cast_nonneg a) bound.le)
      rw [zero, Nat.cast_zero]
      linarith
    · -- the quotient is more than 1/128 above the number before
      obtain ⟨q, rfl⟩ : ∃ q, c = q + 1 := ⟨c - 1, by omega⟩
      have short : q * b + 1 ≤ a := by
        have reach := Nat.div_mul_le_self (a + b - 1) b
        rw [count, Nat.add_mul] at reach
        omega
      have step : ((128 * q + 1 : ℤ) : ℚ) * 2 ^ (-7 : ℤ) ≤ a / b := by
        have short' : (q : ℚ) * b + 1 ≤ a := by exact_mod_cast short
        have divisor' : (b : ℚ) ≤ 128 := by exact_mod_cast divisor.le
        rw [le_div_iff₀ bound]
        norm_num
        nlinarith
      have exact := @Double.nearest_dyadic (128 * q + 1) (-7) (by rw [abs_lt]; omega) (by norm_num)
      have least := Double.nearest_mono (by positivity) step
      rw [exact] at least
      push_cast at least ⊢
      norm_num at least
      linarith
  have in_range : |Double.nearest ((a : ℚ) / b)| < 2 ^ 1024 := by
    have small' : (c : ℚ) < 2 ^ 53 := by exact_mod_cast (by omega : c < 2 ^ 53)
    have large : (2 : ℚ) ^ 53 ≤ 2 ^ 1024 := pow_le_pow_right₀ one_le_two (by norm_num)
    have nonneg := Double.nearest_nonneg (div_nonneg (Nat.cast_nonneg a) bound.le)
    rw [abs_of_nonneg nonneg]
    exact (upper.trans_lt small').trans_le large
  have rounded : ⌈Double.nearest ((a : ℚ) / b)⌉ = (c : ℤ) :=
    Int.ceil_eq_iff.mpr ⟨by exact_mod_cast lower, by exact_mod_cast upper⟩
  rw [count, div, if_pos bound.ne', ofRat, if_pos in_range, ceil, rounded, Int.cast_natCast]

end Number
end Arithmetic

end Js
