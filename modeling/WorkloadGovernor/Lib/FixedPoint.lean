import WorkloadGovernor.Lib.Number

namespace Js

/-- The digits behind the point: zeros in front up to all places, none at the end but the
only one. -/
def fractionDigits (places value : Nat) : List Char :=
  let stripped := ((Nat.toDigits 10 value).leftpad places '0').rdropWhile (· = '0')
  if stripped = [] then ['0'] else stripped

/-- A number of units of which `10 ^ places` make a whole. -/
def fixedPoint (places amount : Nat) : String :=
  (amount / 10 ^ places).repr ++ "." ++ String.ofList (fractionDigits places (amount % 10 ^ places))

/-- The only spelling of a number with at most so many places. -/
def IsCanonical (places : Nat) (text : String) : Prop :=
  ∃ (whole : Nat) (fraction : List Char), text = whole.repr ++ "." ++ String.ofList fraction ∧
    (∀ c ∈ fraction, c.isDigit = true) ∧ 1 ≤ fraction.length ∧ fraction.length ≤ places ∧
    (fraction.getLast? = some '0' → fraction = ['0'])

/-- The number of units that a text denotes exactly. -/
def unitsOf (places : Nat) (text : String) : Option ℚ :=
  (readDecimal text.toList).map fun literal => literal.value * 10 ^ places

section Reading
variable {whole fraction : List Char}

theorem takeSign_of_digit {c : Char} (digit : c.isDigit = true) (rest : List Char) :
    takeSign (c :: rest) = (false, c :: rest) := by
  obtain ⟨_, minus, plus⟩ := isDigit_spaceless digit
  unfold takeSign
  split <;> simp_all

theorem readDecimal_point (first : ∀ c ∈ whole, c.isDigit = true) (some_digit : whole ≠ [])
    (second : ∀ c ∈ fraction, c.isDigit = true) :
    readDecimal (whole ++ '.' :: fraction) = some ⟨false, whole, fraction, 0⟩ := by
  obtain ⟨c, rest, rfl⟩ := List.exists_cons_of_ne_nil some_digit
  have signless : takeSign (c :: rest ++ '.' :: fraction) = (false, c :: rest ++ '.' :: fraction) :=
    takeSign_of_digit (first c List.mem_cons_self) _
  have before : (c :: rest ++ '.' :: fraction).takeWhile Char.isDigit = c :: rest := by
    rw [List.takeWhile_append_of_pos first, List.takeWhile_cons_of_neg (by decide), List.append_nil]
  have after : (c :: rest ++ '.' :: fraction).dropWhile Char.isDigit = '.' :: fraction := by
    rw [List.dropWhile_append_of_pos first, List.dropWhile_cons_of_neg (by decide)]
  have point : takeFraction ('.' :: fraction) = (fraction, []) := by
    rw [takeFraction, List.takeWhile_eq_self_iff.mpr second, List.dropWhile_eq_nil_iff.mpr second]
  rw [readDecimal, signless]
  dsimp only
  rw [before, after, point]
  rfl

theorem digitValue_toDigits (value : Nat) : digitValue (Nat.toDigits 10 value) = value :=
  Nat.ofDigitChars_ten_toDigits

theorem toDigits_digits (value : Nat) : ∀ c ∈ Nat.toDigits 10 value, c.isDigit = true :=
  fun _ member => Nat.isDigit_of_mem_toDigits (by decide) (by decide) member

/-- Nothing is trimmed from the digits of a number, and they have neither a sign nor a prefix. -/
theorem digits_repr (value : Nat) : trim value.repr = Nat.toDigits 10 value ∧
    radixPrefix (Nat.toDigits 10 value) = none ∧
    takeSign (Nat.toDigits 10 value) = (false, Nat.toDigits 10 value) := by
  obtain ⟨c, rest, chars⟩ := List.exists_cons_of_ne_nil (Nat.toDigits_ne_nil (b := 10) (n := value))
  have digits := chars ▸ toDigits_digits value
  rw [trim, Nat.toList_repr, chars]
  refine ⟨?_, ?_, takeSign_of_digit (digits c List.mem_cons_self) rest⟩
  · have front : (c :: rest).dropWhile isSpace = c :: rest :=
      List.dropWhile_cons_of_neg (by simp [(isDigit_spaceless (digits c List.mem_cons_self)).1])
    rw [front]
    exact List.rdropWhile_eq_self_iff.mpr fun more => by simp [(isDigit_spaceless (digits _ (List.getLast_mem more))).1]
  · rcases marked : radixPrefix (c :: rest) with _ | ⟨radix, marks⟩
    · rfl
    · obtain ⟨mark, spelled, digitless, _⟩ := radixPrefix_spec marked
      have digit := digits mark (by rw [spelled]; simp)
      rw [digitless] at digit
      cases digit

/-- `BigInt` reads what `toString` writes. -/
theorem bigInt_repr (value : Nat) : bigInt value.repr = some (value : Int) := by
  obtain ⟨trimmed, unmarked, signless⟩ := digits_repr value
  have all_digits : allDigits (Nat.toDigits 10 value) = some value := by
    rw [allDigits, if_pos ⟨Nat.toDigits_ne_nil, List.all_eq_true.mpr (toDigits_digits value)⟩, digitValue_toDigits]
  rw [bigInt, trimmed, if_neg Nat.toDigits_ne_nil, unmarked]
  dsimp only
  rw [signless, all_digits]
  rfl

/-- `Number` reads what `String` writes of a whole number below `2 ^ 53`. -/
theorem ofText_wholeText {value : Nat} (small : value < 2 ^ 53) : Number.ofText (wholeText value) = .finite value := by
  obtain ⟨trimmed, unmarked, signless⟩ := digits_repr value
  have digits := toDigits_digits value
  have read : readDecimal (Nat.toDigits 10 value) = some ⟨false, Nat.toDigits 10 value, [], 0⟩ := by
    rw [readDecimal, signless]
    dsimp only
    rw [List.takeWhile_eq_self_iff.mpr digits, List.dropWhile_eq_nil_iff.mpr digits]
    exact if_neg fun empty => Nat.toDigits_ne_nil empty.1
  have finite : Nat.toDigits 10 value ≠ "Infinity".toList := by
    intro same
    exact absurd (digits 'I' (by rw [same]; decide)) (by decide)
  have whole : (⟨false, Nat.toDigits 10 value, [], 0⟩ : DecimalLiteral).value = value := by
    rw [DecimalLiteral.value, DecimalLiteral.magnitude]
    simp [digitValue_toDigits]
  have text : wholeText value = value.repr := wholeText_natCast small
  rw [text, Number.ofText, trimmed, if_neg Nat.toDigits_ne_nil, unmarked]
  dsimp only
  rw [signless, if_neg finite, read]
  dsimp only
  rw [whole]
  exact Number.ofRat_natCast small

theorem digitValue_zeros (count : Nat) : digitValue (List.replicate count '0') = 0 := by
  induction count with
  | zero => rfl
  | succ count ih =>
    rw [List.replicate_succ, ← List.singleton_append, digitValue_append, ih]
    rfl

/-- Zeros at the end count as places, zeros in front do not count. -/
theorem digitValue_stripped (digits : List Char) :
    digitValue (digits.rdropWhile (· = '0')) * 10 ^ (digits.length - (digits.rdropWhile (· = '0')).length) =
      digitValue digits := by
  have split := List.rdropWhile_append_rtakeWhile (p := (· = '0')) (l := digits)
  have zeros : digits.rtakeWhile (· = '0') = List.replicate (digits.rtakeWhile (· = '0')).length '0' :=
    List.eq_replicate_iff.mpr ⟨rfl, fun c member => by simpa using List.mem_rtakeWhile_imp member⟩
  have length := congrArg List.length split
  have value := congrArg digitValue split
  rw [List.length_append] at length
  rw [digitValue_append, zeros, digitValue_zeros, List.length_replicate] at value
  rw [← length, Nat.add_sub_cancel_left, Nat.mul_comm]
  exact value

end Reading

section Fractions
variable {places value : ℕ}

theorem fractionDigits_spec (some_place : 0 < places) (small : value < 10 ^ places) :
    (∀ c ∈ fractionDigits places value, c.isDigit = true) ∧ 1 ≤ (fractionDigits places value).length ∧
      (fractionDigits places value).length ≤ places ∧
      digitValue (fractionDigits places value) * 10 ^ (places - (fractionDigits places value).length) = value := by
  obtain ⟨padded, pads⟩ : ∃ padded, (Nat.toDigits 10 value).leftpad places '0' = padded := ⟨_, rfl⟩
  have short : (Nat.toDigits 10 value).length ≤ places := (Nat.length_toDigits_le_iff (by decide) some_place).mpr small
  have length : padded.length = places := by
    rw [← pads, List.length_leftpad]
    omega
  have digits : ∀ c ∈ padded, c.isDigit = true := by
    intro c member
    rw [← pads, List.leftpad, List.mem_append] at member
    rcases member with zero | digit
    · rw [List.eq_of_mem_replicate zero]
      rfl
    · exact toDigits_digits value c digit
  have denoted : digitValue padded = value := by
    rw [← pads, List.leftpad, digitValue_append, digitValue_zeros, digitValue_toDigits]
    omega
  have kept := digitValue_stripped padded
  rw [length, denoted] at kept
  have sub := List.rdropWhile_prefix (· = '0') padded
  unfold fractionDigits
  rw [pads]
  dsimp only
  split
  · rename_i nothing
    rw [nothing] at kept
    refine ⟨by simp, le_rfl, some_place, ?_⟩
    rw [← kept]
    exact (Nat.zero_mul _).trans (Nat.zero_mul _).symm
  · rename_i more
    exact ⟨fun c member => digits c (sub.subset member), List.length_pos_iff.mpr more, length ▸ sub.length_le, kept⟩

theorem fractionDigits_last (last : (fractionDigits places value).getLast? = some '0') :
    fractionDigits places value = ['0'] := by
  unfold fractionDigits at last ⊢
  dsimp only at last ⊢
  split at last
  · rename_i nothing
    rw [if_pos nothing]
  · rename_i more
    have nonzero := List.rdropWhile_last_not (· = '0') _ more
    rw [List.getLast?_eq_getLast_of_ne_nil more, Option.some.injEq] at last
    exact absurd (decide_eq_true last) nonzero

/-- Every number of units is written in its canonical form. -/
theorem fixedPoint_canonical (some_place : 0 < places) (amount : ℕ) : IsCanonical places (fixedPoint places amount) := by
  obtain ⟨digits, some_digit, few, _⟩ := fractionDigits_spec some_place (Nat.mod_lt amount (by positivity))
  exact ⟨_, _, rfl, digits, some_digit, few, fractionDigits_last⟩

/-- The text that is written denotes the number of units it is written for. -/
theorem unitsOf_fixedPoint (some_place : 0 < places) (amount : ℕ) :
    unitsOf places (fixedPoint places amount) = some (amount : ℚ) := by
  obtain ⟨digits, _, few, value⟩ := fractionDigits_spec some_place (Nat.mod_lt amount (by positivity))
  obtain ⟨fraction, written⟩ : ∃ fraction, fractionDigits places (amount % 10 ^ places) = fraction := ⟨_, rfl⟩
  rw [written] at digits few value
  have spelled : (fixedPoint places amount).toList = Nat.toDigits 10 (amount / 10 ^ places) ++ '.' :: fraction := by
    rw [fixedPoint, written, String.toList_append, String.toList_append, Nat.toList_repr,
      @String.toList_ofList fraction, List.append_assoc]
    rfl
  have read := readDecimal_point (toDigits_digits (amount / 10 ^ places)) Nat.toDigits_ne_nil digits
  have units : digitValue (Nat.toDigits 10 (amount / 10 ^ places) ++ fraction) * 10 ^ (places - fraction.length) =
      amount := by
    have split := Nat.div_add_mod amount (10 ^ places)
    have scale : 10 ^ fraction.length * 10 ^ (places - fraction.length) = 10 ^ places := by
      rw [← Nat.pow_add, Nat.add_sub_cancel' few]
    rw [digitValue_append, digitValue_toDigits, Nat.add_mul, value, Nat.mul_right_comm, scale]
    exact split
  have exponent : (0 : ℤ) - fraction.length + places = ((places - fraction.length : ℕ) : ℤ) := by omega
  rw [unitsOf, spelled, read, Option.map_some, Option.some.injEq, DecimalLiteral.value, if_neg Bool.false_ne_true,
    DecimalLiteral.magnitude, mul_assoc, ← zpow_natCast, ← zpow_add₀ (by norm_num)]
  dsimp only
  rw [exponent, zpow_natCast]
  exact_mod_cast units

theorem fixedPoint_injective (some_place : 0 < places) : Function.Injective (fixedPoint places) := by
  intro amount other same
  have denoted := unitsOf_fixedPoint some_place amount
  rw [same, unitsOf_fixedPoint some_place other, Option.some.injEq, Nat.cast_inj] at denoted
  exact denoted.symm

end Fractions

end Js
