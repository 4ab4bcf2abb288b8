import WorkloadGovernor.Lib.FixedPoint
import Mathlib.Tactic.FieldSimp

namespace Js

namespace Number

/-- The multiples of a unit next to `x`, the closer one first and the even one of two that are
equally close. -/
def multiplesNextTo (x unit : ℚ) : List Nat :=
  let below := ⌊x / unit⌋.toNat
  if x / unit - below < 1 / 2 ∨ x / unit - below = 1 / 2 ∧ below % 2 = 0 then [below, below + 1] else [below + 1, below]

/-- The decimal with the fewest digits that is rounded to `x`: these digits, and the power of
ten they are times. -/
def shortest (x : ℚ) : Nat × Int :=
  let places := Int.log 10 x + 1
  let found := (List.range (places + 1074).toNat).findSome? fun (k : Nat) =>
    let power := places - (k + 1)
    ((multiplesNextTo x (10 ^ power)).find? fun (s : Nat) => Double.nearest (s * 10 ^ power) = x).map (·, power)
  found.getD (0, 0)

/-- How a number is spelled. -/
structure Layout where
  whole : List Char
  fraction : List Char
  exponent : Option Int

/-- `digits` with the point after the first `places` of them. -/
def layout (digits : List Char) (places : Int) : Layout :=
  if digits.length ≤ places ∧ places ≤ 21 then
    ⟨digits ++ List.replicate (places - digits.length).toNat '0', [], none⟩
  else if 0 < places ∧ places ≤ 21 then ⟨digits.take places.toNat, digits.drop places.toNat, none⟩
  else if -6 < places ∧ places ≤ 0 then ⟨['0'], List.replicate (-places).toNat '0' ++ digits, none⟩
  else ⟨digits.take 1, digits.drop 1, some (places - 1)⟩

def powerText : Option Int → List Char
  | none => []
  | some exponent => 'e' :: (if exponent < 0 then '-' else '+') :: Nat.toDigits 10 exponent.natAbs

def Layout.text (layout : Layout) : List Char :=
  layout.whole ++ (if layout.fraction = [] then [] else '.' :: layout.fraction) ++ powerText layout.exponent

/-- The digits of a number without its last zeros. -/
def significant (s : Nat) : List Char := (Nat.toDigits 10 s).rdropWhile (· = '0')

def layoutOf (x : ℚ) : Layout :=
  layout (significant (shortest x).1) ((shortest x).2 + (Nat.toDigits 10 (shortest x).1).length)

/-- `String(x)`. -/
def finiteText (x : ℚ) : List Char :=
  if x = 0 then ['0'] else if x < 0 then '-' :: (layoutOf (-x)).text else (layoutOf x).text

example : finiteText (-25 / 2) = "-12.5".toList := by decide +kernel

/-- The fraction of a JSON number, and what is left. -/
def readFraction : List Char → Option (List Char × List Char)
  | '.' :: rest =>
    if rest.takeWhile Char.isDigit = [] then none
    else some (rest.takeWhile Char.isDigit, rest.dropWhile Char.isDigit)
  | rest => some ([], rest)

def readPower : List Char → Option (Int × List Char)
  | [] => some (0, [])
  | c :: rest =>
    if c = 'e' ∨ c = 'E' then
      let digits := (takeSign rest).2.takeWhile Char.isDigit
      if digits = [] then none
      else some (if (takeSign rest).1 then -digitValue digits else digitValue digits,
        (takeSign rest).2.dropWhile Char.isDigit)
    else some (0, c :: rest)

/-- A JSON number without its sign. -/
def readUnsigned (negative : Bool) (text : List Char) : Option (Number × List Char) :=
  let whole := text.takeWhile Char.isDigit
  if whole = [] ∨ whole.head? = some '0' ∧ whole ≠ ['0'] then none
  else
    match readFraction (text.dropWhile Char.isDigit) with
    | none => none
    | some (fraction, rest) =>
      match readPower rest with
      | none => none
      | some (exponent, rest) => some (ofRat (DecimalLiteral.value ⟨negative, whole, fraction, exponent⟩), rest)

/-- A JSON number in front of a text. -/
def readJson : List Char → Option (Number × List Char)
  | '-' :: rest => readUnsigned true rest
  | text => readUnsigned false text

section Shortest
variable {x unit : ℚ}

theorem mem_multiplesNextTo {m : ℕ} (whole : x / unit = m) : m ∈ multiplesNextTo x unit := by
  unfold multiplesNextTo
  rw [whole, Int.floor_natCast, Int.toNat_natCast]
  dsimp only
  split <;> simp

theorem binary_places_decimal (n e : ℕ) : (n : ℚ) * 2 ^ (-(e : ℤ)) / 10 ^ (-(e : ℤ)) = (n * 5 ^ e : ℕ) := by
  have fifth : (2 : ℚ) / 10 = 5⁻¹ := by norm_num
  rw [mul_div_assoc, ← div_zpow, fifth, inv_zpow', neg_neg, zpow_natCast, Nat.cast_mul, Nat.cast_pow, Nat.cast_ofNat]

/-- A double is a whole number of the smallest decimal places there are. -/
theorem double_whole (double : Double.nearest x = x) (positive : 0 < x) :
    ∃ m : ℕ, 0 < m ∧ x / 10 ^ (-1074 : ℤ) = m := by
  obtain ⟨e, finest⟩ : ∃ e : ℕ, (-1074 : ℤ) = -(e : ℤ) := ⟨1074, rfl⟩
  have fine : -(e : ℤ) ≤ Double.exponent x := finest ▸ le_max_right _ _
  obtain ⟨n, same⟩ := Double.multiple_of_le fine (Double.nearestEven (x / 2 ^ Double.exponent x))
  have value : x = n * 2 ^ (-(e : ℤ)) := by
    rw [← same]
    exact double.symm
  have n_positive : 0 < n := by
    rw [value] at positive
    exact_mod_cast pos_of_mul_pos_left positive (Double.two_zpow_pos _).le
  have natural : ((n.toNat : ℕ) : ℚ) = n := by exact_mod_cast Int.toNat_of_nonneg n_positive.le
  refine ⟨n.toNat * 5 ^ e, Nat.mul_pos (by omega) (Nat.pow_pos (by decide)), ?_⟩
  rw [finest, value, ← natural]
  exact binary_places_decimal n.toNat e

theorem shortest_spec (double : Double.nearest x = x) (positive : 0 < x) :
    Double.nearest ((shortest x).1 * 10 ^ (shortest x).2) = x := by
  obtain ⟨m, m_positive, whole⟩ := double_whole double positive
  have unit_positive : (0 : ℚ) < 10 ^ (-1074 : ℤ) := by positivity
  have least : (10 : ℚ) ^ (-1074 : ℤ) ≤ x := by
    have one_unit : (1 : ℚ) ≤ x / 10 ^ (-1074 : ℤ) := by
      rw [whole]
      exact_mod_cast m_positive
    rwa [one_le_div unit_positive] at one_unit
  have log : (-1074 : ℤ) ≤ Int.log 10 x := by
    refine (Int.zpow_le_iff_le_log (by decide) positive).mp ?_
    exact_mod_cast least
  -- with so many digits the decimal is exact
  have found : ∃ result, ((List.range (Int.log 10 x + 1 + 1074).toNat).findSome? fun (k : Nat) =>
      ((multiplesNextTo x (10 ^ (Int.log 10 x + 1 - (k + 1)))).find? fun (s : Nat) =>
        Double.nearest (s * 10 ^ (Int.log 10 x + 1 - (k + 1))) = x).map (·, Int.log 10 x + 1 - ((k : Int) + 1))) =
          some result := by
    refine Option.isSome_iff_exists.mp (List.findSome?_isSome_iff.mpr ?_)
    refine ⟨(Int.log 10 x + 1074).toNat, List.mem_range.mpr (by omega), ?_⟩
    have power : Int.log 10 x + 1 - (((Int.log 10 x + 1074).toNat : Int) + 1) = -1074 := by omega
    rw [power, Option.isSome_map, List.find?_isSome]
    refine ⟨m, mem_multiplesNextTo whole, decide_eq_true ?_⟩
    rw [← whole, div_mul_cancel₀ x unit_positive.ne', double]
  obtain ⟨⟨s, power⟩, found⟩ := found
  have result : shortest x = (s, power) := by
    rw [shortest]
    exact congrArg (Option.getD · (0, 0)) found
  obtain ⟨k, _, at_k⟩ := List.exists_of_findSome?_eq_some found
  obtain ⟨own, accepted, same⟩ := Option.map_eq_some_iff.mp at_k
  cases same
  have rounded := List.find?_some accepted
  rw [result]
  exact of_decide_eq_true rounded

end Shortest

section Reading
variable {digits rest : List Char} {places : Int} {layout : Layout}

/-- What may come after a number. -/
def EndsNumber (rest : List Char) : Prop := ∀ c ∈ rest.head?, c.isDigit = false ∧ c ≠ '.' ∧ c ≠ 'e' ∧ c ≠ 'E'

structure Layout.Spelled (layout : Layout) : Prop where
  whole : ∀ c ∈ layout.whole, c.isDigit = true
  some_digit : layout.whole ≠ []
  no_zero : layout.whole.head? = some '0' → layout.whole = ['0']
  fraction : ∀ c ∈ layout.fraction, c.isDigit = true

def Layout.literal (layout : Layout) (negative : Bool) : DecimalLiteral :=
  ⟨negative, layout.whole, layout.fraction, layout.exponent.getD 0⟩

theorem takeWhile_digits (each : ∀ c ∈ digits, c.isDigit = true) (stop : ∀ c ∈ rest.head?, c.isDigit = false) :
    (digits ++ rest).takeWhile Char.isDigit = digits ∧ (digits ++ rest).dropWhile Char.isDigit = rest := by
  rw [List.takeWhile_append_of_pos each, List.dropWhile_append_of_pos each]
  cases rest with
  | nil => simp
  | cons c rest =>
    have not_digit := stop c rfl
    rw [List.takeWhile_cons_of_neg (by simp [not_digit]), List.dropWhile_cons_of_neg (by simp [not_digit]),
      List.append_nil]
    exact ⟨rfl, rfl⟩

theorem readPower_text (exponent : Option Int) (ends : EndsNumber rest) :
    readPower (powerText exponent ++ rest) = some (exponent.getD 0, rest) := by
  cases exponent with
  | none =>
    cases rest with
    | nil => rfl
    | cons c rest =>
      obtain ⟨_, _, small, large⟩ := ends c rfl
      exact if_neg (not_or.mpr ⟨small, large⟩)
  | some exponent =>
    obtain ⟨read, left⟩ := takeWhile_digits (toDigits_digits exponent.natAbs) fun c first => (ends c first).1
    have value := digitValue_toDigits exponent.natAbs
    have some_digit : Nat.toDigits 10 exponent.natAbs ≠ [] := Nat.toDigits_ne_nil
    have mark : 'e' = 'e' ∨ 'e' = 'E' := Or.inl rfl
    by_cases negative : exponent < 0
    · have sign : takeSign ('-' :: (Nat.toDigits 10 exponent.natAbs ++ rest)) =
          (true, Nat.toDigits 10 exponent.natAbs ++ rest) := rfl
      rw [powerText, if_pos negative, List.cons_append, List.cons_append, readPower, if_pos mark]
      dsimp only
      rw [sign]
      dsimp only
      rw [read, left, value, if_neg some_digit, if_pos rfl, Option.getD_some]
      have whole : -(exponent.natAbs : Int) = exponent := by omega
      rw [whole]
    · have sign : takeSign ('+' :: (Nat.toDigits 10 exponent.natAbs ++ rest)) =
          (false, Nat.toDigits 10 exponent.natAbs ++ rest) := rfl
      rw [powerText, if_neg negative, List.cons_append, List.cons_append, readPower, if_pos mark]
      dsimp only
      rw [sign]
      dsimp only
      rw [read, left, value, if_neg some_digit, if_neg Bool.false_ne_true, Option.getD_some]
      have whole : (exponent.natAbs : Int) = exponent := by omega
      rw [whole]

/-- No digit and no point comes after the digits of a layout. -/
theorem powerText_stops (exponent : Option Int) (ends : EndsNumber rest) :
    ∀ c ∈ (powerText exponent ++ rest).head?, c.isDigit = false ∧ c ≠ '.' := by
  cases exponent with
  | none => exact fun c first => ⟨(ends c first).1, (ends c first).2.1⟩
  | some exponent =>
    intro c first
    cases first
    decide

theorem readFraction_text (spelled : layout.Spelled) (ends : EndsNumber rest) :
    readFraction ((if layout.fraction = [] then [] else '.' :: layout.fraction) ++
        (powerText layout.exponent ++ rest)) = some (layout.fraction, powerText layout.exponent ++ rest) := by
  have stops := powerText_stops layout.exponent ends
  by_cases none_there : layout.fraction = []
  · rw [if_pos none_there, none_there, List.nil_append]
    generalize powerText layout.exponent ++ rest = left at stops
    unfold readFraction
    split
    · exact absurd rfl (stops '.' rfl).2
    · rfl
  · obtain ⟨read, left⟩ := takeWhile_digits spelled.fraction fun c first => (stops c first).1
    rw [if_neg none_there, List.cons_append, readFraction, read, left, if_neg none_there]

theorem text_append (layout : Layout) (rest : List Char) : layout.text ++ rest = layout.whole ++
    ((if layout.fraction = [] then [] else '.' :: layout.fraction) ++ (powerText layout.exponent ++ rest)) := by
  rw [Layout.text, List.append_assoc, List.append_assoc]

theorem readUnsigned_text (spelled : layout.Spelled) (ends : EndsNumber rest) (negative : Bool) :
    readUnsigned negative (layout.text ++ rest) = some (ofRat (layout.literal negative).value, rest) := by
  have stops : ∀ c ∈ ((if layout.fraction = [] then [] else '.' :: layout.fraction) ++
      (powerText layout.exponent ++ rest)).head?, c.isDigit = false := by
    by_cases none_there : layout.fraction = []
    · rw [if_pos none_there]
      exact fun c first => (powerText_stops layout.exponent ends c first).1
    · rw [if_neg none_there]
      intro c first
      cases first
      decide
  obtain ⟨read, left⟩ := takeWhile_digits spelled.whole stops
  have grammar : ¬ (layout.whole = [] ∨ layout.whole.head? = some '0' ∧ layout.whole ≠ ['0']) := by
    rintro (nothing | ⟨zero, more⟩)
    · exact spelled.some_digit nothing
    · exact more (spelled.no_zero zero)
  rw [text_append, readUnsigned, read, left, if_neg grammar, readFraction_text spelled ends]
  dsimp only
  rw [readPower_text layout.exponent ends]
  rfl

/-- A JSON number is read as it is spelled. -/
theorem readJson_text (spelled : layout.Spelled) (ends : EndsNumber rest) :
    readJson (layout.text ++ rest) = some (ofRat (layout.literal false).value, rest) := by
  rw [← readUnsigned_text spelled ends]
  obtain ⟨c, digits, first⟩ := List.exists_cons_of_ne_nil spelled.some_digit
  have digit : c.isDigit = true := spelled.whole c (first ▸ List.mem_cons_self)
  rw [text_append, first, List.cons_append]
  unfold readJson
  split
  · rename_i same
    rw [(List.cons.inj same).1] at digit
    cases digit
  · rfl

end Reading

section Writing
variable {digits rest : List Char} {places : Int} {x : ℚ}

theorem zeros_digits (count : Nat) : ∀ c ∈ List.replicate count '0', c.isDigit = true := by
  intro c member
  rw [List.eq_of_mem_replicate member]
  decide

theorem layout_spelled (each : ∀ c ∈ digits, c.isDigit = true) (first : digits.head? ≠ some '0')
    (some_digit : digits ≠ []) (places : Int) : (layout digits places).Spelled := by
  obtain ⟨d, more, rfl⟩ := List.exists_cons_of_ne_nil some_digit
  have joined {left right : List Char} (first_each : ∀ c ∈ left, c.isDigit = true)
      (second_each : ∀ c ∈ right, c.isDigit = true) : ∀ c ∈ left ++ right, c.isDigit = true :=
    fun c member => (List.mem_append.mp member).elim (first_each c) (second_each c)
  unfold layout
  split_ifs with whole inside below
  · exact ⟨joined each (zeros_digits _), List.cons_ne_nil _ _, fun zero => absurd zero first,
      fun _ member => absurd member List.not_mem_nil⟩
  · obtain ⟨n, taken⟩ : ∃ n, places.toNat = n + 1 := ⟨places.toNat - 1, by omega⟩
    rw [taken]
    exact ⟨fun c member => each c (List.mem_of_mem_take member), List.cons_ne_nil _ _, fun zero => absurd zero first,
      fun c member => each c (List.mem_of_mem_drop member)⟩
  · exact ⟨zeros_digits 1, List.cons_ne_nil _ _, fun _ => rfl, joined (zeros_digits _) each⟩
  · exact ⟨fun c member => each c (List.mem_of_mem_take member), List.cons_ne_nil _ _, fun zero => absurd zero first,
      fun c member => each c (List.mem_of_mem_drop member)⟩

/-- Every layout has the same value. -/
theorem layout_magnitude (some_digit : digits ≠ []) (places : Int) :
    ((layout digits places).literal false).value = digitValue digits * 10 ^ (places - digits.length) := by
  have length := List.length_pos_iff.mpr some_digit
  unfold layout
  split_ifs with whole inside below
  · obtain ⟨n, zeros⟩ : ∃ n : ℕ, (n : Int) = places - digits.length := ⟨(places - digits.length).toNat, by omega⟩
    have count : (places - digits.length).toNat = n := by omega
    have shifted : digitValue (digits ++ List.replicate n '0') = 10 ^ n * digitValue digits := by
      rw [digitValue_append, digitValue_zeros, List.length_replicate, Nat.add_zero]
    simp only [Layout.literal, DecimalLiteral.value, DecimalLiteral.magnitude, Bool.false_eq_true, if_false,
      List.append_nil, List.length_nil, Option.getD_none, count, shifted]
    rw [← zeros, zpow_natCast]
    push_cast
    ring
  · have left : (0 : Int) - (digits.drop places.toNat).length = places - digits.length := by
      rw [List.length_drop]
      omega
    simp only [Layout.literal, DecimalLiteral.value, DecimalLiteral.magnitude, Bool.false_eq_true, if_false,
      List.take_append_drop, Option.getD_none, left]
  · have left : (0 : Int) - (List.replicate (-places).toNat '0' ++ digits).length = places - digits.length := by
      rw [List.length_append, List.length_replicate]
      omega
    have value : digitValue (['0'] ++ (List.replicate (-places).toNat '0' ++ digits)) = digitValue digits := by
      rw [digitValue_append, digitValue_append, digitValue_zeros, Nat.mul_zero, Nat.zero_add]
      exact Nat.zero_add _
    simp only [Layout.literal, DecimalLiteral.value, DecimalLiteral.magnitude, Bool.false_eq_true, if_false,
      Option.getD_none, left, value]
  · have left : places - 1 - (digits.drop 1).length = places - digits.length := by
      rw [List.length_drop]
      omega
    simp only [Layout.literal, DecimalLiteral.value, DecimalLiteral.magnitude, Bool.false_eq_true, if_false,
      List.take_append_drop, Option.getD_some, left]

theorem toDigits_head {n : Nat} (positive : 0 < n) : (Nat.toDigits 10 n).head? ≠ some '0' := by
  induction n using Nat.strongRecOn with
  | ind n ih =>
    rcases Nat.lt_or_ge n 10 with small | large
    · have nonzero : ∀ d < 10, 0 < d → [Nat.digitChar d].head? ≠ some '0' := by decide
      rw [Nat.toDigits_of_lt_base small]
      exact nonzero n small positive
    · rw [Nat.toDigits_of_base_le (by decide) large, List.head?_append_of_ne_nil _ Nat.toDigits_ne_nil]
      exact ih (n / 10) (Nat.div_lt_self positive (by decide)) (Nat.div_pos large (by decide))

theorem significant_zeros (s : Nat) :
    digitValue (significant s) * 10 ^ ((Nat.toDigits 10 s).length - (significant s).length) = s :=
  (digitValue_stripped _).trans (digitValue_toDigits s)

theorem significant_spec {s : Nat} (positive : 0 < s) :
    (∀ c ∈ significant s, c.isDigit = true) ∧ significant s ≠ [] ∧ (significant s).head? ≠ some '0' := by
  have start : significant s <+: Nat.toDigits 10 s := List.rdropWhile_prefix _ _
  have value := significant_zeros s
  have some_digit : significant s ≠ [] := by
    intro nothing
    rw [nothing, digitValue, Nat.ofDigitChars_nil, Nat.zero_mul] at value
    omega
  refine ⟨fun c member => toDigits_digits s c (start.subset member), some_digit, fun zero => ?_⟩
  obtain ⟨zeros, whole⟩ := start
  rw [← List.head?_append_of_ne_nil _ some_digit, whole] at zero
  exact toDigits_head positive zero

theorem significant_value (s : Nat) (power : Int) :
    (digitValue (significant s) * 10 ^ (power + (Nat.toDigits 10 s).length - (significant s).length) : ℚ) =
      s * 10 ^ power := by
  have start : significant s <+: Nat.toDigits 10 s := List.rdropWhile_prefix _ _
  have value := significant_zeros s
  obtain ⟨zeros, count⟩ : ∃ zeros, (Nat.toDigits 10 s).length = (significant s).length + zeros :=
    ⟨_, (Nat.add_sub_of_le start.length_le).symm⟩
  have left : power + ((Nat.toDigits 10 s).length : Int) - (significant s).length = zeros + power := by
    rw [count]
    push_cast
    ring
  rw [count, Nat.add_sub_cancel_left] at value
  have whole : (digitValue (significant s) : ℚ) * 10 ^ zeros = s := by exact_mod_cast value
  rw [left, zpow_add₀ (by norm_num), zpow_natCast, ← mul_assoc, whole]

/-- A double is spelled by a layout whose value is rounded to it. -/
theorem layoutOf_spec (double : Double.nearest x = x) (positive : 0 < x) :
    (layoutOf x).Spelled ∧ Double.nearest ((layoutOf x).literal false).value = x := by
  have rounded := shortest_spec double positive
  have same : layoutOf x = layout (significant (shortest x).1)
      ((shortest x).2 + (Nat.toDigits 10 (shortest x).1).length) := rfl
  rw [same]
  generalize shortest x = found at rounded
  obtain ⟨s, power⟩ := found
  have some_there : 0 < s := by
    rcases Nat.eq_zero_or_pos s with rfl | some_there
    · rw [Nat.cast_zero, zero_mul, ← Nat.cast_zero, Double.nearest_natCast (by decide)] at rounded
      rw [← rounded] at positive
      exact absurd positive (lt_irrefl _)
    · exact some_there
  obtain ⟨each, some_digit, first⟩ := significant_spec some_there
  refine ⟨layout_spelled each first some_digit _, ?_⟩
  rw [layout_magnitude some_digit, significant_value]
  exact rounded

theorem ofRat_of_nearest {y : ℚ} (rounded : Double.nearest y = x) (finite : |x| < 2 ^ 1024) :
    ofRat y = .finite x := by
  rw [ofRat, rounded, if_pos finite]

/-- `JSON.parse` reads the number that `JSON.stringify` writes. -/
theorem readJson_finiteText (double : Double.IsDouble x) (ends : EndsNumber rest) :
    readJson (finiteText x ++ rest) = some (.finite x, rest) := by
  obtain ⟨own, finite⟩ := double
  unfold finiteText
  split_ifs with zero negative
  · have spelled : Layout.Spelled ⟨['0'], [], none⟩ :=
      ⟨zeros_digits 1, List.cons_ne_nil _ _, fun _ => rfl, fun _ member => absurd member List.not_mem_nil⟩
    have value : (Layout.literal ⟨['0'], [], none⟩ false).value = 0 := by
      have digit : digitValue ['0'] = 0 := by decide
      simp [Layout.literal, DecimalLiteral.value, DecimalLiteral.magnitude, digit]
    have rounded : Double.nearest 0 = x := by
      rw [← zero]
      exact own
    have text : ['0'] = Layout.text ⟨['0'], [], none⟩ := rfl
    rw [text, readJson_text spelled ends, value, ofRat_of_nearest rounded finite]
  · have own' : Double.nearest (-x) = -x := by rw [Double.nearest_neg, own]
    obtain ⟨spelled, value⟩ := layoutOf_spec own' (neg_pos.mpr negative)
    have rounded : Double.nearest ((layoutOf (-x)).literal true).value = x := by
      have sign : ((layoutOf (-x)).literal true).value = -((layoutOf (-x)).literal false).value := rfl
      rw [sign, Double.nearest_neg, value, neg_neg]
    rw [List.cons_append, readJson, readUnsigned_text spelled ends, ofRat_of_nearest rounded finite]
  · have positive : 0 < x := lt_of_le_of_ne (not_lt.mp negative) (Ne.symm zero)
    obtain ⟨spelled, value⟩ := layoutOf_spec own positive
    rw [readJson_text spelled ends, ofRat_of_nearest value finite]

/-- What is read is a double, or infinite. -/
theorem ofRat_isDouble {y : ℚ} (rounded : ofRat y = .finite x) : Double.IsDouble x := by
  unfold ofRat at rounded
  split_ifs at rounded with finite
  cases rounded
  exact ⟨Double.nearest_nearest y, finite⟩

end Writing

end Number

end Js
