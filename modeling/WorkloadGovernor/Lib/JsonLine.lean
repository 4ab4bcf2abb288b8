import WorkloadGovernor.Lib.JsonRoundTrip

namespace JsonText

section Printable
variable {c : Char} {u v : CodeUnit} {value : Value}

/-- No control character: a text of such characters is one line. -/
def Printable (text : List Char) : Prop := ∀ c ∈ text, 0x20 ≤ c.toNat

instance (text : List Char) : Decidable (Printable text) :=
  decidable_of_iff (text.all (fun c => decide (0x20 ≤ c.toNat)) = true)
    (List.all_eq_true.trans (forall₂_congr fun _ _ => decide_eq_true_iff))

theorem Printable.append {first second : List Char} (left : Printable first) (right : Printable second) :
    Printable (first ++ second) := by
  intro c member
  rcases List.mem_append.mp member with inside | inside
  · exact left c inside
  · exact right c inside

theorem Printable.cons {text : List Char} (first : 0x20 ≤ c.toNat) (rest : Printable text) : Printable (c :: text) := by
  intro d member
  rcases List.mem_cons.mp member with rfl | inside
  · exact first
  · exact rest d inside

theorem printable_nil : Printable [] := fun _ member => absurd member List.not_mem_nil

/-- Digits are no control characters. -/
theorem printable_digits {digits : List Char} (each : ∀ c ∈ digits, c.isDigit = true) : Printable digits := by
  intro c member
  have least : 48 ≤ c.toNat := (Char.isDigit_iff_toNat.mp (each c member)).1
  omega

/-- Nor is any character of an escape. -/
theorem printable_unicodeEscape (u : CodeUnit) : Printable (unicodeEscape u) := by
  have digit : ∀ d < 16, 0x20 ≤ (Nat.digitChar d).toNat := by decide
  have bound := u.isLt
  intro c member
  simp only [unicodeEscape, List.mem_cons, List.not_mem_nil, or_false] at member
  rcases member with rfl | rfl | rfl | rfl | rfl | rfl
  · decide
  · decide
  all_goals exact digit _ (by omega)

/-- A control character in a string is written as an escape. -/
theorem printable_quoteUnit (u : CodeUnit) : Printable (quoteUnit u) := by
  unfold quoteUnit
  split_ifs with half quote backslash b f n r t control
  · exact printable_unicodeEscape u
  all_goals try decide
  · exact printable_unicodeEscape u
  · intro c member
    rw [List.mem_singleton.mp member, toNat_ofNat_unit half]
    exact Nat.not_lt.mp control

theorem printable_quoteUnits (units : List CodeUnit) : Printable (quoteUnits units) := by
  induction units using quoteUnits.induct with
  | case1 => exact printable_nil
  | case2 u => exact printable_quoteUnit u
  | case3 u v rest pair ih =>
    rw [quoteUnits, if_pos pair]
    refine Printable.cons ?_ ih
    rw [toNat_paired pair.1 pair.2]
    omega
  | case4 u v rest apart ih =>
    rw [quoteUnits, if_neg apart]
    exact (printable_quoteUnit u).append ih

theorem printable_quote (units : List CodeUnit) : Printable (quote units) :=
  .cons (by decide) ((printable_quoteUnits units).append (.cons (by decide) printable_nil))

theorem printable_layout {layout : Js.Number.Layout} (spelled : layout.Spelled) : Printable layout.text := by
  have power : Printable (Js.Number.powerText layout.exponent) := by
    cases layout.exponent with
    | none => exact printable_nil
    | some exponent =>
      refine .cons (by decide) (.cons ?_ (printable_digits fun c member =>
        Nat.isDigit_of_mem_toDigits (by decide) (by decide) member))
      split <;> decide
  have fraction : Printable (if layout.fraction = [] then [] else '.' :: layout.fraction) := by
    split
    · exact printable_nil
    · exact .cons (by decide) (printable_digits spelled.fraction)
  exact ((printable_digits spelled.whole).append fraction).append power

/-- A number is written with digits, a sign, a point and an exponent. -/
theorem printable_finiteText {x : ℚ} (double : Double.IsDouble x) : Printable (Js.Number.finiteText x) := by
  unfold Js.Number.finiteText
  split_ifs with zero negative
  · exact .cons (by decide) printable_nil
  · have opposite : Double.nearest (-x) = -x := by rw [Double.nearest_neg, double.1]
    exact .cons (by decide) (printable_layout (Js.Number.layoutOf_spec opposite (neg_pos.mpr negative)).1)
  · have positive : 0 < x := lt_of_le_of_ne (not_lt.mp negative) (Ne.symm zero)
    exact printable_layout (Js.Number.layoutOf_spec double.1 positive).1

theorem printable_items {items : List Value} (each : ∀ item ∈ items, Printable (write item)) :
    Printable (writeItems items) := by
  induction items with
  | nil => exact printable_nil
  | cons item others ih =>
    obtain ⟨first, rest⟩ := List.forall_mem_cons.mp each
    by_cases last : others = []
    · rw [last, writeItems]
      exact first
    · rw [writeItems_cons last]
      exact first.append (.cons (by decide) (ih rest))

theorem printable_fields {fields : List (List CodeUnit × Value)} (each : ∀ field ∈ fields, Printable (write field.2)) :
    Printable (writeFields fields) := by
  induction fields with
  | nil => exact printable_nil
  | cons field others ih =>
    obtain ⟨name, value⟩ := field
    obtain ⟨first, rest⟩ := List.forall_mem_cons.mp each
    by_cases last : others = []
    · rw [last, writeFields]
      exact (printable_quote name).append (.cons (by decide) first)
    · rw [writeFields_cons last]
      exact (printable_quote name).append (.cons (by decide) (first.append (.cons (by decide) (ih rest))))

/-- What is written for a value is one line. -/
theorem printable_write (valid : value.Valid) : Printable (write value) := by
  induction valid with
  | null =>
    decide
  | bool value =>
    cases value <;> decide
  | finite double => exact printable_finiteText double
  | infinity negative =>
    have text : write (.number (.infinity negative)) = ['n', 'u', 'l', 'l'] := rfl
    rw [text]
    decide
  | string units => exact printable_quote units
  | array _ ih => exact .cons (by decide) ((printable_items ih).append (.cons (by decide) printable_nil))
  | object _ _ ih => exact .cons (by decide) ((printable_fields ih).append (.cons (by decide) printable_nil))

end Printable

section Flat
variable {value : Value} {fields : List (List CodeUnit × Value)}

/-- What a value without parts is read as: a number that is not finite is written as `null`. -/
def Value.plain : Value → Value
  | .number (.finite x) => .number (.finite x)
  | .number _ => .null
  | value => value

/-- What is written for the value is read by itself. -/
def Atomic (value : Value) : Prop :=
  ∀ fuel rest, Ends rest → parseValue (fuel + 1) (write value ++ rest) = some (value.plain, rest)

theorem atomic_null : Atomic .null := fun fuel rest _ => parse_null fuel rest

theorem atomic_ofRat (y : ℚ) : Atomic (.number (.ofRat y)) := by
  intro fuel rest ends
  have valid := ofRat_valid y
  cases rounded : Js.Number.ofRat y with
  | nan => exact parse_null fuel rest
  | infinity negative => exact parse_null fuel rest
  | finite x =>
    rw [rounded] at valid
    cases valid with
    | finite double => exact parse_write_number double ends fuel

theorem atomic_string (units : List CodeUnit) : Atomic (.string units) := fun fuel rest _ => parse_quote units fuel rest

/-- The fields as they are read. -/
def plainFields (fields : List (List CodeUnit × Value)) : List (List CodeUnit × Value) :=
  fields.map fun field => (field.1, field.2.plain)

/-- The fields are read back one after the other, where no name is there twice. -/
theorem parse_atomic_fields (each : ∀ field ∈ fields, Atomic field.2) (some_field : fields ≠ [])
    (before : List (List CodeUnit × Value)) (ordered : Ordered (before.map Prod.fst ++ fields.map Prod.fst)) {fuel : Nat}
    (enough : fields.length < fuel) (rest : List Char) :
    parseMembers fuel before (writeFields fields ++ '}' :: rest) = some (before ++ plainFields fields, rest) := by
  induction fields generalizing before fuel with
  | nil => exact absurd rfl some_field
  | cons field others ih =>
    obtain ⟨name, value⟩ := field
    obtain ⟨atomic, each_other⟩ := List.forall_mem_cons.mp each
    obtain ⟨steps, rfl⟩ : ∃ steps, fuel = steps + 1 + 1 := ⟨fuel - 2, by rw [List.length_cons] at enough; omega⟩
    rw [List.map_cons] at ordered
    have next : Ordered (before.map Prod.fst ++ [name]) := by
      refine ⟨ordered.1.sublist ?_, ordered.2.sublist ?_⟩
      all_goals exact List.Sublist.append_left (List.singleton_sublist.mpr List.mem_cons_self) _
    by_cases last : others = []
    · have joined : writeFields ((name, value) :: others) ++ '}' :: rest =
          quote name ++ ':' :: (write value ++ '}' :: rest) := by
        rw [last, writeFields, List.append_assoc, List.cons_append]
      have read := atomic steps ('}' :: rest) fun c first => by
        cases first
        exact Or.inr (Or.inr (Or.inl rfl))
      have closed : behind '}' ('}' :: rest) = some rest := behind_self rfl rest
      rw [joined]
      simp only [parseMembers, parseName_quote, read, closed, setProperty_last next, last, plainFields, List.map_cons,
        List.map_nil]
    · have joined : writeFields ((name, value) :: others) ++ '}' :: rest =
          quote name ++ ':' :: (write value ++ ',' :: (writeFields others ++ '}' :: rest)) := by
        rw [writeFields_cons last, List.append_assoc, List.cons_append, List.append_assoc, List.cons_append]
      have read := atomic steps (',' :: (writeFields others ++ '}' :: rest)) fun c first => by
        cases first
        exact Or.inl rfl
      have further : Ordered ((before ++ [(name, value.plain)]).map Prod.fst ++ others.map Prod.fst) := by
        rw [List.map_append, List.map_singleton, List.append_assoc]
        exact ordered
      have fewer : others.length < steps + 1 := by
        rw [List.length_cons] at enough
        omega
      have more := ih each_other last (before ++ [(name, value.plain)]) further fewer
      have unclosed : behind '}' (',' :: (writeFields others ++ '}' :: rest)) = none := behind_other rfl (by decide) _
      have comma : behind ',' (',' :: (writeFields others ++ '}' :: rest)) = some (writeFields others ++ '}' :: rest) :=
        behind_self rfl _
      rw [joined, parseMembers]
      simp only [parseName_quote, read, unclosed, comma, setProperty_last next, more, plainFields,
        List.map_cons, List.append_assoc, List.singleton_append]

theorem length_writeFields (fields : List (List CodeUnit × Value)) : fields.length ≤ (writeFields fields).length := by
  induction fields with
  | nil => exact Nat.le_refl _
  | cons field others ih =>
    obtain ⟨name, value⟩ := field
    by_cases last : others = []
    · rw [last, writeFields, quote, List.cons_append, List.length_cons, List.length_cons]
      exact Nat.succ_le_succ (Nat.zero_le _)
    · simp only [writeFields_cons last, quote, List.length_cons, List.length_append]
      omega

/-- An object whose fields have no parts is read as it is written. -/
theorem parse_stringify_flat (each : ∀ field ∈ fields, Atomic field.2) (ordered : Ordered (fields.map Prod.fst)) :
    parse (stringify (.object fields)) = some (.object (plainFields fields)) := by
  by_cases empty : fields = []
  · rw [empty]
    rfl
  have some_field : fields ≠ [] := empty
  have text : (stringify (.object fields)).toList = '{' :: (writeFields fields ++ '}' :: []) := String.toList_ofList
  have unopened : behind '[' ('{' :: (writeFields fields ++ '}' :: [])) = none := behind_other rfl (by decide) _
  have opened : behind '{' ('{' :: (writeFields fields ++ '}' :: [])) = some (writeFields fields ++ '}' :: []) :=
    behind_self rfl _
  obtain ⟨others, head⟩ := writeFields_head some_field
  have unclosed : behind '}' (writeFields fields ++ '}' :: []) = none := by
    rw [head]
    exact behind_other rfl (by decide) _
  have size := length_writeFields fields
  obtain ⟨steps, fuel⟩ : ∃ steps, 2 * ('{' :: (writeFields fields ++ '}' :: [])).length = steps + 1 :=
    ⟨2 * (writeFields fields).length + 3, by simp only [List.length_cons, List.length_append, List.length_nil]; omega⟩
  have enough : fields.length < steps := by
    simp only [List.length_cons, List.length_append, List.length_nil] at fuel
    omega
  have members := parse_atomic_fields each some_field [] ordered enough []
  rw [parse, text, fuel]
  simp only [parseValue, unopened, opened, unclosed, members, Option.map_some, List.nil_append]
  rfl

end Flat

section Units

/-- The text of units of which it was made; a half of a pair by itself is not kept. -/
def decodeUnits : List CodeUnit → List Char
  | [] => []
  | [u] => [Char.ofNat u.val]
  | u :: v :: rest =>
    if isHigh u ∧ isLow v then paired u v :: decodeUnits rest else Char.ofNat u.val :: decodeUnits (v :: rest)

/-- A character is read back from its code units, from a pair of surrogates too. -/
theorem decodeUnits_encode (c : Char) (rest : List CodeUnit) : decodeUnits (encode c ++ rest) = c :: decodeUnits rest := by
  have valid : c.toNat < 0xD800 ∨ 0xDFFF < c.toNat ∧ c.toNat < 0x110000 := c.valid
  by_cases single : c.toNat < 0x10000
  · have value : (Fin.ofNat 65536 c.toNat : CodeUnit).val = c.toNat := Nat.mod_eq_of_lt single
    have whole : ¬ isHigh (Fin.ofNat 65536 c.toNat) := by
      simp only [isHigh, value, Bool.and_eq_true, decide_eq_true_eq]
      omega
    rw [encode, if_pos single, List.singleton_append]
    cases rest with
    | nil => simp only [decodeUnits, value, Char.ofNat_toNat]
    | cons v rest =>
      rw [decodeUnits, if_neg fun pair => whole pair.1]
      simp only [value, Char.ofNat_toNat]
  · have first : (Fin.ofNat 65536 (0xD800 + (c.toNat - 0x10000) / 0x400) : CodeUnit).val =
        0xD800 + (c.toNat - 0x10000) / 0x400 := Nat.mod_eq_of_lt (by omega)
    have second : (Fin.ofNat 65536 (0xDC00 + (c.toNat - 0x10000) % 0x400) : CodeUnit).val =
        0xDC00 + (c.toNat - 0x10000) % 0x400 := Nat.mod_eq_of_lt (by omega)
    have high : isHigh (Fin.ofNat 65536 (0xD800 + (c.toNat - 0x10000) / 0x400)) := by
      simp only [isHigh, first, Bool.and_eq_true, decide_eq_true_eq]
      omega
    have low : isLow (Fin.ofNat 65536 (0xDC00 + (c.toNat - 0x10000) % 0x400)) := by
      simp only [isLow, second, Bool.and_eq_true, decide_eq_true_eq]
      omega
    have joined : 0x10000 + ((0xD800 + (c.toNat - 0x10000) / 0x400) - 0xD800) * 0x400 +
        ((0xDC00 + (c.toNat - 0x10000) % 0x400) - 0xDC00) = c.toNat := by omega
    have same : paired (Fin.ofNat 65536 (0xD800 + (c.toNat - 0x10000) / 0x400))
        (Fin.ofNat 65536 (0xDC00 + (c.toNat - 0x10000) % 0x400)) = c := by
      rw [paired, first, second, joined, Char.ofNat_toNat]
    rw [encode, if_neg single, List.cons_append, List.singleton_append, decodeUnits, if_pos ⟨high, low⟩, same]

def units (text : String) : List CodeUnit := text.toList.flatMap encode

/-- A text is read back from its units. -/
theorem decodeUnits_units (text : String) : String.ofList (decodeUnits (units text)) = text := by
  have letters : ∀ chars : List Char, decodeUnits (chars.flatMap encode) = chars := by
    intro chars
    induction chars with
    | nil => rfl
    | cons c chars ih => rw [List.flatMap_cons, decodeUnits_encode, ih]
  rw [units, letters, String.ofList_toList]

/-- A name that does not begin with a digit keeps its place. -/
theorem rank_word {u : CodeUnit} {name : List CodeUnit} (word : ¬ (48 ≤ u.val ∧ u.val ≤ 57)) :
    rank (u :: name) = 2 ^ 32 - 1 := by
  have unindexed : arrayIndex (u :: name) = none := by
    simp only [arrayIndex, ite_eq_right_iff]
    rintro ⟨_, each, _⟩
    exact absurd (of_decide_eq_true (List.all_eq_true.mp each u List.mem_cons_self)) word
  rw [rank, unindexed, Option.getD_none]

/-- Names that are no array indices are in order as they stand. -/
theorem ordered_words {names : List (List CodeUnit)} (distinct : names.Nodup)
    (words : ∀ name ∈ names, rank name = 2 ^ 32 - 1) : Ordered names := by
  refine ⟨distinct, List.pairwise_of_forall_mem_list ?_⟩
  intro a first b second
  rw [words a first, words b second]

end Units

end JsonText
