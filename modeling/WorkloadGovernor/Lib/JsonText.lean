import WorkloadGovernor.Lib.NumberText

namespace JsonText

section Strings

/-- A unit of UTF-16, of which texts are made. -/
abbrev CodeUnit : Type := Fin 65536

def isHigh (u : CodeUnit) : Bool := 0xD800 ≤ u.val && u.val < 0xDC00

def isLow (u : CodeUnit) : Bool := 0xDC00 ≤ u.val && u.val < 0xE000

/-- The units of a character. -/
def encode (c : Char) : List CodeUnit :=
  if c.toNat < 0x10000 then [Fin.ofNat 65536 c.toNat]
  else
    [Fin.ofNat 65536 (0xD800 + (c.toNat - 0x10000) / 0x400), Fin.ofNat 65536 (0xDC00 + (c.toNat - 0x10000) % 0x400)]

/-- The character of a high and a low unit. -/
def paired (high low : CodeUnit) : Char := Char.ofNat (0x10000 + (high.val - 0xD800) * 0x400 + (low.val - 0xDC00))

def unicodeEscape (u : CodeUnit) : List Char :=
  ['\\', 'u', Nat.digitChar (u.val / 0x1000), Nat.digitChar (u.val / 0x100 % 0x10), Nat.digitChar (u.val / 0x10 % 0x10),
    Nat.digitChar (u.val % 0x10)]

/-- How a unit is written that is no half of a pair. -/
def quoteUnit (u : CodeUnit) : List Char :=
  if isHigh u ∨ isLow u then unicodeEscape u
  else if u = 0x22 then ['\\', '"']
  else if u = 0x5C then ['\\', '\\']
  else if u = 0x08 then ['\\', 'b']
  else if u = 0x0C then ['\\', 'f']
  else if u = 0x0A then ['\\', 'n']
  else if u = 0x0D then ['\\', 'r']
  else if u = 0x09 then ['\\', 't']
  else if u.val < 0x20 then unicodeEscape u
  else [Char.ofNat u.val]

def quoteUnits : List CodeUnit → List Char
  | [] => []
  | [u] => quoteUnit u
  | u :: v :: rest =>
    if isHigh u ∧ isLow v then paired u v :: quoteUnits rest else quoteUnit u ++ quoteUnits (v :: rest)

/-- The unit that a character behind a backslash stands for. -/
def escaped : Char → Option CodeUnit
  | '"' => some 0x22
  | '\\' => some 0x5C
  | '/' => some 0x2F
  | 'b' => some 0x08
  | 'f' => some 0x0C
  | 'n' => some 0x0A
  | 'r' => some 0x0D
  | 't' => some 0x09
  | _ => none

def readHex (digits : List Char) : Option CodeUnit := (Js.radixValue 16 digits).map (Fin.ofNat 65536)

/-- The units of a text up to the closing quote, and what is left. -/
def readString : List Char → Option (List CodeUnit × List Char)
  | [] | ['\\'] => none
  | '"' :: rest => some ([], rest)
  | '\\' :: 'u' :: a :: b :: c :: d :: rest =>
    match readHex [a, b, c, d] with
    | none => none
    | some u => (readString rest).map fun (units, rest) => (u :: units, rest)
  | '\\' :: c :: rest =>
    match escaped c with
    | none => none
    | some u => (readString rest).map fun (units, rest) => (u :: units, rest)
  | c :: rest =>
    if c.toNat < 0x20 then none else (readString rest).map fun (units, rest) => (encode c ++ units, rest)

end Strings

section Values

/-- What `JSON.parse` gives. -/
inductive Value where
  | null
  | bool (value : Bool)
  | number (value : Js.Number)
  | string (units : List CodeUnit)
  | array (items : List Value)
  | object (fields : List (List CodeUnit × Value))

/-- The array index that a property name is, if it is one. -/
def arrayIndex (name : List CodeUnit) : Option Nat :=
  let value := name.foldl (fun value u => 10 * value + (u.val - 48)) 0
  if name ≠ [] ∧ (name.all fun u => 48 ≤ u.val ∧ u.val ≤ 57) ∧ (name.head? = some 48 → name = [48]) ∧ value < 2 ^ 32 - 1 then
    some value
  else none

/-- Properties are listed by rank: array indexes in front, all others in the order they came in. -/
def rank (name : List CodeUnit) : Nat := (arrayIndex name).getD (2 ^ 32 - 1)

/-- A property keeps its place when it is set again. -/
def setProperty (fields : List (List CodeUnit × Value)) (name : List CodeUnit) (value : Value) :
    List (List CodeUnit × Value) :=
  if name ∈ fields.map Prod.fst then fields.map fun field => if field.1 = name then (name, value) else field
  else
    fields.takeWhile (fun field => rank field.1 ≤ rank name) ++
      (name, value) :: fields.dropWhile fun field => rank field.1 ≤ rank name

def quote (units : List CodeUnit) : List Char := '"' :: (quoteUnits units ++ ['"'])

mutual

def write : Value → List Char
  | .null => ['n', 'u', 'l', 'l']
  | .bool true => ['t', 'r', 'u', 'e']
  | .bool false => ['f', 'a', 'l', 's', 'e']
  | .number (.finite value) => Js.Number.finiteText value
  | .number _ => ['n', 'u', 'l', 'l']
  | .string units => quote units
  | .array items => '[' :: (writeItems items ++ [']'])
  | .object fields => '{' :: (writeFields fields ++ ['}'])

def writeItems : List Value → List Char
  | [] => []
  | [item] => write item
  | item :: rest => write item ++ ',' :: writeItems rest

def writeFields : List (List CodeUnit × Value) → List Char
  | [] => []
  | [(name, value)] => quote name ++ ':' :: write value
  | (name, value) :: rest => quote name ++ ':' :: (write value ++ ',' :: writeFields rest)

end

/-- `JSON.stringify(value)`. -/
def stringify (value : Value) : String := String.ofList (write value)

end Values

section Parsing

def isSpace (c : Char) : Bool := c = ' ' || c = '\t' || c = '\n' || c = '\r'

def skip (text : List Char) : List Char := text.dropWhile isSpace

/-- A value without parts in front of a text. -/
def parseScalar : List Char → Option (Value × List Char)
  | 'n' :: 'u' :: 'l' :: 'l' :: rest => some (.null, rest)
  | 't' :: 'r' :: 'u' :: 'e' :: rest => some (.bool true, rest)
  | 'f' :: 'a' :: 'l' :: 's' :: 'e' :: rest => some (.bool false, rest)
  | '"' :: rest => (readString rest).map fun (units, rest) => (.string units, rest)
  | text => (Js.Number.readJson text).map fun (value, rest) => (.number value, rest)

/-- What is left behind a character, which may have white space in front of it. -/
def behind (c : Char) (text : List Char) : Option (List Char) :=
  match skip text with
  | [] => none
  | d :: rest => if d = c then some rest else none

/-- A property name and the colon behind it. -/
def parseName (text : List Char) : Option (List CodeUnit × List Char) :=
  match behind '"' text with
  | none => none
  | some rest =>
    match readString rest with
    | none => none
    | some (name, rest) => (behind ':' rest).map (name, ·)

mutual

/-- A value in front of a text; `none` also if it takes more than `fuel` steps. -/
def parseValue : Nat → List Char → Option (Value × List Char)
  | 0, _ => none
  | fuel + 1, text =>
    match behind '[' text with
    | some rest =>
      match behind ']' rest with
      | some rest => some (.array [], rest)
      | none => (parseItems fuel rest).map fun (items, rest) => (.array items, rest)
    | none =>
      match behind '{' text with
      | some rest =>
        match behind '}' rest with
        | some rest => some (.object [], rest)
        | none => (parseMembers fuel [] rest).map fun (fields, rest) => (.object fields, rest)
      | none => parseScalar (skip text)

/-- One or more items up to the closing bracket. -/
def parseItems : Nat → List Char → Option (List Value × List Char)
  | 0, _ => none
  | fuel + 1, text =>
    match parseValue fuel text with
    | none => none
    | some (item, rest) =>
      match behind ']' rest with
      | some rest => some ([item], rest)
      | none =>
        match behind ',' rest with
        | some rest => (parseItems fuel rest).map fun (items, rest) => (item :: items, rest)
        | none => none

/-- One or more members up to the closing brace, set in an object. -/
def parseMembers : Nat → List (List CodeUnit × Value) → List Char → Option (List (List CodeUnit × Value) × List Char)
  | 0, _, _ => none
  | fuel + 1, fields, text =>
    match parseName text with
    | none => none
    | some (name, rest) =>
      match parseValue fuel rest with
      | none => none
      | some (value, rest) =>
        match behind '}' rest with
        | some rest => some (setProperty fields name value, rest)
        | none =>
          match behind ',' rest with
          | some rest => parseMembers fuel (setProperty fields name value) rest
          | none => none

end

/-- `JSON.parse(text)`, with steps enough for every text. -/
def parse (text : String) : Option Value :=
  match parseValue (2 * text.toList.length) text.toList with
  | some (value, rest) => if skip rest = [] then some value else none
  | none => none

end Parsing

section StringProofs
variable {u v : CodeUnit} {rest : List Char}

theorem readHex_digits (u : CodeUnit) : readHex [Nat.digitChar (u.val / 0x1000), Nat.digitChar (u.val / 0x100 % 0x10),
    Nat.digitChar (u.val / 0x10 % 0x10), Nat.digitChar (u.val % 0x10)] = some u := by
  have digit : ∀ d < 16, Js.radixDigit (Nat.digitChar d) = d := by decide
  have bound := u.isLt
  have first := digit (u.val / 0x1000) (by omega)
  have second := digit (u.val / 0x100 % 0x10) (by omega)
  have third := digit (u.val / 0x10 % 0x10) (by omega)
  have fourth := digit (u.val % 0x10) (by omega)
  have small : ∀ c ∈ [Nat.digitChar (u.val / 0x1000), Nat.digitChar (u.val / 0x100 % 0x10),
      Nat.digitChar (u.val / 0x10 % 0x10), Nat.digitChar (u.val % 0x10)], Js.radixDigit c < 16 := by
    simp only [List.forall_mem_cons, first, second, third, fourth]
    exact ⟨by omega, by omega, by omega, by omega, fun _ member => absurd member List.not_mem_nil⟩
  have value : 16 * (16 * (16 * (16 * 0 + u.val / 0x1000) + u.val / 0x100 % 0x10) + u.val / 0x10 % 0x10) +
      u.val % 0x10 = u.val := by omega
  have all := List.all_eq_true.mpr fun c member => decide_eq_true (small c member)
  rw [readHex, Js.radixValue, if_pos ⟨List.cons_ne_nil _ _, all⟩]
  simp only [List.foldl_cons, List.foldl_nil, first, second, third, fourth, value, Option.map_some,
    Fin.ofNat_val_eq_self]

theorem readString_unicodeEscape (u : CodeUnit) (rest : List Char) : readString (unicodeEscape u ++ rest) =
    (readString rest).map fun (units, rest) => (u :: units, rest) := by
  simp only [unicodeEscape, List.cons_append, List.nil_append]
  rw [readString, readHex_digits]

theorem toNat_ofNat {n : Nat} (valid : n.isValidChar) : (Char.ofNat n).toNat = n := by
  rw [Char.ofNat, dif_pos valid]
  rfl

theorem toNat_ofNat_unit (half : ¬ (isHigh u ∨ isLow u)) : (Char.ofNat u.val).toNat = u.val := by
  have bound := u.isLt
  have valid : u.val.isValidChar := by
    simp only [isHigh, isLow, Bool.and_eq_true, decide_eq_true_eq] at half
    unfold Nat.isValidChar
    omega
  exact toNat_ofNat valid

theorem encode_unit (half : ¬ (isHigh u ∨ isLow u)) : encode (Char.ofNat u.val) = [u] := by
  rw [encode, toNat_ofNat_unit half, if_pos u.isLt, Fin.ofNat_val_eq_self]

theorem toNat_paired (high : isHigh u) (low : isLow v) :
    (paired u v).toNat = 0x10000 + (u.val - 0xD800) * 0x400 + (v.val - 0xDC00) := by
  simp only [isHigh, isLow, Bool.and_eq_true, decide_eq_true_eq] at high low
  have valid : (0x10000 + (u.val - 0xD800) * 0x400 + (v.val - 0xDC00)).isValidChar := by
    unfold Nat.isValidChar
    omega
  exact toNat_ofNat valid

theorem encode_paired (high : isHigh u) (low : isLow v) : encode (paired u v) = [u, v] := by
  have value := toNat_paired high low
  simp only [isHigh, isLow, Bool.and_eq_true, decide_eq_true_eq] at high low
  have first : 0xD800 + ((paired u v).toNat - 0x10000) / 0x400 = u.val := by omega
  have second : 0xDC00 + ((paired u v).toNat - 0x10000) % 0x400 = v.val := by omega
  rw [encode, if_neg (by omega), first, second, Fin.ofNat_val_eq_self, Fin.ofNat_val_eq_self]

theorem readString_char {c : Char} (quote : c ≠ '"') (backslash : c ≠ '\\') (rest : List Char) :
    readString (c :: rest) =
      if c.toNat < 0x20 then none else (readString rest).map fun (units, rest) => (encode c ++ units, rest) := by
  rw [readString.eq_def]
  split <;> simp_all

/-- A unit is read as it is written. -/
theorem readString_quoteUnit (u : CodeUnit) (rest : List Char) : readString (quoteUnit u ++ rest) =
    (readString rest).map fun (units, rest) => (u :: units, rest) := by
  unfold quoteUnit
  split_ifs with half quote backslash b f n r t control
  · exact readString_unicodeEscape u rest
  · rw [quote]
    rfl
  · rw [backslash]
    rfl
  · rw [b]
    rfl
  · rw [f]
    rfl
  · rw [n]
    rfl
  · rw [r]
    rfl
  · rw [t]
    rfl
  · exact readString_unicodeEscape u rest
  · have value := toNat_ofNat_unit half
    have other {c : Char} {w : CodeUnit} (differs : u ≠ w) (same : w.val = c.toNat) : Char.ofNat u.val ≠ c := by
      rintro rfl
      exact differs (Fin.ext (value.symm.trans same.symm))
    rw [List.singleton_append, readString_char (other quote rfl) (other backslash rfl), value, if_neg control,
      encode_unit half]
    rfl

theorem readString_paired (high : isHigh u) (low : isLow v) (rest : List Char) :
    readString (paired u v :: rest) = (readString rest).map fun (units, rest) => (u :: v :: units, rest) := by
  have value := toNat_paired high low
  have other {c : Char} (small : c.toNat < 0x10000) : paired u v ≠ c := by
    rintro rfl
    omega
  rw [readString_char (other (by decide)) (other (by decide)), if_neg (by omega), encode_paired high low]
  rfl

/-- A text is read as it is written. -/
theorem readString_quoteUnits (units : List CodeUnit) (rest : List Char) :
    readString (quoteUnits units ++ '"' :: rest) = some (units, rest) := by
  induction units using quoteUnits.induct with
  | case1 => rfl
  | case2 u =>
    rw [quoteUnits, readString_quoteUnit]
    rfl
  | case3 u v more pair ih =>
    rw [quoteUnits, if_pos pair, List.cons_append, readString_paired pair.1 pair.2, ih]
    rfl
  | case4 u v more single ih =>
    rw [quoteUnits, if_neg single, List.append_assoc, readString_quoteUnit, ih]
    rfl

end StringProofs

section Properties
variable {fields : List (List CodeUnit × Value)} {name : List CodeUnit} {value : Value} {names : List (List CodeUnit)}

/-- Names as an object lists them. -/
def Ordered (names : List (List CodeUnit)) : Prop := names.Nodup ∧ names.Pairwise fun a b => rank a ≤ rank b

theorem inserted_pairwise (sorted : names.Pairwise fun a b => rank a ≤ rank b) (name : List CodeUnit) :
    (names.takeWhile (fun other => rank other ≤ rank name) ++
      name :: names.dropWhile fun other => rank other ≤ rank name).Pairwise fun a b => rank a ≤ rank b := by
  induction names with
  | nil => exact List.pairwise_singleton _ _
  | cons first names ih =>
    obtain ⟨least, rest⟩ := List.pairwise_cons.mp sorted
    by_cases before : rank first ≤ rank name
    · simp only [List.takeWhile_cons, List.dropWhile_cons, before, decide_true, if_true, List.cons_append]
      refine List.pairwise_cons.mpr ⟨fun other member => ?_, ih rest⟩
      rcases List.mem_append.mp member with front | back
      · exact least other ((List.takeWhile_prefix _).subset front)
      · rcases List.mem_cons.mp back with rfl | back
        · exact before
        · exact least other ((List.dropWhile_suffix _).subset back)
    · have after : ∀ other ∈ first :: names, rank name ≤ rank other := by
        intro other member
        rcases List.mem_cons.mp member with rfl | later
        · omega
        · have further := least other later
          omega
      simp only [List.takeWhile_cons, List.dropWhile_cons, before, decide_false, Bool.false_eq_true, if_false,
        List.nil_append]
      exact List.pairwise_cons.mpr ⟨after, sorted⟩

theorem setProperty_names (fields : List (List CodeUnit × Value)) (name : List CodeUnit) (value : Value) :
    (setProperty fields name value).map Prod.fst =
      if name ∈ fields.map Prod.fst then fields.map Prod.fst
      else (fields.map Prod.fst).takeWhile (fun other => rank other ≤ rank name) ++
        name :: (fields.map Prod.fst).dropWhile fun other => rank other ≤ rank name := by
  unfold setProperty
  split_ifs with known
  · rw [List.map_map]
    refine List.map_congr_left fun field _ => ?_
    rw [Function.comp_apply]
    split
    · rename_i same
      exact same.symm
    · rfl
  · rw [List.map_append, List.map_cons, List.takeWhile_map, List.dropWhile_map]
    rfl

theorem setProperty_ordered (ordered : Ordered (fields.map Prod.fst)) (name : List CodeUnit) (value : Value) :
    Ordered ((setProperty fields name value).map Prod.fst) := by
  rw [setProperty_names]
  split_ifs with known
  · exact ordered
  · refine ⟨?_, inserted_pairwise ordered.2 name⟩
    rw [List.perm_middle.nodup_iff, List.takeWhile_append_dropWhile]
    exact List.nodup_cons.mpr ⟨known, ordered.1⟩

theorem mem_setProperty {field : List CodeUnit × Value} (member : field ∈ setProperty fields name value) :
    field ∈ fields ∨ field = (name, value) := by
  unfold setProperty at member
  split_ifs at member with known
  · obtain ⟨own, there, rfl⟩ := List.mem_map.mp member
    split_ifs
    · exact Or.inr rfl
    · exact Or.inl there
  · rcases List.mem_append.mp member with front | back
    · exact Or.inl ((List.takeWhile_prefix _).subset front)
    · rcases List.mem_cons.mp back with own | back
      · exact Or.inr own
      · exact Or.inl ((List.dropWhile_suffix _).subset back)

/-- A name that comes last in order is put last. -/
theorem setProperty_last (ordered : Ordered (fields.map Prod.fst ++ [name])) (value : Value) :
    setProperty fields name value = fields ++ [(name, value)] := by
  obtain ⟨distinct, sorted⟩ := ordered
  have unknown : name ∉ fields.map Prod.fst :=
    fun known => (List.nodup_append.mp distinct).2.2 name known name (List.mem_singleton_self _) rfl
  have before : ∀ field ∈ fields, decide (rank field.1 ≤ rank name) = true := fun field member =>
    decide_eq_true ((List.pairwise_append.mp sorted).2.2 field.1 (List.mem_map_of_mem member) name
      (List.mem_singleton_self _))
  rw [setProperty, if_neg unknown, List.takeWhile_eq_self_iff.mpr before, List.dropWhile_eq_nil_iff.mpr before]

end Properties

end JsonText
