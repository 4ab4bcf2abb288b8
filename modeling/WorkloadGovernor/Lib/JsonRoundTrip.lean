import WorkloadGovernor.Lib.JsonText

namespace JsonText

/-- A value that a text can have: its numbers are doubles, and its objects list their
properties in order. -/
inductive Value.Valid : Value → Prop where
  | null : Valid .null
  | bool (value : Bool) : Valid (.bool value)
  | finite {x : ℚ} (double : Double.IsDouble x) : Valid (.number (.finite x))
  | infinity (negative : Bool) : Valid (.number (.infinity negative))
  | string (units : List CodeUnit) : Valid (.string units)
  | array {items : List Value} (each : ∀ item ∈ items, Valid item) : Valid (.array items)
  | object {fields : List (List CodeUnit × Value)} (ordered : Ordered (fields.map Prod.fst))
      (each : ∀ field ∈ fields, Valid field.2) : Valid (.object fields)

section Reading
variable {text rest : List Char} {c : Char} {value : Value}

/-- What is left behind blanks is no longer than the text. -/
theorem skip_length (text : List Char) : (skip text).length ≤ text.length := (List.dropWhile_suffix _).length_le

/-- A character that is found is used up. -/
theorem behind_length (found : behind c text = some rest) : rest.length < text.length := by
  have shorter := skip_length text
  unfold behind at found
  split at found
  · cases found
  · rename_i first
    rw [first] at shorter
    split_ifs at found
    cases found
    exact shorter

/-- What is read in front of a text leaves less of it. -/
def Shortens {α : Type} (text : List Char) (read : Option (α × List Char)) : Prop :=
  ∀ result ∈ read, result.2.length < text.length

theorem Shortens.none {α : Type} : Shortens text (none : Option (α × List Char)) :=
  fun _ member => absurd member (Option.not_mem_none _)

/-- Reading on after what has been read. -/
theorem Shortens.map {α β : Type} {read : Option (α × List Char)} (shortens : Shortens rest read)
    (shorter : rest.length ≤ text.length) (add : α → β) :
    Shortens text (read.map fun (a, left) => (add a, left)) := by
  intro result member
  obtain ⟨own, inner, rfl⟩ := Option.map_eq_some_iff.mp member
  exact (shortens own inner).trans_le shorter

/-- Reading a string uses up a character at least, the closing quote. -/
theorem readString_shortens (text : List Char) : Shortens text (readString text) := by
  fun_induction readString text with
  | case1 | case2 => exact .none
  | case3 rest =>
    rintro _ ⟨rfl⟩
    exact Nat.lt_succ_self _
  | case4 | case6 | case8 => exact .none
  | case5 a b c d rest u hex ih => exact ih.map (by simp only [List.length_cons]; omega) _
  | case7 c rest _ u simple ih => exact ih.map (by simp only [List.length_cons]; omega) _
  | case9 c rest _ _ _ _ printable ih => exact ih.map (by simp only [List.length_cons]; omega) _

theorem readFraction_length {fraction : List Char} (read : Js.Number.readFraction text = some (fraction, rest)) :
    rest.length ≤ text.length := by
  unfold Js.Number.readFraction at read
  split at read
  · split_ifs at read
    cases read
    exact (List.dropWhile_suffix _).length_le.trans (Nat.le_succ _)
  · cases read
    exact Nat.le_refl _

theorem takeSign_length (text : List Char) : (Js.takeSign text).2.length ≤ text.length := by
  unfold Js.takeSign
  split <;> simp

theorem readPower_length {power : Int} (read : Js.Number.readPower text = some (power, rest)) :
    rest.length ≤ text.length := by
  unfold Js.Number.readPower at read
  split at read
  · cases read
    exact Nat.le_refl _
  · rename_i c left
    have digits : ((Js.takeSign left).2.dropWhile Char.isDigit).length ≤ (c :: left).length :=
      ((List.dropWhile_suffix _).length_le.trans (takeSign_length left)).trans (Nat.le_succ _)
    dsimp only at read
    split at read
    · rw [Option.ite_none_left_eq_some] at read
      cases read.2
      exact digits
    · cases read
      exact Nat.le_refl _

/-- A number that is read uses up a digit, and it is a double or an infinity. -/
theorem readUnsigned_spec {negative : Bool} {number : Js.Number}
    (read : Js.Number.readUnsigned negative text = some (number, rest)) :
    rest.length < text.length ∧ ∃ y, number = Js.Number.ofRat y := by
  unfold Js.Number.readUnsigned at read
  dsimp only at read
  split_ifs at read with grammar
  have digits : (text.takeWhile Char.isDigit).length + (text.dropWhile Char.isDigit).length = text.length := by
    rw [← List.length_append, List.takeWhile_append_dropWhile]
  have some_digit := List.length_pos_iff.mpr (not_or.mp grammar).1
  split at read
  · cases read
  · rename_i fraction left first
    split at read
    · cases read
    · rename_i power last second
      cases read
      have shorter := readFraction_length first
      have shortest := readPower_length second
      exact ⟨by omega, _, rfl⟩

theorem readJson_spec {number : Js.Number} (read : Js.Number.readJson text = some (number, rest)) :
    rest.length < text.length ∧ ∃ y, number = Js.Number.ofRat y := by
  unfold Js.Number.readJson at read
  split at read
  · obtain ⟨shorter, value⟩ := readUnsigned_spec read
    exact ⟨shorter.trans (Nat.lt_succ_self _), value⟩
  · exact readUnsigned_spec read

/-- What a decimal rounds to is a number that a text can have. -/
theorem ofRat_valid (y : ℚ) : (Value.number (Js.Number.ofRat y)).Valid := by
  cases rounded : Js.Number.ofRat y with
  | nan =>
    unfold Js.Number.ofRat at rounded
    split_ifs at rounded
  | infinity negative => exact .infinity negative
  | finite x => exact .finite (Js.Number.ofRat_isDouble rounded)

/-- A value without parts is one that a text can have, and reading it uses up some of the text. -/
theorem parseScalar_spec (parsed : parseScalar text = some (value, rest)) :
    value.Valid ∧ rest.length < text.length := by
  unfold parseScalar at parsed
  split at parsed
  · cases parsed
    exact ⟨.null, by simp only [List.length_cons]; omega⟩
  · cases parsed
    exact ⟨.bool true, by simp only [List.length_cons]; omega⟩
  · cases parsed
    exact ⟨.bool false, by simp only [List.length_cons]; omega⟩
  · rename_i left
    obtain ⟨⟨units, last⟩, read, same⟩ := Option.map_eq_some_iff.mp parsed
    cases same
    exact ⟨.string units, (readString_shortens left _ read).trans (Nat.lt_succ_self _)⟩
  · obtain ⟨⟨number, last⟩, read, same⟩ := Option.map_eq_some_iff.mp parsed
    cases same
    obtain ⟨shorter, y, rfl⟩ := readJson_spec read
    exact ⟨ofRat_valid y, shorter⟩

/-- A name takes two quotes and a colon. -/
theorem parseName_length {name : List CodeUnit} (parsed : parseName text = some (name, rest)) :
    rest.length + 3 ≤ text.length := by
  unfold parseName at parsed
  split at parsed
  · cases parsed
  · rename_i inner opened
    split at parsed
    · cases parsed
    · rename_i own left read
      obtain ⟨last, colon, same⟩ := Option.map_eq_some_iff.mp parsed
      cases same
      have first := behind_length opened
      have second := readString_shortens inner _ read
      have third := behind_length colon
      dsimp only at second
      omega

/-- What `parseValue` gives is a value that a text can have, leaves less of the text, and is
given with more steps as well. -/
def ValueSpec (fuel : Nat) : Prop :=
  ∀ text value rest, parseValue fuel text = some (value, rest) → value.Valid ∧ rest.length < text.length ∧
    ∀ more, 2 * text.length ≤ more → parseValue more text = some (value, rest)

def ItemsSpec (fuel : Nat) : Prop :=
  ∀ text items rest, parseItems fuel text = some (items, rest) → (∀ item ∈ items, item.Valid) ∧
    rest.length < text.length ∧ ∀ more, 2 * text.length + 1 ≤ more → parseItems more text = some (items, rest)

def MembersSpec (fuel : Nat) : Prop :=
  ∀ fields text result rest, parseMembers fuel fields text = some (result, rest) → Ordered (fields.map Prod.fst) →
    (∀ field ∈ fields, field.2.Valid) → (Ordered (result.map Prod.fst) ∧ ∀ field ∈ result, field.2.Valid) ∧
      rest.length < text.length ∧
        ∀ more, 2 * text.length + 1 ≤ more → parseMembers more fields text = some (result, rest)

section Steps
variable {fuel : Nat}

theorem ordered_nil : Ordered ([] : List (List CodeUnit)) := ⟨List.nodup_nil, List.Pairwise.nil⟩

/-- Values of a depth, from items and members of the depth below. -/
theorem value_step (arrays : ItemsSpec fuel) (objects : MembersSpec fuel) : ValueSpec (fuel + 1) := by
  intro text value rest parsed
  rw [parseValue] at parsed
  cases opened : behind '[' text with
  | some inner =>
    have first := behind_length opened
    cases closed : behind ']' inner with
    | some last =>
      have second := behind_length closed
      simp only [opened, closed, Option.some.injEq, Prod.mk.injEq] at parsed
      obtain ⟨rfl, rfl⟩ := parsed
      refine ⟨.array fun _ member => absurd member List.not_mem_nil, by omega, fun more least => ?_⟩
      obtain ⟨steps, rfl⟩ : ∃ steps, more = steps + 1 := ⟨more - 1, by omega⟩
      simp only [parseValue, opened, closed]
    | none =>
      simp only [opened, closed, Option.map_eq_some_iff, Prod.mk.injEq] at parsed
      obtain ⟨⟨items, last⟩, read, rfl, rfl⟩ := parsed
      obtain ⟨each, shorter, again⟩ := arrays _ _ _ read
      refine ⟨.array each, shorter.trans first, fun more least => ?_⟩
      obtain ⟨steps, rfl⟩ : ∃ steps, more = steps + 1 := ⟨more - 1, by omega⟩
      simp only [parseValue, opened, closed, again steps (by omega), Option.map_some]
  | none =>
    cases braced : behind '{' text with
    | some inner =>
      have first := behind_length braced
      cases closed : behind '}' inner with
      | some last =>
        have second := behind_length closed
        simp only [opened, braced, closed, Option.some.injEq, Prod.mk.injEq] at parsed
        obtain ⟨rfl, rfl⟩ := parsed
        refine ⟨.object ordered_nil fun _ member => absurd member List.not_mem_nil, by omega, fun more least => ?_⟩
        obtain ⟨steps, rfl⟩ : ∃ steps, more = steps + 1 := ⟨more - 1, by omega⟩
        simp only [parseValue, opened, braced, closed]
      | none =>
        simp only [opened, braced, closed, Option.map_eq_some_iff, Prod.mk.injEq] at parsed
        obtain ⟨⟨fields, last⟩, read, rfl, rfl⟩ := parsed
        obtain ⟨⟨ordered, each⟩, shorter, again⟩ := objects _ _ _ _ read ordered_nil
          fun _ member => absurd member List.not_mem_nil
        refine ⟨.object ordered each, shorter.trans first, fun more least => ?_⟩
        obtain ⟨steps, rfl⟩ : ∃ steps, more = steps + 1 := ⟨more - 1, by omega⟩
        simp only [parseValue, opened, braced, closed, again steps (by omega), Option.map_some]
    | none =>
      simp only [opened, braced] at parsed
      obtain ⟨valid, inside⟩ := parseScalar_spec parsed
      have shorter := inside.trans_le (skip_length text)
      refine ⟨valid, shorter, fun more least => ?_⟩
      obtain ⟨steps, rfl⟩ : ∃ steps, more = steps + 1 := ⟨more - 1, by omega⟩
      simp only [parseValue, opened, braced, parsed]

theorem items_step (values : ValueSpec fuel) (arrays : ItemsSpec fuel) : ItemsSpec (fuel + 1) := by
  intro text items rest parsed
  rw [parseItems] at parsed
  cases head : parseValue fuel text with
  | none =>
    simp only [head] at parsed
    cases parsed
  | some pair =>
    obtain ⟨item, left⟩ := pair
    obtain ⟨valid, shorter, again⟩ := values _ _ _ head
    cases closed : behind ']' left with
    | some last =>
      have second := behind_length closed
      simp only [head, closed, Option.some.injEq, Prod.mk.injEq] at parsed
      obtain ⟨rfl, rfl⟩ := parsed
      refine ⟨List.forall_mem_singleton.mpr valid, second.trans shorter, fun more least => ?_⟩
      obtain ⟨steps, rfl⟩ : ∃ steps, more = steps + 1 := ⟨more - 1, by omega⟩
      simp only [parseItems, again steps (by omega), closed]
    | none =>
      cases comma : behind ',' left with
      | none =>
        simp only [head, closed, comma] at parsed
        cases parsed
      | some following =>
        have second := behind_length comma
        simp only [head, closed, comma, Option.map_eq_some_iff, Prod.mk.injEq] at parsed
        obtain ⟨⟨others, last⟩, read, rfl, rfl⟩ := parsed
        obtain ⟨each, further, repeats⟩ := arrays _ _ _ read
        refine ⟨List.forall_mem_cons.mpr ⟨valid, each⟩, further.trans (second.trans shorter), fun more least => ?_⟩
        obtain ⟨steps, rfl⟩ : ∃ steps, more = steps + 1 := ⟨more - 1, by omega⟩
        simp only [parseItems, again steps (by omega), closed, comma, repeats steps (by omega), Option.map_some]

/-- Members are collected one by one, so that the names read so far are in order and each is there once. -/
theorem members_step (values : ValueSpec fuel) (objects : MembersSpec fuel) : MembersSpec (fuel + 1) := by
  intro fields text result rest parsed ordered each
  rw [parseMembers] at parsed
  cases named : parseName text with
  | none =>
    simp only [named] at parsed
    cases parsed
  | some pair =>
    obtain ⟨name, left⟩ := pair
    have first := parseName_length named
    cases head : parseValue fuel left with
    | none =>
      simp only [named, head] at parsed
      cases parsed
    | some pair =>
      obtain ⟨value, behind_value⟩ := pair
      obtain ⟨valid, shorter, again⟩ := values _ _ _ head
      have set_ordered := setProperty_ordered ordered name value
      have set_each : ∀ field ∈ setProperty fields name value, field.2.Valid := by
        intro field member
        rcases mem_setProperty member with old | rfl
        · exact each field old
        · exact valid
      cases closed : behind '}' behind_value with
      | some last =>
        have second := behind_length closed
        simp only [named, head, closed, Option.some.injEq, Prod.mk.injEq] at parsed
        obtain ⟨rfl, rfl⟩ := parsed
        refine ⟨⟨set_ordered, set_each⟩, by omega, fun more least => ?_⟩
        obtain ⟨steps, rfl⟩ : ∃ steps, more = steps + 1 := ⟨more - 1, by omega⟩
        simp only [parseMembers, named, again steps (by omega), closed]
      | none =>
        cases comma : behind ',' behind_value with
        | none =>
          simp only [named, head, closed, comma] at parsed
          cases parsed
        | some following =>
          have second := behind_length comma
          simp only [named, head, closed, comma] at parsed
          obtain ⟨both, further, repeats⟩ := objects _ _ _ _ parsed set_ordered set_each
          refine ⟨both, by omega, fun more least => ?_⟩
          obtain ⟨steps, rfl⟩ : ∃ steps, more = steps + 1 := ⟨more - 1, by omega⟩
          simp only [parseMembers, named, again steps (by omega), closed, comma, repeats steps (by omega)]

/-- By induction on the fuel all three readers give what can be written, and use up some of the text. -/
theorem parse_spec (fuel : Nat) : ValueSpec fuel ∧ ItemsSpec fuel ∧ MembersSpec fuel := by
  induction fuel with
  | zero =>
    refine ⟨fun _ _ _ parsed => ?_, fun _ _ _ parsed => ?_, fun _ _ _ _ parsed => ?_⟩
    all_goals cases parsed
  | succ fuel ih =>
    obtain ⟨values, arrays, objects⟩ := ih
    exact ⟨value_step arrays objects, items_step values arrays, members_step values objects⟩

end Steps

/-- `parse` has steps enough: what is parsed with any number of them is parsed. -/
theorem parse_of_fuel {fuel : Nat} {text : String} (parsed : parseValue fuel text.toList = some (value, rest))
    (whole : skip rest = []) : parse text = some value := by
  obtain ⟨_, _, enough⟩ := (parse_spec fuel).1 _ _ _ parsed
  simp only [parse, enough _ (Nat.le_refl _), if_pos whole]

/-- What `JSON.parse` accepts has its numbers rounded to doubles, and its names in the order of their properties. -/
theorem parse_valid {text : String} (parsed : parse text = some value) : value.Valid := by
  unfold parse at parsed
  split at parsed
  · rename_i own rest read
    obtain ⟨_, same⟩ := Option.ite_none_right_eq_some.mp parsed
    cases same
    exact ((parse_spec _).1 _ _ _ read).1
  · cases parsed

end Reading

section Writing
variable {c d : Char} {text rest : List Char} {value : Value}

/-- What may come after a value, if anything does. -/
def Ends (rest : List Char) : Prop := ∀ c ∈ rest.head?, c = ',' ∨ c = ']' ∨ c = '}' ∨ isSpace c = true

/-- What ends a value ends a number. -/
theorem Ends.endsNumber (ends : Ends rest) : Js.Number.EndsNumber rest := by
  intro c first
  rcases ends c first with rfl | rfl | rfl | blank
  · decide
  · decide
  · decide
  · simp only [isSpace, Bool.or_eq_true, decide_eq_true_eq] at blank
    rcases blank with ((rfl | rfl) | rfl) | rfl <;> decide

theorem skip_cons (plain : isSpace c = false) (rest : List Char) : skip (c :: rest) = c :: rest :=
  List.dropWhile_cons_of_neg (by simp [plain])

theorem behind_self (plain : isSpace c = false) (rest : List Char) : behind c (c :: rest) = some rest := by
  simp only [behind, skip_cons plain, if_true]

theorem behind_other (plain : isSpace d = false) (other : d ≠ c) (rest : List Char) : behind c (d :: rest) = none := by
  simp only [behind, skip_cons plain, if_neg other]

/-- How a value begins. -/
def Begins (c : Char) : Prop := isSpace c = false ∧ c ≠ ']' ∧ c ≠ '}'

/-- A number begins with a character that begins nothing else. -/
theorem digit_begins (number : c = '-' ∨ c.isDigit = true) :
    Begins c ∧ c ≠ '[' ∧ c ≠ '{' ∧ c ≠ 'n' ∧ c ≠ 't' ∧ c ≠ 'f' ∧ c ≠ '"' := by
  rcases number with rfl | digit
  · unfold Begins
    decide
  · have other {d : Char} (no_digit : d.isDigit = false) : c ≠ d := by
      rintro rfl
      rw [digit] at no_digit
      cases no_digit
    have plain : isSpace c = false := by
      simp only [isSpace, Bool.or_eq_false_iff, decide_eq_false_iff_not]
      exact ⟨⟨⟨other (by decide), other (by decide)⟩, other (by decide)⟩, other (by decide)⟩
    exact ⟨⟨plain, other (by decide), other (by decide)⟩, other (by decide), other (by decide), other (by decide),
      other (by decide), other (by decide), other (by decide)⟩

/-- A number is written with a sign or a digit first. -/
theorem finiteText_head {x : ℚ} (double : Double.IsDouble x) :
    ∃ c tail, Js.Number.finiteText x = c :: tail ∧ (c = '-' ∨ c.isDigit = true) := by
  unfold Js.Number.finiteText
  split_ifs with zero negative
  · exact ⟨'0', [], rfl, Or.inr (by decide)⟩
  · exact ⟨'-', _, rfl, Or.inl rfl⟩
  · have positive : 0 < x := lt_of_le_of_ne (not_lt.mp negative) (Ne.symm zero)
    obtain ⟨spelled, _⟩ := Js.Number.layoutOf_spec double.1 positive
    obtain ⟨c, digits, whole⟩ := List.exists_cons_of_ne_nil spelled.some_digit
    have text : (Js.Number.layoutOf x).text = c :: (digits ++ (if (Js.Number.layoutOf x).fraction = [] then []
        else '.' :: (Js.Number.layoutOf x).fraction) ++ Js.Number.powerText (Js.Number.layoutOf x).exponent) := by
      rw [Js.Number.Layout.text, whole]
      rfl
    exact ⟨c, _, text, Or.inr (spelled.whole c (whole ▸ List.mem_cons_self))⟩

/-- By its first character a written value is told from a bracket or a brace that closes. -/
theorem write_head (valid : value.Valid) : ∃ c tail, write value = c :: tail ∧ Begins c := by
  have begins : Begins 'n' ∧ Begins 't' ∧ Begins 'f' ∧ Begins '"' ∧ Begins '[' ∧ Begins '{' := by
    unfold Begins
    decide
  obtain ⟨n, t, f, quote, bracket, brace⟩ := begins
  cases valid with
  | null => exact ⟨_, _, rfl, n⟩
  | bool value => cases value with
    | true => exact ⟨_, _, rfl, t⟩
    | false => exact ⟨_, _, rfl, f⟩
  | finite double =>
    obtain ⟨c, tail, text, number⟩ := finiteText_head double
    exact ⟨c, tail, text, (digit_begins number).1⟩
  | infinity negative => exact ⟨_, _, rfl, n⟩
  | string units => exact ⟨_, _, rfl, quote⟩
  | array each => exact ⟨_, _, rfl, bracket⟩
  | object ordered each => exact ⟨_, _, rfl, brace⟩

/-- Where neither a bracket nor a brace opens, a value without parts is read. -/
theorem parseValue_scalar (plain : isSpace c = false) (bracket : c ≠ '[') (brace : c ≠ '{') (fuel : Nat)
    (rest : List Char) : parseValue (fuel + 1) (c :: rest) = parseScalar (c :: rest) := by
  simp only [parseValue, behind_other plain bracket, behind_other plain brace, skip_cons plain]

theorem parseScalar_number {tail : List Char} (number : c = '-' ∨ c.isDigit = true) : parseScalar (c :: tail) =
    (Js.Number.readJson (c :: tail)).map fun (value, rest) => (.number value, rest) := by
  obtain ⟨_, _, _, n, t, f, quote⟩ := digit_begins number
  unfold parseScalar
  split <;> simp_all

/-- A name is read back with its colon. -/
theorem parseName_quote (name : List CodeUnit) (rest : List Char) :
    parseName (quote name ++ ':' :: rest) = some (name, rest) := by
  have text : quote name ++ ':' :: rest = '"' :: (quoteUnits name ++ '"' :: ':' :: rest) := by
    rw [quote, List.cons_append, List.append_assoc]
    rfl
  simp only [parseName, text, behind_self (show isSpace '"' = false from rfl), readString_quoteUnits,
    behind_self (show isSpace ':' = false from rfl), Option.map_some]

theorem writeItems_cons {items : List Value} (more : items ≠ []) (item : Value) :
    writeItems (item :: items) = write item ++ ',' :: writeItems items := by
  obtain ⟨second, others, rfl⟩ := List.exists_cons_of_ne_nil more
  rfl

theorem writeFields_cons {fields : List (List CodeUnit × Value)} (more : fields ≠ []) (name : List CodeUnit)
    (value : Value) : writeFields ((name, value) :: fields) =
      quote name ++ ':' :: (write value ++ ',' :: writeFields fields) := by
  obtain ⟨second, others, rfl⟩ := List.exists_cons_of_ne_nil more
  rfl

/-- A value without parts is read as it is written. -/
theorem parse_write_number {x : ℚ} (double : Double.IsDouble x) (ends : Ends rest) (fuel : Nat) :
    parseValue (fuel + 1) (Js.Number.finiteText x ++ rest) = some (.number (.finite x), rest) := by
  obtain ⟨c, tail, text, number⟩ := finiteText_head double
  obtain ⟨⟨plain, _⟩, bracket, brace, _⟩ := digit_begins number
  have read := Js.Number.readJson_finiteText double ends.endsNumber
  rw [text, List.cons_append] at read ⊢
  rw [parseValue_scalar plain bracket brace, parseScalar_number number, read]
  rfl

/-- A string is read back, whatever its code units are. -/
theorem parse_quote (units : List CodeUnit) (fuel : Nat) (rest : List Char) :
    parseValue (fuel + 1) (quote units ++ rest) = some (.string units, rest) := by
  have text : quote units ++ rest = '"' :: (quoteUnits units ++ '"' :: rest) := by
    rw [quote, List.cons_append, List.append_assoc]
    rfl
  rw [text, parseValue_scalar rfl (by decide) (by decide)]
  change (readString (quoteUnits units ++ '"' :: rest)).map (fun read => (Value.string read.1, read.2)) = _
  rw [readString_quoteUnits]
  rfl

theorem parse_null (fuel : Nat) (rest : List Char) : parseValue (fuel + 1) ('n' :: 'u' :: 'l' :: 'l' :: rest) =
    some (.null, rest) := by
  rw [parseValue_scalar rfl (by decide) (by decide)]
  rfl

theorem writeItems_head {items : List Value} (each : ∀ item ∈ items, item.Valid) (some_item : items ≠ []) :
    ∃ c tail, writeItems items = c :: tail ∧ Begins c := by
  obtain ⟨item, others, rfl⟩ := List.exists_cons_of_ne_nil some_item
  obtain ⟨c, tail, first, begins⟩ := write_head (each item List.mem_cons_self)
  by_cases last : others = []
  · subst last
    exact ⟨c, tail, first, begins⟩
  · rw [writeItems_cons last, first]
    exact ⟨c, _, rfl, begins⟩

theorem writeFields_head {fields : List (List CodeUnit × Value)} (some_field : fields ≠ []) :
    ∃ tail, writeFields fields = '"' :: tail := by
  obtain ⟨⟨name, value⟩, others, rfl⟩ := List.exists_cons_of_ne_nil some_field
  by_cases last : others = []
  · subst last
    exact ⟨_, rfl⟩
  · rw [writeFields_cons last, quote]
    exact ⟨_, rfl⟩

mutual

/-- What is parsed of a written value is written in the same way. -/
theorem parse_write (value : Value) (valid : value.Valid) (fuel : Nat) (rest : List Char)
    (enough : 2 * (write value).length ≤ fuel) (ends : Ends rest) :
    ∃ same, parseValue fuel (write value ++ rest) = some (same, rest) ∧ write same = write value := by
  obtain ⟨c, tail, first, _⟩ := write_head valid
  obtain ⟨steps, rfl⟩ : ∃ steps, fuel = steps + 1 := by
    rw [first, List.length_cons] at enough
    exact ⟨fuel - 1, by omega⟩
  match value with
  | .null => exact ⟨.null, parse_null steps rest, rfl⟩
  | .bool true =>
    refine ⟨.bool true, ?_, rfl⟩
    exact parseValue_scalar rfl (by decide) (by decide) steps _
  | .bool false =>
    refine ⟨.bool false, ?_, rfl⟩
    exact parseValue_scalar rfl (by decide) (by decide) steps _
  | .number (.finite x) =>
    cases valid with
    | finite double => exact ⟨.number (.finite x), parse_write_number double ends steps, rfl⟩
  | .number (.infinity negative) => exact ⟨.null, parse_null steps rest, rfl⟩
  | .number .nan => exact ⟨.null, parse_null steps rest, rfl⟩
  | .string units => exact ⟨.string units, parse_quote units steps rest, rfl⟩
  | .array items =>
    cases valid with
    | array each =>
      have text : write (.array items) ++ rest = '[' :: (writeItems items ++ ']' :: rest) := by
        rw [write, List.cons_append, List.append_assoc]
        rfl
      have opened : behind '[' ('[' :: (writeItems items ++ ']' :: rest)) = some (writeItems items ++ ']' :: rest) :=
        behind_self rfl _
      rw [text]
      by_cases empty : items = []
      · have closed : behind ']' (writeItems items ++ ']' :: rest) = some rest := by
          rw [empty]
          exact behind_self rfl rest
        refine ⟨.array [], ?_, by rw [empty]⟩
        simp only [parseValue, opened, closed]
      · obtain ⟨d, others, head, plain, bracket, _⟩ := writeItems_head each empty
        have unclosed : behind ']' (writeItems items ++ ']' :: rest) = none := by
          rw [head]
          exact behind_other plain bracket _
        have fewer : 2 * (writeItems items).length + 1 ≤ steps := by
          rw [write, List.length_cons, List.length_append, List.length_singleton] at enough
          omega
        obtain ⟨same, read, _, written⟩ := parse_writeItems items each empty steps rest fewer
        refine ⟨.array same, ?_, by rw [write, write, written]⟩
        simp only [parseValue, opened, unclosed, read, Option.map_some]
  | .object fields =>
    cases valid with
    | object ordered each =>
      have text : write (.object fields) ++ rest = '{' :: (writeFields fields ++ '}' :: rest) := by
        rw [write, List.cons_append, List.append_assoc]
        rfl
      have unopened : behind '[' ('{' :: (writeFields fields ++ '}' :: rest)) = none := behind_other rfl (by decide) _
      have opened : behind '{' ('{' :: (writeFields fields ++ '}' :: rest)) =
          some (writeFields fields ++ '}' :: rest) := behind_self rfl _
      rw [text]
      by_cases empty : fields = []
      · have closed : behind '}' (writeFields fields ++ '}' :: rest) = some rest := by
          rw [empty]
          exact behind_self rfl rest
        refine ⟨.object [], ?_, by rw [empty]⟩
        simp only [parseValue, unopened, opened, closed]
      · obtain ⟨others, head⟩ := writeFields_head empty
        have unclosed : behind '}' (writeFields fields ++ '}' :: rest) = none := by
          rw [head]
          exact behind_other rfl (by decide) _
        have fewer : 2 * (writeFields fields).length + 1 ≤ steps := by
          rw [write, List.length_cons, List.length_append, List.length_singleton] at enough
          omega
        obtain ⟨same, read, _, written⟩ := parse_writeFields fields each empty [] ordered steps rest fewer
        refine ⟨.object same, ?_, by rw [write, write, written]⟩
        simp only [parseValue, unopened, opened, unclosed, read, Option.map_some, List.nil_append]

/-- The items of an array are read back one by one; the fuel pays for every character twice. -/
theorem parse_writeItems (items : List Value) (each : ∀ item ∈ items, item.Valid) (some_item : items ≠ []) (fuel : Nat)
    (rest : List Char) (enough : 2 * (writeItems items).length + 1 ≤ fuel) :
    ∃ same, parseItems fuel (writeItems items ++ ']' :: rest) = some (same, rest) ∧ same ≠ [] ∧
      writeItems same = writeItems items := by
  obtain ⟨steps, rfl⟩ : ∃ steps, fuel = steps + 1 := ⟨fuel - 1, by omega⟩
  match items with
  | [] => exact absurd rfl some_item
  | item :: others =>
    obtain ⟨valid, each_other⟩ := List.forall_mem_cons.mp each
    by_cases last : others = []
    · have text : writeItems (item :: others) = write item := by rw [last, writeItems]
      rw [text] at enough ⊢
      obtain ⟨same, read, written⟩ := parse_write item valid steps (']' :: rest) (by omega) fun c first => by
        cases first
        exact Or.inr (Or.inl rfl)
      have closed : behind ']' (']' :: rest) = some rest := behind_self rfl rest
      refine ⟨[same], ?_, List.cons_ne_nil _ _, written⟩
      simp only [parseItems, read, closed]
    · have text := writeItems_cons last item
      have joined : writeItems (item :: others) ++ ']' :: rest =
          write item ++ ',' :: (writeItems others ++ ']' :: rest) := by
        rw [text, List.append_assoc, List.cons_append]
      have size : (writeItems (item :: others)).length = (write item).length + ((writeItems others).length + 1) := by
        rw [text, List.length_append, List.length_cons]
      have ends : Ends (',' :: (writeItems others ++ ']' :: rest)) := fun c first => by
        cases first
        exact Or.inl rfl
      obtain ⟨same, read, written⟩ := parse_write item valid steps _ (by omega) ends
      obtain ⟨more, read_more, some_more, written_more⟩ :=
        parse_writeItems others each_other last steps rest (by omega)
      have unclosed : behind ']' (',' :: (writeItems others ++ ']' :: rest)) = none := behind_other rfl (by decide) _
      have comma : behind ',' (',' :: (writeItems others ++ ']' :: rest)) = some (writeItems others ++ ']' :: rest) :=
        behind_self rfl _
      refine ⟨same :: more, ?_, List.cons_ne_nil _ _, ?_⟩
      · rw [joined]
        simp only [parseItems, read, unclosed, comma, read_more, Option.map_some]
      · rw [writeItems_cons some_more, text, written, written_more]

/-- So are the fields of an object, where no name is read that has been read before. -/
theorem parse_writeFields (fields : List (List CodeUnit × Value)) (each : ∀ field ∈ fields, field.2.Valid)
    (some_field : fields ≠ []) (before : List (List CodeUnit × Value))
    (ordered : Ordered (before.map Prod.fst ++ fields.map Prod.fst)) (fuel : Nat) (rest : List Char)
    (enough : 2 * (writeFields fields).length + 1 ≤ fuel) :
    ∃ same, parseMembers fuel before (writeFields fields ++ '}' :: rest) = some (before ++ same, rest) ∧ same ≠ [] ∧
      writeFields same = writeFields fields := by
  obtain ⟨steps, rfl⟩ : ∃ steps, fuel = steps + 1 := ⟨fuel - 1, by omega⟩
  match fields with
  | [] => exact absurd rfl some_field
  | (name, value) :: others =>
    obtain ⟨valid, each_other⟩ := List.forall_mem_cons.mp each
    rw [List.map_cons] at ordered
    have next : Ordered (before.map Prod.fst ++ [name]) := by
      refine ⟨ordered.1.sublist ?_, ordered.2.sublist ?_⟩
      all_goals exact List.Sublist.append_left (List.singleton_sublist.mpr List.mem_cons_self) _
    by_cases last : others = []
    · have text : writeFields ((name, value) :: others) = quote name ++ ':' :: write value := by rw [last, writeFields]
      have joined : writeFields ((name, value) :: others) ++ '}' :: rest =
          quote name ++ ':' :: (write value ++ '}' :: rest) := by
        rw [text, List.append_assoc, List.cons_append]
      have size : (write value).length < (writeFields ((name, value) :: others)).length := by
        rw [text, List.length_append, List.length_cons]
        omega
      obtain ⟨same, read, written⟩ := parse_write value valid steps ('}' :: rest) (by omega) fun c first => by
        cases first
        exact Or.inr (Or.inr (Or.inl rfl))
      have closed : behind '}' ('}' :: rest) = some rest := behind_self rfl rest
      refine ⟨[(name, same)], ?_, List.cons_ne_nil _ _, ?_⟩
      · rw [joined]
        simp only [parseMembers, parseName_quote, read, closed, setProperty_last next]
      · rw [text, writeFields, written]
    · have text := writeFields_cons last name value
      have joined : writeFields ((name, value) :: others) ++ '}' :: rest =
          quote name ++ ':' :: (write value ++ ',' :: (writeFields others ++ '}' :: rest)) := by
        rw [text, List.append_assoc, List.cons_append, List.append_assoc, List.cons_append]
      have size : (write value).length + (writeFields others).length <
          (writeFields ((name, value) :: others)).length := by
        rw [text, List.length_append, List.length_cons, List.length_append, List.length_cons]
        omega
      have ends : Ends (',' :: (writeFields others ++ '}' :: rest)) := fun c first => by
        cases first
        exact Or.inl rfl
      obtain ⟨same, read, written⟩ := parse_write value valid steps _ (by omega) ends
      have further : Ordered ((before ++ [(name, same)]).map Prod.fst ++ others.map Prod.fst) := by
        rw [List.map_append, List.map_singleton, List.append_assoc]
        exact ordered
      obtain ⟨more, read_more, some_more, written_more⟩ :=
        parse_writeFields others each_other last (before ++ [(name, same)]) further steps rest (by omega)
      have unclosed : behind '}' (',' :: (writeFields others ++ '}' :: rest)) = none := behind_other rfl (by decide) _
      have comma : behind ',' (',' :: (writeFields others ++ '}' :: rest)) = some (writeFields others ++ '}' :: rest) :=
        behind_self rfl _
      refine ⟨(name, same) :: more, ?_, List.cons_ne_nil _ _, ?_⟩
      · rw [joined]
        simp only [parseMembers, parseName_quote, read, unclosed, comma, setProperty_last next, read_more,
          List.append_assoc, List.singleton_append]
      · rw [writeFields_cons some_more, text, written, written_more]

end

/-- What was written is read as it was, whatever white space follows. -/
theorem parse_stringify_append (valid : value.Valid) {spaces : List Char} (blank : ∀ c ∈ spaces, isSpace c = true) :
    ∃ same, parse (stringify value ++ String.ofList spaces) = some same ∧ stringify same = stringify value := by
  have ends : Ends spaces := fun c first => Or.inr (Or.inr (Or.inr (blank c (List.mem_of_mem_head? first))))
  obtain ⟨same, read, written⟩ := parse_write value valid _ spaces (Nat.le_refl _) ends
  have text : (stringify value ++ String.ofList spaces).toList = write value ++ spaces := by
    rw [String.toList_append, stringify, String.toList_ofList, String.toList_ofList]
  refine ⟨same, ?_, by rw [stringify, stringify, written]⟩
  exact parse_of_fuel (text.symm ▸ read) (List.dropWhile_eq_nil_iff.mpr blank)

/-- A value that was parsed is written the same after it is written and parsed again. -/
theorem parse_stringify (valid : value.Valid) :
    ∃ same, parse (stringify value) = some same ∧ stringify same = stringify value := by
  have nothing : ∀ c ∈ ([] : List Char), isSpace c = true := fun _ member => absurd member List.not_mem_nil
  have read := parse_stringify_append valid nothing
  rw [String.ofList_nil, String.append_empty] at read
  exact read

/-- A text is written again as it was exactly if it is what is written for some value. -/
theorem stringify_parse_iff {text : String} (parsed : parse text = some value) :
    stringify value = text ↔ ∃ written : Value, written.Valid ∧ stringify written = text := by
  constructor
  · exact fun same => ⟨value, parse_valid parsed, same⟩
  · rintro ⟨written, valid, rfl⟩
    obtain ⟨same, read, again⟩ := parse_stringify valid
    cases read.symm.trans parsed
    exact again

end Writing

end JsonText
