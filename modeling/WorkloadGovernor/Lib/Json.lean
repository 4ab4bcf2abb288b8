import WorkloadGovernor.Lib.Js

namespace Js

/-- What `JSON.parse` gives. Of a number only a whole value is kept. -/
inductive Json where
  | null
  | bool (value : Bool)
  | number (whole : Option Int)
  | string (text : String)
  | array (items : List Json)
  | object (fields : List (String × Json))

namespace Json

/-- What an object has under a name. -/
def field (value : Json) (name : String) : Option Json :=
  match value with
  | .object fields => fields.lookup name
  | _ => none

/-- `value[name]`, which throws on `null` only; `some none` is `undefined`. -/
def property (value : Json) (name : String) : Option (Option Json) :=
  match value with
  | .null => none
  | _ => some (value.field name)

end Json

/-- A value that is a text. -/
def asText : Option Json → Option String
  | some (.string text) => some text
  | _ => none

theorem asText_eq_some {value : Option Json} {text : String} : asText value = some text ↔ value = some (.string text) := by
  constructor
  · intro read
    match value with
    | some (.string own) =>
      cases read
      rfl
  · rintro rfl
    rfl

/-- `text.length`, in units of UTF-16. -/
def utf16Length (text : String) : Nat :=
  text.toList.foldl (fun units c => units + if c.toNat < 0x10000 then 1 else 2) 0

theorem utf16Length_pos {text : String} (more : text ≠ "") : 1 ≤ utf16Length text := by
  have least (chars : List Char) (units : Nat) :
      units ≤ chars.foldl (fun units c => units + if c.toNat < 0x10000 then 1 else 2) units := by
    induction chars generalizing units with
    | nil => exact le_rfl
    | cons c rest ih => exact (Nat.le_add_right units _).trans (ih _)
  obtain ⟨c, rest, chars⟩ := List.exists_cons_of_ne_nil (String.toList_eq_nil_iff.not.mpr more)
  have first : 1 ≤ 0 + if c.toNat < 0x10000 then 1 else 2 := by split <;> decide
  rw [utf16Length, chars]
  exact first.trans (least rest _)

/-- `z.string().min(least).max(most)`. -/
def zodString (least : Nat) (most : Option Nat) : Option Json → Option String
  | some (.string text) =>
    if least ≤ utf16Length text ∧ (most.all fun bound => utf16Length text ≤ bound) then some text else none
  | _ => none

/-- `schema.optional()`: a value that is not there is accepted, as `none`. -/
def zodOptional {α : Type} (schema : Option Json → Option α) : Option Json → Option (Option α)
  | none => some none
  | some value => (schema (some value)).map some

/-- `z.array(schema).min(least).max(most)`. -/
def zodArray {α : Type} (schema : Option Json → Option α) (least most : Nat) : Option Json → Option (List α)
  | some (.array items) =>
    if least ≤ items.length ∧ items.length ≤ most then items.mapM fun item => schema (some item) else none
  | _ => none

/-- `z.number().int().min(least).max(most)`. -/
def zodInt (least most : Int) : Option Json → Option Int
  | some (.number (some value)) => if least ≤ value ∧ value ≤ most then some value else none
  | _ => none

/-- `z.number().int().positive()`. -/
def zodPositiveInt : Option Json → Option Int
  | some (.number (some value)) => if 0 < value then some value else none
  | _ => none

theorem zodPositiveInt_eq_some {value : Option Json} {whole : Int} (accepted : zodPositiveInt value = some whole) :
    0 < whole := by
  unfold zodPositiveInt at accepted
  split at accepted
  · obtain ⟨positive, same⟩ := Option.ite_none_right_eq_some.mp accepted
    cases same
    exact positive
  · cases accepted

theorem zodString_eq_some {least : Nat} {most : Option Nat} {value : Option Json} {text : String}
    (accepted : zodString least most value = some text) : least ≤ utf16Length text := by
  unfold zodString at accepted
  split at accepted
  · obtain ⟨length, same⟩ := Option.ite_none_right_eq_some.mp accepted
    cases same
    exact length.1
  · cases accepted

end Js
