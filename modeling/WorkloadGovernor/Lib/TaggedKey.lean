import Mathlib.Data.List.Infix
import Mathlib.Data.List.TakeWhile
import Mathlib.Data.List.Pairwise

namespace TaggedKey
variable {sep : Char} {tag : String} {value value' : Option String} {tags : List String}
  {values values' : List (Option String)}
  {rest rest' : List Char}

/-- What a part adds to a key: nothing if its value is not there. -/
def part (sep : Char) (tag : String) : Option String → List Char
  | none => []
  | some text => sep :: (tag.toList ++ text.toList)

/-- Tagged values one after the other, those left out that are not there. -/
def key (sep : Char) : List String → List (Option String) → List Char
  | tag :: tags, value :: values => part sep tag value ++ key sep tags values
  | _, _ => []

/-- Neither tag begins with the other. -/
def Differ (tag tag' : String) : Prop := ¬ tag.toList <+: tag'.toList ∧ ¬ tag'.toList <+: tag.toList

instance (tag tag' : String) : Decidable (Differ tag tag') := inferInstanceAs (Decidable (_ ∧ _))

/-- The separator is not in the value. -/
def Plain (sep : Char) (value : Option String) : Prop := ∀ text ∈ value, sep ∉ text.toList

/-- What may come after a plain value. -/
def Closed (sep : Char) (rest : List Char) : Prop := rest = [] ∨ ∃ more, rest = sep :: more

theorem toList_intercalate {separator : String} (single : separator.toList = [sep]) (head : String)
    (parts : List String) : (separator.intercalate (head :: parts)).toList =
      head.toList ++ parts.flatMap fun text => sep :: text.toList := by
  induction parts generalizing head with
  | nil => simp
  | cons text rest ih =>
    rw [String.intercalate_cons_cons, String.toList_append, String.toList_append, ih, List.flatMap_cons, single]
    simp

theorem flatMap_part (tag : String) (value : Option String) :
    ((value.map (tag ++ ·)).toList).flatMap (fun text => sep :: text.toList) = part sep tag value := by
  cases value with
  | none => rfl
  | some text => simp [part, String.toList_append]

theorem closed_key (tags : List String) (values : List (Option String)) : Closed sep (key sep tags values) := by
  induction tags generalizing values with
  | nil => exact Or.inl rfl
  | cons tag tags ih =>
    cases values with
    | nil => exact Or.inl rfl
    | cons value values =>
      cases value with
      | none => exact ih values
      | some text => exact Or.inr ⟨_, rfl⟩

/-- A key of other tags does not begin like a part with this one. -/
theorem apart_key (differ : ∀ tag' ∈ tags, Differ tag tag') (values : List (Option String)) :
    ¬ sep :: tag.toList <+: key sep tags values := by
  induction tags generalizing values with
  | nil => simp [key]
  | cons tag' tags ih =>
    obtain ⟨here, further⟩ := List.forall_mem_cons.mp differ
    cases values with
    | nil => simp [key]
    | cons value values =>
      cases value with
      | none => exact ih further values
      | some text =>
        intro start
        have start : tag.toList <+: tag'.toList ++ text.toList ++ key sep tags values :=
          (List.cons_prefix_cons.mp start).2
        rw [List.append_assoc] at start
        rcases List.prefix_or_prefix_of_prefix start (List.prefix_append _ _) with within | within
        · exact here.1 within
        · exact here.2 within

theorem part_absent (apart : ¬ sep :: tag.toList <+: rest') (same : part sep tag value ++ rest = rest') :
    value = none ∧ rest = rest' := by
  cases value with
  | none => exact ⟨rfl, same⟩
  | some text =>
    refine absurd ⟨text.toList ++ rest, ?_⟩ apart
    rw [← same]
    simp [part]

/-- What follows a value can be taken for the end of the value. -/
theorem part_append (text : String) (rest : List Char) :
    part sep tag (some text) ++ rest = part sep tag (some (text ++ String.ofList rest)) := by
  simp [part, String.toList_append]

theorem key_ne_nil (tags : List String) {text : String} (length : values.length ≤ tags.length)
    (given : some text ∈ values) : key sep tags values ≠ [] := by
  induction values generalizing tags with
  | nil => cases given
  | cons value values ih =>
    cases tags with
    | nil => simp at length
    | cons tag tags =>
      rw [key, ne_eq, List.append_eq_nil_iff, not_and_or]
      rcases List.mem_cons.mp given with rfl | later
      · exact Or.inl (List.cons_ne_nil _ _)
      · exact Or.inr (ih tags (Nat.le_of_succ_le_succ length) later)

theorem takeWhile_append_closed {text : List Char} (plain : sep ∉ text) (closed : Closed sep rest) :
    (text ++ rest).takeWhile (· ≠ sep) = text := by
  have none_left : rest.takeWhile (· ≠ sep) = [] := by
    rcases closed with rfl | ⟨more, rfl⟩
    · rfl
    · exact List.takeWhile_cons_of_neg (by simp)
  have all_of_text : ∀ c ∈ text, decide (c ≠ sep) = true := by
    intro c member
    refine decide_eq_true fun same => plain ?_
    rwa [← same]
  rw [List.takeWhile_append_of_pos all_of_text, none_left, List.append_nil]

theorem part_inj (same : part sep tag value = part sep tag value') : value = value' := by
  cases value with
  | none =>
    cases value' with
    | none => rfl
    | some text' => cases same
  | some text =>
    cases value' with
    | none => cases same
    | some text' =>
      have texts : text.toList = text'.toList := by simpa [part] using same
      rw [String.toList_inj.mp texts]

theorem part_append_inj (plain : Plain sep value) (plain' : Plain sep value') (closed : Closed sep rest)
    (closed' : Closed sep rest') (apart : ¬ sep :: tag.toList <+: rest) (apart' : ¬ sep :: tag.toList <+: rest')
    (same : part sep tag value ++ rest = part sep tag value' ++ rest') : value = value' ∧ rest = rest' := by
  cases value with
  | none =>
    obtain ⟨absent, same⟩ := part_absent apart same.symm
    exact ⟨absent.symm, same.symm⟩
  | some text =>
    cases value' with
    | none => exact part_absent apart' same
    | some text' =>
      have after : text.toList ++ rest = text'.toList ++ rest' := by simpa [part] using same
      have texts := congrArg (List.takeWhile (· ≠ sep)) after
      rw [takeWhile_append_closed (plain text rfl) closed, takeWhile_append_closed (plain' text' rfl) closed'] at texts
      rw [texts] at after
      exact ⟨congrArg some (String.toList_inj.mp texts), List.append_cancel_left after⟩

/-- A key tells its values if only the last may hold a separator. -/
theorem key_inj (differ : tags.Pairwise Differ) (length : values.length = tags.length)
    (length' : values'.length = tags.length) (plain : ∀ value ∈ values.dropLast, Plain sep value)
    (plain' : ∀ value ∈ values'.dropLast, Plain sep value) (same : key sep tags values = key sep tags values') :
    values = values' := by
  induction tags generalizing values values' with
  | nil => rw [List.length_eq_zero_iff.mp length, List.length_eq_zero_iff.mp length']
  | cons tag tags ih =>
    obtain ⟨here, further⟩ := List.pairwise_cons.mp differ
    obtain ⟨value, values, rfl⟩ := List.exists_cons_of_length_eq_add_one length
    obtain ⟨value', values', rfl⟩ := List.exists_cons_of_length_eq_add_one length'
    have length := Nat.succ.inj length
    have length' := Nat.succ.inj length'
    cases tags with
    | nil =>
      rw [List.length_eq_zero_iff.mp length, List.length_eq_zero_iff.mp length'] at same ⊢
      have parts : part sep tag value ++ [] = part sep tag value' ++ [] := same
      rw [List.append_nil, List.append_nil] at parts
      rw [part_inj parts]
    | cons next tags =>
      obtain ⟨second, others, rfl⟩ := List.exists_cons_of_length_eq_add_one length
      obtain ⟨second', others', rfl⟩ := List.exists_cons_of_length_eq_add_one length'
      rw [List.dropLast_cons_cons, List.forall_mem_cons] at plain plain'
      obtain ⟨equal, same⟩ := part_append_inj plain.1 plain'.1 (closed_key _ _) (closed_key _ _) (apart_key here _)
        (apart_key here _) same
      rw [equal, ih further length length' plain.2 plain'.2 same]

end TaggedKey
