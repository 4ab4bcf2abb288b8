import WorkloadGovernor.ServiceListings
import WorkloadGovernor.Lib.TaggedKey

namespace WorkloadGovernor

namespace ServiceListings
open TaggedKey

section Keys
variable {filter other : IssueFilter}

def keyTags : List String := ["org_", "label_", "status_", "page_", "size_", "search_"]

/-- What a key is made from. -/
def keyValues (filter : IssueFilter) : List (Option String) :=
  [Js.truthy filter.org_id, Js.truthy filter.label, filter.status.map StatusFilter.text,
    (truthyNumber filter.page).map Int.repr, (truthyNumber filter.page_size).map Int.repr, Js.truthy filter.search]

theorem toList_buildCacheKey (filter : IssueFilter) :
    (buildCacheKey filter).toList = "issues".toList ++ key ':' keyTags (keyValues filter) := by
  have status : filter.status.map ("status_" ++ ·.text) = (filter.status.map StatusFilter.text).map ("status_" ++ ·) := by
    rw [Option.map_map]
    rfl
  have page : (truthyNumber filter.page).map ("page_" ++ ·.repr) =
      ((truthyNumber filter.page).map Int.repr).map ("page_" ++ ·) := by
    rw [Option.map_map]
    rfl
  have size : (truthyNumber filter.page_size).map ("size_" ++ ·.repr) =
      ((truthyNumber filter.page_size).map Int.repr).map ("size_" ++ ·) := by
    rw [Option.map_map]
    rfl
  have colon : ":".toList = [':'] := rfl
  rw [buildCacheKey, status, page, size]
  simp only [List.append_assoc, List.cons_append, List.nil_append, toList_intercalate colon, List.flatMap_append,
    flatMap_part, keyTags, keyValues, key, List.append_nil]

theorem buildCacheKey_eq_iff :
    buildCacheKey other = buildCacheKey filter ↔
      key ':' keyTags (keyValues other) = key ':' keyTags (keyValues filter) := by
  rw [← String.toList_inj, toList_buildCacheKey, toList_buildCacheKey, List.append_cancel_left_eq]

theorem repr_plain (number : Int) : ':' ∉ number.repr.toList := by
  have digits : ∀ value : Nat, ':' ∉ Nat.toDigits 10 value := fun value member =>
    absurd (Nat.isDigit_of_mem_toDigits (by decide) (by decide) member) (by decide)
  rw [Int.repr_eq_if]
  split
  · rw [Nat.toList_repr]
    exact digits _
  · rw [String.toList_append, Nat.toList_repr, List.mem_append]
    rintro (sign | digit)
    · exact absurd sign (by decide)
    · exact digits _ digit

theorem repr_injective : Function.Injective Int.repr := by
  intro a b same
  have read := congrArg Js.parseInt same
  rw [Js.parseInt_repr, Js.parseInt_repr] at read
  exact Option.some.inj read

theorem text_plain (status : StatusFilter) : ':' ∉ status.text.toList := by
  cases status <;> decide

theorem text_injective : Function.Injective StatusFilter.text := by
  intro a b
  cases a <;> cases b <;> decide

theorem plain_map {α : Type} {spell : α → String} (each : ∀ a, ':' ∉ (spell a).toList) (value : Option α) :
    Plain ':' (value.map spell) := by
  intro text member
  obtain ⟨a, _, rfl⟩ := Option.map_eq_some_iff.mp member
  exact each a

/-- Keys without a colon in organisation and label tell what they are made from. -/
theorem keyValues_inj (org : Plain ':' (Js.truthy filter.org_id)) (label : Plain ':' (Js.truthy filter.label))
    (org' : Plain ':' (Js.truthy other.org_id)) (label' : Plain ':' (Js.truthy other.label))
    (same : buildCacheKey other = buildCacheKey filter) : keyValues other = keyValues filter := by
  have plain : ∀ {own : IssueFilter}, Plain ':' (Js.truthy own.org_id) → Plain ':' (Js.truthy own.label) →
      ∀ value ∈ (keyValues own).dropLast, Plain ':' value := by
    intro own org label
    simp only [keyValues, List.dropLast_cons_cons, List.forall_mem_cons, List.dropLast_singleton]
    exact ⟨org, label, plain_map text_plain _, plain_map repr_plain _, plain_map repr_plain _, by simp⟩
  exact key_inj (by decide) rfl rfl (plain org' label') (plain org label) (buildCacheKey_eq_iff.mp same)

/-- A key without organisation and label is not the key of a filter that has one. -/
theorem absent_of_key_eq (no_org : Js.truthy filter.org_id = none) (no_label : Js.truthy filter.label = none)
    (same : buildCacheKey other = buildCacheKey filter) :
    Js.truthy other.org_id = none ∧ Js.truthy other.label = none := by
  have keys := buildCacheKey_eq_iff.mp same
  have without : key ':' keyTags (keyValues filter) = key ':' (keyTags.drop 2) ((keyValues filter).drop 2) := by
    simp only [keyTags, keyValues, no_org, no_label, key, part, List.nil_append, List.drop_succ_cons, List.drop_zero]
  rw [without] at keys
  obtain ⟨org, keys⟩ := part_absent (apart_key (by decide) _) keys
  obtain ⟨label, _⟩ := part_absent (apart_key (by decide) _) keys
  exact ⟨org, label⟩

theorem keyValues_eq (no_org : Js.truthy filter.org_id = none) (no_label : Js.truthy filter.label = none)
    (same : buildCacheKey other = buildCacheKey filter) : keyValues other = keyValues filter := by
  obtain ⟨org, label⟩ := absent_of_key_eq no_org no_label same
  have plain_none : Plain ':' none := by simp [Plain]
  exact keyValues_inj (no_org ▸ plain_none) (no_label ▸ plain_none) (org ▸ plain_none) (label ▸ plain_none) same

end Keys

section Results
variable {ρ α : Type} {db : Database} {time : ρ → Nat} {process : ρ → α} {rows : List ρ} {filter other : IssueFilter}
  {tables : IssueTables}

theorem listing_of_neg {most page pageSize : Int} (refused : min pageSize most < 0 ∨ (page - 1) * pageSize < 0) :
    listing db time most process rows page pageSize = .error db.refusal := by
  simp only [listing, db.limitOffset_refused _ refused]

theorem listing_isOk {most page pageSize : Int} (limit : 0 ≤ min pageSize most) (offset : 0 ≤ (page - 1) * pageSize) :
    ∃ result, listing db time most process rows page pageSize = .ok result := by
  obtain ⟨size, sized⟩ := Int.eq_ofNat_of_zero_le limit
  obtain ⟨skipped, from_there⟩ := Int.eq_ofNat_of_zero_le offset
  simp only [listing, sized, from_there, db.limitOffset_eq]
  exact ⟨_, rfl⟩

/-- What a listing says of itself if it is not refused. -/
theorem listing_ok {most page pageSize : Int} {result : PaginatedResult α}
    (given : listing db time most process rows page pageSize = .ok result) :
    result.total = rows.length ∧ result.page = page ∧ result.pageSize = min pageSize most := by
  simp only [listing, db.count_eq] at given
  split at given
  · cases given
  · obtain rfl := Except.ok.inj given
    exact ⟨rfl, rfl, rfl⟩

theorem fields_of_keyValues (same : keyValues other = keyValues filter) :
    Js.truthy other.org_id = Js.truthy filter.org_id ∧ Js.truthy other.label = Js.truthy filter.label ∧
      other.status = filter.status ∧ truthyNumber other.page = truthyNumber filter.page ∧
      truthyNumber other.page_size = truthyNumber filter.page_size ∧
      Js.truthy other.search = Js.truthy filter.search := by
  simp only [keyValues, List.cons.injEq, and_true] at same
  obtain ⟨org, label, status, page, size, search⟩ := same
  exact ⟨org, label, Option.map_injective text_injective status, Option.map_injective repr_injective page,
    Option.map_injective repr_injective size, search⟩

theorem matching_congr (same : keyValues other = keyValues filter) :
    matching db tables other = matching db tables filter := by
  obtain ⟨org, label, status, _, _, search⟩ := fields_of_keyValues same
  have conditions : issueMatches db other = issueMatches db filter := by
    funext row
    rw [issueMatches, issueMatches, org, label, status, search]
  rw [matching, matching, conditions]

theorem eq_of_truthyNumber {number : Option Int} {value : Int} (given : truthyNumber number = some value) :
    number = some value := (Option.filter_eq_some_iff.mp given).1

/-- The default size and 0 have the same key, and pages of 20 rows or none. -/
theorem default_size_ne_zero (filter : IssueFilter) :
    getIssues db (fun _ => none) tables { filter with page_size := none } ≠
      getIssues db (fun _ => none) tables { filter with page_size := some 0 } := by
  intro same
  obtain ⟨result, given⟩ : ∃ result,
      getIssues db (fun _ => none) tables { filter with page_size := some 0 } = .ok result :=
    listing_isOk (by simp [maxPageSize]) (by simp)
  have zero : result.pageSize = min 0 maxPageSize := (listing_ok given).2.2
  have twenty : result.pageSize = min defaultPageSize maxPageSize := (listing_ok (same.trans given)).2.2
  rw [zero] at twenty
  exact absurd twenty (by decide)

/-- The default page and 0 have the same key, and only the first is given. -/
theorem default_page_ne_zero {size : Int} (positive : 0 < size) (sized : filter.page_size = some size) :
    getIssues db (fun _ => none) tables { filter with page := none } ≠
      getIssues db (fun _ => none) tables { filter with page := some 0 } := by
  have refused : getIssues db (fun _ => none) tables { filter with page := some 0 } = .error db.refusal := by
    refine listing_of_neg (Or.inr ?_)
    simp only [sized, Option.getD_some]
    omega
  obtain ⟨result, given⟩ : ∃ result, getIssues db (fun _ => none) tables { filter with page := none } = .ok result := by
    refine listing_isOk ?_ (by simp)
    simp only [sized, Option.getD_some, maxPageSize]
    omega
  rw [refused, given]
  simp

/-- An issue that can be applied for. -/
def freeIssue (org_id : String) (labels : List String) : IssueRecord :=
  ⟨"1", org_id, "", 1, "", some labels, "open", some 1, 0, 0⟩

def oneIssue (org_id : String) (labels : List String) : IssueTables := ⟨[freeIssue org_id labels], [], []⟩

theorem length_matching_oneIssue (filter : IssueFilter) (org_id : String) (labels : List String) :
    (matching db (oneIssue org_id labels) filter).length =
      if issueMatches db filter ⟨freeIssue org_id labels, 0, none⟩ then 1 else 0 := by
  have row : joined (oneIssue org_id labels) = [⟨freeIssue org_id labels, 0, none⟩] := rfl
  rw [matching, row, List.filter_cons]
  split <;> rfl

/-- Two filters are told apart by an issue that only one of them matches. -/
theorem getIssues_ne {org_id : String} {labels : List String} (default_page : other.page = none)
    (default_size : other.page_size = none)
    (theirs : issueMatches db other ⟨freeIssue org_id labels, 0, none⟩ = true)
    (ours : issueMatches db filter ⟨freeIssue org_id labels, 0, none⟩ = false) :
    getIssues db (fun _ => none) (oneIssue org_id labels) other ≠
      getIssues db (fun _ => none) (oneIssue org_id labels) filter := by
  intro same
  obtain ⟨result, given⟩ : ∃ result, getIssues db (fun _ => none) (oneIssue org_id labels) other = .ok result := by
    rw [getIssues_uncached, default_page, default_size]
    exact listing_isOk (by decide) (by simp)
  have given' := same.symm.trans given
  rw [getIssues_uncached] at given given'
  have their_total : result.total = (matching db (oneIssue org_id labels) other).length := (listing_ok given).1
  have our_total : result.total = (matching db (oneIssue org_id labels) filter).length :=
    (listing_ok given').1
  rw [length_matching_oneIssue, theirs, if_pos rfl] at their_total
  rw [length_matching_oneIssue, ours, if_neg Bool.false_ne_true] at our_total
  omega

theorem longer_ne {text : String} {rest : List Char} (more : rest ≠ []) : text ++ String.ofList rest ≠ text := by
  intro same
  have lengths := congrArg (fun whole => whole.toList.length) same
  have some_there := List.length_pos_iff.mpr more
  simp only [String.toList_append, String.toList_ofList, List.length_append] at lengths
  omega

theorem truthy_append {text : String} {given : Option String} (truthy : Js.truthy given = some text) (rest : String) :
    Js.truthy (some (text ++ rest)) = some (text ++ rest) := by
  have nonempty : text ≠ "" := by simpa using (Option.filter_eq_some_iff.mp truthy).2
  refine Option.filter_eq_some_iff.mpr ⟨rfl, ?_⟩
  simpa [String.append_eq_empty_iff] using Or.inl nonempty

/-- Some filter with the same key is to be given something else. -/
def Collides (db : Database) (filter : IssueFilter) : Prop :=
  ∃ other, buildCacheKey other = buildCacheKey filter ∧
    ∃ tables, getIssues db (fun _ => none) tables other ≠ getIssues db (fun _ => none) tables filter

theorem not_collides_iff : ¬ Collides db filter ↔ ∀ other, buildCacheKey other = buildCacheKey filter →
    ∀ tables, getIssues db (fun _ => none) tables other = getIssues db (fun _ => none) tables filter := by
  simp only [Collides, not_exists, not_and, ne_eq, not_not]

/-- Of two filters with the key that are given different results, one collides. -/
theorem collides_of_ne {first second : IssueFilter} (key_first : buildCacheKey first = buildCacheKey filter)
    (key_second : buildCacheKey second = buildCacheKey filter)
    (differ : getIssues db (fun _ => none) tables first ≠ getIssues db (fun _ => none) tables second) :
    Collides db filter := by
  by_cases same : getIssues db (fun _ => none) tables first = getIssues db (fun _ => none) tables filter
  · exact ⟨second, key_second, tables, fun equal => differ (same.trans equal.symm)⟩
  · exact ⟨first, key_first, tables, same⟩

theorem size_collides (missing : truthyNumber filter.page_size = none) : Collides db filter := by
  have same_key : ∀ size, truthyNumber size = none →
      buildCacheKey { filter with page_size := size } = buildCacheKey filter := by
    intro size absent
    rw [buildCacheKey_eq_iff, keyValues, keyValues, missing, absent]
  exact collides_of_ne (same_key none rfl) (same_key (some 0) rfl) (@default_size_ne_zero db ⟨[], [], []⟩ filter)

theorem page_collides {size : Int} (sized : filter.page_size = some size) (positive : 0 < size)
    (missing : truthyNumber filter.page = none) : Collides db filter := by
  have same_key : ∀ page, truthyNumber page = none →
      buildCacheKey { filter with page := page } = buildCacheKey filter := by
    intro page absent
    rw [buildCacheKey_eq_iff, keyValues, keyValues, missing, absent]
  exact collides_of_ne (same_key none rfl) (same_key (some 0) rfl)
    (@default_page_ne_zero db filter ⟨[], [], []⟩ size positive sized)

/-- What comes after the organisation in a key can be part of the organisation. -/
theorem org_collides {org : String} (given : Js.truthy filter.org_id = some org)
    (sized : truthyNumber filter.page_size ≠ none) : Collides db filter := by
  obtain ⟨size, sized⟩ := Option.ne_none_iff_exists'.mp sized
  have follows : some size.repr ∈ (keyValues filter).drop 1 := by simp [keyValues, sized]
  have more : key ':' (keyTags.drop 1) ((keyValues filter).drop 1) ≠ [] := key_ne_nil _ (Nat.le_refl 5) follows
  have keys : key ':' keyTags (keyValues filter) =
      part ':' "org_" (some org) ++ key ':' (keyTags.drop 1) ((keyValues filter).drop 1) := by
    rw [← given]
    rfl
  generalize key ':' (keyTags.drop 1) ((keyValues filter).drop 1) = rest at more keys
  have whole := truthy_append given (String.ofList rest)
  refine ⟨⟨some (org ++ String.ofList rest), none, none, none, none, none⟩, ?_,
    oneIssue (org ++ String.ofList rest) [], getIssues_ne rfl rfl ?_ ?_⟩
  · rw [buildCacheKey_eq_iff, keys, part_append, keyValues, whole]
    simp [keyTags, key, part, truthyNumber, Js.truthy]
  · have absent : Js.truthy none = none := rfl
    simp [issueMatches, whole, absent, statusMatches, freeIssue]
  · simp [issueMatches, given, freeIssue, longer_ne more]

/-- So it is with what comes after the label. -/
theorem label_collides {label : String} (no_org : Js.truthy filter.org_id = none)
    (given : Js.truthy filter.label = some label) (sized : truthyNumber filter.page_size ≠ none) :
    Collides db filter := by
  obtain ⟨size, sized⟩ := Option.ne_none_iff_exists'.mp sized
  have follows : some size.repr ∈ (keyValues filter).drop 2 := by simp [keyValues, sized]
  have more : key ':' (keyTags.drop 2) ((keyValues filter).drop 2) ≠ [] := key_ne_nil _ (Nat.le_refl 4) follows
  have keys : key ':' keyTags (keyValues filter) =
      part ':' "label_" (some label) ++ key ':' (keyTags.drop 2) ((keyValues filter).drop 2) := by
    have values : keyValues filter = none :: some label :: (keyValues filter).drop 2 := by
      rw [keyValues, no_org, given]
      rfl
    rw [values]
    rfl
  generalize key ':' (keyTags.drop 2) ((keyValues filter).drop 2) = rest at more keys
  have whole := truthy_append given (String.ofList rest)
  refine ⟨⟨none, some (label ++ String.ofList rest), none, none, none, none⟩, ?_,
    oneIssue "" [label ++ String.ofList rest], getIssues_ne rfl rfl ?_ ?_⟩
  · rw [buildCacheKey_eq_iff, keys, part_append, keyValues, whole]
    simp [keyTags, key, part, truthyNumber, Js.truthy]
  · have absent : Js.truthy none = none := rfl
    simp [issueMatches, whole, absent, statusMatches, freeIssue]
  · simp [issueMatches, given, freeIssue, (longer_ne more).symm]

/-- With no organisation and no label in it, and both numbers, the key says all that the query depends on. -/
theorem agrees_of_plain {size : Int} (no_org : Js.truthy filter.org_id = none) (no_label : Js.truthy filter.label = none)
    (given : truthyNumber filter.page_size = some size) (sign : size < 0 ∨ truthyNumber filter.page ≠ none)
    (same_key : buildCacheKey other = buildCacheKey filter) :
    getIssues db (fun _ => none) tables other = getIssues db (fun _ => none) tables filter := by
  have same := keyValues_eq no_org no_label same_key
  obtain ⟨_, _, _, page, page_size, _⟩ := fields_of_keyValues same
  have sized := eq_of_truthyNumber given
  have sized' := eq_of_truthyNumber (page_size.trans given)
  rw [getIssues_uncached, getIssues_uncached, matching_congr same, sized, sized', Option.getD_some]
  rcases sign with negative | paged
  · have refused : min size maxPageSize < 0 := by
      rw [maxPageSize]
      omega
    rw [listing_of_neg (Or.inl refused), listing_of_neg (Or.inl refused)]
  · obtain ⟨number, given_page⟩ := Option.ne_none_iff_exists'.mp paged
    rw [eq_of_truthyNumber given_page, eq_of_truthyNumber (page.trans given_page)]

/-- Every filter with the key of this one is given the same, whatever the tables hold, just when this one names no
organisation and no label, and gives a page size and a page other than 0; with a negative page size the page does not
matter. -/
theorem equal_keys_agree_iff (db : Database) (filter : IssueFilter) :
    (∀ other, buildCacheKey other = buildCacheKey filter → ∀ tables,
      getIssues db (fun _ => none) tables other = getIssues db (fun _ => none) tables filter) ↔
    Js.truthy filter.org_id = none ∧ Js.truthy filter.label = none ∧
      ∃ size ∈ truthyNumber filter.page_size, size < 0 ∨ truthyNumber filter.page ≠ none := by
  constructor
  · intro agree
    have agrees := not_collides_iff.mpr agree
    have sized : truthyNumber filter.page_size ≠ none := fun missing => agrees (size_collides missing)
    have no_org : Js.truthy filter.org_id = none := by
      by_contra named
      obtain ⟨org, given⟩ := Option.ne_none_iff_exists'.mp named
      exact agrees (org_collides given sized)
    have no_label : Js.truthy filter.label = none := by
      by_contra named
      obtain ⟨label, given⟩ := Option.ne_none_iff_exists'.mp named
      exact agrees (label_collides no_org given sized)
    obtain ⟨size, given⟩ := Option.ne_none_iff_exists'.mp sized
    refine ⟨no_org, no_label, size, given, ?_⟩
    by_contra neither
    obtain ⟨nonneg, missing⟩ := not_or.mp neither
    have not_zero : size ≠ 0 := by simpa using (Option.filter_eq_some_iff.mp given).2
    exact agrees (page_collides (eq_of_truthyNumber given) (by omega) (not_not.mp missing))
  · rintro ⟨no_org, no_label, size, given, sign⟩ other same_key tables
    exact agrees_of_plain no_org no_label given sign same_key

/-- What was kept for a filter with the key is what the query for this one gives. -/
theorem hit_agrees {cached : String → Option (PaginatedResult Issue)}
    (kept : ∀ key result, cached key = some result → ∃ other, buildCacheKey other = key ∧
      getIssues db (fun _ => none) tables other = .ok result)
    (agree : ∀ other, buildCacheKey other = buildCacheKey filter →
      getIssues db (fun _ => none) tables other = getIssues db (fun _ => none) tables filter) :
    getIssues db cached tables filter = getIssues db (fun _ => none) tables filter := by
  cases hit : cached (buildCacheKey filter) with
  | none => simp only [getIssues, hit]
  | some result =>
    obtain ⟨other, same_key, given⟩ := kept _ result hit
    rw [← agree other same_key, given]
    simp only [getIssues, hit]

/-- Organisation `a` with label `b`, and organisation `a:label_b`. -/
theorem label_taken_for_org :
    buildCacheKey ⟨some "a", some "b", none, none, none, none⟩ =
        buildCacheKey ⟨some "a:label_b", none, none, none, none, none⟩ ∧
      getIssues latestFirst (fun _ => none) (oneIssue "a" ["b"]) ⟨some "a", some "b", none, none, none, none⟩ =
        .ok ⟨[processIssue ⟨freeIssue "a" ["b"], 0, none⟩], 1, 1, 20, some 1⟩ ∧
      getIssues latestFirst (fun _ => none) (oneIssue "a" ["b"]) ⟨some "a:label_b", none, none, none, none, none⟩ =
        .ok ⟨[], 0, 1, 20, some 0⟩ := by
  exact ⟨by decide, rfl, rfl⟩

end Results

end ServiceListings

end WorkloadGovernor
