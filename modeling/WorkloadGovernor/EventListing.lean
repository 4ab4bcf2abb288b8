import WorkloadGovernor.Lib.Chunks
import WorkloadGovernor.Lib.Number

namespace WorkloadGovernor

namespace EventListing
open Js

section Source

/-- What the query parser makes of a parameter. -/
inductive QueryValue where
  | text (value : String)
  | array (items : List QueryValue)
  | object (fields : List (String × QueryValue))

mutual

/-- `String(value)`, which throws on an object with a `toString` of its own. -/
def QueryValue.spell : QueryValue → Option String
  | .text value => some value
  | .array items => (spellAll items).map (String.intercalate ",")
  | .object fields => if fields.any (·.1 = "toString") then none else some "[object Object]"

def spellAll : List QueryValue → Option (List String)
  | [] => some []
  | item :: rest => (item.spell).bind fun text => (spellAll rest).map (text :: ·)

end

example : (QueryValue.array [.text "2", .text "7"]).spell = some "2,7" := by decide

structure EventQuery where
  org_id : Option QueryValue
  contributor : Option QueryValue
  event_type : Option QueryValue
  start_date : Option QueryValue
  end_date : Option QueryValue
  page : Option QueryValue
  limit : Option QueryValue

structure EventRow where
  id : Nat
  ledger : Nat
  tx_hash : String
  topic : String
  org_id : Option String
  issue_id : Option Int
  contributor : Option String
  created_at : Nat
  deriving DecidableEq, Repr

/-- A parameter of the query; `date` is what `new Date` makes of a value. -/
inductive Param where
  | value (given : QueryValue)
  | date (given : QueryValue)

/-- A value that is there, and is no empty text. -/
def given : Option QueryValue → Option QueryValue
  | some (.text "") => none
  | value => value

/-- The conditions up to their number, and their parameters. -/
def filters (query : EventQuery) : List (String × Param) :=
  ((given query.org_id).map fun value => ("org_id = ", Param.value value)).toList ++
  ((given query.contributor).map fun value => ("contributor = ", Param.value value)).toList ++
  ((given query.event_type).map fun value => ("topic = ", Param.value value)).toList ++
  ((given query.start_date).map fun value => ("created_at >= ", Param.date value)).toList ++
  ((given query.end_date).map fun value => ("created_at <= ", Param.date value)).toList

/-- `WHERE …`. -/
def whereClause (filters : List (String × Param)) : String :=
  if filters = [] then ""
  else "WHERE " ++ String.intercalate " AND " (filters.zipIdx.map fun (filter, i) => filter.1 ++ "$" ++ (i + 1).repr)

/-- What the database has for a `WHERE` clause and its parameters, `ORDER BY ledger DESC, id DESC`, and what it says of a
`LIMIT` and `OFFSET` that are no numbers of rows. A table has less than 2⁴¹ rows. -/
structure EventDb where
  select : String → List Param → Except String (List EventRow)
  refusal : Number → Number → String
  bounded : ∀ clause params rows, select clause params = .ok rows → rows.length < 2 ^ 41

/-- What is taken for a number of rows. -/
def bigint : Number → Option Nat
  | .finite value => if value.den = 1 ∧ 0 ≤ value ∧ value < 2 ^ 63 then some value.num.toNat else none
  | _ => none

structure Pagination where
  total : Number
  page : Number
  limit : Number
  offset : Number
  total_pages : Number
  has_more : Bool

inductive Answer where
  | ok (events : List EventRow) (pagination : Pagination)
  | serverError (message : String)

/-- `parseInt(String(value ?? fallback), 10)`, `none` if `String` throws. -/
def rawNumber (value : Option QueryValue) (fallback : String) : Option Number :=
  ((value.getD (.text fallback)).spell).map Number.parseInt

def effectivePage (rawPage : Number) : Number := rawPage.max (.finite 1)

def effectiveLimit (rawLimit : Number) : Number := (rawLimit.max (.finite 1)).min (.finite 100)

def effectiveOffset (page limit : Number) : Number := (page.sub (.finite 1)).mul limit

/-- `GET /api/events` with the numbers read. -/
def answerPage (db : EventDb) (query : EventQuery) (page limit : Number) : Answer :=
  let offset := effectiveOffset page limit
  match db.select (whereClause (filters query)) ((filters query).map Prod.snd) with
  | .error err => .serverError err
  | .ok rows =>
    let total := Number.parseInt (rows.length : Int).repr
    match bigint limit, bigint offset with
    | some count, some skipped => .ok ((rows.drop skipped).take count) {
        total := total
        page := page
        limit := limit
        offset := offset
        total_pages := (total.div limit).ceil
        has_more := (offset.add limit).lt total }
    | _, _ => .serverError (db.refusal limit offset)

/-- `none` if the handler throws before it answers. -/
def getEvents (db : EventDb) (query : EventQuery) : Option Answer :=
  match rawNumber query.page "1", rawNumber query.limit "20" with
  | some rawPage, some rawLimit => some (answerPage db query (effectivePage rawPage) (effectiveLimit rawLimit))
  | _, _ => none

end Source

section Proofs
variable {db : EventDb} {query : EventQuery} {p l : ℕ}

/-- The limit that is made of a number. -/
def clampLimit (limit : Int) : ℕ := (max 1 (min limit 100)).toNat

theorem clampLimit_bounds (limit : Int) : 1 ≤ clampLimit limit ∧ clampLimit limit ≤ 100 := by
  rw [clampLimit]
  omega

theorem effectivePage_of_lt_one {v : Int} (small : v < 1) : effectivePage (Number.ofRat v) = .finite 1 := by
  have nonpos : (v : ℚ) ≤ 0 := by exact_mod_cast (by omega : v ≤ 0)
  have rounded := Double.nearest_nonpos nonpos
  rw [effectivePage, Number.ofRat]
  split
  · have below : Double.nearest v < 1 := by linarith
    simp [Number.max, Number.lt, below]
  · rename_i overflow
    have negative : (v : ℚ) < 0 := by
      rcases nonpos.lt_or_eq with less | zero
      · exact less
      · exfalso
        rw [zero] at overflow
        exact overflow (by rw [← Nat.cast_zero, Double.nearest_natCast (by norm_num)]; simp)
    simp [Number.max, Number.lt, negative]

theorem effectivePage_natCast (positive : 1 ≤ p) : effectivePage (Number.ofRat p) = Number.ofRat p ∧
    (Number.ofRat p = .infinity false ∨ ∃ k : ℕ, 1 ≤ k ∧ Number.ofRat p = .finite k) := by
  rcases Number.whole_ofRat p with infinite | ⟨k, finite⟩
  · rw [infinite]
    exact ⟨rfl, Or.inl rfl⟩
  · have at_least : 1 ≤ k := Number.le_of_ofRat (by norm_num) positive finite
    rw [finite]
    refine ⟨?_, Or.inr ⟨k, at_least, rfl⟩⟩
    have not_below : ¬ (k : ℚ) < 1 := not_lt.mpr (by exact_mod_cast at_least)
    simp [effectivePage, Number.max, Number.lt, not_below]

theorem effectiveLimit_eq (limit : Int) : effectiveLimit (Number.ofRat limit) = .finite (clampLimit limit) := by
  have clamped : effectiveLimit (Number.ofRat limit) = (effectivePage (Number.ofRat limit)).min (.finite 100) := rfl
  rw [clamped]
  rcases lt_or_ge limit 1 with small | positive
  · have one : clampLimit limit = 1 := by
      rw [clampLimit]
      omega
    rw [effectivePage_of_lt_one small, one]
    simp [Number.min, Number.lt]
  · obtain ⟨n, rfl⟩ := Int.eq_ofNat_of_zero_le (by omega : 0 ≤ limit)
    obtain ⟨same, whole⟩ := effectivePage_natCast (p := n) (by omega)
    rw [Int.cast_natCast, same]
    rcases Nat.lt_or_ge 100 n with large | within
    · have hundred : clampLimit n = 100 := by
        rw [clampLimit]
        omega
      rw [hundred]
      rcases whole with infinite | ⟨k, _, finite⟩
      · rw [infinite]
        rfl
      · have at_least : 100 ≤ k := Number.le_of_ofRat (by norm_num) large.le finite
        rw [finite]
        rcases Nat.lt_or_eq_of_le at_least with above | hundred_exactly
        · have above' : (100 : ℚ) < k := by exact_mod_cast above
          simp [Number.min, Number.lt, above']
        · rw [← hundred_exactly]
          simp [Number.min, Number.lt]
    · have itself : clampLimit n = n := by
        rw [clampLimit]
        omega
      have not_above : ¬ (100 : ℚ) < n := not_lt.mpr (by exact_mod_cast within)
      rw [itself, Number.ofRat_natCast (by omega)]
      simp [Number.min, Number.lt, not_above]

/-- Where the offset is a number, it belongs to the page, or the page is far behind the last row. -/
theorem effectiveOffset_natCast (first : 1 ≤ p) (positive : 1 ≤ l) (within : l ≤ 100) :
    (p ≤ 2 ^ 45 → effectiveOffset (.finite p) (.finite l) = .finite ((p - 1) * l : ℕ)) ∧
      Number.Whole (effectiveOffset (.finite p) (.finite l)) ∧
      (2 ^ 45 < p → ∀ o : ℕ, effectiveOffset (.finite p) (.finite l) = .finite o → 2 ^ 45 ≤ o) := by
  have one : (.finite 1 : Number) = .finite ((1 : ℕ) : ℚ) := by rw [Nat.cast_one]
  rw [effectiveOffset, one, Number.sub_natCast first]
  refine ⟨fun near => ?_, (Number.whole_ofRat (p - 1)).mul positive, fun far o offset => ?_⟩
  · have product : (p - 1) * l ≤ 2 ^ 45 * 100 := Nat.mul_le_mul (by omega) within
    rw [Number.ofRat_natCast (by omega), Number.mul_natCast, Number.ofRat_natCast (by omega)]
  · rcases Number.whole_ofRat (p - 1) with infinite | ⟨k, finite⟩
    · rw [infinite, Number.infinity_mul positive] at offset
      cases offset
    · have large : 2 ^ 45 ≤ k := Number.le_of_ofRat (by norm_num) (by omega) finite
      rw [finite, Number.mul_natCast] at offset
      have product : 2 ^ 45 ≤ k * l := large.trans (Nat.le_mul_of_pos_right k positive)
      exact Number.le_of_ofRat (by norm_num) product offset

def atPage (query : EventQuery) (i : Nat) : EventQuery := { query with page := some (.text (i : Int).repr) }

def eventsOf : Option Answer → Option (List EventRow)
  | some (.ok events _) => some events
  | _ => none

def totalPagesOf : Option Answer → Option Nat
  | some (.ok _ pagination) =>
    match pagination.total_pages with
    | .finite pages => some pages.num.toNat
    | _ => none
  | _ => none

/-- The events of the pages 1 to `total_pages`, as the first page gives it. -/
def allEvents (db : EventDb) (query : EventQuery) : Option (List EventRow) :=
  (totalPagesOf (getEvents db (atPage query 1))).map fun pages =>
    (List.range pages).flatMap fun i => (eventsOf (getEvents db (atPage query (i + 1)))).getD []

/-- What the listing is to guarantee for a query. -/
structure PagedCorrectly (db : EventDb) (query : EventQuery) : Prop where
  numbers : ∃ rawPage rawLimit, rawNumber query.page "1" = some rawPage ∧ rawNumber query.limit "20" = some rawLimit ∧
    ∃ page limit offset : ℕ, 1 ≤ page ∧ 1 ≤ limit ∧ limit ≤ 100 ∧ effectivePage rawPage = .finite page ∧
      effectiveLimit rawLimit = .finite limit ∧
      effectiveOffset (effectivePage rawPage) (effectiveLimit rawLimit) = .finite offset
  partition : ∀ rows, db.select (whereClause (filters query)) ((filters query).map Prod.snd) = .ok rows →
    allEvents db query = some rows
  has_more : ∀ events pagination, getEvents db query = some (.ok events pagination) →
    (pagination.has_more = true ↔ pagination.page.lt pagination.total_pages = true)

/-- `(page - 1) * limit` does not overflow. -/
def Fits (page limit : Int) : Prop :=
  1 ≤ page → effectiveOffset (Number.ofRat page) (.finite (clampLimit limit)) ≠ .infinity false

/-- Both texts begin with a whole number, and the page is not too large. -/
def ReadsPage (query : EventQuery) : Prop :=
  ∃ pageText limitText page limit, (query.page.getD (.text "1")).spell = some pageText ∧
    (query.limit.getD (.text "20")).spell = some limitText ∧ parseInt pageText = some page ∧
    parseInt limitText = some limit ∧ Fits page limit

theorem rawNumber_eq {value : Option QueryValue} {fallback text : String} {n : Int}
    (spelled : (value.getD (.text fallback)).spell = some text) (read : parseInt text = some n) :
    rawNumber value fallback = some (Number.ofRat n) := by
  rw [rawNumber, spelled, Option.map_some, Number.parseInt, read]

theorem read_of_rawNumber {value : Option QueryValue} {fallback : String} {raw : Number}
    (there : rawNumber value fallback = some raw) (number : raw ≠ .nan) : ∃ text n,
      (value.getD (.text fallback)).spell = some text ∧ parseInt text = some n ∧ raw = Number.ofRat n := by
  obtain ⟨text, spelled, rfl⟩ := Option.map_eq_some_iff.mp there
  unfold Number.parseInt at number ⊢
  cases read : parseInt text with
  | none =>
    rw [read] at number
    exact absurd rfl number
  | some n => exact ⟨text, n, spelled, read, rfl⟩

/-- The numbers of a page that is read. -/
theorem numbers_of_fits {page limit : Int} (fits : Fits page limit) : ∃ p o : ℕ, 1 ≤ p ∧
    effectivePage (Number.ofRat page) = .finite p ∧
      effectiveOffset (.finite p) (.finite (clampLimit limit)) = .finite o := by
  obtain ⟨positive, within⟩ := clampLimit_bounds limit
  rcases lt_or_ge page 1 with small | first
  · refine ⟨1, 0, Nat.le_refl 1, by rw [effectivePage_of_lt_one small, Nat.cast_one], ?_⟩
    rw [(effectiveOffset_natCast (Nat.le_refl 1) positive within).1 (by norm_num), Nat.sub_self, Nat.zero_mul]
  · have no_overflow := fits first
    obtain ⟨n, rfl⟩ := Int.eq_ofNat_of_zero_le (by omega : 0 ≤ page)
    obtain ⟨same, whole⟩ := effectivePage_natCast (p := n) (by omega)
    rw [Int.cast_natCast] at no_overflow ⊢
    rw [same]
    rcases whole with infinite | ⟨k, at_least, finite⟩
    · rw [infinite] at no_overflow
      exact absurd (Number.infinity_mul positive) no_overflow
    · rw [finite] at no_overflow ⊢
      rcases (effectiveOffset_natCast at_least positive within).2.1 with infinite | ⟨o, offset⟩
      · exact absurd infinite no_overflow
      · exact ⟨k, o, at_least, rfl, offset⟩

theorem bigint_natCast {n : ℕ} (small : n < 2 ^ 63) : bigint (.finite n) = some n := by
  have bound : (n : ℚ) < 2 ^ 63 := by exact_mod_cast small
  rw [bigint, if_pos ⟨Rat.den_natCast n, Nat.cast_nonneg n, bound⟩, Rat.num_natCast, Int.toNat_natCast]

section Answers
variable {rows : List EventRow} {o : ℕ}

/-- The pagination of an answer. -/
def paginationOf (rows : List EventRow) (p l o : ℕ) : Pagination where
  total := .finite rows.length
  page := .finite p
  limit := .finite l
  offset := .finite o
  total_pages := .finite ((rows.length + l - 1) / l : ℕ)
  has_more := ((Number.finite o).add (.finite l)).lt (.finite rows.length)

theorem answerPage_eq (selected : db.select (whereClause (filters query)) ((filters query).map Prod.snd) = .ok rows)
    (positive : 1 ≤ l) (within : l ≤ 100) (offset : effectiveOffset (.finite p) (.finite l) = .finite o) :
    answerPage db query (.finite p) (.finite l) = match bigint (.finite o) with
      | some skipped => .ok ((rows.drop skipped).take l) (paginationOf rows p l o)
      | none => .serverError (db.refusal (.finite l) (.finite o)) := by
  have bounded := db.bounded _ _ rows selected
  have total : Number.parseInt (rows.length : Int).repr = .finite rows.length := by
    have exact := Number.ofRat_natCast (n := rows.length) (by omega)
    rw [Number.parseInt, parseInt_repr]
    exact exact
  have pages := Number.ceil_div_natCast (a := rows.length) (b := l) (by omega) positive (by omega)
  rw [answerPage, selected]
  dsimp only
  rw [offset, bigint_natCast (by omega : l < 2 ^ 63), total, pages]
  cases bigint (.finite o) <;> rfl

/-- There is more after a page just when it is not the last. -/
theorem has_more_iff (bounded : rows.length < 2 ^ 41) (first : 1 ≤ p) (positive : 1 ≤ l) (within : l ≤ 100)
    (offset : effectiveOffset (.finite p) (.finite l) = .finite o) :
    (paginationOf rows p l o).has_more = true ↔
      (paginationOf rows p l o).page.lt (paginationOf rows p l o).total_pages = true := by
  obtain ⟨near, _, far⟩ := effectiveOffset_natCast first positive within
  have pages : p < (rows.length + l - 1) / l ↔ p * l < rows.length := by
    rw [Nat.lt_iff_add_one_le, Nat.le_div_iff_mul_le positive, Nat.add_mul]
    omega
  simp only [paginationOf]
  rw [Number.lt_natCast, pages, Number.add_natCast]
  rcases Nat.lt_or_ge (2 ^ 45) p with behind | close
  · have skipped := far behind o offset
    have few : ¬ p * l < rows.length := by nlinarith
    refine iff_of_false (fun more => ?_) few
    rcases Number.whole_ofRat (o + l) with infinite | ⟨k, finite⟩
    · rw [infinite] at more
      cases more
    · have large : 2 ^ 45 ≤ k := Number.le_of_ofRat (by norm_num) (by omega) finite
      rw [finite, Number.lt_natCast] at more
      omega
  · have same := offset.symm.trans (near close)
    have counted : o = (p - 1) * l := by exact_mod_cast Number.finite.inj same
    have end_of_page : o + l = p * l := by
      rw [counted, ← Nat.succ_mul, Nat.succ_eq_add_one, Nat.sub_add_cancel first]
    have small : p * l ≤ 2 ^ 45 * 100 := Nat.mul_le_mul close within
    rw [end_of_page, Number.ofRat_natCast (by omega), Number.lt_natCast]

/-- The pages near the first, one by one. -/
theorem getEvents_atPage (selected : db.select (whereClause (filters query)) ((filters query).map Prod.snd) = .ok rows)
    {rawLimit : Number} (read : rawNumber query.limit "20" = some rawLimit) (limit : effectiveLimit rawLimit = .finite l)
    (positive : 1 ≤ l) (within : l ≤ 100) {i : ℕ} (near : i < 2 ^ 45) :
    getEvents db (atPage query (i + 1)) =
      some (.ok ((rows.drop (i * l)).take l) (paginationOf rows (i + 1) l (i * l))) := by
  have page : rawNumber (atPage query (i + 1)).page "1" = some (.finite (i + 1 : ℕ)) := by
    rw [rawNumber_eq (by rfl) (parseInt_repr _), Int.cast_natCast, Number.ofRat_natCast (by omega)]
  have effective : effectivePage (.finite (i + 1 : ℕ)) = .finite (i + 1 : ℕ) := by
    have same := (effectivePage_natCast (p := i + 1) (by omega)).1
    rwa [Number.ofRat_natCast (by omega)] at same
  have offset := (effectiveOffset_natCast (p := i + 1) (by omega) positive within).1 (by omega)
  rw [Nat.add_sub_cancel] at offset
  have skipped : i * l ≤ 2 ^ 45 * 100 := Nat.mul_le_mul near.le within
  have answered := @answerPage_eq db (atPage query (i + 1)) _ _ _ _ selected positive within offset
  rw [bigint_natCast (by omega)] at answered
  rw [getEvents, page, show rawNumber (atPage query (i + 1)).limit "20" = some rawLimit from read]
  dsimp only
  rw [effective, limit, answered]

/-- The pages up to the last make up the rows. -/
theorem allEvents_eq (selected : db.select (whereClause (filters query)) ((filters query).map Prod.snd) = .ok rows)
    {rawLimit : Number} (read : rawNumber query.limit "20" = some rawLimit) (limit : effectiveLimit rawLimit = .finite l)
    (positive : 1 ≤ l) (within : l ≤ 100) : allEvents db query = some rows := by
  have bounded := db.bounded _ _ rows selected
  have answered := fun {i : ℕ} (near : i < 2 ^ 45) => getEvents_atPage selected read limit positive within near
  have few : (rows.length + l - 1) / l ≤ rows.length := by
    have self := Nat.le_mul_of_pos_left rows.length positive
    exact (Nat.div_le_iff_le_mul_add_pred positive).mpr (by omega)
  have pages : totalPagesOf (getEvents db (atPage query 1)) = some ((rows.length + l - 1) / l) := by
    have first_page := answered (by norm_num : 0 < 2 ^ 45)
    rw [Nat.zero_add] at first_page
    rw [first_page, totalPagesOf, paginationOf]
    dsimp only
    rw [Rat.num_natCast, Int.toNat_natCast]
  have each : ∀ i ∈ List.range ((rows.length + l - 1) / l),
      (eventsOf (getEvents db (atPage query (i + 1)))).getD [] = (rows.drop (i * l)).take l := by
    intro i member
    have inside := List.mem_range.mp member
    rw [answered (by omega : i < 2 ^ 45)]
    rfl
  rw [allEvents, pages, Option.map_some, List.flatMap_congr each, List.flatMap_pages positive]

/-- An answer with events has the pagination of the rows that were selected. -/
theorem answerPage_ok {events : List EventRow} {pagination : Pagination} (positive : 1 ≤ l) (within : l ≤ 100)
    (offset : effectiveOffset (.finite p) (.finite l) = .finite o)
    (answered : answerPage db query (.finite p) (.finite l) = .ok events pagination) :
    ∃ rows, rows.length < 2 ^ 41 ∧ pagination = paginationOf rows p l o := by
  cases selected : db.select (whereClause (filters query)) ((filters query).map Prod.snd) with
  | error err =>
    rw [answerPage, selected] at answered
    cases answered
  | ok rows =>
    rw [answerPage_eq selected positive within offset] at answered
    split at answered
    · cases answered
      exact ⟨rows, db.bounded _ _ rows selected, rfl⟩
    · cases answered

end Answers

/-- Numbers in range come from texts that begin with whole numbers. -/
theorem readsPage_of_numbers {rawPage rawLimit : Number} {o : ℕ} (readPage : rawNumber query.page "1" = some rawPage)
    (readLimit : rawNumber query.limit "20" = some rawLimit) (page : effectivePage rawPage = .finite p)
    (limit : effectiveLimit rawLimit = .finite l)
    (offset : effectiveOffset (effectivePage rawPage) (effectiveLimit rawLimit) = .finite o) : ReadsPage query := by
  have page_number : rawPage ≠ .nan := by
    rintro rfl
    cases page
  have limit_number : rawLimit ≠ .nan := by
    rintro rfl
    cases limit
  obtain ⟨pageText, v, spelledPage, parsedPage, rfl⟩ := read_of_rawNumber readPage page_number
  obtain ⟨limitText, w, spelledLimit, parsedLimit, rfl⟩ := read_of_rawNumber readLimit limit_number
  refine ⟨pageText, limitText, v, w, spelledPage, spelledLimit, parsedPage, parsedLimit, fun first => ?_⟩
  obtain ⟨n, rfl⟩ := Int.eq_ofNat_of_zero_le (by omega : 0 ≤ v)
  rw [Int.cast_natCast, (effectivePage_natCast (p := n) (by omega)).1, effectiveLimit_eq] at offset
  rw [Int.cast_natCast, offset]
  simp

/-- Page, limit and offset are numbers in range, the pages make up the listing, and `has_more` tells the last page from
the others, just when `page` and `limit` are texts that begin with a whole number and the page is not too large. -/
theorem events_paged_iff (db : EventDb) (query : EventQuery) : PagedCorrectly db query ↔ ReadsPage query := by
  constructor
  · rintro ⟨⟨rawPage, rawLimit, readPage, readLimit, p, l, o, _, _, _, page, limit, offset⟩, _, _⟩
    exact readsPage_of_numbers readPage readLimit page limit offset
  · rintro ⟨pageText, limitText, v, w, spelledPage, spelledLimit, parsedPage, parsedLimit, fits⟩
    obtain ⟨positive, within⟩ := clampLimit_bounds w
    obtain ⟨p, o, first, page, offset⟩ := numbers_of_fits fits
    have readPage := rawNumber_eq spelledPage parsedPage
    have readLimit := rawNumber_eq spelledLimit parsedLimit
    have limit := effectiveLimit_eq w
    constructor
    · refine ⟨_, _, readPage, readLimit, p, clampLimit w, o, first, positive, within, page, limit, ?_⟩
      rw [page, limit, offset]
    · exact fun rows selected => allEvents_eq selected readLimit limit positive within
    · intro events pagination answered
      have asked : getEvents db query = some (answerPage db query (.finite p) (.finite (clampLimit w))) := by
        rw [getEvents, readPage, readLimit]
        dsimp only
        rw [page, limit]
      rw [asked, Option.some.injEq] at answered
      obtain ⟨rows, bounded, rfl⟩ := answerPage_ok positive within offset answered
      exact has_more_iff bounded first positive within offset

/-- A table without events. -/
def noEvents : EventDb where
  select _ _ := .ok []
  refusal _ _ := "invalid input syntax for type bigint: \"NaN\""
  bounded clause params rows selected := by
    cases selected
    decide

/-- `?page=abc`. -/
def wordPage : EventQuery := ⟨none, none, none, none, none, some (.text "abc"), none⟩

theorem word_page_not_a_number : rawNumber wordPage.page "1" = some .nan ∧ effectivePage .nan = .nan ∧
    getEvents noEvents wordPage = some (.serverError "invalid input syntax for type bigint: \"NaN\"") ∧
    ¬ PagedCorrectly noEvents wordPage := by
  have word : rawNumber wordPage.page "1" = some .nan := by
    have unread : parseInt "abc" = none := by decide
    have spelled : (wordPage.page.getD (.text "1")).spell = some "abc" := rfl
    rw [rawNumber, spelled, Option.map_some, Number.parseInt, unread]
  have refused : getEvents noEvents wordPage = some (.serverError "invalid input syntax for type bigint: \"NaN\"") := by
    have twenty : rawNumber wordPage.limit "20" = some (Number.ofRat (20 : Int)) := rawNumber_eq (by rfl) (by decide)
    rw [getEvents, word, twenty]
    dsimp only
    rw [effectiveLimit_eq]
    rfl
  refine ⟨word, rfl, refused, ?_⟩
  rintro ⟨⟨rawPage, _, readPage, _, _, _, _, _, _, _, page, _⟩, _, _⟩
  rw [word] at readPage
  cases readPage
  cases page

end Proofs

end EventListing

end WorkloadGovernor
