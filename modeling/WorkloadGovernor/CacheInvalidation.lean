import WorkloadGovernor.IssueCache
import WorkloadGovernor.Lib.Glob
import WorkloadGovernor.Lib.Run

namespace WorkloadGovernor

namespace ServiceListings
open TaggedKey

section Source

/-- What Redis holds under the keys of the listings. -/
abbrev Cache : Type := List (String × PaginatedResult Issue)

def Cache.keys (cache : Cache) : List String := cache.map Prod.fst

def setCache (cache : Cache) (key : String) (value : PaginatedResult Issue) : Cache :=
  (key, value) :: cache.filter fun entry => entry.1 ≠ key

/-- What happens to the cache: a call of `getIssues`, where Redis can be read and written or
not, or the end of an entry's time. -/
inductive CacheStep where
  | getIssues (tables : IssueTables) (filter : IssueFilter) (reads writes : Bool)
  | expire (key : String)

/-- Only what is not in the cache is queried, and only what is queried is written. -/
def cacheStep (db : Database) (cache : Cache) : CacheStep → Cache
  | .getIssues tables filter reads writes =>
    match if reads then cache.lookup (buildCacheKey filter) else none with
    | some _ => cache
    | none =>
      match getIssues db (fun _ => none) tables filter with
      | .error _ => cache
      | .ok result => if writes then setCache cache (buildCacheKey filter) result else cache
  | .expire key => cache.filter fun entry => entry.1 ≠ key

def invalidationPattern (org_id : Option String) : String :=
  match Js.truthy org_id with
  | some org => "issues:org_" ++ org ++ ":*"
  | none => "issues:*"

/-- `KEYS` and `DEL` of what it lists. -/
def invalidateCache (cache : Cache) (org_id : Option String) : Cache :=
  let keys := cache.keys.filter (Glob.glob (invalidationPattern org_id))
  cache.filter fun entry => entry.1 ∉ keys

end Source

section Invalidation
variable {db : Database} {cache : Cache} {filter : IssueFilter} {org cacheKey : String}

/-- The filter lets issues of the organisation through. -/
def Affects (org : String) (filter : IssueFilter) : Prop :=
  Js.truthy filter.org_id = none ∨ filter.org_id = some org

/-- Nothing is cached for a filter that lets issues of the organisation through. -/
def Cleared (org : String) (cache : Cache) : Prop :=
  ∀ filter, Affects org filter → buildCacheKey filter ∉ cache.keys

theorem mem_invalidateCache {org_id : Option String} :
    cacheKey ∈ (invalidateCache cache org_id).keys ↔
      cacheKey ∈ cache.keys ∧ Glob.glob (invalidationPattern org_id) cacheKey = false := by
  rw [invalidateCache, Cache.keys, List.mem_map, Cache.keys, List.mem_map]
  constructor
  · rintro ⟨entry, kept, rfl⟩
    obtain ⟨there, missed⟩ := List.mem_filter.mp kept
    have unmatched := of_decide_eq_true missed
    rw [List.mem_filter, not_and] at unmatched
    exact ⟨⟨entry, there, rfl⟩, Bool.eq_false_iff.mpr (unmatched (List.mem_map_of_mem there))⟩
  · rintro ⟨⟨entry, there, rfl⟩, unmatched⟩
    refine ⟨entry, List.mem_filter.mpr ⟨there, decide_eq_true fun deleted => ?_⟩, rfl⟩
    rw [(List.mem_filter.mp deleted).2] at unmatched
    cases unmatched

theorem cleared_iff {org_id : Option String} : Cleared org (invalidateCache cache org_id) ↔
    ∀ filter, Affects org filter → buildCacheKey filter ∈ cache.keys →
      Glob.glob (invalidationPattern org_id) (buildCacheKey filter) = true := by
  refine forall_congr' fun filter => imp_congr_right fun _ => ?_
  rw [mem_invalidateCache, not_and, Bool.not_eq_false]

/-- What follows the organisation in a key. -/
def otherParts (filter : IssueFilter) : List Char := key ':' (keyTags.drop 1) ((keyValues filter).drop 1)

theorem toList_key_of_org (given : Js.truthy filter.org_id = some org) :
    (buildCacheKey filter).toList = "issues:org_".toList ++ (org.toList ++ otherParts filter) := by
  have parts : key ':' keyTags (keyValues filter) = part ':' "org_" (some org) ++ otherParts filter := by
    rw [← given]
    rfl
  rw [toList_buildCacheKey, parts]
  rfl

theorem toList_key_of_none (absent : Js.truthy filter.org_id = none) :
    (buildCacheKey filter).toList = "issues".toList ++ otherParts filter := by
  have parts : key ':' keyTags (keyValues filter) = part ':' "org_" none ++ otherParts filter := by
    rw [← absent]
    rfl
  rw [toList_buildCacheKey, parts]
  rfl

/-- The pieces of the pattern for an organisation. -/
theorem tokens_pattern (org : List Char) : Glob.tokens ("issues:org_".toList ++ (org ++ ":*".toList)) =
    "issues:org_".toList.map (Glob.Token.single ∘ Glob.Single.char) ++ Glob.tokens (org ++ ":*".toList) := by
  rw [Glob.tokens_append (by decide)]
  rfl

theorem glob_org_iff (named : Js.truthy (some org) = some org) :
    Glob.glob (invalidationPattern (some org)) cacheKey = true ↔
      ∃ left, "issues:org_".toList ++ left = cacheKey.toList ∧
        Glob.run (Glob.tokens (org.toList ++ ":*".toList)) left = true := by
  have pattern : invalidationPattern (some org) = "issues:org_" ++ org ++ ":*" := by rw [invalidationPattern, named]
  rw [pattern, Glob.glob, String.toList_append, String.toList_append, List.append_assoc, tokens_pattern,
    Glob.run_chars_append]

/-- The pattern for an organisation misses every key without one. -/
theorem orgless_missed (named : Js.truthy (some org) = some org) (absent : Js.truthy filter.org_id = none) :
    Glob.glob (invalidationPattern (some org)) (buildCacheKey filter) ≠ true := by
  rw [Ne, glob_org_iff named, toList_key_of_none absent]
  rintro ⟨left, same, _⟩
  have begins : "issues".toList ++ (':' :: "org_".toList ++ left) = "issues".toList ++ otherParts filter := same
  have start : ':' :: "org_".toList <+: otherParts filter := ⟨left, List.append_cancel_left begins⟩
  exact apart_key (by decide) _ start

theorem glob_key_iff (named : Js.truthy (some org) = some org) (own : filter.org_id = some org) :
    Glob.glob (invalidationPattern (some org)) (buildCacheKey filter) = true ↔
      Glob.run (Glob.tokens (org.toList ++ ":*".toList)) (org.toList ++ otherParts filter) = true := by
  have given : Js.truthy filter.org_id = some org := by rw [own, named]
  rw [glob_org_iff named, toList_key_of_org given]
  constructor
  · rintro ⟨left, same, matched⟩
    rwa [← List.append_cancel_left same]
  · exact fun matched => ⟨_, rfl, matched⟩

theorem otherParts_closed (filter : IssueFilter) : Closed ':' (otherParts filter) := closed_key _ _

/-- Without brackets and backslashes the pattern takes the keys with something after the organisation. -/
theorem glob_simple_iff (simple : Glob.Simple org.toList) :
    Glob.run (Glob.tokens (org.toList ++ ":*".toList)) (org.toList ++ otherParts filter) = true ↔
      otherParts filter ≠ [] := by
  rw [Glob.tokens_append simple]
  constructor
  · intro matched nothing
    have colons := Glob.count_le_of_run ':' matched
    have ending : (Glob.tokens ":*".toList).count (.single (.char ':')) = 1 := by decide
    rw [List.count_append, Glob.count_simple (by decide) (by decide), ending, nothing, List.append_nil] at colons
    omega
  · intro something
    obtain ⟨more, follows⟩ := (otherParts_closed filter).resolve_left something
    rw [follows]
    exact Glob.run_self_append org.toList (Glob.run_single.mpr ⟨':', more, rfl, rfl, Glob.run_star_nil more⟩)

/-- The filter that names the organisation and nothing else. -/
def onlyOrg (org : String) : IssueFilter := ⟨some org, none, none, none, none, none⟩

/-- What must not be cached for the pattern to take all that it should. With brackets or
backslashes in the organisation the pattern need not take the organisation's own keys. -/
structure Invalidable (org : String) (cache : Cache) : Prop where
  orgless : org ≠ "" → ∀ filter, Js.truthy filter.org_id = none → buildCacheKey filter ∉ cache.keys
  alone : Glob.Simple org.toList → buildCacheKey (onlyOrg org) ∉ cache.keys
  special : ¬ Glob.Simple org.toList → ∀ filter, filter.org_id = some org → buildCacheKey filter ∈ cache.keys →
    Glob.glob (invalidationPattern (some org)) (buildCacheKey filter) = true

theorem truthy_some (given : org ≠ "") : Js.truthy (some org) = some org :=
  Option.filter_eq_some_iff.mpr ⟨rfl, decide_eq_true given⟩

/-- Without anything behind the organisation there is one key. -/
theorem key_onlyOrg (named : Js.truthy (some org) = some org) (own : filter.org_id = some org)
    (nothing : otherParts filter = []) : buildCacheKey filter = buildCacheKey (onlyOrg org) := by
  have given : Js.truthy filter.org_id = some org := by rw [own, named]
  have nothing_either : otherParts (onlyOrg org) = [] := rfl
  rw [← String.toList_inj, toList_key_of_org given, toList_key_of_org named, nothing, nothing_either]

theorem key_empty (absent : Js.truthy filter.org_id = none) (nothing : otherParts filter = []) :
    buildCacheKey filter = buildCacheKey (onlyOrg "") := by
  rw [← String.toList_inj, toList_key_of_none absent, nothing]
  decide

/-- Without an organisation the pattern takes the keys of all filters but the one without anything. -/
theorem glob_orgless (absent : Js.truthy filter.org_id = none) (something : otherParts filter ≠ []) :
    Glob.glob (invalidationPattern (some "")) (buildCacheKey filter) = true := by
  obtain ⟨more, follows⟩ := (otherParts_closed filter).resolve_left something
  have pieces : Glob.tokens (invalidationPattern (some "")).toList =
      "issues:".toList.map (Glob.Token.single ∘ Glob.Single.char) ++ [.star] := by decide
  rw [Glob.glob, pieces, Glob.run_chars_append, toList_key_of_none absent, follows]
  exact ⟨more, rfl, Glob.run_star_nil more⟩

theorem Cleared.invalidable (cleared : Cleared org (invalidateCache cache (some org))) : Invalidable org cache := by
  rw [cleared_iff] at cleared
  refine ⟨fun given filter absent there => ?_, fun simple there => ?_, fun _ filter own there => ?_⟩
  · exact orgless_missed (truthy_some given) absent (cleared filter (Or.inl absent) there)
  · have taken := cleared (onlyOrg org) (Or.inr rfl) there
    by_cases empty : org = ""
    · subst empty
      exact absurd taken (by decide)
    · rw [glob_key_iff (truthy_some empty) rfl, glob_simple_iff simple] at taken
      exact taken rfl
  · exact cleared filter (Or.inr own) there

theorem Invalidable.cleared (invalidable : Invalidable org cache) : Cleared org (invalidateCache cache (some org)) := by
  rw [cleared_iff]
  intro filter affects there
  by_cases empty : org = ""
  · subst empty
    have absent : Js.truthy filter.org_id = none := by
      rcases affects with absent | own
      · exact absent
      · rw [own]
        rfl
    refine glob_orgless absent fun nothing => invalidable.alone (by decide) ?_
    rwa [← key_empty absent nothing]
  · have named := truthy_some empty
    rcases affects with absent | own
    · exact absurd there (invalidable.orgless empty filter absent)
    · by_cases simple : Glob.Simple org.toList
      · rw [glob_key_iff named own, glob_simple_iff simple]
        intro nothing
        refine invalidable.alone simple ?_
        rwa [← key_onlyOrg named own nothing]
      · exact invalidable.special simple filter own there

/-- After `invalidateCache` nothing is cached that can show an issue of the organisation, in
whatever way the cache has come about, exactly if no listing is cached that the pattern misses. -/
theorem invalidateCache_complete_iff (db : Database) (steps : List CacheStep) (org : String) :
    Cleared org (invalidateCache (Run.exec (cacheStep db) [] steps) (some org)) ↔
      Invalidable org (Run.exec (cacheStep db) [] steps) :=
  ⟨Cleared.invalidable, Invalidable.cleared⟩

/-- The listing of one organisation stays when the organisation is invalidated. -/
theorem listing_not_invalidated : ¬ Cleared "a" (invalidateCache (Run.exec (cacheStep latestFirst) []
    [.getIssues (oneIssue "a" []) (onlyOrg "a") true true]) (some "a")) := by
  intro cleared
  exact absurd (cleared (onlyOrg "a") (Or.inr rfl)) (by decide)

end Invalidation

end ServiceListings

end WorkloadGovernor
