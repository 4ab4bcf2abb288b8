import Mathlib.Data.List.Infix
import Mathlib.Data.List.Count

namespace Glob

/-- What stands for one character in a pattern: any, a given one, or one inside some ranges or
outside all of them. -/
inductive Single where
  | any
  | char (c : Char)
  | set (outside : Bool) (ranges : List (Char × Char))
  deriving DecidableEq, Repr

inductive Token where
  | star
  | single (kind : Single)
  deriving DecidableEq, Repr

def Single.accepts : Single → Char → Bool
  | .any, _ => true
  | .char d, c => d == c
  | .set outside ranges, c => (ranges.any fun (a, b) => a ≤ c ∧ c ≤ b ∨ b ≤ c ∧ c ≤ a) != outside

mutual

/-- The pieces of a pattern. -/
def tokens : List Char → List Token
  | [] => []
  | '*' :: rest => .star :: tokens rest
  | '?' :: rest => .single .any :: tokens rest
  | '[' :: '^' :: rest => setTokens true [] rest
  | '[' :: rest => setTokens false [] rest
  | '\\' :: c :: rest => .single (.char c) :: tokens rest
  | c :: rest => .single (.char c) :: tokens rest

/-- The pieces from inside a pair of brackets on, of which the second need not be there. -/
def setTokens (outside : Bool) (ranges : List (Char × Char)) : List Char → List Token
  | [] => [.single (.set outside ranges)]
  | '\\' :: c :: rest => setTokens outside (ranges ++ [(c, c)]) rest
  | ']' :: rest => .single (.set outside ranges) :: tokens rest
  | a :: '-' :: b :: rest => setTokens outside (ranges ++ [(a, b)]) rest
  | c :: rest => setTokens outside (ranges ++ [(c, c)]) rest

end

def run : List Token → List Char → Bool
  | [], text => text.isEmpty
  | .star :: rest, text => text.tails.any (run rest)
  | .single _ :: _, [] => false
  | .single kind :: rest, c :: text => kind.accepts c && run rest text

/-- Whether a text matches a pattern. -/
def glob (pattern text : String) : Bool := run (tokens pattern.toList) text.toList

example : glob "h[a-c]llo?*" "hbllo!" = true ∧ glob "h[^a-c]llo" "hbllo" = false ∧ glob "h\\*" "h*" = true := by decide

/-- Without brackets and backslashes every character is a piece of its own. -/
def Simple (text : List Char) : Prop := '[' ∉ text ∧ '\\' ∉ text

instance (text : List Char) : Decidable (Simple text) := inferInstanceAs (Decidable (_ ∧ _))

def simpleToken (c : Char) : Token :=
  if c = '*' then .star else if c = '?' then .single .any else .single (.char c)

section Proofs
variable {c : Char} {text rest : List Char} {pieces : List Token}

theorem tokens_cons (bracket : c ≠ '[') (backslash : c ≠ '\\') (rest : List Char) :
    tokens (c :: rest) = simpleToken c :: tokens rest := by
  by_cases star : c = '*'
  · rw [star]
    rfl
  · by_cases any : c = '?'
    · rw [any]
      rfl
    · rw [simpleToken, if_neg star, if_neg any, tokens.eq_def]
      split <;> simp_all

theorem tokens_append (simple : Simple text) (rest : List Char) :
    tokens (text ++ rest) = text.map simpleToken ++ tokens rest := by
  induction text with
  | nil => rfl
  | cons c text ih =>
    obtain ⟨bracket, backslash⟩ := simple
    rw [List.mem_cons, not_or] at bracket backslash
    rw [List.cons_append, tokens_cons (Ne.symm bracket.1) (Ne.symm backslash.1), ih ⟨bracket.2, backslash.2⟩]
    rfl

theorem run_star :
    run (.star :: pieces) text = true ↔ ∃ skipped left, skipped ++ left = text ∧ run pieces left = true := by
  rw [run, List.any_eq_true]
  constructor
  · rintro ⟨left, ending, matched⟩
    obtain ⟨skipped, whole⟩ := (List.mem_tails _ _).mp ending
    exact ⟨skipped, left, whole, matched⟩
  · rintro ⟨skipped, left, whole, matched⟩
    exact ⟨left, (List.mem_tails _ _).mpr ⟨skipped, whole⟩, matched⟩

theorem run_single {kind : Single} :
    run (.single kind :: pieces) text = true ↔
      ∃ c left, c :: left = text ∧ kind.accepts c = true ∧ run pieces left = true := by
  cases text with
  | nil => simp [run]
  | cons c text => simp [run]

/-- Given characters match themselves only. -/
theorem run_chars_append {given : List Char} :
    run (given.map (Token.single ∘ Single.char) ++ pieces) text = true ↔
      ∃ left, given ++ left = text ∧ run pieces left = true := by
  induction given generalizing text with
  | nil => simp
  | cons c given ih =>
    rw [List.map_cons, List.cons_append, Function.comp_apply, run_single]
    constructor
    · rintro ⟨d, left, rfl, same, further⟩
      obtain ⟨last, rfl, matched⟩ := ih.mp further
      rw [eq_of_beq same]
      exact ⟨last, rfl, matched⟩
    · rintro ⟨left, rfl, matched⟩
      exact ⟨c, given ++ left, rfl, beq_self_eq_true c, ih.mpr ⟨left, rfl, matched⟩⟩

/-- A text of simple pieces matches itself. -/
theorem run_self_append (own : List Char) (matched : run pieces rest = true) :
    run (own.map simpleToken ++ pieces) (own ++ rest) = true := by
  induction own with
  | nil => exact matched
  | cons c own ih =>
    rw [List.map_cons, List.cons_append, List.cons_append]
    unfold simpleToken
    split
    · exact run_star.mpr ⟨[c], own ++ rest, rfl, ih⟩
    · split
      · exact run_single.mpr ⟨c, own ++ rest, rfl, rfl, ih⟩
      · exact run_single.mpr ⟨c, own ++ rest, rfl, beq_self_eq_true c, ih⟩

theorem run_star_nil (text : List Char) : run [.star] text = true :=
  run_star.mpr ⟨text, [], List.append_nil _, rfl⟩

/-- A text has every character at least as often as the pattern asks for it. -/
theorem count_le_of_run (c : Char) (matched : run pieces text = true) :
    pieces.count (.single (.char c)) ≤ text.count c := by
  induction pieces generalizing text with
  | nil => exact Nat.zero_le _
  | cons piece pieces ih =>
    cases piece with
    | star =>
      obtain ⟨skipped, left, rfl, further⟩ := run_star.mp matched
      have rest := ih further
      rw [List.count_append, List.count_cons_of_ne (by simp)]
      omega
    | single kind =>
      obtain ⟨d, left, rfl, accepted, further⟩ := run_single.mp matched
      have rest := ih further
      by_cases own : kind = .char c
      · subst own
        rw [← eq_of_beq accepted, List.count_cons_self, List.count_cons_self]
        omega
      · have fewer := @List.count_le_count_cons _ _ c d left
        rw [List.count_cons_of_ne (by simpa using own)]
        omega

theorem count_simple (star : c ≠ '*') (any : c ≠ '?') (text : List Char) :
    (text.map simpleToken).count (.single (.char c)) = text.count c := by
  induction text with
  | nil => rfl
  | cons d text ih =>
    have same : simpleToken d = .single (.char c) ↔ d = c := by
      unfold simpleToken
      split_ifs with starred unknown
      · simpa [starred] using Ne.symm star
      · simpa [unknown] using Ne.symm any
      · simp
    rw [List.map_cons, List.count_cons, List.count_cons, ih]
    simp only [beq_iff_eq, same]

end Proofs

end Glob
