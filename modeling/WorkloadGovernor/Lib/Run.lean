import Mathlib.Data.List.Infix
import Mathlib.Data.List.Induction

namespace Run
universe u v w
variable {σ : Type u} {α : Type v} {τ : Type w}

/-- The state a list of steps leads to. -/
def exec (step : σ → α → σ) (start : σ) (steps : List α) : σ := steps.foldl step start

section Exec
variable (step : σ → α → σ) (start : σ)

@[simp] theorem exec_nil : exec step start [] = start := rfl

@[simp] theorem exec_concat (steps : List α) (a : α) :
    exec step start (steps ++ [a]) = step (exec step start steps) a := by
  simp only [exec, List.foldl_append, List.foldl_cons, List.foldl_nil]

theorem exec_append (first second : List α) :
    exec step start (first ++ second) = exec step (exec step start first) second :=
  List.foldl_append

end Exec

variable {step : σ → α → σ} {start : σ}

/-- What holds at the start and survives every step of a kind holds after every run of
such steps. -/
theorem exec_invariant_of {Inv : σ → Prop} {kind : α → Prop} (init : Inv start)
    (preserved : ∀ s a, kind a → Inv s → Inv (step s a)) {steps : List α} (each : ∀ a ∈ steps, kind a) :
    Inv (exec step start steps) := by
  induction steps using List.reverseRecOn with
  | nil => exact init
  | append_singleton before a ih =>
    have earlier := ih fun b member => each b (List.mem_append_left _ member)
    rw [exec_concat]
    exact preserved _ a (each a (by simp)) earlier

theorem exec_invariant {Inv : σ → Prop} (init : Inv start)
    (preserved : ∀ s a, Inv s → Inv (step s a)) (steps : List α) : Inv (exec step start steps) := by
  have always : ∀ s a, True → Inv s → Inv (step s a) := fun s a _ => preserved s a
  exact exec_invariant_of init always fun _ _ => trivial

/-- `P` holds at the start and after every step of the run. -/
def Always (step : σ → α → σ) (start : σ) (P : σ → Prop) (steps : List α) : Prop :=
  ∀ before, before <+: steps → P (exec step start before)

/-- `C` holds of every step of the run together with the state the step is taken in. -/
def EachStep (step : σ → α → σ) (start : σ) (C : σ → α → Prop) (steps : List α) : Prop :=
  ∀ before a, before ++ [a] <+: steps → C (exec step start before) a

theorem Always.last {P : σ → Prop} {steps : List α} (always : Always step start P steps) :
    P (exec step start steps) :=
  always steps List.prefix_rfl

theorem Always.of_prefix {P : σ → Prop} {before steps : List α} (always : Always step start P steps)
    (earlier : before <+: steps) : Always step start P before :=
  fun _ inner => always _ (inner.trans earlier)

theorem EachStep.of_prefix {C : σ → α → Prop} {before steps : List α}
    (each : EachStep step start C steps) (earlier : before <+: steps) : EachStep step start C before :=
  fun _ a inner => each _ a (inner.trans earlier)

theorem always_concat {P : σ → Prop} {steps : List α} {a : α} :
    Always step start P (steps ++ [a]) ↔
      Always step start P steps ∧ P (step (exec step start steps) a) := by
  constructor
  · intro always
    refine ⟨always.of_prefix (List.prefix_append _ _), ?_⟩
    simpa only [exec_concat] using always.last
  · rintro ⟨always, last⟩ before earlier
    rcases List.prefix_concat_iff.mp earlier with whole | inner
    · rw [whole, exec_concat]
      exact last
    · exact always before inner

theorem eachStep_concat {C : σ → α → Prop} {steps : List α} {a : α} :
    EachStep step start C (steps ++ [a]) ↔
      EachStep step start C steps ∧ C (exec step start steps) a := by
  constructor
  · intro each
    exact ⟨each.of_prefix (List.prefix_append _ _), each steps a List.prefix_rfl⟩
  · rintro ⟨each, last⟩ before b earlier
    rcases List.prefix_concat_iff.mp earlier with whole | inner
    · obtain ⟨rfl, same⟩ := List.append_inj' whole rfl
      cases same
      exact last
    · exact each before b inner

theorem eachStep_nil {C : σ → α → Prop} : EachStep step start C [] := by
  intro before a earlier
  simp at earlier

theorem eachStep_cons {C : σ → α → Prop} {a : α} {steps : List α} (first : C start a)
    (rest : EachStep step (step start a) C steps) : EachStep step start C (a :: steps) := by
  intro before b earlier
  cases before with
  | nil =>
    obtain ⟨same, _⟩ := List.cons_prefix_cons.mp earlier
    rw [same]
    exact first
  | cons c before =>
    obtain ⟨same, inner⟩ := List.cons_prefix_cons.mp earlier
    rw [same]
    exact rest before b inner

theorem eachStep_congr {C D : σ → α → Prop} {steps : List α} (same : ∀ s, ∀ a ∈ steps, (C s a ↔ D s a)) :
    EachStep step start C steps ↔ EachStep step start D steps := by
  have member {before : List α} {a : α} (earlier : before ++ [a] <+: steps) : a ∈ steps :=
    earlier.subset (List.mem_append_right _ List.mem_cons_self)
  constructor
  · intro each before a earlier
    exact (same _ a (member earlier)).mp (each before a earlier)
  · intro each before a earlier
    exact (same _ a (member earlier)).mpr (each before a earlier)

/-- What holds at the start and survives every step that meets `C` where it is taken holds after every run of such
steps. -/
theorem exec_invariant_each {Inv : σ → Prop} {C : σ → α → Prop} (init : Inv start)
    (preserved : ∀ s a, C s a → Inv s → Inv (step s a)) {steps : List α} (each : EachStep step start C steps) :
    Inv (exec step start steps) := by
  induction steps using List.reverseRecOn with
  | nil => exact init
  | append_singleton before a ih =>
    rw [eachStep_concat] at each
    rw [exec_concat]
    exact preserved _ a each.2 (ih each.1)

/-- In a run whose steps all meet `D`: where a step taken in a good state leads to a good
state exactly when the step meets `C`, the run stays good exactly when each of its steps
meets `C`. -/
theorem always_iff_eachStep_of {Inv P : σ → Prop} {C D : σ → α → Prop} (init : Inv start)
    (preserved : ∀ s a, D s a → Inv s → Inv (step s a)) (good : P start)
    (exact_step : ∀ s a, D s a → Inv s → P s → (P (step s a) ↔ C s a)) {steps : List α}
    (each : EachStep step start D steps) : Always step start P steps ↔ EachStep step start C steps := by
  suffices both : Inv (exec step start steps) ∧ (Always step start P steps ↔ EachStep step start C steps) from
    both.2
  induction steps using List.reverseRecOn with
  | nil =>
    refine ⟨init, iff_of_true ?_ eachStep_nil⟩
    intro before earlier
    rw [List.prefix_nil.mp earlier]
    exact good
  | append_singleton before a ih =>
    rw [eachStep_concat] at each
    obtain ⟨inv, same⟩ := ih each.1
    rw [always_concat, eachStep_concat, exec_concat, same]
    refine ⟨preserved _ a each.2 inv, and_congr_right fun met => ?_⟩
    exact exact_step _ a each.2 inv (same.mpr met).last

theorem always_iff_eachStep {Inv P : σ → Prop} {C : σ → α → Prop} (init : Inv start)
    (preserved : ∀ s a, Inv s → Inv (step s a)) (good : P start)
    (exact_step : ∀ s a, Inv s → P s → (P (step s a) ↔ C s a)) (steps : List α) :
    Always step start P steps ↔ EachStep step start C steps := by
  have any : EachStep step start (fun _ _ => True) steps := fun _ _ _ => trivial
  exact always_iff_eachStep_of init (fun s a _ => preserved s a) good (fun s a _ => exact_step s a) any

/-- What the steps of a run let be seen, each in the state it is taken in. -/
def observed {β : Type w} (step : σ → α → σ) (observe : σ → α → Option β) (start : σ) : List α → List β
  | [] => []
  | a :: steps => (observe start a).toList ++ observed step observe (step start a) steps

theorem observed_concat {β : Type w} (step : σ → α → σ) (observe : σ → α → Option β) (start : σ) (steps : List α)
    (a : α) : observed step observe start (steps ++ [a]) =
      observed step observe start steps ++ (observe (exec step start steps) a).toList := by
  induction steps generalizing start with
  | nil => simp [observed]
  | cons first rest ih =>
    rw [List.cons_append, observed, ih, observed, List.append_assoc]
    rfl

/-- A property that fails at the start and holds after the run has a last step that
made it true; it holds at every point from there on. -/
theorem exists_origin {P : σ → Prop} (absent : ¬ P start) {steps : List α}
    (present : P (exec step start steps)) :
    ∃ before a after, steps = before ++ a :: after ∧ ¬ P (exec step start before) ∧
      ∀ middle, middle <+: after → P (exec step start (before ++ a :: middle)) := by
  induction steps using List.reverseRecOn with
  | nil => exact absurd present absent
  | append_singleton steps b ih =>
    by_cases held : P (exec step start steps)
    · obtain ⟨before, a, after, rfl, missing, since⟩ := ih held
      refine ⟨before, a, after ++ [b], by simp, missing, ?_⟩
      intro middle earlier
      rcases List.prefix_concat_iff.mp earlier with whole | inner
      · rw [whole]
        simpa using present
      · exact since middle inner
    · refine ⟨steps, b, [], rfl, held, ?_⟩
      intro middle earlier
      rw [List.prefix_nil.mp earlier]
      exact present

/-- The step after which the property holds throughout made it true. -/
theorem holds_from_origin {P : σ → Prop} {before after : List α} {a : α}
    (since : ∀ middle, middle <+: after → P (exec step start (before ++ a :: middle))) :
    P (step (exec step start before) a) := by
  have first := since [] List.nil_prefix
  rwa [exec_concat] at first

/-- Two systems driven by the same steps stay related along every run whose steps
meet the side condition `C`. -/
theorem exec_lockstep {step' : τ → α → τ} {start' : τ} {R : σ → τ → Prop} {C : σ → α → Prop}
    (init : R start start')
    (preserved : ∀ s t a, C s a → R s t → R (step s a) (step' t a))
    {steps : List α} (each : EachStep step start C steps) :
    R (exec step start steps) (exec step' start' steps) := by
  induction steps using List.reverseRecOn with
  | nil => exact init
  | append_singleton before a ih =>
    rw [eachStep_concat] at each
    rw [exec_concat, exec_concat]
    exact preserved _ _ a each.2 (ih each.1)

/-- Where a step brings in some things and takes away others, what is there after a run was brought in by one of its
steps and taken away by none since. -/
theorem exec_iff_brought {ρ : Type w} (there : σ → ρ → Prop) (brings : σ → α → ρ → Prop) (takes : α → ρ → Prop)
    (none_first : ∀ r, ¬ there start r)
    (step_iff : ∀ s a r, there (step s a) r ↔ brings s a r ∨ there s r ∧ ¬ takes a r) {steps : List α} {r : ρ} :
    there (exec step start steps) r ↔ ∃ before a after, steps = before ++ a :: after ∧
      brings (exec step start before) a r ∧ ∀ b ∈ after, ¬ takes b r := by
  induction steps using List.reverseRecOn with
  | nil => simpa using none_first r
  | append_singleton steps last ih =>
    rw [exec_concat, step_iff, ih]
    constructor
    · rintro (brought | ⟨⟨before, a, after, rfl, brought, kept⟩, stays⟩)
      · exact ⟨steps, last, [], rfl, brought, by simp⟩
      · refine ⟨before, a, after ++ [last], by simp, brought, ?_⟩
        intro b member
        rcases List.mem_append.mp member with earlier | latest
        · exact kept b earlier
        · rwa [List.mem_singleton.mp latest]
    · rintro ⟨before, a, after, split, brought, kept⟩
      rcases List.eq_nil_or_concat' after with rfl | ⟨middle, b, rfl⟩
      · obtain ⟨rfl, same⟩ := List.append_inj' split rfl
        cases same
        exact Or.inl brought
      · have regrouped : steps ++ [last] = (before ++ a :: middle) ++ [b] := by simpa using split
        obtain ⟨rfl, same⟩ := List.append_inj' regrouped rfl
        cases same
        refine Or.inr ⟨⟨before, a, middle, rfl, brought, ?_⟩, kept last (by simp)⟩
        exact fun b member => kept b (List.mem_append_left _ member)

/-- Where a program for each thing takes that thing away, brings in nothing and keeps an invariant, the programs one
after the other take away all their things. -/
theorem exec_clears {ρ : Type w} {Inv : σ → Prop} (there : σ → ρ → Prop) (clear : ρ → List α)
    (clears : ∀ s r, Inv s → Inv (exec step s (clear r)) ∧
      ∀ other, there (exec step s (clear r)) other → there s other ∧ other ≠ r) {s : σ} (inv : Inv s) (things : List ρ) :
    Inv (exec step s (things.flatMap clear)) ∧
      ∀ other, there (exec step s (things.flatMap clear)) other → there s other ∧ other ∉ things := by
  induction things generalizing s with
  | nil => exact ⟨inv, fun other stays => ⟨stays, List.not_mem_nil⟩⟩
  | cons r rest ih =>
    obtain ⟨kept, gone⟩ := clears s r inv
    obtain ⟨after, left⟩ := ih kept
    rw [List.flatMap_cons, exec_append]
    refine ⟨after, fun other stays => ?_⟩
    obtain ⟨earlier, unlisted⟩ := left other stays
    obtain ⟨before, differs⟩ := gone other earlier
    exact ⟨before, List.not_mem_cons_of_ne_of_not_mem differs unlisted⟩

/-- The run a marked run stands for. -/
def full (marked : List (α × Bool)) : List α := marked.map Prod.fst

/-- The same run without the steps marked `false`. -/
def thinned (marked : List (α × Bool)) : List α := (marked.filter Prod.snd).map Prod.fst

/-- Unwinding: a relation that kept steps preserve on both sides, and that no dropped
step of the full run can break, relates the full run and the thinned one. -/
theorem exec_unwinding {R : σ → σ → Prop} {droppable : α → Prop} (init : R start start)
    (consistent : ∀ s t a, R s t → R (step s a) (step t a))
    (respected : ∀ s t a, droppable a → R s t → R (step s a) t)
    {marked : List (α × Bool)} (legal : ∀ a, (a, false) ∈ marked → droppable a) :
    R (exec step start (full marked)) (exec step start (thinned marked)) := by
  induction marked using List.reverseRecOn with
  | nil => exact init
  | append_singleton before last ih =>
    obtain ⟨a, kept⟩ := last
    have earlier := ih fun b member => legal b (List.mem_append_left _ member)
    cases kept with
    | true =>
      simp only [full, thinned, List.map_append, List.filter_append, List.map_cons, List.map_nil,
        List.filter_cons_of_pos, List.filter_nil, exec_concat]
      exact consistent _ _ a earlier
    | false =>
      simp only [full, thinned, List.map_append, List.filter_append, List.map_cons, List.map_nil,
        List.filter_cons, Bool.false_eq_true, if_false, List.filter_nil, List.append_nil, exec_concat]
      exact respected _ _ a (legal a (by simp)) earlier

end Run
