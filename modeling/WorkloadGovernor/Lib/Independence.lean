import WorkloadGovernor.Lib.Run

namespace Independence
universe u v w x
variable {σ : Type u} {α : Type v} {κ : Type w} {ν : Type x}

/-- Every agent has a view of the state. A step that is not the agent's own leaves the view as
it is, and what any step does to the view depends on the view alone. -/
structure Views (step : σ → α → σ) (view : σ → κ → ν) (own : κ → α → Bool) : Prop where
  foreign : ∀ s k a, own k a = false → view (step s a) k = view s k
  acts : ∀ s t k a, view s k = view t k → view (step s a) k = view (step t a) k

/-- The agent's own steps, in their order. -/
def projection (own : κ → α → Bool) (k : κ) (steps : List α) : List α := steps.filter (own k)

/-- No agent owns both steps. -/
def Apart (own : κ → α → Bool) (a b : α) : Prop := ∀ k, own k a = true → own k b = false

section Views
variable {step : σ → α → σ} {view : σ → κ → ν} {own : κ → α → Bool}

theorem Views.step_congr (views : Views step view own) {s t : σ} (same : view s = view t) (a : α) :
    view (step s a) = view (step t a) := by
  funext k
  exact views.acts s t k a (congrFun same k)

/-- Two steps apart may change places. -/
theorem Views.diamond (views : Views step view own) {a b : α} (apart : Apart own a b) (s : σ) :
    view (step (step s a) b) = view (step (step s b) a) := by
  funext k
  cases owner : own k a with
  | true =>
    have left := views.foreign (step s a) k b (apart k owner)
    have right := views.acts (step s b) s k a (views.foreign s k b (apart k owner))
    exact left.trans right.symm
  | false =>
    have left := views.acts (step s a) s k b (views.foreign s k a owner)
    have right := views.foreign (step s b) k a owner
    exact left.trans right.symm

/-- What an agent observes of a run is what it observes of its own steps taken alone. -/
theorem Views.observed_projection {β : Type w} (views : Views step view own) {observe : σ → α → Option β} {k : κ}
    (silent : ∀ s a, own k a = false → observe s a = none)
    (determined : ∀ s t a, own k a = true → view s k = view t k → observe s a = observe t a)
    (steps : List α) {s t : σ} (same : view s k = view t k) :
    Run.observed step observe s steps = Run.observed step observe t (projection own k steps) := by
  induction steps generalizing s t with
  | nil => rfl
  | cons a steps ih =>
    cases owner : own k a with
    | true =>
      rw [projection, List.filter_cons_of_pos owner, Run.observed, Run.observed, determined s t a owner same]
      exact congrArg _ (ih (views.acts s t k a same))
    | false =>
      have kept : projection own k (a :: steps) = projection own k steps :=
        List.filter_cons_of_neg (Bool.not_eq_true _ ▸ owner)
      rw [kept, Run.observed, silent s a owner]
      exact ih ((views.foreign s k a owner).trans same)

end Views

/-- One list comes from the other by exchanging neighbours that are apart. -/
inductive Reordered (apart : α → α → Prop) (steps : List α) : List α → Prop
  | same : Reordered apart steps steps
  | swap {before after : List α} {a b : α} : Reordered apart steps (before ++ a :: b :: after) → apart a b →
      Reordered apart steps (before ++ b :: a :: after)

namespace Reordered
variable {apart : α → α → Prop} {xs ys zs : List α}

theorem trans (first : Reordered apart xs ys) (second : Reordered apart ys zs) : Reordered apart xs zs := by
  induction second with
  | same => exact first
  | swap _ distinct ih => exact ih.swap distinct

theorem cons (a : α) (reordered : Reordered apart xs ys) : Reordered apart (a :: xs) (a :: ys) := by
  induction reordered with
  | same => exact .same
  | @swap before after b c _ distinct ih => exact @swap _ _ _ (a :: before) _ _ _ ih distinct

/-- A step moves behind a list of steps it is apart from. -/
theorem behind {a : α} (before after : List α) (distinct : ∀ b ∈ before, apart a b) :
    Reordered apart (a :: (before ++ after)) (before ++ a :: after) := by
  induction before with
  | nil => exact .same
  | cons b before ih =>
    have inner := (ih fun c member => distinct c (List.mem_cons_of_mem _ member)).cons b
    have first : Reordered apart (a :: b :: (before ++ after)) (b :: a :: (before ++ after)) :=
      @swap _ _ _ [] _ _ _ .same (distinct b List.mem_cons_self)
    exact first.trans inner

/-- A relation between states that every step preserves and under which steps apart commute
relates the ends of the two runs. -/
theorem exec {step : σ → α → σ} {R : σ → σ → Prop} (refl : ∀ s, R s s) (trans : ∀ {s t r}, R s t → R t r → R s r)
    (congr : ∀ {s t} a, R s t → R (step s a) (step t a))
    (diamond : ∀ {a b} s, apart a b → R (step (step s a) b) (step (step s b) a))
    (reordered : Reordered apart xs ys) (start : σ) : R (Run.exec step start xs) (Run.exec step start ys) := by
  induction reordered with
  | same => exact refl _
  | @swap before after a b _ distinct ih =>
    have later : ∀ steps {s t : σ}, R s t → R (Run.exec step s steps) (Run.exec step t steps) := by
      intro steps
      induction steps with
      | nil => exact fun related => related
      | cons c steps rest => exact fun related => rest (congr c related)
    refine trans ih ?_
    rw [Run.exec_append, Run.exec_append]
    exact later after (diamond _ distinct)

end Reordered

section Projection
variable {own : κ → α → Bool} {xs ys : List α}

/-- The first step of an agent stands before every other step of the agent. -/
theorem apart_of_first {a : α} {steps before after : List α} (absent : a ∉ before)
    (same : ∀ k, projection own k (a :: steps) = projection own k (before ++ a :: after)) :
    ∀ b ∈ before, Apart own a b := by
  intro b member k owner
  by_contra owned
  rw [Bool.not_eq_false] at owned
  have inside : b ∈ before.filter (own k) := List.mem_filter.mpr ⟨member, owned⟩
  have lists := same k
  rw [projection, projection, List.filter_cons_of_pos owner, List.filter_append] at lists
  cases shape : before.filter (own k) with
  | nil =>
    rw [shape] at inside
    cases inside
  | cons c rest =>
    rw [shape, List.cons_append] at lists
    have head : c ∈ before.filter (own k) := by
      rw [shape]
      exact List.mem_cons_self
    rw [← (List.cons.inj lists).1] at head
    exact absent (List.mem_of_mem_filter head)

/-- Two lists of steps in which every agent finds its own steps in the same order come from
one another by exchanging neighbours that are apart. -/
theorem reordered_of_projections (owned : ∀ a, ∃ k, own k a = true)
    (same : ∀ k, projection own k xs = projection own k ys) : Reordered (Apart own) xs ys := by
  induction xs generalizing ys with
  | nil =>
    cases ys with
    | nil => exact .same
    | cons b ys =>
      obtain ⟨k, owner⟩ := owned b
      have lists := same k
      rw [projection, projection, List.filter_cons_of_pos owner] at lists
      cases lists
  | cons a xs ih =>
    obtain ⟨k, owner⟩ := owned a
    have member : a ∈ ys := by
      have lists := same k
      rw [projection, projection, List.filter_cons_of_pos owner] at lists
      have inside : a ∈ ys.filter (own k) := lists ▸ List.mem_cons_self
      exact List.mem_of_mem_filter inside
    obtain ⟨before, after, rfl, absent⟩ := List.eq_append_cons_of_mem member
    have distinct := apart_of_first absent same
    have rest : ∀ j, projection own j xs = projection own j (before ++ after) := by
      intro j
      have lists := same j
      simp only [projection, List.filter_cons, List.filter_append] at lists ⊢
      cases mine : own j a with
      | true =>
        have nothing : before.filter (own j) = [] :=
          List.filter_eq_nil_iff.mpr fun b inside => by simp [distinct b inside j mine]
        rw [mine, nothing] at lists
        rw [nothing]
        exact (List.cons.inj lists).2
      | false =>
        rw [mine] at lists
        exact lists
    exact ((ih rest).cons a).trans (Reordered.behind before after distinct)

end Projection

end Independence
