import Mathlib.Data.List.Basic

/-!
# Runs of a Guarded Step Function

The execution layer every state machine of the development shares. A machine
is a function `step : σ → α → Option σ`: the action names everything the
environment chooses, so the step itself is a function, and a result of `none`
says the action was not enabled in that state. Nothing here knows what the
machine is about.

A run is a list of actions that were all enabled. Three rules come out of
that. `run_invariant` carries a property every step preserves to the end of
the run. `run_invariant_along` does the same for a property that is preserved
only by steps meeting a side condition, with `Along` saying that every step of
the run meets it in the state it is taken from. The second rule is the form in
which a defect is stated: the property holds of every run none of whose steps
take the bad branch. `run_dichotomy` adds the converse, where a bad step is
never made good, and `throughout_iff_along` the converse for a property that is
asked for in every state of the run. `run_reaches` is the rule for progress: it
produces a run. `logged` adds to a machine what its steps leave behind, for a
side condition that is about the past.

## Main definitions

* `run`: Executing a list of actions, or `none` if one is not enabled.
* `Along`: Every step of a run meets a side condition.
* `Throughout`: Every state of a run has a property.
* `logged`: The machine with a log of its steps.

## Theorems

* `run_append`: A run of a concatenation passes through a middle state.
* `run_concat`: The last step of a run, split off.
* `run_invariant`: What every step preserves, every run preserves.
* `along_append`, `along_and`: A side condition along a concatenation splits,
  and two side conditions combine.
* `along_of_forall`: A side condition on the actions alone.
* `along_take`, `along_append_of`, `along_of_steps`: A side condition on an
  initial segment, on a continuation, and step by step.
* `along_of_invariant`, `throughout_of_along`: What a side condition gives by
  way of an invariant.
* `run_invariant_along`: The same rule under a side condition.
* `run_dichotomy`: A side condition that decides how the run ends.
* `throughout_of_states`, `throughout_last`: A property throughout a run, state
  by state.
* `throughout_iff_along`, `throughout_iff_along_of_kept`,
  `throughout_iff_along_of_run`, `throughout_iff_along_of_invariant`: A side
  condition that decides whether a property ever fails.
* `run_logged`, `throughout_logged`: The runs with the log are those without.
* `run_reaches`: A decreasing measure leads to a goal.
-/

namespace Vena

namespace Run

variable {σ α : Type*}

/-- Execute a list of actions from left to right, stopping with `none` at the
    first one that is not enabled. -/
def run (step : σ → α → Option σ) : σ → List α → Option σ
  | s, [] => some s
  | s, a :: as => match step s a with
    | none => none
    | some s' => run step s' as

/-- Every step of the run meets `C` in the state it is taken from. -/
def Along (step : σ → α → Option σ) (C : σ → α → Prop) : σ → List α → Prop
  | _, [] => True
  | s, a :: as => C s a ∧ match step s a with
    | none => True
    | some s' => Along step C s' as

instance decidableAlong (step : σ → α → Option σ) (C : σ → α → Prop)
    [∀ s a, Decidable (C s a)] : ∀ s as, Decidable (Along step C s as)
  | _, [] => isTrue trivial
  | s, a :: as => by
      unfold Along
      cases step s a with
      | none => exact inferInstance
      | some s' => exact @instDecidableAnd _ _ _ (decidableAlong step C s' as)

theorem run_cons_eq_some (step : σ → α → Option σ) (s t : σ) (a : α) (as : List α) :
    run step s (a :: as) = some t ↔ ∃ s', step s a = some s' ∧ run step s' as = some t := by
  cases hstep : step s a with
  | none => simp only [run, hstep, reduceCtorEq, false_and, exists_false]
  | some s' => simp only [run, hstep, Option.some.injEq, exists_eq_left']

/-- A run of a concatenation passes through a middle state. -/
theorem run_append (step : σ → α → Option σ) (s t : σ) (as bs : List α) :
    run step s (as ++ bs) = some t ↔ ∃ m, run step s as = some m ∧ run step m bs = some t := by
  induction as generalizing s with
  | nil => simp only [List.nil_append, run, Option.some.injEq, exists_eq_left']
  | cons a as ih =>
      rw [List.cons_append, run_cons_eq_some]
      constructor
      · rintro ⟨s', hstep, hrest⟩
        obtain ⟨m, hm, hbs⟩ := (ih s').mp hrest
        exact ⟨m, (run_cons_eq_some step s m a as).mpr ⟨s', hstep, hm⟩, hbs⟩
      · rintro ⟨m, hm, hbs⟩
        obtain ⟨s', hstep, has⟩ := (run_cons_eq_some step s m a as).mp hm
        exact ⟨s', hstep, (ih s').mpr ⟨m, has, hbs⟩⟩

/-- The last step of a run, split off. -/
theorem run_concat (step : σ → α → Option σ) (s t : σ) (as : List α) (a : α) :
    run step s (as ++ [a]) = some t ↔ ∃ m, run step s as = some m ∧ step m a = some t := by
  rw [run_append]
  refine exists_congr (fun m => and_congr_right (fun _ => ?_))
  rw [run_cons_eq_some]
  simp only [run, Option.some.injEq, exists_eq_right]

/-- What every step preserves, every run preserves. -/
theorem run_invariant (step : σ → α → Option σ) (I : σ → Prop)
    (hstep : ∀ s a s', I s → step s a = some s' → I s') :
    ∀ (as : List α) (s t : σ), I s → run step s as = some t → I t := by
  intro as
  induction as with
  | nil =>
      intro s t hs hrun
      simp only [run, Option.some.injEq] at hrun
      rwa [← hrun]
  | cons a as ih =>
      intro s t hs hrun
      obtain ⟨s', hs', hrest⟩ := (run_cons_eq_some step s t a as).mp hrun
      exact ih s' t (hstep s a s' hs hs') hrest

/-- The first step, whether it is enabled or not. -/
theorem along_cons_iff (step : σ → α → Option σ) (C : σ → α → Prop) (s : σ) (a : α)
    (as : List α) :
    Along step C s (a :: as) ↔ C s a ∧ ∀ s', step s a = some s' → Along step C s' as := by
  cases hstep : step s a with
  | none => simp only [Along, hstep, reduceCtorEq, false_implies, implies_true]
  | some s' => simp only [Along, hstep, Option.some.injEq, forall_eq']

theorem along_cons (step : σ → α → Option σ) (C : σ → α → Prop) (s s' : σ) (a : α)
    (as : List α) (hs : step s a = some s') :
    Along step C s (a :: as) ↔ C s a ∧ Along step C s' as := by
  simp only [Along, hs]

/-- A side condition along a concatenation splits at the middle state. -/
theorem along_append (step : σ → α → Option σ) (C : σ → α → Prop) (s m : σ)
    (as bs : List α) (hm : run step s as = some m) :
    Along step C s (as ++ bs) ↔ Along step C s as ∧ Along step C m bs := by
  induction as generalizing s with
  | nil =>
      simp only [run, Option.some.injEq] at hm
      rw [hm]
      simp only [List.nil_append, Along, true_and]
  | cons a as ih =>
      obtain ⟨s', hs', hrest⟩ := (run_cons_eq_some step s m a as).mp hm
      rw [List.cons_append, along_cons step C s s' a _ hs', along_cons step C s s' a _ hs',
        ih s' hrest, and_assoc]

theorem along_and (step : σ → α → Option σ) (C D : σ → α → Prop) (s : σ) (as : List α)
    (hC : Along step C s as) (hD : Along step D s as) :
    Along step (fun s a => C s a ∧ D s a) s as := by
  induction as generalizing s with
  | nil => trivial
  | cons a as ih =>
      rw [along_cons_iff] at hC hD ⊢
      exact ⟨⟨hC.1, hD.1⟩, fun s' hstep => ih s' (hC.2 s' hstep) (hD.2 s' hstep)⟩

/-- A side condition on the actions alone. -/
theorem along_of_forall (step : σ → α → Option σ) (P : α → Prop) (as : List α) :
    ∀ s : σ, (∀ a ∈ as, P a) → Along step (fun _ a => P a) s as := by
  induction as with
  | nil => exact fun s h => trivial
  | cons a as ih =>
      intro s h
      rw [along_cons_iff]
      exact ⟨h a List.mem_cons_self,
        fun s' _ => ih s' (fun b hb => h b (List.mem_cons_of_mem _ hb))⟩

/-- What every step that meets `C` preserves, a run all of whose steps meet
    `C` preserves. -/
theorem run_invariant_along (step : σ → α → Option σ) (C : σ → α → Prop) (I : σ → Prop)
    (hstep : ∀ s a s', I s → C s a → step s a = some s' → I s') :
    ∀ (as : List α) (s t : σ), I s → Along step C s as → run step s as = some t → I t := by
  intro as
  induction as with
  | nil =>
      intro s t hs _ hrun
      simp only [run, Option.some.injEq] at hrun
      rwa [← hrun]
  | cons a as ih =>
      intro s t hs hal hrun
      obtain ⟨s', hs', hrest⟩ := (run_cons_eq_some step s t a as).mp hrun
      obtain ⟨hC, hal'⟩ := (along_cons step C s s' a as hs').mp hal
      exact ih s' t (hstep s a s' hs hC hs') hal' hrest

/-- A run keeps `I` as long as its steps meet `C`, and the first step that does
    not leads to `J` for good. -/
theorem run_dichotomy (step : σ → α → Option σ) (C : σ → α → Prop) (I J : σ → Prop)
    (hkeep : ∀ s a s', I s → C s a → step s a = some s' → I s')
    (hbreak : ∀ s a s', I s → ¬ C s a → step s a = some s' → J s')
    (hstay : ∀ s a s', J s → step s a = some s' → J s') :
    ∀ (as : List α) (s t : σ), I s → run step s as = some t →
      (Along step C s as ∧ I t) ∨ (¬ Along step C s as ∧ J t) := by
  intro as
  induction as with
  | nil =>
      intro s t hs hrun
      simp only [run, Option.some.injEq] at hrun
      exact Or.inl ⟨trivial, hrun ▸ hs⟩
  | cons a as ih =>
      intro s t hs hrun
      rcases (run_cons_eq_some step s t a as).mp hrun with ⟨s', hs', hrest⟩
      rw [along_cons step C s s' a as hs']
      by_cases hC : C s a
      -- The run so far is careful; the rest decides.
      · rcases ih s' t (hkeep s a s' hs hC hs') hrest with ⟨hal, ht⟩ | ⟨hno, ht⟩
        · exact Or.inl ⟨⟨hC, hal⟩, ht⟩
        · exact Or.inr ⟨fun h => hno h.2, ht⟩
      · exact Or.inr ⟨fun h => hC h.1,
          run_invariant step J hstay as s' t (hbreak s a s' hs hC hs') hrest⟩

theorem along_take (step : σ → α → Option σ) (C : σ → α → Prop) (as : List α) :
    ∀ (m : Nat) (s : σ), Along step C s as → Along step C s (as.take m) := by
  induction as with
  | nil =>
      intro m s h
      rwa [List.take_nil]
  | cons a as ih =>
      intro m s h
      cases m with
      | zero => trivial
      | succ m =>
          rw [along_cons_iff] at h
          rw [List.take_succ_cons, along_cons_iff]
          exact ⟨h.1, fun s' hstep => ih m s' (h.2 s' hstep)⟩

/-- A run that meets the side condition, continued by one that meets it from
    wherever the first one ends. -/
theorem along_append_of (step : σ → α → Option σ) (C : σ → α → Prop) (as bs : List α)
    (hbs : ∀ t, Along step C t bs) : ∀ s : σ, Along step C s as → Along step C s (as ++ bs) := by
  induction as with
  | nil => exact fun s _ => hbs s
  | cons a as ih =>
      intro s h
      rw [along_cons_iff] at h
      rw [List.cons_append, along_cons_iff]
      exact ⟨h.1, fun s' hstep => ih s' (h.2 s' hstep)⟩

/-- The side condition, step by step. -/
theorem along_of_steps (step : σ → α → Option σ) (C : σ → α → Prop) (as : List α) :
    ∀ s : σ, (∀ (m : Nat) (a : α) (t : σ), as[m]? = some a → run step s (as.take m) = some t →
      C t a) → Along step C s as := by
  induction as with
  | nil => exact fun s _ => trivial
  | cons a as ih =>
      intro s h
      rw [along_cons_iff]
      refine ⟨h 0 a s rfl rfl, fun s' hstep => ih s' (fun m b t hb hrun => h (m + 1) b t hb ?_)⟩
      rw [List.take_succ_cons]
      exact (run_cons_eq_some step s t a (as.take m)).mpr ⟨s', hstep, hrun⟩

/-- A side condition that keeps an invariant implies whatever the invariant and
    it imply. -/
theorem along_of_invariant (step : σ → α → Option σ) (C D : σ → α → Prop) (I : σ → Prop)
    (hkeep : ∀ s a s', I s → C s a → step s a = some s' → I s')
    (hD : ∀ s a, I s → C s a → D s a) :
    ∀ (as : List α) (s : σ), I s → Along step C s as → Along step D s as := by
  intro as
  induction as with
  | nil => exact fun s _ _ => trivial
  | cons a as ih =>
      intro s hs h
      rw [along_cons_iff] at h ⊢
      exact ⟨hD s a hs h.1,
        fun s' hstep => ih s' (hkeep s a s' hs h.1 hstep) (h.2 s' hstep)⟩

/-- Two side conditions that agree on the enabled steps of sound states agree on
    runs. -/
theorem along_congr_of_run (step : σ → α → Option σ) (C D : σ → α → Prop) (I : σ → Prop)
    (hkeep : ∀ s a s', I s → step s a = some s' → I s')
    (hiff : ∀ s a s', I s → step s a = some s' → (C s a ↔ D s a)) (as : List α) :
    ∀ s t : σ, I s → run step s as = some t → (Along step C s as ↔ Along step D s as) := by
  induction as with
  | nil => exact fun _ _ _ _ => Iff.rfl
  | cons a as ih =>
      intro s t hs hrun
      rcases (run_cons_eq_some step s t a as).mp hrun with ⟨s', hstep, hrest⟩
      rw [along_cons step C s s' a as hstep, along_cons step D s s' a as hstep,
        hiff s a s' hs hstep, ih s' t (hkeep s a s' hs hstep) hrest]

/-- Every state of the run has the property, the first one included. -/
def Throughout (step : σ → α → Option σ) (P : σ → Prop) : σ → List α → Prop
  | s, [] => P s
  | s, a :: as => P s ∧ match step s a with
    | none => True
    | some s' => Throughout step P s' as

theorem throughout_cons_iff (step : σ → α → Option σ) (P : σ → Prop) (s : σ) (a : α)
    (as : List α) :
    Throughout step P s (a :: as) ↔ P s ∧ ∀ s', step s a = some s' → Throughout step P s' as := by
  cases hstep : step s a with
  | none => simp only [Throughout, hstep, reduceCtorEq, false_implies, implies_true]
  | some s' => simp only [Throughout, hstep, Option.some.injEq, forall_eq']

theorem throughout_cons (step : σ → α → Option σ) (P : σ → Prop) (s s' : σ) (a : α)
    (as : List α) (hs : step s a = some s') :
    Throughout step P s (a :: as) ↔ P s ∧ Throughout step P s' as := by
  simp only [Throughout, hs]

theorem throughout_head (step : σ → α → Option σ) (P : σ → Prop) (s : σ) (as : List α)
    (h : Throughout step P s as) : P s := by
  cases as with
  | nil => exact h
  | cons a as => exact h.1

/-- The property, state by state. -/
theorem throughout_of_states (step : σ → α → Option σ) (P : σ → Prop) (as : List α) :
    ∀ s : σ, (∀ (m : Nat) (t : σ), run step s (as.take m) = some t → P t) →
      Throughout step P s as := by
  induction as with
  | nil => exact fun s h => h 0 s rfl
  | cons a as ih =>
      intro s h
      rw [throughout_cons_iff]
      refine ⟨h 0 s rfl, fun s' hstep => ih s' (fun m t hrun => h (m + 1) t ?_)⟩
      rw [List.take_succ_cons]
      exact (run_cons_eq_some step s t a (as.take m)).mpr ⟨s', hstep, hrun⟩

/-- An invariant that careful steps keep holds throughout a careful run, and
    with it what it implies. -/
theorem throughout_of_along (step : σ → α → Option σ) (C : σ → α → Prop) (I P : σ → Prop)
    (hkeep : ∀ s a s', I s → C s a → step s a = some s' → I s') (hP : ∀ s, I s → P s) :
    ∀ (as : List α) (s : σ), I s → Along step C s as → Throughout step P s as := by
  intro as
  induction as with
  | nil => exact fun s hs _ => hP s hs
  | cons a as ih =>
      intro s hs h
      rw [along_cons_iff] at h
      rw [throughout_cons_iff]
      exact ⟨hP s hs, fun s' hstep => ih s' (hkeep s a s' hs h.1 hstep) (h.2 s' hstep)⟩

theorem throughout_last (step : σ → α → Option σ) (P : σ → Prop) (as : List α) :
    ∀ s t : σ, Throughout step P s as → run step s as = some t → P t := by
  induction as with
  | nil =>
      intro s t h hrun
      simp only [run, Option.some.injEq] at hrun
      rwa [← hrun]
  | cons a as ih =>
      intro s t h hrun
      rcases (run_cons_eq_some step s t a as).mp hrun with ⟨s', hs', hrest⟩
      exact ih s' t ((throughout_cons step P s s' a as hs').mp h).2 hrest

/-- A property that careful steps keep and careless ones break at once holds
    throughout exactly the careful runs. -/
theorem throughout_iff_along (step : σ → α → Option σ) (C : σ → α → Prop) (P : σ → Prop)
    (hkeep : ∀ s a s', P s → C s a → step s a = some s' → P s')
    (hbreak : ∀ s a, P s → ¬ C s a → ∃ s', step s a = some s' ∧ ¬ P s') :
    ∀ (as : List α) (s : σ), P s → (Throughout step P s as ↔ Along step C s as) := by
  intro as
  induction as with
  | nil => exact fun s hs => ⟨fun _ => trivial, fun _ => hs⟩
  | cons a as ih =>
      intro s hs
      by_cases hC : C s a
      · cases hstep : step s a with
        | none => simp only [Throughout, Along, hstep, hs, hC]
        | some s' =>
            rw [throughout_cons step P s s' a as hstep, along_cons step C s s' a as hstep,
              ih s' (hkeep s a s' hs hC hstep)]
            exact ⟨fun h => ⟨hC, h.2⟩, fun h => ⟨hs, h.2⟩⟩
      · -- The careless step is enabled and its result shows it.
        rcases hbreak s a hs hC with ⟨s', hstep, hbad⟩
        rw [throughout_cons step P s s' a as hstep]
        exact ⟨fun h => absurd (throughout_head step P s' as h.2) hbad,
          fun h => absurd h.1 hC⟩

/-- Of a run whose steps are all enabled and of the kind `A`: the careful ones
    keep an invariant that implies the property, and the careless ones break the
    property at once. -/
theorem throughout_iff_along_of_kept (step : σ → α → Option σ) (A : α → Prop)
    (C : σ → α → Prop) (I P : σ → Prop)
    (hkeep : ∀ s a s', I s → A a → C s a → step s a = some s' → I s') (hP : ∀ s, I s → P s)
    (hbreak : ∀ s a s', I s → ¬C s a → step s a = some s' → ¬P s') :
    ∀ (as : List α) (s t : σ), (∀ a ∈ as, A a) → I s → run step s as = some t →
      (Throughout step P s as ↔ Along step C s as) := by
  intro as
  induction as with
  | nil => exact fun s _ _ hs _ => ⟨fun _ => trivial, fun _ => hP s hs⟩
  | cons a as ih =>
      intro s t hall hs hrun
      rw [List.forall_mem_cons] at hall
      rcases (run_cons_eq_some step s t a as).mp hrun with ⟨s', hstep, hrest⟩
      rw [throughout_cons step P s s' a as hstep, along_cons step C s s' a as hstep]
      by_cases hC : C s a
      · rw [ih s' t hall.2 (hkeep s a s' hs hall.1 hC hstep) hrest]
        exact ⟨fun h => ⟨hC, h.2⟩, fun h => ⟨hP s hs, h.2⟩⟩
      · exact ⟨fun h => absurd (throughout_head step P s' as h.2) (hbreak s a s' hs hC hstep),
          fun h => absurd h.1 hC⟩

/-- The property itself is the invariant. -/
theorem throughout_iff_along_of_run (step : σ → α → Option σ) (C : σ → α → Prop) (P : σ → Prop)
    (hkeep : ∀ s a s', P s → C s a → step s a = some s' → P s')
    (hbreak : ∀ s a s', P s → ¬C s a → step s a = some s' → ¬P s') (as : List α) (s t : σ)
    (hs : P s) (hrun : run step s as = some t) :
    Throughout step P s as ↔ Along step C s as :=
  throughout_iff_along_of_kept step (fun _ => True) C P P
    (fun s a s' hs _ hC hstep => hkeep s a s' hs hC hstep) (fun _ hs => hs) hbreak as s t
    (fun _ _ => trivial) hs hrun

/-- The same in the states of an invariant that every step keeps. -/
theorem throughout_iff_along_of_invariant (step : σ → α → Option σ) (C : σ → α → Prop)
    (I P : σ → Prop) (hkeep : ∀ s a s', I s → step s a = some s' → I s')
    (hiff : ∀ s a s', I s → P s → step s a = some s' → (P s' ↔ C s a)) (as : List α) (s t : σ)
    (hI : I s) (hP : P s) (hrun : run step s as = some t) :
    Throughout step P s as ↔ Along step C s as := by
  refine throughout_iff_along_of_kept step (fun _ => True) C (fun s => I s ∧ P s) P ?_
    (fun _ hs => hs.2) ?_ as s t (fun _ _ => trivial) ⟨hI, hP⟩ hrun
  · intro s a s' hs _ hC hstep
    exact ⟨hkeep s a s' hs.1 hstep, (hiff s a s' hs.1 hs.2 hstep).mpr hC⟩
  · intro s a s' hs hC hstep hP'
    exact hC ((hiff s a s' hs.1 hs.2 hstep).mp hP')

/-- The machine with a log of what its steps leave behind. -/
def logged {β : Type*} (step : σ → α → Option σ) (log : σ → α → List β) (s : σ × List β)
    (a : α) : Option (σ × List β) :=
  (step s.1 a).map (fun t => (t, s.2 ++ log s.1 a))

section Logged

variable {β : Type*} (step : σ → α → Option σ) (log : σ → α → List β)

theorem logged_eq_some (s t : σ × List β) (a : α) :
    logged step log s a = some t ↔ step s.1 a = some t.1 ∧ t.2 = s.2 ++ log s.1 a := by
  unfold logged
  rw [Option.map_eq_some_iff]
  constructor
  · rintro ⟨u, hstep, rfl⟩
    exact ⟨hstep, rfl⟩
  · rintro ⟨hstep, hlog⟩
    exact ⟨t.1, hstep, by rw [← hlog]⟩

/-- The log does not keep the machine from any run. -/
theorem run_logged (as : List α) :
    ∀ (s t : σ) (l : List β), run step s as = some t →
      ∃ l', run (logged step log) (s, l) as = some (t, l') := by
  induction as with
  | nil =>
      intro s t l hrun
      rw [run, Option.some.injEq] at hrun
      exact ⟨l, by rw [run, hrun]⟩
  | cons a as ih =>
      intro s t l hrun
      rcases (run_cons_eq_some step s t a as).mp hrun with ⟨m, hstep, hrest⟩
      rcases ih m t (l ++ log s a) hrest with ⟨l', hl'⟩
      exact ⟨l', (run_cons_eq_some _ _ _ a as).mpr
        ⟨(m, l ++ log s a), (logged_eq_some step log _ _ a).mpr ⟨hstep, rfl⟩, hl'⟩⟩

/-- What does not look at the log holds with it where it holds without. -/
theorem throughout_logged (P : σ → Prop) (as : List α) :
    ∀ (s : σ) (l : List β), Throughout (logged step log) (fun u => P u.1) (s, l) as ↔
      Throughout step P s as := by
  induction as with
  | nil => exact fun _ _ => Iff.rfl
  | cons a as ih =>
      intro s l
      cases hstep : step s a with
      | none => simp only [Throughout, logged, hstep, Option.map_none]
      | some m =>
          simp only [Throughout, logged, hstep, Option.map_some]
          exact and_congr_right (fun _ => ih m (l ++ log s a))

end Logged

/-- Where some enabled action decreases a measure until the goal holds, a run
    leads to the goal. -/
theorem run_reaches (step : σ → α → Option σ) (A : α → Prop) (I G : σ → Prop)
    (measure : σ → Nat)
    (hstep : ∀ s, I s → G s ∨ ∃ a s', A a ∧ step s a = some s' ∧ I s' ∧ measure s' < measure s) :
    ∀ s, I s → ∃ as t, (∀ a ∈ as, A a) ∧ run step s as = some t ∧ I t ∧ G t := by
  intro s
  induction hn : measure s using Nat.strongRecOn generalizing s with
  | ind n ih =>
      intro hI
      -- Either the goal holds here, or one step brings the measure down.
      rcases hstep s hI with hgoal | ⟨a, s', hA, hs', hI', hlt⟩
      · exact ⟨[], s, fun a ha => absurd ha List.not_mem_nil, rfl, hI, hgoal⟩
      · rcases ih (measure s') (hn ▸ hlt) s' rfl hI' with ⟨as, t, has, hrun, hIt, hgoal⟩
        refine ⟨a :: as, t, ?_, (run_cons_eq_some step s t a as).mpr ⟨s', hs', hrun⟩, hIt, hgoal⟩
        intro b hb
        rcases List.mem_cons.mp hb with heq | hin
        · rwa [heq]
        · exact has b hin

end Run

end Vena
