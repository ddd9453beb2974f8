import Mathlib.Data.List.Forall2

/-!
# Components That Answer

A component that is called, changes its state and answers, as a function
`exec : σ → α → σ × ω`. Two components are told apart by their answers only,
and a client that makes any number of calls cannot do that when every call keeps
the states related and gives the same answer. That is the rule here; which
relation it is depends on the component.

A component that is called by many does not let one of them see the others if
two runs with the same calls of that one, and any calls of the others in
between, look alike to it. `Isolates` is what has to be shown of single calls:
those of the others are not seen in the state, and those of the one are
answered alike in states that look alike.

## Main definitions

* `answers`: What a list of calls is answered.
* `after`: The state behind them.
* `Simulates`: Related states give equal answers and stay related.
* `answersTo`: What some of the calls are answered.
* `Isolates`: The other calls are not seen.

## Theorems

* `answers_eq`: No list of calls tells the two apart.
* `related_after`: What is related stays so.
* `isolated`: Two runs with the same calls of one look alike to it.
-/

namespace Vena

namespace Answers

variable {σ τ α ω : Type*}

def answers (exec : σ → α → σ × ω) : σ → List α → List ω
  | _, [] => []
  | s, a :: as => (exec s a).2 :: answers exec (exec s a).1 as

def after (exec : σ → α → σ × ω) : σ → List α → σ
  | s, [] => s
  | s, a :: as => after exec (exec s a).1 as

/-- Related states answer a call in the same way and stay related. -/
structure Simulates (exec : σ → α → σ × ω) (exec' : τ → α → τ × ω) (R : σ → τ → Prop) :
    Prop where
  related : ∀ s t a, R s t → R (exec s a).1 (exec' t a).1
  answer : ∀ s t a, R s t → (exec s a).2 = (exec' t a).2

/-- No list of calls tells the two components apart. -/
theorem answers_eq (exec : σ → α → σ × ω) (exec' : τ → α → τ × ω) (R : σ → τ → Prop)
    (hsim : Simulates exec exec' R) (as : List α) :
    ∀ (s : σ) (t : τ), R s t → answers exec s as = answers exec' t as := by
  induction as with
  | nil => exact fun _ _ _ => rfl
  | cons a as ih =>
      intro s t h
      rw [answers, answers, hsim.answer s t a h, ih _ _ (hsim.related s t a h)]

theorem related_after (exec : σ → α → σ × ω) (exec' : τ → α → τ × ω) (R : σ → τ → Prop)
    (hsim : Simulates exec exec' R) (as : List α) :
    ∀ (s : σ) (t : τ), R s t → R (after exec s as) (after exec' t as) := by
  induction as with
  | nil => exact fun _ _ h => h
  | cons a as ih => exact fun s t h => ih _ _ (hsim.related s t a h)

/-- What the calls that are `mine` are answered. -/
def answersTo (exec : σ → α → σ × ω) (mine : α → Bool) : σ → List α → List ω
  | _, [] => []
  | s, a :: as =>
    if mine a then (exec s a).2 :: answersTo exec mine (exec s a).1 as
    else answersTo exec mine (exec s a).1 as

/-- Calls that are not mine keep the states alike on either side, and calls of mine
    that are alike are answered alike. -/
structure Isolates (exec : σ → α → σ × ω) (mine : α → Bool) (R : σ → σ → Prop)
    (A : α → α → Prop) (O : ω → ω → Prop) : Prop where
  left : ∀ s t a, R s t → mine a = false → R (exec s a).1 t
  right : ∀ s t b, R s t → mine b = false → R s (exec t b).1
  both : ∀ s t a b, R s t → mine a = true → mine b = true → A a b →
    R (exec s a).1 (exec t b).1 ∧ O (exec s a).2 (exec t b).2

/-- What is alike reads the same. -/
theorem map_eq_of_forall₂ {β γ : Type*} {S : α → β → Prop} {f : α → γ} {g : β → γ} {as : List α}
    {bs : List β} (hread : ∀ a b, S a b → f a = g b) (h : List.Forall₂ S as bs) :
    as.map f = bs.map g := by
  have hboth : List.Forall₂ Eq (as.map f) (bs.map g) :=
    List.forall₂_map_left_iff.mpr (List.forall₂_map_right_iff.mpr (h.imp hread))
  rwa [List.forall₂_eq_eq_eq] at hboth

/-- What reads the same is alike. -/
theorem forall₂_of_map_eq {γ : Type*} {S : α → α → Prop} {f : α → γ} {as bs : List α}
    (hread : ∀ a b, f a = f b → S a b) (h : as.map f = bs.map f) : List.Forall₂ S as bs := by
  have hboth : List.Forall₂ Eq (as.map f) (bs.map f) := h ▸ List.forall₂_refl _
  rw [List.forall₂_map_left_iff, List.forall₂_map_right_iff] at hboth
  exact hboth.imp hread

section Isolated

variable (exec : σ → α → σ × ω) (mine : α → Bool) (R : σ → σ → Prop) (A : α → α → Prop)
  (O : ω → ω → Prop)

/-- The calls before the first of mine. -/
theorem related_to_first (hiso : Isolates exec mine R A O) (a : α) (as' : List α)
    (bs : List α) : ∀ s t, R s t → List.Forall₂ A (a :: as') (bs.filter mine) →
      ∃ t' b bs', mine b = true ∧ A a b ∧ List.Forall₂ A as' (bs'.filter mine) ∧ R s t' ∧
        after exec t bs = after exec (exec t' b).1 bs' ∧
        answersTo exec mine t bs = (exec t' b).2 :: answersTo exec mine (exec t' b).1 bs' := by
  induction bs with
  | nil => exact fun s t _ hcalls => absurd hcalls nofun
  | cons b bs ih =>
      intro s t h hcalls
      cases hb : mine b with
      | true =>
          rw [List.filter_cons_of_pos hb] at hcalls
          rcases List.forall₂_cons.mp hcalls with ⟨hab, hrest⟩
          exact ⟨t, b, bs, hb, hab, hrest, h, rfl, if_pos hb⟩
      | false =>
          have hneg : ¬mine b = true := Bool.eq_false_iff.mp hb
          rw [List.filter_cons_of_neg hneg] at hcalls
          rcases ih s _ (hiso.right s t b h hb) hcalls with
            ⟨t', b', bs', hb', hab, hrest, h', hafter, hanswers⟩
          exact ⟨t', b', bs', hb', hab, hrest, h', hafter, (if_neg hneg).trans hanswers⟩

/-- Only calls of the others. -/
theorem related_without (hiso : Isolates exec mine R A O) (bs : List α) :
    ∀ s t, R s t → bs.filter mine = [] →
      R s (after exec t bs) ∧ answersTo exec mine t bs = [] := by
  induction bs with
  | nil => exact fun s t h _ => ⟨h, rfl⟩
  | cons b bs ih =>
      intro s t h hnone
      cases hb : mine b with
      | true =>
          rw [List.filter_cons_of_pos hb] at hnone
          exact absurd hnone (List.cons_ne_nil _ _)
      | false =>
          have hneg : ¬mine b = true := Bool.eq_false_iff.mp hb
          rw [List.filter_cons_of_neg hneg] at hnone
          rw [answersTo, if_neg hneg]
          exact ih s _ (hiso.right s t b h hb) hnone

/-- Two runs with the same calls of one, and any of the others in between, leave it
    with states that look alike and answer it alike. -/
theorem isolated (hiso : Isolates exec mine R A O) (as : List α) :
    ∀ (bs : List α) (s t : σ), R s t → List.Forall₂ A (as.filter mine) (bs.filter mine) →
      R (after exec s as) (after exec t bs) ∧
        List.Forall₂ O (answersTo exec mine s as) (answersTo exec mine t bs) := by
  induction as with
  | nil =>
      intro bs s t h hcalls
      rw [List.filter_nil, List.forall₂_nil_left_iff] at hcalls
      rcases related_without exec mine R A O hiso bs s t h hcalls with ⟨hrelated, hnone⟩
      rw [hnone]
      exact ⟨hrelated, .nil⟩
  | cons a as ih =>
      intro bs s t h hcalls
      cases ha : mine a with
      | true =>
          rw [List.filter_cons_of_pos ha] at hcalls
          rcases related_to_first exec mine R A O hiso a _ bs s t h hcalls with
            ⟨t', b, bs', hb, hab, hrest, h', hafter, hanswers⟩
          rcases hiso.both s t' a b h' ha hb hab with ⟨hnext, hanswer⟩
          rcases ih bs' _ _ hnext hrest with ⟨hlast, hothers⟩
          rw [after, hafter, answersTo, if_pos ha, hanswers]
          exact ⟨hlast, .cons hanswer hothers⟩
      | false =>
          have hneg : ¬mine a = true := Bool.eq_false_iff.mp ha
          rw [List.filter_cons_of_neg hneg] at hcalls
          rw [after, answersTo, if_neg hneg]
          exact ih bs _ t (hiso.left s t a h ha) hcalls

end Isolated

end Answers

end Vena
