import Mathlib.Data.List.Chain
import Vena.Core.Clock32

/-!
# Periodic Timers on a Wrapping Counter

A loop that does something once a period keeps the reading of the counter at
which it last did, and compares the unsigned difference with the period in
every iteration. The difference is the time that has passed only if less than a
turn of the counter has, and nothing bounds that by itself: it takes iterations
that follow each other closely enough. How closely depends on the period, since
the timer may have been waiting for almost a whole one at the last iteration.

The log of a timer has the real time of every iteration and whether it fired
there. `onTime_timerLog` says that a timer in such a loop is one on an unbounded
clock, over any number of wraps.

## Main definitions

* `due`, `rearm`: The test, and the reading kept behind it.
* `timerLog`: A timer over the iterations of a loop.
* `lastFiring`: When it last fired.
* `Within`: Two iterations follow each other closely enough.
* `OnTime`: A timer fires exactly when its period has passed.

## Theorems

* `due_iff`: What one test decides.
* `onTime_timerLog`: A timer in such a loop is on time.
-/

namespace Vena

namespace PeriodicTimer

open Clock32

/-- `now - last >= period`. -/
def due (period now last : Nat) : Bool := period ≤ sub32 now last

/-- The reading that is kept: a timer that fires is set to `now`. -/
def rearm (period now last : Nat) : Nat := if due period now last then now else last

/-- The iterations of a loop at these real times, and whether the timer fires. -/
def timerLog (period : Nat) : Nat → List Nat → List (Nat × Bool)
  | _, [] => []
  | last, t :: ts =>
    (t, due period (millis t) last) :: timerLog period (rearm period (millis t) last) ts

/-- The real time of the last firing, or zero, which is when the counter began. -/
def lastFiring (log : List (Nat × Bool)) : Nat :=
  log.foldl (fun last it => if it.2 then it.1 else last) 0

/-- An iteration at `t'` may follow one at `t`. -/
def Within (period t t' : Nat) : Prop := t ≤ t' ∧ t' < t + (turn - period)

instance (period t t' : Nat) : Decidable (Within period t t') :=
  inferInstanceAs (Decidable (_ ∧ _))

/-- The timer fires exactly when its period has passed since it last did. -/
def OnTime (period : Nat) (log : List (Nat × Bool)) : Prop :=
  ∀ before t fired after, log = before ++ (t, fired) :: after →
    (fired = true ↔ lastFiring before + period ≤ t)

theorem lastFiring_concat (log : List (Nat × Bool)) (t : Nat) (fired : Bool) :
    lastFiring (log ++ [(t, fired)]) = if fired then t else lastFiring log := by
  rw [lastFiring, List.foldl_append, List.foldl_cons, List.foldl_nil]
  rfl

/-- The timer that fired at `last` has not been due since, up to `now`. -/
def Waiting (period last now : Nat) : Prop := last ≤ now ∧ (now = last ∨ now < last + period)

section Test

variable (period last now t : Nat)

/-- The counter cannot turn between two firings. -/
theorem due_iff (hwait : Waiting period last now) (hnext : Within period now t) :
    due period (millis t) (millis last) = true ↔ last + period ≤ t := by
  rcases hwait with ⟨hle, hrecent⟩
  rcases hnext with ⟨hnow, hgap⟩
  rw [due, decide_eq_true_eq]
  exact le_sub32_millis t last period (by omega) (by omega)

/-- What is kept is the reading at the last firing. -/
theorem rearm_millis (fired : Bool) (h : due period (millis t) (millis last) = fired) :
    rearm period (millis t) (millis last) = millis (if fired then t else last) := by
  rw [rearm, h, apply_ite millis]

theorem waiting_next (hwait : Waiting period last now) (hnext : Within period now t)
    (fired : Bool) (h : due period (millis t) (millis last) = fired) :
    Waiting period (if fired then t else last) t := by
  cases fired with
  | true => exact ⟨Nat.le_refl t, Or.inl rfl⟩
  | false =>
      have hearly : ¬last + period ≤ t := by
        rw [← due_iff period last now t hwait hnext, h]
        exact Bool.false_ne_true
      exact ⟨hwait.1.trans hnext.1, Or.inr (Nat.not_le.mp hearly)⟩

end Test

/-- From any iteration on, with the log of the ones before. -/
theorem onTime_from (period : Nat) (times : List Nat) :
    ∀ (now : Nat) (done : List (Nat × Bool)), Waiting period (lastFiring done) now →
      (now :: times).IsChain (Within period) →
      ∀ before t fired after,
        timerLog period (millis (lastFiring done)) times = before ++ (t, fired) :: after →
          (fired = true ↔ lastFiring (done ++ before) + period ≤ t) := by
  induction times with
  | nil =>
      intro now done _ _ before t fired after hlog
      exact absurd hlog.symm (List.append_ne_nil_of_right_ne_nil before (List.cons_ne_nil _ _))
  | cons t ts ih =>
      intro now done hwait hchain before t' fired after hlog
      rcases List.isChain_cons_cons.mp hchain with ⟨hnext, hrest⟩
      rw [timerLog] at hlog
      cases before with
      | nil =>
          -- This iteration.
          rw [List.nil_append, List.cons.injEq, Prod.mk.injEq] at hlog
          rcases hlog with ⟨⟨rfl, rfl⟩, _⟩
          rw [List.append_nil]
          exact due_iff period _ now t hwait hnext
      | cons it before =>
          rw [List.cons_append, List.cons.injEq] at hlog
          rcases hlog with ⟨rfl, hlog⟩
          rw [rearm_millis period _ t _ rfl, ← lastFiring_concat] at hlog
          have hwait' := waiting_next period _ now t hwait hnext _ rfl
          rw [← lastFiring_concat] at hwait'
          have hsplit := ih t _ hwait' hrest before t' fired after hlog
          rw [List.append_assoc] at hsplit
          exact hsplit

/-- A timer in such a loop is on time, however often the counter wraps. -/
theorem onTime_timerLog (period : Nat) (times : List Nat)
    (hchain : (0 :: times).IsChain (Within period)) : OnTime period (timerLog period 0 times) := by
  intro before t fired after hlog
  have hstart : Waiting period (lastFiring []) 0 := ⟨Nat.le_refl 0, Or.inl rfl⟩
  exact onTime_from period times 0 [] hstart hchain before t fired after hlog

end PeriodicTimer

end Vena
