import Vena.Core.Clock32

/-!
# Retry Timers on a Wrapping Clock

A retry timer keeps the earliest reading at which the next attempt may be made
and the delay the next failure will add to it, both as 32-bit words. An
attempt is allowed once the deadline counts as passed, a failure doubles the
delay up to a cap and moves the deadline, a success resets the delay and
leaves the deadline where it was.

That last point is what makes the timer delicate. The deadline a long
successful period leaves behind keeps ageing, and once it is more than half a
turn of the counter old it counts as lying in the future again. `Tracks` pairs
the timer with the real time of its deadline and of the last attempt, and
`ready_iff` is the exact account: when the cap has elapsed since the last
attempt, an attempt is allowed in the first half of every turn since the
deadline and refused in the second half.

## Main definitions

* `Backoff`: The timer.
* `Backoff.ready`: An attempt is allowed at this time.
* `Backoff.reset`: A success, or a call that finds nothing to do.
* `Backoff.postpone`: A failed attempt.
* `Backoff.Tracks`: The timer's real deadline and last attempt.

## Theorems

* `tracks_reset`, `tracks_later`, `tracks_attempt`, `tracks_postpone`: What
  each operation does to the real deadline.
* `ready_iff`: When an attempt that is due is allowed.
-/

namespace Vena

open Clock32

/-- A retry timer: the next attempt's reading and the current delay. -/
structure Backoff where
  nextAttemptMs : Nat
  backoffMs : Nat
  deriving DecidableEq, Repr

namespace Backoff

def ready (b : Backoff) (t : Nat) : Bool :=
  deadlinePassed (millis t) b.nextAttemptMs

def reset (b : Backoff) (start : Nat) : Backoff :=
  { b with backoffMs := start }

/-- Double the delay up to `cap` and put the deadline that far ahead. -/
def postpone (b : Backoff) (cap t : Nat) : Backoff :=
  { nextAttemptMs := add32 (millis t) (min (b.backoffMs * 2 % turn) cap)
    backoffMs := min (b.backoffMs * 2 % turn) cap }

/-- The timer's deadline lies at real time `deadline`, no further than `cap`
    after the last attempt, which was made by time `now`. Without an attempt
    the deadline is the start of the clock. -/
structure Tracks (b : Backoff) (cap deadline : Nat) (last : Option Nat) (now : Nat) : Prop where
  next_eq : b.nextAttemptMs = millis deadline
  backoff_le : b.backoffMs ≤ cap
  near_last : ∀ t ∈ last, deadline ≤ t + cap ∧ t ≤ now
  at_start : last = none → deadline = 0

theorem tracks_reset (b : Backoff) (cap deadline start now : Nat) (last : Option Nat)
    (hstart : start ≤ cap) (h : b.Tracks cap deadline last now) :
    (b.reset start).Tracks cap deadline last now :=
  ⟨h.next_eq, hstart, h.near_last, h.at_start⟩

theorem tracks_later (b : Backoff) (cap deadline now now' : Nat) (last : Option Nat)
    (hle : now ≤ now') (h : b.Tracks cap deadline last now) : b.Tracks cap deadline last now' :=
  ⟨h.next_eq, h.backoff_le,
    fun t ht => ⟨(h.near_last t ht).1, Nat.le_trans (h.near_last t ht).2 hle⟩, h.at_start⟩

/-- An attempt that leaves the deadline alone: it now lies even less far
    after the last attempt. -/
theorem tracks_attempt (b : Backoff) (cap deadline now t : Nat) (last : Option Nat)
    (hle : now ≤ t) (h : b.Tracks cap deadline last now) :
    b.Tracks cap deadline (some t) t := by
  refine ⟨h.next_eq, h.backoff_le, ?_, fun hnone => absurd hnone (by simp only [reduceCtorEq,
    not_false_eq_true])⟩
  intro u hu
  rw [Option.mem_some_iff] at hu
  subst hu
  cases hlast : last with
  | none =>
      -- No attempt yet: the deadline is the start of the clock.
      rw [h.at_start hlast]
      omega
  | some v =>
      have hv := h.near_last v hlast
      omega

/-- An attempt that arms the timer `delay` after itself. -/
theorem tracks_armed (b : Backoff) (cap t delay : Nat) (hdelay : delay ≤ cap)
    (hnext : b.nextAttemptMs = add32 (millis t) delay) (hback : b.backoffMs ≤ cap) :
    b.Tracks cap (t + delay) (some t) t := by
  refine ⟨by rw [hnext, millis_add], hback, ?_, fun hnone => absurd hnone (by simp only
    [reduceCtorEq, not_false_eq_true])⟩
  intro u hu
  rw [Option.mem_some_iff] at hu
  omega

theorem tracks_postpone (b : Backoff) (cap t : Nat) :
    (b.postpone cap t).Tracks cap (t + (b.postpone cap t).backoffMs) (some t) t :=
  tracks_armed _ cap t _ (Nat.min_le_right _ _) rfl (Nat.min_le_right _ _)

/-- When the cap has elapsed since the last attempt, the next one is allowed
    exactly in the first half of every turn of the clock since the deadline. -/
theorem ready_iff (b : Backoff) (cap deadline now t : Nat) (last : Option Nat)
    (h : b.Tracks cap deadline last now) (hdue : ∀ u ∈ last, u + cap ≤ t) :
    b.ready t = true ↔ (t - deadline) % turn < halfTurn := by
  -- The deadline is not ahead, so the unsigned difference is the time since then.
  have hle : deadline ≤ t := by
    cases hlast : last with
    | none =>
        rw [h.at_start hlast]
        exact Nat.zero_le t
    | some u =>
        have hu := (h.near_last u hlast).1
        have hd := hdue u hlast
        omega
  unfold ready
  rw [h.next_eq, deadlinePassed_iff t deadline hle]

end Backoff

end Vena
