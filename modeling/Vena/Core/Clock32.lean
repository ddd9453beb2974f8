import Mathlib.Data.Nat.Basic

/-!
# The 32-bit Millisecond Counter

The arithmetic of a clock that counts milliseconds in an unsigned 32-bit word
and wraps. Real time is an unbounded natural number; `millis` is what the
program reads of it. Two idioms are in use. Elapsed time is the unsigned
difference of two readings, which the wrap does not disturb as long as less
than a full turn lies between them. A deadline is tested through the sign bit
of the same difference, which gives up half of the range: the deadline counts
as passed only while it lies less than half a turn back.

`deadlinePassed_iff` says what the second idiom really decides. It is an
equivalence in real time, so a program that lets a deadline go stale can be
judged without looking at a wrapped number again.

## Main definitions

* `turn`, `halfTurn`: How far the counter counts, and half of it.
* `millis`: The reading of the counter at a real time.
* `sub32`, `add32`: Unsigned 32-bit difference and sum.
* `isNeg32`: The sign bit, once the word is read as signed.
* `deadlinePassed`: The signed comparison of a reading with a deadline.

## Theorems

* `sub32_millis`: The difference of two readings is the elapsed time, modulo
  a turn.
* `le_sub32_millis`: Within a turn, whether a span of time has passed.
* `millis_add`: A sum of a reading and a delay is the reading at the later
  time.
* `deadlinePassed_iff`: When the signed comparison lets a deadline pass.
-/

namespace Vena

namespace Clock32

/-- The counter takes `2 ^ 32` values. -/
def turn : Nat := 4294967296

def halfTurn : Nat := 2147483648

/-- The counter at real time `t`, in milliseconds since it started. -/
def millis (t : Nat) : Nat :=
  t % turn

def add32 (a b : Nat) : Nat :=
  (a + b) % turn

def sub32 (a b : Nat) : Nat :=
  (a + turn - b) % turn

/-- The word is negative once its bits are read as a signed integer. -/
def isNeg32 (a : Nat) : Bool :=
  decide (halfTurn ≤ a)

/-- `!((long)(now - deadline) < 0)`. -/
def deadlinePassed (now deadline : Nat) : Bool :=
  !isNeg32 (sub32 now deadline)

/-- The unsigned difference of two readings is the elapsed time, modulo a turn. -/
theorem sub32_millis (t d : Nat) (hle : d ≤ t) : sub32 (millis t) (millis d) = (t - d) % turn := by
  unfold sub32 millis turn
  omega

theorem le_sub32_millis (t d p : Nat) (hle : d ≤ t) (hlt : t < d + turn) :
    p ≤ sub32 (millis t) (millis d) ↔ d + p ≤ t := by
  rw [sub32_millis t d hle, Nat.mod_eq_of_lt (by omega)]
  omega

theorem millis_add (t d : Nat) : add32 (millis t) d = millis (t + d) := by
  unfold add32 millis turn
  omega

/-- A deadline that lies in the past counts as passed exactly in the first
    half of every turn of the counter since then. -/
theorem deadlinePassed_iff (t d : Nat) (hle : d ≤ t) :
    deadlinePassed (millis t) (millis d) = true ↔ (t - d) % turn < halfTurn := by
  unfold deadlinePassed isNeg32
  rw [sub32_millis t d hle, Bool.not_eq_true', decide_eq_false_iff_not, Nat.not_le]

end Clock32

end Vena
