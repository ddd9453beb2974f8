import Mathlib.Algebra.Order.Group.Defs
import Mathlib.Algebra.BigOperators.Group.List.Basic
import Mathlib.Order.Lattice

/-!
# Saturating Sums

A value that is kept between two bounds, and a sum whose every partial sum is.
Such a sum forgets what it could not take up: it is not the clamped true sum.
In one direction it can still be bounded by it, and that is how long the sum
needs to leave the bound it has saturated at: as long as any sum from there
would.

## Main definitions

* `constrain`: The value, or the bound it is beyond.
* `accumulate`: The sum of a list, clamped after every summand.

## Theorems

* `le_constrain`, `constrain_le`: The bounds hold.
* `constrain_mono`: Clamping keeps the order.
* `accumulate_append`: The sum of a concatenation.
* `accumulate_le`: Summands that are not positive.
-/

namespace Vena

namespace Saturation

variable {α : Type*} [LinearOrder α]

def constrain (x lo hi : α) : α := if x < lo then lo else if hi < x then hi else x

theorem le_constrain (x lo hi : α) (h : lo ≤ hi) : lo ≤ constrain x lo hi := by
  unfold constrain
  split
  · exact le_refl lo
  · next hlo =>
      split
      · exact h
      · exact not_lt.mp hlo

theorem constrain_le (x lo hi : α) (h : lo ≤ hi) : constrain x lo hi ≤ hi := by
  unfold constrain
  split
  · exact h
  · split
    · exact le_refl hi
    · next hhi => exact not_lt.mp hhi

/-- The upper bound only lowers the value. -/
theorem constrain_le_max (x lo hi : α) : constrain x lo hi ≤ max lo x := by
  unfold constrain
  split
  · exact le_max_left lo x
  · split
    · next hhi => exact le_trans (le_of_lt hhi) (le_max_right lo x)
    · exact le_max_right lo x

theorem constrain_mono (x y lo hi : α) (h : lo ≤ hi) (hxy : x ≤ y) :
    constrain x lo hi ≤ constrain y lo hi := by
  by_cases hx : x < lo
  · have heq : constrain x lo hi = lo := by rw [constrain, if_pos hx]
    rw [heq]
    exact le_constrain y lo hi h
  · have hy : ¬ y < lo := fun hlt => hx (lt_of_le_of_lt hxy hlt)
    by_cases hhi : hi < y
    · have heq : constrain y lo hi = hi := by rw [constrain, if_neg hy, if_pos hhi]
      rw [heq]
      exact constrain_le x lo hi h
    -- Neither value is beyond a bound.
    · have hhx : ¬ hi < x := fun hlt => hhi (lt_of_lt_of_le hlt hxy)
      rw [constrain, constrain, if_neg hx, if_neg hy, if_neg hhx, if_neg hhi]
      exact hxy

variable [AddCommGroup α]

def accumulate (lo hi : α) : α → List α → α
  | i, [] => i
  | i, x :: xs => accumulate lo hi (constrain (i + x) lo hi) xs

theorem accumulate_append (lo hi : α) (xs ys : List α) :
    ∀ i : α, accumulate lo hi i (xs ++ ys) = accumulate lo hi (accumulate lo hi i xs) ys := by
  induction xs with
  | nil => exact fun _ => rfl
  | cons x xs ih => exact fun i => ih (constrain (i + x) lo hi)

variable [IsOrderedAddMonoid α]

theorem sum_nonpos (xs : List α) (h : ∀ x ∈ xs, x ≤ 0) : xs.sum ≤ 0 := by
  induction xs with
  | nil => exact le_of_eq List.sum_nil
  | cons x xs ih =>
      rw [List.forall_mem_cons] at h
      rw [List.sum_cons]
      exact add_nonpos h.1 (ih h.2)

/-- Summands that are not positive bring the sum down as far as the true sum
    goes, or to the lower bound. -/
theorem accumulate_le (lo hi : α) (xs : List α) :
    ∀ i : α, (∀ x ∈ xs, x ≤ 0) → accumulate lo hi i xs ≤ max lo (i + xs.sum) := by
  induction xs with
  | nil =>
      intro i _
      rw [accumulate, List.sum_nil, add_zero]
      exact le_max_right lo i
  | cons x xs ih =>
      intro i h
      rw [List.forall_mem_cons] at h
      have hsum : xs.sum ≤ 0 := sum_nonpos xs h.2
      have hrest := ih (constrain (i + x) lo hi) h.2
      have hone := constrain_le_max (i + x) lo hi
      rw [accumulate, List.sum_cons, ← add_assoc]
      refine le_trans hrest (max_le (le_max_left _ _) ?_)
      -- A sum that has hit the lower bound stays there.
      rcases le_max_iff.mp hone with hlo | hx
      · exact le_trans (add_le_of_le_of_nonpos hlo hsum) (le_max_left _ _)
      · exact le_trans (add_le_add_left hx xs.sum) (le_max_right _ _)

end Saturation

end Vena
