import Mathlib.Data.List.Basic
import Mathlib.Data.List.Perm.Basic

/-!
# The Bounded Drop-Oldest Queue

A first-in-first-out queue of at most `capacity` elements that makes room for
a new element by giving up the one at its head. The queue is a plain list,
oldest first, and the capacity is an argument of the operation that needs it:
nothing here is about how such a queue is laid out in memory.

`dropped` names the element a push gives up, so that nothing ever leaves the
queue unaccounted for. `perm_pushDrop` is that accounting: what was given up
together with what is left is what was there plus the new element.

## Main definitions

* `dropped`: The element a push makes room by giving up, if any.
* `pushDrop`: The queue after a push.

## Theorems

* `perm_pushDrop`: A push loses nothing but the dropped element.
* `mem_pushDrop`: What a push leaves was there before, or is the new element.
* `sublist_pushDrop`: A push keeps the order.
* `map_pushDrop`: A push commutes with relabelling the elements.
* `pairwise_pushDrop`: A push of a larger element keeps the queue increasing.
-/

namespace Vena

namespace DropOldest

variable {α : Type*}

/-- The element a push makes room by giving up: the head of a full queue. -/
def dropped (capacity : Nat) (q : List α) : Option α :=
  if q.length = capacity then q.head? else none

/-- The queue after pushing `x`. -/
def pushDrop (capacity : Nat) (q : List α) (x : α) : List α :=
  (if q.length = capacity then q.tail else q) ++ [x]

/-- A push loses nothing but the dropped element. -/
theorem perm_pushDrop (capacity : Nat) (q : List α) (x : α) :
    ((dropped capacity q).toList ++ pushDrop capacity q x).Perm (q ++ [x]) := by
  unfold dropped pushDrop
  by_cases hfull : q.length = capacity
  · rw [if_pos hfull, if_pos hfull]
    cases q with
    | nil => exact List.Perm.refl _
    | cons y ys => exact List.Perm.refl _
  · rw [if_neg hfull, if_neg hfull]
    exact List.Perm.refl _

theorem mem_pushDrop (capacity : Nat) (q : List α) (x y : α) (hy : y ∈ pushDrop capacity q x) :
    y ∈ q ∨ y = x := by
  have hmem : y ∈ q ++ [x] :=
    (perm_pushDrop capacity q x).subset (List.mem_append_right _ hy)
  simpa only [List.mem_append, List.mem_singleton] using hmem

/-- A push commutes with relabelling the elements. -/
theorem map_pushDrop {β : Type*} (f : α → β) (capacity : Nat) (q : List α) (x : α) :
    (pushDrop capacity q x).map f = pushDrop capacity (q.map f) (f x) := by
  unfold pushDrop
  rw [List.length_map]
  by_cases hfull : q.length = capacity
  · rw [if_pos hfull, if_pos hfull, List.map_append, List.map_tail, List.map_singleton]
  · rw [if_neg hfull, if_neg hfull, List.map_append, List.map_singleton]

/-- A push keeps the order. -/
theorem sublist_pushDrop (capacity : Nat) (q : List α) (x : α) :
    (pushDrop capacity q x).Sublist (q ++ [x]) := by
  unfold pushDrop
  by_cases hfull : q.length = capacity
  · rw [if_pos hfull]
    exact (List.tail_sublist q).append_right [x]
  · rw [if_neg hfull]

/-- A push of an element above all the others keeps a relation along the queue. -/
theorem pairwise_pushDrop (capacity : Nat) (q : List α) (x : α) (R : α → α → Prop)
    (hq : q.Pairwise R) (hx : ∀ y ∈ q, R y x) : (pushDrop capacity q x).Pairwise R := by
  -- Dropping the head leaves a sublist, so the relation only has to hold of the whole.
  have hsub : (pushDrop capacity q x).Sublist (q ++ [x]) := by
    unfold pushDrop
    by_cases hfull : q.length = capacity
    · rw [if_pos hfull]
      exact (List.tail_sublist q).append_right [x]
    · rw [if_neg hfull]
  refine List.Pairwise.sublist hsub (List.pairwise_append.mpr ⟨hq, List.pairwise_singleton _ _, ?_⟩)
  intro y hy z hz
  rw [List.mem_singleton] at hz
  rw [hz]
  exact hx y hy

end DropOldest

end Vena
