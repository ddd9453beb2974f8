import Vena.Core.DropOldest

/-!
# The Offline Buffer

`OfflineBuffer.cpp`: the ring of payloads the firmware fills while the broker
is out of reach. The class keeps an array of `capacity` slots and three
indices, `_head` for the next payload out, `_tail` for the next free slot and
`_count`. The relation between the three is never written down in the source,
so it is a field of the structure here, and a buffer whose indices disagree
cannot be built.

`contents` reads the ring off as a list, oldest first, and the three
refinement theorems say that under that reading the class is the bounded
drop-oldest queue of `Core.DropOldest`. Everything proved about delivery uses
the list; the modular arithmetic stays in this file.

## Main definitions

* `OfflineBuffer`: The ring, with its index invariant.
* `OfflineBuffer.init`, `push`, `peek`, `pop`, `size`, `empty`: The methods of
  the class.
* `OfflineBuffer.contents`: The stored payloads, oldest first.

## Theorems

* `contents_push`: A push is a drop-oldest push.
* `peek_eq_head`: A peek reads the oldest payload.
* `contents_pop`: A pop removes the oldest payload.
-/

namespace Vena

namespace Firmware

/-- The ring of `OfflineBuffer.h`. `String()` in a freed slot is `default`. -/
structure OfflineBuffer (α : Type) (capacity : Nat) where
  items : Fin capacity → α
  head : Nat
  tail : Nat
  count : Nat
  head_lt : head < capacity
  count_le : count ≤ capacity
  tail_eq : tail = (head + count) % capacity

namespace OfflineBuffer

variable {α : Type} {capacity : Nat}

theorem capacity_pos (b : OfflineBuffer α capacity) : 0 < capacity :=
  Nat.lt_of_le_of_lt (Nat.zero_le _) b.head_lt

/-- Indices are taken modulo the capacity wherever the source advances them. -/
def wrap (hpos : 0 < capacity) (i : Nat) : Fin capacity :=
  ⟨i % capacity, Nat.mod_lt i hpos⟩

/-- The constructor: no payload stored, both indices at slot zero. -/
def init [Inhabited α] (hpos : 0 < capacity) : OfflineBuffer α capacity where
  items := fun _ => default
  head := 0
  tail := 0
  count := 0
  head_lt := hpos
  count_le := Nat.zero_le _
  tail_eq := by rw [Nat.add_zero, Nat.zero_mod]

/-- `push`: a full buffer first gives up its oldest payload. -/
def push (b : OfflineBuffer α capacity) (payload : α) : OfflineBuffer α capacity :=
  if hfull : b.count = capacity then
    { items := Function.update b.items (wrap b.capacity_pos b.tail) payload
      head := (b.head + 1) % capacity
      tail := (b.tail + 1) % capacity
      count := b.count - 1 + 1
      head_lt := Nat.mod_lt _ b.capacity_pos
      count_le := by have := b.capacity_pos; omega
      tail_eq := by
        have hpos := b.capacity_pos
        rw [b.tail_eq, Nat.mod_add_mod, Nat.mod_add_mod]
        congr 1
        omega }
  else
    { items := Function.update b.items (wrap b.capacity_pos b.tail) payload
      head := b.head
      tail := (b.tail + 1) % capacity
      count := b.count + 1
      head_lt := b.head_lt
      count_le := by have := b.count_le; omega
      tail_eq := by rw [b.tail_eq, Nat.mod_add_mod, Nat.add_assoc] }

/-- `peek`: the oldest payload, or nothing when the buffer is empty. -/
def peek (b : OfflineBuffer α capacity) : Option α :=
  if b.count = 0 then none else some (b.items (wrap b.capacity_pos b.head))

/-- `pop`: clear the oldest slot and advance past it. -/
def pop [Inhabited α] (b : OfflineBuffer α capacity) : OfflineBuffer α capacity :=
  if hzero : b.count = 0 then b
  else
    { items := Function.update b.items (wrap b.capacity_pos b.head) default
      head := (b.head + 1) % capacity
      tail := b.tail
      count := b.count - 1
      head_lt := Nat.mod_lt _ b.capacity_pos
      count_le := by have := b.count_le; omega
      tail_eq := by
        rw [b.tail_eq, Nat.mod_add_mod]
        congr 1
        omega }

def size (b : OfflineBuffer α capacity) : Nat :=
  b.count

def empty (b : OfflineBuffer α capacity) : Bool :=
  b.count == 0

/-- The stored payloads, oldest first. -/
def contents (b : OfflineBuffer α capacity) : List α :=
  (List.range b.count).map (fun i => b.items (wrap b.capacity_pos (b.head + i)))

theorem length_contents (b : OfflineBuffer α capacity) : b.contents.length = b.size := by
  simp only [contents, size, List.length_map, List.length_range]

theorem empty_iff (b : OfflineBuffer α capacity) : b.empty = true ↔ b.contents = [] := by
  rw [← List.length_eq_zero_iff, length_contents, empty, size, beq_iff_eq]

/-- Two offsets less than a turn apart fall on different slots. -/
theorem wrap_ne (hpos : 0 < capacity) (i j : Nat) (hlt : i < j) (hturn : j < i + capacity) :
    wrap hpos i ≠ wrap hpos j := by
  intro heq
  have hmod : i % capacity = j % capacity := congrArg Fin.val heq
  have hdvd : capacity ∣ j - i :=
    Nat.dvd_of_mod_eq_zero (Nat.sub_mod_eq_zero_of_mod_eq hmod.symm)
  have hle := Nat.le_of_dvd (by omega) hdvd
  omega

theorem wrap_mod_add (hpos : 0 < capacity) (i j : Nat) :
    wrap hpos (i % capacity + j) = wrap hpos (i + j) := by
  simp only [wrap, Nat.mod_add_mod]

theorem wrap_tail (b : OfflineBuffer α capacity) :
    wrap b.capacity_pos b.tail = wrap b.capacity_pos (b.head + b.count) := by
  simp only [wrap, b.tail_eq, Nat.mod_mod]

/-- A push writes the slot `count` places after the head and leaves every
    slot that is kept alone. -/
theorem contents_push (b : OfflineBuffer α capacity) (payload : α) :
    (b.push payload).contents = DropOldest.pushDrop capacity b.contents payload := by
  have hpos := b.capacity_pos
  have hcount := b.count_le
  by_cases hfull : b.count = capacity
  · -- The tail has caught up with the head, so the write lands on the oldest slot.
    obtain ⟨n, hn⟩ : ∃ n, b.count = n + 1 := ⟨b.count - 1, by omega⟩
    have hlen : b.contents.length = capacity := by rw [length_contents, size, hfull]
    have hkept : ∀ i ∈ List.range n,
        Function.update b.items (wrap hpos b.tail) payload (wrap hpos ((b.head + 1) % capacity + i))
          = b.items (wrap hpos (b.head + (i + 1))) := by
      intro i hi
      rw [List.mem_range] at hi
      rw [wrap_mod_add, wrap_tail, hn, show b.head + 1 + i = b.head + (i + 1) by omega,
        Function.update_of_ne]
      exact wrap_ne hpos _ _ (by omega) (by omega)
    have hlast : Function.update b.items (wrap hpos b.tail) payload
        (wrap hpos ((b.head + 1) % capacity + n)) = payload := by
      rw [wrap_mod_add, wrap_tail, hn, show b.head + 1 + n = b.head + (n + 1) by omega,
        Function.update_self]
    unfold DropOldest.pushDrop
    rw [if_pos hlen]
    unfold push
    rw [dif_pos hfull]
    simp only [contents, hn, Nat.add_sub_cancel]
    rw [List.range_succ, List.map_append, List.map_singleton, hlast, List.map_congr_left hkept,
      ← List.range_succ, List.range_succ_eq_map, List.map_cons, List.tail_cons, List.map_map]
    rfl
  -- There is a free slot behind the last payload, and it is the one written.
  · have hlen : ¬ b.contents.length = capacity := by rwa [length_contents, size]
    have hkept : ∀ i ∈ List.range b.count,
        Function.update b.items (wrap hpos b.tail) payload (wrap hpos (b.head + i))
          = b.items (wrap hpos (b.head + i)) := by
      intro i hi
      rw [List.mem_range] at hi
      rw [wrap_tail, Function.update_of_ne]
      exact wrap_ne hpos _ _ (by omega) (by omega)
    unfold DropOldest.pushDrop
    rw [if_neg hlen]
    unfold push
    rw [dif_neg hfull]
    simp only [contents]
    rw [List.range_succ, List.map_append, List.map_singleton, List.map_congr_left hkept,
      wrap_tail, Function.update_self]

/-- A peek reads the oldest payload. -/
theorem peek_eq_head (b : OfflineBuffer α capacity) : b.peek = b.contents.head? := by
  unfold peek contents
  by_cases hzero : b.count = 0
  · rw [if_pos hzero, hzero]
    rfl
  · obtain ⟨n, hn⟩ : ∃ n, b.count = n + 1 := ⟨b.count - 1, by omega⟩
    rw [if_neg hzero, hn, List.range_succ_eq_map, List.map_cons, List.head?_cons, Nat.add_zero]

/-- A pop removes the oldest payload. -/
theorem contents_pop [Inhabited α] (b : OfflineBuffer α capacity) :
    b.pop.contents = b.contents.tail := by
  have hpos := b.capacity_pos
  have hcount := b.count_le
  by_cases hzero : b.count = 0
  · have hnil : b.contents = [] := by
      rw [← List.length_eq_zero_iff, length_contents, size, hzero]
    unfold pop
    rw [dif_pos hzero, hnil, List.tail_nil]
  · obtain ⟨n, hn⟩ : ∃ n, b.count = n + 1 := ⟨b.count - 1, by omega⟩
    -- Clearing the slot of the head leaves the others as they were.
    have hkept : ∀ i ∈ List.range n,
        Function.update b.items (wrap hpos b.head) default (wrap hpos ((b.head + 1) % capacity + i))
          = b.items (wrap hpos (b.head + (i + 1))) := by
      intro i hi
      rw [List.mem_range] at hi
      rw [wrap_mod_add, show b.head + 1 + i = b.head + (i + 1) by omega, Function.update_of_ne]
      exact (wrap_ne hpos _ _ (by omega) (by omega)).symm
    unfold pop
    rw [dif_neg hzero]
    simp only [contents, hn, Nat.add_sub_cancel]
    rw [List.map_congr_left hkept, List.range_succ_eq_map, List.map_cons, List.tail_cons,
      List.map_map]
    rfl

end OfflineBuffer

end Firmware

end Vena
