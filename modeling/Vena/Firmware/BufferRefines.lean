import Vena.Core.Answers
import Vena.Firmware.OfflineBuffer

/-!
# The Buffer as a Queue

`tests/test_offline_flow.py` stands in for the firmware with a
`deque(maxlen=capacity)`. Whatever is called on the two, in whatever order, the
answers are the same, so what the test shows about its queue holds of the ring
in the firmware.

An index of the ring is below the capacity before it is advanced, so the sum
that is taken modulo the capacity does not leave `size_t` either.

## Main definitions

* `Op`, `Answer`: The public methods of the class and what they return.
* `OfflineBuffer.exec`: A call of a method.
* `queueExec`: The same call of a bounded queue.
* `OfflineBuffer.Consistent`: The three indices agree.

## Theorems

* `buffer_simulates`: The ring does what the queue does, call by call.
* `buffer_refines_queue`: No sequence of calls tells them apart.
-/

namespace Vena

namespace Firmware

open Answers

/-- The public methods but the constructor and `capacity()`. -/
inductive Op (α : Type) where
  | push (payload : α)
  | peek
  | pop
  | size
  | empty

/-- What a method returns; `peek` also writes its argument when it is true. -/
inductive Answer (α : Type) where
  | pushed (result : Bool)
  | peeked (out : Option α)
  | popped
  | size (n : Nat)
  | empty (result : Bool)
  deriving DecidableEq, Repr

variable {α : Type} {capacity : Nat}

namespace OfflineBuffer

def exec [Inhabited α] (b : OfflineBuffer α capacity) : Op α → OfflineBuffer α capacity × Answer α
  | .push payload => (b.push payload, .pushed true)
  | .peek => (b, .peeked b.peek)
  | .pop => (b.pop, .popped)
  | .size => (b, .size b.size)
  | .empty => (b, .empty b.empty)

/-- `_tail` is where `_head` and `_count` put it, and the ring is not overfull. -/
structure Consistent (b : OfflineBuffer α capacity) : Prop where
  tail : b.tail = (b.head + b.count) % capacity
  count : b.count ≤ capacity

theorem consistent (b : OfflineBuffer α capacity) : b.Consistent :=
  ⟨b.tail_eq, b.count_le⟩

theorem contents_init [Inhabited α] (hpos : 0 < capacity) :
    (init hpos : OfflineBuffer α capacity).contents = [] := rfl

end OfflineBuffer

/-- The same calls of a list that drops its head when a push finds it full. -/
def queueExec (capacity : Nat) (q : List α) : Op α → List α × Answer α
  | .push payload => (DropOldest.pushDrop capacity q payload, .pushed true)
  | .peek => (q, .peeked q.head?)
  | .pop => (q.tail, .popped)
  | .size => (q, .size q.length)
  | .empty => (q, .empty q.isEmpty)

/-- Read off as a list, the ring does what the queue does. -/
theorem buffer_simulates [Inhabited α] :
    Simulates (OfflineBuffer.exec : OfflineBuffer α capacity → _) (queueExec capacity)
      (fun b q => b.contents = q) where
  related b q op h := by
    cases op with
    | push payload =>
        show (b.push payload).contents = DropOldest.pushDrop capacity q payload
        rw [OfflineBuffer.contents_push, h]
    | pop =>
        show b.pop.contents = q.tail
        rw [OfflineBuffer.contents_pop, h]
    | peek => exact h
    | size => exact h
    | empty => exact h
  answer b q op h := by
    cases op with
    | push payload => rfl
    | pop => rfl
    | peek =>
        show Answer.peeked b.peek = .peeked q.head?
        rw [OfflineBuffer.peek_eq_head, h]
    | size =>
        show Answer.size b.size = .size q.length
        rw [← OfflineBuffer.length_contents, h]
    | empty =>
        have hempty : b.empty = q.isEmpty := by
          rw [Bool.eq_iff_iff, OfflineBuffer.empty_iff, h, List.isEmpty_iff]
        show Answer.empty b.empty = .empty q.isEmpty
        rw [hempty]

/-- A new ring answers any sequence of calls as an empty queue does, and its
    indices stay consistent. -/
theorem buffer_refines_queue [Inhabited α] (hpos : 0 < capacity) (ops : List (Op α)) :
    answers OfflineBuffer.exec (OfflineBuffer.init hpos : OfflineBuffer α capacity) ops =
      answers (queueExec capacity) [] ops ∧
    (after OfflineBuffer.exec (OfflineBuffer.init hpos : OfflineBuffer α capacity) ops).contents =
      after (queueExec capacity) [] ops ∧
    (after OfflineBuffer.exec
      (OfflineBuffer.init hpos : OfflineBuffer α capacity) ops).Consistent :=
  ⟨answers_eq _ _ _ buffer_simulates ops _ _ (OfflineBuffer.contents_init hpos),
    related_after _ _ _ buffer_simulates ops _ _ (OfflineBuffer.contents_init hpos),
    OfflineBuffer.consistent _⟩

/-- Two slots, and a third payload that takes the place of the first. -/
theorem buffer_refines_queue_full :
    answers OfflineBuffer.exec (OfflineBuffer.init (by decide) : OfflineBuffer Nat 2)
      [.push 1, .push 2, .push 3, .peek, .pop, .size] =
    [.pushed true, .pushed true, .pushed true, .peeked (some 2), .popped, .size 1] :=
  (buffer_refines_queue (by decide : 0 < 2)
    [.push 1, .push 2, .push 3, .peek, .pop, .size]).1.trans (by decide)

end Firmware

end Vena
