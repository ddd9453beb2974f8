import Mathlib.Tactic.TypeStar

/-!
# Topic Filters

A subscription names topics level by level: a level of its own, any one level,
or all the levels that are left. The levels may be of any type.

## Main definitions

* `Level`: A level of a filter.
* `Matches`: The topics a filter names.

## Theorems

* `matches_exact`: A filter that begins with a level names topics that do.
-/

namespace Vena

namespace TopicFilter

variable {α : Type*}

/-- A level of a filter; a `rest` stands for the levels from here on, be there
    any or none. -/
inductive Level (α : Type*) where
  | one
  | rest
  | exact (level : α)

def Matches : List (Level α) → List α → Prop
  | .rest :: _, _ => True
  | .one :: filter, _ :: topic => Matches filter topic
  | .exact level :: filter, first :: topic => level = first ∧ Matches filter topic
  | [], [] => True
  | _, _ => False

instance decidableMatches [DecidableEq α] :
    ∀ (filter : List (Level α)) (topic : List α), Decidable (Matches filter topic)
  | .rest :: _, _ => isTrue trivial
  | .one :: filter, _ :: topic => decidableMatches filter topic
  | .exact level :: filter, first :: topic =>
    @instDecidableAnd (level = first) _ _ (decidableMatches filter topic)
  | [], [] => isTrue trivial
  | .one :: _, [] => isFalse id
  | .exact _ :: _, [] => isFalse id
  | [], _ :: _ => isFalse id

theorem matches_exact (level : α) (filter : List (Level α)) (topic : List α)
    (h : Matches (.exact level :: filter) topic) :
    ∃ more, topic = level :: more ∧ Matches filter more := by
  cases topic with
  | nil => exact h.elim
  | cons first more => exact ⟨more, by rw [h.1], h.2⟩

end TopicFilter

end Vena
