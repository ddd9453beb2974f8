import Mathlib.Data.List.Basic

/-!
# Pools of Concurrent Processes

Several processes of one kind, kept in a list and named by their position in
it. A process moves by having its entry replaced and a new one joins at the
end, so positions never change their meaning. Two kinds of statement recur
about such a pool, and each has its rules here: something holds of every
process, and at most one process is in a certain situation.

## Main definitions

* `Each`: A property of every process and its position.
* `AtMostOne`: No two processes are in the situation.
* `total`: The sum of a weight over the pool.

## Theorems

* `getElem?_set_cases`, `getElem?_concat_cases`: Who is in the pool after a
  move and after an arrival.
* `mem_set_of_mem`: Who is still in it after a move.
* `each_set`, `each_concat`: How `Each` survives them.
* `atMostOne_set`, `atMostOne_enter`, `atMostOne_concat`, `atMostOne_join`: How
  `AtMostOne` does.
* `total_concat`, `total_set`, `total_set_lt`: How the sum changes.
-/

namespace Vena

namespace Processes

variable {π : Type*}

/-- Every process of the pool has the property, which may mention its position. -/
def Each (P : Nat → π → Prop) (ps : List π) : Prop :=
  ∀ (i : Nat) (p : π), ps[i]? = some p → P i p

/-- No two processes of the pool are in the situation `Q`. -/
def AtMostOne (Q : π → Prop) (ps : List π) : Prop :=
  ∀ (i j : Nat) (p q : π), ps[i]? = some p → ps[j]? = some q → Q p → Q q → i = j

theorem getElem?_set_cases (ps : List π) (k i : Nat) (p' p : π)
    (h : (ps.set k p')[i]? = some p) : (i = k ∧ p = p') ∨ (i ≠ k ∧ ps[i]? = some p) := by
  by_cases hik : i = k
  · subst hik
    rw [List.getElem?_set_self'] at h
    cases hget : ps[i]? with
    | none =>
        rw [hget] at h
        exact absurd h (by simp only [Option.map_eq_map, Option.map_none, reduceCtorEq,
          not_false_eq_true])
    | some q =>
        rw [hget] at h
        simp only [Option.map_eq_map, Option.map_some, Function.const_apply,
          Option.some.injEq] at h
        exact Or.inl ⟨rfl, h.symm⟩
  · rw [List.getElem?_set_ne (Ne.symm hik)] at h
    exact Or.inr ⟨hik, h⟩

theorem getElem?_set_of_ne (ps : List π) (k i : Nat) (p' p : π) (hne : i ≠ k)
    (h : ps[i]? = some p) : (ps.set k p')[i]? = some p := by
  rw [List.getElem?_set_ne (Ne.symm hne), h]

theorem getElem?_set_of_some (ps : List π) (k : Nat) (p' p : π) (h : ps[k]? = some p) :
    (ps.set k p')[k]? = some p' := by
  rw [List.getElem?_set_self']
  simp only [h, Option.map_eq_map, Option.map_some, Function.const_apply]

theorem mem_set_of_some (ps : List π) (k : Nat) (p p' : π) (h : ps[k]? = some p) :
    p' ∈ ps.set k p' :=
  List.mem_of_getElem? (getElem?_set_of_some ps k p' p h)

/-- Only the process that moves leaves the pool. -/
theorem mem_set_of_mem (ps : List π) (k : Nat) (p p' q : π) (h : ps[k]? = some p) (hq : q ∈ ps) :
    q ∈ ps.set k p' ∨ q = p := by
  rcases List.getElem?_of_mem hq with ⟨i, hi⟩
  by_cases hik : i = k
  · rw [hik, h, Option.some.injEq] at hi
    exact Or.inr hi.symm
  · exact Or.inl (List.mem_of_getElem? (getElem?_set_of_ne ps k i p' q hik hi))

theorem getElem?_concat_cases (ps : List π) (i : Nat) (p' p : π)
    (h : (ps ++ [p'])[i]? = some p) : ps[i]? = some p ∨ (i = ps.length ∧ p = p') := by
  by_cases hlt : i < ps.length
  · rw [List.getElem?_append_left hlt] at h
    exact Or.inl h
  · rw [List.getElem?_append_right (Nat.le_of_not_lt hlt), List.getElem?_singleton] at h
    by_cases hzero : i - ps.length = 0
    · rw [if_pos hzero, Option.some.injEq] at h
      exact Or.inr ⟨by omega, h.symm⟩
    · rw [if_neg hzero] at h
      exact absurd h (by simp only [reduceCtorEq, not_false_eq_true])

theorem getElem?_concat_of_some (ps : List π) (i : Nat) (p' p : π) (h : ps[i]? = some p) :
    (ps ++ [p'])[i]? = some p := by
  have hlt := (List.getElem?_eq_some_iff.mp h).1
  rw [List.getElem?_append_left hlt, h]

/-- A property of every process survives a move of process `k` that keeps it
    for `k` and does not spoil it for the others. -/
theorem each_set (P P' : Nat → π → Prop) (ps : List π) (k : Nat) (p' : π) (h : Each P ps)
    (hothers : ∀ i p, i ≠ k → ps[i]? = some p → P i p → P' i p) (hk : P' k p') :
    Each P' (ps.set k p') := by
  intro i p hget
  rcases getElem?_set_cases ps k i p' p hget with ⟨hi, hp⟩ | ⟨hne, hold⟩
  · rw [hi, hp]
    exact hk
  · exact hothers i p hne hold (h i p hold)

theorem each_concat (P : Nat → π → Prop) (ps : List π) (p' : π) (h : Each P ps)
    (hnew : P ps.length p') : Each P (ps ++ [p']) := by
  intro i p hget
  rcases getElem?_concat_cases ps i p' p hget with hold | ⟨hi, hp⟩
  · exact h i p hold
  · rw [hi, hp]
    exact hnew

/-- A process that moves without entering the situation leaves at most one in
    it. -/
theorem atMostOne_set (Q : π → Prop) (ps : List π) (k : Nat) (p p' : π) (h : AtMostOne Q ps)
    (hget : ps[k]? = some p) (hkeep : Q p' → Q p) : AtMostOne Q (ps.set k p') := by
  intro i j q r hi hj hq hr
  rcases getElem?_set_cases ps k i p' q hi with ⟨hik, hqp⟩ | ⟨hik, hiold⟩
  -- The one that moved was in the situation before, so the other one is it.
  · rcases getElem?_set_cases ps k j p' r hj with ⟨hjk, hrp⟩ | ⟨hjk, hjold⟩
    · rw [hik, hjk]
    · rw [hqp] at hq
      exact absurd (h j k r p hjold hget hr (hkeep hq)) hjk
  · rcases getElem?_set_cases ps k j p' r hj with ⟨hjk, hrp⟩ | ⟨hjk, hjold⟩
    · rw [hrp] at hr
      exact absurd (h i k q p hiold hget hq (hkeep hr)) hik
    · exact h i j q r hiold hjold hq hr

/-- A process may enter the situation while no other is in it. -/
theorem atMostOne_enter (Q : π → Prop) (ps : List π) (k : Nat) (p' : π)
    (hnone : ∀ i p, i ≠ k → ps[i]? = some p → ¬ Q p) : AtMostOne Q (ps.set k p') := by
  intro i j q r hi hj hq hr
  rcases getElem?_set_cases ps k i p' q hi with ⟨hik, _⟩ | ⟨hik, hiold⟩
  · rcases getElem?_set_cases ps k j p' r hj with ⟨hjk, _⟩ | ⟨hjk, hjold⟩
    · rw [hik, hjk]
    · exact absurd hr (hnone j r hjk hjold)
  · exact absurd hq (hnone i q hik hiold)

theorem atMostOne_concat (Q : π → Prop) (ps : List π) (p' : π) (h : AtMostOne Q ps)
    (hnew : ¬ Q p') : AtMostOne Q (ps ++ [p']) := by
  intro i j q r hi hj hq hr
  rcases getElem?_concat_cases ps i p' q hi with hiold | ⟨_, hqp⟩
  · rcases getElem?_concat_cases ps j p' r hj with hjold | ⟨_, hrp⟩
    · exact h i j q r hiold hjold hq hr
    · rw [hrp] at hr
      exact absurd hr hnew
  · rw [hqp] at hq
    exact absurd hq hnew

/-- A process may join in the situation while no other is in it. -/
theorem atMostOne_join (Q : π → Prop) (ps : List π) (p' : π) (hnone : ∀ p ∈ ps, ¬ Q p) :
    AtMostOne Q (ps ++ [p']) := by
  intro i j q r hi hj hq hr
  rcases getElem?_concat_cases ps i p' q hi with hiold | ⟨hi', _⟩
  · exact absurd hq (hnone q (List.mem_of_getElem? hiold))
  · rcases getElem?_concat_cases ps j p' r hj with hjold | ⟨hj', _⟩
    · exact absurd hr (hnone r (List.mem_of_getElem? hjold))
    · rw [hi', hj']

/-- The sum of a weight over the pool. -/
def total (w : π → Nat) : List π → Nat
  | [] => 0
  | p :: ps => w p + total w ps

theorem total_concat (w : π → Nat) (ps : List π) (p : π) :
    total w (ps ++ [p]) = total w ps + w p := by
  induction ps with
  | nil => exact Nat.add_comm _ _
  | cons q ps ih => rw [List.cons_append, total, ih, total, Nat.add_assoc]

/-- A move changes the sum by the weight of the process that moves. -/
theorem total_set (w : π → Nat) (ps : List π) (p p' : π) :
    ∀ k : Nat, ps[k]? = some p → total w (ps.set k p') + w p = total w ps + w p' := by
  induction ps with
  | nil => exact fun k h => absurd h (by simp only [List.getElem?_nil, reduceCtorEq,
      not_false_eq_true])
  | cons q ps ih =>
      intro k h
      cases k with
      | zero =>
          rw [List.getElem?_cons_zero, Option.some.injEq] at h
          rw [h, List.set_cons_zero, total, total]
          omega
      | succ k =>
          rw [List.getElem?_cons_succ] at h
          have hrest := ih k h
          rw [List.set_cons_succ, total, total]
          omega

/-- A process that moves to a smaller weight makes the sum smaller. -/
theorem total_set_lt (w : π → Nat) (ps : List π) (k : Nat) (p p' : π) (h : ps[k]? = some p)
    (hlt : w p' < w p) : total w (ps.set k p') < total w ps := by
  have hset := total_set w ps p p' k h
  omega

end Processes

end Vena
