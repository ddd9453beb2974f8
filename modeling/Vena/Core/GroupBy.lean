import Mathlib.Algebra.BigOperators.Group.List.Lemmas
import Mathlib.Algebra.GroupWithZero.Nat
import Mathlib.Algebra.Order.BigOperators.Group.List
import Mathlib.Algebra.Order.Group.Nat
import Mathlib.Data.List.Sort

/-!
# Grouping, Sorting and Cutting

The meaning of a query that groups rows by a key, orders the groups by it and
returns the first few. What a reader of such a query relies on is that nothing
is lost, and these are the rules for it: all groups together hold every row
once, a cut keeps all rows if and only if it keeps all groups, and the last
group is the one with the greatest key.

## Main definitions

* `keys`: The keys that occur, in ascending order.
* `groupBy`: Each key with its rows.

## Theorems

* `length_groupBy`: There are as many groups as keys.
* `sum_groupBy`: The groups hold every row once.
* `sum_take_eq_iff`: A cut of positive numbers loses something unless it keeps
  everything.
* `sum_take_groupBy`: So does a cut of the groups.
* `getLast?_sorted`: The last row of a sorted table.
* `getLast?_groupBy`: The last group.
* `perm_groupBy`: The groups together are the rows.
* `keys_coarser`, `filter_coarser`: A coarser key groups the groups.
-/

namespace Vena

namespace GroupBy

variable {κ ρ : Type*} [LinearOrder κ]

/-- The keys that occur in the rows, in ascending order. -/
def keys (key : ρ → κ) (rows : List ρ) : List κ :=
  (rows.map key).dedup.insertionSort (· ≤ ·)

/-- Every key with the rows that have it. -/
def groupBy (key : ρ → κ) (rows : List ρ) : List (κ × List ρ) :=
  (keys key rows).map (fun k => (k, rows.filter (fun r => key r = k)))

/-- A cut of a list of positive numbers has the whole sum if and only if it is
    the whole list. -/
theorem sum_take_eq_iff (ns : List Nat) (n : Nat) (hpos : ∀ k ∈ ns, 0 < k) :
    (ns.take n).sum = ns.sum ↔ ns.length ≤ n := by
  constructor
  · intro h
    have hsplit : (ns.take n).sum + (ns.drop n).sum = ns.sum := by
      rw [← List.sum_append, List.take_append_drop]
    by_contra hlt
    have hdrop : 0 < (ns.drop n).length := by
      rw [List.length_drop]
      omega
    -- Something is cut off, and it is positive.
    rcases List.exists_mem_of_length_pos hdrop with ⟨k, hk⟩
    have hle : k ≤ (ns.drop n).sum := List.single_le_sum (fun _ _ => Nat.zero_le _) k hk
    have hk' := hpos k (List.mem_of_mem_drop hk)
    omega
  · intro h
    rw [List.take_of_length_le h]

theorem mem_keys (key : ρ → κ) (rows : List ρ) (k : κ) :
    k ∈ keys key rows ↔ ∃ r ∈ rows, key r = k := by
  rw [keys, List.mem_insertionSort, List.mem_dedup, List.mem_map]

theorem length_groupBy (key : ρ → κ) (rows : List ρ) :
    (groupBy key rows).length = (rows.map key).dedup.length := by
  rw [groupBy, List.length_map, keys, List.length_insertionSort]

/-- No group is empty. -/
theorem pos_of_mem_groupBy (key : ρ → κ) (rows : List ρ) :
    ∀ n ∈ (groupBy key rows).map (fun g => g.2.length), 0 < n := by
  intro n hn
  rcases List.mem_map.mp hn with ⟨g, hg, hlen⟩
  rcases List.mem_map.mp hg with ⟨k, hk, heq⟩
  rcases (mem_keys key rows k).mp hk with ⟨r, hr, hkey⟩
  rw [← hlen, ← heq]
  exact List.length_pos_of_mem (List.mem_filter.mpr ⟨hr, decide_eq_true hkey⟩)

/-- The groups together hold every row once. -/
theorem sum_groupBy (key : ρ → κ) (rows : List ρ) :
    ((groupBy key rows).map (fun g => g.2.length)).sum = rows.length := by
  have hcount : ∀ k, (rows.filter (fun r => key r = k)).length = (rows.map key).count k := by
    intro k
    rw [List.count, List.countP_map, List.countP_eq_length_filter]
    congr 2
  -- The order of the keys does not matter to the sum.
  have hsorted := (List.perm_insertionSort (· ≤ ·) (rows.map key).dedup).map
    (fun k => (rows.map key).count k)
  rw [groupBy, List.map_map]
  simp only [Function.comp_def, hcount]
  rw [keys, hsorted.sum_eq, List.sum_map_count_dedup_eq_length, List.length_map]

/-- The first `n` groups hold every row if and only if there are no others. -/
theorem sum_take_groupBy (key : ρ → κ) (rows : List ρ) (n : Nat) :
    (((groupBy key rows).take n).map (fun g => g.2.length)).sum = rows.length ↔
      (groupBy key rows).length ≤ n := by
  rw [← sum_groupBy key rows, List.map_take, sum_take_eq_iff _ n (pos_of_mem_groupBy key rows),
    List.length_map]

/-- The last row of a table sorted by a key has the greatest key. -/
theorem getLast?_sorted (key : ρ → κ) (rows : List ρ) (r : ρ)
    (hsorted : rows.Pairwise (fun a b => key a ≤ key b)) (hr : r ∈ rows) :
    ∃ last ∈ rows, rows.getLast? = some last ∧ key r ≤ key last := by
  have hne := List.ne_nil_of_mem hr
  have : Std.Refl (fun a b : ρ => key a ≤ key b) := ⟨fun _ => le_refl _⟩
  exact ⟨rows.getLast hne, List.getLast_mem hne, List.getLast?_eq_some_getLast hne,
    hsorted.rel_getLast hr⟩

/-- The last group has the greatest key. -/
theorem getLast?_groupBy (key : ρ → κ) (rows : List ρ) (r : ρ) (hr : r ∈ rows)
    (hmax : ∀ r' ∈ rows, key r' ≤ key r) :
    (groupBy key rows).getLast? = some (key r, rows.filter (fun r' => key r' = key r)) := by
  have hsorted : (keys key rows).Pairwise (fun a b => id a ≤ id b) :=
    List.pairwise_insertionSort (· ≤ ·) _
  have hin : key r ∈ keys key rows := (mem_keys key rows (key r)).mpr ⟨r, hr, rfl⟩
  rcases getLast?_sorted id (keys key rows) (key r) hsorted hin with ⟨last, hlast, hget, hle⟩
  rcases (mem_keys key rows last).mp hlast with ⟨r', hr', heq⟩
  have hlast : last = key r := le_antisymm (heq ▸ hmax r' hr') hle
  rw [groupBy, List.getLast?_map, hget, hlast]
  rfl

/-- Rows split by a list of keys that has all of theirs. -/
theorem perm_flatMap_keys (key : ρ → κ) (ks : List κ) (hks : ks.Nodup) :
    ∀ rows : List ρ, (∀ r ∈ rows, key r ∈ ks) →
      (ks.flatMap (fun k => rows.filter (fun r => key r = k))).Perm rows := by
  induction ks with
  | nil =>
      intro rows h
      cases rows with
      | nil => exact List.Perm.refl _
      | cons r rows => exact absurd (h r List.mem_cons_self) List.not_mem_nil
  | cons k ks ih =>
      intro rows h
      rw [List.nodup_cons] at hks
      rw [List.flatMap_cons]
      have hrest : ks.flatMap (fun k' => rows.filter (fun r => key r = k')) =
          ks.flatMap (fun k' => (rows.filter (fun r => ! decide (key r = k))).filter
            (fun r => key r = k')) := by
        refine List.flatMap_congr (fun k' hk' => ?_)
        rw [List.filter_filter]
        refine List.filter_congr (fun r _ => ?_)
        -- A row under a later key is not under this one.
        by_cases hr : key r = k'
        · have hne : ¬ key r = k := fun heq => hks.1 (heq ▸ hr ▸ hk')
          rw [decide_eq_true hr, decide_eq_false hne, Bool.not_false, Bool.and_self]
        · rw [decide_eq_false hr, Bool.false_and]
      rw [hrest]
      refine List.Perm.trans (List.Perm.append_left _ (ih hks.2 _ (fun r hr => ?_)))
        (List.filter_append_perm (fun r => decide (key r = k)) rows)
      rw [List.mem_filter, Bool.not_eq_true', decide_eq_false_iff_not] at hr
      exact (List.mem_cons.mp (h r hr.1)).resolve_left hr.2

theorem nodup_keys (key : ρ → κ) (rows : List ρ) : (keys key rows).Nodup :=
  ((List.perm_insertionSort _ _).nodup_iff).mpr (List.nodup_dedup _)

/-- The groups together are the rows. -/
theorem perm_groupBy (key : ρ → κ) (rows : List ρ) :
    ((groupBy key rows).flatMap Prod.snd).Perm rows := by
  rw [groupBy, List.flatMap_map]
  exact perm_flatMap_keys key (keys key rows) (nodup_keys key rows) rows
    (fun r hr => (mem_keys key rows (key r)).mpr ⟨r, hr, rfl⟩)

section Coarser

variable {κ' : Type*} [LinearOrder κ']

/-- The keys of a coarser grouping are those of the keys. -/
theorem keys_coarser (f : ρ → κ) (g : κ → κ') (rows : List ρ) :
    keys (fun r => g (f r)) rows = keys g (keys f rows) := by
  refine List.Perm.eq_of_pairwise (fun a b _ _ hab hba => le_antisymm hab hba)
    (List.pairwise_insertionSort (· ≤ ·) _) (List.pairwise_insertionSort (· ≤ ·) _) ?_
  rw [List.perm_ext_iff_of_nodup (nodup_keys _ _) (nodup_keys _ _)]
  intro K
  rw [mem_keys, mem_keys]
  constructor
  · rintro ⟨r, hr, rfl⟩
    exact ⟨f r, (mem_keys f rows (f r)).mpr ⟨r, hr, rfl⟩, rfl⟩
  · rintro ⟨k, hk, rfl⟩
    rcases (mem_keys f rows k).mp hk with ⟨r, hr, rfl⟩
    exact ⟨r, hr, rfl⟩

/-- The rows of a coarse group are those of the fine groups in it. -/
theorem filter_coarser (f : ρ → κ) (g : κ → κ') (rows : List ρ) (K : κ') :
    (((groupBy f rows).filter (fun p => g p.1 = K)).flatMap Prod.snd).Perm
      (rows.filter (fun r => g (f r) = K)) := by
  have hgroups : ∀ gs : List (κ × List ρ), (∀ p ∈ gs, ∀ r ∈ p.2, f r = p.1) →
      (gs.filter (fun p => g p.1 = K)).flatMap Prod.snd =
        (gs.flatMap Prod.snd).filter (fun r => g (f r) = K) := by
    intro gs
    induction gs with
    | nil => exact fun _ => rfl
    | cons p gs ih =>
        intro h
        rw [List.forall_mem_cons] at h
        rw [List.filter_cons, List.flatMap_cons, List.filter_append, ← ih h.2]
        split
        · next hp =>
            have hall : p.2.filter (fun r => g (f r) = K) = p.2 :=
              List.filter_eq_self.mpr (fun r hr => by rwa [h.1 r hr])
            rw [List.flatMap_cons, hall]
        · next hp =>
            have hnone : p.2.filter (fun r => g (f r) = K) = [] :=
              List.filter_eq_nil_iff.mpr (fun r hr => by rwa [h.1 r hr])
            rw [hnone, List.nil_append]
  rw [hgroups _ (fun p hp r hr => ?_)]
  · exact (perm_groupBy f rows).filter _
  · rcases List.mem_map.mp hp with ⟨k, _, rfl⟩
    exact of_decide_eq_true (List.mem_filter.mp hr).2

end Coarser

end GroupBy

end Vena
