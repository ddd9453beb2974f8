import Mathlib.Data.List.Nodup
import Mathlib.Data.List.Perm.Subperm
import Mathlib.Data.List.Sort

/-!
# Keeping the Newest Rows

A table bounded to its `n` newest rows by a query and a deletion: the query
returns the first row that is too many, and everything that is not newer than
it is deleted. When several such pairs of steps run at once, the deletion uses
an answer that later insertions have made old. These are the facts that make
this safe: an old answer never names a row among the `n` newest of a larger
table, and an answer given while all `n` newest rows are there names every
other row. `prune` is the pair run alone.

The instants of the rows are assumed to be distinct.

## Main definitions

* `newer`: How many rows are newer than an instant.
* `newestFirst`: The rows, newest first.
* `newest`: The `n` newest rows.
* `cutoff`: The first row that is too many.
* `prune`: The rows a deletion up to it spares.
* `page`: Some rows from a given one on, newest first.

## Theorems

* `mem_newest`: The `n` newest rows have fewer than `n` rows before them.
* `newer_cutoff`: The first row that is too many has `n` before it.
* `le_newer_of_cutoff`: An old answer spares the `n` newest.
* `le_cutoff`, `newer_of_cutoff_none`: A current answer catches all others.
* `perm_prune`, `length_prune`: The deletion leaves the `n` newest.
* `lt_of_prune`: What it leaves is newer than what it takes.
* `newest_of_subtable`: A table with the `n` newest rows of a larger one answers
  for it up to `n`.
* `mem_page`, `length_page`: What is on a page.
* `page_or_behind`, `not_behind_of_short`, `lt_of_page`: A reader that goes from
  page to page misses nothing that is behind its offset, and goes back in time.
-/

namespace Vena

namespace Newest

variable {ρ τ : Type*} [LinearOrder τ]

/-- How many of the rows are newer than the instant. -/
def newer (ts : ρ → τ) (rows : List ρ) (t : τ) : Nat :=
  (rows.filter (fun r => t < ts r)).length

/-- ORDER BY ts DESC. -/
def newestFirst (ts : ρ → τ) (rows : List ρ) : List ρ :=
  rows.insertionSort (fun a b => ts b ≤ ts a)

/-- The `n` newest rows. -/
def newest (ts : ρ → τ) (n : Nat) (rows : List ρ) : List ρ :=
  (newestFirst ts rows).take n

/-- ORDER BY ts DESC LIMIT 1 OFFSET n. -/
def cutoff (ts : ρ → τ) (n : Nat) (rows : List ρ) : Option ρ :=
  (newestFirst ts rows)[n]?

/-- DELETE of the rows that are not newer than the first row too many. -/
def prune (ts : ρ → τ) (n : Nat) (rows : List ρ) : List ρ :=
  match cutoff ts n rows with
  | some c => rows.filter (fun r => ts c < ts r)
  | none => rows

/-- ORDER BY ts DESC LIMIT n OFFSET m. -/
def page (ts : ρ → τ) (n m : Nat) (rows : List ρ) : List ρ :=
  ((newestFirst ts rows).drop m).take n

theorem perm_newestFirst (ts : ρ → τ) (rows : List ρ) : (newestFirst ts rows).Perm rows :=
  List.perm_insertionSort _ rows

theorem newer_perm (ts : ρ → τ) (rows rows' : List ρ) (t : τ) (h : rows.Perm rows') :
    newer ts rows t = newer ts rows' t :=
  (h.filter _).length_eq

/-- Newest first, every row is newer than the ones behind it. -/
theorem pairwise_newestFirst (ts : ρ → τ) (rows : List ρ) (hts : (rows.map ts).Nodup) :
    (newestFirst ts rows).Pairwise (fun a b => ts b < ts a) := by
  have hsorted : (newestFirst ts rows).Pairwise (fun a b => ts b ≤ ts a) := by
    refine @List.pairwise_insertionSort ρ (fun a b => ts b ≤ ts a) _ ⟨fun a b => ?_⟩
      ⟨fun a b c hab hbc => ?_⟩ rows
    · exact le_total (ts b) (ts a)
    · exact le_trans hbc hab
  have hdistinct : (newestFirst ts rows).Pairwise (fun a b => ts a ≠ ts b) :=
    List.pairwise_map.mp (((perm_newestFirst ts rows).map ts).nodup_iff.mpr hts)
  exact hsorted.imp₂ (fun a b hle hne => lt_of_le_of_ne hle (Ne.symm hne)) hdistinct

/-- In an ordered list the position of a row is the number of newer ones. -/
theorem newer_of_getElem? (ts : ρ → τ) (l : List ρ)
    (hl : l.Pairwise (fun a b => ts b < ts a)) :
    ∀ (n : Nat) (r : ρ), l[n]? = some r → newer ts l (ts r) = n := by
  induction l with
  | nil => exact fun n r h => absurd h (by simp only [List.getElem?_nil, reduceCtorEq,
      not_false_eq_true])
  | cons a l ih =>
      intro n r h
      rw [List.pairwise_cons] at hl
      cases n with
      | zero =>
          rw [List.getElem?_cons_zero, Option.some.injEq] at h
          subst h
          -- Nothing is newer than the head.
          rw [newer, List.length_eq_zero_iff, List.filter_eq_nil_iff]
          intro b hb
          rw [decide_eq_true_eq, not_lt]
          rcases List.mem_cons.mp hb with heq | hin
          · rw [heq]
          · exact le_of_lt (hl.1 b hin)
      | succ n =>
          rw [List.getElem?_cons_succ] at h
          -- The head is newer, and the rest is counted by the induction hypothesis.
          have hlt := hl.1 r (List.mem_of_getElem? h)
          rw [newer, List.filter_cons, if_pos (decide_eq_true hlt), List.length_cons]
          exact congrArg (· + 1) (ih hl.2 n r h)

/-- The `n` newest rows are those with fewer than `n` rows before them. -/
theorem mem_newest (ts : ρ → τ) (n : Nat) (rows : List ρ) (hts : (rows.map ts).Nodup) (r : ρ) :
    r ∈ newest ts n rows ↔ r ∈ rows ∧ newer ts rows (ts r) < n := by
  have hpos := newer_of_getElem? ts _ (pairwise_newestFirst ts rows hts)
  rw [newest, List.mem_iff_getElem?]
  constructor
  · rintro ⟨i, hi⟩
    rw [List.getElem?_take] at hi
    split at hi
    · next hlt =>
        rw [← newer_perm ts _ rows _ (perm_newestFirst ts rows), hpos i r hi]
        exact ⟨(perm_newestFirst ts rows).mem_iff.mp (List.mem_of_getElem? hi), hlt⟩
    · exact absurd hi (by simp only [reduceCtorEq, not_false_eq_true])
  · rintro ⟨hr, hlt⟩
    rcases List.mem_iff_getElem?.mp ((perm_newestFirst ts rows).mem_iff.mpr hr) with ⟨i, hi⟩
    have hrank := hpos i r hi
    rw [newer_perm ts _ rows _ (perm_newestFirst ts rows)] at hrank
    exact ⟨i, by rw [List.getElem?_take, if_pos (hrank ▸ hlt), hi]⟩

theorem newer_antitone (ts : ρ → τ) (rows : List ρ) (t t' : τ) (h : t ≤ t') :
    newer ts rows t' ≤ newer ts rows t := by
  refine (List.monotone_filter_right rows (fun r hr => ?_)).length_le
  rw [decide_eq_true_eq] at hr ⊢
  exact lt_of_le_of_lt h hr

/-- A row itself counts for the instants before it, and not for its own. -/
theorem newer_lt (ts : ρ → τ) (rows : List ρ) (t : τ) (r : ρ) (hr : r ∈ rows) (hlt : t < ts r) :
    newer ts rows (ts r) < newer ts rows t := by
  -- The rows newer than `r` are the ones newer than `t` among which `r` is not.
  have hsplit : rows.filter (fun x => ts r < ts x) =
      (rows.filter (fun x => t < ts x)).filter (fun x => ts r < ts x) := by
    rw [List.filter_filter]
    refine List.filter_congr (fun x _ => ?_)
    rw [← Bool.decide_and, decide_eq_decide]
    exact ⟨fun h => ⟨h, lt_trans hlt h⟩, fun h => h.1⟩
  have hmem : r ∈ rows.filter (fun x => t < ts x) :=
    List.mem_filter.mpr ⟨hr, decide_eq_true hlt⟩
  rw [newer, newer, hsplit, List.length_filter_lt_length_iff_exists]
  exact ⟨r, hmem, by simp only [lt_self_iff_false, decide_false, not_false_eq_true,
    Bool.false_eq_true]⟩

/-- A row of the table is not newer than itself. -/
theorem newer_lt_length (ts : ρ → τ) (rows : List ρ) (r : ρ) (hr : r ∈ rows) :
    newer ts rows (ts r) < rows.length := by
  rw [newer, List.length_filter_lt_length_iff_exists]
  exact ⟨r, hr, by simp only [lt_self_iff_false, decide_false, not_false_eq_true,
    Bool.false_eq_true]⟩

/-- A larger table has more of them. -/
theorem newer_mono (ts : ρ → τ) (rows rows' : List ρ) (t : τ) (hnodup : rows.Nodup)
    (hsub : ∀ r ∈ rows, r ∈ rows') : newer ts rows t ≤ newer ts rows' t := by
  refine ((hnodup.filter _).subperm (fun r hr => ?_)).length_le
  rw [List.mem_filter] at hr ⊢
  exact ⟨hsub r hr.1, hr.2⟩

/-- The first row that is too many has `n` rows before it. -/
theorem newer_cutoff (ts : ρ → τ) (n : Nat) (rows : List ρ) (hts : (rows.map ts).Nodup) (c : ρ)
    (hc : cutoff ts n rows = some c) : c ∈ rows ∧ newer ts rows (ts c) = n := by
  rw [← newer_perm ts _ rows _ (perm_newestFirst ts rows)]
  exact ⟨(perm_newestFirst ts rows).mem_iff.mp (List.mem_of_getElem? hc),
    newer_of_getElem? ts _ (pairwise_newestFirst ts rows hts) n c hc⟩

theorem length_of_cutoff_none (ts : ρ → τ) (n : Nat) (rows : List ρ)
    (hc : cutoff ts n rows = none) : rows.length ≤ n := by
  rw [cutoff, List.getElem?_eq_none_iff, (perm_newestFirst ts rows).length_eq] at hc
  exact hc

/-- What an answer once named has `n` rows before it in every larger table. -/
theorem le_newer_of_cutoff (ts : ρ → τ) (n : Nat) (rows rows' : List ρ)
    (hts : (rows.map ts).Nodup) (hsub : ∀ r ∈ rows, r ∈ rows') (c : ρ)
    (hc : cutoff ts n rows = some c) (t : τ) (ht : t ≤ ts c) : n ≤ newer ts rows' t := by
  have hcount := (newer_cutoff ts n rows hts c hc).2
  have hmono := newer_mono ts rows rows' (ts c) (List.Nodup.of_map ts hts) hsub
  have hanti := newer_antitone ts rows' t (ts c) ht
  omega

/-- A table that has the `n` newest rows has all `n` before a row that comes
    after them. -/
theorem le_newer_of_newest (ts : ρ → τ) (n : Nat) (rows all : List ρ) (hts : (all.map ts).Nodup)
    (hnewest : ∀ r ∈ newest ts n all, r ∈ rows) (t : τ) (ht : n ≤ newer ts all t) :
    n ≤ newer ts rows t := by
  have hperm := perm_newestFirst ts all
  have hnodup : (newest ts n all).Nodup :=
    ((hperm.nodup_iff).mpr (List.Nodup.of_map ts hts)).sublist (List.take_sublist _ _)
  have hlength : (newest ts n all).length = n := by
    have hle : newer ts all t ≤ all.length := List.length_filter_le _ _
    rw [newest, List.length_take, hperm.length_eq]
    omega
  -- Each of the `n` newest is newer than `t`: otherwise `t` would have fewer before it.
  have hsub : ∀ r ∈ newest ts n all, r ∈ rows.filter (fun x => t < ts x) := by
    intro r hr
    refine List.mem_filter.mpr ⟨hnewest r hr, decide_eq_true ?_⟩
    by_contra hle
    have hrank := ((mem_newest ts n all hts r).mp hr).2
    have hanti := newer_antitone ts all (ts r) t (not_lt.mp hle)
    omega
  have hcount := (hnodup.subperm hsub).length_le
  rw [hlength] at hcount
  exact hcount

/-- With the `n` newest rows there, no answer means that there are no others. -/
theorem newer_of_cutoff_none (ts : ρ → τ) (n : Nat) (rows all : List ρ)
    (hts : (all.map ts).Nodup) (hnewest : ∀ r ∈ newest ts n all, r ∈ rows)
    (hc : cutoff ts n rows = none) (r : ρ) (hr : r ∈ rows) : newer ts all (ts r) < n := by
  by_contra hge
  have hbefore := le_newer_of_newest ts n rows all hts hnewest (ts r) (not_lt.mp hge)
  have hlength := length_of_cutoff_none ts n rows hc
  have hlt := newer_lt_length ts rows r hr
  omega

/-- With the `n` newest rows there, an answer is not older than any other row. -/
theorem le_cutoff (ts : ρ → τ) (n : Nat) (rows all : List ρ) (hts : (all.map ts).Nodup)
    (hrows : (rows.map ts).Nodup) (hnewest : ∀ r ∈ newest ts n all, r ∈ rows) (c : ρ)
    (hc : cutoff ts n rows = some c) (r : ρ) (hr : r ∈ rows) (hold : n ≤ newer ts all (ts r)) :
    ts r ≤ ts c := by
  by_contra hlt
  have hbefore := le_newer_of_newest ts n rows all hts hnewest (ts r) hold
  have hcount := (newer_cutoff ts n rows hrows c hc).2
  have hmore := newer_lt ts rows (ts c) r hr (not_le.mp hlt)
  omega

theorem cutoff_of_length_le (ts : ρ → τ) (n : Nat) (rows : List ρ) (h : rows.length ≤ n) :
    cutoff ts n rows = none := by
  rw [cutoff, List.getElem?_eq_none_iff, (perm_newestFirst ts rows).length_eq]
  exact h

theorem prune_sublist (ts : ρ → τ) (n : Nat) (rows : List ρ) :
    (prune ts n rows).Sublist rows := by
  unfold prune
  split
  · exact List.filter_sublist
  · exact List.Sublist.refl rows

/-- A row is spared if fewer than `n` rows are newer. -/
theorem mem_prune (ts : ρ → τ) (n : Nat) (rows : List ρ) (hts : (rows.map ts).Nodup) (r : ρ) :
    r ∈ prune ts n rows ↔ r ∈ rows ∧ newer ts rows (ts r) < n := by
  unfold prune
  split
  · next c hc =>
      rcases newer_cutoff ts n rows hts c hc with ⟨_, hcount⟩
      rw [List.mem_filter, decide_eq_true_eq]
      refine and_congr_right (fun hr => ⟨fun hlt => ?_, fun hlt => ?_⟩)
      · have hfewer := newer_lt ts rows (ts c) r hr hlt
        omega
      · by_contra hle
        have hmore := newer_antitone ts rows (ts r) (ts c) (not_lt.mp hle)
        omega
  · next hc =>
      have hlength := length_of_cutoff_none ts n rows hc
      refine ⟨fun hr => ⟨hr, ?_⟩, And.left⟩
      exact Nat.lt_of_lt_of_le (newer_lt_length ts rows r hr) hlength

/-- The `n` newest rows are left. -/
theorem perm_prune (ts : ρ → τ) (n : Nat) (rows : List ρ) (hts : (rows.map ts).Nodup) :
    (prune ts n rows).Perm (newest ts n rows) := by
  have hrows : rows.Nodup := List.Nodup.of_map ts hts
  have hnewest : (newest ts n rows).Nodup :=
    ((perm_newestFirst ts rows).nodup_iff.mpr hrows).sublist (List.take_sublist _ _)
  rw [List.perm_ext_iff_of_nodup (hrows.sublist (prune_sublist ts n rows)) hnewest]
  intro r
  rw [mem_prune ts n rows hts, mem_newest ts n rows hts]

theorem length_prune (ts : ρ → τ) (n : Nat) (rows : List ρ) (hts : (rows.map ts).Nodup) :
    (prune ts n rows).length = min rows.length n := by
  rw [(perm_prune ts n rows hts).length_eq, newest, List.length_take,
    (perm_newestFirst ts rows).length_eq, Nat.min_comm]

/-- What is spared is newer than what is deleted. -/
theorem lt_of_prune (ts : ρ → τ) (n : Nat) (rows : List ρ) (hts : (rows.map ts).Nodup) (r q : ρ)
    (hr : r ∈ prune ts n rows) (hq : q ∈ rows) (hgone : q ∉ prune ts n rows) : ts q < ts r := by
  by_contra hle
  have hrank := ((mem_prune ts n rows hts r).mp hr).2
  have hmore := newer_antitone ts rows (ts r) (ts q) (not_lt.mp hle)
  exact hgone ((mem_prune ts n rows hts q).mpr ⟨hq, Nat.lt_of_le_of_lt hmore hrank⟩)

/-- The count looks at the instants alone. -/
theorem newer_mono_ts (ts : ρ → τ) (rows rows' : List ρ) (t : τ) (hts : (rows.map ts).Nodup)
    (hsub : ∀ u ∈ rows.map ts, u ∈ rows'.map ts) : newer ts rows t ≤ newer ts rows' t := by
  have hcount : ∀ l : List ρ, newer ts l t = ((l.map ts).filter (fun u => t < u)).length := by
    intro l
    rw [newer, List.filter_map, List.length_map]
    rfl
  rw [hcount, hcount]
  refine ((hts.filter _).subperm (fun u hu => ?_)).length_le
  rw [List.mem_filter] at hu ⊢
  exact ⟨hsub u hu.1, hu.2⟩

theorem pairwise_newest (ts : ρ → τ) (n : Nat) (rows : List ρ) (hts : (rows.map ts).Nodup) :
    (newest ts n rows).Pairwise (fun a b => ts b < ts a) :=
  (pairwise_newestFirst ts rows hts).sublist (List.take_sublist n _)

/-- Tables with the same newest rows give them in the same order. -/
theorem newest_congr (ts : ρ → τ) (n : Nat) (rows rows' : List ρ) (hts : (rows.map ts).Nodup)
    (hts' : (rows'.map ts).Nodup) (h : ∀ r, r ∈ newest ts n rows ↔ r ∈ newest ts n rows') :
    newest ts n rows = newest ts n rows' := by
  have hsorted := pairwise_newest ts n rows hts
  have hsorted' := pairwise_newest ts n rows' hts'
  refine List.Perm.eq_of_pairwise (fun a b _ _ hab hba => ?_) hsorted hsorted' ?_
  · exact absurd hab (lt_asymm hba)
  · rw [List.perm_ext_iff_of_nodup (hsorted.imp (fun h heq => ne_of_gt h (congrArg ts heq)))
      (hsorted'.imp (fun h heq => ne_of_gt h (congrArg ts heq)))]
    exact h

/-- A table that lies between a larger one and its `n` newest rows has the same
    newest rows, as long as no more than `n` are asked for. -/
theorem newest_of_subtable (ts : ρ → τ) (n k : Nat) (rows all : List ρ) (hk : k ≤ n)
    (hts : (rows.map ts).Nodup) (hall : (all.map ts).Nodup) (hsub : ∀ r ∈ rows, r ∈ all)
    (hnewest : ∀ r ∈ newest ts n all, r ∈ rows) : newest ts k rows = newest ts k all := by
  have hfirst : ∀ r ∈ newest ts k all, r ∈ rows := by
    intro r hr
    have hrank := (mem_newest ts k all hall r).mp hr
    exact hnewest r ((mem_newest ts n all hall r).mpr ⟨hrank.1, by omega⟩)
  refine newest_congr ts k rows all hts hall (fun r => ?_)
  rw [mem_newest ts k rows hts, mem_newest ts k all hall]
  constructor
  · rintro ⟨hr, hrank⟩
    refine ⟨hsub r hr, ?_⟩
    by_contra hge
    have hbefore := le_newer_of_newest ts k rows all hall hfirst (ts r) (not_lt.mp hge)
    omega
  · rintro ⟨hr, hrank⟩
    have hmono := newer_mono ts rows all (ts r) (List.Nodup.of_map ts hts) hsub
    exact ⟨hfirst r ((mem_newest ts k all hall r).mpr ⟨hr, hrank⟩), by omega⟩

/-- A count that loses none of the rows it counts. -/
theorem newer_mono_of_newer (ts : ρ → τ) (rows rows' : List ρ) (t : τ) (hnodup : rows.Nodup)
    (hsub : ∀ r ∈ rows, t < ts r → r ∈ rows') : newer ts rows t ≤ newer ts rows' t := by
  refine ((hnodup.filter _).subperm (fun r hr => ?_)).length_le
  rw [List.mem_filter] at hr ⊢
  exact ⟨hsub r hr.1 (of_decide_eq_true hr.2), hr.2⟩

/-- A page has the rows with at least `m` and fewer than `m + n` before them. -/
theorem mem_page (ts : ρ → τ) (n m : Nat) (rows : List ρ) (hts : (rows.map ts).Nodup) (r : ρ) :
    r ∈ page ts n m rows ↔
      r ∈ rows ∧ m ≤ newer ts rows (ts r) ∧ newer ts rows (ts r) < m + n := by
  have hpos := newer_of_getElem? ts _ (pairwise_newestFirst ts rows hts)
  have hcount := newer_perm ts _ rows (ts r) (perm_newestFirst ts rows)
  have hmem := (perm_newestFirst ts rows).mem_iff (a := r)
  rw [page, List.mem_iff_getElem?]
  constructor
  · rintro ⟨i, hi⟩
    rw [List.getElem?_take] at hi
    split at hi
    · next hlt =>
        rw [List.getElem?_drop] at hi
        have hrank := hpos (m + i) r hi
        exact ⟨hmem.mp (List.mem_of_getElem? hi), by omega, by omega⟩
    · exact absurd hi (by simp only [reduceCtorEq, not_false_eq_true])
  · rintro ⟨hr, hle, hlt⟩
    rcases List.mem_iff_getElem?.mp (hmem.mpr hr) with ⟨i, hi⟩
    have hrank := hpos i r hi
    refine ⟨i - m, ?_⟩
    rw [List.getElem?_take, if_pos (by omega), List.getElem?_drop, ← hi]
    exact congrArg _ (by omega)

theorem length_page (ts : ρ → τ) (n m : Nat) (rows : List ρ) :
    (page ts n m rows).length = min n (rows.length - m) := by
  rw [page, List.length_take, List.length_drop, (perm_newestFirst ts rows).length_eq]

theorem pairwise_page (ts : ρ → τ) (n m : Nat) (rows : List ρ) (hts : (rows.map ts).Nodup) :
    (page ts n m rows).Pairwise (fun a b => ts b < ts a) :=
  (pairwise_newestFirst ts rows hts).sublist
    ((List.take_sublist _ _).trans (List.drop_sublist _ _))

/-- A row behind the offset is on the page, or behind the next offset. -/
theorem page_or_behind (ts : ρ → τ) (n m : Nat) (rows : List ρ) (hts : (rows.map ts).Nodup)
    (r : ρ) (hr : r ∈ rows) (hbehind : m ≤ newer ts rows (ts r)) :
    r ∈ page ts n m rows ∨ m + n ≤ newer ts rows (ts r) := by
  by_cases hlt : newer ts rows (ts r) < m + n
  · exact Or.inl ((mem_page ts n m rows hts r).mpr ⟨hr, hbehind, hlt⟩)
  · exact Or.inr (Nat.not_lt.mp hlt)

/-- Behind a short page there is nothing. -/
theorem not_behind_of_short (ts : ρ → τ) (n m : Nat) (rows : List ρ)
    (hshort : (page ts n m rows).length < n) (r : ρ) (hr : r ∈ rows) :
    newer ts rows (ts r) < m + n := by
  have hlt := newer_lt_length ts rows r hr
  rw [length_page] at hshort
  omega

/-- A row before the offset is newer than the page. -/
theorem lt_of_page (ts : ρ → τ) (n m : Nat) (rows : List ρ) (hts : (rows.map ts).Nodup) (r : ρ)
    (hr : r ∈ page ts n m rows) (t : τ) (hbefore : newer ts rows t < m) : ts r < t := by
  by_contra hle
  have hrank := ((mem_page ts n m rows hts r).mp hr).2.1
  have hanti := newer_antitone ts rows t (ts r) (not_lt.mp hle)
  omega

end Newest

end Vena
