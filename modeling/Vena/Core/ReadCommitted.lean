import Vena.Core.Keyed

/-!
# A Table under READ COMMITTED

One table of a database whose transactions run at the isolation level READ
COMMITTED, at the granularity of statements. A SELECT sees the rows committed
before it and the transaction's own writes. An UPDATE by primary key and an
INSERT are executed into the transaction and become visible to others at its
COMMIT, all at once. Until then they hold the lock of the row they touch:
`blocked` says that a statement of another transaction on that row has to
wait.

An update is kept as the function it applies, so that it changes the newest
committed version of the row, which is what a statement does that waited for
the lock.

## Main definitions

* `Write`: An executed INSERT or UPDATE by primary key.
* `Store`: The committed rows and the writes not yet committed.
* `visible`, `select`: What a statement of a transaction sees.
* `blocked`: Another transaction holds the lock of a row.
* `write`, `commit`, `rollback`: The three ways a transaction moves.

## Theorems

* `visible_of_own_nil`: A transaction that has written nothing sees exactly
  the committed rows.
* `own_write_self`, `own_write_of_ne`, `own_commit_self`, `own_commit_of_ne`:
  The pending writes of a transaction after each operation.
* `map_key_update`, `forall_update`, `exists_update`: What an update keeps.
-/

namespace Vena

namespace ReadCommitted

variable {κ ρ : Type*}

/-- A write a transaction has executed. -/
inductive Write (κ ρ : Type*) where
  | insert (row : ρ)
  | update (k : κ) (f : ρ → ρ)

/-- The row whose lock the write holds. -/
def Write.target (key : ρ → κ) : Write κ ρ → κ
  | .insert row => key row
  | .update k _ => k

/-- The committed rows, and the uncommitted writes of every transaction in the
    order of their execution. -/
structure Store (κ ρ : Type*) where
  rows : List ρ
  pending : List (Nat × Write κ ρ)

namespace Store

/-- The uncommitted writes of transaction `t`. -/
def own (s : Store κ ρ) (t : Nat) : List (Write κ ρ) :=
  (s.pending.filter (fun w => w.1 = t)).map Prod.snd

def write (s : Store κ ρ) (t : Nat) (w : Write κ ρ) : Store κ ρ :=
  { s with pending := s.pending ++ [(t, w)] }

def rollback (s : Store κ ρ) (t : Nat) : Store κ ρ :=
  { s with pending := s.pending.filter (fun w => w.1 ≠ t) }

theorem own_write_self (s : Store κ ρ) (t : Nat) (w : Write κ ρ) :
    (s.write t w).own t = s.own t ++ [w] := by
  simp only [own, write, List.filter_append, List.map_append, List.filter_cons, decide_true,
    List.filter_nil, if_true, List.map_cons, List.map_nil]

theorem own_write_of_ne (s : Store κ ρ) (t u : Nat) (w : Write κ ρ) (hne : u ≠ t) :
    (s.write t w).own u = s.own u := by
  simp only [own, write, List.filter_append, List.filter_cons, Ne.symm hne, decide_false,
    List.filter_nil, Bool.false_eq_true, if_false, List.append_nil]

theorem own_rollback_self (s : Store κ ρ) (t : Nat) : (s.rollback t).own t = [] := by
  simp only [own, rollback, List.filter_filter, List.map_eq_nil_iff, List.filter_eq_nil_iff]
  intro w _
  simp only [ne_eq, decide_not, Bool.and_not_self, Bool.false_eq_true, not_false_eq_true]

theorem own_rollback_of_ne (s : Store κ ρ) (t u : Nat) (hne : u ≠ t) :
    (s.rollback t).own u = s.own u := by
  simp only [own, rollback, List.filter_filter]
  congr 1
  refine List.filter_congr (fun w _ => ?_)
  by_cases hu : w.1 = u
  · simp only [hu, ne_eq, hne, not_false_eq_true, decide_true, Bool.and_self]
  · simp only [hu, decide_false, Bool.false_and]

end Store

variable [DecidableEq κ]

/-- The effect of a write on the rows. -/
def Write.apply (key : ρ → κ) (rows : List ρ) : Write κ ρ → List ρ
  | .insert row => rows ++ [row]
  | .update k f => rows.map (fun row => if key row = k then f row else row)

/-- An update that keeps keys keeps the list of keys. -/
theorem map_key_update (key : ρ → κ) (rows : List ρ) (k : κ) (f : ρ → ρ)
    (hf : ∀ row, key (f row) = key row) :
    ((Write.update k f).apply key rows).map key = rows.map key :=
  Keyed.map_key_update key rows _ f (fun row _ => hf row)

/-- A property the update's function keeps is kept for every row. -/
theorem forall_update (key : ρ → κ) (P : ρ → Prop) (rows : List ρ) (k : κ) (f : ρ → ρ)
    (hf : ∀ row, P row → P (f row)) (h : ∀ row ∈ rows, P row) :
    ∀ row ∈ (Write.update k f).apply key rows, P row :=
  Keyed.forall_update P rows _ f hf h

theorem exists_update (key : ρ → κ) (P : ρ → Prop) (rows : List ρ) (k : κ) (f : ρ → ρ)
    (hf : ∀ row, P row → P (f row)) (h : ∃ row ∈ rows, P row) :
    ∃ row ∈ (Write.update k f).apply key rows, P row :=
  Keyed.exists_update P rows _ f hf h

namespace Store

/-- The rows a statement of transaction `t` sees. -/
def visible (key : ρ → κ) (s : Store κ ρ) (t : Nat) : List ρ :=
  (s.own t).foldl (Write.apply key) s.rows

def select (key : ρ → κ) (s : Store κ ρ) (t : Nat) (p : ρ → Bool) : List ρ :=
  (s.visible key t).filter p

/-- A transaction other than `t` holds the lock of row `k`. -/
def blocked (key : ρ → κ) (s : Store κ ρ) (t : Nat) (k : κ) : Bool :=
  s.pending.any (fun w => w.1 ≠ t ∧ w.2.target key = k)

def commit (key : ρ → κ) (s : Store κ ρ) (t : Nat) : Store κ ρ :=
  { s.rollback t with rows := s.visible key t }

@[simp] theorem rows_commit (key : ρ → κ) (s : Store κ ρ) (t : Nat) :
    (s.commit key t).rows = s.visible key t := rfl

/-- A transaction that has written nothing sees exactly the committed rows. -/
theorem visible_of_own_nil (key : ρ → κ) (s : Store κ ρ) (t : Nat) (h : s.own t = []) :
    s.visible key t = s.rows := by
  rw [visible, h, List.foldl_nil]

theorem own_commit_self (key : ρ → κ) (s : Store κ ρ) (t : Nat) : (s.commit key t).own t = [] :=
  own_rollback_self s t

theorem own_commit_of_ne (key : ρ → κ) (s : Store κ ρ) (t u : Nat) (hne : u ≠ t) :
    (s.commit key t).own u = s.own u :=
  own_rollback_of_ne s t u hne

end Store

end ReadCommitted

end Vena
