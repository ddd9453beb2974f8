import Vena.Mobile.LastWriteWins

/-!
# What the outbox owes

The entries the worker may yet make a call for: those that are pending, those in
a query result on its way and those a batch has not come to. A result may list
an entry that has been marked since, so the table alone does not tell.

## Main definitions

* `Batch.ahead`: The items a batch has not come to.
* `owed`: The entries of all that is pending or on its way.
* `Act.queues`: The acts that add an entry.

## Theorems

* `mem_owed`: The entries owed, part by part.
* `owed_step`: No other act adds one.
* `owed_insertAction`: An entry that is queued is the only new one.
-/

namespace Vena

namespace Mobile

namespace Outbox

open Backend Python

/-- The items a batch has not come to yet. -/
def Batch.ahead : Batch → List Entry
  | .next items => items
  | .calling _ _ items => items
  | .marking _ items => items
  | .ending _ => []
  | .done => []

def ids (entries : List Entry) : List Nat := entries.map Entry.id

/-- The entries the worker may yet make a call for. -/
def owed (o : State) : List Nat :=
  ids (pending o.table) ++ ids o.snapshots.flatten ++ ids o.retries.flatten ++
    ids (o.batches.flatMap Batch.ahead)

theorem mem_ids (entries : List Entry) (id : Nat) :
    id ∈ ids entries ↔ ∃ e ∈ entries, e.id = id := List.mem_map

theorem mem_owed (o : State) (id : Nat) : id ∈ owed o ↔
    (∃ e ∈ o.table, e.synced = false ∧ e.id = id) ∨
      (∃ entries ∈ o.snapshots, ∃ e ∈ entries, e.id = id) ∨
      (∃ entries ∈ o.retries, ∃ e ∈ entries, e.id = id) ∨
      ∃ batch ∈ o.batches, ∃ e ∈ batch.ahead, e.id = id := by
  unfold owed pending
  simp only [List.mem_append, mem_ids, List.mem_filter, List.mem_flatten, List.mem_flatMap,
    Bool.not_eq_true', or_assoc]
  refine or_congr (exists_congr fun e => and_assoc) (or_congr ?_ (or_congr ?_ ?_))
  all_goals
    constructor
    · rintro ⟨e, ⟨l, hl, he⟩, hid⟩
      exact ⟨l, hl, e, he, hid⟩
    · rintro ⟨l, hl, e, he, hid⟩
      exact ⟨e, ⟨l, hl, he⟩, hid⟩

/-- An outbox that owes nothing new, part by part. -/
theorem owed_of_parts (o o' : State)
    (htable : ∀ e ∈ o'.table, e.synced = false → e.id ∈ owed o)
    (hsnapshots : ∀ entries ∈ o'.snapshots, ∀ e ∈ entries, e.id ∈ owed o)
    (hretries : ∀ entries ∈ o'.retries, ∀ e ∈ entries, e.id ∈ owed o)
    (hbatches : ∀ batch ∈ o'.batches, ∀ e ∈ batch.ahead, e.id ∈ owed o) :
    ∀ id ∈ owed o', id ∈ owed o := by
  intro id hid
  rcases (mem_owed o' id).mp hid with ⟨e, he, hsynced, rfl⟩ | ⟨l, hl, e, he, rfl⟩ |
    ⟨l, hl, e, he, rfl⟩ | ⟨batch, hb, e, he, rfl⟩
  · exact htable e he hsynced
  · exact hsnapshots l hl e he
  · exact hretries l hl e he
  · exact hbatches batch hb e he

theorem owed_table (o : State) (e : Entry) (he : e ∈ o.table)
    (hsynced : e.synced = false) : e.id ∈ owed o :=
  (mem_owed o e.id).mpr (Or.inl ⟨e, he, hsynced, rfl⟩)

theorem owed_snapshot (o : State) (entries : List Entry) (hl : entries ∈ o.snapshots)
    (e : Entry) (he : e ∈ entries) : e.id ∈ owed o :=
  (mem_owed o e.id).mpr (Or.inr (Or.inl ⟨entries, hl, e, he, rfl⟩))

theorem owed_retry (o : State) (entries : List Entry) (hl : entries ∈ o.retries)
    (e : Entry) (he : e ∈ entries) : e.id ∈ owed o :=
  (mem_owed o e.id).mpr (Or.inr (Or.inr (Or.inl ⟨entries, hl, e, he, rfl⟩)))

theorem owed_batch (o : State) (batch : Batch) (hb : batch ∈ o.batches)
    (e : Entry) (he : e ∈ batch.ahead) : e.id ∈ owed o :=
  (mem_owed o e.id).mpr (Or.inr (Or.inr (Or.inr ⟨batch, hb, e, he, rfl⟩)))

/-- A result of `watchPending` lists entries that are pending. -/
theorem owed_result (o : State) (entries : List Entry)
    (h : IsResult o.table entries) (e : Entry) (he : e ∈ entries) :
    e.id ∈ owed o := by
  have hpending := h.1.mem_iff.mp he
  unfold pending at hpending
  rcases List.mem_filter.mp hpending with ⟨hin, hsynced⟩
  exact owed_table o e hin (by simpa only [Bool.not_eq_true'] using hsynced)

/-- A batch goes on with items it has, over a table with fewer pending entries. -/
theorem owed_set (o o' : State) (b : Nat) (batch batch' : Batch)
    (hget : o.batches[b]? = some batch) (hitems : ∀ e ∈ batch'.ahead, e ∈ batch.ahead)
    (htable : ∀ e ∈ o'.table, e.synced = false → e ∈ o.table)
    (hsnapshots : o'.snapshots = o.snapshots) (hretries : o'.retries = o.retries)
    (hbatches : o'.batches = o.batches.set b batch') : ∀ id ∈ owed o', id ∈ owed o := by
  refine owed_of_parts o o' (fun e he hsynced => owed_table o e (htable e he hsynced) hsynced)
    (hsnapshots ▸ owed_snapshot o) (hretries ▸ owed_retry o) (fun d hd e he => ?_)
  rw [hbatches] at hd
  rcases List.mem_or_eq_of_mem_set hd with hold | rfl
  · exact owed_batch o d hold e he
  · exact owed_batch o batch (List.mem_of_getElem? hget) e (hitems e he)

theorem pending_markSynced (table : List Entry) (id : Nat) (e : Entry)
    (he : e ∈ markSynced table id) (hsynced : e.synced = false) : e ∈ table := by
  rcases mem_markSynced_cases table id e he with ⟨hold, _⟩ | ⟨_, hmarked, _⟩
  · exact hold
  · rw [hsynced] at hmarked
    exact absurd hmarked Bool.false_ne_true

theorem owed_stepBatch (o o' : State) (b : Nat) (batch : Batch)
    (stmt : BatchStmt) (hget : o.batches[b]? = some batch)
    (hmoves : BatchMoves o b batch stmt o') :
    (∀ id ∈ owed o', id ∈ owed o) ∧ o'.nextId = o.nextId := by
  have hsame : ∀ e ∈ o.table, e.synced = false → e ∈ o.table := fun _ he _ => he
  cases hmoves with
  | emptied =>
      exact ⟨owed_set o _ b _ (.ending false) hget (fun _ he => absurd he List.not_mem_nil)
        hsame rfl rfl rfl, rfl⟩
  | call item rest =>
      exact ⟨owed_set o _ b _ (.calling o.wire.length item rest) hget
        (fun _ he => List.mem_cons_of_mem _ he) hsame rfl rfl rfl, rfl⟩
  | respond call item rest action status hwire =>
      refine ⟨owed_set o _ b _ (if status = 200 ∨ status = 409 then .marking item rest
        else .ending true) hget (fun e he => ?_) hsame rfl rfl rfl, rfl⟩
      split at he
      · exact he
      · exact absurd he List.not_mem_nil
  | fail call item rest =>
      exact ⟨owed_set o _ b _ (.ending true) hget (fun _ he => absurd he List.not_mem_nil)
        hsame rfl rfl rfl, rfl⟩
  | mark item rest =>
      exact ⟨owed_set o _ b _ (.next rest) hget (fun _ he => he)
        (pending_markSynced o.table item.id) rfl rfl rfl, rfl⟩
  | finish hadNetworkError =>
      exact ⟨owed_set o _ b _ .done hget (fun _ he => absurd he List.not_mem_nil)
        hsame rfl rfl rfl, rfl⟩

/-- A batch that starts has the items of a result that was on its way. -/
theorem owed_start (o : State) (entries : List Entry)
    (h : ∀ e ∈ entries, e.id ∈ owed o) (batch : Batch)
    (hb : batch ∈ o.batches ++ [.next entries]) (e : Entry) (he : e ∈ batch.ahead) :
    e.id ∈ owed o := by
  rcases List.mem_append.mp hb with hold | hnew
  · exact owed_batch o batch hold e he
  · rw [List.mem_singleton.mp hnew] at he
    exact h e he

/-- The acts that queue an entry. -/
def Act.queues : Act → Bool
  | .claimDevice _ _ _ => true
  | .renameDevice _ _ _ => true
  | _ => false

theorem owed_rest_snapshot (o : State) (entries : List Entry) (rest : List (List Entry))
    (hsnapshots : o.snapshots = entries :: rest) : ∀ l ∈ rest, ∀ e ∈ l, e.id ∈ owed o :=
  fun l hl => owed_snapshot o l (hsnapshots ▸ List.mem_cons_of_mem _ hl)

theorem owed_rest_retry (o : State) (entries : List Entry) (rest : List (List Entry))
    (hretries : o.retries = entries :: rest) : ∀ l ∈ rest, ∀ e ∈ l, e.id ∈ owed o :=
  fun l hl => owed_retry o l (hretries ▸ List.mem_cons_of_mem _ hl)

theorem owed_step (env : Env) (user : User) (o o' : State) (a : Act)
    (hstep : step env user o a = some o') (hqueues : a.queues = false) :
    (∀ id ∈ owed o', id ∈ owed o) ∧ o'.nextId = o.nextId := by
  cases step_moves env user o o' a hstep with
  | claimDevice deviceId pairingCode now => exact Bool.noConfusion hqueues
  | renameDevice deviceId deviceAlias now => exact Bool.noConfusion hqueues
  | query entries hresult =>
      refine ⟨owed_of_parts o _ (owed_table o) (fun l hl e he => ?_) (owed_retry o)
        (owed_batch o), rfl⟩
      rcases List.mem_append.mp hl with hold | hnew
      · exact owed_snapshot o l hold e he
      · rw [List.mem_singleton.mp hnew] at he
        exact owed_result o entries hresult e he
  -- A result only moves, from the stream to a batch or to nowhere.
  | deliver entries rest hsnapshots hidle =>
      exact ⟨owed_of_parts o _ (owed_table o) (owed_rest_snapshot o entries rest hsnapshots)
        (owed_retry o) (owed_start o entries
          (owed_snapshot o entries (hsnapshots ▸ List.mem_cons_self))), rfl⟩
  | drop entries rest hsnapshots =>
      exact ⟨owed_of_parts o _ (owed_table o) (owed_rest_snapshot o entries rest hsnapshots)
        (owed_retry o) (owed_batch o), rfl⟩
  | fire harmed =>
      exact ⟨owed_of_parts o _ (owed_table o) (owed_snapshot o) (owed_retry o) (owed_batch o),
        rfl⟩
  | requery entries hfiring hresult =>
      refine ⟨owed_of_parts o _ (owed_table o) (owed_snapshot o) (fun l hl e he => ?_)
        (owed_batch o), rfl⟩
      rcases List.mem_append.mp hl with hold | hnew
      · exact owed_retry o l hold e he
      · rw [List.mem_singleton.mp hnew] at he
        exact owed_result o entries hresult e he
  | retry entries rest hretries hsome =>
      exact ⟨owed_of_parts o _ (owed_table o) (owed_snapshot o)
        (owed_rest_retry o entries rest hretries) (owed_start o entries
          (owed_retry o entries (hretries ▸ List.mem_cons_self))), rfl⟩
  | forget entries rest hretries =>
      exact ⟨owed_of_parts o _ (owed_table o) (owed_snapshot o)
        (owed_rest_retry o entries rest hretries) (owed_batch o), rfl⟩
  | batch b stmt batch _ hget hbatch => exact owed_stepBatch o o' b batch stmt hget hbatch
  | serve call now action hwire =>
      exact ⟨owed_of_parts o _ (owed_table o) (owed_snapshot o) (owed_retry o) (owed_batch o),
        rfl⟩
  | lose call request hwire =>
      exact ⟨owed_of_parts o _ (owed_table o) (owed_snapshot o) (owed_retry o) (owed_batch o),
        rfl⟩

/-- The entry that is queued is owed, and nothing else is new. -/
theorem owed_insertAction (o : State) (action : Action) (now : Int) :
    ∀ id ∈ owed (insertAction o action now), id ∈ owed o ∨ id = o.nextId := by
  intro id hid
  rcases (mem_owed _ id).mp hid with ⟨e, he, hsynced, rfl⟩ | hrest
  · rcases List.mem_append.mp he with hold | hnew
    · exact Or.inl (owed_table o e hold hsynced)
    · rw [List.mem_singleton.mp hnew]
      exact Or.inr rfl
  · exact Or.inl ((mem_owed o id).mpr (Or.inr hrest))

end Outbox

end Mobile

end Vena
