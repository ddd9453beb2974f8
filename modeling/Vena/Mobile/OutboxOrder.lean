import Vena.Mobile.Outbox
import Vena.Core.Keyed

/-!
# Renames in Queue Order

The backend holds the alias the user chose last if the renames of a device
reach it in the order in which they were queued. Four weak spots of the worker
can break that order: entries are delivered by the reading of a wall clock in
whole seconds, the retry timer starts a batch without looking whether one is
running, a query result may be older than the marks of the batch before it, and
a call that was given up may arrive after the next one.

`Careful` rules the four out, step by step, and `InOrder` is what a careful
step keeps: the synced renames of a device come before the unsynced ones, at
most one rename of a device is on its way and it is the first unsynced one, and
the backend holds the alias of the last synced or of the first unsynced rename.
This module has the user's part and the queries.

## Main definitions

* `HasAlias`: The backend holds an alias for the user's device.
* `Careful`: A step takes none of the four bad turns.
* `Result`: What is left of a query result in a later state.
* `FirstPending`: The first unsynced rename of a device.
* `InOrder`: The invariant.

## Theorems

* `result_later`: A result outlives insertions and marks.
* `handle_spec`: What a call does to the aliases.
* `result_query`: A fresh result.
* `firstPending_head`: The rename at the head of a result is the first unsynced
  one of its device.
* `inOrder_insert`, `inOrder_worker`, `inOrder_startBatch`: Steps of the user
  and of the queries.
-/

namespace Vena

namespace Mobile

namespace Outbox

open Backend Python Processes

/-- The device an action renames. -/
def Action.renamed : Action → Option String
  | .claim _ _ => none
  | .rename deviceId _ => some deviceId

/-- The device of the rename the batch sends next. -/
def Batch.upcoming : Batch → Option String
  | .next (item :: _) => item.action.renamed
  | _ => none

/-- The backend holds the alias for the user's device. -/
def HasAlias (user : User) (db : Database) (deviceId deviceAlias : String) : Prop :=
  ∃ ud ∈ db.userDevices, ud.key = (user.id, deviceId) ∧ ud.deviceAlias = some deviceAlias

instance (user : User) (db : Database) (deviceId deviceAlias : String) :
    Decidable (HasAlias user db deviceId deviceAlias) :=
  inferInstanceAs (Decidable (∃ ud ∈ _, _))

/-- A batch may start: no other one is running, and the result it works
    through lists no entry that has been synced since. -/
def Quiet (s : State) (items : List Entry) : Prop :=
  (∀ batch ∈ s.batches, batch = .done) ∧
  ∀ e ∈ items, ∀ e' ∈ s.table, e'.id = e.id → e'.synced = false

/-- A rename is queued at a later second than the pending ones of its device, a
    batch starts while none is running and from a result without synced
    entries, and a rename is sent while no other one of its device is still on
    its way. -/
def Careful (s : State) : Act → Prop
  | .renameDevice deviceId _ now => ∀ e ∈ s.table, e.synced = false →
      e.action.renamed = some deviceId → e.createdAt < now
  | .deliver => ∀ items ∈ s.snapshots.head?, items ≠ [] → s.processing = false → Quiet s items
  | .retry => ∀ items ∈ s.retries.head?, items ≠ [] → Quiet s items
  | .batch b .call => ∀ batch ∈ s.batches[b]?, ∀ deviceId ∈ batch.upcoming,
      ∀ r ∈ s.wire, r.wire ≠ .finished → r.action.renamed ≠ some deviceId
  | _ => True

instance (s : State) (items : List Entry) : Decidable (Quiet s items) :=
  inferInstanceAs (Decidable (_ ∧ _))

instance decidableCareful (s : State) : ∀ a, Decidable (Careful s a)
  | .renameDevice _ _ _ => by unfold Careful; infer_instance
  | .deliver => by unfold Careful; infer_instance
  | .retry => by unfold Careful; infer_instance
  | .batch _ .call => by unfold Careful; infer_instance
  | .batch _ .respond => isTrue trivial
  | .batch _ .fail => isTrue trivial
  | .batch _ .mark => isTrue trivial
  | .batch _ .finish => isTrue trivial
  | .claimDevice _ _ _ => isTrue trivial
  | .query _ => isTrue trivial
  | .fire => isTrue trivial
  | .requery _ => isTrue trivial
  | .serve _ _ => isTrue trivial
  | .lose _ => isTrue trivial

/-- What is left of a query result in a later state: its entries are rows of
    the table, the renames of a device are in queue order, and an unsynced
    rename queued before one of them is among them. -/
structure Result (table items : List Entry) : Prop where
  distinct : (items.map Entry.id).Nodup
  rows : ∀ e ∈ items, ∃ e' ∈ table, e'.id = e.id ∧ e'.action = e.action
  ordered : items.Pairwise (fun e e' => ∀ deviceId, e.action.renamed = some deviceId →
    e'.action.renamed = some deviceId → e.id < e'.id)
  closed : ∀ e ∈ items, ∀ deviceId, e.action.renamed = some deviceId → ∀ e' ∈ table,
    e'.action.renamed = some deviceId → e'.synced = false → e'.id < e.id →
    ∃ e'' ∈ items, e''.id = e'.id

/-- The table has only grown and been marked. -/
structure Later (table table' : List Entry) : Prop where
  kept : ∀ e ∈ table, ∃ e' ∈ table', e'.id = e.id ∧ e'.action = e.action
  unsynced : ∀ e' ∈ table', e'.synced = false →
    (∃ e ∈ table, e.id = e'.id ∧ e.action = e'.action ∧ e.synced = false) ∨
    ∀ e ∈ table, e.id < e'.id

theorem result_later (table table' items : List Entry) (hlater : Later table table')
    (h : Result table items) : Result table' items := by
  refine ⟨h.distinct, ?_, h.ordered, ?_⟩
  · intro e he
    rcases h.rows e he with ⟨row, hrow, hid, haction⟩
    rcases hlater.kept row hrow with ⟨row', hrow', hid', haction'⟩
    exact ⟨row', hrow', hid'.trans hid, haction'.trans haction⟩
  · intro e he deviceId hdev e' he' hdev' hsync hlt
    -- An unsynced entry of the later table is an old one or comes after all of them.
    rcases hlater.unsynced e' he' hsync with ⟨old, hold, hid, haction, hosync⟩ | hnew
    · rcases h.closed e he deviceId hdev old hold (by rw [haction, hdev']) hosync (by omega)
        with ⟨e'', he'', heq⟩
      exact ⟨e'', he'', heq.trans hid⟩
    · rcases h.rows e he with ⟨row, hrow, hid, _⟩
      have hrow' := hnew row hrow
      omega

theorem result_nil (table : List Entry) : Result table [] where
  distinct := List.nodup_nil
  rows := fun _ h => absurd h List.not_mem_nil
  ordered := List.Pairwise.nil
  closed := fun _ h => absurd h List.not_mem_nil

/-- The first unsynced rename of a device. -/
structure FirstPending (table : List Entry) (deviceId : String) (e : Entry) : Prop where
  row : e ∈ table
  renamed : e.action.renamed = some deviceId
  unsynced : e.synced = false
  first : ∀ e' ∈ table, e'.action.renamed = some deviceId → e'.id < e.id → e'.synced = true

/-- What a batch still has to do. -/
def Batch.remaining : Batch → List Entry
  | .next items => items
  | .calling _ item items => item :: items
  | .marking item items => item :: items
  | .ending _ => []
  | .done => []

/-- A batch works through a result none of whose entries is synced yet; the
    call it waits for is that of its item, and the item it marks is what the
    backend holds, with no other rename of the device on its way. -/
structure BatchInOrder (user : User) (table : List Entry) (wire : List Request) (db : Database)
    (batch : Batch) : Prop where
  result : Result table batch.remaining
  unsynced : ∀ e ∈ batch.remaining, ∀ e' ∈ table, e'.id = e.id → e'.synced = false
  calling : ∀ call item items, batch = .calling call item items →
    ∃ w, wire[call]? = some ⟨item.action, w⟩
  marking : ∀ item items, batch = .marking item items → ∀ deviceId deviceAlias,
    item.action = .rename deviceId deviceAlias → HasAlias user db deviceId deviceAlias ∧
    ∀ r ∈ wire, r.wire ≠ .finished → r.action.renamed ≠ some deviceId

/-- The backend holds the alias of the first unsynced rename of the device, or
    of the last synced one. -/
def Tracks (user : User) (table : List Entry) (db : Database) (deviceId : String) : Prop :=
  (∃ e deviceAlias, FirstPending table deviceId e ∧ e.action = .rename deviceId deviceAlias ∧
    HasAlias user db deviceId deviceAlias) ∨
  ∀ e ∈ table, ∀ deviceAlias, e.action = .rename deviceId deviceAlias → e.synced = true →
    (∀ e' ∈ table, e'.action.renamed = some deviceId → e'.synced = true → e'.id ≤ e.id) →
    HasAlias user db deviceId deviceAlias

/-- What holds of every careful run. -/
structure InOrder (user : User) (s : State) : Prop where
  ids : (s.table.map Entry.id).Nodup
  bound : ∀ e ∈ s.table, e.id < s.nextId
  clock : ∀ e ∈ s.table, ∀ e' ∈ s.table, ∀ deviceId, e.action.renamed = some deviceId →
    e'.action.renamed = some deviceId → e.synced = false → e'.synced = false → e.id < e'.id →
    e.createdAt < e'.createdAt
  synced : ∀ e ∈ s.table, ∀ e' ∈ s.table, ∀ deviceId, e.action.renamed = some deviceId →
    e'.action.renamed = some deviceId → e.id < e'.id → e'.synced = true → e.synced = true
  results : ∀ items, items ∈ s.snapshots ∨ items ∈ s.retries → Result s.table items
  active : AtMostOne (fun batch => batch ≠ .done) s.batches
  batches : ∀ batch ∈ s.batches, BatchInOrder user s.table s.wire s.db batch
  first : ∀ r ∈ s.wire, r.wire ≠ .finished → ∀ deviceId deviceAlias,
    r.action = .rename deviceId deviceAlias →
    ∃ e, FirstPending s.table deviceId e ∧ e.action = .rename deviceId deviceAlias
  alone : ∀ deviceId, AtMostOne
    (fun r => r.wire ≠ .finished ∧ r.action.renamed = some deviceId) s.wire
  answered : ∀ r ∈ s.wire, ∀ status, r.wire = .answered status → ∀ deviceId deviceAlias,
    r.action = .rename deviceId deviceAlias →
    status ≠ 409 ∧ (status = 200 → HasAlias user s.db deviceId deviceAlias)
  tracks : ∀ deviceId, Tracks user s.table s.db deviceId

theorem renamed_rename (action : Action) (deviceId : String) :
    action.renamed = some deviceId ↔ ∃ deviceAlias, action = .rename deviceId deviceAlias := by
  cases action with
  | claim _ _ => simp only [Action.renamed, reduceCtorEq, exists_false]
  | rename d a => simp only [Action.renamed, Option.some.injEq, Action.rename.injEq,
      exists_and_left, exists_eq', and_true]

/-- A claim keeps the aliases there are, and a rename those of other devices.
    A rename answered 200 sets the alias, and any other answer to it changes
    nothing and is never 409. -/
theorem handle_spec (env : Env) (user : User) (now : Datetime) (db : Database) (action : Action) :
    (∀ deviceId deviceAlias, action.renamed ≠ some deviceId →
      HasAlias user db deviceId deviceAlias →
      HasAlias user (handle env user now db action).1 deviceId deviceAlias) ∧
    ∀ deviceId deviceAlias, action = .rename deviceId deviceAlias →
      (handle env user now db action).2 ≠ 409 ∧
      ((handle env user now db action).2 = 200 →
        HasAlias user (handle env user now db action).1 deviceId deviceAlias) ∧
      ((handle env user now db action).2 ≠ 200 → (handle env user now db action).1 = db) := by
  cases action with
  | claim device code =>
      refine ⟨?_, fun _ _ h => absurd h (by simp only [reduceCtorEq, not_false_eq_true])⟩
      rintro deviceId deviceAlias _ ⟨ud, hud, hkey⟩
      refine ⟨ud, ?_, hkey⟩
      simp only [handle]
      rcases claimDevice_cases env db user device code now with
        ⟨_, _, _, _, _, hnew⟩ | ⟨reply, hsame⟩
      · rw [hnew]
        exact List.mem_append_left _ hud
      · rw [hsame]
        exact hud
  | rename device name =>
      have hfail : ∀ (reply : Reply ClaimResponse),
          updateDeviceAlias db user device name = (db, reply) →
          (handle env user now db (.rename device name)) = (db, status reply) := by
        intro reply heq
        simp only [handle, heq]
      -- Renamed, refused, or a crash on a device with several owners.
      rcases updateDeviceAlias_cases db user device name with ⟨ud, hin, hkey, hok⟩ | h403 | hcrash
      · have hhandle : handle env user now db (.rename device name) =
            (db.setAlias ud.key name, 200) := by
          simp only [handle, hok, status]
        rw [hhandle]
        refine ⟨?_, ?_⟩
        · rintro deviceId deviceAlias hother ⟨old, hold, hokey, halias⟩
          refine ⟨old, List.mem_map.mpr ⟨old, hold, if_neg ?_⟩, hokey, halias⟩
          rw [decide_eq_true_eq, hokey, hkey, Prod.mk.injEq]
          rintro ⟨_, heq⟩
          exact hother (by rw [Action.renamed, heq])
        · intro deviceId deviceAlias heq
          rw [Action.rename.injEq] at heq
          rw [← heq.1, ← heq.2]
          exact ⟨(by decide : (200 : Nat) ≠ 409), fun _ => ⟨Database.withAlias name ud,
            List.mem_map.mpr ⟨ud, hin, if_pos (decide_eq_true rfl)⟩, hkey, rfl⟩,
            fun hno => absurd rfl hno⟩
      · rw [hfail _ h403]
        exact ⟨fun _ _ _ h => h, fun _ _ _ => ⟨(by decide : (403 : Nat) ≠ 409),
          fun h => absurd h (by decide : (403 : Nat) ≠ 200), fun _ => rfl⟩⟩
      · rw [hfail _ hcrash]
        exact ⟨fun _ _ _ h => h, fun _ _ _ => ⟨(by decide : (500 : Nat) ≠ 409),
          fun h => absurd h (by decide : (500 : Nat) ≠ 200), fun _ => rfl⟩⟩

theorem eq_of_id (user : User) (s : State) (h : InOrder user s) (e e' : Entry) (he : e ∈ s.table)
    (he' : e' ∈ s.table) (heq : e.id = e'.id) : e = e' :=
  Keyed.eq_of_key Entry.id s.table e e' h.ids he he' heq

theorem batchInOrder_idle (user : User) (table : List Entry) (wire : List Request) (db : Database)
    (batch : Batch) (h : batch.remaining = []) : BatchInOrder user table wire db batch := by
  refine ⟨h ▸ result_nil table, ?_, ?_, ?_⟩
  · intro e he
    rw [h] at he
    exact absurd he List.not_mem_nil
  · intro call item items heq
    rw [heq] at h
    exact absurd h (List.cons_ne_nil _ _)
  · intro item items heq
    rw [heq] at h
    exact absurd h (List.cons_ne_nil _ _)

/-- When batch `b` moves, the others have returned. -/
theorem batches_set (user : User) (s : State) (table : List Entry) (wire : List Request)
    (db : Database) (b : Nat) (batch batch' : Batch) (h : InOrder user s)
    (hget : s.batches[b]? = some batch) (hactive : batch ≠ .done)
    (hnew : BatchInOrder user table wire db batch') :
    ∀ d ∈ s.batches.set b batch', BatchInOrder user table wire db d := by
  intro d hd
  rcases List.getElem?_of_mem hd with ⟨i, hi⟩
  rcases getElem?_set_cases s.batches b i batch' d hi with ⟨_, heq⟩ | ⟨hne, hold⟩
  · rw [heq]
    exact hnew
  -- Only one batch is running, and it is `b`.
  · have hdone : d = .done := by
      by_contra hno
      exact hne (h.active i b d batch hold hget hno hactive)
    rw [hdone]
    exact batchInOrder_idle user table wire db .done rfl

/-- A step of a batch that changes neither the table nor the wire. -/
theorem inOrder_setBatch (user : User) (s : State) (b : Nat) (batch batch' : Batch)
    (h : InOrder user s) (hget : s.batches[b]? = some batch) (hactive : batch ≠ .done)
    (hnew : BatchInOrder user s.table s.wire s.db batch') :
    InOrder user { s with batches := s.batches.set b batch' } :=
  ⟨h.ids, h.bound, h.clock, h.synced, h.results,
    atMostOne_set _ s.batches b batch batch' h.active hget (fun _ => hactive),
    batches_set user s s.table s.wire s.db b batch batch' h hget hactive hnew,
    h.first, h.alone, h.answered, h.tracks⟩

/-- A new entry comes after all others. -/
theorem later_insert (user : User) (s : State) (action : Action) (now : Int) (h : InOrder user s) :
    Later s.table (insertAction s action now).table := by
  refine ⟨fun e he => ⟨e, List.mem_append_left _ he, rfl, rfl⟩, ?_⟩
  intro e' he' hsync
  rcases List.mem_append.mp he' with hold | hnew
  · exact Or.inl ⟨e', hold, rfl, rfl, hsync⟩
  · rw [List.mem_singleton.mp hnew]
    exact Or.inr h.bound

theorem firstPending_insert (user : User) (s : State) (action : Action) (now : Int)
    (deviceId : String) (e : Entry) (h : InOrder user s) (he : FirstPending s.table deviceId e) :
    FirstPending (insertAction s action now).table deviceId e := by
  refine ⟨List.mem_append_left _ he.row, he.renamed, he.unsynced, ?_⟩
  intro e' he' hdev hlt
  rcases List.mem_append.mp he' with hold | hnew
  · exact he.first e' hold hdev hlt
  · rw [List.mem_singleton.mp hnew] at hlt
    have hbound := h.bound e he.row
    simp only at hlt
    omega

theorem inOrder_insert (user : User) (s : State) (action : Action) (now : Int)
    (h : InOrder user s)
    (hclock : ∀ e ∈ s.table, ∀ deviceId, e.synced = false → e.action.renamed = some deviceId →
      action.renamed = some deviceId → e.createdAt < now) :
    InOrder user (insertAction s action now) := by
  have hlater := later_insert user s action now h
  have hcases : ∀ e ∈ (insertAction s action now).table,
      e ∈ s.table ∨ e = ⟨s.nextId, action, now, false⟩ := by
    intro e he
    rcases List.mem_append.mp he with hold | hnew
    · exact Or.inl hold
    · exact Or.inr (List.mem_singleton.mp hnew)
  refine ⟨?_, ?_, ?_, ?_, ?_, h.active, ?_, ?_, h.alone, h.answered, ?_⟩
  · exact Keyed.nodup_concat Entry.id s.table _ h.ids
      (fun e he => Nat.ne_of_lt (h.bound e he))
  · intro e he
    rcases hcases e he with hold | hnew
    · exact Nat.lt_succ_of_lt (h.bound e hold)
    · rw [hnew]
      exact Nat.lt_succ_self _
  -- A new rename is queued at a later second than the pending ones.
  · intro e he e' he' deviceId hdev hdev' hsync hsync' hlt
    rcases hcases e he with hold | hnew
    · rcases hcases e' he' with hold' | hnew'
      · exact h.clock e hold e' hold' deviceId hdev hdev' hsync hsync' hlt
      · rw [hnew'] at hdev' ⊢
        exact hclock e hold deviceId hsync hdev hdev'
    · rcases hcases e' he' with hold' | hnew'
      · have hbound := h.bound e' hold'
        rw [hnew] at hlt
        simp only at hlt
        omega
      · rw [hnew, hnew'] at hlt
        exact absurd hlt (Nat.lt_irrefl _)
  · intro e he e' he' deviceId hdev hdev' hlt hsync'
    rcases hcases e' he' with hold' | hnew'
    · rcases hcases e he with hold | hnew
      · exact h.synced e hold e' hold' deviceId hdev hdev' hlt hsync'
      · have hbound := h.bound e' hold'
        rw [hnew] at hlt
        simp only at hlt
        omega
    · rw [hnew'] at hsync'
      exact absurd hsync' Bool.false_ne_true
  · intro items hitems
    exact result_later s.table _ items hlater (h.results items hitems)
  · intro batch hbatch
    have hold := h.batches batch hbatch
    refine ⟨result_later s.table _ _ hlater hold.result, ?_, hold.calling, hold.marking⟩
    intro e he e' he' hid
    rcases hcases e' he' with hin | hnew
    · exact hold.unsynced e he e' hin hid
    · rw [hnew]
  · intro r hr hwire deviceId deviceAlias haction
    rcases h.first r hr hwire deviceId deviceAlias haction with ⟨e, he, heq⟩
    exact ⟨e, firstPending_insert user s action now deviceId e h he, heq⟩
  · intro deviceId
    rcases h.tracks deviceId with ⟨e, deviceAlias, he, haction, halias⟩ | hlast
    · exact Or.inl ⟨e, deviceAlias, firstPending_insert user s action now deviceId e h he, haction,
        halias⟩
    · refine Or.inr (fun e he deviceAlias haction hsync hmax => ?_)
      rcases hcases e he with hold | hnew
      · exact hlast e hold deviceAlias haction hsync
          (fun e' he' => hmax e' (List.mem_append_left _ he'))
      · rw [hnew] at hsync
        exact absurd hsync Bool.false_ne_true

/-- A fresh query result. -/
theorem result_query (user : User) (s : State) (items : List Entry) (h : InOrder user s)
    (hres : IsResult s.table items) : Result s.table items := by
  rcases hres with ⟨hperm, hsorted⟩
  have hmem : ∀ e ∈ items, e ∈ s.table ∧ e.synced = false := by
    intro e he
    rcases List.mem_filter.mp (hperm.mem_iff.mp he) with ⟨hin, hsync⟩
    exact ⟨hin, by rwa [Bool.not_eq_true'] at hsync⟩
  have hnodup : (items.map Entry.id).Nodup :=
    (hperm.map Entry.id).nodup_iff.mpr
      (h.ids.sublist (List.filter_sublist.map Entry.id))
  refine ⟨hnodup, fun e he => ⟨e, (hmem e he).1, rfl, rfl⟩, ?_, ?_⟩
  · have hdistinct : items.Pairwise (fun e e' => e.id ≠ e'.id) := List.pairwise_map.mp hnodup
    -- The query sorts by the clock, and within a device the clock gives the queue order.
    refine List.Pairwise.imp_of_mem ?_ (hsorted.and hdistinct)
    -- An entry queued later would have a later reading of the clock.
    rintro e e' he he' ⟨hle, hne⟩ deviceId hdev hdev'
    by_contra hlt
    have hclock := h.clock e' (hmem e' he').1 e (hmem e he).1 deviceId hdev' hdev
      (hmem e' he').2 (hmem e he).2 (by omega)
    omega
  · intro e _ deviceId _ e' he' _ hsync _
    exact ⟨e', hperm.mem_iff.mpr (List.mem_filter.mpr ⟨he', by rw [hsync]; rfl⟩), rfl⟩

/-- The parts of the worker that `InOrder` says nothing about. -/
theorem inOrder_worker (user : User) (s : State) (snapshots retries : List (List Entry))
    (armed processing : Bool) (firing : Nat) (h : InOrder user s)
    (hresults : ∀ items, items ∈ snapshots ∨ items ∈ retries → Result s.table items) :
    InOrder user { s with
      snapshots := snapshots
      retries := retries
      armed := armed
      processing := processing
      firing := firing } :=
  ⟨h.ids, h.bound, h.clock, h.synced, hresults, h.active, h.batches, h.first, h.alone,
    h.answered, h.tracks⟩

theorem inOrder_startBatch (user : User) (s : State) (items : List Entry) (h : InOrder user s)
    (hresult : Result s.table items) (hquiet : Quiet s items) :
    InOrder user (startBatch s items) := by
  refine ⟨h.ids, h.bound, h.clock, h.synced, h.results, ?_, ?_, h.first, h.alone, h.answered,
    h.tracks⟩
  · exact atMostOne_join _ s.batches _ (fun batch hbatch hno => hno (hquiet.1 batch hbatch))
  · intro batch hbatch
    rcases List.mem_append.mp hbatch with hold | hnew
    · exact h.batches batch hold
    · rw [List.mem_singleton.mp hnew]
      exact ⟨hresult, hquiet.2, fun _ _ _ heq => absurd heq Batch.noConfusion,
        fun _ _ heq => absurd heq Batch.noConfusion⟩

/-- The rename at the head of a result is the first unsynced one of its device. -/
theorem firstPending_head (user : User) (s : State) (item : Entry) (items : List Entry)
    (deviceId : String) (h : InOrder user s) (hresult : Result s.table (item :: items))
    (hunsynced : ∀ e ∈ s.table, e.id = item.id → e.synced = false)
    (hdev : item.action.renamed = some deviceId) :
    ∃ e, FirstPending s.table deviceId e ∧ e.id = item.id ∧ e.action = item.action := by
  rcases hresult.rows item List.mem_cons_self with ⟨e, he, hid, haction⟩
  refine ⟨e, ⟨he, by rw [haction, hdev], hunsynced e he hid, ?_⟩, hid, haction⟩
  intro e' he' hdev' hlt
  by_contra hno
  -- An earlier one would be in the result too, and before the head.
  have hsync : e'.synced = false := by simpa only [Bool.not_eq_true] using hno
  rcases hresult.closed item List.mem_cons_self deviceId hdev e' he' hdev' hsync (by omega)
    with ⟨e'', hin, heq⟩
  rcases List.mem_cons.mp hin with hhead | htail
  · rw [hhead] at heq
    omega
  · rcases hresult.rows e'' hin with ⟨row, hrow, hrid, hraction⟩
    have hsame : row = e' := eq_of_id user s h row e' hrow he' (by omega)
    have horder := List.rel_of_pairwise_cons hresult.ordered htail deviceId hdev
      (by rw [← hraction, hsame, hdev'])
    omega

end Outbox

end Mobile

end Vena
