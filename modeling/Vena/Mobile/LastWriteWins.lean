import Vena.Mobile.OutboxOrder
import Vena.Core.Run

/-!
# The Last Rename Wins

Once every entry of the outbox is synced and no call is on its way, the backend
should hold the alias the user chose last. `earlier_write_wins` is a run after
which it does not, and `last_write_wins` shows that the four turns `Careful`
rules out are all that can go wrong: every careful run keeps `InOrder`.

## Main definitions

* `LastWriteWins`: The property.

## Theorems

* `inOrder_stepBatch`: The steps of a batch.
* `inOrder_serve`, `inOrder_lose`: The steps of the network.
* `step_inOrder`, `run_inOrder`: Every careful run keeps `InOrder`.
* `last_write_wins`: In a careful run the last rename wins.
* `earlier_write_wins`: A run in which it does not.
-/

namespace Vena

namespace Mobile

namespace Outbox

open Backend Python Processes

/-- Once nothing is pending and no call is on its way, the backend holds the
    alias of the last rename of every device. -/
def LastWriteWins (user : User) (s : State) : Prop :=
  (∀ e ∈ s.table, e.synced = true) → (∀ r ∈ s.wire, r.wire = .finished) →
  ∀ e ∈ s.table, ∀ deviceId deviceAlias, e.action = .rename deviceId deviceAlias →
    (∀ e' ∈ s.table, e'.action.renamed = some deviceId → e'.id ≤ e.id) →
    HasAlias user s.db deviceId deviceAlias

theorem inOrder_call (user : User) (s : State) (b : Nat) (item : Entry) (items : List Entry)
    (h : InOrder user s) (hget : s.batches[b]? = some (.next (item :: items)))
    (hcareful : Careful s (.batch b .call)) :
    InOrder user { s with
      batches := s.batches.set b (.calling s.wire.length item items)
      wire := s.wire ++ [⟨item.action, .travelling⟩] } := by
  have hold := h.batches _ (List.mem_of_getElem? hget)
  have hactive : Batch.next (item :: items) ≠ .done := Batch.noConfusion
  have hcases : ∀ r ∈ s.wire ++ [⟨item.action, .travelling⟩],
      r ∈ s.wire ∨ r = ⟨item.action, .travelling⟩ := by
    intro r hr
    rcases List.mem_append.mp hr with hin | hnew
    · exact Or.inl hin
    · exact Or.inr (List.mem_singleton.mp hnew)
  refine ⟨h.ids, h.bound, h.clock, h.synced, h.results,
    atMostOne_set _ s.batches b _ _ h.active hget (fun _ => hactive),
    batches_set user s s.table _ s.db b _ _ h hget hactive ?_, ?_, ?_, ?_, h.tracks⟩
  · refine ⟨hold.result, hold.unsynced, ?_, fun _ _ heq => absurd heq Batch.noConfusion⟩
    intro call item' items' heq
    rw [Batch.calling.injEq] at heq
    rw [← heq.1, ← heq.2.1, List.getElem?_concat_length]
    exact ⟨.travelling, rfl⟩
  · intro r hr hwire deviceId deviceAlias haction
    rcases hcases r hr with hin | hnew
    · exact h.first r hin hwire deviceId deviceAlias haction
    · rw [hnew] at haction
      -- The item is at the head of its result, so it is the first one pending.
      rcases firstPending_head user s item items deviceId h hold.result
        (hold.unsynced item List.mem_cons_self)
        ((renamed_rename item.action deviceId).mpr ⟨deviceAlias, haction⟩) with ⟨e, he, _, heq⟩
      exact ⟨e, he, heq.trans haction⟩
  · intro deviceId
    -- Being careful, the batch sends it while no other rename of the device is out.
    by_cases hdev : item.action.renamed = some deviceId
    · refine atMostOne_join _ s.wire _ (fun r hr hboth => ?_)
      exact hcareful _ hget deviceId hdev r hr hboth.1 hboth.2
    · exact atMostOne_concat _ s.wire _ (h.alone deviceId) (fun hboth => hdev hboth.2)
  · intro r hr status hwire deviceId deviceAlias haction
    rcases hcases r hr with hin | hnew
    · exact h.answered r hin status hwire deviceId deviceAlias haction
    · rw [hnew] at hwire
      exact absurd hwire Wire.noConfusion

theorem inOrder_respond (user : User) (s : State) (b call status : Nat) (action : Action)
    (item : Entry) (items : List Entry) (h : InOrder user s)
    (hget : s.batches[b]? = some (.calling call item items))
    (hwire : s.wire[call]? = some ⟨action, .answered status⟩) :
    InOrder user { s with
      batches := s.batches.set b
        (if status = 200 ∨ status = 409 then .marking item items else .ending true)
      wire := s.wire.set call ⟨action, .finished⟩ } := by
  have hold := h.batches _ (List.mem_of_getElem? hget)
  have hactive : Batch.calling call item items ≠ .done := Batch.noConfusion
  have haction : item.action = action := by
    rcases hold.calling call item items rfl with ⟨w, hw⟩
    rw [hw, Option.some.injEq, Request.mk.injEq] at hwire
    exact hwire.1
  -- A request that is still unfinished is another one.
  have hothers : ∀ r ∈ s.wire.set call ⟨action, .finished⟩, r.wire ≠ .finished →
      ∃ i, i ≠ call ∧ s.wire[i]? = some r := by
    intro r hr hfin
    rcases List.getElem?_of_mem hr with ⟨i, hi⟩
    rcases getElem?_set_cases s.wire call i _ r hi with ⟨_, heq⟩ | ⟨hne, hin⟩
    · rw [heq] at hfin
      exact absurd rfl hfin
    · exact ⟨i, hne, hin⟩
  refine ⟨h.ids, h.bound, h.clock, h.synced, h.results,
    atMostOne_set _ s.batches b _ _ h.active hget (fun _ => hactive),
    batches_set user s s.table _ s.db b _ _ h hget hactive ?_, ?_, ?_, ?_, h.tracks⟩
  · by_cases hstatus : status = 200 ∨ status = 409
    · rw [if_pos hstatus]
      refine ⟨hold.result, hold.unsynced, fun _ _ _ heq => absurd heq Batch.noConfusion, ?_⟩
      intro item' items' heq deviceId deviceAlias hrename
      rw [Batch.marking.injEq] at heq
      rw [← heq.1, haction] at hrename
      have hanswered := h.answered _ (List.mem_of_getElem? hwire) status rfl deviceId deviceAlias
        hrename
      have hdev : action.renamed = some deviceId :=
        (renamed_rename action deviceId).mpr ⟨deviceAlias, hrename⟩
      -- A rename is never answered 409, so the mark follows a 200.
      refine ⟨hanswered.2 (hstatus.resolve_right hanswered.1), ?_⟩
      intro r hr hfin hrdev
      -- The answered request was the only one of its device.
      rcases hothers r hr hfin with ⟨i, hne, hin⟩
      exact hne (h.alone deviceId i call r _ hin hwire ⟨hfin, hrdev⟩ ⟨Wire.noConfusion, hdev⟩)
    · rw [if_neg hstatus]
      exact batchInOrder_idle user _ _ _ _ rfl
  · intro r hr hfin
    rcases hothers r hr hfin with ⟨i, _, hin⟩
    exact h.first r (List.mem_of_getElem? hin) hfin
  · intro deviceId
    exact atMostOne_set _ s.wire call _ _ (h.alone deviceId) hwire (fun hboth => absurd rfl hboth.1)
  · intro r hr status' hrwire
    rcases hothers r hr (by rw [hrwire]; exact Wire.noConfusion) with ⟨i, _, hin⟩
    exact h.answered r (List.mem_of_getElem? hin) status' hrwire

theorem mem_markSynced_cases (table : List Entry) (id : Nat) (e : Entry)
    (h : e ∈ markSynced table id) :
    (e ∈ table ∧ e.id ≠ id) ∨ (e.id = id ∧ e.synced = true ∧
      ∃ old ∈ table, old.id = id ∧ old.action = e.action) := by
  rcases List.mem_map.mp h with ⟨old, hold, heq⟩
  by_cases hid : old.id = id
  · rw [if_pos hid] at heq
    rw [← heq]
    exact Or.inr ⟨hid, rfl, old, hold, hid, rfl⟩
  · rw [if_neg hid] at heq
    rw [← heq]
    exact Or.inl ⟨hold, hid⟩

theorem mem_markSynced_of_ne (table : List Entry) (id : Nat) (e : Entry) (he : e ∈ table)
    (hne : e.id ≠ id) : e ∈ markSynced table id :=
  List.mem_map.mpr ⟨e, he, if_neg hne⟩

theorem mem_markSynced_of_eq (table : List Entry) (id : Nat) (e : Entry) (he : e ∈ table)
    (heq : e.id = id) : { e with synced := true } ∈ markSynced table id :=
  List.mem_map.mpr ⟨e, he, if_pos heq⟩

theorem map_id_markSynced (table : List Entry) (id : Nat) :
    (markSynced table id).map Entry.id = table.map Entry.id :=
  Keyed.map_key_update Entry.id table _ _ (fun _ _ => rfl)

theorem later_mark (table : List Entry) (id : Nat) : Later table (markSynced table id) := by
  refine ⟨?_, ?_⟩
  · intro e he
    by_cases hid : e.id = id
    · exact ⟨_, mem_markSynced_of_eq table id e he hid, rfl, rfl⟩
    · exact ⟨e, mem_markSynced_of_ne table id e he hid, rfl, rfl⟩
  · intro e he hsync
    rcases mem_markSynced_cases table id e he with ⟨hin, _⟩ | ⟨_, hmarked, _⟩
    · exact Or.inl ⟨e, hin, rfl, rfl, hsync⟩
    · rw [hmarked] at hsync
      exact absurd hsync (Ne.symm Bool.false_ne_true)

theorem firstPending_mark (table : List Entry) (id : Nat) (deviceId : String) (e : Entry)
    (he : FirstPending table deviceId e) (hne : e.id ≠ id) :
    FirstPending (markSynced table id) deviceId e := by
  refine ⟨mem_markSynced_of_ne table id e he.row hne, he.renamed, he.unsynced, ?_⟩
  intro e' he' hdev hlt
  rcases mem_markSynced_cases table id e' he' with ⟨hin, _⟩ | ⟨_, hmarked, _⟩
  · exact he.first e' hin hdev hlt
  · exact hmarked

/-- After the mark of its item a batch has the rest of its result left. -/
theorem batchInOrder_mark (user : User) (table : List Entry) (wire : List Request) (db : Database)
    (item : Entry) (items : List Entry)
    (h : BatchInOrder user table wire db (.marking item items)) :
    BatchInOrder user (markSynced table item.id) wire db (.next items) := by
  have hlater := result_later table _ _ (later_mark table item.id) h.result
  have hdistinct : item.id ∉ items.map Entry.id := (List.nodup_cons.mp hlater.distinct).1
  refine ⟨⟨(List.nodup_cons.mp hlater.distinct).2,
    fun e he => hlater.rows e (List.mem_cons_of_mem _ he),
    (List.pairwise_cons.mp hlater.ordered).2, ?_⟩, ?_,
    fun _ _ _ heq => absurd heq Batch.noConfusion, fun _ _ heq => absurd heq Batch.noConfusion⟩
  · intro e he deviceId hdev e' he' hdev' hsync hlt
    rcases hlater.closed e (List.mem_cons_of_mem _ he) deviceId hdev e' he' hdev' hsync hlt
      with ⟨e'', hin, heq⟩
    rcases List.mem_cons.mp hin with hhead | htail
    -- The entry that left the result is the marked one, which is synced now.
    · rcases mem_markSynced_cases table item.id e' he' with ⟨_, hne⟩ | ⟨_, hmarked, _⟩
      · rw [hhead] at heq
        exact absurd heq.symm hne
      · rw [hmarked] at hsync
        exact absurd hsync (Ne.symm Bool.false_ne_true)
    · exact ⟨e'', htail, heq⟩
  · intro e he e' he' hid
    rcases mem_markSynced_cases table item.id e' he' with ⟨hin, _⟩ | ⟨heq, _⟩
    · exact h.unsynced e (List.mem_cons_of_mem _ he) e' hin hid
    · exact absurd (List.mem_map.mpr ⟨e, he, by rw [← hid, heq]⟩) hdistinct

/-- The mark of the first unsynced rename, whose alias the backend holds. -/
theorem tracks_mark (user : User) (s : State) (item row : Entry) (deviceId : String)
    (h : InOrder user s) (hrow : row ∈ s.table) (hid : row.id = item.id)
    (haction : row.action = item.action) (hsync : row.synced = false)
    (halias : ∀ deviceAlias, item.action = .rename deviceId deviceAlias →
      HasAlias user s.db deviceId deviceAlias) :
    Tracks user (markSynced s.table item.id) s.db deviceId := by
  by_cases hdev : item.action.renamed = some deviceId
  · refine Or.inr (fun e he deviceAlias hrename hesync hmax => ?_)
    have hedev : e.action.renamed = some deviceId :=
      (renamed_rename e.action deviceId).mpr ⟨deviceAlias, hrename⟩
    rcases mem_markSynced_cases s.table item.id e he
      with ⟨hin, hne⟩ | ⟨_, _, old, hold, hoid, hoact⟩
    · -- A rename synced earlier would have been queued before the one marked now.
      have hle := hmax _ (mem_markSynced_of_eq s.table item.id row hrow hid)
        (by simp only [haction, hdev]) rfl
      simp only at hle
      have hsynced :=
        h.synced row hrow e hin deviceId (by rw [haction, hdev]) hedev (by omega) hesync
      rw [hsync] at hsynced
      exact absurd hsynced Bool.false_ne_true
    -- The last synced rename is the one marked now, and the backend holds its alias.
    · have hsame := eq_of_id user s h old row hold hrow (by omega)
      exact halias deviceAlias (by rw [← haction, ← hsame, hoact, hrename])
  -- For any other device the mark changes nothing.
  · have hother : ∀ e ∈ s.table, e.action.renamed = some deviceId → e.id ≠ item.id := by
      intro e he hedev heq
      rw [eq_of_id user s h e row he hrow (by omega), haction] at hedev
      exact hdev hedev
    rcases h.tracks deviceId with ⟨e, deviceAlias, he, hrename, hhas⟩ | hlast
    · exact Or.inl ⟨e, deviceAlias,
        firstPending_mark s.table item.id deviceId e he (hother e he.row he.renamed), hrename, hhas⟩
    · refine Or.inr (fun e he deviceAlias hrename hesync hmax => ?_)
      have hedev : e.action.renamed = some deviceId :=
        (renamed_rename e.action deviceId).mpr ⟨deviceAlias, hrename⟩
      rcases mem_markSynced_cases s.table item.id e he
        with ⟨hin, _⟩ | ⟨_, _, old, hold, hoid, hoact⟩
      · exact hlast e hin deviceAlias hrename hesync (fun e' he' hdev' =>
          hmax e' (mem_markSynced_of_ne s.table item.id e' he' (hother e' he' hdev')) hdev')
      · exact absurd hoid (hother old hold (by rw [hoact, hedev]))

theorem inOrder_mark (user : User) (s : State) (b : Nat) (item : Entry) (items : List Entry)
    (h : InOrder user s) (hget : s.batches[b]? = some (.marking item items)) :
    InOrder user { s with
      batches := s.batches.set b (.next items)
      table := markSynced s.table item.id } := by
  have hold := h.batches _ (List.mem_of_getElem? hget)
  have hactive : Batch.marking item items ≠ .done := Batch.noConfusion
  rcases hold.result.rows item List.mem_cons_self with ⟨row, hrow, hid, haction⟩
  have hsync := hold.unsynced item List.mem_cons_self row hrow hid
  -- An unsynced entry of the new table was there before.
  have hunsynced : ∀ e ∈ markSynced s.table item.id, e.synced = false → e ∈ s.table := by
    intro e he hesync
    rcases mem_markSynced_cases s.table item.id e he with ⟨hin, _⟩ | ⟨_, hmarked, _⟩
    · exact hin
    · rw [hmarked] at hesync
      exact absurd hesync (Ne.symm Bool.false_ne_true)
  have hrows : ∀ e ∈ markSynced s.table item.id, ∃ old ∈ s.table, old.id = e.id ∧
      old.action = e.action ∧ (e.synced = true → old.synced = true ∨ old = row) := by
    intro e he
    rcases mem_markSynced_cases s.table item.id e he
      with ⟨hin, _⟩ | ⟨heid, _, old, hold, hoid, hoact⟩
    · exact ⟨e, hin, rfl, rfl, Or.inl⟩
    · exact ⟨old, hold, by omega, hoact, fun _ =>
        Or.inr (eq_of_id user s h old row hold hrow (by omega))⟩
  refine ⟨?_, ?_, ?_, ?_, ?_, atMostOne_set _ s.batches b _ _ h.active hget (fun _ => hactive),
    batches_set user s _ s.wire s.db b _ _ h hget hactive
      (batchInOrder_mark user s.table s.wire s.db item items hold), ?_, h.alone, h.answered, ?_⟩
  · simp only [map_id_markSynced]
    exact h.ids
  · intro e he
    rcases hrows e he with ⟨old, hin, heq, _⟩
    have hbound := h.bound old hin
    simp only
    omega
  · intro e he e' he' deviceId hdev hdev' hesync hesync' hlt
    exact h.clock e (hunsynced e he hesync) e' (hunsynced e' he' hesync') deviceId hdev hdev' hesync
      hesync' hlt
  · intro e he e' he' deviceId hdev hdev' hlt hesync'
    by_contra hno
    have hesync : e.synced = false := by simpa only [Bool.not_eq_true] using hno
    have hin := hunsynced e he hesync
    rcases hrows e' he' with ⟨old', hold', hoid', hoact', hmark⟩
    rcases hmark hesync' with hwas | hrow'
    · exact hno (h.synced e hin old' hold' deviceId hdev (by rw [hoact', hdev']) (by omega) hwas)
    · -- An unsynced rename queued before the marked one is not there.
      rcases firstPending_head user s item items deviceId h hold.result
        (hold.unsynced item List.mem_cons_self)
        (by rw [← haction, ← hrow', hoact', hdev']) with ⟨first, hfirst, hfid, _⟩
      rw [hrow'] at hoid'
      exact hno (hfirst.first e hin hdev (by omega))
  · intro items' hitems'
    exact result_later s.table _ _ (later_mark s.table item.id) (h.results items' hitems')
  · intro r hr hwire deviceId deviceAlias hrename
    rcases h.first r hr hwire deviceId deviceAlias hrename with ⟨e, he, heact⟩
    refine ⟨e, firstPending_mark s.table item.id deviceId e he (fun heq => ?_), heact⟩
    -- The backend has answered the call for the marked item.
    have hsame := eq_of_id user s h e row he.row hrow (by omega)
    have hitem : item.action = .rename deviceId deviceAlias := by
      rw [← haction, ← hsame, heact]
    exact (hold.marking item items rfl deviceId deviceAlias hitem).2 r hr hwire
      ((renamed_rename r.action deviceId).mpr ⟨deviceAlias, hrename⟩)
  · intro deviceId
    exact tracks_mark user s item row deviceId h hrow hid haction hsync
      (fun deviceAlias hitem => (hold.marking item items rfl deviceId deviceAlias hitem).1)

theorem inOrder_stepBatch (user : User) (s t : State) (b : Nat) (batch : Batch) (stmt : BatchStmt)
    (h : InOrder user s) (hget : s.batches[b]? = some batch)
    (hcareful : Careful s (.batch b stmt)) (hmoves : BatchMoves s b batch stmt t) :
    InOrder user t := by
  cases hmoves with
  | emptied =>
      exact inOrder_setBatch user s b _ _ h hget Batch.noConfusion
        (batchInOrder_idle user _ _ _ _ rfl)
  | call item items => exact inOrder_call user s b item items h hget hcareful
  | respond call item items action status hwire =>
      exact inOrder_respond user s b call status action item items h hget hwire
  | fail call item items =>
      exact inOrder_setBatch user s b _ _ h hget Batch.noConfusion
        (batchInOrder_idle user _ _ _ _ rfl)
  | mark item items => exact inOrder_mark user s b item items h hget
  | finish hadNetworkError =>
      have hset := inOrder_setBatch user s b _ .done h hget Batch.noConfusion
        (batchInOrder_idle user _ _ _ _ rfl)
      exact inOrder_worker user _ s.snapshots s.retries (s.armed || hadNetworkError) false
        s.firing hset h.results

/-- A request whose action stays what it is keeps the call a batch waits for. -/
theorem calling_set (wire : List Request) (call : Nat) (request : Request) (w : Wire)
    (hwire : wire[call]? = some request) (c : Nat) (action : Action)
    (h : ∃ w, wire[c]? = some ⟨action, w⟩) :
    ∃ w', (wire.set call ⟨request.action, w⟩)[c]? = some ⟨action, w'⟩ := by
  rcases h with ⟨w', hw'⟩
  by_cases hc : c = call
  · rw [hc] at hw' ⊢
    rw [hw', Option.some.injEq] at hwire
    rw [← hwire]
    exact ⟨w, getElem?_set_of_some wire call _ _ hw'⟩
  · exact ⟨w', getElem?_set_of_ne wire call c _ _ hc hw'⟩

theorem inOrder_serve (env : Env) (user : User) (s : State) (call : Nat) (now : Datetime)
    (action : Action) (h : InOrder user s) (hwire : s.wire[call]? = some ⟨action, .travelling⟩) :
    InOrder user { s with
      db := (handle env user now s.db action).1
      wire := s.wire.set call ⟨action, .answered (handle env user now s.db action).2⟩ } := by
  rcases handle_spec env user now s.db action with ⟨hother, hrename⟩
  have hserved := List.mem_of_getElem? hwire
  have hcases : ∀ r ∈ s.wire.set call ⟨action, .answered (handle env user now s.db action).2⟩,
      r = ⟨action, .answered (handle env user now s.db action).2⟩ ∨
      ∃ i, i ≠ call ∧ s.wire[i]? = some r := by
    intro r hr
    rcases List.getElem?_of_mem hr with ⟨i, hi⟩
    rcases getElem?_set_cases s.wire call i _ r hi with ⟨_, heq⟩ | ⟨hne, hin⟩
    · exact Or.inl heq
    · exact Or.inr ⟨i, hne, hin⟩
  refine ⟨h.ids, h.bound, h.clock, h.synced, h.results, h.active, ?_, ?_, ?_, ?_, ?_⟩
  · intro batch hbatch
    have hold := h.batches batch hbatch
    refine ⟨hold.result, hold.unsynced, ?_, ?_⟩
    · intro c item items heq
      exact calling_set s.wire call _ _ hwire c item.action (hold.calling c item items heq)
    · intro item items heq deviceId deviceAlias hitem
      rcases hold.marking item items heq deviceId deviceAlias hitem with ⟨halias, hnone⟩
      -- What is being marked elsewhere is no rename of the device served now.
      have hdev := hnone _ hserved Wire.noConfusion
      refine ⟨hother deviceId deviceAlias hdev halias, ?_⟩
      intro r hr hfin
      rcases hcases r hr with hnew | ⟨_, _, hin⟩
      · rw [hnew]
        exact hdev
      · exact hnone r (List.mem_of_getElem? hin) hfin
  · intro r hr hfin deviceId deviceAlias haction
    rcases hcases r hr with hnew | ⟨_, _, hin⟩
    · rw [hnew] at haction
      exact h.first _ hserved Wire.noConfusion deviceId deviceAlias haction
    · exact h.first r (List.mem_of_getElem? hin) hfin deviceId deviceAlias haction
  · intro deviceId
    exact atMostOne_set _ s.wire call _ _ (h.alone deviceId) hwire
      (fun hboth => ⟨Wire.noConfusion, hboth.2⟩)
  · intro r hr status hrwire deviceId deviceAlias haction
    rcases hcases r hr with hnew | ⟨i, hne, hin⟩
    · rw [hnew] at hrwire haction
      rw [Wire.answered.injEq] at hrwire
      rw [← hrwire]
      -- The backend holds what it has just answered 200 to.
      exact ⟨(hrename deviceId deviceAlias haction).1, (hrename deviceId deviceAlias haction).2.1⟩
    · have hanswered := h.answered r (List.mem_of_getElem? hin) status hrwire deviceId deviceAlias
        haction
      refine ⟨hanswered.1, fun hok => hother deviceId deviceAlias (fun hdev => hne ?_)
        (hanswered.2 hok)⟩
      exact h.alone deviceId i call r _ hin hwire
        ⟨by rw [hrwire]; exact Wire.noConfusion,
          (renamed_rename r.action deviceId).mpr ⟨deviceAlias, haction⟩⟩
        ⟨Wire.noConfusion, hdev⟩
  · intro deviceId
    by_cases hdev : action.renamed = some deviceId
    · rcases (renamed_rename action deviceId).mp hdev with ⟨deviceAlias, haction⟩
      rcases hrename deviceId deviceAlias haction with ⟨_, hok, hfail⟩
      -- A rename that goes through is that of the first pending entry.
      by_cases hstatus : (handle env user now s.db action).2 = 200
      · rcases h.first _ hserved Wire.noConfusion deviceId deviceAlias haction with ⟨e, he, heact⟩
        exact Or.inl ⟨e, deviceAlias, he, heact, hok hstatus⟩
      · simp only [hfail hstatus]
        exact h.tracks deviceId
    · rcases h.tracks deviceId with ⟨e, deviceAlias, he, heact, halias⟩ | hlast
      · exact Or.inl ⟨e, deviceAlias, he, heact, hother deviceId deviceAlias hdev halias⟩
      · exact Or.inr (fun e he deviceAlias heact hsync hmax =>
          hother deviceId deviceAlias hdev (hlast e he deviceAlias heact hsync hmax))

theorem inOrder_lose (user : User) (s : State) (call : Nat) (request : Request)
    (h : InOrder user s) (hwire : s.wire[call]? = some request) :
    InOrder user { s with wire := s.wire.set call { request with wire := .finished } } := by
  have hcases : ∀ r ∈ s.wire.set call { request with wire := .finished }, r.wire ≠ .finished →
      r ∈ s.wire := by
    intro r hr hfin
    rcases List.mem_or_eq_of_mem_set hr with hin | heq
    · exact hin
    · rw [heq] at hfin
      exact absurd rfl hfin
  refine ⟨h.ids, h.bound, h.clock, h.synced, h.results, h.active, ?_, ?_, ?_, ?_, h.tracks⟩
  · intro batch hbatch
    have hold := h.batches batch hbatch
    refine ⟨hold.result, hold.unsynced, ?_, ?_⟩
    · intro c item items heq
      exact calling_set s.wire call request _ hwire c item.action (hold.calling c item items heq)
    · intro item items heq deviceId deviceAlias hitem
      rcases hold.marking item items heq deviceId deviceAlias hitem with ⟨halias, hnone⟩
      exact ⟨halias, fun r hr hfin => hnone r (hcases r hr hfin) hfin⟩
  · intro r hr hfin
    exact h.first r (hcases r hr hfin) hfin
  · intro deviceId
    exact atMostOne_set _ s.wire call _ _ (h.alone deviceId) hwire (fun hboth => absurd rfl hboth.1)
  · intro r hr status hrwire
    exact h.answered r (hcases r hr (by rw [hrwire]; exact Wire.noConfusion)) status hrwire

theorem start_inOrder (user : User) (db : Database) : InOrder user (start db) where
  ids := List.nodup_nil
  bound := fun _ h => absurd h List.not_mem_nil
  clock := fun _ h => absurd h List.not_mem_nil
  synced := fun _ h => absurd h List.not_mem_nil
  results :=
    fun _ h => absurd h (by simp only [start, List.not_mem_nil, or_self, not_false_eq_true])
  active := fun _ _ _ _ h => absurd h (by simp only [start, List.getElem?_nil, reduceCtorEq,
    not_false_eq_true])
  batches := fun _ h => absurd h List.not_mem_nil
  first := fun _ h => absurd h List.not_mem_nil
  alone := fun _ _ _ _ _ h => absurd h (by simp only [start, List.getElem?_nil, reduceCtorEq,
    not_false_eq_true])
  answered := fun _ h => absurd h List.not_mem_nil
  tracks := fun _ => Or.inr (fun _ h => absurd h List.not_mem_nil)

theorem inOrder_dropped (user : User) (s : State) (items : List Entry) (rest : List (List Entry))
    (hsnapshots : s.snapshots = items :: rest) (h : InOrder user s) :
    InOrder user { s with snapshots := rest } := by
  refine inOrder_worker user s rest s.retries s.armed s.processing s.firing h ?_
  rintro items' (hin | hin)
  · exact h.results items' (Or.inl (hsnapshots ▸ List.mem_cons_of_mem _ hin))
  · exact h.results items' (Or.inr hin)

theorem inOrder_forgotten (user : User) (s : State) (items : List Entry)
    (rest : List (List Entry)) (hretries : s.retries = items :: rest) (h : InOrder user s) :
    InOrder user { s with retries := rest } := by
  refine inOrder_worker user s s.snapshots rest s.armed s.processing s.firing h ?_
  rintro items' (hin | hin)
  · exact h.results items' (Or.inl hin)
  · exact h.results items' (Or.inr (hretries ▸ List.mem_cons_of_mem _ hin))

theorem step_inOrder (env : Env) (user : User) (s : State) (a : Act) (t : State)
    (h : InOrder user s) (hcareful : Careful s a) (hstep : step env user s a = some t) :
    InOrder user t := by
  cases step_moves env user s t a hstep with
  | claimDevice deviceId pairingCode now =>
      exact inOrder_insert user s _ now h (fun _ _ _ _ _ hdev =>
        absurd hdev (by simp only [Action.renamed, reduceCtorEq, not_false_eq_true]))
  | renameDevice deviceId deviceAlias now =>
      refine inOrder_insert user s _ now h (fun e he d hsync hdev hnew => ?_)
      rw [Action.renamed, Option.some.injEq] at hnew
      exact hcareful e he hsync (by rw [hdev, hnew])
  | query items hresult =>
      refine inOrder_worker user s _ s.retries s.armed s.processing s.firing h ?_
      rintro items' (hin | hin)
      · rcases List.mem_append.mp hin with hold | hnew
        · exact h.results items' (Or.inl hold)
        · rw [List.mem_singleton.mp hnew]
          exact result_query user s items h hresult
      · exact h.results items' (Or.inr hin)
  | deliver items rest hsnapshots hidle =>
      refine inOrder_startBatch user _ items (inOrder_dropped user s items rest hsnapshots h) ?_ ?_
      · exact h.results items (Or.inl (hsnapshots ▸ List.mem_cons_self))
      · exact hcareful items (by rw [hsnapshots]; rfl) hidle.1 hidle.2
  | drop items rest hsnapshots => exact inOrder_dropped user s items rest hsnapshots h
  | fire harmed =>
      exact inOrder_worker user s s.snapshots s.retries false s.processing _ h h.results
  | requery items hfiring hresult =>
      refine inOrder_worker user s s.snapshots _ s.armed s.processing _ h ?_
      rintro items' (hin | hin)
      · exact h.results items' (Or.inl hin)
      · rcases List.mem_append.mp hin with hold | hnew
        · exact h.results items' (Or.inr hold)
        · rw [List.mem_singleton.mp hnew]
          exact result_query user s items h hresult
  | retry items rest hretries hsome =>
      refine inOrder_startBatch user _ items (inOrder_forgotten user s items rest hretries h) ?_ ?_
      · exact h.results items (Or.inr (hretries ▸ List.mem_cons_self))
      · exact hcareful items (by rw [hretries]; rfl) hsome
  | forget items rest hretries => exact inOrder_forgotten user s items rest hretries h
  | batch b stmt batch _ hget hbatch =>
      exact inOrder_stepBatch user s t b batch stmt h hget hcareful hbatch
  | serve call now action hwire => exact inOrder_serve env user s call now action h hwire
  | lose call request hwire => exact inOrder_lose user s call request h hwire

theorem run_inOrder (env : Env) (user : User) (db : Database) (as : List Act) (s : State)
    (hrun : Run.run (step env user) (start db) as = some s)
    (hcareful : Run.Along (step env user) Careful (start db) as) : InOrder user s :=
  Run.run_invariant_along (step env user) Careful (InOrder user)
    (fun s a t h hc hstep => step_inOrder env user s a t h hc hstep) as (start db) s
    (start_inOrder user db) hcareful hrun

/-- In a run whose every step is careful, the last rename wins in every state
    reached. -/
theorem last_write_wins (env : Env) (user : User) (db : Database) (as : List Act) (s : State)
    (hrun : Run.run (step env user) (start db) as = some s)
    (hcareful : Run.Along (step env user) Careful (start db) as) : LastWriteWins user s := by
  have h := run_inOrder env user db as s hrun hcareful
  intro hall _ e he deviceId deviceAlias haction hlast
  rcases h.tracks deviceId with ⟨first, _, hfirst, _, _⟩ | hsynced
  · have hno := hall first hfirst.row
    rw [hfirst.unsynced] at hno
    exact absurd hno Bool.false_ne_true
  -- Nothing is pending, so the backend holds the alias of the last rename.
  · exact hsynced e he deviceAlias haction (hall e he) (fun e' he' hdev _ => hlast e' he' hdev)

/-- The backend's side before the renames: the user owns two devices. -/
def demoDb : Database where
  users := [Access.demoUser]
  devices := [⟨"vena-a", "C0DE", none, none, none, "online"⟩,
    ⟨"vena-b", "1A2B", none, none, none, "online"⟩]
  userDevices := [⟨Access.demoUser.id, "vena-a", none, 0⟩, ⟨Access.demoUser.id, "vena-b", none, 0⟩]
  tokens := []
  userKey := Access.demoDb.userKey
  googleKey := Access.demoDb.googleKey
  deviceKey := by decide
  pairKey := by decide
  tokenKey := Access.demoDb.tokenKey
  userFk := by decide
  deviceFk := by decide
  tokenFk := Access.demoDb.tokenFk

/-- The first call is lost, the timer fires and a second batch delivers both
    renames. -/
def retriedRun : List Act :=
  [.renameDevice "vena-a" "Sala" 10, .query [⟨1, .rename "vena-a" "Sala", 10, false⟩], .deliver,
    .batch 0 .call, .lose 0, .batch 0 .fail, .batch 0 .finish,
    .renameDevice "vena-a" "Quarto" 20, .fire,
    .requery [⟨1, .rename "vena-a" "Sala", 10, false⟩, ⟨2, .rename "vena-a" "Quarto", 20, false⟩],
    .retry, .batch 1 .call, .serve 1 0, .batch 1 .respond, .batch 1 .mark, .batch 1 .call,
    .serve 2 0, .batch 1 .respond, .batch 1 .mark, .batch 1 .call, .batch 1 .finish]

theorem last_write_wins_retried : ∃ s,
    Run.run (step Access.demoEnv Access.demoUser) (start demoDb) retriedRun = some s ∧
    (∀ e ∈ s.table, e.synced = true) ∧ LastWriteWins Access.demoUser s :=
  ⟨_, rfl, by decide,
    last_write_wins Access.demoEnv Access.demoUser demoDb retriedRun _ rfl (by decide)⟩

/-- The timer of a failed batch fires while a later batch waits for its first
    call, which reaches the backend after everything else. -/
def overlappedRun : List Act :=
  [.renameDevice "vena-a" "Sala" 10, .query [⟨1, .rename "vena-a" "Sala", 10, false⟩], .deliver,
    .batch 0 .call, .lose 0, .batch 0 .fail, .batch 0 .finish,
    .renameDevice "vena-b" "Cozinha" 20,
    .query [⟨1, .rename "vena-a" "Sala", 10, false⟩, ⟨2, .rename "vena-b" "Cozinha", 20, false⟩],
    .deliver, .batch 1 .call,
    .renameDevice "vena-a" "Quarto" 30, .fire,
    .requery [⟨1, .rename "vena-a" "Sala", 10, false⟩, ⟨2, .rename "vena-b" "Cozinha", 20, false⟩,
      ⟨3, .rename "vena-a" "Quarto", 30, false⟩],
    .retry, .batch 2 .call, .serve 2 0, .batch 2 .respond, .batch 2 .mark,
    .batch 2 .call, .serve 3 0, .batch 2 .respond, .batch 2 .mark,
    .batch 2 .call, .serve 4 0, .batch 2 .respond, .batch 2 .mark, .batch 2 .call, .batch 2 .finish,
    .serve 1 0, .batch 1 .respond, .batch 1 .mark, .batch 1 .call, .serve 5 0, .batch 1 .respond,
    .batch 1 .mark, .batch 1 .call, .batch 1 .finish]

theorem earlier_write_wins : ¬ ∀ (env : Env) (user : User) (db : Database) (as : List Act)
    (s : State), Run.run (step env user) (start db) as = some s → LastWriteWins user s := by
  intro hall
  have hwins := hall Access.demoEnv Access.demoUser demoDb overlappedRun _ rfl
  have halias := hwins (by decide) (by decide) ⟨3, .rename "vena-a" "Quarto", 30, true⟩ (by decide)
    "vena-a" "Quarto" rfl (by decide)
  exact absurd halias (by decide)

end Outbox

end Mobile

end Vena
