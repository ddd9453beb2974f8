import Vena.Mobile.TelemetryMerge

/-!
# The Merge Does Not Depend on the Order

The messages of any set, handled in any interleaving, leave the same two
tables: in `latest_states` the newest message of every device, in
`telemetry_cache` its thousand newest.

For `latest_states` it is enough that a row never gets older. For
`telemetry_cache` two facts meet. A deletion never removes one of the thousand
newest, because the cutoff it uses was the thousand-and-first of fewer rows
than there are in the end. And of the handlers of a device the last one to
look for a cutoff finds all the thousand newest there, so its deletion takes
every other row that is left.

## Main definitions

* `Latest`, `Merging`: What holds of the two tables on the way.
* `rank`: How many messages of the device are newer.
* `Settled`: Every message of the device has looked for a cutoff.
* `IsNewest`: A message that is the newest of its device.

## Theorems

* `step_latest`, `step_merging`: The steps.
* `run_merging`: Every run.
* `latest_newest`, `cache_newest`: The tables once every handler is done.
* `merge_order_independent`: What the tables hold in the end.
-/

namespace Vena

namespace Mobile

namespace TelemetryMerge

open Processes Run

variable {φ : Type}

/-- What `latest_states` holds while messages of `M` are handled. -/
structure Latest (M : List (Telemetry φ)) (s : State φ) : Prop where
  /-- The handlers are those of messages of `M`. -/
  given : ∀ h ∈ s.handlers, h.msg ∈ M
  /-- Every row is one that a message offered. -/
  offered : ∀ row ∈ s.db.latest, ∃ m ∈ M, m.toLatest = row
  /-- No message that has been offered is newer than the row of its device. -/
  newest : ∀ h ∈ s.handlers, h.pc ≠ .upsertLatestState →
    ∃ row ∈ s.db.latest, row.deviceId = h.msg.deviceId ∧ h.msg.ts ≤ row.ts

/-- A handler that goes on after its upsert, with the table left alone. -/
theorem latest_advance (M : List (Telemetry φ)) (s : State φ) (db : Db φ) (i : Nat)
    (m : Telemetry φ) (pc pc' : Pc) (h : Latest M s) (hget : s.handlers[i]? = some ⟨m, pc⟩)
    (hpc : pc ≠ .upsertLatestState) (hdb : db.latest = s.db.latest) :
    Latest M ⟨db, s.handlers.set i ⟨m, pc'⟩⟩ := by
  have hold := List.mem_of_getElem? hget
  refine ⟨fun h' hmem => ?_, ?_, fun h' hmem hne => ?_⟩
  · rcases List.mem_or_eq_of_mem_set hmem with hin | heq
    · exact h.given h' hin
    · rw [heq]
      exact h.given ⟨m, pc⟩ hold
  · simp only [hdb]
    exact h.offered
  · simp only [hdb]
    rcases List.mem_or_eq_of_mem_set hmem with hin | heq
    · exact h.newest h' hin hne
    · rw [heq]
      exact h.newest ⟨m, pc⟩ hold hpc

theorem step_latest (M : List (Telemetry φ)) (s s' : State φ) (a : Action φ) (h : Latest M s)
    (hgiven : ∀ m, a = .receive m → m ∈ M) (hstep : step s a = some s') : Latest M s' := by
  cases step_moves s s' a hstep with
  | receive m =>
      refine ⟨fun h' hmem => ?_, h.offered, fun h' hmem hne => ?_⟩
      · rcases List.mem_append.mp hmem with hin | hnew
        · exact h.given h' hin
        · exact List.mem_singleton.mp hnew ▸ hgiven m rfl
      · rcases List.mem_append.mp hmem with hin | hnew
        · exact h.newest h' hin hne
        · exact absurd (congrArg Handler.pc (List.mem_singleton.mp hnew)) hne
  | upsertLatestState i m hget =>
      have hold := List.mem_of_getElem? hget
      refine ⟨fun h' hmem => ?_, fun row hrow => ?_, fun h' hmem hne => ?_⟩
      · rcases List.mem_or_eq_of_mem_set hmem with hin | heq
        · exact h.given h' hin
        · rw [heq]
          exact h.given ⟨m, .upsertLatestState⟩ hold
      · rcases mem_upsertLatest _ _ row s.db.latestKey hrow with hin | ⟨heq, _⟩
        · exact h.offered row hin
        · exact ⟨m, h.given _ hold, heq.symm⟩
      · rcases List.mem_or_eq_of_mem_set hmem with hin | heq
        -- The row of a device is only ever replaced by a newer one.
        · rcases h.newest h' hin hne with ⟨row, hrow, hdev, hts⟩
          rcases upsertLatest_newest s.db.latest m.toLatest row hrow with ⟨row', hrow', hdev', hts'⟩
          exact ⟨row', hrow', hdev'.trans hdev, Int.le_trans hts hts'⟩
        · rw [heq]
          exact upsertLatest_offered s.db.latest m.toLatest
  | insertTelemetryCache i m hget =>
      exact latest_advance M s _ i m _ _ h hget Pc.noConfusion rfl
  | pruneSelect i m hget => exact latest_advance M s _ i m _ _ h hget Pc.noConfusion rfl
  | pruneDelete i m cutoff hget => exact latest_advance M s _ i m _ _ h hget Pc.noConfusion rfl

/-- How many messages of the device are newer. -/
def rank (M : List (Telemetry φ)) (deviceId : String) (t : Int) : Nat :=
  Newest.newer CacheRow.ts (ofDevice deviceId (M.map Telemetry.toCache)) t

/-- The handler has inserted its row. -/
def Pc.inserted : Pc → Bool
  | .upsertLatestState | .insertTelemetryCache => false
  | .pruneSelect | .pruneDelete _ | .done => true

/-- The handler has looked for a cutoff. -/
def Pc.selected : Pc → Bool
  | .upsertLatestState | .insertTelemetryCache | .pruneSelect => false
  | .pruneDelete _ | .done => true

theorem inserted_of_selected (pc : Pc) (h : pc.selected = true) : pc.inserted = true := by
  cases pc with
  | upsertLatestState => exact absurd h Bool.false_ne_true
  | insertTelemetryCache => exact absurd h Bool.false_ne_true
  | pruneSelect => rfl
  | pruneDelete cutoff => rfl
  | done => rfl

/-- Every message of the device has been received and has looked for a cutoff. -/
structure Settled (M : List (Telemetry φ)) (handlers : List (Handler φ)) (deviceId : String) :
    Prop where
  received : ∀ m ∈ M, m.deviceId = deviceId → ∃ h ∈ handlers, h.msg = m
  selected : ∀ h ∈ handlers, h.msg.deviceId = deviceId → h.pc.selected = true

/-- What `telemetry_cache` holds while messages of `M` are handled. -/
structure Merging (M : List (Telemetry φ)) (s : State φ) : Prop where
  cached : ∀ r ∈ s.db.cache, r ∈ M.map Telemetry.toCache
  /-- The newest rows are there from their insertion on. -/
  kept : ∀ h ∈ s.handlers, h.pc.inserted = true → rank M h.msg.deviceId h.msg.ts < keepCount →
    h.msg.toCache ∈ s.db.cache
  /-- No cutoff reaches them. -/
  spared : ∀ h ∈ s.handlers, ∀ cutoff, h.pc = .pruneDelete cutoff → ∀ t ≤ cutoff,
    keepCount ≤ rank M h.msg.deviceId t
  /-- Once the device is settled, a deletion is on its way for every other row. -/
  excess : ∀ r ∈ s.db.cache, keepCount ≤ rank M r.deviceId r.ts →
    Settled M s.handlers r.deviceId →
    ∃ h ∈ s.handlers, h.msg.deviceId = r.deviceId ∧ ∃ cutoff, h.pc = .pruneDelete cutoff ∧
      r.ts ≤ cutoff

/-- A move of a handler that has selected, or of another device, settles
    nothing. -/
theorem settled_of_set (M : List (Telemetry φ)) (handlers : List (Handler φ)) (i : Nat)
    (m : Telemetry φ) (pc pc' : Pc) (deviceId : String)
    (hget : handlers[i]? = some ⟨m, pc⟩) (hpc : m.deviceId = deviceId → pc.selected = true)
    (h : Settled M (handlers.set i ⟨m, pc'⟩) deviceId) : Settled M handlers deviceId := by
  have hold := List.mem_of_getElem? hget
  refine ⟨fun m' hm' hdev => ?_, fun h' hin hdev => ?_⟩
  -- The handler that moves keeps its message.
  · rcases h.received m' hm' hdev with ⟨h', hin, heq⟩
    rcases List.mem_or_eq_of_mem_set hin with hin | hnew
    · exact ⟨h', hin, heq⟩
    · rw [hnew] at heq
      exact ⟨_, hold, heq⟩
  · rcases mem_set_of_mem handlers i _ ⟨m, pc'⟩ h' hget hin with hin | heq
    · exact h.selected h' hin hdev
    · rw [heq] at hdev ⊢
      exact hpc hdev

/-- Nothing is settled while a handler of the device has not selected. -/
theorem not_settled (M : List (Telemetry φ)) (handlers : List (Handler φ)) (h : Handler φ)
    (deviceId : String) (hmem : h ∈ handlers) (hpc : h.pc.selected = false)
    (hsettled : Settled M handlers deviceId) : h.msg.deviceId ≠ deviceId := by
  intro hdev
  rw [hsettled.selected h hmem hdev] at hpc
  exact absurd hpc (Ne.symm Bool.false_ne_true)

/-- A deletion on its way is still there after a move of another handler. -/
theorem pending_set (handlers : List (Handler φ)) (i : Nat) (m : Telemetry φ) (pc pc' : Pc)
    (deviceId : String) (t : Int) (hget : handlers[i]? = some ⟨m, pc⟩)
    (hpc : ∀ cutoff, pc = .pruneDelete cutoff → m.deviceId = deviceId → ¬ t ≤ cutoff)
    (h : ∃ h ∈ handlers, h.msg.deviceId = deviceId ∧ ∃ cutoff, h.pc = .pruneDelete cutoff ∧
      t ≤ cutoff) :
    ∃ h ∈ handlers.set i ⟨m, pc'⟩, h.msg.deviceId = deviceId ∧
      ∃ cutoff, h.pc = .pruneDelete cutoff ∧ t ≤ cutoff := by
  rcases h with ⟨h', hin, hdev, cutoff, hcutoff, hle⟩
  rcases mem_set_of_mem handlers i _ ⟨m, pc'⟩ h' hget hin with hin | heq
  · exact ⟨h', hin, hdev, cutoff, hcutoff, hle⟩
  · rw [heq] at hdev hcutoff
    exact absurd hle (hpc cutoff hcutoff hdev)

theorem merging_receive (M : List (Telemetry φ)) (s : State φ) (m : Telemetry φ)
    (h : Merging M s) :
    Merging M { s with handlers := s.handlers ++ [⟨m, .upsertLatestState⟩] } := by
  refine ⟨h.cached, fun h' hmem hpc => ?_, fun h' hmem cutoff hpc => ?_,
    fun r hr hrank hsettled => ?_⟩
  · rcases List.mem_append.mp hmem with hin | hnew
    · exact h.kept h' hin hpc
    · rw [List.mem_singleton.mp hnew] at hpc
      exact absurd hpc Bool.false_ne_true
  · rcases List.mem_append.mp hmem with hin | hnew
    · exact h.spared h' hin cutoff hpc
    · rw [List.mem_singleton.mp hnew] at hpc
      exact absurd hpc Pc.noConfusion
  · -- The new handler has not selected, so a settled device is another one.
    have hne := not_settled M _ ⟨m, .upsertLatestState⟩ r.deviceId
      (List.mem_append_right _ (List.mem_singleton_self _)) rfl hsettled
    have hbefore : Settled M s.handlers r.deviceId := by
      refine ⟨fun m' hm' hdev => ?_, fun h' hin hdev =>
        hsettled.selected h' (List.mem_append_left _ hin) hdev⟩
      rcases hsettled.received m' hm' hdev with ⟨h', hin, heq⟩
      rcases List.mem_append.mp hin with hin | hnew
      · exact ⟨h', hin, heq⟩
      · rw [List.mem_singleton.mp hnew] at heq
        exact absurd (heq ▸ hdev) hne
    rcases h.excess r hr hrank hbefore with ⟨h', hin, hrest⟩
    exact ⟨h', List.mem_append_left _ hin, hrest⟩

theorem merging_upsertLatestState (M : List (Telemetry φ)) (s : State φ) (i : Nat)
    (m : Telemetry φ) (h : Merging M s) (hget : s.handlers[i]? = some ⟨m, .upsertLatestState⟩) :
    Merging M ⟨s.db.upsertLatestState m.toLatest,
      s.handlers.set i ⟨m, .insertTelemetryCache⟩⟩ := by
  refine ⟨h.cached, fun h' hmem hpc => ?_, fun h' hmem cutoff hpc => ?_,
    fun r hr hrank hsettled => ?_⟩
  · rcases List.mem_or_eq_of_mem_set hmem with hin | heq
    · exact h.kept h' hin hpc
    · rw [heq] at hpc
      exact absurd hpc Bool.false_ne_true
  · rcases List.mem_or_eq_of_mem_set hmem with hin | heq
    · exact h.spared h' hin cutoff hpc
    · rw [heq] at hpc
      exact absurd hpc Pc.noConfusion
  · have hne := not_settled M _ ⟨m, .insertTelemetryCache⟩ r.deviceId
      (mem_set_of_some _ _ _ _ hget) rfl hsettled
    -- This handler has not selected, so a settled device is another one.
    exact pending_set s.handlers i m _ _ r.deviceId r.ts hget
      (fun cutoff hpc => absurd hpc Pc.noConfusion)
      (h.excess r hr hrank (settled_of_set M s.handlers i m _ _ r.deviceId hget
        (fun hdev => absurd hdev hne) hsettled))

theorem merging_insertTelemetryCache (M : List (Telemetry φ)) (hM : (M.map Telemetry.key).Nodup)
    (s : State φ) (i : Nat) (m : Telemetry φ) (hgiven : ∀ h ∈ s.handlers, h.msg ∈ M)
    (h : Merging M s) (hget : s.handlers[i]? = some ⟨m, .insertTelemetryCache⟩) :
    Merging M ⟨s.db.insertTelemetryCache m.toCache, s.handlers.set i ⟨m, .pruneSelect⟩⟩ := by
  have hm : m ∈ M := hgiven ⟨m, .insertTelemetryCache⟩ (List.mem_of_getElem? hget)
  refine ⟨fun r hr => ?_, fun h' hmem hpc hrank => ?_, fun h' hmem cutoff hpc => ?_,
    fun r hr hrank hsettled => ?_⟩
  · rcases Keyed.mem_upsert_cases _ _ _ r hr with ⟨hin, _⟩ | heq
    · exact h.cached r hin
    · exact heq ▸ List.mem_map_of_mem hm
  · rcases List.mem_or_eq_of_mem_set hmem with hin | heq
    · by_cases hkey : h'.msg.key = m.key
      · -- One key is one message, and its row is the one inserted now.
        rw [List.inj_on_of_nodup_map hM (hgiven h' hin) hm hkey]
        exact Keyed.mem_upsert _ _ _
      · exact Keyed.mem_upsert_of_ne _ _ _ _ (h.kept h' hin hpc hrank) hkey
    · rw [heq]
      exact Keyed.mem_upsert _ _ _
  · rcases List.mem_or_eq_of_mem_set hmem with hin | heq
    · exact h.spared h' hin cutoff hpc
    · rw [heq] at hpc
      exact absurd hpc Pc.noConfusion
  · have hne := not_settled M _ ⟨m, .pruneSelect⟩ r.deviceId
      (mem_set_of_some _ _ _ _ hget) rfl hsettled
    rcases Keyed.mem_upsert_cases _ _ _ r hr with ⟨hin, _⟩ | heq
    · exact pending_set s.handlers i m _ _ r.deviceId r.ts hget
        (fun cutoff hpc => absurd hpc Pc.noConfusion)
        (h.excess r hin hrank (settled_of_set M s.handlers i m _ _ r.deviceId hget
          (fun hdev => absurd hdev hne) hsettled))
    · exact absurd (congrArg CacheRow.deviceId heq).symm hne

theorem nodup_toCache (M : List (Telemetry φ)) (hM : (M.map Telemetry.key).Nodup) :
    ((M.map Telemetry.toCache).map CacheRow.key).Nodup := by
  rw [List.map_map]
  exact hM

/-- A settled device has its newest rows in the cache. -/
theorem newest_cached (M : List (Telemetry φ)) (hM : (M.map Telemetry.key).Nodup)
    (handlers : List (Handler φ)) (cache : List (CacheRow φ)) (deviceId : String)
    (hkept : ∀ h ∈ handlers, h.pc.inserted = true →
      rank M h.msg.deviceId h.msg.ts < keepCount → h.msg.toCache ∈ cache)
    (hsettled : Settled M handlers deviceId) :
    ∀ r ∈ Newest.newest CacheRow.ts keepCount (ofDevice deviceId (M.map Telemetry.toCache)),
      r ∈ ofDevice deviceId cache := by
  intro r hr
  rw [Newest.mem_newest _ _ _ (nodup_ts deviceId _ (nodup_toCache M hM)), mem_ofDevice] at hr
  rcases hr with ⟨⟨hrow, hdev⟩, hrank⟩
  rcases List.mem_map.mp hrow with ⟨m, hm, heq⟩
  subst heq
  rcases hsettled.received m hm hdev with ⟨h, hmem, hmsg⟩
  have hinserted := inserted_of_selected h.pc
    (hsettled.selected h hmem (by rw [hmsg]; exact hdev))
  rw [mem_ofDevice]
  refine ⟨?_, hdev⟩
  rw [← hmsg]
  refine hkept h hmem hinserted ?_
  rw [hmsg, rank, show m.deviceId = deviceId from hdev]
  exact hrank

theorem merging_pruneSelect (M : List (Telemetry φ)) (hM : (M.map Telemetry.key).Nodup)
    (s : State φ) (i : Nat) (m : Telemetry φ) (h : Merging M s)
    (hget : s.handlers[i]? = some ⟨m, .pruneSelect⟩) :
    Merging M ⟨s.db, s.handlers.set i
      ⟨m, (s.db.pruneSelect m.deviceId).elim .done (fun cutoff => .pruneDelete cutoff.ts)⟩⟩ := by
  have hold := List.mem_of_getElem? hget
  have hall := nodup_ts m.deviceId _ (nodup_toCache M hM)
  have hrows := nodup_ts m.deviceId s.db.cache s.db.cacheKey
  have hkept : ∀ h' ∈ s.handlers.set i ⟨m, (s.db.pruneSelect m.deviceId).elim .done
      (fun cutoff => .pruneDelete cutoff.ts)⟩, h'.pc.inserted = true →
      rank M h'.msg.deviceId h'.msg.ts < keepCount → h'.msg.toCache ∈ s.db.cache := by
    intro h' hmem hpc hrank
    rcases List.mem_or_eq_of_mem_set hmem with hin | heq
    · exact h.kept h' hin hpc hrank
    · rw [heq] at hrank ⊢
      exact h.kept ⟨m, .pruneSelect⟩ hold rfl hrank
  refine ⟨h.cached, hkept, fun h' hmem cutoff hpc => ?_, fun r hr hrank hsettled => ?_⟩
  · rcases List.mem_or_eq_of_mem_set hmem with hin | heq
    · exact h.spared h' hin cutoff hpc
    · -- The cutoff was the first too many of fewer rows than `M` has.
      rw [heq] at hpc ⊢
      cases hselect : s.db.pruneSelect m.deviceId with
      | none =>
          rw [hselect] at hpc
          exact absurd hpc Pc.noConfusion
      | some c =>
          rw [hselect] at hpc
          simp only [Option.elim_some, Pc.pruneDelete.injEq] at hpc
          refine fun t ht => Newest.le_newer_of_cutoff _ _ _ _ hrows (fun r hr => ?_) c hselect t
            (hpc ▸ ht)
          rw [mem_ofDevice] at hr ⊢
          exact ⟨h.cached r hr.1, hr.2⟩
  · by_cases hdev : m.deviceId = r.deviceId
    · rw [← hdev] at hsettled hrank
      have hnewest := newest_cached M hM _ s.db.cache m.deviceId hkept hsettled
      have hin : r ∈ ofDevice m.deviceId s.db.cache :=
        (mem_ofDevice _ _ r).mpr ⟨hr, hdev.symm⟩
      -- This handler is the last of its device to select, so it finds them all.
      cases hselect : s.db.pruneSelect m.deviceId with
      | none =>
          have hlt := Newest.newer_of_cutoff_none _ _ _ _ hall hnewest hselect r hin
          exact absurd hrank (Nat.not_le.mpr hlt)
      | some c =>
          rw [Option.elim_some]
          exact ⟨⟨m, .pruneDelete c.ts⟩, mem_set_of_some _ _ _ _ hget, hdev, c.ts, rfl,
            Newest.le_cutoff _ _ _ _ hall hrows hnewest c hselect r hin hrank⟩
    · exact pending_set s.handlers i m _ _ r.deviceId r.ts hget
        (fun cutoff hpc => absurd hpc Pc.noConfusion)
        (h.excess r hr hrank (settled_of_set M s.handlers i m _ _ r.deviceId hget
          (fun heq => absurd heq hdev) hsettled))

theorem merging_pruneDelete (M : List (Telemetry φ)) (s : State φ) (i : Nat) (m : Telemetry φ)
    (cutoff : Int) (h : Merging M s)
    (hget : s.handlers[i]? = some ⟨m, .pruneDelete cutoff⟩) :
    Merging M ⟨s.db.pruneDelete m.deviceId cutoff, s.handlers.set i ⟨m, .done⟩⟩ := by
  have hold := List.mem_of_getElem? hget
  have hmem_delete : ∀ r, r ∈ (s.db.pruneDelete m.deviceId cutoff).cache ↔
      r ∈ s.db.cache ∧ ¬ (r.deviceId = m.deviceId ∧ r.ts ≤ cutoff) := by
    intro r
    simp only [Db.pruneDelete, deleteUpTo, List.mem_filter, decide_eq_true_eq]
  have hspared : ∀ m' : Telemetry φ, m'.toCache ∈ s.db.cache →
      rank M m'.deviceId m'.ts < keepCount →
      m'.toCache ∈ (s.db.pruneDelete m.deviceId cutoff).cache := by
    intro m' hin hrank
    refine (hmem_delete _).mpr ⟨hin, fun hdel => ?_⟩
    -- The cutoff is below every row that is to stay.
    have hge := h.spared _ hold cutoff rfl m'.ts hdel.2
    rw [show m'.deviceId = m.deviceId from hdel.1] at hrank
    exact absurd hge (Nat.not_le.mpr hrank)
  refine ⟨fun r hr => h.cached r ((hmem_delete r).mp hr).1, fun h' hmem hpc hrank => ?_,
    fun h' hmem cutoff' hpc => ?_, fun r hr hrank hsettled => ?_⟩
  · rcases List.mem_or_eq_of_mem_set hmem with hin | heq
    · exact hspared h'.msg (h.kept h' hin hpc hrank) hrank
    · rw [heq] at hrank ⊢
      exact hspared m (h.kept ⟨m, .pruneDelete cutoff⟩ hold rfl hrank) hrank
  · rcases List.mem_or_eq_of_mem_set hmem with hin | heq
    · exact h.spared h' hin cutoff' hpc
    · rw [heq] at hpc
      exact absurd hpc Pc.noConfusion
  · rw [hmem_delete] at hr
    refine pending_set s.handlers i m _ _ r.deviceId r.ts hget (fun cutoff' hpc hdev hle => ?_)
      (h.excess r hr.1 hrank (settled_of_set M s.handlers i m _ _ r.deviceId hget
        (fun _ => rfl) hsettled))
    -- A row that this deletion was meant for is gone.
    rw [Pc.pruneDelete.injEq] at hpc
    exact hr.2 ⟨hdev.symm, hpc ▸ hle⟩

theorem step_merging (M : List (Telemetry φ)) (hM : (M.map Telemetry.key).Nodup) (s s' : State φ)
    (a : Action φ) (hgiven : ∀ h ∈ s.handlers, h.msg ∈ M) (h : Merging M s)
    (hstep : step s a = some s') : Merging M s' := by
  cases step_moves s s' a hstep with
  | receive m => exact merging_receive M s m h
  | upsertLatestState i m hget => exact merging_upsertLatestState M s i m h hget
  | insertTelemetryCache i m hget =>
      exact merging_insertTelemetryCache M hM s i m hgiven h hget
  | pruneSelect i m hget => exact merging_pruneSelect M hM s i m h hget
  | pruneDelete i m cutoff hget => exact merging_pruneDelete M s i m cutoff h hget

theorem run_merging (M : List (Telemetry φ)) (hM : (M.map Telemetry.key).Nodup)
    (as : List (Action φ)) (t : State φ) (hgiven : ∀ a ∈ as, ∀ m, a = .receive m → m ∈ M)
    (hrun : run step initial as = some t) : Latest M t ∧ Merging M t := by
  refine run_invariant_along step (fun _ a => ∀ m, a = .receive m → m ∈ M)
    (fun s => Latest M s ∧ Merging M s) (fun s a s' h hm hstep =>
      ⟨step_latest M s s' a h.1 hm hstep, step_merging M hM s s' a h.1.given h.2 hstep⟩)
    as initial t ⟨⟨?_, ?_, ?_⟩, ⟨?_, ?_, ?_, ?_⟩⟩
    (along_of_forall step (fun a => ∀ m, a = .receive m → m ∈ M) as initial hgiven) hrun
  · exact fun h hmem => absurd hmem List.not_mem_nil
  · exact fun row hrow => absurd hrow List.not_mem_nil
  · exact fun h hmem => absurd hmem List.not_mem_nil
  · exact fun r hr => absurd hr List.not_mem_nil
  · exact fun h hmem => absurd hmem List.not_mem_nil
  · exact fun h hmem => absurd hmem List.not_mem_nil
  · exact fun r hr => absurd hr List.not_mem_nil

/-- A move keeps the message of the handler. -/
theorem received_set (handlers : List (Handler φ)) (i : Nat) (m m' : Telemetry φ) (pc pc' : Pc)
    (hget : handlers[i]? = some ⟨m, pc⟩) (h : ∃ h ∈ handlers, h.msg = m') :
    ∃ h ∈ handlers.set i ⟨m, pc'⟩, h.msg = m' := by
  rcases h with ⟨h, hmem, hmsg⟩
  rcases mem_set_of_mem handlers i _ ⟨m, pc'⟩ h hget hmem with hin | heq
  · exact ⟨h, hin, hmsg⟩
  · rw [heq] at hmsg
    exact ⟨_, mem_set_of_some _ _ _ _ hget, hmsg⟩

theorem step_received (s s' : State φ) (a : Action φ) (m : Telemetry φ)
    (h : (∃ h ∈ s.handlers, h.msg = m) ∨ a = .receive m) (hstep : step s a = some s') :
    ∃ h ∈ s'.handlers, h.msg = m := by
  rcases h with hold | hnew
  · cases step_moves s s' a hstep with
    | receive m' =>
        rcases hold with ⟨h, hmem, hmsg⟩
        exact ⟨h, List.mem_append_left _ hmem, hmsg⟩
    | upsertLatestState i m' hget => exact received_set _ i m' m _ _ hget hold
    | insertTelemetryCache i m' hget => exact received_set _ i m' m _ _ hget hold
    | pruneSelect i m' hget => exact received_set _ i m' m _ _ hget hold
    | pruneDelete i m' cutoff hget => exact received_set _ i m' m _ _ hget hold
  · subst hnew
    rw [step, Option.some.injEq] at hstep
    subst hstep
    exact ⟨_, List.mem_append_right _ (List.mem_singleton_self _), rfl⟩

/-- A message that is received has a handler from then on. -/
theorem run_received (as : List (Action φ)) (t : State φ) (m : Telemetry φ) :
    ∀ s : State φ, run step s as = some t →
      (∃ h ∈ s.handlers, h.msg = m) ∨ .receive m ∈ as → ∃ h ∈ t.handlers, h.msg = m := by
  induction as with
  | nil =>
      intro s hrun h
      simp only [run, Option.some.injEq] at hrun
      rw [← hrun]
      exact h.resolve_right List.not_mem_nil
  | cons a as ih =>
      intro s hrun h
      rcases (run_cons_eq_some step s t a as).mp hrun with ⟨s', hstep, hrest⟩
      refine ih s' hrest ?_
      rcases h with hold | hin
      · exact Or.inl (step_received s s' a m (Or.inl hold) hstep)
      · rcases List.mem_cons.mp hin with heq | htail
        · exact Or.inl (step_received s s' a m (Or.inr heq.symm) hstep)
        · exact Or.inr htail

/-- No message of its device is newer. -/
def IsNewest (M : List (Telemetry φ)) (m : Telemetry φ) : Prop :=
  m ∈ M ∧ ∀ m' ∈ M, m'.deviceId = m.deviceId → m'.ts ≤ m.ts

/-- Once every offer has been made, `latest_states` holds the newest messages. -/
theorem latest_newest (M : List (Telemetry φ)) (hM : (M.map Telemetry.key).Nodup) (t : State φ)
    (h : Latest M t) (hall : ∀ m ∈ M, ∃ h ∈ t.handlers, h.msg = m)
    (hdone : ∀ h ∈ t.handlers, h.pc = .done) (row : LatestState φ) :
    row ∈ t.db.latest ↔ ∃ m, IsNewest M m ∧ m.toLatest = row := by
  -- The row of a message's device is there and is not older than the message.
  have hrow : ∀ m ∈ M, ∃ row ∈ t.db.latest, row.deviceId = m.deviceId ∧ m.ts ≤ row.ts := by
    intro m hm
    rcases hall m hm with ⟨h', hmem, hmsg⟩
    rw [← hmsg]
    exact h.newest h' hmem (by rw [hdone h' hmem]; exact Pc.noConfusion)
  constructor
  · intro hin
    rcases h.offered row hin with ⟨m, hm, heq⟩
    refine ⟨m, ⟨hm, fun m' hm' hdev => ?_⟩, heq⟩
    -- There is one row for the device, so no message is newer than this one.
    rcases hrow m' hm' with ⟨row', hin', hdev', hle⟩
    have hsame : row' = row := by
      refine Keyed.eq_of_key LatestState.deviceId t.db.latest row' row t.db.latestKey hin' hin ?_
      rw [hdev', hdev, ← heq, toLatest_deviceId]
    rw [hsame, ← heq, toLatest_ts] at hle
    exact hle
  · rintro ⟨m, ⟨hm, hmax⟩, heq⟩
    rcases hrow m hm with ⟨row', hin', hdev', hle⟩
    rcases h.offered row' hin' with ⟨m', hm', heq'⟩
    rw [← heq', toLatest_deviceId] at hdev'
    rw [← heq', toLatest_ts] at hle
    -- The row came from a message of the same instant, and that is the same message.
    have hts : m'.ts = m.ts := Int.le_antisymm (hmax m' hm' hdev') hle
    have hsame : m' = m := List.inj_on_of_nodup_map hM hm' hm (Prod.ext hdev' hts)
    rw [← heq, ← hsame, heq']
    exact hin'

/-- Once every handler is done, the cache of a device holds its newest rows. -/
theorem cache_newest (M : List (Telemetry φ)) (hM : (M.map Telemetry.key).Nodup) (t : State φ)
    (h : Merging M t) (hall : ∀ m ∈ M, ∃ h ∈ t.handlers, h.msg = m)
    (hdone : ∀ h ∈ t.handlers, h.pc = .done) (deviceId : String) :
    (ofDevice deviceId t.db.cache).Perm
      (Newest.newest CacheRow.ts keepCount (ofDevice deviceId (M.map Telemetry.toCache))) := by
  have hts := nodup_ts deviceId _ (nodup_toCache M hM)
  have hsettled : Settled M t.handlers deviceId :=
    ⟨fun m hm _ => hall m hm, fun h' hmem _ => by rw [hdone h' hmem]; rfl⟩
  have hnodup : (Newest.newest CacheRow.ts keepCount
      (ofDevice deviceId (M.map Telemetry.toCache))).Nodup :=
    ((Newest.perm_newestFirst CacheRow.ts _).nodup_iff.mpr (List.Nodup.of_map _ hts)).sublist
      (List.take_sublist _ _)
  have hrows : (ofDevice deviceId t.db.cache).Nodup :=
    (List.Nodup.of_map _ t.db.cacheKey).filter _
  refine (List.perm_ext_iff_of_nodup hrows hnodup).mpr (fun r => ?_)
  constructor
  · intro hr
    have hin := (mem_ofDevice deviceId _ r).mp hr
    rw [Newest.mem_newest _ _ _ hts, mem_ofDevice]
    refine ⟨⟨h.cached r hin.1, hin.2⟩, ?_⟩
    -- A row too many would have a deletion on its way, and there is none left.
    by_contra hge
    rw [← hin.2] at hge hsettled
    rcases h.excess r hin.1 (Nat.not_lt.mp hge) hsettled with ⟨h', hmem, _, cutoff, hpc, _⟩
    rw [hdone h' hmem] at hpc
    exact absurd hpc Pc.noConfusion
  · exact newest_cached M hM t.handlers t.db.cache deviceId h.kept hsettled r

/-- The messages of any set, handled in any interleaving, leave the newest
    message of every device in `latest_states` and the thousand newest of every
    device in `telemetry_cache`. -/
theorem merge_order_independent (M : List (Telemetry φ)) (hM : (M.map Telemetry.key).Nodup)
    (as : List (Action φ)) (t : State φ) (hgiven : ∀ m, .receive m ∈ as ↔ m ∈ M)
    (hrun : run step initial as = some t) (hdone : ∀ h ∈ t.handlers, h.pc = .done) :
    (∀ row, row ∈ t.db.latest ↔ ∃ m, IsNewest M m ∧ m.toLatest = row) ∧
    ∀ deviceId, (ofDevice deviceId t.db.cache).Perm
      (Newest.newest CacheRow.ts keepCount (ofDevice deviceId (M.map Telemetry.toCache))) := by
  rcases run_merging M hM as t (fun a ha m heq => (hgiven m).mp (heq ▸ ha)) hrun
    with ⟨hlatest, hmerging⟩
  have hall : ∀ m ∈ M, ∃ h ∈ t.handlers, h.msg = m :=
    fun m hm => run_received as t m initial hrun (Or.inr ((hgiven m).mpr hm))
  exact ⟨latest_newest M hM t hlatest hall hdone, cache_newest M hM t hmerging hall hdone⟩

/-- A BLE reading of a device, a second before its next MQTT reading. -/
def demoBle : Telemetry Nat :=
  ⟨"vena-a", 100, some 20, none, none, none, none, none, .ble⟩

/-- The MQTT reading. -/
def demoMqtt : Telemetry Nat :=
  ⟨"vena-a", 101, some 21, none, none, none, none, none, .mqtt⟩

/-- The MQTT handler overtakes the BLE handler between its two writes. -/
def overtaken : List (Action Nat) :=
  [.receive demoBle, .receive demoMqtt, .advance 0, .advance 1, .advance 1, .advance 1,
    .advance 0, .advance 0]

theorem merge_overtaken : ∃ t, run step initial overtaken = some t ∧
    demoMqtt.toLatest ∈ t.db.latest ∧
    (ofDevice "vena-a" t.db.cache).Perm [demoMqtt.toCache, demoBle.toCache] := by
  have hdone : ∀ h ∈ ((run step initial overtaken).get (by decide +kernel)).handlers,
      h.pc = .done := by decide +kernel
  have hsome : (run step initial overtaken).isSome = true := by decide +kernel
  have hrun : run step initial overtaken = some ((run step initial overtaken).get hsome) :=
    (Option.some_get hsome).symm
  have hmerged := merge_order_independent [demoBle, demoMqtt] (by decide) overtaken _
    (fun m => by simp only [overtaken, List.mem_cons, Action.receive.injEq, reduceCtorEq,
      List.not_mem_nil, or_false]) hrun hdone
  have hnewest : IsNewest [demoBle, demoMqtt] demoMqtt := by
    unfold IsNewest
    decide
  have hcache : Newest.newest CacheRow.ts keepCount
      (ofDevice "vena-a" ([demoBle, demoMqtt].map Telemetry.toCache)) =
      [demoMqtt.toCache, demoBle.toCache] := by decide +kernel
  exact ⟨_, hrun, (hmerged.1 _).mpr ⟨demoMqtt, hnewest, rfl⟩, hcache ▸ hmerged.2 "vena-a"⟩

end TelemetryMerge

end Mobile

end Vena
