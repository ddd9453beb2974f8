import Mathlib.Data.List.Induction
import Vena.Mobile.TelemetryMerge

/-!
# The Chart Reads a Pruned Table

The chart of a device draws the newest rows of `telemetry_cache`, and every
handler prunes that table while others insert into it. A reader that asks for
no more rows than a prune keeps gets, in any state of any interleaving, what it
would get from a table that nobody ever prunes.

The table that is never pruned is a ghost: the rows inserted so far, one after
the other, each replacing the one under its key. Of every device the pruned
table has the thousand newest of its rows, with the same values, and a deletion
on its way has a cutoff that a thousand of them are newer than.

## Main definitions

* `getRecentCache`, `recentCache`: The query of the chart.
* `inserted`: The row a step inserts.
* `unpruned`: The table that keeps all of them.
* `Covers`: How the two tables agree.

## Theorems

* `newer_upsert`: An insertion only makes a row older.
* `step_covers`, `run_covers`: A step, and every run.
* `getRecentCache_unpruned`: The chart does not see the prunes.
-/

namespace Vena

namespace Mobile

namespace TelemetryDao

open TelemetryMerge Run

variable {φ : Type}

/-- The rows of the device, newest first, at most `limit`. -/
def getRecentCache (db : Db φ) (deviceId : String) (limit : Nat) : List (CacheRow φ) :=
  Newest.newest CacheRow.ts limit (ofDevice deviceId db.cache)

/-- The provider of the chart. -/
def recentCache (db : Db φ) (deviceId : String) : List (CacheRow φ) :=
  getRecentCache db deviceId 60

/-- The row a step inserts. -/
def inserted (s : State φ) : Action φ → List (CacheRow φ)
  | .receive _ => []
  | .advance i => match s.handlers[i]? with
    | some ⟨m, .insertTelemetryCache⟩ => [m.toCache]
    | _ => []

/-- The table after these insertions if nobody prunes it. -/
def unpruned (log : List (CacheRow φ)) : List (CacheRow φ) :=
  log.foldl (Keyed.upsert CacheRow.key) []

theorem unpruned_concat (log : List (CacheRow φ)) (row : CacheRow φ) :
    unpruned (log ++ [row]) = Keyed.upsert CacheRow.key (unpruned log) row := by
  rw [unpruned, List.foldl_append]
  rfl

theorem nodup_unpruned (log : List (CacheRow φ)) : ((unpruned log).map CacheRow.key).Nodup := by
  induction log using List.reverseRecOn with
  | nil => exact List.nodup_nil
  | append_singleton log row ih =>
      rw [unpruned_concat]
      exact Keyed.nodup_upsert CacheRow.key _ row ih

/-- How many rows of the device are newer. -/
def newerOf (all : List (CacheRow φ)) (deviceId : String) (t : Int) : Nat :=
  Newest.newer CacheRow.ts (ofDevice deviceId all) t

/-- An insertion may replace a row, but its instant stays. -/
theorem newer_upsert (all : List (CacheRow φ)) (row : CacheRow φ) (deviceId : String) (t : Int)
    (hkey : (all.map CacheRow.key).Nodup) :
    newerOf all deviceId t ≤ newerOf (Keyed.upsert CacheRow.key all row) deviceId t := by
  refine Newest.newer_mono_ts CacheRow.ts _ _ t (nodup_ts deviceId all hkey) (fun u hu => ?_)
  rcases List.mem_map.mp hu with ⟨r, hr, rfl⟩
  rw [mem_ofDevice] at hr
  rw [List.mem_map]
  by_cases hsame : r.key = row.key
  · have hdev : r.deviceId = row.deviceId := congrArg Prod.fst hsame
    have hts : r.ts = row.ts := congrArg Prod.snd hsame
    refine ⟨row, (mem_ofDevice _ _ _).mpr ⟨Keyed.mem_upsert CacheRow.key all row, ?_⟩, hts.symm⟩
    exact hdev.symm.trans hr.2
  · refine ⟨r, (mem_ofDevice _ _ _).mpr ⟨?_, hr.2⟩, rfl⟩
    exact Keyed.mem_upsert_of_ne CacheRow.key all row r hr.1 hsame

/-- The table of the phone beside one that is never pruned. -/
structure Covers (s : State φ) (all : List (CacheRow φ)) : Prop where
  sound : ∀ r ∈ s.db.cache, r ∈ all
  /-- The newest rows of every device are there. -/
  newest : ∀ r ∈ all, newerOf all r.deviceId r.ts < keepCount → r ∈ s.db.cache
  /-- No deletion on its way reaches them. -/
  spared : ∀ h ∈ s.handlers, ∀ cutoff, h.pc = .pruneDelete cutoff → ∀ t ≤ cutoff,
    keepCount ≤ newerOf all h.msg.deviceId t

/-- A handler that goes on without a new cutoff, the cache left alone. -/
theorem covers_set (s : State φ) (all : List (CacheRow φ)) (db : Db φ) (i : Nat) (m : Telemetry φ)
    (pc : Pc) (h : Covers s all) (hdb : db.cache = s.db.cache)
    (hpc : ∀ cutoff, pc = .pruneDelete cutoff →
      ∀ t ≤ cutoff, keepCount ≤ newerOf all m.deviceId t) :
    Covers ⟨db, s.handlers.set i ⟨m, pc⟩⟩ all := by
  refine ⟨?_, ?_, fun h' hmem cutoff hcutoff t ht => ?_⟩
  · rw [hdb]
    exact h.sound
  · rw [hdb]
    exact h.newest
  · rcases List.mem_or_eq_of_mem_set hmem with hin | heq
    · exact h.spared h' hin cutoff hcutoff t ht
    · rw [heq] at hcutoff ⊢
      exact hpc cutoff hcutoff t ht

theorem covers_insert (s : State φ) (all : List (CacheRow φ)) (i : Nat) (m : Telemetry φ)
    (hkey : (all.map CacheRow.key).Nodup) (h : Covers s all) :
    Covers ⟨s.db.insertTelemetryCache m.toCache, s.handlers.set i ⟨m, .pruneSelect⟩⟩
      (Keyed.upsert CacheRow.key all m.toCache) := by
  refine ⟨fun r hr => ?_, fun r hr hrank => ?_, fun h' hmem cutoff hcutoff t ht => ?_⟩
  · rcases Keyed.mem_upsert_cases CacheRow.key s.db.cache m.toCache r hr with ⟨hin, hne⟩ | heq
    · exact Keyed.mem_upsert_of_ne CacheRow.key all _ r (h.sound r hin) hne
    · rw [heq]
      exact Keyed.mem_upsert CacheRow.key all _
  · rcases Keyed.mem_upsert_cases CacheRow.key all m.toCache r hr with ⟨hin, hne⟩ | heq
    -- A row that is now among the newest was so before.
    · have hmono := newer_upsert all m.toCache r.deviceId r.ts hkey
      exact Keyed.mem_upsert_of_ne CacheRow.key _ _ r (h.newest r hin (by omega)) hne
    · rw [heq]
      exact Keyed.mem_upsert CacheRow.key s.db.cache _
  · have hmono := newer_upsert all m.toCache h'.msg.deviceId t hkey
    rcases List.mem_or_eq_of_mem_set hmem with hin | heq
    · have hold := h.spared h' hin cutoff hcutoff t ht
      omega
    · rw [heq] at hcutoff
      exact absurd hcutoff Pc.noConfusion

/-- What the query names is a thousand rows behind, in the larger table too. -/
theorem covers_select (s : State φ) (all : List (CacheRow φ)) (deviceId : String) (c : CacheRow φ)
    (h : Covers s all) (hc : s.db.pruneSelect deviceId = some c) (t : Int) (ht : t ≤ c.ts) :
    keepCount ≤ newerOf all deviceId t := by
  refine Newest.le_newer_of_cutoff CacheRow.ts keepCount (ofDevice deviceId s.db.cache) _
    (nodup_ts deviceId _ s.db.cacheKey) (fun r hr => ?_) c hc t ht
  rw [mem_ofDevice] at hr ⊢
  exact ⟨h.sound r hr.1, hr.2⟩

theorem covers_delete (s : State φ) (all : List (CacheRow φ)) (i : Nat) (m : Telemetry φ)
    (cutoff : Int) (hget : s.handlers[i]? = some ⟨m, .pruneDelete cutoff⟩) (h : Covers s all) :
    Covers ⟨s.db.pruneDelete m.deviceId cutoff, s.handlers.set i ⟨m, .done⟩⟩ all := by
  have hset := covers_set s all s.db i m .done h rfl (fun _ heq => absurd heq Pc.noConfusion)
  refine ⟨fun r hr => h.sound r (List.mem_filter.mp hr).1, fun r hr hrank => ?_, hset.spared⟩
  refine List.mem_filter.mpr ⟨h.newest r hr hrank, decide_eq_true ?_⟩
  rintro ⟨hdev, hts⟩
  have hreach := h.spared _ (List.mem_of_getElem? hget) cutoff rfl r.ts hts
  rw [hdev] at hrank
  exact absurd hrank (Nat.not_lt.mpr hreach)

theorem step_covers (s s' : State φ) (a : Action φ) (log : List (CacheRow φ))
    (h : Covers s (unpruned log)) (hstep : step s a = some s') :
    Covers s' (unpruned (log ++ inserted s a)) := by
  cases step_moves s s' a hstep with
  | receive m =>
      rw [inserted, List.append_nil]
      refine ⟨h.sound, h.newest, fun h' hmem cutoff hcutoff t ht => ?_⟩
      rcases List.mem_append.mp hmem with hin | hnew
      · exact h.spared h' hin cutoff hcutoff t ht
      · rw [List.mem_singleton.mp hnew] at hcutoff
        exact absurd hcutoff Pc.noConfusion
  | upsertLatestState i m hget =>
      rw [inserted, hget, List.append_nil]
      exact covers_set s _ _ i m _ h rfl (fun _ heq => absurd heq Pc.noConfusion)
  | insertTelemetryCache i m hget =>
      rw [inserted, hget, unpruned_concat]
      exact covers_insert s _ i m (nodup_unpruned log) h
  | pruneSelect i m hget =>
      rw [inserted, hget, List.append_nil]
      refine covers_set s _ s.db i m _ h rfl (fun cutoff heq t ht => ?_)
      cases hc : s.db.pruneSelect m.deviceId with
      | none => rw [hc] at heq; exact absurd heq Pc.noConfusion
      | some c =>
          rw [hc, Option.elim_some, Pc.pruneDelete.injEq] at heq
          exact covers_select s _ m.deviceId c h hc t (heq ▸ ht)
  | pruneDelete i m cutoff hget =>
      rw [inserted, hget, List.append_nil]
      exact covers_delete s _ i m cutoff hget h

theorem covers_initial : Covers (initial : State φ) (unpruned []) :=
  ⟨fun _ hr => absurd hr List.not_mem_nil, fun _ hr => absurd hr List.not_mem_nil,
    fun _ hh => absurd hh List.not_mem_nil⟩

theorem run_covers (as : List (Action φ)) (s : State φ) (log : List (CacheRow φ))
    (hrun : run (logged step inserted) (initial, []) as = some (s, log)) :
    Covers s (unpruned log) := by
  refine run_invariant (logged step inserted) (fun u => Covers u.1 (unpruned u.2)) ?_ as
    (initial, []) (s, log) covers_initial hrun
  intro u a u' h hstep
  rcases (logged_eq_some step inserted u u' a).mp hstep with ⟨hmove, hlog⟩
  rw [hlog]
  exact step_covers u.1 u'.1 a u.2 h hmove

/-- Whatever the handlers are in the middle of, a query for no more rows than a
    prune keeps finds what it would find in a table that nobody prunes. -/
theorem getRecentCache_unpruned (as : List (Action φ)) (s : State φ) (log : List (CacheRow φ))
    (hrun : run (logged step inserted) (initial, []) as = some (s, log)) (deviceId : String)
    (limit : Nat) (hlimit : limit ≤ keepCount) :
    getRecentCache s.db deviceId limit =
      Newest.newest CacheRow.ts limit (ofDevice deviceId (unpruned log)) := by
  have h := run_covers as s log hrun
  have hall := nodup_ts deviceId _ (nodup_unpruned log)
  refine Newest.newest_of_subtable CacheRow.ts keepCount limit _ _ hlimit
    (nodup_ts deviceId _ s.db.cacheKey) hall (fun r hr => ?_) (fun r hr => ?_)
  · rw [mem_ofDevice] at hr ⊢
    exact ⟨h.sound r hr.1, hr.2⟩
  · rcases (Newest.mem_newest CacheRow.ts keepCount _ hall r).mp hr with ⟨hin, hrank⟩
    rw [mem_ofDevice] at hin ⊢
    exact ⟨h.newest r hin.1 (by rw [hin.2]; exact hrank), hin.2⟩

/-- A reading of a device, heard over BLE. -/
def heardBle : Telemetry Nat :=
  ⟨"vena-a", 100, some 20, none, none, none, none, none, .ble⟩

/-- The same reading over MQTT, with the humidity. -/
def heardMqtt : Telemetry Nat :=
  ⟨"vena-a", 100, some 20, some 50, none, none, none, none, .mqtt⟩

/-- Both handlers have inserted their row, and neither has pruned. -/
def heardTwice : List (Action Nat) :=
  [.receive heardBle, .receive heardMqtt, .advance 0, .advance 0, .advance 1, .advance 1]

theorem getRecentCache_unpruned_twice :
    ∃ s log, run (logged step inserted) (initial, []) heardTwice = some (s, log) ∧
      recentCache s.db "vena-a" = [heardMqtt.toCache] := by
  have hsome : (run (logged step inserted) (initial, []) heardTwice).isSome = true := by
    decide +kernel
  have hrun := (Option.some_get hsome).symm
  have hchart := getRecentCache_unpruned heardTwice _ _ hrun "vena-a" 60 (by decide)
  refine ⟨_, _, hrun, hchart.trans ?_⟩
  decide +kernel

end TelemetryDao

end Mobile

end Vena
