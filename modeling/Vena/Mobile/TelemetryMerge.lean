import Vena.Core.Keyed
import Vena.Core.Newest
import Vena.Core.Processes
import Vena.Core.Run

/-!
# Merging BLE and MQTT Telemetry

The phone hears a device over BLE and over MQTT, and the handler of either
source does the same four things to the local database: it offers the message
to `latest_states`, inserts it into `telemetry_cache`, looks for the row that
is one too many for the device and deletes from there on. Every one of them is
awaited, and nothing awaits the handler, so the handlers of several messages
run interleaved between these operations.

The two tables treat a second message with one `(deviceId, ts)` differently.
`latest_states` takes only a strictly newer `ts`, so the first such message
stays, and `telemetry_cache` overwrites, so the last one does.

## Main definitions

* `Telemetry`: A decoded message.
* `LatestState`, `CacheRow`, `Db`: The two tables.
* `Db.upsertLatestState`, `Db.insertTelemetryCache`, `Db.pruneSelect`,
  `Db.pruneDelete`: The operations.
* `handleTelemetry`: One handler, run alone.
* `Handler`, `State`, `step`: Handlers, run interleaved.

## Theorems

* `upsertLatest_newest`, `mem_upsertLatest`: What `latest_states` holds after an
  upsert.
* `step_moves`: What a step can do.
* `run_alone`: A handler that runs alone does what `handleTelemetry` does.
-/

namespace Vena

namespace Mobile

namespace TelemetryMerge

open Processes Run

inductive Source where
  | ble
  | mqtt
  deriving DecidableEq, Repr

/-- A telemetry message, decoded. The values are doubles. -/
structure Telemetry (φ : Type) where
  deviceId : String
  ts : Int
  ambientT : Option φ
  ambientH : Option φ
  dissT : Option φ
  dissH : Option φ
  setpoint : Option φ
  pidOut : Option φ
  source : Source
  deriving DecidableEq, Repr

/-- A row of `latest_states`. -/
structure LatestState (φ : Type) where
  deviceId : String
  ts : Int
  ambientT : Option φ
  ambientH : Option φ
  dissT : Option φ
  dissH : Option φ
  setpoint : Option φ
  pidOut : Option φ
  source : Source
  online : Bool
  deriving DecidableEq, Repr

/-- A row of `telemetry_cache`. -/
structure CacheRow (φ : Type) where
  deviceId : String
  ts : Int
  ambientT : Option φ
  ambientH : Option φ
  dissT : Option φ
  dissH : Option φ
  deriving DecidableEq, Repr

variable {φ : Type}

/-- The identity of a message, and the primary key of the cache. -/
def Telemetry.key (m : Telemetry φ) : String × Int := (m.deviceId, m.ts)

def CacheRow.key (r : CacheRow φ) : String × Int := (r.deviceId, r.ts)

/-- The row the handlers offer to `latest_states`. -/
def Telemetry.toLatest (m : Telemetry φ) : LatestState φ where
  deviceId := m.deviceId
  ts := m.ts
  ambientT := m.ambientT
  ambientH := m.ambientH
  dissT := m.dissT
  dissH := m.dissH
  setpoint := m.setpoint
  pidOut := m.pidOut
  source := m.source
  online := true

/-- The row the handlers insert into `telemetry_cache`. -/
def Telemetry.toCache (m : Telemetry φ) : CacheRow φ where
  deviceId := m.deviceId
  ts := m.ts
  ambientT := m.ambientT
  ambientH := m.ambientH
  dissT := m.dissT
  dissH := m.dissH

@[simp] theorem toLatest_deviceId (m : Telemetry φ) : m.toLatest.deviceId = m.deviceId := rfl

@[simp] theorem toLatest_ts (m : Telemetry φ) : m.toLatest.ts = m.ts := rfl

/-- The rows of `latest_states` after an upsert: a row that is there yields only
    to a strictly newer one. -/
def upsertLatest (rows : List (LatestState φ)) (entry : LatestState φ) : List (LatestState φ) :=
  if entry.deviceId ∈ rows.map LatestState.deviceId then
    rows.map (fun old => if old.deviceId = entry.deviceId ∧ old.ts < entry.ts then entry else old)
  else rows ++ [entry]

theorem nodup_upsertLatest (rows : List (LatestState φ)) (entry : LatestState φ)
    (hkey : (rows.map LatestState.deviceId).Nodup) :
    ((upsertLatest rows entry).map LatestState.deviceId).Nodup := by
  unfold upsertLatest
  split
  · rw [Keyed.map_key_update LatestState.deviceId rows
      (fun old => old.deviceId = entry.deviceId ∧ old.ts < entry.ts) (fun _ => entry)
      (fun _ hold => hold.1.symm)]
    exact hkey
  · next hnew =>
      exact Keyed.nodup_concat _ rows entry hkey
        (fun r hr heq => hnew (heq ▸ List.mem_map_of_mem hr))

/-- After an upsert the row of a device is there and is not older. -/
theorem upsertLatest_newest (rows : List (LatestState φ)) (entry row : LatestState φ)
    (hrow : row ∈ rows) :
    ∃ row' ∈ upsertLatest rows entry, row'.deviceId = row.deviceId ∧ row.ts ≤ row'.ts := by
  unfold upsertLatest
  split
  · by_cases hnewer : row.deviceId = entry.deviceId ∧ row.ts < entry.ts
    · exact ⟨entry, List.mem_map.mpr ⟨row, hrow, if_pos hnewer⟩, hnewer.1.symm,
        Int.le_of_lt hnewer.2⟩
    · exact ⟨row, List.mem_map.mpr ⟨row, hrow, if_neg hnewer⟩, rfl, Int.le_refl _⟩
  · exact ⟨row, List.mem_append_left _ hrow, rfl, Int.le_refl _⟩

theorem upsertLatest_offered (rows : List (LatestState φ)) (entry : LatestState φ) :
    ∃ row ∈ upsertLatest rows entry, row.deviceId = entry.deviceId ∧ entry.ts ≤ row.ts := by
  unfold upsertLatest
  split
  · next hthere =>
      rcases List.mem_map.mp hthere with ⟨old, hold, hdev⟩
      by_cases hnewer : old.ts < entry.ts
      · exact ⟨entry, List.mem_map.mpr ⟨old, hold, if_pos ⟨hdev, hnewer⟩⟩, rfl, Int.le_refl _⟩
      · exact ⟨old, List.mem_map.mpr ⟨old, hold, if_neg (fun h => hnewer h.2)⟩, hdev,
          Int.not_lt.mp hnewer⟩
  · exact ⟨entry, List.mem_append_right _ (List.mem_singleton_self _), rfl, Int.le_refl _⟩

/-- An entry that an upsert takes is newer than the row it replaces. -/
theorem mem_upsertLatest (rows : List (LatestState φ)) (entry row : LatestState φ)
    (hkey : (rows.map LatestState.deviceId).Nodup) (hrow : row ∈ upsertLatest rows entry) :
    row ∈ rows ∨
      (row = entry ∧ ∀ old ∈ rows, old.deviceId = entry.deviceId → old.ts < entry.ts) := by
  unfold upsertLatest at hrow
  split at hrow
  · rcases List.mem_map.mp hrow with ⟨old, hold, heq⟩
    split at heq
    · next hnewer =>
        refine Or.inr ⟨heq.symm, fun old' hold' hdev => ?_⟩
        -- The device has one row, so the row that yielded is the only one to compare with.
        rw [Keyed.eq_of_key _ rows old' old hkey hold' hold (hdev.trans hnewer.1.symm)]
        exact hnewer.2
    · exact Or.inl (heq ▸ hold)
  · next hnone =>
      rcases List.mem_append.mp hrow with hold | hnew
      · exact Or.inl hold
      · exact Or.inr ⟨List.mem_singleton.mp hnew, fun old hold hdev =>
          absurd (hdev ▸ List.mem_map_of_mem hold) hnone⟩

/-- The cache rows of a device. -/
def ofDevice (deviceId : String) (rows : List (CacheRow φ)) : List (CacheRow φ) :=
  rows.filter (fun r => r.deviceId = deviceId)

theorem mem_ofDevice (deviceId : String) (rows : List (CacheRow φ)) (r : CacheRow φ) :
    r ∈ ofDevice deviceId rows ↔ r ∈ rows ∧ r.deviceId = deviceId := by
  rw [ofDevice, List.mem_filter, decide_eq_true_eq]

/-- The rows of one device have different instants. -/
theorem nodup_ts (deviceId : String) (rows : List (CacheRow φ))
    (hkey : (rows.map CacheRow.key).Nodup) :
    ((ofDevice deviceId rows).map CacheRow.ts).Nodup := by
  refine List.Nodup.map_on (fun r hr q hq hts => ?_)
    ((List.Nodup.of_map CacheRow.key hkey).filter _)
  rw [ofDevice, List.mem_filter, decide_eq_true_eq] at hr hq
  exact List.inj_on_of_nodup_map hkey hr.1 hq.1 (Prod.ext (hr.2.trans hq.2.symm) hts)

/-- The rows of `telemetry_cache` that a deletion spares. -/
def deleteUpTo (rows : List (CacheRow φ)) (deviceId : String) (cutoff : Int) :
    List (CacheRow φ) :=
  rows.filter (fun r => ¬ (r.deviceId = deviceId ∧ r.ts ≤ cutoff))

/-- The two tables with their primary keys. -/
structure Db (φ : Type) where
  latest : List (LatestState φ)
  cache : List (CacheRow φ)
  latestKey : (latest.map LatestState.deviceId).Nodup
  cacheKey : (cache.map CacheRow.key).Nodup

/-- No telemetry has been handled. -/
def Db.empty : Db φ := ⟨[], [], List.nodup_nil, List.nodup_nil⟩

/-- `TelemetryDao.upsertLatestState`. -/
def Db.upsertLatestState (db : Db φ) (entry : LatestState φ) : Db φ :=
  { db with
    latest := upsertLatest db.latest entry
    latestKey := nodup_upsertLatest db.latest entry db.latestKey }

/-- `TelemetryDao.insertTelemetryCache`. -/
def Db.insertTelemetryCache (db : Db φ) (entry : CacheRow φ) : Db φ :=
  { db with
    cache := Keyed.upsert CacheRow.key db.cache entry
    cacheKey := Keyed.nodup_upsert CacheRow.key db.cache entry db.cacheKey }

/-- The `keepCount` of `pruneOldEntries`. -/
def keepCount : Nat := 1000

/-- The query of `pruneOldEntries`. -/
def Db.pruneSelect (db : Db φ) (deviceId : String) : Option (CacheRow φ) :=
  Newest.cutoff CacheRow.ts keepCount (ofDevice deviceId db.cache)

/-- The deletion of `pruneOldEntries`. -/
def Db.pruneDelete (db : Db φ) (deviceId : String) (cutoff : Int) : Db φ :=
  { db with
    cache := deleteUpTo db.cache deviceId cutoff
    cacheKey := db.cacheKey.sublist ((List.filter_sublist).map _) }

/-- `TelemetryDao.pruneOldEntries`, with nothing between its two steps. -/
def Db.pruneOldEntries (db : Db φ) (deviceId : String) : Db φ :=
  match db.pruneSelect deviceId with
  | some cutoff => db.pruneDelete deviceId cutoff.ts
  | none => db

/-- `_handleTelemetry` of the MQTT handler and `handle` of the BLE handler, run
    alone. -/
def handleTelemetry (db : Db φ) (m : Telemetry φ) : Db φ :=
  ((db.upsertLatestState m.toLatest).insertTelemetryCache m.toCache).pruneOldEntries m.deviceId

/-- The operation a handler does next. -/
inductive Pc where
  | upsertLatestState
  | insertTelemetryCache
  | pruneSelect
  | pruneDelete (cutoff : Int)
  | done
  deriving DecidableEq, Repr

/-- A handler on its way. -/
structure Handler (φ : Type) where
  msg : Telemetry φ
  pc : Pc

/-- The tables and every handler started so far. -/
structure State (φ : Type) where
  db : Db φ
  handlers : List (Handler φ)

inductive Action (φ : Type) where
  | receive (m : Telemetry φ)
  | advance (i : Nat)

/-- The next operation of a handler. -/
def advance (db : Db φ) (h : Handler φ) : Option (Db φ × Pc) :=
  match h.pc with
  | .upsertLatestState => some (db.upsertLatestState h.msg.toLatest, .insertTelemetryCache)
  | .insertTelemetryCache => some (db.insertTelemetryCache h.msg.toCache, .pruneSelect)
  -- With `keepCount` rows or fewer there is no cutoff, and the handler is done.
  | .pruneSelect =>
    some (db, (db.pruneSelect h.msg.deviceId).elim .done (fun cutoff => .pruneDelete cutoff.ts))
  | .pruneDelete cutoff => some (db.pruneDelete h.msg.deviceId cutoff, .done)
  | .done => none

def step (s : State φ) : Action φ → Option (State φ)
  | .receive m => some { s with handlers := s.handlers ++ [⟨m, .upsertLatestState⟩] }
  | .advance i => do
    let h ← s.handlers[i]?
    let (db, pc) ← advance s.db h
    return ⟨db, s.handlers.set i ⟨h.msg, pc⟩⟩

/-- Before the first message. -/
def initial : State φ := ⟨Db.empty, []⟩

/-- What a step can do. -/
inductive Moves (s : State φ) : Action φ → State φ → Prop
  | receive (m : Telemetry φ) :
    Moves s (.receive m) { s with handlers := s.handlers ++ [⟨m, .upsertLatestState⟩] }
  | upsertLatestState (i : Nat) (m : Telemetry φ)
      (hget : s.handlers[i]? = some ⟨m, .upsertLatestState⟩) :
    Moves s (.advance i)
      ⟨s.db.upsertLatestState m.toLatest, s.handlers.set i ⟨m, .insertTelemetryCache⟩⟩
  | insertTelemetryCache (i : Nat) (m : Telemetry φ)
      (hget : s.handlers[i]? = some ⟨m, .insertTelemetryCache⟩) :
    Moves s (.advance i)
      ⟨s.db.insertTelemetryCache m.toCache, s.handlers.set i ⟨m, .pruneSelect⟩⟩
  | pruneSelect (i : Nat) (m : Telemetry φ) (hget : s.handlers[i]? = some ⟨m, .pruneSelect⟩) :
    Moves s (.advance i)
      ⟨s.db, s.handlers.set i
        ⟨m, (s.db.pruneSelect m.deviceId).elim .done (fun cutoff => .pruneDelete cutoff.ts)⟩⟩
  | pruneDelete (i : Nat) (m : Telemetry φ) (cutoff : Int)
      (hget : s.handlers[i]? = some ⟨m, .pruneDelete cutoff⟩) :
    Moves s (.advance i) ⟨s.db.pruneDelete m.deviceId cutoff, s.handlers.set i ⟨m, .done⟩⟩

theorem step_moves (s s' : State φ) (a : Action φ) (h : step s a = some s') : Moves s a s' := by
  cases a with
  | receive m =>
      rw [step, Option.some.injEq] at h
      exact h ▸ .receive m
  | advance i =>
      cases hget : s.handlers[i]? with
      | none =>
          rw [step, hget] at h
          exact absurd h (by simp only [Option.bind_eq_bind, Option.bind_none, reduceCtorEq,
            not_false_eq_true])
      | some handler =>
          rcases handler with ⟨m, pc⟩
          rw [step, hget] at h
          cases pc with
          | upsertLatestState =>
              simp only [advance, Option.bind_eq_bind, Option.bind_some, Option.pure_def,
                Option.some.injEq] at h
              exact h ▸ .upsertLatestState i m hget
          | insertTelemetryCache =>
              simp only [advance, Option.bind_eq_bind, Option.bind_some, Option.pure_def,
                Option.some.injEq] at h
              exact h ▸ .insertTelemetryCache i m hget
          | pruneSelect =>
              simp only [advance, Option.bind_eq_bind, Option.bind_some, Option.pure_def,
                Option.some.injEq] at h
              exact h ▸ .pruneSelect i m hget
          | pruneDelete cutoff =>
              simp only [advance, Option.bind_eq_bind, Option.bind_some, Option.pure_def,
                Option.some.injEq] at h
              exact h ▸ .pruneDelete i m cutoff hget
          | done =>
              simp only [advance, Option.bind_eq_bind, Option.bind_some, Option.bind_none,
                reduceCtorEq] at h

/-- A handler that runs alone does what `handleTelemetry` does. -/
theorem run_alone (db : Db φ) (handlers : List (Handler φ)) (m : Telemetry φ) :
    ∃ as, run step ⟨db, handlers⟩ as =
      some ⟨handleTelemetry db m, handlers ++ [⟨m, .done⟩]⟩ := by
  have hset : ∀ p q : Pc, (handlers ++ [Handler.mk m p]).set handlers.length ⟨m, q⟩ =
      handlers ++ [⟨m, q⟩] := by
    intro p q
    rw [List.set_append_right _ _ (Nat.le_refl _), Nat.sub_self, List.set_cons_zero]
  have hget : ∀ p : Pc, (handlers ++ [Handler.mk m p])[handlers.length]? = some ⟨m, p⟩ :=
    fun p => List.getElem?_concat_length
  -- The handler is the last one, and each of its operations moves it alone.
  have hnext : ∀ (db : Db φ) (p : Pc), step ⟨db, handlers ++ [⟨m, p⟩]⟩ (.advance handlers.length) =
      (advance db ⟨m, p⟩).map (fun next => ⟨next.1, handlers ++ [⟨m, next.2⟩]⟩) := by
    intro db p
    simp only [step, hget, Option.bind_eq_bind, Option.bind_some, Option.pure_def]
    cases advance db ⟨m, p⟩ with
    | none => rfl
    | some next => simp only [Option.bind_some, hset, Option.map_some]
  rw [handleTelemetry, Db.pruneOldEntries]
  cases hcutoff : ((db.upsertLatestState m.toLatest).insertTelemetryCache m.toCache).pruneSelect
      m.deviceId with
  | none =>
      refine ⟨[.receive m, .advance handlers.length, .advance handlers.length,
        .advance handlers.length], ?_⟩
      simp only [run, step.eq_1, hnext, advance, Option.map_some, hcutoff, Option.elim_none]
  | some cutoff =>
      refine ⟨[.receive m, .advance handlers.length, .advance handlers.length,
        .advance handlers.length, .advance handlers.length], ?_⟩
      simp only [run, step.eq_1, hnext, advance, Option.map_some, hcutoff, Option.elim_some]

end TelemetryMerge

end Mobile

end Vena
