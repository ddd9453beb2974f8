import Vena.Mobile.MergeOrder
import Mathlib.Data.List.Induction

/-!
# The Snapshot and the Cache

Telemetry handled one message after the other. `latest_states` and
`telemetry_cache` both have a row for the newest instant of a device, and the
two rows should hold the same readings.

The two tables resolve a tie differently: of several messages with one
`(deviceId, ts)` the first stays in `latest_states` and the last in
`telemetry_cache`. A device stamps its messages in whole seconds and sends them
over BLE and over MQTT on their own cadences, so ties occur. `snapshot_agrees`
states what is needed exactly: for every device the first and the last message
with its greatest `ts` carry the same readings.

## Main definitions

* `handleAll`: Messages handled one after the other.
* `SameReadings`, `Agree`: The two rows hold the same readings.
* `TiesAgree`: The first and the last of the newest messages do.

## Theorems

* `latest_first`: `latest_states` holds the first message with its key.
* `cache_last`: `telemetry_cache` holds the last one.
* `newest_survives`: The newest row of a device is never deleted.
* `snapshot_agrees`: The rows agree if and only if the ties do.
* `snapshot_disagrees`: A tie that does not.
-/

namespace Vena

namespace Mobile

namespace TelemetryMerge

variable {φ : Type}

/-- Messages handled one after the other, from empty tables. -/
def handleAll (ms : List (Telemetry φ)) : Db φ := ms.foldl handleTelemetry Db.empty

/-- The rows of one instant in the two tables hold the same readings. -/
def Agree (db : Db φ) : Prop :=
  ∀ row ∈ db.latest, ∀ r ∈ db.cache, r.deviceId = row.deviceId → r.ts = row.ts →
    r.ambientT = row.ambientT ∧ r.ambientH = row.ambientH ∧ r.dissT = row.dissT ∧
      r.dissH = row.dissH

/-- Two messages carry the same readings. -/
def SameReadings (m m' : Telemetry φ) : Prop :=
  m.ambientT = m'.ambientT ∧ m.ambientH = m'.ambientH ∧ m.dissT = m'.dissT ∧ m.dissH = m'.dissH

/-- For every device, the first and the last message with its greatest `ts`
    carry the same readings. -/
def TiesAgree (ms : List (Telemetry φ)) : Prop :=
  ∀ m, IsNewest ms m → ∀ first last, ms.find? (fun m' => m'.key = m.key) = some first →
    ms.reverse.find? (fun m' => m'.key = m.key) = some last → SameReadings last first

theorem handleAll_concat (ms : List (Telemetry φ)) (m : Telemetry φ) :
    handleAll (ms ++ [m]) = handleTelemetry (handleAll ms) m := by
  rw [handleAll, handleAll, List.foldl_append, List.foldl_cons, List.foldl_nil]

@[simp] theorem pruneOldEntries_latest (db : Db φ) (deviceId : String) :
    (db.pruneOldEntries deviceId).latest = db.latest := by
  unfold Db.pruneOldEntries
  split
  · rfl
  · rfl

@[simp] theorem handleTelemetry_latest (db : Db φ) (m : Telemetry φ) :
    (handleTelemetry db m).latest = upsertLatest db.latest m.toLatest :=
  pruneOldEntries_latest _ _

theorem mem_pruneOldEntries (db : Db φ) (deviceId : String) (r : CacheRow φ)
    (hr : r ∈ (db.pruneOldEntries deviceId).cache) : r ∈ db.cache := by
  unfold Db.pruneOldEntries at hr
  split at hr
  · exact (List.mem_filter.mp hr).1
  · exact hr

/-- The row of a device is at least as new as each of its messages. -/
theorem latest_bound (ms : List (Telemetry φ)) : ∀ m ∈ ms, ∃ row ∈ (handleAll ms).latest,
    row.deviceId = m.deviceId ∧ m.ts ≤ row.ts := by
  induction ms using List.reverseRecOn with
  | nil => exact fun m hm => absurd hm List.not_mem_nil
  | append_singleton ms last ih =>
      intro m hm
      rw [handleAll_concat, handleTelemetry_latest]
      rcases List.mem_append.mp hm with hin | hlast
      · rcases ih m hin with ⟨row, hrow, hdev, hts⟩
        rcases upsertLatest_newest _ last.toLatest row hrow with ⟨row', hrow', hdev', hts'⟩
        exact ⟨row', hrow', hdev'.trans hdev, Int.le_trans hts hts'⟩
      · rw [List.mem_singleton.mp hlast]
        exact upsertLatest_offered _ last.toLatest

/-- `latest_states` holds the first message with its key. -/
theorem latest_first (ms : List (Telemetry φ)) : ∀ row ∈ (handleAll ms).latest,
    ∃ m, ms.find? (fun m' => m'.key = m.key) = some m ∧ m.toLatest = row := by
  induction ms using List.reverseRecOn with
  | nil => exact fun row hrow => absurd hrow List.not_mem_nil
  | append_singleton ms last ih =>
      intro row hrow
      rw [handleAll_concat, handleTelemetry_latest] at hrow
      rcases mem_upsertLatest _ _ row (handleAll ms).latestKey hrow with hold | ⟨heq, hnewer⟩
      · rcases ih row hold with ⟨m, hfind, hm⟩
        exact ⟨m, by rw [List.find?_append, hfind, Option.some_or], hm⟩
      · -- No earlier message has its key: the row of the device would be as new.
        have hnone : ms.find? (fun m' => m'.key = last.key) = none := by
          rw [List.find?_eq_none]
          intro m' hm' hkey
          rw [decide_eq_true_eq, Telemetry.key, Telemetry.key, Prod.mk.injEq] at hkey
          rcases latest_bound ms m' hm' with ⟨old, hold, hdev, hts⟩
          have hlt := hnewer old hold (hdev.trans hkey.1)
          rw [toLatest_ts, ← hkey.2] at hlt
          omega
        refine ⟨last, ?_, heq.symm⟩
        rw [List.find?_append, hnone, Option.none_or, List.find?_cons,
          decide_eq_true (rfl : last.key = last.key)]

/-- `telemetry_cache` holds the last message with its key. -/
theorem cache_last (ms : List (Telemetry φ)) : ∀ r ∈ (handleAll ms).cache,
    ∃ m, ms.reverse.find? (fun m' => m'.key = m.key) = some m ∧ m.toCache = r := by
  induction ms using List.reverseRecOn with
  | nil => exact fun r hr => absurd hr List.not_mem_nil
  | append_singleton ms last ih =>
      intro r hr
      rw [handleAll_concat] at hr
      rw [List.reverse_append, List.reverse_singleton, List.singleton_append]
      rcases Keyed.mem_upsert_cases _ _ _ r (mem_pruneOldEntries _ _ r hr)
        with ⟨hold, hne⟩ | hnew
      · rcases ih r hold with ⟨m, hfind, hm⟩
        refine ⟨m, ?_, hm⟩
        have hother : ¬ last.key = m.key := fun heq => hne (by rw [← hm]; exact heq.symm)
        rw [List.find?_cons, decide_eq_false hother, hfind]
      · exact ⟨last, by rw [List.find?_cons, decide_eq_true rfl], hnew.symm⟩

theorem mem_of_find (ms : List (Telemetry φ)) (m : Telemetry φ)
    (h : ms.reverse.find? (fun m' => m'.key = m.key) = some m) : m ∈ ms :=
  List.mem_reverse.mp (List.mem_of_find?_eq_some h)

/-- A deletion spares a row that nothing of its device is newer than. -/
theorem mem_pruneOldEntries_of_newest (db : Db φ) (deviceId : String) (r : CacheRow φ)
    (hr : r ∈ db.cache) (hmax : ∀ r' ∈ db.cache, r'.deviceId = r.deviceId → r'.ts ≤ r.ts) :
    r ∈ (db.pruneOldEntries deviceId).cache := by
  unfold Db.pruneOldEntries
  split
  · next cutoff hcutoff =>
      refine List.mem_filter.mpr ⟨hr, decide_eq_true (fun hdel => ?_)⟩
      -- The cutoff has a thousand newer rows, and none of them is newer than `r`.
      have hcount := (Newest.newer_cutoff _ _ _ (nodup_ts deviceId _ db.cacheKey) _ hcutoff).2
      have hnone : Newest.newer CacheRow.ts (ofDevice deviceId db.cache) cutoff.ts = 0 := by
        rw [Newest.newer, List.length_eq_zero_iff, List.filter_eq_nil_iff]
        intro r' hr' hlt
        rw [mem_ofDevice] at hr'
        have hle := hmax r' hr'.1 (hr'.2.trans hdel.1.symm)
        have hdelete := hdel.2
        rw [decide_eq_true_eq] at hlt
        omega
      rw [hnone] at hcount
      exact absurd hcount (by decide)
  · exact hr

theorem isNewest_of_concat (ms : List (Telemetry φ)) (m last : Telemetry φ) (hm : m ∈ ms)
    (h : IsNewest (ms ++ [last]) m) : IsNewest ms m :=
  ⟨hm, fun m' hm' hdev => h.2 m' (List.mem_append_left _ hm') hdev⟩

/-- The newest row of a device is never deleted. -/
theorem newest_survives (ms : List (Telemetry φ)) :
    ∀ m, IsNewest ms m → ∃ r ∈ (handleAll ms).cache, r.key = m.key := by
  induction ms using List.reverseRecOn with
  | nil => exact fun m h => absurd h.1 List.not_mem_nil
  | append_singleton ms last ih =>
      intro m h
      rw [handleAll_concat]
      -- Before the deletion every row is one that a message inserted.
      have hinserted : ∀ r ∈ ((handleAll ms).insertTelemetryCache last.toCache).cache,
          ∃ m' ∈ ms ++ [last], m'.toCache = r := by
        intro r hr
        rcases Keyed.mem_upsert_cases _ _ _ r hr with ⟨hold, _⟩ | hnew
        · rcases cache_last ms r hold with ⟨m', hfind, heq⟩
          exact ⟨m', List.mem_append_left _ (mem_of_find ms m' hfind), heq⟩
        · exact ⟨last, List.mem_append_right _ (List.mem_singleton_self _), hnew.symm⟩
      have hthere : ∃ r ∈ ((handleAll ms).insertTelemetryCache last.toCache).cache,
          r.key = m.key := by
        by_cases hkey : m.key = last.key
        · exact ⟨last.toCache, Keyed.mem_upsert _ _ _, hkey.symm⟩
        · rcases List.mem_append.mp h.1 with hin | hlast
          · rcases ih m (isNewest_of_concat ms m last hin h) with ⟨r, hr, hrkey⟩
            exact ⟨r, Keyed.mem_upsert_of_ne _ _ _ r hr (fun heq => hkey (hrkey.symm.trans heq)),
              hrkey⟩
          · exact absurd (congrArg Telemetry.key (List.mem_singleton.mp hlast)) hkey
      rcases hthere with ⟨r, hr, hrkey⟩
      have hpair := Prod.ext_iff.mp hrkey
      refine ⟨r, mem_pruneOldEntries_of_newest _ _ r hr (fun r' hr' hdev => ?_), hrkey⟩
      rcases hinserted r' hr' with ⟨m', hm', heq⟩
      rw [← heq] at hdev ⊢
      have hle := h.2 m' hm' (hdev.trans hpair.1)
      exact Int.le_trans hle (Int.le_of_eq hpair.2.symm)

/-- The row of a device holds one of its newest messages. -/
theorem isNewest_of_latest (ms : List (Telemetry φ)) (m : Telemetry φ)
    (hfind : ms.find? (fun m' => m'.key = m.key) = some m)
    (hrow : m.toLatest ∈ (handleAll ms).latest) : IsNewest ms m := by
  refine ⟨List.mem_of_find?_eq_some hfind, fun m' hm' hdev => ?_⟩
  rcases latest_bound ms m' hm' with ⟨row, hin, hdev', hts⟩
  rw [Keyed.eq_of_key _ _ row m.toLatest (handleAll ms).latestKey hin hrow (hdev'.trans hdev)]
    at hts
  exact hts

/-- The rows agree if and only if the first and the last of the newest messages
    of every device carry the same readings. -/
theorem snapshot_agrees (ms : List (Telemetry φ)) : Agree (handleAll ms) ↔ TiesAgree ms := by
  constructor
  · intro h m hnewest first last hfirst hlast
    rcases latest_bound ms m hnewest.1 with ⟨row, hrow, hdev, hts⟩
    rcases latest_first ms row hrow with ⟨m₁, hfind₁, heq₁⟩
    rcases newest_survives ms m hnewest with ⟨r, hr, hrkey⟩
    rcases cache_last ms r hr with ⟨m₂, hfind₂, heq₂⟩
    rw [← heq₁, toLatest_deviceId] at hdev
    rw [← heq₁, toLatest_ts] at hts
    have hle := hnewest.2 m₁ (List.mem_of_find?_eq_some hfind₁) hdev
    -- The row was offered by the first message of the key, the cache has the last.
    have hkey₁ : m₁.key = m.key := Prod.ext hdev (Int.le_antisymm hle hts)
    have hkey₂ : m₂.key = m.key := by
      rw [← heq₂] at hrkey
      exact hrkey
    rw [hkey₁, hfirst, Option.some.injEq] at hfind₁
    rw [hkey₂, hlast, Option.some.injEq] at hfind₂
    have hagree := h row hrow r hr
    rw [← heq₁, ← heq₂] at hagree
    rw [hfind₁, hfind₂]
    have hpair := Prod.ext_iff.mp (hkey₂.trans hkey₁.symm)
    exact hagree hpair.1 hpair.2
  · intro h row hrow r hr hdev hts
    rcases latest_first ms row hrow with ⟨m₁, hfind₁, heq₁⟩
    rcases cache_last ms r hr with ⟨m₂, hfind₂, heq₂⟩
    have hkey : m₂.key = m₁.key := by
      rw [← heq₁, ← heq₂] at hdev hts
      exact Prod.ext hdev hts
    rw [hkey] at hfind₂
    -- The row of the table is of the newest key, for which the two agree.
    have hsame := h m₁ (isNewest_of_latest ms m₁ hfind₁ (heq₁ ▸ hrow)) m₁ m₂ hfind₁ hfind₂
    rw [← heq₁, ← heq₂]
    exact hsame

/-- A BLE and an MQTT message of one second. The MQTT reading was taken later
    and differs. -/
def tied : List (Telemetry Nat) :=
  [⟨"vena-a", 100, some 20, none, none, none, none, none, .ble⟩,
    ⟨"vena-a", 100, some 21, none, none, none, none, none, .mqtt⟩]

/-- The list shows the BLE reading and the chart the MQTT reading. -/
theorem snapshot_disagrees : ¬ ∀ ms : List (Telemetry Nat), Agree (handleAll ms) := by
  intro h
  have hagree := h tied
  unfold Agree at hagree
  exact absurd hagree (by decide +kernel)

end TelemetryMerge

end Mobile

end Vena
