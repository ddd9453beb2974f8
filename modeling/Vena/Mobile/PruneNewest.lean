import Vena.Mobile.TelemetryMerge

/-!
# The Ring Buffer of a Device

`TelemetryDao.pruneOldEntries` with any `keepCount`. The handlers call it with
the default, which `TelemetryMerge` models. A query finds the first row that is
too many for the device, and a deletion takes it and everything that is not
newer. Which rows these are is a matter of the rows of the device alone, so the
prune is `Newest.prune` seen through `ofDevice`.

## Main definitions

* `pruneOldEntries`: The query and the deletion.
* `KeepsNewest`: What a prune is for.

## Theorems

* `pruneOldEntries_default`: The prune of the handlers is the one with the
  default.
* `ofDevice_pruneOldEntries`: What is left of the device.
* `ofDevice_other`: What is left of another one.
* `pruneOldEntries_keepsNewest`: The newest rows are left, and stay.
-/

namespace Vena

namespace Mobile

namespace TelemetryDao

open TelemetryMerge

variable {φ : Type}

/-- `ORDER BY ts DESC LIMIT 1 OFFSET keepCount` over the rows of the device. -/
def pruneSelect (db : Db φ) (deviceId : String) (keepCount : Nat) : Option (CacheRow φ) :=
  Newest.cutoff CacheRow.ts keepCount (ofDevice deviceId db.cache)

def pruneOldEntries (db : Db φ) (deviceId : String) (keepCount : Nat) : Db φ :=
  match pruneSelect db deviceId keepCount with
  | some cutoff => db.pruneDelete deviceId cutoff.ts
  | none => db

/-- The handlers leave `keepCount` at its default. -/
theorem pruneOldEntries_default (db : Db φ) (deviceId : String) :
    pruneOldEntries db deviceId keepCount = db.pruneOldEntries deviceId := rfl

section Prune

variable (db : Db φ) (deviceId : String) (keepCount : Nat)

/-- The rows of the device are pruned as a table of their own. -/
theorem ofDevice_pruneOldEntries :
    ofDevice deviceId (pruneOldEntries db deviceId keepCount).cache =
      Newest.prune CacheRow.ts keepCount (ofDevice deviceId db.cache) := by
  unfold pruneOldEntries
  split
  · next cutoff hcutoff =>
      rw [Newest.prune, ← pruneSelect, hcutoff]
      -- A row of the device is spared exactly if it is newer than the cutoff.
      simp only [Db.pruneDelete, deleteUpTo, ofDevice, List.filter_filter]
      refine List.filter_congr (fun r _ => ?_)
      by_cases hr : r.deviceId = deviceId
      · simp only [hr, true_and, not_le, decide_true, Bool.true_and, Bool.and_true]
      · simp only [hr, false_and, decide_false, Bool.false_and, Bool.and_false]
  · next hnone => rw [Newest.prune, ← pruneSelect, hnone]

/-- The deletion asks for the device. -/
theorem ofDevice_other (other : String) (hne : deviceId ≠ other) :
    ofDevice other (pruneOldEntries db deviceId keepCount).cache = ofDevice other db.cache := by
  unfold pruneOldEntries
  split
  · next cutoff _ =>
      simp only [Db.pruneDelete, deleteUpTo, ofDevice, List.filter_filter]
      refine List.filter_congr (fun r _ => ?_)
      by_cases hr : r.deviceId = other
      · have hspared : ¬(r.deviceId = deviceId ∧ r.ts ≤ cutoff.ts) :=
          fun h => hne (h.1.symm.trans hr)
        rw [decide_eq_true hr, decide_eq_true hspared, Bool.true_and]
      · rw [decide_eq_false hr, Bool.false_and]
  · rfl

/-- A device with `keepCount` rows or fewer is left alone. -/
theorem pruneOldEntries_of_length_le
    (h : (ofDevice deviceId db.cache).length ≤ keepCount) :
    pruneOldEntries db deviceId keepCount = db := by
  rw [pruneOldEntries, pruneSelect, Newest.cutoff_of_length_le CacheRow.ts keepCount _ h]

theorem length_pruneOldEntries :
    (ofDevice deviceId (pruneOldEntries db deviceId keepCount).cache).length =
      min (ofDevice deviceId db.cache).length keepCount := by
  rw [ofDevice_pruneOldEntries, Newest.length_prune CacheRow.ts keepCount _
    (nodup_ts deviceId _ db.cacheKey)]

/-- A second prune finds no row that is too many. -/
theorem pruneOldEntries_again :
    pruneOldEntries (pruneOldEntries db deviceId keepCount) deviceId keepCount =
      pruneOldEntries db deviceId keepCount := by
  refine pruneOldEntries_of_length_le _ deviceId keepCount ?_
  rw [length_pruneOldEntries]
  exact Nat.min_le_right _ _

end Prune

/-- Of the rows of the device the `keepCount` newest are left, or all if there are
    no more, and the rest of the database is as it was. -/
structure KeepsNewest (deviceId : String) (keepCount : Nat) (db db' : Db φ) : Prop where
  sublist : (ofDevice deviceId db'.cache).Sublist (ofDevice deviceId db.cache)
  count : (ofDevice deviceId db'.cache).length = min (ofDevice deviceId db.cache).length keepCount
  newest : ∀ r ∈ ofDevice deviceId db'.cache, ∀ q ∈ ofDevice deviceId db.cache,
    q ∉ ofDevice deviceId db'.cache → q.ts < r.ts
  others : ∀ other, deviceId ≠ other → ofDevice other db'.cache = ofDevice other db.cache
  latest : db'.latest = db.latest

theorem pruneOldEntries_latest (db : Db φ) (deviceId : String) (keepCount : Nat) :
    (pruneOldEntries db deviceId keepCount).latest = db.latest := by
  unfold pruneOldEntries
  split
  · rfl
  · rfl

/-- A prune keeps exactly the newest rows, and a second one changes nothing. -/
theorem pruneOldEntries_keepsNewest (db : Db φ) (deviceId : String) (keepCount : Nat) :
    KeepsNewest deviceId keepCount db (pruneOldEntries db deviceId keepCount) ∧
      pruneOldEntries (pruneOldEntries db deviceId keepCount) deviceId keepCount =
        pruneOldEntries db deviceId keepCount := by
  have hrows := ofDevice_pruneOldEntries db deviceId keepCount
  refine ⟨⟨?_, length_pruneOldEntries db deviceId keepCount, ?_,
    ofDevice_other db deviceId keepCount, pruneOldEntries_latest db deviceId keepCount⟩,
    pruneOldEntries_again db deviceId keepCount⟩
  · rw [hrows]
    exact Newest.prune_sublist CacheRow.ts keepCount _
  · intro r hr q hq hgone
    rw [hrows] at hr hgone
    exact Newest.lt_of_prune CacheRow.ts keepCount _ (nodup_ts deviceId _ db.cacheKey) r q hr hq
      hgone

end TelemetryDao

end Mobile

end Vena
