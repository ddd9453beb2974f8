import Vena.Mobile.TelemetryPoint

/-!
# The History Provider

One run of the body of `history`: a row of `history_cache` that is no older than
the TTL and can be decoded is the result, otherwise the backend is asked and its
answer stored under the second at which the run began. Where the backend cannot
be reached the exception leaves the provider, and a row that was too old for
the first step is not looked at again. The comments on the provider and on the
table promise that history works offline; `worksOffline_iff` states that it does
for the rows that are fresh, and for no others.

## Main definitions

* `HistoryRow`, `get`, `upsert`, `invalidateStale`: The table and its DAO.
* `tryCache`, `persist`, `history`: The three steps, and the run.
* `WorksOffline`: With a row and without the backend, the samples of the row.

## Theorems

* `tryCache_eq_some`: When the cache is hit.
* `worksOffline_iff`: When it works offline.
* `offline_stale`: A row that is a second too old.
-/

namespace Vena

namespace Mobile

namespace HistoryProvider

inductive HistoryRange where
  | h1
  | h24
  | d7
  | d30
  deriving DecidableEq, Repr

def HistoryRange.apiValue : HistoryRange → DartString
  | .h1 => dartString "1h"
  | .h24 => dartString "24h"
  | .d7 => dartString "7d"
  | .d30 => dartString "30d"

/-- `kHistoryCacheTtl`, in seconds. -/
def ttlSec : Int := 300

/-- A row of `history_cache`. -/
structure HistoryRow where
  deviceId : DartString
  bucket : DartString
  rangeKey : DartString
  payload : DartString
  fetchedAt : Int
  maxTs : Int
  deriving DecidableEq

/-- The primary key. -/
def HistoryRow.key (row : HistoryRow) : DartString × DartString × DartString :=
  (row.deviceId, row.bucket, row.rangeKey)

/-- The bucket every row is stored under. -/
def cacheBucket : DartString := dartString "auto"

/-- `HistoryCacheDao.get`. -/
def get (rows : List HistoryRow) (deviceId bucket rangeKey : DartString) : Option HistoryRow :=
  rows.find? (fun row => row.key = (deviceId, bucket, rangeKey))

/-- `HistoryCacheDao.upsert`. -/
def upsert (rows : List HistoryRow) (entry : HistoryRow) : List HistoryRow :=
  Keyed.upsert HistoryRow.key rows entry

/-- `HistoryCacheDao.invalidateStale`. -/
def invalidateStale (rows : List HistoryRow) (deviceId : DartString) (newTs : Int) :
    List HistoryRow :=
  rows.filter (fun row => ¬(row.deviceId = deviceId ∧ row.maxTs < newTs))

/-- The newest second among samples. -/
def maxTs : List TelemetryPoint → Int
  | [] => 0
  | s :: samples => samples.foldl (fun a b => if a > b.ts.1 then a else b.ts.1) s.ts.1

section

variable (ofLocal : Int → Int) (nowSec : Int) (deviceId : DartString) (range : HistoryRange)

/-- The first step: a fresh row that can be decoded. -/
def tryCache (rows : List HistoryRow) : Option (List TelemetryPoint) := do
  let cached ← get rows deviceId cacheBucket range.apiValue
  if nowSec - cached.fetchedAt ≤ ttlSec then
    -- A corrupt row falls through to the network.
    (HistoryResponse.decode ofLocal cached.payload).map HistoryResponse.samples
  else none

/-- The third step. Encoding may throw. -/
def persist (envelope : HistoryResponse) (rows : List HistoryRow) : Option (List HistoryRow) :=
  envelope.encode.map (fun payload => upsert rows
    { deviceId
      bucket := cacheBucket
      rangeKey := range.apiValue
      payload
      fetchedAt := nowSec
      maxTs := maxTs envelope.samples })

/-- `history` with the answer of the backend, `none` where the call throws: the
    samples, `none` where the provider throws, and the table afterwards. -/
def history (api : Option HistoryResponse) (rows : List HistoryRow) :
    Option (List TelemetryPoint) × List HistoryRow :=
  match tryCache ofLocal nowSec deviceId range rows with
  | some samples => (some samples, rows)
  | none =>
    match api with
    | none => (none, rows)
    | some envelope =>
      match persist nowSec deviceId range envelope rows with
      | none => (none, rows)
      | some rows => (some envelope.samples, rows)

/-- The cache is hit by a row that is fresh and can be decoded. -/
theorem tryCache_eq_some (rows : List HistoryRow) (samples : List TelemetryPoint) :
    tryCache ofLocal nowSec deviceId range rows = some samples ↔
      ∃ row envelope, get rows deviceId cacheBucket range.apiValue = some row ∧
        nowSec - row.fetchedAt ≤ ttlSec ∧
        HistoryResponse.decode ofLocal row.payload = some envelope ∧
        envelope.samples = samples := by
  rw [tryCache, Option.bind_eq_bind, Option.bind_eq_some_iff]
  constructor
  · rintro ⟨row, hrow, hcase⟩
    split at hcase
    · next hfresh =>
        rcases Option.map_eq_some_iff.mp hcase with ⟨envelope, hdecode, hsamples⟩
        exact ⟨row, envelope, hrow, hfresh, hdecode, hsamples⟩
    · exact absurd hcase nofun
  · rintro ⟨row, envelope, hrow, hfresh, hdecode, hsamples⟩
    refine ⟨row, hrow, ?_⟩
    rw [if_pos hfresh, hdecode, Option.map_some, hsamples]

/-- With a row that can be decoded and without the backend, the provider
    completes with the samples of the row. -/
def WorksOffline (rows : List HistoryRow) : Prop :=
  ∀ row envelope, get rows deviceId cacheBucket range.apiValue = some row →
    HistoryResponse.decode ofLocal row.payload = some envelope →
    (history ofLocal nowSec deviceId range none rows).1 = some envelope.samples

theorem history_offline (rows : List HistoryRow) :
    (history ofLocal nowSec deviceId range none rows).1 =
      tryCache ofLocal nowSec deviceId range rows := by
  rw [history]
  cases tryCache ofLocal nowSec deviceId range rows with
  | none => rfl
  | some samples => rfl

/-- The provider works offline exactly for rows within the TTL. -/
theorem worksOffline_iff (rows : List HistoryRow) :
    WorksOffline ofLocal nowSec deviceId range rows ↔
      ∀ row envelope, get rows deviceId cacheBucket range.apiValue = some row →
        HistoryResponse.decode ofLocal row.payload = some envelope →
        nowSec - row.fetchedAt ≤ ttlSec := by
  unfold WorksOffline
  rw [history_offline]
  constructor
  · intro h row envelope hrow hdecode
    rcases (tryCache_eq_some _ _ _ _ _ _).mp (h row envelope hrow hdecode) with
      ⟨row', _, hrow', hfresh, _, _⟩
    rw [hrow, Option.some.injEq] at hrow'
    exact hrow' ▸ hfresh
  · intro h row envelope hrow hdecode
    exact (tryCache_eq_some _ _ _ _ _ _).mpr
      ⟨row, envelope, hrow, h row envelope hrow hdecode, hdecode, rfl⟩

end

/-- A row with no samples, fetched at second 1779494400. -/
def emptyRow : HistoryRow where
  deviceId := dartString "VENA-01"
  bucket := cacheBucket
  rangeKey := HistoryRange.h1.apiValue
  payload := dartString "\x7b\"device_id\":\"VENA-01\",\"count\":0,\"samples\":[]\x7d"
  fetchedAt := 1779494400
  maxTs := 0

/-- Five minutes and one second later, without the backend. -/
theorem offline_stale : ¬WorksOffline id 1779494701 (dartString "VENA-01") .h1 [emptyRow] := by
  intro h
  have hdecode : HistoryResponse.decode id emptyRow.payload =
      some ⟨dartString "VENA-01", ⟨0, by decide⟩, [], none, none, none⟩ := by decide +kernel
  have hfail : (history id 1779494701 (dartString "VENA-01") .h1 none [emptyRow]).1 = none := by
    decide +kernel
  rw [h emptyRow _ (by decide +kernel) hdecode] at hfail
  exact absurd hfail nofun

end HistoryProvider

end Mobile

end Vena
