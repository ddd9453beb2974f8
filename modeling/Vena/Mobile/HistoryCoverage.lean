import Vena.Backend.History
import Vena.Core.Keyed

/-!
# What the History Screen Sees

The app asks for the last hour, day, week or month with `bucket=auto` and a
limit of 500 samples. The backend sorts the samples oldest first and cuts the
list there, so what is missing is always the newest part. Nothing is missing if
and only if the window has samples in at most 500 buckets. That is always so
for a week, of 169 hours at most; a day has 1441 minutes, and an hour of raw
rows is cut after 42 minutes of one every five seconds.

## Main definitions

* `HistoryRange`, `fetchQuery`: What the app asks for.
* `buckets`: The buckets of a window that hold a row.
* `Represents`, `Covered`: Every row of the window is represented, and the
  newest one is in the last sample.

## Theorems

* `history_fetch`: The response to the app's query.
* `dateTrunc_mono`: Later rows are in later buckets.
* `length_buckets_raw`: Raw rows have buckets of their own.
* `length_buckets_le`: A window of `k` widths touches at most `k + 1` buckets.
* `covered_raw`, `covered_grouped`, `represents_historySamples`: The two kinds of
  response, and both.
* `history_covered`: The window is covered if and only if it has at most 500
  buckets.
* `week_covered`: A week always is.
* `history_truncated`: A day that is not.
-/

namespace Vena

namespace Mobile

namespace History

open Backend

inductive HistoryRange where
  | h1
  | h24
  | d7
  | d30
  deriving DecidableEq, Repr

namespace HistoryRange

def apiValue : HistoryRange → String
  | .h1 => "1h"
  | .h24 => "24h"
  | .d7 => "7d"
  | .d30 => "30d"

def duration : HistoryRange → Int
  | .h1 => Datetime.minutes 60
  | .h24 => Datetime.minutes 1440
  | .d7 => Datetime.days 7
  | .d30 => Datetime.days 30

/-- The backend's range of this token. -/
def range : HistoryRange → Range
  | .h1 => .h1
  | .h24 => .h24
  | .d7 => .d7
  | .d30 => .d30

end HistoryRange

/-- The query of `fetchHistoryResponse`. -/
def fetchQuery (range : HistoryRange) : HistoryQuery where
  range := some range.apiValue
  bucket := "auto"
  metric := "all"
  limit := 500

/-- The buckets that hold a row. -/
def buckets {φ : Type} (zone : Int) (bucket : Bucket) (rows : List (TelemetryRaw φ)) :
    List Datetime :=
  (rows.map (fun row => dateTrunc zone bucket row.ts)).dedup

section Coverage

variable {φ : Type}

/-- The row is in the sample. -/
def InSample (host : Host φ) (bucket : Bucket) (row : TelemetryRaw φ)
    (sample : TelemetrySample φ) : Prop :=
  if bucket = .s5 then sample = rawSample row else sample.ts = dateTrunc host.zone bucket row.ts

/-- The samples represent every row, and the last one has the newest row. -/
def Represents (host : Host φ) (bucket : Bucket) (rows : List (TelemetryRaw φ))
    (samples : List (TelemetrySample φ)) : Prop :=
  (if bucket = .s5 then samples.length
    else (samples.map (fun sample => sample.sampleCount.getD 0)).sum) = rows.length ∧
  ∀ newest ∈ rows, (∀ row ∈ rows, row.ts ≤ newest.ts) →
    ∃ last, samples.getLast? = some last ∧ InSample host bucket newest last

/-- The response represents every row of the device between its `range_start`
    and its `range_end`, which are as far apart as the app asked for. -/
def Covered (host : Host φ) (db : TelemetryDb φ) (deviceId : String) (range : HistoryRange)
    (now : Datetime) : Prop :=
  ∃ response start stop bucket,
    Backend.history host db deviceId (fetchQuery range) now = .ok response ∧
    response.rangeStart = some start ∧ response.rangeEnd = some stop ∧
    stop - start = range.duration ∧ response.bucket = some bucket ∧
    Represents host bucket (window db deviceId start stop) response.samples

/-- The samples of a device are at least five seconds apart. -/
def Spaced (db : TelemetryDb φ) (deviceId : String) : Prop :=
  ∀ row ∈ db.rows, ∀ row' ∈ db.rows, row.deviceId = deviceId → row'.deviceId = deviceId →
    row.ts < row'.ts → row.ts + Datetime.seconds 5 ≤ row'.ts

/-- The response to the app's query. -/
theorem history_fetch (host : Host φ) (db : TelemetryDb φ) (deviceId : String)
    (range : HistoryRange) (now : Datetime) (hdevice : deviceId ∈ db.devices) :
    Backend.history host db deviceId (fetchQuery range) now =
      let samples := historySamples host db deviceId (chooseBucket range.range) Metric.all
        (now - range.duration) now 500
      .ok
        { deviceId := deviceId
          count := samples.length
          samples := samples
          bucket := some (chooseBucket range.range)
          rangeStart := some (now - range.duration)
          rangeEnd := some now } := by
  have htext : (!pgText deviceId) = false := by rw [db.deviceText deviceId hdevice]; rfl
  cases range <;>
    simp [Backend.history, fetchQuery, HistoryRange.apiValue, Range.ofToken, Range.all,
      Range.token, Bucket.ofToken, getDeviceHistoryAggregated, parseMetrics, resolveBucket,
      HistoryRange.range, HistoryRange.duration, Range.timedelta, htext, hdevice]

theorem covered_iff_represents (host : Host φ) (db : TelemetryDb φ) (deviceId : String)
    (range : HistoryRange) (now : Datetime) (hdevice : deviceId ∈ db.devices) :
    Covered host db deviceId range now ↔
      Represents host (chooseBucket range.range)
        (window db deviceId (now - range.duration) now)
        (historySamples host db deviceId (chooseBucket range.range) Metric.all
          (now - range.duration) now 500) := by
  constructor
  · rintro ⟨response, start, stop, bucket, hresponse, hstart, hstop, _, hbucket, hrep⟩
    rw [history_fetch host db deviceId range now hdevice, Reply.ok.injEq] at hresponse
    rw [← hresponse] at hstart hstop hbucket hrep
    simp only [Option.some.injEq] at hstart hstop hbucket
    rwa [← hstart, ← hstop, ← hbucket] at hrep
  · intro hrep
    exact ⟨_, _, _, _, history_fetch host db deviceId range now hdevice, rfl, rfl,
      Int.sub_sub_self now range.duration, rfl, hrep⟩

/-- Two samples of a device have different instants. -/
theorem nodup_window (db : TelemetryDb φ) (deviceId : String) (start stop : Datetime) :
    ((window db deviceId start stop).map TelemetryRaw.ts).Nodup := by
  have hnodup : (window db deviceId start stop).Nodup :=
    List.Nodup.filter _ (List.Nodup.of_map _ db.key)
  refine List.Nodup.map_on ?_ hnodup
  intro row hrow row' hrow' heq
  rcases List.mem_filter.mp hrow with ⟨hin, hboth⟩
  rcases List.mem_filter.mp hrow' with ⟨hin', hboth'⟩
  simp only [Bool.and_eq_true, decide_eq_true_eq] at hboth hboth'
  -- Device and instant are the primary key.
  refine Keyed.eq_of_key TelemetryRaw.key db.rows row row' db.key hin hin' ?_
  rw [TelemetryRaw.key, TelemetryRaw.key, heq, hboth.1.1, hboth'.1.1]

theorem width_pos (bucket : Bucket) : 0 < bucket.width := by
  cases bucket <;> decide

/-- Later rows are in later buckets. -/
theorem dateTrunc_mono (zone : Int) (bucket : Bucket) (ts ts' : Int) (h : ts ≤ ts') :
    dateTrunc zone bucket ts ≤ dateTrunc zone bucket ts' := by
  have hle : (ts + zone) / bucket.width ≤ (ts' + zone) / bucket.width :=
    Int.ediv_le_ediv (width_pos bucket) (by omega)
  have hmul := Int.mul_le_mul_of_nonneg_left hle (Int.le_of_lt (width_pos bucket))
  have hcut : ts - (ts + zone - bucket.width * ((ts + zone) / bucket.width)) ≤
      ts' - (ts' + zone - bucket.width * ((ts' + zone) / bucket.width)) := by
    omega
  rw [dateTrunc, dateTrunc, Int.emod_def, Int.emod_def]
  exact hcut

theorem buckets_eq (zone : Int) (bucket : Bucket) (rows : List (TelemetryRaw φ)) :
    buckets zone bucket rows = ((rows.map TelemetryRaw.ts).map (dateTrunc zone bucket)).dedup := by
  rw [buckets, List.map_map]
  rfl

/-- Raw rows have buckets of their own. -/
theorem length_buckets_raw (zone : Int) (rows : List (TelemetryRaw φ))
    (hkey : (rows.map TelemetryRaw.ts).Nodup) :
    (buckets zone .s5 rows).length = rows.length := by
  have hsame : (rows.map TelemetryRaw.ts).map (dateTrunc zone .s5) = rows.map TelemetryRaw.ts := by
    refine List.map_id'' (fun ts => ?_) _
    rw [dateTrunc, Bucket.width, Int.emod_one, Int.sub_zero]
  rw [buckets_eq, hsame, hkey.dedup, List.length_map]

theorem dateTrunc_eq (zone : Int) (bucket : Bucket) (ts : Int) :
    dateTrunc zone bucket ts = (ts + zone) / bucket.width * bucket.width - zone := by
  have hcut : ts - (ts + zone - bucket.width * ((ts + zone) / bucket.width)) =
      bucket.width * ((ts + zone) / bucket.width) - zone := by
    omega
  rw [dateTrunc, Int.emod_def, Int.mul_comm _ bucket.width]
  exact hcut

/-- The buckets of a window of `k` widths, counted from the first. -/
theorem index_bounds (zone width start stop ts : Int) (k : Nat) (hwidth : 0 < width)
    (hk : stop - start ≤ k * width) (hstart : start ≤ ts) (hstop : ts < stop) :
    (start + zone) / width ≤ (ts + zone) / width ∧
      (ts + zone) / width ≤ (start + zone) / width + k := by
  refine ⟨Int.ediv_le_ediv hwidth (by omega), ?_⟩
  rw [← Int.add_mul_ediv_right _ _ (Int.ne_of_gt hwidth)]
  exact Int.ediv_le_ediv hwidth (by omega)

/-- A window of `k` widths touches at most `k + 1` buckets. -/
theorem length_buckets_le (zone : Int) (bucket : Bucket) (db : TelemetryDb φ) (deviceId : String)
    (start stop : Int) (k : Nat) (hk : stop - start ≤ k * bucket.width) :
    (buckets zone bucket (window db deviceId start stop)).length ≤ k + 1 := by
  have hsub : buckets zone bucket (window db deviceId start stop) ⊆ (List.range (k + 1)).map
      (fun i : Nat => ((start + zone) / bucket.width + i) * bucket.width - zone) := by
    intro b hb
    rcases List.mem_map.mp (List.mem_dedup.mp hb) with ⟨row, hrow, heq⟩
    have hboth := (List.mem_filter.mp hrow).2
    simp only [Bool.and_eq_true, decide_eq_true_eq] at hboth
    -- A bucket is known by how many widths it lies after the first one.
    rcases index_bounds zone bucket.width start stop row.ts k
      (width_pos bucket) hk hboth.1.2 hboth.2
      with ⟨hlow, hhigh⟩
    refine List.mem_map.mpr ⟨((row.ts + zone) / bucket.width - (start + zone) / bucket.width).toNat,
      List.mem_range.mpr (by omega), ?_⟩
    rw [← heq, dateTrunc_eq, Int.toNat_of_nonneg (by omega), add_sub_cancel]
  have hle := (List.subperm_of_subset (List.nodup_dedup _) hsub).length_le
  rwa [List.length_map, List.length_range] at hle

/-- Raw rows, sorted and cut. -/
theorem covered_raw (host : Host φ) (rows : List (TelemetryRaw φ)) (limit : Nat)
    (hkey : (rows.map TelemetryRaw.ts).Nodup) :
    Represents host .s5 rows
      (((rows.insertionSort (fun a b => a.ts ≤ b.ts)).take limit).map rawSample) ↔
      rows.length ≤ limit := by
  have hlength : (rows.insertionSort (fun a b => a.ts ≤ b.ts)).length = rows.length :=
    List.length_insertionSort _ rows
  constructor
  · rintro ⟨hsum, _⟩
    rw [if_pos rfl, List.length_map, List.length_take, hlength] at hsum
    omega
  · intro hle
    rw [List.take_of_length_le (by omega)]
    refine ⟨by rw [if_pos rfl, List.length_map, hlength], ?_⟩
    intro newest hnewest hmax
    have hsorted :
        (rows.insertionSort (fun a b => a.ts ≤ b.ts)).Pairwise (fun a b => a.ts ≤ b.ts) :=
      List.pairwise_insertionSort _ rows
    rcases GroupBy.getLast?_sorted TelemetryRaw.ts _ newest hsorted
      ((List.mem_insertionSort _).mpr hnewest) with ⟨last, hlast, hget, hts⟩
    have hin : last ∈ rows := (List.mem_insertionSort _).mp hlast
    -- The last row is as new as the newest, and no two rows are of one instant.
    have heq : last = newest := Keyed.eq_of_key TelemetryRaw.ts rows last newest hkey hin hnewest
      (Int.le_antisymm (hmax last hin) hts)
    refine ⟨rawSample last, by rw [List.getLast?_map, hget, Option.map_some], ?_⟩
    rw [InSample, if_pos rfl, heq]

/-- Grouped rows, cut. -/
theorem covered_grouped (host : Host φ) (bucket : Bucket) (metrics : List Metric)
    (rows : List (TelemetryRaw φ)) (limit : Nat) (hbucket : bucket ≠ .s5) :
    Represents host bucket rows
      (((GroupBy.groupBy (fun row : TelemetryRaw φ => dateTrunc host.zone bucket row.ts)
        rows).take limit).map (groupSample host metrics)) ↔
      (buckets host.zone bucket rows).length ≤ limit := by
  have hsum := GroupBy.sum_take_groupBy
    (fun row : TelemetryRaw φ => dateTrunc host.zone bucket row.ts) rows limit
  rw [GroupBy.length_groupBy] at hsum
  unfold Represents
  rw [if_neg hbucket, List.map_map]
  constructor
  · rintro ⟨hrep, _⟩
    exact hsum.mp hrep
  · intro hle
    refine ⟨hsum.mpr hle, ?_⟩
    intro newest hnewest hmax
    -- Truncation is monotone, so the newest row is in the last group.
    have hlast := GroupBy.getLast?_groupBy
      (fun row : TelemetryRaw φ => dateTrunc host.zone bucket row.ts) rows newest hnewest
      (fun row hrow => dateTrunc_mono host.zone bucket row.ts newest.ts (hmax row hrow))
    rw [List.take_of_length_le (by rw [GroupBy.length_groupBy]; exact hle), List.getLast?_map,
      hlast]
    refine ⟨_, rfl, ?_⟩
    rw [InSample, if_neg hbucket]
    rfl

/-- The samples cover a window if and only if they are not cut. -/
theorem represents_historySamples (host : Host φ) (db : TelemetryDb φ) (deviceId : String)
    (bucket : Bucket) (metrics : List Metric) (start stop : Datetime) (limit : Nat) :
    Represents host bucket (window db deviceId start stop)
      (historySamples host db deviceId bucket metrics start stop limit) ↔
      (buckets host.zone bucket (window db deviceId start stop)).length ≤ limit := by
  unfold historySamples
  by_cases hbucket : bucket = .s5
  · have hkey := nodup_window db deviceId start stop
    rw [if_pos hbucket, hbucket, covered_raw host _ limit hkey, length_buckets_raw host.zone _ hkey]
  · rw [if_neg hbucket]
    exact covered_grouped host bucket metrics _ limit hbucket

/-- The window is covered if and only if its rows are in at most 500 buckets. -/
theorem history_covered (host : Host φ) (db : TelemetryDb φ) (deviceId : String)
    (range : HistoryRange) (now : Datetime) (hdevice : deviceId ∈ db.devices) :
    Covered host db deviceId range now ↔
      (buckets host.zone (chooseBucket range.range)
        (window db deviceId (now - range.duration) now)).length ≤ 500 := by
  rw [covered_iff_represents host db deviceId range now hdevice]
  exact represents_historySamples host db deviceId _ Metric.all _ now 500

/-- A week has 169 hours at most, so it is always covered. -/
theorem week_covered (host : Host φ) (db : TelemetryDb φ) (deviceId : String) (now : Datetime)
    (hdevice : deviceId ∈ db.devices) : Covered host db deviceId .d7 now := by
  rw [covered_iff_represents host db deviceId .d7 now hdevice, represents_historySamples]
  have hle := length_buckets_le host.zone .h1 db deviceId (now - HistoryRange.duration .d7) now 168
    (by rw [Int.sub_sub_self]; decide)
  exact Nat.le_trans hle (by decide)

end Coverage

/-- One sample a minute for `n` minutes, from the epoch. -/
def minuteRows (n : Nat) : List (TelemetryRaw Int) :=
  (List.range n).map (fun i : Nat => ⟨"vena-a", Datetime.minutes i, fun _ => none⟩)

theorem minutes_inj (i j : Nat) (h : Datetime.minutes i = Datetime.minutes j) : i = j := by
  unfold Datetime.minutes Datetime.seconds at h
  omega

def minuteDb (n : Nat) : TelemetryDb Int where
  devices := ["vena-a"]
  rows := minuteRows n
  key := by
    rw [minuteRows, List.map_map]
    refine List.Nodup.map_on (fun i _ j _ heq => ?_) List.nodup_range
    simp only [Function.comp_apply, TelemetryRaw.key, Prod.mk.injEq, true_and] at heq
    exact minutes_inj i j heq
  deviceFk := by
    intro row hrow
    rcases List.mem_map.mp hrow with ⟨i, _, heq⟩
    rw [← heq]
    exact List.mem_singleton.mpr rfl
  deviceText := by decide

/-- A session in UTC. -/
def demoHost : Host Int where
  avg := fun vs => vs.sum / vs.length
  min := fun vs => vs.foldl min (vs.headD 0)
  max := fun vs => vs.foldl max (vs.headD 0)
  zone := 0
  repr := fun s => "'" ++ s ++ "'"

/-- Half an hour of samples fits into the window of an hour. -/
theorem history_covered_hour : Covered demoHost (minuteDb 30) "vena-a" .h1 (Datetime.minutes 60) :=
  (history_covered demoHost (minuteDb 30) "vena-a" .h1 (Datetime.minutes 60)
    (List.mem_singleton.mpr rfl)).mpr (by decide)

theorem spaced_minuteDb (n : Nat) : Spaced (minuteDb n) "vena-a" := by
  intro row hrow row' hrow' _ _ hlt
  rcases List.mem_map.mp hrow with ⟨i, _, heq⟩
  rcases List.mem_map.mp hrow' with ⟨j, _, heq'⟩
  rw [← heq, ← heq'] at hlt ⊢
  have hgap : (i : Int) * 60 * 1000000 < j * 60 * 1000000 →
      (i : Int) * 60 * 1000000 + 5 * 1000000 ≤ j * 60 * 1000000 := by
    omega
  exact hgap hlt

theorem dateTrunc_minutes (i : Int) :
    dateTrunc 0 .m1 (Datetime.minutes i) = Datetime.minutes i := by
  have hdvd : Bucket.width .m1 ∣ Datetime.minutes i :=
    ⟨i, by simp only [Bucket.width, Datetime.minutes, Datetime.seconds]; omega⟩
  rw [dateTrunc, Int.add_zero, Int.emod_eq_zero_of_dvd hdvd, Int.sub_zero]

/-- Every minute has its own bucket. -/
theorem length_buckets_minuteDb (n : Nat) :
    (buckets 0 .m1 (window (minuteDb n) "vena-a" 0 (Datetime.minutes n))).length = n := by
  have hwindow : window (minuteDb n) "vena-a" 0 (Datetime.minutes n) = minuteRows n := by
    refine List.filter_eq_self.mpr (fun row hrow => ?_)
    rcases List.mem_map.mp hrow with ⟨i, hi, heq⟩
    have hlt := List.mem_range.mp hi
    have hbounds : (0 : Int) ≤ i * 60 * 1000000 ∧ (i : Int) * 60 * 1000000 < n * 60 * 1000000 := by
      omega
    rw [← heq]
    simp only [decide_true, Bool.true_and, Bool.and_eq_true, decide_eq_true_eq]
    exact hbounds
  have hts : (minuteRows n).map TelemetryRaw.ts =
      (List.range n).map (fun i : Nat => Datetime.minutes i) := by
    rw [minuteRows, List.map_map]
    rfl
  have hbuckets : ((List.range n).map (fun i : Nat => Datetime.minutes i)).map (dateTrunc 0 .m1) =
      (List.range n).map (fun i : Nat => Datetime.minutes i) := by
    rw [List.map_map]
    refine List.map_congr_left (fun i _ => ?_)
    rw [Function.comp_apply, dateTrunc_minutes]
  have hnodup : ((List.range n).map (fun i : Nat => Datetime.minutes i)).Nodup :=
    List.Nodup.map_on (fun i _ j _ heq => minutes_inj i j heq) List.nodup_range
  rw [buckets_eq, hwindow, hts, hbuckets, hnodup.dedup, List.length_map, List.length_range]

/-- Of a day with one sample a minute the end is cut off. -/
theorem history_truncated : ¬ ∀ (φ : Type) (host : Host φ) (db : TelemetryDb φ)
    (deviceId : String) (range : HistoryRange) (now : Datetime), deviceId ∈ db.devices →
    Spaced db deviceId → Covered host db deviceId range now := by
  intro hall
  have hdevice : "vena-a" ∈ (minuteDb 1440).devices := List.mem_singleton.mpr rfl
  have hcovered := hall Int demoHost (minuteDb 1440) "vena-a" .h24 (Datetime.minutes 1440) hdevice
    (spaced_minuteDb 1440)
  rw [covered_iff_represents _ _ _ _ _ hdevice] at hcovered
  have hle := (represents_historySamples demoHost (minuteDb 1440) "vena-a" .m1 Metric.all _ _
    500).mp hcovered
  have hstart : Datetime.minutes 1440 - HistoryRange.duration .h24 = 0 := Int.sub_self _
  rw [hstart] at hle
  -- A day has 1440 minutes, and the response holds 500 of them.
  have hlength := length_buckets_minuteDb 1440
  exact absurd (hlength ▸ hle) (by decide)

end History

end Mobile

end Vena
