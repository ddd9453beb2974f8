import Mathlib.Order.Defs.LinearOrder
import Vena.Backend.History

/-!
# Zooming Out

The endpoint serves one window at several resolutions, each with a query of its
own over the raw rows. A client that has the samples of a fine bucket can put
those of a coarse one together itself: the extremes of the extremes and the sum
of the counts. That both ways agree is what makes two charts of one window
consistent. It rests on two facts: `date_trunc` to the coarse field does not
notice a truncation to the fine one, and a coarse group consists of whole fine
groups.

The averages are left out: the average of averages is another number.

## Main definitions

* `Picks`: An aggregate that picks the first of the values.
* `extent`: A sample without its average.
* `mergeSamples`, `rollup`: The coarse samples from the fine ones.
* `Uncut`: A response with all groups of its window.

## Theorems

* `dateTrunc_coarser`: Truncating twice.
* `aggregate_parts`: The extreme of the extremes of the parts.
* `rollup_bucketSamples`: The groups.
* `uncut_of_count`: A response that is not full is not cut.
* `zoom_out`: The two responses.
-/

namespace Vena

namespace Backend

namespace ZoomOut

variable {φ : Type}

/-- The aggregate picks one of the values, before all others. -/
def Picks (r : φ → φ → Prop) (f : List φ → φ) : Prop :=
  ∀ xs, xs ≠ [] → f xs ∈ xs ∧ ∀ x ∈ xs, r (f xs) x

/-- A sample without its average. -/
def extent (s : TelemetrySample φ) : TelemetrySample φ :=
  { s with value := fun _ => none }

/-- The sample of a coarse bucket from the samples in it. -/
def mergeSamples (host : Host φ) (group : Datetime × List (TelemetrySample φ)) :
    TelemetrySample φ where
  ts := group.1
  value := fun _ => none
  min := fun m => aggregate host.min (group.2.map (fun s => s.min m))
  max := fun m => aggregate host.max (group.2.map (fun s => s.max m))
  sampleCount := some (group.2.map (fun s => s.sampleCount.getD 0)).sum

def rollup (host : Host φ) (bucket : Bucket) (samples : List (TelemetrySample φ)) :
    List (TelemetrySample φ) :=
  (GroupBy.groupBy (fun s : TelemetrySample φ => dateTrunc host.zone bucket s.ts) samples).map
    (mergeSamples host)

/-- The coarse remainder after the fine one has been taken away. -/
theorem sub_emod_emod_mul (y w k : Int) (hw : 0 < w) :
    (y - y % w) % (w * k) = y % (w * k) - y % w := by
  have hfloor : y - y % w = w * (y / w) := by
    have hdiv := Int.emod_add_mul_ediv y w
    omega
  -- The multiple of `w` below `y` has the same coarse quotient.
  have hquot : (y - y % w) / (w * k) = y / (w * k) := by
    rw [hfloor, Int.mul_ediv_mul_of_pos _ _ hw, Int.ediv_ediv_of_nonneg (Int.le_of_lt hw)]
  rw [Int.emod_def (y - y % w), hquot, Int.emod_def y (w * k)]
  omega

/-- Truncating to a multiple of the width does not notice a truncation before. -/
theorem dateTrunc_coarser (zone : Int) (fine coarse : Bucket) (hwidth : fine.width ∣ coarse.width)
    (ts : Int) :
    dateTrunc zone coarse (dateTrunc zone fine ts) = dateTrunc zone coarse ts := by
  rcases hwidth with ⟨k, hk⟩
  have hpos : 0 < fine.width := by
    cases fine with
    | s5 => decide
    | m1 => decide
    | h1 => decide
    | d1 => decide
  have hrest := sub_emod_emod_mul (ts + zone) fine.width k hpos
  have hshift : ts - (ts + zone) % fine.width + zone = ts + zone - (ts + zone) % fine.width := by
    omega
  have hsum : ∀ a b : Int, ts - a - (b - a) = ts - b := by
    intro a b
    omega
  rw [dateTrunc, dateTrunc, dateTrunc, hshift, hk, hrest]
  exact hsum _ _

section Extremes

variable (r : φ → φ → Prop) (f : List φ → φ) (hf : Picks r f)

include hf

theorem aggregate_cases (values : List (Option φ)) :
    (aggregate f values = none ∧ ∀ y, some y ∉ values) ∨
      ∃ x, aggregate f values = some x ∧ some x ∈ values ∧ ∀ y, some y ∈ values → r x y := by
  have hmem : ∀ y, y ∈ values.filterMap id ↔ some y ∈ values := by
    intro y
    rw [List.mem_filterMap]
    exact ⟨fun ⟨v, hv, heq⟩ => heq ▸ hv, fun h => ⟨some y, h, rfl⟩⟩
  unfold aggregate
  split
  · next hnil =>
      refine Or.inl ⟨rfl, fun y hy => ?_⟩
      have hin := (hmem y).mpr hy
      rw [hnil] at hin
      exact List.not_mem_nil hin
  · next v vs hcons =>
      rcases hf (v :: vs) (List.cons_ne_nil v vs) with ⟨hin, hfirst⟩
      rw [← hcons] at hin hfirst
      refine Or.inr ⟨_, rfl, ?_, fun y hy => ?_⟩
      · rw [← hcons]
        exact (hmem _).mp hin
      · rw [← hcons]
        exact hfirst y ((hmem y).mpr hy)

/-- The extreme of the values of several parts is that of the extremes of the
    parts. -/
theorem aggregate_parts (htrans : ∀ x y z, r x y → r y z → r x z)
    (hantisymm : ∀ x y, r x y → r y x → x = y) (values : List (Option φ))
    (parts : List (List (Option φ))) (hparts : ∀ v, v ∈ values ↔ ∃ p ∈ parts, v ∈ p) :
    aggregate f values = aggregate f (parts.map (aggregate f)) := by
  rcases aggregate_cases r f hf values with ⟨hnone, hempty⟩ | ⟨x, hx, hin, hfirst⟩
  · rcases aggregate_cases r f hf (parts.map (aggregate f)) with ⟨hnone', _⟩ | ⟨y, _, hy, _⟩
    · rw [hnone, hnone']
    · rcases List.mem_map.mp hy with ⟨p, hp, hpart⟩
      rcases aggregate_cases r f hf p with ⟨hno, _⟩ | ⟨z, _, hz, _⟩
      · rw [hno] at hpart
        exact absurd hpart (by simp only [reduceCtorEq, not_false_eq_true])
      · exact absurd ((hparts _).mpr ⟨p, hp, hz⟩) (hempty z)
  · rcases (hparts _).mp hin with ⟨p, hp, hxp⟩
    -- The extreme of all is a value of some part, and not beyond the extreme of it.
    have hpart : ∃ w, aggregate f p = some w ∧ r w x := by
      rcases aggregate_cases r f hf p with ⟨_, hno⟩ | ⟨w, hw, _, hle⟩
      · exact absurd hxp (hno x)
      · exact ⟨w, hw, hle x hxp⟩
    rcases hpart with ⟨w, hw, hwx⟩
    rcases aggregate_cases r f hf (parts.map (aggregate f)) with ⟨_, hno⟩ | ⟨y, hy, hiny, hle⟩
    · exact absurd (List.mem_map.mpr ⟨p, hp, hw⟩) (hno w)
    · rcases List.mem_map.mp hiny with ⟨q, hq, hqy⟩
      -- The extreme of a part is one of its values.
      have hvalue : some y ∈ values := by
        rcases aggregate_cases r f hf q with ⟨hno, _⟩ | ⟨z, hz, hzq, _⟩
        · rw [hno] at hqy
          exact absurd hqy (by simp only [reduceCtorEq, not_false_eq_true])
        · rw [hz] at hqy
          exact (hparts _).mpr ⟨q, hq, hqy ▸ hzq⟩
      rw [hx, hy, hantisymm x y (hfirst y hvalue)
        (htrans y w x (hle w (List.mem_map.mpr ⟨p, hp, hw⟩)) hwx)]

end Extremes

section Groups

variable (host : Host φ) (metrics : List Metric)

/-- The fine groups of a coarse bucket. -/
def finer (fine coarse : Bucket) (rows : List (TelemetryRaw φ)) (ts : Datetime) :
    List (Datetime × List (TelemetryRaw φ)) :=
  (GroupBy.groupBy (fun row : TelemetryRaw φ => dateTrunc host.zone fine row.ts) rows).filter
    (fun group => dateTrunc host.zone coarse group.1 = ts)

/-- They have the rows of the coarse bucket. -/
theorem perm_finer (fine coarse : Bucket) (hwidth : fine.width ∣ coarse.width)
    (rows : List (TelemetryRaw φ)) (ts : Datetime) :
    ((finer host fine coarse rows ts).flatMap Prod.snd).Perm
      (rows.filter (fun row => dateTrunc host.zone coarse row.ts = ts)) := by
  have hperm := GroupBy.filter_coarser (fun row : TelemetryRaw φ => dateTrunc host.zone fine row.ts)
    (dateTrunc host.zone coarse) rows ts
  simp only [dateTrunc_coarser host.zone fine coarse hwidth] at hperm
  exact hperm

/-- The values of a metric in a coarse bucket are those in the fine ones. -/
theorem mem_values (fine coarse : Bucket) (hwidth : fine.width ∣ coarse.width)
    (rows : List (TelemetryRaw φ)) (ts : Datetime) (m : Metric) (v : Option φ) :
    v ∈ (rows.filter (fun row => dateTrunc host.zone coarse row.ts = ts)).map
        (fun row => row.value m) ↔
      ∃ p ∈ (finer host fine coarse rows ts).map (fun g => g.2.map (fun row => row.value m)),
        v ∈ p := by
  have hperm := perm_finer host fine coarse hwidth rows ts
  constructor
  · intro hv
    rcases List.mem_map.mp hv with ⟨row, hrow, rfl⟩
    rcases List.mem_flatMap.mp (hperm.mem_iff.mpr hrow) with ⟨g, hg, hin⟩
    exact ⟨_, List.mem_map_of_mem hg, List.mem_map.mpr ⟨row, hin, rfl⟩⟩
  · rintro ⟨p, hp, hv⟩
    rcases List.mem_map.mp hp with ⟨g, hg, rfl⟩
    rcases List.mem_map.mp hv with ⟨row, hrow, rfl⟩
    exact List.mem_map.mpr ⟨row, hperm.mem_iff.mp (List.mem_flatMap.mpr ⟨g, hg, hrow⟩), rfl⟩

theorem aggregate_nones (f : List φ → φ) (values : List (Option φ)) (h : ∀ v ∈ values, v = none) :
    aggregate f values = none := by
  have hnil : values.filterMap id = [] := List.filterMap_eq_nil_iff.mpr h
  rw [aggregate, hnil]

/-- An extreme of the coarse bucket from those of the fine ones. -/
theorem aggregate_finer (r : φ → φ → Prop) (f : List φ → φ) (hf : Picks r f)
    (htrans : ∀ x y z, r x y → r y z → r x z) (hantisymm : ∀ x y, r x y → r y x → x = y)
    (fine coarse : Bucket) (hwidth : fine.width ∣ coarse.width) (rows : List (TelemetryRaw φ))
    (ts : Datetime) (m : Metric) (c : Prop) [Decidable c] :
    aggregate f ((finer host fine coarse rows ts).map (fun g =>
        if c then aggregate f (g.2.map (fun row => row.value m)) else none)) =
      if c then aggregate f ((rows.filter (fun row =>
        dateTrunc host.zone coarse row.ts = ts)).map (fun row => row.value m)) else none := by
  by_cases hc : c
  · simp only [hc, if_true]
    rw [aggregate_parts r f hf htrans hantisymm _ _ (mem_values host fine coarse hwidth rows ts m),
      List.map_map]
    rfl
  · simp only [hc, if_false]
    refine aggregate_nones f _ (fun v hv => ?_)
    rcases List.mem_map.mp hv with ⟨_, _, rfl⟩
    rfl

end Groups

section Samples

variable (host : Host φ) (metrics : List Metric)

/-- The samples of a bucket, before they are cut. -/
def bucketSamples (bucket : Bucket) (rows : List (TelemetryRaw φ)) : List (TelemetrySample φ) :=
  (GroupBy.groupBy (fun row : TelemetryRaw φ => dateTrunc host.zone bucket row.ts) rows).map
    (groupSample host metrics)

theorem map_ts_bucketSamples (bucket : Bucket) (rows : List (TelemetryRaw φ)) :
    (bucketSamples host metrics bucket rows).map TelemetrySample.ts =
      GroupBy.keys (fun row : TelemetryRaw φ => dateTrunc host.zone bucket row.ts) rows := by
  rw [bucketSamples, GroupBy.groupBy, List.map_map, List.map_map]
  exact List.map_id _

/-- The samples that fall into a coarse bucket are those of its fine groups. -/
theorem filter_bucketSamples (fine coarse : Bucket) (rows : List (TelemetryRaw φ))
    (ts : Datetime) :
    (bucketSamples host metrics fine rows).filter
        (fun s => dateTrunc host.zone coarse s.ts = ts) =
      (finer host fine coarse rows ts).map (groupSample host metrics) := by
  rw [bucketSamples, List.filter_map, finer]
  rfl

theorem keys_bucketSamples (fine coarse : Bucket) (hwidth : fine.width ∣ coarse.width)
    (rows : List (TelemetryRaw φ)) :
    GroupBy.keys (fun s : TelemetrySample φ => dateTrunc host.zone coarse s.ts)
        (bucketSamples host metrics fine rows) =
      GroupBy.keys (fun row : TelemetryRaw φ => dateTrunc host.zone coarse row.ts) rows := by
  have hfine := GroupBy.keys_coarser (fun row : TelemetryRaw φ => dateTrunc host.zone fine row.ts)
    (dateTrunc host.zone coarse) rows
  simp only [dateTrunc_coarser host.zone fine coarse hwidth] at hfine
  -- The keys of the fine groups are the instants of their samples.
  rw [hfine, ← map_ts_bucketSamples host metrics fine rows, GroupBy.keys, GroupBy.keys,
    List.map_map]
  rfl

/-- The counts of the fine groups add up. -/
theorem sum_finer (fine coarse : Bucket) (hwidth : fine.width ∣ coarse.width)
    (rows : List (TelemetryRaw φ)) (ts : Datetime) :
    (((finer host fine coarse rows ts).map (groupSample host metrics)).map
        (fun s => s.sampleCount.getD 0)).sum =
      (rows.filter (fun row => dateTrunc host.zone coarse row.ts = ts)).length := by
  rw [← (perm_finer host fine coarse hwidth rows ts).length_eq, List.length_flatMap, List.map_map]
  rfl

variable (r q : φ → φ → Prop) (hmin : Picks r host.min) (hmax : Picks q host.max)
  (hr : (∀ x y z, r x y → r y z → r x z) ∧ ∀ x y, r x y → r y x → x = y)
  (hq : (∀ x y z, q x y → q y z → q x z) ∧ ∀ x y, q x y → q y x → x = y)

include hmin hmax hr hq

/-- One coarse sample from the fine ones in its bucket. -/
theorem mergeSamples_finer (fine coarse : Bucket) (hwidth : fine.width ∣ coarse.width)
    (rows : List (TelemetryRaw φ)) (ts : Datetime) :
    mergeSamples host (ts, (finer host fine coarse rows ts).map (groupSample host metrics)) =
      extent (groupSample host metrics
        (ts, rows.filter (fun row => dateTrunc host.zone coarse row.ts = ts))) := by
  -- A metric that was not asked for has no extremes on either side.
  have hlow : ∀ m, aggregate host.min (((finer host fine coarse rows ts).map
      (groupSample host metrics)).map (fun s => s.min m)) =
      (groupSample host metrics (ts, rows.filter (fun row =>
        dateTrunc host.zone coarse row.ts = ts))).min m := by
    intro m
    rw [List.map_map]
    exact aggregate_finer host r host.min hmin hr.1 hr.2 fine coarse hwidth rows ts m
      (m ∈ metrics ∧ m.hasMinMax)
  have hhigh : ∀ m, aggregate host.max (((finer host fine coarse rows ts).map
      (groupSample host metrics)).map (fun s => s.max m)) =
      (groupSample host metrics (ts, rows.filter (fun row =>
        dateTrunc host.zone coarse row.ts = ts))).max m := by
    intro m
    rw [List.map_map]
    exact aggregate_finer host q host.max hmax hq.1 hq.2 fine coarse hwidth rows ts m
      (m ∈ metrics ∧ m.hasMinMax)
  rw [mergeSamples, extent, sum_finer host metrics fine coarse hwidth rows ts]
  simp only [hlow, hhigh]
  rfl

/-- The samples of the coarse bucket are put together from those of the fine one. -/
theorem rollup_bucketSamples (fine coarse : Bucket) (hwidth : fine.width ∣ coarse.width)
    (rows : List (TelemetryRaw φ)) :
    rollup host coarse (bucketSamples host metrics fine rows) =
      (bucketSamples host metrics coarse rows).map extent := by
  have hgroups : ∀ samples : List (TelemetrySample φ), rollup host coarse samples =
      (GroupBy.keys (fun s : TelemetrySample φ => dateTrunc host.zone coarse s.ts) samples).map
        (fun ts => mergeSamples host
          (ts, samples.filter (fun s => dateTrunc host.zone coarse s.ts = ts))) := by
    intro samples
    rw [rollup, GroupBy.groupBy, List.map_map]
    rfl
  have hcoarse : (bucketSamples host metrics coarse rows).map extent =
      (GroupBy.keys (fun row : TelemetryRaw φ => dateTrunc host.zone coarse row.ts) rows).map
        (fun ts => extent (groupSample host metrics
          (ts, rows.filter (fun row => dateTrunc host.zone coarse row.ts = ts)))) := by
    rw [bucketSamples, GroupBy.groupBy, List.map_map, List.map_map]
    rfl
  -- Both lists are over the same coarse instants.
  rw [hgroups, keys_bucketSamples host metrics fine coarse hwidth rows, hcoarse]
  refine List.map_congr_left (fun ts _ => ?_)
  rw [filter_bucketSamples]
  exact mergeSamples_finer host metrics r q hmin hmax hr hq fine coarse hwidth rows ts

end Samples

/-- There are not more coarse samples than fine ones. -/
theorem length_rollup_le (host : Host φ) (bucket : Bucket) (samples : List (TelemetrySample φ)) :
    (rollup host bucket samples).length ≤ samples.length := by
  rw [rollup, List.length_map, GroupBy.length_groupBy]
  refine Nat.le_trans (List.dedup_sublist _).length_le ?_
  rw [List.length_map]

theorem ofToken_token (bucket : Bucket) : Bucket.ofToken bucket.token = some (some bucket) := by
  cases bucket with
  | s5 => rfl
  | m1 => rfl
  | h1 => rfl
  | d1 => rfl

/-- The range token of a request without bounds. -/
def rangeToken (query : HistoryQuery) : String :=
  if query.range.getD "" = "" then "24h" else query.range.getD ""

/-- The aggregated response, from what the request is checked for. -/
def aggregated (host : Host φ) (db : TelemetryDb φ) (deviceId : String) (range : Range)
    (metrics : List Metric) (limit : Nat) (now : Datetime) (bucket : Bucket) :
    HistoryResponse φ :=
  let samples := historySamples host db deviceId bucket metrics (now - range.timedelta) now limit
  { deviceId := deviceId
    count := samples.length
    samples := samples
    bucket := some bucket
    rangeStart := some (now - range.timedelta)
    rangeEnd := some now }

/-- What a request that gets a bucket was checked for; the bucket is not among it. -/
structure Accepted (host : Host φ) (db : TelemetryDb φ) (deviceId : String) (query : HistoryQuery)
    (range : Range) (metrics : List Metric) : Prop where
  unbounded : (query.start.isSome || query.stop.isSome) = false
  range : Range.ofToken (rangeToken query) = some range
  text : pgText deviceId = true
  device : deviceId ∈ db.devices
  metrics : parseMetrics host.repr query.metric = .ok metrics

theorem history_accepted (host : Host φ) (db : TelemetryDb φ) (deviceId : String)
    (query : HistoryQuery) (now : Datetime) (range : Range) (metrics : List Metric)
    (bucket : Option Bucket) (h : Accepted host db deviceId query range metrics)
    (hbucket : Bucket.ofToken query.bucket = some bucket) :
    history host db deviceId query now = .ok (aggregated host db deviceId range metrics query.limit
      now (resolveBucket range bucket)) := by
  have hrange := h.range
  rw [rangeToken] at hrange
  unfold history
  simp only [h.unbounded, Bool.false_eq_true, if_false, hrange, hbucket, h.text, Bool.not_true,
    h.device, not_true_eq_false, getDeviceHistoryAggregated, h.metrics]
  rfl

theorem accepted_of_history (host : Host φ) (db : TelemetryDb φ) (deviceId : String)
    (query : HistoryQuery) (now : Datetime) (response : HistoryResponse φ) (fine : Bucket)
    (hresponse : history host db deviceId query now = .ok response)
    (hbucket : response.bucket = some fine) :
    ∃ range metrics, Accepted host db deviceId query range metrics ∧
      response = aggregated host db deviceId range metrics query.limit now fine := by
  cases hbounds : (query.start.isSome || query.stop.isSome) with
  | true =>
      -- The legacy mode names no bucket.
      unfold history at hresponse
      rw [hbounds, if_pos rfl] at hresponse
      split at hresponse
      · simp only [reduceCtorEq] at hresponse
      · split at hresponse
        · simp only [reduceCtorEq] at hresponse
        · rw [Reply.ok.injEq] at hresponse
          rw [← hresponse] at hbucket
          simp only [getDeviceHistory, reduceCtorEq] at hbucket
  | false =>
      have hwhole := hresponse
      unfold history at hresponse
      rw [hbounds, if_neg Bool.false_ne_true] at hresponse
      dsimp only at hresponse
      split at hresponse
      · simp only [reduceCtorEq] at hresponse
      · simp only [reduceCtorEq] at hresponse
      · next range bucket hrange hofToken =>
          cases htext : pgText deviceId with
          | false => simp only [htext, Bool.not_false, if_true, reduceCtorEq] at hresponse
          | true =>
              by_cases hdevice : deviceId ∈ db.devices
              · cases hmetrics : parseMetrics host.repr query.metric with
                | error text =>
                    simp only [htext, Bool.not_true, Bool.false_eq_true, if_false, hdevice,
                      not_true_eq_false, getDeviceHistoryAggregated, hmetrics, reduceCtorEq]
                      at hresponse
                | ok metrics =>
                    have h : Accepted host db deviceId query range metrics :=
                      ⟨hbounds, hrange, htext, hdevice, hmetrics⟩
                    rw [history_accepted host db deviceId query now range metrics bucket h hofToken,
                      Reply.ok.injEq] at hwhole
                    rw [← hwhole] at hbucket
                    rw [aggregated, Option.some.injEq] at hbucket
                    exact ⟨range, metrics, h, hbucket ▸ hwhole.symm⟩
              · simp only [htext, Bool.not_true, Bool.false_eq_true, if_false, hdevice,
                  not_false_eq_true, if_true, reduceCtorEq] at hresponse

/-- The window of the response has no more groups than it may have samples. -/
def Uncut (host : Host φ) (db : TelemetryDb φ) (deviceId : String) (limit : Nat)
    (response : HistoryResponse φ) : Prop :=
  ∀ bucket ∈ response.bucket, ∀ start ∈ response.rangeStart, ∀ stop ∈ response.rangeEnd,
    (GroupBy.groupBy (fun row : TelemetryRaw φ => dateTrunc host.zone bucket row.ts)
      (window db deviceId start stop)).length ≤ limit

theorem historySamples_bucket (host : Host φ) (db : TelemetryDb φ) (deviceId : String)
    (bucket : Bucket) (hbucket : bucket ≠ .s5) (metrics : List Metric) (start stop : Datetime)
    (limit : Nat) : historySamples host db deviceId bucket metrics start stop limit =
      (bucketSamples host metrics bucket (window db deviceId start stop)).take limit := by
  rw [historySamples, if_neg hbucket, aggregateRows, List.map_take]
  rfl

/-- A client sees that a response was not cut if it is not full. -/
theorem uncut_of_count (host : Host φ) (db : TelemetryDb φ) (deviceId : String)
    (query : HistoryQuery) (now : Datetime) (response : HistoryResponse φ) (fine : Bucket)
    (hresponse : history host db deviceId query now = .ok response)
    (hbucket : response.bucket = some fine) (hfine : fine ≠ .s5)
    (hcount : response.count < query.limit) : Uncut host db deviceId query.limit response := by
  rcases accepted_of_history host db deviceId query now response fine hresponse hbucket
    with ⟨range, metrics, _, rfl⟩
  simp only [aggregated, historySamples_bucket host db deviceId fine hfine, List.length_take,
    bucketSamples, List.length_map] at hcount
  simp only [Uncut, aggregated, Option.mem_def, Option.some.injEq, forall_eq']
  omega

/-- Where the samples of a fine bucket were not cut, those of a coarser one have
    the instants, the extremes and the counts that these add up to. -/
theorem zoom_out [LinearOrder φ] (host : Host φ) (hmin : Picks (fun x y => x ≤ y) host.min)
    (hmax : Picks (fun x y => y ≤ x) host.max) (db : TelemetryDb φ) (deviceId : String)
    (query : HistoryQuery) (now : Datetime)
    (response : HistoryResponse φ) (fine coarse : Bucket)
    (hresponse : history host db deviceId query now = .ok response)
    (hbucket : response.bucket = some fine) (hfine : fine ≠ .s5) (hcoarse : coarse ≠ .s5)
    (hwidth : fine.width ∣ coarse.width) (hcut : Uncut host db deviceId query.limit response) :
    ∃ response', history host db deviceId { query with bucket := coarse.token } now =
        .ok response' ∧ response'.bucket = some coarse ∧
      response'.samples.map extent = rollup host coarse response.samples := by
  rcases accepted_of_history host db deviceId query now response fine hresponse hbucket
    with ⟨range, metrics, h, rfl⟩
  have h' : Accepted host db deviceId { query with bucket := coarse.token } range metrics :=
    ⟨h.unbounded, h.range, h.text, h.device, h.metrics⟩
  refine ⟨_, history_accepted host db deviceId { query with bucket := coarse.token } now range
    metrics (some coarse) h' (ofToken_token coarse), rfl, ?_⟩
  have hroll := rollup_bucketSamples host metrics _ _ hmin hmax
    ⟨fun _ _ _ => le_trans, fun _ _ => le_antisymm⟩
    ⟨fun _ _ _ hxy hyz => le_trans hyz hxy, fun _ _ hxy hyx => le_antisymm hyx hxy⟩ fine coarse
    hwidth (window db deviceId (now - range.timedelta) now)
  have huncut : (bucketSamples host metrics fine
      (window db deviceId (now - range.timedelta) now)).length ≤ query.limit := by
    rw [bucketSamples, List.length_map]
    exact hcut fine rfl _ rfl _ rfl
  -- The fine samples were not cut, and the coarse ones are fewer.
  have hlength := length_rollup_le host coarse (bucketSamples host metrics fine
    (window db deviceId (now - range.timedelta) now))
  rw [hroll, List.length_map] at hlength
  simp only [aggregated, resolveBucket, Option.getD_some,
    historySamples_bucket host db deviceId coarse hcoarse,
    historySamples_bucket host db deviceId fine hfine]
  rw [List.take_of_length_le (Nat.le_trans hlength huncut), List.take_of_length_le huncut, hroll]

/-- Extremes of integers. -/
def intHost : Host Int where
  avg := fun _ => 0
  min := fun xs => xs.min?.getD 0
  max := fun xs => xs.max?.getD 0
  zone := 0
  repr := id

theorem picks_min : Picks (fun x y : Int => x ≤ y) intHost.min := by
  intro xs hne
  cases hmin : xs.min? with
  | none => exact absurd (List.min?_eq_none_iff.mp hmin) hne
  | some x =>
      simp only [intHost, hmin, Option.getD_some]
      exact List.min?_eq_some_iff.mp hmin

theorem picks_max : Picks (fun x y : Int => y ≤ x) intHost.max := by
  intro xs hne
  cases hmax : xs.max? with
  | none => exact absurd (List.max?_eq_none_iff.mp hmax) hne
  | some x =>
      simp only [intHost, hmax, Option.getD_some]
      exact List.max?_eq_some_iff.mp hmax

/-- Three samples in two hours. -/
def hours : TelemetryDb Int where
  devices := ["vena-9c9c1f"]
  rows := [⟨"vena-9c9c1f", 0, fun _ => some 5⟩,
    ⟨"vena-9c9c1f", Datetime.minutes 30, fun _ => some 2⟩,
    ⟨"vena-9c9c1f", Datetime.minutes 90, fun _ => none⟩]
  key := by decide
  deviceFk := by
    intro row hrow
    simp only [List.mem_cons, List.not_mem_nil, or_false] at hrow
    rcases hrow with rfl | rfl | rfl
    · exact List.mem_cons_self
    · exact List.mem_cons_self
    · exact List.mem_cons_self
  deviceText := by
    intro device hdevice
    rw [List.mem_singleton.mp hdevice]
    decide

def minutely : HistoryQuery :=
  { range := some "24h", bucket := "1m", limit := 120 }

theorem zoom_out_hours :
    ∃ response response', history intHost hours "vena-9c9c1f" minutely (Datetime.minutes 120) =
        .ok response ∧
      history intHost hours "vena-9c9c1f" { minutely with bucket := "1h" } (Datetime.minutes 120) =
        .ok response' ∧
      response'.samples.map extent = rollup intHost .h1 response.samples := by
  have haccepted : Accepted intHost hours "vena-9c9c1f" minutely .h24 Metric.all :=
    ⟨rfl, rfl, by decide, List.mem_cons_self, rfl⟩
  have hresponse := history_accepted intHost hours "vena-9c9c1f" minutely
    (Datetime.minutes 120) .h24 Metric.all (some .m1) haccepted rfl
  rcases zoom_out intHost picks_min picks_max hours "vena-9c9c1f" minutely
    (Datetime.minutes 120) _ .m1 .h1 hresponse rfl (by decide) (by decide) ⟨60, by decide⟩
    (uncut_of_count intHost hours "vena-9c9c1f" minutely _ _ .m1 hresponse rfl (by decide)
      (by decide +kernel))
    with ⟨response', hcoarse, _, hroll⟩
  exact ⟨_, response', hresponse, hcoarse, hroll⟩

end ZoomOut

end Backend

end Vena
