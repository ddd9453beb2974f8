import Vena.Backend.Models
import Vena.Core.GroupBy
import Vena.Python.Str

/-!
# The History Endpoint

`GET /devices/{device_id}/history` over the table `telemetry_raw`: the legacy
mode with explicit bounds, which returns raw rows, newest first, and the mode
with a range, which returns raw rows for the finest bucket and averages over
minutes, hours or days for the others, oldest first. Both cut the result at
`limit` rows.

The type of a measured value is a parameter, together with what PostgreSQL's
aggregate functions make of the values of a group.

## Main definitions

* `Metric`, `Range`, `Bucket`: The tokens of the query.
* `TelemetryRaw`, `TelemetryDb`: The table.
* `Host`: The aggregates, the session's time zone and `repr`.
* `parseMetrics`, `resolveBucket`, `dateTrunc`, `aggregateRows`: The helpers of
  `aggregation.py`.
* `getDeviceHistory`, `getDeviceHistoryAggregated`, `history`: The endpoint.
-/

namespace Vena

namespace Backend

open Python

/-- The columns of `ALL_METRICS`. -/
inductive Metric where
  | ambientT
  | ambientH
  | dissT
  | dissH
  | setpoint
  | pidOut
  deriving DecidableEq, Repr

namespace Metric

def all : List Metric := [.ambientT, .ambientH, .dissT, .dissH, .setpoint, .pidOut]

def token : Metric → String
  | .ambientT => "ambient_t"
  | .ambientH => "ambient_h"
  | .dissT => "diss_t"
  | .dissH => "diss_h"
  | .setpoint => "setpoint"
  | .pidOut => "pid_out"

def ofToken (s : String) : Option Metric :=
  all.find? (fun m => m.token = s)

/-- `has_min_max`. -/
def hasMinMax : Metric → Bool
  | .ambientT | .ambientH | .dissT | .dissH => true
  | .setpoint | .pidOut => false

end Metric

/-- The keys of `RANGE_TO_TIMEDELTA`. -/
inductive Range where
  | h1
  | h6
  | h24
  | d7
  | d30
  | d90
  | y1
  deriving DecidableEq, Repr

namespace Range

def all : List Range := [.h1, .h6, .h24, .d7, .d30, .d90, .y1]

def token : Range → String
  | .h1 => "1h"
  | .h6 => "6h"
  | .h24 => "24h"
  | .d7 => "7d"
  | .d30 => "30d"
  | .d90 => "90d"
  | .y1 => "1y"

def ofToken (s : String) : Option Range :=
  all.find? (fun r => r.token = s)

/-- `parse_range`. -/
def timedelta : Range → Int
  | .h1 => Datetime.minutes 60
  | .h6 => Datetime.minutes 360
  | .h24 => Datetime.minutes 1440
  | .d7 => Datetime.days 7
  | .d30 => Datetime.days 30
  | .d90 => Datetime.days 90
  | .y1 => Datetime.days 365

end Range

/-- The concrete buckets: raw rows, or a field of `date_trunc`. -/
inductive Bucket where
  | s5
  | m1
  | h1
  | d1
  deriving DecidableEq, Repr

namespace Bucket

def all : List Bucket := [.s5, .m1, .h1, .d1]

def token : Bucket → String
  | .s5 => "5s"
  | .m1 => "1m"
  | .h1 => "1h"
  | .d1 => "1d"

/-- A token of `ALLOWED_BUCKETS`; `none` inside stands for `auto`. -/
def ofToken (s : String) : Option (Option Bucket) :=
  if s = "auto" then some none else (all.find? (fun b => b.token = s)).map some

/-- The width of the `date_trunc` field in microseconds. -/
def width : Bucket → Int
  | .s5 => 1
  | .m1 => Datetime.minutes 1
  | .h1 => Datetime.minutes 60
  | .d1 => Datetime.days 1

end Bucket

/-- `choose_bucket`. -/
def chooseBucket : Range → Bucket
  | .h1 | .h6 => .s5
  | .h24 => .m1
  | .d7 | .d30 => .h1
  | .d90 | .y1 => .d1

/-- `resolve_bucket`. -/
def resolveBucket (range : Range) (bucket : Option Bucket) : Bucket :=
  bucket.getD (chooseBucket range)

structure TelemetryRaw (φ : Type) where
  deviceId : String
  ts : Datetime
  value : Metric → Option φ

def TelemetryRaw.key {φ : Type} (row : TelemetryRaw φ) : String × Datetime :=
  (row.deviceId, row.ts)

/-- The devices and their samples, with the primary key and the foreign key of
    `telemetry_raw`. Texts of the database have no U+0000. -/
structure TelemetryDb (φ : Type) where
  devices : List String
  rows : List (TelemetryRaw φ)
  key : (rows.map TelemetryRaw.key).Nodup
  deviceFk : ∀ row ∈ rows, row.deviceId ∈ devices
  deviceText : ∀ device ∈ devices, pgText device = true

/-- What the database and the interpreter contribute: the aggregates of the
    values of a group, the offset of the session's time zone from UTC in
    microseconds, and `repr` of a string. -/
structure Host (φ : Type) where
  avg : List φ → φ
  min : List φ → φ
  max : List φ → φ
  zone : Int
  repr : String → String

structure TelemetrySample (φ : Type) where
  ts : Datetime
  value : Metric → Option φ
  min : Metric → Option φ := fun _ => none
  max : Metric → Option φ := fun _ => none
  sampleCount : Option Nat := none

structure HistoryResponse (φ : Type) where
  deviceId : String
  count : Nat
  samples : List (TelemetrySample φ)
  bucket : Option Bucket := none
  rangeStart : Option Datetime := none
  rangeEnd : Option Datetime := none

/-- The parameters of the request, within the bounds FastAPI checks. -/
structure HistoryQuery where
  start : Option Datetime := none
  stop : Option Datetime := none
  range : Option String := none
  bucket : String := "auto"
  metric : String := "all"
  limit : Nat := 500
  offset : Nat := 0
  limit_range : 1 ≤ limit ∧ limit ≤ 5000 := by decide

/-- `str` of a list of strings. -/
def reprList (repr : String → String) (items : List String) : String :=
  "[" ++ ", ".intercalate (items.map repr) ++ "]"

/-- `parse_metrics`; the error is the text of the `ValueError`. -/
def parseMetrics (repr : String → String) (metric : String) : Except String (List Metric) :=
  if metric = "all" then .ok Metric.all
  else
    let requested := ((split ',' metric).map stripSpace).filter (fun m => m ≠ "")
    let unknown := requested.filter (fun m => (Metric.ofToken m).isNone)
    if requested = [] then .error "metric must not be empty"
    else if unknown ≠ [] then .error ("unknown metric(s): " ++ reprList repr unknown)
    else .ok (requested.filterMap Metric.ofToken)

/-- `date_trunc` of an instant, in the time zone of the session. -/
def dateTrunc (zone : Int) (bucket : Bucket) (ts : Datetime) : Datetime :=
  ts - (ts + zone) % bucket.width

section Query

variable {φ : Type}

/-- The rows of a device in a half-open window. -/
def window (db : TelemetryDb φ) (deviceId : String) (start stop : Datetime) :
    List (TelemetryRaw φ) :=
  db.rows.filter (fun row => row.deviceId = deviceId && start ≤ row.ts && row.ts < stop)

def rawSample (row : TelemetryRaw φ) : TelemetrySample φ where
  ts := row.ts
  value := row.value

/-- An aggregate over the values that are not NULL; NULL if there are none. -/
def aggregate (f : List φ → φ) (values : List (Option φ)) : Option φ :=
  match values.filterMap id with
  | [] => none
  | v :: vs => some (f (v :: vs))

/-- One row of the aggregated query, as the sample made from it. -/
def groupSample (host : Host φ) (metrics : List Metric) (group : Datetime × List (TelemetryRaw φ)) :
    TelemetrySample φ where
  ts := group.1
  value := fun m =>
    if m ∈ metrics then aggregate host.avg (group.2.map (fun row => row.value m)) else none
  min := fun m =>
    if m ∈ metrics ∧ m.hasMinMax then aggregate host.min (group.2.map (fun row => row.value m))
    else none
  max := fun m =>
    if m ∈ metrics ∧ m.hasMinMax then aggregate host.max (group.2.map (fun row => row.value m))
    else none
  sampleCount := some group.2.length

/-- The query of `build_aggregate_sql`, with its limit. -/
def aggregateRows (host : Host φ) (db : TelemetryDb φ) (deviceId : String) (bucket : Bucket)
    (metrics : List Metric) (start stop : Datetime) (limit : Nat) : List (TelemetrySample φ) :=
  ((GroupBy.groupBy (fun row : TelemetryRaw φ => dateTrunc host.zone bucket row.ts)
    (window db deviceId start stop)).take limit).map (groupSample host metrics)

/-- `get_device_history`. -/
def getDeviceHistory (db : TelemetryDb φ) (deviceId : String) (start stop : Option Datetime)
    (limit offset : Nat) (now : Datetime) : HistoryResponse φ :=
  let resolvedEnd := stop.getD now
  let resolvedStart := start.getD (now - Datetime.minutes 1440)
  let rows := db.rows.filter (fun row =>
    -- This window is closed, the one of the aggregated path half open.
    row.deviceId = deviceId && resolvedStart ≤ row.ts && row.ts ≤ resolvedEnd)
  let samples := (((rows.insertionSort (fun a b => b.ts ≤ a.ts)).drop offset).take limit).map
    rawSample
  { deviceId := deviceId
    count := samples.length
    samples := samples }

/-- The samples of `get_device_history_aggregated`. -/
def historySamples (host : Host φ) (db : TelemetryDb φ) (deviceId : String) (bucket : Bucket)
    (metrics : List Metric) (start stop : Datetime) (limit : Nat) : List (TelemetrySample φ) :=
  if bucket = .s5 then
    (((window db deviceId start stop).insertionSort (fun a b => a.ts ≤ b.ts)).take limit).map
      rawSample
  else aggregateRows host db deviceId bucket metrics start stop limit

/-- `get_device_history_aggregated`, for a device that exists. -/
def getDeviceHistoryAggregated (host : Host φ) (db : TelemetryDb φ) (deviceId : String)
    (range : Range) (bucket : Option Bucket) (metric : String) (limit : Nat) (now : Datetime) :
    Except String (HistoryResponse φ) :=
  match parseMetrics host.repr metric with
  | .error text => .error text
  | .ok metrics =>
    let resolved := resolveBucket range bucket
    let start := now - range.timedelta
    let samples := historySamples host db deviceId resolved metrics start now limit
    .ok
      { deviceId := deviceId
        count := samples.length
        samples := samples
        bucket := some resolved
        rangeStart := some start
        rangeEnd := some now }

def rangeLiterals : String := "['1h', '1y', '24h', '30d', '6h', '7d', '90d']"

def bucketLiterals : String := "['auto', '5s', '1m', '1h', '1d']"

/-- `history`. -/
def history (host : Host φ) (db : TelemetryDb φ) (deviceId : String) (query : HistoryQuery)
    (now : Datetime) : Reply (HistoryResponse φ) :=
  if query.start.isSome || query.stop.isSome then
    if !pgText deviceId then .crash
    else if deviceId ∉ db.devices then .error 404 ("Device '" ++ deviceId ++ "' not found")
    else .ok (getDeviceHistory db deviceId query.start query.stop query.limit query.offset now)
  else
    -- The aggregated path, for all requests without explicit bounds.
    let token := if query.range.getD "" = "" then "24h" else query.range.getD ""
    match Range.ofToken token, Bucket.ofToken query.bucket with
    | none, _ => .error 422 ("Invalid range '" ++ token ++ "'. Allowed: " ++ rangeLiterals)
    | _, none =>
      .error 422 ("Invalid bucket '" ++ query.bucket ++ "'. Allowed: " ++ bucketLiterals)
    | some range, some bucket =>
      if !pgText deviceId then .crash
      else if deviceId ∉ db.devices then .error 404 ("Device '" ++ deviceId ++ "' not found")
      else match getDeviceHistoryAggregated host db deviceId range bucket query.metric query.limit
          now with
        | .ok response => .ok response
        | .error text => .error 422 text

end Query

end Backend

end Vena
