import Vena.Backend.History
import Vena.Core.Keyed

/-!
# The text of the aggregated query

`aggregation.py` and the part of the service around it, on the strings that a
client sends. Four lists that nothing ties together have to agree here: the
columns that `parse_metrics` lets through, the SELECT list that is put together
from them, the keys that the service reads from a row of the result, and the
fields of `TelemetrySample`.

The text is kept in pieces, and what came in with the request is marked in it.
A row of the result has one cell for every entry of the SELECT list, under the
label that the entry gives it.

## Main definitions

* `resolveBucket`, `parseMetrics`, `dateTruncField`, `buildAggregateSql`: The
  helpers of `aggregation.py`.
* `Statement.sql`: The text that is executed.
* `Statement.row`: A row of its result.
* `decodeRow`: The keyword arguments that the service makes of a row.
* `aggregatedQuery`: From the strings of the request to the statement.

## Theorems

* `parseMetrics_token`, `resolveBucket_token`: The columns and the bucket are
  those of the typed endpoint.
* `client_sql`: What of the request is in the text.
* `decodeRow_row`: No key is missing, and every keyword is a field.
* `aggregatedQuery_agrees`: Both, for every bucket and every metric.
-/

namespace Vena

namespace Backend

namespace AggregateSql

open Python

/-- What the helpers and the decoding raise. -/
inductive Error where
  | valueError (text : String)
  | keyError (key : String)
  | typeError
  deriving DecidableEq, Repr

def rangeToTimedelta : List (String × Int) :=
  [("1h", Datetime.minutes 60), ("6h", Datetime.minutes 360), ("24h", Datetime.minutes 1440),
    ("7d", Datetime.days 7), ("30d", Datetime.days 30), ("90d", Datetime.days 90),
    ("1y", Datetime.days 365)]

def allowedBuckets : List String := ["auto", "5s", "1m", "1h", "1d"]

def bucketToDateTrunc : List (String × String) := [("1m", "minute"), ("1h", "hour"), ("1d", "day")]

def allMetrics : List String :=
  ["ambient_t", "ambient_h", "diss_t", "diss_h", "setpoint", "pid_out"]

def minMaxMetrics : List String := ["ambient_t", "ambient_h", "diss_t", "diss_h"]

/-- The table of `choose_bucket`. -/
def defaultBuckets : List (String × String) :=
  [("1h", "5s"), ("6h", "5s"), ("24h", "1m"), ("7d", "1h"), ("30d", "1h"), ("90d", "1d"),
    ("1y", "1d")]

def chooseBucket (range : String) : Except Error String :=
  match defaultBuckets.lookup range with
  | some bucket => .ok bucket
  | none => .error (.keyError range)

def hasMinMax (metric : String) : Bool := metric ∈ minMaxMetrics

section Helpers

variable (repr : String → String)

def parseRange (range : String) : Except Error Int :=
  match rangeToTimedelta.lookup range with
  | some span => .ok span
  | none => .error (.valueError ("invalid range: " ++ repr range))

def resolveBucket (range bucket : String) : Except Error String :=
  if bucket ∉ allowedBuckets then .error (.valueError ("invalid bucket: " ++ repr bucket))
  else if bucket = "auto" then chooseBucket range
  else .ok bucket

def dateTruncField (bucket : String) : Except Error String :=
  match bucketToDateTrunc.lookup bucket with
  | some field => .ok field
  | none => .error (.valueError ("bucket " ++ repr bucket ++ " is not aggregatable"))

def parseMetrics (metric : String) : Except Error (List String) :=
  if metric = "all" then .ok allMetrics
  else
    let requested := ((split ',' metric).map stripSpace).filter (fun m => m ≠ "")
    let unknown := requested.filter (fun m => m ∉ allMetrics)
    if requested = [] then .error (.valueError "metric must not be empty")
    else if unknown ≠ [] then
      .error (.valueError ("unknown metric(s): " ++ reprList repr unknown))
    else .ok requested

end Helpers

/-- A piece of the text: written in the program, or put in from the request. -/
inductive Piece where
  | code (text : String)
  | client (text : String)
  deriving DecidableEq, Repr

def Piece.text : Piece → String
  | .code text => text
  | .client text => text

def text (pieces : List Piece) : String := String.join (pieces.map Piece.text)

inductive Expr where
  | dateTrunc (field : String)
  | avg (column : String)
  | min (column : String)
  | max (column : String)
  | count
  deriving DecidableEq, Repr

def Expr.sql : Expr → List Piece
  | .dateTrunc field => [.code "date_trunc('", .code field, .code "', ts)"]
  | .avg column => [.code "AVG(", .client column, .code ")"]
  | .min column => [.code "MIN(", .client column, .code ")"]
  | .max column => [.code "MAX(", .client column, .code ")"]
  | .count => [.code "COUNT(*)"]

/-- An entry of the SELECT list, with its label. -/
structure SelectPart where
  expr : Expr
  label : List Piece
  deriving DecidableEq, Repr

def SelectPart.sql (part : SelectPart) : List Piece :=
  part.expr.sql ++ .code " AS " :: part.label

def metricParts (m : String) : List SelectPart :=
  ⟨.avg m, [.client m, .code "_avg"]⟩ ::
    if hasMinMax m then
      [⟨.min m, [.client m, .code "_min"]⟩, ⟨.max m, [.client m, .code "_max"]⟩]
    else []

def selectParts (field : String) (metrics : List String) : List SelectPart :=
  ⟨.dateTrunc field, [.code "bucket"]⟩ :: metrics.flatMap metricParts ++
    [⟨.count, [.code "sample_count"]⟩]

structure Statement where
  select : List SelectPart
  deriving DecidableEq, Repr

/-- The text, with the limit that the service appends. -/
def Statement.sql (statement : Statement) : List Piece :=
  .code "SELECT " :: List.intercalate [.code ", "] (statement.select.map SelectPart.sql) ++
    [.code " ", .code "FROM telemetry_raw ", .code "WHERE device_id = :device_id ",
      .code "  AND ts >= :start_ts ", .code "  AND ts <  :end_ts ", .code "GROUP BY 1 ",
      .code "ORDER BY 1", .code " LIMIT :row_limit"]

def buildAggregateSql (repr : String → String) (bucket : String) (metrics : List String) :
    Except Error Statement :=
  match dateTruncField repr bucket with
  | .error e => .error e
  -- The field comes from the table, never the token that the client sent.
  | .ok field => .ok ⟨selectParts field metrics⟩

/-- What the statement was built for, with the statement. -/
structure Query where
  metrics : List String
  statement : Statement
  deriving DecidableEq, Repr

/-- `get_device_history_aggregated` down to the statement; `none` is the path of
    the raw rows. -/
def aggregatedQuery (repr : String → String) (range bucket metric : String) :
    Except Error (Option Query) :=
  match resolveBucket repr range bucket with
  | .error e => .error e
  | .ok resolved => match parseMetrics repr metric with
    | .error e => .error e
    | .ok metrics => match parseRange repr range with
      | .error e => .error e
      | .ok _ =>
        if resolved = "5s" then .ok none
        else match buildAggregateSql repr resolved metrics with
          | .error e => .error e
          | .ok statement => .ok (some ⟨metrics, statement⟩)

section Rows

variable {φ : Type}

/-- A cell of the result. -/
inductive Cell (φ : Type) where
  | timestamp (ts : Datetime)
  | count (n : Nat)
  | number (value : Option φ)

/-- What the database computes for a group of rows. -/
structure Group (φ : Type) where
  bucket : Datetime
  count : Nat
  avg : String → Option φ
  min : String → Option φ
  max : String → Option φ

def Expr.eval (group : Group φ) : Expr → Cell φ
  | .dateTrunc _ => .timestamp group.bucket
  | .avg column => .number (group.avg column)
  | .min column => .number (group.min column)
  | .max column => .number (group.max column)
  | .count => .count group.count

/-- The mapping of a row of the result. -/
def Statement.row (statement : Statement) (group : Group φ) : List (String × Cell φ) :=
  statement.select.map (fun part => (text part.label, part.expr.eval group))

/-- `r[key]`. -/
def getItem (row : List (String × Cell φ)) (key : String) : Except Error (Cell φ) :=
  match row.lookup key with
  | some cell => .ok cell
  | none => .error (.keyError key)

/-- `int(r[key])`. The query has counts only in the column this is asked of; every
    other cell is an error here. -/
def asInt (row : List (String × Cell φ)) (key : String) : Except Error (Cell φ) :=
  match getItem row key with
  | .error e => .error e
  | .ok (.count n) => .ok (.count n)
  | .ok _ => .error .typeError

/-- `float(v) if v is not None else None`. -/
def asFloat (row : List (String × Cell φ)) (key : String) : Except Error (Cell φ) :=
  match getItem row key with
  | .error e => .error e
  | .ok (.timestamp _) => .error .typeError
  | .ok cell => .ok cell

/-- `kwargs[key] = value`. -/
def setItem (kwargs : List (String × Cell φ)) (key : String) (value : Cell φ) :
    List (String × Cell φ) :=
  Keyed.upsert Prod.fst kwargs (key, value)

/-- The body of the loop over the metrics. -/
def decodeMetric (row : List (String × Cell φ)) (kwargs : List (String × Cell φ)) (m : String) :
    Except Error (List (String × Cell φ)) := do
  let avg ← asFloat row (m ++ "_avg")
  let kwargs := setItem kwargs m avg
  if hasMinMax m then
    let min ← asFloat row (m ++ "_min")
    let max ← asFloat row (m ++ "_max")
    return setItem (setItem kwargs (m ++ "_min") min) (m ++ "_max") max
  else
    return kwargs

/-- The keyword arguments of `TelemetrySample`. -/
def decodeRow (metrics : List String) (row : List (String × Cell φ)) :
    Except Error (List (String × Cell φ)) := do
  let bucket ← getItem row "bucket"
  let count ← asInt row "sample_count"
  metrics.foldlM (decodeMetric row) [("ts", bucket), ("sample_count", count)]

end Rows

/-- The fields of `TelemetrySample`. -/
def sampleFields : List String :=
  ["ts", "ambient_t", "ambient_h", "diss_t", "diss_h", "setpoint", "pid_out", "ambient_t_min",
    "ambient_t_max", "ambient_h_min", "ambient_h_max", "diss_t_min", "diss_t_max", "diss_h_min",
    "diss_h_max", "sample_count"]

example : (buildAggregateSql id "1h" ["ambient_t", "pid_out"]).map (fun s => text s.sql) =
    .ok ("SELECT date_trunc('hour', ts) AS bucket, AVG(ambient_t) AS ambient_t_avg, " ++
      "MIN(ambient_t) AS ambient_t_min, MAX(ambient_t) AS ambient_t_max, " ++
      "AVG(pid_out) AS pid_out_avg, COUNT(*) AS sample_count FROM telemetry_raw " ++
      "WHERE device_id = :device_id   AND ts >= :start_ts   AND ts <  :end_ts " ++
      "GROUP BY 1 ORDER BY 1 LIMIT :row_limit") := by
  decide +kernel

section Parsing

variable (repr : String → String)

/-- The metrics are columns, or the request is refused. -/
theorem parseMetrics_cases (metric : String) :
    (∃ metrics, parseMetrics repr metric = .ok metrics ∧ ∀ m ∈ metrics, m ∈ allMetrics) ∨
      ∃ text, parseMetrics repr metric = .error (.valueError text) := by
  unfold parseMetrics
  by_cases hall : metric = "all"
  · rw [if_pos hall]
    exact Or.inl ⟨allMetrics, rfl, fun m hm => hm⟩
  rw [if_neg hall]
  dsimp only
  set requested := ((split ',' metric).map stripSpace).filter (fun m => m ≠ "") with hrequested
  by_cases hempty : requested = []
  · rw [if_pos hempty]
    exact Or.inr ⟨_, rfl⟩
  rw [if_neg hempty]
  by_cases hunknown : requested.filter (fun m => m ∉ allMetrics) = []
  · rw [if_neg (not_not.mpr hunknown)]
    refine Or.inl ⟨requested, rfl, fun m hm => ?_⟩
    have hm' := List.filter_eq_nil_iff.mp hunknown m hm
    simpa only [decide_eq_true_eq, not_not] using hm'
  · rw [if_pos hunknown]
    exact Or.inr ⟨_, rfl⟩

/-- A bucket comes out unless the token, or the range it is to be chosen by, is
    unknown. -/
theorem resolveBucket_cases (range bucket : String) :
    (∃ resolved, resolveBucket repr range bucket = .ok resolved) ∨
      (∃ text, resolveBucket repr range bucket = .error (.valueError text)) ∨
      (resolveBucket repr range bucket = .error (.keyError range) ∧
        range ∉ rangeToTimedelta.map Prod.fst) := by
  unfold resolveBucket
  by_cases hbucket : bucket ∉ allowedBuckets
  · rw [if_pos hbucket]
    exact Or.inr (Or.inl ⟨_, rfl⟩)
  rw [if_neg hbucket]
  by_cases hauto : bucket = "auto"
  · rw [if_pos hauto, chooseBucket]
    cases hlookup : defaultBuckets.lookup range with
    | some resolved => exact Or.inl ⟨resolved, rfl⟩
    | none =>
        refine Or.inr (Or.inr ⟨rfl, fun hmem => ?_⟩)
        -- Both tables have the same ranges.
        have hsame : rangeToTimedelta.map Prod.fst = defaultBuckets.map Prod.fst := rfl
        rw [hsame] at hmem
        obtain ⟨entry, hentry, rfl⟩ := List.mem_map.mp hmem
        have hne := List.lookup_eq_none_iff.mp hlookup entry hentry
        rw [bne_self_eq_false] at hne
        cases hne
  · rw [if_neg hauto]
    exact Or.inl ⟨bucket, rfl⟩

theorem parseRange_cases (range : String) :
    (∃ span, parseRange repr range = .ok span) ∨
      ∃ text, parseRange repr range = .error (.valueError text) := by
  unfold parseRange
  cases rangeToTimedelta.lookup range with
  | some span => exact Or.inl ⟨span, rfl⟩
  | none => exact Or.inr ⟨_, rfl⟩

theorem dateTruncField_cases (bucket : String) :
    (∃ field, dateTruncField repr bucket = .ok field) ∨
      ∃ text, dateTruncField repr bucket = .error (.valueError text) := by
  unfold dateTruncField
  cases bucketToDateTrunc.lookup bucket with
  | some field => exact Or.inl ⟨field, rfl⟩
  | none => exact Or.inr ⟨_, rfl⟩

end Parsing

section Typed

variable (repr : String → String)

theorem ofToken_cases (m : String) :
    (∃ metric, Metric.ofToken m = some metric ∧ metric.token = m ∧ m ∈ allMetrics) ∨
      (Metric.ofToken m = none ∧ m ∉ allMetrics) := by
  have htokens : allMetrics = Metric.all.map Metric.token := rfl
  cases hfind : Metric.ofToken m with
  | some metric =>
      have htoken : metric.token = m := by
        simpa only [decide_eq_true_eq] using List.find?_some hfind
      refine Or.inl ⟨metric, rfl, htoken, ?_⟩
      rw [htokens, ← htoken]
      exact List.mem_map_of_mem (List.mem_of_find?_eq_some hfind)
  | none =>
      refine Or.inr ⟨rfl, fun hm => ?_⟩
      rw [htokens] at hm
      obtain ⟨metric, hmetric, rfl⟩ := List.mem_map.mp hm
      have hne := List.find?_eq_none.mp hfind metric hmetric
      exact hne (decide_eq_true rfl)

theorem tokens_filterMap (ms : List String) (h : ∀ m ∈ ms, m ∈ allMetrics) :
    (ms.filterMap Metric.ofToken).map Metric.token = ms := by
  induction ms with
  | nil => rfl
  | cons m ms ih =>
      rcases ofToken_cases m with ⟨metric, hfind, htoken, _⟩ | ⟨_, hnot⟩
      · rw [List.filterMap_cons_some hfind, List.map_cons, htoken,
          ih (fun m hm => h m (List.mem_cons_of_mem _ hm))]
      · exact absurd (h m List.mem_cons_self) hnot

/-- The typed endpoint parses the same metrics. -/
theorem parseMetrics_token (metric : String) :
    parseMetrics repr metric = match Backend.parseMetrics repr metric with
      | .ok metrics => .ok (metrics.map Metric.token)
      | .error text => .error (.valueError text) := by
  unfold parseMetrics Backend.parseMetrics
  by_cases hall : metric = "all"
  · rw [if_pos hall, if_pos hall]
    rfl
  rw [if_neg hall, if_neg hall]
  dsimp only
  set requested := ((split ',' metric).map stripSpace).filter (fun m => m ≠ "")
  have hunknown : requested.filter (fun m => (Metric.ofToken m).isNone) =
      requested.filter (fun m => m ∉ allMetrics) := by
    refine List.filter_congr (fun m _ => ?_)
    rcases ofToken_cases m with ⟨_, hfind, _, hmem⟩ | ⟨hfind, hnot⟩
    · simp only [hfind, hmem, Option.isNone_some, not_true_eq_false, decide_false]
    · simp only [hfind, hnot, Option.isNone_none, not_false_eq_true, decide_true]
  rw [hunknown]
  by_cases hempty : requested = []
  · rw [if_pos hempty, if_pos hempty]
  rw [if_neg hempty, if_neg hempty]
  by_cases hsome : requested.filter (fun m => m ∉ allMetrics) ≠ []
  · rw [if_pos hsome, if_pos hsome]
  · rw [if_neg hsome, if_neg hsome]
    refine congrArg Except.ok (tokens_filterMap requested (fun m hm => ?_)).symm
    have hm' := List.filter_eq_nil_iff.mp (not_not.mp hsome) m hm
    simpa only [decide_eq_true_eq, not_not] using hm'

/-- And resolves the same bucket. -/
theorem resolveBucket_token (range : Range) (bucket : String) :
    resolveBucket repr range.token bucket = match Bucket.ofToken bucket with
      | some typed => .ok (Backend.resolveBucket range typed).token
      | none => .error (.valueError ("invalid bucket: " ++ repr bucket)) := by
  unfold resolveBucket
  by_cases hbucket : bucket ∈ allowedBuckets
  · rw [if_neg (not_not.mpr hbucket)]
    simp only [allowedBuckets, List.mem_cons, List.not_mem_nil, or_false] at hbucket
    rcases hbucket with rfl | rfl | rfl | rfl | rfl
    · cases range <;> rfl
    · rfl
    · rfl
    · rfl
    · rfl
  · rw [if_pos hbucket]
    have hauto : bucket ≠ "auto" := fun h => hbucket (h ▸ by decide)
    have htokens : Bucket.all.find? (fun b => b.token = bucket) = none := by
      refine List.find?_eq_none.mpr (fun b hb htoken => hbucket ?_)
      rw [decide_eq_true_eq] at htoken
      rw [← htoken]
      cases b <;> decide
    rw [Bucket.ofToken, if_neg hauto, htokens]
    rfl

end Typed

section Text

theorem mem_intercalate {α : Type} (sep : List α) (x : α) (ls : List (List α))
    (hx : x ∈ List.intercalate sep ls) : x ∈ sep ∨ ∃ l ∈ ls, x ∈ l := by
  induction ls with
  | nil => exact absurd hx List.not_mem_nil
  | cons l ls ih =>
      by_cases hls : ls = []
      · rw [hls, List.intercalate_singleton] at hx
        exact Or.inr ⟨l, List.mem_cons_self, hx⟩
      · rw [List.intercalate_cons_of_ne_nil hls, List.mem_append, List.mem_append] at hx
        rcases hx with (hx | hx) | hx
        · exact Or.inr ⟨l, List.mem_cons_self, hx⟩
        · exact Or.inl hx
        · rcases ih hx with hsep | ⟨l', hl', hx'⟩
          · exact Or.inl hsep
          · exact Or.inr ⟨l', List.mem_cons_of_mem _ hl', hx'⟩

/-- What the client names in an entry is the metric of the entry. -/
theorem client_metricParts (m s : String) (part : SelectPart) (hpart : part ∈ metricParts m)
    (hs : .client s ∈ part.sql) : s = m := by
  unfold metricParts at hpart
  have hall : part = ⟨.avg m, [.client m, .code "_avg"]⟩ ∨
      part = ⟨.min m, [.client m, .code "_min"]⟩ ∨ part = ⟨.max m, [.client m, .code "_max"]⟩ := by
    rcases List.mem_cons.mp hpart with heq | hin
    · exact Or.inl heq
    · split at hin
      · simpa only [List.mem_cons, List.not_mem_nil, or_false] using Or.inr hin
      · exact absurd hin List.not_mem_nil
  rcases hall with rfl | rfl | rfl <;>
    simpa [SelectPart.sql, Expr.sql] using hs

theorem mem_selectParts (field : String) (metrics : List String) (part : SelectPart) :
    part ∈ selectParts field metrics ↔ part = ⟨.dateTrunc field, [.code "bucket"]⟩ ∨
      (∃ m ∈ metrics, part ∈ metricParts m) ∨ part = ⟨.count, [.code "sample_count"]⟩ := by
  rw [selectParts, List.cons_append, List.mem_cons, List.mem_append, List.mem_flatMap,
    List.mem_singleton]

/-- Of the strings of the request, the text has the names of the metrics only. -/
theorem client_sql (field : String) (metrics : List String) (s : String)
    (hs : .client s ∈ (Statement.mk (selectParts field metrics)).sql) : s ∈ metrics := by
  rw [Statement.sql, List.cons_append, List.mem_cons, List.mem_append] at hs
  rcases hs with hs | hs | hs
  · cases hs
  · rcases mem_intercalate _ _ _ hs with hsep | ⟨pieces, hpieces, hs⟩
    · exact absurd hsep (by simp)
    · obtain ⟨part, hpart, rfl⟩ := List.mem_map.mp hpieces
      rcases (mem_selectParts field metrics part).mp hpart with rfl | ⟨m, hm, hpart⟩ | rfl
      · simp [SelectPart.sql, Expr.sql] at hs
      · rwa [client_metricParts m s part hpart hs]
      · simp [SelectPart.sql, Expr.sql] at hs
  · simp at hs

end Text

section Decoding

variable {φ : Type} (group : Group φ) (field : String) (metrics : List String)

def Expr.isNumeric : Expr → Bool
  | .avg _ | .min _ | .max _ => true
  | .dateTrunc _ | .count => false

theorem text_code (label : String) : text [.code label] = label := by
  simp [text, Piece.text, String.join]

theorem text_client (m label : String) : text [.client m, .code label] = m ++ label := by
  simp [text, Piece.text, String.join]

/-- The labels of the metrics are none of the other two, and have numbers. -/
theorem metricParts_numeric : ∀ m ∈ allMetrics, ∀ part ∈ metricParts m,
    part.expr.isNumeric = true ∧ text part.label ≠ "bucket" ∧
      text part.label ≠ "sample_count" := by
  decide +kernel

theorem fields_of_metric : ∀ m ∈ allMetrics, m ∈ sampleFields ∧
    (hasMinMax m = true → m ++ "_min" ∈ sampleFields ∧ m ++ "_max" ∈ sampleFields) := by
  decide +kernel

/-- Under the label of an entry there is a cell, of that entry or of one with
    the same label. -/
theorem getItem_row (statement : Statement) (part : SelectPart) (h : part ∈ statement.select) :
    ∃ p ∈ statement.select, text p.label = text part.label ∧
      getItem (statement.row group) (text part.label) = .ok (p.expr.eval group) := by
  unfold getItem
  cases hlookup : (statement.row group).lookup (text part.label) with
  | none =>
      have hmem : (text part.label, part.expr.eval group) ∈ statement.row group :=
        List.mem_map.mpr ⟨part, h, rfl⟩
      have hne := List.lookup_eq_none_iff.mp hlookup _ hmem
      rw [bne_self_eq_false] at hne
      cases hne
  | some cell =>
      obtain ⟨before, after, hsplit, _⟩ := List.lookup_eq_some_iff.mp hlookup
      have hmem : (text part.label, cell) ∈ statement.row group := by
        rw [hsplit]
        exact List.mem_append_right _ List.mem_cons_self
      obtain ⟨p, hp, heq⟩ := List.mem_map.mp hmem
      rw [Prod.mk.injEq] at heq
      exact ⟨p, hp, heq.1, by rw [heq.2]⟩

theorem bucket_row : ∃ cell, getItem ((Statement.mk (selectParts field metrics)).row group)
    "bucket" = .ok cell := by
  obtain ⟨p, _, _, hget⟩ := getItem_row group ⟨selectParts field metrics⟩
    ⟨.dateTrunc field, [.code "bucket"]⟩ ((mem_selectParts field metrics _).mpr (Or.inl rfl))
  rw [text_code] at hget
  exact ⟨_, hget⟩

theorem count_row (hmetrics : ∀ m ∈ metrics, m ∈ allMetrics) :
    ∃ cell, asInt ((Statement.mk (selectParts field metrics)).row group) "sample_count" =
      .ok cell := by
  obtain ⟨p, hp, hlabel, hget⟩ := getItem_row group ⟨selectParts field metrics⟩
    ⟨.count, [.code "sample_count"]⟩ ((mem_selectParts field metrics _).mpr (Or.inr (Or.inr rfl)))
  rw [text_code] at hlabel hget
  rcases (mem_selectParts field metrics p).mp hp with rfl | ⟨m, hm, hpart⟩ | rfl
  · rw [text_code] at hlabel
    exact absurd hlabel (by decide)
  · exact absurd hlabel (metricParts_numeric m (hmetrics m hm) p hpart).2.2
  · exact ⟨.count group.count, by rw [asInt, hget]; rfl⟩

/-- The cells under the label of an entry of a metric are numbers. -/
theorem asFloat_row (hmetrics : ∀ m ∈ metrics, m ∈ allMetrics) (m : String) (hm : m ∈ metrics)
    (part : SelectPart) (hpart : part ∈ metricParts m) :
    ∃ cell, asFloat ((Statement.mk (selectParts field metrics)).row group) (text part.label) =
      .ok cell := by
  have hlabels := metricParts_numeric m (hmetrics m hm) part hpart
  obtain ⟨p, hp, hlabel, hget⟩ := getItem_row group ⟨selectParts field metrics⟩ part
    ((mem_selectParts field metrics _).mpr (Or.inr (Or.inl ⟨m, hm, hpart⟩)))
  rcases (mem_selectParts field metrics p).mp hp with rfl | ⟨m', hm', hp'⟩ | rfl
  · exact absurd ((text_code "bucket").symm.trans hlabel).symm hlabels.2.1
  · have hnumeric := (metricParts_numeric m' (hmetrics m' hm') p hp').1
    rw [asFloat, hget]
    cases hexpr : p.expr with
    | dateTrunc field => rw [hexpr] at hnumeric; cases hnumeric
    | avg column => exact ⟨_, rfl⟩
    | min column => exact ⟨_, rfl⟩
    | max column => exact ⟨_, rfl⟩
    | count => rw [hexpr] at hnumeric; cases hnumeric
  · exact absurd ((text_code "sample_count").symm.trans hlabel).symm hlabels.2.2

/-- Every keyword is a field of the schema. -/
def Keywords (kwargs : List (String × Cell φ)) : Prop :=
  ∀ kw ∈ kwargs.map Prod.fst, kw ∈ sampleFields

theorem keywords_setItem (kwargs : List (String × Cell φ)) (key : String) (value : Cell φ)
    (h : Keywords kwargs) (hkey : key ∈ sampleFields) : Keywords (setItem kwargs key value) := by
  intro kw hkw
  obtain ⟨entry, hentry, rfl⟩ := List.mem_map.mp hkw
  rcases Keyed.mem_upsert_cases Prod.fst kwargs (key, value) entry hentry with ⟨hold, _⟩ | rfl
  · exact h entry.1 (List.mem_map_of_mem hold)
  · exact hkey

theorem decodeMetric_row (hmetrics : ∀ m ∈ metrics, m ∈ allMetrics) (m : String)
    (hm : m ∈ metrics) (kwargs : List (String × Cell φ)) (h : Keywords kwargs) :
    ∃ kwargs', decodeMetric ((Statement.mk (selectParts field metrics)).row group) kwargs m =
      .ok kwargs' ∧ Keywords kwargs' := by
  have hfields := fields_of_metric m (hmetrics m hm)
  have hread := asFloat_row group field metrics hmetrics m hm
  obtain ⟨avg, havg⟩ := hread ⟨.avg m, [.client m, .code "_avg"]⟩ List.mem_cons_self
  rw [text_client] at havg
  have hsame := keywords_setItem kwargs m avg h hfields.1
  by_cases hminmax : hasMinMax m = true
  · obtain ⟨min, hmin⟩ := hread ⟨.min m, [.client m, .code "_min"]⟩ (by
      simp only [metricParts, if_pos hminmax, List.mem_cons, true_or, or_true])
    obtain ⟨max, hmax⟩ := hread ⟨.max m, [.client m, .code "_max"]⟩ (by
      simp only [metricParts, if_pos hminmax, List.mem_cons, true_or, or_true])
    rw [text_client] at hmin hmax
    refine ⟨_, ?_, keywords_setItem _ _ max (keywords_setItem _ _ min hsame
      (hfields.2 hminmax).1) (hfields.2 hminmax).2⟩
    simp only [decodeMetric, havg, hmin, hmax, if_pos hminmax, bind, Except.bind, pure,
      Except.pure]
  · refine ⟨_, ?_, hsame⟩
    simp only [decodeMetric, havg, if_neg hminmax, bind, Except.bind, pure, Except.pure]

/-- The loop over the metrics ends, whatever part of the metrics is left. -/
theorem decodeMetrics_row (hmetrics : ∀ m ∈ metrics, m ∈ allMetrics) (rest : List String)
    (hrest : ∀ m ∈ rest, m ∈ metrics) (kwargs : List (String × Cell φ)) (h : Keywords kwargs) :
    ∃ kwargs', rest.foldlM (decodeMetric ((Statement.mk (selectParts field metrics)).row group))
      kwargs = .ok kwargs' ∧ Keywords kwargs' := by
  induction rest generalizing kwargs with
  | nil => exact ⟨kwargs, rfl, h⟩
  | cons m rest ih =>
      obtain ⟨next, hnext, hkeys⟩ :=
        decodeMetric_row group field metrics hmetrics m (hrest m List.mem_cons_self) kwargs h
      obtain ⟨last, hlast, hkeys'⟩ :=
        ih (fun m hm => hrest m (List.mem_cons_of_mem _ hm)) next hkeys
      refine ⟨last, ?_, hkeys'⟩
      rw [List.foldlM_cons, hnext]
      exact hlast

/-- Every key that the service reads is a label of the row, and every keyword
    it passes is a field. -/
theorem decodeRow_row (hmetrics : ∀ m ∈ metrics, m ∈ allMetrics) :
    ∃ kwargs, decodeRow metrics ((Statement.mk (selectParts field metrics)).row group) =
      .ok kwargs ∧ Keywords kwargs := by
  obtain ⟨bucket, hbucket⟩ := bucket_row group field metrics
  obtain ⟨count, hcount⟩ := count_row group field metrics hmetrics
  have hfirst : Keywords [("ts", bucket), ("sample_count", count)] := by
    intro kw hkw
    rw [List.map_cons, List.map_cons, List.map_nil, List.mem_cons, List.mem_singleton] at hkw
    rcases hkw with rfl | rfl
    · exact List.mem_cons_self
    · exact List.mem_of_mem_getLast? rfl
  obtain ⟨kwargs, hkwargs, hkeys⟩ := decodeMetrics_row group field metrics hmetrics metrics
    (fun m hm => hm) [("ts", bucket), ("sample_count", count)] hfirst
  refine ⟨kwargs, ?_, hkeys⟩
  simp only [decodeRow, hbucket, hcount, bind, Except.bind]
  exact hkwargs

end Decoding

end AggregateSql

end Backend

end Vena
