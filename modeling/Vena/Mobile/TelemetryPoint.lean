import Vena.Core.Keyed
import Vena.Mobile.DartDateTime
import Vena.Mobile.JsonText

/-!
# A History Response and its Copy

What the app keeps of a history: the response of the backend, decoded, and
encoded again for the local cache. Encoder and decoder list the sixteen fields
of a sample by hand, most of them optional and left out when they are null.
`decode_encode` says that the copy is the response. Only the two ends of the
range come back as other objects, in UTC, of the same instants.

A number that is not finite has no text in JSON, and encoding it throws.

## Main definitions

* `TelemetryPoint`, `HistoryResponse`: With their `fromJson` and `toJson`.
* `HistoryResponse.encode`, `HistoryResponse.decode`: The text in the cache.
* `HistoryResponse.isFinite`: Every double is finite.

## Theorems

* `lookup_present`: A member that is not left out is found under its key.
* `fromJson_toJson`: A sample is read back.
* `decode_encode`: A response is read back.
* `cacheHit_same`: What a cache hit returns.
-/

namespace Vena

namespace Mobile

structure TelemetryPoint where
  ts : DartInt
  ambientT : Option Double
  ambientH : Option Double
  dissT : Option Double
  dissH : Option Double
  setpoint : Option Double
  pidOut : Option Double
  ambientTMin : Option Double
  ambientTMax : Option Double
  ambientHMin : Option Double
  ambientHMax : Option Double
  dissTMin : Option Double
  dissTMax : Option Double
  dissHMin : Option Double
  dissHMax : Option Double
  sampleCount : Option DartInt
  deriving DecidableEq

structure HistoryResponse where
  deviceId : DartString
  count : DartInt
  samples : List TelemetryPoint
  bucket : Option DartString
  rangeStart : Option DateTime
  rangeEnd : Option DateTime
  deriving DecidableEq

/-- `millisecondsSinceEpoch ~/ 1000`. -/
def DateTime.seconds (d : DateTime) : DartInt :=
  ⟨d.milliseconds.tdiv 1000, by
    have hle := Int.natAbs_tdiv_le_natAbs d.milliseconds 1000
    have hrange := d.inRange
    unfold DateTime.milliseconds at *
    unfold IsInt64
    omega⟩

/-- `_parseTs`. -/
def parseTs (ofLocal : Int → Int) : JsonValue → Option DartInt
  | .number literal => (readNumber literal).toInt
  | .string s => (DateTime.parse ofLocal s).map DateTime.seconds
  | _ => none

/-- `(value as num?)?.toInt()`. -/
def optionalInt (value : JsonValue) : Option (Option DartInt) :=
  match value.orNull JsonValue.asNum with
  | none => none
  | some none => some none
  | some (some n) => n.toInt.map some

/-- `TelemetryPoint.fromJson`. -/
def TelemetryPoint.fromJson (ofLocal : Int → Int) (json : List (DartString × JsonValue)) :
    Option TelemetryPoint := do
  let ts ← parseTs ofLocal (field json "ts")
  let ambientT ← optionalDouble (field json "ambient_t")
  let ambientH ← optionalDouble (field json "ambient_h")
  let dissT ← optionalDouble (field json "diss_t")
  let dissH ← optionalDouble (field json "diss_h")
  let setpoint ← optionalDouble (field json "setpoint")
  let pidOut ← optionalDouble (field json "pid_out")
  let ambientTMin ← optionalDouble (field json "ambient_t_min")
  let ambientTMax ← optionalDouble (field json "ambient_t_max")
  let ambientHMin ← optionalDouble (field json "ambient_h_min")
  let ambientHMax ← optionalDouble (field json "ambient_h_max")
  let dissTMin ← optionalDouble (field json "diss_t_min")
  let dissTMax ← optionalDouble (field json "diss_t_max")
  let dissHMin ← optionalDouble (field json "diss_h_min")
  let dissHMax ← optionalDouble (field json "diss_h_max")
  let sampleCount ← optionalInt (field json "sample_count")
  return ⟨ts, ambientT, ambientH, dissT, dissH, setpoint, pidOut, ambientTMin, ambientTMax,
    ambientHMin, ambientHMax, dissTMin, dissTMax, dissHMin, dissHMax, sampleCount⟩

/-- What `jsonEncode` writes for a double: its `toString`. -/
def Double.toJson : Double → JsonValue
  | .finite negative units h => .number (Double.toText negative units h)
  | .nan => .number (dartString "NaN")
  | .infinity negative => .number (withSign negative (dartString "Infinity"))

def DartInt.toJson (n : DartInt) : JsonValue := .number (intText n.1)

/-- The members of a map literal with `if (value != null) key: value`. -/
def present (entries : List (DartString × Option JsonValue)) : List (DartString × JsonValue) :=
  entries.filterMap (fun e => e.2.map (fun v => (e.1, v)))

/-- The entries of `toJson`, in the order of the source. -/
def TelemetryPoint.entries (p : TelemetryPoint) : List (DartString × Option JsonValue) :=
  [(dartString "ts", some p.ts.toJson),
    (dartString "ambient_t", p.ambientT.map Double.toJson),
    (dartString "ambient_h", p.ambientH.map Double.toJson),
    (dartString "diss_t", p.dissT.map Double.toJson),
    (dartString "diss_h", p.dissH.map Double.toJson),
    (dartString "setpoint", p.setpoint.map Double.toJson),
    (dartString "pid_out", p.pidOut.map Double.toJson),
    (dartString "ambient_t_min", p.ambientTMin.map Double.toJson),
    (dartString "ambient_t_max", p.ambientTMax.map Double.toJson),
    (dartString "ambient_h_min", p.ambientHMin.map Double.toJson),
    (dartString "ambient_h_max", p.ambientHMax.map Double.toJson),
    (dartString "diss_t_min", p.dissTMin.map Double.toJson),
    (dartString "diss_t_max", p.dissTMax.map Double.toJson),
    (dartString "diss_h_min", p.dissHMin.map Double.toJson),
    (dartString "diss_h_max", p.dissHMax.map Double.toJson),
    (dartString "sample_count", p.sampleCount.map DartInt.toJson)]

/-- `TelemetryPoint.toJson`. -/
def TelemetryPoint.toJson (p : TelemetryPoint) : List (DartString × JsonValue) := present p.entries

/-- The doubles of a sample. -/
def TelemetryPoint.doubles (p : TelemetryPoint) : List (Option Double) :=
  [p.ambientT, p.ambientH, p.dissT, p.dissH, p.setpoint, p.pidOut, p.ambientTMin, p.ambientTMax,
    p.ambientHMin, p.ambientHMax, p.dissTMin, p.dissTMax, p.dissHMin, p.dissHMax]

def TelemetryPoint.isFinite (p : TelemetryPoint) : Bool :=
  p.doubles.all (fun x => x.all Double.isFinite)

namespace HistoryResponse

/-- A date or null. -/
def optionalDate (ofLocal : Int → Int) (value : JsonValue) : Option (Option DateTime) :=
  value.orNull (fun v => v.asString.bind (DateTime.parse ofLocal))

/-- `HistoryResponse.fromJson`. -/
def fromJson (ofLocal : Int → Int) (json : List (DartString × JsonValue)) :
    Option HistoryResponse := do
  let deviceId ← (field json "device_id").asString
  let count ← (field json "count").asNum.bind Num.toInt
  let items ← (field json "samples").asList
  let samples ← items.mapM (fun e => e.asMap.bind (TelemetryPoint.fromJson ofLocal))
  let bucket ← (field json "bucket").orNull JsonValue.asString
  let rangeStart ← optionalDate ofLocal (field json "range_start")
  let rangeEnd ← optionalDate ofLocal (field json "range_end")
  return ⟨deviceId, count, samples, bucket, rangeStart, rangeEnd⟩

/-- The entries of the map the provider encodes. -/
def entries (r : HistoryResponse) : List (DartString × Option JsonValue) :=
  [(dartString "device_id", some (.string r.deviceId)),
    (dartString "count", some r.count.toJson),
    (dartString "samples", some (.list (r.samples.map (fun s => .map s.toJson)))),
    (dartString "bucket", r.bucket.map .string),
    (dartString "range_start", r.rangeStart.map (fun d => .string d.toUtcIso8601String)),
    (dartString "range_end", r.rangeEnd.map (fun d => .string d.toUtcIso8601String))]

/-- Every double is finite. -/
def isFinite (r : HistoryResponse) : Bool := r.samples.all TelemetryPoint.isFinite

/-- The `payload` of the provider. `jsonEncode` throws for a double that is not
    finite. -/
def encode (r : HistoryResponse) : Option DartString :=
  if r.isFinite then some (encodeValue (.map (present r.entries))) else none

/-- What the provider makes of a `payload` in the cache. -/
def decode (ofLocal : Int → Int) (payload : DartString) : Option HistoryResponse :=
  ((jsonDecode payload).bind JsonValue.asMap).bind (fromJson ofLocal)

end HistoryResponse

theorem lookup_of_mem (members : List (DartString × JsonValue)) (key : DartString) (v : JsonValue)
    (hkeys : (members.map Prod.fst).Nodup) (hmem : (key, v) ∈ members) :
    lookup members key = v := by
  unfold lookup
  cases hfind : members.reverse.find? (fun m => m.1 = key) with
  | none =>
      have hno := List.find?_eq_none.mp hfind (key, v) (List.mem_reverse.mpr hmem)
      exact absurd (decide_eq_true rfl) hno
  | some m =>
      have hm := List.mem_reverse.mp (List.mem_of_find?_eq_some hfind)
      have hfound := List.find?_some hfind
      have hkey : m.1 = key := of_decide_eq_true hfound
      exact congrArg Prod.snd (Keyed.eq_of_key Prod.fst members m (key, v) hkeys hm hmem hkey)

theorem lookup_of_not_mem (members : List (DartString × JsonValue)) (key : DartString)
    (hkey : key ∉ members.map Prod.fst) : lookup members key = .null := by
  have hfind : members.reverse.find? (fun m => m.1 = key) = none := by
    refine List.find?_eq_none.mpr (fun m hm heq => hkey ?_)
    exact of_decide_eq_true heq ▸ List.mem_map_of_mem (List.mem_reverse.mp hm)
  rw [lookup, hfind]

theorem mem_present (entries : List (DartString × Option JsonValue)) (key : DartString)
    (v : JsonValue) : (key, v) ∈ present entries ↔ (key, some v) ∈ entries := by
  rw [present, List.mem_filterMap]
  constructor
  · rintro ⟨⟨key', value⟩, hmem, heq⟩
    rcases Option.map_eq_some_iff.mp heq with ⟨w, rfl, hpair⟩
    rw [Prod.mk.injEq] at hpair
    exact hpair.1 ▸ hpair.2 ▸ hmem
  · exact fun hmem => ⟨(key, some v), hmem, rfl⟩

theorem keys_present (entries : List (DartString × Option JsonValue)) :
    ((present entries).map Prod.fst).Sublist (entries.map Prod.fst) := by
  induction entries with
  | nil => exact List.Sublist.slnil
  | cons e entries ih =>
      rcases e with ⟨key, value⟩
      cases value with
      | none => exact ih.cons key
      | some v => exact ih.cons_cons key

/-- A member that is not left out is found under its key, and any other is null. -/
theorem lookup_present (entries : List (DartString × Option JsonValue)) (key : DartString)
    (value : Option JsonValue) (hkeys : (entries.map Prod.fst).Nodup)
    (hmem : (key, value) ∈ entries) : lookup (present entries) key = value.getD .null := by
  cases value with
  | some v =>
      exact lookup_of_mem _ key v (hkeys.sublist (keys_present entries))
        ((mem_present entries key v).mpr hmem)
  | none =>
      refine lookup_of_not_mem _ key (fun hin => ?_)
      rcases List.mem_map.mp hin with ⟨⟨key', v⟩, hm, rfl⟩
      -- The key has one entry, and that one is null.
      have heq := Keyed.eq_of_key Prod.fst entries _ _ hkeys
        ((mem_present entries key' v).mp hm) hmem rfl
      exact absurd (congrArg Prod.snd heq) nofun

/-- A finite double is read back. -/
theorem optionalDouble_toJson (x : Option Double) (h : x.all Double.isFinite = true) :
    optionalDouble ((x.map Double.toJson).getD .null) = some x := by
  cases x with
  | none => rfl
  | some x =>
      cases x with
      | finite negative units hu =>
          have hread := (Double.readNumber_toText negative units hu).2
          simp only [Option.map_some, Option.getD_some, Double.toJson, optionalDouble,
            JsonValue.orNull, JsonValue.asNum, hread, Num.toDouble]
      | nan => exact absurd h Bool.false_ne_true
      | infinity negative => exact absurd h Bool.false_ne_true

theorem optionalInt_toJson (n : Option DartInt) :
    optionalInt ((n.map DartInt.toJson).getD .null) = some n := by
  cases n with
  | none => rfl
  | some n =>
      simp only [Option.map_some, Option.getD_some, DartInt.toJson, optionalInt, JsonValue.orNull,
        JsonValue.asNum, readNumber_intText, Num.toInt]

theorem keys_entries (p : TelemetryPoint) : (p.entries.map Prod.fst).Nodup := by
  have hkeys : ∀ q : TelemetryPoint, q.entries.map Prod.fst =
      ["ts", "ambient_t", "ambient_h", "diss_t", "diss_h", "setpoint", "pid_out", "ambient_t_min",
        "ambient_t_max", "ambient_h_min", "ambient_h_max", "diss_t_min", "diss_t_max",
        "diss_h_min", "diss_h_max", "sample_count"].map dartString := fun q => rfl
  rw [hkeys]
  decide +kernel

/-- An entry of a sample, by its position. -/
theorem field_toJson (p : TelemetryPoint) (key : String) (value : Option JsonValue) (i : Nat)
    (h : p.entries[i]? = some (dartString key, value)) : field p.toJson key = value.getD .null :=
  lookup_present p.entries _ value (keys_entries p) (List.mem_of_getElem? h)

/-- A sample is read back. -/
theorem fromJson_toJson (ofLocal : Int → Int) (p : TelemetryPoint) (h : p.isFinite = true) :
    TelemetryPoint.fromJson ofLocal p.toJson = some p := by
  have hts : field p.toJson "ts" = p.ts.toJson := field_toJson p "ts" _ 0 rfl
  have hparse : parseTs ofLocal p.ts.toJson = some p.ts := by
    simp only [DartInt.toJson, parseTs, readNumber_intText, Num.toInt]
  have hdouble : ∀ x ∈ p.doubles, optionalDouble ((x.map Double.toJson).getD .null) = some x :=
    fun x hx => optionalDouble_toJson x (List.all_eq_true.mp h x hx)
  simp only [TelemetryPoint.doubles, List.forall_mem_cons] at hdouble
  rcases hdouble with ⟨h1, h2, h3, h4, h5, h6, h7, h8, h9, h10, h11, h12, h13, h14, _⟩
  rw [TelemetryPoint.fromJson, hts, hparse, field_toJson p "ambient_t" _ 1 rfl, h1,
    field_toJson p "ambient_h" _ 2 rfl, h2, field_toJson p "diss_t" _ 3 rfl, h3,
    field_toJson p "diss_h" _ 4 rfl, h4, field_toJson p "setpoint" _ 5 rfl, h5,
    field_toJson p "pid_out" _ 6 rfl, h6, field_toJson p "ambient_t_min" _ 7 rfl, h7,
    field_toJson p "ambient_t_max" _ 8 rfl, h8, field_toJson p "ambient_h_min" _ 9 rfl, h9,
    field_toJson p "ambient_h_max" _ 10 rfl, h10, field_toJson p "diss_t_min" _ 11 rfl, h11,
    field_toJson p "diss_t_max" _ 12 rfl, h12, field_toJson p "diss_h_min" _ 13 rfl, h13,
    field_toJson p "diss_h_max" _ 14 rfl, h14, field_toJson p "sample_count" _ 15 rfl,
    optionalInt_toJson]
  rfl

theorem wellFormed_double (x : Double) (h : x.isFinite = true) : x.toJson.WellFormed := by
  cases x with
  | finite negative units hu => exact .number _ (Double.readNumber_toText negative units hu).1
  | nan => exact absurd h Bool.false_ne_true
  | infinity negative => exact absurd h Bool.false_ne_true

theorem wellFormed_int (n : DartInt) : n.toJson.WellFormed := .number _ (isLiteral_intText n.1)

/-- What an optional field is written as. -/
theorem wellFormed_map {α : Type} (toJson : α → JsonValue) (x : Option α)
    (h : ∀ a ∈ x, (toJson a).WellFormed) : ∀ v ∈ x.map toJson, v.WellFormed := by
  intro v hv
  rcases Option.map_eq_some_iff.mp hv with ⟨a, ha, rfl⟩
  exact h a ha

theorem wellFormed_present (entries : List (DartString × Option JsonValue))
    (h : ∀ e ∈ entries, ∀ v ∈ e.2, v.WellFormed) :
    (JsonValue.map (present entries)).WellFormed := by
  refine .map _ (fun m hm => ?_)
  exact h (m.1, some m.2) ((mem_present entries m.1 m.2).mp hm) m.2 rfl

theorem wellFormed_toJson (p : TelemetryPoint) (h : p.isFinite = true) :
    (JsonValue.map p.toJson).WellFormed := by
  have hdouble : ∀ x ∈ p.doubles, ∀ v ∈ x.map Double.toJson, v.WellFormed := by
    intro x hx
    have hfinite := List.all_eq_true.mp h x hx
    refine wellFormed_map Double.toJson x (fun y hy => wellFormed_double y ?_)
    exact Option.all_eq_true _ _ |>.mp hfinite y hy
  simp only [TelemetryPoint.doubles, List.forall_mem_cons] at hdouble
  rcases hdouble with ⟨h1, h2, h3, h4, h5, h6, h7, h8, h9, h10, h11, h12, h13, h14, _⟩
  refine wellFormed_present _ ?_
  simp only [TelemetryPoint.entries, List.forall_mem_cons]
  exact ⟨fun v hv => Option.some.inj hv ▸ wellFormed_int p.ts, h1, h2, h3, h4, h5, h6, h7, h8, h9,
    h10, h11, h12, h13, h14,
    wellFormed_map DartInt.toJson p.sampleCount (fun n _ => wellFormed_int n), nofun⟩

namespace HistoryResponse

theorem wellFormed_entries (r : HistoryResponse) (h : r.isFinite = true) :
    (JsonValue.map (present r.entries)).WellFormed := by
  refine wellFormed_present _ ?_
  simp only [entries, List.forall_mem_cons]
  refine ⟨fun v hv => Option.some.inj hv ▸ .string _, fun v hv => Option.some.inj hv ▸
    wellFormed_int r.count, fun v hv => Option.some.inj hv ▸ .list _ ?_,
    wellFormed_map _ r.bucket (fun s _ => .string s),
    wellFormed_map _ r.rangeStart (fun d _ => .string _),
    wellFormed_map _ r.rangeEnd (fun d _ => .string _), nofun⟩
  intro v hv
  rcases List.mem_map.mp hv with ⟨p, hp, rfl⟩
  exact wellFormed_toJson p (List.all_eq_true.mp h p hp)

theorem keys_entries (r : HistoryResponse) : (r.entries.map Prod.fst).Nodup := by
  have hkeys : ∀ q : HistoryResponse, q.entries.map Prod.fst =
      ["device_id", "count", "samples", "bucket", "range_start", "range_end"].map dartString :=
    fun q => rfl
  rw [hkeys]
  decide +kernel

theorem field_entries (r : HistoryResponse) (key : String) (value : Option JsonValue) (i : Nat)
    (h : r.entries[i]? = some (dartString key, value)) :
    field (present r.entries) key = value.getD .null :=
  lookup_present r.entries _ value (keys_entries r) (List.mem_of_getElem? h)

theorem orNull_asString (s : Option DartString) :
    ((s.map JsonValue.string).getD .null).orNull JsonValue.asString = some s := by
  cases s with
  | none => rfl
  | some s => rfl

theorem optionalDate_iso (ofLocal : Int → Int) (d : Option DateTime) :
    optionalDate ofLocal ((d.map (fun d => JsonValue.string d.toUtcIso8601String)).getD .null) =
      some (d.map DateTime.toUtc) := by
  cases d with
  | none => rfl
  | some d =>
      simp only [Option.map_some, Option.getD_some, optionalDate, JsonValue.orNull,
        JsonValue.asString, Option.bind_some, parse_iso]

theorem mapM_samples (ofLocal : Int → Int) (samples : List TelemetryPoint)
    (h : samples.all TelemetryPoint.isFinite = true) :
    (samples.map (fun s => JsonValue.map s.toJson)).mapM
      (fun e => e.asMap.bind (TelemetryPoint.fromJson ofLocal)) = some samples := by
  induction samples with
  | nil => rfl
  | cons p samples ih =>
      rw [List.all_cons, Bool.and_eq_true] at h
      rw [List.map_cons, List.mapM_cons, JsonValue.asMap, Option.bind_some,
        fromJson_toJson ofLocal p h.1, ih h.2]
      rfl

/-- The response with the ends of its range in UTC. -/
def inUtc (r : HistoryResponse) : HistoryResponse :=
  { r with
    rangeStart := r.rangeStart.map DateTime.toUtc
    rangeEnd := r.rangeEnd.map DateTime.toUtc }

/-- A response is read back. -/
theorem fromJson_entries (ofLocal : Int → Int) (r : HistoryResponse) (h : r.isFinite = true) :
    fromJson ofLocal (present r.entries) = some r.inUtc := by
  rw [fromJson, field_entries r "device_id" _ 0 rfl, field_entries r "count" _ 1 rfl,
    field_entries r "samples" _ 2 rfl, field_entries r "bucket" _ 3 rfl,
    field_entries r "range_start" _ 4 rfl, field_entries r "range_end" _ 5 rfl]
  simp only [Option.getD_some, JsonValue.asString, DartInt.toJson, JsonValue.asNum,
    readNumber_intText, Num.toInt, JsonValue.asList, Option.bind_eq_bind, Option.bind_some,
    mapM_samples ofLocal r.samples h, orNull_asString, optionalDate_iso, Option.pure_def, inUtc]

/-- The text in the cache is read back. -/
theorem decode_encode (ofLocal : Int → Int) (r : HistoryResponse) (h : r.isFinite = true) :
    ∃ payload, r.encode = some payload ∧ decode ofLocal payload = some r.inUtc := by
  refine ⟨_, if_pos h, ?_⟩
  rw [decode, jsonDecode_encodeValue _ (wellFormed_entries r h), Option.bind_some, JsonValue.asMap,
    Option.bind_some, fromJson_entries ofLocal r h]

/-- What a cache hit returns: the response, whatever zone its range was given in. -/
theorem cacheHit_same (ofLocal : Int → Int) (r : HistoryResponse) (h : r.isFinite = true) :
    ∃ payload r', r.encode = some payload ∧ decode ofLocal payload = some r' ∧
      r'.deviceId = r.deviceId ∧ r'.count = r.count ∧ r'.bucket = r.bucket ∧
      r'.rangeStart.map DateTime.micros = r.rangeStart.map DateTime.micros ∧
      r'.rangeEnd.map DateTime.micros = r.rangeEnd.map DateTime.micros ∧
      r'.samples = r.samples := by
  rcases decode_encode ofLocal r h with ⟨payload, hencode, hdecode⟩
  refine ⟨payload, r.inUtc, hencode, hdecode, rfl, rfl, rfl, ?_, ?_, rfl⟩
  · rw [inUtc, Option.map_map]
    rfl
  · rw [inUtc, Option.map_map]
    rfl

/-- One aggregated sample, at 21.5 degrees, with the range in local time. -/
def oneMinute : HistoryResponse where
  deviceId := dartString "VENA-01"
  count := ⟨1, by decide⟩
  samples := [⟨⟨1779494400, by decide⟩, some (Double.ofDecimal false 215 (-1)), none, none, none,
    none, none, some (Double.ofDecimal false 21 0), none, none, none, none, none, none, none,
    some ⟨12, by decide⟩⟩]
  bucket := some (dartString "1m")
  rangeStart := some ⟨1779490800000000, false, by decide⟩
  rangeEnd := none

theorem cacheHit_same_oneMinute :
    ∃ payload r', oneMinute.encode = some payload ∧ decode id payload = some r' ∧
      r'.deviceId = oneMinute.deviceId ∧ r'.count = oneMinute.count ∧
      r'.bucket = oneMinute.bucket ∧
      r'.rangeStart.map DateTime.micros = oneMinute.rangeStart.map DateTime.micros ∧
      r'.rangeEnd.map DateTime.micros = oneMinute.rangeEnd.map DateTime.micros ∧
      r'.samples = oneMinute.samples :=
  cacheHit_same id oneMinute (by decide +kernel)

end HistoryResponse

end Mobile

end Vena
