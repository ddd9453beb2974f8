import Vena.Backend.IngestEnds
import Vena.Firmware.DeviceId
import Vena.Firmware.TelemetryJson
import Vena.Python.PrintedJson

/-!
# From the Board to the Tables

What the ingestor makes of the documents of the firmware, from the bytes that
are published to the rows that are stored. A float that the firmware prints
without a point is an `int` for Python, a missing reading is printed as `null`
and stored as NULL, and the instant, whole seconds in milliseconds, goes through
a binary64 number on its way to microseconds.

PostgreSQL stores what fits the columns, and all of this does.

## Main definitions

* `value`, `dictOf`: What Python reads a member and a document as.
* `Built`, `Reported`: What the firmware can build.
* `telemetryRow`: The row of a sample.
* `Fits`, `FitsJsonb`: What the columns take.

## Theorems

* `loads_compactJson`: The documents are read back.
* `parse_telemetry`, `loadMeta_metaJson`: So are the two messages.
* `fits_telemetryRow`, `fitsJsonb_meta`: What comes of them fits the columns.
-/

namespace Vena

namespace Backend

namespace Ingest

open Python Firmware Utf8

section Documents

variable {φ : Type} (decompose : φ → Option FloatParts)

/-- The parts of a float as a literal. -/
def literal (x : FloatParts) : Literal where
  negative := x.negative
  whole := Decimal.digits x.integral
  frac := Decimal.padded x.decimalPlaces x.decimal
  exponent := if x.exponent = 0 then none else some x.exponent
  wholeBegins := digits_begins x.integral
  wholeDigits := digits_of_numeral _ (Decimal.numeral_digits _)
  wholeLength := by
    have hlength := Decimal.length_digits x.integral 10 (by decide)
      (Nat.lt_trans x.integralBound (by decide))
    exact Nat.le_trans hlength (by decide)
  fracDigits := digits_of_numeral _ (Decimal.numeral_padded _ _)

theorem text_literal (x : FloatParts) : (literal x).text = x.write := by
  have hfrac : (literal x).frac = [] ↔ x.decimalPlaces = 0 := by
    rw [literal, ← List.length_eq_zero_iff, Decimal.length_padded]
  rw [Literal.text, Literal.sign, Literal.fraction, Literal.power, FloatParts.write]
  simp only [hfrac]
  by_cases hexp : x.exponent = 0
  · simp only [literal, hexp, if_true]
  · simp only [literal, hexp, if_false]
    rfl

/-- An integer of at most 4300 digits as a literal. -/
def intLiteral (n : Int) (h : n.natAbs < 10 ^ maxStrDigits) : Literal where
  negative := n < 0
  whole := Decimal.digits n.natAbs
  frac := []
  exponent := none
  wholeBegins := digits_begins n.natAbs
  wholeDigits := digits_of_numeral _ (Decimal.numeral_digits _)
  wholeLength := Decimal.length_digits _ _ (by decide) h
  fracDigits := fun c hc => absurd hc List.not_mem_nil

theorem text_intLiteral (n : Int) (h : n.natAbs < 10 ^ maxStrDigits) :
    (intLiteral n h).text = writeInteger n := by
  rw [Literal.text, Literal.sign, Literal.fraction, Literal.power, intLiteral, writeInteger]
  by_cases hneg : n < 0
  · simp only [hneg, decide_true, if_true, List.append_nil, List.cons_append, List.nil_append]
  · simp only [hneg, decide_false, Bool.false_eq_true, if_false, if_true, List.append_nil,
      List.nil_append]

theorem value_intLiteral (n : Int) (h : n.natAbs < 10 ^ maxStrDigits) :
    (intLiteral n h).value = .int n := by
  rw [Literal.value_int _ rfl rfl]
  simp only [intLiteral, Decimal.value_digits, decide_eq_true_eq, PyVal.int.injEq]
  omega

/-- What Python reads a member as. -/
def value : JsonField φ → PyVal
  | .integer n => .int n
  | .float x => match decompose x with
    | none => .none
    | some parts => (literal parts).value
  | .boolean b => .bool b
  | .text s => .str (ascii s)

/-- A member that Python reads: an integer is not too long, and a string needs
    no escapes. -/
def Legible : JsonField φ → Prop
  | .integer n => n.natAbs < 10 ^ maxStrDigits
  | .text s => Python.Plain (ascii s) ∧ Ascii (ascii s)
  | _ => True

/-- A member is read as its value. -/
theorem reads_write (depth : Nat) (f : JsonField φ) (h : Legible f) :
    Reads depth (f.write decompose) (value decompose f) := by
  cases f with
  | integer n =>
      have hlength : n.natAbs < 10 ^ maxStrDigits := h
      have hreads := reads_literal depth (intLiteral n hlength)
      rw [text_intLiteral, value_intLiteral] at hreads
      exact hreads
  | float x =>
      rw [JsonField.write, value]
      cases decompose x with
      | none => exact reads_null depth
      | some parts =>
          have hreads := reads_literal depth (literal parts)
          rw [text_literal] at hreads
          exact hreads
  | boolean b => exact reads_bool depth b
  | text s => exact reads_string depth (ascii s) h.1

/-- A document whose members are legible, under distinct plain keys. -/
structure LegibleDoc (doc : List (String × JsonField φ)) : Prop where
  fields : ∀ m ∈ doc, Legible m.2
  keys : ∀ key ∈ doc.map Prod.fst, Python.Plain (ascii key) ∧ Ascii (ascii key)
  distinct : ((doc.map Prod.fst).map ascii).Nodup

/-- The dictionary of a document. -/
def dictOf (doc : List (String × JsonField φ)) : List (PyStr × PyVal) :=
  doc.map (fun m => (ascii m.1, value decompose m.2))

theorem getItem_dictOf (doc : List (String × JsonField φ)) (m : String × JsonField φ)
    (hdistinct : ((doc.map Prod.fst).map ascii).Nodup) (hm : m ∈ doc) :
    getItem (dictOf decompose doc) (PyStr.ofString m.1) = value decompose m.2 := by
  have hfind : (dictOf decompose doc).find? (fun item => item.1 = PyStr.ofString m.1) =
      some (ascii m.1, value decompose m.2) := by
    have hin : (ascii m.1, value decompose m.2) ∈ dictOf decompose doc := List.mem_map_of_mem hm
    have hkeys : ((dictOf decompose doc).map Prod.fst).Nodup := by
      rw [List.map_map] at hdistinct
      rw [dictOf, List.map_map]
      exact hdistinct
    -- Under distinct keys the first item that is found is the only one.
    cases hfound : (dictOf decompose doc).find? (fun item => item.1 = PyStr.ofString m.1) with
    | none =>
        rw [List.find?_eq_none] at hfound
        exact absurd (decide_eq_true rfl) (hfound _ hin)
    | some item =>
        have hkey := List.find?_some hfound
        rw [decide_eq_true_eq] at hkey
        rw [Keyed.eq_of_key Prod.fst _ _ _ hkeys (List.mem_of_find?_eq_some hfound) hin hkey]
  rw [getItem, hfind]

theorem getItem_dictOf_none (doc : List (String × JsonField φ)) (key : String)
    (hkey : PyStr.ofString key ∉ (doc.map Prod.fst).map ascii) :
    getItem (dictOf decompose doc) (PyStr.ofString key) = .none := by
  have hfind : (dictOf decompose doc).find? (fun item => item.1 = PyStr.ofString key) = none := by
    rw [List.find?_eq_none]
    intro item hitem heq
    rw [decide_eq_true_eq] at heq
    obtain ⟨m, hm, rfl⟩ := List.mem_map.mp hitem
    exact hkey (heq ▸ List.mem_map_of_mem (List.mem_map_of_mem hm))
  rw [getItem, hfind]

def member (m : String × JsonField φ) : Member :=
  ⟨ascii m.1, m.2.write decompose, value decompose m.2⟩

theorem writeMembers_eq (doc : List (String × JsonField φ)) :
    writeMembers decompose doc = membersText (doc.map (member decompose)) := by
  induction doc with
  | nil => rfl
  | cons m doc ih =>
      cases doc with
      | nil => rfl
      | cons n doc =>
          rw [writeMembers, ih]
          rfl

/-- A document of the firmware is loaded as its dictionary. -/
theorem loads_compactJson (depth : Nat) (doc : List (String × JsonField φ))
    (h : LegibleDoc doc) :
    loads (depth + 1) ((compactJson decompose doc).map UInt8.ofNat) =
      .ok (.dict (dictOf decompose doc)) := by
  have hascii := ascii_compactJson decompose doc (fun key hkey => (h.keys key hkey).2)
    (fun m hm s heq => by
      have hlegible := h.fields m hm
      rw [heq] at hlegible
      exact hlegible.2)
  have hobject : compactJson decompose doc = objectText (doc.map (member decompose)) := by
    rw [compactJson, writeMembers_eq, objectText]
  have hitems : dictOf decompose doc = items (doc.map (member decompose)) := by
    rw [items, List.map_map, dictOf]
    rfl
  refine loads_of_reads (depth + 1) _ _ hascii ?_
  rw [hobject, hitems]
  -- The braces take one level of the depth.
  refine reads_object depth _ ?_ ?_ ?_
  · exact List.forall_mem_map.mpr (fun m hm => (h.keys m.1 (List.mem_map_of_mem hm)).1)
  · exact List.forall_mem_map.mpr (fun m hm => reads_write decompose depth m.2 (h.fields m hm))
  · have hdistinct := h.distinct
    rw [List.map_map] at hdistinct ⊢
    exact hdistinct

/-- What a document can count and time: an instant that a `datetime` has, in
    whole seconds, and two 32-bit counters. -/
structure Built (p : Payload (Sensors φ)) : Prop where
  instant : ∃ k : Nat, k ≤ 253402300799 ∧ p.ts = k * 1000
  seq : p.seq < Clock32.turn
  uptime : p.uptimeMs < Clock32.turn

theorem legible_nat (n : Nat) (h : n < 10 ^ 20) : Legible (φ := φ) (.integer n) := by
  have hpow : (10 : Nat) ^ 20 ≤ 10 ^ maxStrDigits := Nat.pow_le_pow_right (by decide) (by decide)
  rw [Legible, Int.natAbs_natCast]
  exact Nat.lt_of_lt_of_le h hpow

theorem legible_telemetry (p : Payload (Sensors φ)) (h : Built p) :
    LegibleDoc (telemetryDoc p) where
  fields := by
    obtain ⟨k, hk, hts⟩ := h.instant
    have hinstant : Legible (φ := φ) (.integer p.ts) := by
      have hcast : p.ts = ((k * 1000 : Nat) : Int) := by
        rw [hts]
        omega
      rw [hcast]
      exact legible_nat _ (by omega)
    have hseq : Legible (φ := φ) (.integer p.seq) :=
      legible_nat p.seq (Nat.lt_trans h.seq (by decide))
    have huptime : Legible (φ := φ) (.integer p.uptimeMs) :=
      legible_nat p.uptimeMs (Nat.lt_trans h.uptime (by decide))
    simp only [telemetryDoc, List.forall_mem_cons]
    exact ⟨hinstant, hseq, trivial, trivial, trivial, trivial, trivial, huptime,
      fun m hm => absurd hm List.not_mem_nil⟩
  keys := (by decide : ∀ key ∈ ["ts", "seq", "ambient_t", "ambient_h", "diss_t", "setpoint",
    "pid_out", "uptime_ms"], Python.Plain (ascii key) ∧ Ascii (ascii key))
  distinct := (by decide : (["ts", "seq", "ambient_t", "ambient_h", "diss_t", "setpoint",
    "pid_out", "uptime_ms"].map ascii).Nodup)

/-- The counters of the meta document and its signal strength are 32-bit numbers. -/
structure Reported (d : Diagnostics) : Prop where
  freeHeapBoot : d.freeHeapBoot < Clock32.turn
  freeHeapMinRuntime : d.freeHeapMinRuntime < Clock32.turn
  bootCount : d.bootCount < Clock32.turn
  rssi : ∀ n ∈ d.rssi, n.natAbs < Clock32.turn

theorem plain_resetReason (r : ResetReason) :
    Python.Plain (ascii (resetReasonToStr r)) ∧ Ascii (ascii (resetReasonToStr r)) := by
  cases r with
  | _ => decide

theorem legible_meta (d : Diagnostics) (h : Reported d) : LegibleDoc (φ := φ) (metaDoc d) where
  fields := by
    have hturn : Clock32.turn < 10 ^ 20 := by decide
    have hboot : Legible (φ := φ) (.integer d.freeHeapBoot) :=
      legible_nat _ (Nat.lt_trans h.freeHeapBoot hturn)
    -- A minimum that was never measured is replaced by the heap at boot.
    have hmin : Legible (φ := φ) (.integer (if d.freeHeapMinRuntime = Clock32.turn - 1
        then (d.freeHeapBoot : Int) else d.freeHeapMinRuntime)) := by
      split
      · exact hboot
      · exact legible_nat _ (Nat.lt_trans h.freeHeapMinRuntime hturn)
    have hcount : Legible (φ := φ) (.integer d.bootCount) :=
      legible_nat _ (Nat.lt_trans h.bootCount hturn)
    have hrssi : Legible (φ := φ) (.integer (d.rssi.getD 0)) := by
      have hpow : (10 : Nat) ^ 20 ≤ 10 ^ maxStrDigits :=
        Nat.pow_le_pow_right (by decide) (by decide)
      refine Nat.lt_of_lt_of_le (Nat.lt_trans ?_ hturn) hpow
      cases hsome : d.rssi with
      | none => exact (by decide : (0 : Int).natAbs < Clock32.turn)
      | some n => exact h.rssi n hsome
    simp only [metaDoc, List.forall_mem_cons]
    exact ⟨(by decide : Python.Plain (ascii fwVersion) ∧ Ascii (ascii fwVersion)),
      legible_nat maxConnections (by decide), hboot, hmin, hrssi, trivial, hcount,
      plain_resetReason d.lastResetReason, fun m hm => absurd hm List.not_mem_nil⟩
  keys := (by decide : ∀ key ∈ ["fw_version", "ble_max_conn", "free_heap_boot",
    "free_heap_min_runtime", "wifi_rssi", "ntp_synced", "boot_count", "last_reset_reason"],
    Python.Plain (ascii key) ∧ Ascii (ascii key))
  distinct := (by decide : (["fw_version", "ble_max_conn", "free_heap_boot",
    "free_heap_min_runtime", "wifi_rssi", "ntp_synced", "boot_count",
    "last_reset_reason"].map ascii).Nodup)

/-- The row of a sample. The firmware does not measure the humidity at the
    dissipator. -/
def telemetryRow (deviceId : String) (p : Payload (Sensors φ)) : Row where
  deviceId := deviceId
  ts := p.ts * 1000
  ambientT := value decompose (.float p.readings.ambT)
  ambientH := value decompose (.float p.readings.ambH)
  dissT := value decompose (.float p.readings.dissT)
  dissH := .none
  setpoint := value decompose (.float p.readings.setpoint)
  pidOut := value decompose (.float p.readings.output)
  uptimeMs := .int p.uptimeMs
  seq := .int p.seq

/-- With an instant that `timeOf` accepts a document has a row. -/
theorem parseTs_ok (deviceId : String) (tsRaw : PyVal) (data : List (PyStr × PyVal))
    (ts : Datetime) (h : timeOf tsRaw = .ok ts) :
    parseTs deviceId tsRaw data = .ok (some (rowOf deviceId ts data)) := by
  rw [parseTs, h]

/-- Of the three parts of a topic the last two are told. -/
theorem parseTopic_device (deviceId type : String) (hid : '/' ∉ deviceId.toList)
    (htype : '/' ∉ type.toList) :
    parseTopic ("vena/" ++ deviceId ++ "/" ++ type) = some (deviceId, type) := by
  rw [parseTopic, split, splitOn_topic deviceId type hid htype]
  simp only [List.map_cons, List.map_nil, String.ofList_toList, if_true]

/-- The row of a dictionary that holds the fields of a sample, and no humidity at
    the dissipator. -/
theorem rowOf_telemetry (deviceId : String) (p : Payload (Sensors φ))
    (data : List (PyStr × PyVal))
    (hfield : ∀ m ∈ telemetryDoc p, getItem data (PyStr.ofString m.1) = value decompose m.2)
    (hdissH : getItem data (PyStr.ofString "diss_h") = .none) :
    rowOf deviceId (p.ts * 1000) data = telemetryRow decompose deviceId p := by
  simp only [telemetryDoc, List.forall_mem_cons] at hfield
  obtain ⟨_, hseq, hambT, hambH, hdissT, hsetpoint, hpid, huptime, _⟩ := hfield
  rw [rowOf, hambT, hambH, hdissT, hdissH, hsetpoint, hpid, huptime, hseq, telemetryRow]
  rfl

/-- `_parse` makes the row of a sample of its message. -/
theorem parse_telemetry (serializeJson : List (String × JsonField φ) → List Nat)
    (hprints : PrintsCompact decompose serializeJson) (env : Env) (hdepth : 0 < env.depth)
    (deviceId : String) (hid : '/' ∉ deviceId.toList) (p : Payload (Sensors φ)) (h : Built p) :
    parse env ⟨topicTelemetry deviceId, (telemetryJson serializeJson p).map UInt8.ofNat⟩ =
      .ok (some (telemetryRow decompose deviceId p)) := by
  obtain ⟨depth, hsucc⟩ := Nat.exists_eq_succ_of_ne_zero (Nat.ne_of_gt hdepth)
  obtain ⟨k, hk, hinstant⟩ := h.instant
  -- An id has no slash, so that the topic has three parts.
  have htopic : parseTopic (topicTelemetry deviceId) = some (deviceId, "telemetry") := by
    have hparts := parseTopic_device deviceId "telemetry" hid (by decide)
    rw [String.append_assoc] at hparts
    exact hparts
  have hlegible := legible_telemetry p h
  have hloads := loads_compactJson decompose depth (telemetryDoc p) hlegible
  -- Whole seconds are exact, although they go through a float.
  have htime : timeOf (.int p.ts) = .ok (p.ts * 1000) := by
    have hmicros : (k : Int) * 1000000 = k * 1000 * 1000 := by omega
    rw [timeOf, intOf, hinstant]
    dsimp only
    rw [fromMillis_seconds k hk, hmicros]
  have hfield : ∀ m ∈ telemetryDoc p, getItem (dictOf decompose (telemetryDoc p))
      (PyStr.ofString m.1) = value decompose m.2 :=
    fun m hm => getItem_dictOf decompose _ m hlegible.distinct hm
  have hts := hfield ("ts", .integer p.ts) List.mem_cons_self
  have hdissH := getItem_dictOf_none decompose (telemetryDoc p) "diss_h"
    (by decide : PyStr.ofString "diss_h" ∉ ["ts", "seq", "ambient_t", "ambient_h", "diss_t",
      "setpoint", "pid_out", "uptime_ms"].map ascii)
  have hrow := rowOf_telemetry decompose deviceId p _ hfield hdissH
  have hmade := parseTs_ok deviceId (.int p.ts) (dictOf decompose (telemetryDoc p)) _ htime
  rw [hrow] at hmade
  rw [parse, htopic]
  dsimp only
  rw [if_neg (fun hne => hne rfl), parsePayload, hsucc,
    telemetryJson_eq decompose serializeJson hprints, hloads]
  dsimp only
  rw [hts]
  exact hmade

/-- `_handle_meta` decodes the report of its message. -/
theorem loadMeta_metaJson (serializeJson : List (String × JsonField φ) → List Nat)
    (hprints : PrintsCompact decompose serializeJson) (env : Env) (hdepth : 0 < env.depth)
    (d : Diagnostics) (h : Reported d) :
    loadMeta env ((metaJson serializeJson d).map UInt8.ofNat) =
      .ok (some (.dict (dictOf decompose (metaDoc d)))) := by
  obtain ⟨depth, hsucc⟩ := Nat.exists_eq_succ_of_ne_zero (Nat.ne_of_gt hdepth)
  have hloads := loads_compactJson decompose depth (metaDoc d) (legible_meta d h)
  rw [loadMeta, hsucc, metaJson_eq decompose serializeJson hprints, hloads]

/-- A `Float` column takes `None`, a `float`, and an `int` that is one. -/
def FloatColumn : PyVal → Prop
  | .none | .float _ => True
  | .int n => n.natAbs < 2 ^ 53
  | _ => False

def BigIntColumn : PyVal → Prop
  | .none => True
  | .int n => -2 ^ 63 ≤ n ∧ n < 2 ^ 63
  | _ => False

/-- A `String(32)` column takes 32 characters, but no zero. -/
def IdColumn (id : String) : Prop := id.toList.length ≤ 32 ∧ Char.ofNat 0 ∉ id.toList

/-- A row that fits the columns of `telemetry_raw`. -/
structure Fits (row : Row) : Prop where
  deviceId : IdColumn row.deviceId
  ts : 0 ≤ row.ts ∧ row.ts ≤ 253402300799 * 1000000
  ambientT : FloatColumn row.ambientT
  ambientH : FloatColumn row.ambientH
  dissT : FloatColumn row.dissT
  dissH : FloatColumn row.dissH
  setpoint : FloatColumn row.setpoint
  pidOut : FloatColumn row.pidOut
  uptimeMs : BigIntColumn row.uptimeMs
  seq : BigIntColumn row.seq

/-- What is written into a `JSONB` column as it was read: `json.dumps` prints it
    without an error, and PostgreSQL takes the text. -/
def JsonbScalar : PyVal → Prop
  | .none | .bool _ => True
  | .int n => n.natAbs < 10 ^ maxStrDigits
  | .str s => Ascii s
  | _ => False

/-- An object of scalars that fits a `JSONB` column. -/
def FitsJsonb (items : List (PyStr × PyVal)) : Prop :=
  ∀ item ∈ items, Ascii item.1 ∧ JsonbScalar item.2

/-- A float of the firmware fits a `Float` column. -/
theorem floatColumn_value (x : φ) : FloatColumn (value decompose (.float x)) := by
  rw [value]
  cases decompose x with
  | none => exact trivial
  | some parts =>
      have hvalue : Decimal.value (literal parts).whole = parts.integral :=
        Decimal.value_digits parts.integral
      -- A float without a fraction is an `int`, and of at most 32 bits.
      have hbound := parts.integralBound
      dsimp only
      rw [Literal.value, hvalue]
      split
      · rw [FloatColumn]
        split
        · omega
        · omega
      · exact trivial

theorem idColumn_deviceId (mac : Mac) : IdColumn (buildDeviceId mac).deviceId := by
  refine ⟨?_, not_mem_deviceId mac _ (by decide) (by decide)⟩
  have hlength : mac.pairs.flatten.length = 12 := rfl
  rw [toList_deviceId, List.length_append, hlength]
  decide

/-- The row of a sample fits. -/
theorem fits_telemetryRow (mac : Mac) (p : Payload (Sensors φ)) (h : Built p) :
    Fits (telemetryRow decompose (buildDeviceId mac).deviceId p) where
  deviceId := idColumn_deviceId mac
  ts := by
    obtain ⟨k, hk, hts⟩ := h.instant
    rw [telemetryRow, hts]
    have hlow : (0 : Int) ≤ (k : Int) * 1000 * 1000 := by omega
    have hhigh : (k : Int) * 1000 * 1000 ≤ 253402300799 * 1000000 := by omega
    exact ⟨hlow, hhigh⟩
  ambientT := floatColumn_value decompose _
  ambientH := floatColumn_value decompose _
  dissT := floatColumn_value decompose _
  dissH := trivial
  setpoint := floatColumn_value decompose _
  pidOut := floatColumn_value decompose _
  uptimeMs := by
    have huptime := h.uptime
    rw [Clock32.turn] at huptime
    rw [telemetryRow, BigIntColumn]
    omega
  seq := by
    have hseq := h.seq
    rw [Clock32.turn] at hseq
    rw [telemetryRow, BigIntColumn]
    omega

/-- A legible document without floats fits a `JSONB` column. -/
theorem fitsJsonb_dictOf (doc : List (String × JsonField φ)) (h : LegibleDoc doc)
    (hfloat : ∀ m ∈ doc, ∀ x, m.2 ≠ .float x) : FitsJsonb (dictOf decompose doc) := by
  refine List.forall_mem_map.mpr (fun m hm => ⟨(h.keys m.1 (List.mem_map_of_mem hm)).2, ?_⟩)
  have hlegible := h.fields m hm
  have hno := hfloat m hm
  cases hfield : m.2 with
  | integer n =>
      rw [hfield] at hlegible
      exact hlegible
  | float x => exact absurd hfield (hno x)
  | boolean b => exact trivial
  | text s =>
      rw [hfield] at hlegible
      exact hlegible.2

/-- The report fits. -/
theorem fitsJsonb_meta (d : Diagnostics) (h : Reported d) :
    FitsJsonb (dictOf decompose (metaDoc d)) := by
  refine fitsJsonb_dictOf decompose _ (legible_meta d h) ?_
  simp only [metaDoc, List.forall_mem_cons, ne_eq, reduceCtorEq, not_false_eq_true, implies_true,
    List.not_mem_nil, IsEmpty.forall_iff, and_self]

end Documents

end Ingest

end Backend

end Vena
