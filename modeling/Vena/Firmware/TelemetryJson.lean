import Vena.Core.Decimal
import Vena.Firmware.TelemetryLoop

/-!
# The Documents of the Firmware

The texts the firmware makes of a sample, the one it publishes and the shorter
one it notifies over BLE, and the one it publishes about itself once per boot.

ArduinoJson, which prints them, is not part of the repository, so its
`serializeJson` is a parameter. What is relied on is `PrintsCompact`: a document
is printed without any white space, the members in the order in which they were
set, as long as none of its strings needs an escape. How the library takes a
float apart is a parameter, too: `decompose` gives the parts of a finite float,
and nothing for the numbers that JSON does not have, which are printed as `null`.

## Main definitions

* `FloatParts`: A finite float, as it is printed, with `halves` as an example of
  how floats are taken apart.
* `JsonField`, `compactJson`: A document and its compact text.
* `UnescapedDoc`, `PrintsCompact`: What is relied on of the library.
* `Sensors`, `Diagnostics`: What the documents are about.
* `telemetryJson`, `bleTelemetryJson`, `metaJson`, `statusPayload`: The texts.

## Theorems

* `telemetryJson_eq`, `bleTelemetryJson_eq`, `metaJson_eq`: They are compact.
* `ascii_compactJson`: Compact texts are ASCII.
* `splitOn_topic`: The parts of a topic.
-/

namespace Vena

namespace Firmware

/-- A finite float: the digits before the point, which are a 32-bit number, a
    given number of digits behind it and a power of ten. -/
structure FloatParts where
  negative : Bool
  integral : Nat
  decimal : Nat
  decimalPlaces : Nat
  exponent : Int
  integralBound : integral < 2 ^ 32

/-- NaN, and floats that are halves. -/
def halves : Option (Fin 256) → Option FloatParts
  | none => none
  | some n => some ⟨false, n / 2, 5 * (n % 2), n % 2, 0, by omega⟩

def ascii (s : String) : List Nat := s.toList.map Char.toNat

def writeInteger (n : Int) : List Nat :=
  if n < 0 then 0x2D :: Decimal.digits n.natAbs else Decimal.digits n.natAbs

def FloatParts.write (x : FloatParts) : List Nat :=
  (if x.negative then [0x2D] else []) ++ (Decimal.digits x.integral ++
    ((if x.decimalPlaces = 0 then [] else 0x2E :: Decimal.padded x.decimalPlaces x.decimal) ++
      (if x.exponent = 0 then [] else 0x65 :: writeInteger x.exponent)))

/-- What a member of a document is set to. -/
inductive JsonField (φ : Type) where
  | integer (n : Int)
  | float (x : φ)
  | boolean (b : Bool)
  | text (s : String)

section Documents

variable {φ : Type} (decompose : φ → Option FloatParts)

def JsonField.write : JsonField φ → List Nat
  | .integer n => writeInteger n
  | .float x => match decompose x with
    | none => ascii "null"
    | some parts => parts.write
  | .boolean b => ascii (if b then "true" else "false")
  | .text s => 0x22 :: (ascii s ++ [0x22])

def writeMember (m : String × JsonField φ) : List Nat :=
  0x22 :: (ascii m.1 ++ 0x22 :: 0x3A :: m.2.write decompose)

def writeMembers : List (String × JsonField φ) → List Nat
  | [] => []
  | [m] => writeMember decompose m
  | m :: n :: ms => writeMember decompose m ++ 0x2C :: writeMembers (n :: ms)

/-- The compact text of a document. -/
def compactJson (doc : List (String × JsonField φ)) : List Nat :=
  0x7B :: (writeMembers decompose doc ++ [0x7D])

/-- Text that stands between quotation marks as it is. -/
def Unescaped (s : String) : Prop :=
  ∀ c ∈ ascii s, 0x20 ≤ c ∧ c < 0x7F ∧ c ≠ 0x22 ∧ c ≠ 0x5C

instance (s : String) : Decidable (Unescaped s) :=
  inferInstanceAs (Decidable (∀ c ∈ ascii s, _))

/-- A document of distinct keys in which nothing needs an escape. -/
structure UnescapedDoc (doc : List (String × JsonField φ)) : Prop where
  keys : ∀ key ∈ doc.map Prod.fst, Unescaped key
  distinct : (doc.map Prod.fst).Nodup
  texts : ∀ m ∈ doc, ∀ s, m.2 = .text s → Unescaped s

/-- `serializeJson` prints such a document as its compact text. -/
def PrintsCompact (serializeJson : List (String × JsonField φ) → List Nat) : Prop :=
  ∀ doc, UnescapedDoc doc → serializeJson doc = compactJson decompose doc

theorem prints_compactJson : PrintsCompact decompose (compactJson decompose) :=
  fun _ _ => rfl

/-- The sensors and the controller, as far as telemetry reports them. -/
structure Sensors (φ : Type) where
  ambT : φ
  ambH : φ
  dissT : φ
  setpoint : φ
  output : φ

/-- A sample of 25.5 °C inside, without a humidity. -/
def warm (seq : Nat) : Payload (Sensors (Option (Fin 256))) where
  ts := 1700000000000
  seq := seq
  readings := ⟨some 51, none, some 60, some 8, some 110⟩
  uptimeMs := 5000

/-- The document of `buildTelemetryJson`. -/
def telemetryDoc (p : Payload (Sensors φ)) : List (String × JsonField φ) :=
  [("ts", .integer p.ts), ("seq", .integer p.seq), ("ambient_t", .float p.readings.ambT),
    ("ambient_h", .float p.readings.ambH), ("diss_t", .float p.readings.dissT),
    ("setpoint", .float p.readings.setpoint), ("pid_out", .float p.readings.output),
    ("uptime_ms", .integer p.uptimeMs)]

/-- The document of `buildBleTelemetryJson`, at the time `ts`. -/
def bleTelemetryDoc (ts : Int) (s : Sensors φ) : List (String × JsonField φ) :=
  [("ts", .integer ts), ("at", .float s.ambT), ("ah", .float s.ambH), ("dt", .float s.dissT),
    ("sp", .float s.setpoint), ("po", .float s.output)]

/-- `esp_reset_reason`, as far as the firmware tells them apart. -/
inductive ResetReason where
  | poweron
  | ext
  | sw
  | panic
  | intWdt
  | taskWdt
  | wdt
  | deepsleep
  | brownout
  | sdio
  | other
  deriving DecidableEq, Repr

def resetReasonToStr : ResetReason → String
  | .poweron => "ESP_RST_POWERON"
  | .ext => "ESP_RST_EXT"
  | .sw => "ESP_RST_SW"
  | .panic => "ESP_RST_PANIC"
  | .intWdt => "ESP_RST_INT_WDT"
  | .taskWdt => "ESP_RST_TASK_WDT"
  | .wdt => "ESP_RST_WDT"
  | .deepsleep => "ESP_RST_DEEPSLEEP"
  | .brownout => "ESP_RST_BROWNOUT"
  | .sdio => "ESP_RST_SDIO"
  | .other => "ESP_RST_UNKNOWN"

/-- What the firmware keeps track of for its meta document. -/
structure Diagnostics where
  freeHeapBoot : Nat
  freeHeapMinRuntime : Nat
  /-- The signal strength, while the Wi-Fi is connected. -/
  rssi : Option Int
  ntpReady : Bool
  bootCount : Nat
  lastResetReason : ResetReason
  deriving DecidableEq, Repr

/-- `FW_VERSION`. -/
def fwVersion : String := "1.1.0"

/-- `CONFIG_BT_NIMBLE_MAX_CONNECTIONS`. -/
def maxConnections : Nat := 3

/-- The document of `buildMetaJson`. -/
def metaDoc (d : Diagnostics) : List (String × JsonField φ) :=
  [("fw_version", .text fwVersion), ("ble_max_conn", .integer maxConnections),
    ("free_heap_boot", .integer d.freeHeapBoot),
    -- `UINT32_MAX` stands for a minimum that has not been taken yet.
    ("free_heap_min_runtime", .integer
      (if d.freeHeapMinRuntime = Clock32.turn - 1 then d.freeHeapBoot else d.freeHeapMinRuntime)),
    ("wifi_rssi", .integer (d.rssi.getD 0)), ("ntp_synced", .boolean d.ntpReady),
    ("boot_count", .integer d.bootCount),
    ("last_reset_reason", .text (resetReasonToStr d.lastResetReason))]

theorem unescaped_telemetry (p : Payload (Sensors φ)) : UnescapedDoc (telemetryDoc p) where
  keys := (by decide : ∀ key ∈ ["ts", "seq", "ambient_t", "ambient_h", "diss_t", "setpoint",
    "pid_out", "uptime_ms"], Unescaped key)
  distinct := (by decide : ["ts", "seq", "ambient_t", "ambient_h", "diss_t", "setpoint",
    "pid_out", "uptime_ms"].Nodup)
  texts := by
    simp only [telemetryDoc, List.forall_mem_cons, reduceCtorEq, false_implies, implies_true,
      List.not_mem_nil, and_self]

theorem unescaped_bleTelemetry (ts : Int) (s : Sensors φ) :
    UnescapedDoc (bleTelemetryDoc ts s) where
  keys := (by decide : ∀ key ∈ ["ts", "at", "ah", "dt", "sp", "po"], Unescaped key)
  distinct := (by decide : ["ts", "at", "ah", "dt", "sp", "po"].Nodup)
  texts := by
    simp only [bleTelemetryDoc, List.forall_mem_cons, reduceCtorEq, false_implies, implies_true,
      List.not_mem_nil, and_self]

theorem unescaped_resetReason (r : ResetReason) : Unescaped (resetReasonToStr r) := by
  cases r with
  | _ => decide

theorem unescaped_meta (d : Diagnostics) : UnescapedDoc (metaDoc (φ := φ) d) where
  keys := (by decide : ∀ key ∈ ["fw_version", "ble_max_conn", "free_heap_boot",
    "free_heap_min_runtime", "wifi_rssi", "ntp_synced", "boot_count", "last_reset_reason"],
    Unescaped key)
  distinct := (by decide : ["fw_version", "ble_max_conn", "free_heap_boot",
    "free_heap_min_runtime", "wifi_rssi", "ntp_synced", "boot_count", "last_reset_reason"].Nodup)
  texts := by
    have hversion : Unescaped fwVersion := by decide
    have hreason := unescaped_resetReason d.lastResetReason
    simp only [metaDoc, List.forall_mem_cons, reduceCtorEq, false_implies, implies_true,
      JsonField.text.injEq, forall_eq', List.not_mem_nil, true_and, and_true]
    exact ⟨hversion, hreason⟩

variable (serializeJson : List (String × JsonField φ) → List Nat)

/-- The text that is published. -/
def telemetryJson (p : Payload (Sensors φ)) : List Nat := serializeJson (telemetryDoc p)

/-- The text that is notified. -/
def bleTelemetryJson (ts : Int) (s : Sensors φ) : List Nat := serializeJson (bleTelemetryDoc ts s)

/-- The text of `buildMetaJson`. -/
def metaJson (d : Diagnostics) : List Nat := serializeJson (metaDoc d)

variable (hprints : PrintsCompact decompose serializeJson)

include hprints

theorem telemetryJson_eq (p : Payload (Sensors φ)) :
    telemetryJson serializeJson p = compactJson decompose (telemetryDoc p) :=
  hprints _ (unescaped_telemetry p)

theorem bleTelemetryJson_eq (ts : Int) (s : Sensors φ) :
    bleTelemetryJson serializeJson ts s = compactJson decompose (bleTelemetryDoc ts s) :=
  hprints _ (unescaped_bleTelemetry ts s)

theorem metaJson_eq (d : Diagnostics) :
    metaJson serializeJson d = compactJson decompose (metaDoc d) :=
  hprints _ (unescaped_meta d)

end Documents

section Text

open Utf8

theorem ascii_writeInteger (n : Int) : Ascii (writeInteger n) := by
  have hdigits := Decimal.ascii_numeral _ (Decimal.numeral_digits n.natAbs)
  rw [writeInteger]
  split
  · exact ascii_cons _ _ (by decide) hdigits
  · exact hdigits

theorem ascii_write (x : FloatParts) : Ascii x.write := by
  rw [FloatParts.write]
  refine ascii_append _ _ ?_ (ascii_append _ _ (Decimal.ascii_numeral _ (Decimal.numeral_digits _))
    (ascii_append _ _ ?_ ?_))
  · split
    · exact ascii_cons _ _ (by decide) ascii_nil
    · exact ascii_nil
  · split
    · exact ascii_nil
    · exact ascii_cons _ _ (by decide) (Decimal.ascii_numeral _ (Decimal.numeral_padded _ _))
  · split
    · exact ascii_nil
    · exact ascii_cons _ _ (by decide) (ascii_writeInteger _)

variable {φ : Type} (decompose : φ → Option FloatParts)

theorem ascii_field (f : JsonField φ) (h : ∀ s, f = .text s → Ascii (ascii s)) :
    Ascii (f.write decompose) := by
  cases f with
  | integer n => exact ascii_writeInteger n
  | float x =>
      rw [JsonField.write]
      cases decompose x with
      | none => exact (by decide : Ascii (ascii "null"))
      | some parts => exact ascii_write parts
  | boolean b =>
      cases b with
      | true => exact (by decide : Ascii (ascii "true"))
      | false => exact (by decide : Ascii (ascii "false"))
  | text s =>
      exact ascii_cons _ _ (by decide)
        (ascii_append _ _ (h s rfl) (ascii_cons _ _ (by decide) ascii_nil))

theorem ascii_writeMembers (doc : List (String × JsonField φ))
    (hkeys : ∀ key ∈ doc.map Prod.fst, Ascii (ascii key))
    (htexts : ∀ m ∈ doc, ∀ s, m.2 = .text s → Ascii (ascii s)) :
    Ascii (writeMembers decompose doc) := by
  induction doc with
  | nil => exact ascii_nil
  | cons m doc ih =>
      rw [List.map_cons, List.forall_mem_cons] at hkeys
      rw [List.forall_mem_cons] at htexts
      have hm : Ascii (writeMember decompose m) :=
        ascii_cons _ _ (by decide) (ascii_append _ _ hkeys.1 (ascii_cons _ _ (by decide)
          (ascii_cons _ _ (by decide) (ascii_field decompose m.2 htexts.1))))
      cases doc with
      | nil => exact hm
      | cons n doc =>
          exact ascii_append _ _ hm (ascii_cons _ _ (by decide) (ih hkeys.2 htexts.2))

/-- A document is ASCII if its keys and its texts are. -/
theorem ascii_compactJson (doc : List (String × JsonField φ))
    (hkeys : ∀ key ∈ doc.map Prod.fst, Ascii (ascii key))
    (htexts : ∀ m ∈ doc, ∀ s, m.2 = .text s → Ascii (ascii s)) :
    Ascii (compactJson decompose doc) :=
  ascii_cons _ _ (by decide) (ascii_append _ _ (ascii_writeMembers decompose doc hkeys htexts)
    (ascii_cons _ _ (by decide) ascii_nil))

end Text

/-- `_topicTelemetry`. -/
def topicTelemetry (deviceId : String) : String := "vena/" ++ deviceId ++ "/telemetry"

/-- `_topicMeta`. -/
def topicMeta (deviceId : String) : String := "vena/" ++ deviceId ++ "/meta"

/-- A topic of a device has three parts. -/
theorem splitOn_topic (deviceId type : String) (hid : '/' ∉ deviceId.toList)
    (htype : '/' ∉ type.toList) :
    ("vena/" ++ deviceId ++ "/" ++ type).toList.splitOn '/' =
      ["vena".toList, deviceId.toList, type.toList] := by
  have hparts : ("vena/" ++ deviceId ++ "/" ++ type).toList =
      ['/'].intercalate ["vena".toList, deviceId.toList, type.toList] := by
    have hroot : "vena/".toList = "vena".toList ++ ['/'] := by decide
    have hslash : "/".toList = ['/'] := by decide
    rw [String.toList_append, String.toList_append, String.toList_append, hroot, hslash]
    simp only [List.intercalate_cons_cons, List.intercalate_singleton, List.append_assoc]
  have hnone : ∀ l ∈ ["vena".toList, deviceId.toList, type.toList], '/' ∉ l := by
    simp only [List.forall_mem_cons]
    exact ⟨by decide, hid, htype, fun l hl => absurd hl List.not_mem_nil⟩
  rw [hparts, List.splitOn_intercalate _ hnone (List.cons_ne_nil _ _)]

/-- `_topicStatus`. -/
def topicStatus (deviceId : String) : String := "vena/" ++ deviceId ++ "/status"

/-- The text published on a connection, or the last will for its end. -/
def statusPayload (online : Bool) : String :=
  if online then "\x7b\"online\":true,\"fw_version\":\"" ++ fwVersion ++ "\"\x7d"
  else "\x7b\"online\":false\x7d"

end Firmware

end Vena
