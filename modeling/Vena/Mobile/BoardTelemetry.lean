import Vena.Firmware.DeviceId
import Vena.Firmware.TelemetryJson
import Vena.Mobile.JsonText
import Vena.Mobile.MessageHandler
import Vena.Mobile.TelemetryPoint
import Vena.Mobile.Utf8Encode
import Vena.Python.PrintedJson

/-!
# One Board over Two Wires

The firmware prints a sample twice, under full keys for the broker and under
short ones for BLE, and the phone reads each text with code of its own. Both
readings are the same message up to its source and its sender. A message has
its sender in its topic; a notification has none, and `BleService` stamps it
with the id it holds at that time. As long as that is the id of the board, a
phone that hears samples now over the one wire and now over the other has the
tables of a phone that heard all of them over MQTT, apart from the column that
says where the last state came from.

## Main definitions

* `utf8Decode`, `bytesToString`: The text of a notification and of a message.
* `BleTelemetry.fromJson`, `onNotify`: Reading a notification.
* `toValue`, `membersOf`: A document for Dart.
* `readingAs`, `reading`: The message that a sample is, under an id and under
  that of its board.
* `Carrier`, `Heard`, `hear`: A sample that the phone hears.
* `Heard.deviceId`, `Heard.Own`: The id it is attributed to.
* `Agree`: Equal tables, apart from the source.

## Theorems

* `jsonDecode_compactJson`: The documents are read back.
* `onNotify_ble`, `messageOf_mqtt`: Both are the reading.
* `hear_agree`: A sample keeps the agreement.
* `wires_agree`: So does any number of them.
-/

namespace Vena

namespace Mobile

open Decoder Firmware Utf8

/-- The UTF-16 units of a code point. -/
def runeUnits (c : Nat) : DartString :=
  if c < 0x10000 then [c]
  else [0xD800 + (c - 0x10000) / 0x400, 0xDC00 + (c - 0x10000) % 0x400]

/-- `utf8.decode`, which drops a byte order mark and throws at malformed bytes. -/
def utf8Decode (bytes : List UInt8) : Option DartString :=
  (Python.decodeUtf8 (bytes.map UInt8.toNat)).map (fun runes =>
    (if runes.head? = some 0xFEFF then runes.tail else runes).flatMap runeUnits)

/-- `MqttPublishPayload.bytesToStringAsString`, a unit for each byte. -/
def bytesToString (bytes : List UInt8) : DartString := bytes.map UInt8.toNat

/-- ASCII is its own text. -/
theorem utf8Decode_ascii (text : List Nat) (h : Ascii text) :
    utf8Decode (text.map UInt8.ofNat) = some text := by
  have hhead : text.head? ≠ some 0xFEFF := by
    intro heq
    have hlt := (h _ (List.mem_of_head? heq)).2
    exact absurd hlt (by decide)
  have hunits : text.flatMap runeUnits = text := by
    refine (List.flatMap_congr (fun c hc => ?_)).trans (List.flatMap_singleton' text)
    have hlt := (h c hc).2
    rw [runeUnits, if_pos (by omega)]
  rw [utf8Decode, toNat_ascii text h, Python.decodeUtf8_ascii text h, Option.map_some,
    if_neg hhead, hunits]

namespace BleTelemetry

/-- `(json[short] as num? ?? json[full] as num?)?.toDouble()`. -/
def eitherDouble (json : List (DartString × JsonValue)) (short full : String) :
    Option (Option Double) :=
  match (field json short).orNull JsonValue.asNum with
  | none => none
  | some (some n) => some (some n.toDouble)
  | some none => optionalDouble (field json full)

/-- `BleTelemetry.fromJson`, at the millisecond `now`. -/
def fromJson (now : Int) (deviceId : String) (json : List (DartString × JsonValue)) :
    Option (TelemetryMerge.Telemetry Double) := do
  let ts ← (field json "ts").orNull JsonValue.asInt
  let ambientT ← eitherDouble json "at" "ambient_t"
  let ambientH ← eitherDouble json "ah" "ambient_h"
  let dissT ← eitherDouble json "dt" "diss_t"
  let dissH ← eitherDouble json "dh" "diss_h"
  let setpoint ← eitherDouble json "sp" "setpoint"
  let pidOut ← eitherDouble json "po" "pid_out"
  return ⟨deviceId, ts.elim now Subtype.val, ambientT, ambientH, dissT, dissH, setpoint, pidOut,
    .ble⟩

/-- The listener of the telemetry characteristic. What throws is not added. -/
def onNotify (now : Int) (deviceId : String) (bytes : List UInt8) :
    Option (TelemetryMerge.Telemetry Double) :=
  (((utf8Decode bytes).bind jsonDecode).bind JsonValue.asMap).bind (fromJson now deviceId)

end BleTelemetry

section Literals

theorem isDigit_of_numeral (s : DartString) (h : Decimal.Numeral s) :
    ∀ c ∈ s, isDigit c = true := by
  intro c hc
  have hrange := h c hc
  simp only [isDigit, Bool.and_eq_true, decide_eq_true_eq]
  exact hrange

theorem writeInteger_eq (n : Int) : writeInteger n = intText n := by
  rw [writeInteger, intText, withSign]
  by_cases hneg : n < 0
  · rw [if_pos hneg, if_pos (decide_eq_true hneg)]
    rfl
  · rw [if_neg hneg, if_neg (by rwa [decide_eq_true_eq])]
    rfl

/-- A point and the digits behind it. -/
theorem partAfter_fraction (part : NumberPart) (hpart : part = .zero ∨ part = .digits)
    (width n : Nat) (hwidth : width ≠ 0) :
    partAfter part (0x2E :: Decimal.padded width n) = some .fraction := by
  have hdigits := isDigit_of_numeral _ (Decimal.numeral_padded width n)
  have hlength := Decimal.length_padded width n
  have hpoint : numberPart part 0x2E = some .point := by
    rcases hpart with rfl | rfl
    · rfl
    · rfl
  rw [partAfter, hpoint, Option.bind_some]
  cases hcons : Decimal.padded width n with
  | nil =>
      rw [hcons, List.length_nil] at hlength
      exact absurd hlength.symm hwidth
  | cons c cs =>
      rw [hcons, List.forall_mem_cons] at hdigits
      have hfirst : numberPart .point c = some .fraction := by rw [numberPart, if_pos hdigits.1]
      rw [partAfter, hfirst, Option.bind_some]
      exact partAfter_digits .fraction cs (fun c hc => by rw [numberPart, if_pos hc]) hdigits.2

/-- An exponent. -/
theorem partAfter_exponent (part : NumberPart)
    (hpart : part = .zero ∨ part = .digits ∨ part = .fraction) (n : Int) :
    partAfter part (0x65 :: intText n) = some .exponentDigits := by
  have hmark : numberPart part 0x65 = some .exponent := by
    rcases hpart with rfl | rfl | rfl
    · rfl
    · rfl
    · rfl
  have hall := isDigit_decimalDigits n.natAbs
  obtain ⟨c, cs, hcons, hc⟩ := decimalDigits_cons n.natAbs
  rw [hcons] at hall
  -- Behind the mark there are digits, with a minus in front or without one.
  have hstay : ∀ c, isDigit c = true → numberPart .exponentDigits c = some .exponentDigits :=
    fun c hc => by rw [numberPart, if_pos hc]
  have hrest := partAfter_digits .exponentDigits cs hstay
    (fun c' hc' => hall c' (List.mem_cons_of_mem c hc'))
  rw [partAfter, hmark, Option.bind_some, intText, hcons]
  by_cases hneg : n < 0
  · have hsign : numberPart .exponent 0x2D = some .exponentSign := rfl
    rw [decide_eq_true hneg, withSign, if_pos rfl, partAfter, hsign, Option.bind_some, partAfter,
      numberPart, if_pos hc, Option.bind_some]
    exact hrest
  · rw [decide_eq_false hneg, withSign, if_neg Bool.false_ne_true, partAfter, numberPart,
      if_pos hc, Option.bind_some]
    exact hrest

/-- What the firmware prints of a float is a number. -/
theorem isLiteral_write (x : FloatParts) : isLiteral x.write = true := by
  obtain ⟨whole, hwhole, hends⟩ := partAfter_decimalDigits x.integral
  -- The literal may end behind the whole part, behind the fraction,
  have hfrac : ∃ part, partAfter whole (if x.decimalPlaces = 0 then []
      else 0x2E :: Decimal.padded x.decimalPlaces x.decimal) = some part ∧
      (part = .zero ∨ part = .digits ∨ part = .fraction) := by
    split
    · exact ⟨whole, rfl, hends.imp_right Or.inl⟩
    · next hne => exact ⟨.fraction, partAfter_fraction whole hends _ _ hne, Or.inr (Or.inr rfl)⟩
  obtain ⟨part, hpart, hafter⟩ := hfrac
  -- or behind the exponent.
  have hexp : ∃ last, partAfter part (if x.exponent = 0 then []
      else 0x65 :: writeInteger x.exponent) = some last ∧ last.complete = true := by
    split
    · refine ⟨part, rfl, ?_⟩
      rcases hafter with rfl | rfl | rfl
      · rfl
      · rfl
      · rfl
    · rw [writeInteger_eq]
      exact ⟨_, partAfter_exponent part hafter _, rfl⟩
  obtain ⟨last, hlast, hcomplete⟩ := hexp
  have hwrite : x.write = withSign x.negative (decimalDigits x.integral ++
      ((if x.decimalPlaces = 0 then [] else 0x2E :: Decimal.padded x.decimalPlaces x.decimal) ++
        (if x.exponent = 0 then [] else 0x65 :: writeInteger x.exponent))) := by
    rw [FloatParts.write, withSign]
    split
    · rfl
    · rfl
  rw [isLiteral, hwrite, literalPart_withSign, partAfter_append, hwhole, Option.bind_some,
    partAfter_append, hpart, Option.bind_some, hlast, Option.any_some, hcomplete]

end Literals

section Documents

variable {φ : Type} (decompose : φ → Option FloatParts)

/-- A member of a document for Dart. -/
def toValue : JsonField φ → JsonValue
  | .integer n => .number (intText n)
  | .float x => match decompose x with
    | none => .null
    | some parts => .number parts.write
  | .boolean b => .bool b
  | .text s => .string (ascii s)

def membersOf (doc : List (String × JsonField φ)) : List (DartString × JsonValue) :=
  doc.map (fun m => (ascii m.1, toValue decompose m.2))

/-- Text that Dart writes without escapes. -/
def Verbatim (s : DartString) : Prop := Encoder.writeString s = 0x22 :: (s ++ [0x22])

instance (s : DartString) : Decidable (Verbatim s) := inferInstanceAs (Decidable (_ = _))

theorem encodeValue_toValue (f : JsonField φ) (h : ∀ s, f = .text s → Verbatim (ascii s)) :
    encodeValue (toValue decompose f) = f.write decompose := by
  cases f with
  | integer n => exact (writeInteger_eq n).symm
  | float x =>
      rw [toValue, JsonField.write]
      cases decompose x with
      | none => rfl
      | some parts => rfl
  | boolean b =>
      cases b with
      | true => rfl
      | false => rfl
  | text s => exact h s rfl

theorem encodeMembers_membersOf (doc : List (String × JsonField φ))
    (hkeys : ∀ key ∈ doc.map Prod.fst, Verbatim (ascii key))
    (htexts : ∀ m ∈ doc, ∀ s, m.2 = .text s → Verbatim (ascii s)) :
    encodeMembers [] (membersOf decompose doc) = writeMembers decompose doc ++ [0x7D] := by
  have hmember : ∀ m ∈ doc, ∀ rest, Encoder.writeString (ascii m.1) ++ 0x3A ::
      (encodeValue (toValue decompose m.2) ++ rest) = writeMember decompose m ++ rest := by
    intro m hm rest
    have hkey : Encoder.writeString (ascii m.1) = _ := hkeys m.1 (List.mem_map_of_mem hm)
    rw [hkey, encodeValue_toValue decompose m.2 (htexts m hm), writeMember]
    simp only [List.cons_append, List.append_assoc, List.nil_append]
  -- Dart puts the comma before a member, and the firmware behind it.
  induction doc with
  | nil => rfl
  | cons m doc ih =>
      rw [List.map_cons, List.forall_mem_cons] at hkeys
      rw [List.forall_mem_cons] at htexts hmember
      have hrest := ih hkeys.2 htexts.2 hmember.2
      rw [membersOf, List.map_cons, encodeMembers, List.nil_append, hmember.1]
      cases doc with
      | nil => rfl
      | cons n doc =>
          rw [membersOf, List.map_cons, encodeMembers, List.nil_append] at hrest
          rw [List.map_cons, encodeMembers, List.singleton_append, hrest, writeMembers,
            List.append_assoc, List.cons_append]

theorem wellFormed_toValue (f : JsonField φ) : (toValue decompose f).WellFormed := by
  cases f with
  | integer n => exact .number _ (isLiteral_intText n)
  | float x =>
      rw [toValue]
      cases decompose x with
      | none => exact .null
      | some parts => exact .number _ (isLiteral_write parts)
  | boolean b => exact .bool b
  | text s => exact .string _

/-- A document of the firmware is decoded as its members. -/
theorem jsonDecode_compactJson (doc : List (String × JsonField φ))
    (hkeys : ∀ key ∈ doc.map Prod.fst, Verbatim (ascii key))
    (htexts : ∀ m ∈ doc, ∀ s, m.2 = .text s → Verbatim (ascii s)) :
    jsonDecode (compactJson decompose doc) = some (.map (membersOf decompose doc)) := by
  have htext : compactJson decompose doc = encodeValue (.map (membersOf decompose doc)) := by
    rw [compactJson, encodeValue, encodeMembers_membersOf decompose doc hkeys htexts]
  rw [htext]
  refine jsonDecode_encodeValue _ (.map _ (List.forall_mem_map.mpr (fun m _ => ?_)))
  exact wellFormed_toValue decompose m.2

end Documents

section Fields

variable {φ : Type} (decompose : φ → Option FloatParts)

theorem field_membersOf (doc : List (String × JsonField φ)) (m : String × JsonField φ)
    (hdistinct : ((doc.map Prod.fst).map ascii).Nodup) (hm : m ∈ doc)
    (hkey : dartString m.1 = ascii m.1) :
    field (membersOf decompose doc) m.1 = toValue decompose m.2 := by
  rw [field, hkey]
  refine lookup_of_mem _ _ _ ?_ (List.mem_map_of_mem hm)
  rw [List.map_map] at hdistinct
  rw [membersOf, List.map_map]
  exact hdistinct

theorem field_membersOf_none (doc : List (String × JsonField φ)) (key : String)
    (hkey : dartString key ∉ (doc.map Prod.fst).map ascii) :
    field (membersOf decompose doc) key = .null := by
  refine lookup_of_not_mem _ _ (fun hin => hkey ?_)
  rw [membersOf, List.map_map] at hin
  rw [List.map_map]
  exact hin

/-- A float of the firmware for Dart. -/
def number (x : φ) : Option Double :=
  (decompose x).map (fun parts => (readNumber parts.write).toDouble)

theorem optionalDouble_toValue (x : φ) :
    optionalDouble (toValue decompose (.float x)) = some (number decompose x) := by
  rw [toValue, number]
  cases decompose x with
  | none => rfl
  | some parts => rfl

/-- A short key is read without a look at the full one, unless it is null. -/
theorem eitherDouble_eq (json : List (DartString × JsonValue)) (short full : String) (x : φ)
    (hshort : field json short = toValue decompose (.float x)) (hfull : field json full = .null) :
    BleTelemetry.eitherDouble json short full = some (number decompose x) := by
  rw [BleTelemetry.eitherDouble, hshort, hfull, toValue, number]
  cases decompose x with
  | none => rfl
  | some parts => rfl

theorem asInt_toValue (n : DartInt) :
    (toValue decompose (.integer n.1)).asInt = some n := by
  rw [toValue, MqttMessageHandler.asInt_eq_some]
  exact ⟨_, rfl, readNumber_intText n⟩

/-- The message that a sample is under an id. -/
def readingAs (source : TelemetryMerge.Source) (deviceId : String) (p : Payload (Sensors φ)) :
    TelemetryMerge.Telemetry Double where
  deviceId := deviceId
  ts := p.ts
  ambientT := number decompose p.readings.ambT
  ambientH := number decompose p.readings.ambH
  dissT := number decompose p.readings.dissT
  dissH := none
  setpoint := number decompose p.readings.setpoint
  pidOut := number decompose p.readings.output
  source := source

/-- The message that a sample of a board is. -/
def reading (source : TelemetryMerge.Source) (mac : Mac) (p : Payload (Sensors φ)) :
    TelemetryMerge.Telemetry Double :=
  readingAs decompose source (buildDeviceId mac).deviceId p

/-- The fields under the short keys, with nothing under the full ones. -/
theorem fromJson_ble (now : Int) (deviceId : String) (p : Payload (Sensors φ))
    (hts : IsInt64 p.ts) :
    BleTelemetry.fromJson now deviceId
      (membersOf decompose (bleTelemetryDoc p.ts p.readings)) =
        some (readingAs decompose .ble deviceId p) := by
  have hfield : ∀ m ∈ bleTelemetryDoc p.ts p.readings, dartString m.1 = ascii m.1 →
      field (membersOf decompose (bleTelemetryDoc p.ts p.readings)) m.1 =
        toValue decompose m.2 :=
    fun m hm => field_membersOf decompose _ m
      (by decide : (["ts", "at", "ah", "dt", "sp", "po"].map ascii).Nodup) hm
  -- The full keys are asked for as well, and are not there.
  have hno : ∀ key : String,
      dartString key ∉ ["ts", "at", "ah", "dt", "sp", "po"].map ascii →
      field (membersOf decompose (bleTelemetryDoc p.ts p.readings)) key = .null :=
    fun key => field_membersOf_none decompose (bleTelemetryDoc p.ts p.readings) key
  generalize membersOf decompose (bleTelemetryDoc p.ts p.readings) = json at hfield hno ⊢
  simp only [bleTelemetryDoc, List.forall_mem_cons] at hfield
  obtain ⟨hms, hat, hah, hdt, hsp, hpo, _⟩ := hfield
  have hint := asInt_toValue decompose ⟨p.ts, hts⟩
  have hstamp : (field json "ts").orNull JsonValue.asInt = some (some ⟨p.ts, hts⟩) := by
    rw [hms (by decide)]
    rw [toValue] at hint ⊢
    rw [JsonValue.orNull, hint]
    · rfl
    · intro hnull
      cases hnull
  -- No board sends this one, under either key.
  have hdissH : BleTelemetry.eitherDouble json "dh" "diss_h" = some none := by
    rw [BleTelemetry.eitherDouble, hno "dh" (by decide), hno "diss_h" (by decide)]
    rfl
  rw [BleTelemetry.fromJson, hstamp,
    eitherDouble_eq decompose json "at" "ambient_t" _ (hat (by decide)) (hno _ (by decide)),
    eitherDouble_eq decompose json "ah" "ambient_h" _ (hah (by decide)) (hno _ (by decide)),
    eitherDouble_eq decompose json "dt" "diss_t" _ (hdt (by decide)) (hno _ (by decide)), hdissH,
    eitherDouble_eq decompose json "sp" "setpoint" _ (hsp (by decide)) (hno _ (by decide)),
    eitherDouble_eq decompose json "po" "pid_out" _ (hpo (by decide)) (hno _ (by decide))]
  rfl

/-- The fields under the full keys. -/
theorem telemetryOf_mqtt (mac : Mac) (p : Payload (Sensors φ)) (hts : IsInt64 p.ts) :
    MqttMessageHandler.telemetryOf (buildDeviceId mac).deviceId
      (membersOf decompose (telemetryDoc p)) = some (reading decompose .mqtt mac p) := by
  have hfield : ∀ m ∈ telemetryDoc p, dartString m.1 = ascii m.1 →
      field (membersOf decompose (telemetryDoc p)) m.1 = toValue decompose m.2 :=
    fun m hm => field_membersOf decompose _ m
      (by decide : (["ts", "seq", "ambient_t", "ambient_h", "diss_t", "setpoint", "pid_out",
        "uptime_ms"].map ascii).Nodup) hm
  -- The one field that no board sends.
  have hdissH := field_membersOf_none decompose (telemetryDoc p) "diss_h"
    (by decide : dartString "diss_h" ∉ ["ts", "seq", "ambient_t", "ambient_h", "diss_t",
      "setpoint", "pid_out", "uptime_ms"].map ascii)
  generalize membersOf decompose (telemetryDoc p) = json at hfield hdissH ⊢
  simp only [telemetryDoc, List.forall_mem_cons] at hfield
  obtain ⟨hms, _, hambT, hambH, hdissT, hsetpoint, hpid, _, _⟩ := hfield
  rw [MqttMessageHandler.telemetryOf, hms (by decide), asInt_toValue decompose ⟨p.ts, hts⟩,
    hambT (by decide), hambH (by decide), hdissT (by decide), hdissH, hsetpoint (by decide),
    hpid (by decide), optionalDouble_toValue, optionalDouble_toValue, optionalDouble_toValue,
    optionalDouble_toValue, optionalDouble_toValue]
  rfl

end Fields

section Wires

variable {φ : Type} (decompose : φ → Option FloatParts)
  (serializeJson : List (String × JsonField φ) → List Nat)

/-- A notification with the document for BLE is the reading, under whatever id the
    service stamps it with. -/
theorem onNotify_ble (hprints : PrintsCompact decompose serializeJson) (now : Int)
    (deviceId : String) (p : Payload (Sensors φ)) (hts : IsInt64 p.ts) :
    BleTelemetry.onNotify now deviceId
      ((bleTelemetryJson serializeJson p.ts p.readings).map UInt8.ofNat) =
        some (readingAs decompose .ble deviceId p) := by
  have htexts : ∀ m ∈ bleTelemetryDoc p.ts p.readings, ∀ s, m.2 ≠ .text s := by
    simp only [bleTelemetryDoc, List.forall_mem_cons, ne_eq, reduceCtorEq, not_false_eq_true,
      implies_true, List.not_mem_nil, IsEmpty.forall_iff, and_self]
  have hascii := ascii_compactJson decompose (bleTelemetryDoc p.ts p.readings)
    (by decide : ∀ key ∈ ["ts", "at", "ah", "dt", "sp", "po"], Ascii (ascii key))
    (fun m hm s heq => absurd heq (htexts m hm s))
  have hdecode := jsonDecode_compactJson decompose (bleTelemetryDoc p.ts p.readings)
    (by decide : ∀ key ∈ ["ts", "at", "ah", "dt", "sp", "po"], Verbatim (ascii key))
    (fun m hm s heq => absurd heq (htexts m hm s))
  rw [BleTelemetry.onNotify, bleTelemetryJson_eq decompose serializeJson hprints,
    utf8Decode_ascii _ hascii, Option.bind_some, hdecode, Option.bind_some, JsonValue.asMap,
    Option.bind_some, fromJson_ble decompose now deviceId p hts]

/-- A message with the document for the broker is the reading, too. -/
theorem messageOf_mqtt (hprints : PrintsCompact decompose serializeJson) (mac : Mac)
    (p : Payload (Sensors φ)) (hts : IsInt64 p.ts) :
    MqttMessageHandler.messageOf ⟨topicTelemetry (buildDeviceId mac).deviceId,
      bytesToString ((telemetryJson serializeJson p).map UInt8.ofNat)⟩ =
        some (.telemetry (reading decompose .mqtt mac p)) := by
  have htexts : ∀ m ∈ telemetryDoc p, ∀ s, m.2 ≠ .text s := by
    simp only [telemetryDoc, List.forall_mem_cons, ne_eq, reduceCtorEq, not_false_eq_true,
      implies_true, List.not_mem_nil, IsEmpty.forall_iff, and_self]
  have hascii := ascii_compactJson decompose (telemetryDoc p)
    (by decide : ∀ key ∈ ["ts", "seq", "ambient_t", "ambient_h", "diss_t", "setpoint", "pid_out",
      "uptime_ms"], Ascii (ascii key))
    (fun m hm s heq => absurd heq (htexts m hm s))
  have hdecode := jsonDecode_compactJson decompose (telemetryDoc p)
    (by decide : ∀ key ∈ ["ts", "seq", "ambient_t", "ambient_h", "diss_t", "setpoint", "pid_out",
      "uptime_ms"], Verbatim (ascii key))
    (fun m hm s heq => absurd heq (htexts m hm s))
  have hslash := not_mem_deviceId mac '/' (by decide) (by decide)
  -- An id has no slash, so that the topic has three parts.
  have hparts : MqttMessageHandler.parts (topicTelemetry (buildDeviceId mac).deviceId) =
      ["vena", (buildDeviceId mac).deviceId, "telemetry"] := by
    have hsplit := splitOn_topic _ "telemetry" hslash (by decide)
    rw [String.append_assoc] at hsplit
    have htopic : (topicTelemetry (buildDeviceId mac).deviceId).toList.splitOn '/' = _ := hsplit
    rw [MqttMessageHandler.parts, htopic]
    simp only [List.map_cons, List.map_nil, String.ofList_toList]
  unfold MqttMessageHandler.messageOf
  rw [hparts]
  dsimp only
  rw [telemetryJson_eq decompose serializeJson hprints, bytesToString, toNat_ascii _ hascii,
    hdecode, Option.bind_some, JsonValue.asMap, Option.bind_eq_bind, Option.bind_some, if_pos rfl,
    telemetryOf_mqtt decompose mac p hts, Option.map_some]

/-- What brings a sample: a notification, with what `BleService` holds when it
    comes, or a message of the broker. -/
inductive Carrier where
  | ble (logicalDeviceId : Option String) (bleDeviceId : String)
  | mqtt
  deriving DecidableEq, Repr

def Carrier.source : Carrier → TelemetryMerge.Source
  | .ble _ _ => .ble
  | .mqtt => .mqtt

/-- A sample of a board that reaches the phone, at the millisecond `now`. -/
structure Heard (φ : Type) where
  wire : Carrier
  now : Int
  mac : Mac
  payload : Payload (Sensors φ)

/-- The id the phone files the sample under: `_logicalDeviceId ?? bleDeviceId`, or
    the one in the topic. -/
def Heard.deviceId (h : Heard φ) : String :=
  match h.wire with
  | .ble logicalDeviceId bleDeviceId => logicalDeviceId.getD bleDeviceId
  | .mqtt => (buildDeviceId h.mac).deviceId

/-- The sample is filed under the id of the board it comes from. -/
def Heard.Own (h : Heard φ) : Prop := h.deviceId = (buildDeviceId h.mac).deviceId

/-- The listener of the wire and the handler behind it. -/
def hear (db : MqttMessageHandler.Tables) (h : Heard φ) : MqttMessageHandler.Tables :=
  match h.wire with
  | .ble logicalDeviceId bleDeviceId =>
    (BleTelemetry.onNotify h.now (logicalDeviceId.getD bleDeviceId)
      ((bleTelemetryJson serializeJson h.payload.ts h.payload.readings).map UInt8.ofNat)).elim db
        db.afterTelemetry
  | .mqtt =>
    MqttMessageHandler.handle (h.now.tdiv 1000) ⟨topicTelemetry (buildDeviceId h.mac).deviceId,
      bytesToString ((telemetryJson serializeJson h.payload).map UInt8.ofNat)⟩ db

/-- The same sample over MQTT. -/
def Heard.overMqtt (h : Heard φ) : Heard φ := { h with wire := .mqtt }

def Heard.reading (h : Heard φ) : TelemetryMerge.Telemetry Double :=
  readingAs decompose h.wire.source h.deviceId h.payload

/-- Over either wire the tables take the reading. -/
theorem hear_eq (hprints : PrintsCompact decompose serializeJson) (db : MqttMessageHandler.Tables)
    (h : Heard φ) (hts : IsInt64 h.payload.ts) :
    hear serializeJson db h = db.afterTelemetry (h.reading decompose) := by
  rw [hear, Heard.reading, Heard.deviceId]
  cases h.wire with
  | ble logicalDeviceId bleDeviceId =>
      dsimp only
      rw [onNotify_ble decompose serializeJson hprints h.now _ h.payload hts, Option.elim_some]
      rfl
  | mqtt =>
      dsimp only
      rw [MqttMessageHandler.handle_eq,
        messageOf_mqtt decompose serializeJson hprints h.mac h.payload hts, Option.elim_some]
      rfl

end Wires

section Agreement

open TelemetryMerge MqttMessageHandler

/-- Without the column that says over which wire it came. -/
def unsourced {φ : Type} (r : LatestState φ) : LatestState φ := { r with source := .mqtt }

theorem upsertLatest_unsourced {φ : Type} (rows : List (LatestState φ)) (entry : LatestState φ) :
    (upsertLatest rows entry).map unsourced =
      upsertLatest (rows.map unsourced) (unsourced entry) := by
  -- The source is not part of the key.
  have hids : (rows.map unsourced).map LatestState.deviceId = rows.map LatestState.deviceId := by
    rw [List.map_map]
    rfl
  unfold upsertLatest
  rw [hids]
  by_cases hthere : entry.deviceId ∈ rows.map LatestState.deviceId
  · have hthere' : (unsourced entry).deviceId ∈ rows.map LatestState.deviceId := hthere
    rw [if_pos hthere, if_pos hthere', List.map_map, List.map_map]
    refine List.map_congr_left (fun old _ => ?_)
    simp only [Function.comp_apply, apply_ite unsourced]
    rfl
  · have hthere' : (unsourced entry).deviceId ∉ rows.map LatestState.deviceId := hthere
    rw [if_neg hthere, if_neg hthere', List.map_append, List.map_singleton]

/-- A prune looks at the cache alone. -/
theorem cache_pruneOldEntries {φ : Type} (db db' : Db φ) (h : db.cache = db'.cache)
    (deviceId : String) :
    (db.pruneOldEntries deviceId).cache = (db'.pruneOldEntries deviceId).cache := by
  have hselect : db.pruneSelect deviceId = db'.pruneSelect deviceId := by
    rw [Db.pruneSelect, h, Db.pruneSelect]
  rw [Db.pruneOldEntries, Db.pruneOldEntries, hselect]
  cases db'.pruneSelect deviceId with
  | none => exact h
  | some cutoff => exact congrArg (fun rows => deleteUpTo rows deviceId cutoff.ts) h

/-- Equal tables, apart from the source of a latest state. -/
structure Agree (db db' : Tables) : Prop where
  latest : db.telemetry.latest.map unsourced = db'.telemetry.latest.map unsourced
  cache : db.telemetry.cache = db'.telemetry.cache
  devices : db.devices = db'.devices

/-- Messages that differ in their source keep the agreement. -/
theorem afterTelemetry_agree (db db' : Tables) (m m' : Telemetry Double) (h : Agree db db')
    (hlatest : unsourced m.toLatest = unsourced m'.toLatest) (hcache : m.toCache = m'.toCache) :
    Agree (db.afterTelemetry m) (db'.afterTelemetry m') where
  latest := by
    rw [Tables.afterTelemetry, Tables.afterTelemetry]
    dsimp only
    rw [handleTelemetry_latest, handleTelemetry_latest, upsertLatest_unsourced,
      upsertLatest_unsourced, h.latest, hlatest]
  cache := by
    have hid : m.deviceId = m'.deviceId := congrArg CacheRow.deviceId hcache
    have hinsert :
        ((db.telemetry.upsertLatestState m.toLatest).insertTelemetryCache m.toCache).cache =
        ((db'.telemetry.upsertLatestState m'.toLatest).insertTelemetryCache m'.toCache).cache := by
      rw [Db.insertTelemetryCache, Db.insertTelemetryCache, Db.upsertLatestState,
        Db.upsertLatestState]
      dsimp only
      rw [h.cache, hcache]
    rw [Tables.afterTelemetry, Tables.afterTelemetry]
    dsimp only
    rw [TelemetryMerge.handleTelemetry, TelemetryMerge.handleTelemetry, hid]
    exact cache_pruneOldEntries _ _ hinsert m'.deviceId
  devices := h.devices

variable {φ : Type} (decompose : φ → Option FloatParts)
  (serializeJson : List (String × JsonField φ) → List Nat)

/-- A sample under the id of its board, over either wire, and over MQTT keeps the
    agreement. -/
theorem hear_agree (hprints : PrintsCompact decompose serializeJson) (db db' : Tables)
    (s : Heard φ) (hts : IsInt64 s.payload.ts) (hown : s.Own) (h : Agree db db') :
    Agree (hear serializeJson db s) (hear serializeJson db' s.overMqtt) := by
  have hreading : s.reading decompose = Mobile.reading decompose s.wire.source s.mac s.payload := by
    rw [Heard.reading, hown, reading]
  have hmqtt : s.overMqtt.reading decompose = Mobile.reading decompose .mqtt s.mac s.payload := rfl
  rw [hear_eq decompose serializeJson hprints db s hts,
    hear_eq decompose serializeJson hprints db' s.overMqtt hts, hreading, hmqtt]
  exact afterTelemetry_agree db db' _ _ h rfl rfl

theorem foldl_agree (hprints : PrintsCompact decompose serializeJson) (heard : List (Heard φ)) :
    ∀ db db' : Tables, (∀ s ∈ heard, IsInt64 s.payload.ts) → (∀ s ∈ heard, s.Own) →
      Agree db db' → Agree (heard.foldl (hear serializeJson) db)
        ((heard.map Heard.overMqtt).foldl (hear serializeJson) db') := by
  induction heard with
  | nil => exact fun _ _ _ _ h => h
  | cons s heard ih =>
      intro db db' hts hown h
      rw [List.forall_mem_cons] at hts hown
      exact ih _ _ hts.2 hown.2
        (hear_agree decompose serializeJson hprints db db' s hts.1 hown.1 h)

/-- Samples that are heard over both wires leave the tables that they leave as
    readings one after the other. If the service held the id of the board at each
    notification, these are, but for the source of the latest states, the tables
    they leave when all of them are heard over MQTT. -/
theorem wires_agree (hprints : PrintsCompact decompose serializeJson) (heard : List (Heard φ))
    (hts : ∀ s ∈ heard, IsInt64 s.payload.ts) (db : Tables) :
    heard.foldl (hear serializeJson) db =
        (heard.map (Heard.reading decompose)).foldl Tables.afterTelemetry db ∧
      ((∀ s ∈ heard, s.Own) → Agree (heard.foldl (hear serializeJson) db)
        ((heard.map Heard.overMqtt).foldl (hear serializeJson) db)) := by
  refine ⟨?_, fun hown => foldl_agree decompose serializeJson hprints heard db db hts hown
    ⟨rfl, rfl, rfl⟩⟩
  induction heard generalizing db with
  | nil => rfl
  | cons s heard ih =>
      rw [List.forall_mem_cons] at hts
      rw [List.foldl_cons, hear_eq decompose serializeJson hprints db s hts.1, ih hts.2]
      rfl

/-- Nothing has been heard. -/
def noRows : Tables := ⟨Db.empty, [], List.nodup_nil⟩

/-- A connection on which `device_info` was read. -/
def paired : Carrier :=
  .ble (some (buildDeviceId (fun _ => 0)).deviceId) "24:0A:C4:00:00:02"

/-- One sample over both wires, and a later one over BLE alone. -/
def overBoth : List (Heard (Option (Fin 256))) :=
  [⟨.mqtt, 1700000000400, fun _ => 0, warm 7⟩, ⟨paired, 1700000000600, fun _ => 0, warm 7⟩,
    ⟨paired, 1700000002600, fun _ => 0, { warm 8 with ts := 1700000002000, uptimeMs := 7000 }⟩]

theorem wires_agree_both :
    overBoth.foldl (hear (compactJson halves)) noRows =
        (overBoth.map (Heard.reading halves)).foldl Tables.afterTelemetry noRows ∧
      Agree (overBoth.foldl (hear (compactJson halves)) noRows)
        ((overBoth.map Heard.overMqtt).foldl (hear (compactJson halves)) noRows) := by
  have hagree := wires_agree halves _ (prints_compactJson halves) overBoth (by decide) noRows
  refine ⟨hagree.1, hagree.2 (fun s hs => ?_)⟩
  simp only [overBoth, List.mem_cons, List.not_mem_nil, or_false] at hs
  rcases hs with rfl | rfl | rfl
  · rfl
  · rfl
  · rfl

end Agreement

end Mobile

end Vena
