import Vena.Backend.MetaRoute
import Vena.Mobile.BoardTelemetry
import Vena.Mobile.Dio
import Vena.Mobile.ServerInstant
import Vena.Mobile.TelemetryPoint
import Vena.Mobile.TokenExpiry

/-!
# A Boot Report on the Phone

What a board says of itself when it boots takes four formats on its way to the
detail screen: the JSON of the firmware, the dictionary of the ingestor, the
`JSONB` column with an order of its own, and the response of the route. The
getters of `DeviceMeta` then read what the firmware has reported.

## Main definitions

* `DeviceMeta`: The class of the app, with its getters.
* `getMeta`: The call, over whatever answers it.
* `answer`: What the route answers, as bytes.
* `Shows`: The getters say what a report says.

## Theorems

* `render_report`: The backend writes a document as Dart would.
* `getMeta_rendered`: The phone decodes what the route has rendered.
* `shows_membersOf`: The getters of a decoded report.
* `reports_shown`: The last report of a board, on the phone.
-/

namespace Vena

namespace Mobile

namespace BoardReport

open Firmware Utf8

structure DeviceMeta where
  deviceId : DartString
  payload : List (DartString × JsonValue)
  updatedAt : DateTime

namespace DeviceMeta

variable (m : DeviceMeta)

def fwVersion : Option (Option DartString) :=
  (field m.payload "fw_version").orNull JsonValue.asString

def bleMaxConn : Option (Option DartInt) := optionalInt (field m.payload "ble_max_conn")

def freeHeapBoot : Option (Option DartInt) := optionalInt (field m.payload "free_heap_boot")

def freeHeapMinRuntime : Option (Option DartInt) :=
  optionalInt (field m.payload "free_heap_min_runtime")

def wifiRssi : Option (Option DartInt) := optionalInt (field m.payload "wifi_rssi")

def ntpSynced : Option (Option Bool) := (field m.payload "ntp_synced").orNull JsonValue.asBool

def bootCount : Option (Option DartInt) := optionalInt (field m.payload "boot_count")

def lastResetReason : Option (Option DartString) :=
  (field m.payload "last_reset_reason").orNull JsonValue.asString

/-- `DeviceMeta.fromJson`. A payload that is null is taken for an empty one. -/
def fromJson (ofLocal : Int → Int) (json : List (DartString × JsonValue)) : Option DeviceMeta := do
  let deviceId ← (field json "device_id").asString
  let payload ← (field json "payload").orNull JsonValue.asMap
  let updatedAt ← DateTime.parse ofLocal (← (field json "updated_at").asString)
  return ⟨deviceId, payload.getD [], updatedAt⟩

end DeviceMeta

/-- `DeviceApi.getMeta`. `none` stands for an exception, and `some none` for null. -/
def getMeta (ofLocal : Int → Int) (answer : Option (Dio.Response (List UInt8))) :
    Option (Option DeviceMeta) :=
  match Dio.fetch answer with
  | .error e => if e.statusCode = some 404 then some none else none
  | .ok r => do
    let json ← (← jsonDecode (← utf8Decode r.data)).asMap
    return some (← DeviceMeta.fromJson ofLocal json)

section Response

open Python (PyVal PyStr PyFloat)

variable (repr : PyFloat → PyStr) (jsonb : List (PyStr × PyVal) → List (PyStr × PyVal))

/-- An object as the `JSONB` column returns it. -/
def stored : PyVal → PyVal
  | .dict items => .dict (jsonb items)
  | v => v

/-- The dictionary that `get_device_meta` returns, with the instant as text. -/
def body (row : Backend.Ingest.DeviceMeta) : PyVal :=
  .dict [(ascii "device_id", .str (PyStr.ofString row.deviceId)),
    (ascii "payload", stored jsonb row.payload),
    (ascii "updated_at", .str (isoText row.updatedAt))]

def detailBody (detail : String) : PyVal := .dict [(ascii "detail", .str (PyStr.ofString detail))]

/-- `JSONResponse.render`. -/
def encoded (v : PyVal) : List UInt8 :=
  ((Backend.render repr v).flatMap bytes).map UInt8.ofNat

/-- What the route answers. -/
def answer (db : Backend.Ingest.Store) (deviceId : String) : Option (Dio.Response (List UInt8)) :=
  match Backend.deviceMeta db deviceId with
  | .ok row => some ⟨200, encoded repr (body jsonb row)⟩
  | .error status detail => some ⟨status, encoded repr (detailBody detail)⟩
  -- Nobody has caught the exception, and Starlette answers.
  | .crash => some ⟨500, (ascii "Internal Server Error").map UInt8.ofNat⟩

end Response

section Text

/-- Characters of ASCII that a string has as they are. -/
def Printable (s : DartString) : Prop := ∀ c ∈ s, (0x20 ≤ c ∧ c < 0x80) ∧ c ≠ 0x22 ∧ c ≠ 0x5C

instance (s : DartString) : Decidable (Printable s) := inferInstanceAs (Decidable (∀ c ∈ s, _))

theorem Printable.plain {s : DartString} (h : Printable s) : Python.Plain s :=
  fun c hc => ⟨(h c hc).1.1, (h c hc).2⟩

theorem Printable.ascii {s : DartString} (h : Printable s) : Ascii s := by
  intro c hc
  have hrange := (h c hc).1
  omega

theorem printable_of_plain (s : DartString) (hplain : Python.Plain s) (hascii : Ascii s) :
    Printable s :=
  fun c hc => ⟨⟨(hplain c hc).1, (hascii c hc).2⟩, (hplain c hc).2⟩

/-- Dart writes such a string without escapes. -/
theorem writeString_printable (s : DartString) (h : Printable s) : Verbatim s := by
  have hcontent : ∀ before, Encoder.writeStringContent before s = s := by
    induction s with
    | nil => exact fun _ => rfl
    | cons c s ih =>
        intro before
        obtain ⟨hrange, hquote, hbackslash⟩ := h c List.mem_cons_self
        -- Surrogates are far above these characters.
        have hlone : Encoder.lone before c s.head? = false := by
          have hhigh : Encoder.isHigh c = false := by
            simp only [Encoder.isHigh, decide_eq_false_iff_not]
            omega
          have hlow : Encoder.isLow c = false := by
            simp only [Encoder.isLow, decide_eq_false_iff_not]
            omega
          rw [Encoder.lone, hhigh, hlow, Bool.false_and, Bool.false_and, Bool.false_or]
        have hunit : Encoder.escapeUnit before c s.head? = [c] := by
          rw [Encoder.escapeUnit, hlone]
          split
          · rfl
          · rw [if_neg (by omega), if_neg (by omega)]
        rw [Encoder.writeStringContent, hunit, ih (fun d hd => h d (List.mem_cons_of_mem c hd))]
        rfl
  rw [Verbatim, Encoder.writeString, hcontent]

/-- So does Python. -/
theorem renderString_printable (s : DartString) (h : Printable s) :
    Backend.renderString s = Encoder.writeString s :=
  (Backend.renderString_plain s h.plain).trans (writeString_printable s h).symm

/-- An id has letters, digits and a hyphen. -/
theorem printable_deviceId (mac : Mac) :
    Printable (Python.PyStr.ofString (buildDeviceId mac).deviceId) := by
  intro n hn
  obtain ⟨c, hc, rfl⟩ := List.mem_map.mp hn
  by_contra hbad
  -- A character of the prefix, or else a digit of the address.
  refine not_mem_deviceId mac c (fun hroot => ?_) (fun d hd heq => ?_) hc
  · have hall : ∀ c ∈ ['v', 'e', 'n', 'a', '-'],
        (0x20 ≤ c.toNat ∧ c.toNat < 0x80) ∧ c.toNat ≠ 0x22 ∧ c.toNat ≠ 0x5C := by
      simp only [List.forall_mem_cons, List.not_mem_nil, IsEmpty.forall_iff, implies_true, and_true]
      decide
    exact hbad (hall c hroot)
  · have hall : ∀ d < 16, (0x20 ≤ (Nat.digitChar d).toNat ∧ (Nat.digitChar d).toNat < 0x80) ∧
        (Nat.digitChar d).toNat ≠ 0x22 ∧ (Nat.digitChar d).toNat ≠ 0x5C := by decide
    exact hbad (heq ▸ hall d hd)

theorem printable_padded (width n : Nat) : Printable (padded width n) := by
  intro c hc
  have hdigit := padded_digits width n c hc
  simp only [Decoder.isDigit, Bool.and_eq_true, decide_eq_true_eq] at hdigit
  omega

theorem printable_append (s t : DartString) (hs : Printable s) (ht : Printable t) :
    Printable (s ++ t) :=
  List.forall_mem_append.mpr ⟨hs, ht⟩

theorem printable_cons (c : Nat) (s : DartString)
    (hc : (0x20 ≤ c ∧ c < 0x80) ∧ c ≠ 0x22 ∧ c ≠ 0x5C) (hs : Printable s) : Printable (c :: s) :=
  List.forall_mem_cons.mpr ⟨hc, hs⟩

theorem printable_isoText (micros : Int) : Printable (isoText micros) := by
  rw [isoText]
  split
  · have hfraction : ∀ n, Printable (isoFraction n) := by
      intro n
      rw [isoFraction]
      split
      · exact fun c hc => absurd hc List.not_mem_nil
      · exact printable_cons _ _ (by decide) (printable_padded 6 n)
    have htime : ∀ n, Printable (isoTime n) := fun n =>
      printable_append _ _ (printable_padded 2 _) (printable_cons _ _ (by decide)
        (printable_append _ _ (printable_padded 2 _) (printable_cons _ _ (by decide)
          (printable_append _ _ (printable_padded 2 _)
            (printable_append _ _ (hfraction _) (by decide))))))
    exact printable_append _ _ (printable_padded 4 _) (printable_cons _ _ (by decide)
      (printable_append _ _ (printable_padded 2 _) (printable_cons _ _ (by decide)
        (printable_append _ _ (printable_padded 2 _)
          (printable_cons _ _ (by decide) (htime _))))))
  · decide

end Text

section Reports

open Python (PyVal PyStr PyFloat)

variable {φ : Type} (decompose : φ → Option FloatParts) (repr : PyFloat → PyStr)

/-- The members of a document are what matters, in whatever order a column has them. -/
theorem exists_document (doc : List (String × JsonField φ)) (items : List (PyStr × PyVal))
    (hperm : items.Perm (Backend.Ingest.dictOf decompose doc)) :
    ∃ doc', doc'.Perm doc ∧ items = Backend.Ingest.dictOf decompose doc' := by
  -- Item by item the dictionary is that of the document, and so in any order.
  have hsame : List.Forall₂ (fun item m => item = (ascii m.1, Backend.Ingest.value decompose m.2))
      (Backend.Ingest.dictOf decompose doc) doc := by
    rw [Backend.Ingest.dictOf, List.forall₂_map_left_iff]
    exact List.forall₂_same.mpr (fun _ _ => rfl)
  obtain ⟨doc', hitems, hdoc⟩ := List.perm_comp_forall₂ hperm hsame
  refine ⟨doc', hdoc, ?_⟩
  clear hperm hdoc
  induction hitems with
  | nil => rfl
  | cons heq _ ih =>
      rw [heq, ih]
      rfl

/-- The members of the response for Dart. -/
def members (doc : List (String × JsonField φ)) (id updatedAt : DartString) :
    List (DartString × JsonValue) :=
  [(ascii "device_id", .string id), (ascii "payload", .map (membersOf decompose doc)),
    (ascii "updated_at", .string updatedAt)]

section Decoding

variable (d : Diagnostics) (h : Backend.Ingest.Reported d) (doc : List (String × JsonField φ))
  (hperm : doc.Perm (metaDoc d))

include h hperm

theorem printable_keys : ∀ key ∈ doc.map Prod.fst, Printable (ascii key) := by
  intro key hkey
  have hlegible := (Backend.Ingest.legible_meta d h).keys key ((hperm.map _).subset hkey)
  exact printable_of_plain _ hlegible.1 hlegible.2

theorem printable_texts : ∀ m ∈ doc, ∀ s, m.2 = .text s → Printable (ascii s) := by
  intro m hm s heq
  have hlegible := (Backend.Ingest.legible_meta d h).fields m (hperm.subset hm)
  rw [heq] at hlegible
  exact printable_of_plain _ hlegible.1 hlegible.2

theorem plainDoc_report : Backend.PlainDoc doc where
  keys := fun m hm => (printable_keys d h doc hperm m.1 (List.mem_map_of_mem hm)).plain
  texts := fun m hm s heq => (printable_texts d h doc hperm m hm s heq).plain
  floats := by
    -- No member of a report is a float.
    have hnone : ∀ m ∈ metaDoc (φ := φ) d, ∀ x, m.2 ≠ .float x := by
      simp only [metaDoc, List.forall_mem_cons, ne_eq, reduceCtorEq, not_false_eq_true,
        implies_true, List.not_mem_nil, IsEmpty.forall_iff, and_self]
    exact fun m hm => hnone m (hperm.subset hm)

theorem encodeValue_report :
    encodeValue (.map (membersOf decompose doc)) = compactJson decompose doc := by
  rw [encodeValue, compactJson, encodeMembers_membersOf decompose doc
    (fun key hkey => writeString_printable _ (printable_keys d h doc hperm key hkey))
    (fun m hm s heq => writeString_printable _ (printable_texts d h doc hperm m hm s heq))]

/-- The backend renders the document as Dart would, -/
theorem render_report : Backend.render repr (.dict (Backend.Ingest.dictOf decompose doc)) =
    encodeValue (.map (membersOf decompose doc)) :=
  (Backend.render_dictOf repr decompose doc (plainDoc_report d h doc hperm)).trans
    (encodeValue_report decompose d h doc hperm).symm

/-- and the whole response. -/
theorem render_members (id updatedAt : DartString) (hid : Printable id)
    (hupdated : Printable updatedAt) :
    Backend.render repr (.dict [(ascii "device_id", .str id),
        (ascii "payload", .dict (Backend.Ingest.dictOf decompose doc)),
        (ascii "updated_at", .str updatedAt)]) =
      encodeValue (.map (members decompose doc id updatedAt)) := by
  have hkeys : ∀ key ∈ ["device_id", "payload", "updated_at"],
      Backend.renderString (ascii key) = Encoder.writeString (ascii key) :=
    fun key hkey => renderString_printable _
      ((by decide : ∀ key ∈ ["device_id", "payload", "updated_at"], Printable (ascii key)) key hkey)
  simp only [List.forall_mem_cons] at hkeys
  obtain ⟨hdevice, hpayload, hstamp, _⟩ := hkeys
  simp only [Backend.render, Backend.renderMembers, members, encodeValue, encodeMembers, hdevice,
    hpayload, hstamp, renderString_printable id hid, renderString_printable updatedAt hupdated]
  -- The payload is rendered as it would be alone.
  have hreport := render_report decompose repr d h doc hperm
  rw [Backend.render, encodeValue] at hreport
  rw [hreport]

theorem ascii_members (id updatedAt : DartString) (hid : Printable id)
    (hupdated : Printable updatedAt) :
    Ascii (encodeValue (.map (members decompose doc id updatedAt))) := by
  have hquoted : ∀ s, Printable s → Ascii (Encoder.writeString s) := by
    intro s hs
    have hverbatim : Encoder.writeString s = _ := writeString_printable s hs
    rw [hverbatim]
    exact ascii_cons _ _ (by decide) (ascii_append _ _ hs.ascii (by decide))
  have hkeys : ∀ key ∈ ["device_id", "payload", "updated_at"],
      Ascii (Encoder.writeString (ascii key)) :=
    fun key hkey => hquoted _
      ((by decide : ∀ key ∈ ["device_id", "payload", "updated_at"], Printable (ascii key)) key hkey)
  simp only [List.forall_mem_cons] at hkeys
  obtain ⟨hdevice, hpayload, hstamp, _⟩ := hkeys
  have hreport : Ascii (encodeValue (.map (membersOf decompose doc))) := by
    rw [encodeValue_report decompose d h doc hperm]
    exact ascii_compactJson decompose doc
      (fun key hkey => (printable_keys d h doc hperm key hkey).ascii)
      (fun m hm s heq => (printable_texts d h doc hperm m hm s heq).ascii)
  have hcomma : Ascii [0x2C] := by decide
  -- Member by member, from the left to the right.
  rw [members, encodeValue, encodeMembers, encodeMembers, encodeMembers, encodeMembers,
    List.nil_append]
  refine ascii_cons _ _ (by decide) (ascii_append _ _ hdevice (ascii_cons _ _ (by decide) ?_))
  rw [encodeValue]
  refine ascii_append _ _ (hquoted id hid) (ascii_append _ _ hcomma (ascii_append _ _ hpayload
    (ascii_cons _ _ (by decide) (ascii_append _ _ hreport (ascii_append _ _ hcomma
      (ascii_append _ _ hstamp (ascii_cons _ _ (by decide) ?_)))))))
  rw [encodeValue]
  exact ascii_append _ _ (hquoted updatedAt hupdated) (by decide)

end Decoding

theorem utf8Decode_encoded (v : PyVal) (hv : Ascii (Backend.render repr v)) :
    utf8Decode (encoded repr v) = some (Backend.render repr v) := by
  -- Each character is one byte, the same number.
  have hbytes : (Backend.render repr v).flatMap bytes = Backend.render repr v := by
    refine (List.flatMap_congr (fun c hc => ?_)).trans (List.flatMap_singleton' _)
    exact if_pos (hv c hc).2
  rw [encoded, hbytes, utf8Decode_ascii _ hv]

section Getters

variable (d : Diagnostics) (h : Backend.Ingest.Reported d) (doc : List (String × JsonField φ))
  (hperm : doc.Perm (metaDoc d))

include h hperm

/-- The response is decoded as its members, and these as the class of the app. -/
theorem getMeta_rendered (ofLocal : Int → Int) (id : DartString) (hid : Printable id)
    (micros : Int) :
    ∃ instant, getMeta ofLocal (some ⟨200, encoded repr (.dict [(ascii "device_id", .str id),
        (ascii "payload", .dict (Backend.Ingest.dictOf decompose doc)),
        (ascii "updated_at", .str (isoText micros))])⟩) =
          some (some ⟨id, membersOf decompose doc, instant⟩) ∧
      (InYears micros → instant.micros = micros) := by
  obtain ⟨instant, hparse, hmicros⟩ := parse_isoText ofLocal micros
  have hupdated := printable_isoText micros
  have hrender := render_members decompose repr d h doc hperm id _ hid hupdated
  have hascii := ascii_members decompose d h doc hperm id _ hid hupdated
  have hwell : (JsonValue.map (members decompose doc id (isoText micros))).WellFormed := by
    refine .map _ ?_
    simp only [members, List.forall_mem_cons]
    have hreport : ∀ m ∈ membersOf decompose doc, m.2.WellFormed :=
      List.forall_mem_map.mpr (fun m _ => wellFormed_toValue decompose m.2)
    exact ⟨.string _, .map _ hreport, .string _, fun m hm => absurd hm List.not_mem_nil⟩
  -- The three members that the class has.
  have hdevice : field (members decompose doc id (isoText micros)) "device_id" = .string id := rfl
  have hpayload : field (members decompose doc id (isoText micros)) "payload" =
      .map (membersOf decompose doc) := rfl
  have hstamp : field (members decompose doc id (isoText micros)) "updated_at" =
      .string (isoText micros) := rfl
  refine ⟨instant, ?_, hmicros⟩
  rw [getMeta, (Dio.fetch_eq_ok _ _).mpr ⟨rfl, rfl⟩]
  dsimp only
  rw [utf8Decode_encoded repr _ (by rw [hrender]; exact hascii), hrender, Option.bind_eq_bind,
    Option.bind_some, jsonDecode_encodeValue _ hwell]
  simp only [Option.bind_eq_bind, Option.bind_some, JsonValue.asMap, DeviceMeta.fromJson, hdevice,
    hpayload, hstamp, JsonValue.asString, hparse, JsonValue.orNull, Option.map_some,
    Option.getD_some, Option.pure_def]

end Getters

/-- A number that is there, for Dart. -/
def Says (v : Option (Option DartInt)) (n : Int) : Prop :=
  ∃ k : DartInt, v = some (some k) ∧ k.1 = n

theorem says_integer (n : Int) (hn : IsInt64 n) :
    Says (optionalInt (toValue decompose (.integer n))) n := by
  have hread : (toValue decompose (.integer n)).orNull JsonValue.asNum =
      some (some (.int ⟨n, hn⟩)) :=
    congrArg (fun k => some (some k)) (readNumber_intText ⟨n, hn⟩)
  exact ⟨⟨n, hn⟩, by rw [optionalInt, hread]; rfl, rfl⟩

/-- What the getters say of a report, the instant of its arrival apart. -/
structure Shows (m : DeviceMeta) (mac : Mac) (d : Diagnostics) : Prop where
  deviceId : m.deviceId = dartString (buildDeviceId mac).deviceId
  fwVersion : m.fwVersion = some (some (dartString Firmware.fwVersion))
  bleMaxConn : Says m.bleMaxConn maxConnections
  freeHeapBoot : Says m.freeHeapBoot d.freeHeapBoot
  freeHeapMinRuntime : Says m.freeHeapMinRuntime
    (if d.freeHeapMinRuntime = Clock32.turn - 1 then d.freeHeapBoot else d.freeHeapMinRuntime)
  wifiRssi : Says m.wifiRssi (d.rssi.getD 0)
  ntpSynced : m.ntpSynced = some (some d.ntpReady)
  bootCount : Says m.bootCount d.bootCount
  lastResetReason : m.lastResetReason =
    some (some (dartString (resetReasonToStr d.lastResetReason)))

theorem isInt64_counter (n : Nat) (hn : n < Clock32.turn) : IsInt64 n := by
  have hturn : Clock32.turn = 2 ^ 32 := rfl
  rw [IsInt64]
  omega

/-- The getters find their members in any order. -/
theorem shows_membersOf (d : Diagnostics) (h : Backend.Ingest.Reported d)
    (doc : List (String × JsonField φ)) (hperm : doc.Perm (metaDoc d)) (mac : Mac)
    (instant : DateTime) :
    Shows ⟨Python.PyStr.ofString (buildDeviceId mac).deviceId, membersOf decompose doc, instant⟩ mac
      d := by
  -- No key is there twice, so that the order is all the same.
  have hdistinct : ((doc.map Prod.fst).map ascii).Nodup :=
    ((hperm.map Prod.fst).map ascii).nodup_iff.mpr (Backend.Ingest.legible_meta d h).distinct
  have hfield : ∀ m ∈ metaDoc d, dartString m.1 = ascii m.1 →
      field (membersOf decompose doc) m.1 = toValue decompose m.2 :=
    fun m hm => field_membersOf decompose doc m hdistinct (hperm.symm.subset hm)
  simp only [metaDoc, List.forall_mem_cons] at hfield
  obtain ⟨hversion, hconn, hboot, hmin, hrssi, hntp, hcount, hreason, _⟩ := hfield
  have hbootInt := isInt64_counter _ h.freeHeapBoot
  -- An id is the same string in both languages.
  have hid := TokenExpiry.dartString_ascii (buildDeviceId mac).deviceId _ rfl
    (fun c hc => (printable_deviceId mac c hc).1.2)
  exact
    { deviceId := hid.symm
      fwVersion := by
        rw [DeviceMeta.fwVersion, hversion (by decide)]
        rfl
      bleMaxConn := by
        rw [DeviceMeta.bleMaxConn, hconn (by decide)]
        exact says_integer decompose _ (by decide)
      freeHeapBoot := by
        rw [DeviceMeta.freeHeapBoot, hboot (by decide)]
        exact says_integer decompose _ hbootInt
      freeHeapMinRuntime := by
        rw [DeviceMeta.freeHeapMinRuntime, hmin (by decide)]
        refine says_integer decompose _ ?_
        split
        · exact hbootInt
        · exact isInt64_counter _ h.freeHeapMinRuntime
      wifiRssi := by
        rw [DeviceMeta.wifiRssi, hrssi (by decide)]
        refine says_integer decompose _ ?_
        cases hsome : d.rssi with
        | none => decide
        | some n =>
            have hbound := h.rssi n hsome
            have hturn : Clock32.turn = 2 ^ 32 := rfl
            rw [Option.getD_some, IsInt64]
            omega
      ntpSynced := by
        rw [DeviceMeta.ntpSynced, hntp (by decide)]
        rfl
      bootCount := by
        rw [DeviceMeta.bootCount, hcount (by decide)]
        exact says_integer decompose _ (isInt64_counter _ h.bootCount)
      lastResetReason := by
        rw [DeviceMeta.lastResetReason, hreason (by decide)]
        cases d.lastResetReason with
        | _ => rfl }

section Arrival

open Backend

/-- The report of the board. -/
def reportBy (mac : Mac) : Ingest.Sent φ → Option Diagnostics
  | .report mac' d => if mac' = mac then some d else none
  | .telemetry _ _ | .status _ _ => none

theorem findSome?_reportOf (mac : Mac) (sent : List (Ingest.Sent φ)) :
    sent.findSome? (Ingest.Sent.reportOf decompose (buildDeviceId mac).deviceId) =
      (sent.findSome? (reportBy mac)).map
        (fun d => .dict (Ingest.dictOf decompose (metaDoc d))) := by
  have hone : ∀ m : Ingest.Sent φ, m.reportOf decompose (buildDeviceId mac).deviceId =
      (reportBy mac m).map (fun d => .dict (Ingest.dictOf decompose (metaDoc d))) := by
    intro m
    cases m with
    | telemetry mac' p => rfl
    | status mac' online => rfl
    | report mac' d =>
        rw [Ingest.Sent.reportOf, reportBy]
        -- Two boards have two ids.
        by_cases hmac : mac' = mac
        · rw [if_pos hmac, if_pos (by rw [hmac]), Option.map_some]
        · rw [if_neg hmac, if_neg (fun heq => hmac (deviceId_injective mac' mac heq)),
            Option.map_none]
  induction sent with
  | nil => rfl
  | cons m sent ih =>
      rw [List.findSome?_cons, List.findSome?_cons, hone, ih]
      cases reportBy mac m with
      | none => rfl
      | some d => rfl

theorem reported_of_find (mac : Mac) (sent : List (Ingest.Sent φ)) (hok : ∀ m ∈ sent, m.Ok)
    (d : Diagnostics) (hfind : sent.reverse.findSome? (reportBy mac) = some d) :
    Ingest.Reported d := by
  obtain ⟨m, hm, hreport⟩ := List.exists_of_findSome?_eq_some hfind
  have hthis := hok m (List.mem_reverse.mp hm)
  cases m with
  | telemetry mac' p => cases hreport
  | status mac' online => cases hreport
  | report mac' d' =>
      rw [reportBy] at hreport
      split at hreport
      · cases hreport
        exact hthis
      · cases hreport

theorem pgText_deviceId (mac : Mac) : pgText (buildDeviceId mac).deviceId = true := by
  refine List.all_eq_true.mpr (fun c hc => ?_)
  rw [decide_eq_true_eq]
  rintro rfl
  exact (Ingest.idColumn_deviceId mac).2 hc

/-- Whatever boards send, once the ingestor is done with it the app shows for a board
    what its last report says, and when it has arrived; without a report, and none
    from before, it shows nothing, and does not fail. -/
theorem reports_shown (serializeJson : List (String × JsonField φ) → List Nat)
    (hprints : PrintsCompact decompose serializeJson) (env : Ingest.Env)
    (hpg : Ingest.Postgres env) (db : Ingest.Store)
    (sent : List (Ingest.Sent φ)) (hok : ∀ m ∈ sent, m.Ok) (t : Ingest.State)
    (h : Ingest.Final env db (sent.map (Ingest.Sent.message serializeJson)) t)
    (jsonb : List (PyStr × PyVal) → List (PyStr × PyVal))
    (hjsonb : ∀ items, (jsonb items).Perm items) (ofLocal : Int → Int) (mac : Mac) :
    (∀ d, sent.reverse.findSome? (reportBy mac) = some d →
      ∃ m, getMeta ofLocal (answer repr jsonb t.db (buildDeviceId mac).deviceId) = some (some m) ∧
        Shows m mac d ∧ ∃ row ∈ t.db.deviceMeta, row.deviceId = (buildDeviceId mac).deviceId ∧
          (InYears row.updatedAt → m.updatedAt.micros = row.updatedAt)) ∧
    (sent.reverse.findSome? (reportBy mac) = none →
      db.document (buildDeviceId mac).deviceId = none →
        getMeta ofLocal (answer repr jsonb t.db (buildDeviceId mac).deviceId) = some none) := by
  have habsorbed : ∀ m ∈ sent.map (Ingest.Sent.message serializeJson), Ingest.Absorbed env m :=
    List.forall_mem_map.mpr
      (fun m hm => Ingest.absorbed_sent decompose serializeJson hprints env hpg m (hok m hm))
  have hdocument := (Ingest.recorded_of_final env db _ t habsorbed h).2 (buildDeviceId mac).deviceId
  rw [Ingest.lastMeta_sent decompose serializeJson hprints env hpg _ sent hok,
    findSome?_reportOf] at hdocument
  have htext := pgText_deviceId mac
  refine ⟨fun d hd => ?_, fun hnone hbefore => ?_⟩
  · rw [hd, Option.map_some, Option.some_or] at hdocument
    obtain ⟨row, hrow, hroute, hid, hpayload⟩ := deviceMeta_ok t.db _ htext _ hdocument
    -- What the column returns is the report, with its members in another order.
    obtain ⟨doc, hperm, hitems⟩ := exists_document decompose (metaDoc d) _
      (hjsonb (Ingest.dictOf decompose (metaDoc d)))
    have hreported := reported_of_find mac sent hok d hd
    obtain ⟨instant, hget, hmicros⟩ := getMeta_rendered decompose repr d hreported doc hperm
      ofLocal _ (printable_deviceId mac) row.updatedAt
    refine ⟨_, ?_, shows_membersOf decompose d hreported doc hperm mac instant, row, hrow, hid,
      hmicros⟩
    rw [answer, hroute]
    dsimp only
    rw [body, hid, hpayload, stored, hitems]
    exact hget
  · -- No document, and so a 404, which the app takes for null.
    rw [hnone, Option.map_none, Option.none_or, hbefore] at hdocument
    obtain ⟨detail, hroute⟩ := deviceMeta_none t.db _ htext hdocument
    rw [answer, hroute]
    rfl

end Arrival

section Demo

open Backend

/-- Shorter keys come first in a `JSONB` object. -/
def byLength (items : List (PyStr × PyVal)) : List (PyStr × PyVal) :=
  items.insertionSort (fun a b => a.1.length < b.1.length ∨ (a.1.length = b.1.length ∧ a.1 ≤ b.1))

/-- There is no float in a report. -/
def zeroPoint (_ : PyFloat) : PyStr := PyStr.ofString "0.0"

theorem reports_shown_last : ∃ t,
    Ingest.Final Ingest.spacious .empty
      (Ingest.published.map (Ingest.Sent.message (compactJson halves))) t ∧
    ∃ m, getMeta id (answer zeroPoint byLength t.db (buildDeviceId (fun _ => 0)).deviceId) =
        some (some m) ∧ Shows m (fun _ => 0) (Ingest.boot 2) := by
  obtain ⟨t, hfinal⟩ := Ingest.final_published
  have hshown := reports_shown halves zeroPoint _ (prints_compactJson halves) Ingest.spacious
    Ingest.postgres_spacious .empty Ingest.published Ingest.ok_published t hfinal byLength
    (fun items => List.perm_insertionSort _ items) id (fun _ => 0)
  obtain ⟨m, hget, hshows, _⟩ := hshown.1 (Ingest.boot 2) rfl
  exact ⟨t, hfinal, m, hget, hshows⟩

end Demo

end Reports

end BoardReport

end Mobile

end Vena
