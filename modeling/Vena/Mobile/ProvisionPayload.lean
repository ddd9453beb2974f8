import Vena.Firmware.ProvisionWrite
import Vena.Mobile.Pairing
import Vena.Mobile.Utf8Encode

/-!
# The provisioning payload

From the form of the app to the callback of the firmware. `WifiProvisionStep`
asks for a name that is not blank and for a password of eight UTF-16 units, the
payload is the UTF-8 of a JSON text, and the firmware asks again: the name must
not be empty and the password must have eight bytes. There are never fewer bytes
than units, so what the form lets through the firmware takes.

The JSON library of the firmware is a parameter. What is asked of it is that it
reads what `jsonEncode` writes.

## Main definitions

* `BleWifiCredentials`: The credentials of the app, with their JSON.
* `validates`: The validators of the form.
* `provisionWifi`: The bytes that are written.
* `Inverts`: The library reads what the app writes.
* `dartJson`: A library that does.

## Theorems

* `onWrite_payload`: The callback gets what was typed in.
* `inverts_dartJson`: The decoder of the app would do on the firmware, too.
-/

namespace Vena

namespace Mobile

namespace ProvisionPayload

open Firmware Firmware.ProvisionWrite

structure BleWifiCredentials where
  ssid : String
  password : String
  jwt : Option String
  deriving DecidableEq, Repr

def BleWifiCredentials.toJson (creds : BleWifiCredentials) : List (String × String) :=
  [("ssid", creds.ssid), ("psk", creds.password)] ++ match creds.jwt with
    | none => []
    | some jwt => [("jwt", jwt)]

/-- The two validators of `WifiProvisionStep`. -/
def validates (ssid psk : String) : Bool :=
  Pairing.trim ssid ≠ "" && !(dartString psk).length < 8

/-- The payload of `provisionWifi`. -/
def provisionWifi (creds : BleWifiCredentials) : List Nat :=
  utf8Encode (jsonEncode (creds.toJson.map unitsOf))

/-- What `_submit` makes of the form, with the JWT of the device. -/
def submit (ssid psk : String) (jwt : Option String) : BleWifiCredentials where
  ssid := Pairing.trim ssid
  password := psk
  jwt := jwt

section Payload

variable {ν : Type} (json : ArduinoJson ν)

/-- The library of the firmware reads what `jsonEncode` writes for texts under
    distinct keys. -/
def Inverts : Prop :=
  ∀ members : List (String × String), (members.map Prod.fst).Nodup →
    json.deserializeJson (utf8Encode (jsonEncode (members.map unitsOf))) =
      some (.object (members.map (fun m => (Utf8.encode m.1, .string (Utf8.encode m.2)))))

/-- The credentials in the bytes of the firmware; no JWT is an empty one. -/
def received (creds : BleWifiCredentials) : Credentials where
  ssid := Utf8.encode creds.ssid
  psk := Utf8.encode creds.password
  jwt := (creds.jwt.map Utf8.encode).getD []

theorem keys_toJson (creds : BleWifiCredentials) : (creds.toJson.map Prod.fst).Nodup := by
  unfold BleWifiCredentials.toJson
  cases creds.jwt with
  | none =>
      show ["ssid", "psk"].Nodup
      decide
  | some jwt =>
      show ["ssid", "psk", "jwt"].Nodup
      decide

/-- What `String(...)` makes of a member leaves the bytes of a text alone. -/
theorem arduinoString_encode (s : String) (h : '\x00' ∉ s.toList) :
    arduinoString (Utf8.encode s) = Utf8.encode s :=
  arduinoString_of_no_zero _ (fun hzero => h (Utf8.zero_mem_encode s hzero))

/-- The payload is never empty. -/
theorem provisionWifi_ne_nil (creds : BleWifiCredentials) : provisionWifi creds ≠ [] :=
  utf8Encode_cons_ne_nil _ _

/-- Credentials of texts without U+0000 arrive as they are, if the firmware finds
    them long enough. -/
theorem onWrite_toJson (hinverts : Inverts json) (creds : BleWifiCredentials) (s : Provisioning)
    (hssid : '\x00' ∉ creds.ssid.toList) (hpsk : '\x00' ∉ creds.password.toList)
    (hjwt : ∀ jwt ∈ creds.jwt, '\x00' ∉ jwt.toList) (hname : creds.ssid ≠ "")
    (hlength : 8 ≤ (Utf8.encode creds.password).length) :
    onWrite json (provisionWifi creds) s = onProvisionReceived (received creds) s := by
  have hdoc := hinverts creds.toJson (keys_toJson creds)
  have hkeys : Utf8.encode "ssid" ≠ Utf8.encode "psk" ∧ Utf8.encode "ssid" ≠ Utf8.encode "jwt" ∧
      Utf8.encode "psk" ≠ Utf8.encode "jwt" := by decide
  have hbytes : Utf8.encode creds.ssid ≠ [] := mt (Utf8.encode_eq_nil creds.ssid).mp hname
  have hlong : ¬ (Utf8.encode creds.ssid = [] ∨ (Utf8.encode creds.password).length < 8) :=
    not_or.mpr ⟨hbytes, Nat.not_lt.mpr hlength⟩
  rcases creds with ⟨ssid, psk, jwt⟩
  -- The two documents differ in one member, so in what `doc["jwt"]` reads.
  cases jwt with
  | none =>
      rw [onWrite_of_members json _ s _ (Utf8.encode ssid) (Utf8.encode psk)
        (provisionWifi_ne_nil _) hdoc (JsonVariant.member_cons_self "ssid" _ _)
        ((JsonVariant.member_cons_of_ne "psk" "ssid" _ _ hkeys.1).trans
          (JsonVariant.member_cons_self "psk" _ _))]
      have hnone : (JsonVariant.object ((BleWifiCredentials.toJson ⟨ssid, psk, none⟩).map
          (fun m => (Utf8.encode m.1, (.string (Utf8.encode m.2) : JsonVariant ν))))).member
            "jwt" = .null :=
        (JsonVariant.member_cons_of_ne "jwt" "ssid" _ _ hkeys.2.1).trans
          ((JsonVariant.member_cons_of_ne "jwt" "psk" _ _ hkeys.2.2).trans
            (JsonVariant.member_nil "jwt"))
      rw [hnone]
      dsimp only
      rw [arduinoString_encode ssid hssid, arduinoString_encode psk hpsk, if_neg hlong]
      rfl
  | some jwt =>
      rw [onWrite_of_members json _ s _ (Utf8.encode ssid) (Utf8.encode psk)
        (provisionWifi_ne_nil _) hdoc (JsonVariant.member_cons_self "ssid" _ _)
        ((JsonVariant.member_cons_of_ne "psk" "ssid" _ _ hkeys.1).trans
          (JsonVariant.member_cons_self "psk" _ _))]
      have hsome : (JsonVariant.object ((BleWifiCredentials.toJson ⟨ssid, psk, some jwt⟩).map
          (fun m => (Utf8.encode m.1, (.string (Utf8.encode m.2) : JsonVariant ν))))).member
            "jwt" = .string (Utf8.encode jwt) :=
        (JsonVariant.member_cons_of_ne "jwt" "ssid" _ _ hkeys.2.1).trans
          ((JsonVariant.member_cons_of_ne "jwt" "psk" _ _ hkeys.2.2).trans
            (JsonVariant.member_cons_self "jwt" _ _))
      rw [hsome]
      dsimp only
      rw [arduinoString_encode ssid hssid, arduinoString_encode psk hpsk,
        arduinoString_encode jwt (hjwt jwt rfl), if_neg hlong]
      rfl

/-- Trimming brings no new characters. -/
theorem mem_trim (s : String) (c : Char) (hc : c ∈ (Pairing.trim s).toList) : c ∈ s.toList := by
  rw [Pairing.trim, String.toList_ofList, List.mem_reverse] at hc
  have hreverse := (List.dropWhile_sublist _).subset hc
  exact (List.dropWhile_sublist _).subset (List.mem_reverse.mp hreverse)

/-- What was typed into the form, and found valid by it, reaches the callback of
    the firmware with the JWT of the device, and a write that does not lead to a
    call changes nothing. -/
theorem onWrite_payload (hinverts : Inverts json) (ssid psk : String) (jwt : Option String)
    (hssid : '\x00' ∉ ssid.toList) (hpsk : '\x00' ∉ psk.toList)
    (hjwt : ∀ t ∈ jwt, '\x00' ∉ t.toList) (hvalid : validates ssid psk = true)
    (s : Provisioning) :
    onWrite json (provisionWifi (submit ssid psk jwt)) s = onProvisionReceived
        ⟨Utf8.encode (Pairing.trim ssid), Utf8.encode psk, (jwt.map Utf8.encode).getD []⟩ s ∧
      ∀ value, (onWrite json value s).calls = s.calls → onWrite json value s = s := by
  rw [validates, Bool.and_eq_true, decide_eq_true_eq, Bool.not_eq_true', decide_eq_false_iff_not]
    at hvalid
  refine ⟨?_, fun value h => onWrite_of_no_call json value s h⟩
  refine onWrite_toJson json hinverts (submit ssid psk jwt) s
    (fun h => hssid (mem_trim ssid _ h)) hpsk hjwt hvalid.1 ?_
  exact (Nat.le_of_not_lt hvalid.2).trans (length_dartString_le psk)

end Payload

section Library

def codeUnits (c : Nat) : DartString :=
  if c < 0x10000 then [c] else [0xD800 + (c - 0x10000) / 0x400, 0xDC00 + (c - 0x10000) % 0x400]

def stringMember (m : DartString × JsonValue) : Option (List Nat × JsonVariant DartString) :=
  m.2.asString.map (fun v => (utf8Encode m.1, .string (utf8Encode v)))

/-- The object that a map of strings is. -/
def stringMembers : JsonValue → Option (JsonVariant DartString)
  | .map members => (members.mapM stringMember).map .object
  | _ => none

/-- The decoder of the app in the place of the library, as far as it is asked
    for maps of strings. -/
def dartJson : ArduinoJson DartString where
  deserializeJson bytes := (Python.decodeUtf8 bytes).bind (fun codes =>
    (jsonDecode (codes.flatMap codeUnits)).bind stringMembers)
  valueOf _ := 0
  asFloat _ := 0

theorem stringMembers_decoded (members : List (String × String)) :
    stringMembers (.map ((members.map unitsOf).map Encoder.decoded)) =
      some (.object (members.map (fun m => (Utf8.encode m.1, .string (Utf8.encode m.2))))) := by
  rw [stringMembers, Option.map_eq_some_iff]
  refine ⟨_, ?_, rfl⟩
  induction members with
  | nil => rfl
  | cons m members ih =>
      have hmember : stringMember (Encoder.decoded (unitsOf m)) =
          some (Utf8.encode m.1, .string (Utf8.encode m.2)) := by
        rw [stringMember, Encoder.decoded, unitsOf, JsonValue.asString, Option.map_some,
          utf8Encode_dartString, utf8Encode_dartString]
      rw [List.map_cons, List.map_cons, List.mapM_cons, hmember, ih, List.map_cons]
      rfl

/-- It reads what the app writes. -/
theorem inverts_dartJson : Inverts dartJson := by
  intro members _
  obtain ⟨text, htext⟩ := isText_jsonEncode members
  have hunits : (text.toList.map Char.toNat).flatMap codeUnits = dartString text :=
    List.flatMap_map _ _ _
  have hdecoded := decode_encode (members.map unitsOf)
  rw [htext] at hdecoded ⊢
  rw [utf8Encode_dartString, dartJson]
  dsimp only
  rw [decodeUtf8_encode, Option.bind_some, hunits, hdecoded, Option.bind_some,
    stringMembers_decoded]

def blank : Provisioning := ⟨none, [], ⟨[], [], []⟩, false, []⟩

/-- A name with accents and with blanks around it, a password of eight units, and
    no JWT. -/
theorem onWrite_payload_blanks :
    onWrite dartJson (provisionWifi (submit " Sítio São João " "pêssego1" none)) blank =
      onProvisionReceived ⟨Utf8.encode "Sítio São João", Utf8.encode "pêssego1", []⟩ blank := by
  have htrim : Pairing.trim " Sítio São João " = "Sítio São João" := by decide
  rw [← htrim]
  exact (onWrite_payload dartJson inverts_dartJson " Sítio São João " "pêssego1" none (by decide)
    (by decide) (fun _ h => by cases h) (by decide) blank).1

end Library

end ProvisionPayload

end Mobile

end Vena
