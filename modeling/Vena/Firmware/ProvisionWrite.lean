import Vena.Firmware.ArduinoJson
import Vena.Firmware.Network

/-!
# The write callback of the provisioning characteristic

`ProvisionWriteCallbacks::onWrite` on the bytes that a phone writes, down to
`onProvisionReceived`. The strings of the firmware are bytes here and are
measured in bytes. `Network` has the same handler on texts, and the two agree
on the bytes of a text.

## Main definitions

* `Credentials`: `WifiCredentials`, in bytes.
* `Provisioning`: What an accepted write changes.
* `onWrite`: The callback.
* `provisioning`: The view of `Network` in bytes.

## Theorems

* `onWrite_cases`: A write is dropped or handed on.
* `provisioning_onProvisionReceived`: The handler of `Network`, in bytes.
-/

namespace Vena

namespace Firmware

namespace ProvisionWrite

structure Credentials where
  ssid : List Nat
  psk : List Nat
  jwt : List Nat
  deriving DecidableEq, Repr

/-- The two places in the flash, the record and the flag for `loop()`, and the
    calls of the callback so far. -/
structure Provisioning where
  provisioned : Option Credentials
  deviceJwt : List Nat
  pendingCreds : Credentials
  pendingProvision : Bool
  calls : List Credentials
  deriving DecidableEq, Repr

def onProvisionReceived (creds : Credentials) (s : Provisioning) : Provisioning where
  provisioned := some creds
  -- A write without a JWT keeps the one that is stored.
  deviceJwt := if creds.jwt ≠ [] then creds.jwt else s.deviceJwt
  pendingCreds := creds
  pendingProvision := true
  calls := s.calls ++ [creds]

variable {ν : Type} (json : ArduinoJson ν)

/-- `value` is what the client has written. -/
def onWrite (value : List Nat) (s : Provisioning) : Provisioning :=
  if value = [] then s
  else match json.deserializeJson value with
    | none => s
    | some doc => match doc.member "ssid", doc.member "psk" with
      | .string ssid, .string psk =>
        let creds : Credentials :=
          { ssid := arduinoString ssid
            psk := arduinoString psk
            -- The JWT is optional, and ignored if it is no string.
            jwt := match doc.member "jwt" with
              | .string jwt => arduinoString jwt
              | _ => [] }
        if creds.ssid = [] ∨ creds.psk.length < 8 then s else onProvisionReceived creds s
      | _, _ => s

/-- A write is dropped, or its credentials are handed on. -/
theorem onWrite_cases (value : List Nat) (s : Provisioning) :
    onWrite json value s = s ∨
      ∃ creds, creds.ssid ≠ [] ∧ 8 ≤ creds.psk.length ∧
        onWrite json value s = onProvisionReceived creds s := by
  unfold onWrite
  split
  · exact Or.inl rfl
  split
  · exact Or.inl rfl
  split
  · dsimp only
    split
    · exact Or.inl rfl
    · next hvalid =>
        obtain ⟨hssid, hpsk⟩ := not_or.mp hvalid
        exact Or.inr ⟨_, hssid, Nat.le_of_not_lt hpsk, rfl⟩
  · exact Or.inl rfl

/-- What does not lead to a call changes nothing. -/
theorem onWrite_of_no_call (value : List Nat) (s : Provisioning)
    (h : (onWrite json value s).calls = s.calls) : onWrite json value s = s := by
  rcases onWrite_cases json value s with hsame | ⟨creds, _, _, hcall⟩
  · exact hsame
  · rw [hcall] at h
    have hlength := congrArg List.length h
    rw [onProvisionReceived, List.length_append, List.length_singleton] at hlength
    omega

/-- The credentials of an object with the three strings. -/
theorem onWrite_of_members (value : List Nat) (s : Provisioning) (doc : JsonVariant ν)
    (ssid psk : List Nat) (hvalue : value ≠ []) (hdoc : json.deserializeJson value = some doc)
    (hssid : doc.member "ssid" = .string ssid) (hpsk : doc.member "psk" = .string psk) :
    onWrite json value s =
      let creds : Credentials :=
        { ssid := arduinoString ssid
          psk := arduinoString psk
          jwt := match doc.member "jwt" with
            | .string jwt => arduinoString jwt
            | _ => [] }
      if creds.ssid = [] ∨ creds.psk.length < 8 then s else onProvisionReceived creds s := by
  rw [onWrite, if_neg hvalue, hdoc]
  dsimp only
  rw [hssid, hpsk]

section Texts

def ofTexts (creds : WifiCredentials) : Credentials where
  ssid := Utf8.encode creds.ssid
  psk := Utf8.encode creds.psk
  jwt := Utf8.encode creds.jwt

/-- What a write changes of `Network`, in bytes. -/
def provisioning (calls : List Credentials) (s : Network) : Provisioning where
  provisioned := s.nvs.provisioned.map ofTexts
  deviceJwt := Utf8.encode s.nvs.deviceJwt
  pendingCreds := ofTexts s.pendingCreds
  pendingProvision := s.pendingProvision
  calls := calls

/-- The handler of `Network`, in bytes. -/
theorem provisioning_onProvisionReceived (calls : List Credentials) (creds : WifiCredentials)
    (s : Network) :
    provisioning (calls ++ [ofTexts creds]) (Network.onProvisionReceived creds s) =
      onProvisionReceived (ofTexts creds) (provisioning calls s) := by
  unfold provisioning onProvisionReceived Network.onProvisionReceived
  by_cases hjwt : creds.jwt = ""
  · have hbytes : (ofTexts creds).jwt = [] := (Utf8.encode_eq_nil creds.jwt).mpr hjwt
    simp only [hjwt, hbytes, ne_eq, not_true_eq_false, if_false, Option.map_some]
  · have hbytes : (ofTexts creds).jwt ≠ [] := mt (Utf8.encode_eq_nil creds.jwt).mp hjwt
    simp only [hjwt, hbytes, ne_eq, not_false_eq_true, if_true, Option.map_some]
    rfl

end Texts

end ProvisionWrite

end Firmware

end Vena
