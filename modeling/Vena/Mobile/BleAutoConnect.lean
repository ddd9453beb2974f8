import Vena.Backend.PairingCode

/-!
# The Name an App Scans For

The detail screen of a device scans for its BLE name, which the app derives from
the device id; nothing tells it the name the board really advertises. The board
derives both texts from its address, and so do the seed script and
`scripts/generate_qr.py` from a spelling of the address that somebody types in.
All of them format and cut hexadecimal strings on their own, and they agree.

The strings at hand are ASCII, so a character is one code unit for Dart and one
byte for the firmware.

## Main definitions

* `advertisedName`: What `startAdvertising` sets.
* `bleNameFromDeviceId`, `looksFor`: The app.
* `GenerateQr.macToDeviceId`, `GenerateQr.macToBleName`: The QR generator.
* `SameIdentity`: All of them agree on an address.

## Theorems

* `bleName_of_deviceId`: The app derives the name of the board.
* `identities_agree`: Whatever spelling of the address the scripts are given.
-/

namespace Vena

namespace Firmware

/-- `strncpy(dst, src, size - 1)` into an array of zeros, as the string that is
    then in it. -/
def strncpy (size : Nat) (src : String) : String :=
  String.ofList (src.toList.take (size - 1))

/-- `_deviceName`, which `startAdvertising` sets as the name. -/
def advertisedName (mac : Mac) : String := strncpy 32 (buildDeviceId mac).bleName

end Firmware

namespace GenerateQr

/-- `mac.replace(":", "").replace("-", "")`. -/
def withoutSeparators (mac : String) : List Char :=
  mac.toList.filter (fun c => c ≠ ':' ∧ c ≠ '-')

/-- `mac_to_device_id`; `none` stands for the `ValueError`. -/
def macToDeviceId (mac : String) : Option String :=
  let clean := (withoutSeparators mac).map Char.toLower
  if clean.length ≠ 12 then none else some (String.ofList ("vena-".toList ++ clean))

/-- `mac_to_ble_name`. -/
def macToBleName (mac : String) : String :=
  let clean := (withoutSeparators mac).map Char.toUpper
  String.ofList ("Vena-".toList ++ clean.drop (clean.length - 4))

end GenerateQr

namespace Mobile

namespace BleAutoConnect

open Firmware

/-- `s.replaceFirst(pattern, replacement)`. -/
def replaceFirst (pattern replacement : List Char) : List Char → List Char
  | [] => if pattern = [] then replacement else []
  | c :: cs =>
    if pattern.isPrefixOf (c :: cs) then replacement ++ (c :: cs).drop pattern.length
    else c :: replaceFirst pattern replacement cs

def bleNameFromDeviceId (deviceId : String) : String :=
  let hex := replaceFirst "vena-".toList [] deviceId.toList
  if hex.length < 4 then ""
  else String.ofList ("Vena-".toList ++ (hex.drop (hex.length - 4)).map Char.toUpper)

/-- Whether the scan of `bleAutoConnectProvider` connects to a board of that
    name. -/
def looksFor (deviceId name : String) : Bool :=
  let expectedName := bleNameFromDeviceId deviceId
  -- Without a name to expect the provider returns before it scans.
  if expectedName = "" then false else name = expectedName

/-- The firmware, the two scripts and the app agree on the id and the name of
    the board with the address, which the scripts are given as the text. -/
structure SameIdentity (mac : Mac) (text : String) : Prop where
  seeded : Backend.macToDeviceId text = (buildDeviceId mac).deviceId
  encoded : GenerateQr.macToDeviceId text = some (buildDeviceId mac).deviceId
  advertised : advertisedName mac = (buildDeviceId mac).bleName
  derived : bleNameFromDeviceId (buildDeviceId mac).deviceId = advertisedName mac
  printed : GenerateQr.macToBleName text = advertisedName mac
  found : ∀ name, looksFor (buildDeviceId mac).deviceId name = true ↔ name = advertisedName mac

theorem toLower_of_not_upper (c : Char) (h : ¬ (c.val ≥ 'A'.val ∧ c.val ≤ 'Z'.val)) :
    c.toLower = c := dif_neg h

/-- Only an upper case letter has another lower case. -/
theorem toLower_eq_iff (c d : Char) (hd : d.toNat < 65) : c.toLower = d ↔ c = d := by
  by_cases h : c.val ≥ 'A'.val ∧ c.val ≤ 'Z'.val
  · have hge : 65 ≤ c.toNat := h.1
    have hle : c.toNat ≤ 90 := h.2
    have hall : ∀ n ≤ 90, 65 ≤ n → 97 ≤ (Char.ofNat n).toLower.toNat := by decide
    have hlower := hall c.toNat hle hge
    rw [Char.ofNat_toNat] at hlower
    constructor
    · intro heq
      rw [heq] at hlower
      omega
    · intro heq
      rw [heq] at hge
      omega
  · rw [toLower_of_not_upper c h]

theorem toUpper_toLower (c : Char) : c.toLower.toUpper = c.toUpper := by
  by_cases h : c.val ≥ 'A'.val ∧ c.val ≤ 'Z'.val
  · have hge : 65 ≤ c.toNat := h.1
    have hle : c.toNat ≤ 90 := h.2
    have hall : ∀ n ≤ 90, 65 ≤ n →
        (Char.ofNat n).toLower.toUpper = (Char.ofNat n).toUpper := by decide
    have hupper := hall c.toNat hle hge
    rwa [Char.ofNat_toNat] at hupper
  · rw [toLower_of_not_upper c h]

/-- The order in which a script lowers the text and drops its separators does
    not matter. -/
theorem lower_withoutSeparators (text : String) :
    (GenerateQr.withoutSeparators text).map Char.toLower = Backend.cleanMac text := by
  have hsame : ∀ c : Char, (c.toLower ≠ ':' ∧ c.toLower ≠ '-') ↔ (c ≠ ':' ∧ c ≠ '-') := by
    intro c
    rw [Ne, toLower_eq_iff c ':' (by decide), Ne, toLower_eq_iff c '-' (by decide)]
  rw [GenerateQr.withoutSeparators, Backend.cleanMac, List.filter_map]
  congr 1
  refine List.filter_congr (fun c _ => ?_)
  rw [Function.comp, decide_eq_decide]
  exact (hsame c).symm

theorem upper_withoutSeparators (text : String) :
    (GenerateQr.withoutSeparators text).map Char.toUpper =
      (Backend.cleanMac text).map Char.toUpper := by
  rw [← lower_withoutSeparators, List.map_map]
  exact List.map_congr_left (fun c _ => (toUpper_toLower c).symm)

theorem lowerVena_toList : "vena-".toList = ['v', 'e', 'n', 'a', '-'] := by decide

theorem vena_toList : "Vena-".toList = ['V', 'e', 'n', 'a', '-'] := by decide

/-- The name ends in the last four digits of the address. -/
theorem bleName_eq (mac : Mac) : (buildDeviceId mac).bleName =
    String.ofList ("Vena-".toList ++ (mac.pairs.flatten.drop 8).map Char.toUpper) := by
  have hdevice : bleDevicePrefix.toList = ['V', 'e', 'n', 'a', '-'] := by decide
  unfold buildDeviceId snprintf
  rw [hdevice, vena_toList]
  rfl

/-- The id is `vena-` and the twelve digits. -/
theorem deviceId_eq (mac : Mac) : (buildDeviceId mac).deviceId =
    String.ofList ("vena-".toList ++ mac.pairs.flatten) := by
  unfold buildDeviceId snprintf
  rw [lowerVena_toList]
  rfl

theorem length_pairs (mac : Mac) : mac.pairs.flatten.length = 12 := rfl

theorem length_bleName (mac : Mac) : (buildDeviceId mac).bleName.toList.length = 9 := by
  rw [bleName_eq, String.toList_ofList, vena_toList]
  rfl

/-- Ten bytes with the terminator, so the buffer does not cut the name. -/
theorem advertisedName_eq (mac : Mac) : advertisedName mac = (buildDeviceId mac).bleName := by
  have hle : (buildDeviceId mac).bleName.toList.length ≤ 32 - 1 := by
    rw [length_bleName]
    decide
  rw [advertisedName, strncpy, List.take_of_length_le hle, String.ofList_toList]

/-- What the app makes of the id of a board is the name of the board. -/
theorem bleName_of_deviceId (mac : Mac) :
    bleNameFromDeviceId (buildDeviceId mac).deviceId = (buildDeviceId mac).bleName := by
  have hhex : replaceFirst "vena-".toList [] (buildDeviceId mac).deviceId.toList =
      mac.pairs.flatten := by
    rw [deviceId_eq, lowerVena_toList, String.toList_ofList]
    rfl
  have hlength : ¬ mac.pairs.flatten.length < 4 := by
    rw [length_pairs]
    decide
  unfold bleNameFromDeviceId
  rw [hhex, bleName_eq]
  show (if mac.pairs.flatten.length < 4 then "" else _) = _
  rw [if_neg hlength, length_pairs]

/-- Every spelling of an address leads to one id and one name. -/
theorem identities_agree (mac : Mac) (text : String) (h : Spells mac text) :
    SameIdentity mac text := by
  have hclean : Backend.cleanMac text = mac.pairs.flatten := filter_spells mac text h
  have hseeded := Backend.deviceId_spells mac text h
  have hname := advertisedName_eq mac
  have hderived := (bleName_of_deviceId mac).trans hname.symm
  refine ⟨hseeded, ?_, hname, hderived, ?_, fun name => ?_⟩
  · have hlength : ¬ mac.pairs.flatten.length ≠ 12 := fun hne => hne (length_pairs mac)
    rw [deviceId_eq]
    unfold GenerateQr.macToDeviceId
    rw [lower_withoutSeparators, hclean]
    exact if_neg hlength
  · have hdrop : (mac.pairs.flatten.map Char.toUpper).drop
        ((mac.pairs.flatten.map Char.toUpper).length - 4) =
          (mac.pairs.flatten.drop 8).map Char.toUpper := by
      rw [List.length_map, length_pairs, List.map_drop]
    rw [hname, bleName_eq]
    unfold GenerateQr.macToBleName
    rw [upper_withoutSeparators, hclean]
    exact congrArg (fun digits => String.ofList ("Vena-".toList ++ digits)) hdrop
  · have hne : (buildDeviceId mac).bleName ≠ "" := by
      intro hempty
      have hnine := length_bleName mac
      rw [hempty] at hnine
      exact absurd hnine (by decide)
    unfold looksFor
    dsimp only
    rw [hderived, hname, if_neg hne, decide_eq_true_eq]

theorem identities_agree_hyphens :
    SameIdentity Backend.demoAddress "D0-ef-76-32-35-F4" :=
  identities_agree Backend.demoAddress "D0-ef-76-32-35-F4"
    ⟨['-'], List.mem_cons_of_mem _ (List.mem_cons_of_mem _ List.mem_cons_self), by decide⟩

end BleAutoConnect

end Mobile

end Vena
