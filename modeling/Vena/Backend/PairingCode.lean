import Vena.Backend.Claimable
import Vena.Firmware.DeviceId

/-!
# One Address, Three Codes

The firmware, `scripts/generate_qr.py` and the backend each derive a device id
and a pairing code from an address. The ids agree, however the address is
written down, and so do the codes of the two scripts, which hash it. The code of
the firmware is another one: it does not know the secret.

## Main definitions

* `macToPairingCode`: The code of `generate_qr.py`.
* `OneCode`: All three have the same code for every spelling of an address.

## Theorems

* `deviceId_spells`: The ids agree.
* `pairingCode_spells`: The codes of the scripts agree.
* `one_code_never`: The firmware's code is never theirs.
-/

namespace Vena

namespace Backend

open Python Firmware

/-- `mac_to_pairing_code`. -/
def macToPairingCode (sha256hex : String → String) (mac secret : String) : String :=
  String.ofList
    (((sha256hex (macNorm (cleanMac mac) ++ secret)).toList.take 8).map Char.toUpper)

/-- The firmware, the QR code and the backend have one code. -/
def OneCode (env : PairingEnv) (mac : Mac) : Prop :=
  ∀ text, Spells mac text →
    (buildDeviceId mac).pairingCode = macToPairingCode env.sha256hex text env.pairingSecret ∧
    macToPairingCode env.sha256hex text env.pairingSecret = generatePairingCode env text

/-- The id of the firmware is the one of the seed script, from any spelling. -/
theorem deviceId_spells (mac : Mac) (text : String) (h : Spells mac text) :
    macToDeviceId text = (buildDeviceId mac).deviceId := by
  have hvena : "vena-".toList = ['v', 'e', 'n', 'a', '-'] := by decide
  have hclean : cleanMac text = mac.pairs.flatten := filter_spells mac text h
  -- The text of the firmware fits into its buffer.
  unfold macToDeviceId buildDeviceId snprintf
  rw [hclean, hvena]
  rfl

/-- The code of the QR code is the one the backend stores, and the spelling does
    not matter. -/
theorem pairingCode_spells (env : PairingEnv) (mac : Mac) (text : String) (h : Spells mac text) :
    macToPairingCode env.sha256hex text env.pairingSecret = generatePairingCode env text ∧
    generatePairingCode env text = generatePairingCode env mac.text := by
  refine ⟨rfl, pairingCode_of_deviceId env text mac.text ?_⟩
  rw [deviceId_spells mac text h, deviceId_spells mac mac.text (spells_text mac)]

/-- The code the backend stores has at most eight characters. -/
theorem length_generatePairingCode (env : PairingEnv) (text : String) :
    (generatePairingCode env text).toList.length ≤ 8 := by
  rw [generatePairingCode, String.toList_ofList, List.length_map]
  exact List.length_take_le 8 _

/-- The three never have one code. -/
theorem one_code_never (env : PairingEnv) (mac : Mac) : ¬OneCode env mac := by
  intro h
  rcases h mac.text (spells_text mac) with ⟨hfirmware, hscripts⟩
  have hlength := length_generatePairingCode env mac.text
  rw [← hscripts, ← hfirmware, length_pairingCode] at hlength
  exact absurd hlength (by decide)

/-- D0:EF:76:32:35:F4, the address in the usage text of the script. -/
def demoAddress : Mac := fun i => [0xD0, 0xEF, 0x76, 0x32, 0x35, 0xF4].getD i.val 0

/-- The firmware shows 8A4A-4AF1 for it, and the QR code has no hyphen. -/
theorem two_codes : ¬∀ (env : PairingEnv) (mac : Mac), OneCode env mac := by
  intro hall
  have hone := (hall Seeding.demoFactory demoAddress demoAddress.text (spells_text demoAddress)).1
  exact absurd hone (by decide +kernel)

end Backend

end Vena
