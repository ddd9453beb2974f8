import Mathlib.Data.List.Basic

/-!
# What a Board Calls Itself

`buildDeviceId` derives three texts from the factory address of the chip: the
id, the BLE name, and the pairing code it lets a phone read.

## Main definitions

* `Mac`: The six bytes of `esp_efuse_mac_get_default`.
* `buildDeviceId`: The three texts.
* `Spells`: The ways to write an address down.

## Theorems

* `length_pairingCode`: The code has nine characters.
* `deviceId_injective`: The ids of two boards differ.
* `filter_spells`: Without its separators every spelling is the twelve digits.
-/

namespace Vena

namespace Firmware

abbrev Mac := Fin 6 → UInt8

/-- `%02x` of a byte. -/
def hex2 (b : UInt8) : List Char :=
  [Nat.digitChar (b.toNat / 16), Nat.digitChar (b.toNat % 16)]

/-- `%02X` of a byte. -/
def upperHex2 (b : UInt8) : List Char := (hex2 b).map Char.toUpper

/-- `snprintf` into a buffer of the size, as the string that is then in it. -/
def snprintf (size : Nat) (text : List Char) : String := String.ofList (text.take (size - 1))

/-- The buffers of `main.cpp`. -/
structure Identity where
  deviceId : String
  bleName : String
  pairingCode : String
  deriving DecidableEq, Repr

/-- `BLE_DEVICE_PREFIX`. -/
def bleDevicePrefix : String := "Vena-"

def buildDeviceId (mac : Mac) : Identity where
  deviceId := snprintf 20 ("vena-".toList ++ (hex2 (mac 0) ++ hex2 (mac 1) ++ hex2 (mac 2) ++
    hex2 (mac 3) ++ hex2 (mac 4) ++ hex2 (mac 5)))
  bleName := snprintf 12 (bleDevicePrefix.toList ++ (upperHex2 (mac 4) ++ upperHex2 (mac 5)))
  pairingCode := snprintf 10 (upperHex2 (mac 0 ^^^ 0x5A) ++ upperHex2 (mac 1 ^^^ 0xA5) ++ ['-'] ++
    upperHex2 (mac 2 ^^^ 0x3C) ++ upperHex2 (mac 3 ^^^ 0xC3))

/-- The digits of the address, byte by byte. -/
def Mac.pairs (mac : Mac) : List (List Char) :=
  [mac 0, mac 1, mac 2, mac 3, mac 4, mac 5].map hex2

/-- The text is the address with a colon, a hyphen or nothing between the
    bytes, in letters of either case. -/
def Spells (mac : Mac) (text : String) : Prop :=
  ∃ sep ∈ [[], [':'], ['-']], text.toList.map Char.toLower = List.intercalate sep mac.pairs

/-- The address as Python's documentation writes it. -/
def Mac.text (mac : Mac) : String := String.ofList (List.intercalate [':'] mac.pairs)

theorem length_pairingCode (mac : Mac) : (buildDeviceId mac).pairingCode.toList.length = 9 := by
  unfold buildDeviceId snprintf
  rw [String.toList_ofList]
  rfl

/-- What is asked about the characters of an address. -/
theorem digitChar_spec : ∀ d < 16, (Nat.digitChar d).toLower = Nat.digitChar d ∧
    Nat.digitChar d ≠ ':' ∧ Nat.digitChar d ≠ '-' := by
  decide

/-- The characters of the address are digits. -/
theorem digit_of_pairs (mac : Mac) (pair : List Char) (hpair : pair ∈ mac.pairs) :
    ∀ c ∈ pair, ∃ d < 16, c = Nat.digitChar d := by
  rcases List.mem_map.mp hpair with ⟨b, _, rfl⟩
  have hlt := b.toNat_lt
  refine List.forall_mem_cons.mpr ⟨⟨b.toNat / 16, by omega, rfl⟩,
    List.forall_mem_singleton.mpr ⟨b.toNat % 16, by omega, rfl⟩⟩

/-- The id is `vena-` and the digits, and the buffer does not cut it. -/
theorem toList_deviceId (mac : Mac) :
    (buildDeviceId mac).deviceId.toList = ['v', 'e', 'n', 'a', '-'] ++ mac.pairs.flatten := by
  have hroot : "vena-".toList = ['v', 'e', 'n', 'a', '-'] := by decide
  unfold buildDeviceId snprintf
  rw [String.toList_ofList, hroot]
  rfl

theorem hex2_injective (a b : UInt8) (h : hex2 a = hex2 b) : a = b := by
  have hdigit : ∀ d < 16, ∀ e < 16, Nat.digitChar d = Nat.digitChar e → d = e := by decide
  have ha := a.toNat_lt
  have hb := b.toNat_lt
  rw [hex2, hex2, List.cons.injEq, List.cons.injEq] at h
  have hhigh := hdigit _ (by omega) _ (by omega) h.1
  have hlow := hdigit _ (by omega) _ (by omega) h.2.1
  exact UInt8.toNat_inj.mp (by omega)

/-- Two boards do not share an id. -/
theorem deviceId_injective (mac mac' : Mac)
    (h : (buildDeviceId mac).deviceId = (buildDeviceId mac').deviceId) : mac = mac' := by
  have hlist := congrArg String.toList h
  rw [toList_deviceId, toList_deviceId, List.append_cancel_left_eq] at hlist
  have hlength : mac.pairs.map List.length = mac'.pairs.map List.length := rfl
  have hpairs := List.eq_iff_flatten_eq.mpr ⟨hlist, hlength⟩
  simp only [Mac.pairs, List.map_cons, List.map_nil, List.cons.injEq, and_true] at hpairs
  obtain ⟨h0, h1, h2, h3, h4, h5⟩ := hpairs
  funext i
  match i with
  | 0 => exact hex2_injective _ _ h0
  | 1 => exact hex2_injective _ _ h1
  | 2 => exact hex2_injective _ _ h2
  | 3 => exact hex2_injective _ _ h3
  | 4 => exact hex2_injective _ _ h4
  | 5 => exact hex2_injective _ _ h5

/-- What is neither in the root nor a digit is not in an id. -/
theorem not_mem_deviceId (mac : Mac) (c : Char) (hroot : c ∉ ['v', 'e', 'n', 'a', '-'])
    (hdigit : ∀ d < 16, Nat.digitChar d ≠ c) : c ∉ (buildDeviceId mac).deviceId.toList := by
  intro hc
  rw [toList_deviceId, List.mem_append, List.mem_flatten] at hc
  rcases hc with hin | ⟨pair, hpair, hin⟩
  · exact hroot hin
  · obtain ⟨d, hd, heq⟩ := digit_of_pairs mac pair hpair c hin
    exact hdigit d hd heq.symm

/-- What is put between the parts of a text can be filtered out again. -/
theorem filter_intercalate (p : Char → Bool) (sep : List Char) (hsep : ∀ c ∈ sep, p c = false)
    (parts : List (List Char)) :
    (∀ part ∈ parts, ∀ c ∈ part, p c = true) →
      (List.intercalate sep parts).filter p = parts.flatten := by
  have hnone : sep.filter p = [] := List.filter_eq_nil_iff.mpr (fun c hc => by
    rw [hsep c hc]
    exact Bool.false_ne_true)
  induction parts with
  | nil => exact fun _ => rfl
  | cons part parts ih =>
      intro h
      rw [List.forall_mem_cons] at h
      have hself : part.filter p = part := List.filter_eq_self.mpr h.1
      cases parts with
      | nil =>
          rw [List.intercalate_singleton, hself]
          exact (List.append_nil part).symm
      | cons next parts =>
          rw [List.intercalate_cons_cons, List.filter_append, List.filter_append, hself, hnone,
            List.append_nil, ih h.2]
          rfl

/-- Without its separators every spelling is the digits of the address. -/
theorem filter_spells (mac : Mac) (text : String) (h : Spells mac text) :
    (text.toList.map Char.toLower).filter (fun c => c ≠ ':' ∧ c ≠ '-') = mac.pairs.flatten := by
  rcases h with ⟨sep, hsep, htext⟩
  rw [htext]
  refine filter_intercalate _ sep ?_ mac.pairs ?_
  · simp only [List.mem_cons, List.not_mem_nil, or_false] at hsep
    rcases hsep with rfl | rfl | rfl
    · exact fun c hc => absurd hc List.not_mem_nil
    · exact List.forall_mem_singleton.mpr rfl
    · exact List.forall_mem_singleton.mpr rfl
  · intro pair hpair c hc
    rcases digit_of_pairs mac pair hpair c hc with ⟨d, hd, rfl⟩
    exact decide_eq_true (digitChar_spec d hd).2

theorem map_intercalate (f : Char → Char) (sep : List Char) (parts : List (List Char)) :
    (List.intercalate sep parts).map f =
      List.intercalate (sep.map f) (parts.map (List.map f)) := by
  induction parts with
  | nil => rfl
  | cons part parts ih =>
      cases parts with
      | nil => rw [List.map_singleton, List.intercalate_singleton, List.intercalate_singleton]
      | cons next parts =>
          rw [List.map_cons] at ih
          rw [List.map_cons, List.map_cons, List.intercalate_cons_cons, List.intercalate_cons_cons,
            List.map_append, List.map_append, ih]

/-- The colons and lower case letters are one of the spellings. -/
theorem spells_text (mac : Mac) : Spells mac mac.text := by
  have hpair : ∀ pair ∈ mac.pairs, pair.map Char.toLower = id pair := by
    intro pair hpair
    refine (List.map_congr_left (fun c hc => ?_)).trans (List.map_id pair)
    rcases digit_of_pairs mac pair hpair c hc with ⟨d, hd, rfl⟩
    exact (digitChar_spec d hd).1
  have hlower : mac.pairs.map (List.map Char.toLower) = mac.pairs :=
    (List.map_congr_left hpair).trans (List.map_id mac.pairs)
  refine ⟨[':'], List.mem_cons_of_mem _ List.mem_cons_self, ?_⟩
  rw [Mac.text, String.toList_ofList, map_intercalate, hlower]
  rfl

end Firmware

end Vena
