import Mathlib.Data.List.Basic

/-!
# UTF-8

The bytes of a text, for programs that hand texts over as bytes and measure
them in bytes. A byte is a natural number.

## Main definitions

* `bytes`: The bytes of a code point.
* `encode`: The bytes of a text.
* `Ascii`: A text of which every character is one byte.

## Theorems

* `zero_mem_encode`: A zero byte is the character U+0000.
* `encode_eq_nil`: Only the empty text has no bytes.
* `toNat_ascii`: ASCII is its own bytes.
-/

namespace Vena

namespace Utf8

def bytes (c : Nat) : List Nat :=
  if c < 0x80 then [c]
  else if c < 0x800 then [0xC0 + c / 64, 0x80 + c % 64]
  else if c < 0x10000 then [0xE0 + c / 4096, 0x80 + c / 64 % 64, 0x80 + c % 64]
  else [0xF0 + c / 262144, 0x80 + c / 4096 % 64, 0x80 + c / 64 % 64, 0x80 + c % 64]

def encode (s : String) : List Nat := s.toList.flatMap (fun c => bytes c.toNat)

example : encode "ã€" = [0xC3, 0xA3, 0xE2, 0x82, 0xAC] := by decide

/-- The bytes of a code point by the number of them. -/
inductive BytesCases (c : Nat) : Prop where
  | one (hc : c < 0x80) (h : bytes c = [c])
  | two (hc : 0x80 ≤ c ∧ c < 0x800) (h : bytes c = [0xC0 + c / 64, 0x80 + c % 64])
  | three (hc : 0x800 ≤ c ∧ c < 0x10000)
      (h : bytes c = [0xE0 + c / 4096, 0x80 + c / 64 % 64, 0x80 + c % 64])
  | four (hc : 0x10000 ≤ c)
      (h : bytes c = [0xF0 + c / 262144, 0x80 + c / 4096 % 64, 0x80 + c / 64 % 64, 0x80 + c % 64])

theorem bytes_cases (c : Nat) : BytesCases c := by
  by_cases h1 : c < 0x80
  · exact .one h1 (if_pos h1)
  by_cases h2 : c < 0x800
  · exact .two ⟨Nat.le_of_not_lt h1, h2⟩ (by rw [bytes, if_neg h1, if_pos h2])
  by_cases h3 : c < 0x10000
  · exact .three ⟨Nat.le_of_not_lt h2, h3⟩ (by rw [bytes, if_neg h1, if_neg h2, if_pos h3])
  · exact .four (Nat.le_of_not_lt h3) (by rw [bytes, if_neg h1, if_neg h2, if_neg h3])

theorem bytes_ne_nil (c : Nat) : bytes c ≠ [] := by
  cases bytes_cases c with
  | one _ h => rw [h]; exact List.cons_ne_nil _ _
  | two _ h => rw [h]; exact List.cons_ne_nil _ _
  | three _ h => rw [h]; exact List.cons_ne_nil _ _
  | four _ h => rw [h]; exact List.cons_ne_nil _ _

/-- Every byte but the first of a character below 0x80 has its upper bit set. -/
theorem zero_mem_bytes (c : Nat) (hzero : 0 ∈ bytes c) : c = 0 := by
  cases bytes_cases c with
  | one _ h =>
      rw [h, List.mem_singleton] at hzero
      exact hzero.symm
  | two _ h =>
      rw [h] at hzero
      simp only [List.mem_cons, List.not_mem_nil, or_false] at hzero
      omega
  | three _ h =>
      rw [h] at hzero
      simp only [List.mem_cons, List.not_mem_nil, or_false] at hzero
      omega
  | four _ h =>
      rw [h] at hzero
      simp only [List.mem_cons, List.not_mem_nil, or_false] at hzero
      omega

theorem zero_mem_encode (s : String) (hzero : 0 ∈ encode s) : '\x00' ∈ s.toList := by
  obtain ⟨c, hc, hmem⟩ := List.mem_flatMap.mp hzero
  have hnul : c = '\x00' := Char.toNat_inj.mp (zero_mem_bytes c.toNat hmem)
  exact hnul ▸ hc

theorem encode_eq_nil (s : String) : encode s = [] ↔ s = "" := by
  rw [encode, List.flatMap_eq_nil_iff]
  constructor
  · intro h
    refine String.toList_eq_nil_iff.mp (List.eq_nil_iff_forall_not_mem.mpr (fun c hc => ?_))
    exact bytes_ne_nil c.toNat (h c hc)
  · rintro rfl c hc
    exact absurd hc (by simp)

/-- Bytes that are ASCII, without a zero. -/
def Ascii (text : List Nat) : Prop := ∀ b ∈ text, 0 < b ∧ b < 0x80

instance (text : List Nat) : Decidable (Ascii text) :=
  inferInstanceAs (Decidable (∀ b ∈ text, _))

theorem ascii_nil : Ascii [] := fun _ hc => absurd hc List.not_mem_nil

theorem ascii_cons (c : Nat) (s : List Nat) (hc : 0 < c ∧ c < 0x80) (hs : Ascii s) :
    Ascii (c :: s) :=
  List.forall_mem_cons.mpr ⟨hc, hs⟩

theorem ascii_append (s t : List Nat) (hs : Ascii s) (ht : Ascii t) : Ascii (s ++ t) :=
  List.forall_mem_append.mpr ⟨hs, ht⟩

/-- Its bytes are its characters. -/
theorem toNat_ascii (text : List Nat) (h : Ascii text) :
    (text.map UInt8.ofNat).map UInt8.toNat = text := by
  rw [List.map_map]
  refine (List.map_congr_left (fun b hb => ?_)).trans (List.map_id text)
  have hlt := (h b hb).2
  rw [Function.comp, UInt8.toNat_ofNat', id]
  omega

end Utf8

end Vena
