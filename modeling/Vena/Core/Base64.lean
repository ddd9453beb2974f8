import Mathlib.Data.List.Basic

/-!
# Base64

Bytes as groups of six bits, three bytes in four of them, and the groups as
characters of the alphabet that is safe in URLs. What is left over at the end is
filled up with zeros; a group of zeros that stands for nothing is not written.

Reading them back fails for a single group at the end, which is less than a byte,
and where the bits that were filled up are not zero.

## Main definitions

* `sextets`, `octets`: Bytes in groups of six bits, and back.
* `digit`: The character of a group.
* `encode`: Bytes as text, without padding.

## Theorems

* `octets_sextets`: The bytes are read back.
* `mem_encode`: The characters of a text.
-/

namespace Vena

namespace Base64

/-- Bytes in groups of six bits, the upper bits first. -/
def sextets : List Nat → List Nat
  | [] => []
  | [a] => [a / 4, a % 4 * 16]
  | [a, b] => [a / 4, a % 4 * 16 + b / 16, b % 16 * 4]
  | a :: b :: c :: rest =>
    a / 4 :: (a % 4 * 16 + b / 16) :: (b % 16 * 4 + c / 64) :: c % 64 :: sextets rest

/-- The bytes that groups of six bits stand for. -/
def octets : List Nat → Option (List Nat)
  | [] => some []
  | [_] => none
  | [a, b] => if b % 16 = 0 then some [a * 4 + b / 16] else none
  | [a, b, c] => if c % 4 = 0 then some [a * 4 + b / 16, b % 16 * 16 + c / 4] else none
  | a :: b :: c :: d :: rest =>
    (octets rest).map
      (fun bytes => (a * 4 + b / 16) :: (b % 16 * 16 + c / 4) :: (c % 4 * 64 + d) :: bytes)

/-- The alphabet of RFC 4648, with the two characters that are safe in URLs. -/
def digit (n : Nat) : Nat :=
  if n < 26 then 0x41 + n
  else if n < 52 then 0x61 + (n - 26)
  else if n < 62 then 0x30 + (n - 52)
  else if n = 62 then 0x2D
  else 0x5F

def encode (bytes : List Nat) : List Nat := (sextets bytes).map digit

example : encode [0x66, 0x6F, 0x6F, 0x62] = [0x5A, 0x6D, 0x39, 0x76, 0x59, 0x67] := by decide

/-- The bytes are read back. -/
theorem octets_sextets (bytes : List Nat) (h : ∀ b ∈ bytes, b < 256) :
    octets (sextets bytes) = some bytes := by
  induction bytes using sextets.induct with
  | case1 => rfl
  -- One byte is left: its last two bits are at the top of a group.
  | case2 a =>
      have hzero : a % 4 * 16 % 16 = 0 := by omega
      have ha : a / 4 * 4 + a % 4 * 16 / 16 = a := by omega
      rw [sextets, octets, if_pos hzero, ha]
  -- Two bytes are left, and the last four bits.
  | case3 a b =>
      have hb : b < 256 := h b (by simp only [List.mem_cons, true_or, or_true])
      have hzero : b % 16 * 4 % 4 = 0 := by omega
      have ha : a / 4 * 4 + (a % 4 * 16 + b / 16) / 16 = a := by omega
      have hb : (a % 4 * 16 + b / 16) % 16 * 16 + b % 16 * 4 / 4 = b := by omega
      rw [sextets, octets, if_pos hzero, ha, hb]
  | case4 a b c rest ih =>
      have hb : b < 256 := h b (by simp only [List.mem_cons, true_or, or_true])
      have hc : c < 256 := h c (by simp only [List.mem_cons, true_or, or_true])
      have ha : a / 4 * 4 + (a % 4 * 16 + b / 16) / 16 = a := by omega
      have hb : (a % 4 * 16 + b / 16) % 16 * 16 + (b % 16 * 4 + c / 64) / 4 = b := by omega
      have hc : (b % 16 * 4 + c / 64) % 4 * 64 + c % 64 = c := by omega
      -- Three bytes are four groups, and what follows is on its own.
      have hrest := ih (fun x hx => h x (List.mem_cons_of_mem a
        (List.mem_cons_of_mem b (List.mem_cons_of_mem c hx))))
      rw [sextets, octets, hrest, Option.map_some, ha, hb, hc]

/-- A group has six bits. -/
theorem sextets_lt (bytes : List Nat) (h : ∀ b ∈ bytes, b < 256) : ∀ n ∈ sextets bytes, n < 64 := by
  induction bytes using sextets.induct with
  | case1 => exact fun n hn => absurd hn List.not_mem_nil
  | case2 a =>
      have ha : a < 256 := h a List.mem_cons_self
      intro n hn
      simp only [sextets, List.mem_cons, List.not_mem_nil, or_false] at hn
      omega
  | case3 a b =>
      have ha : a < 256 := h a List.mem_cons_self
      have hb : b < 256 := h b (by simp only [List.mem_cons, true_or, or_true])
      intro n hn
      simp only [sextets, List.mem_cons, List.not_mem_nil, or_false] at hn
      omega
  | case4 a b c rest ih =>
      have ha : a < 256 := h a List.mem_cons_self
      have hb : b < 256 := h b (by simp only [List.mem_cons, true_or, or_true])
      have hc : c < 256 := h c (by simp only [List.mem_cons, true_or, or_true])
      have hrest := ih (fun x hx => h x (List.mem_cons_of_mem a
        (List.mem_cons_of_mem b (List.mem_cons_of_mem c hx))))
      intro n hn
      simp only [sextets, List.mem_cons] at hn
      rcases hn with hn | hn | hn | hn | hn
      · omega
      · omega
      · omega
      · omega
      · exact hrest n hn

/-- The characters of a text: letters, digits, `-` and `_`. -/
def Digit (c : Nat) : Prop :=
  (0x41 ≤ c ∧ c ≤ 0x5A) ∨ (0x61 ≤ c ∧ c ≤ 0x7A) ∨ (0x30 ≤ c ∧ c ≤ 0x39) ∨ c = 0x2D ∨ c = 0x5F

theorem digit_digit (n : Nat) (h : n < 64) : Digit (digit n) := by
  have hall : ∀ n < 64, Digit (digit n) := by
    unfold Digit
    decide
  exact hall n h

theorem mem_encode (bytes : List Nat) (h : ∀ b ∈ bytes, b < 256) (c : Nat)
    (hc : c ∈ encode bytes) : Digit c := by
  rcases List.mem_map.mp hc with ⟨n, hn, rfl⟩
  exact digit_digit n (sextets_lt bytes h n hn)

end Base64

end Vena
