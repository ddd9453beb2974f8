import Vena.Core.Utf8
import Mathlib.Data.Nat.Digits.Lemmas

/-!
# Decimal Numerals

The digits of a natural number as text, with as many of them as it needs or with
a fixed number of them. A numeral is the list of the codes of its characters.

## Main definitions

* `digits`, `padded`: The two numerals of a number.
* `value`: The number a numeral stands for.
* `Numeral`: Nothing but digits.

## Theorems

* `value_digits`: The digits of a number stand for it.
* `digits_begins`: A numeral does not begin with a zero, unless that is all.
* `length_digits`, `length_padded`: How long they are.
* `ascii_numeral`: A numeral is ASCII.
-/

namespace Vena

namespace Decimal

def digits (n : Nat) : List Nat :=
  if n = 0 then [0x30] else (Nat.digits 10 n).reverse.map (fun d => 0x30 + d)

/-- The last `width` digits, with zeros in front of them. -/
def padded : Nat → Nat → List Nat
  | 0, _ => []
  | width + 1, n => padded width (n / 10) ++ [0x30 + n % 10]

def value (s : List Nat) : Nat := s.foldl (fun n c => n * 10 + (c - 0x30)) 0

/-- All of them are digits. -/
def Numeral (s : List Nat) : Prop := ∀ c ∈ s, 0x30 ≤ c ∧ c ≤ 0x39

theorem numeral_digits (n : Nat) : Numeral (digits n) := by
  intro c hc
  rw [digits] at hc
  split at hc
  · rw [List.mem_singleton] at hc
    omega
  · obtain ⟨d, hd, rfl⟩ := List.mem_map.mp hc
    have hlt : d < 10 := Nat.digits_lt_base (by decide) (List.mem_reverse.mp hd)
    omega

/-- The digits of a number stand for it. -/
theorem value_digits (n : Nat) : value (digits n) = n := by
  rw [digits]
  split
  · next hzero => exact hzero.symm
  · rw [value, List.foldl_map, List.foldl_reverse]
    calc (Nat.digits 10 n).foldr (fun d m => m * 10 + (0x30 + d - 0x30)) 0
        = (Nat.digits 10 n).foldr (fun d m => d + 10 * m) 0 := by
          refine congrArg (fun f => List.foldr f 0 _) (funext₂ fun d m => ?_)
          omega
      _ = Nat.ofDigits 10 (Nat.digits 10 n) := by
          rw [Nat.ofDigits_eq_foldr]
          rfl
      _ = n := Nat.ofDigits_digits 10 n

/-- They begin with a zero only if that is all. -/
theorem digits_begins (n : Nat) :
    digits n = [0x30] ∨ ∃ d ds, digits n = d :: ds ∧ 0x30 < d ∧ d ≤ 0x39 := by
  by_cases hzero : n = 0
  · exact Or.inl (by rw [digits, if_pos hzero])
  · have hne := Nat.digits_ne_nil_iff_ne_zero (b := 10) |>.mpr hzero
    have hlast := Nat.getLast_digit_ne_zero 10 hzero
    have hlt := Nat.digits_lt_base (by decide) (List.getLast_mem hne)
    refine Or.inr ⟨0x30 + (Nat.digits 10 n).getLast hne,
      (Nat.digits 10 n).dropLast.reverse.map (fun d => 0x30 + d), ?_, by omega, by omega⟩
    rw [digits, if_neg hzero, ← List.map_cons, ← List.reverse_concat,
      List.dropLast_concat_getLast]

theorem digits_ne_nil (n : Nat) : digits n ≠ [] := by
  rcases digits_begins n with h | ⟨d, ds, h, _⟩
  · rw [h]
    exact List.cons_ne_nil _ _
  · rw [h]
    exact List.cons_ne_nil _ _

theorem length_digits (n k : Nat) (hk : 0 < k) (h : n < 10 ^ k) : (digits n).length ≤ k := by
  rw [digits]
  split
  · exact hk
  · rw [List.length_map, List.length_reverse]
    exact (Nat.digits_length_le_iff (by decide) n).mpr h

theorem numeral_padded (width n : Nat) : Numeral (padded width n) := by
  induction width generalizing n with
  | zero => exact fun c hc => absurd hc List.not_mem_nil
  | succ width ih =>
      intro c hc
      rw [padded, List.mem_append, List.mem_singleton] at hc
      rcases hc with hc | rfl
      · exact ih (n / 10) c hc
      · omega

theorem length_padded (width n : Nat) : (padded width n).length = width := by
  induction width generalizing n with
  | zero => rfl
  | succ width ih => rw [padded, List.length_append, ih, List.length_singleton]

theorem ascii_numeral (s : List Nat) (h : Numeral s) : Utf8.Ascii s := by
  intro c hc
  have hrange := h c hc
  omega

end Decimal

end Vena
