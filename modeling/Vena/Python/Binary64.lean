import Mathlib.Data.Nat.Log
import Mathlib.Tactic.Ring
import Mathlib.Tactic.Linarith

/-!
# Binary64

The numbers of Python's type `float` and how a quotient of integers is rounded
to one: to the nearest, ties to the even mantissa, as true division of integers
and the conversion of a decimal literal both do. A finite number is a mantissa
and an exponent; the pair is not always normalised, only its value counts.

## Main definitions

* `roundHalfEven`: The nearest integer to a quotient.
* `PyFloat`: A binary64 number.
* `PyFloat.ofRatio`: The number nearest to a quotient.
* `PyFloat.trunc`, `PyFloat.scaled`: Its integer part, and the nearest integer
  to a multiple of it.

## Theorems

* `roundHalfEven_le`, `lt_roundHalfEven`: When the nearest integer is below or
  above a bound.
* `lastPlace_spec`: The exponent of a quotient of at least one.
* `mantissa_le`, `le_mantissa`: A mantissa has 53 bits.
* `value_le`, `lt_value`: When the rounded quotient is below or above a bound.
-/

namespace Vena

namespace Python

/-- The nearest integer to `a / b`, and of two the even one. -/
def roundHalfEven (a b : Nat) : Nat :=
  if 2 * (a % b) < b ∨ (2 * (a % b) = b ∧ a / b % 2 = 0) then a / b else a / b + 1

/-- The exponent of the last place of the binary64 number nearest to `a / b`:
    the quotient has 53 bits before it, unless it is subnormal. -/
def lastPlace (a b : Nat) : Int :=
  if b ≤ a then ((a / b).log2 : Int) - 52
  else max (-1074) (-(((b - 1) / a).log2 : Int) - 53)

/-- The nearest integer to `a / b` in units of the last place. -/
def mantissa (a b : Nat) : Nat :=
  roundHalfEven (a * 2 ^ (-lastPlace a b).toNat) (b * 2 ^ (lastPlace a b).toNat)

/-- A finite number is `± m * 2 ^ e`. -/
inductive PyFloat where
  | nan
  | inf (negative : Bool)
  | finite (negative : Bool) (m : Nat) (e : Int)
  deriving DecidableEq, Repr

namespace PyFloat

/-- The number nearest to `± a / b`. -/
def ofRatio (negative : Bool) (a b : Nat) : PyFloat :=
  if a = 0 then .finite negative 0 0
  else if 2 ^ 1024 ≤ mantissa a b * 2 ^ (lastPlace a b).toNat then .inf negative
  else .finite negative (mantissa a b) (lastPlace a b)

def signed (negative : Bool) (n : Nat) : Int :=
  if negative then -n else n

/-- The integer part of `± m * 2 ^ e`. -/
def trunc (negative : Bool) (m : Nat) (e : Int) : Int :=
  signed negative (m * 2 ^ e.toNat / 2 ^ (-e).toNat)

/-- The nearest integer to `± m * 2 ^ e * k`. -/
def scaled (negative : Bool) (m : Nat) (e : Int) (k : Nat) : Int :=
  signed negative (roundHalfEven (m * 2 ^ e.toNat * k) (2 ^ (-e).toNat))

end PyFloat

theorem roundHalfEven_le (a b n : Nat) (hb : 0 < b)
    (h : 2 * a < (2 * n + 1) * b ∨ (2 * a = (2 * n + 1) * b ∧ n % 2 = 0)) :
    roundHalfEven a b ≤ n := by
  have hdiv := Nat.div_add_mod a b
  have hmod := Nat.mod_lt a hb
  have hq : a / b ≤ n := by
    by_contra hlt
    have hmul : b * (n + 1) ≤ b * (a / b) := Nat.mul_le_mul_left b (by omega)
    rw [Nat.mul_add, Nat.mul_one] at hmul
    rw [Nat.add_mul, Nat.one_mul, Nat.mul_assoc, Nat.mul_comm n b] at h
    omega
  unfold roundHalfEven
  by_cases hdown : 2 * (a % b) < b ∨ (2 * (a % b) = b ∧ a / b % 2 = 0)
  · rw [if_pos hdown]
    exact hq
  · rw [if_neg hdown]
    -- The quotient itself is not `n`, or it would have been rounded down.
    have hne : a / b ≠ n := by
      intro heq
      rw [heq] at hdiv hdown
      rw [Nat.add_mul, Nat.one_mul, Nat.mul_assoc, Nat.mul_comm n b] at h
      omega
    omega

theorem lt_roundHalfEven (a b n : Nat) (hb : 0 < b)
    (h : (2 * n + 1) * b < 2 * a ∨ ((2 * n + 1) * b = 2 * a ∧ n % 2 = 1)) :
    n < roundHalfEven a b := by
  have hdiv := Nat.div_add_mod a b
  have hmod := Nat.mod_lt a hb
  have hq : n ≤ a / b := by
    by_contra hlt
    have hmul : b * (a / b + 1) ≤ b * n := Nat.mul_le_mul_left b (by omega)
    rw [Nat.mul_add, Nat.mul_one] at hmul
    rw [Nat.add_mul, Nat.one_mul, Nat.mul_assoc, Nat.mul_comm n b] at h
    omega
  unfold roundHalfEven
  by_cases hdown : 2 * (a % b) < b ∨ (2 * (a % b) = b ∧ a / b % 2 = 0)
  · rw [if_pos hdown]
    -- The quotient is not `n`, or it would have been rounded up.
    have hne : a / b ≠ n := by
      intro heq
      rw [heq] at hdiv hdown
      rw [Nat.add_mul, Nat.one_mul, Nat.mul_assoc, Nat.mul_comm n b] at h
      omega
    omega
  · rw [if_neg hdown]
    omega

/-- Rounding an integer changes nothing. -/
theorem roundHalfEven_one (a : Nat) : roundHalfEven a 1 = a := by
  rw [roundHalfEven, Nat.mod_one, Nat.div_one, if_pos (Or.inl (by omega))]

theorem roundHalfEven_le_self (a b : Nat) (hb : 0 < b) : roundHalfEven a b ≤ a := by
  refine roundHalfEven_le a b a hb ?_
  have hmul : (2 * a + 1) * 1 ≤ (2 * a + 1) * b := Nat.mul_le_mul_left _ hb
  exact Or.inl (by omega)

/-- The exponent of a quotient of at least one. -/
theorem lastPlace_spec (a b : Nat) (hb : 0 < b) (hle : b ≤ a) :
    ∃ k : Nat, lastPlace a b = k - 52 ∧ b * 2 ^ k ≤ a ∧ a < b * 2 ^ (k + 1) := by
  have hpos : a / b ≠ 0 := Nat.ne_of_gt (Nat.div_pos hle hb)
  refine ⟨(a / b).log2, by rw [lastPlace, if_pos hle], ?_, ?_⟩
  · rw [Nat.mul_comm]
    exact (Nat.le_div_iff_mul_le hb).mp (Nat.log2_self_le hpos)
  · rw [Nat.mul_comm]
    exact (Nat.div_lt_iff_lt_mul hb).mp Nat.lt_log2_self

/-- A mantissa has 53 bits, or is the next power of two. -/
theorem mantissa_le (a b : Nat) (ha : 0 < a) (hb : 0 < b) : mantissa a b ≤ 2 ^ 53 := by
  have hden : 0 < b * 2 ^ (lastPlace a b).toNat := Nat.mul_pos hb (Nat.two_pow_pos _)
  refine roundHalfEven_le _ _ _ hden ?_
  have hlt : a * 2 ^ (-lastPlace a b).toNat < b * 2 ^ (lastPlace a b).toNat * 2 ^ 53 := by
    by_cases hle : b ≤ a
    · rcases lastPlace_spec a b hb hle with ⟨k, hk, _, hhigh⟩
      have hexp : k + 1 + (-lastPlace a b).toNat = (lastPlace a b).toNat + 53 := by omega
      -- The exponent leaves 53 bits before the point.
      calc a * 2 ^ (-lastPlace a b).toNat
          < b * 2 ^ (k + 1) * 2 ^ (-lastPlace a b).toNat :=
            Nat.mul_lt_mul_of_pos_right hhigh (Nat.two_pow_pos _)
        _ = b * 2 ^ (lastPlace a b).toNat * 2 ^ 53 := by
            rw [Nat.mul_assoc, ← Nat.pow_add, hexp, Nat.pow_add, ← Nat.mul_assoc]
    -- Below one, the exponent is read off the reciprocal, or is that of the subnormals.
    · have hquot : (b - 1) / a ≠ 0 := Nat.ne_of_gt (Nat.div_pos (by omega) ha)
      have hlow : 2 ^ ((b - 1) / a).log2 * a ≤ b - 1 :=
        (Nat.le_div_iff_mul_le ha).mp (Nat.log2_self_le hquot)
      have hplace : lastPlace a b = max (-1074) (-(((b - 1) / a).log2 : Int) - 53) := by
        rw [lastPlace, if_neg hle]
      have hexp : (-lastPlace a b).toNat ≤ ((b - 1) / a).log2 + 53 := by omega
      have hzero : (lastPlace a b).toNat = 0 := by omega
      calc a * 2 ^ (-lastPlace a b).toNat
          ≤ a * 2 ^ (((b - 1) / a).log2 + 53) :=
            Nat.mul_le_mul_left a (Nat.pow_le_pow_right (by omega) hexp)
        _ = 2 ^ ((b - 1) / a).log2 * a * 2 ^ 53 := by ring
        _ < b * 2 ^ (lastPlace a b).toNat * 2 ^ 53 := by
            rw [hzero, Nat.pow_zero, Nat.mul_one]
            exact Nat.mul_lt_mul_of_pos_right (by omega) (Nat.two_pow_pos _)
  exact Or.inl (by omega)

/-- The mantissa of a quotient of at least one has all of them. -/
theorem le_mantissa (a b : Nat) (hb : 0 < b) (hle : b ≤ a) : 2 ^ 52 ≤ mantissa a b := by
  rcases lastPlace_spec a b hb hle with ⟨k, hk, hlow, _⟩
  have hden : 0 < b * 2 ^ (lastPlace a b).toNat := Nat.mul_pos hb (Nat.two_pow_pos _)
  have hexp : k + (-lastPlace a b).toNat = (lastPlace a b).toNat + 52 := by omega
  have hscaled : b * 2 ^ (lastPlace a b).toNat * 2 ^ 52 ≤ a * 2 ^ (-lastPlace a b).toNat :=
    calc b * 2 ^ (lastPlace a b).toNat * 2 ^ 52
        = b * 2 ^ k * 2 ^ (-lastPlace a b).toNat := by
          rw [Nat.mul_assoc, ← Nat.pow_add, ← hexp, Nat.pow_add, ← Nat.mul_assoc]
      _ ≤ a * 2 ^ (-lastPlace a b).toNat := Nat.mul_le_mul_right _ hlow
  have hlt := lt_roundHalfEven (a * 2 ^ (-lastPlace a b).toNat) (b * 2 ^ (lastPlace a b).toNat)
    (2 ^ 52 - 1) hden (Or.inl (by omega))
  unfold mantissa
  omega

/-- A quotient that rounds to at most `n` in the binade of exponent `j`, or
    that is below the binade, has at most that value. -/
theorem value_le (a b n j : Nat) (ha : 0 < a) (hb : 0 < b) (hlow : 2 ^ 52 ≤ n) (hhigh : n < 2 ^ 53)
    (hj : 0 < j) (h : 2 * a < (2 * n + 1) * (b * 2 ^ j) ∨
      (2 * a = (2 * n + 1) * (b * 2 ^ j) ∧ n % 2 = 0)) :
    mantissa a b * 2 ^ (lastPlace a b).toNat ≤ n * 2 ^ j := by
  have hbelow : (lastPlace a b).toNat < j →
      mantissa a b * 2 ^ (lastPlace a b).toNat ≤ n * 2 ^ j := by
    intro hlt
    calc mantissa a b * 2 ^ (lastPlace a b).toNat
        ≤ 2 ^ 53 * 2 ^ (j - 1) :=
          Nat.mul_le_mul (mantissa_le a b ha hb) (Nat.pow_le_pow_right (by omega) (by omega))
      _ = 2 ^ 52 * 2 ^ j := by
          rw [← Nat.pow_add, ← Nat.pow_add]
          congr 1
          omega
      _ ≤ n * 2 ^ j := Nat.mul_le_mul_right _ hlow
  by_cases hle : b ≤ a
  · rcases lastPlace_spec a b hb hle with ⟨k, hk, hbk, _⟩
    -- The binade is `j` or a lower one.
    have hkj : k < 53 + j := by
      have hmul : (2 * n + 1) * (b * 2 ^ j) < 2 ^ 54 * (b * 2 ^ j) :=
        Nat.mul_lt_mul_of_pos_right (by omega) (Nat.mul_pos hb (Nat.two_pow_pos j))
      have hpow : b * 2 ^ (k + 1) < b * 2 ^ (54 + j) := by
        calc b * 2 ^ (k + 1) = 2 * (b * 2 ^ k) := by ring
          _ ≤ 2 * a := by omega
          _ < 2 ^ 54 * (b * 2 ^ j) := by omega
          _ = b * 2 ^ (54 + j) := by ring
      have hexp := (Nat.pow_lt_pow_iff_right (by omega)).mp (Nat.lt_of_mul_lt_mul_left hpow)
      omega
    by_cases hkeq : k = 52 + j
    · have hpos : (lastPlace a b).toNat = j := by omega
      have hneg : (-lastPlace a b).toNat = 0 := by omega
      rw [hpos]
      refine Nat.mul_le_mul_right _ ?_
      unfold mantissa
      rw [hpos, hneg, Nat.pow_zero, Nat.mul_one]
      exact roundHalfEven_le a (b * 2 ^ j) n (Nat.mul_pos hb (Nat.two_pow_pos j)) h
    · exact hbelow (by omega)
  · have hneg : lastPlace a b < 0 := by
      rw [lastPlace, if_neg hle]
      omega
    exact hbelow (by omega)

/-- A quotient that rounds to more than `n` in the binade of exponent `j`, or
    that is above the binade, is an integer of at least the next value. -/
theorem lt_value (a b n j : Nat) (hb : 0 < b) (hlow : 2 ^ 52 ≤ n) (hhigh : n < 2 ^ 53)
    (h : (2 * n + 1) * (b * 2 ^ j) < 2 * a ∨
      ((2 * n + 1) * (b * 2 ^ j) = 2 * a ∧ n % 2 = 1)) :
    0 ≤ lastPlace a b ∧ (n + 1) * 2 ^ j ≤ mantissa a b * 2 ^ (lastPlace a b).toNat := by
  have hpos : 0 < b * 2 ^ j := Nat.mul_pos hb (Nat.two_pow_pos j)
  -- The binade is `j` or a higher one.
  have hbig : b * 2 ^ (52 + j) < a := by
    have hmul : (2 ^ 53 + 1) * (b * 2 ^ j) ≤ (2 * n + 1) * (b * 2 ^ j) :=
      Nat.mul_le_mul_right _ (by omega)
    have hring : b * 2 ^ (52 + j) = 2 ^ 52 * (b * 2 ^ j) := by ring
    omega
  have hle : b ≤ a :=
    Nat.le_of_lt (Nat.lt_of_le_of_lt (Nat.le_mul_of_pos_right b (Nat.two_pow_pos _)) hbig)
  rcases lastPlace_spec a b hb hle with ⟨k, hk, _, hak⟩
  have hkj : 52 + j < k + 1 :=
    (Nat.pow_lt_pow_iff_right (by omega)).mp
      (Nat.lt_of_mul_lt_mul_left (Nat.lt_trans hbig hak))
  refine ⟨by omega, ?_⟩
  by_cases hkeq : k = 52 + j
  · have htoNat : (lastPlace a b).toNat = j := by omega
    have hneg : (-lastPlace a b).toNat = 0 := by omega
    rw [htoNat]
    refine Nat.mul_le_mul_right _ ?_
    unfold mantissa
    rw [htoNat, hneg, Nat.pow_zero, Nat.mul_one]
    exact lt_roundHalfEven a (b * 2 ^ j) n hpos h
  · calc (n + 1) * 2 ^ j
        ≤ 2 ^ 53 * 2 ^ j := Nat.mul_le_mul_right _ (by omega)
      _ = 2 ^ 52 * 2 ^ (j + 1) := by ring
      _ ≤ mantissa a b * 2 ^ (lastPlace a b).toNat :=
          Nat.mul_le_mul (le_mantissa a b hb hle) (Nat.pow_le_pow_right (by omega) (by omega))

end Python

end Vena
