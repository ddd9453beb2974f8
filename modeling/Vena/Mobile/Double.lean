import Vena.Python.Binary64

/-!
# Doubles

The numbers of Dart's type `double`. A finite one is a sign and a multiple of
the smallest positive double, `2 ^ (-1074)`, that has at most 53 significant
bits. Such a multiple is unique, so two doubles are equal exactly when they are
the same number with the same sign, and zero has both signs.

A quotient is rounded to the nearest double, ties to the even mantissa. A
number of this type is its own nearest one, however it is written as a
quotient, and this is all that a text which denotes it exactly needs.

## Main definitions

* `Representable`: A multiple has 53 significant bits.
* `nearestUnits`: The multiple nearest to a quotient.
* `Double`, `Double.ofRatio`: A number, and the one nearest to a quotient.
* `Double.truncate`: The integer part.

## Theorems

* `representable_nearestUnits`: The nearest multiple has 53 significant bits.
* `nearestUnits_scale`: Only the value of the quotient counts.
* `Double.ofRatio_units`: A number is the nearest one to itself.
-/

namespace Vena

namespace Mobile

open Python

/-- One, as a multiple of the smallest positive double. -/
def unitsPerOne : Nat := 2 ^ 1074

theorem unitsPerOne_pos : 0 < unitsPerOne := by simp only [unitsPerOne, Nat.two_pow_pos]

/-- A multiple of the smallest positive double that is a double. The first power
    of two that is too large is `2 ^ 1024`. -/
def Representable (u : Nat) : Prop := u < 2 ^ 2098 ∧ 2 ^ (u.log2 - 52) ∣ u

instance (u : Nat) : Decidable (Representable u) := inferInstanceAs (Decidable (_ ∧ _))

/-- The multiple nearest to `a / b` among those with 53 significant bits. Below
    `2 ^ 53` none of them has more. -/
def nearestUnits (a b : Nat) : Nat :=
  roundHalfEven (a * unitsPerOne) (b * 2 ^ ((a * unitsPerOne / b).log2 - 52)) *
    2 ^ ((a * unitsPerOne / b).log2 - 52)

inductive Double where
  | nan
  | infinity (negative : Bool)
  | finite (negative : Bool) (units : Nat) (representable : Representable units)
  deriving DecidableEq

theorem roundHalfEven_scale (a b k : Nat) (hk : 0 < k) :
    roundHalfEven (a * k) (b * k) = roundHalfEven a b := by
  have hlt : 2 * (a % b * k) < b * k ↔ 2 * (a % b) < b := by
    rw [← Nat.mul_assoc, Nat.mul_lt_mul_right hk]
  have heq : 2 * (a % b * k) = b * k ↔ 2 * (a % b) = b := by
    rw [← Nat.mul_assoc, Nat.mul_right_cancel_iff hk]
  simp only [roundHalfEven, Nat.mul_mod_mul_right, Nat.mul_div_mul_right _ _ hk, hlt, heq]

/-- Only the value of the quotient counts. -/
theorem nearestUnits_scale (a b k : Nat) (hk : 0 < k) :
    nearestUnits (a * k) (b * k) = nearestUnits a b := by
  have hquot : a * k * unitsPerOne / (b * k) = a * unitsPerOne / b := by
    rw [Nat.mul_right_comm, Nat.mul_div_mul_right _ _ hk]
  unfold nearestUnits
  rw [hquot, Nat.mul_right_comm a k, Nat.mul_right_comm b k, roundHalfEven_scale _ _ k hk]

/-- The mantissa has 53 bits, or is the next power of two. -/
theorem mantissa_le_of_place (a b : Nat) (hb : 0 < b) :
    roundHalfEven (a * unitsPerOne) (b * 2 ^ ((a * unitsPerOne / b).log2 - 52)) ≤ 2 ^ 53 := by
  generalize a * unitsPerOne = c
  have hlog : c / b < 2 ^ ((c / b).log2 - 52) * 2 ^ 53 := by
    calc c / b < 2 ^ ((c / b).log2 + 1) := Nat.lt_log2_self
      _ ≤ 2 ^ ((c / b).log2 - 52 + 53) := Nat.pow_le_pow_right (by omega) (by omega)
      _ = 2 ^ ((c / b).log2 - 52) * 2 ^ 53 := Nat.pow_add _ _ _
  have hlt : c < b * 2 ^ ((c / b).log2 - 52) * 2 ^ 53 := by
    rw [Nat.mul_assoc, Nat.mul_comm b]
    exact (Nat.div_lt_iff_lt_mul hb).mp hlog
  refine roundHalfEven_le _ _ _ (Nat.mul_pos hb (Nat.two_pow_pos _)) (Or.inl ?_)
  omega

/-- A mantissa and a place are a representable number. -/
theorem dvd_of_mantissa (n k : Nat) (hn : n ≤ 2 ^ 53) :
    2 ^ ((n * 2 ^ k).log2 - 52) ∣ n * 2 ^ k := by
  by_cases hfull : n = 2 ^ 53
  · have hpow : n * 2 ^ k = 2 ^ (53 + k) := by rw [hfull, ← Nat.pow_add]
    rw [hpow]
    exact Nat.pow_dvd_pow 2 (Nat.le_trans (Nat.sub_le _ _) (Nat.le_of_eq Nat.log2_two_pow))
  · have hlog : (n * 2 ^ k).log2 ≤ 52 + k := by
      by_cases hzero : n * 2 ^ k = 0
      · rw [hzero, Nat.log2_zero]
        exact Nat.zero_le _
      · have hlt : n * 2 ^ k < 2 ^ (53 + k) := by
          rw [Nat.pow_add]
          exact Nat.mul_lt_mul_of_pos_right (by omega) (Nat.two_pow_pos k)
        have := (Nat.log2_lt hzero).mpr hlt
        omega
    exact Dvd.dvd.mul_left (Nat.pow_dvd_pow 2 (by omega)) n

/-- The nearest multiple has 53 significant bits. -/
theorem representable_nearestUnits (a b : Nat) (hb : 0 < b) (hlt : nearestUnits a b < 2 ^ 2098) :
    Representable (nearestUnits a b) :=
  ⟨hlt, dvd_of_mantissa _ _ (mantissa_le_of_place a b hb)⟩

/-- A representable multiple is its own nearest one. -/
theorem nearestUnits_units (u : Nat) (h : Representable u) : nearestUnits u unitsPerOne = u := by
  rcases h.2 with ⟨n, hn⟩
  have hplace : u * unitsPerOne / unitsPerOne = u := Nat.mul_div_cancel u unitsPerOne_pos
  unfold nearestUnits
  rw [hplace]
  generalize u.log2 - 52 = k at hn
  have hscale : u * unitsPerOne = n * (unitsPerOne * 2 ^ k) := by
    rw [hn]
    ring
  have hround := roundHalfEven_scale n 1 (unitsPerOne * 2 ^ k)
    (Nat.mul_pos unitsPerOne_pos (Nat.two_pow_pos _))
  rw [Nat.one_mul, roundHalfEven_one] at hround
  rw [hscale, hround, hn, Nat.mul_comm]

namespace Double

/-- The double nearest to `± a / b`. -/
def ofRatio (negative : Bool) (a b : Nat) : Double :=
  if h : 0 < b ∧ nearestUnits a b < 2 ^ 2098 then
    .finite negative (nearestUnits a b) (representable_nearestUnits a b h.1 h.2)
  else .infinity negative

/-- `toDouble` of an integer. -/
def ofInt (n : Int) : Double := ofRatio (n < 0) n.natAbs 1

/-- `isFinite`. -/
def isFinite : Double → Bool
  | .finite _ _ _ => true
  | _ => false

/-- The integer part of a finite number. -/
def truncate (negative : Bool) (units : Nat) : Int :=
  if negative then -(units / unitsPerOne : Nat) else (units / unitsPerOne : Nat)

theorem ofRatio_scale (negative : Bool) (a b k : Nat) (hk : 0 < k) :
    ofRatio negative (a * k) (b * k) = ofRatio negative a b := by
  have hpos : 0 < b * k ↔ 0 < b := ⟨Nat.pos_of_mul_pos_right, fun h => Nat.mul_pos h hk⟩
  simp only [ofRatio, nearestUnits_scale a b k hk, hpos]

/-- A number is the nearest one to itself. -/
theorem ofRatio_units (negative : Bool) (u : Nat) (h : Representable u) :
    ofRatio negative u unitsPerOne = .finite negative u h := by
  have hself := nearestUnits_units u h
  rw [ofRatio, dif_pos ⟨unitsPerOne_pos, hself.symm ▸ h.1⟩]
  congr 1

end Double

end Mobile

end Vena
