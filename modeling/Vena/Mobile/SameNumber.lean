import Vena.Mobile.Double
import Vena.Mobile.Num
import Vena.Python.PrintedJson

/-!
# One Number in Two Languages

Python and Dart round a decimal literal to the same number, although the two are
computed differently: the one as a mantissa and an exponent, with cases for zero,
for what is far too small and for what is far too large, the other as a multiple
of the smallest positive double.

## Main definitions

* `Double.ofPyFloat`: A number of Python, as one of Dart.

## Theorems

* `log2_scaled_large`, `log2_scaled_small`: Where the first bit of a quotient is.
* `nearestUnits_eq`: The multiple and the mantissa.
* `ofPyFloat_ofRatio`: The number nearest to a quotient.
* `ofPyFloat_decimalFloat`: The number nearest to a decimal literal.
-/

namespace Vena

namespace Mobile

open Python

theorem log2_eq_of_bounds (n k : Nat) (hlow : 2 ^ k ≤ n) (hhigh : n < 2 ^ (k + 1)) :
    n.log2 = k := by
  have hpos : n ≠ 0 := Nat.ne_of_gt (Nat.lt_of_lt_of_le (Nat.two_pow_pos k) hlow)
  have hle : k ≤ n.log2 := (Nat.le_log2 hpos).mpr hlow
  have hlt : n.log2 < k + 1 := (Nat.log2_lt hpos).mpr hhigh
  omega

/-- A quotient of at least one, in units of `2 ^ -N`. -/
theorem log2_scaled_large (a b N : Nat) (hb : 0 < b) (hle : b ≤ a) :
    (a * 2 ^ N / b).log2 = (a / b).log2 + N := by
  have hpos : a / b ≠ 0 := Nat.ne_of_gt (Nat.div_pos hle hb)
  have hlow : 2 ^ (a / b).log2 * b ≤ a := (Nat.le_div_iff_mul_le hb).mp (Nat.log2_self_le hpos)
  have hhigh : a < 2 ^ ((a / b).log2 + 1) * b := (Nat.div_lt_iff_lt_mul hb).mp Nat.lt_log2_self
  refine log2_eq_of_bounds _ _ ?_ ?_
  · rw [Nat.le_div_iff_mul_le hb, Nat.pow_add, Nat.mul_right_comm]
    exact Nat.mul_le_mul_right _ hlow
  · rw [Nat.div_lt_iff_lt_mul hb, Nat.add_right_comm, Nat.pow_add, Nat.mul_right_comm]
    exact Nat.mul_lt_mul_of_pos_right hhigh (Nat.two_pow_pos N)

/-- Bounds of a quotient below one. -/
theorem log2_inverse (a b : Nat) (ha : 0 < a) (hlt : a < b) :
    a * 2 ^ ((b - 1) / a).log2 < b ∧ b ≤ a * 2 ^ (((b - 1) / a).log2 + 1) := by
  have hpos : (b - 1) / a ≠ 0 := Nat.ne_of_gt (Nat.div_pos (by omega) ha)
  have hlow : 2 ^ ((b - 1) / a).log2 * a ≤ b - 1 :=
    (Nat.le_div_iff_mul_le ha).mp (Nat.log2_self_le hpos)
  have hhigh : b - 1 < 2 ^ (((b - 1) / a).log2 + 1) * a :=
    (Nat.div_lt_iff_lt_mul ha).mp Nat.lt_log2_self
  rw [Nat.mul_comm a, Nat.mul_comm a]
  omega

/-- A quotient below one, in units of `2 ^ -N`. -/
theorem log2_scaled_small (a b N : Nat) (ha : 0 < a) (hlt : a < b) :
    (a * 2 ^ N / b).log2 = N - 1 - ((b - 1) / a).log2 := by
  have hb : 0 < b := Nat.lt_of_le_of_lt (Nat.zero_le a) hlt
  rcases log2_inverse a b ha hlt with ⟨hlow, hhigh⟩
  generalize ((b - 1) / a).log2 = k at hlow hhigh
  -- The first bit of the quotient is worth one unit or more, or it is lost.
  by_cases hk : k < N
  · refine log2_eq_of_bounds _ _ ?_ ?_
    · rw [Nat.le_div_iff_mul_le hb]
      calc 2 ^ (N - 1 - k) * b ≤ 2 ^ (N - 1 - k) * (a * 2 ^ (k + 1)) :=
            Nat.mul_le_mul_left _ hhigh
        _ = a * (2 ^ (k + 1) * 2 ^ (N - 1 - k)) := by
            rw [Nat.mul_left_comm, Nat.mul_comm (2 ^ (N - 1 - k))]
        _ = a * 2 ^ N := by
            have hexp : k + 1 + (N - 1 - k) = N := by omega
            rw [← Nat.pow_add, hexp]
    · rw [Nat.div_lt_iff_lt_mul hb]
      calc a * 2 ^ N = a * 2 ^ k * 2 ^ (N - 1 - k + 1) := by
            have hexp : k + (N - 1 - k + 1) = N := by omega
            rw [Nat.mul_assoc, ← Nat.pow_add, hexp]
        _ < b * 2 ^ (N - 1 - k + 1) := Nat.mul_lt_mul_of_pos_right hlow (Nat.two_pow_pos _)
        _ = 2 ^ (N - 1 - k + 1) * b := Nat.mul_comm _ _
  · -- Less than one unit.
    have hless : a * 2 ^ N < b :=
      Nat.lt_of_le_of_lt (Nat.mul_le_mul_left a (Nat.pow_le_pow_right (by decide) (by omega))) hlow
    have hzero : N - 1 - k = 0 := by omega
    rw [Nat.div_eq_of_lt hless, hzero, Nat.log2_zero]

/-- The place of the last bit, in units of the smallest double. -/
theorem place_eq (a b : Nat) (ha : 0 < a) (hb : 0 < b) :
    (((a * unitsPerOne / b).log2 - 52 : Nat) : Int) = lastPlace a b + 1074 := by
  rw [unitsPerOne, lastPlace]
  by_cases hle : b ≤ a
  · rw [if_pos hle, log2_scaled_large a b 1074 hb hle]
    omega
  · rw [if_neg hle, log2_scaled_small a b 1074 ha (by omega)]
    omega

/-- The nearest multiple is the mantissa at its place. -/
theorem nearestUnits_eq (a b : Nat) (ha : 0 < a) (hb : 0 < b) :
    nearestUnits a b = mantissa a b * 2 ^ (lastPlace a b + 1074).toNat := by
  -- One counts places from the unit of a quotient, the other from the smallest double.
  have hplace := place_eq a b ha hb
  have hnat : (lastPlace a b + 1074).toNat = (a * unitsPerOne / b).log2 - 52 := by omega
  unfold nearestUnits mantissa
  rw [hnat]
  generalize (a * unitsPerOne / b).log2 - 52 = place at hplace
  generalize lastPlace a b = e at hplace
  -- Both quotients are the same, in different units.
  have hscale : a * unitsPerOne = a * 2 ^ (-e).toNat * 2 ^ (1074 - (-e).toNat) := by
    have hexp : (-e).toNat + (1074 - (-e).toNat) = 1074 := by omega
    rw [Nat.mul_assoc, ← Nat.pow_add, hexp, unitsPerOne]
  have hscale' : b * 2 ^ place = b * 2 ^ e.toNat * 2 ^ (1074 - (-e).toNat) := by
    have hexp : e.toNat + (1074 - (-e).toNat) = place := by omega
    rw [Nat.mul_assoc, ← Nat.pow_add, hexp]
  rw [hscale, hscale', roundHalfEven_scale _ _ _ (Nat.two_pow_pos _)]

namespace Double

/-- A number of Python, as one of Dart. -/
def ofPyFloat : PyFloat → Double
  | .nan => .nan
  | .inf negative => .infinity negative
  | .finite negative m e => ofRatio negative (m * 2 ^ e.toNat) (2 ^ (-e).toNat)

theorem ofRatio_infinity (negative : Bool) (a b : Nat) (hle : 2 ^ 2098 ≤ nearestUnits a b) :
    ofRatio negative a b = .infinity negative :=
  dif_neg (fun h => Nat.not_lt.mpr hle h.2)

theorem nearestUnits_zero (b : Nat) (hb : 0 < b) : nearestUnits 0 b = 0 := by
  rw [nearestUnits, Nat.zero_mul, roundHalfEven, Nat.zero_mod, Nat.zero_div, Nat.mul_zero,
    if_pos (Or.inl (Nat.mul_pos hb (Nat.two_pow_pos _))), Nat.zero_div, Nat.zero_mul]

/-- The number is that of the nearest multiple. -/
theorem ofRatio_congr (negative : Bool) (a b a' b' : Nat) (hb : 0 < b) (hb' : 0 < b')
    (h : nearestUnits a b = nearestUnits a' b') :
    ofRatio negative a b = ofRatio negative a' b' := by
  simp only [ofRatio, h, hb, hb']

theorem two_pow_split (m n k : Nat) (h : m + n = k) : 2 ^ m * 2 ^ n = 2 ^ k := by
  rw [← Nat.pow_add, h]

theorem two_pow_mul_units (k n : Nat) (h : k + 1074 = n) : 2 ^ k * unitsPerOne = 2 ^ n := by
  unfold unitsPerOne
  exact two_pow_split k 1074 n h

theorem two_pow_mul_eq_units (m n : Nat) (h : m + n = 1074) : 2 ^ m * 2 ^ n = unitsPerOne := by
  unfold unitsPerOne
  exact two_pow_split m n 1074 h

theorem lt_two_pow (m k n : Nat) (hm : m ≤ 2 ^ k) (hk : k < n) : m < 2 ^ n :=
  Nat.lt_of_le_of_lt hm (Nat.pow_lt_pow_right (by decide) hk)

theorem mul_two_pow_lt (m p k n t : Nat) (hm : m < 2 ^ k) (hp : p ≤ n) (h : k + n = t) :
    m * 2 ^ p < 2 ^ t := by
  rw [← two_pow_split k n t h]
  exact Nat.mul_lt_mul_of_lt_of_le hm (Nat.pow_le_pow_right (by decide) hp) (Nat.two_pow_pos _)

/-- A mantissa at its place, in units of the smallest double. -/
theorem nearestUnits_mantissa (m : Nat) (e : Int) (hlow : -1074 ≤ e)
    (h : Representable (m * 2 ^ (e + 1074).toNat)) :
    nearestUnits (m * 2 ^ e.toNat) (2 ^ (-e).toNat) = m * 2 ^ (e + 1074).toNat := by
  -- In units the quotient is a whole number, and one that rounding leaves alone.
  have hunits : m * 2 ^ e.toNat * 2 ^ (1074 - (-e).toNat) = m * 2 ^ (e + 1074).toNat := by
    have hexp : e.toNat + (1074 - (-e).toNat) = (e + 1074).toNat := by omega
    rw [Nat.mul_assoc, ← Nat.pow_add, hexp]
  rw [← nearestUnits_scale _ _ (2 ^ (1074 - (-e).toNat)) (Nat.two_pow_pos _), hunits,
    two_pow_mul_eq_units _ _ (by omega), nearestUnits_units _ h]

theorem lastPlace_low (a b : Nat) : -1074 ≤ lastPlace a b := by
  rw [lastPlace]
  split
  · omega
  · omega

/-- The two overflow together. -/
theorem overflow_iff (a b : Nat) (ha : 0 < a) (hb : 0 < b) :
    2 ^ 1024 ≤ mantissa a b * 2 ^ (lastPlace a b).toNat ↔ 2 ^ 2098 ≤ nearestUnits a b := by
  have hmantissa := mantissa_le a b ha hb
  have hlow := lastPlace_low a b
  rw [nearestUnits_eq a b ha hb]
  generalize mantissa a b = m at hmantissa
  generalize lastPlace a b = e at hlow
  have hpow := two_pow_split 1024 1074 2098 rfl
  -- Below place zero neither of the two comes near its limit.
  by_cases hneg : e < 0
  · have hzero : e.toNat = 0 := by omega
    have hsmall := lt_two_pow m 53 1024 hmantissa (by decide)
    have hless := mul_two_pow_lt m (e + 1074).toNat 1024 1074 2098 hsmall (by omega) rfl
    rw [hzero, Nat.pow_zero, Nat.mul_one]
    exact iff_of_false (Nat.not_le.mpr hsmall) (Nat.not_le.mpr hless)
  · have hexp : (e + 1074).toNat = e.toNat + 1074 := by omega
    rw [hexp, Nat.pow_add, ← Nat.mul_assoc, ← hpow, Nat.mul_le_mul_right_iff (Nat.two_pow_pos _)]

/-- The number nearest to a quotient is the same one. -/
theorem ofPyFloat_ofRatio (negative : Bool) (a b : Nat) (hb : 0 < b) :
    ofPyFloat (PyFloat.ofRatio negative a b) = ofRatio negative a b := by
  unfold PyFloat.ofRatio
  by_cases hzero : a = 0
  · have hone : 2 ^ (-0 : Int).toNat = 1 := rfl
    rw [if_pos hzero, hzero, ofPyFloat, Nat.zero_mul, hone]
    refine ofRatio_congr negative 0 1 0 b Nat.one_pos hb ?_
    rw [nearestUnits_zero 1 Nat.one_pos, nearestUnits_zero b hb]
  · have ha : 0 < a := Nat.pos_of_ne_zero hzero
    rw [if_neg hzero]
    by_cases hover : 2 ^ 1024 ≤ mantissa a b * 2 ^ (lastPlace a b).toNat
    · rw [if_pos hover, ofPyFloat,
        ofRatio_infinity negative a b ((overflow_iff a b ha hb).mp hover)]
    · have hlt := Nat.not_le.mp (mt (overflow_iff a b ha hb).mpr hover)
      -- The number of Python is a double already, so that Dart has nothing to round.
      have hrep := representable_nearestUnits a b hb hlt
      rw [if_neg hover, ofPyFloat]
      refine ofRatio_congr negative _ _ a b (Nat.two_pow_pos _) hb ?_
      rw [nearestUnits_eq a b ha hb] at hrep ⊢
      exact nearestUnits_mantissa _ _ (lastPlace_low a b) hrep

/-- Rounding does not go below a power of two. -/
theorem le_nearestUnits (a b k : Nat) (hpow : 2 ^ k ≤ a * unitsPerOne / b) :
    2 ^ k ≤ nearestUnits a b := by
  have hfloor : ∀ c d : Nat, c / d ≤ roundHalfEven c d := by
    intro c d
    unfold roundHalfEven
    split
    · exact Nat.le_refl _
    · exact Nat.le_succ _
  have hround := hfloor (a * unitsPerOne) (b * 2 ^ ((a * unitsPerOne / b).log2 - 52))
  rw [← Nat.div_div_eq_div_mul] at hround
  unfold nearestUnits
  generalize roundHalfEven _ _ = r at hround ⊢
  generalize a * unitsPerOne / b = q at hpow hround ⊢
  have hpos : q ≠ 0 := Nat.ne_of_gt (Nat.lt_of_lt_of_le (Nat.two_pow_pos k) hpow)
  have hlog : k ≤ q.log2 := (Nat.le_log2 hpos).mpr hpow
  -- The bits that are rounded away stand behind the first one.
  calc 2 ^ k ≤ 2 ^ q.log2 := Nat.pow_le_pow_right (by decide) hlog
    _ = 2 ^ (q.log2 - (q.log2 - 52)) * 2 ^ (q.log2 - 52) :=
        (two_pow_split _ _ _ (by omega)).symm
    _ ≤ q / 2 ^ (q.log2 - 52) * 2 ^ (q.log2 - 52) := by
        refine Nat.mul_le_mul_right _ ((Nat.le_div_iff_mul_le (Nat.two_pow_pos _)).mpr ?_)
        rw [two_pow_split _ _ q.log2 (by omega)]
        exact Nat.log2_self_le hpos
    _ ≤ r * 2 ^ (q.log2 - 52) := Nat.mul_le_mul_right _ hround

/-- Less than half of the smallest double is nearest to zero. -/
theorem nearestUnits_tiny (a b : Nat) (h : a * 2 ^ 1075 < b) : nearestUnits a b = 0 := by
  have hb : 0 < b := Nat.lt_of_le_of_lt (Nat.zero_le _) h
  have hhalf : 2 * (a * unitsPerOne) < b := by
    rw [← two_pow_mul_units 1 1075 rfl, Nat.mul_left_comm] at h
    exact h
  -- Not one unit is in the quotient, not even half of one.
  have hzero : a * unitsPerOne / b = 0 := Nat.div_eq_of_lt (by omega)
  have hround : roundHalfEven (a * unitsPerOne) b ≤ 0 := by
    refine roundHalfEven_le _ _ _ hb (Or.inl ?_)
    rw [Nat.mul_zero, Nat.zero_add, Nat.one_mul]
    exact hhalf
  rw [nearestUnits, hzero, Nat.log2_zero, Nat.zero_sub, Nat.pow_zero, Nat.mul_one, Nat.mul_one]
  exact Nat.le_zero.mp hround

theorem two_pow_le_ten_pow (k n : Nat) (hk : k ≤ 3 * n) : 2 ^ k ≤ 10 ^ n := by
  calc 2 ^ k ≤ 2 ^ (3 * n) := Nat.pow_le_pow_right (by decide) hk
    _ = (2 ^ 3) ^ n := Nat.pow_mul _ _ _
    _ ≤ 10 ^ n := Nat.pow_le_pow_left (by decide) _

theorem value_lt (s : List Nat) (h : Decimal.Numeral s) : Decimal.value s < 10 ^ s.length := by
  induction s using List.reverseRecOn with
  | nil => exact Nat.one_pos
  | append_singleton s c ih =>
      have hc := h c (List.mem_append_right _ (List.mem_singleton_self c))
      have hs := ih (fun d hd => h d (List.mem_append_left _ hd))
      have hvalue : Decimal.value (s ++ [c]) = Decimal.value s * 10 + (c - 0x30) := by
        rw [Decimal.value, List.foldl_append]
        rfl
      rw [hvalue, List.length_append, List.length_singleton, Nat.pow_succ]
      omega

/-- Both languages round a decimal literal to the same number. -/
theorem ofPyFloat_decimalFloat (negative : Bool) (digits : List Nat) (exponent : Int)
    (h : Decimal.Numeral digits) :
    ofPyFloat (decimalFloat negative digits exponent) =
      ofDecimal negative (Decimal.value digits) exponent := by
  have hbound := value_lt digits h
  unfold decimalFloat ofDecimal
  rw [digitsToNat_numeral]
  generalize Decimal.value digits = n at hbound
  generalize digits.length = len at hbound
  dsimp only
  have hden : 0 < 10 ^ (-exponent).toNat := Nat.pow_pos (by decide)
  -- Where Python looks at the number of digits first, Dart only rounds.
  by_cases htiny : (decide (n = 0) || decide (exponent + len < -400)) = true
  · have hunits : nearestUnits (n * 10 ^ exponent.toNat) (10 ^ (-exponent).toNat) = 0 := by
      rw [Bool.or_eq_true, decide_eq_true_eq, decide_eq_true_eq] at htiny
      rcases htiny with rfl | hsmall
      · rw [Nat.zero_mul, nearestUnits_zero _ hden]
      · have hexp : exponent.toNat = 0 := by omega
        rw [hexp, Nat.pow_zero, Nat.mul_one]
        refine nearestUnits_tiny _ _ ?_
        have hplaces : len + ((-exponent).toNat - len) = (-exponent).toNat := by omega
        rw [← hplaces, Nat.pow_add]
        exact Nat.mul_lt_mul_of_lt_of_le hbound (two_pow_le_ten_pow 1075 _ (by omega))
          (Nat.pow_pos (by decide))
    have hone : 2 ^ (-0 : Int).toNat = 1 := rfl
    rw [if_pos htiny, ofPyFloat, Nat.zero_mul, hone]
    refine ofRatio_congr negative 0 1 _ _ Nat.one_pos hden ?_
    rw [hunits, nearestUnits_zero 1 Nat.one_pos]
  · rw [if_neg htiny]
    by_cases hhuge : 400 < exponent
    · rw [if_pos hhuge, ofPyFloat]
      refine (ofRatio_infinity negative _ _ (le_nearestUnits _ _ 2098 ?_)).symm
      -- At least `10 ^ 401`, which is beyond the greatest double.
      have hexp : (-exponent).toNat = 0 := by omega
      have hn : 0 < n := by
        rw [Bool.or_eq_true, decide_eq_true_eq] at htiny
        omega
      rw [hexp, Nat.pow_zero, Nat.div_one, ← two_pow_mul_units 1024 2098 rfl]
      refine Nat.mul_le_mul_right _ ?_
      exact Nat.le_trans (two_pow_le_ten_pow 1024 exponent.toNat (by omega))
        (Nat.le_mul_of_pos_left _ hn)
    · rw [if_neg hhuge, ofPyFloat_ofRatio negative _ _ hden]

end Double

end Mobile

end Vena
