import Vena.Python.Value

/-!
# Instants from Numbers

`datetime.fromtimestamp(n / 1000, tz=timezone.utc)` for an integer `n`. The true
division rounds to a binary64 number, the number is rounded to microseconds,
and then three ranges are checked one inside the other: that of the C type
`time_t`, that of `gmtime` and that of `datetime`. Each failure has its own
exception, and only the outermost is an `OverflowError`.

`fromMillis_overflow` says for which integers that is, rounding included.

## Main definitions

* `trueDiv`: `n / d` on integers.
* `fromtimestamp`, `fromMillis`: The instant in microseconds since the epoch.

## Theorems

* `fromtimestamp_overflow`: The magnitudes that are no `time_t`.
* `fromMillis_overflow`: The integers that overflow.
* `fromMillis_seconds`: Whole seconds are exact.
-/

namespace Vena

namespace Python

/-- `n / d`. -/
def trueDiv (n : Int) (d : Nat) : Except Exc PyFloat :=
  match PyFloat.ofRatio (n < 0) n.natAbs d with
  | .inf _ => .error .overflowError
  | x => .ok x

/-- `datetime.fromtimestamp(x, tz=timezone.utc)`, in microseconds since the
    epoch. The product with 10⁶ is taken exactly: CPython rounds it to binary64,
    which cannot move it across a half for the quotients `n / 1000`. -/
def fromtimestamp : PyFloat → Except Exc Int
  | .nan => .error .valueError
  | .inf _ => .error .overflowError
  | .finite negative m e =>
    let micros := PyFloat.scaled negative m e 1000000
    let secs := micros / 1000000
    -- A `time_t`, then the year of a `struct tm`, then the year of a `datetime`.
    if secs < -9223372036854775808 ∨ 9223372036854775808 ≤ secs then .error .overflowError
    else if secs < -67768040609740800 ∨ 67768036191676799 < secs then .error .osError
    else if secs < -62135596800 ∨ 253402300799 < secs then .error .valueError
    else .ok micros

/-- `datetime.fromtimestamp(n / 1000, tz=timezone.utc)`. -/
def fromMillis (n : Int) : Except Exc Int :=
  match trueDiv n 1000 with
  | .error exc => .error exc
  | .ok x => fromtimestamp x

/-- The microseconds of a magnitude, and when they are exact. -/
theorem micros_bounds (m : Nat) (e : Int) :
    roundHalfEven (m * 2 ^ e.toNat * 1000000) (2 ^ (-e).toNat) ≤ m * 2 ^ e.toNat * 1000000 ∧
    (0 ≤ e → roundHalfEven (m * 2 ^ e.toNat * 1000000) (2 ^ (-e).toNat) =
      m * 2 ^ e.toNat * 1000000) := by
  refine ⟨roundHalfEven_le_self _ _ (Nat.two_pow_pos _), fun he => ?_⟩
  have hzero : (-e).toNat = 0 := by omega
  rw [hzero, Nat.pow_zero, roundHalfEven_one]

/-- The seconds of a magnitude of microseconds that overflow. -/
theorem fromtimestamp_overflow (negative : Bool) (m : Nat) (e : Int) :
    fromtimestamp (.finite negative m e) = .error .overflowError ↔
      if negative then
        9223372036854775808000000 < roundHalfEven (m * 2 ^ e.toNat * 1000000) (2 ^ (-e).toNat)
      else
        9223372036854775808000000 ≤ roundHalfEven (m * 2 ^ e.toNat * 1000000) (2 ^ (-e).toNat) := by
  have hif : fromtimestamp (.finite negative m e) = .error .overflowError ↔
      PyFloat.scaled negative m e 1000000 / 1000000 < -9223372036854775808 ∨
      9223372036854775808 ≤ PyFloat.scaled negative m e 1000000 / 1000000 := by
    simp only [fromtimestamp]
    split
    · next h => simp only [h]
    · next h =>
        simp only [h, iff_false]
        split
        · simp only [Except.error.injEq, reduceCtorEq, not_false_eq_true]
        · split
          · simp only [Except.error.injEq, reduceCtorEq, not_false_eq_true]
          · simp only [reduceCtorEq, not_false_eq_true]
  rw [hif, PyFloat.scaled, PyFloat.signed]
  cases negative with
  | false =>
      simp only [Bool.false_eq_true, if_false]
      omega
  | true =>
      simp only [if_true]
      omega

/-- Division and conversion overflow together. -/
theorem fromMillis_eq_overflow (n : Int) (hn : n ≠ 0) :
    fromMillis n = .error .overflowError ↔
      2 ^ 1024 ≤ mantissa n.natAbs 1000 * 2 ^ (lastPlace n.natAbs 1000).toNat ∨
      fromtimestamp (.finite (n < 0) (mantissa n.natAbs 1000) (lastPlace n.natAbs 1000)) =
        .error .overflowError := by
  have hne : n.natAbs ≠ 0 := Int.natAbs_ne_zero.mpr hn
  unfold fromMillis trueDiv PyFloat.ofRatio
  rw [if_neg hne]
  by_cases hinf : 2 ^ 1024 ≤ mantissa n.natAbs 1000 * 2 ^ (lastPlace n.natAbs 1000).toNat
  · rw [if_pos hinf]
    simp only [hinf, true_or]
  · rw [if_neg hinf]
    simp only [hinf, false_or]

/-- The integers whose thousandth part is no `time_t`. -/
theorem fromMillis_overflow (n : Int) :
    fromMillis n = .error .overflowError ↔
      n < -9223372036854776832000 ∨ 9223372036854775296000 ≤ n := by
  by_cases hn : n = 0
  · rw [hn]
    exact ⟨fun h => absurd h (by decide), fun h => by omega⟩
  rw [fromMillis_eq_overflow n hn, fromtimestamp_overflow]
  have hpos : 0 < n.natAbs := by omega
  rcases micros_bounds (mantissa n.natAbs 1000) (lastPlace n.natAbs 1000) with ⟨hle, hexact⟩
  by_cases hneg : n < 0
  -- Below zero the bound itself still fits, and the next double up decides.
  · rw [if_pos (decide_eq_true hneg)]
    by_cases hin : n.natAbs ≤ 9223372036854776832000
    · have hvalue := value_le n.natAbs 1000 (2 ^ 52) 11 hpos (by omega) (by omega) (by omega)
        (by omega) (by omega)
      omega
    · rcases lt_value n.natAbs 1000 (2 ^ 52) 11 (by omega) (by omega) (by omega) (by omega)
        with ⟨hplace, hvalue⟩
      rw [hexact hplace]
      omega
  -- Above zero the bound does not fit, and the next double down decides.
  · rw [if_neg (by rwa [decide_eq_true_eq])]
    by_cases hin : n.natAbs < 9223372036854775296000
    · have hvalue := value_le n.natAbs 1000 (2 ^ 53 - 1) 10 hpos (by omega) (by omega) (by omega)
        (by omega) (by omega)
      omega
    · rcases lt_value n.natAbs 1000 (2 ^ 53 - 1) 10 (by omega) (by omega) (by omega) (by omega)
        with ⟨hplace, hvalue⟩
      rw [hexact hplace]
      omega

theorem roundHalfEven_mul (a b : Nat) (hb : 0 < b) : roundHalfEven (a * b) b = a := by
  rw [roundHalfEven, Nat.mul_mod_left, Nat.mul_div_cancel _ hb, if_pos (Or.inl (by omega))]

/-- The quotient of whole seconds, as a binary64 number. -/
theorem trueDiv_seconds (k : Nat) (hk : k ≠ 0) (hlt : k < 2 ^ 53) :
    trueDiv ((k : Int) * 1000) 1000 =
      .ok (.finite false (k * 2 ^ (52 - k.log2)) ((k.log2 : Int) - 52)) := by
  have habs : ((k : Int) * 1000).natAbs = k * 1000 := by omega
  have hneg : decide ((k : Int) * 1000 < 0) = false := by
    rw [decide_eq_false_iff_not]
    omega
  have hlog : k.log2 ≤ 52 := by
    have hless := (Nat.log2_lt hk).mpr hlt
    omega
  have hplace : lastPlace (k * 1000) 1000 = (k.log2 : Int) - 52 := by
    rw [lastPlace, if_pos (by omega), Nat.mul_div_cancel _ (by decide)]
  have hdown : (-((k.log2 : Int) - 52)).toNat = 52 - k.log2 := by omega
  have hup : ((k.log2 : Int) - 52).toNat = 0 := by omega
  have hmantissa : mantissa (k * 1000) 1000 = k * 2 ^ (52 - k.log2) := by
    rw [mantissa, hplace, hdown, hup, Nat.pow_zero, Nat.mul_one, Nat.mul_right_comm,
      roundHalfEven_mul _ _ (by decide)]
  have hsmall : k * 2 ^ (52 - k.log2) < 2 ^ 53 := by
    have hbound : k < 2 ^ (k.log2 + 1) := Nat.lt_log2_self
    calc k * 2 ^ (52 - k.log2)
        < 2 ^ (k.log2 + 1) * 2 ^ (52 - k.log2) :=
          Nat.mul_lt_mul_of_pos_right hbound (Nat.two_pow_pos _)
      _ = 2 ^ 53 := by
          rw [← Nat.pow_add]
          congr 1
          omega
  have hne : ¬k * 1000 = 0 := by omega
  have hfinite : ¬2 ^ 1024 ≤ k * 2 ^ (52 - k.log2) * 2 ^ 0 := by
    rw [Nat.pow_zero, Nat.mul_one]
    have hpow : ∀ e, 53 ≤ e → 2 ^ 53 ≤ 2 ^ e := fun e he => Nat.pow_le_pow_right (by decide) he
    exact Nat.not_le.mpr (Nat.lt_of_lt_of_le hsmall (hpow 1024 (by decide)))
  rw [trueDiv, PyFloat.ofRatio, habs, hneg, if_neg hne, hplace, hmantissa, hup, if_neg hfinite]

/-- Whole seconds that a `datetime` has are converted exactly. -/
theorem fromMillis_seconds (k : Nat) (hk : k ≤ 253402300799) :
    fromMillis ((k : Int) * 1000) = .ok ((k : Int) * 1000000) := by
  by_cases hzero : k = 0
  · subst hzero
    decide
  · have hlog : k.log2 ≤ 52 := by
      have hless := (Nat.log2_lt hzero).mpr (Nat.lt_of_le_of_lt hk (by decide : _ < 2 ^ 53))
      omega
    have hdown : (-((k.log2 : Int) - 52)).toNat = 52 - k.log2 := by omega
    have hup : ((k.log2 : Int) - 52).toNat = 0 := by omega
    have hmicros : PyFloat.scaled false (k * 2 ^ (52 - k.log2)) ((k.log2 : Int) - 52) 1000000 =
        (k : Int) * 1000000 := by
      rw [PyFloat.scaled, PyFloat.signed, if_neg Bool.false_ne_true, hdown, hup, Nat.pow_zero,
        Nat.mul_one, Nat.mul_right_comm, roundHalfEven_mul _ _ (Nat.two_pow_pos _)]
      omega
    have hsecs : (k : Int) * 1000000 / 1000000 = k := by omega
    rw [fromMillis, trueDiv_seconds k hzero (Nat.lt_of_le_of_lt hk (by decide))]
    show fromtimestamp (.finite false _ _) = _
    rw [fromtimestamp, hmicros, hsecs, if_neg (by omega), if_neg (by omega), if_neg (by omega)]

end Python

end Vena
