import Vena.Backend.TelemetryWire
import Vena.Mobile.BoardTelemetry
import Vena.Mobile.SameNumber

/-!
# A Reading in a Column

The text of a reading is read twice, by the backend on its way into a column of
type `double precision` and by the phone. The backend reads an `int` where there
is neither a point nor an exponent, and so does the phone, but the two scan the
literal in different ways.

## Main definitions

* `column`: What a column holds of a value.
* `pointed`: A point and digits.

## Theorems

* `readDouble_decimal`: A literal with a point or an exponent, read by Dart.
* `readNumber_whole`, `readNumber_double`: The two kinds of literals.
* `column_value`: The column has the number that Dart reads.
-/

namespace Vena

namespace Mobile

open Decoder Firmware
open Python (PyVal)

/-- What a column of type `double precision` holds of a value. It takes nothing but
    numbers and NULL. -/
def column : PyVal → Option Double
  | .int n => some (Double.ofInt n)
  | .float x => some (Double.ofPyFloat x)
  | .bool b => some (Double.ofInt (if b then 1 else 0))
  | .none | .str _ | .list _ | .dict _ => none

section Literals

/-- A span ends where its property does. -/
theorem takeWhile_span (p : Nat → Bool) (s t : List Nat) (hs : ∀ c ∈ s, p c = true)
    (ht : ∀ c ∈ t.head?, p c = false) : (s ++ t).takeWhile p = s := by
  rw [List.takeWhile_append_of_pos hs]
  cases t with
  | nil => rw [List.takeWhile_nil, List.append_nil]
  | cons c t =>
      have hc : p c = false := ht c rfl
      rw [List.takeWhile_cons_of_neg (by rw [hc]; exact Bool.false_ne_true), List.append_nil]

theorem mem_withSign (negative : Bool) (s : DartString) (c : Nat) (h : c ∈ withSign negative s) :
    c = 0x2D ∨ c ∈ s := by
  rw [withSign] at h
  split at h
  · exact List.mem_cons.mp h
  · exact Or.inr h

/-- A point and digits, unless there are none. -/
def pointed (frac : DartString) : DartString := if frac = [] then [] else 0x2E :: frac

theorem drop_pointed (frac : DartString) : (pointed frac).drop 1 = frac := by
  rw [pointed]
  split
  · next h => exact h.symm
  · rfl

theorem filter_pointed (frac : DartString) (h : ∀ c ∈ frac, isDigit c = true) :
    (pointed frac).filter isDigit = frac := by
  have hfrac : frac.filter isDigit = frac := List.filter_eq_self.mpr h
  rw [pointed]
  split
  · next hnil => exact hnil.symm
  · rw [List.filter_cons_of_neg (by decide), hfrac]

theorem mem_pointed (frac : DartString) (c : Nat) (h : c ∈ pointed frac) :
    c = 0x2E ∨ c ∈ frac := by
  rw [pointed] at h
  split at h
  · exact absurd h List.not_mem_nil
  · exact List.mem_cons.mp h

theorem not_exponentMark_of_isDigit (c : Nat) (h : isDigit c = true) :
    isExponentMark c = false := by
  simp only [isDigit, Bool.and_eq_true, decide_eq_true_eq] at h
  simp only [isExponentMark, Bool.or_eq_false_iff, decide_eq_false_iff_not]
  omega

/-- A literal with the digits `frac` behind the point and an exponent, either of which
    may be missing. -/
theorem readDouble_decimal (negative : Bool) (n : Nat) (frac power : DartString) (k : Int)
    (hfrac : ∀ c ∈ frac, isDigit c = true)
    (hpower : (power = [] ∧ k = 0) ∨ power = 0x65 :: intText k) :
    readDouble (withSign negative (decimalDigits n ++ (pointed frac ++ power))) =
      Double.ofDecimal negative (digitsValue (decimalDigits n ++ frac)) (k - frac.length) := by
  have hdigits := isDigit_decimalDigits n
  -- The whole part has neither a point nor an exponent mark,
  have hwhole : ∀ c ∈ withSign negative (decimalDigits n), c ≠ 0x2E ∧ isExponentMark c = false := by
    intro c hc
    rcases mem_withSign negative _ c hc with rfl | hin
    · exact ⟨by decide, rfl⟩
    · refine ⟨?_, not_exponentMark_of_isDigit c (hdigits c hin)⟩
      rintro rfl
      exact absurd (hdigits 0x2E hin) (by decide)
  -- and each part behind it begins with its own mark, or is missing.
  have hmark : ∀ c ∈ power.head?, (!isExponentMark c) = false := by
    rcases hpower with ⟨rfl, _⟩ | rfl
    · exact fun c hc => absurd hc (by simp only [List.head?_nil, Option.mem_def, reduceCtorEq,
        not_false_eq_true])
    · intro c hc
      rw [List.head?_cons, Option.mem_some_iff] at hc
      rw [← hc]
      rfl
  have hpoint : ∀ c ∈ (pointed frac).head?, (c != 0x2E) = false := by
    rw [pointed]
    split
    · exact fun c hc => absurd hc (by simp only [List.head?_nil, Option.mem_def, reduceCtorEq,
        not_false_eq_true])
    · intro c hc
      rw [List.head?_cons, Option.mem_some_iff] at hc
      rw [← hc]
      rfl
  -- The three parts of the literal.
  have hsplit : withSign negative (decimalDigits n ++ (pointed frac ++ power)) =
      withSign negative (decimalDigits n) ++ pointed frac ++ power := by
    rw [withSign_append, List.append_assoc]
  have hmantissa : (withSign negative (decimalDigits n) ++ pointed frac ++ power).takeWhile
      (fun c => !isExponentMark c) = withSign negative (decimalDigits n) ++ pointed frac := by
    refine takeWhile_span _ _ _ (fun c hc => ?_) hmark
    rw [Bool.not_eq_true']
    rcases List.mem_append.mp hc with hin | hin
    · exact (hwhole c hin).2
    · rcases mem_pointed frac c hin with rfl | hdigit
      · rfl
      · exact not_exponentMark_of_isDigit c (hfrac c hdigit)
  have hbefore : (withSign negative (decimalDigits n) ++ pointed frac).takeWhile
      (fun c => c != 0x2E) = withSign negative (decimalDigits n) :=
    takeWhile_span _ _ _ (fun c hc => bne_iff_ne.mpr (hwhole c hc).1) hpoint
  have hexponent : signedValue (power.drop 1) = k := by
    rcases hpower with ⟨rfl, rfl⟩ | rfl
    · rfl
    · exact signedValue_intText k
  have hminus := isMinus_withSign negative n (pointed frac ++ power)
  rw [hsplit] at hminus ⊢
  unfold readDouble
  dsimp only
  rw [hmantissa, hbefore, hminus, List.drop_length_add_append, List.drop_length_add_append,
    drop_pointed, hexponent, List.filter_append, filter_withSign, filter_decimalDigits,
    filter_pointed frac hfrac]

theorem digitsValue_eq (s : DartString) : digitsValue s = Decimal.value s :=
  congrArg (fun f => s.foldl f 0) (funext₂ fun n c => by rw [Nat.mul_comm])

/-- The text of a float in the three parts of a literal. -/
theorem write_eq (x : FloatParts) : x.write = withSign x.negative (decimalDigits x.integral ++
    (pointed (Decimal.padded x.decimalPlaces x.decimal) ++
      if x.exponent = 0 then [] else 0x65 :: intText x.exponent)) := by
  -- The point is missing exactly where there are no digits to follow it.
  have hnone : Decimal.padded x.decimalPlaces x.decimal = [] ↔ x.decimalPlaces = 0 := by
    rw [← List.length_eq_zero_iff, Decimal.length_padded]
  rw [FloatParts.write, withSign, pointed]
  simp only [hnone, writeInteger_eq]
  split
  · rfl
  · rfl

/-- Neither a point nor an exponent. -/
theorem readNumber_whole (negative : Bool) (n : Nat) (hn : n < 2 ^ 32) :
    (readNumber (withSign negative (decimalDigits n))).toDouble =
      Double.ofInt (if negative then -(n : Int) else n) := by
  -- The firmware has 32 bits for the whole part, and Dart 64.
  have hinteger : isInteger (withSign negative (decimalDigits n)) = true := by
    refine List.all_eq_true.mpr (fun c hc => ?_)
    rw [Bool.or_eq_true, decide_eq_true_eq]
    exact (mem_withSign negative _ c hc).imp_right (isDigit_decimalDigits n c)
  have hvalue := signedValue_withSign negative n
  have hint : IsInt64 (signedValue (withSign negative (decimalDigits n))) := by
    rw [hvalue, IsInt64]
    split
    · omega
    · omega
  rw [readNumber, if_pos hinteger, dif_pos hint, Num.toDouble]
  exact congrArg Double.ofInt hvalue

/-- A point or an exponent makes a double. -/
theorem readNumber_double (negative : Bool) (n : Nat) (frac power : DartString) (k : Int)
    (hfrac : ∀ c ∈ frac, isDigit c = true)
    (hpower : (power = [] ∧ k = 0) ∨ power = 0x65 :: intText k)
    (h : ¬(frac = [] ∧ power = [])) :
    (readNumber (withSign negative (decimalDigits n ++ (pointed frac ++ power)))).toDouble =
      Double.ofDecimal negative (Decimal.value (decimalDigits n ++ frac)) (k - frac.length) := by
  -- Some character is neither a sign nor a digit: the mark or the point.
  have hmark : ∃ c ∈ pointed frac ++ power, (decide (c = 0x2D) || isDigit c) = false := by
    by_cases hnil : frac = []
    · rcases hpower with ⟨hnone, _⟩ | hsome
      · exact absurd ⟨hnil, hnone⟩ h
      · refine ⟨0x65, List.mem_append_right _ ?_, rfl⟩
        rw [hsome]
        exact List.mem_cons_self
    · refine ⟨0x2E, List.mem_append_left _ ?_, rfl⟩
      rw [pointed, if_neg hnil]
      exact List.mem_cons_self
  have hinteger : ¬isInteger (withSign negative (decimalDigits n ++ (pointed frac ++ power))) =
      true := by
    intro hall
    obtain ⟨c, hc, hno⟩ := hmark
    have hin : c ∈ withSign negative (decimalDigits n ++ (pointed frac ++ power)) := by
      rw [withSign_append]
      exact List.mem_append_right _ hc
    rw [List.all_eq_true.mp hall c hin] at hno
    cases hno
  rw [readNumber, if_neg hinteger, readDouble_decimal negative n frac power k hfrac hpower,
    digitsValue_eq, Num.toDouble]

end Literals

variable {φ : Type} (decompose : φ → Option FloatParts)

/-- What a column has of a float is what Dart reads of its text. -/
theorem column_literal (x : FloatParts) :
    column (Backend.Ingest.literal x).value = some (readNumber x.write).toDouble := by
  have hdigits := isDigit_of_numeral _ (Decimal.numeral_padded x.decimalPlaces x.decimal)
  have hnumeral : Decimal.Numeral
      (Decimal.digits x.integral ++ Decimal.padded x.decimalPlaces x.decimal) := by
    intro c hc
    rcases List.mem_append.mp hc with hin | hin
    · exact Decimal.numeral_digits _ c hin
    · exact Decimal.numeral_padded _ _ c hin
  rw [write_eq]
  -- Python makes an `int` of the very literals that Dart takes for integers.
  by_cases hplain : (Backend.Ingest.literal x).frac = [] ∧
      (Backend.Ingest.literal x).exponent = none
  · have hfrac : Decimal.padded x.decimalPlaces x.decimal = [] := hplain.1
    have hexp : x.exponent = 0 := by
      by_contra hne
      have hsome : (Backend.Ingest.literal x).exponent = some x.exponent := if_neg hne
      rw [hsome] at hplain
      cases hplain.2
    rw [Python.Literal.value_int _ hplain.1 hplain.2, column, hfrac, hexp, if_pos rfl, pointed,
      if_pos rfl, List.append_nil, List.append_nil,
      readNumber_whole x.negative x.integral x.integralBound]
    simp only [Backend.Ingest.literal, Decimal.value_digits]
  · have hpower : ((if x.exponent = 0 then [] else 0x65 :: intText x.exponent) = [] ∧
        x.exponent = 0) ∨ (if x.exponent = 0 then [] else 0x65 :: intText x.exponent) =
          0x65 :: intText x.exponent := by
      by_cases hexp : x.exponent = 0
      · exact Or.inl ⟨if_pos hexp, hexp⟩
      · exact Or.inr (if_neg hexp)
    have hparts : ¬(Decimal.padded x.decimalPlaces x.decimal = [] ∧
        (if x.exponent = 0 then [] else 0x65 :: intText x.exponent) = []) := by
      rintro ⟨hfrac, hexp⟩
      refine hplain ⟨hfrac, if_pos ?_⟩
      by_contra hne
      rw [if_neg hne] at hexp
      cases hexp
    have hget : (Backend.Ingest.literal x).exponent.getD 0 = x.exponent := by
      by_cases hexp : x.exponent = 0
      · have hnone : (Backend.Ingest.literal x).exponent = none := if_pos hexp
        rw [hnone, hexp, Option.getD_none]
      · have hsome : (Backend.Ingest.literal x).exponent = some x.exponent := if_neg hexp
        rw [hsome, Option.getD_some]
    rw [Python.Literal.value_float _ hplain, column, hget,
      readNumber_double x.negative x.integral _ _ x.exponent hdigits hpower hparts]
    exact congrArg some (Double.ofPyFloat_decimalFloat x.negative _ _ hnumeral)

theorem column_value (x : φ) :
    column (Backend.Ingest.value decompose (.float x)) = number decompose x := by
  rw [Backend.Ingest.value, number]
  cases decompose x with
  | none => rfl
  | some parts => exact column_literal parts

end Mobile

end Vena
