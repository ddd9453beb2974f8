import Vena.Mobile.Double
import Vena.Mobile.JsonDecode
import Mathlib.Data.List.TakeWhile
import Mathlib.Data.Nat.Digits.Lemmas

/-!
# Numbers as Text

A number in a JSON text is an `int` if it has neither a point nor an exponent
and fits into 64 bits, and the double nearest to it otherwise. The other way, an
`int` is written in decimal and a double as the shortest literal that is read
back as that double. The literal always has a point or an exponent, so what was
an `int` is an `int` again and what was a double a double.

Seventeen digits are enough for every double. `Double.toText` does not rest on
that: behind the candidates it has the exact value, which is read back because
the double is the nearest one to itself.

## Main definitions

* `DartInt`, `Num`: The two types of numbers.
* `isLiteral`, `readNumber`: The grammar of a number, and what it stands for.
* `intText`, `Double.toText`: What is written.
* `JsonValue.asNum`, `JsonValue.asInt`, `JsonValue.asBool`, `JsonValue.asList`,
  `JsonValue.orNull`, `optionalDouble`: Casts of a decoded value.

## Theorems

* `isLiteral_intText`, `readNumber_intText`: An `int` is read back.
* `readNumber_toText`: So is a finite double.
-/

namespace Vena

namespace Mobile

open Decoder

def IsInt64 (n : Int) : Prop := -2 ^ 63 ≤ n ∧ n < 2 ^ 63

instance (n : Int) : Decidable (IsInt64 n) := inferInstanceAs (Decidable (_ ∧ _))

/-- An `int` of the virtual machine. -/
abbrev DartInt := {n : Int // IsInt64 n}

/-- The integer nearest to `n` that is an `int`. -/
def DartInt.clamp (n : Int) : DartInt :=
  ⟨max (-2 ^ 63) (min n (2 ^ 63 - 1)), by unfold IsInt64; omega⟩

inductive Num where
  | int (n : DartInt)
  | double (x : Double)
  deriving DecidableEq

namespace Num

def toDouble : Num → Double
  | .int n => Double.ofInt n
  | .double x => x

/-- `toInt`, which throws for a double that is not finite. -/
def toInt : Num → Option DartInt
  | .int n => some n
  | .double (.finite negative units _) => some (DartInt.clamp (Double.truncate negative units))
  | .double _ => none

end Num

/-- How far a number has come at the end of a text. -/
def partAfter (part : NumberPart) : DartString → Option NumberPart
  | [] => some part
  | c :: cs => (numberPart part c).bind (fun part => partAfter part cs)

/-- The first unit of a number. -/
def beginNumber (c : Nat) : Option NumberPart :=
  if c = 0x2D then some .sign
  else if c = 0x30 then some .zero
  else if isDigit c then some .digits
  else none

/-- How far a text is that begins a number. -/
def literalPart : DartString → Option NumberPart
  | [] => none
  | c :: cs => (beginNumber c).bind (fun part => partAfter part cs)

/-- A number from its first unit to its last. -/
def isLiteral (text : DartString) : Bool := (literalPart text).any NumberPart.complete

/-- What digits stand for. -/
def digitsValue (digits : DartString) : Nat :=
  digits.foldl (fun n c => 10 * n + (c - 0x30)) 0

def isMinus (literal : DartString) : Bool := literal.head? = some 0x2D

/-- What follows an optional sign. -/
def signedValue (literal : DartString) : Int :=
  if isMinus literal then -(digitsValue (literal.filter isDigit) : Int)
  else digitsValue (literal.filter isDigit)

def isExponentMark (c : Nat) : Bool := c = 0x65 || c = 0x45

/-- The double nearest to `± digits * 10 ^ exponent`. -/
def Double.ofDecimal (negative : Bool) (digits : Nat) (exponent : Int) : Double :=
  Double.ofRatio negative (digits * 10 ^ exponent.toNat) (10 ^ (-exponent).toNat)

/-- `double.parse` of a number literal. -/
def readDouble (literal : DartString) : Double :=
  let mantissa := literal.takeWhile (fun c => !isExponentMark c)
  let exponent := literal.drop (mantissa.length + 1)
  let fraction := mantissa.drop ((mantissa.takeWhile (fun c => c != 0x2E)).length + 1)
  Double.ofDecimal (isMinus literal) (digitsValue (mantissa.filter isDigit))
    (signedValue exponent - fraction.length)

/-- No point and no exponent. -/
def isInteger (literal : DartString) : Bool := literal.all (fun c => c = 0x2D || isDigit c)

def readNumber (literal : DartString) : Num :=
  if isInteger literal then
    if h : IsInt64 (signedValue literal) then .int ⟨signedValue literal, h⟩
    else .double (readDouble literal)
  else .double (readDouble literal)

namespace JsonValue

/-- `as num`. -/
def asNum : JsonValue → Option Num
  | .number literal => some (readNumber literal)
  | _ => none

/-- `as int`. -/
def asInt (v : JsonValue) : Option DartInt :=
  match v.asNum with
  | some (.int n) => some n
  | _ => none

/-- `as bool`. -/
def asBool : JsonValue → Option Bool
  | .bool b => some b
  | _ => none

/-- `as List<dynamic>`. -/
def asList : JsonValue → Option (List JsonValue)
  | .list items => some items
  | _ => none

/-- A cast to a nullable type, which `null` passes. -/
def orNull {α : Type} (cast : JsonValue → Option α) : JsonValue → Option (Option α)
  | .null => some none
  | v => (cast v).map some

end JsonValue

/-- `json[key]`. -/
def field (json : List (DartString × JsonValue)) (key : String) : JsonValue :=
  lookup json (dartString key)

/-- `(value as num?)?.toDouble()`. -/
def optionalDouble (value : JsonValue) : Option (Option Double) :=
  (value.orNull JsonValue.asNum).map (Option.map Num.toDouble)

/-- The decimal digits of a number. -/
def decimalDigits (n : Nat) : DartString :=
  if n = 0 then [0x30] else (Nat.digits 10 n).reverse.map (fun d => 0x30 + d)

def withSign (negative : Bool) (text : DartString) : DartString :=
  if negative then 0x2D :: text else text

/-- `toString` of an `int`. -/
def intText (n : Int) : DartString := withSign (n < 0) (decimalDigits n.natAbs)

def zeros (n : Nat) : DartString := List.replicate n 0x30

/-- `0.digits * 10 ^ place`, between `10 ^ (-6)` and `10 ^ 21` without an exponent. -/
def layOut (digits : DartString) (place : Int) : DartString :=
  if 0 < place ∧ place ≤ 21 then
    if digits.length ≤ place.toNat then
      digits ++ zeros (place.toNat - digits.length) ++ [0x2E, 0x30]
    else digits.take place.toNat ++ 0x2E :: digits.drop place.toNat
  else if -6 < place ∧ place ≤ 0 then [0x30, 0x2E] ++ zeros (-place).toNat ++ digits
  else
    digits.take 1 ++ (if 1 < digits.length then 0x2E :: digits.drop 1 else []) ++
      0x65 :: (if place ≤ 0 then intText (place - 1) else 0x2B :: intText (place - 1))

/-- Digits without the zeros at their end. -/
def stripZeros (digits : DartString) : DartString :=
  (digits.reverse.dropWhile (fun c => c = 0x30)).reverse

/-- `significand * 10 ^ exponent`. -/
def decimalText (significand : Nat) (exponent : Int) : DartString :=
  let digits := decimalDigits significand
  layOut (stripZeros digits) (digits.length + exponent)

namespace Double

/-- The exact value of `units` is that many times `10 ^ (-1074)`. -/
def exactSignificand (units : Nat) : Nat := units * 5 ^ 1074

/-- The literals with `n` digits next to a number, the nearer one first and of
    two the one with the even digit. -/
def neighbours (units n : Nat) : List DartString :=
  let exact := exactSignificand units
  let length := (decimalDigits exact).length
  let scaled := exact * 10 ^ (n - length)
  let unit := 10 ^ (length - n)
  let low := decimalText (scaled / unit) ((length : Int) - n - 1074)
  let high := decimalText (scaled / unit + 1) ((length : Int) - n - 1074)
  if 2 * (scaled % unit) < unit ∨ (2 * (scaled % unit) = unit ∧ scaled / unit % 2 = 0)
  then [low, high]
  else [high, low]

/-- From the shortest on. -/
def candidates (units : Nat) : List DartString :=
  if units = 0 then [[0x30, 0x2E, 0x30]]
  else (List.range 17).flatMap (fun n => neighbours units (n + 1))

/-- The exact value. -/
def exactText (units : Nat) : DartString :=
  decimalDigits (exactSignificand units) ++ 0x65 :: intText (-1074)

/-- `toString` of a finite number: the shortest literal that is read as this
    number. -/
def toText (negative : Bool) (units : Nat) (h : Representable units) : DartString :=
  (((candidates units).map (withSign negative)).find? (fun text =>
    isLiteral text && readNumber text = .double (.finite negative units h))).getD
      (withSign negative (exactText units))

end Double

theorem partAfter_append (part : NumberPart) (s t : DartString) :
    partAfter part (s ++ t) = (partAfter part s).bind (fun part => partAfter part t) := by
  induction s generalizing part with
  | nil => rfl
  | cons c s ih =>
      rw [List.cons_append, partAfter, partAfter]
      cases numberPart part c with
      | none => rfl
      | some next => exact ih next

theorem isDigit_of_lt (d : Nat) (h : d < 10) : isDigit (0x30 + d) = true := by
  simp only [isDigit, Bool.and_eq_true, decide_eq_true_eq]
  omega

theorem isDigit_decimalDigits (n c : Nat) (h : c ∈ decimalDigits n) : isDigit c = true := by
  unfold decimalDigits at h
  split at h
  · rw [List.mem_singleton] at h
    exact h ▸ rfl
  · rcases List.mem_map.mp h with ⟨d, hd, rfl⟩
    exact isDigit_of_lt d (Nat.digits_lt_base (by decide) (List.mem_reverse.mp hd))

theorem filter_decimalDigits (n : Nat) : (decimalDigits n).filter isDigit = decimalDigits n :=
  List.filter_eq_self.mpr (isDigit_decimalDigits n)

/-- The digits of a number stand for it. -/
theorem digitsValue_decimalDigits (n : Nat) : digitsValue (decimalDigits n) = n := by
  unfold decimalDigits
  split
  · next hzero => exact hzero.symm
  · rw [digitsValue, List.foldl_map, List.foldl_reverse]
    calc (Nat.digits 10 n).foldr (fun d m => 10 * m + (0x30 + d - 0x30)) 0
        = (Nat.digits 10 n).foldr (fun d m => d + 10 * m) 0 := by
          refine congrArg (fun f => List.foldr f 0 _) (funext₂ fun d m => ?_)
          omega
      _ = Nat.ofDigits 10 (Nat.digits 10 n) := by
          rw [Nat.ofDigits_eq_foldr]
          rfl
      _ = n := Nat.ofDigits_digits 10 n

theorem partAfter_digits (part : NumberPart) (cs : DartString)
    (hstay : ∀ c, isDigit c = true → numberPart part c = some part)
    (hcs : ∀ c ∈ cs, isDigit c = true) : partAfter part cs = some part := by
  induction cs with
  | nil => rfl
  | cons c cs ih =>
      rw [partAfter, hstay c (hcs c List.mem_cons_self), Option.bind_some]
      exact ih (fun c' hc' => hcs c' (List.mem_cons_of_mem c hc'))

theorem numberPart_digits (c : Nat) (h : isDigit c = true) :
    numberPart .digits c = some .digits := by
  rw [numberPart, if_pos h]

/-- The digits of a number begin with zero only if they are nothing else. -/
theorem partAfter_decimalDigits (n : Nat) :
    ∃ part, partAfter .sign (decimalDigits n) = some part ∧ (part = .zero ∨ part = .digits) := by
  by_cases hzero : n = 0
  · exact ⟨.zero, hzero ▸ rfl, Or.inl rfl⟩
  · have hne := Nat.digits_ne_nil_iff_ne_zero (b := 10) |>.mpr hzero
    have hlast := Nat.getLast_digit_ne_zero 10 hzero
    have hlt := Nat.digits_lt_base (by decide) (List.getLast_mem hne)
    have hcons : decimalDigits n = (0x30 + (Nat.digits 10 n).getLast hne) ::
        (Nat.digits 10 n).dropLast.reverse.map (fun d => 0x30 + d) := by
      rw [decimalDigits, if_neg hzero, ← List.map_cons, ← List.reverse_concat,
        List.dropLast_concat_getLast]
    have hbegin : numberPart .sign (0x30 + (Nat.digits 10 n).getLast hne) = some .digits := by
      rw [numberPart, if_neg (by omega), if_pos (isDigit_of_lt _ hlt)]
    refine ⟨.digits, ?_, Or.inr rfl⟩
    rw [hcons, partAfter, hbegin, Option.bind_some]
    refine partAfter_digits .digits _ numberPart_digits (fun c hc => ?_)
    exact isDigit_decimalDigits n c (hcons ▸ List.mem_cons_of_mem _ hc)

theorem decimalDigits_cons (n : Nat) : ∃ c cs, decimalDigits n = c :: cs ∧ isDigit c = true := by
  cases hdigits : decimalDigits n with
  | nil =>
      rcases partAfter_decimalDigits n with ⟨part, hpart, hends⟩
      rw [hdigits, partAfter, Option.some.injEq] at hpart
      exact absurd hends (hpart ▸ by decide)
  | cons c cs => exact ⟨c, cs, rfl, isDigit_decimalDigits n c (hdigits ▸ List.mem_cons_self)⟩

theorem ne_minus_of_isDigit (c : Nat) (h : isDigit c = true) : c ≠ 0x2D := by
  rintro rfl
  exact absurd h (by decide)

theorem isMinus_decimalDigits (n : Nat) (t : DartString) :
    isMinus (decimalDigits n ++ t) = false := by
  rcases decimalDigits_cons n with ⟨c, cs, hcons, hc⟩
  simp only [isMinus, hcons, List.cons_append, List.head?_cons, Option.some.injEq,
    ne_minus_of_isDigit c hc, decide_false]

/-- A sign of its own does not change how a number goes on. -/
theorem literalPart_withSign (negative : Bool) (n : Nat) (t : DartString) :
    literalPart (withSign negative (decimalDigits n ++ t)) =
      partAfter .sign (decimalDigits n ++ t) := by
  cases negative with
  | true => rfl
  | false =>
      rcases decimalDigits_cons n with ⟨c, cs, hcons, hc⟩
      have hbegin : beginNumber c = numberPart .sign c := by
        rw [beginNumber, if_neg (ne_minus_of_isDigit c hc), numberPart]
      simp only [withSign, Bool.false_eq_true, if_false, hcons, List.cons_append,
        literalPart, partAfter, hbegin]

theorem withSign_append (negative : Bool) (s t : DartString) :
    withSign negative (s ++ t) = withSign negative s ++ t := by
  cases negative with
  | true => rfl
  | false => rfl

theorem isMinus_withSign (negative : Bool) (n : Nat) (t : DartString) :
    isMinus (withSign negative (decimalDigits n ++ t)) = negative := by
  cases negative with
  | true => rfl
  | false => exact isMinus_decimalDigits n t

theorem filter_withSign (negative : Bool) (t : DartString) :
    (withSign negative t).filter isDigit = t.filter isDigit := by
  cases negative with
  | true => rfl
  | false => rfl

theorem signedValue_withSign (negative : Bool) (n : Nat) :
    signedValue (withSign negative (decimalDigits n)) = if negative then -(n : Int) else n := by
  have hsign := isMinus_withSign negative n []
  rw [List.append_nil] at hsign
  rw [signedValue, hsign, filter_withSign, filter_decimalDigits, digitsValue_decimalDigits]

theorem signedValue_intText (n : Int) : signedValue (intText n) = n := by
  rw [intText, signedValue_withSign]
  by_cases hneg : n < 0
  · rw [if_pos (decide_eq_true hneg)]
    omega
  · rw [if_neg (by rwa [decide_eq_true_eq])]
    omega

/-- An `int` is written as a number, -/
theorem isLiteral_intText (n : Int) : isLiteral (intText n) = true := by
  rcases partAfter_decimalDigits n.natAbs with ⟨part, hpart, hends⟩
  have hliteral := literalPart_withSign (n < 0) n.natAbs []
  rw [List.append_nil, hpart] at hliteral
  rw [isLiteral, intText, hliteral, Option.any_some]
  rcases hends with rfl | rfl
  · rfl
  · rfl

theorem isInteger_intText (n : Int) : isInteger (intText n) = true := by
  have hdigits : (decimalDigits n.natAbs).all (fun c => c = 0x2D || isDigit c) = true := by
    refine List.all_eq_true.mpr (fun c hc => ?_)
    rw [isDigit_decimalDigits _ c hc, Bool.or_true]
  rw [isInteger, intText, withSign]
  split
  · rw [List.all_cons, hdigits]
    rfl
  · exact hdigits

/-- and is read back. -/
theorem readNumber_intText (n : DartInt) : readNumber (intText n.1) = .int n := by
  have hvalue := signedValue_intText n.1
  rw [readNumber, if_pos (isInteger_intText n.1), dif_pos (hvalue.symm ▸ n.2)]
  exact congrArg Num.int (Subtype.ext hvalue)

namespace Double

/-- The exact value of a double in decimal is that double. -/
theorem ofDecimal_exact (negative : Bool) (units : Nat) (h : Representable units) :
    ofDecimal negative (exactSignificand units) (-1074) = .finite negative units h := by
  have hpow : (10 : Nat) ^ 1074 = unitsPerOne * 5 ^ 1074 := by
    rw [unitsPerOne, ← Nat.mul_pow]
  have hpos : (-1074 : Int).toNat = 0 := rfl
  have hneg : (- -1074 : Int).toNat = 1074 := rfl
  rw [ofDecimal, hpos, hneg, Nat.pow_zero, Nat.mul_one, hpow, exactSignificand,
    ofRatio_scale _ _ _ _ (Nat.pow_pos (by decide)), ofRatio_units]

theorem isLiteral_exactText (negative : Bool) (units : Nat) :
    isLiteral (withSign negative (exactText units)) = true := by
  rcases partAfter_decimalDigits (exactSignificand units) with ⟨part, hpart, hends⟩
  have hexponent : partAfter part (0x65 :: intText (-1074)) = some .exponentDigits := by
    rcases hends with rfl | rfl
    · rfl
    · rfl
  rw [isLiteral, exactText, literalPart_withSign, partAfter_append, hpart, Option.bind_some,
    hexponent]
  rfl

/-- A digit or a minus sign is neither a point nor an exponent mark. -/
theorem plain_withSign (negative : Bool) (n c : Nat) (h : c ∈ withSign negative (decimalDigits n)) :
    isExponentMark c = false ∧ c ≠ 0x2E := by
  have hdigit : c = 0x2D ∨ isDigit c = true := by
    cases negative with
    | true =>
        rcases List.mem_cons.mp h with hminus | hmem
        · exact Or.inl hminus
        · exact Or.inr (isDigit_decimalDigits n c hmem)
    | false => exact Or.inr (isDigit_decimalDigits n c h)
  simp only [isDigit, Bool.and_eq_true, decide_eq_true_eq] at hdigit
  simp only [isExponentMark, Bool.or_eq_false_iff, decide_eq_false_iff_not]
  omega

/-- Digits with an exponent. -/
theorem readDouble_scientific (negative : Bool) (n : Nat) (k : Int) :
    readDouble (withSign negative (decimalDigits n ++ 0x65 :: intText k)) =
      ofDecimal negative n k := by
  have hplain := plain_withSign negative n
  have hminus := isMinus_withSign negative n (0x65 :: intText k)
  rw [withSign_append] at hminus ⊢
  have hmantissa : (withSign negative (decimalDigits n) ++ 0x65 :: intText k).takeWhile
      (fun c => !isExponentMark c) = withSign negative (decimalDigits n) := by
    rw [List.takeWhile_append_of_pos (fun c hc => by rw [(hplain c hc).1]; rfl),
      List.takeWhile_cons_of_neg (by decide), List.append_nil]
  have hwhole : (withSign negative (decimalDigits n)).takeWhile (fun c => c != 0x2E) =
      withSign negative (decimalDigits n) :=
    List.takeWhile_eq_self_iff.mpr (fun c hc => bne_iff_ne.mpr (hplain c hc).2)
  have hexponent : (withSign negative (decimalDigits n) ++ 0x65 :: intText k).drop
      ((withSign negative (decimalDigits n)).length + 1) = intText k := by
    rw [List.drop_append, List.drop_eq_nil_of_le (Nat.le_succ _), Nat.add_sub_cancel_left,
      List.nil_append, List.drop_one, List.tail_cons]
  simp only [readDouble, hmantissa, hwhole, hexponent, hminus,
    List.drop_eq_nil_of_le (Nat.le_succ _), filter_withSign, filter_decimalDigits,
    digitsValue_decimalDigits, signedValue_intText, List.length_nil, Int.natCast_zero, Int.sub_zero]

theorem isInteger_exactText (negative : Bool) (units : Nat) :
    isInteger (withSign negative (exactText units)) = false := by
  have hmem : 0x65 ∈ withSign negative (exactText units) := by
    rw [exactText, withSign_append]
    exact List.mem_append_right _ List.mem_cons_self
  rw [isInteger, List.all_eq_false]
  exact ⟨0x65, hmem, by decide⟩

theorem readNumber_exactText (negative : Bool) (units : Nat) (h : Representable units) :
    readNumber (withSign negative (exactText units)) = .double (.finite negative units h) := by
  rw [readNumber, if_neg (by rw [isInteger_exactText]; decide), exactText, readDouble_scientific,
    ofDecimal_exact negative units h]

/-- A finite double is written as a number, and is read back. -/
theorem readNumber_toText (negative : Bool) (units : Nat) (h : Representable units) :
    isLiteral (toText negative units h) = true ∧
      readNumber (toText negative units h) = .double (.finite negative units h) := by
  unfold toText
  cases hfind : ((candidates units).map (withSign negative)).find? (fun text =>
      isLiteral text && readNumber text = .double (.finite negative units h)) with
  | some text =>
      have haccepted := List.find?_some hfind
      rw [Bool.and_eq_true, decide_eq_true_eq] at haccepted
      exact haccepted
  | none => exact ⟨isLiteral_exactText negative units, readNumber_exactText negative units h⟩

end Double

end Mobile

end Vena
