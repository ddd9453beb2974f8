import Vena.Python.JsonLoads
import Vena.Core.Decimal
import Vena.Core.Utf8

/-!
# Reading Printed Documents

What `json.loads` makes of a text that another program has printed without any
white space: the literals of numbers, the named constants, and objects of such
values under keys that need no escapes. The scanner looks at the character
behind a number to know that it is over, so that a text is read as a value is
stated with whatever may stand behind it in a document.

A printed text is ASCII, so its encoding is never in doubt.

## Main definitions

* `Delimited`: What may follow a value.
* `Reads`: The scanner reads the text as the value.
* `Literal`: A number, digit by digit.
* `Member`, `objectText`: An object and its members as text.

## Theorems

* `reads_literal`: Numbers are read.
* `reads_object`: Objects of what is read are.
* `loads_of_reads`: So is the whole text.
-/

namespace Vena

namespace Python

/-- The end of the text, a comma or a closing bracket. -/
def Delimited (rest : PyStr) : Prop :=
  rest = [] ∨ ∃ c cs, rest = c :: cs ∧ (c = 0x2C ∨ c = 0x5D ∨ c = 0x7D)

/-- The scanner takes the text for the value, and stops behind it. -/
structure Reads (depth : Nat) (text : PyStr) (v : PyVal) : Prop where
  first : ∃ c cs, text = c :: cs ∧ isJsonSpace c = false
  scans : ∀ rest, Delimited rest → scanOnce depth (text ++ rest) = .ok (v, rest)

/-- All of them are digits. -/
def Digits (s : PyStr) : Prop := ∀ c ∈ s, isDigit c = true

/-- What does not go on with a digit. -/
def NoDigit (rest : PyStr) : Prop := ∀ c cs, rest = c :: cs → isDigit c = false

section Digits

theorem takeWhile_digits (s rest : PyStr) (hs : Digits s) (hrest : NoDigit rest) :
    (s ++ rest).takeWhile isDigit = s := by
  rw [List.takeWhile_append_of_pos hs]
  cases rest with
  | nil => rw [List.takeWhile_nil, List.append_nil]
  | cons c cs =>
      rw [List.takeWhile_cons_of_neg (by rw [hrest c cs rfl]; exact Bool.false_ne_true),
        List.append_nil]

theorem dropWhile_digits (s rest : PyStr) (hs : Digits s) (hrest : NoDigit rest) :
    (s ++ rest).dropWhile isDigit = rest := by
  rw [List.dropWhile_append_of_pos hs]
  cases rest with
  | nil => rfl
  | cons c cs => rw [List.dropWhile_cons_of_neg (by rw [hrest c cs rfl]; exact Bool.false_ne_true)]

theorem noDigit_nil : NoDigit [] := fun _ _ h => by cases h

theorem noDigit_cons (c : Nat) (cs : PyStr) (h : isDigit c = false) : NoDigit (c :: cs) := by
  intro c' cs' heq
  cases heq
  exact h

theorem noDigit_of_delimited (rest : PyStr) (h : Delimited rest) : NoDigit rest := by
  rcases h with rfl | ⟨c, cs, rfl, hc⟩
  · exact noDigit_nil
  · refine noDigit_cons c cs ?_
    rcases hc with rfl | rfl | rfl <;> rfl

/-- The first digit of a number, as the scanner wants it. -/
theorem digits_begins (n : Nat) : Decimal.digits n = [0x30] ∨
    ∃ d ds, Decimal.digits n = d :: ds ∧ isDigit d = true ∧ d ≠ 0x30 := by
  refine (Decimal.digits_begins n).imp_right (fun h => ?_)
  obtain ⟨d, ds, heq, hlow, hhigh⟩ := h
  refine ⟨d, ds, heq, ?_, Nat.ne_of_gt hlow⟩
  simp only [isDigit, Bool.and_eq_true, decide_eq_true_eq]
  omega

theorem digits_of_numeral (s : PyStr) (h : Decimal.Numeral s) : Digits s := by
  intro c hc
  have hrange := h c hc
  simp only [isDigit, Bool.and_eq_true, decide_eq_true_eq]
  exact hrange

/-- The value of a numeral, as the scanner computes it. -/
theorem digitsToNat_numeral (s : PyStr) :
    digitsToNat 10 (s.map (fun c => c - 0x30)) = Decimal.value s := by
  rw [digitsToNat, List.foldl_map, Decimal.value]

end Digits

/-- A number, digit by digit. A missing fraction has no digits. -/
structure Literal where
  negative : Bool
  whole : PyStr
  frac : PyStr
  exponent : Option Int
  wholeBegins : whole = [0x30] ∨ ∃ d ds, whole = d :: ds ∧ isDigit d = true ∧ d ≠ 0x30
  wholeDigits : Digits whole
  wholeLength : whole.length ≤ maxStrDigits
  fracDigits : Digits frac

namespace Literal

variable (l : Literal)

def sign : PyStr := if l.negative then [0x2D] else []

def fraction : PyStr := if l.frac = [] then [] else 0x2E :: l.frac

/-- The exponent is written without a plus. -/
def intText (n : Int) : PyStr :=
  if n < 0 then 0x2D :: Decimal.digits n.natAbs else Decimal.digits n.natAbs

def power : PyStr :=
  match l.exponent with
  | none => []
  | some n => 0x65 :: intText n

def text : PyStr := l.sign ++ (l.whole ++ (l.fraction ++ l.power))

/-- A literal of an integer is an `int`, any other a `float`. -/
def value : PyVal :=
  if l.frac = [] ∧ l.exponent = none then
    .int (if l.negative then -(Decimal.value l.whole : Int) else Decimal.value l.whole)
  else .float (decimalFloat l.negative (l.whole ++ l.frac) (l.exponent.getD 0 - l.frac.length))

end Literal

section Numbers

theorem wholeDigits_append (whole rest : PyStr)
    (hbegins : whole = [0x30] ∨ ∃ d ds, whole = d :: ds ∧ isDigit d = true ∧ d ≠ 0x30)
    (hdigits : Digits whole) (hrest : NoDigit rest) :
    wholeDigits (whole ++ rest) = (whole, rest) := by
  rcases hbegins with rfl | ⟨d, ds, rfl, _, hne⟩
  · rfl
  · have htake := takeWhile_digits (d :: ds) rest hdigits hrest
    have hdrop := dropWhile_digits (d :: ds) rest hdigits hrest
    rw [List.cons_append] at htake hdrop ⊢
    -- A zero stands alone, and any other digit begins a longer number.
    unfold wholeDigits
    split
    · next heq =>
        rw [List.cons.injEq] at heq
        exact absurd heq.1 hne
    · rw [htake, hdrop]

theorem scanFraction_append (frac rest : PyStr) (hne : frac ≠ []) (hdigits : Digits frac)
    (hrest : NoDigit rest) : scanFraction (0x2E :: frac ++ rest) = some (frac, rest) := by
  cases frac with
  | nil => exact absurd rfl hne
  | cons c cs =>
      have htake := takeWhile_digits (c :: cs) rest hdigits hrest
      have hdrop := dropWhile_digits (c :: cs) rest hdigits hrest
      rw [List.cons_append] at htake hdrop
      rw [List.cons_append, List.cons_append, scanFraction, if_pos (hdigits c List.mem_cons_self),
        htake, hdrop]

theorem exponentSign_digits (s rest : PyStr) (hne : s ≠ []) (hs : Digits s) :
    exponentSign (s ++ rest) = (false, s ++ rest) := by
  cases s with
  | nil => exact absurd rfl hne
  | cons c cs =>
      have hc := hs c List.mem_cons_self
      rw [List.cons_append]
      -- A digit is no sign.
      unfold exponentSign
      split
      · next heq =>
          rw [List.cons.injEq] at heq
          rw [heq.1] at hc
          exact absurd hc (by decide)
      · next heq =>
          rw [List.cons.injEq] at heq
          rw [heq.1] at hc
          exact absurd hc (by decide)
      · rfl

theorem scanExponent_append (n : Int) (rest : PyStr) (hrest : NoDigit rest) :
    scanExponent (0x65 :: Literal.intText n ++ rest) = some (n, rest) := by
  have hdigits := digits_of_numeral _ (Decimal.numeral_digits n.natAbs)
  have htake := takeWhile_digits (Decimal.digits n.natAbs) rest hdigits hrest
  have hdrop := dropWhile_digits (Decimal.digits n.natAbs) rest hdigits hrest
  rw [List.cons_append, scanExponent, if_pos (by decide)]
  -- The minus is the only sign that is ever printed.
  by_cases hneg : n < 0
  · rw [Literal.intText, if_pos hneg, List.cons_append]
    have hsign : exponentSign (0x2D :: (Decimal.digits n.natAbs ++ rest)) =
        (true, Decimal.digits n.natAbs ++ rest) := rfl
    dsimp only
    rw [hsign, htake, if_neg (Decimal.digits_ne_nil _), if_pos rfl, hdrop, digitsToNat_numeral,
      Decimal.value_digits]
    congr 2
    omega
  · rw [Literal.intText, if_neg hneg]
    have hsign := exponentSign_digits (Decimal.digits n.natAbs) rest (Decimal.digits_ne_nil _)
      hdigits
    dsimp only
    rw [hsign, htake, if_neg (Decimal.digits_ne_nil _), if_neg Bool.false_ne_true, hdrop,
      digitsToNat_numeral, Decimal.value_digits]
    congr 2
    omega

theorem scanFraction_none (rest : PyStr) (h : ∀ cs, rest ≠ 0x2E :: cs) :
    scanFraction rest = none := by
  unfold scanFraction
  split
  · next c rest' => exact absurd rfl (h (c :: rest'))
  · rfl

theorem scanExponent_none (rest : PyStr) (h : Delimited rest) : scanExponent rest = none := by
  rcases h with rfl | ⟨c, cs, rfl, hc⟩
  · rfl
  · rw [scanExponent, if_neg]
    rcases hc with rfl | rfl | rfl <;> decide

end Numbers

namespace Literal

variable (l : Literal) (rest : PyStr)

theorem noDigit_power (h : Delimited rest) : NoDigit (l.power ++ rest) := by
  rw [power]
  cases l.exponent with
  | none => exact noDigit_of_delimited rest h
  | some n => exact noDigit_cons _ _ rfl

theorem noDigit_fraction (h : Delimited rest) : NoDigit (l.fraction ++ (l.power ++ rest)) := by
  rw [fraction]
  split
  · exact noDigit_power l rest h
  · exact noDigit_cons _ _ rfl

/-- Neither an exponent nor what follows a value begins with a point. -/
theorem power_no_point (h : Delimited rest) (cs : PyStr) : l.power ++ rest ≠ 0x2E :: cs := by
  rw [power]
  cases l.exponent with
  | none =>
      rcases h with rfl | ⟨c, cs', rfl, hc⟩
      · exact fun heq => by cases heq
      · intro heq
        rw [List.nil_append, List.cons.injEq] at heq
        rw [heq.1] at hc
        exact absurd hc (by decide)
  | some n =>
      intro heq
      rw [List.cons_append, List.cons.injEq] at heq
      exact absurd heq.1 (by decide)

theorem value_int (hfrac : l.frac = []) (hexp : l.exponent = none) :
    l.value =
      .int (if l.negative then -(Decimal.value l.whole : Int) else Decimal.value l.whole) :=
  if_pos ⟨hfrac, hexp⟩

theorem value_float (h : ¬(l.frac = [] ∧ l.exponent = none)) :
    l.value = .float (decimalFloat l.negative (l.whole ++ l.frac)
      (l.exponent.getD 0 - l.frac.length)) := if_neg h

/-- What follows the digits before the point is read by the branch that the
    literal has been printed for. -/
theorem scanTail_text (h : Delimited rest) :
    scanTail l.negative l.whole (l.fraction ++ (l.power ++ rest)) = .ok (l.value, rest) := by
  have hlong : ¬tooManyDigits 10 l.whole = true := by
    rw [tooManyDigits, Bool.and_eq_true, decide_eq_true_eq, decide_eq_true_eq]
    exact fun hboth => Nat.not_lt.mpr l.wholeLength hboth.2
  unfold scanTail
  -- Four branches: with and without a fraction, with and without an exponent.
  by_cases hfrac : l.frac = []
  · rw [fraction, if_pos hfrac, List.nil_append,
      scanFraction_none _ (fun cs => power_no_point l rest h cs), power]
    cases hexp : l.exponent with
    | none =>
        dsimp only
        rw [List.nil_append, scanExponent_none rest h, value_int l hfrac hexp]
        dsimp only
        rw [if_neg hlong, digitsToNat_numeral]
    | some n =>
        dsimp only
        rw [scanExponent_append n rest (noDigit_of_delimited rest h),
          value_float l (fun hboth => by rw [hexp] at hboth; cases hboth.2)]
        dsimp only
        rw [hfrac, hexp, List.append_nil, Option.getD_some, List.length_nil, Int.ofNat_zero,
          Int.sub_zero]
  · rw [fraction, if_neg hfrac, scanFraction_append l.frac _ hfrac l.fracDigits
      (noDigit_power l rest h), value_float l (fun hboth => hfrac hboth.1), power]
    cases hexp : l.exponent with
    | none =>
        dsimp only
        rw [List.nil_append, scanExponent_none rest h]
        dsimp only
        rw [Option.getD_none, Int.zero_sub]
    | some n =>
        dsimp only
        rw [scanExponent_append n rest (noDigit_of_delimited rest h)]
        dsimp only
        rw [Option.getD_some]

theorem whole_cons : ∃ c cs, l.whole = c :: cs ∧ isDigit c = true := by
  rcases l.wholeBegins with h | ⟨d, ds, h, hd, _⟩
  · exact ⟨0x30, [], h, rfl⟩
  · exact ⟨d, ds, h, hd⟩

theorem scanMagnitude_text (h : Delimited rest) :
    scanMagnitude l.negative (l.whole ++ (l.fraction ++ (l.power ++ rest))) =
      .ok (l.value, rest) := by
  have hsplit := wholeDigits_append l.whole (l.fraction ++ (l.power ++ rest)) l.wholeBegins
    l.wholeDigits (noDigit_fraction l rest h)
  obtain ⟨c, cs, hcons, _⟩ := whole_cons l
  unfold scanMagnitude
  rw [hsplit]
  dsimp only
  rw [if_neg (by rw [hcons]; exact List.cons_ne_nil _ _)]
  exact scanTail_text l rest h

theorem text_append : l.text ++ rest =
    l.sign ++ (l.whole ++ (l.fraction ++ (l.power ++ rest))) := by
  simp only [text, List.append_assoc]

theorem scanNumber_text (h : Delimited rest) :
    scanNumber (l.text ++ rest) = .ok (l.value, rest) := by
  have hmagnitude := scanMagnitude_text l rest h
  obtain ⟨c, cs, hcons, hc⟩ := whole_cons l
  rw [text_append, sign]
  cases hneg : l.negative with
  | true =>
      rw [hneg] at hmagnitude
      rw [if_pos rfl, List.cons_append, List.nil_append, scanNumber]
      exact hmagnitude
  | false =>
      rw [hneg] at hmagnitude
      rw [if_neg Bool.false_ne_true, List.nil_append]
      rw [hcons, List.cons_append] at hmagnitude ⊢
      -- The first character is a digit, and so no minus.
      unfold scanNumber
      split
      · next heq =>
          rw [List.cons.injEq] at heq
          rw [heq.1] at hc
          exact absurd hc (by decide)
      · exact hmagnitude

/-- A number begins with a digit or with a sign and a digit. -/
theorem text_cons : ∃ c cs, l.text ++ rest = c :: cs ∧
    (isDigit c = true ∨ c = 0x2D ∧ ∃ d ds, cs = d :: ds ∧ isDigit d = true) := by
  obtain ⟨c, cs, hcons, hc⟩ := whole_cons l
  rw [text_append, sign, hcons]
  cases l.negative with
  | true => exact ⟨_, _, rfl, Or.inr ⟨rfl, c, _, rfl, hc⟩⟩
  | false => exact ⟨c, _, rfl, Or.inl hc⟩

end Literal

section Values

variable (depth : Nat)

/-- What begins neither with a bracket nor with a quote is a scalar. -/
theorem scanOnce_scalar (c : Nat) (cs : PyStr) (hbrace : c ≠ 0x7B) (hbracket : c ≠ 0x5B) :
    scanOnce depth (c :: cs) = scanScalar (c :: cs) := by
  unfold scanOnce
  split
  · next heq =>
      rw [List.cons.injEq] at heq
      exact absurd heq.1 hbrace
  · next heq =>
      rw [List.cons.injEq] at heq
      exact absurd heq.1 hbracket
  · next heq =>
      rw [List.cons.injEq] at heq
      exact absurd heq.1 hbrace
  · next heq =>
      rw [List.cons.injEq] at heq
      exact absurd heq.1 hbracket
  · rfl

/-- None of the named constants has a digit among its first two characters. -/
theorem constants_no_digit : ∀ k ∈ constants, ∃ a b t, PyStr.ofString k.1 = a :: b :: t ∧
    isDigit a = false ∧ isDigit b = false := by
  have hall : ∀ k ∈ constants, 2 ≤ (PyStr.ofString k.1).length ∧
      ((PyStr.ofString k.1).take 2).all (fun c => !isDigit c) = true := by decide
  intro k hk
  obtain ⟨hlength, hdigits⟩ := hall k hk
  match hs : PyStr.ofString k.1 with
  | [] =>
      rw [hs] at hlength
      exact absurd hlength (by decide)
  | [_] =>
      rw [hs, List.length_singleton] at hlength
      omega
  | a :: b :: t =>
      rw [hs] at hdigits
      simp only [List.take_succ_cons, List.take_zero, List.all_cons, List.all_nil, Bool.and_true,
        Bool.and_eq_true, Bool.not_eq_eq_eq_not, Bool.not_true] at hdigits
      exact ⟨a, b, t, rfl, hdigits.1, hdigits.2⟩

theorem scanConstant_number (c : Nat) (cs : PyStr)
    (h : isDigit c = true ∨ c = 0x2D ∧ ∃ d ds, cs = d :: ds ∧ isDigit d = true) :
    scanConstant (c :: cs) = none := by
  -- A digit, or a minus with a digit, is the beginning of no constant.
  have hnone : constants.find? (fun k => (PyStr.ofString k.1).isPrefixOf (c :: cs)) = none := by
    rw [List.find?_eq_none]
    intro k hk hpre
    obtain ⟨a, b, t, hs, ha, hb⟩ := constants_no_digit k hk
    obtain ⟨u, hu⟩ := List.isPrefixOf_iff_prefix.mp hpre
    rw [hs, List.cons_append, List.cons.injEq, List.cons_append] at hu
    rcases h with hc | ⟨_, d, ds, rfl, hd⟩
    · rw [← hu.1, ha] at hc
      cases hc
    · rw [List.cons.injEq] at hu
      rw [← hu.2.1, hb] at hd
      cases hd
  rw [scanConstant, hnone, Option.map_none]

theorem reads_literal (l : Literal) : Reads depth l.text l.value := by
  refine ⟨?_, fun rest hrest => ?_⟩
  · obtain ⟨c, cs, htext, hc⟩ := Literal.text_cons l []
    rw [List.append_nil] at htext
    refine ⟨c, cs, htext, ?_⟩
    rcases hc with hc | ⟨rfl, _⟩
    · simp only [isDigit, Bool.and_eq_true, decide_eq_true_eq] at hc
      simp only [isJsonSpace, Bool.or_eq_false_iff, decide_eq_false_iff_not]
      omega
    · rfl
  · have hnumber := Literal.scanNumber_text l rest hrest
    obtain ⟨c, cs, htext, hc⟩ := Literal.text_cons l rest
    have hrange : c = 0x2D ∨ 0x30 ≤ c ∧ c ≤ 0x39 := by
      rcases hc with hc | ⟨rfl, _⟩
      · simp only [isDigit, Bool.and_eq_true, decide_eq_true_eq] at hc
        exact Or.inr hc
      · exact Or.inl rfl
    rw [htext] at hnumber ⊢
    rw [scanOnce_scalar depth c cs (by omega) (by omega)]
    unfold scanScalar
    split
    · next heq => cases heq
    · next heq =>
        rw [List.cons.injEq] at heq
        omega
    · rw [scanConstant_number c cs hc]
      exact hnumber

theorem reads_null : Reads depth (PyStr.ofString "null") .none :=
  ⟨⟨_, _, rfl, rfl⟩, fun rest _ => by
    rw [show PyStr.ofString "null" ++ rest = 0x6E :: 0x75 :: 0x6C :: 0x6C :: rest from rfl,
      scanOnce_scalar depth _ _ (by decide) (by decide)]
    rfl⟩

theorem reads_bool (b : Bool) :
    Reads depth (PyStr.ofString (if b then "true" else "false")) (.bool b) := by
  cases b with
  | true =>
      refine ⟨⟨_, _, rfl, rfl⟩, fun rest _ => ?_⟩
      rw [show PyStr.ofString (if true then "true" else "false") ++ rest =
          0x74 :: 0x72 :: 0x75 :: 0x65 :: rest from rfl,
        scanOnce_scalar depth _ _ (by decide) (by decide)]
      rfl
  | false =>
      refine ⟨⟨_, _, rfl, rfl⟩, fun rest _ => ?_⟩
      rw [show PyStr.ofString (if false then "true" else "false") ++ rest =
          0x66 :: 0x61 :: 0x6C :: 0x73 :: 0x65 :: rest from rfl,
        scanOnce_scalar depth _ _ (by decide) (by decide)]
      rfl

end Values

/-- What a string can hold without an escape. -/
def Plain (s : PyStr) : Prop := ∀ c ∈ s, 0x20 ≤ c ∧ c ≠ 0x22 ∧ c ≠ 0x5C

instance (s : PyStr) : Decidable (Plain s) := inferInstanceAs (Decidable (∀ c ∈ s, _))

/-- A member as text, with what its value stands for. -/
structure Member where
  key : PyStr
  text : PyStr
  value : PyVal

def Member.print (m : Member) : PyStr := 0x22 :: (m.key ++ 0x22 :: 0x3A :: m.text)

def membersText : List Member → PyStr
  | [] => []
  | [m] => m.print
  | m :: n :: ms => m.print ++ 0x2C :: membersText (n :: ms)

def objectText (ms : List Member) : PyStr := 0x7B :: (membersText ms ++ [0x7D])

/-- The members as the dictionary has them. -/
def items (ms : List Member) : List (PyStr × PyVal) := ms.map (fun m => (m.key, m.value))

section Objects

variable (depth : Nat)

theorem scanString_plain (s rest : PyStr) (h : Plain s) :
    scanString none (s ++ 0x22 :: rest) = some (s, rest) := by
  induction s with
  | nil => rfl
  | cons c s ih =>
      have hc := h c List.mem_cons_self
      have hrest := ih (fun c' hc' => h c' (List.mem_cons_of_mem c hc'))
      rw [List.cons_append]
      unfold scanString
      split
      · next heq => cases heq
      · next heq =>
          rw [List.cons.injEq] at heq
          exact absurd heq.1 hc.2.1
      · next heq =>
          rw [List.cons.injEq] at heq
          exact absurd heq.1 hc.2.2
      · next heq =>
          rw [List.cons.injEq] at heq
          exact absurd heq.1 hc.2.2
      · next heq =>
          rw [List.cons.injEq] at heq
          obtain ⟨rfl, rfl⟩ := heq
          -- Above the control characters, and no backslash.
          have hplain : ¬(decide (c ≤ 0x1F) || decide (c = 0x5C)) = true := by
            rw [Bool.or_eq_true, decide_eq_true_eq, decide_eq_true_eq]
            omega
          rw [if_neg hplain, hrest]
          rfl

theorem reads_string (s : PyStr) (h : Plain s) :
    Reads depth (0x22 :: (s ++ [0x22])) (.str s) := by
  refine ⟨⟨_, _, rfl, rfl⟩, fun rest _ => ?_⟩
  have hstring := scanString_plain s rest h
  rw [List.cons_append, List.append_assoc, List.cons_append, List.nil_append,
    scanOnce_scalar depth _ _ (by decide) (by decide), scanScalar, hstring]

theorem skipWs_text (text v : PyStr) (h : ∃ c cs, text = c :: cs ∧ isJsonSpace c = false) :
    skipWs (text ++ v) = text ++ v := by
  obtain ⟨c, cs, rfl, hc⟩ := h
  rw [List.cons_append, skipWs, List.dropWhile_cons_of_neg (by rw [hc]; exact Bool.false_ne_true)]

/-- A member is read up to the comma or the brace behind it. -/
theorem scanMember_print (m : Member) (rest : PyStr) (hkey : Plain m.key)
    (hvalue : Reads depth m.text m.value) (hrest : Delimited rest) :
    scanMember (scanOnce depth) (m.print ++ rest) = .ok ((m.key, m.value), rest) := by
  have hstring := scanString_plain m.key (0x3A :: (m.text ++ rest)) hkey
  have hshape : m.print ++ rest = 0x22 :: (m.key ++ 0x22 :: 0x3A :: (m.text ++ rest)) := by
    simp only [Member.print, List.cons_append, List.append_assoc]
  rw [hshape, scanMember, hstring]
  have hcolon : skipWs (0x3A :: (m.text ++ rest)) = 0x3A :: (m.text ++ rest) := rfl
  simp only [hcolon, skipWs_text m.text rest hvalue.first, hvalue.scans rest hrest]

/-- The members up to the closing brace, with fuel for each of them. -/
theorem scanItems_members (ms : List Member) (rest : PyStr) (hne : ms ≠ [])
    (hkeys : ∀ m ∈ ms, Plain m.key) (hvalues : ∀ m ∈ ms, Reads depth m.text m.value) :
    ∀ fuel, ms.length ≤ fuel →
      scanItems (scanMember (scanOnce depth)) 0x7D fuel (membersText ms ++ 0x7D :: rest) =
        .ok (items ms, rest) := by
  induction ms with
  | nil => exact absurd rfl hne
  | cons m ms ih =>
      intro fuel hfuel
      cases fuel with
      | zero => exact absurd hfuel (Nat.not_succ_le_zero _)
      | succ fuel =>
          have hread := fun rest hrest => scanMember_print depth m rest (hkeys m List.mem_cons_self)
            (hvalues m List.mem_cons_self) hrest
          cases ms with
          | nil =>
              -- The last member is followed by the brace,
              have hlast := hread (0x7D :: rest) (Or.inr ⟨_, _, rfl, Or.inr (Or.inr rfl)⟩)
              rw [membersText, scanItems, hlast]
              rfl
          | cons n ms =>
              -- and any other by a comma and the quote of the next one.
              have hnext := ih (List.cons_ne_nil _ _)
                (fun m' hm' => hkeys m' (List.mem_cons_of_mem m hm'))
                (fun m' hm' => hvalues m' (List.mem_cons_of_mem m hm')) fuel
                (Nat.le_of_succ_le_succ hfuel)
              have hcomma := hread (0x2C :: (membersText (n :: ms) ++ 0x7D :: rest))
                (Or.inr ⟨_, _, rfl, Or.inl rfl⟩)
              have hskip : skipWs (0x2C :: (membersText (n :: ms) ++ 0x7D :: rest)) =
                  0x2C :: (membersText (n :: ms) ++ 0x7D :: rest) := rfl
              have hquote : skipWs (membersText (n :: ms) ++ 0x7D :: rest) =
                  membersText (n :: ms) ++ 0x7D :: rest := by
                refine skipWs_text _ _ ?_
                cases ms with
                | nil => exact ⟨_, _, rfl, rfl⟩
                | cons _ _ => exact ⟨_, _, rfl, rfl⟩
              rw [membersText, List.append_assoc, List.cons_append, scanItems, hcomma]
              simp only [hskip, hquote, hnext]
              rfl

theorem foldl_setItem (ms done : List (PyStr × PyVal))
    (hkeys : ((done ++ ms).map Prod.fst).Nodup) :
    ms.foldl (fun items m => setItem items m.1 m.2) done = done ++ ms := by
  induction ms generalizing done with
  | nil => rw [List.foldl_nil, List.append_nil]
  | cons m ms ih =>
      -- The key is a new one, and so the member goes to the end.
      have hnew : done.any (fun item => item.1 = m.1) = false := by
        rw [List.any_eq_false]
        intro item hitem heq
        rw [List.map_append, List.nodup_append] at hkeys
        exact hkeys.2.2 item.1 (List.mem_map_of_mem hitem) m.1
          (List.mem_map_of_mem List.mem_cons_self) (of_decide_eq_true heq)
      rw [List.foldl_cons, setItem, hnew, if_neg Bool.false_ne_true, ih, List.append_assoc]
      · rfl
      · rw [List.append_assoc]
        exact hkeys

theorem length_membersText (ms : List Member) : ms.length ≤ (membersText ms).length := by
  induction ms with
  | nil => exact Nat.le_refl _
  | cons m ms ih =>
      cases ms with
      | nil => exact Nat.succ_le_succ (Nat.zero_le _)
      | cons n ms =>
          simp only [membersText, List.length_append, List.length_cons] at ih ⊢
          omega

/-- An object under distinct plain keys is read as the dictionary of what its
    members are read as. -/
theorem reads_object (ms : List Member) (hkeys : ∀ m ∈ ms, Plain m.key)
    (hvalues : ∀ m ∈ ms, Reads depth m.text m.value) (hnodup : (ms.map Member.key).Nodup) :
    Reads (depth + 1) (objectText ms) (.dict (items ms)) := by
  refine ⟨⟨_, _, rfl, rfl⟩, fun rest _ => ?_⟩
  rw [objectText, List.cons_append, List.append_assoc, List.cons_append, List.nil_append, scanOnce]
  cases ms with
  | nil => rfl
  | cons m ms =>
      have hquote : ∃ t, membersText (m :: ms) ++ 0x7D :: rest = 0x22 :: t := by
        cases ms with
        | nil => exact ⟨_, rfl⟩
        | cons _ _ => exact ⟨_, rfl⟩
      have hfold := foldl_setItem (items (m :: ms)) [] (by
        rw [List.nil_append, items, List.map_map]
        exact hnodup)
      -- The fuel is the length of the text, and no member is without a character.
      have hitems := scanItems_members depth (m :: ms) rest (List.cons_ne_nil _ _) hkeys hvalues
        ((membersText (m :: ms) ++ 0x7D :: rest).length + 1) (by
          have hle := length_membersText (m :: ms)
          rw [List.length_append]
          omega)
      obtain ⟨t, ht⟩ := hquote
      rw [ht] at hitems ⊢
      have hskip : skipWs (0x22 :: t) = 0x22 :: t := rfl
      unfold scanObject
      rw [hskip]
      split
      · next heq =>
          rw [List.cons.injEq] at heq
          exact absurd heq.1 (by decide)
      · rw [hitems]
        dsimp only
        rw [hfold]
        rfl

end Objects

section Bytes

open Utf8

theorem decodeUtf8_ascii (bytes : List Nat) (h : Ascii bytes) : decodeUtf8 bytes = some bytes := by
  induction bytes with
  | nil => rfl
  | cons b bytes ih =>
      rw [decodeUtf8.eq_def]
      dsimp only
      rw [if_pos (h b List.mem_cons_self).2, ih (fun c hc => h c (List.mem_cons_of_mem b hc)),
        Option.map_some]

/-- ASCII without a zero is taken for UTF-8. -/
theorem detectEncoding_ascii (bytes : List Nat) (h : Ascii bytes) :
    detectEncoding bytes = .utf8 0 := by
  unfold detectEncoding
  split
  · exact absurd (h 0x00 List.mem_cons_self).1 (by decide)
  · exact absurd (h 0xFF List.mem_cons_self).2 (by decide)
  · exact absurd (h 0xFE List.mem_cons_self).2 (by decide)
  · exact absurd (h 0xFF List.mem_cons_self).2 (by decide)
  · exact absurd (h 0xEF List.mem_cons_self).2 (by decide)
  · -- Four bytes without a zero are neither UTF-16 nor UTF-32.
    next a b c d rest _ _ _ _ _ =>
      have ha := (h a List.mem_cons_self).1
      have hb := (h b (List.mem_cons_of_mem _ List.mem_cons_self)).1
      rw [if_neg (by omega), if_neg (by omega)]
  · next a b _ _ =>
      have ha := (h a List.mem_cons_self).1
      have hb := (h b (List.mem_cons_of_mem _ List.mem_cons_self)).1
      rw [if_neg (by omega), if_neg (by omega)]
  · rfl

theorem decodeBytes_ascii (bytes : List Nat) (h : Ascii bytes) :
    decodeBytes bytes = some bytes := by
  rw [decodeBytes, detectEncoding_ascii bytes h]
  exact decodeUtf8_ascii bytes h

/-- A text in ASCII that the scanner reads as a value is loaded as that value. -/
theorem loads_of_reads (depth : Nat) (text : List Nat) (v : PyVal) (hascii : Ascii text)
    (h : Reads depth text v) : loads depth (text.map UInt8.ofNat) = .ok v := by
  have hbytes := toNat_ascii text hascii
  have hscan := h.scans [] (Or.inl rfl)
  have hskip := skipWs_text text [] h.first
  rw [List.append_nil] at hscan hskip
  rw [loads, hbytes, decodeBytes_ascii text hascii]
  dsimp only
  rw [hskip, hscan]
  rfl

end Bytes

end Python

end Vena
