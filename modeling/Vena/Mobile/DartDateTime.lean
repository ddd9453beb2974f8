import Vena.Core.Gregorian
import Vena.Mobile.Num

/-!
# Dates as Text

Dart's class `DateTime`, as far as the app writes one and reads it back: a
number of microseconds since 1970 and a flag whether it is meant in UTC.
`toIso8601String` of a UTC value always has the shape
`2026-05-23T07:05:09.123456Z`, with the last three digits left out when they are
zero, and with a sign and six digits in place of the four of the year when it
does not fit. `DateTime.parse` accepts much more. A text without a zone is meant
in local time, and what that is depends on the phone.

## Main definitions

* `DateTime`: An instant within the bounds of the class.
* `DateTime.toUtcIso8601String`: `toUtc().toIso8601String()`.
* `DateTime.parse`: A text, given the clock of the phone.

## Theorems

* `takeDigits_padded`: Digits are read back.
* `parseTime_timeText`, `parseDate_iso`: The text of an instant is taken apart.
* `toMicros_partsOf`: Its parts are put together again.
* `parse_iso`: An instant is read back, in UTC.
-/

namespace Vena

namespace Mobile

open Decoder Gregorian

/-- 100000000 days before and after 1970. -/
structure DateTime where
  micros : Int
  isUtc : Bool
  inRange : -8640000000000000000 ≤ micros ∧ micros ≤ 8640000000000000000
  deriving DecidableEq

/-- `n` in `width` digits. -/
def padded : Nat → Nat → DartString
  | 0, _ => []
  | width + 1, n => padded width (n / 10) ++ [0x30 + n % 10]

/-- Four digits for the year, or a sign and six. -/
def yearText (year : Int) : DartString :=
  if -9999 ≤ year ∧ year ≤ 9999 then withSign (year < 0) (padded 4 year.natAbs)
  else (if year < 0 then 0x2D else 0x2B) :: padded 6 year.natAbs

def microsecondText (microsecond : Nat) : DartString :=
  if microsecond = 0 then [] else padded 3 microsecond

/-- The time of a day from the hours on, and the zone. -/
def timeText (inDay : Nat) : DartString :=
  padded 2 (inDay / 3600000000) ++ 0x3A :: (padded 2 (inDay / 60000000 % 60) ++
    0x3A :: (padded 2 (inDay / 1000000 % 60) ++ 0x2E :: (padded 3 (inDay / 1000 % 1000) ++
      (microsecondText (inDay % 1000) ++ [0x5A]))))

/-- What follows the year. -/
def monthText (date : Date) (inDay : Nat) : DartString :=
  0x2D :: (padded 2 date.month ++ 0x2D :: (padded 2 date.day ++ 0x54 :: timeText inDay))

/-- The first `n` units, if they are digits. -/
def takeDigits (n : Nat) (s : DartString) : Option (Nat × DartString) :=
  if (s.take n).length = n ∧ (s.take n).all isDigit then
    some (digitsValue (s.take n), s.drop n)
  else none

/-- An optional unit. -/
def skip (c : Nat) (s : DartString) : DartString := if s.head? = some c then s.tail else s

def skipSign (s : DartString) : DartString :=
  if s.head? = some 0x2B ∨ s.head? = some 0x2D then s.tail else s

/-- The minutes to take off, `none` for local time. -/
def parseZone (s : DartString) : Option (Option Int) :=
  if s = [] then some none
  else
    match skip 0x20 s with
    | [] => none
    | c :: s =>
      if c = 0x5A ∨ c = 0x7A then if s = [] then some (some 0) else none
      else if c = 0x2B ∨ c = 0x2D then do
        let (hour, s) ← takeDigits 2 s
        let (minute, s) ← if s = [] then some (0, s) else takeDigits 2 (skip 0x3A s)
        if s = [] then
          some (some ((if c = 0x2D then -1 else 1) * (60 * hour + minute : Nat)))
        else none
      else none

/-- Six digits of a fraction count. -/
def fractionValue (digits : DartString) : Nat := digitsValue ((digits ++ zeros 6).take 6)

/-- A point or a comma with digits, if there is one. -/
def parseFraction (s : DartString) : Option (Nat × DartString) :=
  if s.head? = some 0x2E ∨ s.head? = some 0x2C then
    let digits := s.tail.takeWhile isDigit
    if digits = [] then none else some (fractionValue digits, s.tail.drop digits.length)
  else some (0, s)

structure TimeOfDay where
  hour : Nat
  minute : Nat
  second : Nat
  micros : Nat
  zone : Option Int

/-- What follows the day. Minutes and seconds may be missing. -/
def parseTime : DartString → Option TimeOfDay
  | [] => some ⟨0, 0, 0, 0, none⟩
  | c :: s =>
    if c = 0x20 ∨ c = 0x54 then do
      let (hour, s) ← takeDigits 2 s
      match takeDigits 2 (skip 0x3A s) with
      | none => return ⟨hour, 0, 0, 0, ← parseZone s⟩
      | some (minute, s) =>
        match takeDigits 2 (skip 0x3A s) with
        | none => return ⟨hour, minute, 0, 0, ← parseZone s⟩
        | some (second, s) => do
          let (micros, s) ← parseFraction s
          return ⟨hour, minute, second, micros, ← parseZone s⟩
    else none

/-- A text taken apart. -/
structure Parsed where
  year : Int
  month : Nat
  day : Nat
  time : TimeOfDay

/-- A text whose year has `width` digits. -/
def parseDate (width : Nat) (s : DartString) : Option Parsed := do
  let (year, rest) ← takeDigits width (skipSign s)
  let (month, rest) ← takeDigits 2 (skip 0x2D rest)
  let (day, rest) ← takeDigits 2 (skip 0x2D rest)
  let time ← parseTime rest
  return ⟨if isMinus s then -year else year, month, day, time⟩

/-- `_brokenDownDateToValue` without the zone. A month or a day too many goes
    into the next year or month. -/
def Parsed.toMicros (p : Parsed) : Int :=
  let year := p.year + ((p.month : Int) - 1) / 12
  let month := (((p.month : Int) - 1) % 12).toNat
  let days := dayFromYear year + daysUntilMonth (isLeapYear year) month + ((p.day : Int) - 1)
  days * 86400000000 + p.time.hour * 3600000000 +
    ((p.time.minute : Int) - p.time.zone.getD 0) * 60000000 + p.time.second * 1000000 +
      p.time.micros

namespace DateTime

def ofMicros (micros : Int) (isUtc : Bool) : Option DateTime :=
  if h : -8640000000000000000 ≤ micros ∧ micros ≤ 8640000000000000000 then some ⟨micros, isUtc, h⟩
  else none

def toUtc (d : DateTime) : DateTime := { d with isUtc := true }

/-- `millisecondsSinceEpoch`. -/
def milliseconds (d : DateTime) : Int := d.micros / 1000

/-- `toUtc().toIso8601String()`. -/
def toUtcIso8601String (d : DateTime) : DartString :=
  let date := Date.ofDay (d.micros / 86400000000)
  yearText date.year ++ monthText date (d.micros % 86400000000).toNat

/-- `DateTime.parse`. The local clock shows the microseconds `m` since 1970 at
    the instant `ofLocal m`. -/
def parse (ofLocal : Int → Int) (s : DartString) : Option DateTime := do
  -- A year takes as many digits as it can.
  let p ← (parseDate 6 s).or ((parseDate 5 s).or (parseDate 4 s))
  match p.time.zone with
  | some _ => ofMicros p.toMicros true
  | none => ofMicros (ofLocal p.toMicros) false

end DateTime

theorem padded_length (width : Nat) : ∀ n, (padded width n).length = width := by
  induction width with
  | zero => exact fun n => rfl
  | succ width ih =>
      intro n
      rw [padded, List.length_append, ih, List.length_singleton]

theorem padded_digits (width : Nat) : ∀ n, ∀ c ∈ padded width n, isDigit c = true := by
  induction width with
  | zero => exact fun n c hc => absurd hc List.not_mem_nil
  | succ width ih =>
      intro n c hc
      rcases List.mem_append.mp hc with hfront | hlast
      · exact ih (n / 10) c hfront
      · rw [List.mem_singleton] at hlast
        exact hlast ▸ isDigit_of_lt _ (Nat.mod_lt n (by decide))

theorem digitsValue_concat (s : DartString) (c : Nat) :
    digitsValue (s ++ [c]) = 10 * digitsValue s + (c - 0x30) := by
  rw [digitsValue, List.foldl_append]
  rfl

theorem digitsValue_padded (width : Nat) : ∀ n, n < 10 ^ width →
    digitsValue (padded width n) = n := by
  induction width with
  | zero =>
      intro n hn
      rw [Nat.pow_zero, Nat.lt_one_iff] at hn
      exact hn.symm
  | succ width ih =>
      intro n hn
      rw [padded, digitsValue_concat, ih (n / 10) (by omega)]
      omega

theorem digitsValue_append (s t : DartString) :
    digitsValue (s ++ t) = digitsValue s * 10 ^ t.length + digitsValue t := by
  induction t using List.reverseRecOn with
  | nil => rw [List.append_nil, List.length_nil, Nat.pow_zero, Nat.mul_one]; rfl
  | append_singleton t c ih =>
      rw [← List.append_assoc, digitsValue_concat, digitsValue_concat, ih, List.length_append,
        List.length_singleton, Nat.pow_succ]
      ring

/-- Digits are read back. -/
theorem takeDigits_padded (width n : Nat) (rest : DartString) (hn : n < 10 ^ width) :
    takeDigits width (padded width n ++ rest) = some (n, rest) := by
  have htake : (padded width n ++ rest).take width = padded width n :=
    List.take_left' (padded_length width n)
  have hdrop : (padded width n ++ rest).drop width = rest :=
    List.drop_left' (padded_length width n)
  rw [takeDigits, htake, hdrop,
    if_pos ⟨padded_length width n, List.all_eq_true.mpr (padded_digits width n)⟩,
    digitsValue_padded width n hn]

/-- There are no more digits than there are. -/
theorem takeDigits_too_many (width more n c : Nat) (rest : DartString) (hlt : width < more)
    (hc : isDigit c = false) : takeDigits more (padded width n ++ c :: rest) = none := by
  have hmem : c ∈ (padded width n ++ c :: rest).take more := by
    rw [List.take_append, padded_length]
    refine List.mem_append_right _ ?_
    rw [show more - width = more - width - 1 + 1 by omega, List.take_succ_cons]
    exact List.mem_cons_self
  rw [takeDigits, if_neg]
  rintro ⟨_, hall⟩
  rw [List.all_eq_true.mp hall c hmem] at hc
  exact absurd hc (by decide)

theorem skip_cons (c : Nat) (s : DartString) : skip c (c :: s) = s := by
  rw [skip, List.head?_cons, if_pos rfl, List.tail_cons]

theorem padded_cons (width n : Nat) :
    ∃ c cs, padded (width + 1) n = c :: cs ∧ isDigit c = true := by
  cases hcons : padded (width + 1) n with
  | nil => exact absurd (padded_length (width + 1) n) (by rw [hcons]; exact nofun)
  | cons c cs => exact ⟨c, cs, rfl, padded_digits _ n c (hcons ▸ List.mem_cons_self)⟩

/-- Digits are not a sign. -/
theorem skipSign_padded (width n : Nat) (rest : DartString) :
    skipSign (padded (width + 1) n ++ rest) = padded (width + 1) n ++ rest ∧
      isMinus (padded (width + 1) n ++ rest) = false := by
  rcases padded_cons width n with ⟨c, cs, hcons, hdigit⟩
  have hminus : c ≠ 0x2D := ne_minus_of_isDigit c hdigit
  have hplus : c ≠ 0x2B := by
    rintro rfl
    exact absurd hdigit (by decide)
  rw [hcons]
  refine ⟨if_neg ?_, decide_eq_false ?_⟩
  · rintro (h | h)
    · exact hplus (Option.some.inj h)
    · exact hminus (Option.some.inj h)
  · exact fun h => hminus (Option.some.inj h)

/-- The year of a text, by the number of its digits. -/
theorem skipSign_yearText (year : Int) (rest : DartString) :
    (∃ width, (width = 4 ∧ year.natAbs < 10 ^ 4 ∨ width = 6 ∧ 10 ^ 4 ≤ year.natAbs) ∧
      skipSign (yearText year ++ rest) = padded width year.natAbs ++ rest) ∧
    isMinus (yearText year ++ rest) = decide (year < 0) := by
  unfold yearText
  split
  · next hshort =>
      by_cases hneg : year < 0
      · rw [decide_eq_true hneg]
        exact ⟨⟨4, Or.inl ⟨rfl, by omega⟩, rfl⟩, rfl⟩
      · rw [decide_eq_false hneg]
        have hplain := skipSign_padded 3 year.natAbs rest
        exact ⟨⟨4, Or.inl ⟨rfl, by omega⟩, hplain.1⟩, hplain.2⟩
  · next hlong =>
      by_cases hneg : year < 0
      · rw [if_pos hneg, decide_eq_true hneg]
        exact ⟨⟨6, Or.inr ⟨rfl, by omega⟩, rfl⟩, rfl⟩
      · rw [if_neg hneg, decide_eq_false hneg]
        exact ⟨⟨6, Or.inr ⟨rfl, by omega⟩, rfl⟩, rfl⟩

theorem fractionValue_text (millisecond microsecond : Nat) (hms : millisecond < 1000)
    (hus : microsecond < 1000) :
    fractionValue (padded 3 millisecond ++ microsecondText microsecond) =
      millisecond * 1000 + microsecond := by
  unfold fractionValue microsecondText
  split
  · next hzero =>
      have htake : (padded 3 millisecond ++ [] ++ zeros 6).take 6 =
          padded 3 millisecond ++ zeros 3 := by
        rw [List.append_nil, List.take_append, padded_length,
          List.take_of_length_le (Nat.le_trans (Nat.le_of_eq (padded_length 3 _)) (by decide))]
        rfl
      rw [htake, digitsValue_append, digitsValue_padded 3 _ hms, hzero]
      rfl
  · have htake : (padded 3 millisecond ++ padded 3 microsecond ++ zeros 6).take 6 =
        padded 3 millisecond ++ padded 3 microsecond :=
      List.take_left' (by rw [List.length_append, padded_length, padded_length])
    rw [htake, digitsValue_append, digitsValue_padded 3 _ hms, digitsValue_padded 3 _ hus,
      padded_length]
    rfl

/-- Milliseconds and, if there are any, microseconds. -/
theorem parseFraction_text (millisecond microsecond : Nat) (hms : millisecond < 1000)
    (hus : microsecond < 1000) :
    parseFraction (0x2E :: (padded 3 millisecond ++ (microsecondText microsecond ++ [0x5A]))) =
      some (millisecond * 1000 + microsecond, [0x5A]) := by
  have hdigits : ∀ c ∈ padded 3 millisecond ++ microsecondText microsecond, isDigit c = true := by
    intro c hc
    rcases List.mem_append.mp hc with hmilli | hmicro
    · exact padded_digits 3 millisecond c hmilli
    · unfold microsecondText at hmicro
      split at hmicro
      · exact absurd hmicro List.not_mem_nil
      · exact padded_digits 3 microsecond c hmicro
  have htake : (padded 3 millisecond ++ (microsecondText microsecond ++ [0x5A])).takeWhile isDigit =
      padded 3 millisecond ++ microsecondText microsecond := by
    rw [← List.append_assoc, List.takeWhile_append_of_pos hdigits]
    exact List.append_nil _
  have hdrop : (padded 3 millisecond ++ (microsecondText microsecond ++ [0x5A])).drop
      (padded 3 millisecond ++ microsecondText microsecond).length = [0x5A] := by
    rw [← List.append_assoc, List.drop_left]
  have hne : padded 3 millisecond ++ microsecondText microsecond ≠ [] := by
    rcases padded_cons 2 millisecond with ⟨c, cs, hcons, _⟩
    rw [hcons]
    exact nofun
  rw [parseFraction, List.head?_cons, if_pos (Or.inl rfl), List.tail_cons]
  dsimp only
  rw [htake, if_neg hne, hdrop, fractionValue_text millisecond microsecond hms hus]

/-- The time of a day, in UTC. -/
def timeOfDay (inDay : Nat) : TimeOfDay :=
  ⟨inDay / 3600000000, inDay / 60000000 % 60, inDay / 1000000 % 60,
    inDay / 1000 % 1000 * 1000 + inDay % 1000, some 0⟩

/-- The parts of an instant. -/
def partsOf (micros : Int) : Parsed :=
  let date := Date.ofDay (micros / 86400000000)
  ⟨date.year, date.month, date.day, timeOfDay (micros % 86400000000).toNat⟩

/-- The time of a day is read back. -/
theorem parseTime_timeText (inDay : Nat) (h : inDay < 86400000000) :
    parseTime (0x54 :: timeText inDay) =
      some (timeOfDay inDay) := by
  have hzone : parseZone [0x5A] = some (some 0) := rfl
  rw [parseTime, if_pos (Or.inr rfl), timeText, takeDigits_padded 2 _ _ (by omega)]
  simp only [Option.bind_eq_bind, Option.bind_some, skip_cons]
  rw [takeDigits_padded 2 _ _ (by omega)]
  simp only [skip_cons]
  rw [takeDigits_padded 2 _ _ (by omega)]
  simp only [parseFraction_text _ _ (Nat.mod_lt _ (by decide)) (Nat.mod_lt _ (by decide)),
    Option.bind_some, hzone, Option.pure_def, timeOfDay]

/-- A text whose year has so many digits. -/
theorem parseDate_text (width n : Nat) (date : Date) (inDay : Nat) (s : DartString)
    (hs : skipSign s = padded width n ++ monthText date inDay) (hn : n < 10 ^ width)
    (hmonth : date.month < 100) (hday : date.day < 100) (hinDay : inDay < 86400000000) :
    parseDate width s = some ⟨if isMinus s then -(n : Int) else n, date.month, date.day,
      timeOfDay inDay⟩ := by
  rw [parseDate, hs, takeDigits_padded width n _ hn]
  simp only [Option.bind_eq_bind, Option.bind_some, monthText, skip_cons]
  rw [takeDigits_padded 2 _ _ hmonth]
  simp only [Option.bind_some, skip_cons]
  rw [takeDigits_padded 2 _ _ hday]
  simp only [Option.bind_some, parseTime_timeText inDay hinDay, Option.pure_def]

/-- A year of fewer digits is not taken for one of more. -/
theorem parseDate_too_many (width more n : Nat) (date : Date) (inDay : Nat) (s : DartString)
    (hs : skipSign s = padded width n ++ monthText date inDay) (hlt : width < more) :
    parseDate more s = none := by
  rw [parseDate, hs, monthText, takeDigits_too_many width more n _ _ hlt (by decide)]
  rfl

/-- The parts of an instant are put together again. -/
theorem toMicros_partsOf (micros : Int) : (partsOf micros).toMicros = micros := by
  have hdate := toDay_ofDay (micros / 86400000000)
  have hmonth := ofDay_month (micros / 86400000000)
  simp only [partsOf, Parsed.toMicros, timeOfDay, Option.getD_some]
  generalize Date.ofDay (micros / 86400000000) = date at hdate hmonth
  have hcarry : date.year + ((date.month : Int) - 1) / 12 = date.year := by omega
  have hindex : (((date.month : Int) - 1) % 12).toNat = date.month - 1 := by omega
  rw [Date.toDay] at hdate
  rw [hcarry, hindex, hdate]
  omega

/-- The text of an instant is taken apart again. -/
theorem parseDate_iso (d : DateTime) :
    (parseDate 6 d.toUtcIso8601String).or ((parseDate 5 d.toUtcIso8601String).or
      (parseDate 4 d.toUtcIso8601String)) = some (partsOf d.micros) := by
  have hmonth := ofDay_month (d.micros / 86400000000)
  have hday := ofDay_day (d.micros / 86400000000)
  have hrange := d.inRange
  have hyear := ofDay_year (d.micros / 86400000000) (by omega) (by omega)
  have hinDay : (d.micros % 86400000000).toNat < 86400000000 := by omega
  simp only [DateTime.toUtcIso8601String, partsOf]
  generalize Date.ofDay (d.micros / 86400000000) = date at hmonth hday hyear ⊢
  generalize (d.micros % 86400000000).toNat = inDay at hinDay ⊢
  rcases skipSign_yearText date.year (monthText date inDay) with ⟨⟨width, hwidth, hskip⟩, hminus⟩
  have hn : date.year.natAbs < 10 ^ width := by
    rcases hwidth with ⟨rfl, hlt⟩ | ⟨rfl, _⟩
    · exact hlt
    · omega
  have hdate := parseDate_text width _ date inDay _ hskip hn (by omega) (by omega) hinDay
  have hsign : (if isMinus (yearText date.year ++ monthText date inDay) = true then
      -(date.year.natAbs : Int) else date.year.natAbs) = date.year := by
    simp only [hminus, decide_eq_true_eq]
    split
    · omega
    · omega
  rw [hsign] at hdate
  rcases hwidth with ⟨rfl, _⟩ | ⟨rfl, _⟩
  · rw [parseDate_too_many 4 6 _ date inDay _ hskip (by decide),
      parseDate_too_many 4 5 _ date inDay _ hskip (by decide), hdate]
    rfl
  · rw [hdate]
    rfl

/-- An instant is read back, in UTC. -/
theorem parse_iso (ofLocal : Int → Int) (d : DateTime) :
    DateTime.parse ofLocal d.toUtcIso8601String = some d.toUtc := by
  rw [DateTime.parse, parseDate_iso, Option.bind_eq_bind, Option.bind_some]
  have hzone : (partsOf d.micros).time.zone = some 0 := rfl
  rw [hzone]
  dsimp only
  rw [toMicros_partsOf, DateTime.ofMicros, dif_pos d.inRange, DateTime.toUtc]

end Mobile

end Vena
