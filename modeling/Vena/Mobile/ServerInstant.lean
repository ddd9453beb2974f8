import Vena.Mobile.DartDateTime

/-!
# An Instant in a Response

A `datetime` of the backend as text, which is not quite the text that Dart
writes: a fraction has six digits or is missing. The app reads it with
`DateTime.parse` all the same.

## Main definitions

* `InYears`: The instants a `datetime` has.
* `isoText`: The text of one.

## Theorems

* `parse_isoText`: The app reads the same instant.
-/

namespace Vena

namespace Mobile

open Decoder Gregorian

/-- From the beginning of the year 1 to the end of the year 9999. -/
def InYears (micros : Int) : Prop := -62135596800000000 ≤ micros ∧ micros < 253402300800000000

instance (micros : Int) : Decidable (InYears micros) := inferInstanceAs (Decidable (_ ∧ _))

def isoFraction (micros : Nat) : DartString :=
  if micros = 0 then [] else 0x2E :: padded 6 micros

def isoTime (inDay : Nat) : DartString :=
  padded 2 (inDay / 3600000000) ++ 0x3A :: (padded 2 (inDay / 60000000 % 60) ++
    0x3A :: (padded 2 (inDay / 1000000 % 60) ++ (isoFraction (inDay % 1000000) ++ [0x5A])))

/-- What follows the year. -/
def isoMonth (date : Date) (inDay : Nat) : DartString :=
  0x2D :: (padded 2 date.month ++ 0x2D :: (padded 2 date.day ++ 0x54 :: isoTime inDay))

/-- The text of an instant in UTC. There is no `datetime` of any other year. -/
def isoText (micros : Int) : DartString :=
  if InYears micros then
    let date := Date.ofDay (micros / 86400000000)
    padded 4 date.year.toNat ++ isoMonth date (micros % 86400000000).toNat
  else dartString "1970-01-01T00:00:00Z"

theorem parseFraction_iso (micros : Nat) (h : micros < 1000000) :
    parseFraction (isoFraction micros ++ [0x5A]) = some (micros, [0x5A]) := by
  rw [isoFraction]
  by_cases hzero : micros = 0
  · rw [if_pos hzero, hzero]
    rfl
  · -- Six digits, and then the zone, which is none.
    have hspan : (padded 6 micros ++ [0x5A]).takeWhile isDigit = padded 6 micros := by
      rw [List.takeWhile_append_of_pos (padded_digits 6 micros)]
      exact List.append_nil _
    have hne : padded 6 micros ≠ [] := by
      intro hnil
      have hlength := padded_length 6 micros
      rw [hnil] at hlength
      cases hlength
    have hvalue : fractionValue (padded 6 micros) = micros := by
      rw [fractionValue, List.take_left' (padded_length 6 micros), digitsValue_padded 6 micros h]
    rw [if_neg hzero, List.cons_append, parseFraction, List.head?_cons, if_pos (Or.inl rfl),
      List.tail_cons]
    dsimp only
    rw [hspan, if_neg hne, List.drop_left, hvalue]

/-- The time of a day is read back. -/
theorem parseTime_iso (inDay : Nat) (h : inDay < 86400000000) :
    parseTime (0x54 :: isoTime inDay) = some (timeOfDay inDay) := by
  have hzone : parseZone [0x5A] = some (some 0) := rfl
  -- Dart has the milliseconds and the microseconds apart.
  have hmicros : inDay % 1000000 = inDay / 1000 % 1000 * 1000 + inDay % 1000 := by omega
  have hfraction := parseFraction_iso (inDay % 1000000) (Nat.mod_lt _ (by decide))
  rw [hmicros] at hfraction
  rw [parseTime, if_pos (Or.inr rfl), isoTime, takeDigits_padded 2 _ _ (by omega)]
  simp only [Option.bind_eq_bind, Option.bind_some, skip_cons]
  rw [takeDigits_padded 2 _ _ (by omega)]
  simp only [skip_cons]
  rw [takeDigits_padded 2 _ _ (by omega)]
  simp only [hmicros, hfraction, Option.bind_some, hzone, Option.pure_def, timeOfDay]

/-- The years of these instants have four digits. -/
theorem year_of_inYears (micros : Int) (h : InYears micros) :
    0 ≤ (Date.ofDay (micros / 86400000000)).year ∧
      (Date.ofDay (micros / 86400000000)).year ≤ 9999 := by
  -- A year is read off the cycles of 400, 100, 4 and 1 years.
  rcases yearOfDay_cycle (micros / 86400000000) with
    ⟨cycle, century, four, one, rest, hyear, hcentury, hfour, hone, hday, hrest, hrest', _⟩
  obtain ⟨hlow, hhigh⟩ := h
  simp only [Date.ofDay, hyear]
  omega

theorem parseDate_isoText (micros : Int) (h : InYears micros) :
    (parseDate 6 (isoText micros)).or ((parseDate 5 (isoText micros)).or
      (parseDate 4 (isoText micros))) = some (partsOf micros) := by
  have hmonth := ofDay_month (micros / 86400000000)
  have hday := ofDay_day (micros / 86400000000)
  have hyear := year_of_inYears micros h
  have hinDay : (micros % 86400000000).toNat < 86400000000 := by omega
  rw [isoText, if_pos h]
  simp only [partsOf]
  generalize Date.ofDay (micros / 86400000000) = date at hmonth hday hyear ⊢
  generalize (micros % 86400000000).toNat = inDay at hinDay ⊢
  obtain ⟨hskip, hminus⟩ := skipSign_padded 3 date.year.toNat (isoMonth date inDay)
  -- The app tries six and five digits first, and here is no year so long.
  have hmany : ∀ more, 4 < more →
      parseDate more (padded 4 date.year.toNat ++ isoMonth date inDay) = none := by
    intro more hlt
    rw [parseDate, hskip, isoMonth, takeDigits_too_many 4 more _ _ _ hlt (by decide)]
    rfl
  have hsign : (date.year.toNat : Int) = date.year := Int.toNat_of_nonneg hyear.1
  rw [hmany 6 (by decide), hmany 5 (by decide), Option.none_or, Option.none_or, parseDate, hskip,
    takeDigits_padded 4 _ _ (by omega), hminus]
  simp only [Option.bind_eq_bind, Option.bind_some, isoMonth, skip_cons]
  rw [takeDigits_padded 2 _ _ (by omega)]
  simp only [Option.bind_some, skip_cons]
  rw [takeDigits_padded 2 _ _ (by omega)]
  simp only [Option.bind_some, parseTime_iso inDay hinDay, Option.pure_def, Bool.false_eq_true,
    if_false, hsign]

/-- Every text is read, and that of an instant as the instant. -/
theorem parse_isoText (ofLocal : Int → Int) (micros : Int) :
    ∃ d, DateTime.parse ofLocal (isoText micros) = some d ∧
      (InYears micros → d.micros = micros) := by
  by_cases h : InYears micros
  · -- Dart has many more years than these.
    have hrange : -8640000000000000000 ≤ micros ∧ micros ≤ 8640000000000000000 := by
      obtain ⟨hlow, hhigh⟩ := h
      omega
    refine ⟨⟨micros, true, hrange⟩, ?_, fun _ => rfl⟩
    rw [DateTime.parse, parseDate_isoText micros h, Option.bind_eq_bind, Option.bind_some]
    have hzone : (partsOf micros).time.zone = some 0 := rfl
    rw [hzone]
    dsimp only
    rw [toMicros_partsOf, DateTime.ofMicros, dif_pos hrange]
  · refine ⟨⟨0, true, by decide⟩, ?_, fun hin => absurd hin h⟩
    rw [isoText, if_neg h]
    rfl

end Mobile

end Vena
