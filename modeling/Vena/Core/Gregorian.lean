import Mathlib.Data.Nat.Find

/-!
# Days of the Gregorian Calendar

The calendar extended to all years, as a numbering of its days from 1 January
1970 on. A year is cut out of a cycle of 400 years that begins with 2001: there
the leap day of four years, of a century and of the cycle is always in the last
year, so the year is a quotient, capped where the last year is the longer one.

## Main definitions

* `dayFromYear`, `isLeapYear`, `daysUntilMonth`: The calendar.
* `Date`, `Date.toDay`: A date, and its number.
* `yearOfDay`, `Date.ofDay`: The date of a number.

## Theorems

* `dayFromYear_cycle`, `isLeapYear_cycle`: The years of a cycle.
* `dayOfYear_spec`: A day lies in its year.
* `toDay_ofDay`: The date of a number has that number.
* `ofDay_month`, `ofDay_day`, `ofDay_year`: Its month, its day and its year in bounds.
-/

namespace Vena

namespace Gregorian

/-- The number of the first day of a year. -/
def dayFromYear (year : Int) : Int :=
  365 * (year - 1970) + (year - 1969) / 4 - (year - 1901) / 100 + (year - 1601) / 400

def isLeapYear (year : Int) : Bool := year % 4 = 0 && (year % 100 ≠ 0 || year % 400 = 0)

/-- The days of a year before a month. The first month is 0. -/
def daysUntilMonth (leap : Bool) (month : Nat) : Nat :=
  [0, 31, 59, 90, 120, 151, 181, 212, 243, 273, 304, 334].getD month 0 +
    if leap && decide (2 ≤ month) then 1 else 0

/-- Months and days are counted from 1. -/
structure Date where
  year : Int
  month : Nat
  day : Nat
  deriving DecidableEq, Repr

/-- The number of a date. -/
def Date.toDay (d : Date) : Int :=
  dayFromYear d.year + daysUntilMonth (isLeapYear d.year) (d.month - 1) + (d.day - 1 : Int)

/-- The year of a day. -/
def yearOfDay (day : Int) : Int :=
  -- 1 January 2001 has the number 11323, and 400 years have 146097 days.
  let cycle := (day - 11323) / 146097
  let inCycle := (day - 11323) % 146097
  let century := min (inCycle / 36524) 3
  let inCentury := inCycle - 36524 * century
  let inFour := inCentury % 1461
  2001 + 400 * cycle + 100 * century + 4 * (inCentury / 1461) + min (inFour / 365) 3

/-- How many days of its year are before a day. -/
def dayOfYear (day : Int) : Nat := (day - dayFromYear (yearOfDay day)).toNat

/-- The month that a day of the year lies in. -/
def monthOfDay (leap : Bool) (n : Nat) : Nat :=
  Nat.findGreatest (fun month => daysUntilMonth leap month ≤ n) 11

def Date.ofDay (day : Int) : Date :=
  let leap := isLeapYear (yearOfDay day)
  let month := monthOfDay leap (dayOfYear day)
  ⟨yearOfDay day, month + 1, dayOfYear day - daysUntilMonth leap month + 1⟩

/-- The first day of a year in a cycle. -/
theorem dayFromYear_cycle (cycle century four one : Int) (hcentury : 0 ≤ century ∧ century ≤ 3)
    (hfour : 0 ≤ four ∧ four ≤ 24) (hone : 0 ≤ one ∧ one ≤ 3) :
    dayFromYear (2001 + 400 * cycle + 100 * century + 4 * four + one) =
      11323 + 146097 * cycle + 36524 * century + 1461 * four + 365 * one := by
  have h4 : (2001 + 400 * cycle + 100 * century + 4 * four + one - 1969) / 4 =
      8 + 100 * cycle + 25 * century + four := by omega
  have h100 : (2001 + 400 * cycle + 100 * century + 4 * four + one - 1901) / 100 =
      1 + 4 * cycle + century := by omega
  have h400 : (2001 + 400 * cycle + 100 * century + 4 * four + one - 1601) / 400 =
      1 + cycle := by omega
  rw [dayFromYear, h4, h100, h400]
  omega

theorem isLeapYear_cycle (cycle century four one : Int) (hcentury : 0 ≤ century ∧ century ≤ 3)
    (hfour : 0 ≤ four ∧ four ≤ 24) (hone : 0 ≤ one ∧ one ≤ 3) :
    isLeapYear (2001 + 400 * cycle + 100 * century + 4 * four + one) = true ↔
      one = 3 ∧ (four ≠ 24 ∨ century = 3) := by
  simp only [isLeapYear, Bool.and_eq_true, Bool.or_eq_true, decide_eq_true_eq]
  omega

/-- The place of a day in its cycle. The last of the 366 days is that of a leap year. -/
theorem yearOfDay_cycle (day : Int) : ∃ cycle century four one rest : Int,
    yearOfDay day = 2001 + 400 * cycle + 100 * century + 4 * four + one ∧
    (0 ≤ century ∧ century ≤ 3) ∧ (0 ≤ four ∧ four ≤ 24) ∧ (0 ≤ one ∧ one ≤ 3) ∧
    day = 11323 + 146097 * cycle + 36524 * century + 1461 * four + 365 * one + rest ∧
    0 ≤ rest ∧ rest ≤ 365 ∧ (rest = 365 → one = 3 ∧ (four ≠ 24 ∨ century = 3)) := by
  have hcycle := Int.mul_ediv_add_emod (day - 11323) 146097
  have hlow := Int.emod_nonneg (day - 11323) (show (146097 : Int) ≠ 0 by decide)
  have hhigh := Int.emod_lt_of_pos (day - 11323) (show (0 : Int) < 146097 by decide)
  simp only [yearOfDay]
  generalize (day - 11323) / 146097 = cycle at hcycle ⊢
  generalize (day - 11323) % 146097 = r at hcycle hlow hhigh ⊢
  have hcentury : ∃ century rest : Int, min (r / 36524) 3 = century ∧ 0 ≤ century ∧ century ≤ 3 ∧
      r = 36524 * century + rest ∧ 0 ≤ rest ∧ rest ≤ 36524 ∧ (rest = 36524 → century = 3) :=
    ⟨min (r / 36524) 3, r - 36524 * min (r / 36524) 3, rfl, by omega, by omega, by omega, by omega,
      by omega, by omega⟩
  rcases hcentury with ⟨century, c, hmin, hc0, hc3, hr, hr0, hr1, hlast⟩
  rw [hmin, show r - 36524 * century = c by omega]
  have hfour : ∃ one rest : Int, min (c % 1461 / 365) 3 = one ∧ 0 ≤ one ∧ one ≤ 3 ∧
      c % 1461 = 365 * one + rest ∧ 0 ≤ rest ∧ rest ≤ 365 ∧ (rest = 365 → one = 3) :=
    ⟨min (c % 1461 / 365) 3, c % 1461 - 365 * min (c % 1461 / 365) 3, rfl, by omega, by omega,
      by omega, by omega, by omega, by omega⟩
  rcases hfour with ⟨one, rest, hmin', ho0, ho3, hd, hd0, hd1, hleap⟩
  rw [hmin']
  refine ⟨cycle, century, c / 1461, one, rest, rfl, ⟨hc0, hc3⟩, by omega, ⟨ho0, ho3⟩, by omega,
    hd0, hd1, fun hrest => ⟨hleap hrest, ?_⟩⟩
  omega

/-- A day lies in its year. -/
theorem dayOfYear_spec (day : Int) :
    day = dayFromYear (yearOfDay day) + dayOfYear day ∧
      dayOfYear day < 365 + if isLeapYear (yearOfDay day) then 1 else 0 := by
  rcases yearOfDay_cycle day with
    ⟨cycle, century, four, one, rest, hyear, hcentury, hfour, hone, hday, hlow, hhigh, hlast⟩
  have hfirst := dayFromYear_cycle cycle century four one hcentury hfour hone
  have hleap := isLeapYear_cycle cycle century four one hcentury hfour hone
  rw [← hyear] at hfirst hleap
  have hrest : dayOfYear day = rest.toNat := by
    rw [dayOfYear, hfirst]
    omega
  refine ⟨by omega, ?_⟩
  rw [hrest]
  split
  · omega
  · next hno =>
      have hne : rest ≠ 365 := fun heq => hno (hleap.mpr (hlast heq))
      omega

/-- The month of a day has begun, and has at most 31 days. -/
theorem monthOfDay_spec (leap : Bool) (n : Nat) (h : n < 365 + if leap then 1 else 0) :
    monthOfDay leap n ≤ 11 ∧ daysUntilMonth leap (monthOfDay leap n) ≤ n ∧
      n < daysUntilMonth leap (monthOfDay leap n) + 31 := by
  have hall : ∀ leap : Bool, ∀ n < 365 + if leap then 1 else 0,
      monthOfDay leap n ≤ 11 ∧ daysUntilMonth leap (monthOfDay leap n) ≤ n ∧
        n < daysUntilMonth leap (monthOfDay leap n) + 31 := by decide +kernel
  exact hall leap n h

/-- The date of a number has that number. -/
theorem toDay_ofDay (day : Int) : (Date.ofDay day).toDay = day := by
  have hyear := dayOfYear_spec day
  have hmonth := monthOfDay_spec _ _ hyear.2
  simp only [Date.ofDay, Date.toDay, Nat.add_sub_cancel]
  omega

theorem ofDay_month (day : Int) : 1 ≤ (Date.ofDay day).month ∧ (Date.ofDay day).month ≤ 12 := by
  have hmonth := monthOfDay_spec _ _ (dayOfYear_spec day).2
  simp only [Date.ofDay]
  omega

theorem ofDay_day (day : Int) : 1 ≤ (Date.ofDay day).day ∧ (Date.ofDay day).day ≤ 31 := by
  have hmonth := monthOfDay_spec _ _ (dayOfYear_spec day).2
  simp only [Date.ofDay]
  omega

/-- A year of at most six digits, for the days of so many years. -/
theorem ofDay_year (day : Int) (hlow : -364000000 ≤ day) (hhigh : day ≤ 364000000) :
    -1000000 < (Date.ofDay day).year ∧ (Date.ofDay day).year < 1000000 := by
  rcases yearOfDay_cycle day with
    ⟨cycle, century, four, one, rest, hyear, hcentury, hfour, hone, hday, hrest, hrest', _⟩
  simp only [Date.ofDay, hyear]
  omega

end Gregorian

end Vena
