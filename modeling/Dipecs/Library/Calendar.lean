import Mathlib.Data.Prod.Lex
import Mathlib.Order.Monotone.Basic
import Mathlib.Tactic.IntervalCases

/-! The proleptic Gregorian calendar from the year zero on: days are counted off month by
month and year by year. -/

namespace Dipecs.Library.Calendar

def IsLeap (year : Nat) : Prop := year % 4 = 0 ∧ (year % 100 ≠ 0 ∨ year % 400 = 0)

instance (year : Nat) : Decidable (IsLeap year) := inferInstanceAs (Decidable (_ ∧ _))

def daysInYear (year : Nat) : Nat := if IsLeap year then 366 else 365

def daysInMonth (year : Nat) : Nat → Nat
  | 2 => if IsLeap year then 29 else 28
  | 4 | 6 | 9 | 11 => 30
  | _ => 31

def daysBeforeYear : Nat → Nat
  | 0 => 0
  | year + 1 => daysBeforeYear year + daysInYear year

def daysAfterMonths (year : Nat) : Nat → Nat
  | 0 => 0
  | n + 1 => daysAfterMonths year n + daysInMonth year (n + 1)

structure DateTime where
  year : Nat
  month : Nat
  day : Nat
  hour : Nat
  minute : Nat
  second : Nat
  deriving DecidableEq

namespace DateTime

structure RealDay (t : DateTime) : Prop where
  month_pos : 1 ≤ t.month
  month_le : t.month ≤ 12
  day_pos : 1 ≤ t.day
  day_le : t.day ≤ daysInMonth t.year t.month

structure RealTime (t : DateTime) : Prop where
  hour_le : t.hour ≤ 23
  minute_le : t.minute ≤ 59
  second_le : t.second ≤ 59

/-- Days from the first day of the year zero. -/
def dayNumber (t : DateTime) : Nat :=
  daysBeforeYear t.year + daysAfterMonths t.year (t.month - 1) + (t.day - 1)

def secondOfDay (t : DateTime) : Nat := t.hour * 3600 + t.minute * 60 + t.second

def seconds (t : DateTime) : Nat := t.dayNumber * 86400 + t.secondOfDay

def key (t : DateTime) : Nat ×ₗ Nat ×ₗ Nat ×ₗ Nat ×ₗ Nat ×ₗ Nat :=
  toLex (t.year, toLex (t.month, toLex (t.day, toLex (t.hour, toLex (t.minute, t.second)))))

end DateTime

theorem daysBeforeYear_add (year : Nat) :
    daysBeforeYear year + (year + 99) / 100 =
      365 * year + (year + 3) / 4 + (year + 399) / 400 := by
  induction year with
  | zero => rfl
  | succ year ih =>
    rw [daysBeforeYear, daysInYear]
    by_cases h : IsLeap year
    · rw [if_pos h]
      obtain ⟨hfour, hcentury⟩ := h
      omega
    · rw [if_neg h]
      obtain hfour | hcentury := not_and_or.mp h
      · -- no divisor gains a multiple
        have hfourth : (year + 4) / 4 = (year + 3) / 4 := by omega
        have hhundredth : (year + 100) / 100 = (year + 99) / 100 := by omega
        have hlast : (year + 400) / 400 = (year + 399) / 400 := by omega
        omega
      · rw [not_or, not_not] at hcentury
        omega

theorem daysInYear_eq (year : Nat) : daysInYear year = 337 + daysInMonth year 2 := by
  rw [daysInYear, daysInMonth]
  split <;> rfl

theorem le_daysBeforeYear (year : Nat) : 365 * year ≤ daysBeforeYear year := by
  have hyears := daysBeforeYear_add year
  omega

theorem daysBeforeYear_mono : Monotone daysBeforeYear :=
  monotone_nat_of_le_succ fun _ => Nat.le_add_right _ _

theorem daysAfterMonths_mono (year : Nat) : Monotone (daysAfterMonths year) :=
  monotone_nat_of_le_succ fun _ => Nat.le_add_right _ _

theorem daysAfterMonths_twelve (year : Nat) : daysAfterMonths year 12 = daysInYear year := by
  simp only [daysAfterMonths, daysInMonth, daysInYear]
  split <;> rfl

theorem daysAfterMonths_march (year : Nat) {n : Nat} (hn : n ≤ 9) :
    daysAfterMonths year (n + 2) = 31 + daysInMonth year 2 + (153 * n + 2) / 5 := by
  interval_cases n
  all_goals simp only [daysAfterMonths, daysInMonth]
  omega

namespace DateTime
variable {t t' : DateTime}

theorem RealDay.dayOfYear_lt (h : t.RealDay) :
    daysAfterMonths t.year (t.month - 1) + (t.day - 1) < daysAfterMonths t.year t.month := by
  obtain ⟨n, hn⟩ := Nat.exists_eq_add_of_le' h.month_pos
  have hpos := h.day_pos
  have hle := h.day_le
  rw [hn] at hle ⊢
  rw [daysAfterMonths, Nat.add_sub_cancel]
  omega

theorem RealDay.dayNumber_lt (h : t.RealDay) : t.dayNumber < daysBeforeYear (t.year + 1) := by
  have hlt := h.dayOfYear_lt
  have hle := daysAfterMonths_mono t.year h.month_le
  rw [daysAfterMonths_twelve] at hle
  rw [dayNumber, daysBeforeYear]
  omega

theorem RealTime.secondOfDay_lt (h : t.RealTime) : t.secondOfDay < 86400 := by
  have hhour := h.hour_le
  have hminute := h.minute_le
  have hsecond := h.second_le
  unfold secondOfDay
  omega

theorem seconds_lt_of_dayNumber_lt (hs : t.RealTime) (h : t.dayNumber < t'.dayNumber) :
    t.seconds < t'.seconds := by
  have hsecond := hs.secondOfDay_lt
  unfold seconds
  omega

theorem seconds_lt (h : t.RealDay) (h' : t'.RealDay) (hs : t.RealTime) (hlt : t.key < t'.key) :
    t.seconds < t'.seconds := by
  simp only [key, Prod.Lex.toLex_lt_toLex] at hlt
  have hpos := h.day_pos
  have hpos' := h'.day_pos
  rcases hlt with hyear | ⟨hyear, hmonth | ⟨hmonth, hday | ⟨hday, htime⟩⟩⟩
  · refine seconds_lt_of_dayNumber_lt hs ?_
    calc t.dayNumber < daysBeforeYear (t.year + 1) := h.dayNumber_lt
      _ ≤ daysBeforeYear t'.year := daysBeforeYear_mono hyear
      _ ≤ t'.dayNumber := by unfold dayNumber; omega
  · refine seconds_lt_of_dayNumber_lt hs ?_
    have hend := h.dayOfYear_lt
    have hnext := daysAfterMonths_mono t.year (Nat.le_sub_one_of_lt hmonth)
    rw [dayNumber, dayNumber, ← hyear]
    omega
  · refine seconds_lt_of_dayNumber_lt hs ?_
    rw [dayNumber, dayNumber, ← hyear, ← hmonth]
    omega
  · have hsame : t.dayNumber = t'.dayNumber := by
      rw [dayNumber, dayNumber, hyear, hmonth, hday]
    have hminute := hs.minute_le
    have hsecond := hs.second_le
    rw [seconds, seconds, hsame, secondOfDay, secondOfDay]
    omega

theorem seconds_lt_iff (h : t.RealDay) (h' : t'.RealDay) (hs : t.RealTime) (hs' : t'.RealTime) :
    t.seconds < t'.seconds ↔ t.key < t'.key := by
  refine ⟨fun hlt => ?_, seconds_lt h h' hs⟩
  by_contra hnot
  rcases (not_lt.mp hnot).lt_or_eq with hkey | hkey
  · exact hlt.asymm (seconds_lt h' h hs' hkey)
  · obtain rfl : t' = t := by
      cases t
      cases t'
      simpa [key] using hkey
    exact lt_irrefl _ hlt

end DateTime

end Dipecs.Library.Calendar
