import Mathlib.Logic.Function.Iterate
import Mathlib.Tactic

/-!
# The Gregorian calendar

Dates carry their own validity. What a day is called is said by the rule for the next day
alone: the `n`th day is reached from a first one in `n` steps. The ordinal number of a date is
the closed form, which grows by one at each step and tells the dates apart.
-/
namespace Fw100.Library

def isLeap (year : ℕ) : Bool := year % 4 == 0 && (year % 100 != 0 || year % 400 == 0)

def daysIn (year month : ℕ) : ℕ :=
  if month = 2 then if isLeap year then 29 else 28
  else if month = 4 ∨ month = 6 ∨ month = 9 ∨ month = 11 then 30
  else 31

theorem daysIn_pos (year month : ℕ) : 1 ≤ daysIn year month := by
  simp only [daysIn]
  split_ifs <;> norm_num

theorem daysIn_le (year month : ℕ) : daysIn year month ≤ 31 := by
  simp only [daysIn]
  split_ifs <;> norm_num

@[ext] structure Date where
  year : ℕ
  month : ℕ
  day : ℕ
  one_le_month : 1 ≤ month
  month_le : month ≤ 12
  one_le_day : 1 ≤ day
  day_le : day ≤ daysIn year month
deriving DecidableEq

namespace Date

def first (year month : ℕ) (h : 1 ≤ month) (h' : month ≤ 12) : Date :=
  ⟨year, month, 1, h, h', le_rfl, daysIn_pos year month⟩

def next (d : Date) : Date :=
  if hday : d.day < daysIn d.year d.month then
    { d with day := d.day + 1, one_le_day := Nat.le_add_left 1 d.day, day_le := hday }
  else if hmonth : d.month < 12 then
    first d.year (d.month + 1) (Nat.le_add_left 1 d.month) hmonth
  else first (d.year + 1) 1 le_rfl (Nat.le_add_left 1 11)

def after (epoch : Date) (n : ℕ) : Date := next^[n] epoch

@[simp] theorem after_zero (epoch : Date) : epoch.after 0 = epoch := rfl

theorem after_succ (epoch : Date) (n : ℕ) : epoch.after (n + 1) = (epoch.after n).next :=
  Function.iterate_succ_apply' next n epoch

/-! ### Ordinal numbers -/

def beforeYear (year : ℤ) : ℤ :=
  365 * year + (year - 1) / 4 - (year - 1) / 100 + (year - 1) / 400

def beforeMonth (month : ℕ) : ℕ :=
  [0, 0, 31, 59, 90, 120, 151, 181, 212, 243, 273, 304, 334].getD month 365

def leapDay (year month : ℕ) : ℕ := if isLeap year && decide (2 < month) then 1 else 0

def ordinal (d : Date) : ℤ :=
  beforeYear d.year + (beforeMonth d.month + leapDay d.year d.month + (d.day - 1) : ℤ)

theorem isLeap_iff (year : ℕ) :
    isLeap year = true ↔ year % 4 = 0 ∧ (year % 100 ≠ 0 ∨ year % 400 = 0) := by
  simp [isLeap]

theorem beforeYear_succ (year : ℕ) :
    beforeYear ((year + 1 : ℕ) : ℤ) =
      beforeYear year + 365 + (if isLeap year = true then 1 else 0 : ℤ) := by
  simp only [beforeYear, isLeap_iff, Nat.cast_add, Nat.cast_one, add_sub_cancel_right]
  split_ifs with hleap
  · omega
  · omega

theorem beforeMonth_succ {y m : ℕ} (h : 1 ≤ m) (h' : m < 12) :
    beforeMonth (m + 1) + leapDay y (m + 1) = beforeMonth m + leapDay y m + daysIn y m := by
  cases hleap : isLeap y
  · interval_cases m <;> simp [beforeMonth, leapDay, daysIn, hleap]
  · interval_cases m <;> simp [beforeMonth, leapDay, daysIn, hleap]

/-- The months fill the year. -/
theorem beforeMonth_twelve (year : ℕ) :
    beforeMonth 12 + leapDay year 12 + daysIn year 12 =
      365 + (if isLeap year = true then 1 else 0) := by
  cases hleap : isLeap year <;> simp [beforeMonth, leapDay, daysIn, hleap]

theorem ordinal_first (year month : ℕ) (h : 1 ≤ month) (h' : month ≤ 12) :
    (first year month h h').ordinal =
      beforeYear year + (beforeMonth month + leapDay year month : ℕ) := by
  simp [ordinal, first]

theorem ordinal_next (d : Date) : d.next.ordinal = d.ordinal + 1 := by
  have hday := d.day_le
  have hmonth := d.month_le
  rw [next]
  split_ifs with hlt hlt'
  · simp only [ordinal, Nat.cast_add, Nat.cast_one]
    ring
  · have hstep := beforeMonth_succ (y := d.year) d.one_le_month hlt'
    have hlast : d.day = daysIn d.year d.month := by omega
    rw [ordinal_first, ordinal]
    omega
  · have hdec : d.month = 12 := by omega
    have hstep := beforeMonth_twelve d.year
    have hlast : d.day = daysIn d.year d.month := by omega
    have hjan : beforeMonth 1 + leapDay (d.year + 1) 1 = 0 := by simp [beforeMonth, leapDay]
    rw [ordinal_first, hjan, beforeYear_succ, ordinal, hlast, hdec]
    split_ifs at hstep ⊢ <;> omega

theorem ordinal_after (epoch : Date) (n : ℕ) : (epoch.after n).ordinal = epoch.ordinal + n := by
  induction n with
  | zero => simp
  | succ n ih =>
    rw [after_succ, ordinal_next, ih, Nat.cast_add, Nat.cast_one]
    ring

/-! ### Every day is reached -/

def dayOfYear (d : Date) : ℕ := beforeMonth d.month + leapDay d.year d.month + (d.day - 1)

theorem ordinal_eq (d : Date) : d.ordinal = beforeYear d.year + d.dayOfYear := by
  have hday := d.one_le_day
  simp only [ordinal, dayOfYear]
  omega

theorem before_mono {y m m' : ℕ} (h : 1 ≤ m) (hlt : m < m') (h' : m' ≤ 12) :
    beforeMonth m + leapDay y m + daysIn y m ≤ beforeMonth m' + leapDay y m' := by
  induction m', hlt using Nat.le_induction with
  | base => exact (beforeMonth_succ h (by omega)).ge
  | succ n hn ih =>
    have hstep := beforeMonth_succ (y := y) (m := n) (by omega) (by omega)
    have hrest := ih (by omega)
    rw [hstep]
    omega

theorem dayOfYear_lt (d : Date) : (d.dayOfYear : ℤ) < beforeYear ((d.year + 1 : ℕ)) -
    beforeYear d.year := by
  have hday := d.day_le
  have hpos := d.one_le_day
  have hfull := beforeMonth_twelve d.year
  have hbound : beforeMonth d.month + leapDay d.year d.month + daysIn d.year d.month ≤
      beforeMonth 12 + leapDay d.year 12 + daysIn d.year 12 := by
    rcases d.month_le.lt_or_eq with hlt | heq
    · exact (before_mono d.one_le_month hlt le_rfl).trans (Nat.le_add_right _ _)
    · rw [heq]
  rw [beforeYear_succ, dayOfYear]
  split_ifs at hfull ⊢ <;> omega

theorem beforeYear_mono {y y' : ℕ} (h : y ≤ y') : beforeYear y ≤ beforeYear y' := by
  simp only [beforeYear]
  omega

theorem year_le_of_ordinal_le {d d' : Date} (h : d.ordinal ≤ d'.ordinal) : d.year ≤ d'.year := by
  by_contra hgt
  have hmono := beforeYear_mono (show d'.year + 1 ≤ d.year by omega)
  have hlt := d'.dayOfYear_lt
  rw [ordinal_eq, ordinal_eq] at h
  omega

theorem year_le_after (epoch : Date) (n : ℕ) : epoch.year ≤ (epoch.after n).year := by
  apply year_le_of_ordinal_le
  rw [ordinal_after]
  omega

end Date

end Fw100.Library
