import Fw100.Gps.Parser
import Fw100.Library.Calendar

/-!
# The seconds since 1970

`mkgmtime` counts days by a closed formula with C's truncating divisions, in a `short` year and
a `time_t` of 32 bits. It is compared with the calendar, in which the days are counted one by
one.
-/
namespace Fw100.Gps
open Library

theorem one_le_january : 1 ≤ 1 := le_rfl

theorem january_le : 1 ≤ 12 := Nat.le_add_left 1 11

def unixEpoch : Date := .first 1970 1 one_le_january january_le

def tmOf (d : Date) (second : ℕ) : Tm :=
  ⟨d.year - 1900, d.month - 1, d.day, (second / 3600 : ℕ), (second / 60 % 60 : ℕ),
    (second % 60 : ℕ)⟩

theorem short_of_lt {n : ℤ} (h : 0 ≤ n) (h' : n < 2 ^ 15) : short n = n :=
  Int.bmod_eq_of_le (by omega) (by omega)

theorem daysToMonth_eq {month : ℕ} (h : 1 ≤ month) (h' : month ≤ 12) :
    daysToMonth.getD (month - 1) 0 = Date.beforeMonth month := by
  interval_cases month <;> rfl

theorem ordinal_unixEpoch : unixEpoch.ordinal = 719527 := by decide

/-- The days that the formula counts. The year that the leap days are counted up to is the one
before in January and February. -/
theorem days_eq {d : Date} (h : 1970 ≤ d.year) {leapYear : ℤ}
    (hleap : leapYear = if d.month ≤ 2 then (d.year : ℤ) - 1 else d.year) :
    (d.year - 1970 : ℤ) * 365 + Date.beforeMonth d.month + (leapYear - 1968).tdiv 4 -
        (leapYear - 1900).tdiv 100 + (leapYear - 1600).tdiv 400 + d.day - 1 =
      d.ordinal - unixEpoch.ordinal := by
  have hlarge : 1969 ≤ leapYear := by
    rw [hleap]
    split_ifs <;> omega
  rw [Int.tdiv_eq_ediv_of_nonneg (by omega), Int.tdiv_eq_ediv_of_nonneg (by omega),
    Int.tdiv_eq_ediv_of_nonneg (by omega), ordinal_unixEpoch,
    show (leapYear - 1968) / 4 = leapYear / 4 - 492 by omega,
    show (leapYear - 1900) / 100 = leapYear / 100 - 19 by omega,
    show (leapYear - 1600) / 400 = leapYear / 400 - 4 by omega]
  have hnext := Date.beforeYear_succ d.year
  simp only [Date.beforeYear, Nat.cast_add, Nat.cast_one, add_sub_cancel_right] at hnext
  simp only [Date.ordinal, Date.beforeYear, Date.leapDay, Bool.and_eq_true, decide_eq_true_eq]
  by_cases hfeb : d.month ≤ 2
  · rw [if_pos hfeb] at hleap
    rw [if_neg (fun hand => absurd hand.2 (by omega)), hleap, Nat.cast_zero]
    linarith
  · rw [if_neg hfeb] at hleap
    rw [hleap]
    by_cases hyear : isLeap d.year = true
    · rw [if_pos hyear] at hnext
      rw [if_pos ⟨hyear, by omega⟩, Nat.cast_one]
      linarith
    · rw [if_neg hyear] at hnext
      rw [if_neg (fun hand => hyear hand.1), Nat.cast_zero]
      linarith

theorem secondOfDay_eq (n second : ℕ) :
    (((n : ℤ) * 24 + (second / 3600 : ℕ)) * 60 + (second / 60 % 60 : ℕ)) * 60 +
      (second % 60 : ℕ) = n * 86400 + second := by
  omega

/-- The year and the month that `mkgmtime` computes with. -/
theorem mkgmtime_eq {d : Date} (hlow : 1970 ≤ d.year) (hhigh : d.year < 2 ^ 15) (second : ℕ) :
    mkgmtime (tmOf d second) =
      ((((d.ordinal - unixEpoch.ordinal) * 24 + (second / 3600 : ℕ)) * 60 +
        (second / 60 % 60 : ℕ)) * 60 + (second % 60 : ℕ)).bmod (2 ^ 32) := by
  have hone := d.one_le_month
  have htwelve := d.month_le
  have hmonth : short ((d.month : ℤ) - 1) = d.month - 1 := short_of_lt (by omega) (by omega)
  have hquot : ((d.month : ℤ) - 1).tdiv 12 = 0 := by
    rw [Int.tdiv_eq_ediv_of_nonneg (by omega)]
    omega
  have hrem : ((d.month : ℤ) - 1).tmod 12 = d.month - 1 := by
    rw [Int.tmod_eq_emod_of_nonneg (by omega)]
    omega
  have hyear : short ((d.year : ℤ) - 1900 + 0 + 1900) = d.year := by
    rw [show (d.year : ℤ) - 1900 + 0 + 1900 = d.year by ring]
    exact short_of_lt (by omega) (by omega)
  have hprev : short ((d.year : ℤ) - 1) = d.year - 1 := short_of_lt (by omega) (by omega)
  have htable : daysToMonth.getD ((d.month : ℤ) - 1).toNat 0 = Date.beforeMonth d.month := by
    rw [← daysToMonth_eq hone htwelve]
    congr 1
    omega
  have hcond : ((d.month : ℤ) - 1 ≤ 1) ↔ d.month ≤ 2 := by omega
  have hneg : ¬ (d.month : ℤ) - 1 < 0 := by omega
  simp only [mkgmtime, tmOf, hmonth, hquot, hrem, hyear, if_neg hneg, hprev, htable, hcond]
  rw [days_eq hlow rfl]

/-- `mkgmtime` of the day that comes `n` days after 1 January 1970 is the number of seconds
since then, as long as a `time_t` holds it. -/
theorem mkgmtime_iff (n second : ℕ) :
    mkgmtime (tmOf (unixEpoch.after n) second) = n * 86400 + second ↔
      n * 86400 + second < 2 ^ 31 := by
  have hlow := Date.year_le_after unixEpoch n
  constructor
  · intro heq
    have hlt : mkgmtime (tmOf (unixEpoch.after n) second) < 2 ^ 31 := by
      simp only [mkgmtime]
      exact Int.bmod_lt (by norm_num)
    omega
  · intro hfits
    have hhigh : (unixEpoch.after n).year < 2 ^ 15 := by
      by_contra hge
      have hmono := Date.beforeYear_mono (show 2 ^ 15 ≤ (unixEpoch.after n).year by omega)
      have hord := Date.ordinal_after unixEpoch n
      rw [Date.ordinal_eq, ordinal_unixEpoch] at hord
      have hvalue : Date.beforeYear ((2 ^ 15 : ℕ) : ℤ) = 11968265 := by decide
      omega
    rw [mkgmtime_eq hlow hhigh, Date.ordinal_after, add_sub_cancel_left, secondOfDay_eq]
    exact Int.bmod_eq_of_le (by omega) (by omega)

end Fw100.Gps
