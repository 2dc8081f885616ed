import Mathlib.Tactic.Ring
import Mathlib.Tactic.IntervalCases

/-!
# The proleptic Gregorian calendar

Dates, day ordinals and month arithmetic over all of `ℤ`, with nothing about billing in it.

The calendar is developed in two coordinates.  `Date.toOrdinal` counts days, which is what
durations and time zones need.  `Date.monthIndex` counts months, which is what "the same day next
month" needs.  `Date.toOrdinal_eq` connects them: an ordinal is the base of its month plus the day
in it, and `monthBase_add_monthLength_le` says that months do not overlap.  Every ordering fact
about clamped month arithmetic follows from these two.

* `Date.ofOrdinal` — the inverse of `Date.toOrdinal`, by the 400/100/4/1-year cycles.
* `Date.inMonth` — a day of a given month, clamped to the length of the month.
-/

namespace Gregorian

def IsLeap (y : ℤ) : Prop := y % 4 = 0 ∧ (y % 100 ≠ 0 ∨ y % 400 = 0)

instance (y : ℤ) : Decidable (IsLeap y) := inferInstanceAs (Decidable (_ ∧ _))

/-- The length of month `m` (1 to 12) of year `y`. -/
def daysInMonth (y m : ℤ) : ℤ :=
  if m = 2 then (if IsLeap y then 29 else 28)
  else if m = 4 ∨ m = 6 ∨ m = 9 ∨ m = 11 then 30
  else 31

/-- Days before 1 January of year `y`, counted from 1 January of year 1. -/
def daysBeforeYear (y : ℤ) : ℤ := (y - 1) * 365 + (y - 1) / 4 - (y - 1) / 100 + (y - 1) / 400

/-- Days of year `y` before the first of month `m`. -/
def daysBeforeMonth (y m : ℤ) : ℤ :=
  (if m = 1 then 0 else if m = 2 then 31 else if m = 3 then 59 else if m = 4 then 90
   else if m = 5 then 120 else if m = 6 then 151 else if m = 7 then 181 else if m = 8 then 212
   else if m = 9 then 243 else if m = 10 then 273 else if m = 11 then 304 else 334)
  + (if 2 < m ∧ IsLeap y then 1 else 0)

lemma daysInMonth_bounds (y m : ℤ) : 28 ≤ daysInMonth y m ∧ daysInMonth y m ≤ 31 := by
  unfold daysInMonth
  split_ifs <;> omega

lemma daysBeforeMonth_succ (y m : ℤ) (h1 : 1 ≤ m) (h2 : m ≤ 11) :
    daysBeforeMonth y (m + 1) = daysBeforeMonth y m + daysInMonth y m := by
  unfold daysBeforeMonth daysInMonth
  by_cases hl : IsLeap y <;> interval_cases m <;> simp [hl]

lemma daysBeforeYear_succ (y : ℤ) :
    daysBeforeYear (y + 1) = daysBeforeYear y + daysBeforeMonth y 12 + daysInMonth y 12 := by
  unfold daysBeforeYear daysBeforeMonth daysInMonth IsLeap
  simp only [Int.reduceLT, true_and, Int.reduceEq, if_false, or_self]
  split_ifs with h <;> omega

/-! ## From a day ordinal back to a date

The year is found by the nested cycles of 400, 100, 4 and 1 years; the last day of a cycle is the
one case where the division overshoots.
-/

/-- The year containing day ordinal `n`. -/
def yearOfOrdinal (n : ℤ) : ℤ :=
  let n400 := (n - 1) / 146097
  let r400 := (n - 1) % 146097
  let n100 := r400 / 36524
  let r100 := r400 % 36524
  let n4 := r100 / 1461
  let r4 := r100 % 1461
  let n1 := r4 / 365
  let year := n400 * 400 + 1 + n100 * 100 + n4 * 4 + n1
  if n1 = 4 ∨ n100 = 4 then year - 1 else year

/-- `daysBeforeYear` in cycle coordinates, where the floor divisions are linear. -/
lemma daysBeforeYear_cycles (a b c d : ℤ) (hb : 0 ≤ b ∧ b ≤ 3) (hc : 0 ≤ c ∧ c ≤ 24)
    (hd : 0 ≤ d ∧ d ≤ 3) :
    daysBeforeYear (a * 400 + 1 + b * 100 + c * 4 + d)
      = 146097 * a + 36524 * b + 1461 * c + 365 * d := by
  have h4 : (a * 400 + 1 + b * 100 + c * 4 + d - 1) / 4 = 100 * a + 25 * b + c := by omega
  have h100 : (a * 400 + 1 + b * 100 + c * 4 + d - 1) / 100 = 4 * a + b := by omega
  have h400 : (a * 400 + 1 + b * 100 + c * 4 + d - 1) / 400 = a := by omega
  rw [daysBeforeYear, h4, h100, h400]
  ring

lemma daysBeforeYear_cycles_succ (a b c d : ℤ) (hb : 0 ≤ b ∧ b ≤ 3) (hc : 0 ≤ c ∧ c ≤ 24)
    (hd : 0 ≤ d ∧ d ≤ 3) :
    daysBeforeYear (a * 400 + 1 + b * 100 + c * 4 + d + 1)
      = 146097 * a + 36524 * b + 1461 * c + 365 * d + 365
        + (if d = 3 ∧ (c ≠ 24 ∨ b = 3) then 1 else 0) := by
  by_cases hd3 : d < 3
  · have h := daysBeforeYear_cycles a b c (d + 1) hb hc (by omega)
    rw [← add_assoc] at h
    rw [h, if_neg (by omega)]
    omega
  by_cases hc24 : c < 24
  · have h := daysBeforeYear_cycles a b (c + 1) 0 hb (by omega) (by omega)
    rw [show a * 400 + 1 + b * 100 + (c + 1) * 4 + 0 = a * 400 + 1 + b * 100 + c * 4 + d + 1
      by omega] at h
    rw [h, if_pos (by omega)]
    omega
  by_cases hb3 : b < 3
  · have h := daysBeforeYear_cycles a (b + 1) 0 0 (by omega) (by omega) (by omega)
    rw [show a * 400 + 1 + (b + 1) * 100 + 0 * 4 + 0 = a * 400 + 1 + b * 100 + c * 4 + d + 1
      by omega] at h
    rw [h, if_neg (by omega)]
    omega
  · have h := daysBeforeYear_cycles (a + 1) 0 0 0 (by omega) (by omega) (by omega)
    rw [show (a + 1) * 400 + 1 + 0 * 100 + 0 * 4 + 0 = a * 400 + 1 + b * 100 + c * 4 + d + 1
      by omega] at h
    rw [h, if_pos (by omega)]
    omega

/-- **The year found is the year the day falls in.** -/
theorem yearOfOrdinal_spec (n : ℤ) :
    daysBeforeYear (yearOfOrdinal n) < n ∧ n ≤ daysBeforeYear (yearOfOrdinal n + 1) := by
  obtain ⟨a, ha⟩ : ∃ a, a = (n - 1) / 146097 := ⟨_, rfl⟩
  obtain ⟨b, hb⟩ : ∃ b, b = (n - 1) % 146097 / 36524 := ⟨_, rfl⟩
  obtain ⟨c, hc⟩ : ∃ c, c = (n - 1) % 146097 % 36524 / 1461 := ⟨_, rfl⟩
  obtain ⟨d, hd⟩ : ∃ d, d = (n - 1) % 146097 % 36524 % 1461 / 365 := ⟨_, rfl⟩
  have hy : yearOfOrdinal n = if d = 4 ∨ b = 4 then a * 400 + 1 + b * 100 + c * 4 + d - 1
      else a * 400 + 1 + b * 100 + c * 4 + d := by rw [ha, hb, hc, hd]; rfl
  rw [hy]
  split_ifs with h
  · -- the last day of a 4-year or of a 400-year cycle belongs to the year before
    rcases h with rfl | rfl
    · have h1 := daysBeforeYear_cycles a b c 3 (by omega) (by omega) (by omega)
      have h2 := daysBeforeYear_cycles_succ a b c 3 (by omega) (by omega) (by omega)
      rw [if_pos (by omega)] at h2
      rw [show a * 400 + 1 + b * 100 + c * 4 + 4 - 1 = a * 400 + 1 + b * 100 + c * 4 + 3 by ring]
      omega
    · have h1 := daysBeforeYear_cycles a 3 24 3 (by omega) (by omega) (by omega)
      have h2 := daysBeforeYear_cycles_succ a 3 24 3 (by omega) (by omega) (by omega)
      rw [if_pos (by omega)] at h2
      rw [show a * 400 + 1 + 4 * 100 + c * 4 + d - 1 = a * 400 + 1 + 3 * 100 + 24 * 4 + 3
        by omega]
      omega
  · have h1 := daysBeforeYear_cycles a b c d (by omega) (by omega) (by omega)
    have h2 := daysBeforeYear_cycles_succ a b c d (by omega) (by omega) (by omega)
    rw [h1, h2]
    split_ifs with hleap <;> omega

/-- The last of the months 1 to `k + 1` of year `y` that begins before day `r`. -/
def lastMonthBefore (y r : ℤ) : ℕ → ℤ
  | 0 => 1
  | k + 1 => if daysBeforeMonth y (k + 2) < r then k + 2 else lastMonthBefore y r k

/-- The month containing day `r` of year `y`. -/
def monthOfYearDay (y r : ℤ) : ℤ := lastMonthBefore y r 11

lemma lastMonthBefore_bounds (y r : ℤ) (k : ℕ) :
    1 ≤ lastMonthBefore y r k ∧ lastMonthBefore y r k ≤ k + 1 := by
  induction k with
  | zero => simp [lastMonthBefore]
  | succ k ih =>
    rw [lastMonthBefore]
    split_ifs <;> push_cast <;> omega

lemma monthOfYearDay_bounds (y r : ℤ) : 1 ≤ monthOfYearDay y r ∧ monthOfYearDay y r ≤ 12 :=
  lastMonthBefore_bounds y r 11

lemma lastMonthBefore_spec (y r : ℤ) (h1 : 1 ≤ r) :
    ∀ k : ℕ, k ≤ 11 → r ≤ daysBeforeMonth y (k + 1) + daysInMonth y (k + 1) →
      daysBeforeMonth y (lastMonthBefore y r k) < r ∧
        r ≤ daysBeforeMonth y (lastMonthBefore y r k) + daysInMonth y (lastMonthBefore y r k)
  | 0, _, h => by
    have h0 : daysBeforeMonth y 1 = 0 := by simp [daysBeforeMonth]
    simp only [lastMonthBefore, Nat.cast_zero, zero_add] at h ⊢
    exact ⟨by omega, h⟩
  | k + 1, hk, h => by
    rw [lastMonthBefore]
    push_cast at h
    split_ifs with hlt
    · exact ⟨hlt, by rwa [show (k : ℤ) + 2 = k + 1 + 1 by ring]⟩
    · refine lastMonthBefore_spec y r h1 k (by omega) ?_
      rw [← daysBeforeMonth_succ y (k + 1) (by omega) (by omega)]
      rw [show (k : ℤ) + 1 + 1 = k + 2 by ring]
      omega

lemma monthOfYearDay_spec (y r : ℤ) (h1 : 1 ≤ r)
    (h2 : r ≤ daysBeforeMonth y 12 + daysInMonth y 12) :
    daysBeforeMonth y (monthOfYearDay y r) < r ∧
      r ≤ daysBeforeMonth y (monthOfYearDay y r) + daysInMonth y (monthOfYearDay y r) :=
  lastMonthBefore_spec y r h1 11 le_rfl h2

/-- A year, a month and a day, valid by construction. -/
@[ext] structure Date where
  year : ℤ
  month : ℤ
  day : ℤ
  month_mem : 1 ≤ month ∧ month ≤ 12
  day_mem : 1 ≤ day ∧ day ≤ daysInMonth year month
deriving DecidableEq

namespace Date

/-- The day number of a date; 1 January of year 1 is day 1. -/
def toOrdinal (d : Date) : ℤ := daysBeforeYear d.year + daysBeforeMonth d.year d.month + d.day

def ofOrdinal (n : ℤ) : Date where
  year := yearOfOrdinal n
  month := monthOfYearDay (yearOfOrdinal n) (n - daysBeforeYear (yearOfOrdinal n))
  day := n - daysBeforeYear (yearOfOrdinal n)
    - daysBeforeMonth (yearOfOrdinal n)
        (monthOfYearDay (yearOfOrdinal n) (n - daysBeforeYear (yearOfOrdinal n)))
  month_mem := monthOfYearDay_bounds _ _
  day_mem := by
    have hy := yearOfOrdinal_spec n
    have hs := daysBeforeYear_succ (yearOfOrdinal n)
    have hm := monthOfYearDay_spec (yearOfOrdinal n) (n - daysBeforeYear (yearOfOrdinal n))
      (by omega) (by omega)
    omega

@[simp] lemma toOrdinal_ofOrdinal (n : ℤ) : (ofOrdinal n).toOrdinal = n := by
  simp only [toOrdinal, ofOrdinal]
  omega

def monthIndex (d : Date) : ℤ := 12 * d.year + (d.month - 1)

end Date

/-- The length of the month with index `M`. -/
def monthLength (M : ℤ) : ℤ := daysInMonth (M / 12) (M % 12 + 1)

/-- The ordinal of the last day before the month with index `M`. -/
def monthBase (M : ℤ) : ℤ := daysBeforeYear (M / 12) + daysBeforeMonth (M / 12) (M % 12 + 1)

lemma monthLength_bounds (M : ℤ) : 28 ≤ monthLength M ∧ monthLength M ≤ 31 :=
  daysInMonth_bounds _ _

lemma monthBase_succ (M : ℤ) : monthBase (M + 1) = monthBase M + monthLength M := by
  unfold monthBase monthLength
  by_cases h : M % 12 = 11
  · have h1 : (M + 1) / 12 = M / 12 + 1 := by omega
    have h2 : (M + 1) % 12 = 0 := by omega
    rw [h1, h2, h, daysBeforeYear_succ]
    simp [daysBeforeMonth]
  · have h1 : (M + 1) / 12 = M / 12 := by omega
    have h2 : (M + 1) % 12 = M % 12 + 1 := by omega
    rw [h1, h2, daysBeforeMonth_succ (M / 12) (M % 12 + 1) (by omega) (by omega)]
    ring

/-- **Months do not overlap**: a month ends before any later month begins. -/
theorem monthBase_add_monthLength_le {M N : ℤ} (h : M < N) :
    monthBase M + monthLength M ≤ monthBase N := by
  obtain ⟨k, rfl⟩ : ∃ k : ℕ, N = M + 1 + k := ⟨(N - M - 1).toNat, by omega⟩
  clear h
  induction k with
  | zero => simp [monthBase_succ]
  | succ k ih =>
    have hs := monthBase_succ (M + 1 + k)
    have hl := monthLength_bounds (M + 1 + k)
    rw [show M + 1 + ((k + 1 : ℕ) : ℤ) = M + 1 + k + 1 by push_cast; ring]
    omega

namespace Date

lemma monthIndex_div (d : Date) : d.monthIndex / 12 = d.year := by
  have := d.month_mem
  simp only [monthIndex]
  omega

lemma monthIndex_mod (d : Date) : d.monthIndex % 12 + 1 = d.month := by
  have := d.month_mem
  simp only [monthIndex]
  omega

@[simp] lemma monthLength_monthIndex (d : Date) :
    monthLength d.monthIndex = daysInMonth d.year d.month := by
  rw [monthLength, monthIndex_div, monthIndex_mod]

lemma day_le_monthLength (d : Date) : d.day ≤ monthLength d.monthIndex := by
  rw [monthLength_monthIndex]
  exact d.day_mem.2

/-- **An ordinal is its month's base plus the day.** -/
theorem toOrdinal_eq (d : Date) : d.toOrdinal = monthBase d.monthIndex + d.day := by
  rw [toOrdinal, monthBase, monthIndex_div, monthIndex_mod]

lemma ext_monthIndex {d e : Date} (hm : d.monthIndex = e.monthIndex) (hd : d.day = e.day) :
    d = e := by
  have hy : d.year = e.year := by rw [← monthIndex_div d, hm, monthIndex_div]
  have hmo : d.month = e.month := by rw [← monthIndex_mod d, hm, monthIndex_mod]
  exact Date.ext hy hmo hd

lemma toOrdinal_lt_of_monthIndex_lt {d e : Date} (h : d.monthIndex < e.monthIndex) :
    d.toOrdinal < e.toOrdinal := by
  have hlen := monthBase_add_monthLength_le h
  have hd := d.day_le_monthLength
  have he := e.day_mem.1
  rw [toOrdinal_eq, toOrdinal_eq]
  omega

theorem toOrdinal_injective {d e : Date} (h : d.toOrdinal = e.toOrdinal) : d = e := by
  have hm : d.monthIndex = e.monthIndex := by
    rcases lt_trichotomy d.monthIndex e.monthIndex with hlt | heq | hgt
    · exact absurd h (ne_of_lt (toOrdinal_lt_of_monthIndex_lt hlt))
    · exact heq
    · exact absurd h.symm (ne_of_lt (toOrdinal_lt_of_monthIndex_lt hgt))
  refine ext_monthIndex hm ?_
  rw [toOrdinal_eq, toOrdinal_eq, hm] at h
  omega

@[simp] lemma ofOrdinal_toOrdinal (d : Date) : ofOrdinal d.toOrdinal = d :=
  toOrdinal_injective (toOrdinal_ofOrdinal _)

/-- Day `day` of the month with index `M`, or its last day when the month is shorter. -/
def inMonth (M day : ℤ) (h : 1 ≤ day) : Date where
  year := M / 12
  month := M % 12 + 1
  day := min day (monthLength M)
  month_mem := by omega
  day_mem := by
    have hl := monthLength_bounds M
    rw [monthLength] at *
    omega

@[simp] lemma monthIndex_inMonth (M day : ℤ) (h : 1 ≤ day) : (inMonth M day h).monthIndex = M := by
  simp only [monthIndex, inMonth]
  omega

@[simp] lemma day_inMonth (M day : ℤ) (h : 1 ≤ day) :
    (inMonth M day h).day = min day (monthLength M) := rfl

@[simp] lemma year_inMonth (M day : ℤ) (h : 1 ≤ day) : (inMonth M day h).year = M / 12 := rfl

lemma inMonth_monthIndex (d : Date) : inMonth d.monthIndex d.day d.day_mem.1 = d :=
  ext_monthIndex (by simp) (by simp [d.day_mem.2])

lemma monthIndex_le_of_toOrdinal_le {d e : Date} (h : d.toOrdinal ≤ e.toOrdinal) :
    d.monthIndex ≤ e.monthIndex := by
  by_contra hlt
  exact absurd (toOrdinal_lt_of_monthIndex_lt (not_le.mp hlt)) (not_lt.mpr h)

end Date

end Gregorian
