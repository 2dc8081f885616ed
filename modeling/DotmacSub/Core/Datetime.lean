import DotmacSub.Core.Calendar

/-!
# Wall clocks, instants and time zones

An instant is a number of microseconds and so is a duration; both are plain integers.  A wall
clock is a date with a time of day.  A zone translates between the two, in one direction by the
instant and in the other by the wall clock.

The years 1 to 9999 are the calendar a program can compute in; `Zone.toLocal` and `Zone.toUtc`
leave it by returning nothing.  Counted in microseconds the supported wall clocks are an interval
(`Wall.inRange_iff`), which is why a computation that succeeds at a late boundary also succeeds at
every earlier one.

* `Zone.IsFixed` — a zone whose offset never changes.
-/

namespace Gregorian

def usPerDay : ℤ := 86400000000

def Date.InRange (d : Date) : Prop := 1 ≤ d.year ∧ d.year ≤ 9999

instance (d : Date) : Decidable d.InRange := inferInstanceAs (Decidable (_ ∧ _))

lemma Date.year_le_of_toOrdinal_le {d e : Date} (h : d.toOrdinal ≤ e.toOrdinal) :
    d.year ≤ e.year := by
  have hm := monthIndex_le_of_toOrdinal_le h
  rw [← monthIndex_div d, ← monthIndex_div e]
  omega

/-- The last supported day number. -/
def maxOrdinal : ℤ := 3652059

/-- **The supported dates by day number.** -/
theorem Date.inRange_iff (d : Date) : d.InRange ↔ 1 ≤ d.toOrdinal ∧ d.toOrdinal ≤ maxOrdinal := by
  have eve : (ofOrdinal 0).year = 0 := by decide
  have first : (ofOrdinal 1).year = 1 := by decide
  have last : (ofOrdinal maxOrdinal).year = 9999 := by decide
  have beyond : (ofOrdinal (maxOrdinal + 1)).year = 10000 := by decide
  have key : ∀ n, (n ≤ d.toOrdinal → (ofOrdinal n).year ≤ d.year) ∧
      (d.toOrdinal ≤ n → d.year ≤ (ofOrdinal n).year) := fun n =>
    ⟨fun h => year_le_of_toOrdinal_le (by simpa using h),
      fun h => year_le_of_toOrdinal_le (by simpa using h)⟩
  have k0 := (key 0).2
  have k1 := (key 1).1
  have k2 := (key maxOrdinal).2
  have k3 := (key (maxOrdinal + 1)).1
  unfold InRange
  constructor
  · rintro ⟨h1, h2⟩
    refine ⟨?_, ?_⟩ <;> by_contra hn
    · have := k0 (by omega)
      omega
    · have := k3 (by omega)
      omega
  · rintro ⟨h1, h2⟩
    have := k1 h1
    have := k2 h2
    omega

namespace Date

def new? (year month day : ℤ) : Option Date :=
  if h : (1 ≤ year ∧ year ≤ 9999) ∧ (1 ≤ month ∧ month ≤ 12) ∧
      1 ≤ day ∧ day ≤ daysInMonth year month then
    some ⟨year, month, day, h.2.1, h.2.2⟩
  else none

/-- A constructed date has the fields it was constructed from. -/
lemma new?_eq_some {year month day : ℤ} {d : Date} :
    new? year month day = some d ↔
      d.year = year ∧ d.month = month ∧ d.day = day ∧ d.InRange := by
  unfold new?
  split_ifs with h
  · simp only [Option.some.injEq]
    constructor
    · rintro rfl
      exact ⟨rfl, rfl, rfl, h.1⟩
    · rintro ⟨rfl, rfl, rfl, -⟩
      rfl
  · refine iff_of_false not_false ?_
    rintro ⟨rfl, rfl, rfl, hr⟩
    exact h ⟨hr, d.month_mem, d.day_mem⟩

/-- The fields of `inMonth`, put back together. -/
lemma new?_inMonth_eq (M day : ℤ) (h : 1 ≤ day) :
    new? (M / 12) (M % 12 + 1) (min day (monthLength M))
      = if (inMonth M day h).InRange then some (inMonth M day h) else none := by
  split_ifs with hr
  · exact new?_eq_some.mpr ⟨rfl, rfl, rfl, hr⟩
  · cases hd : new? (M / 12) (M % 12 + 1) (min day (monthLength M)) with
    | none => rfl
    | some d =>
      obtain ⟨hy, hm, hday, hd'⟩ := new?_eq_some.mp hd
      obtain rfl : d = inMonth M day h := Date.ext hy hm hday
      exact absurd hd' hr

lemma new?_inMonth (M day : ℤ) (h : 1 ≤ day) {d : Date} :
    new? (M / 12) (M % 12 + 1) (min day (monthLength M)) = some d ↔
      d = inMonth M day h ∧ d.InRange := by
  rw [new?_inMonth_eq M day h, Option.ite_none_right_eq_some]
  constructor
  · rintro ⟨hr, hd⟩
    exact ⟨(Option.some.inj hd).symm, Option.some.inj hd ▸ hr⟩
  · rintro ⟨rfl, hr⟩
    exact ⟨hr, rfl⟩

/-- Days since Monday. -/
def weekday (d : Date) : ℤ := (d.toOrdinal + 6) % 7

end Date

/-! ## Wall clocks -/

/-- A date and a time of day, in microseconds after midnight. -/
@[ext] structure Wall where
  date : Date
  time : ℤ
  time_mem : 0 ≤ time ∧ time < usPerDay
deriving DecidableEq

namespace Wall

/-- Microseconds from the eve of 1 January of year 1. -/
def toMicros (w : Wall) : ℤ := w.date.toOrdinal * usPerDay + w.time

/-- The wall clock showing a number of microseconds. -/
def ofMicros (n : ℤ) : Wall where
  date := Date.ofOrdinal (n / usPerDay)
  time := n % usPerDay
  time_mem := ⟨Int.emod_nonneg _ (by decide), Int.emod_lt_of_pos _ (by decide)⟩

def midnight (d : Date) : Wall where
  date := d
  time := 0
  time_mem := by decide

/-- A date at a time of day taken from another wall clock. -/
def combine (d : Date) (w : Wall) : Wall where
  date := d
  time := w.time
  time_mem := w.time_mem

/-- The same time of day, `n` days later, inside the supported years. -/
def addDays (w : Wall) (n : ℤ) : Option Wall :=
  if (ofMicros (w.toMicros + n * usPerDay)).date.InRange then
    some (ofMicros (w.toMicros + n * usPerDay))
  else none

@[simp] lemma date_combine (d : Date) (w : Wall) : (combine d w).date = d := rfl

@[simp] lemma time_combine (d : Date) (w : Wall) : (combine d w).time = w.time := rfl

@[simp] lemma date_midnight (d : Date) : (midnight d).date = d := rfl

@[simp] lemma time_midnight (d : Date) : (midnight d).time = 0 := rfl

@[simp] lemma toMicros_ofMicros (n : ℤ) : (ofMicros n).toMicros = n := by
  rw [toMicros, ofMicros, Date.toOrdinal_ofOrdinal, mul_comm]
  exact Int.mul_ediv_add_emod n usPerDay

lemma toMicros_div (w : Wall) : w.toMicros / usPerDay = w.date.toOrdinal := by
  have ht := w.time_mem
  unfold toMicros usPerDay at *
  omega

lemma toMicros_mod (w : Wall) : w.toMicros % usPerDay = w.time := by
  have ht := w.time_mem
  unfold toMicros usPerDay at *
  omega

@[simp] lemma ofMicros_toMicros (w : Wall) : ofMicros w.toMicros = w := by
  refine Wall.ext ?_ ?_
  · simp only [ofMicros, toMicros_div, Date.ofOrdinal_toOrdinal]
  · simp only [ofMicros, toMicros_mod]

/-- An earlier day is an earlier wall clock, whatever the times. -/
lemma toMicros_lt_of_toOrdinal_lt {v w : Wall} (h : v.date.toOrdinal < w.date.toOrdinal) :
    v.toMicros < w.toMicros := by
  have hv := v.time_mem
  have hw := w.time_mem
  unfold toMicros usPerDay at *
  omega

lemma toMicros_lt_of_monthIndex_lt {v w : Wall} (h : v.date.monthIndex < w.date.monthIndex) :
    v.toMicros < w.toMicros :=
  toMicros_lt_of_toOrdinal_lt (Date.toOrdinal_lt_of_monthIndex_lt h)

lemma addDays_eq_some {w v : Wall} {n : ℤ} :
    w.addDays n = some v ↔ v.toMicros = w.toMicros + n * usPerDay ∧ v.date.InRange := by
  have hv : v.toMicros = w.toMicros + n * usPerDay ↔
      ofMicros (w.toMicros + n * usPerDay) = v := by
    constructor
    · intro h
      rw [← h, ofMicros_toMicros]
    · rintro rfl
      rw [toMicros_ofMicros]
  rw [hv]
  unfold addDays
  split_ifs with hr
  · simp only [Option.some.injEq]
    exact ⟨fun h => ⟨h, h ▸ hr⟩, fun h => h.1⟩
  · refine iff_of_false nofun ?_
    rintro ⟨rfl, h⟩
    exact hr h

/-- **The supported wall clocks by microseconds**: the range is an interval. -/
theorem inRange_iff (w : Wall) :
    w.date.InRange ↔ usPerDay ≤ w.toMicros ∧ w.toMicros < (maxOrdinal + 1) * usPerDay := by
  have ht := w.time_mem
  rw [Date.inRange_iff]
  unfold toMicros usPerDay maxOrdinal at *
  omega

end Wall

/-! ## Time zones -/

/-- A time zone: the offset from UTC at an instant, and at a wall clock (the first occurrence of
the wall clock, when it occurs twice).  An offset is always shorter than a day. -/
structure Zone where
  name : String
  offsetAt : ℤ → ℤ
  offsetOf : Wall → ℤ
  offsetAt_lt : ∀ t, |offsetAt t| < usPerDay
  offsetOf_lt : ∀ w, |offsetOf w| < usPerDay

namespace Zone

def localWall (z : Zone) (t : ℤ) : Wall := Wall.ofMicros (t + z.offsetAt t)

/-- The wall clock at an instant, inside the supported years. -/
def toLocal (z : Zone) (t : ℤ) : Option Wall :=
  if (z.localWall t).date.InRange then some (z.localWall t) else none

/-- The instant of a wall clock, inside the supported years of UTC. -/
def toUtc (z : Zone) (w : Wall) : Option ℤ :=
  if (Wall.ofMicros (w.toMicros - z.offsetOf w)).date.InRange then
    some (w.toMicros - z.offsetOf w)
  else none

def IsFixed (z : Zone) (o : ℤ) : Prop := (∀ t, z.offsetAt t = o) ∧ ∀ w, z.offsetOf w = o

def fixed (name : String) (o : ℤ) (h : |o| < usPerDay) : Zone :=
  ⟨name, fun _ => o, fun _ => o, fun _ => h, fun _ => h⟩

lemma fixed_isFixed (name : String) (o : ℤ) (h : |o| < usPerDay) : (fixed name o h).IsFixed o :=
  ⟨fun _ => rfl, fun _ => rfl⟩

variable {z : Zone} {o : ℤ}

lemma IsFixed.abs_lt (h : z.IsFixed o) : |o| < usPerDay := h.1 0 ▸ z.offsetAt_lt 0

lemma IsFixed.localWall (h : z.IsFixed o) (t : ℤ) : z.localWall t = Wall.ofMicros (t + o) := by
  rw [Zone.localWall, h.1]

@[simp] lemma IsFixed.toMicros_localWall (h : z.IsFixed o) (t : ℤ) :
    (z.localWall t).toMicros = t + o := by
  rw [h.localWall, Wall.toMicros_ofMicros]

lemma toLocal_eq_some {t : ℤ} {w : Wall} :
    z.toLocal t = some w ↔ z.localWall t = w ∧ w.date.InRange := by
  unfold toLocal
  split_ifs with hr
  · simp only [Option.some.injEq]
    exact ⟨fun h => ⟨h, h ▸ hr⟩, fun h => h.1⟩
  · refine iff_of_false nofun ?_
    rintro ⟨rfl, hw⟩
    exact hr hw

lemma toUtc_eq_some {w : Wall} {t : ℤ} :
    z.toUtc w = some t ↔ t = w.toMicros - z.offsetOf w ∧ (Wall.ofMicros t).date.InRange := by
  unfold toUtc
  split_ifs with hr
  · simp only [Option.some.injEq]
    exact ⟨fun h => ⟨h.symm, h ▸ hr⟩, fun h => h.1.symm⟩
  · refine iff_of_false nofun ?_
    rintro ⟨rfl, hw⟩
    exact hr hw

end Zone

end Gregorian
