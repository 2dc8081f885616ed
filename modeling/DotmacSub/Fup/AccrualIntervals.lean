import DotmacSub.Core.Datetime
import DotmacSub.Models.Fup

/-!
# The time that a usage window counts

`fup_window_bounds` and `accrual_intervals` of `services/fup_usage.py`.  An overflow of the calendar
is `none`; of a wall clock that a zone shows twice the first occurrence is meant.
-/

namespace DotmacSub.Fup

open Gregorian

/-- A time of day, in microseconds after midnight. -/
structure DayTime where
  micros : ℤ
  mem : 0 ≤ micros ∧ micros < usPerDay

/-- What a window is named after: its day, its ISO week or its month. -/
inductive PeriodKey
  | day (date : Date)
  | week (year week : ℤ)
  | month (year month : ℤ)
deriving DecidableEq

/-- An aligned window from `start` to `stop`. -/
structure FupWindow where
  period : FupConsumptionPeriod
  start : ℤ
  stop : ℤ
  periodKey : PeriodKey
  timezone : String
deriving DecidableEq

/-- The period of a member or of a name; U+212A is lowered to a letter of a name. -/
def periodValue : Option (FupConsumptionPeriod ⊕ String) → FupConsumptionPeriod
  | some (.inl period) => period
  | some (.inr name) =>
    let lowered := name.map fun c => if c.toNat = 0x212A then 'k' else c.toLower
    if lowered = "daily" then .daily else if lowered = "weekly" then .weekly else .monthly
  | none => .monthly

lemma utcOffset_lt : |(0 : ℤ)| < usPerDay := by decide

def utc : Zone := .fixed "UTC" 0 utcOffset_lt

/-- The ISO week of a date is a week of the year of its Thursday. -/
def isoWeek (d : Date) : PeriodKey :=
  let thursday := Date.ofOrdinal (d.toOrdinal - d.weekday + 3)
  .week thursday.year ((thursday.toOrdinal - daysBeforeYear thursday.year - 1) / 7 + 1)

/-- The window around a moment, which is read in UTC if it has no zone. -/
def fupWindowBounds (period : Option (FupConsumptionPeriod ⊕ String)) (now : Wall ⊕ ℤ)
    (tz : Option Zone) : Option FupWindow :=
  let now := now.elim Wall.toMicros id
  let localTz := tz.getD utc
  match periodValue period with
  | .daily => do
    let here ← localTz.toLocal now
    let dayStart := Wall.midnight here.date
    let start ← localTz.toUtc dayStart
    let stop ← localTz.toUtc (← dayStart.addDays 1)
    return ⟨.daily, start, stop, .day dayStart.date, localTz.name⟩
  | .weekly => do
    let here ← localTz.toLocal now
    let weekStart ← (Wall.midnight here.date).addDays (-here.date.weekday)
    let start ← localTz.toUtc weekStart
    let stop ← localTz.toUtc (← weekStart.addDays 7)
    return ⟨.weekly, start, stop, isoWeek weekStart.date, localTz.name⟩
  | .monthly => do
    let u ← utc.toLocal now
    let first ← Date.new? u.date.year u.date.month 1
    let next ← if u.date.month = 12 then Date.new? (u.date.year + 1) 1 1
      else Date.new? u.date.year (u.date.month + 1) 1
    return ⟨.monthly, (Wall.midnight first).toMicros, (Wall.midnight next).toMicros,
      .month first.year first.month, "UTC"⟩

def at_ (tz : Zone) (day : Date) (time : DayTime) : Option ℤ := tz.toUtc ⟨day, time.micros, time.mem⟩

def gaps (dayEnd : ℤ) : List (ℤ × ℤ) → ℤ → List (ℤ × ℤ)
  | [], cursor => if cursor < dayEnd then [(cursor, dayEnd)] else []
  | (start, stop) :: spans, cursor =>
    (if cursor < start then [(cursor, start)] else []) ++ gaps dayEnd spans (max cursor stop)

def complement (spans : List (ℤ × ℤ)) (dayStart dayEnd : ℤ) : List (ℤ × ℤ) :=
  gaps dayEnd (spans.insertionSort fun a b => a.1 < b.1 ∨ a.1 = b.1 ∧ a.2 ≤ b.2) dayStart

/-- What counts on one day: one span, or two if the times go around midnight. -/
def counted (tz : Zone) (acctStart acctEnd : DayTime) (inverse : Bool) (day nextDay : Wall) :
    Option (List (ℤ × ℤ)) := do
  let spans ← if acctStart.micros ≤ acctEnd.micros then do
      pure [(← at_ tz day.date acctStart, ← at_ tz day.date acctEnd)]
    else do
      pure [(← tz.toUtc day, ← at_ tz day.date acctEnd),
        (← at_ tz day.date acctStart, ← tz.toUtc nextDay)]
  if inverse then do pure (complement spans (← tz.toUtc day) (← tz.toUtc nextDay)) else pure spans

def FupWindow.clip (window : FupWindow) (span : ℤ × ℤ) : Option (ℤ × ℤ) :=
  let clipped := (max span.1 window.start, min span.2 window.stop)
  if clipped.1 < clipped.2 then some clipped else none

def accrualDays (window : FupWindow) (tz : Zone) (acctStart acctEnd : DayTime) (inverse : Bool)
    (localEnd day : Wall) : Option (List (ℤ × ℤ)) :=
  if day.toMicros < localEnd.toMicros then
    match _hnext : day.addDays 1 with
    | none => none
    | some nextDay => do
      let spans ← counted tz acctStart acctEnd inverse day nextDay
      return spans.filterMap window.clip ++
        (← accrualDays window tz acctStart acctEnd inverse localEnd nextDay)
  else some []
termination_by (localEnd.toMicros - day.toMicros).toNat
decreasing_by
  have hday : nextDay.toMicros = day.toMicros + 1 * usPerDay := (Wall.addDays_eq_some.mp _hnext).1
  rw [usPerDay] at hday
  omega

/-- The spans of the window whose traffic counts; all of it if no accounting times are set. -/
def accrualIntervals (window : FupWindow) (tz : Zone) (acctStart acctEnd : Option DayTime)
    (inverse : Bool := false) : Option (List (ℤ × ℤ)) :=
  match acctStart, acctEnd with
  | some acctStart, some acctEnd => do
    let localStart ← tz.toLocal window.start
    let localEnd ← tz.toLocal window.stop
    accrualDays window tz acctStart acctEnd inverse localEnd (.midnight localStart.date)
  | _, _ => some [(window.start, window.stop)]

/-- The spans follow each other inside the range and hold its instants that have the property. -/
structure Exact (spans : List (ℤ × ℤ)) (lo hi : ℤ) (p : ℤ → Prop) : Prop where
  inside : ∀ s ∈ spans, lo ≤ s.1 ∧ s.1 ≤ s.2 ∧ s.2 ≤ hi
  sorted : spans.Pairwise fun s r => s.2 ≤ r.1
  mem : ∀ t, lo ≤ t → t < hi → ((∃ s ∈ spans, s.1 ≤ t ∧ t < s.2) ↔ p t)

section Spans

variable {l m : List (ℤ × ℤ)} {a b c : ℤ} {p : ℤ → Prop}

lemma Exact.append (hl : Exact l a b p) (hm : Exact m b c p) (hab : a ≤ b) (hbc : b ≤ c) :
    Exact (l ++ m) a c p where
  inside s hs := by
    rcases List.mem_append.mp hs with hs | hs
    · have := hl.inside s hs
      omega
    · have := hm.inside s hs
      omega
  sorted := by
    refine List.pairwise_append.mpr ⟨hl.sorted, hm.sorted, fun s hs r hr => ?_⟩
    have := hl.inside s hs
    have := hm.inside r hr
    omega
  mem t hat htc := by
    simp only [List.mem_append, or_and_right, exists_or]
    by_cases htb : t < b
    · rw [← hl.mem t hat htb, or_iff_left]
      rintro ⟨s, hs, hst, -⟩
      have := hm.inside s hs
      omega
    · rw [← hm.mem t (by omega) htc, or_iff_right]
      rintro ⟨s, hs, -, hst⟩
      have := hl.inside s hs
      omega

/-- A span without instants can be left out. -/
lemma Exact.filter (h : Exact l a b p) : Exact (l.filter fun s => s.1 < s.2) a b p where
  inside s hs := h.inside s (List.mem_of_mem_filter hs)
  sorted := h.sorted.filter _
  mem t hat htb := by
    rw [← h.mem t hat htb]
    constructor
    · rintro ⟨s, hs, hst⟩
      exact ⟨s, List.mem_of_mem_filter hs, hst⟩
    · rintro ⟨s, hs, hst⟩
      exact ⟨s, List.mem_filter.mpr ⟨hs, by simp; omega⟩, hst⟩

lemma Exact.gaps : ∀ {l : List (ℤ × ℤ)} {a : ℤ}, Exact l a b p → a ≤ b →
    Exact (gaps b l a) a b fun t => ¬ p t
  | [], a, h, hab => by
    have hnone : ∀ t, a ≤ t → t < b → ¬ p t := fun t hat htb hp => by
      obtain ⟨s, hs, -⟩ := (h.mem t hat htb).mpr hp
      cases hs
    rw [Fup.gaps]
    split_ifs with hlt
    · refine ⟨by simp; omega, by simp, fun t hat htb => ?_⟩
      simp [hnone t hat htb, hat, htb]
    · exact ⟨by simp, .nil, fun t hat htb => absurd htb (by omega)⟩
  | (s, r) :: l, a, h, hab => by
    obtain ⟨has, hsr, hrb⟩ := h.inside (s, r) List.mem_cons_self
    obtain ⟨hfirst, hsorted⟩ := List.pairwise_cons.mp h.sorted
    dsimp only at has hsr hrb hfirst
    have hrest : Exact l r b p := by
      refine ⟨fun x hx => ?_, hsorted, fun t hrt htb => ?_⟩
      · have := h.inside x (List.mem_cons_of_mem _ hx)
        have := hfirst x hx
        omega
      · rw [← h.mem t (by omega) htb]
        simp only [List.mem_cons, exists_eq_or_imp]
        exact (or_iff_right (by omega)).symm
    have hgap : Exact (if a < s then [(a, s)] else []) a r fun t => ¬ p t := by
      have hbefore : ∀ t, a ≤ t → t < r → (¬ p t ↔ t < s) := by
        intro t hat htr
        rw [← h.mem t hat (by omega)]
        constructor
        · intro hnone
          by_contra hst
          exact hnone ⟨(s, r), List.mem_cons_self, by dsimp only; omega⟩
        · rintro hts ⟨x, hx, hxt, -⟩
          rcases List.mem_cons.mp hx with rfl | hx
          · dsimp only at hxt
            omega
          · have := hfirst x hx
            omega
      split_ifs with hlt
      · refine ⟨by simp; omega, by simp, fun t hat htr => ?_⟩
        rw [hbefore t hat htr]
        simp [hat]
      · refine ⟨by simp, .nil, fun t hat htr => ?_⟩
        rw [hbefore t hat htr]
        simp
        omega
    rw [Fup.gaps, max_eq_right (by omega)]
    exact hgap.append (Exact.gaps hrest hrb) (by omega) hrb

end Spans

/-- The time of day counts: it is between the times, which are taken around midnight if they
cross it. -/
def Counts (acctStart acctEnd : DayTime) (inverse : Bool) (time : ℤ) : Prop :=
  let between := if acctStart.micros ≤ acctEnd.micros
    then acctStart.micros ≤ time ∧ time < acctEnd.micros
    else acctStart.micros ≤ time ∨ time < acctEnd.micros
  if inverse then ¬ between else between

def daySpans (acctStart acctEnd : DayTime) (inverse : Bool) (start : ℤ) : List (ℤ × ℤ) :=
  let spans := if acctStart.micros ≤ acctEnd.micros
    then [(start + acctStart.micros, start + acctEnd.micros)]
    else [(start, start + acctEnd.micros), (start + acctStart.micros, start + usPerDay)]
  if inverse then complement spans start (start + usPerDay) else spans

/-- The spans of days that follow each other; a span without instants is left out. -/
def spansOfDays (acctStart acctEnd : DayTime) (inverse : Bool) (start : ℤ) (n : ℕ) : List (ℤ × ℤ) :=
  (List.range n).flatMap fun i : ℕ =>
    (daySpans acctStart acctEnd inverse (start + i * usPerDay)).filter fun s => s.1 < s.2

section Day

variable (acctStart acctEnd : DayTime) (inverse : Bool) (start : ℤ)

lemma exact_daySpans : Exact (daySpans acctStart acctEnd inverse start) start (start + usPerDay)
    fun t => Counts acctStart acctEnd inverse (t - start) := by
  obtain ⟨s, hs⟩ := acctStart
  obtain ⟨e, he⟩ := acctEnd
  -- the spans before they are inverted; they are sorted already
  set spans := if s ≤ e then [(start + s, start + e)]
    else [(start, start + e), (start + s, start + usPerDay)] with hspans
  have hexact : Exact spans start (start + usPerDay) fun t =>
      if s ≤ e then s ≤ t - start ∧ t - start < e else s ≤ t - start ∨ t - start < e := by
    rw [hspans]
    split_ifs with hse
    · refine ⟨by simp; omega, by simp, fun t ht ht' => ?_⟩
      simp
      omega
    · refine ⟨by simp; omega, by simp; omega, fun t ht ht' => ?_⟩
      simp
      omega
  cases inverse with
  | false => simpa only [Counts, daySpans, Bool.false_eq_true, if_false, ← hspans] using hexact
  | true =>
    have hsorted : spans.insertionSort (fun a b => a.1 < b.1 ∨ a.1 = b.1 ∧ a.2 ≤ b.2) = spans := by
      rw [hspans]
      split_ifs with hse
      · simp
      · simp [List.insertionSort, List.orderedInsert]
        omega
    have hgaps := hexact.gaps (by omega)
    simpa only [Counts, daySpans, complement, if_true, ← hspans, hsorted] using hgaps

lemma nonempty_spansOfDays (n : ℕ) :
    ∀ s ∈ spansOfDays acctStart acctEnd inverse start n, s.1 < s.2 := by
  intro s hs
  obtain ⟨i, -, hs⟩ := List.mem_flatMap.mp hs
  exact of_decide_eq_true (List.mem_filter.mp hs).2

lemma exact_spansOfDays (n : ℕ) :
    Exact (spansOfDays acctStart acctEnd inverse start n) start (start + n * usPerDay) fun t =>
      Counts acctStart acctEnd inverse ((t - start) % usPerDay) := by
  induction n with
  | zero => exact ⟨by simp [spansOfDays], by simp [spansOfDays], fun t ht ht' => absurd ht' (by simpa)⟩
  | succ n ih =>
    have hday : (0 : ℤ) ≤ usPerDay := by decide
    have hn : 0 ≤ n * usPerDay := mul_nonneg (by omega) hday
    have hlast := (exact_daySpans acctStart acctEnd inverse (start + n * usPerDay)).filter
    have hend : start + (n + 1 : ℕ) * usPerDay = start + n * usPerDay + usPerDay := by
      push_cast
      ring
    rw [spansOfDays, List.range_succ, List.flatMap_append, List.flatMap_singleton, hend]
    refine ih.append ⟨hlast.inside, hlast.sorted, fun t ht ht' => ?_⟩ (by omega) (by omega)
    rw [hlast.mem t ht ht']
    have htime : (t - start) % usPerDay = t - (start + n * usPerDay) := by
      rw [show t - start = t - (start + n * usPerDay) + n * usPerDay by ring,
        Int.add_mul_emod_self_right, Int.emod_eq_of_lt (by omega) (by omega)]
    rw [htime]

end Day

section Windows

variable {tz : Zone} {o : ℤ} {window : FupWindow} {day : Wall} {n : ℕ} (acctStart acctEnd : DayTime)
  (inverse : Bool)

/-- A wall clock of a fixed zone as an instant of the calendar. -/
lemma toUtc_of_mem (h : tz.IsFixed o) {w : Wall} (hlo : usPerDay ≤ w.toMicros - o)
    (hhi : w.toMicros - o < (maxOrdinal + 1) * usPerDay) : tz.toUtc w = some (w.toMicros - o) := by
  refine Zone.toUtc_eq_some.mpr ⟨by rw [h.2], ?_⟩
  rw [Wall.inRange_iff, Wall.toMicros_ofMicros]
  exact ⟨hlo, hhi⟩

lemma counted_eq (h : tz.IsFixed o) {nextDay : Wall} (hday : day.time = 0)
    (hnext : nextDay.toMicros = day.toMicros + usPerDay) (hlo : usPerDay ≤ day.toMicros - o)
    (hhi : nextDay.toMicros - o < (maxOrdinal + 1) * usPerDay) :
    counted tz acctStart acctEnd inverse day nextDay =
      some (daySpans acctStart acctEnd inverse (day.toMicros - o)) := by
  have hat : ∀ time : DayTime, at_ tz day.date time = some (day.toMicros - o + time.micros) := by
    intro time
    have htime := time.mem
    have hmicros : Wall.toMicros ⟨day.date, time.micros, time.mem⟩ = day.toMicros + time.micros := by
      simp only [Wall.toMicros, hday, add_zero]
    rw [at_, toUtc_of_mem h (by omega) (by omega), hmicros]
    congr 1
    ring
  have hstop : nextDay.toMicros - o = day.toMicros - o + usPerDay := by omega
  have hpos : (0 : ℤ) < usPerDay := by decide
  rw [counted, daySpans, hat, hat, toUtc_of_mem h hlo (by omega), toUtc_of_mem h (by omega) hhi, hstop]
  split_ifs <;> rfl

lemma time_of_addDays {w v : Wall} {k : ℤ} (h : w.addDays k = some v) : v.time = w.time := by
  rw [← Wall.toMicros_mod, (Wall.addDays_eq_some.mp h).1, Int.add_mul_emod_self_right,
    Wall.toMicros_mod]

/-- Clipping keeps the spans of a day inside the window, but for those without instants. -/
lemma filterMap_clip {l : List (ℤ × ℤ)} {a b : ℤ} {p : ℤ → Prop} (h : Exact l a b p)
    (hlo : window.start ≤ a) (hhi : b ≤ window.stop) :
    l.filterMap window.clip = l.filter fun s => s.1 < s.2 := by
  rw [← List.filterMap_eq_filter]
  refine List.filterMap_congr fun s hs => ?_
  have := h.inside s hs
  rw [FupWindow.clip, max_eq_left (by omega), min_eq_left (by omega)]
  simp [Option.guard]

/-- The window lasts `n` local days of the calendar, from midnight on. -/
structure Aligned (o : ℤ) (window : FupWindow) (day : Wall) (n : ℕ) : Prop where
  midnight : day.time = 0
  start : window.start = day.toMicros - o
  stop : window.stop = window.start + n * usPerDay
  first : usPerDay ≤ day.toMicros ∧ usPerDay ≤ window.start
  last : day.toMicros + n * usPerDay < (maxOrdinal + 1) * usPerDay ∧
    window.stop < (maxOrdinal + 1) * usPerDay

/-- What the loop still collects when `n` days of the window are left. -/
lemma accrualDays_eq (h : tz.IsFixed o) {localEnd : Wall}
    (hend : localEnd.toMicros < (maxOrdinal + 1) * usPerDay)
    (hstop : localEnd.toMicros = window.stop + o) (hmax : window.stop < (maxOrdinal + 1) * usPerDay) :
    ∀ (n : ℕ) (day : Wall), day.time = 0 → localEnd.toMicros = day.toMicros + n * usPerDay →
      usPerDay ≤ day.toMicros → usPerDay ≤ day.toMicros - o → window.start ≤ day.toMicros - o →
      accrualDays window tz acctStart acctEnd inverse localEnd day =
        some (spansOfDays acctStart acctEnd inverse (day.toMicros - o) n) := by
  have hpos : (0 : ℤ) < usPerDay := by decide
  intro n
  induction n with
  | zero =>
    intro day hday hleft hlo hlo' hstart
    rw [accrualDays, if_neg (by simp at hleft; omega)]
    rfl
  | succ n ih =>
    intro day hday hleft hlo hlo' hstart
    have hn : 0 ≤ (n : ℤ) * usPerDay := mul_nonneg (by omega) hpos.le
    have hleft' : localEnd.toMicros = day.toMicros + usPerDay + n * usPerDay := by
      rw [hleft]
      push_cast
      ring
    rw [accrualDays, if_pos (by omega)]
    split
    next hnext =>
      -- the next day is not after the end of the window, and so in the calendar
      have hsome : day.addDays 1 = some (Wall.ofMicros (day.toMicros + 1 * usPerDay)) := by
        rw [Wall.addDays_eq_some, Wall.inRange_iff, Wall.toMicros_ofMicros]
        omega
      rw [hnext] at hsome
      cases hsome
    next nextDay hnext =>
      have htime : nextDay.time = 0 := (time_of_addDays hnext).trans hday
      obtain ⟨hnext, -⟩ := Wall.addDays_eq_some.mp hnext
      rw [one_mul] at hnext
      rw [counted_eq acctStart acctEnd inverse h hday hnext hlo' (by omega),
        ih nextDay htime (by omega) (by omega) (by omega) (by omega)]
      have hclip : (daySpans acctStart acctEnd inverse (day.toMicros - o)).filterMap window.clip =
          _ := filterMap_clip (exact_daySpans acctStart acctEnd inverse _) hstart (by omega)
      have hshift : ∀ i : ℕ, nextDay.toMicros - o + i * usPerDay =
          day.toMicros - o + (i + 1 : ℕ) * usPerDay := by
        intro i
        rw [hnext]
        push_cast
        ring
      simp only [Option.bind_eq_bind, Option.bind_some, Option.pure_def, hclip, spansOfDays,
        hshift, List.range_succ_eq_map, List.flatMap_cons, List.flatMap_map, Nat.cast_zero,
        zero_mul, add_zero]

lemma Aligned.accrualIntervals_eq (h : tz.IsFixed o) (hw : Aligned o window day n) :
    accrualIntervals window tz (some acctStart) (some acctEnd) inverse =
      some (spansOfDays acctStart acctEnd inverse window.start n) := by
  obtain ⟨hmidnight, hstart, hstop, ⟨hlo, hlo'⟩, hhi, hhi'⟩ := hw
  have hpos : 0 ≤ n * usPerDay := mul_nonneg (by omega) (by decide)
  have hfirst : tz.toLocal window.start = some day := by
    rw [Zone.toLocal_eq_some, h.localWall, hstart, sub_add_cancel, Wall.ofMicros_toMicros,
      Wall.inRange_iff]
    exact ⟨rfl, by omega⟩
  have hlast : tz.toLocal window.stop = some (Wall.ofMicros (window.stop + o)) := by
    rw [Zone.toLocal_eq_some, h.localWall, Wall.inRange_iff, Wall.toMicros_ofMicros]
    exact ⟨rfl, by omega⟩
  have hday : Wall.midnight day.date = day := Wall.ext rfl hmidnight.symm
  have hend : (Wall.ofMicros (window.stop + o)).toMicros = window.stop + o :=
    Wall.toMicros_ofMicros _
  simp only [accrualIntervals, hfirst, hlast, Option.bind_eq_bind, Option.bind_some, hday]
  rw [hstart, accrualDays_eq acctStart acctEnd inverse h (by omega) hend hhi' n day hmidnight
    (by omega) hlo (by omega) (by omega)]

lemma Aligned.time_localWall (h : tz.IsFixed o) (hw : Aligned o window day n) (t : ℤ) :
    (tz.localWall t).time = (t - window.start) % usPerDay := by
  have hday := day.toMicros_mod
  rw [hw.midnight] at hday
  have ht : t + o = t - window.start + day.toMicros := by
    have := hw.start
    omega
  rw [← Wall.toMicros_mod, h.toMicros_localWall, ht, Int.add_emod, hday, add_zero, Int.emod_emod]

lemma aligned_of_toUtc (h : tz.IsFixed o) {v : Wall} (hday : day.time = 0)
    (hrange : day.date.InRange) (hstart : tz.toUtc day = some window.start)
    (hnext : day.addDays n = some v) (hstop : tz.toUtc v = some window.stop) :
    Aligned o window day n := by
  obtain ⟨hstart, hfirst⟩ := Zone.toUtc_eq_some.mp hstart
  obtain ⟨hnext, hlast⟩ := Wall.addDays_eq_some.mp hnext
  obtain ⟨hstop, hlast'⟩ := Zone.toUtc_eq_some.mp hstop
  rw [h.2] at hstart hstop
  rw [Wall.inRange_iff] at hrange hfirst hlast hlast'
  rw [Wall.toMicros_ofMicros] at hfirst hlast'
  exact ⟨hday, hstart, by omega, ⟨hrange.1, hfirst.1⟩, by omega, hlast'.2⟩

lemma aligned_of_fupWindowBounds (h : tz.IsFixed o) {period : Option (FupConsumptionPeriod ⊕ String)}
    {now : Wall ⊕ ℤ} (hperiod : periodValue period ≠ .monthly)
    (hwindow : fupWindowBounds period now (some tz) = some window) :
    ∃ day, Aligned o window day (if periodValue period = .weekly then 7 else 1) := by
  rw [fupWindowBounds] at hwindow
  cases hvalue : periodValue period with
  | monthly => exact absurd hvalue hperiod
  | daily =>
    simp only [hvalue, Option.bind_eq_bind, Option.bind_eq_some_iff, Option.pure_def,
      Option.some.injEq, Option.getD_some] at hwindow
    obtain ⟨here, hhere, start, hstart, next, hnext, stop, hstop, rfl⟩ := hwindow
    exact ⟨.midnight here.date, aligned_of_toUtc h rfl (Zone.toLocal_eq_some.mp hhere).2 hstart hnext hstop⟩
  | weekly =>
    simp only [hvalue, Option.bind_eq_bind, Option.bind_eq_some_iff, Option.pure_def,
      Option.some.injEq, Option.getD_some] at hwindow
    obtain ⟨here, hhere, first, hfirst, start, hstart, next, hnext, stop, hstop, rfl⟩ := hwindow
    exact ⟨_, aligned_of_toUtc h (time_of_addDays hfirst) (Wall.addDays_eq_some.mp hfirst).2 hstart
      hnext hstop⟩

lemma Aligned.fupWindowBounds_daily (h : tz.IsFixed o) (hw : Aligned o window day n) {k : ℕ}
    (hk : k < n) :
    ∃ daily here, fupWindowBounds (some (.inl .daily)) (.inr (window.start + k * usPerDay))
      (some tz) = some daily ∧ daily.start = window.start + k * usPerDay ∧ Aligned o daily here 1 := by
  obtain ⟨hmidnight, hstart, hstop, ⟨hlo, hlo'⟩, hhi, hhi'⟩ := hw
  have hpos : (0 : ℤ) ≤ usPerDay := by decide
  have hk0 : 0 ≤ k * usPerDay := mul_nonneg (by omega) hpos
  have hkn : (k * usPerDay) + usPerDay ≤ n * usPerDay := by
    have := mul_le_mul_of_nonneg_right (show (k : ℤ) + 1 ≤ n by omega) hpos
    rwa [add_mul, one_mul] at this
  set here := Wall.ofMicros (day.toMicros + k * usPerDay) with hheredef
  have hmicros : here.toMicros = day.toMicros + k * usPerDay := Wall.toMicros_ofMicros _
  have hrange : here.date.InRange := by
    rw [Wall.inRange_iff, hmicros]
    omega
  have htime : here.time = 0 := by
    rw [← Wall.toMicros_mod, hmicros, Int.add_mul_emod_self_right, Wall.toMicros_mod, hmidnight]
  have hhere : tz.toLocal (window.start + k * usPerDay) = some here := by
    rw [Zone.toLocal_eq_some, h.localWall, hstart]
    exact ⟨by rw [hheredef]; congr 1; ring, hrange⟩
  have hmid : Wall.midnight here.date = here := Wall.ext rfl htime.symm
  have hutc := toUtc_of_mem h (show usPerDay ≤ here.toMicros - o by omega) (by omega)
  have hnext : here.addDays 1 = some (Wall.ofMicros (here.toMicros + 1 * usPerDay)) := by
    rw [Wall.addDays_eq_some, Wall.inRange_iff, Wall.toMicros_ofMicros]
    omega
  have hnextUtc : tz.toUtc (Wall.ofMicros (here.toMicros + 1 * usPerDay)) =
      some (here.toMicros + 1 * usPerDay - o) := by
    rw [toUtc_of_mem h] <;> rw [Wall.toMicros_ofMicros] <;> omega
  refine ⟨⟨.daily, here.toMicros - o, here.toMicros + 1 * usPerDay - o, .day here.date, tz.name⟩,
    here, ?_, by dsimp only; omega, aligned_of_toUtc h htime hrange hutc hnext hnextUtc⟩
  simp only [fupWindowBounds, periodValue, Sum.elim_inr, id, Option.getD_some, hhere, hmid, hutc,
    hnext, hnextUtc, Option.bind_eq_bind, Option.bind_some, Option.pure_def]

end Windows

/-- **Accrual intervals are exactly the counted time.**  In a fixed zone every daily and weekly window
gets its spans: they hold instants, follow each other inside the window and hold those whose time of
day counts.  What counts and its inverse share the window out, and a week counts what its days do. -/
theorem accrualIntervals_exact {tz : Zone} {o : ℤ} (hfixed : tz.IsFixed o)
    {period : Option (FupConsumptionPeriod ⊕ String)} (hperiod : periodValue period ≠ .monthly)
    {now : Wall ⊕ ℤ} {window : FupWindow}
    (hwindow : fupWindowBounds period now (some tz) = some window) (acctStart acctEnd : DayTime) :
    ∃ spans : Bool → List (ℤ × ℤ),
      (∀ inverse,
        accrualIntervals window tz (some acctStart) (some acctEnd) inverse = some (spans inverse) ∧
        (∀ s ∈ spans inverse, s.1 < s.2) ∧
        Exact (spans inverse) window.start window.stop fun t =>
          Counts acctStart acctEnd inverse (tz.localWall t).time) ∧
      (∀ t, window.start ≤ t → t < window.stop →
        Xor (∃ s ∈ spans false, s.1 ≤ t ∧ t < s.2) (∃ s ∈ spans true, s.1 ≤ t ∧ t < s.2)) ∧
      (periodValue period = .weekly → ∃ (daily : ℕ → FupWindow)
        (daySpans : Bool → ℕ → List (ℤ × ℤ)),
        (∀ i : ℕ, i < 7 → fupWindowBounds (some (.inl .daily)) (.inr (window.start + i * usPerDay))
            (some tz) = some (daily i) ∧
          ∀ inverse, accrualIntervals (daily i) tz (some acctStart) (some acctEnd) inverse =
            some (daySpans inverse i)) ∧
        ∀ inverse, spans inverse = (List.range 7).flatMap (daySpans inverse)) := by
  obtain ⟨day, hw⟩ := aligned_of_fupWindowBounds hfixed hperiod hwindow
  set n := if periodValue period = .weekly then 7 else 1 with hn
  have hexact : ∀ inverse, Exact (spansOfDays acctStart acctEnd inverse window.start n) window.start
      window.stop fun t => Counts acctStart acctEnd inverse (tz.localWall t).time := by
    intro inverse
    simp only [hw.time_localWall hfixed, hw.stop]
    exact exact_spansOfDays acctStart acctEnd inverse window.start n
  refine ⟨fun inverse => spansOfDays acctStart acctEnd inverse window.start n, fun inverse =>
    ⟨hw.accrualIntervals_eq acctStart acctEnd inverse hfixed,
      nonempty_spansOfDays acctStart acctEnd inverse window.start n, hexact inverse⟩,
    fun t ht ht' => ?_, fun hweekly => ?_⟩
  · rw [(hexact false).mem t ht ht', (hexact true).mem t ht ht']
    simp only [Counts, Bool.false_eq_true, if_false, if_true]
    exact (xor_not_right).mpr Iff.rfl
  · rw [if_pos hweekly] at hn
    rw [hn] at hw ⊢
    have : Nonempty FupWindow := ⟨window⟩
    have : Nonempty Wall := ⟨day⟩
    choose! daily here hdaily using fun i hi => hw.fupWindowBounds_daily hfixed (k := i) hi
    refine ⟨daily, fun inverse i => (daySpans acctStart acctEnd inverse
      (window.start + i * usPerDay)).filter fun s => s.1 < s.2, fun i hi => ⟨(hdaily i hi).1,
        fun inverse => ?_⟩, fun inverse => rfl⟩
    obtain ⟨-, hstart, haligned⟩ := hdaily i hi
    rw [haligned.accrualIntervals_eq acctStart acctEnd inverse hfixed, hstart]
    simp [spansOfDays]

lemma lagosOffset_lt : |(3600000000 : ℤ)| < usPerDay := by decide

/-- The week from Monday, 22 June 2026, with free nights from 22:00 to 5:00. -/
theorem accrualIntervals_freeNights : ∃ window,
    fupWindowBounds (some (.inr "Weekly")) (.inr 63917798400000000)
      (some (.fixed "Africa/Lagos" 3600000000 lagosOffset_lt)) = some window ∧
    ∃ spans, accrualIntervals window (.fixed "Africa/Lagos" 3600000000 lagosOffset_lt)
      (some ⟨79200000000, by decide⟩) (some ⟨18000000000, by decide⟩) true = some spans ∧
      ∀ s ∈ spans, s.1 < s.2 := by
  have hsome : (fupWindowBounds (some (.inr "Weekly")) (.inr 63917798400000000)
    (some (.fixed "Africa/Lagos" 3600000000 lagosOffset_lt))).isSome = true := by decide +kernel
  obtain ⟨window, hwindow⟩ := Option.isSome_iff_exists.mp hsome
  obtain ⟨spans, hspans, -⟩ := accrualIntervals_exact (Zone.fixed_isFixed _ _ lagosOffset_lt)
    (by decide +kernel) hwindow ⟨79200000000, by decide⟩ ⟨18000000000, by decide⟩
  exact ⟨window, hwindow, _, (hspans true).1, (hspans true).2.1⟩

end DotmacSub.Fup
