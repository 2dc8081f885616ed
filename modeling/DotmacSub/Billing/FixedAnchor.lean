import DotmacSub.Billing.ServicePeriods

/-!
# Fixed-anchor alignment

A fixed-anchor contract declares a day of the month, and the alignment puts the first boundary on
that day in the month of the contract start, or in the month before when the day is still ahead.
The day is clamped to the month it lands in, twice when the alignment steps back, and every later
boundary is measured from the clamped start.

`anchorReach` is what survives of the declared day after the alignment: the length of the shortest
month it was clamped to.  `fixedAnchor_iff` says that a boundary is on the declared day exactly
when the declared day is within reach, or the boundary's own month is no longer than it.
-/

namespace DotmacSub

namespace Cadence

open Gregorian Checked

/-- The declared day of the month of a wall clock is still ahead of it. -/
def AnchorAhead (w : Wall) (d : ℤ) : Prop :=
  w.date.day < min d (monthLength w.date.monthIndex)

instance (w : Wall) (d : ℤ) : Decidable (AnchorAhead w d) := inferInstanceAs (Decidable (_ < _))

def anchorMonth (w : Wall) (d : ℤ) : ℤ :=
  if AnchorAhead w d then w.date.monthIndex - 1 else w.date.monthIndex

/-- The length of the shortest month the declared day is clamped to by the alignment. -/
def anchorReach (w : Wall) (d : ℤ) : ℤ :=
  if AnchorAhead w d then
    min (monthLength w.date.monthIndex) (monthLength (w.date.monthIndex - 1))
  else monthLength w.date.monthIndex

lemma one_le_anchorReach (w : Wall) (d : ℤ) : 1 ≤ anchorReach w d := by
  have h1 := monthLength_bounds w.date.monthIndex
  have h2 := monthLength_bounds (w.date.monthIndex - 1)
  unfold anchorReach
  split_ifs <;> omega

lemma anchorReach_le (w : Wall) (d : ℤ) : anchorReach w d ≤ monthLength (anchorMonth w d) := by
  unfold anchorReach anchorMonth
  split_ifs
  · exact min_le_right _ _
  · exact le_rfl

lemma toMicros_lt_midnight_iff {w : Wall} {e : Date} (h : e.monthIndex = w.date.monthIndex) :
    w.toMicros < (Wall.midnight e).toMicros ↔ w.date.day < e.day := by
  have ht := w.time_mem
  have hw := w.date.toOrdinal_eq
  have he := e.toOrdinal_eq
  rw [h] at he
  simp only [Wall.toMicros, Wall.date_midnight, Wall.time_midnight, usPerDay] at *
  omega

/-- **The aligned wall clock**: midnight of the declared day, as far as it reaches. -/
theorem anchoredStart_spec {w v : Wall} {d : ℤ} (hd : 1 ≤ d)
    (h : anchoredStart w d .clampToMonthEnd = .ok v) :
    v = Wall.midnight (Date.inMonth (anchorMonth w d) (min d (anchorReach w d))
      (le_min hd (one_le_anchorReach w d))) := by
  have hy : w.date.year = w.date.monthIndex / 12 := w.date.monthIndex_div.symm
  have hm : w.date.month = w.date.monthIndex % 12 + 1 := w.date.monthIndex_mod.symm
  unfold anchoredStart at h
  rw [hy, hm, ← monthLength] at h
  simp only [bind_eq_ok, inCalendar_eq_ok, Date.new?_inMonth _ _ hd] at h
  obtain ⟨e, ⟨rfl, -⟩, h⟩ := h
  have hahead : w.toMicros < (Wall.midnight (Date.inMonth w.date.monthIndex d hd)).toMicros ↔
      AnchorAhead w d := by
    rw [toMicros_lt_midnight_iff (Date.monthIndex_inMonth _ _ _), Date.day_inMonth, AnchorAhead]
  by_cases ha : AnchorAhead w d
  · rw [if_pos (hahead.mpr ha)] at h
    obtain ⟨r, hr, h⟩ := bind_eq_ok.mp h
    obtain ⟨rfl, -⟩ := addMonths_clamp_eq_ok.mp hr
    obtain rfl := Except.ok.inj h
    refine Wall.ext (Date.ext_monthIndex ?_ ?_) rfl
    · simp [anchorMonth, ha, sub_eq_add_neg]
    · simp only [Wall.date_combine, Wall.date_midnight, Date.day_inMonth, Date.monthIndex_inMonth,
        anchorMonth, anchorReach, if_pos ha, sub_eq_add_neg]
      omega
  · rw [if_neg (mt hahead.mp ha)] at h
    obtain rfl := Except.ok.inj h
    refine Wall.ext (Date.ext_monthIndex ?_ ?_) rfl
    · simp [anchorMonth, ha]
    · simp only [Wall.date_midnight, Date.day_inMonth, anchorMonth, anchorReach, if_neg ha]
      omega

/-- The aligned start is not after the start, and the next boundary is after it when the declared
day is kept there. -/
lemma start_between (w : Wall) (d : ℤ) (hd : 1 ≤ d) {k : ℤ} (hk : 1 ≤ k)
    (hkept : d ≤ anchorReach w d ∨ monthLength (anchorMonth w d + k * (0 + 1)) ≤ anchorReach w d) :
    (Wall.midnight (Date.inMonth (anchorMonth w d + k * 0) (min d (anchorReach w d))
      (le_min hd (one_le_anchorReach w d)))).toMicros ≤ w.toMicros ∧
    w.toMicros < (Wall.midnight (Date.inMonth (anchorMonth w d + k * (0 + 1))
      (min d (anchorReach w d)) (le_min hd (one_le_anchorReach w d)))).toMicros := by
  by_cases ha : AnchorAhead w d
  · have hM : anchorMonth w d = w.date.monthIndex - 1 := if_pos ha
    refine ⟨(Wall.toMicros_lt_of_monthIndex_lt ?_).le, ?_⟩
    · simp [hM]
    · rcases hk.lt_or_eq with hk1 | rfl
      · refine Wall.toMicros_lt_of_monthIndex_lt ?_
        simp only [Wall.date_midnight, Date.monthIndex_inMonth, hM]
        omega
      · have hnext : anchorMonth w d + 1 * (0 + 1) = w.date.monthIndex := by omega
        rw [toMicros_lt_midnight_iff (by rw [Date.monthIndex_inMonth, hnext]), Date.day_inMonth]
        rw [hnext] at hkept ⊢
        unfold AnchorAhead at ha
        omega
  · have hM : anchorMonth w d = w.date.monthIndex := if_neg ha
    have hreach : anchorReach w d = monthLength w.date.monthIndex := if_neg ha
    refine ⟨not_lt.mp fun hlt => ?_, Wall.toMicros_lt_of_monthIndex_lt ?_⟩
    · rw [toMicros_lt_midnight_iff (by simp [hM]), Date.day_inMonth, hM, hreach] at hlt
      unfold AnchorAhead at ha
      simp only [mul_zero, add_zero] at hlt
      omega
    · simp only [Wall.date_midnight, Date.monthIndex_inMonth, hM]
      omega

section Fixed

variable {c : BillingCadence} {o d : ℤ}

/-- An instant on the declared day of its local month, or on the last day of a shorter month. -/
def OnAnchorDay (zone : Zone) (d : ℤ) (t : ℤ) : Prop :=
  (zone.localWall t).date.day
    = min d (daysInMonth (zone.localWall t).date.year (zone.localWall t).date.month)

instance (zone : Zone) (d t : ℤ) : Decidable (OnAnchorDay zone d t) :=
  inferInstanceAs (Decidable (_ = _))

/-- What a fixed anchor promises of period `i`: both of its boundaries are on the declared day, and
period 0 contains the contract start. -/
def KeepsAnchor (c : BillingCadence) (d contractStart i : ℤ) (p : Interval) : Prop :=
  OnAnchorDay c.zone d p.startsAt ∧ OnAnchorDay c.zone d p.endsAt ∧
    (i = 0 → p.contains contractStart)

instance (c : BillingCadence) (d s i : ℤ) (p : Interval) : Decidable (KeepsAnchor c d s i p) :=
  inferInstanceAs (Decidable (_ ∧ _ ∧ _))

/-- The local wall clock of boundary `n` of a month cadence aligned to a midnight. -/
lemma localWall_boundary (hz : c.zone.IsFixed o) {a M day n : ℤ} (hday : 1 ≤ day)
    (hle : day ≤ monthLength M)
    (ha : Wall.ofMicros (a + o) = Wall.midnight (Date.inMonth M day hday)) :
    c.zone.localWall (boundary o a .month n)
      = Wall.midnight (Date.inMonth (M + n) day hday) := by
  rw [hz.localWall, boundary, sub_add_cancel, Wall.ofMicros_toMicros, ha]
  refine Wall.ext (Date.ext_monthIndex ?_ ?_) rfl
  · simp [shiftedLocal, monthsOf]
  · simp [shiftedLocal, monthsOf, min_eq_left hle]

lemma onAnchorDay_iff {zone : Zone} {t M r : ℤ} (hd : 1 ≤ d) (hr : 1 ≤ r)
    (ht : zone.localWall t = Wall.midnight (Date.inMonth M (min d r) (le_min hd hr))) :
    OnAnchorDay zone d t ↔ d ≤ r ∨ monthLength M ≤ r := by
  rw [OnAnchorDay, ← Date.monthLength_monthIndex, ht, Wall.date_midnight, Date.day_inMonth,
    Date.monthIndex_inMonth]
  omega

/-- **When a fixed anchor is kept.**  Period `i` is on the declared day at both ends, and period 0
contains the contract start, exactly when at each end the declared day is within the reach of the
alignment or the boundary's month is no longer than that reach. -/
theorem fixedAnchor_iff (hz : c.zone.IsFixed o) (hr : c.endOfMonthRule = .clampToMonthEnd)
    (hal : c.alignment = .fixedAnchorDay) (hu : c.serviceIntervalUnit = .month)
    (hd : c.anchorDay = some d) {s i : ℤ} {p : Interval}
    (h : servicePeriod c (.aware s) i = .ok p) :
    KeepsAnchor c d s i p ↔
      ∀ n ∈ [i, i + 1], d ≤ anchorReach (c.zone.localWall s) d ∨
        monthLength (anchorMonth (c.zone.localWall s) d + c.serviceIntervalCount * n)
          ≤ anchorReach (c.zone.localWall s) d := by
  have hk := c.count_pos.1
  have hd1 := (c.anchorDay_mem d hd).1
  obtain ⟨hi, a, ha, hps, hpe⟩ := servicePeriod_spec hz hr h
  -- the aligned start, on the wall clock of the zone
  obtain ⟨v, hv, hva⟩ : ∃ v, anchoredStart (c.zone.localWall s) d .clampToMonthEnd = .ok v ∧
      a = v.toMicros - o := by
    simp only [alignStart, hal, hd, hr, bind_eq_ok, inCalendar_eq_ok, orRefuse_eq_ok,
      Zone.toLocal_eq_some, Zone.toUtc_eq_some, hz.2] at ha
    obtain ⟨w, ⟨rfl, -⟩, d', hd', v, hv, hva, -⟩ := ha
    obtain rfl := Option.some.inj hd'
    exact ⟨v, hv, hva⟩
  have hreach := one_le_anchorReach (c.zone.localWall s) d
  have hle : min d (anchorReach (c.zone.localWall s) d)
      ≤ monthLength (anchorMonth (c.zone.localWall s) d) :=
    (min_le_right _ _).trans (anchorReach_le _ _)
  have hwall : ∀ n, c.zone.localWall (boundary o a .month n)
      = Wall.midnight (Date.inMonth (anchorMonth (c.zone.localWall s) d + n)
          (min d (anchorReach (c.zone.localWall s) d)) (le_min hd1 hreach)) := fun n => by
    refine localWall_boundary hz _ hle ?_
    rw [hva, sub_add_cancel, Wall.ofMicros_toMicros]
    exact anchoredStart_spec hd1 hv
  have hon : ∀ n, OnAnchorDay c.zone d (boundary o a .month n) ↔ _ := fun n =>
    onAnchorDay_iff hd1 hreach (hwall n)
  rw [hu] at hps hpe
  rw [KeepsAnchor, hps, hpe, hon, hon]
  simp only [List.mem_cons, List.not_mem_nil, or_false, forall_eq_or_imp, forall_eq]
  refine ⟨fun ⟨h1, h2, _⟩ => ⟨h1, h2⟩, fun ⟨h1, h2⟩ => ⟨h1, h2, ?_⟩⟩
  rintro rfl
  -- on the wall clock of the zone, the start is between the two midnights
  have hstart := hwall (c.serviceIntervalCount * 0)
  have hend := hwall (c.serviceIntervalCount * (0 + 1))
  rw [hz.localWall] at hstart hend
  have hws := hz.toMicros_localWall s
  have hwa := (congrArg Wall.toMicros hstart).symm
  have hwe := (congrArg Wall.toMicros hend).symm
  rw [Wall.toMicros_ofMicros] at hwa hwe
  have hbounds := start_between (c.zone.localWall s) d hd1 hk h2
  rw [Interval.contains, hps, hpe]
  simp only [mul_zero, zero_add, mul_one, add_zero] at hbounds hwa hwe ⊢
  omega

end Fixed

/-! ## A declared 31st

Started on 31 January the contract keeps its day.  Started on 15 April it is first clamped to
30 March, and the 31sts are gone for good.
-/

def anchoredOn31 : BillingCadence :=
  { monthlyTerms with
    alignment := .fixedAnchorDay
    anchorDay := some 31
    zone := utc
    count_pos := monthly.count_pos
    rateQuantity_pos := monthly.rateQuantity_pos
    anchorDay_mem := by simp
    anchorDay_isSome := by simp }

/-- Starting on the declared day itself, the first month keeps the anchor. -/
theorem fixedAnchor_january :
    ∃ p, servicePeriod anchoredOn31 (.aware (utcMidnight 2026 1 31)) 0 = .ok p ∧
      KeepsAnchor anchoredOn31 31 (utcMidnight 2026 1 31) 0 p :=
  ⟨⟨utcMidnight 2026 1 31, utcMidnight 2026 2 28, by decide⟩, by rfl,
    (fixedAnchor_iff (o := 0) (Zone.fixed_isFixed _ _ _) rfl rfl rfl rfl (by rfl)).mpr (by decide)⟩

/-- **The anchor is lost.**  A contract declared on the 31st that starts on 15 April has its first
boundary on 30 March, a month with a 31st. -/
theorem fixedAnchor_lost :
    ∃ p, servicePeriod anchoredOn31 (.aware (utcMidnight 2026 4 15)) 0 = .ok p ∧
      p.startsAt = utcMidnight 2026 3 30 ∧
      ¬ KeepsAnchor anchoredOn31 31 (utcMidnight 2026 4 15) 0 p :=
  ⟨⟨utcMidnight 2026 3 30, utcMidnight 2026 4 30, by decide⟩, by rfl, by rfl, by decide⟩

end Cadence

end DotmacSub
