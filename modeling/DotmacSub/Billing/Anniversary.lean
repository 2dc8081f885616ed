import DotmacSub.Billing.ServicePeriods

/-!
# Re-anchoring a monthly anniversary

A contract version that starts on a boundary of its predecessor measures its own periods from that
boundary.  Nothing is lost when the boundary, read back on the wall clock of the zone, shows the
day and the time of day of the original start (`ReadsBack`): the periods of the new version are
then the remaining periods of the old one (`servicePeriod_readsBack`).  A boundary clamped to a
short month, or moved by a change of offset, does not read back.

The zone is arbitrary here.  All that is used of it is that an offset is shorter than a day, which
is far less than the distance between two month boundaries.
-/

namespace DotmacSub

namespace Cadence

open Gregorian Checked

/-! ## Month boundaries in an arbitrary zone -/

lemma shiftedLocal_month_gap (w : Wall) {m n : ℤ} (h : m < n) :
    (shiftedLocal w .month m).toMicros + 28 * usPerDay ≤ (shiftedLocal w .month n).toMicros := by
  have hlen := monthBase_add_monthLength_le
    (show w.date.monthIndex + m * 1 < w.date.monthIndex + n * 1 by omega)
  have hm := monthLength_bounds (w.date.monthIndex + m * 1)
  have hn := monthLength_bounds (w.date.monthIndex + n * 1)
  simp only [shiftedLocal, monthsOf, reduceCtorEq, if_false, Wall.toMicros, Wall.date_combine,
    Wall.time_combine, Date.toOrdinal_eq, Date.monthIndex_inMonth, Date.day_inMonth, usPerDay]
  omega

variable {p : Interval} {w : Wall} {s i : ℤ} {z : Zone}

lemma shiftedLocal_month_add {m : ℤ} (h : w.date.day ≤ monthLength (w.date.monthIndex + m))
    (n : ℤ) : shiftedLocal (shiftedLocal w .month m) .month n = shiftedLocal w .month (m + n) := by
  refine Wall.ext (Date.ext_monthIndex ?_ ?_) rfl
  · simp [shiftedLocal, monthsOf, add_assoc]
  · simp [shiftedLocal, monthsOf, add_assoc, min_eq_left h]

variable {c : BillingCadence}

/-- The boundary `n` months after a wall clock, computed in the zone of the cadence. -/
def monthBoundary (z : Zone) (w : Wall) (n : ℤ) : Except CadenceError ℤ :=
  if (shiftedLocal w .month n).date.InRange then inCalendar (z.toUtc (shiftedLocal w .month n))
  else .error .calendarRange

lemma monthBoundary_eq_ok {n t : ℤ} :
    monthBoundary z w n = .ok t ↔
      (shiftedLocal w .month n).date.InRange ∧ z.toUtc (shiftedLocal w .month n) = some t := by
  unfold monthBoundary
  split_ifs with hr
  · rw [inCalendar_eq_ok]
    exact ⟨fun h => ⟨hr, h⟩, fun h => h.2⟩
  · exact ⟨nofun, fun h => absurd h.1 hr⟩

/-- Under the clamp rule a month shift depends on the anchor only through its wall clock. -/
lemma shift_month (hr : c.endOfMonthRule = .clampToMonthEnd) {a : ℤ}
    (hw : c.zone.toLocal a = some w) (n : ℤ) : shift a .month n c = monthBoundary c.zone w n := by
  have hlocal : shiftLocal a w .month n .clampToMonthEnd
      = if (shiftedLocal w .month n).date.InRange then .ok (shiftedLocal w .month n)
        else .error .calendarRange := by
    by_cases h : (shiftedLocal w .month n).date.InRange
    · simp only [shiftLocal, addMonths_clamp, if_pos h,
        if_pos (show (Date.inMonth _ _ _).InRange from h)]
      rfl
    · simp only [shiftLocal, addMonths_clamp, if_neg h,
        if_neg (show ¬ (Date.inMonth _ _ _).InRange from h)]
      rfl
  rw [shift, hw, hr]
  change (shiftLocal a w .month n .clampToMonthEnd >>= fun v => inCalendar (c.zone.toUtc v)) = _
  rw [hlocal, monthBoundary]
  split_ifs <;> rfl

lemma toUtc_near {t : ℤ} (h : z.toUtc w = some t) :
    w.toMicros - usPerDay < t ∧ t < w.toMicros + usPerDay := by
  obtain ⟨rfl, -⟩ := Zone.toUtc_eq_some.mp h
  have := abs_lt.mp (z.offsetOf_lt w)
  omega

lemma localWall_near (z : Zone) (t : ℤ) :
    (z.localWall t).toMicros - usPerDay < t ∧ t < (z.localWall t).toMicros + usPerDay := by
  have := abs_lt.mp (z.offsetAt_lt t)
  rw [Zone.localWall, Wall.toMicros_ofMicros]
  omega

/-- Two instants show the same day of the month and time of day in the zone. -/
def ReadsBack (z : Zone) (s t : ℤ) : Prop :=
  (z.localWall t).date.day = (z.localWall s).date.day ∧
    (z.localWall t).time = (z.localWall s).time

instance (z : Zone) (s t : ℤ) : Decidable (ReadsBack z s t) :=
  inferInstanceAs (Decidable (_ ∧ _))

/-- **A boundary that reads back is unclamped and undisturbed**: its wall clock is the target it was
computed from. -/
theorem localWall_of_readsBack {s t n : ℤ} (ht : monthBoundary z (z.localWall s) n = .ok t)
    (h : ReadsBack z s t) :
    z.localWall t = shiftedLocal (z.localWall s) .month n ∧
      (z.localWall s).date.day ≤ monthLength ((z.localWall s).date.monthIndex + n) := by
  obtain ⟨hday, htime⟩ := h
  have hnear := toUtc_near (monthBoundary_eq_ok.mp ht).2
  have hback := localWall_near z t
  have hle := (z.localWall t).date.day_le_monthLength
  -- same time of day and less than two days apart, so at most one day apart; months are longer
  have hmonth : (z.localWall t).date.monthIndex = (z.localWall s).date.monthIndex + n := by
    have hs := monthLength_bounds ((z.localWall s).date.monthIndex + n)
    have ht := monthLength_bounds (z.localWall t).date.monthIndex
    have hone := (z.localWall s).date.day_mem.1
    simp only [shiftedLocal, monthsOf, reduceCtorEq, if_false, mul_one, Wall.toMicros,
      Wall.date_combine, Wall.time_combine, Date.toOrdinal_eq, Date.monthIndex_inMonth,
      Date.day_inMonth, usPerDay] at hnear hback
    rcases lt_trichotomy (z.localWall t).date.monthIndex
      ((z.localWall s).date.monthIndex + n) with hlt | heq | hgt
    · have := monthBase_add_monthLength_le hlt
      omega
    · exact heq
    · have := monthBase_add_monthLength_le hgt
      omega
  rw [hday, hmonth] at hle
  refine ⟨Wall.ext (Date.ext_monthIndex ?_ ?_) htime, hle⟩
  · simp [shiftedLocal, monthsOf, hmonth]
  · simp [shiftedLocal, monthsOf, hday, min_eq_left hle]

structure IsMonthlyAnniversary (terms : CadenceTerms) : Prop where
  unit : terms.serviceIntervalUnit = .month
  alignment : terms.alignment = .contractAnniversary
  rule : terms.endOfMonthRule = .clampToMonthEnd

/-- The boundary the code computes for the start of period `i`. -/
def anniversaryStart (c : BillingCadence) (s : ℤ) (i : ℤ) : Except CadenceError ℤ :=
  if i = 0 then .ok s
  else monthBoundary c.zone (c.zone.localWall s) (c.serviceIntervalCount * i)

/-- Period `i` in terms of the wall clock of the start. -/
lemma servicePeriod_anniversary (hc : IsMonthlyAnniversary c.toCadenceTerms) {s : ℤ}
    (hs : (c.zone.localWall s).date.InRange) {i : ℤ} (hi : 0 ≤ i) :
    servicePeriod c (.aware s) i = (do
      let start ← anniversaryStart c s i
      let end_ ← monthBoundary c.zone (c.zone.localWall s) (c.serviceIntervalCount * (i + 1))
      interval start end_) := by
  have hlocal : c.zone.toLocal s = some (c.zone.localWall s) :=
    Zone.toLocal_eq_some.mpr ⟨rfl, hs⟩
  simp only [servicePeriod, periodAt, requireAware, ensure, if_pos hi, alignStart, hc.alignment,
    nthInterval, hc.unit, anniversaryStart, ← shift_month hc.rule hlocal]
  rfl

lemma inRange_of_servicePeriod (hc : IsMonthlyAnniversary c.toCadenceTerms)
    (h : servicePeriod c (.aware s) i = .ok p) : 0 ≤ i ∧ (c.zone.localWall s).date.InRange := by
  obtain ⟨hi, s', hs, a, ha, hn⟩ := servicePeriod_eq_ok_iff.mp h
  obtain rfl := Moment.aware.inj hs
  simp only [alignStart, hc.alignment] at ha
  obtain rfl := Except.ok.inj ha
  obtain ⟨b, -, hb⟩ := bind_eq_ok.mp hn
  obtain ⟨e, he, -⟩ := bind_eq_ok.mp hb
  obtain ⟨w, hw, -⟩ := bind_eq_ok.mp he
  obtain ⟨rfl, hr⟩ := Zone.toLocal_eq_some.mp (inCalendar_eq_ok.mp hw)
  exact ⟨hi, hr⟩

lemma servicePeriod_anniversary_ok (hc : IsMonthlyAnniversary c.toCadenceTerms)
    (h : servicePeriod c (.aware s) i = .ok p) :
    anniversaryStart c s i = .ok p.startsAt ∧
      monthBoundary c.zone (c.zone.localWall s) (c.serviceIntervalCount * (i + 1))
        = .ok p.endsAt := by
  obtain ⟨hi, hs⟩ := inRange_of_servicePeriod hc h
  rw [servicePeriod_anniversary hc hs hi] at h
  obtain ⟨b, hb, h⟩ := bind_eq_ok.mp h
  obtain ⟨e, he, h⟩ := bind_eq_ok.mp h
  obtain ⟨rfl, rfl⟩ := interval_eq_ok.mp h
  exact ⟨hb, he⟩

/-- **Re-anchoring on a boundary that reads back** keeps every later period. -/
theorem servicePeriod_readsBack (hc : IsMonthlyAnniversary c.toCadenceTerms) {s m : ℤ}
    (h : servicePeriod c (.aware s) m = .ok p) (hb : ReadsBack c.zone s p.endsAt) {i : ℤ}
    (hi : 0 ≤ i) :
    servicePeriod c (.aware p.endsAt) i = servicePeriod c (.aware s) (m + 1 + i) := by
  obtain ⟨hm, hs⟩ := inRange_of_servicePeriod hc h
  obtain ⟨-, hend⟩ := servicePeriod_anniversary_ok hc h
  obtain ⟨hwall, hday⟩ := localWall_of_readsBack hend hb
  have hrange : (c.zone.localWall p.endsAt).date.InRange := by
    rw [hwall]
    exact (monthBoundary_eq_ok.mp hend).1
  have hboundary : ∀ n, monthBoundary c.zone (c.zone.localWall p.endsAt) n
      = monthBoundary c.zone (c.zone.localWall s) (c.serviceIntervalCount * (m + 1) + n) := by
    intro n
    rw [hwall, monthBoundary, monthBoundary, shiftedLocal_month_add hday]
  have hstart : anniversaryStart c p.endsAt i = anniversaryStart c s (m + 1 + i) := by
    rcases hi.eq_or_lt with rfl | hpos
    · rw [anniversaryStart, anniversaryStart, if_pos rfl, if_neg (by omega), add_zero, hend]
    · rw [anniversaryStart, anniversaryStart, if_neg (by omega), if_neg (by omega), hboundary]
      congr 1
      ring
  rw [servicePeriod_anniversary hc hrange hi, servicePeriod_anniversary hc hs (by omega), hstart,
    hboundary]
  congr 1
  funext b
  congr 2
  ring

lemma startsAt_near (hc : IsMonthlyAnniversary c.toCadenceTerms)
    (h : servicePeriod c (.aware s) i = .ok p) :
    (shiftedLocal (c.zone.localWall s) .month (c.serviceIntervalCount * i)).toMicros - usPerDay
        < p.startsAt ∧
      p.startsAt < (shiftedLocal (c.zone.localWall s) .month
        (c.serviceIntervalCount * i)).toMicros + usPerDay := by
  have hp := (servicePeriod_anniversary_ok hc h).1
  by_cases h0 : i = 0
  · simp only [anniversaryStart, h0, if_true, Except.ok.injEq] at hp
    rw [h0, mul_zero, shiftedLocal_zero, ← hp]
    exact localWall_near _ _
  · simp only [anniversaryStart, h0, if_false] at hp
    exact toUtc_near (monthBoundary_eq_ok.mp hp).2

/-- **Periods of an anniversary cadence are ordered by index**, in any zone. -/
theorem startsAt_lt (hc : IsMonthlyAnniversary c.toCadenceTerms) {s i j : ℤ} {p q : Interval}
    (hp : servicePeriod c (.aware s) i = .ok p) (hq : servicePeriod c (.aware s) j = .ok q)
    (hij : i < j) : p.startsAt < q.startsAt := by
  have hk := c.count_pos.1
  have h1 := startsAt_near hc hp
  have h2 := startsAt_near hc hq
  have hgap := shiftedLocal_month_gap (c.zone.localWall s)
    (show c.serviceIntervalCount * i < c.serviceIntervalCount * j by nlinarith)
  have : (0 : ℤ) < usPerDay := by decide
  omega

lemma endsAt_near (hc : IsMonthlyAnniversary c.toCadenceTerms)
    (h : servicePeriod c (.aware s) i = .ok p) :
    (shiftedLocal (c.zone.localWall s) .month (c.serviceIntervalCount * (i + 1))).toMicros
        - usPerDay < p.endsAt ∧
      p.endsAt < (shiftedLocal (c.zone.localWall s) .month
        (c.serviceIntervalCount * (i + 1))).toMicros + usPerDay :=
  toUtc_near (monthBoundary_eq_ok.mp (servicePeriod_anniversary_ok hc h).2).2

lemma le_of_startsAt_lt_endsAt (hc : IsMonthlyAnniversary c.toCadenceTerms) {s i j : ℤ}
    {p q : Interval} (hp : servicePeriod c (.aware s) i = .ok p)
    (hq : servicePeriod c (.aware s) j = .ok q) (h : p.startsAt < q.endsAt) : i ≤ j := by
  by_contra hij
  have hk := c.count_pos.1
  have h1 := (servicePeriod_anniversary_ok hc hp).1
  have h2 := (servicePeriod_anniversary_ok hc hq).2
  have hj := (inRange_of_servicePeriod hc hq).1
  rw [anniversaryStart, if_neg (by omega)] at h1
  rcases (show j + 1 ≤ i by omega).eq_or_lt with heq | hlt
  · rw [heq, h1] at h2
    obtain heq := Except.ok.inj h2
    omega
  · have hp' := startsAt_near hc hp
    have hq' := endsAt_near hc hq
    have hgap := shiftedLocal_month_gap (c.zone.localWall s)
      (show c.serviceIntervalCount * (j + 1) < c.serviceIntervalCount * i by nlinarith)
    omega

end Cadence

end DotmacSub
