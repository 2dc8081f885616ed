import DotmacSub.Billing.Rating
import DotmacSub.Billing.ServicePeriods

/-!
# Months in a monthly period

`rate_units_in` counts the months of a period by the day of the month at its two ends, and the ends
of a monthly period are clamped to the months they land in.  The two agree unless the period ends
on an earlier day than it starts on, which a clamp can do only at the end.
-/

namespace DotmacSub

namespace Cadence

open Gregorian Checked

/-- **Months between two dates**, less the one that is not complete. -/
theorem monthsBetween_eq (d e : Date) :
    monthsBetween d e = e.monthIndex - d.monthIndex - if e.day < d.day then 1 else 0 := by
  simp only [monthsBetween, Date.monthIndex]
  split_ifs <;> ring

/-- Clamped days: the later one is smaller when its month is too short for the anchor and shorter
than the first month. -/
lemma min_lt_min_iff {day first last : ℤ} :
    min day last < min day first ↔ last < day ∧ last < first := by
  omega

section Monthly

variable {c : BillingCadence} {o s i : ℤ} {p : Interval}

lemma date_monthBoundary (hz : c.zone.IsFixed o) (a count : ℤ) :
    (c.zone.localWall (boundary o a .month count)).date
      = Date.inMonth ((c.zone.localWall a).date.monthIndex + count) (c.zone.localWall a).date.day
          (c.zone.localWall a).date.day_mem.1 := by
  rw [hz.localWall, hz.localWall, boundary, sub_add_cancel, Wall.ofMicros_toMicros, shiftedLocal,
    Wall.date_combine]
  simp only [monthsOf, reduceCtorEq, if_false, mul_one]

/-- **The months of a monthly period**: those of the cadence, less one when the period ends on an
earlier day than it starts on. -/
theorem rateUnitsIn_servicePeriod (hz : c.zone.IsFixed o)
    (hr : c.endOfMonthRule = .clampToMonthEnd) (hs : c.serviceIntervalUnit = .month)
    (hu : c.rateUnit = .month) (h : servicePeriod c (.aware s) i = .ok p) :
    ∃ a, alignStart s c = .ok a ∧
      rateUnitsIn c p = .ok ((c.serviceIntervalCount -
        if monthLength ((c.zone.localWall a).date.monthIndex + c.serviceIntervalCount * (i + 1))
              < (c.zone.localWall a).date.day ∧
            monthLength ((c.zone.localWall a).date.monthIndex + c.serviceIntervalCount * (i + 1))
              < monthLength ((c.zone.localWall a).date.monthIndex + c.serviceIntervalCount * i)
        then 1 else 0 : ℤ) : ℚ) := by
  obtain ⟨-, s', hs', a, ha, hn⟩ := servicePeriod_eq_ok_iff.mp h
  obtain rfl := Moment.aware.inj hs'
  obtain ⟨hlocal, ⟨hps, hstart⟩, hpe, hend⟩ := (nthInterval_eq_ok_iff hz hr).mp hn
  refine ⟨a, ha, ?_⟩
  rw [hs] at hps hpe
  -- both ends are on the calendar of the zone
  have hstartLocal : c.zone.toLocal p.startsAt = some (c.zone.localWall p.startsAt) := by
    refine Zone.toLocal_eq_some.mpr ⟨rfl, ?_⟩
    rw [hz.localWall]
    rcases hstart with rfl | hrep
    · rwa [hps, mul_zero, boundary_zero]
    · exact hrep.1
  have hendLocal : c.zone.toLocal p.endsAt = some (c.zone.localWall p.endsAt) :=
    Zone.toLocal_eq_some.mpr ⟨rfl, by rw [hz.localWall]; exact hend.1⟩
  have hmonths : monthsBetween (c.zone.localWall p.startsAt).date (c.zone.localWall p.endsAt).date
      = c.serviceIntervalCount -
        if monthLength ((c.zone.localWall a).date.monthIndex + c.serviceIntervalCount * (i + 1))
              < (c.zone.localWall a).date.day ∧
            monthLength ((c.zone.localWall a).date.monthIndex + c.serviceIntervalCount * (i + 1))
              < monthLength ((c.zone.localWall a).date.monthIndex + c.serviceIntervalCount * i)
        then 1 else 0 := by
    rw [monthsBetween_eq, hps, hpe, date_monthBoundary hz, date_monthBoundary hz]
    simp only [Date.monthIndex_inMonth, Date.day_inMonth, min_lt_min_iff]
    ring
  rw [← hmonths, rateUnitsIn, hu, hstartLocal, hendLocal]
  rfl

/-- **A monthly period is worth its months** exactly when the month it ends in has the day of the
aligned start, or is no shorter than the month it starts in. -/
theorem rateUnitsIn_eq_count_iff (hz : c.zone.IsFixed o)
    (hr : c.endOfMonthRule = .clampToMonthEnd) (hs : c.serviceIntervalUnit = .month)
    (hu : c.rateUnit = .month) (h : servicePeriod c (.aware s) i = .ok p) :
    rateUnitsIn c p = .ok (c.serviceIntervalCount : ℚ) ↔
      ∃ a, alignStart s c = .ok a ∧
        ((c.zone.localWall a).date.day
            ≤ monthLength ((c.zone.localWall a).date.monthIndex + c.serviceIntervalCount * (i + 1)) ∨
          monthLength ((c.zone.localWall a).date.monthIndex + c.serviceIntervalCount * i)
            ≤ monthLength
                ((c.zone.localWall a).date.monthIndex + c.serviceIntervalCount * (i + 1))) := by
  obtain ⟨a, ha, hunits⟩ := rateUnitsIn_servicePeriod hz hr hs hu h
  have haligned : ∀ {q : ℤ → Prop}, (∃ b, alignStart s c = .ok b ∧ q b) ↔ q a := by
    intro q
    rw [ha]
    simp only [Except.ok.injEq, exists_eq_left']
  rw [haligned, hunits, Except.ok.injEq, Int.cast_inj]
  split_ifs with hshort
  · exact iff_of_false (by omega) (by omega)
  · exact iff_of_true (by omega) (by omega)

end Monthly

/-- The March period of a contract that started on 31 January. -/
theorem rateUnitsIn_march : ∃ p,
    servicePeriod monthly (.aware (utcMidnight 2026 1 31)) 1 = .ok p ∧
      rateUnitsIn monthly p = .ok 1 := by
  refine ⟨⟨utcMidnight 2026 2 28, utcMidnight 2026 3 31, by decide⟩, rfl, ?_⟩
  exact_mod_cast (rateUnitsIn_eq_count_iff (c := monthly) (o := 0) (i := 1)
    (s := utcMidnight 2026 1 31) (Zone.fixed_isFixed _ _ _) rfl rfl rfl rfl).mpr
    ⟨_, rfl, .inl (by decide)⟩

/-- The first month of a contract that started on 31 January is worth nothing. -/
theorem rateUnitsIn_february : ∃ p,
    servicePeriod monthly (.aware (utcMidnight 2026 1 31)) 0 = .ok p ∧
      rateUnitsIn monthly p = .ok 0 ∧
      rateUnitsIn monthly p ≠ .ok (monthly.serviceIntervalCount : ℚ) := by
  have hzero : rateUnitsIn monthly ⟨utcMidnight 2026 1 31, utcMidnight 2026 2 28, by decide⟩
      = .ok 0 := by rfl
  refine ⟨⟨utcMidnight 2026 1 31, utcMidnight 2026 2 28, by decide⟩, rfl, hzero, ?_⟩
  rw [hzero]
  simp [monthly, monthlyTerms]

end Cadence

end DotmacSub
