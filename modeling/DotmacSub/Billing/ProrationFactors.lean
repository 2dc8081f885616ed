import DotmacSub.Billing.ServicePeriods
import Mathlib.Algebra.BigOperators.Ring.List

/-!
# Proration over a cut period

A proration factor is what a clock shows at the end of a coverage less what it shows at its start,
as a share of the same for the whole period.  The elapsed-time convention reads seconds; the
calendar-day convention reads the date in the contract's zone.  Differences telescope, so the
factors of any cut of the period add up to one whatever the clock is; that each of them lies
between zero and one needs a clock that never goes back.
-/

namespace DotmacSub

namespace Cadence

open Gregorian Checked

/-- The pieces follow each other from one instant to another. -/
def Cuts : ℤ → ℤ → List Interval → Prop
  | start, end_, [] => start = end_
  | start, end_, piece :: pieces => piece.startsAt = start ∧ Cuts piece.endsAt end_ pieces

section Shares

variable {start end_ : ℤ} {pieces : List Interval} {period inner outer : Interval} {clock : ℤ → ℚ}

lemma Cuts.le : ∀ {pieces : List Interval} {start : ℤ}, Cuts start end_ pieces → start ≤ end_
  | [], _, h => le_of_eq h
  | piece :: _, _, h => h.1 ▸ piece.starts_lt_ends.le.trans h.2.le

lemma Cuts.inside : ∀ {pieces : List Interval} {start : ℤ}, Cuts start end_ pieces →
    ∀ piece ∈ pieces, start ≤ piece.startsAt ∧ piece.endsAt ≤ end_
  | first :: pieces, start, h, piece, hmem => by
    rcases List.mem_cons.mp hmem with rfl | hmem
    · exact ⟨h.1.ge, h.2.le⟩
    · obtain ⟨hstart, hend⟩ := h.2.inside piece hmem
      have hfirst := first.starts_lt_ends
      have hbegin := h.1
      exact ⟨by omega, hend⟩

lemma Cuts.sum_sub (clock : ℤ → ℚ) : ∀ {pieces : List Interval} {start : ℤ},
    Cuts start end_ pieces →
      (pieces.map fun piece => clock piece.endsAt - clock piece.startsAt).sum
        = clock end_ - clock start
  | [], _, h => by
    obtain rfl := h
    simp
  | piece :: pieces, start, h => by
    obtain ⟨rfl, hrest⟩ := h
    rw [List.map_cons, List.sum_cons, hrest.sum_sub clock]
    ring

lemma Cuts.append : ∀ {pieces later : List Interval} {start middle : ℤ},
    Cuts start middle pieces → Cuts middle end_ later → Cuts start end_ (pieces ++ later)
  | [], _, _, _, h, hlater => by
    obtain rfl := h
    exact hlater
  | _ :: _, _, _, _, h, hlater => ⟨h.1, h.2.append hlater⟩

lemma exists_cuts {start end_ : ℤ} (h : start ≤ end_) : ∃ pieces, Cuts start end_ pieces := by
  rcases h.lt_or_eq with hlt | rfl
  · exact ⟨[⟨start, end_, hlt⟩], rfl, rfl⟩
  · exact ⟨[], rfl⟩

lemma exists_cuts_mem (hstart : period.startsAt ≤ inner.startsAt)
    (hend : inner.endsAt ≤ period.endsAt) :
    ∃ pieces, Cuts period.startsAt period.endsAt pieces ∧ inner ∈ pieces := by
  obtain ⟨before, hbefore⟩ := exists_cuts hstart
  obtain ⟨after, hafter⟩ := exists_cuts hend
  refine ⟨before ++ inner :: after, hbefore.append ⟨rfl, hafter⟩, ?_⟩
  exact List.mem_append_right _ List.mem_cons_self

/-- The share of a piece of an interval, by a clock. -/
def share (clock : ℤ → ℚ) (period covered : Interval) : ℚ :=
  if clock period.endsAt - clock period.startsAt ≤ 0 then 0
  else (clock covered.endsAt - clock covered.startsAt)
    / (clock period.endsAt - clock period.startsAt)

lemma share_le_share
    (hclock : MonotoneOn clock (Set.Icc period.startsAt period.endsAt))
    (hstart : period.startsAt ≤ outer.startsAt) (hleft : outer.startsAt ≤ inner.startsAt)
    (hright : inner.endsAt ≤ outer.endsAt) (hend : outer.endsAt ≤ period.endsAt) :
    share clock period inner ≤ share clock period outer := by
  have hinner := inner.starts_lt_ends
  have hlow : clock outer.startsAt ≤ clock inner.startsAt :=
    hclock ⟨hstart, by omega⟩ ⟨by omega, by omega⟩ hleft
  have hhigh : clock inner.endsAt ≤ clock outer.endsAt :=
    hclock ⟨by omega, by omega⟩ ⟨by omega, hend⟩ hright
  rw [share, share]
  split_ifs with hwhole
  · exact le_rfl
  · gcongr
    exact le_of_not_ge hwhole

lemma share_self (h : clock period.startsAt < clock period.endsAt) :
    share clock period period = 1 := by
  have hpos : 0 < clock period.endsAt - clock period.startsAt := sub_pos.mpr h
  rw [share, if_neg hpos.not_ge, div_self hpos.ne']

lemma share_nonneg (hclock : MonotoneOn clock (Set.Icc period.startsAt period.endsAt))
    (hstart : period.startsAt ≤ inner.startsAt) (hend : inner.endsAt ≤ period.endsAt) :
    0 ≤ share clock period inner := by
  have hinner := inner.starts_lt_ends
  have hmono : clock inner.startsAt ≤ clock inner.endsAt :=
    hclock ⟨hstart, by omega⟩ ⟨by omega, hend⟩ hinner.le
  rw [share]
  split_ifs with hwhole
  · exact le_rfl
  · exact div_nonneg (sub_nonneg.mpr hmono) (le_of_not_ge hwhole)

/-- **The shares of a cut add up to one**, unless the clock shows no progress. -/
lemma sum_share (h : clock period.startsAt < clock period.endsAt)
    (hcut : Cuts period.startsAt period.endsAt pieces) :
    (pieces.map (share clock period)).sum = 1 := by
  have hpos : 0 < clock period.endsAt - clock period.startsAt := sub_pos.mpr h
  have hshare : share clock period = fun piece => (clock piece.endsAt - clock piece.startsAt)
      * (clock period.endsAt - clock period.startsAt)⁻¹ := by
    funext piece
    rw [share, if_neg hpos.not_ge, div_eq_mul_inv]
  rw [hshare, List.sum_map_mul_right, hcut.sum_sub clock, mul_inv_cancel₀ hpos.ne']

/-- **Shares partition a period** exactly when the clock makes progress and never goes back. -/
theorem shares_iff :
    (∀ pieces, Cuts period.startsAt period.endsAt pieces →
      (∀ piece ∈ pieces, 0 ≤ share clock period piece ∧ share clock period piece ≤ 1) ∧
        (pieces.map (share clock period)).sum = 1) ↔
    MonotoneOn clock (Set.Icc period.startsAt period.endsAt) ∧
      clock period.startsAt < clock period.endsAt := by
  constructor
  · intro h
    have hwhole : clock period.startsAt < clock period.endsAt := by
      have hone := (h [period] ⟨rfl, rfl⟩).2
      by_contra hle
      rw [List.map_singleton, List.sum_singleton, share, if_pos (by linarith)] at hone
      exact zero_ne_one hone
    refine ⟨fun t ht u hu htu => ?_, hwhole⟩
    rcases htu.lt_or_eq with hlt | rfl
    · obtain ⟨pieces, hcut, hmem⟩ := exists_cuts_mem ht.1 (show (⟨t, u, hlt⟩ : Interval).endsAt ≤ _ from hu.2)
      have hnonneg := ((h pieces hcut).1 _ hmem).1
      have hpos : 0 < clock period.endsAt - clock period.startsAt := sub_pos.mpr hwhole
      rw [share, if_neg hpos.not_ge, le_div_iff₀ hpos, zero_mul] at hnonneg
      exact sub_nonneg.mp hnonneg
    · exact le_rfl
  · rintro ⟨hclock, hwhole⟩ pieces hcut
    refine ⟨fun piece hmem => ?_, sum_share hwhole hcut⟩
    obtain ⟨hstart, hend⟩ := hcut.inside piece hmem
    refine ⟨share_nonneg hclock hstart hend, ?_⟩
    rw [← share_self hwhole]
    exact share_le_share hclock le_rfl hstart hend le_rfl

end Shares

/-- `prorationFactor` before its quotient is rounded. -/
def exactProrationFactor (cadence : BillingCadence) (period covered : Interval) :
    Except CadenceError ℚ := do
  ensure (period.startsAt ≤ covered.startsAt ∧ covered.endsAt ≤ period.endsAt)
    (.coveredOutsidePeriod period.startsAt period.endsAt covered.startsAt covered.endsAt)
  match cadence.prorationPolicy with
  | .none | .fullPeriod => pure 1
  | .actualElapsedTime =>
    let whole := totalSeconds period.duration
    let part := totalSeconds covered.duration
    pure (if 0 < whole then part / whole else 0)
  | .actualCalendarDays => do
      let periodDays ← calendarDaySpan period cadence.zone
      let coveredDays ← calendarDaySpan covered cadence.zone
      pure (if periodDays ≤ 0 then 0 else (coveredDays : ℚ) / periodDays)

section Factor

variable {c : BillingCadence} {period covered : Interval}

/-- **The code rounds the exact factor** to its 28 digits. -/
theorem prorationFactor_eq :
    prorationFactor c period covered = Decimal.ctx <$> exactProrationFactor c period covered := by
  have hone : Decimal.ctx 1 = 1 := Decimal.ctx_intCast (n := 1) (by decide)
  unfold prorationFactor exactProrationFactor
  by_cases hinside : period.startsAt ≤ covered.startsAt ∧ covered.endsAt ≤ period.endsAt
  · rw [ensure_of hinside, ok_bind, ok_bind]
    cases c.prorationPolicy with
    | none | fullPeriod => exact congrArg Except.ok hone.symm
    | actualElapsedTime =>
      refine congrArg Except.ok ?_
      split_ifs with hwhole
      · rfl
      · exact Decimal.ctx_zero.symm
    | actualCalendarDays =>
      cases hperiod : calendarDaySpan period c.zone with
      | error e => rfl
      | ok periodDays =>
        cases hcovered : calendarDaySpan covered c.zone with
        | error e => rfl
        | ok coveredDays =>
          refine congrArg Except.ok ?_
          split_ifs with hdays
          · exact Decimal.ctx_zero.symm
          · rfl
  · rw [ensure, if_neg hinside]
    rfl

def secondsAt (t : ℤ) : ℚ := totalSeconds t

def dayAt (z : Zone) (t : ℤ) : ℚ := (z.localWall t).date.toOrdinal

lemma secondsAt_strictMono : StrictMono secondsAt := fun t u h => by
  have hcast : (t : ℚ) < u := by exact_mod_cast h
  simp only [secondsAt, totalSeconds]
  linarith

lemma exactProrationFactor_elapsed (hpolicy : c.prorationPolicy = .actualElapsedTime)
    (hstart : period.startsAt ≤ covered.startsAt) (hend : covered.endsAt ≤ period.endsAt) :
    exactProrationFactor c period covered = .ok (share secondsAt period covered) := by
  have hseconds : ∀ p : Interval,
      totalSeconds p.duration = secondsAt p.endsAt - secondsAt p.startsAt := fun p => by
    rw [Interval.duration, secondsAt, secondsAt, totalSeconds, totalSeconds, totalSeconds]
    push_cast
    ring
  rw [exactProrationFactor, ensure_of ⟨hstart, hend⟩, ok_bind, hpolicy]
  refine congrArg Except.ok ?_
  rw [hseconds, hseconds, share]
  split_ifs with h1 h2
  · exact absurd h1 (not_lt.mpr h2)
  · rfl
  · rfl
  · exact absurd (not_lt.mp h1) ‹_›

lemma calendarDaySpan_eq_ok {z : Zone} {p : Interval} {days : ℤ} :
    calendarDaySpan p z = .ok days ↔
      (z.localWall p.startsAt).date.InRange ∧ (z.localWall p.endsAt).date.InRange ∧
        days = (z.localWall p.endsAt).date.toOrdinal - (z.localWall p.startsAt).date.toOrdinal := by
  simp only [calendarDaySpan, bind_eq_ok, inCalendar_eq_ok, Zone.toLocal_eq_some]
  constructor
  · rintro ⟨_, ⟨rfl, hstart⟩, _, ⟨rfl, hend⟩, hdays⟩
    exact ⟨hstart, hend, (Except.ok.inj hdays).symm⟩
  · rintro ⟨hstart, hend, rfl⟩
    exact ⟨_, ⟨rfl, hstart⟩, _, ⟨rfl, hend⟩, rfl⟩

lemma exactProrationFactor_days {factor : ℚ} (hpolicy : c.prorationPolicy = .actualCalendarDays)
    (hstart : period.startsAt ≤ covered.startsAt) (hend : covered.endsAt ≤ period.endsAt) :
    exactProrationFactor c period covered = .ok factor ↔
      (∀ t ∈ [period.startsAt, period.endsAt, covered.startsAt, covered.endsAt],
        (c.zone.localWall t).date.InRange) ∧ factor = share (dayAt c.zone) period covered := by
  rw [exactProrationFactor, ensure_of ⟨hstart, hend⟩, ok_bind, hpolicy]
  simp only [bind_eq_ok, calendarDaySpan_eq_ok, pure_eq_ok, List.forall_mem_cons,
    List.not_mem_nil, false_imp_iff, implies_true, and_true]
  have hshare : (if (c.zone.localWall period.endsAt).date.toOrdinal
          - (c.zone.localWall period.startsAt).date.toOrdinal ≤ 0 then 0
        else (((c.zone.localWall covered.endsAt).date.toOrdinal
            - (c.zone.localWall covered.startsAt).date.toOrdinal : ℤ) : ℚ)
          / (((c.zone.localWall period.endsAt).date.toOrdinal
            - (c.zone.localWall period.startsAt).date.toOrdinal : ℤ) : ℚ))
      = share (dayAt c.zone) period covered := by
    rw [share, dayAt, dayAt, dayAt, dayAt]
    push_cast
    have hcast : ((c.zone.localWall period.endsAt).date.toOrdinal
          - (c.zone.localWall period.startsAt).date.toOrdinal ≤ 0) ↔
        (((c.zone.localWall period.endsAt).date.toOrdinal : ℚ)
          - (c.zone.localWall period.startsAt).date.toOrdinal ≤ 0) := by
      exact_mod_cast Iff.rfl
    simp only [hcast]
  constructor
  · rintro ⟨_, ⟨h1, h2, rfl⟩, _, ⟨h3, h4, rfl⟩, hfactor⟩
    exact ⟨⟨h1, h2, h3, h4⟩, hfactor.symm.trans hshare⟩
  · rintro ⟨⟨h1, h2, h3, h4⟩, hfactor⟩
    exact ⟨_, ⟨h1, h2, rfl⟩, _, ⟨h3, h4, rfl⟩, hshare.trans hfactor.symm⟩

/-- A period is prorated additively: every cut of it has factors between zero and one that add up
to one, and a larger coverage has the larger factor. -/
structure ProratesAdditively (c : BillingCadence) (period : Interval) : Prop where
  cut : ∀ pieces, Cuts period.startsAt period.endsAt pieces →
    ∃ factors, pieces.mapM (exactProrationFactor c period) = .ok factors ∧
      (∀ factor ∈ factors, 0 ≤ factor ∧ factor ≤ 1) ∧ factors.sum = 1
  mono : ∀ inner outer : Interval, period.startsAt ≤ outer.startsAt →
    outer.startsAt ≤ inner.startsAt → inner.endsAt ≤ outer.endsAt → outer.endsAt ≤ period.endsAt →
    ∃ f g, exactProrationFactor c period inner = .ok f ∧
      exactProrationFactor c period outer = .ok g ∧ f ≤ g

/-- The date in a zone exists throughout an interval, never goes back in it, and is not the same at
both of its ends. -/
structure DaysAdvance (z : Zone) (period : Interval) : Prop where
  inRange : ∀ t ∈ Set.Icc period.startsAt period.endsAt, (z.localWall t).date.InRange
  monotone : MonotoneOn (fun t => (z.localWall t).date.toOrdinal)
    (Set.Icc period.startsAt period.endsAt)
  progress : (z.localWall period.startsAt).date.toOrdinal
    < (z.localWall period.endsAt).date.toOrdinal

/-- What every coverage is worth decides the additivity of a period. -/
lemma proratesAdditively_of_share {clock : ℤ → ℚ}
    (hfactor : ∀ covered : Interval, period.startsAt ≤ covered.startsAt →
      covered.endsAt ≤ period.endsAt →
      exactProrationFactor c period covered = .ok (share clock period covered))
    (hclock : MonotoneOn clock (Set.Icc period.startsAt period.endsAt))
    (hwhole : clock period.startsAt < clock period.endsAt) : ProratesAdditively c period where
  cut pieces hcut := by
    obtain ⟨hmem, hsum⟩ := shares_iff.mpr ⟨hclock, hwhole⟩ pieces hcut
    refine ⟨pieces.map (share clock period), mapM_eq_ok_map fun piece hpiece => ?_, ?_, hsum⟩
    · obtain ⟨hstart, hend⟩ := hcut.inside piece hpiece
      exact hfactor piece hstart hend
    · intro factor hin
      obtain ⟨piece, hpiece, rfl⟩ := List.mem_map.mp hin
      exact hmem piece hpiece
  mono inner outer hstart hleft hright hend :=
    ⟨_, _, hfactor inner (hstart.trans hleft) (hright.trans hend), hfactor outer hstart hend,
      share_le_share hclock hstart hleft hright hend⟩

lemma proratesAdditively_elapsed (hpolicy : c.prorationPolicy = .actualElapsedTime) :
    ProratesAdditively c period :=
  proratesAdditively_of_share (fun _ hstart hend => exactProrationFactor_elapsed hpolicy hstart hend)
    (secondsAt_strictMono.monotone.monotoneOn _) (secondsAt_strictMono period.starts_lt_ends)

/-- **Calendar days prorate additively** exactly where they advance. -/
theorem proratesAdditively_days_iff (hpolicy : c.prorationPolicy = .actualCalendarDays) :
    ProratesAdditively c period ↔ DaysAdvance c.zone period := by
  constructor
  · intro h
    -- the factor of a piece of a cut is its share, and its ends have a date
    have hpiece : ∀ pieces, Cuts period.startsAt period.endsAt pieces →
        (∀ piece ∈ pieces, exactProrationFactor c period piece
          = .ok (share (dayAt c.zone) period piece)) := by
      intro pieces hcut piece hmem
      obtain ⟨factors, hfactors, -⟩ := h.cut pieces hcut
      obtain ⟨factor, -, hfactor⟩ := exists_of_mem_left (forall₂_of_mapM hfactors) piece hmem
      obtain ⟨hstart, hend⟩ := hcut.inside piece hmem
      rw [hfactor, ((exactProrationFactor_days hpolicy hstart hend).mp hfactor).2]
    have hshares : ∀ pieces, Cuts period.startsAt period.endsAt pieces →
        (∀ piece ∈ pieces, 0 ≤ share (dayAt c.zone) period piece ∧
          share (dayAt c.zone) period piece ≤ 1) ∧
        (pieces.map (share (dayAt c.zone) period)).sum = 1 := by
      intro pieces hcut
      obtain ⟨factors, hfactors, hbounds, hsum⟩ := h.cut pieces hcut
      rw [mapM_eq_ok_map (hpiece pieces hcut)] at hfactors
      obtain rfl := Except.ok.inj hfactors
      exact ⟨fun piece hmem => hbounds _ (List.mem_map_of_mem hmem), hsum⟩
    obtain ⟨hclock, hwhole⟩ := shares_iff.mp hshares
    refine ⟨fun t ht => ?_, fun t ht u hu htu => ?_, ?_⟩
    · -- every instant of the period is an end of some piece
      have hdates : ∀ inner : Interval, period.startsAt ≤ inner.startsAt →
          inner.endsAt ≤ period.endsAt → ∀ u ∈ [inner.startsAt, inner.endsAt],
            (c.zone.localWall u).date.InRange := by
        intro inner hstart hend u hu
        obtain ⟨pieces, hcut, hmem⟩ := exists_cuts_mem hstart hend
        have hok := hpiece pieces hcut inner hmem
        refine ((exactProrationFactor_days hpolicy hstart hend).mp hok).1 u ?_
        simp only [List.mem_cons, List.not_mem_nil, or_false] at hu ⊢
        tauto
      rcases ht.2.lt_or_eq with hlt | rfl
      · exact hdates ⟨t, period.endsAt, hlt⟩ ht.1 le_rfl t (by simp)
      · exact hdates period le_rfl le_rfl _ (by simp)
    · exact Int.cast_le.mp (hclock ht hu htu)
    · exact Int.cast_lt.mp hwhole
  · intro h
    have hfactor : ∀ covered : Interval, period.startsAt ≤ covered.startsAt →
        covered.endsAt ≤ period.endsAt →
        exactProrationFactor c period covered = .ok (share (dayAt c.zone) period covered) := by
      intro covered hstart hend
      have hcovered := covered.starts_lt_ends
      refine (exactProrationFactor_days hpolicy hstart hend).mpr ⟨fun t ht => h.inRange t ?_, rfl⟩
      simp only [List.mem_cons, List.not_mem_nil, or_false] at ht
      rw [Set.mem_Icc]
      omega
    refine proratesAdditively_of_share hfactor ?_ ?_
    · intro t ht u hu htu
      exact Int.cast_le.mpr (h.monotone ht hu htu)
    · exact Int.cast_lt.mpr h.progress

/-- **Proration is additive** always by elapsed time, and by calendar days exactly where the dates
of the zone advance. -/
theorem proratesAdditively_iff (hpolicy : c.prorationPolicy = .actualElapsedTime ∨
    c.prorationPolicy = .actualCalendarDays) :
    ProratesAdditively c period ↔
      (c.prorationPolicy = .actualCalendarDays → DaysAdvance c.zone period) := by
  rcases hpolicy with hpolicy | hpolicy
  · refine iff_of_true (proratesAdditively_elapsed hpolicy) fun hdays => ?_
    rw [hpolicy] at hdays
    cases hdays
  · rw [proratesAdditively_days_iff hpolicy]
    exact ⟨fun h _ => h, fun h => h hpolicy⟩

/-- **In a zone with a fixed offset the dates of every service period advance.** -/
theorem daysAdvance_servicePeriod {o s i : ℤ} (hz : c.zone.IsFixed o)
    (hr : c.endOfMonthRule = .clampToMonthEnd) (h : servicePeriod c (.aware s) i = .ok period) :
    DaysAdvance c.zone period := by
  have hk := c.count_pos.1
  obtain ⟨hi, s', hs', a, ha, hn⟩ := servicePeriod_eq_ok_iff.mp h
  obtain ⟨hlocal, ⟨hps, hstart⟩, hpe, hend⟩ := (nthInterval_eq_ok_iff hz hr).mp hn
  have hday := boundary_add_day_le o a c.serviceIntervalUnit
    (show c.serviceIntervalCount * i < c.serviceIntervalCount * (i + 1) by nlinarith)
  rw [← hps, ← hpe] at hday
  have hordinal : ∀ t, (c.zone.localWall t).date.toOrdinal = (t + o) / usPerDay := fun t => by
    rw [← Wall.toMicros_div, hz.toMicros_localWall]
  refine ⟨fun t ht => ?_, fun t _ u _ htu => ?_, ?_⟩
  · -- the calendar holds both ends, and all that is between them
    have hfirst : (Wall.ofMicros (period.startsAt + o)).date.InRange := by
      rcases hstart with rfl | hrep
      · rwa [hps, mul_zero, boundary_zero]
      · exact hrep.1
    have hlast := hend.1
    obtain ⟨hlow, hhigh⟩ := ht
    rw [Wall.inRange_iff, Wall.toMicros_ofMicros] at hfirst hlast
    rw [Wall.inRange_iff, hz.toMicros_localWall]
    omega
  · simp only [hordinal]
    exact Int.ediv_le_ediv (by decide) (by omega)
  · rw [hordinal, hordinal]
    unfold usPerDay at *
    omega

end Factor

/-! ## A clock that goes back over midnight -/

def proratedTerms (timezoneName : String) : CadenceTerms :=
  { monthlyTerms with timezoneName, prorationPolicy := .actualCalendarDays }

def utcProrated : BillingCadence :=
  ⟨proratedTerms "UTC", utc, by decide, by decide, fun _ h => absurd h (Option.not_mem_none _),
    by decide⟩

/-- January is prorated additively in UTC. -/
theorem proratesAdditively_january : ProratesAdditively utcProrated
    ⟨utcMidnight 2026 1 1, utcMidnight 2026 2 1, by decide⟩ :=
  (proratesAdditively_iff (.inr rfl)).mpr fun _ => daysAdvance_servicePeriod (o := 0)
    (s := utcMidnight 2026 1 1) (i := 0) (Zone.fixed_isFixed _ _ _) rfl rfl

/-- The clocks of Newfoundland go back at one minute past midnight on 7 November 2010. -/
def clocksBack : ℤ := utcMidnight 2010 11 7 + 151 * 60 * 1000000

/-- Newfoundland in the summer and autumn of 2010: three and a half hours behind UTC, and an hour
less before the clocks go back. -/
def stJohns : Zone where
  name := "America/St_Johns"
  offsetAt t := if t < clocksBack then -(150 * 60 * 1000000) else -(210 * 60 * 1000000)
  offsetOf w :=
    if w.toMicros < clocksBack - 150 * 60 * 1000000 then -(150 * 60 * 1000000)
    else -(210 * 60 * 1000000)
  offsetAt_lt t := by split_ifs <;> decide
  offsetOf_lt w := by split_ifs <;> decide

/-- Calendar days in Newfoundland. -/
def stJohnsProrated : BillingCadence :=
  ⟨proratedTerms "America/St_Johns", stJohns, by decide, by decide,
    fun _ h => absurd h (Option.not_mem_none _), by decide⟩

def november : Interval :=
  ⟨utcMidnight 2010 11 1 + 150 * 60 * 1000000, utcMidnight 2010 12 1 + 210 * 60 * 1000000,
    by decide⟩

/-- From half a minute past midnight to half past eleven, after the clocks have gone back. -/
def afterMidnight : Interval :=
  ⟨clocksBack - 30 * 1000000, clocksBack + 29 * 60 * 1000000, by decide⟩

/-- **A coverage of half an hour is worth less than nothing** when the date goes back in it. -/
theorem proration_clocksBack :
    servicePeriod stJohnsProrated (.aware november.startsAt) 0 = .ok november ∧
      (∃ factor, exactProrationFactor stJohnsProrated november afterMidnight = .ok factor ∧
        factor < 0) ∧ ¬ ProratesAdditively stJohnsProrated november := by
  have hfactor : exactProrationFactor stJohnsProrated november afterMidnight = .ok (-1 / 30) := by
    rfl
  refine ⟨rfl, ⟨_, hfactor, by norm_num⟩, fun h => ?_⟩
  obtain ⟨pieces, hcut, hmem⟩ := exists_cuts_mem
    (show november.startsAt ≤ afterMidnight.startsAt by decide)
    (show afterMidnight.endsAt ≤ november.endsAt by decide)
  obtain ⟨factors, hfactors, hbounds, -⟩ := h.cut pieces hcut
  obtain ⟨factor, hin, hok⟩ := exists_of_mem_left (forall₂_of_mapM hfactors) _ hmem
  rw [hfactor] at hok
  obtain rfl := Except.ok.inj hok
  have hnonneg := (hbounds _ hin).1
  norm_num at hnonneg

end Cadence

end DotmacSub
