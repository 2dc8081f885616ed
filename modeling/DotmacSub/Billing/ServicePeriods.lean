import DotmacSub.Core.Boundaries
import DotmacSub.Billing.Cadence

/-!
# Service periods in a fixed-offset zone

What the boundaries of `Cadence` are, in closed form.  Under the clamp rule and a fixed offset,
`shift` is one total function of the aligned start (`boundary`), restricted to the representable
instants.  So the periods partition the time from the first boundary on
(`servicePeriod_partition`).
-/

namespace DotmacSub

namespace Cadence

open Gregorian Checked

/-- An instant that is in the supported years both in UTC and at offset `o`. -/
def Representable (o : ℤ) (t : ℤ) : Prop :=
  (Wall.ofMicros (t + o)).date.InRange ∧ (Wall.ofMicros t).date.InRange

lemma representable_iff {o : ℤ} {t : ℤ} :
    Representable o t ↔ (usPerDay ≤ t + o ∧ t + o < (maxOrdinal + 1) * usPerDay) ∧
      usPerDay ≤ t ∧ t < (maxOrdinal + 1) * usPerDay := by
  rw [Representable, Wall.inRange_iff, Wall.inRange_iff, Wall.toMicros_ofMicros,
    Wall.toMicros_ofMicros]

lemma inCalendar_eq_ok {α : Type} {o : Option α} {a : α} : inCalendar o = .ok a ↔ o = some a :=
  orRefuse_eq_ok

lemma interval_eq_ok {s e : ℤ} {p : Interval} :
    interval s e = .ok p ↔ p.startsAt = s ∧ p.endsAt = e := by
  unfold interval
  split_ifs with h
  · simp only [Except.ok.injEq]
    constructor
    · rintro rfl
      exact ⟨rfl, rfl⟩
    · rintro ⟨rfl, rfl⟩
      rfl
  · refine iff_of_false nofun ?_
    rintro ⟨rfl, rfl⟩
    exact h p.starts_lt_ends

/-! ## Month addition under the clamp rule -/

/-- **Clamped month addition** is `Date.inMonth` on the shifted month. -/
theorem addMonths_clamp (anchor : Date) (months : ℤ) :
    addMonths anchor months .clampToMonthEnd
      = some <$> inCalendar (if (Date.inMonth (anchor.monthIndex + months) anchor.day
            anchor.day_mem.1).InRange then
          some (Date.inMonth (anchor.monthIndex + months) anchor.day anchor.day_mem.1)
        else none) := by
  have hy : anchor.year + (anchor.month - 1 + months) / 12
      = (anchor.monthIndex + months) / 12 := by
    simp only [Date.monthIndex]
    omega
  have hm : (anchor.month - 1 + months) % 12 + 1 = (anchor.monthIndex + months) % 12 + 1 := by
    simp only [Date.monthIndex]
    omega
  rw [← Date.new?_inMonth_eq]
  simp only [addMonths, hy, hm]
  split_ifs with hle
  · rw [min_eq_left (by rwa [monthLength])]
  · rw [min_eq_right (by rw [monthLength]; omega), monthLength]

lemma addMonths_clamp_eq_ok {anchor : Date} {months : ℤ} {r : Option Date} :
    addMonths anchor months .clampToMonthEnd = .ok r ↔
      r = some (Date.inMonth (anchor.monthIndex + months) anchor.day anchor.day_mem.1) ∧
        (Date.inMonth (anchor.monthIndex + months) anchor.day anchor.day_mem.1).InRange := by
  simp only [addMonths_clamp, map_eq_ok, inCalendar_eq_ok, Option.ite_none_right_eq_some]
  constructor
  · rintro ⟨d, ⟨hr, hd⟩, rfl⟩
    exact ⟨hd.symm, hr⟩
  · rintro ⟨rfl, hr⟩
    exact ⟨_, ⟨hr, rfl⟩, rfl⟩

/-! ## Boundaries in closed form -/

/-- The wall clock `count` units after another, clamped in its month. -/
def shiftedLocal (w : Wall) (unit : IntervalUnit) (count : ℤ) : Wall :=
  match unit with
  | .day => Wall.ofMicros (w.toMicros + count * usPerDay)
  | .week => Wall.ofMicros (w.toMicros + 7 * count * usPerDay)
  | .month | .year => Wall.combine
      (Date.inMonth (w.date.monthIndex + monthsOf unit count) w.date.day w.date.day_mem.1) w

lemma shiftLocal_eq_ok {a : ℤ} {w v : Wall} {unit : IntervalUnit} {count : ℤ} :
    shiftLocal a w unit count .clampToMonthEnd = .ok v ↔
      v = shiftedLocal w unit count ∧ v.date.InRange := by
  have hdays : ∀ n, inCalendar (w.addDays n) = .ok v ↔
      v = Wall.ofMicros (w.toMicros + n * usPerDay) ∧ v.date.InRange := by
    intro n
    rw [inCalendar_eq_ok, Wall.addDays_eq_some]
    refine and_congr_left fun _ => ⟨fun h => ?_, fun h => ?_⟩
    · rw [← h, Wall.ofMicros_toMicros]
    · rw [h, Wall.toMicros_ofMicros]
  cases unit with
  | day => exact hdays count
  | week => exact hdays (7 * count)
  | month | year =>
    simp only [shiftLocal, bind_eq_ok, addMonths_clamp_eq_ok, shiftedLocal]
    constructor
    · rintro ⟨r, ⟨rfl, hr⟩, h⟩
      obtain rfl := pure_eq_ok.mp h
      exact ⟨rfl, hr⟩
    · rintro ⟨rfl, hr⟩
      exact ⟨_, ⟨rfl, hr⟩, rfl⟩

lemma shiftedLocal_zero (w : Wall) (unit : IntervalUnit) : shiftedLocal w unit 0 = w := by
  cases unit with
  | day | week => simp [shiftedLocal]
  | month | year =>
    simp only [shiftedLocal, monthsOf, zero_mul, add_zero, Date.inMonth_monthIndex]
    rfl

variable {m n : ℤ}

/-- **Boundaries grow by at least a day.**  They all carry the same time of day, so the day numbers
decide. -/
lemma shiftedLocal_add_day_le (w : Wall) (unit : IntervalUnit) (h : m < n) :
    (shiftedLocal w unit m).toMicros + usPerDay ≤ (shiftedLocal w unit n).toMicros := by
  have hmonth : ∀ M N : ℤ, M < N →
      (Wall.combine (Date.inMonth M w.date.day w.date.day_mem.1) w).toMicros + usPerDay
        ≤ (Wall.combine (Date.inMonth N w.date.day w.date.day_mem.1) w).toMicros := by
    intro M N hMN
    have hlt := Date.toOrdinal_lt_of_monthIndex_lt
      (d := Date.inMonth M w.date.day w.date.day_mem.1)
      (e := Date.inMonth N w.date.day w.date.day_mem.1) (by simpa using hMN)
    simp only [Wall.toMicros, Wall.date_combine, Wall.time_combine, usPerDay]
    omega
  cases unit with
  | day | week =>
    simp only [shiftedLocal, Wall.toMicros_ofMicros, usPerDay]
    omega
  | month | year =>
    refine hmonth _ _ ?_
    simp only [monthsOf]
    split_ifs <;> omega

/-- The instant `count` units after the aligned start, at offset `o`. -/
def boundary (o : ℤ) (aligned : ℤ) (unit : IntervalUnit) (count : ℤ) : ℤ :=
  (shiftedLocal (Wall.ofMicros (aligned + o)) unit count).toMicros - o

/-- The aligned start is boundary 0. -/
@[simp] lemma boundary_zero (o : ℤ) (aligned : ℤ) (unit : IntervalUnit) :
    boundary o aligned unit 0 = aligned := by
  simp [boundary, shiftedLocal_zero]

/-- Later boundaries are at least a day later. -/
lemma boundary_add_day_le (o : ℤ) (aligned : ℤ) (unit : IntervalUnit) (h : m < n) :
    boundary o aligned unit m + usPerDay ≤ boundary o aligned unit n := by
  have := shiftedLocal_add_day_le (Wall.ofMicros (aligned + o)) unit h
  unfold boundary
  omega

lemma boundary_lt (o : ℤ) (aligned : ℤ) (unit : IntervalUnit) (h : m < n) :
    boundary o aligned unit m < boundary o aligned unit n := by
  have := boundary_add_day_le o aligned unit h
  have : (0 : ℤ) < usPerDay := by decide
  omega

lemma boundary_le (o : ℤ) (aligned : ℤ) (unit : IntervalUnit) (h : m ≤ n) :
    boundary o aligned unit m ≤ boundary o aligned unit n := by
  rcases h.lt_or_eq with hlt | rfl
  · exact (boundary_lt o aligned unit hlt).le
  · exact le_rfl

/-! ## The code computes them -/

section Fixed

variable {c : BillingCadence} {o i : ℤ} {p : Interval}

/-- **`shift` is `boundary`**, wherever the calendar reaches. -/
theorem shift_eq_ok_iff (hz : c.zone.IsFixed o) (hr : c.endOfMonthRule = .clampToMonthEnd)
    {a t : ℤ} {unit : IntervalUnit} {count : ℤ} :
    shift a unit count c = .ok t ↔
      (Wall.ofMicros (a + o)).date.InRange ∧ t = boundary o a unit count ∧ Representable o t := by
  simp only [shift, hr, bind_eq_ok, inCalendar_eq_ok, Zone.toLocal_eq_some, shiftLocal_eq_ok,
    Zone.toUtc_eq_some, hz.localWall, hz.2]
  have hlocal : ∀ {t}, t = boundary o a unit count →
      Wall.ofMicros (t + o) = shiftedLocal (Wall.ofMicros (a + o)) unit count := by
    rintro t rfl
    rw [boundary, sub_add_cancel, Wall.ofMicros_toMicros]
  constructor
  · rintro ⟨w, ⟨rfl, ha⟩, v, ⟨rfl, hv⟩, ht, hu⟩
    exact ⟨ha, ht, by rwa [hlocal ht], hu⟩
  · rintro ⟨ha, ht, hl, hu⟩
    exact ⟨_, ⟨rfl, ha⟩, _, ⟨rfl, hlocal ht ▸ hl⟩, ht, hu⟩

/-- The interval the code computes for period `index`. -/
theorem nthInterval_eq_ok_iff (hz : c.zone.IsFixed o) (hr : c.endOfMonthRule = .clampToMonthEnd)
    {a : ℤ} {unit : IntervalUnit} {count index : ℤ} :
    nthInterval a unit count index c = .ok p ↔
      (Wall.ofMicros (a + o)).date.InRange ∧
        (p.startsAt = boundary o a unit (count * index) ∧
          (index = 0 ∨ Representable o p.startsAt)) ∧
        p.endsAt = boundary o a unit (count * (index + 1)) ∧ Representable o p.endsAt := by
  simp only [nthInterval, bind_eq_ok, interval_eq_ok, shift_eq_ok_iff hz hr]
  by_cases h0 : index = 0
  · subst h0
    simp only [if_true, Except.ok.injEq, mul_zero, boundary_zero, true_or, and_true]
    constructor
    · rintro ⟨s, rfl, e, ⟨ha, he, hre⟩, hps, rfl⟩
      exact ⟨ha, hps, he, hre⟩
    · rintro ⟨ha, hs, he, hre⟩
      exact ⟨a, rfl, p.endsAt, ⟨ha, he, hre⟩, hs, rfl⟩
  · simp only [h0, if_false, false_or, shift_eq_ok_iff hz hr]
    constructor
    · rintro ⟨s, ⟨ha, rfl, hs⟩, e, ⟨-, rfl, he⟩, hps, hpe⟩
      exact ⟨ha, ⟨hps, hps ▸ hs⟩, hpe, hpe ▸ he⟩
    · rintro ⟨ha, ⟨hs, hrs⟩, he, hre⟩
      exact ⟨p.startsAt, ⟨ha, hs, hrs⟩, p.endsAt, ⟨ha, he, hre⟩, rfl, rfl⟩

lemma servicePeriod_eq_ok_iff {m : Moment} :
    servicePeriod c m i = .ok p ↔ 0 ≤ i ∧ ∃ s, m = .aware s ∧ ∃ a, alignStart s c = .ok a ∧
      nthInterval a c.serviceIntervalUnit c.serviceIntervalCount i c = .ok p := by
  unfold servicePeriod periodAt
  cases m with
  | naive w => simp [requireAware, bind_eq_ok]
  | aware s =>
    simp only [requireAware, bind_eq_ok, ensure_eq_ok, Except.ok.injEq, exists_eq_left',
      Moment.aware.injEq, exists_const]

/-- **The boundaries of a returned period.** -/
theorem servicePeriod_spec (hz : c.zone.IsFixed o) (hr : c.endOfMonthRule = .clampToMonthEnd)
    {s : ℤ} (h : servicePeriod c (.aware s) i = .ok p) :
    0 ≤ i ∧ ∃ a, alignStart s c = .ok a ∧
      p.startsAt = boundary o a c.serviceIntervalUnit (c.serviceIntervalCount * i) ∧
      p.endsAt = boundary o a c.serviceIntervalUnit (c.serviceIntervalCount * (i + 1)) := by
  obtain ⟨hi, s', hs, a, ha, hn⟩ := servicePeriod_eq_ok_iff.mp h
  obtain rfl := Moment.aware.inj hs
  obtain ⟨-, ⟨hps, -⟩, hpe, -⟩ := (nthInterval_eq_ok_iff hz hr).mp hn
  exact ⟨hi, a, ha, hps, hpe⟩

/-! ## What can go wrong: only the calendar -/

abbrev OnlyCalendar {α : Type} (x : Except CadenceError α) : Prop :=
  RefusesOnly (· = .calendarRange) x

lemma onlyCalendar_inCalendar {α : Type} (x : Option α) : OnlyCalendar (inCalendar x) :=
  refusesOnly_orRefuse fun _ => rfl

lemma onlyCalendar_addMonths (d : Date) (months : ℤ) (rule : EndOfMonthRule) :
    OnlyCalendar (addMonths d months rule) := by
  unfold addMonths
  dsimp only
  split_ifs
  · exact (onlyCalendar_inCalendar _).map
  · cases rule with
    | clampToMonthEnd => exact (onlyCalendar_inCalendar _).map
    | strictSameDayOrSkip => exact refusesOnly_pure _

lemma onlyCalendar_shift (hr : c.endOfMonthRule = .clampToMonthEnd) (a : ℤ)
    (unit : IntervalUnit) (count : ℤ) : OnlyCalendar (shift a unit count c) := by
  have hlocal : ∀ w, OnlyCalendar (shiftLocal a w unit count c.endOfMonthRule) := by
    intro w
    cases unit with
    | day | week => exact onlyCalendar_inCalendar _
    | month | year =>
      refine (onlyCalendar_addMonths _ _ _).bind fun r h => ?_
      rw [hr, addMonths_clamp_eq_ok] at h
      obtain ⟨rfl, -⟩ := h
      exact refusesOnly_pure _
  exact (onlyCalendar_inCalendar _).bind fun w _ =>
    (hlocal w).bind fun v _ => onlyCalendar_inCalendar _

lemma onlyCalendar_alignStart (s : ℤ) : OnlyCalendar (alignStart s c) := by
  have hstart : ∀ w unit, OnlyCalendar (calendarStart w unit) := by
    intro w unit
    cases unit with
    | day => exact refusesOnly_pure _
    | week => exact onlyCalendar_inCalendar _
    | month | year => exact (onlyCalendar_inCalendar _).bind fun _ _ => refusesOnly_pure _
  have hanchor : ∀ w d rule, OnlyCalendar (anchoredStart w d rule) := by
    intro w d rule
    refine (onlyCalendar_inCalendar _).bind fun x _ => ?_
    dsimp only
    split_ifs
    · refine (onlyCalendar_addMonths _ _ _).bind fun r _ => ?_
      cases r <;> exact refusesOnly_pure _
    · exact refusesOnly_pure _
  unfold alignStart
  cases hal : c.alignment with
  | contractAnniversary => exact refusesOnly_pure _
  | calendarPeriodStart =>
    exact (onlyCalendar_inCalendar _).bind fun w _ =>
      (hstart _ _).bind fun _ _ => onlyCalendar_inCalendar _
  | fixedAnchorDay =>
    refine (onlyCalendar_inCalendar _).bind fun w _ => ?_
    refine (refusesOnly_orRefuse fun h => ?_).bind fun d _ =>
      (hanchor _ _ _).bind fun _ _ => onlyCalendar_inCalendar _
    -- the constructor has checked that the anchor day is declared
    have := c.anchorDay_isSome hal
    simp [h] at this

/-- **A period is refused only when it leaves the calendar.** -/
theorem onlyCalendar_servicePeriod (hz : c.zone.IsFixed o)
    (hr : c.endOfMonthRule = .clampToMonthEnd) (s : ℤ) (hi : 0 ≤ i) :
    OnlyCalendar (servicePeriod c (.aware s) i) := by
  have hk := c.count_pos.1
  refine (refusesOnly_ok s).bind fun s' hs => ?_
  refine (refusesOnly_ensure fun h => absurd hi h).bind fun _ _ => ?_
  refine (onlyCalendar_alignStart s').bind fun a _ => ?_
  have hstart : OnlyCalendar (if i = 0 then .ok a
      else shift a c.serviceIntervalUnit (c.serviceIntervalCount * i) c) := by
    split_ifs
    · exact refusesOnly_ok _
    · exact onlyCalendar_shift hr _ _ _
  refine hstart.bind fun b hb => (onlyCalendar_shift hr _ _ _).bind fun e he => ?_
  -- the interval is well formed because boundaries grow
  have hlt : b < e := by
    obtain ⟨-, rfl, -⟩ := (shift_eq_ok_iff hz hr).mp he
    have hb' : b = boundary o a c.serviceIntervalUnit (c.serviceIntervalCount * i) := by
      by_cases h0 : i = 0
      · simp only [h0, if_true, Except.ok.injEq] at hb
        simp [h0, hb]
      · simp only [h0, if_false, shift_eq_ok_iff hz hr] at hb
        exact hb.2.1
    rw [hb']
    exact boundary_lt _ _ _ (by nlinarith)
  simp only [interval, hlt, dif_pos]
  exact refusesOnly_ok _

/-- The calendar that holds a period holds every earlier one. -/
lemma servicePeriod_of_later (hz : c.zone.IsFixed o) (hr : c.endOfMonthRule = .clampToMonthEnd)
    {s i j : ℤ} {q : Interval} (h : servicePeriod c (.aware s) j = .ok q) (hi : 0 ≤ i)
    (hij : i ≤ j) : ∃ p, servicePeriod c (.aware s) i = .ok p := by
  have hk := c.count_pos.1
  obtain ⟨hj, s', hs, a, ha, hn⟩ := servicePeriod_eq_ok_iff.mp h
  obtain ⟨hlocal, -, hqe, hrep⟩ := (nthInterval_eq_ok_iff hz hr).mp hn
  -- every boundary after the aligned start and up to the last one is representable
  have hbetween : ∀ n, 0 < n → n ≤ j + 1 →
      Representable o (boundary o a c.serviceIntervalUnit (c.serviceIntervalCount * n)) := by
    intro n hn0 hnj
    have hlow := boundary_add_day_le o a c.serviceIntervalUnit
      (show 0 < c.serviceIntervalCount * n by positivity)
    have hhigh := boundary_le o a c.serviceIntervalUnit
      (show c.serviceIntervalCount * n ≤ c.serviceIntervalCount * (j + 1) by nlinarith)
    have ho := abs_lt.mp hz.abs_lt
    rw [boundary_zero] at hlow
    rw [Wall.inRange_iff, Wall.toMicros_ofMicros] at hlocal
    rw [hqe, representable_iff] at hrep
    rw [representable_iff]
    omega
  have hlt := boundary_lt o a c.serviceIntervalUnit
    (show c.serviceIntervalCount * i < c.serviceIntervalCount * (i + 1) by nlinarith)
  refine ⟨⟨_, _, hlt⟩, servicePeriod_eq_ok_iff.mpr ⟨hi, s', hs, a, ha, ?_⟩⟩
  refine (nthInterval_eq_ok_iff hz hr).mpr ⟨hlocal, ⟨rfl, ?_⟩, rfl, ?_⟩
  · rcases hi.eq_or_lt with h0 | h0
    · exact .inl h0.symm
    · exact .inr (hbetween i h0 (by omega))
  · exact hbetween (i + 1) (by omega) (by omega)

lemma periodWalk_eq_ok {s t : ℤ} {maxPeriods j : ℕ} {q : Interval}
    (hq : servicePeriod c (.aware s) j = .ok q) (hqt : q.contains t) :
    ∀ remaining index, index ≤ j → j < index + remaining →
      (∀ i : ℕ, index ≤ i → i < j → ∃ p, servicePeriod c (.aware s) i = .ok p ∧ ¬ p.contains t) →
      periodWalk c s t maxPeriods remaining index = .ok (j, q)
  | 0, index, hle, hlt, _ => absurd hlt (by omega)
  | remaining + 1, index, hle, hlt, hbefore => by
    rw [periodWalk]
    rcases hle.eq_or_lt with rfl | hindex
    · rw [hq]
      exact if_pos hqt
    · obtain ⟨p, hp, hpt⟩ := hbefore index le_rfl hindex
      rw [hp]
      refine (if_neg hpt).trans ?_
      exact periodWalk_eq_ok hq hqt remaining (index + 1) hindex (by omega)
        fun i hi => hbefore i (by omega)

/-- **Service periods partition time.**  Periods are refused only past the calendar, are never
empty, meet end to start and grow; and the walk finds the one period of every moment from the
first boundary to the end of a period within its bound. -/
theorem servicePeriod_partition (hz : c.zone.IsFixed o) (hr : c.endOfMonthRule = .clampToMonthEnd)
    (s : ℤ) :
    (∀ i, 0 ≤ i → OnlyCalendar (servicePeriod c (.aware s) i)) ∧
    (∀ i p, servicePeriod c (.aware s) i = .ok p → p.startsAt < p.endsAt) ∧
    (∀ i p q, servicePeriod c (.aware s) i = .ok p → servicePeriod c (.aware s) (i + 1) = .ok q →
      p.endsAt = q.startsAt) ∧
    (∀ i j p q, i < j → servicePeriod c (.aware s) i = .ok p →
      servicePeriod c (.aware s) j = .ok q → p.startsAt < q.startsAt ∧ p.endsAt < q.endsAt) ∧
    ∀ (t : ℤ) (maxPeriods j : ℕ) (p q : Interval), j < maxPeriods →
      servicePeriod c (.aware s) 0 = .ok p → servicePeriod c (.aware s) j = .ok q →
      p.startsAt ≤ t → t < q.endsAt →
      ∃ i r, periodContaining c s (.aware t) maxPeriods = .ok (i, r) ∧
        servicePeriod c (.aware s) i = .ok r ∧ r.contains t ∧
        ∀ i' r', servicePeriod c (.aware s) i' = .ok r' → r'.contains t → i' = i := by
  have hk := c.count_pos.1
  refine ⟨fun i hi => onlyCalendar_servicePeriod hz hr s hi, fun i p _ => p.starts_lt_ends, ?_, ?_,
    ?_⟩
  · intro i p q hp hq
    obtain ⟨-, a, ha, -, hpe⟩ := servicePeriod_spec hz hr hp
    obtain ⟨-, a', ha', hqs, -⟩ := servicePeriod_spec hz hr hq
    obtain rfl := Except.ok.inj (ha.symm.trans ha')
    rw [hpe, hqs]
  · intro i j p q hij hp hq
    obtain ⟨-, a, ha, hps, hpe⟩ := servicePeriod_spec hz hr hp
    obtain ⟨-, a', ha', hqs, hqe⟩ := servicePeriod_spec hz hr hq
    obtain rfl := Except.ok.inj (ha.symm.trans ha')
    rw [hps, hqs, hpe, hqe]
    exact ⟨boundary_lt _ _ _ (by nlinarith), boundary_lt _ _ _ (by nlinarith)⟩
  · intro t maxPeriods j p q hj hp hq hpt htq
    obtain ⟨-, a, ha, hps, -⟩ := servicePeriod_spec hz hr hp
    obtain ⟨-, a', ha', -, hqe⟩ := servicePeriod_spec hz hr hq
    obtain rfl := Except.ok.inj (ha.symm.trans ha')
    -- the boundaries, as a growing sequence
    let b : ℕ → ℤ := fun n => boundary o a c.serviceIntervalUnit (c.serviceIntervalCount * n)
    have hb : StrictMono b := fun m n hmn => boundary_lt _ _ _ (by
      have : (m : ℤ) < n := by exact_mod_cast hmn
      nlinarith)
    have hpiece : ∀ (i : ℕ) r, servicePeriod c (.aware s) i = .ok r →
        (r.contains t ↔ Boundaries.InPiece b i t) := by
      intro i r h
      obtain ⟨-, a', ha', hrs, hre⟩ := servicePeriod_spec hz hr h
      obtain rfl := Except.ok.inj (ha.symm.trans ha')
      rw [Interval.contains, hrs, hre, Boundaries.InPiece]
      rfl
    have h0 : b 0 ≤ t := by simpa [b, hps] using hpt
    obtain ⟨i, hi, hin⟩ := Boundaries.exists_piece h0 (j + 1) (by simpa [b, hqe] using htq)
    have hexists : ∀ i : ℕ, i ≤ j → ∃ r, servicePeriod c (.aware s) i = .ok r := fun i hi =>
      servicePeriod_of_later hz hr hq (by omega) (by exact_mod_cast hi)
    obtain ⟨r, hri⟩ := hexists i (by omega)
    have hrt := (hpiece i r hri).mpr hin
    have hunique : ∀ i' r', servicePeriod c (.aware s) i' = .ok r' → r'.contains t → i' = i := by
      intro i' r' h ht
      lift i' to ℕ using (servicePeriod_spec hz hr h).1
      exact_mod_cast Boundaries.piece_unique hb ((hpiece i' r' h).mp ht) hin
    refine ⟨i, r, ?_, hri, hrt, hunique⟩
    have hwalk : periodWalk c s t maxPeriods maxPeriods 0 = .ok (i, r) := by
      refine periodWalk_eq_ok hri hrt maxPeriods 0 (Nat.zero_le _) (by omega) fun i' _ hi' => ?_
      obtain ⟨r', hr'⟩ := hexists i' (by omega)
      refine ⟨r', hr', fun ht => ?_⟩
      have := hunique i' r' hr' ht
      omega
    simp only [periodContaining, requireAware, bind_eq_ok, ensure_eq_ok]
    refine ⟨t, rfl, a, ha, (), ?_, hwalk⟩
    simpa [hps] using hpt

end Fixed

/-! ## A monthly anniversary on the 31st -/

def utc : Zone := Zone.fixed "UTC" 0 (by decide)

/-- Midnight UTC, `day - 1` days into a month. -/
def utcMidnight (year month day : ℤ) : ℤ :=
  (daysBeforeYear year + daysBeforeMonth year month + day) * usPerDay

/-- A fixed monthly price, billed monthly in advance on the contract anniversary. -/
def monthlyTerms : CadenceTerms where
  rateBasis := .fixedPerServicePeriod
  rateUnit := .month
  rateQuantity := 1
  serviceIntervalUnit := .month
  serviceIntervalCount := 1
  invoiceIntervalUnit := .month
  invoiceIntervalCount := 1
  collectionTiming := .advance
  alignment := .contractAnniversary
  timezoneName := "UTC"
  endOfMonthRule := .clampToMonthEnd
  prorationPolicy := .none
  anchorDay := none

def monthly : BillingCadence :=
  ⟨monthlyTerms, utc, by decide, by decide, by simp [monthlyTerms], by simp [monthlyTerms]⟩

/-- 1 March is in the February period of a contract that started on 31 January. -/
theorem servicePeriod_partition_monthly : ∃ i r,
    periodContaining monthly (utcMidnight 2026 1 31) (.aware (utcMidnight 2026 3 1))
        defaultMaxPeriods = .ok (i, r) ∧
      r.contains (utcMidnight 2026 3 1) := by
  obtain ⟨i, r, h, -, hr, -⟩ := (servicePeriod_partition (c := monthly) (o := 0)
    (Zone.fixed_isFixed _ _ _) rfl (utcMidnight 2026 1 31)).2.2.2.2 (utcMidnight 2026 3 1)
    defaultMaxPeriods 1 ⟨utcMidnight 2026 1 31, utcMidnight 2026 2 28, by decide⟩
    ⟨utcMidnight 2026 2 28, utcMidnight 2026 3 31, by decide⟩ (by decide) (by rfl) (by rfl)
    (by decide) (by decide)
  exact ⟨i, r, h, hr⟩

end Cadence

end DotmacSub
