import DotmacSub.Billing.ServicePeriods
import DotmacSub.Models.PrepaidRenewal

/-!
# The running cycle

The periods of `billing_automation.py`: a run takes the anchor of a subscription to the end of the
period it bills, and the next run starts there.  A contract cadence measures every period from the
first anchor instead.
-/

namespace DotmacSub.BillingAutomation

open Gregorian Cadence PrepaidService

/-- `_add_months`: the day is clamped to the month; a year outside the calendar raises. -/
def addMonths (value : Wall) (months : ℤ) : Option Wall :=
  let total := value.date.month - 1 + months
  let year := value.date.year + total / 12
  let month := total % 12 + 1
  let day := min value.date.day (daysInMonth year month)
  (Date.new? year month day).map (Wall.combine · value)

/-- `_period_end`: the end of the period that starts at an instant. -/
def periodEnd (start : ℤ) (cycle : BillingCycle) : Option ℤ := do
  let value ← utc.toLocal start
  let shifted ← match cycle with
    | .daily => value.addDays 1
    | .weekly => value.addDays 7
    | .monthly => addMonths value 1
    | .quarterly => addMonths value 3
    | .annual => addMonths value 12
  utc.toUtc shifted

def cycleMonths : BillingCycle → Option ℤ
  | .daily | .weekly => none
  | .monthly => some 1
  | .quarterly => some 3
  | .annual => some 12

section PeriodEnd

variable {start end_ months : ℤ} {cycle : BillingCycle}

lemma utc_isFixed : utc.IsFixed 0 := Zone.fixed_isFixed _ _ _

lemma addMonths_eq_some {value shifted : Wall} : addMonths value months = some shifted ↔
    shifted = shiftedLocal value .month months ∧ shifted.date.InRange := by
  have hy : value.date.year + (value.date.month - 1 + months) / 12 =
      (value.date.monthIndex + months) / 12 := by
    simp only [Date.monthIndex]
    omega
  have hm : (value.date.month - 1 + months) % 12 + 1 =
      (value.date.monthIndex + months) % 12 + 1 := by
    simp only [Date.monthIndex]
    omega
  have hshift : shiftedLocal value .month months = Wall.combine (Date.inMonth
      (value.date.monthIndex + months) value.date.day value.date.day_mem.1) value := by
    simp [shiftedLocal, monthsOf]
  unfold addMonths
  simp only [hy, hm]
  rw [Option.map_eq_some_iff, hshift]
  constructor
  · rintro ⟨d, hd, rfl⟩
    obtain ⟨rfl, hrange⟩ := (Date.new?_inMonth _ _ value.date.day_mem.1).mp hd
    exact ⟨rfl, hrange⟩
  · rintro ⟨rfl, hrange⟩
    exact ⟨_, (Date.new?_inMonth _ _ value.date.day_mem.1).mpr ⟨rfl, hrange⟩, rfl⟩

lemma periodEnd_eq_some (hcycle : cycleMonths cycle = some months) :
    periodEnd start cycle = some end_ ↔ (utc.localWall start).date.InRange ∧
      end_ = boundary 0 start .month months ∧ (utc.localWall end_).date.InRange := by
  have hbody : periodEnd start cycle = (do
      let value ← utc.toLocal start
      let shifted ← addMonths value months
      utc.toUtc shifted) := by
    cases cycle <;> cases hcycle <;> rfl
  rw [hbody]
  simp only [Option.bind_eq_bind, Option.bind_eq_some_iff, Zone.toLocal_eq_some,
    addMonths_eq_some, Zone.toUtc_eq_some, utc_isFixed.localWall, utc_isFixed.2, add_zero,
    boundary, sub_zero]
  constructor
  · rintro ⟨_, ⟨rfl, hstart⟩, shifted, ⟨rfl, hrange⟩, rfl, -⟩
    refine ⟨hstart, rfl, ?_⟩
    rwa [Wall.ofMicros_toMicros]
  · rintro ⟨hstart, rfl, hrange⟩
    rw [Wall.ofMicros_toMicros] at hrange
    refine ⟨_, ⟨rfl, hstart⟩, _, ⟨rfl, hrange⟩, rfl, ?_⟩
    simpa using hrange

lemma lt_of_periodEnd (h : periodEnd start cycle = some end_) : start < end_ := by
  have hmonths : ∀ {k : ℤ}, cycleMonths cycle = some k → 0 < k → start < end_ := by
    intro k hk hpos
    obtain ⟨-, rfl, -⟩ := (periodEnd_eq_some hk).mp h
    calc start = boundary 0 start .month 0 := (boundary_zero 0 start .month).symm
      _ < boundary 0 start .month k := boundary_lt 0 start .month hpos
  have hdays : ∀ {n : ℤ}, 0 < n → (do
      let value ← utc.toLocal start
      let shifted ← value.addDays n
      utc.toUtc shifted) = some end_ → start < end_ := by
    intro n hn h
    simp only [Option.bind_eq_bind, Option.bind_eq_some_iff, Zone.toLocal_eq_some,
      Zone.toUtc_eq_some, utc_isFixed.localWall, utc_isFixed.2, add_zero, sub_zero,
      Wall.addDays_eq_some] at h
    obtain ⟨_, ⟨rfl, -⟩, shifted, ⟨hshifted, -⟩, rfl, -⟩ := h
    rw [hshifted, Wall.toMicros_ofMicros]
    have : 0 < n * usPerDay := mul_pos hn (by decide)
    omega
  cases cycle with
  | daily => exact hdays (n := 1) (by decide) h
  | weekly => exact hdays (n := 7) (by decide) h
  | monthly => exact hmonths rfl (by decide)
  | quarterly => exact hmonths rfl (by decide)
  | annual => exact hmonths rfl (by decide)

end PeriodEnd

/-- The loop over wholly past periods: those it passes over, and the one it stops at. -/
def fastForward (cycle : BillingCycle) (runAt start end_ : ℤ) : Option (List (ℤ × ℤ)) :=
  if _hpast : end_ ≤ runAt then
    match _hnext : periodEnd end_ cycle with
    | none => none
    | some next => (fastForward cycle runAt end_ next).map ((start, end_) :: ·)
  else some [(start, end_)]
termination_by (runAt + 1 - end_).toNat
decreasing_by
  have := lt_of_periodEnd _hnext
  omega

/-- What a run walks over: nothing before the anchor, else every period up to the one it bills. -/
def cycleRun (cycle : BillingCycle) (anchor runAt : ℤ) : Option (List (ℤ × ℤ)) :=
  if runAt < anchor then some []
  else do
    let end_ ← periodEnd anchor cycle
    fastForward cycle runAt anchor end_

/-- The anchor after a run: the end of the period it billed. -/
def nextAnchor (anchor : ℤ) (walked : List (ℤ × ℤ)) : ℤ :=
  (walked.getLast?.map (·.2)).getD anchor

/-- The periods of a subscription over its runs; a run that raises leaves it as it is. -/
def periods (cycle : BillingCycle) (anchor : ℤ) : List ℤ → List (ℤ × ℤ)
  | [] => []
  | runAt :: runs =>
    match cycleRun cycle anchor runAt with
    | none => periods cycle anchor runs
    | some walked => walked ++ periods cycle (nextAnchor anchor walked) runs

/-- Periods that follow each other from an anchor. -/
def IsWalk (cycle : BillingCycle) : ℤ → List (ℤ × ℤ) → Prop
  | _, [] => True
  | anchor, period :: walked => period.1 = anchor ∧ periodEnd anchor cycle = some period.2 ∧
      IsWalk cycle period.2 walked

section Walks

variable {cycle : BillingCycle} {anchor runAt start end_ months : ℤ} {walked : List (ℤ × ℤ)}
  {runs : List ℤ}

lemma IsWalk.append : ∀ {walked later : List (ℤ × ℤ)} {anchor : ℤ}, IsWalk cycle anchor walked →
    IsWalk cycle (nextAnchor anchor walked) later → IsWalk cycle anchor (walked ++ later)
  | [], _, _, _, hlater => hlater
  | period :: walked, later, anchor, h, hlater => by
    refine ⟨h.1, h.2.1, IsWalk.append h.2.2 ?_⟩
    cases walked with
    | nil => exact hlater
    | cons next walked =>
      rw [nextAnchor, List.getLast?_cons_cons] at hlater
      rw [nextAnchor]
      obtain ⟨last, hlast⟩ := Option.isSome_iff_exists.mp
        (List.getLast?_isSome.mpr (List.cons_ne_nil next walked))
      rw [hlast] at hlater ⊢
      exact hlater

/-- The loop walks on from the period it is given. -/
lemma isWalk_fastForward : ∀ {start end_ : ℤ} {walked : List (ℤ × ℤ)},
    fastForward cycle runAt start end_ = some walked →
      ∃ later, walked = (start, end_) :: later ∧ IsWalk cycle end_ later := by
  intro start end_
  induction start, end_ using fastForward.induct cycle runAt with
  | case1 start end_ hpast hend =>
    intro walked h
    rw [fastForward, dif_pos hpast] at h
    split at h
    · cases h
    · rename_i next hnext
      rw [hend] at hnext
      cases hnext
  | case2 start end_ hpast next hend ih =>
    intro walked h
    rw [fastForward, dif_pos hpast] at h
    split at h
    · cases h
    · rename_i next' hnext
      obtain rfl := Option.mem_unique hend hnext
      obtain ⟨later, hlater, rfl⟩ := Option.map_eq_some_iff.mp h
      obtain ⟨rest, rfl, hrest⟩ := ih hlater
      exact ⟨_, rfl, rfl, hend, hrest⟩
  | case3 start end_ hpast =>
    intro walked h
    rw [fastForward, dif_neg hpast] at h
    obtain rfl := Option.some.inj h
    exact ⟨[], rfl, trivial⟩

lemma isWalk_cycleRun (h : cycleRun cycle anchor runAt = some walked) :
    IsWalk cycle anchor walked := by
  unfold cycleRun at h
  split_ifs at h
  · obtain rfl := Option.some.inj h
    trivial
  · obtain ⟨end_, hend, hwalked⟩ := Option.bind_eq_some_iff.mp h
    obtain ⟨later, rfl, hlater⟩ := isWalk_fastForward hwalked
    exact ⟨rfl, hend, hlater⟩

theorem isWalk_periods : ∀ (runs : List ℤ) (anchor : ℤ),
    IsWalk cycle anchor (periods cycle anchor runs)
  | [], _ => trivial
  | runAt :: runs, anchor => by
    rw [periods]
    split
    · exact isWalk_periods runs anchor
    · rename_i walked hwalked
      exact (isWalk_cycleRun hwalked).append (isWalk_periods runs _)

lemma periods_cons_anchor (hend : periodEnd anchor cycle = some end_) :
    periods cycle anchor (anchor :: runs) = (anchor, end_) :: periods cycle end_ runs := by
  have hlt := lt_of_periodEnd hend
  have hrun : cycleRun cycle anchor anchor = some [(anchor, end_)] := by
    rw [cycleRun, if_neg (lt_irrefl _), hend, Option.bind_eq_bind, Option.bind_some, fastForward,
      dif_neg (by omega)]
  rw [periods, hrun]
  rfl

theorem exists_runs : ∀ {walked : List (ℤ × ℤ)} {anchor : ℤ}, IsWalk cycle anchor walked →
    ∃ runs, periods cycle anchor runs = walked
  | [], _, _ => ⟨[], rfl⟩
  | (start, end_) :: walked, anchor, ⟨hstart, hend, h⟩ => by
    obtain ⟨runs, rfl⟩ := exists_runs h
    obtain rfl : start = anchor := hstart
    exact ⟨start :: runs, periods_cons_anchor hend⟩

end Walks

/-! ## The boundaries in closed form -/

/-- The boundaries of a walk: each the clamped months after the one before. -/
def chained (anchor months : ℤ) : ℕ → ℤ
  | 0 => anchor
  | i + 1 => boundary 0 (chained anchor months i) .month months

/-- The day of the month a chain of clamped steps is at. -/
def chainDay (anchor : Date) (months : ℤ) : ℕ → ℤ
  | 0 => anchor.day
  | i + 1 => min (chainDay anchor months i) (monthLength (anchor.monthIndex + months * (i + 1)))

/-- No boundary is in a month too short for the day of the anchor before another one, inside the
calendar, is in a longer month. -/
def KeepsDay (anchor : Date) (months : ℤ) : Prop :=
  ∀ i j : ℕ, i ≤ j → (anchor.monthIndex + months * j) / 12 ≤ 9999 →
    monthLength (anchor.monthIndex + months * i) < anchor.day →
      monthLength (anchor.monthIndex + months * j) ≤ monthLength (anchor.monthIndex + months * i)

section Chained

variable {anchor months : ℤ} {date : Date} {i j : ℕ}

lemma chainDay_pos (i : ℕ) : 1 ≤ chainDay date months i := by
  induction i with
  | zero => exact date.day_mem.1
  | succ i ih =>
    have hlength := monthLength_bounds (date.monthIndex + months * (i + 1))
    exact le_min ih (by omega)

lemma chainDay_le_monthLength (i : ℕ) :
    chainDay date months i ≤ monthLength (date.monthIndex + months * i) := by
  cases i with
  | zero =>
    rw [Nat.cast_zero, mul_zero, add_zero]
    exact date.day_le_monthLength
  | succ i => exact (min_le_right _ _).trans_eq (by push_cast; rfl)

lemma chainDay_antitone (h : i ≤ j) : chainDay date months j ≤ chainDay date months i := by
  induction j, h using Nat.le_induction with
  | base => exact le_rfl
  | succ j _ ih => exact (min_le_left _ _).trans ih

/-- **The day is that of the anchor**, as far as each month allows, exactly if no boundary is cut
before a longer month. -/
lemma chainDay_eq_iff (n : ℕ) :
    (∀ j ≤ n, chainDay date months j = min date.day (monthLength (date.monthIndex + months * j))) ↔
      ∀ i j : ℕ, i ≤ j → j ≤ n → monthLength (date.monthIndex + months * i) < date.day →
        monthLength (date.monthIndex + months * j) ≤
          monthLength (date.monthIndex + months * i) := by
  constructor
  · intro h i j hij hj hshort
    have hday := h j hj
    have hle : chainDay date months j ≤ monthLength (date.monthIndex + months * i) :=
      (chainDay_antitone hij).trans (chainDay_le_monthLength i)
    rw [hday, min_le_iff] at hle
    exact hle.resolve_left hshort.not_ge
  · intro h j hj
    induction j with
    | zero =>
      rw [Nat.cast_zero, mul_zero, add_zero, min_eq_left date.day_le_monthLength, chainDay]
    | succ j ih =>
      rw [chainDay, ih (by omega), ← Nat.cast_succ]
      rcases le_or_gt date.day (monthLength (date.monthIndex + months * j)) with hlong | hshort
      · rw [min_eq_left hlong]
      · have hnext := h j (j + 1) (by omega) hj hshort
        rw [min_eq_right hshort.le, min_eq_right hnext, min_eq_right (hnext.trans hshort.le)]

lemma wall_boundary (n : ℤ) : Wall.ofMicros (boundary 0 anchor .month n) = Wall.combine
    (Date.inMonth ((Wall.ofMicros anchor).date.monthIndex + n) (Wall.ofMicros anchor).date.day
      (Wall.ofMicros anchor).date.day_mem.1) (Wall.ofMicros anchor) := by
  rw [boundary, sub_zero, add_zero, Wall.ofMicros_toMicros]
  simp [shiftedLocal, monthsOf]

/-- The wall clock of a boundary of the walk. -/
lemma wall_chained (i : ℕ) : Wall.ofMicros (chained anchor months i) = Wall.combine
    (Date.inMonth ((Wall.ofMicros anchor).date.monthIndex + months * i)
      (chainDay (Wall.ofMicros anchor).date months i) (chainDay_pos i)) (Wall.ofMicros anchor) := by
  induction i with
  | zero =>
    refine Wall.ext (Date.ext_monthIndex ?_ ?_) rfl
    · simp [chained]
    · have hday := (Wall.ofMicros anchor).date.day_le_monthLength
      rw [Wall.date_combine, Date.day_inMonth, Nat.cast_zero, mul_zero, add_zero, chained, chainDay,
        min_eq_left hday]
  | succ i ih =>
    rw [chained, wall_boundary, ih]
    refine Wall.ext (Date.ext_monthIndex ?_ ?_) rfl
    · simp
      ring
    · have hday : chainDay (Wall.ofMicros anchor).date months i ≤
          monthLength ((Wall.ofMicros anchor).date.monthIndex + months * i) :=
        chainDay_le_monthLength i
      simp [chainDay, min_eq_left hday, mul_add, ← add_assoc]

lemma chained_eq_boundary_iff (i : ℕ) :
    chained anchor months i = boundary 0 anchor .month (months * i) ↔
    chainDay (Wall.ofMicros anchor).date months i = min (Wall.ofMicros anchor).date.day
      (monthLength ((Wall.ofMicros anchor).date.monthIndex + months * i)) := by
  have hday : (Wall.ofMicros (chained anchor months i)).date.day =
      chainDay (Wall.ofMicros anchor).date months i := by
    rw [wall_chained, Wall.date_combine, Date.day_inMonth, min_eq_left (chainDay_le_monthLength i)]
  have hday' : (Wall.ofMicros (boundary 0 anchor .month (months * i))).date.day =
      min (Wall.ofMicros anchor).date.day
        (monthLength ((Wall.ofMicros anchor).date.monthIndex + months * i)) := by
    rw [wall_boundary, Wall.date_combine, Date.day_inMonth]
  rw [← hday, ← hday']
  constructor
  · intro h
    rw [h]
  · intro h
    have hwall : Wall.ofMicros (chained anchor months i) =
        Wall.ofMicros (boundary 0 anchor .month (months * i)) := by
      refine Wall.ext (Date.ext_monthIndex ?_ h) ?_
      · simp [wall_chained, wall_boundary]
      · simp [wall_chained, wall_boundary]
    rw [← Wall.toMicros_ofMicros (chained anchor months i), hwall, Wall.toMicros_ofMicros]

lemma inRange_chained_iff (i : ℕ) : (Wall.ofMicros (chained anchor months i)).date.InRange ↔
    1 ≤ ((Wall.ofMicros anchor).date.monthIndex + months * i) / 12 ∧
      ((Wall.ofMicros anchor).date.monthIndex + months * i) / 12 ≤ 9999 := by
  rw [wall_chained, Wall.date_combine, Date.InRange, Date.year_inMonth]

lemma inRange_boundary_iff (n : ℤ) : (Wall.ofMicros (boundary 0 anchor .month n)).date.InRange ↔
    1 ≤ ((Wall.ofMicros anchor).date.monthIndex + n) / 12 ∧
      ((Wall.ofMicros anchor).date.monthIndex + n) / 12 ≤ 9999 := by
  rw [wall_boundary, Wall.date_combine, Date.InRange, Date.year_inMonth]

lemma chained_succ (i : ℕ) : chained (chained anchor months 1) months i =
    chained anchor months (i + 1) := by
  induction i with
  | zero => rfl
  | succ i ih =>
    show boundary 0 (chained (chained anchor months 1) months i) .month months =
      boundary 0 (chained anchor months (i + 1)) .month months
    rw [ih]

end Chained

/-- A cadence in UTC with the clamp rule, anchored where the contract starts, whose service interval
is as long as a cycle. -/
structure IsClampedAnniversary (cadence : BillingCadence) (cycle : BillingCycle) (months : ℤ) :
    Prop where
  zone : cadence.zone.IsFixed 0
  rule : cadence.endOfMonthRule = .clampToMonthEnd
  alignment : cadence.alignment = .contractAnniversary
  unit : cadence.serviceIntervalUnit = .month ∨ cadence.serviceIntervalUnit = .year
  cycle_months : cycleMonths cycle = some months
  months_eq : monthsOf cadence.serviceIntervalUnit cadence.serviceIntervalCount = months

section Periods

variable {cadence : BillingCadence} {cycle : BillingCycle} {anchor months : ℤ}
  {walked : List (ℤ × ℤ)} {period : Interval}

lemma cycleMonths_pos (h : cycleMonths cycle = some months) : 0 < months := by
  cases cycle <;> cases h <;> decide

/-- A walk is along the chained boundaries, inside the calendar. -/
lemma IsWalk.get (hmonths : cycleMonths cycle = some months) : ∀ {walked : List (ℤ × ℤ)}
    {anchor : ℤ}, IsWalk cycle anchor walked → ∀ {i : ℕ} {p : ℤ × ℤ}, walked[i]? = some p →
      p = (chained anchor months i, chained anchor months (i + 1)) ∧
        (Wall.ofMicros (chained anchor months (i + 1))).date.InRange
  | [], _, _, _, _, hp => by
    rw [List.getElem?_nil] at hp
    cases hp
  | (start, end_) :: walked, anchor, ⟨hstart, hend, h⟩, i, p, hp => by
    obtain ⟨-, hnext, hrange⟩ := (periodEnd_eq_some hmonths).mp hend
    rw [utc_isFixed.localWall, add_zero] at hrange
    obtain rfl : start = anchor := hstart
    obtain rfl : end_ = chained start months 1 := hnext
    cases i with
    | zero =>
      obtain rfl := Option.some.inj hp
      exact ⟨rfl, hrange⟩
    | succ i =>
      obtain ⟨rfl, hlater⟩ := IsWalk.get hmonths h hp
      rw [chained_succ, chained_succ]
      rw [chained_succ] at hlater
      exact ⟨rfl, hlater⟩

/-- The walk reaches as far as the calendar. -/
lemma exists_isWalk (hmonths : cycleMonths cycle = some months) : ∀ (n : ℕ) {anchor : ℤ},
    (Wall.ofMicros anchor).date.InRange →
      (Wall.ofMicros (chained anchor months n)).date.InRange →
        ∃ walked, IsWalk cycle anchor walked ∧ walked.length = n
  | 0, _, _, _ => ⟨[], trivial, rfl⟩
  | n + 1, anchor, hanchor, hrange => by
    have hpos := cycleMonths_pos hmonths
    have hfirst : (Wall.ofMicros (chained anchor months 1)).date.InRange := by
      rw [inRange_chained_iff] at hrange ⊢
      rw [Date.InRange, ← Date.monthIndex_div] at hanchor
      push_cast at hrange ⊢
      have hle : months * 1 ≤ months * (n + 1) := by nlinarith
      omega
    obtain ⟨walked, hwalk, hlength⟩ := exists_isWalk hmonths n hfirst (by rwa [chained_succ])
    refine ⟨(anchor, chained anchor months 1) :: walked, ⟨rfl, ?_, hwalk⟩, by simp [hlength]⟩
    refine (periodEnd_eq_some hmonths).mpr ⟨?_, rfl, ?_⟩
    · rwa [utc_isFixed.localWall, add_zero]
    · rwa [utc_isFixed.localWall, add_zero]

lemma IsClampedAnniversary.servicePeriod_eq_ok_iff (h : IsClampedAnniversary cadence cycle months)
    (hanchor : (Wall.ofMicros anchor).date.InRange) (i : ℕ) :
    servicePeriod cadence (.aware anchor) i = .ok period ↔
      period.startsAt = boundary 0 anchor .month (months * i) ∧
        period.endsAt = boundary 0 anchor .month (months * (i + 1)) ∧
          (Wall.ofMicros period.endsAt).date.InRange := by
  have hpos := cycleMonths_pos h.cycle_months
  have hunit : ∀ n : ℤ, boundary 0 anchor cadence.serviceIntervalUnit
      (cadence.serviceIntervalCount * n) = boundary 0 anchor .month (months * n) := by
    intro n
    have hmonths : monthsOf cadence.serviceIntervalUnit (cadence.serviceIntervalCount * n) =
        months * n := by
      rw [← h.months_eq, monthsOf, monthsOf]
      ring
    rcases h.unit with heq | heq <;>
      simp only [boundary, shiftedLocal, heq] at hmonths ⊢ <;> rw [hmonths] <;> simp [monthsOf]
  rw [Cadence.servicePeriod_eq_ok_iff]
  simp only [alignStart, h.alignment, Moment.aware.injEq, exists_eq_left', pure,
    Except.pure, Except.ok.injEq, nthInterval_eq_ok_iff h.zone h.rule, hunit, Representable,
    add_zero, and_self, Nat.cast_nonneg, true_and, hanchor]
  constructor
  · rintro ⟨⟨hstart, -⟩, hend, hrange⟩
    exact ⟨hstart, hend, hrange⟩
  · rintro ⟨hstart, hend, hrange⟩
    refine ⟨⟨hstart, .inr ?_⟩, hend, hrange⟩
    rw [hstart, inRange_boundary_iff]
    rw [hend, inRange_boundary_iff] at hrange
    rw [Date.InRange, ← Date.monthIndex_div] at hanchor
    have hle : 0 ≤ months * i := by positivity
    have hlt : months * i ≤ months * (i + 1) := by nlinarith
    omega

/-- The billed periods and the service periods, one by one, and the day of the billed ones. -/
structure SamePeriods (cadence : BillingCadence) (cycle : BillingCycle) (anchor : ℤ) : Prop where
  billed : ∀ (runs : List ℤ) (i : ℕ) (p : ℤ × ℤ), (periods cycle anchor runs)[i]? = some p →
    ∃ period, servicePeriod cadence (.aware anchor) i = .ok period ∧
      p = (period.startsAt, period.endsAt)
  served : ∀ (i : ℕ) (period : Interval), servicePeriod cadence (.aware anchor) i = .ok period →
    ∃ runs, (periods cycle anchor runs)[i]? = some (period.startsAt, period.endsAt)
  day : ∀ (runs : List ℤ) (i : ℕ) (p : ℤ × ℤ), (periods cycle anchor runs)[i]? = some p →
    ∀ t, t = p.1 ∨ t = p.2 → (Wall.ofMicros t).date.day =
      min (Wall.ofMicros anchor).date.day (monthLength (Wall.ofMicros t).date.monthIndex)

lemma exists_runs_chained (hmonths : cycleMonths cycle = some months)
    (hanchor : (Wall.ofMicros anchor).date.InRange) {j : ℕ}
    (hrange : (Wall.ofMicros (chained anchor months (j + 1))).date.InRange) :
    ∃ runs, (periods cycle anchor runs)[j]? =
      some (chained anchor months j, chained anchor months (j + 1)) := by
  obtain ⟨walked, hwalk, hlength⟩ := exists_isWalk hmonths (j + 1) hanchor hrange
  obtain ⟨runs, hruns⟩ := exists_runs hwalk
  obtain ⟨p, hp⟩ : ∃ p, walked[j]? = some p := ⟨_, List.getElem?_eq_getElem (by omega)⟩
  exact ⟨runs, by rw [hruns, hp, (hwalk.get hmonths hp).1]⟩

lemma IsClampedAnniversary.keepsDay (h : IsClampedAnniversary cadence cycle months)
    (hanchor : (Wall.ofMicros anchor).date.InRange) (hsame : SamePeriods cadence cycle anchor) :
    KeepsDay (Wall.ofMicros anchor).date months := by
  have hpos := cycleMonths_pos h.cycle_months
  have hday : ∀ j : ℕ, ((Wall.ofMicros anchor).date.monthIndex + months * j) / 12 ≤ 9999 →
      chainDay (Wall.ofMicros anchor).date months j = min (Wall.ofMicros anchor).date.day
        (monthLength ((Wall.ofMicros anchor).date.monthIndex + months * j)) := by
    intro j hj
    rw [← chained_eq_boundary_iff]
    cases j with
    | zero => simp [chained]
    | succ j =>
      have hrange : (Wall.ofMicros (chained anchor months (j + 1))).date.InRange := by
        rw [inRange_chained_iff]
        rw [Date.InRange, ← Date.monthIndex_div] at hanchor
        have hle : 0 ≤ months * ((j + 1 : ℕ) : ℤ) := by positivity
        omega
      obtain ⟨runs, hruns⟩ := exists_runs_chained h.cycle_months hanchor hrange
      obtain ⟨period, hperiod, heq⟩ := hsame.billed runs j _ hruns
      obtain ⟨-, hend, -⟩ := (h.servicePeriod_eq_ok_iff hanchor j).mp hperiod
      rw [(Prod.mk.inj heq).2, hend]
      push_cast
      rfl
  intro i j hij hj
  refine (chainDay_eq_iff j).mp (fun k hk => hday k ?_) i j hij le_rfl
  have hle : months * k ≤ months * j := mul_le_mul_of_nonneg_left (by exact_mod_cast hk) hpos.le
  omega

/-- Where the day is kept, the walk is along the boundaries measured from the anchor. -/
lemma KeepsDay.chained_eq (h : KeepsDay (Wall.ofMicros anchor).date months) (hpos : 0 < months)
    {i j : ℕ} (hij : i ≤ j) (hrange : (Wall.ofMicros (chained anchor months j)).date.InRange) :
    chained anchor months i = boundary 0 anchor .month (months * i) ∧
      (Wall.ofMicros (chained anchor months i)).date.day = min (Wall.ofMicros anchor).date.day
        (monthLength (Wall.ofMicros (chained anchor months i)).date.monthIndex) := by
  rw [inRange_chained_iff] at hrange
  have hday : chainDay (Wall.ofMicros anchor).date months i = min (Wall.ofMicros anchor).date.day
      (monthLength ((Wall.ofMicros anchor).date.monthIndex + months * i)) := by
    refine (chainDay_eq_iff j).mpr (fun k l hkl hl => h k l hkl ?_) i hij
    have hle : months * l ≤ months * j := mul_le_mul_of_nonneg_left (by exact_mod_cast hl) hpos.le
    omega
  refine ⟨(chained_eq_boundary_iff i).mpr hday, ?_⟩
  rw [wall_chained, Wall.date_combine, Date.day_inMonth, Date.monthIndex_inMonth, hday, min_assoc,
    min_self]

lemma IsClampedAnniversary.samePeriods (h : IsClampedAnniversary cadence cycle months)
    (hanchor : (Wall.ofMicros anchor).date.InRange)
    (hkeeps : KeepsDay (Wall.ofMicros anchor).date months) : SamePeriods cadence cycle anchor := by
  have hpos := cycleMonths_pos h.cycle_months
  have hwalked : ∀ (runs : List ℤ) (i : ℕ) (p : ℤ × ℤ), (periods cycle anchor runs)[i]? = some p →
      p = (chained anchor months i, chained anchor months (i + 1)) ∧
        (Wall.ofMicros (chained anchor months (i + 1))).date.InRange :=
    fun runs _ _ hp => (isWalk_periods runs anchor).get h.cycle_months hp
  have hends : ∀ {i : ℕ}, (Wall.ofMicros (chained anchor months (i + 1))).date.InRange →
      chained anchor months i = boundary 0 anchor .month (months * i) ∧
        chained anchor months (i + 1) = boundary 0 anchor .month (months * (i + 1)) := by
    intro i hrange
    have hend := (hkeeps.chained_eq hpos le_rfl hrange).1
    rw [Nat.cast_succ] at hend
    exact ⟨(hkeeps.chained_eq hpos (Nat.le_succ i) hrange).1, hend⟩
  refine ⟨fun runs i p hp => ?_, fun i period hperiod => ?_, fun runs i p hp t ht => ?_⟩
  · obtain ⟨rfl, hrange⟩ := hwalked runs i p hp
    obtain ⟨hstart, hend⟩ := hends hrange
    have hlt : chained anchor months i < chained anchor months (i + 1) := by
      rw [hstart, hend]
      exact boundary_lt 0 anchor .month (by nlinarith)
    exact ⟨⟨_, _, hlt⟩, (h.servicePeriod_eq_ok_iff hanchor i).mpr ⟨hstart, hend, hrange⟩, rfl⟩
  · obtain ⟨hstart, hend, hrange⟩ := (h.servicePeriod_eq_ok_iff hanchor i).mp hperiod
    have hrange' : (Wall.ofMicros (chained anchor months (i + 1))).date.InRange := by
      rw [hend, inRange_boundary_iff] at hrange
      rw [inRange_chained_iff, Nat.cast_succ]
      exact hrange
    obtain ⟨hstart', hend'⟩ := hends hrange'
    obtain ⟨runs, hruns⟩ := exists_runs_chained h.cycle_months hanchor hrange'
    refine ⟨runs, hruns.trans ?_⟩
    rw [hstart', hend', hstart, hend]
  · obtain ⟨rfl, hrange⟩ := hwalked runs i p hp
    rcases ht with rfl | rfl
    · exact (hkeeps.chained_eq hpos (Nat.le_succ i) hrange).2
    · exact (hkeeps.chained_eq hpos le_rfl hrange).2

/-- Billing cycle after cycle, in any runs, gives exactly the service periods of a contract cadence
anchored at the first anchor, exactly if no boundary is in a month too short for the day of the
anchor before one in a longer month. -/
theorem samePeriods_iff (h : IsClampedAnniversary cadence cycle months)
    (hanchor : (Wall.ofMicros anchor).date.InRange) :
    SamePeriods cadence cycle anchor ↔ KeepsDay (Wall.ofMicros anchor).date months :=
  ⟨h.keepsDay hanchor, h.samePeriods hanchor⟩

end Periods

/-! ## An anchor on the 31st -/

lemma monthly_isClampedAnniversary : IsClampedAnniversary monthly .monthly 1 :=
  ⟨utc_isFixed, rfl, rfl, .inl rfl, rfl, rfl⟩

lemma keepsDay_of_le {date : Date} (h : date.day ≤ 28) (months : ℤ) : KeepsDay date months := by
  intro i j _ _ hshort
  have hlength := monthLength_bounds (date.monthIndex + months * i)
  omega

theorem samePeriods_fifteenth : SamePeriods monthly .monthly (utcMidnight 2026 1 15) :=
  (samePeriods_iff monthly_isClampedAnniversary (by decide)).mpr (keepsDay_of_le (by decide) 1)

/-- After the 31st of January and the 28th of February comes the 28th of March, not the 31st. -/
theorem periods_thirtyFirst : ¬∀ (cadence : BillingCadence) (cycle : BillingCycle)
    (anchor months : ℤ), IsClampedAnniversary cadence cycle months →
      (Wall.ofMicros anchor).date.InRange → SamePeriods cadence cycle anchor := by
  intro hclaim
  have hkeeps := (samePeriods_iff monthly_isClampedAnniversary (by decide)).mp
    (hclaim monthly .monthly (utcMidnight 2026 1 31) 1 monthly_isClampedAnniversary (by decide))
  exact absurd (hkeeps 1 2 (by decide) (by decide) (by decide)) (by decide)

end DotmacSub.BillingAutomation
