import DotmacSub.Core.Checked
import DotmacSub.Core.Datetime
import DotmacSub.Core.Decimal
import DotmacSub.Models.BillingContract

/-!
# Billing cadence

The calendar resolver of `services/billing/cadence.py`: a typed cadence is turned into half-open
service and invoice intervals, and into proration factors.  Calendar arithmetic happens on the
wall clock of the contract's zone and is converted to UTC at each boundary.

Instants are microseconds in UTC.  Every `date` and `datetime` operation of the source can leave
the years 1 to 9999 and raise; those refusals are `CadenceError.calendarRange` here.
-/

namespace DotmacSub

open Gregorian Checked

/-- A half-open `[startsAt, endsAt)` instant range. -/
@[ext] structure Interval where
  startsAt : ℤ
  endsAt : ℤ
  starts_lt_ends : startsAt < endsAt
deriving DecidableEq

namespace Interval

/-- Half-open membership: the end instant belongs to the next period. -/
def contains (p : Interval) (moment : ℤ) : Prop := p.startsAt ≤ moment ∧ moment < p.endsAt

instance (p : Interval) (moment : ℤ) : Decidable (p.contains moment) :=
  inferInstanceAs (Decidable (_ ∧ _))

def duration (p : Interval) : ℤ := p.endsAt - p.startsAt

end Interval

/-- A datetime argument, with or without a zone. -/
inductive Moment
  | naive (wall : Wall)
  | aware (instant : ℤ)

def Moment.isAware : Moment → Bool
  | .naive _ => false
  | .aware _ => true

namespace Cadence

/-- The refusals of the resolver, each with its details. -/
inductive CadenceError
  | invalidInterval (startsAt endsAt : ℤ)
  | invalidIntervalCount
  | invalidRateQuantity
  | invalidAnchorDay (anchorDay : ℤ)
  | missingAnchorDay
  | unknownTimezone (timezone : String)
  | naiveDatetime (field : String)
  | skippedMonthBoundary (anchor : ℤ) (months : ℤ) (rule : EndOfMonthRule)
  | invalidPeriodIndex (index : ℤ)
  | momentBeforeContract (moment alignedStart : ℤ)
  | periodWalkExhausted (maxPeriods : ℕ) (moment : ℤ)
  | coveredOutsidePeriod (periodStart periodEnd coveredStart coveredEnd : ℤ)
  | anchorDayAssertion
  | calendarRange
deriving DecidableEq

namespace CadenceError

/-- The error's code; an exception that is not a `CadenceError` has its Python class name. -/
def code : CadenceError → String
  | invalidInterval .. => "billing.cadence.invalid_interval"
  | invalidIntervalCount => "billing.cadence.invalid_interval_count"
  | invalidRateQuantity => "billing.cadence.invalid_rate_quantity"
  | invalidAnchorDay _ => "billing.cadence.invalid_anchor_day"
  | missingAnchorDay => "billing.cadence.missing_anchor_day"
  | unknownTimezone _ => "billing.cadence.unknown_timezone"
  | naiveDatetime _ => "billing.cadence.naive_datetime"
  | skippedMonthBoundary .. => "billing.cadence.skipped_month_boundary"
  | invalidPeriodIndex _ => "billing.cadence.invalid_period_index"
  | momentBeforeContract .. => "billing.cadence.moment_before_contract"
  | periodWalkExhausted .. => "billing.cadence.period_walk_exhausted"
  | coveredOutsidePeriod .. => "billing.cadence.covered_outside_period"
  | anchorDayAssertion => "AssertionError"
  | calendarRange => "OverflowError"

def message : CadenceError → String
  | invalidInterval .. => "An interval must end strictly after it starts."
  | invalidIntervalCount => "Service and invoice interval counts must be positive."
  | invalidRateQuantity => "Rate quantity must be positive."
  | invalidAnchorDay _ => "Anchor day must fall between 1 and 31."
  | missingAnchorDay => "Fixed-anchor alignment requires an anchor day."
  | unknownTimezone _ => "Contract timezone is not a known IANA zone."
  | naiveDatetime _ => "Billing instants must be timezone-aware."
  | skippedMonthBoundary .. => "Strict same-day rule cannot place this boundary in the " ++
      "target month. Declare clamp_to_month_end or correct the contract anchor."
  | invalidPeriodIndex _ => "Period index cannot be negative."
  | momentBeforeContract .. => "Moment precedes the aligned contract start."
  | periodWalkExhausted .. => "Period walk exceeded its bound; check the contract anchor."
  | coveredOutsidePeriod .. => "Covered interval must fall inside the billing period."
  | anchorDayAssertion => ""
  | calendarRange => "date value out of range"

end CadenceError

/-- A calendar operation, refused outside the supported years. -/
def inCalendar {α : Type} (o : Option α) : Except CadenceError α := orRefuse o .calendarRange

def interval (startsAt endsAt : ℤ) : Except CadenceError Interval :=
  if h : startsAt < endsAt then .ok ⟨startsAt, endsAt, h⟩
  else .error (.invalidInterval startsAt endsAt)

def requireAware (moment : Moment) (field : String) : Except CadenceError ℤ :=
  match moment with
  | .naive _ => .error (.naiveDatetime field)
  | .aware instant => .ok instant

structure CadenceTerms where
  rateBasis : RateBasis
  rateUnit : IntervalUnit
  rateQuantity : ℚ
  serviceIntervalUnit : IntervalUnit
  serviceIntervalCount : ℤ
  invoiceIntervalUnit : IntervalUnit
  invoiceIntervalCount : ℤ
  collectionTiming : CollectionTiming
  alignment : CadenceAlignment
  timezoneName : String
  endOfMonthRule : EndOfMonthRule
  prorationPolicy : ProrationPolicy
  anchorDay : Option ℤ
deriving DecidableEq

/-- Typed, composable cadence.  The terms have passed every check of the constructor, and the zone
is the one its name resolved to. -/
structure BillingCadence extends CadenceTerms where
  zone : Zone
  count_pos : 1 ≤ serviceIntervalCount ∧ 1 ≤ invoiceIntervalCount
  rateQuantity_pos : 0 < rateQuantity
  anchorDay_mem : ∀ d ∈ anchorDay, 1 ≤ d ∧ d ≤ 31
  anchorDay_isSome : alignment = .fixedAnchorDay → anchorDay.isSome

/-- The checks of the constructor, in the order they are made.  `zoneInfo` is the zone database. -/
def BillingCadence.new (zoneInfo : String → Option Zone) (terms : CadenceTerms) :
    Except CadenceError BillingCadence :=
  if hc : 1 ≤ terms.serviceIntervalCount ∧ 1 ≤ terms.invoiceIntervalCount then
    if hq : 0 < terms.rateQuantity then
      if ha : ∀ d ∈ terms.anchorDay, 1 ≤ d ∧ d ≤ 31 then
        if hs : terms.alignment = .fixedAnchorDay → terms.anchorDay.isSome then
          match zoneInfo terms.timezoneName with
          | some zone => .ok ⟨terms, zone, hc, hq, ha, hs⟩
          | none => .error (.unknownTimezone terms.timezoneName)
        else .error .missingAnchorDay
      else .error (.invalidAnchorDay (terms.anchorDay.getD 0))
    else .error .invalidRateQuantity
  else .error .invalidIntervalCount

/-- Add calendar months, resolving an overflowing day through `rule`; `none` when the strict rule
cannot honour the day in the target month. -/
def addMonths (anchor : Date) (months : ℤ) (rule : EndOfMonthRule) :
    Except CadenceError (Option Date) :=
  let total := anchor.month - 1 + months
  let year := anchor.year + total / 12
  let month := total % 12 + 1
  let lastDay := daysInMonth year month
  if anchor.day ≤ lastDay then some <$> inCalendar (Date.new? year month anchor.day)
  else
    match rule with
    | .clampToMonthEnd => some <$> inCalendar (Date.new? year month lastDay)
    | .strictSameDayOrSkip => pure none

/-- Calendar months in `count` units of a month or a year. -/
def monthsOf (unit : IntervalUnit) (count : ℤ) : ℤ :=
  count * (if unit = .year then 12 else 1)

/-- Advance the wall clock of an anchor by `count` calendar units. -/
def shiftLocal (anchor : ℤ) (localAnchor : Wall) (unit : IntervalUnit) (count : ℤ)
    (rule : EndOfMonthRule) : Except CadenceError Wall :=
  match unit with
  | .day => inCalendar (localAnchor.addDays count)
  | .week => inCalendar (localAnchor.addDays (7 * count))
  | .month | .year => do
      let target ← addMonths localAnchor.date (monthsOf unit count) rule
      match target with
      | some target => pure (Wall.combine target localAnchor)
      | none => .error (.skippedMonthBoundary anchor (monthsOf unit count) rule)

/-- Advance `anchor` by `count` calendar units in the contract zone. -/
def shift (anchor : ℤ) (unit : IntervalUnit) (count : ℤ) (cadence : BillingCadence) :
    Except CadenceError ℤ := do
  let localAnchor ← inCalendar (cadence.zone.toLocal anchor)
  let shifted ← shiftLocal anchor localAnchor unit count cadence.endOfMonthRule
  inCalendar (cadence.zone.toUtc shifted)

def calendarStart (localStart : Wall) (unit : IntervalUnit) : Except CadenceError Wall :=
  match unit with
  | .day => pure (Wall.midnight localStart.date)
  | .week => inCalendar
      ((Wall.midnight localStart.date).addDays (-(localStart.date.weekday)))
  | .month => do
      return Wall.midnight (← inCalendar (Date.new? localStart.date.year localStart.date.month 1))
  | .year => do
      return Wall.midnight (← inCalendar (Date.new? localStart.date.year 1 1))

def anchoredStart (localStart : Wall) (anchorDay : ℤ) (rule : EndOfMonthRule) :
    Except CadenceError Wall := do
  let lastDay := daysInMonth localStart.date.year localStart.date.month
  let day := min anchorDay lastDay
  let anchored := Wall.midnight
    (← inCalendar (Date.new? localStart.date.year localStart.date.month day))
  if localStart.toMicros < anchored.toMicros then
    -- the anchor of this month is still ahead; the period began on the previous month's
    match ← addMonths anchored.date (-1) rule with
    | some previous => pure (Wall.combine previous anchored)
    | none => pure anchored
  else pure anchored

/-- Place the first period boundary according to the declared alignment. -/
def alignStart (start : ℤ) (cadence : BillingCadence) : Except CadenceError ℤ :=
  match cadence.alignment with
  | .contractAnniversary => pure start
  | .calendarPeriodStart => do
      let localStart ← inCalendar (cadence.zone.toLocal start)
      inCalendar (cadence.zone.toUtc (← calendarStart localStart cadence.serviceIntervalUnit))
  | .fixedAnchorDay => do
      let localStart ← inCalendar (cadence.zone.toLocal start)
      let anchorDay ← orRefuse cadence.anchorDay .anchorDayAssertion
      inCalendar (cadence.zone.toUtc (← anchoredStart localStart anchorDay cadence.endOfMonthRule))

/-- Period `index`, with both boundaries measured from the original anchor. -/
def nthInterval (aligned : ℤ) (unit : IntervalUnit) (count index : ℤ)
    (cadence : BillingCadence) : Except CadenceError Interval := do
  let start ← (if index = 0 then .ok aligned
    else shift aligned unit (count * index) cadence : Except CadenceError ℤ)
  let end_ ← shift aligned unit (count * (index + 1)) cadence
  interval start end_

def periodAt (cadence : BillingCadence) (unit : IntervalUnit) (count : ℤ) (contractStart : Moment)
    (index : ℤ) : Except CadenceError Interval := do
  let start ← requireAware contractStart "contract_start"
  ensure (0 ≤ index) (.invalidPeriodIndex index)
  let aligned ← alignStart start cadence
  nthInterval aligned unit count index cadence

/-- The `index`-th service interval from the contract start. -/
def servicePeriod (cadence : BillingCadence) (contractStart : Moment) (index : ℤ) :
    Except CadenceError Interval :=
  periodAt cadence cadence.serviceIntervalUnit cadence.serviceIntervalCount contractStart index

def periodWalk (cadence : BillingCadence) (contractStart moment : ℤ) (maxPeriods : ℕ) :
    (remaining : ℕ) → (index : ℕ) → Except CadenceError (ℕ × Interval)
  | 0, _ => .error (.periodWalkExhausted maxPeriods moment)
  | remaining + 1, index => do
      let period ← servicePeriod cadence (.aware contractStart) index
      if period.contains moment then pure (index, period)
      else periodWalk cadence contractStart moment maxPeriods remaining (index + 1)

/-- The bound on the walk when the caller gives none. -/
def defaultMaxPeriods : ℕ := 4096

/-- The service period index and interval containing `moment`.  The contract start is aware: its
callers pass a stored timestamp. -/
def periodContaining (cadence : BillingCadence) (contractStart : ℤ) (moment : Moment)
    (maxPeriods : ℕ) : Except CadenceError (ℕ × Interval) := do
  let moment ← requireAware moment "moment"
  let aligned ← alignStart contractStart cadence
  ensure (aligned ≤ moment) (.momentBeforeContract moment aligned)
  periodWalk cadence contractStart moment maxPeriods maxPeriods 0

def calendarDaySpan (p : Interval) (zone : Zone) : Except CadenceError ℤ := do
  let startLocal ← inCalendar (zone.toLocal p.startsAt)
  let endLocal ← inCalendar (zone.toLocal p.endsAt)
  pure (endLocal.date.toOrdinal - startLocal.date.toOrdinal)

/-- `timedelta.total_seconds`, exact for spans of fewer than 272 years. -/
def totalSeconds (duration : ℤ) : ℚ := duration / 1000000

/-- The declared proration factor for `covered` within `period`. -/
def prorationFactor (cadence : BillingCadence) (period covered : Interval) :
    Except CadenceError ℚ := do
  ensure (period.startsAt ≤ covered.startsAt ∧ covered.endsAt ≤ period.endsAt)
    (.coveredOutsidePeriod period.startsAt period.endsAt covered.startsAt covered.endsAt)
  match cadence.prorationPolicy with
  | .none | .fullPeriod => pure 1
  | .actualElapsedTime =>
    let whole := totalSeconds period.duration
    let part := totalSeconds covered.duration
    pure (if 0 < whole then Decimal.div part whole else 0)
  | .actualCalendarDays => do
      let periodDays ← calendarDaySpan period cadence.zone
      let coveredDays ← calendarDaySpan covered cadence.zone
      pure (if periodDays ≤ 0 then 0 else Decimal.div coveredDays periodDays)

def monthsBetween (startLocal endLocal : Date) : ℤ :=
  let months := (endLocal.year - startLocal.year) * 12 + (endLocal.month - startLocal.month)
  if endLocal.day < startLocal.day then months - 1 else months

/-- How many rate units `period` contains. -/
def rateUnitsIn (cadence : BillingCadence) (period : Interval) : Except CadenceError ℚ :=
  match cadence.rateUnit with
  | .day => do pure (← calendarDaySpan period cadence.zone)
  | .week => do pure (Decimal.div (← calendarDaySpan period cadence.zone) 7)
  | .month | .year => do
      let startLocal ← inCalendar (cadence.zone.toLocal period.startsAt)
      let endLocal ← inCalendar (cadence.zone.toLocal period.endsAt)
      let months := monthsBetween startLocal.date endLocal.date
      pure (if cadence.rateUnit = .month then months else Decimal.div months 12)

end Cadence

end DotmacSub
