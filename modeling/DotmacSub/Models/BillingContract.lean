import Mathlib.Data.Rat.Defs

/-!
# Billing contract vocabulary

The enumerations of `models/billing_contract.py`, member for member.  A period, a rate and a
lifecycle are each one closed vocabulary, so every `match` over them in the services is total and
the source's "unsupported" branches do not exist here.
-/

namespace DotmacSub

/-- Whether a row may drive real financial effect. -/
inductive BillingRecordAuthority
  | shadow
  | authoritative
deriving DecidableEq

/-- Structural origin of a contract version. -/
inductive BillingContractSourceKind
  | salesOrderLine
  | planChange
  | renewal
  | staffCorrection
  | migrationBackfill
deriving DecidableEq

/-- Lifecycle of one immutable set of contracted terms. -/
inductive BillingContractVersionStatus
  | draft
  | effective
  | superseded
  | canceled
deriving DecidableEq

/-- How the contracted price is measured before cadence is applied. -/
inductive RateBasis
  | fixedPerServicePeriod
  | perRateUnit
  | perQuantity
  | usageMetered
deriving DecidableEq

/-- Calendar unit; month and year are calendar terms, never day counts. -/
inductive IntervalUnit
  | day
  | week
  | month
  | year
deriving DecidableEq

inductive CollectionTiming
  | advance
  | arrears
deriving DecidableEq

/-- How a period boundary is placed against the calendar. -/
inductive CadenceAlignment
  | contractAnniversary
  | calendarPeriodStart
  | fixedAnchorDay
deriving DecidableEq

/-- Declared rule for a monthly anniversary on the 29th, 30th or 31st. -/
inductive EndOfMonthRule
  | clampToMonthEnd
  | strictSameDayOrSkip
deriving DecidableEq

inductive ProrationPolicy
  | none
  | fullPeriod
  | actualCalendarDays
  | actualElapsedTime
deriving DecidableEq

end DotmacSub
