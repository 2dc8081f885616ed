import DotmacSub.Core.Decimal

/-!
# Quota buckets

The rows of usage metering: the bucket of a billing period, the data top-ups of its subscription, the
usage settings, and the announcements that usage causes.  Volumes are gigabytes in columns of two
places; instants are microseconds.
-/

namespace DotmacSub.Usage

open Decimal

/-- A value of a `NUMERIC(10, 2)` column. -/
@[ext] structure Volume where
  value : ℚ
  onGrid : OnGrid 2 value
  bounded : |value| < 10 ^ 8
deriving DecidableEq

def Volume.zero : Volume := ⟨0, onGrid_zero, by norm_num⟩

/-- The bucket of a subscription in a period; without an allowance it includes nothing. -/
structure QuotaBucket where
  subscriptionId : ℕ
  periodStart : ℤ
  periodEnd : ℤ
  includedGb : Option Volume
  usedGb : Volume
  rolloverGb : Volume
  topupGb : Volume
  overageGb : Volume

def QuotaBucket.included (bucket : QuotaBucket) : ℚ := (bucket.includedGb.map Volume.value).getD 0

/-- A purchased data top-up: the add-on with its purchase. -/
structure DataTopup where
  grantGb : Option ℤ
  quantity : Option ℤ
  startAt : Option ℤ
  endAt : Option ℤ
deriving DecidableEq

/-- The settings of usage warnings: the switch, and the decimals that the parts of the threshold
setting read as, `none` for a part that is no decimal. -/
structure UsageSettings where
  warnings : Bool
  warningThresholds : List (Option ℚ)
deriving DecidableEq

inductive UsageEvent
  | usageWarning (usedGb includedGb threshold : ℚ)
  | usageExhausted (usedGb includedGb : ℚ) (capResetsAt : ℤ)
deriving DecidableEq

end DotmacSub.Usage
