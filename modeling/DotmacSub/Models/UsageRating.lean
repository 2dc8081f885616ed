import DotmacSub.Models.Billing

/-!
# Usage charges

The rows of usage rating: usage records, the subscriptions with their allowances, the charges of
rating runs, and the invoices and lines that charges are posted to.  Instants are microseconds.
-/

namespace DotmacSub.Usage

open Decimal

/-- A usage record; its volume is a value of a `NUMERIC(12, 4)` column. -/
structure UsageRecord where
  subscriptionId : ℕ
  recordedAt : ℤ
  totalGb : ℚ
  onGrid : OnGrid 4 totalGb

structure UsageAllowance where
  includedGb : Option ℤ
  overageRate : Option ℚ
  overageCapGb : Option ℤ
deriving DecidableEq

/-- A subscription with the allowances of its offer version and of its offer. -/
structure RatedSubscription where
  id : ℕ
  subscriberId : ℕ
  startAt : Option ℤ
  endAt : Option ℤ
  versionAllowance : Option UsageAllowance
  offerAllowance : Option UsageAllowance
deriving DecidableEq

inductive UsageChargeStatus
  | staged
  | posted
  | needsReview
  | skipped
deriving DecidableEq

structure UsageCharge where
  id : ℕ
  subscriptionId : ℕ
  subscriberId : ℕ
  invoiceLineId : Option ℕ
  periodStart : ℤ
  periodEnd : ℤ
  totalGb : ℚ
  includedGb : ℚ
  billableGb : ℚ
  unitPrice : ℚ
  amount : ℚ
  currency : String
  status : UsageChargeStatus
  notes : Option String
  ratedAt : ℤ
deriving DecidableEq

structure UsageRatingRun where
  runAt : ℤ
  periodStart : ℤ
  periodEnd : ℤ
  subscriptionsScanned : ℕ
  chargesCreated : ℕ
  skipped : ℕ
deriving DecidableEq

structure UsageInvoice where
  id : ℕ
  accountId : ℕ
  status : InvoiceStatus
  currency : String
  billingPeriodStart : Option ℤ
  billingPeriodEnd : Option ℤ
  isActive : Bool
  discounted : Bool
deriving DecidableEq

/-- An invoice line, with the charge that it was added for. -/
structure UsageLine where
  id : ℕ
  invoiceId : ℕ
  subscriptionId : ℕ
  description : String
  quantity : ℚ
  unitPrice : ℚ
  amount : ℚ
  chargeId : ℕ
deriving DecidableEq

/-- The rows that rating and posting write, with the accounts that exist. -/
structure RatingDb where
  subscribers : List ℕ
  charges : List UsageCharge
  runs : List UsageRatingRun
  invoices : List UsageInvoice
  lines : List UsageLine
deriving DecidableEq

end DotmacSub.Usage
