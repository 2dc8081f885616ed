import DotmacSub.Models.Billing
import DotmacSub.Models.ServiceExtension

/-!
# Prepaid service

The rows that say what a prepaid service was paid with: invoices with their lines, and entitlements
with their source.  Instants are microseconds.
-/

namespace DotmacSub.PrepaidService

open Store ServiceExtensions

inductive BillingMode
  | prepaid
  | postpaid
deriving DecidableEq

/-- A subscription; the anchor is `next_billing_at`. -/
structure Subscription where
  id : ℕ
  subscriberId : ℕ
  offerId : ℕ
  billingMode : BillingMode
  status : SubscriptionStatus
  nextBillingAt : Option ℤ
deriving DecidableEq

instance : Row Subscription := ⟨Subscription.id⟩

/-- A line of an invoice; `kind` and the period are those of its metadata. -/
structure InvoiceLine where
  id : ℕ
  subscriptionId : Option ℕ
  amount : ℚ
  isActive : Bool
  kind : Option String
  billingPeriodStart : Option ℤ
  billingPeriodEnd : Option ℤ
deriving DecidableEq

/-- An invoice with the period it bills. -/
structure Invoice where
  id : ℕ
  accountId : ℕ
  status : InvoiceStatus
  isActive : Bool
  balanceDue : ℚ
  currency : Option String
  billingPeriodStart : Option ℤ
  billingPeriodEnd : Option ℤ
  lines : List InvoiceLine
  nodup : (lines.map (·.id)).Nodup

instance : Row Invoice := ⟨Invoice.id⟩

/-- An exact paid or granted service period, with its source. -/
structure ServiceEntitlement where
  id : ℕ
  accountId : ℕ
  subscriptionId : ℕ
  sourceInvoiceId : Option ℕ
  sourceInvoiceLineId : Option ℕ
  sourceLedgerEntryId : Option ℕ
  sourceBillingGrantId : Option ℕ
  startsAt : ℤ
  endsAt : ℤ
  amountFunded : ℚ
  currency : String
  status : ServiceEntitlementStatus
deriving DecidableEq

instance : Row ServiceEntitlement := ⟨ServiceEntitlement.id⟩

/-- The tables of the coverage owners. -/
structure PrepaidTables where
  subscriptions : Table Subscription
  invoices : Table Invoice
  entitlements : Table ServiceEntitlement
  extensions : Table ServiceExtension
  entries : Table ServiceExtensionEntry

def PrepaidTables.anchor (db : PrepaidTables) (subscriptionId : ℕ) : Option ℤ :=
  (db.subscriptions.get? subscriptionId).bind (·.nextBillingAt)

end DotmacSub.PrepaidService
