import DotmacSub.Models.BillingRecords

/-!
# Payment records

The rows of `models/billing.py` that the payment, account-credit and refund services read and
write.  What belongs to one row only is stored with it: an invoice carries its lines and what
credit notes and opening funding applied to it, a payment carries its settlement, its refunds and
the amounts of the renewals it funded.
-/

namespace DotmacSub

open Store Decimal

abbrev Money := Numeric 2

inductive InvoiceStatus
  | draft
  | issued
  | partiallyPaid
  | paid
  | void
  | overdue
  | writtenOff
deriving DecidableEq

def InvoiceStatus.value : InvoiceStatus → String
  | draft => "draft"
  | issued => "issued"
  | partiallyPaid => "partially_paid"
  | paid => "paid"
  | void => "void"
  | overdue => "overdue"
  | writtenOff => "written_off"

inductive PaymentStatus
  | pending
  | succeeded
  | failed
  | refunded
  | partiallyRefunded
  | reversed
  | canceled
deriving DecidableEq

inductive LedgerEntryType
  | debit
  | credit
deriving DecidableEq

inductive LedgerSource
  | invoice
  | payment
  | adjustment
  | refund
  | creditNote
  | other
deriving DecidableEq

inductive TaxApplication
  | exclusive
  | inclusive
  | exempt
deriving DecidableEq

inductive PaymentRefundOrigin
  | manual
  | providerEvent
deriving DecidableEq

inductive PaymentProviderEventFinancialEffect
  | none
  | refundConfirmed
  | reversalConfirmed
deriving DecidableEq

structure InvoiceLine where
  amount : Money
  taxRateId : Option ℕ
  taxApplication : TaxApplication
  isActive : Bool
deriving DecidableEq

/-- An invoice, with its lines and what was applied to it besides payments. -/
structure Invoice where
  id : ℕ
  accountId : ℕ
  status : InvoiceStatus
  currency : String
  subtotal : Money
  discountAmount : Money
  taxTotal : Money
  total : Money
  balanceDue : Money
  dueAt : Option ℤ
  paidAt : Option ℤ
  isProforma : Bool
  isActive : Bool
  createdAt : ℤ
  lines : List InvoiceLine
  creditNoteApplications : List Money
  openingFundingConsumptions : List Money
deriving DecidableEq

/-- Confirmed cash evidence and its unallocated ledger result. -/
structure PaymentSettlement where
  unallocatedLedgerEntryId : Option ℕ
  amount : Money
  unallocatedAmount : Money
  prepaidAmount : Money
  currency : String
  previewFingerprint : Option String
deriving DecidableEq

structure PaymentRefund where
  ledgerEntryId : ℕ
  creditConsumptionLedgerEntryId : Option ℕ
  providerEventId : Option ℕ
  amount : Money
  currency : String
  origin : PaymentRefundOrigin
  previewFingerprint : Option String
deriving DecidableEq

/-- A payment.  Its column holds fewer than ten digits before the point. -/
structure Payment where
  id : ℕ
  accountId : Option ℕ
  billingAccountId : Option ℕ
  providerId : Option ℕ
  amount : Money
  amount_lt : amount.value < 10 ^ 10
  refundedAmount : Money
  currency : String
  status : PaymentStatus
  paidAt : Option ℤ
  autoAllocateOnSettlement : Bool
  splynxPaymentId : Option ℕ
  isActive : Bool
  createdAt : ℤ
  settlement : Option PaymentSettlement
  refunds : List PaymentRefund
  reversed : Bool
  renewalOutcomes : List Money
deriving DecidableEq

lemma store_hundred_lt : (Numeric.store 2 100).value < 10 ^ 10 := by decide +kernel

/-- Part of a payment that is meant for, or posted to, one invoice. -/
structure PaymentAllocation where
  id : ℕ
  paymentId : ℕ
  invoiceId : ℕ
  ledgerEntryId : Option ℕ
  consumptionLedgerEntryId : Option ℕ
  previewFingerprint : Option String
  amount : Money
  isActive : Bool
deriving DecidableEq

structure LedgerEntry where
  id : ℕ
  accountId : ℕ
  invoiceId : Option ℕ
  paymentId : Option ℕ
  entryType : LedgerEntryType
  source : LedgerSource
  amount : Money
  currency : String
  isActive : Bool
  affectsCustomerPosition : Bool
deriving DecidableEq

structure PaymentProviderEvent where
  id : ℕ
  paymentId : Option ℕ
  providerId : ℕ
  financialEffect : PaymentProviderEventFinancialEffect
  amount : Option Money
  currency : Option String
deriving DecidableEq

structure IdempotencyKey where
  scope : String
  key : String
  refId : Option ℕ
deriving DecidableEq

instance : Row Invoice := ⟨Invoice.id⟩
instance : Row Payment := ⟨Payment.id⟩
instance : Row PaymentAllocation := ⟨PaymentAllocation.id⟩
instance : Row LedgerEntry := ⟨LedgerEntry.id⟩

/-- The tables of the payment services. -/
structure BillingTables where
  invoices : Table Invoice
  payments : Table Payment
  allocations : Table PaymentAllocation
  ledgerEntries : Table LedgerEntry
  idempotencyKeys : List IdempotencyKey
  providerEvents : List PaymentProviderEvent
  taxRates : List TaxRate

end DotmacSub
