import DotmacSub.Models.Billing
import DotmacSub.Models.DomainErrors

/-!
# Shared invoice and account credit rules

The shared owner rules of `services/billing/_common.py`.  What an invoice is worth is recomputed
from its lines and from everything applied to it; what an account has left is a sum over its
ledger.
-/

namespace DotmacSub

open Store Checked Decimal

/-- What the payment services take from other owners and from outside: the clock, the funding of an
account, and the digests that bind a confirmation to its preview. -/
structure PaymentEnv where
  now : ℤ
  customerBalance : BillingTables → ℕ → String → ℚ
  fingerprint : List Detail → String

namespace Payments

/-- Money has two places; ties go away from zero. -/
def roundMoney (x : ℚ) : ℚ := quantize halfUp 2 x

@[simp] lemma roundMoney_value (x : Money) : roundMoney x.value = x.value :=
  quantize_of_onGrid x.onGrid

lemma roundMoney_of_onGrid {x : ℚ} (h : OnGrid 2 x) : roundMoney x = x := quantize_of_onGrid h

lemma onGrid_roundMoney (x : ℚ) : OnGrid 2 (roundMoney x) := onGrid_quantize

/-- An amount as it is written in messages. -/
def moneyText (x : ℚ) : String :=
  let cents := (roundMoney x * 100).num.natAbs
  let sign := if x < 0 then "-" else ""
  s!"{sign}{cents / 100}.{cents % 100 / 10}{cents % 10}"

/-- `currency or "NGN"`, in capitals. -/
def currencyCode (currency : String) : String :=
  (if currency = "" then "NGN" else currency).toUpper

def calculateTaxAmount (amount ratePercent : ℚ) (taxApplication : TaxApplication) : ℚ :=
  let amount := roundMoney amount
  if taxApplication = .exempt ∨ ratePercent ≤ 0 then 0
  else if taxApplication = .inclusive then
    roundMoney (sub amount (div amount (add 1 (div ratePercent 100))))
  else roundMoney (div (mul amount ratePercent) 100)

lemma onGrid_calculateTaxAmount (amount rate : ℚ) (application : TaxApplication) :
    OnGrid 2 (calculateTaxAmount amount rate application) := by
  unfold calculateTaxAmount
  dsimp only
  split_ifs
  · exact onGrid_zero
  · exact onGrid_quantize
  · exact onGrid_quantize

/-- The loop body over the active lines of an invoice: its subtotal and its tax. -/
def addLine (taxRates : List TaxRate) (sums : ℚ × ℚ) (line : InvoiceLine) : ℚ × ℚ :=
  let amount := line.amount.value
  match line.taxRateId.bind fun i => taxRates.find? (·.id = i) with
  | none => (sums.1 + amount, sums.2)
  | some rate =>
    let tax := calculateTaxAmount amount rate.rate.value line.taxApplication
    match line.taxApplication with
    | .inclusive => (sums.1 + roundMoney (amount - tax), sums.2 + tax)
    | .exempt => (sums.1 + amount, sums.2)
    | .exclusive => (sums.1 + amount, sums.2 + tax)

/-- Subtotal, tax and total of an invoice.  Without line rows the stored amounts stand. -/
def invoiceTotals (taxRates : List TaxRate) (invoice : Invoice) : ℚ × ℚ × ℚ :=
  let active := invoice.lines.filter (·.isActive)
  let discount := invoice.discountAmount.value
  if active = [] then
    if invoice.lines = [] then
      let subtotal := invoice.subtotal.value
      let tax := invoice.taxTotal.value
      (subtotal, tax, if 0 < discount then roundMoney (max 0 (subtotal - discount) + tax)
        else invoice.total.value)
    else (0, 0, 0)
  else
    let sums := active.foldl (addLine taxRates) (0, 0)
    let discounted := max 0 (sums.1 - discount)
    let tax := if 0 < discount ∧ 0 < sums.1 then roundMoney (div (mul sums.2 discounted) sums.1)
      else sums.2
    (sums.1, tax, roundMoney (discounted + tax))

def settledAllocations (db : BillingTables) (invoiceId : ℕ) : List (PaymentAllocation × Payment) :=
  db.allocations.rows.filterMap fun a =>
    if a.invoiceId = invoiceId ∧ a.isActive then
      (db.payments.get? a.paymentId).bind fun p =>
        if p.isActive ∧ (p.status = .succeeded ∨ p.status = .partiallyRefunded) then some (a, p)
        else none
    else none

/-- The loop body over allocations: a partial refund is attributed in proportion. -/
def addPaid (paid : ℚ) (row : PaymentAllocation × Payment) : ℚ :=
  let allocated := row.1.amount.value
  let gross := row.2.amount.value
  if row.2.status ≠ .partiallyRefunded then add paid allocated
  else if gross ≤ 0 then paid
  else add paid (div (mul allocated (gross - row.2.refundedAmount.value)) gross)

/-- What payments, credit notes and opening funding applied to an invoice. -/
def totalApplied (db : BillingTables) (invoice : Invoice) : ℚ :=
  roundMoney ((settledAllocations db invoice.id).foldl addPaid 0)
    + (invoice.creditNoteApplications.map (·.value)).sum
    + (invoice.openingFundingConsumptions.map (·.value)).sum

def settledStatus (now : ℤ) (invoice : Invoice) (balanceDue applied : ℚ) : InvoiceStatus :=
  if balanceDue ≤ 0 then .paid
  else if 0 < applied then .partiallyPaid
  else if invoice.status = .paid ∨ invoice.status = .partiallyPaid then
    match invoice.dueAt with
    | some dueAt => if dueAt < now then .overdue else .issued
    | none => .issued
  else invoice.status

def settledPaidAt (now : ℤ) (invoice : Invoice) (balanceDue applied : ℚ) : Option ℤ :=
  if balanceDue ≤ 0 then some (invoice.paidAt.getD now)
  else if 0 < applied then invoice.paidAt
  else if invoice.status = .paid ∨ invoice.status = .partiallyPaid then none
  else invoice.paidAt

/-- Recalculate totals, balance and status.  Void and written-off invoices are terminal; a draft
is not advanced. -/
def recalculateInvoiceTotals (now : ℤ) (db : BillingTables) (invoice : Invoice) : Invoice :=
  let totals := invoiceTotals db.taxRates invoice
  let repriced := { invoice with
    subtotal := .store 2 totals.1
    taxTotal := .store 2 totals.2.1
    total := .store 2 totals.2.2 }
  if invoice.status = .void ∨ invoice.status = .writtenOff then repriced
  else
    let applied := totalApplied db invoice
    let balanceDue := max 0 (roundMoney (totals.2.2 - applied))
    if invoice.status = .draft then { repriced with balanceDue := .store 2 balanceDue }
    else { repriced with
      balanceDue := .store 2 balanceDue
      status := settledStatus now invoice balanceDue applied
      paidAt := settledPaidAt now invoice balanceDue applied }

lemma recalculateInvoiceTotals_id (now : ℤ) (db : BillingTables) (invoice : Invoice) :
    (recalculateInvoiceTotals now db invoice).id = invoice.id := by
  rw [recalculateInvoiceTotals]
  dsimp only
  split_ifs <;> rfl

/-- The effects of an application or a refund on an invoice: its totals are recalculated. -/
def finalizeInvoicePaymentEffects (now : ℤ) (db : BillingTables) (invoiceId : ℕ) : BillingTables :=
  { db with
    invoices := db.invoices.update invoiceId (recalculateInvoiceTotals now db)
      (recalculateInvoiceTotals_id now db) }

def validateInvoiceCurrency (invoice : Invoice) (currency : String) : Except DomainError Unit :=
  ensure (currency = "" ∨ invoice.currency = currency)
    (.httpException 400 "Currency does not match invoice")

/-- Terminal and pre-issue invoices take no payments. -/
def assertInvoiceAllocatable (invoice : Invoice) : Except DomainError Unit :=
  ensure (invoice.status ≠ .void ∧ invoice.status ≠ .writtenOff ∧ invoice.status ≠ .draft)
    (.httpException 400 s!"Cannot allocate a payment to a {invoice.status.value} invoice")

def isUnallocatedCredit (accountId : ℕ) (currency : String) (e : LedgerEntry) : Bool :=
  e.accountId = accountId ∧ e.invoiceId = none ∧ e.entryType = .credit ∧ e.isActive ∧
    (e.affectsCustomerPosition ∨ e.source ≠ .adjustment) ∧ e.currency = currency

/-- A debit against the unallocated credit of an account.  Refund rows of a payment are evidence
of the payment, not debits of the account. -/
def isUnallocatedDebit (accountId : ℕ) (currency : String) (e : LedgerEntry) : Bool :=
  e.accountId = accountId ∧ e.invoiceId = none ∧ e.entryType = .debit ∧ e.isActive ∧
    (e.affectsCustomerPosition ∨ e.source ≠ .adjustment) ∧
    ((e.source ≠ .refund ∧ e.source ≠ .payment) ∨ e.paymentId = none) ∧ e.currency = currency

/-- The sum of the entries that satisfy `p`. -/
def ledgerTotal (db : BillingTables) (p : LedgerEntry → Bool) : ℚ :=
  db.ledgerEntries.total fun e => if p e then e.amount.value else 0

def getAccountCreditBalance (db : BillingTables) (accountId : ℕ) (currency : String) : ℚ :=
  roundMoney (ledgerTotal db (isUnallocatedCredit accountId currency)
    - ledgerTotal db (isUnallocatedDebit accountId currency))

end Payments

end DotmacSub
