import DotmacSub.Billing.Common
import DotmacSub.Core.Text
import Mathlib.Data.List.Sort

/-!
# Refunds

The refund owner of `services/billing/payments.py`.  A refund takes back part of a payment.  What it
takes from each invoice is the difference of two rounded shares of the payment's net value; the
rest is taken from the unallocated credit of the account.
-/

namespace DotmacSub

open Store Checked Decimal Text

namespace Payments

/-- A request to preview a refund: the whole refundable amount unless one is given. -/
structure PaymentRefundPreviewRequest where
  amount : Option ℚ := none
  reason : Option String := none

def PaymentRefundPreviewRequest.amountOf (request : PaymentRefundPreviewRequest)
    (refundable : ℚ) : ℚ :=
  match request.amount with
  | none => refundable
  | some amount => roundMoney amount

structure PaymentRefundRequest extends PaymentRefundPreviewRequest where
  previewFingerprint : String
  idempotencyKey : String

structure PaymentRefundInvoiceEffect where
  invoiceId : ℕ
  receivableBefore : ℚ
  receivableAfter : ℚ
  refundAttributed : ℚ
deriving DecidableEq

structure PaymentRefundPreview where
  paymentId : ℕ
  accountId : ℕ
  currency : String
  paymentGross : ℚ
  refundedBefore : ℚ
  refundableBefore : ℚ
  refundAmount : ℚ
  refundedAfter : ℚ
  paymentNetAfter : ℚ
  statusAfter : PaymentStatus
  prepaidFundingBefore : ℚ
  prepaidFundingAfter : ℚ
  accountCreditBefore : ℚ
  accountCreditAfter : ℚ
  accountCreditConsumption : ℚ
  invoiceEffects : List PaymentRefundInvoiceEffect
  fingerprint : String
deriving DecidableEq

def refundCapability (payment : Payment) (origin : PaymentRefundOrigin) :
    Except DomainError ℕ := do
  ensure (payment.isActive = true) (.httpException 409 "Inactive payments cannot be refunded")
  let accountId ← orRefuse payment.accountId (.httpException 409
    "Consolidated billing-account refunds require their own owner workflow")
  ensure (payment.status ≠ .refunded) (.httpException 409 "Payment is already fully refunded")
  ensure (payment.status = .succeeded ∨ payment.status = .partiallyRefunded)
    (.httpException 409 "Only succeeded or partially refunded payments can be refunded")
  ensure (¬ (origin = .manual ∧ payment.providerId.isSome = true)) (.httpException 409
    "Provider-backed payments require a confirmed provider refund event")
  return accountId

/-- The event that a provider's refund needs. -/
def validateRefundProviderEvent (db : BillingTables) (payment : Payment)
    (origin : PaymentRefundOrigin) (providerEventId : Option ℕ) :
    Except DomainError (Option Money) :=
  match origin with
  | .manual => do
      ensure (providerEventId = none)
        (.httpException 400 "Manual refunds cannot claim provider-event evidence")
      return none
  | .providerEvent => do
      let providerEventId ← orRefuse providerEventId
        (.httpException 409 "Provider refund evidence is required")
      let event ← orRefuse (db.providerEvents.find? (·.id = providerEventId))
        (.httpException 404 "Payment provider event not found")
      ensure (event.paymentId = some payment.id)
        (.httpException 409 "Provider event does not belong to this payment")
      ensure (payment.providerId = some event.providerId)
        (.httpException 409 "Provider event does not match the payment provider")
      ensure (event.financialEffect = .refundConfirmed)
        (.httpException 409 "Provider event is not confirmed refund evidence")
      let amount ← orRefuse event.amount
        (.httpException 409 "Provider refund event has no normalized refund amount")
      ensure (event.currency = some payment.currency)
        (.httpException 409 "Provider refund currency does not match the payment currency")
      return some amount

def isRefundEntry (paymentId : ℕ) (e : LedgerEntry) : Bool :=
  e.paymentId = some paymentId ∧ e.source = .refund ∧ e.isActive

/-- What was refunded so far: the ledger and the payment must agree. -/
def recordedRefundTotal (db : BillingTables) (payment : Payment) : Except DomainError ℚ := do
  let ledger := roundMoney (ledgerTotal db (isRefundEntry payment.id))
  ensure (ledger = payment.refundedAmount.value) (.httpException 409
    "Payment refund state conflicts with ledger evidence; reconcile it before another refund")
  return ledger

def activeAllocations (db : BillingTables) (paymentId : ℕ) : List PaymentAllocation :=
  db.allocations.rows.filter fun a => a.paymentId = paymentId ∧ a.isActive

def addAllocation (byInvoice : List (ℕ × ℚ)) (a : PaymentAllocation) : List (ℕ × ℚ) :=
  match byInvoice.find? (·.1 = a.invoiceId) with
  | some _ => byInvoice.map fun x =>
    if x.1 = a.invoiceId then (x.1, roundMoney (x.2 + a.amount.value)) else x
  | none => byInvoice ++ [(a.invoiceId, roundMoney (0 + a.amount.value))]

/-- The allocated amount of each invoice, in the order of their identifiers. -/
def allocationByInvoice (db : BillingTables) (paymentId : ℕ) : List (ℕ × ℚ) :=
  ((activeAllocations db paymentId).foldl addAllocation []).insertionSort fun x y => x.1 ≤ y.1

/-- The share of a payment's net value that an allocation of the gross has. -/
def contribution (allocated gross refunded : ℚ) : ℚ :=
  roundMoney (div (mul allocated (gross - refunded)) gross)

def refundInvoiceEffect (db : BillingTables) (gross refundedBefore refundedAfter : ℚ)
    (item : ℕ × ℚ) : Except DomainError PaymentRefundInvoiceEffect := do
  let invoice ← orRefuse (db.invoices.get? item.1)
    (.httpException 409 "Payment allocation references a missing invoice")
  let attributed := roundMoney
    (contribution item.2 gross refundedBefore - contribution item.2 gross refundedAfter)
  let receivableBefore := invoice.balanceDue.value
  return {
    invoiceId := invoice.id
    receivableBefore
    receivableAfter := min invoice.total.value (roundMoney (receivableBefore + attributed))
    refundAttributed := attributed }

/-- What a refund takes from each invoice. -/
def refundInvoiceEffects (db : BillingTables) (payment : Payment)
    (gross refundedBefore refundedAfter : ℚ) :
    Except DomainError (List PaymentRefundInvoiceEffect × ℚ) := do
  let effects ← (allocationByInvoice db payment.id).mapM
    (refundInvoiceEffect db gross refundedBefore refundedAfter)
  return (effects, effects.foldl (fun total e => roundMoney (total + e.refundAttributed)) 0)

def refundFingerprint (env : PaymentEnv) (payment : Payment) (accountId : ℕ)
    (origin : PaymentRefundOrigin) (providerEventId : Option ℕ) (reason : Option String)
    (gross refundedBefore amount fundingBefore creditBefore consumption : ℚ)
    (effects : List PaymentRefundInvoiceEffect) : String :=
  env.fingerprint ([.text "payment_refund", .id payment.id, .id accountId,
    .text (match origin with | .manual => "manual" | .providerEvent => "provider_event"),
    .optionalId providerEventId, .text (reason.getD "null"), .text payment.currency,
    .number gross, .number refundedBefore, .number amount, .number fundingBefore,
    .number creditBefore, .number consumption] ++
    effects.flatMap fun e => [.id e.invoiceId, .number e.receivableBefore,
      .number e.receivableAfter, .number e.refundAttributed])

def refundPreview (env : PaymentEnv) (db : BillingTables) (payment : Payment) (accountId : ℕ)
    (origin : PaymentRefundOrigin) (providerEventId : Option ℕ) (reason : Option String)
    (refundedBefore amount : ℚ) (effects : List PaymentRefundInvoiceEffect) (consumption : ℚ) :
    PaymentRefundPreview :=
  let gross := payment.amount.value
  let refundedAfter := roundMoney (refundedBefore + amount)
  let fundingBefore := env.customerBalance db accountId payment.currency
  let creditBefore := getAccountCreditBalance db accountId payment.currency
  { paymentId := payment.id
    accountId
    currency := payment.currency
    paymentGross := gross
    refundedBefore
    refundableBefore := roundMoney (gross - refundedBefore)
    refundAmount := amount
    refundedAfter
    paymentNetAfter := roundMoney (gross - refundedAfter)
    statusAfter := if refundedAfter = gross then .refunded else .partiallyRefunded
    prepaidFundingBefore := fundingBefore
    prepaidFundingAfter := roundMoney (fundingBefore - amount)
    accountCreditBefore := creditBefore
    accountCreditAfter := roundMoney (creditBefore - consumption)
    accountCreditConsumption := consumption
    invoiceEffects := effects
    fingerprint := refundFingerprint env payment accountId origin providerEventId reason gross
      refundedBefore amount fundingBefore creditBefore consumption effects }

/-- A refund as it would be recorded, or why it is refused. -/
def buildRefundPreview (env : PaymentEnv) (db : BillingTables) (payment : Payment)
    (request : PaymentRefundPreviewRequest) (origin : PaymentRefundOrigin)
    (providerEventId : Option ℕ) : Except DomainError PaymentRefundPreview := do
  let accountId ← refundCapability payment origin
  let confirmed ← validateRefundProviderEvent db payment origin providerEventId
  let gross := payment.amount.value
  ensure (0 < gross) (.httpException 409 "A non-positive payment cannot be refunded")
  let refundedBefore ← recordedRefundTotal db payment
  let refundable := roundMoney (gross - refundedBefore)
  let amount := request.amountOf refundable
  ensure (0 < amount) (.httpException 400 "Refund amount must be positive")
  ensure (amount ≤ refundable)
    (.httpException 400 s!"Refund amount exceeds refundable balance ({moneyText refundable})")
  ensure (∀ m ∈ confirmed, amount = m.value)
    (.httpException 409 "Refund amount does not match the normalized provider event")
  let (effects, attributed) ← refundInvoiceEffects db payment gross refundedBefore
    (roundMoney (refundedBefore + amount))
  let consumption := roundMoney (amount - attributed)
  ensure (0 ≤ consumption)
    (.httpException 409 "Payment allocations exceed the refundable payment amount")
  return refundPreview env db payment accountId origin providerEventId request.reason
    refundedBefore amount effects consumption

def refundIdempotencyScope : String := "payment_refund"

def isSafeKey (key : String) : Bool :=
  16 ≤ key.length ∧ key.length ≤ 120 ∧
    key.toList.all fun c => c.isAlphanum || c = '.' || c = '_' || c = '~' || c = '-'

def normalizeRefundKey (value : String) : Except DomainError String := do
  let key := strip value
  ensure (isSafeKey key = true) (.httpException 400 "Invalid refund idempotency key")
  return key

def reservation (db : BillingTables) (scope key : String) : Option IdempotencyKey :=
  db.idempotencyKeys.find? fun k => k.scope = scope ∧ k.key = key

def refundOf (db : BillingTables) (ledgerEntryId : ℕ) : Option (Payment × PaymentRefund) :=
  db.payments.rows.findSome? fun p =>
    (p.refunds.find? (·.ledgerEntryId = ledgerEntryId)).map fun refund => (p, refund)

def idempotentResult (db : BillingTables) (key : String) (paymentId : ℕ) (fingerprint : String) :
    Except DomainError (Option PaymentRefund) :=
  match reservation db refundIdempotencyScope key with
  | none => return none
  | some reserved => do
      let refId ← orRefuse reserved.refId (.httpException 409 "Refund is being processed")
      let (payment, refund) ← orRefuse (refundOf db refId)
        (.httpException 409 "Refund evidence is incomplete")
      ensure (payment.id = paymentId)
        (.httpException 409 "Idempotency key belongs to another payment")
      ensure (refund.previewFingerprint = some fingerprint)
        (.httpException 409 "Idempotency key was used with a different refund confirmation")
      ensure ((db.ledgerEntries.get? refund.ledgerEntryId).isSome = true)
        (.httpException 409 "Refund ledger evidence was not found")
      ensure (∀ i ∈ refund.creditConsumptionLedgerEntryId,
          (db.ledgerEntries.get? i).isSome = true)
        (.httpException 409 "Refund account-credit evidence was not found")
      return some refund

def refundEntry (preview : PaymentRefundPreview) (id : ℕ) : LedgerEntry where
  id
  accountId := preview.accountId
  invoiceId := none
  paymentId := some preview.paymentId
  entryType := .debit
  source := .refund
  amount := .store 2 preview.refundAmount
  currency := preview.currency
  isActive := true
  affectsCustomerPosition := true

/-- The ledger entry that consumes account credit.  It moves no customer position. -/
def consumptionEntry (accountId : ℕ) (paymentId : Option ℕ) (amount : ℚ) (currency : String)
    (id : ℕ) : LedgerEntry where
  id
  accountId
  invoiceId := none
  paymentId
  entryType := .debit
  source := .other
  amount := .store 2 amount
  currency
  isActive := true
  affectsCustomerPosition := false

lemma id_refundEntry (preview : PaymentRefundPreview) (i : ℕ) :
    Row.id (refundEntry preview i) = i := rfl

lemma id_consumptionEntry (accountId : ℕ) (paymentId : Option ℕ) (amount : ℚ) (currency : String)
    (i : ℕ) : Row.id (consumptionEntry accountId paymentId amount currency i) = i := rfl

def refundLedger (db : BillingTables) (preview : PaymentRefundPreview) : Table LedgerEntry :=
  let entries := db.ledgerEntries.insert (refundEntry preview) (id_refundEntry preview)
  if 0 < preview.accountCreditConsumption then
    entries.insert (consumptionEntry preview.accountId none preview.accountCreditConsumption
      preview.currency) (id_consumptionEntry _ _ _ _)
  else entries

def refundedPayment (db : BillingTables) (preview : PaymentRefundPreview)
    (origin : PaymentRefundOrigin) (providerEventId : Option ℕ) (payment : Payment) : Payment :=
  { payment with
    status := preview.statusAfter
    refundedAmount := .store 2 preview.refundedAfter
    refunds := payment.refunds ++ [{
      ledgerEntryId := db.ledgerEntries.next
      creditConsumptionLedgerEntryId :=
        if 0 < preview.accountCreditConsumption then some (db.ledgerEntries.next + 1) else none
      providerEventId
      amount := .store 2 preview.refundAmount
      currency := preview.currency
      origin
      previewFingerprint := some preview.fingerprint }] }

def retireAllocation (paymentId : ℕ) (a : PaymentAllocation) : PaymentAllocation :=
  if a.paymentId = paymentId ∧ a.isActive then { a with isActive := false } else a

def retireCredit (paymentId : ℕ) (invoiceIds : List ℕ) (e : LedgerEntry) : LedgerEntry :=
  if e.paymentId = some paymentId ∧ e.source = .payment ∧ ∃ i ∈ invoiceIds, e.invoiceId = some i
  then { e with isActive := false } else e

lemma id_refundedPayment (db : BillingTables) (preview : PaymentRefundPreview)
    (origin : PaymentRefundOrigin) (providerEventId : Option ℕ) (payment : Payment) :
    Row.id (refundedPayment db preview origin providerEventId payment) = Row.id payment := rfl

lemma id_retireAllocation (paymentId : ℕ) (a : PaymentAllocation) :
    Row.id (retireAllocation paymentId a) = Row.id a := by
  rw [retireAllocation]
  split_ifs <;> rfl

lemma id_retireCredit (paymentId : ℕ) (invoiceIds : List ℕ) (e : LedgerEntry) :
    Row.id (retireCredit paymentId invoiceIds e) = Row.id e := by
  rw [retireCredit]
  split_ifs <;> rfl

def postRefund (db : BillingTables) (preview : PaymentRefundPreview)
    (origin : PaymentRefundOrigin) (providerEventId : Option ℕ) (key : String) : BillingTables :=
  { db with
    idempotencyKeys := db.idempotencyKeys ++
      [⟨refundIdempotencyScope, key, some db.ledgerEntries.next⟩]
    ledgerEntries := refundLedger db preview
    payments := db.payments.update preview.paymentId
      (refundedPayment db preview origin providerEventId)
      (id_refundedPayment db preview origin providerEventId) }

def retireAllocations (db : BillingTables) (paymentId : ℕ) (invoiceIds : List ℕ) : BillingTables :=
  { db with
    ledgerEntries := db.ledgerEntries.map (retireCredit paymentId invoiceIds)
      (id_retireCredit paymentId invoiceIds)
    allocations := db.allocations.map (retireAllocation paymentId)
      (id_retireAllocation paymentId) }

def recordRefund (env : PaymentEnv) (db : BillingTables) (preview : PaymentRefundPreview)
    (origin : PaymentRefundOrigin) (providerEventId : Option ℕ) (key : String) : BillingTables :=
  let invoiceIds := ((activeAllocations db preview.paymentId).map (·.invoiceId)).dedup
  let posted := postRefund db preview origin providerEventId key
  invoiceIds.foldl (finalizeInvoicePaymentEffects env.now)
    (if preview.statusAfter = .refunded then retireAllocations posted preview.paymentId invoiceIds
      else posted)

/-- Confirm a previewed refund; a key that was confirmed before answers without effect. -/
def processWithEvidence (env : PaymentEnv) (db : BillingTables) (paymentId : ℕ)
    (request : PaymentRefundRequest) (origin : PaymentRefundOrigin) (providerEventId : Option ℕ) :
    Except DomainError (BillingTables × Option PaymentRefundPreview) := do
  let key ← normalizeRefundKey request.idempotencyKey
  match ← idempotentResult db key paymentId request.previewFingerprint with
  | some _ => return (db, none)
  | none =>
    let payment ← orRefuse (db.payments.get? paymentId)
      (.httpException 404 "Payment not found")
    ensure (payment.accountId ≠ none) (.httpException 409
      "Consolidated billing-account refunds require their own owner workflow")
    let preview ← buildRefundPreview env db payment request.toPaymentRefundPreviewRequest origin
      providerEventId
    ensure (preview.fingerprint = request.previewFingerprint)
      (.httpException 409 "Financial state changed after preview; preview again")
    ensure (∀ i ∈ providerEventId, ∀ p ∈ db.payments.rows, ∀ refund ∈ p.refunds,
        refund.providerEventId ≠ some i) (.integrityError "payment_refunds")
    return (recordRefund env db preview origin providerEventId key, some preview)

end Payments

end DotmacSub
