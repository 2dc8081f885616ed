import DotmacSub.Billing.BillingAnchors
import DotmacSub.Billing.LapsedSettlements

/-!
# What makes service covered

The producers of entitlements besides renewals, and all of them as one system.
-/

namespace DotmacSub.PrepaidService

open Store Checked Payments ServiceExtensions

def baseSubscriptionLines (lines : List InvoiceLine) : List InvoiceLine :=
  baseSubscriptionInvoiceLines lines

/-- The period of a line, else that of its invoice. -/
def linePeriod (invoice : Invoice) (line : InvoiceLine) : Option ℤ × Option ℤ :=
  if line.billingPeriodStart.isSome ∧ line.billingPeriodEnd.isSome then
    (line.billingPeriodStart, line.billingPeriodEnd)
  else (invoice.billingPeriodStart, invoice.billingPeriodEnd)

def Invoice.isSettled (invoice : Invoice) : Bool :=
  invoice.isActive ∧ invoice.status = .paid ∧ invoice.balanceDue ≤ 0

/-- What a line of a paid invoice pays for: the period of a prepaid subscription of its account. -/
def paidPeriod (db : RenewalTables) (invoice : Invoice) (line : InvoiceLine) :
    Option ServicePeriod := do
  guard (line.isActive)
  let subscriptionId ← line.subscriptionId
  let subscription ← db.subscriptions.get? subscriptionId
  guard (subscription.subscriberId = invoice.accountId ∧ subscription.billingMode = .prepaid)
  let startsAt ← (linePeriod invoice line).1
  let endsAt ← (linePeriod invoice line).2
  guard (startsAt < endsAt)
  pure ⟨subscriptionId, startsAt, endsAt⟩

def entitlementOfLine (db : RenewalTables) (lineId : ℕ) : Option ServiceEntitlement :=
  db.entitlements.rows.find? fun row => row.sourceInvoiceLineId = some lineId ∧ row.status = .active

def lineEntitlement (invoice : Invoice) (line : InvoiceLine) (period : ServicePeriod) (id : ℕ) :
    ServiceEntitlement :=
  ⟨id, invoice.accountId, period.subscriptionId, some invoice.id, some line.id, none, none,
    period.startsAt, period.endsAt, roundMoney line.amount, invoice.currency.getD "NGN", .active⟩

def ensurePrepaidEntitlementForPaidInvoiceLine (invoice : Invoice) (db : RenewalTables)
    (line : InvoiceLine) : RenewalTables :=
  match paidPeriod db invoice line with
  | none => db
  | some period =>
    if (entitlementOfLine db line.id).isSome then db
    else
      { db with
        entitlements := db.entitlements.insert (lineEntitlement invoice line period) fun _ => rfl }

def entitlingLines (db : RenewalTables) (invoice : Invoice) : List InvoiceLine :=
  if invoice.isSettled then
    baseSubscriptionLines (invoice.lines.filter fun line =>
      line.isActive ∧ ∃ subscription ∈ line.subscriptionId.bind db.subscriptions.get?,
        subscription.billingMode = .prepaid)
  else []

def ensurePrepaidEntitlementsForPaidInvoice (db : RenewalTables) (invoice : Invoice) :
    RenewalTables :=
  (entitlingLines db invoice).foldl (ensurePrepaidEntitlementForPaidInvoiceLine invoice) db

structure BillingTreatmentDecision where
  suppressCustomerBilling : Bool
  grantable : Bool
  treatment : SubscriptionBillingTreatment
  arrangementId : Option ℕ
  startsAt : Option ℤ
deriving DecidableEq

structure SubscriptionReferencePrice where
  amount : ℚ
  currency : String
  billingCycle : BillingCycle
deriving DecidableEq

/-- The price that a grant stands for, by the catalog. -/
abbrev ReferencePrices := Subscription → ℤ → Except Refusal SubscriptionReferencePrice

def SubscriptionBillingArrangement.isEffective (arrangement : SubscriptionBillingArrangement)
    (subscription : Subscription) (decision : BillingTreatmentDecision) : Bool :=
  arrangement.status = .active ∧ arrangement.subscriptionId = subscription.id ∧
    arrangement.accountId = subscription.subscriberId ∧
    arrangement.authorizedOfferId = subscription.offerId ∧
    arrangement.treatment = decision.treatment

def grantRow (arrangement : SubscriptionBillingArrangement) (subscription : Subscription)
    (period : ServicePeriod) (value : ℚ) (currency : String) (id : ℕ) : SubscriptionBillingGrant :=
  ⟨id, arrangement.id, subscription.id, subscription.subscriberId, arrangement.treatment,
    period.startsAt, period.endsAt, value, currency, (arrangement.id, period)⟩

def SubscriptionBillingGrant.matches (grant expected : SubscriptionBillingGrant) : Bool :=
  grant.arrangementId = expected.arrangementId ∧ grant.subscriptionId = expected.subscriptionId ∧
    grant.accountId = expected.accountId ∧ grant.treatment = expected.treatment ∧
    grant.startsAt = expected.startsAt ∧ grant.endsAt = expected.endsAt ∧
    roundMoney grant.referenceAmount = expected.referenceAmount ∧
    grant.currency = expected.currency

def grantEntitlement (grant : SubscriptionBillingGrant) (id : ℕ) : ServiceEntitlement :=
  ⟨id, grant.accountId, grant.subscriptionId, none, none, none, some grant.id, grant.startsAt,
    grant.endsAt, 0, grant.currency, .active⟩

def ServiceEntitlement.matchesGrant (grant : SubscriptionBillingGrant)
    (row : ServiceEntitlement) : Bool :=
  row.accountId = grant.accountId ∧ row.subscriptionId = grant.subscriptionId ∧
    row.startsAt = grant.startsAt ∧ row.endsAt = grant.endsAt ∧
    roundMoney row.amountFunded = 0 ∧ row.currency = grant.currency

def entitlementOfGrant (db : RenewalTables) (grantId : ℕ) : Option ServiceEntitlement :=
  db.entitlements.rows.find? fun row =>
    row.sourceBillingGrantId = some grantId ∧ row.status = .active

def recordGrant (db : RenewalTables) (expected : ℕ → SubscriptionBillingGrant)
    (h : ∀ id, (expected id).id = id) (key : ℕ × ServicePeriod) :
    Except Refusal (RenewalTables × SubscriptionBillingGrant) :=
  match db.grants.rows.find? (·.idempotencyKey = key) with
  | some grant =>
    if grant.matches (expected grant.id) then pure (db, grant)
    else .error (.grant .idempotencyConflict)
  | none => pure ({ db with grants := db.grants.insert expected h }, expected db.grants.next)

def recordGrantEntitlement (db : RenewalTables) (grant : SubscriptionBillingGrant) :
    Except Refusal (RenewalTables × ServiceEntitlement) :=
  match entitlementOfGrant db grant.id with
  | some entitlement =>
    if entitlement.matchesGrant grant then pure (db, entitlement)
    else .error (.grant .entitlementConflict)
  | none => pure
    ({ db with entitlements := db.entitlements.insert (grantEntitlement grant) fun _ => rfl },
      grantEntitlement grant db.entitlements.next)

/-- A grant pays for a period without cash. -/
def stageSubscriptionBillingGrant (prices : ReferencePrices) (db : RenewalTables)
    (subscriptionId : ℕ) (decision : BillingTreatmentDecision) (startsAt endsAt : ℤ)
    (referenceAmount : Option ℚ) :
    Except Refusal (RenewalTables × ServiceEntitlement) := do
  ensure decision.grantable (.grant .grantBlocked)
  let arrangementId ← orRefuse decision.arrangementId (.grant .grantBlocked)
  ensure (startsAt < endsAt) (.grant .invalidGrantPeriod)
  let subscription ← orRefuse (db.subscriptions.get? subscriptionId)
    (.grant .subscriptionNotFound)
  let arrangement ← orRefuse ((db.arrangements.get? arrangementId).filter
    (·.isEffective subscription decision)) (.grant .arrangementNotEffective)
  ensure (arrangement.startsAt ≤ startsAt) (.grant .grantOutsideArrangement)
  ensure (endsAt ≤ arrangement.endsAt) (.grant .grantOutsideArrangement)
  let reference ← prices subscription startsAt
  ensure (reference.amount ≤ arrangement.maximumRecurringAmount ∧
    reference.currency = arrangement.currency ∧
    reference.billingCycle = arrangement.billingCycle) (.grant .approvedValueExceeded)
  let value := roundMoney (referenceAmount.getD reference.amount)
  ensure (0 < value ∧ value ≤ reference.amount) (.grant .invalidReferenceAmount)
  let period : ServicePeriod := ⟨subscriptionId, startsAt, endsAt⟩
  let (granted, grant) ← recordGrant db
    (grantRow arrangement subscription period value reference.currency) (fun _ => rfl)
    (arrangementId, period)
  let (entitled, entitlement) ← recordGrantEntitlement granted grant
  let anchored ← advanceAnchor entitled subscription endsAt .subscriptionBillingGrant
    "billing-grant"
  pure (anchored, entitlement)

/-- The commands that cover service, and the one that uncovers it.  A renewal may have been
previewed in any earlier state, and by any trigger; it is confirmed at the lock of the account. -/
inductive ProducerCommand
  | renew (preview : PrepaidServiceRenewalPreview) (evidenceRef : String)
  | grant (subscriptionId : ℕ) (decision : BillingTreatmentDecision) (startsAt endsAt : ℤ)
      (referenceAmount : Option ℚ)
  | pay (invoiceId : ℕ) (effectiveAt : Option ℤ)
  | unpay (invoiceId : ℕ) (reopened : InvoiceStatus)

def Invoice.paid (invoice : Invoice) : Invoice :=
  { invoice with status := .paid, balanceDue := 0 }

/-- The payment owner settles an invoice and moves it if it has lapsed, and what it funds is recorded.
The effective time is that of the latest payment, or of another application. -/
def payInvoice (calendar : BillingCalendar) (db : RenewalTables) (invoiceId : ℕ)
    (effectiveAt : Option ℤ) : Except Refusal RenewalTables :=
  match db.invoices.get? invoiceId with
  | none => pure db
  | some invoice => do
    let (reanchored, settled) ← reanchorPaidPrepaidInvoiceIfLapsed calendar
      { db with invoices := db.invoices.update invoiceId Invoice.paid fun _ => rfl } invoice.paid
      effectiveAt
    pure (ensurePrepaidEntitlementsForPaidInvoice reanchored settled)

/-- The payment owner reopens an invoice, what it funded is revoked and anchors are retracted. -/
def unpayInvoice (db : RenewalTables) (invoiceId : ℕ) (reopened : InvoiceStatus) : RenewalTables :=
  { db with toPrepaidTables := db.toPrepaidTables.reverseFunding reopened invoiceId }

/-- One producer, at the account lock. -/
def producerStep (env : RenewalEnv) (prices : ReferencePrices) (calendar : BillingCalendar)
    (db : RenewalTables) : ProducerCommand → Except Refusal RenewalTables
  | .renew preview evidenceRef =>
    Prod.fst <$> confirmPrepaidServiceRenewal env db preview evidenceRef
  | .grant subscriptionId decision startsAt endsAt referenceAmount =>
    Prod.fst <$> stageSubscriptionBillingGrant prices db subscriptionId decision startsAt endsAt
      referenceAmount
  | .pay invoiceId effectiveAt => payInvoice calendar db invoiceId effectiveAt
  | .unpay invoiceId reopened => pure (unpayInvoice db invoiceId reopened)

end DotmacSub.PrepaidService
