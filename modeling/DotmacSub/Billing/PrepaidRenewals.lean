import DotmacSub.Billing.Adjustments

/-!
# Renewals of prepaid service

`prepaid_service_renewals.py`: the wallet pays for one exact period.  The debit, the entitlement and
the anchor are written together, once for the period.
-/

namespace DotmacSub.PrepaidService

open Store Checked Payments ServiceExtensions

inductive BillingAnchorProjectionSource
  | lifecycleActivation
  | lifecycleResume
  | scheduledBilling
  | prepaidCoverage
  | prepaidSettlementReanchor
  | subscriptionBillingGrant
  | serviceExtension
  | reviewedReconciliation
deriving DecidableEq

def retractionSources : List BillingAnchorProjectionSource :=
  [.prepaidCoverage, .reviewedReconciliation, .serviceExtension]

/-- The writer of `next_billing_at`: the anchor must still be what the projection was derived
from. -/
def stageSubscriptionBillingAnchor (db : RenewalTables) (subscriptionId : ℕ)
    (expectedPrevious : Option ℤ) (target : ℤ) (source : BillingAnchorProjectionSource)
    (evidenceRef : String) : Except Refusal RenewalTables := do
  ensure (Text.strip evidenceRef ≠ "")
    (.billingAnchorProjection "Billing-anchor evidence_ref is required")
  let subscription ← orRefuse (db.subscriptions.get? subscriptionId)
    (.billingAnchorProjection "Subscription not found")
  ensure (subscription.nextBillingAt = expectedPrevious)
    (.billingAnchorProjection "Billing anchor changed after the projection was derived")
  ensure ((∀ current ∈ subscription.nextBillingAt, current ≤ target) ∨ source ∈ retractionSources)
    (.billingAnchorProjection "cannot retract the billing anchor")
  pure { db with
    subscriptions := db.subscriptions.update subscriptionId
      ({ · with nextBillingAt := some target }) fun _ => rfl }

def ServiceEntitlement.overlaps (period : ServicePeriod) (row : ServiceEntitlement) : Bool :=
  row.subscriptionId = period.subscriptionId ∧ row.status = .active ∧
    row.startsAt < period.endsAt ∧ period.startsAt < row.endsAt

def existingPeriodEntitlement (db : RenewalTables) (period : ServicePeriod) :
    Option ServiceEntitlement :=
  db.entitlements.rows.find? (ServiceEntitlement.overlaps period)

def entitlementOfDebit (db : RenewalTables) (ledgerEntryId : ℕ) : Option ServiceEntitlement :=
  db.entitlements.rows.find? fun row =>
    row.sourceLedgerEntryId = some ledgerEntryId ∧ row.status = .active

def ensurePrepaidEntitlementForWalletDebit (db : RenewalTables) (subscription : Subscription)
    (entry : LedgerEntry) (startsAt endsAt : ℤ) : RenewalTables × Option ServiceEntitlement :=
  let adjustmentOwned : Bool := entry.source = .adjustment ∧
    ∃ row ∈ db.adjustments.rows, row.ledgerEntryId = entry.id ∧ row.origin = .prepaidServiceRenewal
  if (entry.source ≠ .invoice ∧ ¬adjustmentOwned) ∨ ¬entry.isActive then (db, none)
  else
    match entitlementOfDebit db entry.id with
    | some existing => (db, some existing)
    | none =>
      let row (id : ℕ) : ServiceEntitlement :=
        ⟨id, subscription.subscriberId, subscription.id, none, none, some entry.id, none, startsAt,
          endsAt, roundMoney entry.amount.value,
          if entry.currency = "" then "NGN" else entry.currency, .active⟩
      ({ db with entitlements := db.entitlements.insert row fun _ => rfl },
        some (row db.entitlements.next))

def renewalEligibleStatuses : List SubscriptionStatus := [.active, .blocked, .suspended]

def subscriptionForRequest (db : RenewalTables) (subscriptionId : ℕ) :
    Except Refusal Subscription := do
  let subscription ← orRefuse (db.subscriptions.get? subscriptionId)
    (.renewal .subscriptionNotFound)
  ensure (subscription.billingMode = .prepaid) (.renewal .ineligibleBillingMode)
  ensure (subscription.status ∈ renewalEligibleStatuses) (.renewal .ineligibleStatus)
  pure subscription

structure PrepaidServiceRenewalPreview where
  accountId : ℕ
  period : ServicePeriod
  amount : ℚ
  currency : String
  fundingBefore : ℚ
  fundingAfter : ℚ
  shortfall : ℚ
  allowed : Bool
  fingerprint : String
  replayed : Bool
deriving DecidableEq

def renewalRequest (env : RenewalEnv) (accountId : ℕ) (period : ServicePeriod) (amount : ℚ)
    (currency : String) : AccountAdjustmentPreviewRequest :=
  ⟨accountId, .internetService, amount, some currency,
    "Prepaid service renewal " ++ (env.date period.startsAt ++ " - " ++ env.date period.endsAt),
    "Funded prepaid service period"⟩

def adjustmentRejected : Refusal → Refusal
  | .adjustment code => .renewal (.adjustmentRejected code)
  | refusal => refusal

def isRecordedRenewal (accountId : ℕ) (period : ServicePeriod) (charge : ℚ) (unit : String)
    (overlap : ServiceEntitlement) (adjustment : AccountAdjustment) : Bool :=
  overlap.sourceLedgerEntryId = some adjustment.ledgerEntryId ∧ overlap.accountId = accountId ∧
    overlap.startsAt = period.startsAt ∧ overlap.endsAt = period.endsAt ∧
    roundMoney overlap.amountFunded = charge ∧ overlap.currency = unit

/-- A renewal as it would be recorded, or as it was.  The key and the reference of its debit are
those of the period. -/
def previewPrepaidServiceRenewal (env : RenewalEnv) (db : RenewalTables) (period : ServicePeriod)
    (amount : ℚ) (currency : String) : Except Refusal PrepaidServiceRenewalPreview := do
  let subscription ← subscriptionForRequest db period.subscriptionId
  ensure (period.startsAt < period.endsAt) (.renewal .invalidPeriod)
  let charge := roundMoney amount
  ensure (0 < charge) (.renewal .invalidAmount)
  let unit := upper currency
  ensure (unit.length = 3) (.renewal .invalidCurrency)
  match existingPeriodEntitlement db period with
  | some overlap => do
    let adjustment ← orRefuse ((existingForKey db .prepaidServiceRenewal (.period period)).filter
      (isRecordedRenewal subscription.subscriberId period charge unit overlap))
      (.renewal .periodAlreadyFunded)
    pure ⟨subscription.subscriberId, period, charge, unit,
      roundMoney adjustment.prepaidFundingBefore, roundMoney adjustment.prepaidFundingAfter, 0,
      true, adjustment.previewFingerprint, true⟩
  | none => do
    let preview ← (previewAccountAdjustment env db
      (renewalRequest env subscription.subscriberId period charge unit) .prepaidServiceRenewal
      (some (.period period))).mapError adjustmentRejected
    pure ⟨subscription.subscriberId, period, charge, unit, preview.prepaidFundingBefore,
      preview.prepaidFundingAfter, preview.shortfall, preview.allowed, preview.fingerprint, false⟩

structure PrepaidServiceRenewalResult where
  preview : PrepaidServiceRenewalPreview
  adjustment : AccountAdjustment
  ledgerEntry : LedgerEntry
  entitlement : ServiceEntitlement
  replayed : Bool
deriving DecidableEq

def renewalContext (period : ServicePeriod) : AdjustmentContext :=
  ⟨accountAdjustmentScope, some .system, "prepaid_service_renewals", some (.period period)⟩

def matchesPreview (preview : PrepaidServiceRenewalPreview) (adjustment : AccountAdjustment)
    (entitlement : ServiceEntitlement) : Bool :=
  adjustment.previewFingerprint = preview.fingerprint ∧
    adjustment.accountId = preview.accountId ∧
    entitlement.subscriptionId = preview.period.subscriptionId ∧
    entitlement.startsAt = preview.period.startsAt ∧
    entitlement.endsAt = preview.period.endsAt ∧
    roundMoney entitlement.amountFunded = preview.amount ∧ entitlement.currency = preview.currency

/-- The answer for a period that was renewed before. -/
def renewalReplay (db : RenewalTables) (preview : PrepaidServiceRenewalPreview)
    (adjustment : AccountAdjustment) : Except Refusal PrepaidServiceRenewalResult := do
  let entitlement ← orRefuse ((entitlementOfDebit db adjustment.ledgerEntryId).filter
    (matchesPreview preview adjustment)) (.renewal .idempotencyConflict)
  let entry ← orRefuse (db.ledgerEntries.get? adjustment.ledgerEntryId)
    (.adjustment (.incompleteEvidence ["missing_debit_ledger_entry"]))
  pure ⟨preview, adjustment, entry, entitlement, true⟩

/-- A renewal moves the anchor to the end of its period, never back. -/
def advanceAnchor (db : RenewalTables) (subscription : Subscription) (target : ℤ)
    (source : BillingAnchorProjectionSource) (evidenceRef : String) :
    Except Refusal RenewalTables :=
  if ∀ current ∈ subscription.nextBillingAt, current < target then
    stageSubscriptionBillingAnchor db subscription.id subscription.nextBillingAt target source
      evidenceRef
  else pure db

/-- Lock, preview again, and write the debit, the entitlement and the anchor. -/
def confirmPrepaidServiceRenewal (env : RenewalEnv) (db : RenewalTables)
    (preview : PrepaidServiceRenewalPreview) (evidenceRef : String) :
    Except Refusal (RenewalTables × PrepaidServiceRenewalResult) := do
  let evidence := Text.strip evidenceRef
  ensure (evidence ≠ "") (.renewal .missingEvidenceRef)
  match existingForKey db .prepaidServiceRenewal (.period preview.period) with
  | some adjustment => do
    let result ← renewalReplay db preview adjustment
    pure (db, result)
  | none => do
    let subscription ← subscriptionForRequest db preview.period.subscriptionId
    let current ← previewPrepaidServiceRenewal env db preview.period preview.amount
      preview.currency
    ensure (current.fingerprint = preview.fingerprint) (.renewal .stalePreview)
    ensure current.allowed (.renewal .insufficientFunding)
    let (debited, result) ← (stageSystemAccountAdjustment env db (renewalContext preview.period)
      (renewalRequest env current.accountId current.period current.amount current.currency)
      .prepaidServiceRenewal (some (.period current.period)) (.period current.period)
      (some current.period.startsAt)).mapError adjustmentRejected
    let funded := ensurePrepaidEntitlementForWalletDebit debited subscription result.ledgerEntry
      current.period.startsAt current.period.endsAt
    let entitlement ← orRefuse funded.2 (.renewal .incompleteEntitlement)
    let anchored ← advanceAnchor funded.1 subscription current.period.endsAt .prepaidCoverage
      evidence
    pure (anchored, ⟨current, result.adjustment, result.ledgerEntry, entitlement,
      result.replayed⟩)

end DotmacSub.PrepaidService
