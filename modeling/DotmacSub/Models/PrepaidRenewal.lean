import DotmacSub.Models.PrepaidService

/-!
# Renewals of prepaid service

The rows behind a renewal that the wallet pays for: adjustments with their ledger entries, and the
grants of approved arrangements.  A digest stands for what it is taken of.
-/

namespace DotmacSub.PrepaidService

open Store

inductive LedgerCategory
  | internetService
  | customService
  | voiceService
  | bundleService
  | installationFee
  | equipmentRental
  | equipmentPurchase
  | latePaymentFee
  | reconnectionFee
  | deposit
  | discount
  | tax
  | overage
  | topUp
  | other
deriving DecidableEq

inductive AccountAdjustmentOrigin
  | manual
  | addonPurchase
  | prepaidPlanChange
  | prepaidServiceRenewal
deriving DecidableEq

structure ServicePeriod where
  subscriptionId : ℕ
  startsAt : ℤ
  endsAt : ℤ
deriving DecidableEq

/-- A reference or key: that of a period, or a text of the caller. -/
inductive Reference
  | period (period : ServicePeriod)
  | text (value : String)
deriving DecidableEq

structure LedgerEntry where
  id : ℕ
  accountId : ℕ
  entryType : LedgerEntryType
  source : LedgerSource
  category : LedgerCategory
  amount : Money
  currency : String
  effectiveDate : Option ℤ
  reversalOfEntryId : Option ℕ
  isActive : Bool
  affectsCustomerPosition : Bool
deriving DecidableEq

instance : Row LedgerEntry := ⟨LedgerEntry.id⟩

/-- Evidence for one previewed debit against the funding of an account. -/
structure AccountAdjustment where
  id : ℕ
  accountId : ℕ
  category : LedgerCategory
  amount : ℚ
  currency : String
  memo : String
  reason : String
  origin : AccountAdjustmentOrigin
  originRef : Option Reference
  prepaidFundingBefore : ℚ
  prepaidFundingAfter : ℚ
  postpaidReceivables : ℚ
  collectionBlockingBalance : ℚ
  previewFingerprint : String
  idempotencyKey : Reference
  ledgerEntryId : ℕ
  reversalLedgerEntryId : Option ℕ
  reversalPreviewFingerprint : Option String
  reversalIdempotencyKey : Option Reference
  reversalReason : Option String
  reversalPrepaidFundingBefore : Option ℚ
  reversalPrepaidFundingAfter : Option ℚ
  reversedAt : Option ℤ
deriving DecidableEq

instance : Row AccountAdjustment := ⟨AccountAdjustment.id⟩

inductive SubscriptionBillingTreatment
  | standard
  | complimentary
  | sponsored
deriving DecidableEq

inductive BillingTreatmentStatus
  | active
  | revoked
deriving DecidableEq

inductive BillingCycle
  | daily
  | weekly
  | monthly
  | quarterly
  | annual
deriving DecidableEq

structure SubscriptionBillingArrangement where
  id : ℕ
  subscriptionId : ℕ
  accountId : ℕ
  authorizedOfferId : ℕ
  treatment : SubscriptionBillingTreatment
  startsAt : ℤ
  endsAt : ℤ
  maximumRecurringAmount : ℚ
  billingCycle : BillingCycle
  currency : String
  status : BillingTreatmentStatus
deriving DecidableEq

instance : Row SubscriptionBillingArrangement := ⟨SubscriptionBillingArrangement.id⟩

/-- One period granted under an arrangement; the key is the digest of both. -/
structure SubscriptionBillingGrant where
  id : ℕ
  arrangementId : ℕ
  subscriptionId : ℕ
  accountId : ℕ
  treatment : SubscriptionBillingTreatment
  startsAt : ℤ
  endsAt : ℤ
  referenceAmount : ℚ
  currency : String
  idempotencyKey : ℕ × ServicePeriod
deriving DecidableEq

instance : Row SubscriptionBillingGrant := ⟨SubscriptionBillingGrant.id⟩

/-- The tables of the renewal owners. -/
structure RenewalTables extends PrepaidTables where
  arrangements : Table SubscriptionBillingArrangement
  grants : Table SubscriptionBillingGrant
  adjustments : Table AccountAdjustment
  ledgerEntries : Table LedgerEntry

inductive AdjustmentError
  | accountNotFound
  | adjustmentNotFound
  | alreadyReversed
  | idempotencyConflict
  | incompleteEvidence (issueCodes : List String)
  | insufficientFunding
  | invalidCommand (field : String)
  | invalidConfiguration (field : String)
  | stalePreview
deriving DecidableEq

inductive RenewalError
  | subscriptionNotFound
  | ineligibleBillingMode
  | ineligibleStatus
  | invalidPeriod
  | invalidAmount
  | invalidCurrency
  | periodAlreadyFunded
  | adjustmentRejected (code : AdjustmentError)
  | missingEvidenceRef
  | idempotencyConflict
  | stalePreview
  | insufficientFunding
  | incompleteEntitlement
deriving DecidableEq

/-- The codes of the owner of grants, and of the reference prices it reads. -/
inductive GrantError
  | grantBlocked
  | invalidGrantPeriod
  | subscriptionNotFound
  | arrangementNotEffective
  | grantOutsideArrangement
  | approvedValueExceeded
  | invalidReferenceAmount
  | idempotencyConflict
  | entitlementConflict
  | referencePrice (code : String)
deriving DecidableEq

/-- What the commands of these owners are refused with. -/
inductive Refusal
  | adjustment (code : AdjustmentError)
  | renewal (code : RenewalError)
  | grant (code : GrantError)
  /-- The anchor writer. -/
  | billingAnchorProjection (message : String)
  /-- No verified opening balance stands behind an account. -/
  | prepaidFundingBaselineMissing
  | prepaidCurrency
  /-- The calendar resolver, by its code. -/
  | cadence (code : String)
deriving DecidableEq

end DotmacSub.PrepaidService
