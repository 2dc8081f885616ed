import DotmacSub.Core.Table

/-!
# Service extensions and prepaid evidence

The rows that say when a prepaid service is paid for: the subscription with its mutable billing
anchor, funded entitlements, and extensions with the grant of each subscription they touched.
Instants are microseconds.
-/

namespace DotmacSub.ServiceExtensions

open Store

inductive SubscriptionStatus
  | pending
  | active
  | blocked
  | suspended
  | stopped
  | disabled
  | hidden
  | archived
  | canceled
  | expired
deriving DecidableEq

/-- A subscription; the anchor is `next_billing_at`. -/
structure Subscription where
  id : ℕ
  subscriberId : ℕ
  status : SubscriptionStatus
  startAt : Option ℤ
  nextBillingAt : Option ℤ
  provisioningNasDeviceId : Option ℕ
deriving DecidableEq

instance : Row Subscription := ⟨Subscription.id⟩

inductive ServiceEntitlementStatus
  | active
  | void
  | reversed
deriving DecidableEq

structure ServiceEntitlement where
  id : ℕ
  subscriptionId : ℕ
  status : ServiceEntitlementStatus
  startsAt : ℤ
  endsAt : ℤ
deriving DecidableEq

instance : Row ServiceEntitlement := ⟨ServiceEntitlement.id⟩

inductive ServiceExtensionStatus
  | pending
  | applied
  | canceled
  | reversed
deriving DecidableEq

inductive ServiceExtensionScope
  | network
  | popSite (scopeId : Option ℕ)
  | nasDevice (scopeId : Option ℕ)
  | subscribers (subscriberIds : List ℕ)
deriving DecidableEq

/-- An extension; its length in days is checked when it is created. -/
structure ServiceExtension where
  id : ℕ
  days : ℕ
  days_pos : 0 < days
  scope : ServiceExtensionScope
  status : ServiceExtensionStatus
  affectedCount : ℕ
  skippedCount : ℕ
  resumedCount : ℕ
  stillSuspendedCount : ℕ
  createdBy : Option String
  appliedBy : Option String
  appliedAt : Option ℤ
deriving DecidableEq

instance : Row ServiceExtension := ⟨ServiceExtension.id⟩

inductive ServiceExtensionAnchorBasis
  | existingBillingAnchor
  | applicationTime
  | legacyPreviousAnchor
deriving DecidableEq

structure ServiceExtensionEntry where
  id : ℕ
  extensionId : ℕ
  subscriptionId : ℕ
  previousNextBillingAt : Option ℤ
  grantStartsAt : Option ℤ
  grantEndsAt : Option ℤ
  anchorBasis : Option ServiceExtensionAnchorBasis
  newNextBillingAt : Option ℤ
deriving DecidableEq

instance : Row ServiceExtensionEntry := ⟨ServiceExtensionEntry.id⟩

inductive ServiceExtensionReversalAnchorDisposition
  | restoredPreviousAnchor
  | preservedLaterAnchor
  | preservedLowerAnchor
  | preservedTerminalSubscription
deriving DecidableEq

/-- The evidence that an extension was reversed; the fingerprint is that of the preview. -/
structure ServiceExtensionReversal where
  id : ℕ
  extensionId : ℕ
  reason : String
  previewFingerprint : ℕ
  idempotencyKey : ℕ
  reversedBy : String
  reversedAt : ℤ
  inspectedCount : ℕ
  restoredAnchorCount : ℕ
  preservedLaterAnchorCount : ℕ
  preservedLowerAnchorCount : ℕ
  preservedTerminalCount : ℕ
deriving DecidableEq

instance : Row ServiceExtensionReversal := ⟨ServiceExtensionReversal.id⟩

structure ServiceExtensionReversalEntry where
  id : ℕ
  reversalId : ℕ
  extensionEntryId : ℕ
  subscriptionId : ℕ
  observedNextBillingAt : Option ℤ
  resultingNextBillingAt : Option ℤ
  disposition : ServiceExtensionReversalAnchorDisposition
deriving DecidableEq

instance : Row ServiceExtensionReversalEntry := ⟨ServiceExtensionReversalEntry.id⟩

structure ExtensionDb where
  subscriptions : Table Subscription
  extensions : Table ServiceExtension
  entries : Table ServiceExtensionEntry
  reversals : Table ServiceExtensionReversal
  reversalEntries : Table ServiceExtensionReversalEntry

end DotmacSub.ServiceExtensions
