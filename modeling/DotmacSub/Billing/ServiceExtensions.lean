import DotmacSub.Core.Checked
import DotmacSub.Core.Sweeps
import DotmacSub.Core.Text
import DotmacSub.Models.DomainErrors
import DotmacSub.Models.ServiceExtension

/-!
# Service extensions

`service_extensions`: an extension is applied to every subscription of its scope, where it moves the
billing anchor to the end of its grant and records the anchor it found.  A reversal looks at each
anchor it left: it restores the one that is still exactly where the extension put it, and preserves
every other.
-/

namespace DotmacSub.ServiceExtensions

open Store Checked Sweeps

def refusal (suffix message : String) (details : List (String × Detail) := []) : DomainError :=
  ⟨"financial.service_extensions." ++ suffix, message, details⟩

inductive BillingAnchorProjectionSource
  | lifecycleActivation
  | lifecycleResume
  | scheduledBilling
  | prepaidCoverage
  | prepaidSettlementReanchor
  | subscriptionBillingGrant
  | serviceExtension
  | reviewedReconciliation
deriving DecidableEq

def BillingAnchorProjectionSource.value : BillingAnchorProjectionSource → String
  | .lifecycleActivation => "lifecycle_activation"
  | .lifecycleResume => "lifecycle_resume"
  | .scheduledBilling => "scheduled_billing"
  | .prepaidCoverage => "prepaid_coverage"
  | .prepaidSettlementReanchor => "prepaid_settlement_reanchor"
  | .subscriptionBillingGrant => "subscription_billing_grant"
  | .serviceExtension => "service_extension"
  | .reviewedReconciliation => "reviewed_reconciliation"

structure BillingAnchorProjectionCommand where
  subscriptionId : ℕ
  expectedPrevious : Option ℤ
  target : ℤ
  source : BillingAnchorProjectionSource
  evidenceRef : String

def retractionSources : List BillingAnchorProjectionSource :=
  [.prepaidCoverage, .reviewedReconciliation, .serviceExtension]

def billingAnchorProjectionError (message : String) : DomainError :=
  ⟨"BillingAnchorProjectionError", message, []⟩

def Subscription.anchored (target : ℤ) (s : Subscription) : Subscription :=
  { s with nextBillingAt := some target }

/-- The compare-and-set writer of the anchor. -/
def stageSubscriptionBillingAnchor (subscriptions : Table Subscription)
    (command : BillingAnchorProjectionCommand) : Except DomainError (Table Subscription) := do
  ensure (Text.strip command.evidenceRef ≠ "")
    (billingAnchorProjectionError "Billing-anchor evidence_ref is required")
  let locked ← orRefuse (subscriptions.get? command.subscriptionId)
    (billingAnchorProjectionError "Subscription not found")
  ensure (locked.nextBillingAt = command.expectedPrevious)
    (billingAnchorProjectionError "Billing anchor changed after the projection was derived")
  ensure (¬∃ current ∈ locked.nextBillingAt,
      command.target < current ∧ command.source ∉ retractionSources)
    (billingAnchorProjectionError
      (command.source.value ++ " cannot retract the billing anchor"))
  return subscriptions.update command.subscriptionId (Subscription.anchored command.target)
    fun _ => rfl

structure CommandContext where
  scope : String
  actor : String
  idempotencyKey : Option ℕ
  reason : String
deriving DecidableEq

def applyScope : String := "billing:extension:apply"

def reverseScope : String := "billing:extension:reverse"

inductive AuditActorType
  | apiKey
  | user
  | service
  | system
deriving DecidableEq

/-- The type and identifier in `type:identifier`. -/
def actorOf (context : CommandContext) : AuditActorType × String :=
  let kind := String.ofList (context.actor.toList.takeWhile (· ≠ ':'))
  let identifier := String.ofList ((context.actor.toList.dropWhile (· ≠ ':')).drop 1)
  let actorId := if identifier = "" then context.actor else identifier
  if kind = "api_key" then (.apiKey, actorId)
  else if kind = "user" then (.user, actorId)
  else if kind = "service" then (.service, actorId)
  else (.system, actorId)

def requireCommandContext (context : CommandContext) (expectedScope : String) :
    Except DomainError ℕ := do
  ensure (context.scope = expectedScope)
    (refusal "invalid_scope" "The service-extension command scope is invalid."
      [("expected_scope", .text expectedScope)])
  orRefuse context.idempotencyKey
    (refusal "missing_idempotency_key" "A service-extension idempotency key is required.")

def getExtension (db : ExtensionDb) (extensionId : ℕ) : Except DomainError ServiceExtension :=
  orRefuse (db.extensions.get? extensionId)
    (refusal "extension_not_found" "Service extension was not found.")

def ServiceExtensionStatus.value : ServiceExtensionStatus → String
  | .pending => "pending"
  | .applied => "applied"
  | .canceled => "canceled"
  | .reversed => "reversed"

/-- What the owner asks others: the site of a NAS device, whether lifting the billing suspensions of
a subscription makes it active or fails, and the digest of what a preview shows. -/
structure ExtensionEnv (μ : Type) where
  popSiteOf : ℕ → Option ℕ
  resumeBillingSuspension : Subscription → ServiceExtension → Option Bool
  sha256 : μ → ℕ

structure ServiceExtensionGrantInterval where
  startsAt : ℤ
  endsAt : ℤ
  anchorBasis : ServiceExtensionAnchorBasis
deriving DecidableEq

def microsecondsPerDay : ℤ := 86400000000

/-- The grant follows an anchor that is not stale, and else the application. -/
def resolveExtensionGrantInterval (previousNextBillingAt appliedAt : ℤ) (days : ℕ) :
    ServiceExtensionGrantInterval :=
  if appliedAt ≤ previousNextBillingAt then
    ⟨previousNextBillingAt, previousNextBillingAt + days * microsecondsPerDay,
      .existingBillingAnchor⟩
  else ⟨appliedAt, appliedAt + days * microsecondsPerDay, .applicationTime⟩

def scopeFilters {μ : Type} (env : ExtensionEnv μ) (scope : ServiceExtensionScope) :
    Except DomainError (Subscription → Bool) :=
  let live (s : Subscription) : Bool := s.status = .active ∨ s.status = .suspended
  match scope with
  | .network => .ok live
  | .nasDevice none => .error (refusal "missing_scope_id" "NAS device is required.")
  | .nasDevice (some device) => .ok fun s => live s && s.provisioningNasDeviceId = some device
  | .popSite none => .error (refusal "missing_scope_id" "POP site is required.")
  | .popSite (some site) =>
    .ok fun s => live s && s.provisioningNasDeviceId.bind env.popSiteOf = some site
  | .subscribers [] =>
    .error (refusal "empty_subscriber_scope" "At least one customer is required.")
  | .subscribers (i :: is) => .ok fun s => live s && s.subscriberId ∈ i :: is

/-- How far the loop over the scope is. -/
structure ApplyProgress where
  subscriptions : Table Subscription
  entries : Table ServiceExtensionEntry
  applied : ℕ
  skipped : ℕ
  resumed : ℕ
  stillSuspended : ℕ

def Subscription.resumed (s : Subscription) : Subscription := { s with status := .active }

section Apply

variable {μ : Type} (env : ExtensionEnv μ) (extension : ServiceExtension) (now : ℤ)

def resumeIfSuspended (p : ApplyProgress) (subscription : Subscription) :
    Except DomainError ApplyProgress :=
  if subscription.status = .suspended then
    match env.resumeBillingSuspension subscription extension with
    | none => .error (refusal "access_restoration_failed"
        "The extension could not safely request access restoration."
        [("subscription_id", .id subscription.id)])
    | some true => .ok { p with
        subscriptions := p.subscriptions.update subscription.id Subscription.resumed fun _ => rfl
        resumed := p.resumed + 1 }
    | some false => .ok { p with stillSuspended := p.stillSuspended + 1 }
  else .ok p

def entryOf (subscription : Subscription) (previous : ℤ) (interval : ServiceExtensionGrantInterval)
    (id : ℕ) : ServiceExtensionEntry where
  id := id
  extensionId := extension.id
  subscriptionId := subscription.id
  previousNextBillingAt := some previous
  grantStartsAt := some interval.startsAt
  grantEndsAt := some interval.endsAt
  anchorBasis := some interval.anchorBasis
  newNextBillingAt := some interval.endsAt

/-- The turn of one subscription; one without an anchor is skipped. -/
def extendSubscription (p : ApplyProgress) (subscription : Subscription) :
    Except DomainError ApplyProgress :=
  match subscription.nextBillingAt with
  | none => .ok { p with skipped := p.skipped + 1 }
  | some previous => do
    let interval := resolveExtensionGrantInterval previous now extension.days
    let subscriptions ← stageSubscriptionBillingAnchor p.subscriptions
      { subscriptionId := subscription.id
        expectedPrevious := some previous
        target := interval.endsAt
        source := .serviceExtension
        evidenceRef := "service-extension:" ++ toString extension.id }
    let q ← resumeIfSuspended env extension
      { p with subscriptions
               entries := p.entries.insert (entryOf extension subscription previous interval)
                 fun _ => rfl } subscription
    return { q with applied := q.applied + 1 }

def ServiceExtension.appliedTo (p : ApplyProgress) (actor : String) (now : ℤ)
    (e : ServiceExtension) : ServiceExtension :=
  { e with status := .applied, affectedCount := p.applied, skippedCount := p.skipped,
           resumedCount := p.resumed, stillSuspendedCount := p.stillSuspended,
           appliedBy := some actor, appliedAt := some now }

/-- The scope of a pending extension is gone through in the order of its subscriptions. -/
def applyPending (db : ExtensionDb) (context : CommandContext) : Except DomainError ExtensionDb := do
  ensure (extension.status = .pending)
    (refusal "transition_conflict" "Only a pending service extension can be applied."
      [("current_status", .text extension.status.value)])
  ensure (¬((actorOf context).1 = .user ∧ extension.createdBy = some (actorOf context).2 ∧
      (actorOf context).2 ≠ ""))
    (refusal "self_approval_forbidden"
      "A service extension must be approved by a different staff member than the one who created it."
      [("extension_id", .id extension.id), ("created_by", .text (actorOf context).2)])
  let filters ← scopeFilters env extension.scope
  let p ← (sortedBy Subscription.id (db.subscriptions.rows.filter filters)).foldlM
    (extendSubscription env extension now) ⟨db.subscriptions, db.entries, 0, 0, 0, 0⟩
  return { db with
    subscriptions := p.subscriptions
    entries := p.entries
    extensions := db.extensions.update extension.id
      (ServiceExtension.appliedTo p (actorOf context).2 now) fun _ => rfl }

/-- Grant the days of an extension to its subscriptions. -/
def applyServiceExtension (db : ExtensionDb) (extensionId : ℕ) (context : CommandContext) (now : ℤ) :
    Except DomainError ExtensionDb := do
  let _ ← requireCommandContext context applyScope
  let extension ← getExtension db extensionId
  if extension.status = .applied then return db
  else applyPending env extension now db context

end Apply

structure ReversalPlanRow where
  entry : ServiceExtensionEntry
  subscription : Subscription
  observedNextBillingAt : Option ℤ
  resultingNextBillingAt : Option ℤ
  disposition : ServiceExtensionReversalAnchorDisposition
deriving DecidableEq

/-- What the fingerprint of a preview is taken of. -/
structure ReversalMaterial where
  extensionId : ℕ
  status : ServiceExtensionStatus
  reason : String
  rows : List ReversalPlanRow
deriving DecidableEq

structure ServiceExtensionReversalPreview where
  extensionId : ℕ
  reason : String
  asOf : ℤ
  inspectedCount : ℕ
  restoredAnchorCount : ℕ
  preservedLaterAnchorCount : ℕ
  preservedLowerAnchorCount : ℕ
  preservedTerminalCount : ℕ
  activeGrantCount : ℕ
  futureGrantCount : ℕ
  expiredGrantCount : ℕ
  fingerprint : ℕ

structure ReversalPlan where
  preview : ServiceExtensionReversalPreview
  rows : List ReversalPlanRow

/-- A reason that is given and not too long. -/
def normalizeReversalReason (reason : String) : Except DomainError String := do
  let normalized := Text.strip reason
  ensure (normalized ≠ "")
    (refusal "missing_reversal_reason" "A reviewed reversal reason is required.")
  ensure (normalized.length ≤ 2000)
    (refusal "reversal_reason_too_long" "The reversal reason must not exceed 2,000 characters.")
  return normalized

/-- The statuses whose anchor a reversal leaves. -/
def terminalStatuses : List SubscriptionStatus := [.hidden, .archived, .canceled]

/-- What happens to the anchor of one entry: it is restored only if it is still where the entry put
it. -/
def planRow (entry : ServiceExtensionEntry) (subscription : Subscription) : ReversalPlanRow :=
  let current := subscription.nextBillingAt
  if subscription.status ∈ terminalStatuses then
    ⟨entry, subscription, current, current, .preservedTerminalSubscription⟩
  else if current = entry.newNextBillingAt then
    ⟨entry, subscription, current, entry.previousNextBillingAt, .restoredPreviousAnchor⟩
  else if ∃ c ∈ current, ∃ n ∈ entry.newNextBillingAt, n < c then
    ⟨entry, subscription, current, current, .preservedLaterAnchor⟩
  else ⟨entry, subscription, current, current, .preservedLowerAnchor⟩

variable (env : ExtensionEnv ReversalMaterial) (db : ExtensionDb) (extension : ServiceExtension)

def entriesOf : List ServiceExtensionEntry :=
  sortedBy (fun e => toLex (e.subscriptionId, e.id))
    (db.entries.rows.filter (·.extensionId = extension.id))

/-- The preview and the rows of a reversal; the subscriptions of the entries must all exist. -/
def serviceExtensionReversalPlan (reason : String) (observedAt : ℤ) :
    Except DomainError ReversalPlan := do
  let normalizedReason ← normalizeReversalReason reason
  ensure (extension.status = .applied)
    (refusal "transition_conflict" "Only an applied service extension can be reversed."
      [("current_status", .text extension.status.value)])
  let entries := entriesOf db extension
  ensure (entries.length = extension.affectedCount)
    (refusal "reversal_evidence_incomplete"
      "The applied extension entry evidence does not match its outcome count."
      [("expected_count", .number extension.affectedCount),
        ("actual_count", .number entries.length)])
  let rows ← entries.mapM fun entry =>
    planRow entry <$> orRefuse (db.subscriptions.get? entry.subscriptionId)
      (refusal "reversal_evidence_incomplete"
        "One or more affected subscriptions no longer exist.")
  let count (disposition : ServiceExtensionReversalAnchorDisposition) : ℕ :=
    rows.countP (·.disposition = disposition)
  let grants (p : ℤ → ℤ → Bool) : ℕ := entries.countP fun entry =>
    match entry.grantStartsAt, entry.grantEndsAt with
    | some startsAt, some endsAt => p startsAt endsAt
    | _, _ => false
  return {
    preview := {
      extensionId := extension.id
      reason := normalizedReason
      asOf := observedAt
      inspectedCount := rows.length
      restoredAnchorCount := count .restoredPreviousAnchor
      preservedLaterAnchorCount := count .preservedLaterAnchor
      preservedLowerAnchorCount := count .preservedLowerAnchor
      preservedTerminalCount := count .preservedTerminalSubscription
      activeGrantCount := grants fun startsAt endsAt => observedAt < endsAt ∧ startsAt ≤ observedAt
      futureGrantCount := grants fun startsAt endsAt => observedAt < endsAt ∧ observedAt < startsAt
      expiredGrantCount := grants fun _ endsAt => endsAt ≤ observedAt
      fingerprint := env.sha256 ⟨extension.id, extension.status, normalizedReason, rows⟩ }
    rows := rows }

/-- The tables that the rows of a plan are written to. -/
structure ReversalProgress where
  subscriptions : Table Subscription
  reversalEntries : Table ServiceExtensionReversalEntry

def restoreAnchor (reversalId : ℕ) (subscriptions : Table Subscription) (row : ReversalPlanRow) :
    Except DomainError (Table Subscription) :=
  if row.disposition = .restoredPreviousAnchor then do
    let target ← orRefuse row.resultingNextBillingAt
      (refusal "reversal_evidence_incomplete"
        "A restored anchor disposition requires an exact target.")
    stageSubscriptionBillingAnchor subscriptions
      { subscriptionId := row.subscription.id
        expectedPrevious := row.subscription.nextBillingAt
        target := target
        source := .serviceExtension
        evidenceRef := "service-extension-reversal:" ++ toString reversalId }
  else .ok subscriptions

def reverseRow (reversalId : ℕ) (p : ReversalProgress) (row : ReversalPlanRow) :
    Except DomainError ReversalProgress := do
  let subscriptions ← restoreAnchor reversalId p.subscriptions row
  return {
    subscriptions
    reversalEntries := p.reversalEntries.insert (fun id =>
      ⟨id, reversalId, row.entry.id, row.entry.subscriptionId, row.observedNextBillingAt,
        row.resultingNextBillingAt, row.disposition⟩) fun _ => rfl }

def ServiceExtension.reversed (e : ServiceExtension) : ServiceExtension :=
  { e with status := .reversed }

def reversalOf (preview : ServiceExtensionReversalPreview) (context : CommandContext)
    (idempotencyKey : ℕ) (now : ℤ) (id : ℕ) : ServiceExtensionReversal where
  id := id
  extensionId := preview.extensionId
  reason := preview.reason
  previewFingerprint := preview.fingerprint
  idempotencyKey := idempotencyKey
  reversedBy := (actorOf context).2
  reversedAt := now
  inspectedCount := preview.inspectedCount
  restoredAnchorCount := preview.restoredAnchorCount
  preservedLaterAnchorCount := preview.preservedLaterAnchorCount
  preservedLowerAnchorCount := preview.preservedLowerAnchorCount
  preservedTerminalCount := preview.preservedTerminalCount

/-- A reversal whose preview is still what was confirmed. -/
def reverseApplied (context : CommandContext) (idempotencyKey fingerprint : ℕ) (now : ℤ) :
    Except DomainError ExtensionDb := do
  let plan ← serviceExtensionReversalPlan env db extension context.reason now
  ensure (plan.preview.fingerprint = fingerprint)
    (refusal "stale_reversal_preview"
      "The extension impact changed after preview; review it again.")
  let p ← plan.rows.foldlM (reverseRow db.reversals.next) ⟨db.subscriptions, db.reversalEntries⟩
  return { db with
    subscriptions := p.subscriptions
    reversalEntries := p.reversalEntries
    reversals := db.reversals.insert (reversalOf plan.preview context idempotencyKey now)
      fun _ => rfl
    extensions := db.extensions.update extension.id ServiceExtension.reversed fun _ => rfl }

/-- Take the days of an applied extension back. -/
def reverseServiceExtension (extensionId : ℕ) (context : CommandContext) (fingerprint : ℕ)
    (now : ℤ) : Except DomainError ExtensionDb := do
  let idempotencyKey ← requireCommandContext context reverseScope
  let extension ← getExtension db extensionId
  match extension.status, db.reversals.rows.find? (·.extensionId = extension.id) with
  | .reversed, none => .error (refusal "reversal_evidence_incomplete"
      "The reversed extension has no linked reversal evidence.")
  | .reversed, some existing => do
    ensure (existing.previewFingerprint = fingerprint ∧ existing.idempotencyKey = idempotencyKey)
      (refusal "idempotency_conflict"
        "The extension was reversed with different confirmation evidence.")
    return db
  | _, some _ => .error (refusal "reversal_evidence_conflict"
      "Reversal evidence already exists for a non-reversed extension.")
  | _, none => reverseApplied env db extension context idempotencyKey fingerprint now

end DotmacSub.ServiceExtensions
