import DotmacSub.Core.Run
import DotmacSub.Models.Lifecycle

/-!
# The lifecycle of a subscription

The domain operations of `services/account_lifecycle.py`.  Each checks what it needs, keeps the
enforcement locks, records evidence of the transition and may be refused, in which case nothing is
written.
-/

namespace DotmacSub.Lifecycle

open Store Checked
open ServiceExtensions (SubscriptionStatus)
open Contracts (BillingCycle)

inductive LifecycleError
  | subscriptionNotFound (id : ℕ)
  | subscriberNotFound (id : ℕ)
  | billingApprovalRequired
  | cannotSuspend (status : SubscriptionStatus)
  | suspendedLock
  | cannotActivate (status : SubscriptionStatus)
  | provisioningRequired
  | partyInvariant
  | cannotExpire (status : SubscriptionStatus)
  | alreadyCanceled
  | cannotDisable (status : SubscriptionStatus)
  | illegalTransition (fromStatus toStatus : SubscriptionStatus)
  | unsupportedTarget (status : SubscriptionStatus)
  | derivedOverride (status : SubscriberStatus)
  | noSuspendedOverride
  | blankEvidenceRef
  | staleAnchor
  | retractedAnchor
  | noStateChange
  | idempotencyConflict
  | statusNotApplied
deriving DecidableEq

def allowedRestorers : EnforcementReason → List String
  | .overdue => ["payment", "collections_resolution", "admin"]
  | .fup => ["cap_reset", "top_up", "admin"]
  | .prepaid => ["top_up", "admin"]
  | .admin => ["admin"]
  | .customerHold => ["customer", "admin"]
  | .fraud => ["admin"]
  | .system => ["system", "admin"]

lemma admin_mem_allowedRestorers (reason : EnforcementReason) :
    "admin" ∈ allowedRestorers reason := by
  cases reason <;> simp [allowedRestorers]

def suspendable : List SubscriptionStatus := [.active, .pending]

def suspendedEquivalent : List SubscriptionStatus := [.suspended, .blocked, .stopped]

def terminal : List SubscriptionStatus := [.canceled, .expired, .hidden, .archived]

def accountOverrideStatuses : List SubscriberStatus :=
  [.new, .active, .blocked, .suspended, .disabled, .canceled]

/-- The shared guard: terminal statuses are sinks. -/
def assertLegalSubscriptionTransition (fromStatus toStatus : SubscriptionStatus) :
    Except LifecycleError Unit :=
  ensure (fromStatus = toStatus ∨ fromStatus ∉ terminal) (.illegalTransition fromStatus toStatus)

/-- The circumstances of a call: the clock, the evidence the caller brings, and what the billing
owner issues for the unused part of a period (`none` when it declines or fails). -/
structure Call where
  now : ℤ
  evidenceContext : Option CommandContext
  evidenceEffectiveAt : Option ℤ
  unusedCredit : ℕ → Option ℚ

/-- A call without evidence, at a time of which the billing owner credits nothing. -/
def Call.ofClock (now : ℤ) : Call := ⟨now, none, none, fun _ => none⟩

def Call.plain (call : Call) : Call :=
  { call with evidenceContext := none, evidenceEffectiveAt := none }

variable (db : LifecycleDb) (call : Call)

def findSubscription (id : ℕ) : Except LifecycleError Subscription :=
  orRefuse (db.subscriptions.get? id) (.subscriptionNotFound id)

def findSubscriber (id : ℕ) : Except LifecycleError Subscriber :=
  orRefuse (db.subscribers.get? id) (.subscriberNotFound id)

/-- Fail closed before any transition that would provide active service. -/
def requireBillingApproval (subscriberId : ℕ) : Except LifecycleError Subscriber := do
  let subscriber ← findSubscriber db subscriberId
  ensure (subscriber.billingEnabled = true) .billingApprovalRequired
  return subscriber

def reactivationBlockedByActiveLogin (subscription : Subscription) : Prop :=
  ∃ login, subscription.login = some login ∧ login ≠ "" ∧
    ∃ other ∈ db.subscriptions.rows, other.subscriberId = subscription.subscriberId ∧
      other.login = some login ∧ other.status = .active ∧ other.id ≠ subscription.id

instance (subscription : Subscription) :
    Decidable (reactivationBlockedByActiveLogin db subscription) :=
  match h : subscription.login with
  | none => isFalse fun ⟨_, heq, _⟩ => Option.some_ne_none _ (heq.symm.trans h)
  | some login => decidable_of_iff (login ≠ "" ∧
      ∃ other ∈ db.subscriptions.rows, other.subscriberId = subscription.subscriberId ∧
        other.login = some login ∧ other.status = .active ∧ other.id ≠ subscription.id)
      ⟨fun hother => ⟨login, h, hother⟩,
        fun ⟨_, heq, hother⟩ => Option.mem_unique h heq ▸ hother⟩

def sourceId (subscriptionId : ℕ) (context : CommandContext) : SourceId :=
  match context.idempotencyKey with
  | none | some "" => .command context.commandId
  | some key => .idempotency subscriptionId key

/-- Append evidence of a transition that has been applied; a replay appends nothing. -/
def recordLifecycleEvidence (subscriptionId : ℕ) (fromStatus toStatus : SubscriptionStatus)
    (reason : String) (effectiveAt : ℤ) : Except LifecycleError LifecycleDb := do
  ensure (fromStatus ≠ toStatus) .noStateChange
  let source := call.evidenceContext.map (sourceId subscriptionId)
  match db.events.rows.find? fun event => source.isSome ∧ event.sourceId = source with
  | some prior =>
    ensure (prior.subscriptionId = subscriptionId ∧ prior.fromStatus = fromStatus ∧
      prior.toStatus = toStatus ∧ prior.effectiveAt = effectiveAt ∧ prior.reason = reason)
      .idempotencyConflict
    return db
  | none =>
    let subscription ← findSubscription db subscriptionId
    ensure (subscription.status = toStatus) .statusNotApplied
    return { db with
      events := db.events.insert
        (fun id =>
          ⟨id, subscriptionId, fromStatus, toStatus, reason, source, effectiveAt, call.now⟩)
        fun _ => rfl }

def applyTransition (subscription : Subscription) (toStatus : SubscriptionStatus)
    (reason : String) (effectiveAt : ℤ) : Except LifecycleError LifecycleDb :=
  recordLifecycleEvidence (db.put call.now { subscription with status := toStatus }) call
    subscription.id subscription.status toStatus reason effectiveAt

/-- When a transition takes effect. -/
def Call.effectiveAt (call : Call) : ℤ := call.evidenceEffectiveAt.getD call.now

def liftedNotes (notes existing : Option String) : Option String :=
  match notes, existing with
  | none, existing | some "", existing => existing
  | some note, none | some note, some "" => some note
  | some note, some existing => some (existing ++ "\nResolved: " ++ note)

def lifts (subscriptionId : ℕ) (trigger : String) (reason : Option EnforcementReason)
    (lock : EnforcementLock) : Bool :=
  lock.subscriptionId = subscriptionId ∧ lock.isActive ∧ (∀ r ∈ reason, lock.reason = r) ∧
    trigger ∈ allowedRestorers lock.reason

/-- Resolve the locks a trigger may lift; the result says how many there were. -/
def resolveLocksForTrigger (subscriptionId : ℕ) (trigger resolvedBy : String)
    (reason : Option EnforcementReason) (notes : Option String) : LifecycleDb × ℕ :=
  (db.resolveLocks call.now resolvedBy (lifts subscriptionId trigger reason) (liftedNotes notes),
    (db.locks.rows.filter (lifts subscriptionId trigger reason)).length)

def resolveAllLocks (subscriptionId : ℕ) (resolvedBy : String) : LifecycleDb :=
  db.resolveLocks call.now resolvedBy
    (fun lock => lock.subscriptionId = subscriptionId ∧ lock.isActive) id

inductive BillingAnchorProjectionSource
  | lifecycleActivation
  | lifecycleResume
  | scheduledBilling
  | prepaidCoverage
  | prepaidSettlementReanchor
  | subscriptionBillingGrant
  | serviceExtension
  | reviewedReconciliation
deriving DecidableEq

def retractionSources : List BillingAnchorProjectionSource :=
  [.prepaidCoverage, .reviewedReconciliation, .serviceExtension]

inductive EvidenceRef
  | idempotencyKey (key : String)
  | activation (subscriptionId : ℕ)
  | restore (subscriptionId : ℕ) (resolvedBy : String) (restoredAt : ℤ)
  | resume (subscriptionId : ℕ) (resumedAt : ℤ)
  | accountUnsuspend (subscriberId : ℕ) (source : String) (now : ℤ)
deriving DecidableEq

/-- The reference is white space only; only a key of the caller's can be. -/
def EvidenceRef.Blank : EvidenceRef → Prop
  | .idempotencyKey key => Text.strip key = ""
  | _ => False

instance : DecidablePred EvidenceRef.Blank
  | .idempotencyKey _ => inferInstanceAs (Decidable (_ = _))
  | .activation _ | .restore .. | .resume .. | .accountUnsuspend .. => isFalse not_false

def Call.evidenceRef (call : Call) (otherwise : EvidenceRef) : EvidenceRef :=
  match call.evidenceContext.bind CommandContext.idempotencyKey with
  | none | some "" => otherwise
  | some key => .idempotencyKey key

def stageSubscriptionBillingAnchor (subscription : Subscription) (expectedPrevious : Option ℤ)
    (target : ℤ) (source : BillingAnchorProjectionSource) (evidenceRef : EvidenceRef) :
    Except LifecycleError Subscription := do
  ensure (¬ evidenceRef.Blank) .blankEvidenceRef
  ensure (subscription.nextBillingAt = expectedPrevious) .staleAnchor
  ensure ((∀ current ∈ subscription.nextBillingAt, current ≤ target) ∨ source ∈ retractionSources)
    .retractedAnchor
  return { subscription with nextBillingAt := some target }

def addMonths (value : ℤ) (months : ℤ) : ℤ :=
  let wall := Gregorian.Wall.ofMicros value
  (Gregorian.Wall.combine (Gregorian.Date.inMonth (wall.date.monthIndex + months) wall.date.day
    wall.date.day_mem.1) wall).toMicros

def computeNextBillingAt (startAt : ℤ) : BillingCycle → ℤ
  | .daily => startAt + Gregorian.usPerDay
  | .weekly => startAt + 7 * Gregorian.usPerDay
  | .quarterly => addMonths startAt 3
  | .annual => addMonths startAt 12
  | .monthly => addMonths startAt 1

def OfferCycles.resolveBillingCycle (offer : OfferCycles) : BillingCycle :=
  ((offer.versionPriceCycle.or offer.offerPriceCycle).or offer.offerCycle).getD .monthly

def Subscription.cycle (subscription : Subscription) : BillingCycle :=
  subscription.billingCycle.getD subscription.offer.resolveBillingCycle

/-- Materialize the required anchor before a row becomes active. -/
def stageMissingActivationBillingAnchor (subscription : Subscription) (baseAt : ℤ)
    (source : BillingAnchorProjectionSource) (evidenceRef : EvidenceRef) :
    Except LifecycleError Subscription :=
  match subscription.nextBillingAt with
  | some _ => return subscription
  | none => stageSubscriptionBillingAnchor subscription none
      (computeNextBillingAt baseAt subscription.cycle) source evidenceRef

/-- Suspend the subscription unless it is held already. -/
def holdSubscription (subscription : Subscription) (reason : String) :
    Except LifecycleError LifecycleDb :=
  if subscription.status ∈ suspendedEquivalent then return db
  else applyTransition db call subscription .suspended reason call.effectiveAt

/-- An active lock that is used again; a hard lock is not softened. -/
def upgradeLock (lockId : ℕ) (accessMode : AccessRestrictionMode) : LifecycleDb :=
  if accessMode = .hardReject then
    { db with
      locks := db.locks.update lockId (fun lock => { lock with accessMode := .hardReject })
        fun _ => rfl }
  else db

def insertLock (subscriptionId : ℕ) (reason : EnforcementReason)
    (accessMode : AccessRestrictionMode) (source : String) (notes : Option String) : LifecycleDb :=
  { db with
    locks := db.locks.insert (fun id =>
      { id, subscriptionId, reason, accessMode, source, isActive := true, resolvedAt := none,
        resolvedBy := none, notes, resolved := Bool.noConfusion }) fun _ => rfl }

/-- Create an enforcement lock, or reuse the active one of the reason, and suspend the
subscription. -/
def suspendSubscription (id : ℕ) (reason : EnforcementReason) (source : String)
    (accessMode : AccessRestrictionMode) (notes : Option String) :
    Except LifecycleError LifecycleDb := do
  let subscription ← findSubscription db id
  ensure (subscription.status ∈ suspendable ∨ subscription.status ∈ suspendedEquivalent)
    (.cannotSuspend subscription.status)
  let evidenceReason := match notes with
    | none | some "" => reason.value
    | some note => note
  match (db.activeLocks id).find? (·.reason = reason) with
  | some existing =>
    holdSubscription (upgradeLock db existing.id accessMode) call subscription evidenceReason
  | none =>
    holdSubscription (insertLock db id reason accessMode source notes) call subscription
      evidenceReason

inductive RestorationOutcome
  | restored
  | alreadyActive
  | blockedByRemainingLocks
  | blockedByUnauthorizedTrigger
  | blockedByActiveLogin
deriving DecidableEq

structure RestorationResult where
  outcome : RestorationOutcome
  resolvedLockCount : ℕ
deriving DecidableEq

/-- Did the call write the active status? -/
def RestorationResult.subscriptionReactivated (result : RestorationResult) : Bool :=
  result.outcome = .restored

/-- The subscription becomes active, with a start and an anchor. -/
def reactivate (subscription : Subscription) (baseAt : ℤ) (evidenceRef : EvidenceRef)
    (reason : String) : Except LifecycleError LifecycleDb := do
  let started := { subscription with startAt := some (subscription.startAt.getD baseAt) }
  let anchored ← stageMissingActivationBillingAnchor started baseAt .lifecycleResume evidenceRef
  applyTransition db call anchored .active reason call.effectiveAt

/-- Resolve the locks of a reason; without others the service is active. -/
def restoreSubscriptionDetailed (id : ℕ) (trigger resolvedBy : String)
    (reason : Option EnforcementReason) (notes : Option String) :
    Except LifecycleError (LifecycleDb × RestorationResult) := do
  let subscription ← findSubscription db id
  if subscription.status ∉ suspendedEquivalent then
    return (db, ⟨.alreadyActive, 0⟩)
  else
    let _ ← requireBillingApproval db subscription.subscriberId
    let (resolved, count) := resolveLocksForTrigger db call id trigger resolvedBy reason notes
    if resolved.activeLocks id ≠ [] then
      return (resolved,
        ⟨if count = 0 then .blockedByUnauthorizedTrigger else .blockedByRemainingLocks, count⟩)
    else if reactivationBlockedByActiveLogin resolved subscription then
      return (resolved, ⟨.blockedByActiveLogin, count⟩)
    else
      let restored ← reactivate resolved call subscription call.effectiveAt
        (call.evidenceRef (.restore id resolvedBy call.effectiveAt))
        (match notes with
          | none | some "" => trigger
          | some note => note)
      return (restored, ⟨.restored, count⟩)

/-- Resolve an obsolete lock without activating a service that is not held. -/
def resolveStaleLockWithoutRestoration (id : ℕ) (trigger resolvedBy : String)
    (reason : EnforcementReason) (notes : Option String) :
    Except LifecycleError (LifecycleDb × ℕ) := do
  let subscription ← findSubscription db id
  ensure (subscription.status ∉ suspendedEquivalent) .suspendedLock
  return resolveLocksForTrigger db call id trigger resolvedBy (some reason) notes

def LifecycleDb.salesServiceOrders (id : ℕ) : List ServiceOrder :=
  db.serviceOrders.rows.filter fun order =>
    order.subscriptionId = some id ∧ order.salesOrderLineId.isSome

/-- The role of the subscriber is established, or cannot be changed implicitly. -/
def ensureRole (party : Party) : Except LifecycleError Party := do
  ensure (party.merged = false) .partyInvariant
  ensure (∀ status ∈ party.subscriberRole, status = .active ∨ status = .pending) .partyInvariant
  return { party with subscriberRole := some .active }

def ensureSubscriberRole (subscriber : Subscriber) : Except LifecycleError LifecycleDb :=
  match subscriber.party with
  | none => return db
  | some party => do
    let established ← ensureRole party
    return { db with
      subscribers := db.subscribers.update subscriber.id
        (fun row => { row with party := some established }) fun _ => rfl }

/-- Start the service of a subscription. -/
def activateSubscription (id : ℕ) (startAt : Option ℤ) : Except LifecycleError LifecycleDb := do
  let subscription ← findSubscription db id
  ensure (subscription.status = .pending) (.cannotActivate subscription.status)
  let subscriber ← requireBillingApproval db subscription.subscriberId
  ensure (∀ order ∈ db.salesServiceOrders id, order.status = .active) .provisioningRequired
  let start := subscription.startAt.getD (startAt.getD call.now)
  let anchored ← stageMissingActivationBillingAnchor { subscription with startAt := some start }
    start .lifecycleActivation (call.evidenceRef (.activation id))
  let activated ← applyTransition db call anchored .active "Subscription activated"
    call.effectiveAt
  ensureSubscriberRole activated subscriber

/-- End the service at its term. -/
def expireSubscription (id : ℕ) : Except LifecycleError LifecycleDb := do
  let subscription ← findSubscription db id
  ensure (subscription.status ∉ terminal) (.cannotExpire subscription.status)
  applyTransition (resolveAllLocks db call id "expired") call subscription .expired
    "Subscription expired" call.effectiveAt

/-- The credit for the period that is paid for and not used. -/
def generateCancellationCredit (subscription : Subscription) : Option CancellationCredit :=
  match subscription.nextBillingAt with
  | some nextBillingAt =>
    if nextBillingAt ≤ call.now then none
    else (call.unusedCredit subscription.id).map (⟨subscription.id, ·⟩)
  | none => none

def endAddOns (id : ℕ) (canceledAt : ℤ) : LifecycleDb :=
  { db with
    addOns := db.addOns.map (fun addOn =>
      if addOn.subscriptionId = id ∧ addOn.endAt = none then { addOn with endAt := some canceledAt }
      else addOn) fun addOn => by split_ifs <;> rfl }

/-- End the service for good. -/
def cancelSubscription (id : ℕ) (cancelReason : String) (generateCredit : Bool) :
    Except LifecycleError LifecycleDb := do
  let subscription ← findSubscription db id
  ensure (subscription.status ≠ .canceled) .alreadyCanceled
  let ended := endAddOns (resolveAllLocks db call id "canceled") id call.now
  let canceled ← applyTransition ended call
    { subscription with canceledAt := some call.now, cancelReason := some cancelReason }
    .canceled cancelReason call.effectiveAt
  return if generateCredit then
    { canceled with
      credits := canceled.credits ++ (generateCancellationCredit call subscription).toList }
  else canceled

/-- Pause billing and access; the result says whether anything changed. -/
def disableSubscription (id : ℕ) (reason : String) (preserveLocks : Bool) :
    Except LifecycleError (LifecycleDb × Bool) := do
  let subscription ← findSubscription db id
  if subscription.status = .disabled then
    return (db, false)
  else
    ensure (subscription.status ∉ terminal) (.cannotDisable subscription.status)
    let disabled ← applyTransition
      (if preserveLocks then db else resolveAllLocks db call id "disabled")
      call subscription .disabled reason call.effectiveAt
    return (disabled, true)

def LifecycleDb.disabledAt (id : ℕ) : List ℤ :=
  (db.events.rows.filter fun event =>
    event.subscriptionId = id ∧ event.toStatus = .disabled).map (·.createdAt)

def LifecycleDb.pausedFor (subscription : Subscription) (now : ℤ) : ℤ :=
  max (now - (db.disabledAt subscription.id).max?.getD subscription.updatedAt) 0

/-- Return a disabled subscription to active, or to suspended while locks hold it; the result says
whether it is active. -/
def enableSubscription (id : ℕ) (reason : String) : Except LifecycleError (LifecycleDb × Bool) := do
  let subscription ← findSubscription db id
  if subscription.status ≠ .disabled then
    return (db, false)
  else
    let _ ← requireBillingApproval db subscription.subscriberId
    if db.activeLocks id ≠ [] then
      let held ← applyTransition db call subscription .suspended reason call.effectiveAt
      return (held, false)
    else if reactivationBlockedByActiveLogin db subscription then
      return (db, false)
    else
      let target := match subscription.nextBillingAt with
        | some nextBillingAt => nextBillingAt + db.pausedFor subscription call.now
        | none => computeNextBillingAt call.now subscription.cycle
      let anchored ← stageSubscriptionBillingAnchor
        { subscription with startAt := some (subscription.startAt.getD call.now) }
        subscription.nextBillingAt target .lifecycleResume
        (call.evidenceRef (.resume id call.now))
      let enabled ← applyTransition db call anchored .active reason call.effectiveAt
      return (enabled, true)

/-- Route a status request through a legal operation; the result says whether it was applied. -/
def transitionSubscriptionStatus (id : ℕ) (target : SubscriptionStatus) (reason source : String) :
    Except LifecycleError (LifecycleDb × Bool) := do
  let subscription ← findSubscription db id
  if subscription.status = target then
    return (db, false)
  else
    assertLegalSubscriptionTransition subscription.status target
    match target with
    | .active =>
      if subscription.status = .pending then
        return (← activateSubscription db call id none, true)
      else if subscription.status = .disabled then
        enableSubscription db call id reason
      else if subscription.status ∈ suspendedEquivalent then
        let (restored, result) ←
          restoreSubscriptionDetailed db call id "admin" source none (some reason)
        return (restored, result.subscriptionReactivated)
      else .error (.unsupportedTarget target)
    | .suspended => return (← suspendSubscription db call id .admin source .hardReject
        (some reason), true)
    | .canceled => return (← cancelSubscription db call id reason true, true)
    | .expired => return (← expireSubscription db call id, true)
    | .disabled => disableSubscription db call id reason false
    | _ => .error (.unsupportedTarget target)

/-- The administrative fact of an account is replaced. -/
def LifecycleDb.setOverride (subscriberId : ℕ) (lifecycleOverride : Option LifecycleOverride) :
    LifecycleDb :=
  { db with
    subscribers := db.subscribers.update subscriberId
      (fun row => { row with lifecycleOverride }) fun _ => rfl }

def setAccountLifecycleOverride (subscriberId : ℕ) (status : SubscriberStatus)
    (reason source : String) : Except LifecycleError LifecycleDb := do
  ensure (status ∈ accountOverrideStatuses) (.derivedOverride status)
  let subscriber ← findSubscriber db subscriberId
  return db.setOverride subscriber.id (some ⟨status, reason, source, call.now⟩)

def clearAccountLifecycleOverride (subscriberId : ℕ) : Except LifecycleError LifecycleDb := do
  let subscriber ← findSubscriber db subscriberId
  return db.setOverride subscriber.id none

/-- One subscription follows the status of its account. -/
def alignSubscription (target : SubscriberStatus) (reason source : String) (preserveLocks : Bool)
    (db : LifecycleDb) (id : ℕ) : Except LifecycleError LifecycleDb := do
  let subscription ← findSubscription db id
  match target with
  | .active =>
    if subscription.status ∈ suspendedEquivalent ∨ subscription.status = .disabled then
      return (← transitionSubscriptionStatus db call.plain id .active reason source).1
    else return db
  | .blocked | .suspended =>
    if subscription.status ∈ suspendable then
      suspendSubscription db call.plain id .admin source .hardReject (some reason)
    else return db
  | .disabled =>
    if subscription.status ∉ terminal then
      return (← disableSubscription db call.plain id reason preserveLocks).1
    else return db
  | .canceled =>
    if subscription.status ∉ terminal then cancelSubscription db call.plain id reason true
    else return db
  | .new | .delinquent => return db

def LifecycleDb.subscriptionIds (subscriberId : ℕ) : List ℕ :=
  (db.subscriptions.rows.filter (·.subscriberId = subscriberId)).map (·.id)

/-- Apply an account-level command and align the subscriptions of the account. -/
def transitionAccountStatus (subscriberId : ℕ) (target : SubscriberStatus) (reason source : String)
    (preserveLocks : Bool) : Except LifecycleError LifecycleDb := do
  let subscriber ← findSubscriber db subscriberId
  onlyIf (target = .active) (ensure (subscriber.billingEnabled = true) .billingApprovalRequired)
  let recorded ← if target = .active ∨ target = .new then
      clearAccountLifecycleOverride db subscriberId
    else setAccountLifecycleOverride db call subscriberId target reason source
  (db.subscriptionIds subscriberId).foldlM
    (alignSubscription call target reason source preserveLocks) recorded

/-- The notes of a lock that goes with the override of its account. -/
def unsuspendedNotes (reason : String) (existing : Option String) : Option String :=
  match existing with
  | none | some "" => some ("Resolved: " ++ reason)
  | some existing => some (existing ++ "\nResolved: " ++ reason)

/-- The active administrative lock of the subscription came from the override. -/
def matchesOverride (id : ℕ) (recordedSource : String) (lock : EnforcementLock) : Bool :=
  lock.subscriptionId = id ∧ lock.isActive ∧ recordedSource ≠ "" ∧ lock.reason = .admin ∧
    lock.source = recordedSource

/-- Lift the locks of the override on one subscription and restore it if nothing else holds it. -/
def unsuspendSubscription (subscriberId : ℕ) (recordedSource reason source : String)
    (db : LifecycleDb) (id : ℕ) : Except LifecycleError LifecycleDb := do
  let subscription ← findSubscription db id
  let wouldRestore := subscription.status ∈ suspendedEquivalent ∧
    ∀ lock ∈ db.activeLocks id, matchesOverride id recordedSource lock
  if (db.activeLocks id).all (!matchesOverride id recordedSource ·) then return db
  else if wouldRestore ∧ reactivationBlockedByActiveLogin db subscription then return db
  else
    let lifted := db.resolveLocks call.now source (matchesOverride id recordedSource)
      (unsuspendedNotes reason)
    if wouldRestore then
      reactivate lifted call.plain subscription call.now
        (.accountUnsuspend subscriberId source call.now) reason
    else return lifted

/-- Reverse only what one account suspension did. -/
def unsuspendAccountOverride (subscriberId : ℕ) (reason source : String) :
    Except LifecycleError LifecycleDb := do
  let subscriber ← findSubscriber db subscriberId
  let recorded ← orRefuse (subscriber.lifecycleOverride.filter (·.status = .suspended))
    .noSuspendedOverride
  let _ ← requireBillingApproval db subscriberId
  let aligned ← (db.subscriptionIds subscriberId).foldlM
    (unsuspendSubscription call subscriberId (Text.strip recorded.source) reason source) db
  clearAccountLifecycleOverride aligned subscriberId

/-- A command of the lifecycle owner, or a change of the facts that it reads and others own. -/
inductive Command
  | suspend (id : ℕ) (reason : EnforcementReason) (source : String)
      (accessMode : AccessRestrictionMode) (notes : Option String)
  | restore (id : ℕ) (trigger resolvedBy : String) (reason : Option EnforcementReason)
      (notes : Option String)
  | resolveStaleLock (id : ℕ) (trigger resolvedBy : String) (reason : EnforcementReason)
      (notes : Option String)
  | activate (id : ℕ) (startAt : Option ℤ)
  | expire (id : ℕ)
  | cancel (id : ℕ) (cancelReason : String) (generateCredit : Bool)
  | disable (id : ℕ) (reason : String) (preserveLocks : Bool)
  | enable (id : ℕ) (reason : String)
  | transition (id : ℕ) (target : SubscriptionStatus) (reason source : String)
  | transitionAccount (subscriberId : ℕ) (target : SubscriberStatus) (reason source : String)
      (preserveLocks : Bool)
  | unsuspendAccount (subscriberId : ℕ) (reason source : String)
  | setOverride (subscriberId : ℕ) (status : SubscriberStatus) (reason source : String)
  | clearOverride (subscriberId : ℕ)
  | elsewhere (serviceOrders : Table ServiceOrder) (billingEnabled : ℕ → Bool)

def LifecycleDb.elsewhere (serviceOrders : Table ServiceOrder) (billingEnabled : ℕ → Bool) :
    LifecycleDb :=
  { db with
    serviceOrders
    subscribers := db.subscribers.map
      (fun row => { row with billingEnabled := billingEnabled row.id }) fun _ => rfl }

/-- One command; a refused one is rolled back. -/
def step (db : LifecycleDb) : Call × Command → Except LifecycleError LifecycleDb
  | (call, .suspend id reason source accessMode notes) =>
    suspendSubscription db call id reason source accessMode notes
  | (call, .restore id trigger resolvedBy reason notes) =>
    Prod.fst <$> restoreSubscriptionDetailed db call id trigger resolvedBy reason notes
  | (call, .resolveStaleLock id trigger resolvedBy reason notes) =>
    Prod.fst <$> resolveStaleLockWithoutRestoration db call id trigger resolvedBy reason notes
  | (call, .activate id startAt) => activateSubscription db call id startAt
  | (call, .expire id) => expireSubscription db call id
  | (call, .cancel id cancelReason generateCredit) =>
    cancelSubscription db call id cancelReason generateCredit
  | (call, .disable id reason preserveLocks) =>
    Prod.fst <$> disableSubscription db call id reason preserveLocks
  | (call, .enable id reason) => Prod.fst <$> enableSubscription db call id reason
  | (call, .transition id target reason source) =>
    Prod.fst <$> transitionSubscriptionStatus db call id target reason source
  | (call, .transitionAccount subscriberId target reason source preserveLocks) =>
    transitionAccountStatus db call subscriberId target reason source preserveLocks
  | (call, .unsuspendAccount subscriberId reason source) =>
    unsuspendAccountOverride db call subscriberId reason source
  | (call, .setOverride subscriberId status reason source) =>
    setAccountLifecycleOverride db call subscriberId status reason source
  | (_, .clearOverride subscriberId) => clearAccountLifecycleOverride db subscriberId
  | (_, .elsewhere serviceOrders billingEnabled) => .ok (db.elsewhere serviceOrders billingEnabled)

end DotmacSub.Lifecycle
