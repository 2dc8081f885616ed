import DotmacSub.Models.FinancialAccess

/-!
# The owner of financial access

Suspensions, rejections, throttles and restorations for financial reasons, of
`services/collections/_core.py`.  Each is previewed, and confirmed under an idempotency key if
nothing has changed since.
-/

namespace DotmacSub.FinancialAccess

open Store Checked Lifecycle
open ServiceExtensions (SubscriptionStatus)
open PrepaidService (BillingMode)

inductive AccessError
  | http (status : ℕ) (detail : String)
  | lifecycle (error : LifecycleError)
deriving DecidableEq

def collectibleServiceStatuses : List SubscriptionStatus :=
  [.active, .suspended, .pending, .blocked]

variable (db : AccessDb) (facts : AccountFacts) (accountId : ℕ)

def activeReasonLocks (reason : EnforcementReason) : List EnforcementLock :=
  db.lifecycle.locks.rows.filter fun lock =>
    lock.subscriptionId ∈ db.lifecycle.subscriptionIds accountId ∧ lock.reason = reason ∧
      lock.isActive

/-- Why the profile or the money of an account exclude a consequence. -/
def financialRefusal (reason : EnforcementReason) : Option String :=
  if facts.dedicatedBundle then some "dedicated_bundle"
  else if !facts.profile.automationSafe then some "billing_profile_invalid"
  else match reason with
  | .overdue =>
    if facts.profile.effectiveMode ≠ some .postpaid then some "billing_profile_invalid"
    else if facts.receivables = [] then some "balance_cleared"
    else none
  | .prepaid =>
    if facts.profile.effectiveMode ≠ some .prepaid then some "billing_profile_invalid"
    else if facts.funding.unresolvedProjectionSubscriptionIds ≠ [] then
      some "prepaid_coverage_unresolved"
    else if facts.funding.unresolvedRenewalSubscriptionIds ≠ [] then
      some "prepaid_renewal_terms_unresolved"
    else if facts.funding.funded then some "prepaid_balance_available"
    else none
  | _ => none

/-- `_minimum_enforcement_age_skip_reason`. -/
def minimumAgeSkip (overdueDays : ℤ) : Option String :=
  if facts.profile.effectiveMode = some .prepaid ∨ facts.minimumEnforcingDays ≤ 0 then none
  else if overdueDays < facts.minimumEnforcingDays then some "notice_grace_active"
  else none

/-- A service owner protects the account. -/
def AccountFacts.shielded : Bool := facts.shieldReason.any (· ≠ "")

/-- Why a consequence has to wait. -/
def policyRefusal (reason : EnforcementReason) (overdueDays : Option ℤ) : Option String :=
  if facts.shieldReason.any (· ≠ "") then some "shielded"
  else match overdueDays.bind (minimumAgeSkip facts) with
  | some skip => some skip
  | none =>
    if reason = .overdue ∧ facts.shouldDefer then some "outside_enforcement_window" else none

def throttleProfile : Option RadiusProfile :=
  (db.throttleRadiusProfileId.bind db.radiusProfiles.get?).filter (·.isActive)

def activeCredentials : List AccessCredential :=
  db.credentials.rows.filter fun credential =>
    credential.subscriberId = accountId ∧ credential.isActive

def throttleChanges (profile : RadiusProfile) : List CredentialChange :=
  let changed := (activeCredentials db accountId).filter (·.radiusProfileId ≠ some profile.id)
  changed.map fun credential => ⟨credential.id, credential.radiusProfileId, some profile.id⟩

def suspensionTargets (reason : EnforcementReason) : List ℕ :=
  ((db.lifecycle.subscriptions.rows.filter fun subscription =>
    subscription.subscriberId = accountId ∧ subscription.status ∈ collectibleServiceStatuses ∧
      subscription.id ∉ (activeReasonLocks db accountId reason).map (·.subscriptionId) ∧
      (reason ≠ .prepaid ∨
        subscription.id ∈ facts.funding.actionableUncoveredSubscriptionIds))).map (·.id)

/-- What is left to do when nothing excludes a consequence. -/
def consequenceTargets (action : FinancialAccessAction) (reason : EnforcementReason) :
    Option String × List ℕ × List CredentialChange :=
  if action = .throttle then
    match throttleProfile db with
    | none => (some "throttle_failed", [], [])
    | some profile =>
      let changes := throttleChanges db accountId profile
      (if changes ≠ [] then none
        else if activeCredentials db accountId ≠ [] then some "already_throttled"
        else some "no_credentials_to_throttle", [], changes)
  else
    let targets := suspensionTargets db facts accountId reason
    (if targets ≠ [] then none
      else if activeReasonLocks db accountId reason = [] then some "no_eligible_subscriptions"
      else if action = .reject then some "already_rejected"
      else some "already_suspended", targets, [])

def FinancialAccessAction.value : FinancialAccessAction → String
  | .suspend => "suspend"
  | .reject => "reject"
  | .throttle => "throttle"
  | .restore => "restore"

def noInputs (accountStatus : Option SubscriberStatus) (overdueDays : Option ℤ) :
    ConsequenceInputs where
  accountStatus
  profile := none
  overdueReceivables := []
  prepaidFunding := none
  graceDecision := none
  accessDecision := none
  shieldReason := none
  billingHealthReasons := []
  dedicatedBundle := false
  insideEnforcementWindow := facts.insideWindow
  enforcementWindowBlockReason := facts.windowBlockReason
  overdueDays
  targetSubscriptionIds := []
  credentialChanges := []

/-- What is decided of a consequence, and the evidence for it. -/
def decideConsequence (action : FinancialAccessAction)
    (reason : EnforcementReason) (origin : FinancialAccessOrigin) (dunningCaseId : Option ℕ)
    (overdueDays : Option ℤ) : Decision :=
  if (db.lifecycle.subscribers.get? accountId).isNone then
    ⟨accountId, action, some reason, origin, dunningCaseId, false, "account_not_found",
      .consequence (noInputs facts none overdueDays)⟩
  else if facts.accountStatus = some .canceled then
    ⟨accountId, action, some reason, origin, dunningCaseId, false, "account_canceled",
      .consequence (noInputs facts facts.accountStatus overdueDays)⟩
  else
    let looksAtMoney := !facts.dedicatedBundle && facts.profile.automationSafe
    let looksAtFunding := looksAtMoney && reason = .prepaid &&
      facts.profile.effectiveMode = some .prepaid
    let financial := financialRefusal facts reason
    let refusal := financial.or (policyRefusal facts reason overdueDays)
    let resolved := if refusal = none then consequenceTargets db facts accountId action reason
      else (refusal, [], [])
    ⟨accountId, action, some reason, origin, dunningCaseId, resolved.1 = none,
      resolved.1.getD (action.value ++ "_ready"), .consequence {
        accountStatus := facts.accountStatus
        profile := some facts.profile.evidence
        overdueReceivables := if looksAtMoney ∧ reason = .overdue then facts.receivables else []
        prepaidFunding := if looksAtFunding then some facts.funding.evidence else none
        graceDecision := if (looksAtMoney ∧ reason = .overdue) ∨ looksAtFunding then
          some (facts.graceDecision reason dunningCaseId) else none
        accessDecision := match action with
          | .suspend => some (facts.accessDecision .captive)
          | .reject => some (facts.accessDecision .hardReject)
          | _ => none
        shieldReason := if financial = none then facts.shieldReason else none
        billingHealthReasons := facts.healthReasons
        dedicatedBundle := facts.dedicatedBundle
        insideEnforcementWindow := facts.insideWindow
        enforcementWindowBlockReason := facts.windowBlockReason
        overdueDays
        targetSubscriptionIds := resolved.2.1
        credentialChanges := resolved.2.2 }⟩

def previewFinancialAccessConsequence (action : FinancialAccessAction)
    (reason : EnforcementReason) (origin : FinancialAccessOrigin) (dunningCaseId : Option ℕ)
    (overdueDays : Option ℤ) : ConsequencePreview :=
  (decideConsequence db facts accountId action reason origin dunningCaseId overdueDays).preview

/-- `idempotency_key.strip()`, with its bounds; a key made of a fingerprint is in them. -/
def normalizeKey (key : AccessKey) : Except AccessError AccessKey :=
  match key with
  | .given text => do
    ensure (Text.strip text ≠ "" ∧ (Text.strip text).length ≤ 120)
      (.http 400 "Invalid idempotency key")
    return .given (Text.strip text)
  | key => return key

structure ConsequenceResult where
  consequence : FinancialAccessConsequence
  preview : ConsequencePreview
  idempotentReplay : Bool
deriving DecidableEq

def financialAccessReplay (key : AccessKey) (fingerprint : Decision) :
    Except AccessError (Option ConsequenceResult) :=
  match db.consequences.rows.find? (·.idempotencyKey = key) with
  | none => return none
  | some consequence => do
    ensure (consequence.decision = fingerprint)
      (.http 409 "Idempotency key was used for a different access consequence")
    return some ⟨consequence,
      { consequence.decision.replayed with outcome := consequence.outcome }, true⟩

/-- What the loop over the targets has done. -/
structure SuspendProgress where
  lifecycle : LifecycleDb
  lockIds : List ℕ
  changed : ℕ

def suspendTarget (now : ℤ) (reason : EnforcementReason) (source : String)
    (accessMode : AccessRestrictionMode) (progress : SuspendProgress) (subscriptionId : ℕ) :
    Except AccessError SuspendProgress := do
  let before := (progress.lifecycle.subscriptions.get? subscriptionId).map (·.status)
  let suspended ← (suspendSubscription progress.lifecycle (.ofClock now) subscriptionId reason
    source accessMode none).mapError .lifecycle
  let lock := (suspended.activeLocks subscriptionId).find? (·.reason = reason)
  return ⟨suspended, progress.lockIds ++ lock.toList.map (·.id),
    progress.changed + if before.any (· ∈ suspendedEquivalent) then 0 else 1⟩

def throttleCredential (credentials : Table AccessCredential) (change : CredentialChange) :
    Except AccessError (Table AccessCredential) := do
  let credential ← orRefuse (credentials.get? change.credentialId)
    (.http 409 "Access credential changed after preview; preview again")
  ensure (credential.radiusProfileId = change.profileBeforeId ∧ change.profileAfterId ≠ none)
    (.http 409 "Access credential profile changed after preview")
  return credentials.update change.credentialId (fun row => { row with
    preThrottleRadiusProfileId := row.radiusProfileId.or row.preThrottleRadiusProfileId
    radiusProfileId := change.profileAfterId }) fun _ => rfl

def confirmedOutcome (preview : ConsequencePreview) : String :=
  if preview.eligible then
    match preview.action with
    | .suspend => "suspended"
    | .reject => "rejected"
    | .throttle => "throttled"
    | .restore => preview.outcome
  else preview.outcome

/-- The effects of a decision, and what they are recorded as. -/
def applyConsequence (now : ℤ) (preview : ConsequencePreview) (reason : EnforcementReason)
    (source : String) : Except AccessError (AccessDb × List ℕ × ℕ) :=
  match preview.decisionInputs with
  | .restoration _ => return (db, [], 0)
  | .consequence inputs =>
    if !preview.eligible then return (db, [], 0)
    else if preview.action = .throttle then do
      let credentials ← inputs.credentialChanges.foldlM throttleCredential db.credentials
      return ({ db with credentials }, [], 0)
    else do
      let accessMode ← orRefuse (inputs.accessDecision.map (·.effectiveMode))
        (.http 500 "access_decision")
      let progress ← inputs.targetSubscriptionIds.foldlM (suspendTarget now reason source
        accessMode) ⟨db.lifecycle, [], 0⟩
      return ({ db with lifecycle := progress.lifecycle }, progress.lockIds, progress.changed)

def AccessDb.record (consequence : ℕ → FinancialAccessConsequence)
    (h : ∀ id, (consequence id).id = id) : AccessDb × FinancialAccessConsequence :=
  ({ db with consequences := db.consequences.insert consequence h },
    consequence db.consequences.next)

/-- A reviewed consequence takes effect once under its key. -/
def confirmFinancialAccessConsequence (now : ℤ) (action : FinancialAccessAction)
    (reason : EnforcementReason) (origin : FinancialAccessOrigin) (fingerprint : Decision)
    (key : AccessKey) (source : String) (dunningCaseId : Option ℕ) (overdueDays : Option ℤ) :
    Except AccessError (AccessDb × ConsequenceResult) := do
  let key ← normalizeKey key
  match ← financialAccessReplay db key fingerprint with
  | some result => return (db, result)
  | none =>
    ensure (db.lifecycle.subscribers.get? accountId).isSome (.http 404 "Account not found")
    let preview := previewFinancialAccessConsequence db facts accountId action reason origin
      dunningCaseId overdueDays
    ensure (preview.toDecision = fingerprint)
      (.http 409 "Financial access state changed after preview; preview again")
    let (applied, lockIds, changed) ← applyConsequence db now preview reason source
    let accessMode := match preview.decisionInputs with
      | .consequence inputs => inputs.accessDecision.map (·.effectiveMode)
      | .restoration _ => none
    let credentialIds := if preview.eligible then preview.credentialChanges.map (·.credentialId)
      else []
    let (recorded, consequence) := applied.record (fun id => ⟨id, key, preview.toDecision,
      accessMode, confirmedOutcome preview, changed, lockIds, [], credentialIds⟩) fun _ => rfl
    return (recorded, ⟨consequence, preview, false⟩)

/-! ## Giving access back -/

def activeFinancialLocks : List EnforcementLock :=
  db.lifecycle.locks.rows.filter fun lock =>
    lock.subscriptionId ∈ db.lifecycle.subscriptionIds accountId ∧
      (lock.reason = .overdue ∨ lock.reason = .prepaid) ∧ lock.isActive

def restorableOverdueLocks : List EnforcementLock :=
  if facts.receivables = [] then
    (activeFinancialLocks db accountId).filter (·.reason = .overdue)
  else []

def restorablePrepaidLocks : List EnforcementLock :=
  let locks := (activeFinancialLocks db accountId).filter (·.reason = .prepaid)
  if !facts.profile.hasCollectibleSubscriptions then locks
  else if !facts.profile.automationSafe then []
  else if facts.profile.effectiveMode ≠ some .prepaid ∨ facts.funding.funded then locks
  else locks.filter (·.subscriptionId ∈ facts.funding.coveredSubscriptionIds)

def clearsPrepaidTimers : Bool :=
  !facts.profile.hasCollectibleSubscriptions || facts.profile.automationSafe &&
    (facts.profile.effectiveMode ≠ some .prepaid || facts.funding.funded)

def resolvableCases : List DunningCase :=
  if facts.receivables = [] then
    db.cases.rows.filter fun case => case.accountId = accountId ∧ case.status = .open
  else []

def throttledCredentials : List AccessCredential :=
  match db.throttleRadiusProfileId with
  | none => []
  | some profileId =>
    if facts.receivables = [] then
      (activeCredentials db accountId).filter (·.radiusProfileId = some profileId)
    else []

/-- The credentials that a restoration gives their profile back. -/
def unthrottleChanges : List CredentialChange :=
  ((throttledCredentials db facts accountId).filter
    (·.preThrottleRadiusProfileId.isSome)).map fun credential =>
      ⟨credential.id, credential.radiusProfileId, credential.preThrottleRadiusProfileId⟩

/-- The throttled credentials that remember no profile. -/
def legacyThrottleIds : List ℕ :=
  ((throttledCredentials db facts accountId).filter
    (·.preThrottleRadiusProfileId.isNone)).map (·.id)

/-- What is decided of a restoration, and the evidence for it. -/
def decideRestoration (origin : FinancialAccessOrigin) : Decision :=
  if (db.lifecycle.subscribers.get? accountId).isNone then
    ⟨accountId, .restore, none, origin, none, false, "account_not_found", .restoration
      ⟨none, none, [], none, [], [], [], [], [], false, none, none⟩⟩
  else
    let timers := db.timers accountId
    if facts.accountStatus = some .canceled then
      ⟨accountId, .restore, none, origin, none, false, "account_canceled", .restoration
        ⟨facts.accountStatus, none, [], none, [], [], [], [], [], false, timers.lowBalanceAt,
          timers.deactivationAt⟩⟩
    else
      let locks := restorableOverdueLocks db facts accountId ++
        restorablePrepaidLocks db facts accountId
      let cases := resolvableCases db facts accountId
      let changes := unthrottleChanges db facts accountId
      let clears := clearsPrepaidTimers facts
      let looksAtFunding := facts.profile.hasCollectibleSubscriptions &&
        facts.profile.automationSafe && facts.profile.effectiveMode = some .prepaid
      let hasTimers := timers.lowBalanceAt.isSome || timers.deactivationAt.isSome
      ⟨accountId, .restore, none, origin, none, true,
        if locks = [] ∧ cases = [] ∧ changes = [] ∧ ¬(clears ∧ hasTimers) then "no_change"
        else "restore_ready", .restoration {
          accountStatus := facts.accountStatus
          profile := some facts.profile.evidence
          overdueReceivables := facts.receivables
          prepaidFunding := if looksAtFunding then some facts.funding.evidence else none
          targetSubscriptionIds := (locks.map (·.subscriptionId)).dedup
          targetLockIds := locks.map (·.id)
          targetCaseIds := cases.map (·.id)
          credentialChanges := changes
          legacyThrottleCredentialIds := legacyThrottleIds db facts accountId
          clearPrepaidTimers := clears
          prepaidLowBalanceAt := timers.lowBalanceAt
          prepaidDeactivationAt := timers.deactivationAt }⟩

def previewFinancialAccessRestoration (origin : FinancialAccessOrigin) : ConsequencePreview :=
  (decideRestoration db facts accountId origin).preview

/-- What the loop over the locks has done. -/
structure RestoreProgress where
  lifecycle : LifecycleDb
  lockIds : List ℕ
  restored : ℕ

def restoreTrigger (overdueTrigger : String) (lock : EnforcementLock) : String :=
  if lock.reason = .prepaid then "top_up" else overdueTrigger

/-- The turn of one lock: restored with its service, or resolved as stale. -/
def restoreLock (now : ℤ) (overdueTrigger resolvedBy : String) (progress : RestoreProgress)
    (lockId : ℕ) : Except AccessError RestoreProgress := do
  let lock ← orRefuse ((progress.lifecycle.locks.get? lockId).filter (·.isActive))
    (.http 409 "Financial enforcement lock changed after preview")
  let subscription ← orRefuse (progress.lifecycle.subscriptions.get? lock.subscriptionId)
    (.http 409 "Financial enforcement subscription no longer exists")
  let trigger := restoreTrigger overdueTrigger lock
  let (lifecycle, restored) ← if subscription.status ∈ suspendedEquivalent then do
      let (lifecycle, outcome) ← (restoreSubscriptionDetailed progress.lifecycle (.ofClock now)
        lock.subscriptionId trigger resolvedBy (some lock.reason) none).mapError .lifecycle
      pure (lifecycle, outcome.subscriptionReactivated)
    else do
      let (lifecycle, count) ← (resolveStaleLockWithoutRestoration progress.lifecycle (.ofClock now)
        lock.subscriptionId trigger resolvedBy lock.reason
        (some "Stale financial lock reconciled without service activation")).mapError .lifecycle
      ensure (count ≠ 0) (.http 409 "Financial enforcement lock was not resolved by its owner")
      pure (lifecycle, false)
  ensure ((lifecycle.locks.get? lockId).all (!·.isActive))
    (.http 409 "Financial enforcement lock was not resolved by its owner")
  return ⟨lifecycle, progress.lockIds ++ [lockId], progress.restored + if restored then 1 else 0⟩

def resolveCase (now : ℤ) (cases : Table DunningCase) (caseId : ℕ) :
    Except AccessError (Table DunningCase) := do
  let _ ← orRefuse ((cases.get? caseId).filter (·.status = .open))
    (.http 409 "Dunning case changed after preview")
  return cases.update caseId (fun row => { row with status := .resolved, resolvedAt := some now })
    fun _ => rfl

/-- One credential gets its profile back. -/
def unthrottleCredential (credentials : Table AccessCredential) (change : CredentialChange) :
    Except AccessError (Table AccessCredential) := do
  let _ ← orRefuse ((credentials.get? change.credentialId).filter fun credential =>
      credential.radiusProfileId = change.profileBeforeId ∧
        credential.preThrottleRadiusProfileId = change.profileAfterId)
    (.http 409 "Throttled credential changed after preview")
  return credentials.update change.credentialId (fun row => { row with
    preThrottleRadiusProfileId := none
    radiusProfileId := change.profileAfterId }) fun _ => rfl

def restorationOutcome (preview : ConsequencePreview) (restored : ℕ) : String :=
  if restored ≠ 0 then "restored"
  else if preview.targetLockIds ≠ [] ∨ preview.targetCaseIds ≠ [] ∨
      preview.credentialChanges ≠ [] then "reconciled"
  else preview.outcome

def applyRestoration (now : ℤ) (preview : ConsequencePreview) (overdueTrigger resolvedBy : String) :
    Except AccessError (AccessDb × ℕ) := do
  let progress ← preview.targetLockIds.foldlM (restoreLock now overdueTrigger resolvedBy)
    ⟨db.lifecycle, [], 0⟩
  let cases ← preview.targetCaseIds.foldlM (resolveCase now) db.cases
  let credentials ← preview.credentialChanges.foldlM unthrottleCredential db.credentials
  let clears := match preview.decisionInputs with
    | .consequence _ => false
    | .restoration inputs => inputs.clearPrepaidTimers
  return ({ db with
    lifecycle := progress.lifecycle, cases, credentials
    timers := if clears then Function.update db.timers accountId ⟨none, none⟩ else db.timers },
      progress.restored)

/-- Replay the restoration of a key, or carry it out. -/
def confirmFinancialAccessRestoration (now : ℤ) (origin : FinancialAccessOrigin)
    (fingerprint : Decision) (key : AccessKey) (overdueTrigger resolvedBy : String) :
    Except AccessError (AccessDb × ConsequenceResult) := do
  let key ← normalizeKey key
  match ← financialAccessReplay db key fingerprint with
  | some result => return (db, result)
  | none =>
    ensure (db.lifecycle.subscribers.get? accountId).isSome (.http 404 "Account not found")
    let preview := previewFinancialAccessRestoration db facts accountId origin
    ensure (preview.toDecision = fingerprint)
      (.http 409 "Financial access state changed after preview; preview again")
    let (applied, restored) ← applyRestoration db accountId now preview overdueTrigger resolvedBy
    let (recorded, consequence) := applied.record (fun id => ⟨id, key, preview.toDecision, none,
      restorationOutcome preview restored, restored, preview.targetLockIds, preview.targetCaseIds,
      preview.credentialChanges.map (·.credentialId)⟩) fun _ => rfl
    return (recorded, ⟨consequence, preview, false⟩)

/-! ## The entry points -/

/-- `_suspend_account`: previewed and confirmed at once. -/
def suspendAccount (now : ℤ) (reason : EnforcementReason) (source : String) :
    Except AccessError (AccessDb × ConsequenceResult) :=
  let origin := if reason = .prepaid then .prepaidEnforcement else .dunning
  let preview := previewFinancialAccessConsequence db facts accountId .suspend reason origin none
    none
  confirmFinancialAccessConsequence db facts accountId now .suspend reason origin preview.toDecision
    (.financialSuspend accountId reason preview.toDecision) source none none

/-- The enforcing branch of `_execute_dunning_action_with_evidence`. -/
def executeDunningAction (now : ℤ) (caseId : ℕ) (action : FinancialAccessAction) (dayOffset : ℤ)
    (overdueDays : Option ℤ) (source : String) :
    Except AccessError (AccessDb × ConsequenceResult) :=
  let days := some (overdueDays.getD dayOffset)
  let preview := previewFinancialAccessConsequence db facts accountId action .overdue .dunning
    (some caseId) days
  confirmFinancialAccessConsequence db facts accountId now action .overdue .dunning
    preview.toDecision
    (.dunning caseId action dayOffset preview.toDecision) source (some caseId) days

/-- `restore_account_services_detailed`; without an account there is nothing to confirm. -/
def restoreAccountServicesDetailed (now : ℤ) (origin : FinancialAccessOrigin)
    (idempotencyKey : Option String) (overdueTrigger resolvedBy : String) :
    Except AccessError (AccessDb × Option ConsequenceResult) := do
  let preview := previewFinancialAccessRestoration db facts accountId origin
  if preview.outcome = "account_not_found" then return (db, none)
  let key := match idempotencyKey with
    | none | some "" => .financialRestore accountId origin preview.toDecision
    | some key => .given key
  let (restored, result) ← confirmFinancialAccessRestoration db facts accountId now origin
    preview.toDecision key overdueTrigger resolvedBy
  return (restored, some result)

/-- Resolve prepaid locks that funding no longer bears out. -/
def reconcileStalePrepaidLocks (now : ℤ) (resolvedBy : String) :
    Except AccessError (AccessDb × ConsequenceResult) :=
  let preview := previewFinancialAccessRestoration db facts accountId .prepaidEnforcement
  confirmFinancialAccessRestoration db facts accountId now .prepaidEnforcement
    preview.toDecision (.stalePrepaidLocks accountId preview.toDecision) "payment" resolvedBy

section Decisions

variable {db} {facts} {accountId} {action : FinancialAccessAction} {reason : EnforcementReason}
  {origin : FinancialAccessOrigin} {dunningCaseId : Option ℕ} {overdueDays : Option ℤ}

structure Eligible (db : AccessDb) (facts : AccountFacts) (accountId : ℕ)
    (action : FinancialAccessAction) (reason : EnforcementReason) (overdueDays : Option ℤ)
    (inputs : ConsequenceInputs) : Prop where
  financial : financialRefusal facts reason = none
  policy : policyRefusal facts reason overdueDays = none
  ready : (consequenceTargets db facts accountId action reason).1 = none
  targets : inputs.targetSubscriptionIds = (consequenceTargets db facts accountId action reason).2.1
  changes : inputs.credentialChanges = (consequenceTargets db facts accountId action reason).2.2

/-- **An eligible decision** has nothing against it and something to do. -/
lemma eligible_of_decide (h : (decideConsequence db facts accountId action reason origin
    dunningCaseId overdueDays).eligible = true) :
    ∃ inputs, (decideConsequence db facts accountId action reason origin dunningCaseId
      overdueDays).decisionInputs = .consequence inputs ∧
        Eligible db facts accountId action reason overdueDays inputs := by
  unfold decideConsequence at h ⊢
  by_cases hmissing : (db.lifecycle.subscribers.get? accountId).isNone
  · rw [if_pos hmissing] at h
    cases h
  by_cases hcanceled : facts.accountStatus = some .canceled
  · rw [if_neg hmissing, if_pos hcanceled] at h
    cases h
  rw [if_neg hmissing, if_neg hcanceled] at h ⊢
  have hready := of_decide_eq_true h
  refine ⟨_, rfl, ?_⟩
  by_cases hrefusal :
      (financialRefusal facts reason).or (policyRefusal facts reason overdueDays) = none
  · rw [if_pos hrefusal] at hready
    obtain ⟨hfinancial, hpolicy⟩ := Option.or_eq_none_iff.mp hrefusal
    exact ⟨hfinancial, hpolicy, hready, by rw [if_pos hrefusal], by rw [if_pos hrefusal]⟩
  · rw [if_neg hrefusal] at hready
    exact absurd hready hrefusal

lemma action_decideConsequence : (decideConsequence db facts accountId action reason origin
    dunningCaseId overdueDays).action = action := by
  unfold decideConsequence
  split_ifs <;> rfl

lemma inputs_decideConsequence : ∃ inputs, (decideConsequence db facts accountId action reason
    origin dunningCaseId overdueDays).decisionInputs = .consequence inputs := by
  unfold decideConsequence
  split_ifs <;> exact ⟨_, rfl⟩

end Decisions

section Confirmations

variable {db} {facts} {accountId} {db' : AccessDb} {now : ℤ} {action : FinancialAccessAction}
  {reason : EnforcementReason} {origin : FinancialAccessOrigin} {fingerprint : Decision}
  {key : AccessKey} {source : String} {dunningCaseId : Option ℕ} {overdueDays : Option ℤ}
  {overdueTrigger resolvedBy : String} {result : ConsequenceResult}

/-- A confirmation that is answered from the record of an earlier one. -/
structure Replayed (db : AccessDb) (key : AccessKey) (fingerprint : Decision)
    (result : ConsequenceResult) : Prop where
  recorded : result.consequence ∈ db.consequences.rows
  idempotencyKey : result.consequence.idempotencyKey = key
  decision : result.consequence.decision = fingerprint
  preview : result.preview = { fingerprint.replayed with outcome := result.consequence.outcome }
  replay : result.idempotentReplay = true

def Unrecorded (db : AccessDb) (key : AccessKey) : Prop :=
  ∀ consequence ∈ db.consequences.rows, consequence.idempotencyKey ≠ key

lemma financialAccessReplay_eq_none : financialAccessReplay db key fingerprint = .ok none ↔
    Unrecorded db key := by
  unfold financialAccessReplay Unrecorded
  cases hfind : db.consequences.rows.find? (·.idempotencyKey = key) with
  | none =>
    refine iff_of_true rfl fun consequence hmem hkey => ?_
    exact List.find?_eq_none.mp hfind consequence hmem (decide_eq_true hkey)
  | some consequence =>
    refine iff_of_false ?_ fun h => ?_
    · dsimp only
      rw [ensure_bind_eq_ok]
      rintro ⟨-, h⟩
      cases h
    · have hkey : consequence.idempotencyKey = key := by simpa using List.find?_some hfind
      exact h consequence (List.mem_of_find?_eq_some hfind) hkey

lemma replayed_of_eq_some (h : financialAccessReplay db key fingerprint = .ok (some result)) :
    Replayed db key fingerprint result := by
  unfold financialAccessReplay at h
  cases hfind : db.consequences.rows.find? (·.idempotencyKey = key) with
  | none =>
    rw [hfind] at h
    cases h
  | some consequence =>
    rw [hfind] at h
    dsimp only at h
    obtain ⟨hdecision, h⟩ := ensure_bind_eq_ok.mp h
    obtain rfl := Option.some.inj (pure_eq_ok.mp h)
    have hkey : consequence.idempotencyKey = key := by simpa using List.find?_some hfind
    exact ⟨List.mem_of_find?_eq_some hfind, hkey, hdecision, hdecision ▸ rfl, rfl⟩

/-- What a consequence that is confirmed anew writes and reports. -/
structure Confirmed (db : AccessDb) (facts : AccountFacts) (accountId : ℕ) (now : ℤ)
    (action : FinancialAccessAction) (reason : EnforcementReason) (origin : FinancialAccessOrigin)
    (fingerprint : Decision) (key : AccessKey) (source : String) (dunningCaseId : Option ℕ)
    (overdueDays : Option ℤ) (db' : AccessDb) (result : ConsequenceResult) : Prop where
  unrecorded : Unrecorded db key
  decision : fingerprint =
    decideConsequence db facts accountId action reason origin dunningCaseId overdueDays
  applied : ∃ applied lockIds changed,
    applyConsequence db now fingerprint.preview reason source = .ok (applied, lockIds, changed) ∧
      db' = { applied with consequences := db'.consequences } ∧
      db'.consequences.rows = applied.consequences.rows ++ [result.consequence] ∧
      result.consequence.enforcementLockIds = lockIds
  idempotencyKey : result.consequence.idempotencyKey = key
  recorded : result.consequence.decision = fingerprint
  outcome : result.consequence.outcome = confirmedOutcome fingerprint.preview
  preview : result.preview = fingerprint.preview
  replay : result.idempotentReplay = false

/-- **A confirmation** replays a record or confirms anew. -/
theorem confirmConsequence_cases (h : confirmFinancialAccessConsequence db facts accountId now
    action reason origin fingerprint key source dunningCaseId overdueDays = .ok (db', result)) :
    ∃ used, normalizeKey key = .ok used ∧
      ((db' = db ∧ Replayed db used fingerprint result) ∨
        Confirmed db facts accountId now action reason origin fingerprint used source dunningCaseId
          overdueDays db' result) := by
  obtain ⟨used, hused, h⟩ := bind_eq_ok.mp h
  refine ⟨used, hused, ?_⟩
  obtain ⟨replay, hreplay, h⟩ := bind_eq_ok.mp h
  cases replay with
  | some recorded =>
    obtain ⟨rfl, rfl⟩ := mk_eq_ok.mp h
    exact .inl ⟨rfl, replayed_of_eq_some hreplay⟩
  | none =>
    dsimp only at h
    obtain ⟨-, h⟩ := ensure_bind_eq_ok.mp h
    obtain ⟨hdecision, h⟩ := ensure_bind_eq_ok.mp h
    obtain ⟨⟨applied, lockIds, changed⟩, happlied, h⟩ := bind_eq_ok.mp h
    obtain ⟨rfl, rfl⟩ := mk_eq_ok.mp h
    subst hdecision
    exact .inr ⟨financialAccessReplay_eq_none.mp hreplay, rfl,
      ⟨applied, lockIds, changed, happlied, rfl, rfl, rfl⟩, rfl, rfl, rfl, rfl, rfl⟩

/-- The same of a restoration. -/
structure RestorationConfirmed (db : AccessDb) (facts : AccountFacts) (accountId : ℕ) (now : ℤ)
    (origin : FinancialAccessOrigin) (fingerprint : Decision) (key : AccessKey)
    (overdueTrigger resolvedBy : String) (db' : AccessDb) (result : ConsequenceResult) :
    Prop where
  unrecorded : Unrecorded db key
  found : (db.lifecycle.subscribers.get? accountId).isSome
  decision : fingerprint = decideRestoration db facts accountId origin
  applied : ∃ applied restored,
    applyRestoration db accountId now fingerprint.preview overdueTrigger resolvedBy =
        .ok (applied, restored) ∧
      db' = { applied with consequences := db'.consequences } ∧
      db'.consequences.rows = applied.consequences.rows ++ [result.consequence] ∧
      result.consequence.outcome = restorationOutcome fingerprint.preview restored
  idempotencyKey : result.consequence.idempotencyKey = key
  recorded : result.consequence.decision = fingerprint
  preview : result.preview = fingerprint.preview
  replay : result.idempotentReplay = false

/-- **A confirmed restoration** replays a record or restores. -/
theorem confirmRestoration_cases (h : confirmFinancialAccessRestoration db facts accountId now
    origin fingerprint key overdueTrigger resolvedBy = .ok (db', result)) :
    ∃ used, normalizeKey key = .ok used ∧
      ((db' = db ∧ Replayed db used fingerprint result) ∨
        RestorationConfirmed db facts accountId now origin fingerprint used overdueTrigger
          resolvedBy db' result) := by
  obtain ⟨used, hused, h⟩ := bind_eq_ok.mp h
  refine ⟨used, hused, ?_⟩
  obtain ⟨replay, hreplay, h⟩ := bind_eq_ok.mp h
  cases replay with
  | some recorded =>
    obtain ⟨rfl, rfl⟩ := mk_eq_ok.mp h
    exact .inl ⟨rfl, replayed_of_eq_some hreplay⟩
  | none =>
    dsimp only at h
    obtain ⟨hfound, h⟩ := ensure_bind_eq_ok.mp h
    obtain ⟨hdecision, h⟩ := ensure_bind_eq_ok.mp h
    obtain ⟨⟨applied, restored⟩, happlied, h⟩ := bind_eq_ok.mp h
    obtain ⟨rfl, rfl⟩ := mk_eq_ok.mp h
    subst hdecision
    exact .inr ⟨financialAccessReplay_eq_none.mp hreplay, hfound, rfl,
      ⟨applied, restored, happlied, rfl, rfl, rfl⟩, rfl, rfl, rfl, rfl⟩

/-- What a confirmed decision does to the tables: nothing, a throttle, or a suspension of its
targets, of which it reports the locks. -/
inductive Effected (db db' : AccessDb) (now : ℤ) (reason : EnforcementReason) (source : String)
    (fingerprint : Decision) (lockIds : List ℕ) : Prop
  | refused (heligible : fingerprint.eligible = false) (hlifecycle : db'.lifecycle = db.lifecycle)
      (hcredentials : db'.credentials = db.credentials) (hnone : lockIds = [])
  | throttled (heligible : fingerprint.eligible = true) (haction : fingerprint.action = .throttle)
      (hlifecycle : db'.lifecycle = db.lifecycle)
      (hloop : fingerprint.credentialChanges.foldlM throttleCredential db.credentials =
        .ok db'.credentials) (hnone : lockIds = [])
  | suspended (accessMode : AccessRestrictionMode) (progress : SuspendProgress)
      (heligible : fingerprint.eligible = true) (haction : fingerprint.action ≠ .throttle)
      (hloop : fingerprint.targetSubscriptionIds.foldlM (suspendTarget now reason source accessMode)
        ⟨db.lifecycle, [], 0⟩ = .ok progress)
      (hlifecycle : db'.lifecycle = progress.lifecycle)
      (hcredentials : db'.credentials = db.credentials) (hlocks : lockIds = progress.lockIds)

structure KeptByConsequence (db db' : AccessDb) : Prop where
  timers : db'.timers = db.timers
  cases : db'.cases = db.cases
  setting : db'.throttleRadiusProfileId = db.throttleRadiusProfileId
  profiles : db'.radiusProfiles = db.radiusProfiles

/-- **A confirmed consequence** writes its effects and one record. -/
theorem Confirmed.effected (h : Confirmed db facts accountId now action reason origin fingerprint
    key source dunningCaseId overdueDays db' result) :
    Effected db db' now reason source fingerprint result.consequence.enforcementLockIds ∧
      KeptByConsequence db db' ∧
      db'.consequences.rows = db.consequences.rows ++ [result.consequence] := by
  obtain ⟨applied, lockIds, changed, happlied, hdb', hrows, hreported⟩ := h.applied
  rw [hdb', hrows, hreported]
  obtain ⟨inputs, hinputs⟩ : ∃ inputs, fingerprint.decisionInputs = .consequence inputs :=
    h.decision ▸ inputs_decideConsequence
  have htargets : fingerprint.targetSubscriptionIds = inputs.targetSubscriptionIds := by
    rw [Decision.targetSubscriptionIds, hinputs]
  have hchanges : fingerprint.credentialChanges = inputs.credentialChanges := by
    rw [Decision.credentialChanges, hinputs]
  unfold applyConsequence at happlied
  rw [show fingerprint.preview.decisionInputs = .consequence inputs from hinputs] at happlied
  dsimp only at happlied
  cases heligible : fingerprint.eligible with
  | false =>
    rw [if_pos (by rw [show fingerprint.preview.eligible = false from heligible]; rfl)] at happlied
    obtain ⟨rfl, hlocks⟩ := mk_eq_ok.mp happlied
    exact ⟨.refused heligible rfl rfl (Prod.mk.inj hlocks).1.symm, ⟨rfl, rfl, rfl, rfl⟩, rfl⟩
  | true =>
    rw [if_neg (by rw [show fingerprint.preview.eligible = true from heligible]; decide)]
      at happlied
    by_cases hthrottle : fingerprint.preview.action = .throttle
    · rw [if_pos hthrottle] at happlied
      obtain ⟨credentials, hloop, happlied⟩ := bind_eq_ok.mp happlied
      obtain ⟨rfl, hlocks⟩ := mk_eq_ok.mp happlied
      exact ⟨.throttled heligible hthrottle rfl (hchanges ▸ hloop) (Prod.mk.inj hlocks).1.symm,
        ⟨rfl, rfl, rfl, rfl⟩, rfl⟩
    · rw [if_neg hthrottle] at happlied
      obtain ⟨accessMode, -, happlied⟩ := bind_eq_ok.mp happlied
      obtain ⟨progress, hloop, happlied⟩ := bind_eq_ok.mp happlied
      obtain ⟨rfl, hlocks⟩ := mk_eq_ok.mp happlied
      exact ⟨.suspended accessMode progress heligible hthrottle (htargets ▸ hloop) rfl rfl
        (Prod.mk.inj hlocks).1.symm, ⟨rfl, rfl, rfl, rfl⟩, rfl⟩

/-- What a restoration does, table by table. -/
structure Restored (db db' : AccessDb) (accountId : ℕ) (now : ℤ)
    (overdueTrigger resolvedBy : String) (fingerprint : Decision) : Prop where
  locks : ∃ progress, fingerprint.targetLockIds.foldlM (restoreLock now overdueTrigger resolvedBy)
    ⟨db.lifecycle, [], 0⟩ = .ok progress ∧ db'.lifecycle = progress.lifecycle
  cases : fingerprint.targetCaseIds.foldlM (resolveCase now) db.cases = .ok db'.cases
  credentials : fingerprint.credentialChanges.foldlM unthrottleCredential db.credentials =
    .ok db'.credentials
  timers : db'.timers = if fingerprint.clearPrepaidTimers then
    Function.update db.timers accountId ⟨none, none⟩ else db.timers
  setting : db'.throttleRadiusProfileId = db.throttleRadiusProfileId

/-- **A confirmed restoration that is not replayed** writes its effects and one record. -/
theorem RestorationConfirmed.effected (h : RestorationConfirmed db facts accountId now origin
    fingerprint key overdueTrigger resolvedBy db' result) :
    Restored db db' accountId now overdueTrigger resolvedBy fingerprint ∧
      db'.consequences.rows = db.consequences.rows ++ [result.consequence] := by
  obtain ⟨applied, restored, happlied, hdb', hrows, -⟩ := h.applied
  rw [hdb', hrows]
  obtain ⟨progress, hloop, happlied⟩ := bind_eq_ok.mp happlied
  obtain ⟨cases, hcases, happlied⟩ := bind_eq_ok.mp happlied
  obtain ⟨credentials, hcredentials, happlied⟩ := bind_eq_ok.mp happlied
  obtain ⟨rfl, -⟩ := mk_eq_ok.mp happlied
  exact ⟨⟨⟨progress, hloop, rfl⟩, hcases, hcredentials, rfl, rfl⟩, rfl⟩

end Confirmations

def postpaidFacts (receivables : List OverdueReceivable) : AccountFacts where
  accountStatus := some .active
  dedicatedBundle := false
  profile := ⟨some .postpaid, [.postpaid], some .postpaid, "subscription", false, none⟩
  receivables
  funding := ⟨0, 0, "NGN", [], [], [], [], []⟩
  graceDecision := fun _ _ => ""
  shieldReason := none
  minimumEnforcingDays := 3
  shouldDefer := false
  insideWindow := true
  windowBlockReason := none
  healthReasons := []
  accessDecision := fun mode => ⟨mode, .hardReject, "hard_reject_requested"⟩

def overdueInvoice : OverdueReceivable := ⟨0, "NGN", 5000, 0, 0⟩

def throttleProfiles : List RadiusProfile := [⟨5, true⟩, ⟨6, true⟩]

lemma nodup_throttleProfiles : (throttleProfiles.map Row.id).Nodup := by decide

lemma throttleProfiles_fresh : ∀ row ∈ throttleProfiles, Row.id row < 7 := by decide

def serviceLogin (radiusProfileId : Option ℕ) : List AccessCredential :=
  [⟨0, 0, radiusProfileId, none, true⟩]

lemma nodup_serviceLogin (radiusProfileId : Option ℕ) :
    ((serviceLogin radiusProfileId).map Row.id).Nodup := List.nodup_singleton 0

lemma serviceLogin_fresh (radiusProfileId : Option ℕ) :
    ∀ row ∈ serviceLogin radiusProfileId, Row.id row < 1 :=
  fun _ hrow => List.mem_singleton.mp hrow ▸ Nat.zero_lt_one

/-- An account with one active service and one login, with 5 for the throttle profile. -/
def oneService (radiusProfileId : Option ℕ) : AccessDb where
  lifecycle := .single .active none .empty
  credentials := ⟨serviceLogin radiusProfileId, 1, nodup_serviceLogin radiusProfileId,
    serviceLogin_fresh radiusProfileId⟩
  radiusProfiles := ⟨throttleProfiles, 7, nodup_throttleProfiles, throttleProfiles_fresh⟩
  throttleRadiusProfileId := some 5
  cases := .empty
  timers := fun _ => ⟨none, none⟩
  consequences := .empty

end DotmacSub.FinancialAccess
