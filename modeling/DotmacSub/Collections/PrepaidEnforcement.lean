import DotmacSub.Collections.AccessReplays
import DotmacSub.Collections.FinancialFacts

/-!
# Prepaid enforcement

`prepaid_enforcement_planner.py` chooses one action for an account by its funding, its timers and
the numbers of its locks and active services; `collections/prepaid_balance_sweep.py` carries it out.
-/

namespace DotmacSub.FinancialAccess

open Store Checked Lifecycle
open PrepaidService (BillingMode)

inductive GracePhase
  | notStarted
  | inGrace
  | actionable
deriving DecidableEq

def dayOf (instant : ℤ) : ℤ := instant / Gregorian.usPerDay

/-- `decide_grace`: the phase of a grace of some days. -/
def decideGrace (graceDays : ℕ) (startsAt : Option ℤ) (asOf : ℤ) : GracePhase :=
  match startsAt with
  | none => .notStarted
  | some start =>
    if graceDays = 0 then if start ≤ asOf then .actionable else .inGrace
    else if max (dayOf asOf - dayOf start) 0 ≤ graceDays then .inGrace
    else .actionable

inductive PrepaidEnforcementAction
  | notApplicable
  | billingProfileInvalid
  | coverageUnresolved
  | renewalTermsUnresolved
  | clearStaleTimers
  | repairStaleLocks
  | restore
  | warn
  | waiting
  | deferred
  | suspend
  | shielded
  | stateDrift
  | alreadySuspended
  | ok
deriving DecidableEq

inductive PrepaidEnforcementReasonSource
  | owner
  | billingProfile
  | coverage
  | renewal
  | window
  | shield
deriving DecidableEq

structure PrepaidEnforcementPlanItem where
  action : PrepaidEnforcementAction
  reason : String
  reasonSource : PrepaidEnforcementReasonSource
deriving DecidableEq

inductive PrepaidNoticeOutcome
  | queued
  | policySuppressed
  | noContactRoute
  | deliveryUnavailable
deriving DecidableEq

/-- What a pass meets at an account; the profile and the funding of the facts are resolved from the
sources, and the owner of grace policies may refuse to say how many days there are. -/
structure SweepPass where
  accountId : ℕ
  now : ℤ
  accountIsActive : Bool
  billingEnabled : Bool
  graceDays : Option ℕ
  noticeOutcome : PrepaidNoticeOutcome
  sources : FinancialSources
  facts : AccountFacts

inductive SweepError
  | accountNotFound
  | funding (error : FundingError)
  | gracePolicy
  | access (error : AccessError)
deriving DecidableEq

variable (db : AccessDb) (pass : SweepPass)

def SweepPass.ineligible : Bool :=
  pass.facts.accountStatus = some .canceled || !pass.accountIsActive || !pass.billingEnabled

def SweepPass.profile : BillingProfile := resolveBillingProfile db pass.accountId pass.sources

def SweepPass.fundingRequired : Bool :=
  !pass.ineligible && (pass.profile db).automationSafe &&
    (pass.profile db).effectiveMode = some .prepaid &&
    (pass.profile db).hasCollectibleSubscriptions

def planFunding : Except SweepError PrepaidFundingDecision :=
  if pass.fundingRequired db then
    (resolvePrepaidFunding db pass.accountId pass.sources).mapError .funding
  else return ⟨0, 0, pass.sources.currency, [], [], [], [], []⟩

def PrepaidTimers.armed (timers : PrepaidTimers) : Bool :=
  timers.lowBalanceAt.isSome || timers.deactivationAt.isSome

def activePrepaidLockCount (accountId : ℕ) : ℕ := (activeReasonLocks db accountId .prepaid).length

def activeSubscriptionCount (accountId : ℕ) : ℕ :=
  db.lifecycle.subscriptions.rows.countP fun subscription =>
    subscription.subscriberId = accountId ∧ subscription.status = .active

/-- The rows of the decision table for accounts that are not enforced by their funding. -/
def excludedItem : Option PrepaidEnforcementPlanItem :=
  let profile := pass.profile db
  let armed := (db.timers pass.accountId).armed
  let locks := activePrepaidLockCount db pass.accountId
  if armed ∧ pass.ineligible ∧ locks = 0 then
    some ⟨.clearStaleTimers, "ineligible_account_has_prepaid_timers", .owner⟩
  else if pass.facts.accountStatus = some .canceled then
    some ⟨.notApplicable, "account_canceled", .owner⟩
  else if !pass.accountIsActive then some ⟨.notApplicable, "account_inactive", .owner⟩
  else if !pass.billingEnabled then some ⟨.notApplicable, "account_billing_disabled", .owner⟩
  else if !profile.hasCollectibleSubscriptions then
    if 0 < locks then
      some ⟨.repairStaleLocks, "prepaid_lock_without_collectible_service", .owner⟩
    else if armed then
      some ⟨.clearStaleTimers, "account_without_collectible_service_has_prepaid_timers", .owner⟩
    else some ⟨.notApplicable, "account_without_collectible_service", .owner⟩
  else if !profile.automationSafe then
    some ⟨.billingProfileInvalid,
      profile.invalidReason.getD "billing_profile_not_automation_safe", .billingProfile⟩
  else if profile.effectiveMode ≠ some .prepaid then
    if 0 < locks then some ⟨.repairStaleLocks, "non_prepaid_account_has_prepaid_lock", .owner⟩
    else if armed then
      some ⟨.clearStaleTimers, "non_prepaid_account_has_prepaid_timers", .owner⟩
    else some ⟨.notApplicable, "effective_billing_mode_not_prepaid", .owner⟩
  else none

/-- The rows of the decision table for an account without funds that nothing has been done to. -/
def lowBalanceItem (graceDays : ℕ) : PrepaidEnforcementPlanItem :=
  let lowBalanceAt := (db.timers pass.accountId).lowBalanceAt
  let zeroGrace := graceDays = 0
  if lowBalanceAt = none ∧ ¬zeroGrace then ⟨.warn, "low_balance_timer_not_armed", .owner⟩
  else if ¬zeroGrace ∧ decideGrace graceDays lowBalanceAt pass.now ≠ .actionable then
    ⟨.waiting, "deactivation_grace_not_elapsed", .owner⟩
  else match pass.facts.windowBlockReason.filter (· ≠ "") with
  | some reason => ⟨.deferred, reason, .window⟩
  | none =>
    if pass.facts.dedicatedBundle then ⟨.shielded, "dedicated_bundle", .owner⟩
    else if pass.facts.shielded then
      ⟨.shielded, pass.facts.shieldReason.getD "", .shield⟩
    else ⟨.suspend, "low_balance_deactivation_due", .owner⟩

/-- The rows of the decision table for accounts that are enforced by their funding. -/
def fundingItem (funding : PrepaidFundingDecision) (graceDays : ℕ) : PrepaidEnforcementPlanItem :=
  let timers := db.timers pass.accountId
  let locks := activePrepaidLockCount db pass.accountId
  if funding.unresolvedProjectionSubscriptionIds ≠ [] then
    ⟨.coverageUnresolved, "prepaid_coverage_evidence_requires_reconciliation", .coverage⟩
  else if funding.unresolvedRenewalSubscriptionIds ≠ [] then
    ⟨.renewalTermsUnresolved, "contracted_prepaid_renewal_terms_unavailable", .renewal⟩
  else if funding.funded then
    if timers.armed ∨ 0 < locks then ⟨.restore, "funding_threshold_reached", .owner⟩
    else ⟨.ok, "funded_and_aligned", .owner⟩
  else if 0 < locks ∧ 0 < activeSubscriptionCount db pass.accountId then
    ⟨.stateDrift, "active_subscription_has_prepaid_lock", .owner⟩
  else if 0 < locks ∧ timers.deactivationAt = none then
    ⟨.stateDrift, "prepaid_lock_missing_deactivation_marker", .owner⟩
  else if timers.deactivationAt ≠ none ∧ locks = 0 then
    ⟨.stateDrift, "deactivation_marker_missing_prepaid_lock", .owner⟩
  else if 0 < locks then ⟨.alreadySuspended, "prepaid_lock_and_deactivation_aligned", .owner⟩
  else lowBalanceItem db pass graceDays

/-- `plan_prepaid_account`, with the funding that it was decided by. -/
def planPrepaidAccount : Except SweepError (PrepaidEnforcementPlanItem × PrepaidFundingDecision) :=
  do
    let funding ← planFunding db pass
    let graceDays ← orRefuse pass.graceDays .gracePolicy
    return ((excludedItem db pass).getD (fundingItem db pass funding graceDays), funding)

/-- The facts of the account, as the owner of financial access resolves them. -/
def SweepPass.accountFacts (funding : PrepaidFundingDecision) : AccountFacts :=
  { pass.facts with profile := pass.profile db, funding }

def AccessDb.setTimers (accountId : ℕ) (timers : PrepaidTimers) : AccessDb :=
  { db with timers := Function.update db.timers accountId timers }

@[simp] lemma AccessDb.timers_setTimers {accountId : ℕ} {timers : PrepaidTimers} :
    (db.setTimers accountId timers).timers = Function.update db.timers accountId timers := rfl

/-- `clear_prepaid_enforcement_timers`. -/
def AccessDb.clearTimers (accountId : ℕ) : AccessDb := db.setTimers accountId ⟨none, none⟩

/-- `arm_prepaid_low_balance_timer`, unless it is armed. -/
def AccessDb.armLowBalance (accountId : ℕ) (armedAt : ℤ) : AccessDb :=
  db.setTimers accountId { db.timers accountId with
    lowBalanceAt := (db.timers accountId).lowBalanceAt.or (some armedAt) }

/-- `mark_prepaid_deactivated`, unless it is marked. -/
def AccessDb.markDeactivated (accountId : ℕ) (deactivatedAt : ℤ) : AccessDb :=
  db.setTimers accountId { db.timers accountId with
    deactivationAt := (db.timers accountId).deactivationAt.or (some deactivatedAt) }

/-- `_restore_prepaid_if_funded`, with the number of services that it restored. -/
def restorePrepaidIfFunded (funding : PrepaidFundingDecision) :
    Except SweepError (AccessDb × ℕ) :=
  if !funding.funded ∧ funding.coveredSubscriptionIds = [] then return (db, 0)
  else do
    let (restored, result) ← (restoreAccountServicesDetailed db (pass.accountFacts db funding)
      pass.accountId pass.now .prepaidEnforcement none "payment"
      ("prepaid_balance_sweep:" ++ toString pass.accountId)).mapError .access
    return (restored, result.elim 0 (·.consequence.subscriptionsChanged))

def reconcileFunded (funding : PrepaidFundingDecision) : Except SweepError (AccessDb × String) := do
  let hadTimers := (db.timers pass.accountId).armed
  let (restored, count) ← restorePrepaidIfFunded db pass funding
  let cleared := if hadTimers then restored.clearTimers pass.accountId else restored
  return (cleared, if hadTimers ∨ count ≠ 0 then "restored" else "ok")

/-- `_reconcile_stale_prepaid_locks`. -/
def reconcileStaleLocks (funding : PrepaidFundingDecision) :
    Except SweepError (AccessDb × String) := do
  let (repaired, result) ← (reconcileStalePrepaidLocks db (pass.accountFacts db funding)
    pass.accountId pass.now
    ("prepaid_balance_sweep:stale_lock:" ++ toString pass.accountId)).mapError .access
  return (repaired, if result.consequence.enforcementLockIds ≠ [] ∨
    result.preview.toDecision.clearPrepaidTimers then "restored" else "state_drift")

/-- What a pass that arms the timer is called. -/
def PrepaidNoticeOutcome.armed : PrepaidNoticeOutcome → String
  | .queued => "warned"
  | .noContactRoute => "no_contact_route"
  | _ => "delivery_unavailable"

/-- `_reconcile_low`, from where the account is warned on. -/
def suspendLow (funding : PrepaidFundingDecision) (result : String) :
    Except SweepError (AccessDb × String) := do
  let (suspended, confirmed) ← (suspendAccount db (pass.accountFacts db funding) pass.accountId
    pass.now .prepaid "prepaid_balance_sweep").mapError .access
  if confirmed.consequence.enforcementLockIds = [] then return (suspended, result)
  else return (suspended.markDeactivated pass.accountId pass.now, "suspended")

def reconcileLow (funding : PrepaidFundingDecision) (suspendNow : Bool) :
    Except SweepError (AccessDb × String) :=
  let timers := db.timers pass.accountId
  let marked := timers.deactivationAt.isSome
  match timers.lowBalanceAt with
  | some _ => if marked then return (db, "ok") else suspendLow db pass funding "ok"
  | none =>
    let armed := db.armLowBalance pass.accountId pass.now
    if suspendNow then
      if marked then return (armed, "ok") else suspendLow armed pass funding "ok"
    else if pass.noticeOutcome = .policySuppressed then return (db, "notice_suppressed")
    else return (armed, pass.noticeOutcome.armed)

/-- The branches of `_process_account`. -/
def carryOut (funding : PrepaidFundingDecision) :
    PrepaidEnforcementAction → Except SweepError (AccessDb × String)
  | .billingProfileInvalid => return (db, "billing_profile_invalid")
  | .clearStaleTimers => return (db.clearTimers pass.accountId, "restored")
  | .repairStaleLocks => reconcileStaleLocks db pass funding
  | .restore => reconcileFunded db pass funding
  | .coverageUnresolved => return (db, "coverage_unresolved")
  | .renewalTermsUnresolved => return (db, "renewal_terms_unresolved")
  | .deferred => return (db, "deferred")
  | .shielded => return (db, "shielded")
  | .stateDrift => return (db, "state_drift")
  | .warn => reconcileLow db pass funding false
  | .suspend => reconcileLow db pass funding true
  | _ => return (db, "ok")

/-- A pass of the sweep over one account. -/
def processAccount : Except SweepError (AccessDb × String) := do
  let _ ← orRefuse (db.lifecycle.subscribers.get? pass.accountId) .accountNotFound
  let (item, funding) ← planPrepaidAccount db pass
  carryOut db pass funding item.action

end DotmacSub.FinancialAccess
