import DotmacSub.Collections.AccessAgreement
import DotmacSub.Collections.PrepaidEnforcement
import DotmacSub.Lifecycle.Holding

/-!
# Prepaid enforcement, service by service

Coverage and locks are those of services; the plan of a pass is made from the numbers of locks and
of active services of the account.  Once a lock or the deactivation marker is there, an account
without funds is left as it is, whichever of its services are covered or due by then.
-/

namespace DotmacSub.FinancialAccess

open Store Checked Lifecycle Run

/-- A pass of the sweep over an account, or the restoration that follows a renewal.  What the owners
of billing say may be another thing each time: payments come in, coverage lapses, time passes. -/
inductive PrepaidCommand
  | sweep (pass : SweepPass)
  | renewal (facts : AccountFacts) (accountId : ℕ) (now : ℤ) (resolvedBy : String)

def prepaidStep (db : AccessDb) : PrepaidCommand → Except SweepError AccessDb
  | .sweep pass => Prod.fst <$> processAccount db pass
  | .renewal facts accountId now resolvedBy => Prod.fst <$> (restoreAccountServicesDetailed db facts
      accountId now .prepaidEnforcement none "payment" resolvedBy).mapError .access

/-- A pass inside the window over an unshielded account whose coverage and renewal terms are
resolved. -/
structure Enforceable (db : AccessDb) (pass : SweepPass) (funding : PrepaidFundingDecision) :
    Prop where
  required : pass.fundingRequired db = true
  resolved : resolvePrepaidFunding db pass.accountId pass.sources = .ok funding
  coverage : funding.unresolvedProjectionSubscriptionIds = []
  renewal : funding.unresolvedRenewalSubscriptionIds = []
  window : pass.facts.windowBlockReason.filter (· ≠ "") = none
  unbundled : pass.facts.dedicatedBundle = false
  unshielded : pass.facts.shielded = false

def PastGrace (db : AccessDb) (pass : SweepPass) : Prop :=
  ∃ graceDays ∈ pass.graceDays, graceDays = 0 ∨
    decideGrace graceDays (db.timers pass.accountId).lowBalanceAt pass.now = .actionable

/-- **Enforcement decides service by service**: after the pass no covered service carries a prepaid
lock, and every uncovered due one of an unfunded account past its grace does. -/
def DecidedByService (db db' : AccessDb) (pass : SweepPass) : Prop :=
  ∀ funding, Enforceable db pass funding →
    (∀ id ∈ funding.coveredSubscriptionIds, ¬Held db'.lifecycle id .prepaid) ∧
      (funding.funded = false → PastGrace db pass →
        ∀ id ∈ funding.actionableUncoveredSubscriptionIds, Held db'.lifecycle id .prepaid)

def SweepPass.decision (db : AccessDb) (pass : SweepPass) (funding : PrepaidFundingDecision) :
    Decision :=
  decideConsequence db (pass.accountFacts db funding) pass.accountId .suspend .prepaid
    .prepaidEnforcement none none

def SweepPass.suspendKey (db : AccessDb) (pass : SweepPass) (funding : PrepaidFundingDecision) :
    AccessKey :=
  .financialSuspend pass.accountId .prepaid (pass.decision db funding)

/-- The condition on a pass over an unfunded account: with the deactivation marker no covered
service has a prepaid lock and, past the grace, all due ones have one already; without it the
suspension is not recorded already. -/
def Aligned (db : AccessDb) : PrepaidCommand → Prop
  | .sweep pass => ∀ funding, Enforceable db pass funding → funding.funded = false →
      if (db.timers pass.accountId).deactivationAt = none then
        PastGrace db pass → (pass.decision db funding).eligible = true →
          Unrecorded db (pass.suspendKey db funding)
      else
        (∀ id ∈ funding.coveredSubscriptionIds, ¬Held db.lifecycle id .prepaid) ∧
          (PastGrace db pass → ∀ id ∈ funding.actionableUncoveredSubscriptionIds,
            Held db.lifecycle id .prepaid)
  | .renewal .. => True

section Confirmations

variable {db db' : AccessDb} {facts : AccountFacts} {accountId : ℕ} {now : ℤ}
  {action : FinancialAccessAction} {reason r : EnforcementReason} {origin : FinancialAccessOrigin}
  {fingerprint : Decision} {key : AccessKey} {source : String} {dunningCaseId : Option ℕ}
  {overdueDays : Option ℤ} {result : ConsequenceResult} {overdueTrigger resolvedBy : String}
  {accessMode : AccessRestrictionMode} {j : ℕ}

/-- **The loop over the targets** holds them, and whom the locks of before hold. -/
lemma suspendTargets_held_iff {targets : List ℕ} {progress progress' : SuspendProgress}
    (h : targets.foldlM (suspendTarget now reason source accessMode) progress = .ok progress') :
    SameServices progress.lifecycle progress'.lifecycle ∧
      (Held progress'.lifecycle j r ↔
        Held progress.lifecycle j r ∨ j ∈ targets ∧ r = reason) := by
  induction targets generalizing progress with
  | nil =>
    obtain rfl := foldlM_nil_eq_ok.mp h
    exact ⟨.refl, by simp⟩
  | cons id targets ih =>
    obtain ⟨turned, hturn, h⟩ := foldlM_cons_eq_ok.mp h
    obtain ⟨suspended, hsuspended, hturn⟩ := bind_eq_ok.mp hturn
    obtain rfl := pure_eq_ok.mp hturn
    have hsuspended := mapError_eq_ok.mp hsuspended
    obtain ⟨hservices, hlater⟩ := ih h
    refine ⟨(suspendSubscription_sameServices hsuspended).trans hservices, ?_⟩
    rw [hlater, suspendSubscription_held_iff hsuspended, List.mem_cons, or_assoc, ← or_and_right]

lemma suspendTargets_lockIds {targets : List ℕ} {progress progress' : SuspendProgress}
    (h : targets.foldlM (suspendTarget now reason source accessMode) progress = .ok progress') :
    progress.lockIds <+: progress'.lockIds ∧ (targets ≠ [] → progress'.lockIds ≠ []) := by
  induction targets generalizing progress with
  | nil =>
    obtain rfl := foldlM_nil_eq_ok.mp h
    exact ⟨List.prefix_rfl, fun hne => absurd rfl hne⟩
  | cons id targets ih =>
    obtain ⟨turned, hturn, h⟩ := foldlM_cons_eq_ok.mp h
    obtain ⟨suspended, hsuspended, hturn⟩ := bind_eq_ok.mp hturn
    obtain rfl := pure_eq_ok.mp hturn
    obtain ⟨hgrown, -⟩ := ih h
    refine ⟨(List.prefix_append _ _).trans hgrown, fun _ hnil => ?_⟩
    -- the target is held after its turn, so that its lock is found
    obtain ⟨lock, hlock, hreason⟩ :=
      (suspendSubscription_held (mapError_eq_ok.mp hsuspended)).1
    rw [hnil, List.prefix_nil, List.append_eq_nil_iff, List.map_eq_nil_iff,
      Option.toList_eq_nil_iff, List.find?_eq_none] at hgrown
    exact hgrown.2 lock hlock (decide_eq_true hreason)

/-- **Who is held after a confirmed suspension.** -/
lemma Confirmed.held_iff (h : Confirmed db facts accountId now .suspend reason origin fingerprint
    key source dunningCaseId overdueDays db' result) :
    SameServices db.lifecycle db'.lifecycle ∧
      (Held db'.lifecycle j r ↔ Held db.lifecycle j r ∨
        fingerprint.eligible = true ∧ j ∈ fingerprint.targetSubscriptionIds ∧ r = reason) := by
  have haction : fingerprint.action = .suspend := by
    rw [h.decision]
    exact action_decideConsequence
  obtain ⟨heffected, -, -⟩ := h.effected
  cases heffected with
  | refused heligible hlifecycle =>
    rw [hlifecycle, heligible]
    exact ⟨.refl, by simp⟩
  | throttled _ hthrottle => cases haction.symm.trans hthrottle
  | suspended _ _ heligible _ hloop hlifecycle =>
    rw [hlifecycle, heligible]
    obtain ⟨hservices, hheld⟩ := suspendTargets_held_iff hloop
    exact ⟨hservices, hheld.trans (by simp)⟩

lemma Confirmed.lockIds_ne_nil (h : Confirmed db facts accountId now .suspend reason origin
    fingerprint key source dunningCaseId overdueDays db' result)
    (heligible : fingerprint.eligible = true) (htargets : fingerprint.targetSubscriptionIds ≠ []) :
    result.consequence.enforcementLockIds ≠ [] := by
  have haction : fingerprint.action = .suspend := by
    rw [h.decision]
    exact action_decideConsequence
  obtain ⟨heffected, -, -⟩ := h.effected
  cases heffected with
  | refused hrefused => exact absurd (hrefused.symm.trans heligible) Bool.false_ne_true
  | throttled _ hthrottle => cases haction.symm.trans hthrottle
  | suspended _ _ _ _ hloop _ _ hlocks =>
    rw [hlocks]
    exact (suspendTargets_lockIds hloop).2 htargets

lemma restoreLock_fewer {progress progress' : RestoreProgress} {lockId : ℕ}
    (h : restoreLock now overdueTrigger resolvedBy progress lockId = .ok progress') :
    SameServices progress.lifecycle progress'.lifecycle ∧
      Fewer progress.lifecycle progress'.lifecycle := by
  obtain ⟨lock, -, h⟩ := bind_eq_ok.mp h
  obtain ⟨subscription, -, h⟩ := bind_eq_ok.mp h
  dsimp only at h
  split_ifs at h
  · obtain ⟨⟨restored, outcome⟩, hrestored, h⟩ := bind_eq_ok.mp h
    obtain ⟨-, h⟩ := ensure_bind_eq_ok.mp h
    obtain rfl := pure_eq_ok.mp h
    have hrestored := mapError_eq_ok.mp hrestored
    exact ⟨restoreSubscriptionDetailed_sameServices hrestored,
      restoreSubscriptionDetailed_fewer hrestored⟩
  · obtain ⟨⟨resolved, count⟩, hresolved, h⟩ := bind_eq_ok.mp h
    obtain ⟨-, h⟩ := ensure_bind_eq_ok.mp h
    obtain ⟨-, h⟩ := ensure_bind_eq_ok.mp h
    obtain rfl := pure_eq_ok.mp h
    have hresolved := mapError_eq_ok.mp hresolved
    exact ⟨resolveStaleLockWithoutRestoration_sameServices hresolved,
      resolveStaleLockWithoutRestoration_fewer hresolved⟩

lemma restoreLocks_fewer {lockIds : List ℕ} {progress progress' : RestoreProgress}
    (h : lockIds.foldlM (restoreLock now overdueTrigger resolvedBy) progress = .ok progress') :
    SameServices progress.lifecycle progress'.lifecycle ∧
      Fewer progress.lifecycle progress'.lifecycle := by
  induction lockIds generalizing progress with
  | nil =>
    obtain rfl := foldlM_nil_eq_ok.mp h
    exact ⟨.refl, .refl⟩
  | cons lockId lockIds ih =>
    obtain ⟨turned, hturn, h⟩ := foldlM_cons_eq_ok.mp h
    obtain ⟨hservices, hfewer⟩ := restoreLock_fewer hturn
    obtain ⟨hservices', hfewer'⟩ := ih h
    exact ⟨hservices.trans hservices', hfewer.trans hfewer'⟩

lemma RestorationConfirmed.fewer (h : RestorationConfirmed db facts accountId now origin fingerprint
    key overdueTrigger resolvedBy db' result) :
    SameServices db.lifecycle db'.lifecycle ∧ Fewer db.lifecycle db'.lifecycle := by
  obtain ⟨⟨⟨progress, hloop, hlifecycle⟩, -, -, -, -⟩, -⟩ := h.effected
  rw [hlifecycle]
  exact restoreLocks_fewer hloop

lemma RestorationConfirmed.released (h : RestorationConfirmed db facts accountId now origin
    fingerprint key overdueTrigger resolvedBy db' result)
    (hall : ∀ lock ∈ db.lifecycle.activeLocks j, lock.reason = r →
      lock.id ∈ fingerprint.targetLockIds) : ¬Held db'.lifecycle j r := by
  rintro ⟨lock', hlock', hreason'⟩
  obtain ⟨hrow', hchecked⟩ := List.mem_filter.mp hlock'
  obtain ⟨hj', hactive'⟩ := of_decide_eq_true hchecked
  obtain ⟨lock, hrow, hlockId, hj, hreason, hactive⟩ := h.fewer.2 lock' hrow' hactive'
  obtain ⟨-, -, hsettled⟩ := h.locks
  have hlock : lock ∈ db.lifecycle.activeLocks j :=
    List.mem_filter.mpr ⟨hrow, decide_eq_true ⟨hj.trans hj', hactive⟩⟩
  obtain ⟨found, hfound, hinactive⟩ :=
    hsettled lock.id (hall lock hlock (hreason.trans hreason'))
  obtain rfl := Option.some.inj
    ((Table.get?_eq_some.mpr ⟨hrow', hlockId.symm⟩).symm.trans hfound)
  exact Bool.false_ne_true (hinactive.symm.trans hactive')

end Confirmations

/-- The locks that a recorded restoration was about are resolved. -/
def Lifted (db : AccessDb) : Prop :=
  ∀ record ∈ db.consequences.rows, ∀ lockId ∈ record.decision.targetLockIds,
    Settled db.lifecycle lockId

/-- Only accounts with the deactivation marker have services under a prepaid lock. -/
def Marked (db : AccessDb) : Prop :=
  ∀ accountId, (db.timers accountId).deactivationAt = none →
    ∀ id ∈ db.lifecycle.subscriptionIds accountId, ¬Held db.lifecycle id .prepaid

section Keeping

variable {db db' : AccessDb} {facts : AccountFacts} {accountId : ℕ} {now : ℤ}
  {origin : FinancialAccessOrigin} {key : AccessKey} {result : ConsequenceResult}
  {overdueTrigger resolvedBy : String} {id : ℕ} {reason : EnforcementReason}

lemma Lifted.settles (h : Lifted db) (hsettles : Settles db.lifecycle db'.lifecycle)
    (hrows : db'.consequences.rows = db.consequences.rows) : Lifted db' := by
  intro record hmem lockId hlockId
  rw [hrows] at hmem
  exact hsettles.settled (h record hmem lockId hlockId)

lemma Lifted.append {record : FinancialAccessConsequence} (h : Lifted db)
    (hsettles : Settles db.lifecycle db'.lifecycle)
    (hrows : db'.consequences.rows = db.consequences.rows ++ [record])
    (hrecord : ∀ lockId ∈ record.decision.targetLockIds, Settled db'.lifecycle lockId) :
    Lifted db' := by
  intro other hmem
  rw [hrows, List.mem_append, List.mem_singleton] at hmem
  obtain hmem | rfl := hmem
  · exact fun lockId hlockId => hsettles.settled (h other hmem lockId hlockId)
  · exact hrecord

lemma Confirmed.lifted {action : FinancialAccessAction} {dunningCaseId : Option ℕ}
    {overdueDays : Option ℤ} {fingerprint : Decision} {source : String}
    (h : Confirmed db facts accountId now action reason origin fingerprint key source dunningCaseId
      overdueDays db' result) (hlifted : Lifted db) : Lifted db' := by
  obtain ⟨hsettles, hrows, -⟩ := h.locks
  refine hlifted.append hsettles hrows fun lockId hlockId => ?_
  rw [h.recorded, h.decision, targetLockIds_decideConsequence] at hlockId
  exact absurd hlockId List.not_mem_nil

/-- **A restoration, replayed or not**, resolves what it is about and holds nothing more. -/
lemma confirmRestoration_lifted (hlifted : Lifted db)
    (h : confirmFinancialAccessRestoration db facts accountId now origin
      (decideRestoration db facts accountId origin) key overdueTrigger resolvedBy =
        .ok (db', result)) :
    Lifted db' ∧ SameServices db.lifecycle db'.lifecycle ∧ Fewer db.lifecycle db'.lifecycle ∧
      ((∀ lock ∈ db.lifecycle.activeLocks id, lock.reason = reason →
        lock.id ∈ (decideRestoration db facts accountId origin).targetLockIds) →
          ¬Held db'.lifecycle id reason) := by
  obtain ⟨_, -, ⟨rfl, hreplay⟩ | hconfirmed⟩ := confirmRestoration_cases h
  · refine ⟨hlifted, .refl, .refl, ?_⟩
    rintro hall ⟨lock, hlock, hreason⟩
    obtain ⟨hrow, hchecked⟩ := List.mem_filter.mp hlock
    have htarget := hall lock hlock hreason
    rw [← hreplay.decision] at htarget
    obtain ⟨found, hfound, hinactive⟩ := hlifted _ hreplay.recorded lock.id htarget
    obtain rfl := Option.mem_unique (Table.get?_eq_some.mpr ⟨hrow, rfl⟩) hfound
    exact Bool.false_ne_true (hinactive.symm.trans (of_decide_eq_true hchecked).2)
  · obtain ⟨hsettles, hrows, hsettled⟩ := hconfirmed.locks
    refine ⟨hlifted.append hsettles hrows fun lockId hlockId => ?_, hconfirmed.fewer.1,
      hconfirmed.fewer.2, hconfirmed.released⟩
    rw [hconfirmed.recorded] at hlockId
    exact hsettled lockId hlockId

lemma restorable_of_clears (hclears : clearsPrepaidTimers facts = true)
    (hid : id ∈ db.lifecycle.subscriptionIds accountId) {lock : EnforcementLock}
    (hlock : lock ∈ db.lifecycle.activeLocks id) (hreason : lock.reason = .prepaid) :
    lock ∈ restorablePrepaidLocks db facts accountId := by
  have hmem : lock ∈ (activeFinancialLocks db accountId).filter (·.reason = .prepaid) := by
    obtain ⟨hrow, hchecked⟩ := List.mem_filter.mp hlock
    obtain ⟨rfl, hactive⟩ := of_decide_eq_true hchecked
    exact List.mem_filter.mpr ⟨List.mem_filter.mpr
      ⟨hrow, decide_eq_true ⟨hid, .inr hreason, hactive⟩⟩, decide_eq_true hreason⟩
  unfold clearsPrepaidTimers at hclears
  unfold restorablePrepaidLocks
  dsimp only
  split_ifs with hnone hdangerous hfree
  · exact hmem
  · rw [Bool.not_eq_true'] at hdangerous
    simp only [hdangerous, Bool.false_and, Bool.or_false] at hclears
    exact absurd hclears hnone
  · exact hmem
  · rw [not_or, not_not, Bool.not_eq_true] at hfree
    simp only [hfree.1, hfree.2, ne_eq, not_true_eq_false, decide_false, Bool.or_self,
      Bool.and_false, Bool.or_false] at hclears
    exact absurd hclears hnone

lemma target_of_clears (hclears : (decideRestoration db facts accountId origin).clearPrepaidTimers =
    true) (hid : id ∈ db.lifecycle.subscriptionIds accountId) :
    ∀ lock ∈ db.lifecycle.activeLocks id, lock.reason = .prepaid →
      lock.id ∈ (decideRestoration db facts accountId origin).targetLockIds := by
  intro lock hlock hreason
  unfold decideRestoration at hclears ⊢
  split_ifs at hclears ⊢
  · cases hclears
  · cases hclears
  · exact List.mem_map_of_mem (List.mem_append_right _
      (restorable_of_clears hclears hid hlock hreason))

/-- **A restoration keeps the marker** of every account that has prepaid locks left. -/
lemma confirmRestoration_marked (hmarked : Marked db)
    (h : confirmFinancialAccessRestoration db facts accountId now origin
      (decideRestoration db facts accountId origin) key overdueTrigger resolvedBy =
        .ok (db', result)) : Marked db' := by
  obtain ⟨_, -, ⟨rfl, -⟩ | hconfirmed⟩ := confirmRestoration_cases h
  · exact hmarked
  intro other hnone id hid
  obtain ⟨hservices, hfewer⟩ := hconfirmed.fewer
  rw [hservices.mem_subscriptionIds] at hid
  have htimers := hconfirmed.effected.1.timers
  have hkept : (db.timers other).deactivationAt = none → ¬Held db'.lifecycle id .prepaid :=
    fun hbefore hheld => hmarked other hbefore id hid (hfewer.held hheld)
  split_ifs at htimers with hclears
  · by_cases hother : other = accountId
    · subst hother
      exact hconfirmed.released (target_of_clears hclears hid)
    · rw [htimers, Function.update_of_ne hother] at hnone
      exact hkept hnone
  · rw [htimers] at hnone
    exact hkept hnone

lemma Marked.setTimers {timers : PrepaidTimers} (h : Marked db)
    (hfree : timers.deactivationAt = none →
      ∀ id ∈ db.lifecycle.subscriptionIds accountId, ¬Held db.lifecycle id .prepaid) :
    Marked (db.setTimers accountId timers) := by
  intro other hnone
  by_cases hother : other = accountId
  · subst hother
    refine hfree ?_
    rwa [AccessDb.timers_setTimers, Function.update_self] at hnone
  · refine h other ?_
    rwa [AccessDb.timers_setTimers, Function.update_of_ne hother] at hnone

lemma activePrepaidLockCount_eq_zero : activePrepaidLockCount db accountId = 0 ↔
    ∀ id ∈ db.lifecycle.subscriptionIds accountId, ¬Held db.lifecycle id .prepaid := by
  rw [activePrepaidLockCount, List.length_eq_zero_iff, activeReasonLocks, List.filter_eq_nil_iff]
  simp only [decide_eq_true_eq]
  constructor
  · rintro hnone id hid ⟨lock, hlock, hreason⟩
    obtain ⟨hrow, hchecked⟩ := List.mem_filter.mp hlock
    obtain ⟨rfl, hactive⟩ := of_decide_eq_true hchecked
    exact hnone lock hrow ⟨hid, hreason, hactive⟩
  · rintro hfree lock hrow ⟨hid, hreason, hactive⟩
    exact hfree _ hid ⟨lock, List.mem_filter.mpr ⟨hrow, decide_eq_true ⟨rfl, hactive⟩⟩, hreason⟩

end Keeping

section Facts

variable {db : AccessDb} {pass : SweepPass} {funding : PrepaidFundingDecision} {id : ℕ}

lemma Enforceable.eq_of_planFunding {planned : PrepaidFundingDecision}
    (h : Enforceable db pass funding) (hplan : planFunding db pass = .ok planned) :
    planned = funding := by
  rw [planFunding, if_pos h.required, mapError_eq_ok] at hplan
  exact Except.ok.inj (hplan.symm.trans h.resolved)

lemma SweepPass.of_fundingRequired (h : pass.fundingRequired db = true) :
    pass.ineligible = false ∧ (pass.profile db).automationSafe = true ∧
      (pass.profile db).effectiveMode = some .prepaid ∧
        (pass.profile db).hasCollectibleSubscriptions = true := by
  simpa [SweepPass.fundingRequired, and_assoc] using h

lemma excludedItem_eq_none (h : pass.fundingRequired db = true) : excludedItem db pass = none := by
  obtain ⟨heligible, hsafe, hmode, hcollectible⟩ := SweepPass.of_fundingRequired h
  have hparts := heligible
  simp only [SweepPass.ineligible, Bool.or_eq_false_iff, decide_eq_false_iff_not] at hparts
  obtain ⟨⟨hcanceled, hactive⟩, henabled⟩ := hparts
  simp [excludedItem, heligible, hsafe, hmode, hcollectible, hcanceled, hactive, henabled]

lemma excludedItem_cases (h : pass.fundingRequired db = false) :
    ∃ item, excludedItem db pass = some item ∧ (item.action = .notApplicable ∨
      item.action = .billingProfileInvalid ∨ item.action = .repairStaleLocks ∨
        item.action = .clearStaleTimers ∧ activePrepaidLockCount db pass.accountId = 0) := by
  unfold excludedItem
  dsimp only
  split_ifs with hstale hcanceled hactive henabled hnone hlocks harmed hdangerous hmode hlocks harmed
  · exact ⟨_, rfl, .inr (.inr (.inr ⟨rfl, hstale.2.2⟩))⟩
  · exact ⟨_, rfl, .inl rfl⟩
  · exact ⟨_, rfl, .inl rfl⟩
  · exact ⟨_, rfl, .inl rfl⟩
  · exact ⟨_, rfl, .inr (.inr (.inl rfl))⟩
  · exact ⟨_, rfl, .inr (.inr (.inr ⟨rfl, Nat.eq_zero_of_not_pos hlocks⟩))⟩
  · exact ⟨_, rfl, .inl rfl⟩
  · exact ⟨_, rfl, .inr (.inl rfl)⟩
  · exact ⟨_, rfl, .inr (.inr (.inl rfl))⟩
  · exact ⟨_, rfl, .inr (.inr (.inr ⟨rfl, Nat.eq_zero_of_not_pos hlocks⟩))⟩
  · exact ⟨_, rfl, .inl rfl⟩
  · have hrequired : pass.fundingRequired db = true := by
      simp_all [SweepPass.fundingRequired, SweepPass.ineligible]
    exact absurd (h.symm.trans hrequired) Bool.false_ne_true

lemma covered_mem (h : resolvePrepaidFunding db pass.accountId pass.sources = .ok funding)
    (hid : id ∈ funding.coveredSubscriptionIds) :
    id ∈ prepaidSubscriptionIds db pass.accountId pass.sources := by
  simp only [resolvePrepaidFunding, bind_eq_ok, List.partition_eq_filter_filter] at h
  obtain ⟨_, -, requirement, -, h⟩ := h
  obtain rfl := pure_eq_ok.mp h
  exact (List.mem_filter.mp (List.mem_filter.mp (mem_sortedIds.mp hid)).1).1

lemma mem_subscriptionIds_of_prepaid {accountId : ℕ} {sources : FinancialSources}
    (hid : id ∈ prepaidSubscriptionIds db accountId sources) :
    id ∈ db.lifecycle.subscriptionIds accountId := by
  obtain ⟨subscription, hmem, rfl⟩ := List.mem_map.mp (List.mem_filter.mp hid).1
  obtain ⟨hrow, hchecked⟩ := List.mem_filter.mp hmem
  exact List.mem_map_of_mem
    (List.mem_filter.mpr ⟨hrow, decide_eq_true (of_decide_eq_true hchecked).1⟩)

/-- **The targets of a suspension** by a pass over an account without prepaid locks are its due
services. -/
lemma mem_suspensionTargets (hresolved : resolvePrepaidFunding db pass.accountId pass.sources =
      .ok funding)
    (hfree : ∀ id ∈ db.lifecycle.subscriptionIds pass.accountId, ¬Held db.lifecycle id .prepaid) :
    id ∈ suspensionTargets db (pass.accountFacts db funding) pass.accountId .prepaid ↔
      id ∈ funding.actionableUncoveredSubscriptionIds := by
  refine ⟨actionable_of_target, fun hid => ?_⟩
  have hprepaid := ((resolvePrepaidFunding_eq_ok hresolved).2 id hid).2
  have hlocks : activeReasonLocks db pass.accountId .prepaid = [] :=
    List.length_eq_zero_iff.mp (activePrepaidLockCount_eq_zero.mpr hfree)
  obtain ⟨subscription, hmem, rfl⟩ := List.mem_map.mp (List.mem_filter.mp hprepaid).1
  obtain ⟨hrow, hchecked⟩ := List.mem_filter.mp hmem
  obtain ⟨haccount, hstatus⟩ := of_decide_eq_true hchecked
  refine List.mem_map_of_mem (List.mem_filter.mpr ⟨hrow, decide_eq_true
    ⟨haccount, hstatus, ?_, .inr hid⟩⟩)
  rw [hlocks]
  exact List.not_mem_nil

/-- **The decision of a pass** that may suspend is eligible if a service is due. -/
lemma decision_eq (hfound : (db.lifecycle.subscribers.get? pass.accountId).isSome)
    (h : Enforceable db pass funding) (hunfunded : funding.funded = false) :
    ((pass.decision db funding).eligible = true ↔
        suspensionTargets db (pass.accountFacts db funding) pass.accountId .prepaid ≠ []) ∧
      ((pass.decision db funding).eligible = true →
        (pass.decision db funding).targetSubscriptionIds =
          suspensionTargets db (pass.accountFacts db funding) pass.accountId .prepaid) := by
  obtain ⟨heligible, hsafe, hmode, -⟩ := SweepPass.of_fundingRequired h.required
  simp only [SweepPass.ineligible, Bool.or_eq_false_iff, decide_eq_false_iff_not] at heligible
  have hfinancial : financialRefusal (pass.accountFacts db funding) .prepaid = none := by
    simp [financialRefusal, SweepPass.accountFacts, h.unbundled, hsafe, hmode, h.coverage,
      h.renewal, hunfunded]
  have hshield : ¬(pass.accountFacts db funding).shieldReason.any (· ≠ "") = true :=
    Bool.eq_false_iff.mp h.unshielded
  have hpolicy : policyRefusal (pass.accountFacts db funding) .prepaid none = none := by
    rw [policyRefusal, if_neg hshield]
    rfl
  constructor
  · have hmissing : ¬(db.lifecycle.subscribers.get? pass.accountId).isNone = true := by
      rw [Option.isNone_iff_eq_none, ← ne_eq, ← Option.isSome_iff_ne_none]
      exact hfound
    have hnone : (financialRefusal (pass.accountFacts db funding) .prepaid).or
        (policyRefusal (pass.accountFacts db funding) .prepaid none) = none := by
      rw [hfinancial, hpolicy]
      rfl
    unfold SweepPass.decision decideConsequence
    rw [if_neg hmissing, if_neg (show ¬(pass.accountFacts db funding).accountStatus =
      some .canceled from heligible.1.1)]
    dsimp only
    rw [if_pos hnone, decide_eq_true_eq, consequenceTargets, if_neg (by decide)]
    dsimp only
    split_ifs with htargets
    · exact iff_of_true rfl htargets
    all_goals exact iff_of_false not_false htargets
  · intro hready
    obtain ⟨inputs, hinputs, hchecked⟩ := eligible_of_decide hready
    rw [SweepPass.decision, Decision.targetSubscriptionIds, hinputs]
    exact hchecked.targets

lemma pastGrace_iff {graceDays : ℕ} (hgrace : pass.graceDays = some graceDays) :
    PastGrace db pass ↔ graceDays = 0 ∨
      decideGrace graceDays (db.timers pass.accountId).lowBalanceAt pass.now = .actionable := by
  unfold PastGrace
  rw [hgrace]
  simp

end Facts

section Passes

variable {db db' : AccessDb} {pass : SweepPass} {funding : PrepaidFundingDecision}
  {result outcome : String} {suspendNow : Bool}

def KeptByPasses (db : AccessDb) : Prop := Lifted db ∧ Marked db

lemma KeptByPasses.setTimers {timers : PrepaidTimers} {accountId : ℕ} (h : KeptByPasses db)
    (hfree : timers.deactivationAt = none →
      ∀ id ∈ db.lifecycle.subscriptionIds accountId, ¬Held db.lifecycle id .prepaid) :
    KeptByPasses (db.setTimers accountId timers) :=
  ⟨h.1.settles .refl rfl, h.2.setTimers hfree⟩

lemma restoreAccountServicesDetailed_found {facts : AccountFacts} {accountId : ℕ} {now : ℤ}
    {origin : FinancialAccessOrigin} {overdueTrigger resolvedBy : String}
    {answered : Option ConsequenceResult}
    (hfound : (db.lifecycle.subscribers.get? accountId).isSome)
    (h : restoreAccountServicesDetailed db facts accountId now origin none overdueTrigger
      resolvedBy = .ok (db', answered)) :
    ∃ key result, confirmFinancialAccessRestoration db facts accountId now origin
      (decideRestoration db facts accountId origin) key overdueTrigger resolvedBy =
        .ok (db', result) := by
  have hmissing : ¬(db.lifecycle.subscribers.get? accountId).isNone = true := by
    rw [Option.isNone_iff_eq_none, ← ne_eq, ← Option.isSome_iff_ne_none]
    exact hfound
  have hready : (previewFinancialAccessRestoration db facts accountId origin).outcome ≠
      "account_not_found" := by
    have hready : ∀ (p : Prop) [Decidable p],
        (if p then "no_change" else "restore_ready") ≠ "account_not_found" := by
      intro p _
      split_ifs <;> decide
    have hcanceled : "account_canceled" ≠ "account_not_found" := by decide
    unfold previewFinancialAccessRestoration decideRestoration Decision.preview
    rw [if_neg hmissing]
    dsimp only
    by_cases hstatus : facts.accountStatus = some .canceled
    · rw [if_pos hstatus]
      exact hcanceled
    · rw [if_neg hstatus]
      exact hready _
  unfold restoreAccountServicesDetailed at h
  dsimp only at h
  rw [if_neg hready] at h
  obtain ⟨⟨_, confirmed⟩, hconfirm, h⟩ := bind_eq_ok.mp h
  obtain ⟨rfl, -⟩ := mk_eq_ok.mp h
  exact ⟨_, confirmed, hconfirm⟩

lemma restoreAccountServices_kept {facts : AccountFacts} {accountId : ℕ} {now : ℤ}
    {origin : FinancialAccessOrigin} {overdueTrigger resolvedBy : String}
    {answered : Option ConsequenceResult} (hkept : KeptByPasses db)
    (h : restoreAccountServicesDetailed db facts accountId now origin none overdueTrigger
      resolvedBy = .ok (db', answered)) : KeptByPasses db' := by
  obtain ⟨rfl, -⟩ | ⟨_, _, -, -, hconfirm⟩ := restoreAccountServicesDetailed_cases h
  · exact hkept
  · exact ⟨(@confirmRestoration_lifted _ _ _ _ _ _ _ _ _ _ 0 .prepaid hkept.1 hconfirm).1,
      confirmRestoration_marked hkept.2 hconfirm⟩

/-- **A pass over a funded account** frees its services of prepaid locks. -/
lemma reconcileFunded_spec (hfound : (db.lifecycle.subscribers.get? pass.accountId).isSome)
    (hrequired : pass.fundingRequired db = true) (hfunded : funding.funded = true)
    (hkept : KeptByPasses db) (h : reconcileFunded db pass funding = .ok (db', outcome)) :
    KeptByPasses db' ∧ ∀ id ∈ db.lifecycle.subscriptionIds pass.accountId,
      ¬Held db'.lifecycle id .prepaid := by
  obtain ⟨⟨_, count⟩, hcounted, h⟩ := bind_eq_ok.mp h
  obtain ⟨rfl, -⟩ := mk_eq_ok.mp h
  rw [restorePrepaidIfFunded, if_neg (by simp [hfunded])] at hcounted
  obtain ⟨⟨restored, answered⟩, hanswer, hcounted⟩ := bind_eq_ok.mp hcounted
  obtain ⟨rfl, -⟩ := mk_eq_ok.mp hcounted
  have hrestored := mapError_eq_ok.mp hanswer
  have hafter := restoreAccountServices_kept hkept hrestored
  obtain ⟨key, confirmed, hconfirm⟩ := restoreAccountServicesDetailed_found hfound hrestored
  obtain ⟨heligible, hsafe, hmode, hcollectible⟩ := SweepPass.of_fundingRequired hrequired
  have hclears : clearsPrepaidTimers (pass.accountFacts db funding) = true := by
    simp [clearsPrepaidTimers, SweepPass.accountFacts, hsafe, hfunded]
  have hfree : ∀ id ∈ db.lifecycle.subscriptionIds pass.accountId,
      ¬Held restored.lifecycle id .prepaid := by
    intro id hid
    obtain ⟨-, -, -, hreleased⟩ := @confirmRestoration_lifted _ _ _ _ _ _ _ _ _ _ id .prepaid
      hkept.1 hconfirm
    refine hreleased (target_of_clears ?_ hid)
    have hmissing : ¬(db.lifecycle.subscribers.get? pass.accountId).isNone = true := by
      rw [Option.isNone_iff_eq_none, ← ne_eq, ← Option.isSome_iff_ne_none]
      exact hfound
    simp only [SweepPass.ineligible, Bool.or_eq_false_iff, decide_eq_false_iff_not] at heligible
    unfold decideRestoration
    rw [if_neg hmissing]
    dsimp only
    rw [if_neg (show ¬(pass.accountFacts db funding).accountStatus = some .canceled from
      heligible.1.1)]
    exact hclears
  obtain ⟨-, hservices, -⟩ := @confirmRestoration_lifted _ _ _ _ _ _ _ _ _ _ 0 .prepaid hkept.1
    hconfirm
  split_ifs
  · exact ⟨hafter.setTimers fun _ id hid => hfree id (hservices.mem_subscriptionIds.mp hid), hfree⟩
  · exact ⟨hafter, hfree⟩

/-- What the suspension of an unfunded account without prepaid locks leaves: its due services are
held, unless it is answered from a record. -/
structure SuspendedDue (db suspended : AccessDb) (pass : SweepPass)
    (funding : PrepaidFundingDecision) (lockIds : List ℕ) : Prop where
  lifted : Lifted suspended
  services : SameServices db.lifecycle suspended.lifecycle
  timers : suspended.timers = db.timers
  held : ∀ id, Held suspended.lifecycle id .prepaid ↔ Held db.lifecycle id .prepaid ∨
    Unrecorded db (pass.suspendKey db funding) ∧ id ∈ funding.actionableUncoveredSubscriptionIds
  reported : ∀ id, Unrecorded db (pass.suspendKey db funding) →
    id ∈ funding.actionableUncoveredSubscriptionIds → lockIds ≠ []

lemma suspendAccount_spec (hfound : (db.lifecycle.subscribers.get? pass.accountId).isSome)
    (henforceable : Enforceable db pass funding) (hunfunded : funding.funded = false)
    (hfree : ∀ id ∈ db.lifecycle.subscriptionIds pass.accountId, ¬Held db.lifecycle id .prepaid)
    (hlifted : Lifted db) {suspended : AccessDb} {confirmed : ConsequenceResult}
    (h : suspendAccount db (pass.accountFacts db funding) pass.accountId pass.now .prepaid
      "prepaid_balance_sweep" = .ok (suspended, confirmed)) :
    SuspendedDue db suspended pass funding confirmed.consequence.enforcementLockIds := by
  unfold suspendAccount at h
  dsimp only [previewFinancialAccessConsequence, Decision.preview] at h
  rw [if_pos rfl] at h
  change confirmFinancialAccessConsequence db _ _ _ _ _ _ (pass.decision db funding)
    (pass.suspendKey db funding) _ _ _ = _ at h
  obtain ⟨used, hused, ⟨rfl, hreplay⟩ | hconfirmed⟩ := confirmConsequence_cases h
  · obtain rfl : pass.suspendKey suspended funding = used := Except.ok.inj hused
    have hrecorded : ¬Unrecorded suspended (pass.suspendKey suspended funding) := fun hfresh =>
      hfresh _ hreplay.recorded hreplay.idempotencyKey
    exact ⟨hlifted, .refl, rfl, fun id => by simp [hrecorded],
      fun _ hfresh => absurd hfresh hrecorded⟩
  · obtain rfl : pass.suspendKey db funding = used := Except.ok.inj hused
    obtain ⟨hready, htargets⟩ := decision_eq hfound henforceable hunfunded
    have hdue : ∀ {id}, id ∈ suspensionTargets db (pass.accountFacts db funding) pass.accountId
        .prepaid ↔ id ∈ funding.actionableUncoveredSubscriptionIds :=
      mem_suspensionTargets henforceable.resolved hfree
    have heligible : ∀ {id}, id ∈ funding.actionableUncoveredSubscriptionIds →
        (pass.decision db funding).eligible = true := fun hid =>
      hready.mpr (List.ne_nil_of_mem (hdue.mpr hid))
    have hfresh : Unrecorded db (pass.suspendKey db funding) := hconfirmed.unrecorded
    refine ⟨hconfirmed.lifted hlifted, (hconfirmed.held_iff (j := 0) (r := .prepaid)).1,
      hconfirmed.effected.2.1.timers, fun id => ?_, fun id _ hid => ?_⟩
    · rw [hconfirmed.held_iff.2]
      refine or_congr_right ⟨fun ⟨heligible, htarget, _⟩ => ?_, fun ⟨_, hid⟩ => ?_⟩
      · rw [htargets heligible] at htarget
        exact ⟨hfresh, hdue.mp htarget⟩
      · refine ⟨heligible hid, ?_, rfl⟩
        rw [htargets (heligible hid)]
        exact hdue.mpr hid
    · refine hconfirmed.lockIds_ne_nil (heligible hid) ?_
      rw [htargets (heligible hid)]
      exact List.ne_nil_of_mem (hdue.mpr hid)

/-- **A pass that suspends** an unfunded account holds its due services, unless it is answered from
a record. -/
lemma suspendLow_spec (hfound : (db.lifecycle.subscribers.get? pass.accountId).isSome)
    (henforceable : Enforceable db pass funding) (hunfunded : funding.funded = false)
    (hnone : (db.timers pass.accountId).deactivationAt = none) (hkept : KeptByPasses db)
    (h : suspendLow db pass funding result = .ok (db', outcome)) :
    KeptByPasses db' ∧
      ((∀ id ∈ funding.coveredSubscriptionIds, ¬Held db'.lifecycle id .prepaid) ∧
        (∀ id ∈ funding.actionableUncoveredSubscriptionIds, Held db'.lifecycle id .prepaid) ↔
          ((pass.decision db funding).eligible = true →
            Unrecorded db (pass.suspendKey db funding))) := by
  have hfree := hkept.2 _ hnone
  obtain ⟨hcoverage, hactionable⟩ := resolvePrepaidFunding_eq_ok henforceable.resolved
  have hmine : ∀ id ∈ funding.actionableUncoveredSubscriptionIds,
      id ∈ db.lifecycle.subscriptionIds pass.accountId := fun id hid =>
    mem_subscriptionIds_of_prepaid (hactionable id hid).2
  have hready : (pass.decision db funding).eligible = true ↔
      ∃ id, id ∈ funding.actionableUncoveredSubscriptionIds := by
    rw [(decision_eq hfound henforceable hunfunded).1]
    exact ⟨fun h => (List.exists_mem_of_ne_nil _ h).imp fun _ => actionable_of_target,
      fun ⟨_, hid⟩ => List.ne_nil_of_mem
        ((mem_suspensionTargets henforceable.resolved hfree).mpr hid)⟩
  obtain ⟨⟨suspended, confirmed⟩, hsuspend, h⟩ := bind_eq_ok.mp h
  have hspec := suspendAccount_spec hfound henforceable hunfunded hfree hkept.1
    (mapError_eq_ok.mp hsuspend)
  have hlifecycle : db'.lifecycle = suspended.lifecycle := by
    dsimp only at h
    split_ifs at h <;> obtain ⟨rfl, -⟩ := mk_eq_ok.mp h <;> rfl
  -- other accounts keep what they have, and this one has its marker if a service is held
  have hothers : ∀ other, (suspended.timers other).deactivationAt = none →
      ∀ id ∈ suspended.lifecycle.subscriptionIds other, Held suspended.lifecycle id .prepaid →
        other = pass.accountId ∧ confirmed.consequence.enforcementLockIds ≠ [] := by
    intro other hother id hid hheld
    rw [hspec.services.mem_subscriptionIds] at hid
    rw [hspec.timers] at hother
    obtain hbefore | ⟨hfresh, hdue⟩ := (hspec.held id).mp hheld
    · exact absurd hbefore (hkept.2 other hother id hid)
    · refine ⟨?_, hspec.reported id hfresh hdue⟩
      have hthis := mem_subscriptionIds_iff.mp (hmine id hdue)
      exact Option.mem_unique (mem_subscriptionIds_iff.mp hid) hthis
  constructor
  · dsimp only at h
    split_ifs at h with hlocks
    · obtain ⟨rfl, -⟩ := mk_eq_ok.mp h
      exact ⟨hspec.lifted, fun other hother id hid hheld =>
        (hothers other hother id hid hheld).2 hlocks⟩
    · obtain ⟨rfl, -⟩ := mk_eq_ok.mp h
      refine ⟨hspec.lifted.settles .refl rfl, fun other hother id hid hheld => ?_⟩
      by_cases hthis : other = pass.accountId
      · subst hthis
        simp [AccessDb.markDeactivated] at hother
      · refine hthis (hothers other ?_ id hid hheld).1
        simpa [AccessDb.markDeactivated, Function.update_of_ne hthis] using hother
  · rw [hlifecycle, hready]
    constructor
    · rintro ⟨-, hall⟩ ⟨id, hid⟩
      obtain hbefore | ⟨hfresh, -⟩ := (hspec.held id).mp (hall id hid)
      · exact absurd hbefore (hfree id (hmine id hid))
      · exact hfresh
    · intro hfresh
      refine ⟨fun id hid hheld => ?_, fun id hid =>
        (hspec.held id).mpr (.inr ⟨hfresh ⟨id, hid⟩, hid⟩)⟩
      obtain hbefore | ⟨-, hdue⟩ := (hspec.held id).mp hheld
      · exact hfree id
          (mem_subscriptionIds_of_prepaid (covered_mem henforceable.resolved hid)) hbefore
      · have hcovered := hcoverage id hid
        rw [(hactionable id hdue).1] at hcovered
        cases hcovered

lemma decided_of_unenforceable (h : ∀ funding, ¬Enforceable db pass funding) :
    DecidedByService db db' pass ↔ Aligned db (.sweep pass) :=
  iff_of_true (fun funding henforceable => absurd henforceable (h funding))
    fun funding henforceable => absurd henforceable (h funding)

lemma decided_of_marker (hplan : planFunding db pass = .ok funding)
    (hunfunded : funding.funded = false)
    (hmarker : (db.timers pass.accountId).deactivationAt ≠ none) :
    DecidedByService db db pass ↔ Aligned db (.sweep pass) := by
  constructor
  · intro h other henforceable _
    rw [if_neg hmarker]
    exact ⟨(h other henforceable).1, (h other henforceable).2 ‹_›⟩
  · intro h other henforceable
    obtain rfl := henforceable.eq_of_planFunding hplan
    have haligned := h _ henforceable hunfunded
    rw [if_neg hmarker] at haligned
    exact ⟨haligned.1, fun _ => haligned.2⟩

lemma decided_of_grace (hnone : (db.timers pass.accountId).deactivationAt = none)
    (hkept : KeptByPasses db) (hlifecycle : db'.lifecycle = db.lifecycle)
    (hgrace : ¬PastGrace db pass) : DecidedByService db db' pass ↔ Aligned db (.sweep pass) := by
  refine iff_of_true (fun funding henforceable => ?_) fun funding _ _ => ?_
  · rw [hlifecycle]
    refine ⟨fun id hid => hkept.2 _ hnone id ?_, fun _ hpast => absurd hpast hgrace⟩
    exact mem_subscriptionIds_of_prepaid (covered_mem henforceable.resolved hid)
  · rw [if_pos hnone]
    exact fun hpast => absurd hpast hgrace

/-- **A pass over an unfunded account past its grace**: the timer may be armed first, which the
suspension does not read. -/
lemma reconcileLow_spec (hfound : (db.lifecycle.subscribers.get? pass.accountId).isSome)
    (henforceable : Enforceable db pass funding) (hunfunded : funding.funded = false)
    (hpast : PastGrace db pass) (hnone : (db.timers pass.accountId).deactivationAt = none)
    (hkept : KeptByPasses db) (h : reconcileLow db pass funding true = .ok (db', outcome)) :
    KeptByPasses db' ∧ (DecidedByService db db' pass ↔ Aligned db (.sweep pass)) := by
  have hspec : KeptByPasses db' ∧
      ((∀ id ∈ funding.coveredSubscriptionIds, ¬Held db'.lifecycle id .prepaid) ∧
        (∀ id ∈ funding.actionableUncoveredSubscriptionIds, Held db'.lifecycle id .prepaid) ↔
          ((pass.decision db funding).eligible = true →
            Unrecorded db (pass.suspendKey db funding))) := by
    unfold reconcileLow at h
    dsimp only at h
    rw [hnone] at h
    cases hlow : (db.timers pass.accountId).lowBalanceAt with
    | some armedAt =>
      rw [hlow] at h
      exact suspendLow_spec hfound henforceable hunfunded hnone hkept h
    | none =>
      rw [hlow] at h
      have harm : KeptByPasses (db.armLowBalance pass.accountId pass.now) :=
        hkept.setTimers fun _ => hkept.2 _ hnone
      have henforceable' : Enforceable (db.armLowBalance pass.accountId pass.now) pass funding :=
        ⟨henforceable.required, henforceable.resolved, henforceable.coverage, henforceable.renewal,
          henforceable.window, henforceable.unbundled, henforceable.unshielded⟩
      refine @suspendLow_spec (db.armLowBalance pass.accountId pass.now) _ _ _ _ _ hfound
        henforceable' hunfunded ?_ harm h
      simpa [AccessDb.armLowBalance] using hnone
  have hsame : ∀ other, Enforceable db pass other → other = funding := fun other hother =>
    Except.ok.inj (hother.resolved.symm.trans henforceable.resolved)
  refine ⟨hspec.1, fun hdecided other hother _ => ?_, fun haligned other hother => ?_⟩
  · obtain rfl := hsame other hother
    rw [if_pos hnone]
    exact fun _ => hspec.2.mp ⟨(hdecided _ hother).1, (hdecided _ hother).2 hunfunded hpast⟩
  · obtain rfl := hsame other hother
    have hready := haligned _ hother hunfunded
    rw [if_pos hnone] at hready
    obtain ⟨hcovered, hdue⟩ := hspec.2.mpr (hready hpast)
    exact ⟨hcovered, fun _ _ => hdue⟩

/-- **A pass over an unfunded account** without locks and marker. -/
lemma lowBalance_spec {graceDays : ℕ}
    (hfound : (db.lifecycle.subscribers.get? pass.accountId).isSome)
    (hrequired : pass.fundingRequired db = true)
    (hresolved : resolvePrepaidFunding db pass.accountId pass.sources = .ok funding)
    (hcoverage : funding.unresolvedProjectionSubscriptionIds = [])
    (hrenewal : funding.unresolvedRenewalSubscriptionIds = [])
    (hunfunded : funding.funded = false) (hgrace : pass.graceDays = some graceDays)
    (hnone : (db.timers pass.accountId).deactivationAt = none) (hkept : KeptByPasses db)
    (h : carryOut db pass funding (lowBalanceItem db pass graceDays).action = .ok (db', outcome)) :
    KeptByPasses db' ∧ (DecidedByService db db' pass ↔ Aligned db (.sweep pass)) := by
  unfold lowBalanceItem at h
  dsimp only at h
  by_cases hwarn : (db.timers pass.accountId).lowBalanceAt = none ∧ ¬graceDays = 0
  · -- the account is warned, and the timer armed unless the notice is suppressed
    have hpast : ¬PastGrace db pass := by
      rw [pastGrace_iff hgrace, hwarn.1]
      exact not_or.mpr ⟨hwarn.2, nofun⟩
    rw [if_pos hwarn] at h
    unfold carryOut reconcileLow at h
    dsimp only at h
    rw [hwarn.1] at h
    dsimp only at h
    rw [if_neg Bool.false_ne_true] at h
    split_ifs at h
    · obtain ⟨rfl, -⟩ := mk_eq_ok.mp h
      exact ⟨hkept, decided_of_grace hnone hkept rfl hpast⟩
    · obtain ⟨rfl, -⟩ := mk_eq_ok.mp h
      exact ⟨hkept.setTimers fun _ => hkept.2 _ hnone, decided_of_grace hnone hkept rfl hpast⟩
  rw [if_neg hwarn] at h
  by_cases hwait : ¬graceDays = 0 ∧
      decideGrace graceDays (db.timers pass.accountId).lowBalanceAt pass.now ≠ .actionable
  · rw [if_pos hwait] at h
    obtain ⟨rfl, -⟩ := mk_eq_ok.mp h
    refine ⟨hkept, decided_of_grace hnone hkept rfl ?_⟩
    rw [pastGrace_iff hgrace]
    exact not_or.mpr hwait
  rw [if_neg hwait] at h
  cases hwindow : pass.facts.windowBlockReason.filter (· ≠ "") with
  | some reason =>
    rw [hwindow] at h
    obtain ⟨rfl, -⟩ := mk_eq_ok.mp h
    refine ⟨hkept, decided_of_unenforceable fun other henforceable => ?_⟩
    exact absurd (hwindow.symm.trans henforceable.window) (Option.some_ne_none reason)
  | none =>
    rw [hwindow] at h
    dsimp only at h
    split_ifs at h with hbundle hshield
    · obtain ⟨rfl, -⟩ := mk_eq_ok.mp h
      refine ⟨hkept, decided_of_unenforceable fun other henforceable => ?_⟩
      exact Bool.false_ne_true (henforceable.unbundled.symm.trans hbundle)
    · obtain ⟨rfl, -⟩ := mk_eq_ok.mp h
      refine ⟨hkept, decided_of_unenforceable fun other henforceable => ?_⟩
      exact Bool.false_ne_true (henforceable.unshielded.symm.trans hshield)
    · refine reconcileLow_spec hfound ⟨hrequired, hresolved, hcoverage, hrenewal, hwindow,
        Bool.eq_false_iff.mpr hbundle, Bool.eq_false_iff.mpr hshield⟩ hunfunded ?_ hnone hkept h
      rw [pastGrace_iff hgrace]
      by_contra hnot
      exact hwait (not_or.mp hnot)

/-- **A pass over an account that is enforced by its funding.** -/
lemma fundingItem_spec {graceDays : ℕ}
    (hfound : (db.lifecycle.subscribers.get? pass.accountId).isSome)
    (hrequired : pass.fundingRequired db = true) (hplan : planFunding db pass = .ok funding)
    (hgrace : pass.graceDays = some graceDays) (hkept : KeptByPasses db)
    (h : carryOut db pass funding (fundingItem db pass funding graceDays).action =
      .ok (db', outcome)) :
    KeptByPasses db' ∧ (DecidedByService db db' pass ↔ Aligned db (.sweep pass)) := by
  have hresolved : resolvePrepaidFunding db pass.accountId pass.sources = .ok funding := by
    rwa [planFunding, if_pos hrequired, mapError_eq_ok] at hplan
  have hcount : (db.timers pass.accountId).deactivationAt = none →
      ¬0 < activePrepaidLockCount db pass.accountId := fun hnone hpos =>
    hpos.ne' (activePrepaidLockCount_eq_zero.mpr (hkept.2 _ hnone))
  -- where nothing happens to an account with the marker
  have hdrift : ∀ {text : String}, (Except.ok (db, text) : Except SweepError _) =
      .ok (db', outcome) → funding.funded = false →
        (db.timers pass.accountId).deactivationAt ≠ none →
          KeptByPasses db' ∧ (DecidedByService db db' pass ↔ Aligned db (.sweep pass)) := by
    intro text heq hunfunded hmarker
    obtain ⟨rfl, -⟩ := mk_eq_ok.mp heq
    exact ⟨hkept, decided_of_marker hplan hunfunded hmarker⟩
  -- where the services of a funded account are free
  have hfunds : funding.funded = true → (∀ id ∈ db.lifecycle.subscriptionIds pass.accountId,
      ¬Held db'.lifecycle id .prepaid) →
        (DecidedByService db db' pass ↔ Aligned db (.sweep pass)) := by
    intro hfunded hfree
    refine iff_of_true (fun other henforceable => ?_) fun other henforceable hunfunded => ?_
    · obtain rfl := henforceable.eq_of_planFunding hplan
      exact ⟨fun id hid => hfree id (mem_subscriptionIds_of_prepaid (covered_mem hresolved hid)),
        fun hunfunded => absurd (hunfunded.symm.trans hfunded) Bool.false_ne_true⟩
    · obtain rfl := henforceable.eq_of_planFunding hplan
      exact absurd (hunfunded.symm.trans hfunded) Bool.false_ne_true
  unfold fundingItem at h
  dsimp only at h
  by_cases hcoverage : funding.unresolvedProjectionSubscriptionIds ≠ []
  · rw [if_pos hcoverage] at h
    obtain ⟨rfl, -⟩ := mk_eq_ok.mp h
    refine ⟨hkept, decided_of_unenforceable fun other henforceable => hcoverage ?_⟩
    exact henforceable.eq_of_planFunding hplan ▸ henforceable.coverage
  rw [if_neg hcoverage] at h
  by_cases hrenewal : funding.unresolvedRenewalSubscriptionIds ≠ []
  · rw [if_pos hrenewal] at h
    obtain ⟨rfl, -⟩ := mk_eq_ok.mp h
    refine ⟨hkept, decided_of_unenforceable fun other henforceable => hrenewal ?_⟩
    exact henforceable.eq_of_planFunding hplan ▸ henforceable.renewal
  rw [if_neg hrenewal] at h
  by_cases hfunded : funding.funded = true
  · rw [if_pos hfunded] at h
    split_ifs at h with hrestore
    · obtain ⟨hafter, hfree⟩ := reconcileFunded_spec hfound hrequired hfunded hkept h
      exact ⟨hafter, hfunds hfunded hfree⟩
    · obtain ⟨rfl, -⟩ := mk_eq_ok.mp h
      exact ⟨hkept, hfunds hfunded (activePrepaidLockCount_eq_zero.mp
        (Nat.eq_zero_of_not_pos (not_or.mp hrestore).2))⟩
  have hunfunded := Bool.eq_false_iff.mpr hfunded
  rw [if_neg hfunded] at h
  by_cases hactive : 0 < activePrepaidLockCount db pass.accountId ∧
      0 < activeSubscriptionCount db pass.accountId
  · rw [if_pos hactive] at h
    exact hdrift h hunfunded fun hnone => hcount hnone hactive.1
  rw [if_neg hactive] at h
  by_cases hunmarked : 0 < activePrepaidLockCount db pass.accountId ∧
      (db.timers pass.accountId).deactivationAt = none
  · exact absurd hunmarked.1 (hcount hunmarked.2)
  rw [if_neg hunmarked] at h
  by_cases hmarker : (db.timers pass.accountId).deactivationAt ≠ none ∧
      activePrepaidLockCount db pass.accountId = 0
  · rw [if_pos hmarker] at h
    exact hdrift h hunfunded hmarker.1
  rw [if_neg hmarker] at h
  by_cases hlocks : 0 < activePrepaidLockCount db pass.accountId
  · rw [if_pos hlocks] at h
    exact hdrift h hunfunded fun hnone => hcount hnone hlocks
  rw [if_neg hlocks] at h
  have hnone : (db.timers pass.accountId).deactivationAt = none := by
    by_contra hsome
    exact hmarker ⟨hsome, Nat.eq_zero_of_not_pos hlocks⟩
  exact lowBalance_spec hfound hrequired hresolved (not_not.mp hcoverage) (not_not.mp hrenewal)
    hunfunded hgrace hnone hkept h

/-- **Step**: a pass keeps the marker and the resolved locks, and decides service by service exactly
if it is aligned. -/
theorem processAccount_spec (hkept : KeptByPasses db)
    (h : processAccount db pass = .ok (db', outcome)) :
    KeptByPasses db' ∧ (DecidedByService db db' pass ↔ Aligned db (.sweep pass)) := by
  obtain ⟨subscriber, hsubscriber, h⟩ := bind_eq_ok.mp h
  have hfound : (db.lifecycle.subscribers.get? pass.accountId).isSome = true :=
    Option.isSome_iff_exists.mpr ⟨subscriber, orRefuse_eq_ok.mp hsubscriber⟩
  obtain ⟨⟨item, funding⟩, hplan, h⟩ := bind_eq_ok.mp h
  obtain ⟨planned, hfunding, hplan⟩ := bind_eq_ok.mp hplan
  obtain ⟨graceDays, hgrace, hplan⟩ := bind_eq_ok.mp hplan
  obtain ⟨rfl, rfl⟩ := mk_eq_ok.mp hplan
  have hgrace := orRefuse_eq_ok.mp hgrace
  cases hrequired : pass.fundingRequired db with
  | true =>
    rw [excludedItem_eq_none hrequired] at h
    exact fundingItem_spec hfound hrequired hfunding hgrace hkept h
  | false =>
    refine ⟨?_, decided_of_unenforceable fun other henforceable =>
      Bool.false_ne_true (hrequired.symm.trans henforceable.required)⟩
    obtain ⟨item, hitem, haction⟩ := excludedItem_cases hrequired
    rw [hitem, Option.getD_some] at h
    dsimp only at h
    obtain haction | haction | haction | ⟨haction, hzero⟩ := haction
    · rw [haction] at h
      obtain ⟨rfl, -⟩ := mk_eq_ok.mp h
      exact hkept
    · rw [haction] at h
      obtain ⟨rfl, -⟩ := mk_eq_ok.mp h
      exact hkept
    · rw [haction] at h
      obtain ⟨⟨_, repaired⟩, hrepair, h⟩ := bind_eq_ok.mp h
      obtain ⟨rfl, -⟩ := mk_eq_ok.mp h
      have hconfirm := mapError_eq_ok.mp hrepair
      dsimp only [reconcileStalePrepaidLocks, previewFinancialAccessRestoration,
        Decision.preview] at hconfirm
      exact ⟨(@confirmRestoration_lifted _ _ _ _ _ _ _ _ _ _ 0 .prepaid hkept.1 hconfirm).1,
        confirmRestoration_marked hkept.2 hconfirm⟩
    · rw [haction] at h
      obtain ⟨rfl, -⟩ := mk_eq_ok.mp h
      exact hkept.setTimers fun _ => activePrepaidLockCount_eq_zero.mp hzero

lemma prepaidStep_kept {command : PrepaidCommand} (hkept : KeptByPasses db)
    (h : prepaidStep db command = .ok db') : KeptByPasses db' := by
  cases command with
  | sweep pass =>
    obtain ⟨⟨_, outcome⟩, hprocess, rfl⟩ := map_eq_ok.mp h
    exact (processAccount_spec hkept hprocess).1
  | renewal facts accountId now resolvedBy =>
    obtain ⟨⟨_, answered⟩, hrestored, rfl⟩ := map_eq_ok.mp h
    exact restoreAccountServices_kept hkept (mapError_eq_ok.mp hrestored)

end Passes

/-- The state that a history of access commands leaves, from one without records. -/
def afterHistory (base : AccessDb) (history : List AccessCommand) : AccessDb :=
  run accessStep { base with consequences := .empty } history

/-- **Prepaid enforcement decides service by service** in a history that starts without prepaid
locks exactly if every pass of it is aligned. -/
theorem decidedByService_iff_aligned (base : AccessDb) (history : List AccessCommand)
    (hfree : ∀ lock ∈ (afterHistory base history).lifecycle.locks.rows, lock.isActive = true →
      lock.reason ≠ .prepaid) (commands : List PrepaidCommand) :
    (∀ before pass after, commands = before ++ .sweep pass :: after → ∀ db' outcome,
      processAccount (run prepaidStep (afterHistory base history) before) pass =
        .ok (db', outcome) →
          DecidedByService (run prepaidStep (afterHistory base history) before) db' pass) ↔
      Guarded prepaidStep Aligned (afterHistory base history) commands := by
  have hstart : KeptByPasses (afterHistory base history) := by
    constructor
    · have hrecords : RecordedAll (afterHistory base history) := by
        refine invariant_run (fun db command db' hrecords hok => ?_) history ?_
        · obtain ⟨⟨_, answered⟩, hanswer, rfl⟩ := map_eq_ok.mp hok
          exact (answer_inForce hrecords hanswer).1
        · exact fun _ hmem => absurd hmem List.not_mem_nil
      exact fun record hmem => (hrecords record hmem).restored
    · rintro accountId - id - ⟨lock, hlock, hreason⟩
      obtain ⟨hrow, hchecked⟩ := List.mem_filter.mp hlock
      exact hfree lock hrow (of_decide_eq_true hchecked).2 hreason
  have hkept : ∀ before, KeptByPasses (run prepaidStep (afterHistory base history) before) :=
    fun before => invariant_run (fun _ _ _ => prepaidStep_kept) before hstart
  rw [guarded_iff_forall_split]
  constructor
  · rintro h before command after hsplit ⟨_, hok⟩
    cases command with
    | renewal => exact trivial
    | sweep pass =>
      obtain ⟨⟨db', outcome⟩, hprocess, -⟩ := map_eq_ok.mp hok
      exact (processAccount_spec (hkept before) hprocess).2.mp
        (h before pass after hsplit db' outcome hprocess)
  · intro h before pass after hsplit db' outcome hprocess
    exact (processAccount_spec (hkept before) hprocess).2.mpr
      (h before (.sweep pass) after hsplit ⟨db', map_eq_ok.mpr ⟨_, hprocess, rfl⟩⟩)

/-- A prepaid account with two active services. -/
def twoServices : AccessDb where
  __ := oneService none
  lifecycle := { LifecycleDb.single .active none .empty with
    subscriptions := ⟨[
      ⟨0, 0, .active, none, some .monthly, ⟨none, none, none⟩, none, none, none, none, 0⟩,
      ⟨1, 0, .active, none, some .monthly, ⟨none, none, none⟩, none, none, none, none, 0⟩],
      2, by decide, by decide⟩ }

/-- A pass without grace over the account, which has no money; the services from a number on are
covered. -/
def lapsedPass (now : ℤ) (coveredFrom : ℕ) : SweepPass where
  accountId := 0
  now
  accountIsActive := true
  billingEnabled := true
  graceDays := some 0
  noticeOutcome := .queued
  sources := { duePrepaid with
    coverage := fun id => if coveredFrom ≤ id then .covered else .uncoveredDue }
  facts := postpaidFacts []

/-- Both services lapse at once, and both are held. -/
theorem decidedByService_twoServices : ∃ db' outcome,
    processAccount (afterHistory twoServices []) (lapsedPass 1 2) = .ok (db', outcome) ∧
      DecidedByService (afterHistory twoServices []) db' (lapsedPass 1 2) := by
  obtain ⟨⟨db', outcome⟩, hprocess, -⟩ : ∃ processed,
      processAccount (afterHistory twoServices []) (lapsedPass 1 2) = .ok processed ∧
        processed.2 = "suspended" := by
    decide +kernel
  refine ⟨db', outcome, hprocess, ?_⟩
  have hnone : ((afterHistory twoServices []).timers (lapsedPass 1 2).accountId).deactivationAt =
      none := rfl
  have haligned : Guarded prepaidStep Aligned (afterHistory twoServices [])
      [.sweep (lapsedPass 1 2)] := by
    refine ⟨fun _ funding _ _ => ?_, trivial⟩
    rw [if_pos hnone]
    exact fun _ _ _ hmem => absurd hmem List.not_mem_nil
  exact (decidedByService_iff_aligned twoServices [] (fun _ hmem => absurd hmem List.not_mem_nil)
    [.sweep (lapsedPass 1 2)]).mpr haligned [] (lapsedPass 1 2) [] rfl db' outcome hprocess

/-- The first service lapses and is held; the second one lapses a day later and never is. -/
theorem second_lapse_not_held :
    let db := run prepaidStep (afterHistory twoServices []) [.sweep (lapsedPass 1 1)]
    ∃ db', processAccount db (lapsedPass 2 2) = .ok (db', "state_drift") ∧
      db'.lifecycle.activeLocks 1 = [] ∧ ¬DecidedByService db db' (lapsedPass 2 2) := by
  intro db
  obtain ⟨⟨db', outcome⟩, hprocess, rfl, hnone⟩ : ∃ processed,
      processAccount db (lapsedPass 2 2) = .ok processed ∧ processed.2 = "state_drift" ∧
        processed.1.lifecycle.activeLocks 1 = [] := by
    decide +kernel
  refine ⟨db', hprocess, hnone, fun hdecided => ?_⟩
  obtain ⟨funding, hresolved, hparts⟩ : ∃ funding,
      resolvePrepaidFunding db 0 (lapsedPass 2 2).sources = .ok funding ∧
        funding = ⟨0, 10000, "NGN", [], [], [0, 1], [], []⟩ := by
    decide +kernel
  subst hparts
  have henforceable : Enforceable db (lapsedPass 2 2) ⟨0, 10000, "NGN", [], [], [0, 1], [], []⟩ :=
    ⟨by decide +kernel, hresolved, rfl, rfl, rfl, rfl, rfl⟩
  obtain ⟨lock, hlock, -⟩ := (hdecided _ henforceable).2 (by decide +kernel)
    ⟨0, rfl, .inl rfl⟩ 1 (by decide)
  rw [hnone] at hlock
  exact absurd hlock List.not_mem_nil

end DotmacSub.FinancialAccess
