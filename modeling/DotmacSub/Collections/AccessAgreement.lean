import DotmacSub.Collections.AccessReplays
import DotmacSub.Collections.FinancialFacts

/-!
# Taking and giving access do not fight

With the financial facts held fixed, a restoration does not ask for the locks that a suspension has
just made, and a suspension does not ask for a service that a restoration has just released.
-/

namespace DotmacSub.FinancialAccess

open Store Checked Lifecycle
open PrepaidService (BillingMode)
open PrepaidCoverage (PrepaidCoverageStatus)

/-! ## The locks that a suspension makes -/

/-- Every lock of a state was there before, or is one that a suspension made. -/
def Grown (ids : List ℕ) (reason : EnforcementReason) (db db' : LifecycleDb) : Prop :=
  ∀ lock' ∈ db'.locks.rows, (∃ lock ∈ db.locks.rows, lock.id = lock'.id ∧
    lock.subscriptionId = lock'.subscriptionId ∧ lock.reason = lock'.reason) ∨
      lock'.subscriptionId ∈ ids ∧ lock'.reason = reason

section Growing

variable {db db' db'' : LifecycleDb} {call : Call} {ids : List ℕ} {id : ℕ}
  {reason : EnforcementReason} {source : String} {accessMode : AccessRestrictionMode}
  {notes : Option String} {now : ℤ}

lemma Grown.refl : Grown ids reason db db :=
  fun lock hmem => .inl ⟨lock, hmem, rfl, rfl, rfl⟩

lemma Grown.trans (h : Grown ids reason db db') (h' : Grown ids reason db' db'') :
    Grown ids reason db db'' := by
  intro lock'' hmem
  obtain ⟨lock', hmem', hlockId, hid, hreason⟩ | hnew := h' lock'' hmem
  · have hbefore := h lock' hmem'
    rwa [hlockId, hid, hreason] at hbefore
  · exact .inr hnew

lemma suspendSubscription_grown (hmem : id ∈ ids)
    (h : suspendSubscription db call id reason source accessMode notes = .ok db') :
    Grown ids reason db db' := by
  intro lock' hrow
  obtain ⟨existing, -, -, hlocks⟩ | hlocks := suspendSubscription_locks h
  · rw [hlocks] at hrow
    unfold upgradeLock at hrow
    split_ifs at hrow
    · obtain ⟨hrow, -⟩ | ⟨lock, hlock, -, rfl⟩ := (Table.mem_update
        (g := fun lock : EnforcementLock => { lock with accessMode := .hardReject })
        (h := fun _ => rfl)).mp hrow
      · exact .inl ⟨lock', hrow, rfl, rfl, rfl⟩
      · exact .inl ⟨lock, hlock, rfl, rfl, rfl⟩
    · exact .inl ⟨lock', hrow, rfl, rfl, rfl⟩
  · rw [hlocks] at hrow
    obtain hrow | rfl := (Table.mem_insert (h := fun _ => rfl)).mp hrow
    · exact .inl ⟨lock', hrow, rfl, rfl, rfl⟩
    · exact .inr ⟨hmem, rfl⟩

lemma suspendTargets_grown {targets : List ℕ} {progress progress' : SuspendProgress}
    (hmem : ∀ id ∈ targets, id ∈ ids)
    (h : targets.foldlM (suspendTarget now reason source accessMode) progress = .ok progress') :
    Grown ids reason progress.lifecycle progress'.lifecycle := by
  refine foldlM_keeps (p := fun progress' => Grown ids reason progress.lifecycle
    progress'.lifecycle) (fun s id hid t ht hgrown => hgrown.trans ?_) .refl h
  obtain ⟨suspended, hsuspended, hturn⟩ := bind_eq_ok.mp ht
  obtain rfl := pure_eq_ok.mp hturn
  exact suspendSubscription_grown (hmem id hid) (mapError_eq_ok.mp hsuspended)

end Growing

/-- Every lock is there as before, and is active if it was, unless it is of some subscriptions and
reasons. -/
def Shrunk (lifted : ℕ → EnforcementReason → Prop) (db db' : LifecycleDb) : Prop :=
  ∀ lockId lock, db.locks.get? lockId = some lock → ∃ lock', db'.locks.get? lockId = some lock' ∧
    lock'.subscriptionId = lock.subscriptionId ∧ lock'.reason = lock.reason ∧
      (lock.isActive = true → lock'.isActive = true ∨ lifted lock.subscriptionId lock.reason)

section Shrinking

variable {db db' db'' : LifecycleDb} {call : Call} {lifted : ℕ → EnforcementReason → Prop}
  {id : ℕ} {reason : EnforcementReason} {trigger resolvedBy overdueTrigger : String}
  {notes : Option String} {now : ℤ}

lemma Shrunk.refl : Shrunk lifted db db :=
  fun _ lock hget => ⟨lock, hget, rfl, rfl, .inl⟩

lemma Shrunk.trans (h : Shrunk lifted db db') (h' : Shrunk lifted db' db'') :
    Shrunk lifted db db'' := by
  intro lockId lock hget
  obtain ⟨lock', hget', hid, hreason, hkept⟩ := h lockId lock hget
  obtain ⟨lock'', hget'', hid', hreason', hkept'⟩ := h' lockId lock' hget'
  refine ⟨lock'', hget'', hid'.trans hid, hreason'.trans hreason, fun hactive => ?_⟩
  obtain hactive' | hlifted := hkept hactive
  · rw [hid, hreason] at hkept'
    exact hkept' hactive'
  · exact .inr hlifted

lemma shrunk_of_eq (h : db'.locks = db.locks) : Shrunk lifted db db' :=
  fun _ lock hget => ⟨lock, h ▸ hget, rfl, rfl, .inl⟩

lemma shrunk_resolveLocksForTrigger (hlifted : lifted id reason) :
    Shrunk lifted db
      (resolveLocksForTrigger db call id trigger resolvedBy (some reason) notes).1 := by
  intro lockId lock hget
  refine ⟨_, (Table.get?_map (h := fun lock => by split_ifs <;> rfl)).trans
    (congrArg _ hget), ?_⟩
  dsimp only
  split_ifs with hlifts
  · obtain ⟨rfl, -, hscope, -⟩ := of_decide_eq_true hlifts
    obtain rfl := hscope reason rfl
    exact ⟨rfl, rfl, fun _ => .inr hlifted⟩
  · exact ⟨rfl, rfl, .inl⟩

lemma restoreLock_shrunk {progress progress' : RestoreProgress} {lockId : ℕ}
    {lock : EnforcementLock} (hget : progress.lifecycle.locks.get? lockId = some lock)
    (hlifted : lifted lock.subscriptionId lock.reason)
    (h : restoreLock now overdueTrigger resolvedBy progress lockId = .ok progress') :
    Shrunk lifted progress.lifecycle progress'.lifecycle := by
  obtain ⟨found, hfound, h⟩ := bind_eq_ok.mp h
  obtain ⟨hfound, -⟩ := Option.filter_eq_some_iff.mp (orRefuse_eq_ok.mp hfound)
  obtain rfl := Option.mem_unique hget hfound
  obtain ⟨subscription, -, h⟩ := bind_eq_ok.mp h
  dsimp only at h
  split_ifs at h
  · obtain ⟨⟨restored, outcome⟩, hrestored, h⟩ := bind_eq_ok.mp h
    obtain ⟨-, h⟩ := ensure_bind_eq_ok.mp h
    obtain rfl := pure_eq_ok.mp h
    obtain hlocks | hlocks := restoreSubscriptionDetailed_locks (mapError_eq_ok.mp hrestored)
    · exact shrunk_of_eq hlocks
    · exact (shrunk_resolveLocksForTrigger hlifted).trans (shrunk_of_eq hlocks)
  · obtain ⟨⟨resolved, count⟩, hresolved, h⟩ := bind_eq_ok.mp h
    obtain ⟨-, h⟩ := ensure_bind_eq_ok.mp h
    obtain ⟨-, h⟩ := ensure_bind_eq_ok.mp h
    obtain rfl := pure_eq_ok.mp h
    have hlocks := resolveStaleLockWithoutRestoration_locks (mapError_eq_ok.mp hresolved)
    exact (shrunk_resolveLocksForTrigger hlifted).trans (shrunk_of_eq hlocks)

/-- **The loop over the locks** resolves locks of their subscriptions and reasons only. -/
lemma restoreLocks_shrunk {lockIds : List ℕ} {progress progress' : RestoreProgress}
    (hlifted : ∀ lockId ∈ lockIds, ∃ lock, progress.lifecycle.locks.get? lockId = some lock ∧
      lifted lock.subscriptionId lock.reason)
    (h : lockIds.foldlM (restoreLock now overdueTrigger resolvedBy) progress = .ok progress') :
    Shrunk lifted progress.lifecycle progress'.lifecycle := by
  induction lockIds generalizing progress with
  | nil =>
    obtain rfl := foldlM_nil_eq_ok.mp h
    exact .refl
  | cons lockId lockIds ih =>
    obtain ⟨turned, hturn, h⟩ := foldlM_cons_eq_ok.mp h
    rw [List.forall_mem_cons] at hlifted
    obtain ⟨⟨lock, hget, hfirst⟩, hlater⟩ := hlifted
    have hshrunk := restoreLock_shrunk hget hfirst hturn
    refine hshrunk.trans (ih (fun other hother => ?_) h)
    obtain ⟨before, hbefore, hmay⟩ := hlater other hother
    obtain ⟨after, hafter, hid, hreason, -⟩ := hshrunk other before hbefore
    exact ⟨after, hafter, hid ▸ hreason ▸ hmay⟩

end Shrinking

section Previews

variable {db : AccessDb} {facts : AccountFacts} {accountId id : ℕ} {action : FinancialAccessAction}
  {reason : EnforcementReason} {origin : FinancialAccessOrigin} {dunningCaseId : Option ℕ}
  {overdueDays : Option ℤ} {lockId : ℕ}

lemma consequenceTargets_sub :
    ∀ id ∈ (consequenceTargets db facts accountId action reason).2.1,
      id ∈ suspensionTargets db facts accountId reason := by
  intro id hid
  unfold consequenceTargets at hid
  by_cases hthrottle : action = .throttle
  · rw [if_pos hthrottle] at hid
    split at hid <;> exact absurd hid List.not_mem_nil
  · rw [if_neg hthrottle] at hid
    exact hid

/-- A consequence asks for services only if the money of the account does not exclude it. -/
lemma target_of_decide (h : id ∈ (decideConsequence db facts accountId action reason origin
    dunningCaseId overdueDays).targetSubscriptionIds) :
    financialRefusal facts reason = none ∧ id ∈ suspensionTargets db facts accountId reason := by
  unfold decideConsequence at h
  split_ifs at h
  · exact absurd h List.not_mem_nil
  · exact absurd h List.not_mem_nil
  · dsimp only [Decision.targetSubscriptionIds] at h
    split_ifs at h with hrefusal
    · exact ⟨(Option.or_eq_none_iff.mp hrefusal).1, consequenceTargets_sub id h⟩
    · exact absurd h List.not_mem_nil

/-- A restoration asks for financial locks that the facts let go. -/
lemma target_of_restoration
    (h : lockId ∈ (decideRestoration db facts accountId origin).targetLockIds) :
    ∃ lock ∈ restorableOverdueLocks db facts accountId ++ restorablePrepaidLocks db facts accountId,
      lock.id = lockId := by
  unfold decideRestoration at h
  split_ifs at h
  · exact absurd h List.not_mem_nil
  · exact absurd h List.not_mem_nil
  · exact List.mem_map.mp h

def LetsGo (facts : AccountFacts) (id : ℕ) (reason : EnforcementReason) : Prop :=
  reason = .overdue ∧ facts.receivables = [] ∨
    reason = .prepaid ∧ (facts.profile.hasCollectibleSubscriptions = false ∨
      facts.profile.automationSafe = true ∧ (facts.profile.effectiveMode ≠ some .prepaid ∨
        facts.funding.funded = true ∨ id ∈ facts.funding.coveredSubscriptionIds))

lemma letsGo_of_restorable {lock : EnforcementLock}
    (h : lock ∈ restorableOverdueLocks db facts accountId ++
      restorablePrepaidLocks db facts accountId) :
    lock ∈ db.lifecycle.locks.rows ∧ LetsGo facts lock.subscriptionId lock.reason := by
  have hrows : ∀ reason, lock ∈ (activeFinancialLocks db accountId).filter (·.reason = reason) →
      lock ∈ db.lifecycle.locks.rows ∧ lock.reason = reason := by
    intro reason hmem
    obtain ⟨hlock, hreason⟩ := List.mem_filter.mp hmem
    exact ⟨(List.mem_filter.mp hlock).1, of_decide_eq_true hreason⟩
  obtain h | h := List.mem_append.mp h
  · unfold restorableOverdueLocks at h
    split_ifs at h with hclear
    · obtain ⟨hrow, hreason⟩ := hrows _ h
      exact ⟨hrow, .inl ⟨hreason, hclear⟩⟩
    · exact absurd h List.not_mem_nil
  · unfold restorablePrepaidLocks at h
    dsimp only at h
    split_ifs at h with hnone hunsafe hfree
    · obtain ⟨hrow, hreason⟩ := hrows _ h
      exact ⟨hrow, .inr ⟨hreason, .inl (by simpa using hnone)⟩⟩
    · exact absurd h List.not_mem_nil
    · obtain ⟨hrow, hreason⟩ := hrows _ h
      exact ⟨hrow, .inr ⟨hreason, .inr ⟨by simpa using hunsafe, hfree.imp_right .inl⟩⟩⟩
    · obtain ⟨hlock, hcovered⟩ := List.mem_filter.mp h
      obtain ⟨hrow, hreason⟩ := hrows _ hlock
      exact ⟨hrow, .inr ⟨hreason, .inr ⟨by simpa using hunsafe,
        .inr (.inr (of_decide_eq_true hcovered))⟩⟩⟩

lemma actionable_of_target (h : id ∈ suspensionTargets db facts accountId .prepaid) :
    id ∈ facts.funding.actionableUncoveredSubscriptionIds := by
  obtain ⟨subscription, hmem, rfl⟩ := List.mem_map.mp h
  obtain ⟨-, -, -, hactionable⟩ := of_decide_eq_true (List.mem_filter.mp hmem).2
  exact hactionable.resolve_left fun hne => hne rfl

end Previews

variable {db db' : AccessDb} {facts facts' : AccountFacts} {accountId : ℕ}
  {sources : FinancialSources} {reason : EnforcementReason}

/-- The financial facts of an account are those that the owners of its state resolve; the funding
is resolved where it is asked for. -/
structure FinancialFactsOf (db : AccessDb) (accountId : ℕ) (sources : FinancialSources)
    (reason : EnforcementReason) (facts : AccountFacts) : Prop where
  profile : facts.profile = resolveBillingProfile db accountId sources
  funding : reason = .prepaid → facts.profile.automationSafe = true →
    facts.profile.effectiveMode = some .prepaid →
      resolvePrepaidFunding db accountId sources = .ok facts.funding

/-- The financial facts are held fixed; the others may change. -/
structure SameFinancialFacts (facts facts' : AccountFacts) : Prop where
  profile : facts'.profile = facts.profile
  receivables : facts'.receivables = facts.receivables
  funding : facts'.funding = facts.funding

/-- What the facts of an account say when they do not exclude a consequence. -/
structure Demands (facts : AccountFacts) (reason : EnforcementReason) : Prop where
  safe : facts.profile.automationSafe = true
  overdue : reason = .overdue → facts.receivables ≠ []
  mode : reason = .prepaid → facts.profile.effectiveMode = some .prepaid
  unfunded : reason = .prepaid → facts.funding.funded = false

lemma demands_of_financialRefusal (h : financialRefusal facts reason = none) :
    Demands facts reason := by
  unfold financialRefusal at h
  by_cases hbundle : facts.dedicatedBundle
  · rw [if_pos hbundle] at h
    cases h
  rw [if_neg hbundle] at h
  by_cases hunsafe : (!facts.profile.automationSafe) = true
  · rw [if_pos hunsafe] at h
    cases h
  rw [if_neg hunsafe] at h
  refine ⟨by simpa using hunsafe, ?_, ?_, ?_⟩
  · rintro rfl
    dsimp only at h
    split_ifs at h with _ hclear
    exact hclear
  · rintro rfl
    dsimp only at h
    split_ifs at h with hmode
    exact not_not.mp hmode
  · rintro rfl
    dsimp only at h
    split_ifs at h with _ _ _ hfunded
    exact Bool.eq_false_iff.mpr hfunded

lemma SameFinancialFacts.demands (h : SameFinancialFacts facts facts')
    (hdemands : Demands facts' reason) : Demands facts reason := by
  obtain ⟨hsafe, hoverdue, hmode, hunfunded⟩ := hdemands
  rw [h.profile] at hsafe hmode
  rw [h.receivables] at hoverdue
  rw [h.funding] at hunfunded
  exact ⟨hsafe, hoverdue, hmode, hunfunded⟩

lemma SameFinancialFacts.letsGo {id : ℕ} (h : SameFinancialFacts facts facts')
    (hfree : LetsGo facts' id reason) : LetsGo facts id reason := by
  unfold LetsGo at hfree ⊢
  rwa [h.profile, h.receivables, h.funding] at hfree

/-- **What the facts let go they do not ask for.** -/
lemma FinancialFactsOf.not_letsGo {id : ℕ} (h : FinancialFactsOf db accountId sources reason facts)
    (hdemands : Demands facts reason)
    (hactionable : reason = .prepaid → id ∈ facts.funding.actionableUncoveredSubscriptionIds) :
    ¬LetsGo facts id reason := by
  rintro (⟨rfl, hclear⟩ | ⟨rfl, hfree⟩)
  · exact hdemands.overdue rfl hclear
  · have hmode := hdemands.mode rfl
    obtain ⟨hcovered, hdue⟩ := resolvePrepaidFunding_eq_ok (h.funding rfl hdemands.safe hmode)
    obtain ⟨huncovered, hcollectible⟩ := hdue id (hactionable rfl)
    obtain hnone | ⟨-, hother | hfull | hcover⟩ := hfree
    · rw [prepaidSubscriptionIds_eq_nil (h.profile ▸ hnone)] at hcollectible
      exact absurd hcollectible List.not_mem_nil
    · exact hother hmode
    · exact Bool.false_ne_true ((hdemands.unfunded rfl).symm.trans hfull)
    · rw [hcovered id hcover] at huncovered
      cases huncovered

/-- A confirmed consequence makes locks of its reason on services that the facts ask for. -/
lemma Confirmed.grown {now : ℤ} {action : FinancialAccessAction} {origin : FinancialAccessOrigin}
    {fingerprint : Decision} {key : AccessKey} {source : String} {dunningCaseId : Option ℕ}
    {overdueDays : Option ℤ} {result : ConsequenceResult}
    (h : Confirmed db facts accountId now action reason origin fingerprint key source dunningCaseId
      overdueDays db' result) :
    Grown fingerprint.targetSubscriptionIds reason db.lifecycle db'.lifecycle := by
  obtain ⟨heffected, -, -⟩ := h.effected
  cases heffected with
  | refused _ hlifecycle => exact hlifecycle ▸ .refl
  | throttled _ _ hlifecycle => exact hlifecycle ▸ .refl
  | suspended _ _ _ _ hloop hlifecycle =>
    rw [hlifecycle]
    exact suspendTargets_grown (fun id hid => hid) hloop

lemma RestorationConfirmed.shrunk {now : ℤ} {origin : FinancialAccessOrigin}
    {fingerprint : Decision} {key : AccessKey} {overdueTrigger resolvedBy : String}
    {result : ConsequenceResult}
    (h : RestorationConfirmed db facts accountId now origin fingerprint key overdueTrigger
      resolvedBy db' result) : Shrunk (LetsGo facts) db.lifecycle db'.lifecycle := by
  obtain ⟨⟨⟨progress, hloop, hlifecycle⟩, -, -, -, -⟩, -⟩ := h.effected
  rw [hlifecycle]
  refine restoreLocks_shrunk (fun lockId hlockId => ?_) hloop
  have htarget : lockId ∈ (decideRestoration db facts accountId origin).targetLockIds :=
    h.decision ▸ hlockId
  obtain ⟨lock, hlock, rfl⟩ := target_of_restoration htarget
  obtain ⟨hrow, hfree⟩ := letsGo_of_restorable hlock
  exact ⟨lock, Table.get?_eq_some.mpr ⟨hrow, rfl⟩, hfree⟩

/-- **Suspending and restoring do not fight** while the financial facts are the same: the
restoration of the state that a suspension leaves asks for none of the locks that it made, and the
suspension of the state that a restoration leaves does not ask for a service for the reason of a
lock that it resolved. -/
theorem access_agreement (hfacts : FinancialFactsOf db accountId sources reason facts)
    (hsame : SameFinancialFacts facts facts') :
    (∀ now action origin fingerprint key source dunningCaseId overdueDays db' result,
      confirmFinancialAccessConsequence db facts accountId now action reason origin fingerprint key
        source dunningCaseId overdueDays = .ok (db', result) →
      ∀ lock ∈ db'.lifecycle.locks.rows, db.lifecycle.locks.get? lock.id = none → ∀ origin',
        lock.id ∉ (previewFinancialAccessRestoration db' facts' accountId origin').targetLockIds) ∧
    ∀ now origin fingerprint key overdueTrigger resolvedBy db' result,
      confirmFinancialAccessRestoration db facts accountId now origin fingerprint key overdueTrigger
        resolvedBy = .ok (db', result) →
      ∀ lock ∈ db.lifecycle.locks.rows, lock.isActive = true → lock.reason = reason →
        Settled db'.lifecycle lock.id → ∀ action origin' dunningCaseId overdueDays,
          lock.subscriptionId ∉ (previewFinancialAccessConsequence db' facts' accountId action
            reason origin' dunningCaseId overdueDays).targetSubscriptionIds := by
  constructor
  · intro now action origin fingerprint key source dunningCaseId overdueDays db' result hconfirm
      lock hrow hnew origin' htarget
    obtain ⟨_, -, ⟨rfl, -⟩ | hconfirmed⟩ := confirmConsequence_cases hconfirm
    · have hget : db'.lifecycle.locks.get? lock.id = some lock :=
        Table.get?_eq_some.mpr ⟨hrow, rfl⟩
      exact absurd (hnew.symm.trans hget) (Option.some_ne_none lock).symm
    obtain ⟨before, hbefore, hid, -⟩ | ⟨hasked, rfl⟩ := hconfirmed.grown lock hrow
    · have hget : db.lifecycle.locks.get? lock.id = some before :=
        Table.get?_eq_some.mpr ⟨hbefore, hid⟩
      exact absurd (hnew.symm.trans hget) (Option.some_ne_none before).symm
    rw [hconfirmed.decision] at hasked
    obtain ⟨hrefusal, hsuspend⟩ := target_of_decide hasked
    obtain ⟨other, hother, hsameId⟩ := target_of_restoration htarget
    obtain ⟨hrow', hfree⟩ := letsGo_of_restorable hother
    obtain rfl := Table.eq_of_id_eq hrow' hrow hsameId
    refine hfacts.not_letsGo (demands_of_financialRefusal hrefusal) (fun hprepaid => ?_)
      (hsame.letsGo hfree)
    exact actionable_of_target (hprepaid ▸ hsuspend)
  · intro now origin fingerprint key overdueTrigger resolvedBy db' result hconfirm lock hrow hactive
      hreason hsettled action origin' dunningCaseId overdueDays htarget
    have hget : db.lifecycle.locks.get? lock.id = some lock :=
      Table.get?_eq_some.mpr ⟨hrow, rfl⟩
    obtain ⟨after, hafter, hinactive⟩ := hsettled
    obtain ⟨hrefusal, hsuspend⟩ := target_of_decide htarget
    obtain ⟨_, -, ⟨rfl, -⟩ | hconfirmed⟩ := confirmRestoration_cases hconfirm
    · obtain rfl := Option.mem_unique hget hafter
      exact Bool.false_ne_true (hinactive.symm.trans hactive)
    obtain ⟨lock', hget', -, -, hkept⟩ := hconfirmed.shrunk lock.id lock hget
    obtain rfl := Option.mem_unique hget' hafter
    have hfree : LetsGo facts lock.subscriptionId reason := by
      obtain hstill | hfree := hkept hactive
      · exact absurd (hinactive.symm.trans hstill) Bool.false_ne_true
      · exact hreason ▸ hfree
    refine hfacts.not_letsGo (hsame.demands (demands_of_financialRefusal hrefusal))
      (fun hprepaid => ?_) hfree
    rw [← hsame.funding]
    exact actionable_of_target (hprepaid ▸ hsuspend)

def duePrepaid : FinancialSources where
  accountMode := some .prepaid
  billingMode := fun _ => some .prepaid
  minBalance := none
  defaultMinBalance := 0
  availableBalance := 0
  currency := "NGN"
  suppressCustomerBilling := fun _ => false
  coverage := fun _ => .uncoveredDue
  enforcementBlocked := fun _ => false
  monthlyCharge := fun _ => some ⟨5000, "NGN"⟩

def duePrepaidFacts : AccountFacts where
  __ := postpaidFacts []
  profile := resolveBillingProfile (oneService none) 0 duePrepaid
  funding := ⟨0, 5000, "NGN", [], [], [0], [], []⟩

/-- The suspension of the account, as it is previewed. -/
def suspendPrepaid : Except AccessError (AccessDb × ConsequenceResult) :=
  suspendAccount (oneService none) duePrepaidFacts 0 1 .prepaid "prepaid_enforcement"

/-- A due prepaid service is suspended, and a restoration does not ask for its lock. -/
theorem access_agreement_duePrepaid : ∃ suspended, suspendPrepaid = .ok suspended ∧
    suspended.1.lifecycle.locks.rows.map (·.id) = [0] ∧
      0 ∉ (previewFinancialAccessRestoration suspended.1 duePrepaidFacts 0
        .financialReconciliation).targetLockIds := by
  have hfacts : FinancialFactsOf (oneService none) 0 duePrepaid .prepaid duePrepaidFacts := by
    refine ⟨rfl, fun _ _ _ => ?_⟩
    obtain ⟨funding, hresolved, rfl⟩ : ∃ funding,
        resolvePrepaidFunding (oneService none) 0 duePrepaid = .ok funding ∧
          funding = duePrepaidFacts.funding := by
      decide +kernel
    exact hresolved
  obtain ⟨suspended, hsuspended, hlocks⟩ : ∃ suspended, suspendPrepaid = .ok suspended ∧
      suspended.1.lifecycle.locks.rows.map (·.id) = [0] := by
    decide +kernel
  refine ⟨suspended, hsuspended, hlocks, ?_⟩
  obtain ⟨lock, hlock, hid⟩ := List.mem_map.mp (hlocks ▸ List.mem_cons_self)
  have hkept := (access_agreement hfacts ⟨rfl, rfl, rfl⟩).1 _ _ _ _ _ _ _ _ _ _ hsuspended lock
    hlock (hid ▸ rfl) .financialReconciliation
  rwa [hid] at hkept

end DotmacSub.FinancialAccess
