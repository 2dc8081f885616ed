import DotmacSub.Lifecycle.Accounts

/-!
# Previews of lifecycle commands

`services/subscription_lifecycle.py` says of a command whether it is eligible and what the status of
the subscription would be.  It looks at the status, and for a restoration at the login and at
prepaid locks; the operations look at more.
-/

namespace DotmacSub.Lifecycle

open Store Checked
open ServiceExtensions (SubscriptionStatus)

/-- The immediate commands that change the status; the others are renewals, plan changes and
vacation holds. -/
inductive SubscriptionCommandKind
  | activate
  | suspend
  | disable
  | restore
  | cancel
  | expire
deriving DecidableEq

inductive EligibilityReason
  | statusNotEligible (status : SubscriptionStatus) (kind : SubscriptionCommandKind)
  | anotherActiveSubscriptionUsesLogin
  | prepaidFinancialReconciliationRequired
deriving DecidableEq

def restoreCandidate : List SubscriptionStatus := suspendedEquivalent ++ [.disabled]

def allowedStatuses : SubscriptionCommandKind → SubscriptionStatus → Bool
  | .activate, status => status = .pending
  | .suspend, status => status ∈ [.active, .pending, .blocked, .suspended, .stopped]
  | .disable, status => status ∉ terminal ∧ status ≠ .disabled
  | .restore, status => status ∈ restoreCandidate
  | .cancel, status => status ∉ terminal
  | .expire, status => status ∉ terminal

/-- Why a command may not be executed. -/
def eligibilityReasons (db : LifecycleDb) (subscription : Subscription)
    (kind : SubscriptionCommandKind) : List EligibilityReason :=
  (if allowedStatuses kind subscription.status then []
    else [.statusNotEligible subscription.status kind]) ++
  if kind = .restore then
    (if reactivationBlockedByActiveLogin db subscription then [.anotherActiveSubscriptionUsesLogin]
      else []) ++
    if ∃ lock ∈ db.activeLocks subscription.id, lock.reason = .prepaid then
      [.prepaidFinancialReconciliationRequired]
    else []
  else []

def SubscriptionCommandKind.target : SubscriptionCommandKind → SubscriptionStatus
  | .activate => .active
  | .suspend => .suspended
  | .disable => .disabled
  | .restore => .active
  | .cancel => .canceled
  | .expire => .expired

/-- The status a command would lead to. -/
def proposedStatus (current : SubscriptionStatus) (kind : SubscriptionCommandKind) :
    SubscriptionStatus :=
  if kind = .suspend ∧ current ∈ suspendedEquivalent then current else kind.target

/-- What a command runs once it is authorised. -/
def operation (db : LifecycleDb) (call : Call) (id : ℕ) (kind : SubscriptionCommandKind)
    (reason source : String) : Except LifecycleError LifecycleDb :=
  match kind with
  | .suspend => suspendSubscription db call id .admin source .hardReject (some reason)
  | kind => Prod.fst <$> transitionSubscriptionStatus db call id kind.target reason source

/-! ## What the operations need -/

variable {db db' : LifecycleDb} {call : Call} {id : ℕ} {subscription : Subscription}
  {reason : String} {evidenceRef : EvidenceRef}

def HasStatus (db : LifecycleDb) (id : ℕ) (status : SubscriptionStatus) : Prop :=
  ∃ row, db.subscriptions.get? id = some row ∧ row.status = status

lemma hasStatus_of_view {v : View} (h : db.view id = some v) : HasStatus db id v.status := by
  obtain ⟨row, hget, rfl⟩ := exists_of_view h
  exact ⟨row, hget, rfl⟩

def Approved (db : LifecycleDb) (subscriberId : ℕ) : Prop :=
  ∃ subscriber, db.subscribers.get? subscriberId = some subscriber ∧
    subscriber.billingEnabled = true

/-- The party of the account, if it has one, may become a subscriber. -/
def Eligible (subscriber : Subscriber) : Prop :=
  ∀ party ∈ subscriber.party, party.merged = false ∧
    ∀ status ∈ party.subscriberRole, status = .active ∨ status = .pending

def Prepared (db : LifecycleDb) (subscription : Subscription) : SubscriptionCommandKind → Prop
  | .activate => (∃ subscriber, db.subscribers.get? subscription.subscriberId = some subscriber ∧
      subscriber.billingEnabled = true ∧ Eligible subscriber) ∧
    ∀ order ∈ db.salesServiceOrders subscription.id, order.status = .active
  | .restore => Approved db subscription.subscriberId ∧
    (subscription.status = .disabled → db.activeLocks subscription.id = [])
  | .suspend | .disable | .cancel | .expire => True

/-- Evidence of a call without a context is always recorded. -/
lemma applyTransition_plain {toStatus : SubscriptionStatus} {effectiveAt : ℤ} {row : Subscription}
    (hrow : db.subscriptions.get? subscription.id = some row)
    (hne : subscription.status ≠ toStatus) :
    ∃ db', applyTransition db call.plain subscription toStatus reason effectiveAt = .ok db' ∧
      HasStatus db' subscription.id toStatus := by
  have hput := get?_put_self call.now { subscription with status := toStatus } hrow
  have hok : ∃ db', applyTransition db call.plain subscription toStatus reason effectiveAt =
      .ok db' := by
    simp only [applyTransition, recordLifecycleEvidence, Call.plain, Option.map_none,
      ensure_of hne, ok_bind]
    split
    case h_1 prior hprior =>
      have hsome := List.find?_some hprior
      simp at hsome
    case h_2 =>
      rw [findSubscription, hput, orRefuse_some, ok_bind, ensure_of rfl, ok_bind]
      exact ⟨_, rfl⟩
  obtain ⟨db', hok⟩ := hok
  obtain ⟨-, _, -, hview⟩ := applyTransition_eq_ok hok hrow
  exact ⟨db', hok, hasStatus_of_view hview⟩

lemma holdSubscription_plain (hrow : db.subscriptions.get? subscription.id = some subscription) :
    ∃ db', holdSubscription db call.plain subscription reason = .ok db' ∧
      HasStatus db' subscription.id (if subscription.status ∈ suspendedEquivalent then
        subscription.status else .suspended) := by
  unfold holdSubscription
  split_ifs with hheld
  · exact ⟨db, rfl, subscription, hrow, rfl⟩
  · refine applyTransition_plain hrow fun heq => hheld ?_
    rw [heq]
    decide

lemma suspendSubscription_plain {reason : EnforcementReason} {source : String}
    {accessMode : AccessRestrictionMode} {notes : Option String}
    (hget : db.subscriptions.get? id = some subscription)
    (hstatus : subscription.status ∈ suspendable ∨ subscription.status ∈ suspendedEquivalent) :
    ∃ db', suspendSubscription db call.plain id reason source accessMode notes = .ok db' ∧
      HasStatus db' id (if subscription.status ∈ suspendedEquivalent then
        subscription.status else .suspended) := by
  obtain rfl := id_of_get? hget
  simp only [suspendSubscription, findSubscription, hget, orRefuse_some, ok_bind,
    ensure_of hstatus]
  split
  · have hsame : ∀ lockId, (upgradeLock db lockId accessMode).subscriptions = db.subscriptions := by
      intro lockId
      unfold upgradeLock
      split_ifs <;> rfl
    refine holdSubscription_plain ?_
    rwa [hsame]
  · exact holdSubscription_plain hget

lemma stageSubscriptionBillingAnchor_ok {target : ℤ} {source : BillingAnchorProjectionSource}
    (href : ¬ evidenceRef.Blank)
    (hforward : ∀ current ∈ subscription.nextBillingAt, current ≤ target) :
    stageSubscriptionBillingAnchor subscription subscription.nextBillingAt target source
      evidenceRef = .ok { subscription with nextBillingAt := some target } := by
  rw [stageSubscriptionBillingAnchor, ensure_of href, ok_bind, ensure_of rfl, ok_bind,
    ensure_of (Or.inl hforward), ok_bind]
  rfl

lemma stageMissingActivationBillingAnchor_ok {baseAt : ℤ} {source : BillingAnchorProjectionSource}
    (href : ¬ evidenceRef.Blank) : ∃ staged,
      stageMissingActivationBillingAnchor subscription baseAt source evidenceRef = .ok staged := by
  unfold stageMissingActivationBillingAnchor
  split
  · exact ⟨subscription, rfl⟩
  case h_2 hnone =>
    have hstaged : stageSubscriptionBillingAnchor subscription subscription.nextBillingAt
        (computeNextBillingAt baseAt subscription.cycle) source evidenceRef = .ok _ :=
      stageSubscriptionBillingAnchor_ok href fun current hcurrent =>
        absurd (hnone.symm.trans hcurrent) (Option.some_ne_none current).symm
    rw [hnone] at hstaged
    exact ⟨_, hstaged⟩

lemma reactivate_plain {baseAt : ℤ}
    (hrow : db.subscriptions.get? subscription.id = some subscription) (href : ¬ evidenceRef.Blank)
    (hne : subscription.status ≠ .active) :
    ∃ db', reactivate db call.plain subscription baseAt evidenceRef reason = .ok db' ∧
      HasStatus db' subscription.id .active := by
  obtain ⟨staged, hstaged⟩ : ∃ staged, stageMissingActivationBillingAnchor
      { subscription with startAt := some (subscription.startAt.getD baseAt) } baseAt
      .lifecycleResume evidenceRef = .ok staged := stageMissingActivationBillingAnchor_ok href
  obtain ⟨anchor, rfl, -⟩ := stageMissingActivationBillingAnchor_eq_ok hstaged
  simp only [reactivate, hstaged, ok_bind]
  exact applyTransition_plain hrow hne

/-! ## Activation, restoration and resumption -/

lemma ensureSubscriberRole_ok {subscriber : Subscriber} {status : SubscriptionStatus}
    (heligible : Eligible subscriber) (hstatus : HasStatus db id status) :
    ∃ db', ensureSubscriberRole db subscriber = .ok db' ∧ HasStatus db' id status := by
  unfold ensureSubscriberRole
  split
  · exact ⟨db, rfl, hstatus⟩
  case h_2 party hparty =>
    obtain ⟨hmerged, hrole⟩ := heligible party hparty
    rw [ensureRole, ensure_of hmerged, ok_bind, ensure_of hrole, ok_bind]
    exact ⟨_, rfl, hstatus⟩

lemma activateSubscription_plain_iff (hget : db.subscriptions.get? id = some subscription)
    (hpending : subscription.status = .pending) :
    (∃ db', activateSubscription db call.plain id none = .ok db' ∧ HasStatus db' id .active) ↔
      Prepared db subscription .activate := by
  obtain rfl := id_of_get? hget
  constructor
  · rintro ⟨db', hok, -⟩
    simp only [activateSubscription, bind_eq_ok, ensure_eq_ok] at hok
    obtain ⟨found, hfound, -, -, subscriber, hsubscriber, -, hgate, _, -, activated, -, hrole⟩ :=
      hok
    obtain rfl := Option.mem_unique hget (findSubscription_eq_ok.mp hfound)
    obtain ⟨hfoundSubscriber, happroved⟩ := requireBillingApproval_eq_ok.mp hsubscriber
    refine ⟨⟨subscriber, hfoundSubscriber, happroved, fun party hparty => ?_⟩, hgate⟩
    have hsome : subscriber.party = some party := hparty
    simp only [ensureSubscriberRole, hsome, bind_eq_ok, ensureRole, ensure_eq_ok] at hrole
    obtain ⟨-, ⟨-, hmerged, -, hstatus, -⟩, -⟩ := hrole
    exact ⟨hmerged, hstatus⟩
  · rintro ⟨⟨subscriber, hsubscriber, happroved, heligible⟩, hgate⟩
    obtain ⟨staged, hstaged⟩ : ∃ staged, stageMissingActivationBillingAnchor
        { subscription with
          startAt := some (subscription.startAt.getD (none.getD call.plain.now)) }
        (subscription.startAt.getD (none.getD call.plain.now)) .lifecycleActivation
        (call.plain.evidenceRef (.activation subscription.id)) = .ok staged :=
      stageMissingActivationBillingAnchor_ok not_false
    obtain ⟨anchor, rfl, -⟩ := stageMissingActivationBillingAnchor_eq_ok hstaged
    have hne : subscription.status ≠ .active := by
      rw [hpending]
      decide
    obtain ⟨activated, hactivated, hactive⟩ : ∃ db', applyTransition db call.plain
        { subscription with
          startAt := some (subscription.startAt.getD (none.getD call.plain.now))
          nextBillingAt := some anchor } .active "Subscription activated" call.plain.effectiveAt =
        .ok db' ∧ HasStatus db' subscription.id .active := applyTransition_plain hget hne
    obtain ⟨db', hrole, hstatus⟩ := ensureSubscriberRole_ok heligible hactive
    refine ⟨db', ?_, hstatus⟩
    have happrovedSubscriber := requireBillingApproval_eq_ok.mpr ⟨hsubscriber, happroved⟩
    simp only [activateSubscription, findSubscription, hget, orRefuse_some, ok_bind,
      ensure_of hpending, happrovedSubscriber, ensure_of hgate, hstaged]
    rw [hactivated, ok_bind]
    exact hrole

lemma activeLocks_resolveForAdmin (call : Call) (resolvedBy : String) (notes : Option String)
    (hget : db.subscriptions.get? id = some subscription) :
    (resolveLocksForTrigger db call id "admin" resolvedBy none notes).1.activeLocks id = [] := by
  have hview : (resolveLocksForTrigger db call id "admin" resolvedBy none notes).1.view id = _ :=
    view_resolveLocksForTrigger (view_of_get? hget)
  obtain ⟨_, -, heq⟩ := exists_of_view hview
  refine activeLocks_eq_nil_iff.mpr ((congrArg View.locks heq).symm.trans ?_)
  refine List.filter_eq_nil_iff.mpr fun lock _ => ?_
  simp [Hold.liftable, admin_mem_allowedRestorers]

/-- An administrator's restoration of a held subscription needs its account. -/
lemma restoreSubscriptionDetailed_plain_iff {resolvedBy : String} {notes : Option String}
    (hget : db.subscriptions.get? id = some subscription)
    (hheld : subscription.status ∈ suspendedEquivalent)
    (hlogin : ¬ reactivationBlockedByActiveLogin db subscription) :
    (∃ db', Prod.fst <$>
      restoreSubscriptionDetailed db call.plain id "admin" resolvedBy none notes = .ok db' ∧
        HasStatus db' id .active) ↔ Approved db subscription.subscriberId := by
  obtain rfl := id_of_get? hget
  constructor
  · rintro ⟨db', hok, -⟩
    obtain ⟨_, hrestore, -⟩ := map_eq_ok.mp hok
    simp only [restoreSubscriptionDetailed, findSubscription, hget, orRefuse_some, ok_bind,
      if_neg (not_not.mpr hheld), bind_eq_ok] at hrestore
    obtain ⟨subscriber, hsubscriber, -⟩ := hrestore
    exact ⟨subscriber, requireBillingApproval_eq_ok.mp hsubscriber⟩
  · rintro ⟨subscriber, hsubscriber⟩
    have happroved := requireBillingApproval_eq_ok.mpr hsubscriber
    have hnone := activeLocks_resolveForAdmin call.plain resolvedBy notes hget
    have hsame : (resolveLocksForTrigger db call.plain subscription.id "admin" resolvedBy none
      notes).1.subscriptions = db.subscriptions := rfl
    have hclear : ¬ reactivationBlockedByActiveLogin (resolveLocksForTrigger db call.plain
      subscription.id "admin" resolvedBy none notes).1 subscription := hlogin
    have hne : subscription.status ≠ .active := by
      intro heq
      exact absurd (heq ▸ hheld) (by decide)
    simp only [restoreSubscriptionDetailed, findSubscription, hget, orRefuse_some, ok_bind,
      if_neg (not_not.mpr hheld), happroved]
    generalize resolveLocksForTrigger db call.plain subscription.id "admin" resolvedBy none notes =
      resolved at hnone hsame hclear
    rw [if_neg (not_not.mpr hnone), if_neg hclear]
    have hreactivate : ∀ reason, ∃ db', reactivate resolved.1 call.plain subscription
        call.plain.effectiveAt (call.plain.evidenceRef (.restore subscription.id resolvedBy
          call.plain.effectiveAt)) reason = .ok db' ∧ HasStatus db' subscription.id .active :=
      fun _ => reactivate_plain (hsame ▸ hget) not_false hne
    exact (hreactivate _).imp fun db' hrestored =>
      ⟨map_eq_ok.mpr ⟨_, bind_eq_ok.mpr ⟨db', hrestored.1, rfl⟩, rfl⟩, hrestored.2⟩

lemma enableSubscription_plain_iff (hget : db.subscriptions.get? id = some subscription)
    (hdisabled : subscription.status = .disabled)
    (hlogin : ¬ reactivationBlockedByActiveLogin db subscription) :
    (∃ db', Prod.fst <$> enableSubscription db call.plain id reason = .ok db' ∧
      HasStatus db' id .active) ↔
        Approved db subscription.subscriberId ∧ db.activeLocks subscription.id = [] := by
  obtain rfl := id_of_get? hget
  constructor
  · rintro ⟨db', hok, row, hrow, hactive⟩
    obtain ⟨⟨_, _⟩, henable, rfl⟩ := map_eq_ok.mp hok
    simp only [enableSubscription, findSubscription, hget, orRefuse_some, ok_bind,
      if_neg (not_not.mpr hdisabled), bind_eq_ok] at henable
    obtain ⟨subscriber, hsubscriber, henable⟩ := henable
    refine ⟨⟨subscriber, requireBillingApproval_eq_ok.mp hsubscriber⟩, ?_⟩
    by_contra hlocks
    rw [if_pos hlocks, bind_eq_ok] at henable
    obtain ⟨held, hheld, hpure⟩ := henable
    obtain ⟨rfl, -⟩ := mk_eq_ok.mp hpure
    obtain ⟨-, _, -, hview⟩ := applyTransition_eq_ok hheld hget
    obtain ⟨row', hrow', heq⟩ := hasStatus_of_view hview
    obtain rfl := Option.mem_unique hrow hrow'
    exact absurd (hactive.symm.trans heq) (by simp)
  · rintro ⟨⟨subscriber, hsubscriber⟩, hlocks⟩
    have happroved := requireBillingApproval_eq_ok.mpr hsubscriber
    have hne : subscription.status ≠ .active := by
      rw [hdisabled]
      decide
    simp only [enableSubscription, findSubscription, hget, orRefuse_some, ok_bind,
      if_neg (not_not.mpr hdisabled), happroved, if_neg (not_not.mpr hlocks), if_neg hlogin]
    have henable : ∀ anchor, ∃ db', applyTransition db call.plain { subscription with
        startAt := some (subscription.startAt.getD call.plain.now), nextBillingAt := some anchor }
        .active reason call.plain.effectiveAt = .ok db' ∧ HasStatus db' subscription.id .active :=
      fun _ => applyTransition_plain hget hne
    -- the anchor does not move back
    have href : ¬ (call.plain.evidenceRef (.resume subscription.id call.plain.now)).Blank :=
      not_false
    have hstaged : ∀ anchor, (∀ current ∈ subscription.nextBillingAt, current ≤ anchor) →
        stageSubscriptionBillingAnchor
          { subscription with startAt := some (subscription.startAt.getD call.plain.now) }
          subscription.nextBillingAt anchor .lifecycleResume
          (call.plain.evidenceRef (.resume subscription.id call.plain.now)) =
            .ok { subscription with
              startAt := some (subscription.startAt.getD call.plain.now)
              nextBillingAt := some anchor } := by
      intro anchor hforward
      exact stageSubscriptionBillingAnchor_ok href hforward
    cases hanchor : subscription.nextBillingAt with
    | none =>
      rw [hanchor] at hstaged
      have hfirst := hstaged (computeNextBillingAt call.plain.now subscription.cycle)
        fun current hcurrent => absurd hcurrent (Option.not_mem_none current)
      exact (henable _).imp fun db' henabled => ⟨map_eq_ok.mpr ⟨_, bind_eq_ok.mpr ⟨_, hfirst,
        bind_eq_ok.mpr ⟨db', henabled.1, rfl⟩⟩, rfl⟩, henabled.2⟩
    | some nextBillingAt =>
      rw [hanchor] at hstaged
      have hpaused : 0 ≤ db.pausedFor subscription call.plain.now := le_max_right _ _
      have hlater := hstaged (nextBillingAt + db.pausedFor subscription call.plain.now)
        fun current hcurrent => Option.some.inj hcurrent ▸ le_add_of_nonneg_right hpaused
      exact (henable _).imp fun db' henabled => ⟨map_eq_ok.mpr ⟨_, bind_eq_ok.mpr ⟨_, hlater,
        bind_eq_ok.mpr ⟨db', henabled.1, rfl⟩⟩, rfl⟩, henabled.2⟩

lemma expireSubscription_plain (hget : db.subscriptions.get? id = some subscription)
    (hopen : subscription.status ∉ terminal) :
    ∃ db', expireSubscription db call.plain id = .ok db' ∧ HasStatus db' id .expired := by
  obtain rfl := id_of_get? hget
  have hne : subscription.status ≠ .expired := fun heq => hopen (heq ▸ by decide)
  rw [expireSubscription, findSubscription, hget, orRefuse_some, ok_bind, ensure_of hopen, ok_bind]
  exact applyTransition_plain (show (resolveAllLocks db call.plain subscription.id
    "expired").subscriptions.get? subscription.id = some subscription from hget) hne

lemma disableSubscription_plain {preserveLocks : Bool}
    (hget : db.subscriptions.get? id = some subscription) (hopen : subscription.status ∉ terminal)
    (hne : subscription.status ≠ .disabled) :
    ∃ db', Prod.fst <$> disableSubscription db call.plain id reason preserveLocks = .ok db' ∧
      HasStatus db' id .disabled := by
  obtain rfl := id_of_get? hget
  rw [disableSubscription, findSubscription, hget, orRefuse_some, ok_bind, if_neg hne,
    ensure_of hopen, ok_bind]
  have hrow : (if preserveLocks then db else resolveAllLocks db call.plain subscription.id
      "disabled").subscriptions.get? subscription.id = some subscription := by
    cases preserveLocks <;> exact hget
  have hdisable : ∃ db', applyTransition (if preserveLocks then db else
      resolveAllLocks db call.plain subscription.id "disabled") call.plain subscription .disabled
      reason call.plain.effectiveAt = .ok db' ∧ HasStatus db' subscription.id .disabled :=
    applyTransition_plain hrow hne
  exact hdisable.imp fun db' hdisabled =>
    ⟨map_eq_ok.mpr ⟨_, bind_eq_ok.mpr ⟨db', hdisabled.1, rfl⟩, rfl⟩, hdisabled.2⟩

lemma cancelSubscription_plain {cancelReason : String} {generateCredit : Bool}
    (hget : db.subscriptions.get? id = some subscription) (hne : subscription.status ≠ .canceled) :
    ∃ db', cancelSubscription db call.plain id cancelReason generateCredit = .ok db' ∧
      HasStatus db' id .canceled := by
  obtain rfl := id_of_get? hget
  have hok : ∃ db', cancelSubscription db call.plain subscription.id cancelReason generateCredit =
      .ok db' := by
    rw [cancelSubscription, findSubscription, hget, orRefuse_some, ok_bind, ensure_of hne, ok_bind]
    have hcancel : ∃ db', applyTransition (endAddOns (resolveAllLocks db call.plain subscription.id
        "canceled") subscription.id call.plain.now) call.plain { subscription with
          canceledAt := some call.plain.now, cancelReason := some cancelReason } .canceled
        cancelReason call.plain.effectiveAt = .ok db' ∧ HasStatus db' subscription.id .canceled :=
      applyTransition_plain hget hne
    obtain ⟨db', hcanceled, -⟩ := hcancel
    exact ⟨_, bind_eq_ok.mpr ⟨db', hcanceled, rfl⟩⟩
  obtain ⟨db', hok⟩ := hok
  obtain ⟨-, _, hview⟩ := (cancelSubscription_eq_ok hok).2 _ (view_of_get? hget)
  exact ⟨db', hok, hasStatus_of_view hview⟩

lemma operation_active {reason source : String} {kind : SubscriptionCommandKind}
    (hkind : kind = .activate ∨ kind = .restore)
    (hget : db.subscriptions.get? id = some subscription) (hne : subscription.status ≠ .active)
    (hopen : subscription.status ∉ terminal) :
    operation db call id kind reason source =
      if subscription.status = .pending then activateSubscription db call id none
      else if subscription.status = .disabled then Prod.fst <$> enableSubscription db call id reason
      else if subscription.status ∈ suspendedEquivalent then
        Prod.fst <$> restoreSubscriptionDetailed db call id "admin" source none (some reason)
      else .error (.unsupportedTarget .active) := by
  have htransition : operation db call id kind reason source =
      Prod.fst <$> transitionSubscriptionStatus db call id .active reason source := by
    rcases hkind with rfl | rfl <;> rfl
  rw [htransition, transitionSubscriptionStatus, findSubscription, hget, orRefuse_some, ok_bind,
    if_neg hne, assertLegalSubscriptionTransition, ensure_of (Or.inr hopen), ok_bind]
  simp only
  split_ifs
  · cases activateSubscription db call id none <;> rfl
  · rfl
  · cases restoreSubscriptionDetailed db call id "admin" source none (some reason) <;> rfl
  · rfl

/-- The operations of a request for an end or a pause. -/
lemma operation_closing {reason source : String} (kind : SubscriptionCommandKind)
    (hget : db.subscriptions.get? id = some subscription)
    (hne : subscription.status ≠ kind.target) (hopen : subscription.status ∉ terminal) :
    (kind = .cancel → operation db call id kind reason source =
      cancelSubscription db call id reason true) ∧
    (kind = .expire → operation db call id kind reason source = expireSubscription db call id) ∧
    (kind = .disable → operation db call id kind reason source =
      Prod.fst <$> disableSubscription db call id reason false) := by
  refine ⟨?_, ?_, ?_⟩
  · rintro rfl
    simp only [operation, SubscriptionCommandKind.target] at hne ⊢
    rw [transitionSubscriptionStatus, findSubscription, hget, orRefuse_some, ok_bind, if_neg hne,
      assertLegalSubscriptionTransition, ensure_of (Or.inr hopen), ok_bind]
    cases cancelSubscription db call id reason true <;> rfl
  · rintro rfl
    simp only [operation, SubscriptionCommandKind.target] at hne ⊢
    rw [transitionSubscriptionStatus, findSubscription, hget, orRefuse_some, ok_bind, if_neg hne,
      assertLegalSubscriptionTransition, ensure_of (Or.inr hopen), ok_bind]
    cases expireSubscription db call id <;> rfl
  · rintro rfl
    simp only [operation, SubscriptionCommandKind.target] at hne ⊢
    rw [transitionSubscriptionStatus, findSubscription, hget, orRefuse_some, ok_bind, if_neg hne,
      assertLegalSubscriptionTransition, ensure_of (Or.inr hopen), ok_bind]

/-- What an eligible command was found to satisfy. -/
lemma of_eligibilityReasons_eq_nil {kind : SubscriptionCommandKind}
    (h : eligibilityReasons db subscription kind = []) :
    allowedStatuses kind subscription.status = true ∧
      (kind = .restore → ¬ reactivationBlockedByActiveLogin db subscription) := by
  rw [eligibilityReasons, List.append_eq_nil_iff] at h
  constructor
  · by_contra hnot
    rw [if_neg hnot] at h
    exact absurd h.1 (List.cons_ne_nil _ _)
  · rintro rfl hblocked
    rw [if_pos rfl, if_pos hblocked] at h
    exact absurd h.2 (List.cons_ne_nil _ _)

/-- **An eligible command does what was previewed** exactly if the account and the subscription are
prepared for it, which the preview does not look at. -/
theorem preview_predicts_iff {kind : SubscriptionCommandKind} {reason source : String}
    (hget : db.subscriptions.get? id = some subscription)
    (heligible : eligibilityReasons db subscription kind = []) :
    (∃ db', operation db call.plain id kind reason source = .ok db' ∧
      HasStatus db' id (proposedStatus subscription.status kind)) ↔
        Prepared db subscription kind := by
  obtain ⟨hallowed, hlogin⟩ := of_eligibilityReasons_eq_nil heligible
  cases kind with
  | activate =>
    have hpending : subscription.status = .pending := of_decide_eq_true hallowed
    have hne : subscription.status ≠ .active := by
      rw [hpending]
      decide
    have hopen : subscription.status ∉ terminal := by
      rw [hpending]
      decide
    rw [operation_active (.inl rfl) hget hne hopen, if_pos hpending]
    exact activateSubscription_plain_iff hget hpending
  | restore =>
    have hcandidate : subscription.status ∈ restoreCandidate := of_decide_eq_true hallowed
    have hne : subscription.status ≠ .active := by
      intro heq
      exact absurd (heq ▸ hcandidate) (by decide)
    have hopen : subscription.status ∉ terminal := by
      revert hcandidate
      cases subscription.status <;> decide
    have hpending : subscription.status ≠ .pending := by
      intro heq
      exact absurd (heq ▸ hcandidate) (by decide)
    rw [operation_active (.inr rfl) hget hne hopen, if_neg hpending]
    by_cases hdisabled : subscription.status = .disabled
    · rw [if_pos hdisabled, Prepared]
      simp only [hdisabled, true_imp_iff]
      exact enableSubscription_plain_iff hget hdisabled (hlogin rfl)
    · have hheld : subscription.status ∈ suspendedEquivalent := by
        revert hcandidate hdisabled
        cases subscription.status <;> decide
      rw [if_neg hdisabled, if_pos hheld, Prepared]
      simp only [hdisabled, false_imp_iff, and_true]
      exact restoreSubscriptionDetailed_plain_iff hget hheld (hlogin rfl)
  | suspend =>
    have hstatus : subscription.status ∈ suspendable ∨
        subscription.status ∈ suspendedEquivalent := by
      revert hallowed
      cases subscription.status <;> decide
    refine iff_of_true ?_ trivial
    have hproposed : proposedStatus subscription.status .suspend =
        if subscription.status ∈ suspendedEquivalent then subscription.status else .suspended := by
      simp [proposedStatus, SubscriptionCommandKind.target]
    rw [hproposed]
    exact suspendSubscription_plain hget hstatus
  | disable =>
    obtain ⟨hopen, hne⟩ := of_decide_eq_true hallowed
    refine iff_of_true ?_ trivial
    rw [(operation_closing .disable hget hne hopen).2.2 rfl]
    exact disableSubscription_plain hget hopen hne
  | cancel =>
    have hopen : subscription.status ∉ terminal := of_decide_eq_true hallowed
    have hne : subscription.status ≠ .canceled := fun heq => hopen (heq ▸ by decide)
    refine iff_of_true ?_ trivial
    rw [(operation_closing .cancel hget hne hopen).1 rfl]
    exact cancelSubscription_plain hget hne
  | expire =>
    have hopen : subscription.status ∉ terminal := of_decide_eq_true hallowed
    have hne : subscription.status ≠ .expired := fun heq => hopen (heq ▸ by decide)
    refine iff_of_true ?_ trivial
    rw [(operation_closing .expire hget hne hopen).2.1 rfl]
    exact expireSubscription_plain hget hopen

/-! ## An account without its approval -/

/-- A pending subscription of an account that is not approved for billing. -/
def unapproved : LifecycleDb :=
  (LifecycleDb.single .pending none .empty).elsewhere .empty fun _ => false

/-- The subscription of an approved or unapproved account. -/
def pendingRow : Subscription :=
  ⟨0, 0, .pending, none, some .monthly, ⟨none, none, none⟩, none, none, none, none, 0⟩

/-- **An eligible activation is refused**: the preview does not ask for the approval. -/
theorem preview_unapproved :
    eligibilityReasons unapproved pendingRow .activate = [] ∧
      proposedStatus pendingRow.status .activate = .active ∧
      operation unapproved (.ofClock 1) 0 .activate "activate lifecycle command" "operator" =
        .error .billingApprovalRequired :=
  ⟨rfl, rfl, rfl⟩

/-- The suspension of the same subscription does what was previewed. -/
theorem preview_predicts_suspend :
    (∃ db', operation unapproved (Call.ofClock 1).plain 0 .suspend "suspend lifecycle command"
      "operator" = .ok db' ∧ HasStatus db' 0 (proposedStatus pendingRow.status .suspend)) ↔
        Prepared unapproved pendingRow .suspend :=
  preview_predicts_iff rfl rfl

end DotmacSub.Lifecycle
