import DotmacSub.Lifecycle.View

/-!
# What a lifecycle command does to one subscription

Each command moves the view of a subscription in one of a few ways, all of which are said here with
the checks that went before.  A law about runs is then a case analysis of the moves.
-/

namespace DotmacSub.Lifecycle

open Store Checked
open ServiceExtensions (SubscriptionStatus)

variable {db db' : LifecycleDb} {call : Call} {id : ℕ} {subscription : Subscription}
  {reason : Option EnforcementReason} {trigger resolvedBy : String} {notes : Option String}
  {evidenceRef : EvidenceRef} {v : View}

def Hold.liftable (trigger : String) (reason : Option EnforcementReason) (lock : Hold) : Bool :=
  (∀ r ∈ reason, lock.reason = r) ∧ trigger ∈ allowedRestorers lock.reason

def Hold.fromOverride (recordedSource : String) (lock : Hold) : Bool :=
  recordedSource ≠ "" ∧ lock.reason = .admin ∧ lock.source = recordedSource

/-- What a request for a status, of the subscription or of its account, amounts to. -/
inductive Routes (id : ℕ) (w : View) : Command → Command → Prop
  | activate {reason source} (h : w.status = .pending) :
      Routes id w (.transition id .active reason source) (.activate id none)
  | enable {reason source} (h : w.status = .disabled) :
      Routes id w (.transition id .active reason source) (.enable id reason)
  | restore {reason source} (h : w.status ∈ suspendedEquivalent) :
      Routes id w (.transition id .active reason source)
        (.restore id "admin" source none (some reason))
  | suspend {reason source} :
      Routes id w (.transition id .suspended reason source)
        (.suspend id .admin source .hardReject (some reason))
  | cancel {reason source} (h : w.status ∉ terminal) :
      Routes id w (.transition id .canceled reason source) (.cancel id reason true)
  | expire {reason source} (h : w.status ∉ terminal) :
      Routes id w (.transition id .expired reason source) (.expire id)
  | disable {reason source} :
      Routes id w (.transition id .disabled reason source) (.disable id reason false)
  | accountActive {reason source preserveLocks}
      (h : w.status ∈ suspendedEquivalent ∨ w.status = .disabled) :
      Routes id w (.transitionAccount w.subscriberId .active reason source preserveLocks)
        (.transition id .active reason source)
  | accountSuspended {target reason source preserveLocks}
      (htarget : target = .blocked ∨ target = .suspended) (h : w.status ∈ suspendable) :
      Routes id w (.transitionAccount w.subscriberId target reason source preserveLocks)
        (.suspend id .admin source .hardReject (some reason))
  | accountDisabled {reason source preserveLocks} (h : w.status ∉ terminal) :
      Routes id w (.transitionAccount w.subscriberId .disabled reason source preserveLocks)
        (.disable id reason preserveLocks)
  | accountCanceled {reason source preserveLocks} (h : w.status ∉ terminal) :
      Routes id w (.transitionAccount w.subscriberId .canceled reason source preserveLocks)
        (.cancel id reason true)

/-- The ways in which a command moves a view. -/
inductive Moved (db : LifecycleDb) (now : ℤ) (id : ℕ) : Command → View → View → Prop
  | idle {c w} : Moved db now id c w w
  | suspended {w reason source accessMode notes locks}
      (hstatus : w.status ∈ suspendable ∨ w.status ∈ suspendedEquivalent)
      (hlocks : locks = w.locks ∧ (∃ lock ∈ w.locks, lock.reason = reason) ∨
        (∀ lock ∈ w.locks, lock.reason ≠ reason) ∧
          ∃ lockId, locks = w.locks ++ [⟨lockId, reason, source⟩]) :
      Moved db now id (.suspend id reason source accessMode notes) w
        { w with
          status := if w.status ∈ suspendedEquivalent then w.status else .suspended, locks }
  | lifted {w trigger resolvedBy reason notes} (hstatus : w.status ∈ suspendedEquivalent) :
      Moved db now id (.restore id trigger resolvedBy reason notes) w
        { w with locks := w.locks.filter (!·.liftable trigger reason) }
  | restored {w trigger resolvedBy reason notes anchor} (hstatus : w.status ∈ suspendedEquivalent)
      (hlocks : w.locks.filter (!·.liftable trigger reason) = [])
      (hanchor : ∀ previous ∈ w.nextBillingAt, anchor = previous) :
      Moved db now id (.restore id trigger resolvedBy reason notes) w
        { w with status := .active, locks := [], nextBillingAt := some anchor }
  | staleResolved {w trigger resolvedBy reason notes} (hstatus : w.status ∉ suspendedEquivalent) :
      Moved db now id (.resolveStaleLock id trigger resolvedBy reason notes) w
        { w with locks := w.locks.filter (!·.liftable trigger (some reason)) }
  | activated {w startAt anchor} (hstatus : w.status = .pending)
      (hgate : ∀ order ∈ db.salesServiceOrders id, order.status = .active)
      (hanchor : ∀ previous ∈ w.nextBillingAt, anchor = previous) :
      Moved db now id (.activate id startAt) w
        { w with status := .active, nextBillingAt := some anchor }
  | expired {w} (hstatus : w.status ∉ terminal) :
      Moved db now id (.expire id) w { w with status := .expired, locks := [] }
  | canceled {w cancelReason generateCredit credits} (hstatus : w.status ≠ .canceled) :
      Moved db now id (.cancel id cancelReason generateCredit) w
        { w with status := .canceled, locks := [], credits := w.credits ++ credits }
  | disabled {w reason preserveLocks disabledAt} (hstatus : w.status ∉ terminal)
      (hne : w.status ≠ .disabled) (hat : DisabledAfter now .disabled w.disabledAt disabledAt) :
      Moved db now id (.disable id reason preserveLocks) w
        { w with status := .disabled, locks := if preserveLocks then w.locks else [], disabledAt }
  | keptHeld {w reason} (hstatus : w.status = .disabled) (hlocks : w.locks ≠ []) :
      Moved db now id (.enable id reason) w { w with status := .suspended }
  | enabled {w reason anchor since} (hstatus : w.status = .disabled) (hlocks : w.locks = [])
      (hsince : ∀ t ∈ w.disabledAt.max?, since = t)
      (hanchor : ∀ previous ∈ w.nextBillingAt, anchor = previous + max (now - since) 0) :
      Moved db now id (.enable id reason) w
        { w with status := .active, nextBillingAt := some anchor }
  | unsuspended {w reason source subscriber recorded}
      (hsubscriber : db.subscribers.get? w.subscriberId = some subscriber)
      (hrecorded : subscriber.lifecycleOverride = some recorded)
      (hsuspended : recorded.status = .suspended) :
      Moved db now id (.unsuspendAccount w.subscriberId reason source) w
        { w with locks := w.locks.filter (!·.fromOverride (Text.strip recorded.source)) }
  | returned {w reason source subscriber recorded anchor}
      (hsubscriber : db.subscribers.get? w.subscriberId = some subscriber)
      (hrecorded : subscriber.lifecycleOverride = some recorded)
      (hsuspended : recorded.status = .suspended) (hstatus : w.status ∈ suspendedEquivalent)
      (hlocks : w.locks.filter (!·.fromOverride (Text.strip recorded.source)) = [])
      (hanchor : ∀ previous ∈ w.nextBillingAt, anchor = previous) :
      Moved db now id (.unsuspendAccount w.subscriberId reason source) w
        { w with status := .active, locks := [], nextBillingAt := some anchor }
  | routed {c c' w w'} (hroute : Routes id w c c') (h : Moved db now id c' w w') :
      Moved db now id c w w'

/-- What a command makes of the database, as one subscription sees it. -/
def Moves (db : LifecycleDb) (now : ℤ) (id : ℕ) (c : Command) (db' : LifecycleDb) : Prop :=
  Frame id db db' ∧ ∀ v, db.view id = some v → ∃ v', db'.view id = some v' ∧ Moved db now id c v v'

lemma Moves.refl {now : ℤ} {c : Command} : Moves db now id c db :=
  ⟨.refl, fun v hv => ⟨v, hv, .idle⟩⟩

lemma Moves.of_get? {now : ℤ} {c : Command}
    (hget : db.subscriptions.get? subscription.id = some subscription)
    (hframe : Frame subscription.id db db')
    (h : ∃ v', db'.view subscription.id = some v' ∧ Moved db now subscription.id c
      ⟨subscription.subscriberId, subscription.status, subscription.nextBillingAt,
        db.holds subscription.id, db.disabledAt subscription.id, db.creditsOf subscription.id⟩ v') :
    Moves db now subscription.id c db' := by
  refine ⟨hframe, fun v hv => ?_⟩
  obtain rfl := Option.mem_unique (view_of_get? hget) hv
  exact h

lemma lifts_eq {trigger : String} {lock : EnforcementLock} (hid : lock.subscriptionId = id)
    (hactive : lock.isActive = true) :
    lifts id trigger reason lock = lock.hold.liftable trigger reason := by
  simp [lifts, Hold.liftable, EnforcementLock.hold, hid, hactive]

lemma matchesOverride_eq {recordedSource : String} {lock : EnforcementLock}
    (hid : lock.subscriptionId = id) (hactive : lock.isActive = true) :
    matchesOverride id recordedSource lock = lock.hold.fromOverride recordedSource := by
  simp only [matchesOverride, Hold.fromOverride, EnforcementLock.hold, hid, hactive, true_and]
  exact decide_eq_decide.mpr Iff.rfl

lemma activeLocks_eq_nil_iff : db.activeLocks id = [] ↔ db.holds id = [] :=
  List.map_eq_nil_iff.symm

lemma holdSubscription_eq_ok {reason : String}
    (hget : db.subscriptions.get? subscription.id = some subscription)
    (h : holdSubscription db call subscription reason = .ok db') :
    Frame subscription.id db db' ∧
      db'.view subscription.id = (db.view subscription.id).map fun v =>
        { v with
          status := if subscription.status ∈ suspendedEquivalent then subscription.status
            else .suspended } := by
  have hview := view_of_get? hget
  unfold holdSubscription at h
  split_ifs at h with hheld
  · obtain rfl := pure_eq_ok.mp h
    exact ⟨.refl, by rw [hview, Option.map_some, if_pos hheld]⟩
  · obtain ⟨hframe, disabledAt, hat, hheldView⟩ := applyTransition_eq_ok h hget
    rw [hat.eq (by decide)] at hheldView
    exact ⟨hframe, by rw [hheldView, hview, Option.map_some, if_neg hheld]⟩

lemma suspendSubscription_moves {reason : EnforcementReason} {source : String}
    {accessMode : AccessRestrictionMode}
    (h : suspendSubscription db call id reason source accessMode notes = .ok db') :
    Moves db call.now id (.suspend id reason source accessMode notes) db' := by
  simp only [suspendSubscription, bind_eq_ok, ensure_eq_ok, findSubscription_eq_ok] at h
  obtain ⟨subscription, hget, -, hstatus, h⟩ := h
  obtain rfl := id_of_get? hget
  have hview := view_of_get? hget
  split at h
  case h_1 existing hexisting =>
    have hsame : (upgradeLock db existing.id accessMode).subscriptions = db.subscriptions ∧
        (upgradeLock db existing.id accessMode).serviceOrders = db.serviceOrders := by
      unfold upgradeLock
      split_ifs <;> exact ⟨rfl, rfl⟩
    obtain ⟨hframe, hheld⟩ := holdSubscription_eq_ok (hsame.1 ▸ hget) h
    refine .of_get? hget ⟨fun j hj => (hframe.others j hj).trans view_upgradeLock,
      hframe.serviceOrders.trans hsame.2⟩ ⟨_, ?_, .suspended hstatus (.inl ⟨rfl, ?_⟩)⟩
    · rw [hheld, view_upgradeLock, hview]
      rfl
    · have hreason : decide (existing.reason = reason) = true :=
        List.find?_some (p := fun lock : EnforcementLock => lock.reason = reason) hexisting
      exact ⟨existing.hold, List.mem_map_of_mem (List.mem_of_find?_eq_some hexisting),
        of_decide_eq_true hreason⟩
  case h_2 hnone =>
    have hrow : (insertLock db subscription.id reason accessMode source notes).subscriptions.get?
        subscription.id = some subscription := hget
    obtain ⟨hframe, hheld⟩ := holdSubscription_eq_ok hrow h
    refine .of_get? hget ⟨fun j hj => ?_, hframe.serviceOrders⟩
      ⟨_, ?_, .suspended hstatus (.inr ⟨?_, db.locks.next, rfl⟩)⟩
    · rw [hframe.others j hj, view_insertLock, if_neg (Ne.symm hj)]
      simp
    · rw [hheld, view_insertLock, hview, if_pos rfl]
      rfl
    · rintro hold hmem rfl
      obtain ⟨lock, hlock, rfl⟩ := List.mem_map.mp hmem
      exact absurd (decide_eq_true rfl) (List.find?_eq_none.mp hnone lock hlock)

lemma stageSubscriptionBillingAnchor_eq_ok {expectedPrevious : Option ℤ} {target : ℤ}
    {source : BillingAnchorProjectionSource} {staged : Subscription}
    (h : stageSubscriptionBillingAnchor subscription expectedPrevious target source evidenceRef =
      .ok staged) : staged = { subscription with nextBillingAt := some target } := by
  simp only [stageSubscriptionBillingAnchor, bind_eq_ok, ensure_eq_ok] at h
  obtain ⟨-, -, -, -, -, -, h⟩ := h
  exact (pure_eq_ok.mp h).symm

lemma stageMissingActivationBillingAnchor_eq_ok {baseAt : ℤ}
    {source : BillingAnchorProjectionSource} {staged : Subscription}
    (h : stageMissingActivationBillingAnchor subscription baseAt source evidenceRef = .ok staged) :
    ∃ anchor, staged = { subscription with nextBillingAt := some anchor } ∧
      ∀ previous ∈ subscription.nextBillingAt, anchor = previous := by
  unfold stageMissingActivationBillingAnchor at h
  split at h
  case h_1 anchor hanchor =>
    obtain rfl := pure_eq_ok.mp h
    refine ⟨anchor, by rw [← hanchor], fun previous hprevious => ?_⟩
    exact Option.mem_unique hanchor hprevious
  case h_2 hnone =>
    refine ⟨_, stageSubscriptionBillingAnchor_eq_ok h, fun previous hprevious => ?_⟩
    exact absurd (hnone.symm.trans hprevious) (Option.some_ne_none previous).symm

lemma reactivate_eq_ok {baseAt : ℤ} {reason : String}
    (hget : db.subscriptions.get? subscription.id = some subscription)
    (h : reactivate db call subscription baseAt evidenceRef reason = .ok db') :
    Frame subscription.id db db' ∧ ∃ anchor,
      (∀ previous ∈ subscription.nextBillingAt, anchor = previous) ∧
      db'.view subscription.id = (db.view subscription.id).map fun v =>
        { v with status := .active, nextBillingAt := some anchor } := by
  simp only [reactivate, bind_eq_ok] at h
  obtain ⟨anchored, hstaged, h⟩ := h
  obtain ⟨anchor, rfl, hanchor⟩ := stageMissingActivationBillingAnchor_eq_ok hstaged
  obtain ⟨hframe, disabledAt, hat, hview⟩ := applyTransition_eq_ok h hget
  rw [hat.eq (by decide)] at hview
  exact ⟨hframe, anchor, hanchor, by rw [view_of_get? hget]; exact hview⟩

lemma view_resolveLocksForTrigger (hv : db.view id = some v) :
    (resolveLocksForTrigger db call id trigger resolvedBy reason notes).1.view id =
      some { v with locks := v.locks.filter (!·.liftable trigger reason) } :=
  view_resolveLocks hv fun _ => lifts_eq

lemma frame_resolveLocksForTrigger :
    Frame id db (resolveLocksForTrigger db call id trigger resolvedBy reason notes).1 :=
  frame_resolveLocks fun _ hlock => (of_decide_eq_true hlock).1

lemma restoreSubscriptionDetailed_moves {result : RestorationResult}
    (h : restoreSubscriptionDetailed db call id trigger resolvedBy reason notes =
      .ok (db', result)) :
    Moves db call.now id (.restore id trigger resolvedBy reason notes) db' := by
  simp only [restoreSubscriptionDetailed, bind_eq_ok, findSubscription_eq_ok] at h
  obtain ⟨subscription, hget, h⟩ := h
  obtain rfl := id_of_get? hget
  have hview := view_of_get? hget
  by_cases hheld : subscription.status ∈ suspendedEquivalent
  · rw [if_neg (not_not.mpr hheld)] at h
    simp only [bind_eq_ok] at h
    obtain ⟨-, -, h⟩ := h
    have hframe : Frame subscription.id db (resolveLocksForTrigger db call subscription.id trigger
        resolvedBy reason notes).1 := frame_resolveLocksForTrigger
    have hlifted : ∀ v, db.view subscription.id = some v →
        (resolveLocksForTrigger db call subscription.id trigger resolvedBy reason notes).1.view
          subscription.id = some { v with locks := v.locks.filter (!·.liftable trigger reason) } :=
      fun v hv => view_resolveLocksForTrigger hv
    have hsame : (resolveLocksForTrigger db call subscription.id trigger resolvedBy reason
      notes).1.subscriptions = db.subscriptions := rfl
    generalize resolveLocksForTrigger db call subscription.id trigger resolvedBy reason notes =
      resolved at h hframe hlifted hsame
    have hlift : Moves db call.now subscription.id
        (.restore subscription.id trigger resolvedBy reason notes) resolved.1 :=
      .of_get? hget hframe ⟨_, hlifted _ hview, .lifted hheld⟩
    by_cases hremaining : resolved.1.activeLocks subscription.id = []
    · rw [if_neg (not_not.mpr hremaining)] at h
      by_cases hblocked : reactivationBlockedByActiveLogin resolved.1 subscription
      · rw [if_pos hblocked] at h
        obtain ⟨rfl, -⟩ := mk_eq_ok.mp h
        exact hlift
      · rw [if_neg hblocked] at h
        simp only [bind_eq_ok] at h
        obtain ⟨restored, hrestored, h⟩ := h
        obtain ⟨rfl, -⟩ := mk_eq_ok.mp h
        obtain ⟨hframe', anchor, hanchor, hactive⟩ :=
          reactivate_eq_ok (hsame ▸ hget) hrestored
        obtain ⟨_, hrow, heq⟩ := exists_of_view (hlifted _ hview)
        have hnone := (congrArg View.locks heq).trans (activeLocks_eq_nil_iff.mp hremaining)
        rw [hlifted _ hview, Option.map_some] at hactive
        dsimp only at hnone hactive
        rw [hnone] at hactive
        exact .of_get? hget (hframe.trans hframe') ⟨_, hactive, .restored hheld hnone hanchor⟩
    · rw [if_pos hremaining] at h
      obtain ⟨rfl, -⟩ := mk_eq_ok.mp h
      exact hlift
  · rw [if_pos hheld] at h
    obtain ⟨rfl, -⟩ := mk_eq_ok.mp h
    exact .refl

lemma resolveStaleLockWithoutRestoration_moves {reason : EnforcementReason} {count : ℕ}
    (h : resolveStaleLockWithoutRestoration db call id trigger resolvedBy reason notes =
      .ok (db', count)) :
    Moves db call.now id (.resolveStaleLock id trigger resolvedBy reason notes) db' := by
  simp only [resolveStaleLockWithoutRestoration, bind_eq_ok, ensure_eq_ok,
    findSubscription_eq_ok] at h
  obtain ⟨subscription, hget, -, hstatus, h⟩ := h
  obtain rfl := id_of_get? hget
  obtain ⟨rfl, -⟩ := mk_eq_ok.mp h
  exact .of_get? hget frame_resolveLocksForTrigger
    ⟨_, view_resolveLocksForTrigger (view_of_get? hget), .staleResolved hstatus⟩

lemma ensureSubscriberRole_eq_ok {subscriber : Subscriber}
    (h : ensureSubscriberRole db subscriber = .ok db') :
    Frame id db db' ∧ db'.view id = db.view id := by
  unfold ensureSubscriberRole at h
  split at h
  · obtain rfl := pure_eq_ok.mp h
    exact ⟨.refl, rfl⟩
  · simp only [bind_eq_ok] at h
    obtain ⟨_, -, h⟩ := h
    obtain rfl := pure_eq_ok.mp h
    exact ⟨⟨fun _ _ => rfl, rfl⟩, rfl⟩

lemma activateSubscription_moves {startAt : Option ℤ}
    (h : activateSubscription db call id startAt = .ok db') :
    Moves db call.now id (.activate id startAt) db' := by
  simp only [activateSubscription, bind_eq_ok, ensure_eq_ok, findSubscription_eq_ok] at h
  obtain ⟨subscription, hget, -, hstatus, subscriber, -, -, hgate, anchored, hstaged, activated,
    hactivated, hrole⟩ := h
  obtain rfl := id_of_get? hget
  obtain ⟨anchor, rfl, hanchor⟩ := stageMissingActivationBillingAnchor_eq_ok hstaged
  obtain ⟨hframe, disabledAt, hat, hview⟩ := applyTransition_eq_ok hactivated hget
  have hroles : Frame subscription.id activated db' ∧
      db'.view subscription.id = activated.view subscription.id := ensureSubscriberRole_eq_ok hrole
  rw [hat.eq (by decide)] at hview
  exact .of_get? hget (hframe.trans hroles.1)
    ⟨_, hroles.2.trans hview, .activated hstatus hgate hanchor⟩

lemma view_resolveAllLocks (call : Call) (resolvedBy : String) (hv : db.view id = some v) :
    (resolveAllLocks db call id resolvedBy).view id = some { v with locks := [] } := by
  refine (view_resolveLocks (q := fun _ => true) hv fun _ hid hactive => ?_).trans ?_
  · simp [hid, hactive]
  · rw [List.filter_eq_nil_iff.mpr fun _ _ => Bool.noConfusion]

lemma frame_resolveAllLocks {resolvedBy : String} :
    Frame id db (resolveAllLocks db call id resolvedBy) :=
  frame_resolveLocks fun _ hlock => (of_decide_eq_true hlock).1

/-- A transition on a database that differs from another by its locks. -/
lemma applyTransition_view {toStatus : SubscriptionStatus} {reason : String} {effectiveAt : ℤ}
    {row : Subscription}
    (h : applyTransition db call subscription toStatus reason effectiveAt = .ok db')
    (hget : db.subscriptions.get? subscription.id = some row)
    (hv : db.view subscription.id = some v)
    (hsubscriber : subscription.subscriberId = v.subscriberId)
    (hanchor : subscription.nextBillingAt = v.nextBillingAt) :
    Frame subscription.id db db' ∧ ∃ disabledAt,
      DisabledAfter call.now toStatus v.disabledAt disabledAt ∧
      db'.view subscription.id = some { v with status := toStatus, disabledAt } := by
  obtain ⟨hframe, disabledAt, hat, hview⟩ := applyTransition_eq_ok h hget
  obtain ⟨_, -, rfl⟩ := exists_of_view hv
  exact ⟨hframe, disabledAt, hat, by rw [hview, hsubscriber, hanchor]⟩

lemma transition_resolved {resolvedBy reason : String} {toStatus : SubscriptionStatus}
    {effectiveAt : ℤ} (hget : db.subscriptions.get? subscription.id = some subscription)
    (h : applyTransition (resolveAllLocks db call subscription.id resolvedBy) call subscription
      toStatus reason effectiveAt = .ok db') :
    Frame subscription.id db db' ∧ ∀ v, db.view subscription.id = some v → ∃ disabledAt,
      DisabledAfter call.now toStatus v.disabledAt disabledAt ∧
      db'.view subscription.id = some { v with status := toStatus, locks := [], disabledAt } := by
  have hrow : (resolveAllLocks db call subscription.id resolvedBy).subscriptions.get?
      subscription.id = some subscription := hget
  have hview := view_resolveAllLocks call resolvedBy (view_of_get? hget)
  obtain ⟨hframe, disabledAt, hat, hmoved⟩ := applyTransition_view h hrow hview rfl rfl
  refine ⟨frame_resolveAllLocks.trans hframe, fun v hv => ?_⟩
  obtain rfl := Option.mem_unique (view_of_get? hget) hv
  exact ⟨disabledAt, hat, hmoved⟩

lemma expireSubscription_moves (h : expireSubscription db call id = .ok db') :
    Moves db call.now id (.expire id) db' := by
  simp only [expireSubscription, bind_eq_ok, ensure_eq_ok, findSubscription_eq_ok] at h
  obtain ⟨subscription, hget, -, hstatus, h⟩ := h
  obtain rfl := id_of_get? hget
  obtain ⟨hframe, hmoved⟩ := transition_resolved hget h
  obtain ⟨disabledAt, hat, hview⟩ := hmoved _ (view_of_get? hget)
  obtain rfl := hat.eq (by decide)
  exact .of_get? hget hframe ⟨_, hview, .expired hstatus⟩

lemma disableSubscription_moves {reason : String} {preserveLocks changed : Bool}
    (h : disableSubscription db call id reason preserveLocks = .ok (db', changed)) :
    Moves db call.now id (.disable id reason preserveLocks) db' := by
  simp only [disableSubscription, bind_eq_ok, findSubscription_eq_ok] at h
  obtain ⟨subscription, hget, h⟩ := h
  obtain rfl := id_of_get? hget
  by_cases hdisabled : subscription.status = .disabled
  · rw [if_pos hdisabled] at h
    obtain ⟨rfl, -⟩ := mk_eq_ok.mp h
    exact .refl
  · rw [if_neg hdisabled] at h
    simp only [bind_eq_ok, ensure_eq_ok] at h
    obtain ⟨-, hstatus, disabled, h, hpure⟩ := h
    obtain ⟨rfl, -⟩ := mk_eq_ok.mp hpure
    cases preserveLocks with
    | true =>
      obtain ⟨hframe, disabledAt, hat, hview⟩ :=
        applyTransition_view h hget (view_of_get? hget) rfl rfl
      exact .of_get? hget hframe ⟨_, hview, .disabled hstatus hdisabled hat⟩
    | false =>
      obtain ⟨hframe, hmoved⟩ := transition_resolved hget h
      obtain ⟨disabledAt, hat, hview⟩ := hmoved _ (view_of_get? hget)
      exact .of_get? hget hframe ⟨_, hview, .disabled hstatus hdisabled hat⟩

lemma view_credit {credit : Option CancellationCredit}
    (hcredit : ∀ c ∈ credit, c.subscriptionId = id) :
    ({ db with credits := db.credits ++ credit.toList } : LifecycleDb).view j =
      (db.view j).map fun v => { v with
        credits := v.credits ++ if j = id then (credit.map (·.amount)).toList else [] } := by
  rw [LifecycleDb.view, LifecycleDb.view, Option.map_map]
  congr 1
  funext subscription
  cases credit with
  | none => simp [LifecycleDb.creditsOf, LifecycleDb.holds, LifecycleDb.activeLocks,
      LifecycleDb.disabledAt]
  | some c =>
    have hid := hcredit c rfl
    by_cases hj : j = id
    · simp [LifecycleDb.creditsOf, LifecycleDb.holds, LifecycleDb.activeLocks,
        LifecycleDb.disabledAt, hj, hid]
    · simp [LifecycleDb.creditsOf, LifecycleDb.holds, LifecycleDb.activeLocks,
        LifecycleDb.disabledAt, hj, hid, Ne.symm hj]

lemma generateCancellationCredit_subscriptionId :
    ∀ c ∈ generateCancellationCredit call subscription, c.subscriptionId = subscription.id := by
  intro c hc
  unfold generateCancellationCredit at hc
  split at hc
  · split_ifs at hc
    · exact absurd hc (Option.not_mem_none c)
    · obtain ⟨amount, -, rfl⟩ := Option.map_eq_some_iff.mp hc
      rfl
  · exact absurd hc (Option.not_mem_none c)

lemma cancelSubscription_eq_ok {cancelReason : String} {generateCredit : Bool}
    (h : cancelSubscription db call id cancelReason generateCredit = .ok db') :
    Frame id db db' ∧ ∀ v, db.view id = some v → v.status ≠ .canceled ∧ ∃ credits,
      db'.view id =
        some { v with status := .canceled, locks := [], credits := v.credits ++ credits } := by
  simp only [cancelSubscription, bind_eq_ok, ensure_eq_ok, findSubscription_eq_ok] at h
  obtain ⟨subscription, hget, -, hstatus, canceled, hcanceled, h⟩ := h
  obtain rfl := id_of_get? hget
  have hrow : (endAddOns (resolveAllLocks db call subscription.id "canceled") subscription.id
      call.now).subscriptions.get? subscription.id = some subscription := hget
  have hview : (endAddOns (resolveAllLocks db call subscription.id "canceled") subscription.id
      call.now).view subscription.id = _ :=
    view_resolveAllLocks call "canceled" (view_of_get? hget)
  obtain ⟨hframe, disabledAt, hat, hmoved⟩ := applyTransition_view hcanceled hrow hview rfl rfl
  obtain rfl := hat.eq (by decide)
  have hended : Frame subscription.id db (endAddOns (resolveAllLocks db call subscription.id
      "canceled") subscription.id call.now) := ⟨frame_resolveAllLocks.others, rfl⟩
  have hresolved : Frame subscription.id db canceled := hended.trans hframe
  have hchecked : ∀ v, db.view subscription.id = some v →
      canceled.view subscription.id = some { v with status := .canceled, locks := [] } ∧
        v.status ≠ .canceled := by
    intro v hv
    obtain rfl := Option.mem_unique (view_of_get? hget) hv
    exact ⟨hmoved, hstatus⟩
  obtain rfl := pure_eq_ok.mp h
  cases generateCredit with
  | true =>
    have hcredited : ∀ j, ({ canceled with
        credits := canceled.credits ++ (generateCancellationCredit call subscription).toList } :
          LifecycleDb).view j = (canceled.view j).map fun v => { v with
        credits := v.credits ++ if j = subscription.id then
          ((generateCancellationCredit call subscription).map (·.amount)).toList else [] } :=
      fun _ => view_credit generateCancellationCredit_subscriptionId
    refine ⟨⟨fun j hj => ?_, hresolved.serviceOrders⟩, fun v hv => ?_⟩
    · rw [if_pos rfl, hcredited, if_neg hj, hresolved.others j hj]
      simp
    · obtain ⟨hcanceledView, hne⟩ := hchecked v hv
      have hfinal := hcredited subscription.id
      rw [hcanceledView, Option.map_some, if_pos rfl] at hfinal
      exact ⟨hne, _, hfinal⟩
  | false =>
    refine ⟨hresolved, fun v hv => ?_⟩
    obtain ⟨hcanceledView, hne⟩ := hchecked v hv
    have hkept : ({ v with status := .canceled, locks := [] } : View) =
        { v with status := .canceled, locks := [], credits := v.credits ++ [] } := by
      rw [List.append_nil]
    exact ⟨hne, _, hcanceledView.trans (congrArg some hkept)⟩

lemma cancelSubscription_moves {cancelReason : String} {generateCredit : Bool}
    (h : cancelSubscription db call id cancelReason generateCredit = .ok db') :
    Moves db call.now id (.cancel id cancelReason generateCredit) db' := by
  obtain ⟨hframe, hmoved⟩ := cancelSubscription_eq_ok h
  refine ⟨hframe, fun v hv => ?_⟩
  obtain ⟨hne, _, hview⟩ := hmoved v hv
  exact ⟨_, hview, .canceled hne⟩

/-- A subscription that comes back is billed for the pause no more. -/
lemma enableSubscription_moves {reason : String} {enabled : Bool}
    (h : enableSubscription db call id reason = .ok (db', enabled)) :
    Moves db call.now id (.enable id reason) db' := by
  simp only [enableSubscription, bind_eq_ok, findSubscription_eq_ok] at h
  obtain ⟨subscription, hget, h⟩ := h
  obtain rfl := id_of_get? hget
  have hview := view_of_get? hget
  by_cases hdisabled : subscription.status = .disabled
  · rw [if_neg (not_not.mpr hdisabled)] at h
    simp only [bind_eq_ok] at h
    obtain ⟨-, -, h⟩ := h
    by_cases hlocks : db.activeLocks subscription.id = []
    · rw [if_neg (not_not.mpr hlocks)] at h
      by_cases hblocked : reactivationBlockedByActiveLogin db subscription
      · rw [if_pos hblocked] at h
        obtain ⟨rfl, -⟩ := mk_eq_ok.mp h
        exact .refl
      · rw [if_neg hblocked] at h
        simp only [bind_eq_ok] at h
        obtain ⟨anchored, hstaged, transitioned, htransition, h⟩ := h
        obtain ⟨rfl, -⟩ := mk_eq_ok.mp h
        obtain rfl := stageSubscriptionBillingAnchor_eq_ok hstaged
        obtain ⟨hframe, disabledAt, hat, hactive⟩ := applyTransition_eq_ok htransition hget
        obtain rfl := hat.eq (by decide)
        have hsince : ∀ t ∈ (db.disabledAt subscription.id).max?,
            (db.disabledAt subscription.id).max?.getD subscription.updatedAt = t := by
          intro latest hlatest
          rw [Option.mem_def.mp hlatest, Option.getD_some]
        refine .of_get? hget hframe ⟨_, hactive,
          .enabled hdisabled (activeLocks_eq_nil_iff.mp hlocks) hsince ?_⟩
        intro previous hprevious
        have hanchor : subscription.nextBillingAt = some previous := hprevious
        rw [hanchor]
        rfl
    · rw [if_pos hlocks] at h
      simp only [bind_eq_ok] at h
      obtain ⟨held, hheld, h⟩ := h
      obtain ⟨rfl, -⟩ := mk_eq_ok.mp h
      obtain ⟨hframe, disabledAt, hat, hsuspended⟩ := applyTransition_eq_ok hheld hget
      obtain rfl := hat.eq (by decide)
      exact .of_get? hget hframe ⟨_, hsuspended,
        .keptHeld hdisabled fun hnil => hlocks (activeLocks_eq_nil_iff.mpr hnil)⟩
  · rw [if_pos hdisabled] at h
    obtain ⟨rfl, -⟩ := mk_eq_ok.mp h
    exact .refl

lemma Moves.routed {now : ℤ} {c c' : Command}
    (hroute : ∀ v, db.view id = some v → Routes id v c c') (h : Moves db now id c' db') :
    Moves db now id c db' := by
  refine ⟨h.1, fun v hv => ?_⟩
  obtain ⟨v', hv', hmoved⟩ := h.2 v hv
  exact ⟨v', hv', .routed (hroute v hv) hmoved⟩

/-- A request for a status is refused, or it is one of the operations. -/
lemma transitionSubscriptionStatus_moves {target : SubscriptionStatus} {reason source : String}
    {applied : Bool}
    (h : transitionSubscriptionStatus db call id target reason source = .ok (db', applied)) :
    Moves db call.now id (.transition id target reason source) db' := by
  simp only [transitionSubscriptionStatus, bind_eq_ok, findSubscription_eq_ok] at h
  obtain ⟨subscription, hget, h⟩ := h
  obtain rfl := id_of_get? hget
  have hstatus : ∀ v, db.view subscription.id = some v → v.status = subscription.status := by
    intro v hv
    obtain rfl := Option.mem_unique (view_of_get? hget) hv
    rfl
  by_cases hsame : subscription.status = target
  · rw [if_pos hsame] at h
    obtain ⟨rfl, -⟩ := mk_eq_ok.mp h
    exact .refl
  rw [if_neg hsame] at h
  simp only [assertLegalSubscriptionTransition, bind_eq_ok, ensure_eq_ok] at h
  obtain ⟨-, hlegal, h⟩ := h
  have hopen : ∀ v, db.view subscription.id = some v → v.status ∉ terminal := fun v hv =>
    (hstatus v hv).symm ▸ hlegal.resolve_left hsame
  split at h
  case h_1 =>
    split_ifs at h with hpending hdisabled hheld
    · obtain ⟨activated, hactivated, h⟩ := bind_eq_ok.mp h
      obtain ⟨rfl, -⟩ := mk_eq_ok.mp h
      exact (activateSubscription_moves hactivated).routed fun v hv =>
        .activate ((hstatus v hv).trans hpending)
    · exact (enableSubscription_moves h).routed fun v hv =>
        .enable ((hstatus v hv).trans hdisabled)
    · obtain ⟨⟨restored, result⟩, hrestored, h⟩ := bind_eq_ok.mp h
      obtain ⟨rfl, -⟩ := mk_eq_ok.mp h
      exact (restoreSubscriptionDetailed_moves hrestored).routed fun v hv =>
        .restore ((hstatus v hv).symm ▸ hheld)
  case h_2 =>
    obtain ⟨suspended, hsuspended, h⟩ := bind_eq_ok.mp h
    obtain ⟨rfl, -⟩ := mk_eq_ok.mp h
    exact (suspendSubscription_moves hsuspended).routed fun _ _ => .suspend
  case h_3 =>
    obtain ⟨canceled, hcanceled, h⟩ := bind_eq_ok.mp h
    obtain ⟨rfl, -⟩ := mk_eq_ok.mp h
    exact (cancelSubscription_moves hcanceled).routed fun v hv => .cancel (hopen v hv)
  case h_4 =>
    obtain ⟨expired, hexpired, h⟩ := bind_eq_ok.mp h
    obtain ⟨rfl, -⟩ := mk_eq_ok.mp h
    exact (expireSubscription_moves hexpired).routed fun v hv => .expire (hopen v hv)
  case h_5 => exact (disableSubscription_moves h).routed fun _ _ => .disable
  case h_6 => cases h

end DotmacSub.Lifecycle
