import DotmacSub.Lifecycle.Commands

/-!
# One subscription in the lifecycle tables

The laws of a subscription read a few things only: its status and anchor, the locks that hold it,
when it was disabled and what it was credited.  Here is what each write does to this view.
-/

namespace DotmacSub.Lifecycle

open Store Checked
open ServiceExtensions (SubscriptionStatus)

/-- An active lock, by what decides who may lift it. -/
structure Hold where
  lockId : ℕ
  reason : EnforcementReason
  source : String
deriving DecidableEq

def EnforcementLock.hold (lock : EnforcementLock) : Hold := ⟨lock.id, lock.reason, lock.source⟩

/-- The active locks of a subscription. -/
def LifecycleDb.holds (db : LifecycleDb) (id : ℕ) : List Hold :=
  (db.activeLocks id).map EnforcementLock.hold

/-- The credits a subscription was given at its cancellation. -/
def LifecycleDb.creditsOf (db : LifecycleDb) (id : ℕ) : List ℚ :=
  (db.credits.filter (·.subscriptionId = id)).map (·.amount)

/-- One subscription, as its laws see it. -/
structure View where
  subscriberId : ℕ
  status : SubscriptionStatus
  nextBillingAt : Option ℤ
  locks : List Hold
  disabledAt : List ℤ
  credits : List ℚ

/-- One subscription as its laws see it. -/
def LifecycleDb.view (db : LifecycleDb) (id : ℕ) : Option View :=
  (db.subscriptions.get? id).map fun subscription =>
    ⟨subscription.subscriberId, subscription.status, subscription.nextBillingAt, db.holds id,
      db.disabledAt id, db.creditsOf id⟩

variable {db db' : LifecycleDb} {call : Call} {id j : ℕ} {v v' : View} {subscription : Subscription}
  {accessMode : AccessRestrictionMode}

lemma view_of_get? (h : db.subscriptions.get? id = some subscription) :
    db.view id = some ⟨subscription.subscriberId, subscription.status, subscription.nextBillingAt,
      db.holds id, db.disabledAt id, db.creditsOf id⟩ := by
  rw [LifecycleDb.view, h, Option.map_some]

lemma exists_of_view (h : db.view id = some v) : ∃ subscription,
    db.subscriptions.get? id = some subscription ∧
      v = ⟨subscription.subscriberId, subscription.status, subscription.nextBillingAt, db.holds id,
        db.disabledAt id, db.creditsOf id⟩ := by
  rw [LifecycleDb.view, Option.map_eq_some_iff] at h
  obtain ⟨subscription, hget, rfl⟩ := h
  exact ⟨subscription, hget, rfl⟩

lemma findSubscription_eq_ok :
    findSubscription db id = .ok subscription ↔ db.subscriptions.get? id = some subscription :=
  orRefuse_eq_ok

lemma requireBillingApproval_eq_ok {subscriberId : ℕ} {subscriber : Subscriber} :
    requireBillingApproval db subscriberId = .ok subscriber ↔
      db.subscribers.get? subscriberId = some subscriber ∧ subscriber.billingEnabled = true := by
  rw [requireBillingApproval, bind_eq_ok]
  constructor
  · rintro ⟨found, hfound, h⟩
    obtain ⟨happroved, h⟩ := ensure_bind_eq_ok.mp h
    obtain rfl := pure_eq_ok.mp h
    exact ⟨orRefuse_eq_ok.mp hfound, happroved⟩
  · rintro ⟨hfound, happroved⟩
    exact ⟨subscriber, orRefuse_eq_ok.mpr hfound, ensure_bind_eq_ok.mpr ⟨happroved, rfl⟩⟩

lemma id_of_get? (h : db.subscriptions.get? id = some subscription) : subscription.id = id :=
  (Table.get?_eq_some.mp h).2

lemma get?_put_self (now : ℤ) (subscription : Subscription) {row : Subscription}
    (hrow : db.subscriptions.get? subscription.id = some row) :
    (db.put now subscription).subscriptions.get? subscription.id =
      some { subscription with updatedAt := now } := by
  have hself := Table.get?_update_self
    (g := fun r : Subscription => { subscription with id := r.id, updatedAt := now })
    (h := fun _ => rfl) hrow
  rw [id_of_get? hrow] at hself
  exact hself

lemma get?_put_ne (now : ℤ) (subscription : Subscription) (h : j ≠ subscription.id) :
    (db.put now subscription).subscriptions.get? j = db.subscriptions.get? j :=
  Table.get?_update_ne
    (g := fun r : Subscription => { subscription with id := r.id, updatedAt := now })
    (h := fun _ => rfl) h

section Locks

variable {now : ℤ} {resolvedBy : String} {p : EnforcementLock → Bool} {q : Hold → Bool}
  {notes : Option String → Option String}

lemma holds_resolveLocks_self
    (hp : ∀ lock, lock.subscriptionId = id → lock.isActive = true → p lock = q lock.hold) :
    (db.resolveLocks now resolvedBy p notes).holds id = (db.holds id).filter (!q ·) := by
  simp only [LifecycleDb.holds, LifecycleDb.activeLocks, LifecycleDb.resolveLocks, Table.map]
  induction db.locks.rows with
  | nil => rfl
  | cons lock rows ih =>
    by_cases hactive : lock.subscriptionId = id ∧ lock.isActive = true
    · have hq := hp lock hactive.1 hactive.2
      by_cases hlift : p lock = true
      · have hlifted : q lock.hold = true := hq ▸ hlift
        simpa [hactive, hlift, hlifted, EnforcementLock.resolve] using ih
      · have hkept : q lock.hold = false := by rw [← hq, Bool.eq_false_iff.mpr hlift]
        simpa [hactive, hlift, hkept] using ih
    · by_cases hlift : p lock = true
      · rw [List.filter_cons_of_neg (by simpa using hactive)]
        simpa [hlift, EnforcementLock.resolve] using ih
      · rw [List.filter_cons_of_neg (by simpa using hactive), List.map_cons, if_neg hlift,
          List.filter_cons_of_neg (by simpa using hactive)]
        exact ih

lemma holds_resolveLocks_of_forall
    (hp : ∀ lock, lock.subscriptionId = id → lock.isActive = true → p lock = false) :
    (db.resolveLocks now resolvedBy p notes).holds id = db.holds id := by
  rw [holds_resolveLocks_self (q := fun _ => false) hp]
  exact List.filter_eq_self.mpr fun _ _ => rfl

end Locks

lemma holds_upgradeLock {lockId : ℕ} :
    (upgradeLock db lockId accessMode).holds id = db.holds id := by
  unfold upgradeLock
  split_ifs
  · simp only [LifecycleDb.holds, LifecycleDb.activeLocks, Table.update, Table.map]
    induction db.locks.rows with
    | nil => rfl
    | cons lock rows ih =>
      by_cases hactive : lock.subscriptionId = id ∧ lock.isActive = true
      · by_cases hid : Row.id lock = lockId <;> simpa [hactive, hid, EnforcementLock.hold] using ih
      · by_cases hid : Row.id lock = lockId
        · rw [List.map_cons, if_pos hid, List.filter_cons_of_neg (by simpa using hactive),
            List.filter_cons_of_neg (by simpa using hactive)]
          exact ih
        · rw [List.map_cons, if_neg hid, List.filter_cons_of_neg (by simpa using hactive),
            List.filter_cons_of_neg (by simpa using hactive)]
          exact ih
  · rfl

lemma holds_insertLock {reason : EnforcementReason} {source : String} {notes : Option String} :
    (insertLock db j reason accessMode source notes).holds id =
      db.holds id ++ if j = id then [⟨db.locks.next, reason, source⟩] else [] := by
  simp only [LifecycleDb.holds, LifecycleDb.activeLocks, insertLock, Table.insert,
    List.filter_append, List.map_append]
  split_ifs with hid <;> simp [hid, EnforcementLock.hold]

lemma view_upgradeLock {lockId : ℕ} : (upgradeLock db lockId accessMode).view id = db.view id := by
  have hsame : (upgradeLock db lockId accessMode).subscriptions = db.subscriptions ∧
      (upgradeLock db lockId accessMode).events = db.events ∧
      (upgradeLock db lockId accessMode).credits = db.credits := by
    unfold upgradeLock
    split_ifs <;> exact ⟨rfl, rfl, rfl⟩
  obtain ⟨hsubscriptions, hevents, hcredits⟩ := hsame
  simp only [LifecycleDb.view, holds_upgradeLock, LifecycleDb.disabledAt, LifecycleDb.creditsOf,
    hsubscriptions, hevents, hcredits]

lemma view_insertLock {reason : EnforcementReason} {source : String} {notes : Option String} :
    (insertLock db j reason accessMode source notes).view id = (db.view id).map fun v =>
      { v with
        locks := v.locks ++ if j = id then [⟨db.locks.next, reason, source⟩] else [] } := by
  rw [LifecycleDb.view, LifecycleDb.view, Option.map_map, holds_insertLock]
  rfl

/-- What a transition adds to the evidence that the subscription was disabled; a replay adds
nothing, since the evidence is there. -/
def DisabledAfter (now : ℤ) (toStatus : SubscriptionStatus) (before after : List ℤ) : Prop :=
  after = before ∧ (toStatus = .disabled → before ≠ []) ∨
    toStatus = .disabled ∧ after = before ++ [now]

/-- A command about one subscription leaves the others, and the service orders, as they are. -/
structure Frame (id : ℕ) (db db' : LifecycleDb) : Prop where
  others : ∀ j ≠ id, db'.view j = db.view j
  serviceOrders : db'.serviceOrders = db.serviceOrders

lemma Frame.refl : Frame id db db := ⟨fun _ _ => rfl, rfl⟩

lemma Frame.trans {db'' : LifecycleDb} (h : Frame id db db') (h' : Frame id db' db'') :
    Frame id db db'' :=
  ⟨fun j hj => (h'.others j hj).trans (h.others j hj), h'.serviceOrders.trans h.serviceOrders⟩

lemma recordLifecycleEvidence_eq_ok {fromStatus toStatus : SubscriptionStatus} {reason : String}
    {effectiveAt : ℤ}
    (h : recordLifecycleEvidence db call id fromStatus toStatus reason effectiveAt = .ok db') :
    ∃ events, db' = { db with events } ∧ (∀ j ≠ id, db'.disabledAt j = db.disabledAt j) ∧
      DisabledAfter call.now toStatus (db.disabledAt id) (db'.disabledAt id) := by
  simp only [recordLifecycleEvidence, bind_eq_ok, ensure_eq_ok] at h
  obtain ⟨-, -, h⟩ := h
  split at h
  case h_1 prior hprior =>
    simp only [bind_eq_ok, ensure_eq_ok] at h
    obtain ⟨-, ⟨hid, -, hto, -⟩, h⟩ := h
    obtain rfl := pure_eq_ok.mp h
    refine ⟨db.events, rfl, fun _ _ => rfl, .inl ⟨rfl, fun hdisabled => ?_⟩⟩
    have hmem : prior.createdAt ∈ db.disabledAt id := by
      refine List.mem_map_of_mem (List.mem_filter.mpr ⟨List.mem_of_find?_eq_some hprior, ?_⟩)
      simp [hid, hto, hdisabled]
    exact List.ne_nil_of_mem hmem
  case h_2 =>
    simp only [bind_eq_ok, ensure_eq_ok] at h
    obtain ⟨_, -, -, -, h⟩ := h
    obtain rfl := pure_eq_ok.mp h
    refine ⟨_, rfl, fun j hj => ?_, ?_⟩
    · simp [LifecycleDb.disabledAt, Table.insert, List.filter_append, hj.symm]
    · by_cases hto : toStatus = .disabled
      · refine .inr ⟨hto, ?_⟩
        simp [LifecycleDb.disabledAt, Table.insert, List.filter_append, hto]
      · refine .inl ⟨?_, fun hdisabled => absurd hdisabled hto⟩
        simp [LifecycleDb.disabledAt, Table.insert, List.filter_append, hto]

/-- A transition moves the status, with its evidence, and frames the rest. -/
lemma applyTransition_eq_ok {toStatus : SubscriptionStatus} {reason : String} {effectiveAt : ℤ}
    {row : Subscription}
    (h : applyTransition db call subscription toStatus reason effectiveAt = .ok db')
    (hrow : db.subscriptions.get? subscription.id = some row) :
    Frame subscription.id db db' ∧ ∃ disabledAt,
      DisabledAfter call.now toStatus (db.disabledAt subscription.id) disabledAt ∧
      db'.view subscription.id = some ⟨subscription.subscriberId, toStatus,
        subscription.nextBillingAt, db.holds subscription.id, disabledAt,
        db.creditsOf subscription.id⟩ := by
  obtain ⟨events, rfl, hothers, hself⟩ := recordLifecycleEvidence_eq_ok h
  have hget := get?_put_self call.now { subscription with status := toStatus } hrow
  refine ⟨⟨fun j hj => ?_, rfl⟩, _, hself, ?_⟩
  · rw [LifecycleDb.view, LifecycleDb.view]
    rw [show ({ db.put call.now { subscription with status := toStatus } with events } :
      LifecycleDb).subscriptions.get? j = db.subscriptions.get? j from
        get?_put_ne call.now { subscription with status := toStatus } hj, hothers j hj]
    rfl
  · rw [LifecycleDb.view]
    rw [show ({ db.put call.now { subscription with status := toStatus } with events } :
      LifecycleDb).subscriptions.get? subscription.id = _ from hget]
    rfl

lemma DisabledAfter.eq {now : ℤ} {toStatus : SubscriptionStatus} {before after : List ℤ}
    (h : DisabledAfter now toStatus before after) (hne : toStatus ≠ .disabled) : after = before :=
  h.elim (·.1) fun h => absurd h.1 hne

variable {now : ℤ} {resolvedBy : String} {p : EnforcementLock → Bool} {q : Hold → Bool}
  {notes : Option String → Option String}

lemma view_resolveLocks (hv : db.view id = some v)
    (hp : ∀ lock, lock.subscriptionId = id → lock.isActive = true → p lock = q lock.hold) :
    (db.resolveLocks now resolvedBy p notes).view id =
      some { v with locks := v.locks.filter (!q ·) } := by
  obtain ⟨subscription, hget, rfl⟩ := exists_of_view hv
  have hrow : (db.resolveLocks now resolvedBy p notes).subscriptions.get? id = some subscription :=
    hget
  rw [view_of_get? hrow, holds_resolveLocks_self hp]
  rfl

lemma frame_resolveLocks (hp : ∀ lock, p lock = true → lock.subscriptionId = id) :
    Frame id db (db.resolveLocks now resolvedBy p notes) := by
  refine ⟨fun j hj => ?_, rfl⟩
  rw [LifecycleDb.view, LifecycleDb.view, holds_resolveLocks_of_forall]
  · rfl
  · intro lock hlock _
    exact Bool.eq_false_iff.mpr fun h => hj (hlock.symm.trans (hp lock h))

end DotmacSub.Lifecycle
