import DotmacSub.Lifecycle.Accounts

/-!
# The lock table under the lifecycle commands

A lock that has been resolved stays resolved, whatever the commands do to its subscription, and a
suspension leaves a lock of its reason.
-/

namespace DotmacSub.Lifecycle

open Store Checked
open ServiceExtensions (SubscriptionStatus)

/-- A lock that is there and no longer active. -/
def Settled (db : LifecycleDb) (lockId : ℕ) : Prop :=
  ∃ lock, db.locks.get? lockId = some lock ∧ lock.isActive = false

/-- The locks of before are there after, and are not active unless they were. -/
def Settles (db db' : LifecycleDb) : Prop :=
  ∀ lockId lock, db.locks.get? lockId = some lock →
    ∃ lock', db'.locks.get? lockId = some lock' ∧ (lock.isActive = false → lock'.isActive = false)

/-- A lock of a reason holds the subscription. -/
def Held (db : LifecycleDb) (id : ℕ) (reason : EnforcementReason) : Prop :=
  ∃ lock ∈ db.activeLocks id, lock.reason = reason

section Settling

variable {db db' db'' : LifecycleDb} {call : Call} {id subscriberId : ℕ}
  {subscription : Subscription} {reason source trigger resolvedBy : String}

lemma Settles.refl : Settles db db := fun _ lock hget => ⟨lock, hget, fun h => h⟩

lemma Settles.trans (h : Settles db db') (h' : Settles db' db'') : Settles db db'' := by
  intro lockId lock hget
  obtain ⟨lock', hget', hkept⟩ := h lockId lock hget
  obtain ⟨lock'', hget'', hkept'⟩ := h' lockId lock' hget'
  exact ⟨lock'', hget'', fun hactive => hkept' (hkept hactive)⟩

lemma Settles.settled {lockId : ℕ} (h : Settles db db') (hlock : Settled db lockId) :
    Settled db' lockId := by
  obtain ⟨lock, hget, hactive⟩ := hlock
  obtain ⟨lock', hget', hkept⟩ := h lockId lock hget
  exact ⟨lock', hget', hkept hactive⟩

lemma settles_of_eq (h : db'.locks = db.locks) : Settles db db' :=
  fun _ lock hget => ⟨lock, h ▸ hget, fun hactive => hactive⟩

lemma settles_foldlM {ι : Type} {f : LifecycleDb → ι → Except LifecycleError LifecycleDb}
    {l : List ι} (hturn : ∀ s x t, f s x = .ok t → Settles s t)
    (h : l.foldlM f db = .ok db') : Settles db db' :=
  foldlM_keeps (p := Settles db) (fun s x _ t ht hs => hs.trans (hturn s x t ht)) .refl h

lemma settles_resolveLocks {now : ℤ} {resolvedBy : String} {p : EnforcementLock → Bool}
    {notes : Option String → Option String} :
    Settles db (db.resolveLocks now resolvedBy p notes) := by
  intro lockId lock hget
  refine ⟨_, (Table.get?_map (h := fun lock => by split_ifs <;> rfl)).trans
    (congrArg _ hget), fun hactive => ?_⟩
  dsimp only
  split_ifs
  · rfl
  · exact hactive

lemma settles_resolveAllLocks {resolvedBy : String} :
    Settles db (resolveAllLocks db call id resolvedBy) :=
  settles_resolveLocks

lemma settles_upgradeLock {lockId : ℕ} {accessMode : AccessRestrictionMode} :
    Settles db (upgradeLock db lockId accessMode) := by
  intro other lock hget
  unfold upgradeLock
  split_ifs
  · by_cases hid : other = lockId
    · subst hid
      exact ⟨_, Table.get?_update_self (g := fun lock : EnforcementLock =>
        { lock with accessMode := .hardReject }) (h := fun _ => rfl) hget, fun hactive => hactive⟩
    · exact ⟨lock, (Table.get?_update_ne (g := fun lock : EnforcementLock =>
        { lock with accessMode := .hardReject }) (h := fun _ => rfl) hid).trans hget,
          fun hactive => hactive⟩
  · exact ⟨lock, hget, fun hactive => hactive⟩

lemma settles_insertLock {reason : EnforcementReason} {accessMode : AccessRestrictionMode}
    {notes : Option String} : Settles db (insertLock db id reason accessMode source notes) :=
  fun _ lock hget =>
    ⟨lock, Table.get?_insert_of_some (h := fun _ => rfl) hget, fun hactive => hactive⟩

lemma locks_applyTransition {toStatus : SubscriptionStatus} {effectiveAt : ℤ}
    (h : applyTransition db call subscription toStatus reason effectiveAt = .ok db') :
    db'.locks = db.locks := by
  obtain ⟨events, rfl, -⟩ := recordLifecycleEvidence_eq_ok h
  rfl

lemma locks_holdSubscription (h : holdSubscription db call subscription reason = .ok db') :
    db'.locks = db.locks := by
  unfold holdSubscription at h
  split_ifs at h
  · obtain rfl := pure_eq_ok.mp h
    rfl
  · exact locks_applyTransition h

lemma locks_reactivate {baseAt : ℤ} {evidenceRef : EvidenceRef}
    (h : reactivate db call subscription baseAt evidenceRef reason = .ok db') :
    db'.locks = db.locks := by
  obtain ⟨_, -, h⟩ := bind_eq_ok.mp h
  exact locks_applyTransition h

lemma suspendSubscription_locks {reason : EnforcementReason} {accessMode : AccessRestrictionMode}
    {notes : Option String}
    (h : suspendSubscription db call id reason source accessMode notes = .ok db') :
    (∃ existing ∈ db.activeLocks id, existing.reason = reason ∧
        db'.locks = (upgradeLock db existing.id accessMode).locks) ∨
      db'.locks = (insertLock db id reason accessMode source notes).locks := by
  simp only [suspendSubscription, bind_eq_ok, ensure_eq_ok, findSubscription_eq_ok] at h
  obtain ⟨subscription, -, -, -, h⟩ := h
  split at h
  case h_1 existing hexisting =>
    refine .inl ⟨existing, List.mem_of_find?_eq_some hexisting, ?_, locks_holdSubscription h⟩
    exact of_decide_eq_true (List.find?_some
      (p := fun lock : EnforcementLock => lock.reason = reason) hexisting)
  case h_2 => exact .inr (locks_holdSubscription h)

lemma suspendSubscription_settles {reason : EnforcementReason} {accessMode : AccessRestrictionMode}
    {notes : Option String}
    (h : suspendSubscription db call id reason source accessMode notes = .ok db') :
    Settles db db' := by
  obtain ⟨_, -, -, hlocks⟩ | hlocks := suspendSubscription_locks h
  · exact settles_upgradeLock.trans (settles_of_eq hlocks)
  · exact settles_insertLock.trans (settles_of_eq hlocks)

lemma restoreSubscriptionDetailed_locks {scope : Option EnforcementReason} {notes : Option String}
    {result : RestorationResult}
    (h : restoreSubscriptionDetailed db call id trigger resolvedBy scope notes =
      .ok (db', result)) :
    db'.locks = db.locks ∨
      db'.locks = (resolveLocksForTrigger db call id trigger resolvedBy scope notes).1.locks := by
  obtain ⟨subscription, -, h⟩ := bind_eq_ok.mp h
  by_cases hheld : subscription.status ∈ suspendedEquivalent
  · right
    rw [if_neg (not_not.mpr hheld)] at h
    obtain ⟨_, -, h⟩ := bind_eq_ok.mp h
    dsimp only at h
    generalize resolveLocksForTrigger db call id trigger resolvedBy scope notes = resolved at h ⊢
    by_cases hremaining : resolved.1.activeLocks id = []
    · rw [if_neg (not_not.mpr hremaining)] at h
      split_ifs at h
      · obtain ⟨rfl, -⟩ := mk_eq_ok.mp h
        rfl
      · obtain ⟨restored, hrestored, h⟩ := bind_eq_ok.mp h
        obtain ⟨rfl, -⟩ := mk_eq_ok.mp h
        exact locks_reactivate hrestored
    · rw [if_pos hremaining] at h
      obtain ⟨rfl, -⟩ := mk_eq_ok.mp h
      rfl
  · left
    rw [if_pos hheld] at h
    obtain ⟨rfl, -⟩ := mk_eq_ok.mp h
    rfl

lemma restoreSubscriptionDetailed_settles {scope : Option EnforcementReason} {notes : Option String}
    {result : RestorationResult}
    (h : restoreSubscriptionDetailed db call id trigger resolvedBy scope notes =
      .ok (db', result)) : Settles db db' := by
  obtain hlocks | hlocks := restoreSubscriptionDetailed_locks h
  · exact settles_of_eq hlocks
  · exact settles_resolveLocks.trans (settles_of_eq hlocks)

lemma resolveStaleLockWithoutRestoration_locks {reason : EnforcementReason} {notes : Option String}
    {count : ℕ} (h : resolveStaleLockWithoutRestoration db call id trigger resolvedBy reason notes =
      .ok (db', count)) :
    db'.locks =
      (resolveLocksForTrigger db call id trigger resolvedBy (some reason) notes).1.locks := by
  obtain ⟨_, -, h⟩ := bind_eq_ok.mp h
  obtain ⟨-, h⟩ := ensure_bind_eq_ok.mp h
  obtain ⟨rfl, -⟩ := mk_eq_ok.mp h
  rfl

lemma resolveStaleLockWithoutRestoration_settles {reason : EnforcementReason}
    {notes : Option String} {count : ℕ}
    (h : resolveStaleLockWithoutRestoration db call id trigger resolvedBy reason notes =
      .ok (db', count)) : Settles db db' :=
  settles_resolveLocks.trans (settles_of_eq (resolveStaleLockWithoutRestoration_locks h))

lemma activateSubscription_settles {startAt : Option ℤ}
    (h : activateSubscription db call id startAt = .ok db') : Settles db db' := by
  simp only [activateSubscription, bind_eq_ok, ensure_eq_ok] at h
  obtain ⟨_, -, -, -, subscriber, -, -, -, _, -, activated, hactivated, h⟩ := h
  refine settles_of_eq (.trans ?_ (locks_applyTransition hactivated))
  unfold ensureSubscriberRole at h
  split at h
  · obtain rfl := pure_eq_ok.mp h
    rfl
  · obtain ⟨_, -, h⟩ := bind_eq_ok.mp h
    obtain rfl := pure_eq_ok.mp h
    rfl

lemma expireSubscription_settles (h : expireSubscription db call id = .ok db') :
    Settles db db' := by
  obtain ⟨_, -, h⟩ := bind_eq_ok.mp h
  obtain ⟨-, h⟩ := ensure_bind_eq_ok.mp h
  exact settles_resolveAllLocks.trans (settles_of_eq (locks_applyTransition h))

lemma cancelSubscription_settles {generateCredit : Bool}
    (h : cancelSubscription db call id reason generateCredit = .ok db') : Settles db db' := by
  obtain ⟨_, -, h⟩ := bind_eq_ok.mp h
  obtain ⟨-, h⟩ := ensure_bind_eq_ok.mp h
  obtain ⟨canceled, hcanceled, h⟩ := bind_eq_ok.mp h
  obtain rfl := pure_eq_ok.mp h
  have hended : Settles db (endAddOns (resolveAllLocks db call id "canceled") id call.now) :=
    settles_resolveAllLocks
  have hresolved : Settles db canceled :=
    hended.trans (settles_of_eq (locks_applyTransition hcanceled))
  cases generateCredit with
  | true => exact hresolved.trans (settles_of_eq rfl)
  | false => exact hresolved

lemma disableSubscription_settles {preserveLocks disabled : Bool}
    (h : disableSubscription db call id reason preserveLocks = .ok (db', disabled)) :
    Settles db db' := by
  obtain ⟨subscription, -, h⟩ := bind_eq_ok.mp h
  by_cases hdisabled : subscription.status = .disabled
  · rw [if_pos hdisabled] at h
    obtain ⟨rfl, -⟩ := mk_eq_ok.mp h
    exact .refl
  · rw [if_neg hdisabled] at h
    obtain ⟨-, h⟩ := ensure_bind_eq_ok.mp h
    obtain ⟨_, hdisabled, h⟩ := bind_eq_ok.mp h
    obtain ⟨rfl, -⟩ := mk_eq_ok.mp h
    cases preserveLocks with
    | true => exact settles_of_eq (locks_applyTransition hdisabled)
    | false => exact settles_resolveAllLocks.trans (settles_of_eq (locks_applyTransition hdisabled))

lemma enableSubscription_settles {enabled : Bool}
    (h : enableSubscription db call id reason = .ok (db', enabled)) : Settles db db' := by
  obtain ⟨_, -, h⟩ := bind_eq_ok.mp h
  split_ifs at h
  · obtain ⟨rfl, -⟩ := mk_eq_ok.mp h
    exact .refl
  · obtain ⟨_, -, h⟩ := bind_eq_ok.mp h
    obtain ⟨_, hheld, h⟩ := bind_eq_ok.mp h
    obtain ⟨rfl, -⟩ := mk_eq_ok.mp h
    exact settles_of_eq (locks_applyTransition hheld)
  · obtain ⟨_, -, h⟩ := bind_eq_ok.mp h
    obtain ⟨rfl, -⟩ := mk_eq_ok.mp h
    exact .refl
  · obtain ⟨_, -, h⟩ := bind_eq_ok.mp h
    obtain ⟨_, -, h⟩ := bind_eq_ok.mp h
    obtain ⟨_, henabled, h⟩ := bind_eq_ok.mp h
    obtain ⟨rfl, -⟩ := mk_eq_ok.mp h
    exact settles_of_eq (locks_applyTransition henabled)

lemma transitionSubscriptionStatus_settles {target : SubscriptionStatus} {applied : Bool}
    (h : transitionSubscriptionStatus db call id target reason source = .ok (db', applied)) :
    Settles db db' := by
  obtain ⟨subscription, -, h⟩ := bind_eq_ok.mp h
  by_cases hsame : subscription.status = target
  · rw [if_pos hsame] at h
    obtain ⟨rfl, -⟩ := mk_eq_ok.mp h
    exact .refl
  rw [if_neg hsame] at h
  obtain ⟨_, -, h⟩ := bind_eq_ok.mp h
  split at h
  case h_1 =>
    split_ifs at h
    · obtain ⟨_, hactivate, h⟩ := bind_eq_ok.mp h
      obtain ⟨rfl, -⟩ := mk_eq_ok.mp h
      exact activateSubscription_settles hactivate
    · exact enableSubscription_settles h
    · obtain ⟨_, hrestore, h⟩ := bind_eq_ok.mp h
      obtain ⟨rfl, -⟩ := mk_eq_ok.mp h
      exact restoreSubscriptionDetailed_settles hrestore
  case h_2 =>
    obtain ⟨_, hsuspend, h⟩ := bind_eq_ok.mp h
    obtain ⟨rfl, -⟩ := mk_eq_ok.mp h
    exact suspendSubscription_settles hsuspend
  case h_3 =>
    obtain ⟨_, hcancel, h⟩ := bind_eq_ok.mp h
    obtain ⟨rfl, -⟩ := mk_eq_ok.mp h
    exact cancelSubscription_settles hcancel
  case h_4 =>
    obtain ⟨_, hexpire, h⟩ := bind_eq_ok.mp h
    obtain ⟨rfl, -⟩ := mk_eq_ok.mp h
    exact expireSubscription_settles hexpire
  case h_5 => exact disableSubscription_settles h
  case h_6 => cases h

lemma alignSubscription_settles {target : SubscriberStatus} {preserveLocks : Bool}
    (h : alignSubscription call target reason source preserveLocks db id = .ok db') :
    Settles db db' := by
  obtain ⟨_, -, h⟩ := bind_eq_ok.mp h
  split at h
  case h_1 =>
    split_ifs at h
    · obtain ⟨_, htransition, h⟩ := bind_eq_ok.mp h
      obtain rfl := pure_eq_ok.mp h
      exact transitionSubscriptionStatus_settles htransition
    · exact pure_eq_ok.mp h ▸ .refl
  case h_2 | h_3 =>
    split_ifs at h
    · exact suspendSubscription_settles h
    · exact pure_eq_ok.mp h ▸ .refl
  case h_4 =>
    split_ifs at h
    · exact pure_eq_ok.mp h ▸ .refl
    · obtain ⟨_, hdisable, h⟩ := bind_eq_ok.mp h
      obtain rfl := pure_eq_ok.mp h
      exact disableSubscription_settles hdisable
  case h_5 =>
    split_ifs at h
    · exact pure_eq_ok.mp h ▸ .refl
    · exact cancelSubscription_settles h
  case h_6 | h_7 => exact pure_eq_ok.mp h ▸ .refl

lemma transitionAccountStatus_settles {target : SubscriberStatus} {preserveLocks : Bool}
    (h : transitionAccountStatus db call subscriberId target reason source preserveLocks =
      .ok db') : Settles db db' := by
  simp only [transitionAccountStatus, bind_eq_ok] at h
  obtain ⟨-, -, -, -, h⟩ := h
  have hloop : ∀ {recorded : LifecycleDb}, (db.subscriptionIds subscriberId).foldlM
        (alignSubscription call target reason source preserveLocks) recorded = .ok db' →
      recorded.locks = db.locks → Settles db db' := fun h hlocks => (settles_of_eq hlocks).trans
    (settles_foldlM (fun _ _ _ hturn => alignSubscription_settles hturn) h)
  split_ifs at h
  · obtain ⟨recorded, hrecorded, h⟩ := bind_eq_ok.mp h
    obtain ⟨_, _, rfl⟩ := clearAccountLifecycleOverride_eq_ok hrecorded
    exact hloop h rfl
  · obtain ⟨recorded, hrecorded, h⟩ := bind_eq_ok.mp h
    obtain ⟨_, _, rfl⟩ := setAccountLifecycleOverride_eq_ok hrecorded
    exact hloop h rfl

lemma unsuspendSubscription_settles {recordedSource : String}
    (h : unsuspendSubscription call subscriberId recordedSource reason source db id = .ok db') :
    Settles db db' := by
  obtain ⟨_, -, h⟩ := bind_eq_ok.mp h
  dsimp only at h
  split_ifs at h
  · exact pure_eq_ok.mp h ▸ .refl
  · exact pure_eq_ok.mp h ▸ .refl
  · exact settles_resolveLocks.trans (settles_of_eq (locks_reactivate h))
  · exact pure_eq_ok.mp h ▸ settles_resolveLocks

lemma unsuspendAccountOverride_settles
    (h : unsuspendAccountOverride db call subscriberId reason source = .ok db') :
    Settles db db' := by
  simp only [unsuspendAccountOverride, bind_eq_ok] at h
  obtain ⟨_, -, recorded, -, -, -, aligned, haligned, h⟩ := h
  obtain ⟨_, _, rfl⟩ := clearAccountLifecycleOverride_eq_ok h
  exact (settles_foldlM (fun _ _ _ hturn => unsuspendSubscription_settles hturn) haligned).trans
    (settles_of_eq rfl)

/-- **A settled lock stays settled** under every command. -/
theorem step_settles {c : Command} (h : step db (call, c) = .ok db') : Settles db db' := by
  cases c with
  | suspend => exact suspendSubscription_settles h
  | restore =>
    obtain ⟨⟨_, _⟩, hrestore, rfl⟩ := map_eq_ok.mp h
    exact restoreSubscriptionDetailed_settles hrestore
  | resolveStaleLock =>
    obtain ⟨⟨_, _⟩, hresolve, rfl⟩ := map_eq_ok.mp h
    exact resolveStaleLockWithoutRestoration_settles hresolve
  | activate => exact activateSubscription_settles h
  | expire => exact expireSubscription_settles h
  | cancel => exact cancelSubscription_settles h
  | disable =>
    obtain ⟨⟨_, _⟩, hdisable, rfl⟩ := map_eq_ok.mp h
    exact disableSubscription_settles hdisable
  | enable =>
    obtain ⟨⟨_, _⟩, henable, rfl⟩ := map_eq_ok.mp h
    exact enableSubscription_settles henable
  | transition =>
    obtain ⟨⟨_, _⟩, htransition, rfl⟩ := map_eq_ok.mp h
    exact transitionSubscriptionStatus_settles htransition
  | transitionAccount => exact transitionAccountStatus_settles h
  | unsuspendAccount => exact unsuspendAccountOverride_settles h
  | setOverride =>
    obtain ⟨_, _, rfl⟩ := setAccountLifecycleOverride_eq_ok h
    exact settles_of_eq rfl
  | clearOverride =>
    obtain ⟨_, _, rfl⟩ := clearAccountLifecycleOverride_eq_ok h
    exact settles_of_eq rfl
  | elsewhere =>
    obtain rfl := Except.ok.inj h
    exact settles_of_eq rfl

/-- **No lock comes back**: in every run locks stay in the table, and resolved ones resolved. -/
theorem settles_run (db : LifecycleDb) (commands : List (Call × Command)) :
    Settles db (Run.run step db commands) :=
  Run.invariant_run (fun _ _ _ hkept hok => hkept.trans (step_settles hok)) commands .refl

end Settling

variable {db db' : LifecycleDb} {call : Call} {id j : ℕ} {reason reason' : EnforcementReason}
  {source : String} {accessMode : AccessRestrictionMode} {notes : Option String}

lemma held_iff : Held db id reason ↔ ∃ hold ∈ db.holds id, hold.reason = reason := by
  constructor
  · rintro ⟨lock, hlock, hreason⟩
    exact ⟨lock.hold, List.mem_map_of_mem hlock, hreason⟩
  · rintro ⟨_, hhold, hreason⟩
    obtain ⟨lock, hlock, rfl⟩ := List.mem_map.mp hhold
    exact ⟨lock, hlock, hreason⟩

lemma holds_congr (h : db'.locks = db.locks) : db'.holds id = db.holds id := by
  unfold LifecycleDb.holds LifecycleDb.activeLocks
  rw [h]

/-- **A suspension** holds its subscription, and no subscription less than before. -/
theorem suspendSubscription_held
    (h : suspendSubscription db call id reason source accessMode notes = .ok db') :
    Held db' id reason ∧ ∀ j reason', Held db j reason' → Held db' j reason' := by
  obtain ⟨existing, hmem, rfl, hlocks⟩ | hlocks := suspendSubscription_locks h
  · have hsame : ∀ j, db'.holds j = db.holds j := fun j =>
      (holds_congr hlocks).trans holds_upgradeLock
    refine ⟨held_iff.mpr ?_, fun j reason' hheld => held_iff.mpr ?_⟩
    · rw [hsame]
      exact held_iff.mp ⟨existing, hmem, rfl⟩
    · rw [hsame]
      exact held_iff.mp hheld
  · have hmore : ∀ j, db'.holds j =
        db.holds j ++ if id = j then [⟨db.locks.next, reason, source⟩] else [] := fun j =>
      (holds_congr hlocks).trans holds_insertLock
    refine ⟨held_iff.mpr ?_, fun j reason' hheld => held_iff.mpr ?_⟩
    · rw [hmore, if_pos rfl]
      exact ⟨_, List.mem_append_right _ List.mem_cons_self, rfl⟩
    · obtain ⟨hold, hhold, hreason⟩ := held_iff.mp hheld
      rw [hmore]
      exact ⟨hold, List.mem_append_left _ hhold, hreason⟩

end DotmacSub.Lifecycle
