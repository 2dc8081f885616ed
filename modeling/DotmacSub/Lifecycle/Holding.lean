import DotmacSub.Lifecycle.Settled

/-!
# Whom the locks hold

Suspensions and restorations leave every service with its account.  A suspension holds its service
for its reason and otherwise what was held before; a restoration holds nothing more than before.
-/

namespace DotmacSub.Lifecycle

open Store Checked

/-- The accounts have the services that they had. -/
def SameServices (db db' : LifecycleDb) : Prop :=
  ∀ id, (db'.view id).map (·.subscriberId) = (db.view id).map (·.subscriberId)

section Services

variable {db db' db'' : LifecycleDb} {call : Call} {id : ℕ} {now : ℤ} {c : Command}

lemma SameServices.refl : SameServices db db := fun _ => rfl

lemma SameServices.trans (h : SameServices db db') (h' : SameServices db' db'') :
    SameServices db db'' := fun id => (h' id).trans (h id)

lemma mem_subscriptionIds_iff {subscriberId : ℕ} : id ∈ db.subscriptionIds subscriberId ↔
    (db.view id).map (·.subscriberId) = some subscriberId := by
  cases hview : db.view id with
  | some v => rw [mem_subscriptionIds hview, Option.map_some, Option.some.injEq]
  | none =>
    refine iff_of_false (fun hmem => ?_) (by simp)
    obtain ⟨row, hrow, rfl⟩ := List.mem_map.mp hmem
    have hget : db.subscriptions.get? row.id = some row :=
      Table.get?_eq_some.mpr ⟨(List.mem_filter.mp hrow).1, rfl⟩
    rw [view_of_get? hget] at hview
    cases hview

lemma SameServices.mem_subscriptionIds {subscriberId : ℕ} (h : SameServices db db') :
    id ∈ db'.subscriptionIds subscriberId ↔ id ∈ db.subscriptionIds subscriberId := by
  rw [mem_subscriptionIds_iff, mem_subscriptionIds_iff, h id]

lemma Moved.subscriberId {w w' : View} (h : Moved db now id c w w') :
    w'.subscriberId = w.subscriberId := by
  induction h with
  | routed _ _ ih => exact ih
  | _ => rfl

lemma Moves.sameServices {v : View} (hv : db.view id = some v) (h : Moves db now id c db') :
    SameServices db db' := by
  intro j
  by_cases hj : j = id
  · subst hj
    obtain ⟨v', hv', hmoved⟩ := h.2 v hv
    rw [hv, hv', Option.map_some, Option.map_some, hmoved.subscriberId]
  · rw [h.1.others j hj]

lemma suspendSubscription_sameServices {reason : EnforcementReason} {source : String}
    {accessMode : AccessRestrictionMode} {notes : Option String}
    (h : suspendSubscription db call id reason source accessMode notes = .ok db') :
    SameServices db db' := by
  obtain ⟨subscription, hget, -⟩ := bind_eq_ok.mp h
  exact (suspendSubscription_moves h).sameServices (view_of_get? (findSubscription_eq_ok.mp hget))

lemma restoreSubscriptionDetailed_sameServices {trigger resolvedBy : String}
    {scope : Option EnforcementReason} {notes : Option String} {result : RestorationResult}
    (h : restoreSubscriptionDetailed db call id trigger resolvedBy scope notes =
      .ok (db', result)) : SameServices db db' := by
  obtain ⟨subscription, hget, -⟩ := bind_eq_ok.mp h
  exact (restoreSubscriptionDetailed_moves h).sameServices
    (view_of_get? (findSubscription_eq_ok.mp hget))

lemma resolveStaleLockWithoutRestoration_sameServices {trigger resolvedBy : String}
    {reason : EnforcementReason} {notes : Option String} {count : ℕ}
    (h : resolveStaleLockWithoutRestoration db call id trigger resolvedBy reason notes =
      .ok (db', count)) : SameServices db db' := by
  obtain ⟨subscription, hget, -⟩ := bind_eq_ok.mp h
  exact (resolveStaleLockWithoutRestoration_moves h).sameServices
    (view_of_get? (findSubscription_eq_ok.mp hget))

end Services

section Suspending

variable {db db' : LifecycleDb} {call : Call} {id j : ℕ} {reason r : EnforcementReason}
  {source : String} {accessMode : AccessRestrictionMode} {notes : Option String}

/-- **A suspension** holds its service for its reason, and whom the locks of before hold. -/
theorem suspendSubscription_held_iff
    (h : suspendSubscription db call id reason source accessMode notes = .ok db') :
    Held db' j r ↔ Held db j r ∨ j = id ∧ r = reason := by
  refine ⟨fun hheld => ?_, ?_⟩
  · obtain ⟨existing, -, -, hlocks⟩ | hlocks := suspendSubscription_locks h
    · rw [held_iff, (holds_congr hlocks).trans holds_upgradeLock] at hheld
      exact .inl (held_iff.mpr hheld)
    · rw [held_iff, (holds_congr hlocks).trans holds_insertLock] at hheld
      obtain ⟨hold, hmem, hreason⟩ := hheld
      obtain hbefore | hnew := List.mem_append.mp hmem
      · exact .inl (held_iff.mpr ⟨hold, hbefore, hreason⟩)
      · split_ifs at hnew with hid
        · obtain rfl := List.mem_singleton.mp hnew
          exact .inr ⟨hid.symm, hreason.symm⟩
        · exact absurd hnew List.not_mem_nil
  · obtain ⟨hself, hkept⟩ := suspendSubscription_held h
    rintro (hheld | ⟨rfl, rfl⟩)
    · exact hkept j r hheld
    · exact hself

end Suspending

/-- Every active lock is one that was active before. -/
def Fewer (db db' : LifecycleDb) : Prop :=
  ∀ lock' ∈ db'.locks.rows, lock'.isActive = true → ∃ lock ∈ db.locks.rows, lock.id = lock'.id ∧
    lock.subscriptionId = lock'.subscriptionId ∧ lock.reason = lock'.reason ∧ lock.isActive = true

variable {db db' db'' : LifecycleDb} {call : Call} {id : ℕ} {reason : EnforcementReason}
  {trigger resolvedBy : String} {notes : Option String}

lemma Fewer.refl : Fewer db db := fun lock hmem hactive => ⟨lock, hmem, rfl, rfl, rfl, hactive⟩

lemma Fewer.trans (h : Fewer db db') (h' : Fewer db' db'') : Fewer db db'' := by
  intro lock'' hmem hactive
  obtain ⟨lock', hmem', hlockId, hid, hreason, hactive'⟩ := h' lock'' hmem hactive
  obtain ⟨lock, hrow, hlockId', hid', hreason', hbefore⟩ := h lock' hmem' hactive'
  exact ⟨lock, hrow, hlockId'.trans hlockId, hid'.trans hid, hreason'.trans hreason, hbefore⟩

lemma fewer_of_eq (h : db'.locks = db.locks) : Fewer db db' :=
  fun lock hmem hactive => ⟨lock, h ▸ hmem, rfl, rfl, rfl, hactive⟩

lemma Fewer.held (h : Fewer db db') (hheld : Held db' id reason) : Held db id reason := by
  obtain ⟨lock', hlock, hreason'⟩ := hheld
  obtain ⟨hmem, hlock⟩ := List.mem_filter.mp hlock
  obtain ⟨hid', hactive'⟩ := of_decide_eq_true hlock
  obtain ⟨lock, hrow, -, hid, hreason, hactive⟩ := h lock' hmem hactive'
  exact ⟨lock, List.mem_filter.mpr ⟨hrow, decide_eq_true ⟨hid.trans hid', hactive⟩⟩,
    hreason.trans hreason'⟩

lemma fewer_resolveLocksForTrigger {scope : Option EnforcementReason} :
    Fewer db (resolveLocksForTrigger db call id trigger resolvedBy scope notes).1 := by
  intro lock' hmem hactive
  obtain ⟨lock, hrow, rfl⟩ := List.mem_map.mp hmem
  split_ifs at hactive ⊢
  · cases hactive
  · exact ⟨lock, hrow, rfl, rfl, rfl, hactive⟩

lemma restoreSubscriptionDetailed_fewer {scope : Option EnforcementReason}
    {result : RestorationResult}
    (h : restoreSubscriptionDetailed db call id trigger resolvedBy scope notes =
      .ok (db', result)) : Fewer db db' := by
  obtain hlocks | hlocks := restoreSubscriptionDetailed_locks h
  · exact fewer_of_eq hlocks
  · exact fewer_resolveLocksForTrigger.trans (fewer_of_eq hlocks)

lemma resolveStaleLockWithoutRestoration_fewer {count : ℕ}
    (h : resolveStaleLockWithoutRestoration db call id trigger resolvedBy reason notes =
      .ok (db', count)) : Fewer db db' :=
  fewer_resolveLocksForTrigger.trans
    (fewer_of_eq (resolveStaleLockWithoutRestoration_locks h))

end DotmacSub.Lifecycle
