import DotmacSub.Lifecycle.Steps

/-!
# What a command of an account does to one of its subscriptions

A command of an account goes through its subscriptions, and each turn of the loop is about one of
them.  So an accepted command of any kind moves the view of any subscription in one of the ways of
`Moved`, or leaves it as it is.
-/

namespace DotmacSub.Lifecycle

open Store Checked
open ServiceExtensions (SubscriptionStatus)

variable {db db' : LifecycleDb} {call : Call} {id : ℕ} {v : View}

/-- The subscription of the turn is moved and the others are left alone. -/
lemma loop_moved (id : ℕ) {f : LifecycleDb → ℕ → Except LifecycleError LifecycleDb}
    {ids : List ℕ} (hframe : ∀ s j t, f s j = .ok t → Frame j s t) (hnodup : ids.Nodup)
    (hok : ids.foldlM f db = .ok db') :
    db'.serviceOrders = db.serviceOrders ∧ (id ∉ ids → db'.view id = db.view id) ∧
      (id ∈ ids → ∃ t u, t.view id = db.view id ∧ t.serviceOrders = db.serviceOrders ∧
        f t id = .ok u ∧ db'.view id = u.view id) := by
  refine ⟨foldlM_frame LifecycleDb.serviceOrders
    (fun s j _ t ht => (hframe s j t ht).serviceOrders) hok, fun hid => ?_, fun hid => ?_⟩
  · refine foldlM_frame (fun t => t.view id) (fun s j hj t ht => ?_) hok
    exact (hframe s j t ht).others id fun heq => hid (heq ▸ hj)
  · obtain ⟨before, after, rfl⟩ := List.append_of_mem hid
    obtain ⟨t, hbefore, hok⟩ := foldlM_append_eq_ok.mp hok
    obtain ⟨u, hturn, hafter⟩ := foldlM_cons_eq_ok.mp hok
    rw [List.nodup_append, List.nodup_cons] at hnodup
    obtain ⟨-, ⟨hlater, -⟩, hearlier⟩ := hnodup
    refine ⟨t, u, ?_, ?_, hturn, ?_⟩
    · refine foldlM_frame (fun t => t.view id) (fun s j hj t ht => ?_) hbefore
      exact (hframe s j t ht).others id (hearlier j hj id List.mem_cons_self).symm
    · exact foldlM_frame LifecycleDb.serviceOrders
        (fun s j _ t ht => (hframe s j t ht).serviceOrders) hbefore
    · refine foldlM_frame (fun t => t.view id) (fun s j hj t ht => ?_) hafter
      exact (hframe s j t ht).others id fun heq => hlater (heq ▸ hj)

lemma subscriptionIds_nodup {subscriberId : ℕ} : (db.subscriptionIds subscriberId).Nodup :=
  db.subscriptions.nodup.sublist (List.filter_sublist.map _)

lemma mem_subscriptionIds {subscriberId : ℕ} (hv : db.view id = some v) :
    id ∈ db.subscriptionIds subscriberId ↔ v.subscriberId = subscriberId := by
  obtain ⟨subscription, hget, rfl⟩ := exists_of_view hv
  obtain ⟨hmem, hid⟩ := Table.get?_eq_some.mp hget
  simp only [LifecycleDb.subscriptionIds, List.mem_map, List.mem_filter, decide_eq_true_eq]
  constructor
  · rintro ⟨row, ⟨hrow, hsubscriber⟩, heq⟩
    obtain rfl : row = subscription := Option.some.inj <|
      (Table.get?_eq_some.mpr ⟨hrow, heq⟩).symm.trans hget
    exact hsubscriber
  · exact fun hsubscriber => ⟨subscription, ⟨hmem, hsubscriber⟩, hid⟩

lemma Routes.ne_unsuspendAccount {w : View} {c c' : Command} (h : Routes id w c c')
    (subscriberId : ℕ) (reason source : String) :
    c' ≠ .unsuspendAccount subscriberId reason source := by
  cases h <;> exact Command.noConfusion

lemma Moved.transfer {now : ℤ} {c : Command} {w w' : View} (h : Moved db now id c w w')
    (hserviceOrders : db'.serviceOrders = db.serviceOrders)
    (hne : ∀ subscriberId reason source, c ≠ .unsuspendAccount subscriberId reason source) :
    Moved db' now id c w w' := by
  induction h with
  | idle => exact .idle
  | suspended hstatus hlocks => exact .suspended hstatus hlocks
  | lifted hstatus => exact .lifted hstatus
  | restored hstatus hlocks hanchor => exact .restored hstatus hlocks hanchor
  | staleResolved hstatus => exact .staleResolved hstatus
  | activated hstatus hgate hanchor =>
    have hsame : db'.salesServiceOrders id = db.salesServiceOrders id := by
      rw [LifecycleDb.salesServiceOrders, hserviceOrders]
      rfl
    exact .activated hstatus (hsame.symm ▸ hgate) hanchor
  | expired hstatus => exact .expired hstatus
  | canceled hstatus => exact .canceled hstatus
  | disabled hstatus hactive hat => exact .disabled hstatus hactive hat
  | keptHeld hstatus hlocks => exact .keptHeld hstatus hlocks
  | enabled hstatus hlocks hsince hanchor => exact .enabled hstatus hlocks hsince hanchor
  | unsuspended => exact absurd rfl (hne _ _ _)
  | returned => exact absurd rfl (hne _ _ _)
  | routed hroute _ ih => exact .routed hroute (ih hroute.ne_unsuspendAccount)

variable {target : SubscriberStatus} {reason source : String} {preserveLocks : Bool}

lemma alignSubscription_moves
    (h : alignSubscription call target reason source preserveLocks db id = .ok db') :
    Frame id db db' ∧ ∀ v, db.view id = some v → ∃ v', db'.view id = some v' ∧
      Moved db call.now id
        (.transitionAccount v.subscriberId target reason source preserveLocks) v v' := by
  simp only [alignSubscription, bind_eq_ok, findSubscription_eq_ok] at h
  obtain ⟨subscription, hget, h⟩ := h
  obtain rfl := id_of_get? hget
  have hroute : ∀ {c'}, Moves db call.plain.now subscription.id c' db' →
      (∀ v, v.status = subscription.status → Routes subscription.id v
        (.transitionAccount v.subscriberId target reason source preserveLocks) c') →
      Frame subscription.id db db' ∧ ∀ v, db.view subscription.id = some v →
        ∃ v', db'.view subscription.id = some v' ∧ Moved db call.plain.now subscription.id
          (.transitionAccount v.subscriberId target reason source preserveLocks) v v' := by
    intro c' hmoves hroutes
    refine ⟨hmoves.1, fun v hv => ?_⟩
    obtain ⟨v', hv', hmoved⟩ := hmoves.2 v hv
    obtain rfl := Option.mem_unique (view_of_get? hget) hv
    exact ⟨v', hv', .routed (hroutes _ rfl) hmoved⟩
  split at h
  case h_1 =>
    split_ifs at h with hstatus
    · obtain ⟨⟨restored, applied⟩, htransition, h⟩ := bind_eq_ok.mp h
      obtain rfl := pure_eq_ok.mp h
      refine hroute (transitionSubscriptionStatus_moves htransition) fun v hv => ?_
      rw [← hv] at hstatus
      exact .accountActive hstatus
    · obtain rfl := pure_eq_ok.mp h
      exact ⟨.refl, fun v hv => ⟨v, hv, .idle⟩⟩
  case h_2 =>
    split_ifs at h with hstatus
    · refine hroute (suspendSubscription_moves h) fun v hv => ?_
      rw [← hv] at hstatus
      exact .accountSuspended (.inl rfl) hstatus
    · obtain rfl := pure_eq_ok.mp h
      exact ⟨.refl, fun v hv => ⟨v, hv, .idle⟩⟩
  case h_3 =>
    split_ifs at h with hstatus
    · refine hroute (suspendSubscription_moves h) fun v hv => ?_
      rw [← hv] at hstatus
      exact .accountSuspended (.inr rfl) hstatus
    · obtain rfl := pure_eq_ok.mp h
      exact ⟨.refl, fun v hv => ⟨v, hv, .idle⟩⟩
  case h_4 =>
    split_ifs at h with hstatus
    · obtain rfl := pure_eq_ok.mp h
      exact ⟨.refl, fun v hv => ⟨v, hv, .idle⟩⟩
    · obtain ⟨⟨disabled, changed⟩, hdisable, h⟩ := bind_eq_ok.mp h
      obtain rfl := pure_eq_ok.mp h
      refine hroute (disableSubscription_moves hdisable) fun v hv => ?_
      rw [← hv] at hstatus
      exact .accountDisabled hstatus
  case h_5 =>
    split_ifs at h with hstatus
    · obtain rfl := pure_eq_ok.mp h
      exact ⟨.refl, fun v hv => ⟨v, hv, .idle⟩⟩
    · refine hroute (cancelSubscription_moves h) fun v hv => ?_
      rw [← hv] at hstatus
      exact .accountCanceled hstatus
  case h_6 =>
    obtain rfl := pure_eq_ok.mp h
    exact ⟨.refl, fun v hv => ⟨v, hv, .idle⟩⟩
  case h_7 =>
    obtain rfl := pure_eq_ok.mp h
    exact ⟨.refl, fun v hv => ⟨v, hv, .idle⟩⟩

lemma setAccountLifecycleOverride_eq_ok {subscriberId : ℕ}
    (h : setAccountLifecycleOverride db call subscriberId target reason source = .ok db') :
    ∃ subscriberId lifecycleOverride, db' = db.setOverride subscriberId lifecycleOverride := by
  simp only [setAccountLifecycleOverride, bind_eq_ok] at h
  obtain ⟨-, -, subscriber, -, h⟩ := h
  exact ⟨_, _, (pure_eq_ok.mp h).symm⟩

lemma clearAccountLifecycleOverride_eq_ok {subscriberId : ℕ}
    (h : clearAccountLifecycleOverride db subscriberId = .ok db') :
    ∃ subscriberId lifecycleOverride, db' = db.setOverride subscriberId lifecycleOverride := by
  simp only [clearAccountLifecycleOverride, bind_eq_ok] at h
  obtain ⟨subscriber, -, h⟩ := h
  exact ⟨_, _, (pure_eq_ok.mp h).symm⟩

lemma transitionAccountStatus_moved (id : ℕ) {subscriberId : ℕ}
    (h : transitionAccountStatus db call subscriberId target reason source preserveLocks =
      .ok db') :
    db'.serviceOrders = db.serviceOrders ∧ ∀ v, db.view id = some v → ∃ v',
      db'.view id = some v' ∧ Moved db call.now id
        (.transitionAccount subscriberId target reason source preserveLocks) v v' := by
  have hloop : ∃ overridden lifecycleOverride, (db.subscriptionIds subscriberId).foldlM
      (alignSubscription call target reason source preserveLocks)
      (db.setOverride overridden lifecycleOverride) = .ok db' := by
    simp only [transitionAccountStatus, bind_eq_ok] at h
    obtain ⟨-, -, -, -, h⟩ := h
    split_ifs at h
    · obtain ⟨recorded, hrecorded, h⟩ := bind_eq_ok.mp h
      obtain ⟨_, _, rfl⟩ := clearAccountLifecycleOverride_eq_ok hrecorded
      exact ⟨_, _, h⟩
    · obtain ⟨recorded, hrecorded, h⟩ := bind_eq_ok.mp h
      obtain ⟨_, _, rfl⟩ := setAccountLifecycleOverride_eq_ok hrecorded
      exact ⟨_, _, h⟩
  obtain ⟨_, _, hloop⟩ := hloop
  obtain ⟨hserviceOrders, hother, hturn⟩ := loop_moved id
    (fun s j t ht => (alignSubscription_moves ht).1) subscriptionIds_nodup hloop
  refine ⟨hserviceOrders, fun v hv => ?_⟩
  by_cases hid : id ∈ db.subscriptionIds subscriberId
  · obtain ⟨t, u, hbefore, horders, halign, hafter⟩ := hturn hid
    obtain ⟨v', hv', hmoved⟩ := (alignSubscription_moves halign).2 v (hbefore.trans hv)
    obtain rfl := (mem_subscriptionIds hv).mp hid
    exact ⟨v', hafter.trans hv', hmoved.transfer horders.symm fun _ _ _ => Command.noConfusion⟩
  · exact ⟨v, (hother hid).trans hv, .idle⟩

variable {subscriberId : ℕ} {recordedSource : String}

lemma unsuspendSubscription_moves
    (h : unsuspendSubscription call subscriberId recordedSource reason source db id = .ok db') :
    Frame id db db' ∧ ∀ v, db.view id = some v → ∃ v', db'.view id = some v' ∧
      (v' = v ∨ v' = { v with locks := v.locks.filter (!·.fromOverride recordedSource) } ∨
        v.status ∈ suspendedEquivalent ∧ v.locks.filter (!·.fromOverride recordedSource) = [] ∧
          ∃ anchor, (∀ previous ∈ v.nextBillingAt, anchor = previous) ∧
            v' = { v with status := .active, locks := [], nextBillingAt := some anchor }) := by
  simp only [unsuspendSubscription, bind_eq_ok, findSubscription_eq_ok] at h
  obtain ⟨subscription, hget, h⟩ := h
  obtain rfl := id_of_get? hget
  have hlifted : ∀ v, db.view subscription.id = some v →
      (db.resolveLocks call.now source (matchesOverride subscription.id recordedSource)
        (unsuspendedNotes reason)).view subscription.id =
          some { v with locks := v.locks.filter (!·.fromOverride recordedSource) } :=
    fun v hv => view_resolveLocks hv fun _ => matchesOverride_eq
  have hframe : Frame subscription.id db (db.resolveLocks call.now source
      (matchesOverride subscription.id recordedSource) (unsuspendedNotes reason)) :=
    frame_resolveLocks fun _ hlock => (of_decide_eq_true hlock).1
  split_ifs at h with hnone hblocked hrestore
  · obtain rfl := pure_eq_ok.mp h
    exact ⟨.refl, fun v hv => ⟨v, hv, .inl rfl⟩⟩
  · obtain rfl := pure_eq_ok.mp h
    exact ⟨.refl, fun v hv => ⟨v, hv, .inl rfl⟩⟩
  · have hrow : (db.resolveLocks call.now source (matchesOverride subscription.id recordedSource)
        (unsuspendedNotes reason)).subscriptions.get? subscription.id = some subscription := hget
    obtain ⟨hframe', anchor, hanchor, hactive⟩ := reactivate_eq_ok hrow h
    refine ⟨hframe.trans hframe', fun v hv => ?_⟩
    have hnil : v.locks.filter (!·.fromOverride recordedSource) = [] := by
      obtain rfl := Option.mem_unique (view_of_get? hget) hv
      refine List.filter_eq_nil_iff.mpr fun hold hhold => ?_
      obtain ⟨lock, hlock, rfl⟩ := List.mem_map.mp hhold
      have hactiveLock := of_decide_eq_true (List.mem_filter.mp hlock).2
      rw [← matchesOverride_eq hactiveLock.1 hactiveLock.2, hrestore.2 lock hlock]
      exact Bool.noConfusion
    rw [hlifted v hv, Option.map_some, hnil] at hactive
    refine ⟨_, hactive, .inr (.inr ⟨?_, hnil, anchor, ?_, rfl⟩)⟩
    · obtain rfl := Option.mem_unique (view_of_get? hget) hv
      exact hrestore.1
    · obtain rfl := Option.mem_unique (view_of_get? hget) hv
      exact hanchor
  · obtain rfl := pure_eq_ok.mp h
    exact ⟨hframe, fun v hv => ⟨_, hlifted v hv, .inr (.inl rfl)⟩⟩

lemma unsuspendAccountOverride_moved (id : ℕ)
    (h : unsuspendAccountOverride db call subscriberId reason source = .ok db') :
    db'.serviceOrders = db.serviceOrders ∧ ∀ v, db.view id = some v → ∃ v',
      db'.view id = some v' ∧
        Moved db call.now id (.unsuspendAccount subscriberId reason source) v v' := by
  simp only [unsuspendAccountOverride, bind_eq_ok] at h
  obtain ⟨subscriber, hsubscriber, recorded, hrecorded, -, -, aligned, haligned, h⟩ := h
  obtain ⟨_, _, rfl⟩ := clearAccountLifecycleOverride_eq_ok h
  obtain ⟨hoverride, hsuspended⟩ := Option.filter_eq_some_iff.mp (orRefuse_eq_ok.mp hrecorded)
  obtain ⟨hserviceOrders, hother, hturn⟩ := loop_moved id
    (fun s j t ht => (unsuspendSubscription_moves ht).1) subscriptionIds_nodup haligned
  refine ⟨hserviceOrders, fun v hv => ?_⟩
  by_cases hid : id ∈ db.subscriptionIds subscriberId
  · obtain ⟨t, u, hbefore, -, hunsuspend, hafter⟩ := hturn hid
    obtain ⟨v', hv', hcases⟩ := (unsuspendSubscription_moves hunsuspend).2 v (hbefore.trans hv)
    obtain rfl := (mem_subscriptionIds hv).mp hid
    have hfound := orRefuse_eq_ok.mp hsubscriber
    refine ⟨v', hafter.trans hv', ?_⟩
    rcases hcases with rfl | rfl | ⟨hstatus, hlocks, anchor, hanchor, rfl⟩
    · exact .idle
    · exact .unsuspended hfound hoverride (of_decide_eq_true hsuspended)
    · exact .returned hfound hoverride (of_decide_eq_true hsuspended) hstatus hlocks hanchor
  · exact ⟨v, (hother hid).trans hv, .idle⟩

lemma Moves.moved {now : ℤ} {c : Command} {j : ℕ} (h : Moves db now j c db')
    (hv : db.view id = some v) : ∃ v', db'.view id = some v' ∧ Moved db now id c v v' := by
  by_cases hid : id = j
  · obtain rfl := hid
    exact h.2 v hv
  · exact ⟨v, (h.1.others id hid).trans hv, .idle⟩

/-- **An accepted command moves every subscription** in one of the ways of its operation. -/
theorem step_moved {c : Command} (h : step db (call, c) = .ok db') (hv : db.view id = some v) :
    ∃ v', db'.view id = some v' ∧ Moved db call.now id c v v' := by
  cases c with
  | suspend => exact (suspendSubscription_moves h).moved hv
  | restore =>
    obtain ⟨⟨_, _⟩, hrestore, rfl⟩ := map_eq_ok.mp h
    exact (restoreSubscriptionDetailed_moves hrestore).moved hv
  | resolveStaleLock =>
    obtain ⟨⟨_, _⟩, hresolve, rfl⟩ := map_eq_ok.mp h
    exact (resolveStaleLockWithoutRestoration_moves hresolve).moved hv
  | activate => exact (activateSubscription_moves h).moved hv
  | expire => exact (expireSubscription_moves h).moved hv
  | cancel => exact (cancelSubscription_moves h).moved hv
  | disable =>
    obtain ⟨⟨_, _⟩, hdisable, rfl⟩ := map_eq_ok.mp h
    exact (disableSubscription_moves hdisable).moved hv
  | enable =>
    obtain ⟨⟨_, _⟩, henable, rfl⟩ := map_eq_ok.mp h
    exact (enableSubscription_moves henable).moved hv
  | transition =>
    obtain ⟨⟨_, _⟩, htransition, rfl⟩ := map_eq_ok.mp h
    exact (transitionSubscriptionStatus_moves htransition).moved hv
  | transitionAccount => exact (transitionAccountStatus_moved id h).2 v hv
  | unsuspendAccount => exact (unsuspendAccountOverride_moved id h).2 v hv
  | setOverride =>
    obtain ⟨_, _, rfl⟩ := setAccountLifecycleOverride_eq_ok h
    exact ⟨v, hv, .idle⟩
  | clearOverride =>
    obtain ⟨_, _, rfl⟩ := clearAccountLifecycleOverride_eq_ok h
    exact ⟨v, hv, .idle⟩
  | elsewhere =>
    obtain rfl := Except.ok.inj h
    exact ⟨v, hv, .idle⟩

end DotmacSub.Lifecycle
