import DotmacSub.Billing.ServiceExtensions

/-!
# What the extension commands do to one subscription

An application either leaves a subscription alone or adds one entry to it and moves its anchor to the
end of the grant; a reversal moves the anchor of a subscription back along the entry of the extension
or leaves it.
-/

namespace DotmacSub.ServiceExtensions

open Store Checked Sweeps

def anchor (subscriptions : Table Subscription) (id : ℕ) : Option ℤ :=
  (subscriptions.get? id).bind Subscription.nextBillingAt

def grantsOf (entries : Table ServiceExtensionEntry) (id : ℕ) : List ServiceExtensionEntry :=
  entries.rows.filter (·.subscriptionId = id)

variable {subscriptions subscriptions' : Table Subscription} {entries : Table ServiceExtensionEntry}
  {id : ℕ} {e : ServiceExtensionEntry}

lemma mem_grantsOf : e ∈ grantsOf entries id ↔ e ∈ entries.rows ∧ e.subscriptionId = id := by
  simp [grantsOf]

lemma stage_ok {command : BillingAnchorProjectionCommand}
    (h : stageSubscriptionBillingAnchor subscriptions command = .ok subscriptions') :
    ∃ locked, subscriptions.get? command.subscriptionId = some locked ∧
      locked.nextBillingAt = command.expectedPrevious ∧
      subscriptions'.get? command.subscriptionId = some (locked.anchored command.target) ∧
      ∀ i ≠ command.subscriptionId, subscriptions'.get? i = subscriptions.get? i := by
  simp only [stageSubscriptionBillingAnchor, bind_eq_ok, ensure_eq_ok, orRefuse_eq_ok,
    pure_eq_ok] at h
  obtain ⟨-, -, locked, hlocked, -, hexpected, -, -, rfl⟩ := h
  exact ⟨locked, hlocked, hexpected, Table.get?_update_self hlocked,
    fun i hi => Table.get?_update_ne hi⟩

section Apply

variable {μ : Type} {env : ExtensionEnv μ} {extension : ServiceExtension} {now : ℤ}
  {p q : ApplyProgress} {s r : Subscription}

def Live (s : Subscription) : Prop := s.status = .active ∨ s.status = .suspended

instance (s : Subscription) : Decidable (Live s) := inferInstanceAs (Decidable (_ ∨ _))

lemma Live.not_terminal (h : Live s) : s.status ∉ terminalStatuses := by
  rcases h with h | h <;> rw [h] <;> decide

/-- Lifting suspensions touches the status of the subscription only. -/
lemma resume_ok (h : resumeIfSuspended env extension p s = .ok q) :
    q.entries = p.entries ∧ (∀ i ≠ s.id, q.subscriptions.get? i = p.subscriptions.get? i) ∧
      ∀ r, p.subscriptions.get? s.id = some r → Live r →
        ∃ r', q.subscriptions.get? s.id = some r' ∧ Live r' ∧ r'.nextBillingAt = r.nextBillingAt := by
  unfold resumeIfSuspended at h
  split_ifs at h
  · split at h
    · exact nomatch h
    · obtain rfl := Except.ok.inj h
      refine ⟨rfl, fun i hi => ?_, fun r hr _ => ⟨r.resumed, ?_, .inl rfl, rfl⟩⟩
      · exact Table.get?_update_ne (g := Subscription.resumed) (h := fun _ => rfl) hi
      · exact Table.get?_update_self (g := Subscription.resumed) (h := fun _ => rfl) hr
    · obtain rfl := Except.ok.inj h
      exact ⟨rfl, fun _ _ => rfl, fun r hr hlive => ⟨r, hr, hlive, rfl⟩⟩
  · obtain rfl := Except.ok.inj h
    exact ⟨rfl, fun _ _ => rfl, fun r hr hlive => ⟨r, hr, hlive, rfl⟩⟩

def Extended (extensionId : ℕ) (before after : Option Subscription × List ServiceExtensionEntry) :
    Prop :=
  ∃ (s r : Subscription) (e : ServiceExtensionEntry) (a n : ℤ),
    before.1 = some s ∧ after.1 = some r ∧ Live r ∧ after.2 = before.2 ++ [e] ∧
    e.extensionId = extensionId ∧ e.previousNextBillingAt = some a ∧ e.newNextBillingAt = some n ∧
    a < n ∧ s.nextBillingAt = some a ∧ r.nextBillingAt = some n

def view (id : ℕ) (p : ApplyProgress) : Option Subscription × List ServiceExtensionEntry :=
  (p.subscriptions.get? id, grantsOf p.entries id)

lemma lt_grant {previous : ℤ} (h : 0 < extension.days) :
    previous < (resolveExtensionGrantInterval previous now extension.days).endsAt := by
  have hdays : (0 : ℤ) < extension.days * microsecondsPerDay := by
    rw [microsecondsPerDay]
    omega
  unfold resolveExtensionGrantInterval
  split_ifs with hstale
  · exact Int.lt_add_of_pos_right _ hdays
  · dsimp only
    omega

lemma grantsOf_insert {f : ℕ → ServiceExtensionEntry} (hf : ∀ i, Row.id (f i) = i) :
    grantsOf (entries.insert f hf) id =
      grantsOf entries id ++ if (f entries.next).subscriptionId = id then [f entries.next] else [] := by
  rw [grantsOf, grantsOf, Table.insert, List.filter_append, List.filter_singleton, Bool.cond_decide]

/-- What a turn does to a subscription with an anchor: the entry is recorded, the anchor is moved and
suspensions are lifted. -/
lemma extend_ok {previous : ℤ} (h : extendSubscription env extension now p s = .ok q)
    (hprevious : s.nextBillingAt = some previous) :
    q.entries = p.entries.insert (entryOf extension s previous
        (resolveExtensionGrantInterval previous now extension.days)) (fun _ => rfl) ∧
      (∀ i ≠ s.id, q.subscriptions.get? i = p.subscriptions.get? i) ∧
      ∀ r, p.subscriptions.get? s.id = some r → Live r →
        ∃ t, q.subscriptions.get? s.id = some t ∧ Live t ∧
          t.nextBillingAt = some (resolveExtensionGrantInterval previous now extension.days).endsAt := by
  simp only [extendSubscription, hprevious, bind_eq_ok, pure_eq_ok] at h
  obtain ⟨subscriptions, hstage, r', hresume, rfl⟩ := h
  obtain ⟨locked, hlocked, -, hself, hother⟩ := stage_ok hstage
  obtain ⟨hentries, hothers, hresumed⟩ := resume_ok hresume
  refine ⟨hentries, fun i hi => (hothers i hi).trans (hother i hi), fun r hr hlive => ?_⟩
  obtain rfl := Option.mem_unique hr hlocked
  exact hresumed _ hself hlive

lemma view_of_none (h : extendSubscription env extension now p s = .ok q)
    (hnone : s.nextBillingAt = none) : view id q = view id p := by
  simp only [extendSubscription, hnone] at h
  obtain rfl := Except.ok.inj h
  rfl

lemma view_of_ne (h : extendSubscription env extension now p s = .ok q) (hne : s.id ≠ id) :
    view id q = view id p := by
  cases hprevious : s.nextBillingAt with
  | none => exact view_of_none h hprevious
  | some previous =>
    obtain ⟨hentries, hother, -⟩ := extend_ok h hprevious
    have hgrants : grantsOf q.entries id = grantsOf p.entries id := by
      refine (congrArg (grantsOf · id) hentries).trans ((grantsOf_insert fun _ => rfl).trans ?_)
      exact (congrArg _ (if_neg hne)).trans (List.append_nil _)
    rw [view, view, hother id hne.symm, hgrants]

lemma view_self (h : extendSubscription env extension now p s = .ok q)
    (hs : p.subscriptions.get? s.id = some s) (hlive : Live s) :
    view s.id q = view s.id p ∨ Extended extension.id (view s.id p) (view s.id q) := by
  cases hprevious : s.nextBillingAt with
  | none => exact .inl (view_of_none h hprevious)
  | some previous =>
    obtain ⟨hentries, -, hself⟩ := extend_ok h hprevious
    obtain ⟨t, ht, htlive, hanchor⟩ := hself s hs hlive
    refine .inr ⟨s, t, entryOf extension s previous (resolveExtensionGrantInterval previous now
      extension.days) p.entries.next, previous, _, hs, ht, htlive, ?_, rfl, rfl, rfl,
      lt_grant extension.days_pos, hprevious, hanchor⟩
    refine (congrArg (grantsOf · s.id) hentries).trans ((grantsOf_insert fun _ => rfl).trans ?_)
    exact congrArg _ (if_pos rfl)

variable {db db' : ExtensionDb} {context : CommandContext}

def ExtensionDb.view (db : ExtensionDb) (id : ℕ) :
    Option Subscription × List ServiceExtensionEntry :=
  (db.subscriptions.get? id, grantsOf db.entries id)

lemma live_of_scopeFilters {scope : ServiceExtensionScope} {filters : Subscription → Bool}
    (h : scopeFilters env scope = .ok filters) (hs : filters s = true) : Live s := by
  unfold scopeFilters at h
  have hlive : decide (s.status = .active ∨ s.status = .suspended) = true := by
    split at h
    case h_1 =>
      obtain rfl := Except.ok.inj h
      exact hs
    case h_2 | h_4 | h_6 => exact nomatch h
    all_goals
      obtain rfl := Except.ok.inj h
      exact (Bool.and_eq_true_iff.mp hs).1
  exact of_decide_eq_true hlive

variable (id) in
/-- An application leaves a subscription alone or extends it. -/
lemma view_applyPending (h : applyPending env extension now db context = .ok db') :
    db'.view id = db.view id ∨ Extended extension.id (db.view id) (db'.view id) := by
  simp only [applyPending, bind_eq_ok, pure_eq_ok] at h
  obtain ⟨-, -, -, -, filters, hfilters, p, hloop, rfl⟩ := h
  have hnodup : ((sortedBy Subscription.id (db.subscriptions.rows.filter filters)).map
      Subscription.id).Nodup :=
    (perm_sortedBy.map _).nodup_iff.mpr (db.subscriptions.nodup.sublist
      (List.filter_sublist.map Subscription.id))
  by_cases hmem : ∃ s ∈ sortedBy Subscription.id (db.subscriptions.rows.filter filters), s.id = id
  · obtain ⟨s, hs, rfl⟩ := hmem
    obtain ⟨t, u, hbefore, hturn, hafter⟩ := foldlM_turn (view s.id) Subscription.id
      (fun _ _ _ hok hne => view_of_ne hok hne) hs hnodup hloop
    obtain ⟨hrow, hscope⟩ := List.mem_filter.mp (mem_sortedBy.mp hs)
    have hfound : t.subscriptions.get? s.id = some s :=
      (congrArg Prod.fst hbefore).trans (Table.get?_eq_some.mpr ⟨hrow, rfl⟩)
    have hself := view_self hturn hfound (live_of_scopeFilters hfilters hscope)
    rw [← hafter, hbefore] at hself
    exact hself
  · refine .inl (foldlM_frame (view id) (fun p s hs q hok => view_of_ne hok ?_) hloop)
    exact fun heq => hmem ⟨s, hs, heq⟩

end Apply

/-- An extension has one entry for a subscription and none while it is pending, and an entry moved
the anchor forward. -/
structure Inv (db : ExtensionDb) : Prop where
  unique : ∀ e ∈ db.entries.rows, ∀ f ∈ db.entries.rows, e.extensionId = f.extensionId →
    e.subscriptionId = f.subscriptionId → e = f
  settled : ∀ e ∈ db.entries.rows, ∀ x, db.extensions.get? e.extensionId = some x →
    x.status ≠ .pending
  rises : ∀ e ∈ db.entries.rows, ∃ a n, e.previousNextBillingAt = some a ∧
    e.newNextBillingAt = some n ∧ a < n

section Reverse

variable {env : ExtensionEnv ReversalMaterial} {db db' : ExtensionDb}
  {extension : ServiceExtension} {context : CommandContext} {key fingerprint : ℕ} {now : ℤ}
  {p q : ReversalProgress} {row : ReversalPlanRow} {reversalId : ℕ} {s : Subscription}

lemma subscription_planRow : (planRow e s).subscription = s ∧ (planRow e s).entry = e := by
  unfold planRow
  dsimp only
  split_ifs <;> exact ⟨rfl, rfl⟩

lemma restored_planRow (h : (planRow e s).disposition = .restoredPreviousAnchor) :
    s.status ∉ terminalStatuses ∧ s.nextBillingAt = e.newNextBillingAt ∧
      (planRow e s).resultingNextBillingAt = e.previousNextBillingAt := by
  unfold planRow at h ⊢
  dsimp only at h ⊢
  split_ifs at h ⊢ with hterminal hexact
  exact ⟨hterminal, hexact, rfl⟩

lemma preserved_planRow (h : (planRow e s).disposition ≠ .restoredPreviousAnchor) :
    s.status ∈ terminalStatuses ∨ s.nextBillingAt ≠ e.newNextBillingAt := by
  unfold planRow at h
  dsimp only at h
  split_ifs at h with hterminal hexact
  · exact .inl hterminal
  · exact absurd rfl h
  · exact .inr hexact
  · exact .inr hexact

lemma reverseRow_ok (h : reverseRow reversalId p row = .ok q) :
    (∀ i ≠ row.subscription.id, q.subscriptions.get? i = p.subscriptions.get? i) ∧
      (row.disposition ≠ .restoredPreviousAnchor → q.subscriptions = p.subscriptions) ∧
      (row.disposition = .restoredPreviousAnchor → ∃ t locked,
        row.resultingNextBillingAt = some t ∧
        p.subscriptions.get? row.subscription.id = some locked ∧
        q.subscriptions.get? row.subscription.id = some (locked.anchored t)) := by
  simp only [reverseRow, bind_eq_ok, pure_eq_ok] at h
  obtain ⟨subscriptions, hwrite, rfl⟩ := h
  unfold restoreAnchor at hwrite
  split_ifs at hwrite with hrestored
  · simp only [bind_eq_ok, orRefuse_eq_ok] at hwrite
    obtain ⟨t, ht, hstage⟩ := hwrite
    obtain ⟨locked, hlocked, -, hself, hother⟩ := stage_ok hstage
    exact ⟨hother, fun h => absurd hrestored h, fun _ => ⟨t, locked, ht, hlocked, hself⟩⟩
  · obtain rfl := Except.ok.inj hwrite
    exact ⟨fun _ _ => rfl, fun _ => rfl, fun h => absurd h hrestored⟩

/-- The anchor of a subscription after an extension was reversed: moved back along its entry if it
was still at the end of it, and else as it was. -/
def Retracted (extensionId : ℕ) (grants : List ServiceExtensionEntry)
    (before after : Option Subscription) : Prop :=
  (∃ s e t, before = some s ∧ e ∈ grants ∧ e.extensionId = extensionId ∧
    s.status ∉ terminalStatuses ∧ s.nextBillingAt = e.newNextBillingAt ∧
    e.previousNextBillingAt = some t ∧ after = some (s.anchored t)) ∨
  (after = before ∧ ∀ s, before = some s → ∀ e ∈ grants, e.extensionId = extensionId →
    s.status ∈ terminalStatuses ∨ s.nextBillingAt ≠ e.newNextBillingAt)

lemma mem_entriesOf : e ∈ entriesOf db extension ↔
    e ∈ db.entries.rows ∧ e.extensionId = extension.id := by
  simp [entriesOf]

lemma plan_ok {plan : ReversalPlan}
    (h : serviceExtensionReversalPlan env db extension context.reason now = .ok plan) :
    extension.status = .applied ∧
      List.Forall₂ (fun e row => ∃ s, db.subscriptions.get? e.subscriptionId = some s ∧
        row = planRow e s) (entriesOf db extension) plan.rows := by
  simp only [serviceExtensionReversalPlan, bind_eq_ok, ensure_eq_ok, pure_eq_ok] at h
  obtain ⟨-, -, -, hstatus, -, -, rows, hrows, rfl⟩ := h
  refine ⟨hstatus, (forall₂_of_mapM hrows).imp fun e row hrow => ?_⟩
  obtain ⟨s, hs, rfl⟩ := map_eq_ok.mp hrow
  exact ⟨s, orRefuse_eq_ok.mp hs, rfl⟩

lemma nodup_rows (hinv : Inv db) {rows : List ReversalPlanRow}
    (h : List.Forall₂ (fun e row => ∃ s, db.subscriptions.get? e.subscriptionId = some s ∧
        row = planRow e s) (entriesOf db extension) rows) :
    (rows.map (·.subscription.id)).Nodup := by
  have hids : rows.map (·.subscription.id) = (entriesOf db extension).map (·.subscriptionId) := by
    generalize entriesOf db extension = l at h
    induction h with
    | nil => rfl
    | cons hrow _ ih =>
      obtain ⟨s, hs, rfl⟩ := hrow
      rw [List.map_cons, List.map_cons, ih, subscription_planRow.1, (Table.get?_eq_some.mp hs).2.symm]
      rfl
  have hentries : (entriesOf db extension).Nodup :=
    perm_sortedBy.nodup_iff.mpr ((List.Nodup.of_map _ db.entries.nodup).sublist List.filter_sublist)
  rw [hids]
  refine List.Nodup.map_on (fun e he f hf hsub => ?_) hentries
  obtain ⟨he, hext⟩ := mem_entriesOf.mp he
  obtain ⟨hf, hext'⟩ := mem_entriesOf.mp hf
  exact hinv.unique e he f hf (hext.trans hext'.symm) hsub

lemma retracted_of_loop (hinv : Inv db) {rows : List ReversalPlanRow}
    (hrows : List.Forall₂ (fun e row => ∃ s, db.subscriptions.get? e.subscriptionId = some s ∧
        row = planRow e s) (entriesOf db extension) rows)
    (hloop : rows.foldlM (reverseRow reversalId) ⟨db.subscriptions, db.reversalEntries⟩ = .ok q) :
    Retracted extension.id (grantsOf db.entries id) (db.subscriptions.get? id)
      (q.subscriptions.get? id) := by
  have hnodup := nodup_rows hinv hrows
  by_cases hmem : ∃ row ∈ rows, row.subscription.id = id
  · obtain ⟨row, hrow, rfl⟩ := hmem
    obtain ⟨t, u, hbefore, hturn, hafter⟩ := foldlM_turn
      (fun p : ReversalProgress => p.subscriptions.get? row.subscription.id)
      (·.subscription.id) (fun p r q hok hne => (reverseRow_ok hok).1 _ hne.symm) hrow hnodup hloop
    obtain ⟨e, he, s, hs, rfl⟩ := exists_of_mem_right hrows row hrow
    rw [subscription_planRow.1] at hbefore hafter ⊢
    obtain ⟨he, hext⟩ := mem_entriesOf.mp he
    have hid : s.id = e.subscriptionId := (Table.get?_eq_some.mp hs).2
    rw [← hid] at hs
    obtain ⟨-, hpreserved, hrestored⟩ := reverseRow_ok hturn
    by_cases hdisposition : (planRow e s).disposition = .restoredPreviousAnchor
    · obtain ⟨target, locked, htarget, hlocked, hwritten⟩ := hrestored hdisposition
      rw [subscription_planRow.1] at hlocked hwritten
      obtain ⟨hterminal, hexact, hresulting⟩ := restored_planRow hdisposition
      obtain rfl := Option.some.inj ((hlocked.symm.trans hbefore).trans hs)
      exact .inl ⟨locked, e, target, hs, mem_grantsOf.mpr ⟨he, hid.symm⟩, hext, hterminal, hexact,
        hresulting.symm.trans htarget, hafter.trans hwritten⟩
    · refine .inr ⟨?_, fun r hr f hf hfext => ?_⟩
      · exact hafter.trans ((congrArg (Table.get? · s.id) (hpreserved hdisposition)).trans hbefore)
      · obtain rfl := Option.mem_unique hs hr
        obtain ⟨hf, hfid⟩ := mem_grantsOf.mp hf
        rw [hinv.unique f hf e he (hfext.trans hext.symm) (hfid.trans hid)]
        exact preserved_planRow hdisposition
  · refine .inr ⟨?_, fun s hs e he hext => ?_⟩
    · refine foldlM_frame (fun p : ReversalProgress => p.subscriptions.get? id) ?_ hloop
      exact fun p row hrow q hok => (reverseRow_ok hok).1 _ fun heq => hmem ⟨row, hrow, heq.symm⟩
    · obtain ⟨he, hid⟩ := mem_grantsOf.mp he
      obtain ⟨row, hrow, r, hr, rfl⟩ :=
        exists_of_mem_right hrows.flip e (mem_entriesOf.mpr ⟨he, hext⟩)
      refine absurd ⟨_, hrow, ?_⟩ hmem
      rw [subscription_planRow.1]
      exact (Table.get?_eq_some.mp hr).2.trans hid

/-- A reversal moves anchors and marks its extension, and that is all. -/
lemma retracted_of_reverseApplied (hinv : Inv db)
    (h : reverseApplied env db extension context key fingerprint now = .ok db') :
    extension.status = .applied ∧ db'.entries = db.entries ∧
      (∀ i ≠ extension.id, db'.extensions.get? i = db.extensions.get? i) ∧
      (db.extensions.get? extension.id = some extension →
        ∃ x, db'.extensions.get? extension.id = some x ∧ x.status = .reversed) ∧
      ∀ id, Retracted extension.id (grantsOf db.entries id) (db.subscriptions.get? id)
        (db'.subscriptions.get? id) := by
  simp only [reverseApplied, bind_eq_ok, ensure_eq_ok, pure_eq_ok] at h
  obtain ⟨plan, hplan, -, -, q, hloop, rfl⟩ := h
  obtain ⟨hstatus, hrows⟩ := plan_ok hplan
  refine ⟨hstatus, rfl, fun i hi => ?_, fun hextension => ⟨extension.reversed, ?_, rfl⟩,
    fun id => retracted_of_loop hinv hrows hloop⟩
  · exact Table.get?_update_ne (g := ServiceExtension.reversed) (h := fun _ => rfl) hi
  · exact Table.get?_update_self (g := ServiceExtension.reversed) (h := fun _ => rfl) hextension

end Reverse

variable {μ : Type} {env : ExtensionEnv μ} {db db' : ExtensionDb} {extensionId : ℕ}
  {extension : ServiceExtension} {context : CommandContext} {fingerprint : ℕ} {now : ℤ}

lemma extensions_applyPending (h : applyPending env extension now db context = .ok db') :
    extension.status = .pending ∧
      (∀ i ≠ extension.id, db'.extensions.get? i = db.extensions.get? i) ∧
      (db.extensions.get? extension.id = some extension →
        ∃ x, db'.extensions.get? extension.id = some x ∧ x.status = .applied) := by
  simp only [applyPending, bind_eq_ok, ensure_eq_ok, pure_eq_ok] at h
  obtain ⟨-, hpending, -, -, filters, -, p, -, rfl⟩ := h
  refine ⟨hpending, fun i hi => ?_, fun hextension =>
    ⟨extension.appliedTo p (actorOf context).2 now, ?_, rfl⟩⟩
  · exact Table.get?_update_ne (g := ServiceExtension.appliedTo p (actorOf context).2 now)
      (h := fun _ => rfl) hi
  · exact Table.get?_update_self (g := ServiceExtension.appliedTo p (actorOf context).2 now)
      (h := fun _ => rfl) hextension

lemma apply_cases (h : applyServiceExtension env db extensionId context now = .ok db') :
    ∃ extension, db.extensions.get? extensionId = some extension ∧ extension.id = extensionId ∧
      ((extension.status = .applied ∧ db' = db) ∨
        applyPending env extension now db context = .ok db') := by
  simp only [applyServiceExtension, getExtension, bind_eq_ok, orRefuse_eq_ok] at h
  obtain ⟨-, -, extension, hextension, h⟩ := h
  refine ⟨extension, hextension, (Table.get?_eq_some.mp hextension).2, ?_⟩
  split_ifs at h with hstatus
  · exact .inl ⟨hstatus, (Except.ok.inj h).symm⟩
  · exact .inr h

lemma reverse_cases {env : ExtensionEnv ReversalMaterial}
    (h : reverseServiceExtension env db extensionId context fingerprint now = .ok db') :
    ∃ extension, db.extensions.get? extensionId = some extension ∧ extension.id = extensionId ∧
      ((extension.status = .reversed ∧ db' = db) ∨
        ∃ key, reverseApplied env db extension context key fingerprint now = .ok db') := by
  simp only [reverseServiceExtension, getExtension, bind_eq_ok, orRefuse_eq_ok] at h
  obtain ⟨key, -, extension, hextension, h⟩ := h
  refine ⟨extension, hextension, (Table.get?_eq_some.mp hextension).2, ?_⟩
  split at h
  · cases h
  · next hstatus _ =>
    simp only [bind_eq_ok, ensure_eq_ok, pure_eq_ok] at h
    obtain ⟨-, -, rfl⟩ := h
    exact .inl ⟨hstatus, rfl⟩
  · cases h
  · exact .inr ⟨key, h⟩

lemma mem_entries_applyPending (h : applyPending env extension now db context = .ok db')
    (he : e ∈ db'.entries.rows) : e ∈ db.entries.rows ∨
      e.extensionId = extension.id ∧
      grantsOf db'.entries e.subscriptionId = grantsOf db.entries e.subscriptionId ++ [e] ∧
      ∃ a n, e.previousNextBillingAt = some a ∧ e.newNextBillingAt = some n ∧ a < n := by
  have he' : e ∈ grantsOf db'.entries e.subscriptionId := mem_grantsOf.mpr ⟨he, rfl⟩
  rcases view_applyPending e.subscriptionId h with hsame | hnew
  · have hgrants : grantsOf db'.entries _ = grantsOf db.entries _ := congrArg Prod.snd hsame
    exact .inl (mem_grantsOf.mp (hgrants ▸ he')).1
  · obtain ⟨-, -, f, a, n, -, -, -, hgrants, hext, hprevious, hnext, hlt, -, -⟩ := hnew
    change grantsOf db'.entries _ = grantsOf db.entries _ ++ [f] at hgrants
    rw [hgrants, List.mem_append, List.mem_singleton] at he'
    rcases he' with he' | rfl
    · exact .inl (mem_grantsOf.mp he').1
    · exact .inr ⟨hext, hgrants, a, n, hprevious, hnext, hlt⟩

lemma Inv.apply (hinv : Inv db)
    (h : applyServiceExtension env db extensionId context now = .ok db') : Inv db' := by
  obtain ⟨extension, hextension, hid, ⟨-, rfl⟩ | h⟩ := apply_cases h
  · exact hinv
  obtain ⟨hpending, hother, happlied⟩ := extensions_applyPending h
  -- a pending extension has no entries, so an old entry is not one of its new ones
  have hold : ∀ e ∈ db.entries.rows, e.extensionId ≠ extension.id := fun e he heq =>
    hinv.settled e he extension (by rw [heq, hid, hextension]) hpending
  obtain ⟨y, hy, hstatus⟩ := happlied (hid ▸ hextension)
  constructor
  case unique =>
    intro e he f hf hext hsub
    rcases mem_entries_applyPending h he with he | ⟨heid, hegrants, -⟩
    · rcases mem_entries_applyPending h hf with hf | ⟨hfid, -, -⟩
      · exact hinv.unique e he f hf hext hsub
      · exact absurd (hext.trans hfid) (hold e he)
    · rcases mem_entries_applyPending h hf with hf | ⟨-, hfgrants, -⟩
      · exact absurd (hext.symm.trans heid) (hold f hf)
      · rw [hsub] at hegrants
        exact List.singleton_inj.mp (List.append_cancel_left (hegrants.symm.trans hfgrants))
  case settled =>
    intro e he x hx
    rcases mem_entries_applyPending h he with he | ⟨heid, -, -⟩
    · rw [hother _ (hold e he)] at hx
      exact hinv.settled e he x hx
    · obtain rfl := Option.mem_unique (heid ▸ hx) hy
      exact fun heq => nomatch hstatus.symm.trans heq
  case rises =>
    intro e he
    rcases mem_entries_applyPending h he with he | ⟨-, -, hrises⟩
    · exact hinv.rises e he
    · exact hrises

lemma Inv.reverse {env : ExtensionEnv ReversalMaterial} (hinv : Inv db)
    (h : reverseServiceExtension env db extensionId context fingerprint now = .ok db') :
    Inv db' := by
  obtain ⟨extension, hextension, hid, ⟨-, rfl⟩ | ⟨key, h⟩⟩ := reverse_cases h
  · exact hinv
  obtain ⟨-, hentries, hother, hreversed, -⟩ := retracted_of_reverseApplied hinv h
  obtain ⟨y, hy, hstatus⟩ := hreversed (hid ▸ hextension)
  refine ⟨hentries ▸ hinv.unique, ?_, hentries ▸ hinv.rises⟩
  intro e he x hx
  by_cases heq : e.extensionId = extension.id
  · obtain rfl := Option.mem_unique (heq ▸ hx) hy
    exact fun hpending => nomatch hstatus.symm.trans hpending
  · rw [hother _ heq] at hx
    exact hinv.settled e (hentries ▸ he) x hx

end DotmacSub.ServiceExtensions
