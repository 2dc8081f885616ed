import DotmacSub.Billing.BillingAnchors
import Mathlib.Data.List.MinMax

/-!
# Reversals of funded periods

Consecutive prepaid periods, each funded by an invoice, and payments that are reversed one by one.
-/

namespace DotmacSub.PrepaidService

open Store ServiceExtensions PrepaidTables

/-- A period of service and the invoice that funds it. -/
structure FundedPeriod where
  invoiceId : ℕ
  startsAt : ℤ
  endsAt : ℤ
  lt : startsAt < endsAt

/-- Consecutive periods, each with its paid invoice and its entitlement. -/
structure Funded (db : PrepaidTables) (accountId subscriptionId : ℕ)
    (periods : List FundedPeriod) : Prop where
  subscription : ∃ subscription, db.subscriptions.get? subscriptionId = some subscription ∧
    subscription.subscriberId = accountId
  invoices : ∀ p ∈ periods, ∃ invoice, db.invoices.get? p.invoiceId = some invoice ∧
    invoice.accountId = accountId
  distinct : (periods.map (·.invoiceId)).Nodup
  consecutive : periods.Pairwise fun p q => p.endsAt ≤ q.startsAt
  entitled : ∀ p ∈ periods, ∃ row ∈ db.fundedBy p.invoiceId subscriptionId, row.status = .active
  exact : ∀ p ∈ periods, ∀ row ∈ db.fundedBy p.invoiceId subscriptionId,
    row.startsAt = p.startsAt ∧ row.endsAt = p.endsAt

def survivingEnds (db : PrepaidTables) (subscriptionId : ℕ) (reversed : List ℕ) : List ℤ :=
  (db.entitlements.rows.filter fun row =>
    row.subscriptionId = subscriptionId ∧ row.status = .active ∧
      ∀ invoiceId ∈ row.sourceInvoiceId, invoiceId ∉ reversed).map (·.endsAt) ++
    db.grantEnds subscriptionId

def reverseAll (reopened : ℕ → InvoiceStatus) (db : PrepaidTables) (periods : List FundedPeriod) :
    PrepaidTables :=
  periods.foldl (fun db p => db.reverseFunding (reopened p.invoiceId) p.invoiceId) db

section Reversal

variable {db : PrepaidTables} {invoice : Invoice} {accountId subscriptionId : ℕ}
  {periods ρ : List FundedPeriod} {p : FundedPeriod} {reopened : InvoiceStatus}
  {authority : BillingAnchorAuthority} {previous : Option ℤ} {start : ℤ}

lemma coverageEnds_eq : db.coverageEnds subscriptionId = survivingEnds db subscriptionId [] := by
  simp [coverageEnds, survivingEnds]

lemma survivingEnds_congr {reversed reversed' : List ℕ} (h : ∀ i, i ∈ reversed ↔ i ∈ reversed') :
    survivingEnds db subscriptionId reversed = survivingEnds db subscriptionId reversed' := by
  simp only [survivingEnds, h]

def revoked (invoiceId : ℕ) (row : ServiceEntitlement) : ServiceEntitlement :=
  if row.sourceInvoiceId = some invoiceId ∧ row.status = .active then
    { row with status := .reversed }
  else row

lemma revoked_keeps (invoiceId : ℕ) (row : ServiceEntitlement) :
    (revoked invoiceId row).sourceInvoiceId = row.sourceInvoiceId ∧
      (revoked invoiceId row).subscriptionId = row.subscriptionId ∧
      (revoked invoiceId row).startsAt = row.startsAt ∧
      (revoked invoiceId row).endsAt = row.endsAt := by
  unfold revoked
  split_ifs <;> exact ⟨rfl, rfl, rfl, rfl⟩

lemma status_revoked {invoiceId : ℕ} {row : ServiceEntitlement} :
    (revoked invoiceId row).status = .active ↔
      row.status = .active ∧ row.sourceInvoiceId ≠ some invoiceId := by
  unfold revoked
  split_ifs with h
  · exact iff_of_false nofun fun hand => hand.2 h.1
  · exact ⟨fun hactive => ⟨hactive, fun hsource => h ⟨hsource, hactive⟩⟩, And.left⟩

lemma rows_revoke (hunpaid : invoice.status ≠ .paid) :
    (db.revokePrepaidEntitlementsForUnpaidInvoice invoice).entitlements.rows =
      db.entitlements.rows.map (revoked invoice.id) := by
  rw [revokePrepaidEntitlementsForUnpaidInvoice, if_neg hunpaid]
  rfl

lemma fundedBy_revoke (hunpaid : invoice.status ≠ .paid) (invoiceId : ℕ) :
    (db.revokePrepaidEntitlementsForUnpaidInvoice invoice).fundedBy invoiceId subscriptionId =
      (db.fundedBy invoiceId subscriptionId).map (revoked invoice.id) := by
  rw [fundedBy, rows_revoke hunpaid, List.filter_map]
  refine congrArg (List.map _) (List.filter_congr fun row _ => ?_)
  obtain ⟨hsource, hsubscription, -, -⟩ := revoked_keeps invoice.id row
  rw [Function.comp_apply, hsource, hsubscription]

/-- A revocation takes what the invoice funded out of the coverage. -/
lemma survivingEnds_revoke (hunpaid : invoice.status ≠ .paid) (reversed : List ℕ) :
    survivingEnds (db.revokePrepaidEntitlementsForUnpaidInvoice invoice) subscriptionId reversed =
      survivingEnds db subscriptionId (invoice.id :: reversed) := by
  have hgrants : (db.revokePrepaidEntitlementsForUnpaidInvoice invoice).grantEnds subscriptionId =
      db.grantEnds subscriptionId := by
    rw [revokePrepaidEntitlementsForUnpaidInvoice, if_neg hunpaid]
    rfl
  rw [survivingEnds, survivingEnds, hgrants, rows_revoke hunpaid, List.filter_map, List.map_map]
  refine congrArg (· ++ _) ?_
  have hends : (fun row : ServiceEntitlement => row.endsAt) ∘ revoked invoice.id =
      fun row => row.endsAt := funext fun row => (revoked_keeps invoice.id row).2.2.2
  rw [hends]
  refine congrArg (List.map _) (List.filter_congr fun row _ => ?_)
  obtain ⟨hsource, hsubscription, -, -⟩ := revoked_keeps invoice.id row
  rw [Function.comp_apply, decide_eq_decide, hsource, hsubscription, status_revoked]
  cases row.sourceInvoiceId with
  | none => simp
  | some sourceId => simp [eq_comm, and_assoc]

lemma anchor_project (invoice : Invoice) (authority : BillingAnchorAuthority) :
    (db.projectPrepaidBillingAnchorForInvoice invoice authority).1.anchor subscriptionId =
      (db.subscriptions.get? subscriptionId).bind fun subscription =>
        (db.reanchored invoice authority subscription).nextBillingAt := by
  have hget := Table.get?_map (t := db.subscriptions) (g := db.reanchored invoice authority)
    (h := db.reanchored_id invoice authority) (i := subscriptionId)
  show ((db.subscriptions.map _ (db.reanchored_id invoice authority)).get? _).bind _ = _
  rw [hget, Option.bind_map]
  rfl

lemma nextBillingAt_reanchored {subscription : Subscription}
    (hstart : ((db.fundedBy invoice.id subscription.id).map (·.startsAt)).min? = some start)
    (haccount : subscription.subscriberId = invoice.accountId) :
    (db.reanchored invoice authority subscription).nextBillingAt =
      some (anchorTarget (db.coverageEnds subscription.id).max? start authority
        ((db.fundedBy invoice.id subscription.id).any (·.status = .active))
        subscription.nextBillingAt) := by
  unfold reanchored
  rw [projection, hstart]
  simp [haccount]

/-- Projecting twice with nothing in between is projecting once. -/
lemma anchorTarget_anchorTarget {coverageEnd : Option ℤ} {funds : Bool} :
    anchorTarget coverageEnd start authority funds
        (some (anchorTarget coverageEnd start authority funds previous)) =
      anchorTarget coverageEnd start authority funds previous := by
  unfold anchorTarget
  cases coverageEnd with
  | none => cases previous <;> dsimp <;> split_ifs <;> simp_all
  | some coverageEnd => cases previous <;> dsimp <;> split_ifs <;> simp_all

/-- **A reversal** reopens, revokes and projects. -/
lemma reverseFunding_eq {invoiceId : ℕ} (hinvoice : db.invoices.get? invoiceId = some invoice)
    (hunpaid : reopened ≠ .paid) :
    db.reverseFunding reopened invoiceId =
      (((db.reopen reopened invoiceId).revokePrepaidEntitlementsForUnpaidInvoice
        { invoice with status := reopened }).projectPrepaidBillingAnchorForInvoice
          { invoice with status := reopened } .fundingObservation).1 := by
  have hget : ((db.reopen reopened invoiceId).revokePrepaidEntitlementsForUnpaidInvoice
      { invoice with status := reopened }).invoices.get? invoiceId =
        some { invoice with status := reopened } := by
    rw [revokePrepaidEntitlementsForUnpaidInvoice, if_neg hunpaid]
    exact Table.get?_update_self (g := ({ · with status := reopened })) (h := fun _ => rfl) hinvoice
  have hown : (some { invoice with status := reopened }).filter
      (fun found => decide (found.accountId = invoice.accountId)) =
        some { invoice with status := reopened } := Option.filter_some_pos (decide_eq_true rfl)
  rw [reverseFunding, hinvoice]
  dsimp only
  rw [retractPrepaidBillingAnchorsAfterFundingReversal, if_neg (List.cons_ne_nil _ _),
    List.foldl_cons, List.foldl_nil, retractInvoice, hget, hown]

structure Standing (db : PrepaidTables) (accountId subscriptionId : ℕ)
    (periods : List FundedPeriod) : Prop where
  subscription : ∃ subscription, db.subscriptions.get? subscriptionId = some subscription ∧
    subscription.subscriberId = accountId
  invoices : ∀ p ∈ periods, ∃ invoice, db.invoices.get? p.invoiceId = some invoice ∧
    invoice.accountId = accountId
  starts : ∀ p ∈ periods,
    ((db.fundedBy p.invoiceId subscriptionId).map (·.startsAt)).min? = some p.startsAt

lemma Funded.standing (h : Funded db accountId subscriptionId periods) :
    Standing db accountId subscriptionId periods := by
  refine ⟨h.subscription, h.invoices, fun p hp => ?_⟩
  obtain ⟨row, hrow, -⟩ := h.entitled p hp
  rw [List.min?_eq_some_iff]
  refine ⟨List.mem_map.mpr ⟨row, hrow, (h.exact p hp row hrow).1⟩, fun start hstart => ?_⟩
  obtain ⟨other, hother, rfl⟩ := List.mem_map.mp hstart
  exact (h.exact p hp other hother).1.ge

/-- **What one reversal does**: the anchor follows what is left, and the rest stands. -/
theorem Standing.after_reverseFunding (h : Standing db accountId subscriptionId periods)
    (hp : p ∈ periods) (hunpaid : reopened ≠ .paid) :
    Standing (db.reverseFunding reopened p.invoiceId) accountId subscriptionId periods ∧
      (∀ reversed, survivingEnds (db.reverseFunding reopened p.invoiceId) subscriptionId reversed =
        survivingEnds db subscriptionId (p.invoiceId :: reversed)) ∧
      (db.reverseFunding reopened p.invoiceId).anchor subscriptionId =
        some (anchorTarget (survivingEnds db subscriptionId [p.invoiceId]).max? p.startsAt
          .fundingObservation false (db.anchor subscriptionId)) := by
  obtain ⟨invoice, hinvoice, haccount⟩ := h.invoices p hp
  obtain ⟨subscription, hsubscription, hsubscriber⟩ := h.subscription
  have hid : invoice.id = p.invoiceId := (Table.get?_eq_some.mp hinvoice).2
  have hsid : subscription.id = subscriptionId := (Table.get?_eq_some.mp hsubscription).2
  rw [reverseFunding_eq hinvoice hunpaid]
  generalize hafter : ({ invoice with status := reopened } : Invoice) = after
  have haid : after.id = p.invoiceId := hafter ▸ hid
  have haaccount : after.accountId = accountId := hafter ▸ haccount
  have haunpaid : after.status ≠ .paid := hafter ▸ hunpaid
  generalize hdb : (db.reopen reopened p.invoiceId).revokePrepaidEntitlementsForUnpaidInvoice
    after = db₁
  have hfunded : ∀ i, db₁.fundedBy i subscriptionId =
      (db.fundedBy i subscriptionId).map (revoked p.invoiceId) := by
    intro i
    rw [← hdb, fundedBy_revoke haunpaid, haid]
    rfl
  have hends : ∀ reversed, survivingEnds db₁ subscriptionId reversed =
      survivingEnds db subscriptionId (p.invoiceId :: reversed) := by
    intro reversed
    rw [← hdb, survivingEnds_revoke haunpaid, haid]
    rfl
  have hsubscriptions : db₁.subscriptions = db.subscriptions := by
    rw [← hdb, revokePrepaidEntitlementsForUnpaidInvoice, if_neg haunpaid]
    rfl
  have hinvoices : db₁.invoices = (db.reopen reopened p.invoiceId).invoices := by
    rw [← hdb, revokePrepaidEntitlementsForUnpaidInvoice, if_neg haunpaid]
  have hstarts : ∀ q ∈ periods,
      ((db₁.fundedBy q.invoiceId subscriptionId).map (·.startsAt)).min? = some q.startsAt := by
    intro q hq
    have hstart : (fun row : ServiceEntitlement => row.startsAt) ∘ revoked p.invoiceId =
        fun row => row.startsAt := funext fun row => (revoked_keeps p.invoiceId row).2.2.1
    rw [hfunded, List.map_map, hstart]
    exact h.starts q hq
  have hnone : (db₁.fundedBy p.invoiceId subscriptionId).any (·.status = .active) = false := by
    rw [hfunded, List.any_eq_false]
    intro row hrow
    obtain ⟨before, hbefore, rfl⟩ := List.mem_map.mp hrow
    have hsource : before.sourceInvoiceId = some p.invoiceId :=
      (of_decide_eq_true (List.mem_filter.mp hbefore).2).1
    simpa using fun hactive => (status_revoked.mp hactive).2 hsource
  refine ⟨⟨⟨db₁.reanchored after .fundingObservation subscription, ?_, ?_⟩, fun q hq => ?_,
    hstarts⟩, hends, ?_⟩
  · have hget := Table.get?_map (t := db₁.subscriptions)
      (g := db₁.reanchored after .fundingObservation)
      (h := db₁.reanchored_id after .fundingObservation) (i := subscriptionId)
    refine hget.trans ?_
    rw [hsubscriptions, hsubscription]
    rfl
  · unfold reanchored
    split
    · exact hsubscriber
    · exact hsubscriber
  · obtain ⟨other, hother, hotherAccount⟩ := h.invoices q hq
    show ∃ found, db₁.invoices.get? q.invoiceId = some found ∧ found.accountId = accountId
    rw [hinvoices]
    by_cases heq : q.invoiceId = p.invoiceId
    · rw [heq] at hother ⊢
      exact ⟨_, Table.get?_update_self (g := fun row : Invoice => { row with status := reopened })
        (h := fun _ => rfl) hother, hotherAccount⟩
    · exact ⟨other, (Table.get?_update_ne
        (g := fun row : Invoice => { row with status := reopened }) (h := fun _ => rfl) heq).trans
          hother, hotherAccount⟩
  · have hstart : ((db₁.fundedBy after.id subscription.id).map (·.startsAt)).min? =
        some p.startsAt := by
      rw [haid, hsid]
      exact hstarts p hp
    rw [anchor_project, hsubscriptions, hsubscription, Option.bind_some,
      nextBillingAt_reanchored hstart (hsubscriber.trans haaccount.symm), haid, hsid, hnone,
      coverageEnds_eq, hends, PrepaidTables.anchor, hsubscription, Option.bind_some]

/-- **Run**: after reversals the coverage is what they leave, and the rest stands. -/
lemma Standing.after_reverseAll {reopened : ℕ → InvoiceStatus} (hunpaid : ∀ i, reopened i ≠ .paid) :
    ∀ {db : PrepaidTables}, Standing db accountId subscriptionId periods →
      (∀ p ∈ ρ, p ∈ periods) →
      Standing (reverseAll reopened db ρ) accountId subscriptionId periods ∧
        ∀ reversed, survivingEnds (reverseAll reopened db ρ) subscriptionId reversed =
          survivingEnds db subscriptionId (ρ.map (·.invoiceId) ++ reversed) := by
  induction ρ with
  | nil => exact fun h _ => ⟨h, fun _ => rfl⟩
  | cons p ρ ih =>
    intro db h hmem
    obtain ⟨hstanding, hends, -⟩ := h.after_reverseFunding (hmem p List.mem_cons_self) (hunpaid _)
    obtain ⟨hlast, hrest⟩ := ih hstanding fun q hq => hmem q (List.mem_cons_of_mem _ hq)
    refine ⟨hlast, fun reversed => (hrest reversed).trans ((hends _).trans ?_)⟩
    rfl

lemma Standing.anchor_concat {reopened : ℕ → InvoiceStatus}
    (h : Standing db accountId subscriptionId periods) (hunpaid : ∀ i, reopened i ≠ .paid)
    (hmem : ∀ q ∈ ρ ++ [p], q ∈ periods) :
    (reverseAll reopened db (ρ ++ [p])).anchor subscriptionId =
      some (anchorTarget
        (survivingEnds db subscriptionId ((ρ ++ [p]).map (·.invoiceId))).max? p.startsAt
        .fundingObservation false ((reverseAll reopened db ρ).anchor subscriptionId)) := by
  obtain ⟨hstanding, hends⟩ := h.after_reverseAll hunpaid fun q hq =>
    hmem q (List.mem_append_left _ hq)
  obtain ⟨-, -, hanchor⟩ := hstanding.after_reverseFunding (p := p)
    (hmem p (List.mem_append_right _ (List.mem_singleton_self p))) (hunpaid _)
  rw [reverseAll, List.foldl_append, List.foldl_cons, List.foldl_nil,
    List.map_append, List.map_singleton]
  rw [hends] at hanchor
  exact hanchor

lemma Funded.endsAt_mem (h : Funded db accountId subscriptionId periods) (hp : p ∈ periods)
    {reversed : List ℕ} (hkept : p.invoiceId ∉ reversed) :
    p.endsAt ∈ survivingEnds db subscriptionId reversed := by
  obtain ⟨row, hrow, hactive⟩ := h.entitled p hp
  obtain ⟨-, hend⟩ := h.exact p hp row hrow
  obtain ⟨hmem, hfunded⟩ := List.mem_filter.mp hrow
  obtain ⟨hsource, hsubscription⟩ := of_decide_eq_true hfunded
  refine List.mem_append_left _ (List.mem_map.mpr ⟨row, List.mem_filter.mpr ⟨hmem, ?_⟩, hend⟩)
  refine decide_eq_true ⟨hsubscription, hactive, fun i hi => ?_⟩
  rw [hsource, Option.mem_some_iff] at hi
  exact hi ▸ hkept

lemma anchorTarget_some {coverageEnd start : ℤ} :
    anchorTarget (some coverageEnd) start .fundingObservation false previous =
      max coverageEnd start := by
  cases previous <;> simp [anchorTarget]

lemma anchorTarget_none :
    anchorTarget none start .fundingObservation false previous =
      (previous.map (min · start)).getD start := by
  cases previous with
  | none => rfl
  | some previous =>
    unfold anchorTarget
    rw [Option.map_none, Option.getD_none, Option.map_some, Option.getD_some]
    dsimp only
    split_ifs with hearlier hfunds
    · exact (min_eq_left hearlier.2.le).symm
    · exact absurd hfunds.2 not_false
    · exact (min_eq_right (not_lt.mp fun hlt => hearlier ⟨rfl, hlt⟩)).symm

/-- **The anchor after several reversals**: the coverage that is left or the start of the period
reversed last, whichever is later. -/
theorem Funded.anchor_after {reopened : ℕ → InvoiceStatus}
    (h : Funded db accountId subscriptionId periods) (hunpaid : ∀ i, reopened i ≠ .paid)
    {q : FundedPeriod} (hmem : ∀ r ∈ ρ ++ [q, p], r ∈ periods)
    (hdistinct : ((ρ ++ [q, p]).map (·.invoiceId)).Nodup) :
    (reverseAll reopened db (ρ ++ [q, p])).anchor subscriptionId =
      some (((survivingEnds db subscriptionId ((ρ ++ [q, p]).map (·.invoiceId))).max?.map
        (max · p.startsAt)).getD p.startsAt) := by
  have happend : ρ ++ [q, p] = (ρ ++ [q]) ++ [p] := (List.append_assoc ρ [q] [p]).symm
  rw [happend] at hmem hdistinct ⊢
  rw [h.standing.anchor_concat hunpaid hmem]
  generalize hends : (survivingEnds db subscriptionId _).max? = ends
  cases ends with
  | some coverageEnd => rw [anchorTarget_some, Option.map_some, Option.getD_some]
  | none =>
    -- The last period still stood before its own reversal, so the anchor was past it.
    have hkept : p.invoiceId ∉ (ρ ++ [q]).map (·.invoiceId) := by
      rw [List.map_append, List.nodup_append] at hdistinct
      exact fun hin => hdistinct.2.2 _ hin _ (List.mem_singleton_self _) rfl
    have hsurvives := h.endsAt_mem (hmem p (List.mem_append_right _ (List.mem_singleton_self p)))
      hkept
    obtain ⟨coverageEnd, hcoverage⟩ := Option.ne_none_iff_exists'.mp
      (mt List.max?_eq_none_iff.mp (List.ne_nil_of_mem hsurvives))
    have hle : p.endsAt ≤ coverageEnd := (List.max?_eq_some_iff.mp hcoverage).2 _ hsurvives
    rw [anchorTarget_none, h.standing.anchor_concat hunpaid fun r hr =>
      hmem r (List.mem_append_left _ hr), hcoverage, anchorTarget_some, Option.map_some,
      Option.getD_some, Option.map_none, Option.getD_none]
    exact congrArg some (min_eq_right (p.lt.le.trans (hle.trans (le_max_left _ _))))

/-- A reversal alone leaves the anchor at most at its start, if no coverage is left. -/
lemma Funded.anchor_reverse_le {reopened : ℕ → InvoiceStatus}
    (h : Funded db accountId subscriptionId periods) (hunpaid : ∀ i, reopened i ≠ .paid)
    (hp : p ∈ periods) (hnone : survivingEnds db subscriptionId [p.invoiceId] = []) :
    ∀ anchor ∈ (reverseAll reopened db [p]).anchor subscriptionId, anchor ≤ p.startsAt := by
  intro anchor hanchor
  have hmem : ∀ q ∈ [] ++ [p], q ∈ periods := fun q hq => List.mem_singleton.mp hq ▸ hp
  have hlast := h.standing.anchor_concat hunpaid hmem
  rw [List.nil_append, List.map_singleton, hnone, List.max?_nil, anchorTarget_none] at hlast
  rw [hlast, Option.mem_some_iff] at hanchor
  subst hanchor
  cases (reverseAll reopened db []).anchor subscriptionId with
  | none => exact le_refl _
  | some previous => exact min_le_right _ _

lemma projection_reanchored {subscription : Subscription} :
    ∀ projected ∈ db.projection invoice authority (db.reanchored invoice authority subscription),
      some projected.nextBillingAt = (db.reanchored invoice authority subscription).nextBillingAt ∧
        projected.changed = false := by
  intro projected hprojected
  unfold reanchored at hprojected ⊢
  cases hfirst : db.projection invoice authority subscription with
  | none =>
    rw [hfirst] at hprojected
    rw [hfirst] at hprojected
    exact absurd hprojected nofun
  | some first =>
    rw [hfirst] at hprojected
    dsimp only at hprojected ⊢
    unfold projection at hfirst hprojected
    dsimp only at hfirst hprojected
    split at hfirst
    · cases hfirst
    · rename_i start hstart
      rw [hstart] at hprojected
      dsimp only at hprojected
      split_ifs at hfirst hprojected
      cases hfirst
      cases hprojected
      dsimp only
      rw [anchorTarget_anchorTarget]
      exact ⟨rfl, by simp⟩

lemma reanchored_reanchored (subscription : Subscription) :
    db.reanchored invoice authority (db.reanchored invoice authority subscription) =
      db.reanchored invoice authority subscription := by
  have hstands : ∀ projected ∈ db.projection invoice authority
      (db.reanchored invoice authority subscription), some projected.nextBillingAt =
        (db.reanchored invoice authority subscription).nextBillingAt ∧ projected.changed = false :=
    projection_reanchored
  generalize db.reanchored invoice authority subscription = row at hstands
  unfold reanchored
  split
  · rfl
  · rename_i projected hprojected
    rw [(hstands projected hprojected).1]

/-- **Projecting again** changes nothing. -/
theorem project_project (db : PrepaidTables) (invoice : Invoice)
    (authority : BillingAnchorAuthority) :
    let once := (db.projectPrepaidBillingAnchorForInvoice invoice authority).1
    let twice := once.projectPrepaidBillingAnchorForInvoice invoice authority
    twice.1 = once ∧ ∀ projected ∈ twice.2, projected.changed = false := by
  intro once twice
  constructor
  · refine congrArg (fun subscriptions => { db with subscriptions }) (Table.map_eq_self ?_)
    intro row hrow
    obtain ⟨before, -, rfl⟩ := (Table.mem_map (h := db.reanchored_id invoice authority)).mp hrow
    exact reanchored_reanchored before
  · intro projected hprojected
    obtain ⟨row, hrow, hdecided⟩ := List.mem_filterMap.mp hprojected
    have hmem : row ∈ once.subscriptions.rows := (List.mem_insertionSort _).mp hrow
    obtain ⟨before, -, rfl⟩ := (Table.mem_map (h := db.reanchored_id invoice authority)).mp hmem
    exact (projection_reanchored projected hdecided).2

end Reversal

/-- The anchor is what the projections of the paid invoices left. -/
def ProjectedInTurn (db : PrepaidTables) (subscriptionId : ℕ) (periods : List FundedPeriod) :
    Prop :=
  ∀ p ∈ periods, ∀ invoice ∈ db.invoices.get? p.invoiceId,
    (db.projectPrepaidBillingAnchorForInvoice invoice .fundingObservation).1.anchor
      subscriptionId = db.anchor subscriptionId

instance {db : PrepaidTables} {subscriptionId : ℕ} {periods : List FundedPeriod} :
    Decidable (ProjectedInTurn db subscriptionId periods) :=
  inferInstanceAs (Decidable (∀ p ∈ periods, ∀ invoice ∈ db.invoices.get? p.invoiceId, _ = _))

/-- The order of reversals does not matter, and a repetition changes nothing. -/
structure OrderIndependent (reopened : ℕ → InvoiceStatus) (db : PrepaidTables)
    (subscriptionId : ℕ) (periods reversed : List FundedPeriod) : Prop where
  same : ∀ σ τ : List FundedPeriod, σ.Perm reversed → τ.Perm reversed →
    (reverseAll reopened db σ).anchor subscriptionId =
      (reverseAll reopened db τ).anchor subscriptionId
  earliest : (∀ p ∈ periods, p ∈ reversed) →
    survivingEnds db subscriptionId (reversed.map (·.invoiceId)) = [] →
    ∀ σ : List FundedPeriod, σ.Perm reversed → ∀ p ∈ reversed,
      ∀ anchor ∈ (reverseAll reopened db σ).anchor subscriptionId, anchor ≤ p.startsAt
  idempotent : ∀ σ : List FundedPeriod, σ.Perm reversed → ∀ invoice authority,
    let once :=
      ((reverseAll reopened db σ).projectPrepaidBillingAnchorForInvoice invoice authority).1
    let twice := once.projectPrepaidBillingAnchorForInvoice invoice authority
    twice.1 = once ∧ ∀ projected ∈ twice.2, projected.changed = false

section Order

variable {db : PrepaidTables} {accountId subscriptionId : ℕ} {periods reversed : List FundedPeriod}
  {reopened : ℕ → InvoiceStatus}

lemma survivingEnds_perm {σ : List FundedPeriod} (hσ : σ.Perm reversed) :
    survivingEnds db subscriptionId (σ.map (·.invoiceId)) =
      survivingEnds db subscriptionId (reversed.map (·.invoiceId)) :=
  survivingEnds_congr fun _ => (hσ.map _).mem_iff

lemma Funded.anchor_perm (h : Funded db accountId subscriptionId periods)
    (hsub : reversed.Sublist periods) (hunpaid : ∀ i, reopened i ≠ .paid)
    {ρ : List FundedPeriod} {q p : FundedPeriod} (hperm : (ρ ++ [q, p]).Perm reversed) :
    (reverseAll reopened db (ρ ++ [q, p])).anchor subscriptionId =
      some (((survivingEnds db subscriptionId (reversed.map (·.invoiceId))).max?.map
        (max · p.startsAt)).getD p.startsAt) := by
  rw [h.anchor_after hunpaid (fun r hr => hsub.subset (hperm.subset hr)), survivingEnds_perm hperm]
  exact (hperm.map _).nodup_iff.mpr (h.distinct.sublist (hsub.map _))

lemma exists_concat_pair {σ : List FundedPeriod} (h : 1 < σ.length) : ∃ ρ q p, σ = ρ ++ [q, p] := by
  obtain ⟨init, p, rfl⟩ := (List.eq_nil_or_concat' σ).resolve_left (by rintro rfl; simp at h)
  obtain ⟨ρ, q, rfl⟩ := (List.eq_nil_or_concat' init).resolve_left (by rintro rfl; simp at h)
  exact ⟨ρ, q, p, by simp⟩

lemma startsAt_le_last {ρ : List FundedPeriod} {q p : FundedPeriod}
    (hconsecutive : (ρ ++ [q, p]).Pairwise fun r s => r.endsAt ≤ s.startsAt) :
    ∀ r ∈ ρ ++ [q, p], r.startsAt ≤ p.startsAt := by
  intro r hr
  have happend : ρ ++ [q, p] = (ρ ++ [q]) ++ [p] := (List.append_assoc ρ [q] [p]).symm
  rw [happend] at hconsecutive hr
  rcases List.mem_append.mp hr with hbefore | hlast
  · exact r.lt.le.trans ((List.pairwise_append.mp hconsecutive).2.2 r hbefore p
      (List.mem_singleton_self p))
  · exact (List.mem_singleton.mp hlast ▸ le_refl _)

lemma orderIndependent_of_length_le_one (h : Funded db accountId subscriptionId periods)
    (hsub : reversed.Sublist periods) (hunpaid : ∀ i, reopened i ≠ .paid)
    (hlength : reversed.length ≤ 1) :
    OrderIndependent reopened db subscriptionId periods reversed := by
  have honly : ∀ σ : List FundedPeriod, σ.Perm reversed → σ = reversed := by
    intro σ hσ
    match reversed, hlength with
    | [], _ => exact List.perm_nil.mp hσ
    | [p], _ => exact List.perm_singleton.mp hσ
  refine ⟨fun σ τ hσ hτ => by rw [honly σ hσ, honly τ hτ], ?_, fun σ _ => project_project _⟩
  intro _ hnone σ hσ p hp anchor hanchor
  rw [honly σ hσ] at hanchor
  have hsingle : reversed = [p] := by
    match reversed, hlength, hp with
    | [q], _, hp => rw [List.mem_singleton.mp hp]
  rw [hsingle] at hanchor hnone
  exact h.anchor_reverse_le hunpaid (hsub.subset hp) hnone anchor hanchor

lemma orderIndependent_of_reach (h : Funded db accountId subscriptionId periods)
    (hsub : reversed.Sublist periods) (hunpaid : ∀ i, reopened i ≠ .paid) {coverageEnd : ℤ}
    (hmem : coverageEnd ∈ survivingEnds db subscriptionId (reversed.map (·.invoiceId)))
    (hreach : ∀ p ∈ reversed, p.startsAt ≤ coverageEnd) :
    OrderIndependent reopened db subscriptionId periods reversed := by
  have hfinal : ∀ (σ : List FundedPeriod), σ.Perm reversed → σ ≠ [] →
      (reverseAll reopened db σ).anchor subscriptionId =
        (survivingEnds db subscriptionId (reversed.map (·.invoiceId))).max? := by
    intro σ hσ hne
    obtain ⟨init, p, rfl⟩ := (List.eq_nil_or_concat' σ).resolve_left hne
    rw [h.standing.anchor_concat hunpaid fun r hr => hsub.subset (hσ.subset hr),
      survivingEnds_perm hσ]
    obtain ⟨latest, hlatest⟩ := Option.ne_none_iff_exists'.mp
      (mt List.max?_eq_none_iff.mp (List.ne_nil_of_mem hmem))
    have hle : coverageEnd ≤ latest := (List.max?_eq_some_iff.mp hlatest).2 _ hmem
    have hp : p ∈ reversed :=
      hσ.subset (List.mem_append_right _ (List.mem_singleton_self p))
    rw [hlatest, anchorTarget_some, max_eq_left ((hreach p hp).trans hle)]
  refine ⟨fun σ τ hσ hτ => ?_, fun _ hnone => ?_, fun σ _ => project_project _⟩
  · by_cases hne : reversed = []
    · subst hne
      rw [List.perm_nil.mp hσ, List.perm_nil.mp hτ]
    · rw [hfinal σ hσ fun h => hne (List.nil_perm.mp (h ▸ hσ)),
        hfinal τ hτ fun h => hne (List.nil_perm.mp (h ▸ hτ))]
  · exact absurd hmem (hnone ▸ List.not_mem_nil)

/-- Reversing periods leaves the same anchor in every order exactly if at most one is reversed or
the coverage that survives reaches the start of each. -/
theorem orderIndependent_iff (h : Funded db accountId subscriptionId periods)
    (hsub : reversed.Sublist periods) (hunpaid : ∀ i, reopened i ≠ .paid) :
    OrderIndependent reopened db subscriptionId periods reversed ↔
      reversed.length ≤ 1 ∨
        ∃ coverageEnd ∈ survivingEnds db subscriptionId (reversed.map (·.invoiceId)),
          ∀ p ∈ reversed, p.startsAt ≤ coverageEnd := by
  constructor
  · intro horder
    by_contra hcontra
    obtain ⟨hlength, hreach⟩ := not_or.mp hcontra
    obtain ⟨ρ, q, p, rfl⟩ := exists_concat_pair (not_le.mp hlength)
    have hlater : ∀ r ∈ ρ ++ [q, p], r.startsAt ≤ p.startsAt :=
      startsAt_le_last (h.consecutive.sublist hsub)
    have hshort : ∀ coverageEnd ∈ survivingEnds db subscriptionId
        ((ρ ++ [q, p]).map (·.invoiceId)), coverageEnd < p.startsAt := by
      intro coverageEnd hmem
      refine not_le.mp fun hle => hreach ⟨coverageEnd, hmem, fun r hr => ?_⟩
      exact (hlater r hr).trans hle
    have hq : q.startsAt < p.startsAt :=
      q.lt.trans_le (List.rel_of_pairwise_cons
        (List.pairwise_append.mp (h.consecutive.sublist hsub)).2.1 (List.mem_singleton_self p))
    -- The latest period reversed last, or the one before it.
    have hsame := horder.same (ρ ++ [q, p]) (ρ ++ [p, q]) (List.Perm.refl _)
      ((List.Perm.swap q p []).append_left ρ)
    rw [h.anchor_perm hsub hunpaid (List.Perm.refl _),
      h.anchor_perm hsub hunpaid ((List.Perm.swap q p []).append_left ρ)] at hsame
    generalize hends : survivingEnds db subscriptionId _ = ends at hsame hshort
    cases hmax : ends.max? with
    | none =>
      rw [hmax] at hsame
      exact hq.ne' (Option.some.inj hsame)
    | some coverageEnd =>
      rw [hmax, Option.map_some, Option.getD_some] at hsame
      have hlt := hshort coverageEnd (List.max?_mem hmax)
      have heq := Option.some.inj hsame
      rw [max_eq_right hlt.le, Option.map_some, Option.getD_some] at heq
      exact (max_lt hlt hq).ne' heq
  · rintro (hlength | ⟨coverageEnd, hmem, hreach⟩)
    · exact orderIndependent_of_length_le_one h hsub hunpaid hlength
    · exact orderIndependent_of_reach h hsub hunpaid hmem hreach

end Order

def entitledBy (startsAt endsAt : ℤ) (id : ℕ) : ServiceEntitlement :=
  ⟨id, 1, 0, some id, some id, none, none, startsAt, endsAt, 10, "NGN", .active⟩

def paidInvoice (id : ℕ) : Invoice :=
  ⟨id, 1, .paid, true, 0, none, none, none, [], List.nodup_nil⟩

def threeFunded : PrepaidTables where
  subscriptions := Table.empty.insert (fun id => ⟨id, 1, 0, .prepaid, .active, some 30⟩) fun _ => rfl
  invoices := ((Table.empty.insert paidInvoice fun _ => rfl).insert paidInvoice fun _ => rfl).insert
    paidInvoice fun _ => rfl
  entitlements := ((Table.empty.insert (entitledBy 0 10) fun _ => rfl).insert (entitledBy 10 20)
    fun _ => rfl).insert (entitledBy 20 30) fun _ => rfl
  extensions := Table.empty
  entries := Table.empty

def threePeriods : List FundedPeriod :=
  [⟨0, 0, 10, by decide⟩, ⟨1, 10, 20, by decide⟩, ⟨2, 20, 30, by decide⟩]

lemma funded_threeFunded : Funded threeFunded 1 0 threePeriods :=
  ⟨⟨_, rfl, rfl⟩, by decide +kernel, by decide, by decide, by decide +kernel, by decide +kernel⟩

/-- Two reversals below a period that stays funded, in either order. -/
theorem orderIndependent_threeFunded :
    OrderIndependent (fun _ => .issued) threeFunded 0 threePeriods (threePeriods.take 2) :=
  (orderIndependent_iff funded_threeFunded (List.take_sublist 2 _) fun _ => by decide).mpr
    (.inr ⟨30, by decide +kernel, by decide⟩)

/-- The latest of two reversed periods leaves its own start when it is reversed last. -/
theorem orderDependent_threeFunded :
    ¬∀ (db : PrepaidTables) (accountId subscriptionId : ℕ) (periods reversed : List FundedPeriod)
      (reopened : ℕ → InvoiceStatus), Funded db accountId subscriptionId periods →
        ProjectedInTurn db subscriptionId periods → reversed.Sublist periods →
          (∀ i, reopened i ≠ .paid) →
            OrderIndependent reopened db subscriptionId periods reversed := by
  intro hclaim
  have horder := hclaim threeFunded 1 0 threePeriods (threePeriods.drop 1) (fun _ => .issued)
    ⟨⟨_, rfl, rfl⟩, by decide +kernel, by decide, by decide, by decide +kernel, by decide +kernel⟩
    (by decide +kernel) (List.drop_sublist 1 _) (fun _ => by decide)
  have hsame := horder.same (threePeriods.drop 1) (threePeriods.drop 1).reverse (List.Perm.refl _)
    (List.reverse_perm _)
  exact absurd hsame (by decide +kernel)

end DotmacSub.PrepaidService
