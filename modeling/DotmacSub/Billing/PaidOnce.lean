import DotmacSub.Billing.AnchorReversals
import DotmacSub.Billing.SeparateCoverage
import DotmacSub.Billing.ServicePeriods
import DotmacSub.Core.Run

/-!
# Paid once

No instant of a prepaid service is paid for twice, as long as every invoice that is paid and every
grant covers periods that nothing else covers.
-/

namespace DotmacSub.PrepaidService

open Store Checked Payments ServiceExtensions Run Gregorian

structure DebitOf (db : RenewalTables) (row : ServiceEntitlement)
    (adjustment : AccountAdjustment) : Prop where
  origin : adjustment.origin = .prepaidServiceRenewal
  key : adjustment.idempotencyKey = .period row.period
  account : adjustment.accountId = row.accountId
  amount : adjustment.amount = row.amountFunded
  currency : adjustment.currency = row.currency
  entry : ∃ entry, db.ledgerEntries.get? adjustment.ledgerEntryId = some entry ∧
    entry.entryType = .debit ∧ entry.accountId = row.accountId ∧
    entry.amount.value = row.amountFunded ∧ entry.currency = row.currency

structure WellFunded (db : RenewalTables) (row : ServiceEntitlement) : Prop where
  nonempty : row.startsAt < row.endsAt
  positive : 0 < row.amountFunded
  cents : roundMoney row.amountFunded = row.amountFunded
  code : isCurrencyCode row.currency
  account : ∃ subscription, db.subscriptions.get? row.subscriptionId = some subscription ∧
    subscription.subscriberId = row.accountId

/-- The debits and the entitlements of the wallet belong together. -/
structure Recorded (db : RenewalTables) : Prop where
  sourced : Sourced db
  posted : ∀ adjustment ∈ db.adjustments.rows, adjustment.ledgerEntryId < db.ledgerEntries.next
  entries : ∀ adjustment ∈ db.adjustments.rows, ∀ other ∈ db.adjustments.rows,
    adjustment.ledgerEntryId = other.ledgerEntryId → adjustment = other
  keys : ∀ adjustment ∈ db.adjustments.rows, ∀ other ∈ db.adjustments.rows,
    adjustment.origin = .prepaidServiceRenewal → other.origin = .prepaidServiceRenewal →
      adjustment.idempotencyKey = other.idempotencyKey → adjustment = other
  sources : ∀ row ∈ db.entitlements.rows, ∀ other ∈ db.entitlements.rows,
    row.status = .active → other.status = .active → row.sourceLedgerEntryId ≠ none →
      row.sourceLedgerEntryId = other.sourceLedgerEntryId → row = other
  funded : ∀ row ∈ db.entitlements.rows, row.status = .active →
    ∀ ledgerEntryId ∈ row.sourceLedgerEntryId, WellFunded db row ∧
      ∃ adjustment ∈ db.adjustments.rows, adjustment.ledgerEntryId = ledgerEntryId ∧
        DebitOf db row adjustment

/-! ## What the commands leave -/

/-- A change that leaves the wallet alone: no debit, and no new or revived entitlement of one. -/
structure Beside (db db' : RenewalTables) : Prop where
  adjustments : db'.adjustments = db.adjustments
  ledgerEntries : db'.ledgerEntries = db.ledgerEntries
  service : SameService db db'
  sources : ∀ row ∈ db'.entitlements.rows, ∀ ledgerEntryId ∈ row.sourceLedgerEntryId,
    (row.status = .active → row ∈ db.entitlements.rows) ∧ ledgerEntryId < db.ledgerEntries.next

section Recorded

variable {db db' : RenewalTables} {env : RenewalEnv} {period : ServicePeriod}
  {debit : AccountAdjustmentPreview} {row : ServiceEntitlement} {adjustment : AccountAdjustment}

lemma WellFunded.of_sameService (h : WellFunded db row) (hservice : SameService db db') :
    WellFunded db' row := by
  obtain ⟨subscription, hget, hsubscriber⟩ := h.account
  obtain ⟨other, hother, hsame⟩ := hservice.get? hget
  have heq : other.subscriberId = subscription.subscriberId :=
    (congrArg Subscription.subscriberId hsame :)
  exact { h with account := ⟨other, hother, heq.trans hsubscriber⟩ }

lemma DebitOf.of_ledger (h : DebitOf db row adjustment)
    (hledger : ∀ i entry, db.ledgerEntries.get? i = some entry →
      db'.ledgerEntries.get? i = some entry) : DebitOf db' row adjustment := by
  obtain ⟨entry, hentry, hrest⟩ := h.entry
  exact { h with entry := ⟨entry, hledger _ _ hentry, hrest⟩ }

/-- What leaves the wallet alone leaves the records in order. -/
lemma Recorded.beside (h : Recorded db) (hbeside : Beside db db') : Recorded db' where
  sourced row hrow ledgerEntryId hsource := by
    rw [hbeside.ledgerEntries]
    exact (hbeside.sources row hrow ledgerEntryId hsource).2
  posted := by
    rw [hbeside.adjustments, hbeside.ledgerEntries]
    exact h.posted
  entries := by
    rw [hbeside.adjustments]
    exact h.entries
  keys := by
    rw [hbeside.adjustments]
    exact h.keys
  sources row hrow other hother hactive hotherActive hsource heq := by
    obtain ⟨ledgerEntryId, hledger⟩ := Option.ne_none_iff_exists'.mp hsource
    exact h.sources row ((hbeside.sources row hrow _ hledger).1 hactive) other
      ((hbeside.sources other hother _ (heq ▸ hledger)).1 hotherActive) hactive hotherActive
      hsource heq
  funded row hrow hactive ledgerEntryId hsource := by
    obtain ⟨hwell, adjustment, hadjustment, hledger, hdebit⟩ := h.funded row
      ((hbeside.sources row hrow _ hsource).1 hactive) hactive ledgerEntryId hsource
    rw [hbeside.adjustments]
    refine ⟨hwell.of_sameService hbeside.service, adjustment, hadjustment, hledger,
      hdebit.of_ledger fun i entry hentry => ?_⟩
    rw [hbeside.ledgerEntries]
    exact hentry

/-- **A renewal** leaves the records in order. -/
lemma Recorded.renewed (h : Recorded db) (hrenewed : Renewed env db db' period debit) :
    Recorded db' := by
  obtain ⟨subscription, hsubscription, haccount⟩ := hrenewed.subscription
  have hget := (subscriptionForRequest_ok hsubscription).1
  have hnext : db'.ledgerEntries.next = db.ledgerEntries.next + 1 := by
    rw [hrenewed.ledgerEntries]
    rfl
  have hledger : ∀ i entry, db.ledgerEntries.get? i = some entry →
      db'.ledgerEntries.get? i = some entry := by
    intro i entry hentry
    rw [hrenewed.ledgerEntries]
    exact Table.get?_insert_of_some hentry
  have hadjustments : ∀ {a : AccountAdjustment}, a ∈ db'.adjustments.rows ↔
      a ∈ db.adjustments.rows ∨ a = adjustmentRow debit (.period period) db.ledgerEntries.next
        db.adjustments.next := by
    intro a
    rw [hrenewed.adjustments]
    exact Table.mem_insert
  have hentitlements : ∀ {e : ServiceEntitlement}, e ∈ db'.entitlements.rows ↔
      e ∈ db.entitlements.rows ∨ e = walletEntitlement period debit db.ledgerEntries.next
        db.entitlements.next := by
    intro e
    rw [hrenewed.entitlements]
    exact Table.mem_insert
  have hunused : ∀ a ∈ db.adjustments.rows, a.origin = .prepaidServiceRenewal →
      a.idempotencyKey ≠ .period period := by
    intro a ha horigin hkey
    exact List.find?_eq_none.mp hrenewed.unused a ha (decide_eq_true ⟨horigin, hkey⟩)
  refine ⟨?_, ?_, ?_, ?_, ?_, ?_⟩
  · intro row hrow ledgerEntryId hsource
    rw [hnext]
    obtain hrow | rfl := hentitlements.mp hrow
    · exact (h.sourced row hrow ledgerEntryId hsource).trans (Nat.lt_succ_self _)
    · obtain rfl : db.ledgerEntries.next = ledgerEntryId := Option.some.inj hsource
      exact Nat.lt_succ_self _
  · intro a ha
    rw [hnext]
    obtain ha | rfl := hadjustments.mp ha
    · exact (h.posted a ha).trans (Nat.lt_succ_self _)
    · exact Nat.lt_succ_self _
  · intro a ha b hb heq
    obtain ha | rfl := hadjustments.mp ha
    · obtain hb | rfl := hadjustments.mp hb
      · exact h.entries a ha b hb heq
      · exact absurd heq (h.posted a ha).ne
    · obtain hb | rfl := hadjustments.mp hb
      · exact absurd heq (h.posted b hb).ne'
      · rfl
  · intro a ha b hb haorigin hborigin heq
    obtain ha | rfl := hadjustments.mp ha
    · obtain hb | rfl := hadjustments.mp hb
      · exact h.keys a ha b hb haorigin hborigin heq
      · exact absurd heq (hunused a ha haorigin)
    · obtain hb | rfl := hadjustments.mp hb
      · exact absurd heq.symm (hunused b hb hborigin)
      · rfl
  · intro row hrow other hother hactive hotherActive hsource heq
    obtain hrow | rfl := hentitlements.mp hrow
    · obtain hother | rfl := hentitlements.mp hother
      · exact h.sources row hrow other hother hactive hotherActive hsource heq
      · exact absurd (h.sourced row hrow _ heq) (lt_irrefl _)
    · obtain hother | rfl := hentitlements.mp hother
      · exact absurd (h.sourced other hother _ heq.symm) (lt_irrefl _)
      · rfl
  · intro row hrow hactive ledgerEntryId hsource
    obtain hrow | rfl := hentitlements.mp hrow
    · obtain ⟨hwell, a, ha, haledger, hdebit⟩ := h.funded row hrow hactive ledgerEntryId hsource
      exact ⟨hwell.of_sameService hrenewed.service, a, hadjustments.mpr (.inl ha), haledger,
        hdebit.of_ledger hledger⟩
    · obtain rfl : db.ledgerEntries.next = ledgerEntryId := Option.some.inj hsource
      have hentry : db'.ledgerEntries.get? db.ledgerEntries.next =
          some (debitEntry debit (some period.startsAt) db.ledgerEntries.next) := by
        rw [hrenewed.ledgerEntries]
        exact Table.get?_insert_self
      refine ⟨WellFunded.of_sameService ⟨hrenewed.nonempty, hrenewed.positive, hrenewed.cents,
        hrenewed.code, subscription, hget, haccount.symm⟩ hrenewed.service, _,
        hadjustments.mpr (.inr rfl), rfl, hrenewed.origin, rfl, rfl, rfl, rfl, _, hentry, rfl, rfl,
        hrenewed.cents, rfl⟩

end Recorded

section Invoices

variable {calendar : BillingCalendar} {db db' : RenewalTables} {invoice : Invoice}
  {line : InvoiceLine} {lines : List InvoiceLine} {invoiceId : ℕ} {effectiveAt : Option ℤ}
  {reopened : InvoiceStatus}

lemma Beside.refl (hsourced : Sourced db) : Beside db db :=
  ⟨rfl, rfl, .refl db, fun row hrow ledgerEntryId hsource =>
    ⟨fun _ => hrow, hsourced row hrow ledgerEntryId hsource⟩⟩

lemma Beside.trans {db'' : RenewalTables} (h : Beside db db') (h' : Beside db' db'') :
    Beside db db'' where
  adjustments := h'.adjustments.trans h.adjustments
  ledgerEntries := h'.ledgerEntries.trans h.ledgerEntries
  service := h.service.trans h'.service
  sources row hrow ledgerEntryId hsource := by
    obtain ⟨hold, hlt⟩ := h'.sources row hrow ledgerEntryId hsource
    rw [h.ledgerEntries] at hlt
    exact ⟨fun hactive => (h.sources row (hold hactive) ledgerEntryId hsource).1 hactive, hlt⟩

lemma Beside.sourced (h : Beside db db') : Sourced db' := by
  intro row hrow ledgerEntryId hsource
  rw [h.ledgerEntries]
  exact (h.sources row hrow ledgerEntryId hsource).2

lemma beside_insert {f : ℕ → ServiceEntitlement} {hf : ∀ id, Row.id (f id) = id}
    (hsourced : Sourced db) (hnone : (f db.entitlements.next).sourceLedgerEntryId = none) :
    Beside db { db with entitlements := db.entitlements.insert f hf } := by
  refine ⟨rfl, rfl, .refl db, fun row hrow ledgerEntryId hsource => ?_⟩
  obtain hrow | rfl := (Table.mem_insert (h := hf)).mp hrow
  · exact ⟨fun _ => hrow, hsourced row hrow ledgerEntryId hsource⟩
  · rw [hnone] at hsource
    cases hsource

lemma beside_ensureLine (hsourced : Sourced db) :
    Beside db (ensurePrepaidEntitlementForPaidInvoiceLine invoice db line) := by
  unfold ensurePrepaidEntitlementForPaidInvoiceLine
  split
  · exact .refl hsourced
  · split_ifs
    · exact .refl hsourced
    · exact beside_insert hsourced rfl

lemma beside_foldl (hsourced : Sourced db) :
    Beside db (lines.foldl (ensurePrepaidEntitlementForPaidInvoiceLine invoice) db) := by
  induction lines generalizing db with
  | nil => exact .refl hsourced
  | cons line lines ih =>
    have hline : Beside db (ensurePrepaidEntitlementForPaidInvoiceLine invoice db line) :=
      beside_ensureLine hsourced
    exact hline.trans (ih hline.sourced)

lemma baseSubscriptionLines_sublist (lines : List InvoiceLine) :
    (baseSubscriptionLines lines).Sublist lines := by
  unfold baseSubscriptionLines baseSubscriptionInvoiceLines
  dsimp only
  split_ifs
  · exact List.filter_sublist
  · exact List.filter_sublist
  · exact List.Sublist.refl _
  · exact List.nil_sublist _

lemma nodup_entitlingLines : ((entitlingLines db invoice).map (·.id)).Nodup := by
  refine invoice.nodup.sublist (List.Sublist.map _ ?_)
  unfold entitlingLines
  split_ifs
  · exact (baseSubscriptionLines_sublist _).trans List.filter_sublist
  · exact List.nil_sublist _

/-- A paid invoice as it stands when what it funds is recorded: moved, if it has lapsed. -/
def settledInvoice (calendar : BillingCalendar) (db : RenewalTables) (invoice : Invoice)
    (effectiveAt : Option ℤ) : Invoice :=
  match settlementReanchor calendar db invoice effectiveAt with
  | .ok (some reanchor) => invoice.reanchored reanchor
  | _ => invoice

/-- The periods that a payment newly pays for. -/
def paidPeriods (calendar : BillingCalendar) (db : RenewalTables) (invoiceId : ℕ)
    (effectiveAt : Option ℤ) : List ServicePeriod :=
  match db.invoices.get? invoiceId with
  | none => []
  | some invoice =>
    let settled := settledInvoice calendar db invoice.paid effectiveAt
    newPeriods db settled (entitlingLines db settled)

lemma reanchor_ok {settled : Invoice}
    (h : reanchorPaidPrepaidInvoiceIfLapsed calendar db invoice effectiveAt = .ok (db', settled)) :
    db' = { db with subscriptions := db'.subscriptions, invoices := db'.invoices } ∧
      SameService db db' ∧ settled = settledInvoice calendar db invoice effectiveAt := by
  obtain ⟨found, hfound, h⟩ := bind_eq_ok.mp h
  unfold settledInvoice
  rw [hfound]
  cases found with
  | none =>
    obtain ⟨rfl, rfl⟩ := mk_eq_ok.mp h
    exact ⟨rfl, .refl db, rfl⟩
  | some reanchor =>
    obtain ⟨anchored, hanchored, h⟩ := bind_eq_ok.mp h
    obtain ⟨rfl, rfl⟩ := mk_eq_ok.mp h
    obtain ⟨hrest, hservice⟩ := advanceAnchor_ok hanchored
    refine ⟨?_, hservice, rfl⟩
    rw [hrest]

/-- What a payment does before it records what the invoice funds. -/
lemma payInvoice_ok (h : payInvoice calendar db invoiceId effectiveAt = .ok db') :
    (db.invoices.get? invoiceId = none ∧ db' = db) ∨ ∃ invoice middle,
      db.invoices.get? invoiceId = some invoice ∧ SameService db middle ∧
        middle = { db with subscriptions := middle.subscriptions, invoices := middle.invoices } ∧
        db' = ensurePrepaidEntitlementsForPaidInvoice middle
          (settledInvoice calendar db invoice.paid effectiveAt) := by
  unfold payInvoice at h
  cases hinvoice : db.invoices.get? invoiceId with
  | none =>
    rw [hinvoice] at h
    exact .inl ⟨rfl, (pure_eq_ok.mp h).symm⟩
  | some invoice =>
    rw [hinvoice] at h
    obtain ⟨⟨middle, settled⟩, hmiddle, h⟩ := bind_eq_ok.mp h
    obtain ⟨hrest, hservice, rfl⟩ := reanchor_ok hmiddle
    exact .inr ⟨invoice, middle, rfl, hservice, hrest, (pure_eq_ok.mp h).symm⟩

lemma beside_payInvoice (hsourced : Sourced db)
    (h : payInvoice calendar db invoiceId effectiveAt = .ok db') : Beside db db' := by
  obtain ⟨-, rfl⟩ | ⟨invoice, middle, -, hservice, hrest, rfl⟩ := payInvoice_ok h
  · exact .refl hsourced
  · have hmiddle : Beside db middle := by
      refine ⟨by rw [hrest], by rw [hrest], hservice, fun row hrow ledgerEntryId hsource => ?_⟩
      rw [hrest] at hrow
      exact ⟨fun _ => hrow, hsourced row hrow ledgerEntryId hsource⟩
    exact hmiddle.trans (beside_foldl hmiddle.sourced)

lemma SameService.any_prepaid (h : SameService db db') (subscriptionId : Option ℕ) :
    (∃ subscription ∈ subscriptionId.bind db'.subscriptions.get?,
        subscription.billingMode = .prepaid) ↔
      ∃ subscription ∈ subscriptionId.bind db.subscriptions.get?,
        subscription.billingMode = .prepaid := by
  cases subscriptionId with
  | none => rfl
  | some i =>
    have hmode := congrArg (Option.map Subscription.billingMode) (h i)
    simp only [Option.map_map] at hmode
    have hiff : ∀ o : Option Subscription, (∃ subscription ∈ o, subscription.billingMode = .prepaid) ↔
        o.map (Subscription.billingMode ∘ Subscription.unanchored) = some .prepaid := by
      intro o
      rw [Option.map_eq_some_iff]
      rfl
    rw [Option.bind_some, Option.bind_some, hiff, hiff, hmode]

lemma SameService.paidPeriod_eq (h : SameService db db') :
    paidPeriod db' invoice line = paidPeriod db invoice line := by
  unfold paidPeriod
  cases line.subscriptionId with
  | none => rfl
  | some i =>
    have hsame := h i
    cases hold : db.subscriptions.get? i with
    | none =>
      rw [hold, Option.map_none, Option.map_eq_none_iff] at hsame
      simp [hold, hsame]
    | some subscription =>
      obtain ⟨other, hother, hunanchored⟩ := h.get? hold
      have haccount : other.subscriberId = subscription.subscriberId :=
        (congrArg Subscription.subscriberId hunanchored :)
      have hmode : other.billingMode = subscription.billingMode :=
        (congrArg Subscription.billingMode hunanchored :)
      simp [hold, hother, haccount, hmode]

/-- **A payment** keeps the coverage disjoint exactly if what it pays for is vacant and disjoint. -/
lemma separate_payInvoice (h : payInvoice calendar db invoiceId effectiveAt = .ok db') :
    Separate db'.entitlements ↔ Separate db.entitlements ∧
      (paidPeriods calendar db invoiceId effectiveAt).Pairwise (fun p q => ¬p.Meets q) ∧
        ∀ p ∈ paidPeriods calendar db invoiceId effectiveAt, Vacant db.entitlements p := by
  unfold paidPeriods
  obtain ⟨hnone, rfl⟩ | ⟨invoice, middle, hsome, hservice, hrest, rfl⟩ := payInvoice_ok h
  · rw [hnone]
    simp
  · rw [hsome]
    have hentitlements : middle.entitlements = db.entitlements := by
      rw [hrest]
    dsimp only
    generalize settledInvoice calendar db invoice.paid effectiveAt = settled
    have hlines : entitlingLines middle settled = entitlingLines db settled := by
      unfold entitlingLines
      simp only [hservice.any_prepaid]
    have hperiods : newPeriods middle settled (entitlingLines db settled) =
        newPeriods db settled (entitlingLines db settled) := by
      unfold newPeriods entitlementOfLine
      rw [hentitlements]
      exact List.filterMap_congr fun line _ => hservice.paidPeriod_eq
    rw [← hperiods, ← hlines, ← hentitlements]
    exact separate_foldl nodup_entitlingLines

lemma rows_reverseFunding {db : PrepaidTables} :
    ∀ row ∈ (db.reverseFunding reopened invoiceId).entitlements.rows,
      ∃ before ∈ db.entitlements.rows, row.sourceLedgerEntryId = before.sourceLedgerEntryId ∧
        (row.status = .active → row = before) := by
  have hentitlements : ∀ row ∈ (db.reverseFunding reopened invoiceId).entitlements.rows,
      ∃ before ∈ db.entitlements.rows, row = before ∨ row = revoked invoiceId before := by
    intro row hrow
    unfold PrepaidTables.reverseFunding at hrow
    split at hrow
    · exact ⟨row, hrow, .inl rfl⟩
    · rename_i invoice hinvoice
      have hid : invoice.id = invoiceId := (Table.get?_eq_some.mp hinvoice).2
      have hrevoke : row ∈ ((db.reopen reopened
          invoiceId).revokePrepaidEntitlementsForUnpaidInvoice
            { invoice with status := reopened }).entitlements.rows := by
        rw [PrepaidTables.retractPrepaidBillingAnchorsAfterFundingReversal,
          if_neg (List.cons_ne_nil _ _), List.foldl_cons, List.foldl_nil,
          PrepaidTables.retractInvoice] at hrow
        split at hrow <;> exact hrow
      by_cases hpaid : reopened = .paid
      · rw [PrepaidTables.revokePrepaidEntitlementsForUnpaidInvoice, if_pos hpaid] at hrevoke
        exact ⟨row, hrevoke, .inl rfl⟩
      · rw [rows_revoke hpaid] at hrevoke
        obtain ⟨before, hbefore, rfl⟩ := List.mem_map.mp hrevoke
        exact ⟨before, hbefore, .inr (by rw [hid])⟩
  intro row hrow
  obtain ⟨before, hbefore, rfl | rfl⟩ := hentitlements row hrow
  · exact ⟨row, hbefore, rfl, fun _ => rfl⟩
  · refine ⟨before, hbefore, ?_, fun hactive => ?_⟩
    · unfold revoked
      split_ifs <;> rfl
    · unfold revoked at hactive ⊢
      split_ifs at hactive ⊢
      rfl

/-- An invoice that is reopened moves anchors, and nothing else of a subscription. -/
lemma service_reverseFunding {db : PrepaidTables} (i : ℕ) :
    ((db.reverseFunding reopened invoiceId).subscriptions.get? i).map Subscription.unanchored =
      (db.subscriptions.get? i).map Subscription.unanchored := by
  have hmap : ∀ (db₁ : PrepaidTables) (invoice : Invoice),
      ((db₁.projectPrepaidBillingAnchorForInvoice invoice
        .fundingObservation).1.subscriptions.get? i).map Subscription.unanchored =
          (db₁.subscriptions.get? i).map Subscription.unanchored := by
    intro db₁ invoice
    have hget := Table.get?_map (t := db₁.subscriptions)
      (g := db₁.reanchored invoice .fundingObservation)
      (h := db₁.reanchored_id invoice .fundingObservation) (i := i)
    refine (congrArg (Option.map Subscription.unanchored) hget).trans ?_
    rw [Option.map_map]
    refine congrArg (fun f => Option.map f (db₁.subscriptions.get? i)) (funext fun row => ?_)
    show (db₁.reanchored invoice .fundingObservation row).unanchored = row.unanchored
    unfold PrepaidTables.reanchored
    split <;> rfl
  have hrevoke : ∀ invoice : Invoice, ((db.reopen reopened
      invoiceId).revokePrepaidEntitlementsForUnpaidInvoice invoice).subscriptions =
        db.subscriptions := by
    intro invoice
    unfold PrepaidTables.revokePrepaidEntitlementsForUnpaidInvoice
    split_ifs <;> rfl
  unfold PrepaidTables.reverseFunding
  split
  · rfl
  · rw [PrepaidTables.retractPrepaidBillingAnchorsAfterFundingReversal,
      if_neg (List.cons_ne_nil _ _), List.foldl_cons, List.foldl_nil, PrepaidTables.retractInvoice]
    split
    · exact congrArg (fun t : Table Subscription =>
        (t.get? i).map Subscription.unanchored) (hrevoke _)
    · exact (hmap _ _).trans (congrArg (fun t : Table Subscription =>
        (t.get? i).map Subscription.unanchored) (hrevoke _))

lemma beside_unpayInvoice (hsourced : Sourced db) :
    Beside db (unpayInvoice db invoiceId reopened) := by
  refine ⟨rfl, rfl, service_reverseFunding, fun row hrow ledgerEntryId hsource => ?_⟩
  obtain ⟨before, hbefore, hsame, hactive⟩ := rows_reverseFunding row hrow
  exact ⟨fun h => hactive h ▸ hbefore, hsourced before hbefore _ (hsame ▸ hsource)⟩

lemma separate_unpayInvoice (h : Separate db.entitlements) :
    Separate (unpayInvoice db invoiceId reopened).entitlements :=
  h.of_reversed fun row hrow hactive => by
    obtain ⟨before, hbefore, -, hsame⟩ := rows_reverseFunding row hrow
    exact hsame hactive ▸ hbefore

end Invoices

def grantIdOf (db : RenewalTables) (key : ℕ × ServicePeriod) : ℕ :=
  ((db.grants.rows.find? (·.idempotencyKey = key)).map (·.id)).getD db.grants.next

section Grants

variable {db db' : RenewalTables} {prices : ReferencePrices} {subscriptionId : ℕ}
  {decision : BillingTreatmentDecision} {startsAt endsAt : ℤ} {referenceAmount : Option ℚ}
  {entitlement : ServiceEntitlement} {grant : SubscriptionBillingGrant}

lemma recordGrant_ok {arrangement : SubscriptionBillingArrangement} {subscription : Subscription}
    {period : ServicePeriod} {value : ℚ} {currency : String} {key : ℕ × ServicePeriod}
    (h : recordGrant db (grantRow arrangement subscription period value currency) (fun _ => rfl)
      key = .ok (db', grant)) :
    db' = { db with grants := db'.grants } ∧ grant.id = grantIdOf db key ∧
      grant.subscriptionId = subscription.id ∧ grant.startsAt = period.startsAt ∧
      grant.endsAt = period.endsAt := by
  unfold recordGrant at h
  unfold grantIdOf
  cases hfind : db.grants.rows.find? (·.idempotencyKey = key) with
  | some found =>
    rw [hfind] at h
    dsimp only at h
    split_ifs at h with hmatches
    obtain ⟨rfl, rfl⟩ := mk_eq_ok.mp h
    rw [SubscriptionBillingGrant.matches, decide_eq_true_iff] at hmatches
    exact ⟨rfl, rfl, hmatches.2.1, hmatches.2.2.2.2.1, hmatches.2.2.2.2.2.1⟩
  | none =>
    rw [hfind] at h
    obtain ⟨rfl, rfl⟩ := mk_eq_ok.mp h
    exact ⟨rfl, rfl, rfl, rfl, rfl⟩

lemma recordGrantEntitlement_ok (h : recordGrantEntitlement db grant = .ok (db', entitlement)) :
    ((entitlementOfGrant db grant.id).isSome ∧ db' = db) ∨
      ((entitlementOfGrant db grant.id).isNone ∧ db' = { db with
        entitlements := db.entitlements.insert (grantEntitlement grant) fun _ => rfl }) := by
  unfold recordGrantEntitlement at h
  cases hfind : entitlementOfGrant db grant.id with
  | some found =>
    rw [hfind] at h
    dsimp only at h
    split_ifs at h
    exact .inl ⟨rfl, (mk_eq_ok.mp h).1.symm⟩
  | none =>
    rw [hfind] at h
    exact .inr ⟨rfl, (mk_eq_ok.mp h).1.symm⟩

/-- **A grant** leaves the wallet alone; it was granted before, or its period is covered now. -/
lemma grant_ok (hsourced : Sourced db)
    (h : stageSubscriptionBillingGrant prices db subscriptionId decision startsAt endsAt
      referenceAmount = .ok (db', entitlement)) :
    Beside db db' ∧ ∃ arrangementId, decision.arrangementId = some arrangementId ∧
      (((entitlementOfGrant db (grantIdOf db
          (arrangementId, ⟨subscriptionId, startsAt, endsAt⟩))).isSome ∧
          db'.entitlements = db.entitlements) ∨
        ((entitlementOfGrant db (grantIdOf db
          (arrangementId, ⟨subscriptionId, startsAt, endsAt⟩))).isNone ∧
          ∃ grant : SubscriptionBillingGrant,
            db'.entitlements = db.entitlements.insert (grantEntitlement grant) (fun _ => rfl) ∧
            ∀ id, (grantEntitlement grant id).period = ⟨subscriptionId, startsAt, endsAt⟩)) := by
  simp only [stageSubscriptionBillingGrant, bind_eq_ok, ensure_eq_ok, orRefuse_eq_ok,
    pure_eq_ok, Prod.mk.injEq] at h
  obtain ⟨-, -, arrangementId, harrangement, -, -, subscription, hsubscription, arrangement, -, -,
    -, -, -, reference, -, -, -, -, -, ⟨granted, grant⟩, hgrant, ⟨entitled, _⟩, hentitled, anchored,
    hanchored, rfl, -⟩ := h
  obtain ⟨hgranted, hid, hgrantSubscription, hstart, hend⟩ := recordGrant_ok hgrant
  obtain ⟨hanchors, hservice⟩ := advanceAnchor_ok hanchored
  have hperiod : ∀ id, (grantEntitlement grant id).period =
      ⟨subscriptionId, startsAt, endsAt⟩ := by
    intro id
    have hsubscriptionId : grant.subscriptionId = subscriptionId :=
      hgrantSubscription.trans (Table.get?_eq_some.mp hsubscription).2
    rw [ServiceEntitlement.period, grantEntitlement, hsubscriptionId, hstart, hend]
  have hgrantBeside : Beside db granted := by
    rw [hgranted]
    exact ⟨rfl, rfl, .refl db, fun row hrow ledgerEntryId hsource =>
      ⟨fun _ => hrow, hsourced row hrow ledgerEntryId hsource⟩⟩
  have hsame : granted.entitlements = db.entitlements := by
    rw [hgranted]
  have hlookup : entitlementOfGrant granted grant.id = entitlementOfGrant db (grantIdOf db
      (arrangementId, ⟨subscriptionId, startsAt, endsAt⟩)) := by
    rw [entitlementOfGrant, hsame, hid]
    rfl
  have hanchorBeside : ∀ {middle}, entitled = middle → Sourced middle → Beside middle anchored := by
    rintro _ rfl hmiddle
    refine ⟨by rw [hanchors], by rw [hanchors], hservice, fun row hrow ledgerEntryId hsource => ?_⟩
    rw [hanchors] at hrow
    exact ⟨fun _ => hrow, hmiddle row hrow ledgerEntryId hsource⟩
  have hentitlements : anchored.entitlements = entitled.entitlements := by
    rw [hanchors]
  rw [hentitlements]
  rcases recordGrantEntitlement_ok hentitled with ⟨hsome, hunchanged⟩ | ⟨hnone, hinserted⟩
  · refine ⟨hgrantBeside.trans (hanchorBeside hunchanged hgrantBeside.sourced), arrangementId,
      harrangement, .inl ⟨hlookup ▸ hsome, ?_⟩⟩
    rw [hunchanged, hsame]
  · have hinsertBeside : Beside granted { granted with
        entitlements := granted.entitlements.insert (grantEntitlement grant) fun _ => rfl } :=
      beside_insert hgrantBeside.sourced rfl
    refine ⟨hgrantBeside.trans (hinsertBeside.trans
      (hanchorBeside hinserted hinsertBeside.sourced)), arrangementId, harrangement,
      .inr ⟨hlookup ▸ hnone, grant, ?_, hperiod⟩⟩
    rw [hinserted, hsame]

end Grants

/-- What a command has to find vacant: a grant its period unless it was granted, a payment what it
newly pays for. -/
def Uncovered (calendar : BillingCalendar) (db : RenewalTables) : ProducerCommand → Prop
  | .renew _ _ => True
  | .grant subscriptionId decision startsAt endsAt _ =>
    ∀ arrangementId ∈ decision.arrangementId,
      (entitlementOfGrant db (grantIdOf db
        (arrangementId, ⟨subscriptionId, startsAt, endsAt⟩))).isSome ∨
        Vacant db.entitlements ⟨subscriptionId, startsAt, endsAt⟩
  | .pay invoiceId effectiveAt =>
    (paidPeriods calendar db invoiceId effectiveAt).Pairwise (fun p q => ¬p.Meets q) ∧
      ∀ p ∈ paidPeriods calendar db invoiceId effectiveAt, Vacant db.entitlements p
  | .unpay _ _ => True

/-- Disjoint entitlements, one debit for each, and renewals that are repeated. -/
structure PaidOnce (env : RenewalEnv) (db : RenewalTables) : Prop where
  disjoint : Separate db.entitlements
  debited : ∀ row ∈ db.entitlements.rows, row.status = .active →
    ∀ ledgerEntryId ∈ row.sourceLedgerEntryId, ∃ adjustment ∈ db.adjustments.rows,
      adjustment.ledgerEntryId = ledgerEntryId ∧ DebitOf db row adjustment ∧
        ∀ other ∈ db.adjustments.rows, other.origin = .prepaidServiceRenewal →
          (other.ledgerEntryId = ledgerEntryId ∨
            other.idempotencyKey = .period row.period) → other = adjustment
  repeated : ∀ row ∈ db.entitlements.rows, row.status = .active → row.sourceLedgerEntryId ≠ none →
    (∃ subscription, subscriptionForRequest db row.subscriptionId = .ok subscription) →
      ∀ amount currency evidenceRef, roundMoney amount = row.amountFunded →
        upper currency = row.currency → Text.strip evidenceRef ≠ "" →
          ∃ preview result,
            previewPrepaidServiceRenewal env db row.period amount currency = .ok preview ∧
            confirmPrepaidServiceRenewal env db preview evidenceRef = .ok (db, result) ∧
            result.entitlement = row ∧ result.replayed = true

section Runs

variable {env : RenewalEnv} {prices : ReferencePrices} {calendar : BillingCalendar}
  {db db' : RenewalTables} {command : ProducerCommand}

lemma Recorded.repeated (h : Recorded db) (hseparate : Separate db.entitlements)
    {row : ServiceEntitlement} (hrow : row ∈ db.entitlements.rows) (hactive : row.status = .active)
    (hwallet : row.sourceLedgerEntryId ≠ none) {subscription : Subscription}
    (hsubscription : subscriptionForRequest db row.subscriptionId = .ok subscription)
    {amount : ℚ} {currency evidenceRef : String} (hamount : roundMoney amount = row.amountFunded)
    (hcurrency : upper currency = row.currency) (hevidence : Text.strip evidenceRef ≠ "") :
    ∃ preview result, previewPrepaidServiceRenewal env db row.period amount currency =
        .ok preview ∧
      confirmPrepaidServiceRenewal env db preview evidenceRef = .ok (db, result) ∧
      result.entitlement = row ∧ result.replayed = true := by
  obtain ⟨ledgerEntryId, hsource⟩ := Option.ne_none_iff_exists'.mp hwallet
  obtain ⟨hwell, adjustment, hadjustment, hledger, hdebit⟩ := h.funded row hrow hactive _ hsource
  obtain ⟨entry, hentry, -⟩ := hdebit.entry
  have haccount : subscription.subscriberId = row.accountId := by
    obtain ⟨found, hfound, hsubscriber⟩ := hwell.account
    obtain rfl := Option.some.inj (hfound.symm.trans (subscriptionForRequest_ok hsubscription).1)
    exact hsubscriber
  have hoverlap : existingPeriodEntitlement db row.period = some row := by
    have hself : row.overlaps row.period :=
      overlaps_iff.mpr ⟨hactive, rfl, hwell.nonempty, hwell.nonempty⟩
    obtain ⟨found, hfound⟩ := Option.isSome_iff_exists.mp
      (List.find?_isSome.mpr ⟨row, hrow, hself⟩)
    have heq := separate_iff.mp hseparate row hrow found (List.mem_of_find?_eq_some hfound) hactive
      (List.find?_some hfound)
    exact heq ▸ hfound
  have hkey : existingForKey db .prepaidServiceRenewal (.period row.period) = some adjustment := by
    obtain ⟨found, hfound⟩ := Option.isSome_iff_exists.mp
      (existingForKey_isSome hadjustment hdebit.origin hdebit.key)
    obtain ⟨hmem, horigin, hfoundKey⟩ := existingForKey_eq_some hfound
    have heq := h.keys found hmem adjustment hadjustment horigin hdebit.origin
      (hfoundKey.trans hdebit.key.symm)
    exact heq ▸ hfound
  have hentitlement : entitlementOfDebit db adjustment.ledgerEntryId = some row := by
    obtain ⟨found, hfound⟩ := Option.isSome_iff_exists.mp
      (entitlementOfDebit_isSome hrow (hledger ▸ hsource) hactive)
    obtain ⟨hmem, hfoundSource, hfoundActive⟩ := entitlementOfDebit_eq_some hfound
    have heq := h.sources row hrow found hmem hactive hfoundActive hwallet
      (hsource.trans (hledger ▸ hfoundSource.symm))
    exact heq ▸ hfound
  have hrecorded : isRecordedRenewal subscription.subscriberId row.period (roundMoney amount)
      (upper currency) row adjustment = true :=
    decide_eq_true ⟨hledger ▸ hsource, haccount.symm, rfl, rfl, by rw [hwell.cents, hamount],
      hcurrency.symm⟩
  have hpreview : ∃ preview, previewPrepaidServiceRenewal env db row.period amount currency =
      .ok preview ∧ preview.period = row.period ∧ preview.accountId = subscription.subscriberId ∧
        preview.amount = roundMoney amount ∧ preview.currency = upper currency ∧
        preview.fingerprint = adjustment.previewFingerprint := by
    have hlength : (upper currency).length = 3 := by
      rw [hcurrency]
      exact length_of_isCurrencyCode hwell.code
    have hpositive : 0 < roundMoney amount := by
      rw [hamount]
      exact hwell.positive
    have hrequest : subscriptionForRequest db row.period.subscriptionId = .ok subscription :=
      hsubscription
    have hnonempty : row.period.startsAt < row.period.endsAt := hwell.nonempty
    rw [previewPrepaidServiceRenewal, hrequest, ok_bind, ensure_of hnonempty, ok_bind]
    dsimp only
    rw [ensure_of hpositive, ok_bind, ensure_of hlength, ok_bind, hoverlap]
    dsimp only
    rw [hkey, Option.filter_some_pos hrecorded, orRefuse_some, ok_bind]
    exact ⟨_, rfl, rfl, rfl, rfl, rfl, rfl⟩
  obtain ⟨preview, hpreview, hperiod, hpreviewAccount, hpreviewAmount, hpreviewCurrency,
    hfingerprint⟩ := hpreview
  have hmatches : matchesPreview preview adjustment row = true := by
    rw [matchesPreview, decide_eq_true_iff, hperiod, hpreviewAccount, hpreviewAmount,
      hpreviewCurrency, hfingerprint]
    exact ⟨rfl, hdebit.account.trans haccount.symm, rfl, rfl, rfl, by rw [hwell.cents, hamount],
      hcurrency.symm⟩
  refine ⟨preview, ⟨preview, adjustment, entry, row, true⟩, hpreview, ?_, rfl, rfl⟩
  rw [confirmPrepaidServiceRenewal]
  dsimp only
  rw [ensure_of hevidence, ok_bind, hperiod, hkey]
  dsimp only
  rw [renewalReplay, hentitlement, Option.filter_some_pos hmatches, orRefuse_some, ok_bind, hentry,
    orRefuse_some, ok_bind]
  rfl

lemma Recorded.paidOnce (h : Recorded db) (hseparate : Separate db.entitlements) :
    PaidOnce env db := by
  refine ⟨hseparate, fun row hrow hactive ledgerEntryId hsource => ?_,
    fun row hrow hactive hwallet ⟨subscription, hsubscription⟩ amount currency evidenceRef hamount
      hcurrency hevidence => h.repeated hseparate hrow hactive hwallet hsubscription hamount
        hcurrency hevidence⟩
  obtain ⟨-, adjustment, hadjustment, hledger, hdebit⟩ := h.funded row hrow hactive _ hsource
  refine ⟨adjustment, hadjustment, hledger, hdebit, ?_⟩
  rintro other hother horigin (heq | hkey)
  · exact h.entries other hother adjustment hadjustment (heq.trans hledger.symm)
  · exact h.keys other hother adjustment hadjustment horigin hdebit.origin
      (hkey.trans hdebit.key.symm)

/-- **Step**: the records stay in order, and the coverage stays disjoint exactly if the command
finds vacant what it covers. -/
lemma Recorded.step (h : Recorded db)
    (hok : producerStep env prices calendar db command = .ok db') :
    Recorded db' ∧ (Separate db.entitlements →
      (Separate db'.entitlements ↔ Uncovered calendar db command)) := by
  cases command with
  | renew preview evidenceRef =>
    obtain ⟨⟨_, result⟩, hconfirm, rfl⟩ := map_eq_ok.mp hok
    rcases confirm_ok h.sourced hconfirm with ⟨rfl, -⟩ | ⟨debit, hrenewed, -⟩
    · exact ⟨h, fun hseparate => iff_of_true hseparate trivial⟩
    · refine ⟨h.renewed hrenewed, fun hseparate => iff_of_true ?_ trivial⟩
      dsimp only
      rw [hrenewed.entitlements]
      exact (separate_insert rfl rfl).mpr
        ⟨hseparate, existingPeriodEntitlement_eq_none.mp hrenewed.free⟩
  | grant subscriptionId decision startsAt endsAt referenceAmount =>
    obtain ⟨⟨_, entitlement⟩, hgrant, rfl⟩ := map_eq_ok.mp hok
    obtain ⟨hbeside, arrangementId, harrangement, hcovered⟩ := grant_ok h.sourced hgrant
    refine ⟨h.beside hbeside, fun hseparate => ?_⟩
    dsimp only
    rcases hcovered with ⟨hsome, hsame⟩ | ⟨hnone, grant, hinsert, hperiod⟩
    · rw [hsame]
      refine iff_of_true hseparate fun other hother => .inl ?_
      obtain rfl := Option.mem_unique harrangement hother
      exact hsome
    · rw [hinsert]
      refine (separate_insert (h := fun _ => rfl) rfl (hperiod _)).trans ?_
      constructor
      · exact fun hvacant _ _ => .inr hvacant.2
      · intro huncovered
        rcases huncovered arrangementId harrangement with hsome | hvacant
        · rw [Option.isNone_iff_eq_none] at hnone
          rw [hnone] at hsome
          cases hsome
        · exact ⟨hseparate, hvacant⟩
  | pay invoiceId effectiveAt =>
    refine ⟨h.beside (beside_payInvoice h.sourced hok), fun hseparate => ?_⟩
    rw [separate_payInvoice hok]
    exact ⟨And.right, fun huncovered => ⟨hseparate, huncovered⟩⟩
  | unpay invoiceId reopened =>
    obtain rfl := pure_eq_ok.mp hok
    exact ⟨h.beside (beside_unpayInvoice h.sourced),
      fun hseparate => iff_of_true (separate_unpayInvoice hseparate) trivial⟩

/-- In a run every instant is paid for once exactly if each payment and each grant covers periods
that no active entitlement overlaps. -/
theorem paidOnce_iff (env : RenewalEnv) (prices : ReferencePrices) (calendar : BillingCalendar)
    {db : RenewalTables} (hrecorded : Recorded db) (hseparate : Separate db.entitlements)
    (commands : List ProducerCommand) :
    (∀ before after, commands = before ++ after →
        PaidOnce env (run (producerStep env prices calendar) db before)) ↔
      Guarded (producerStep env prices calendar) (Uncovered calendar) db commands := by
  have hrun : ∀ before, Recorded (run (producerStep env prices calendar) db before) := fun before =>
    invariant_run (fun _ _ _ h hok => (h.step hok).1) before hrecorded
  rw [← forall_prefix_iff_guarded
    (fun s c s' (h : Recorded s ∧ Separate s.entitlements) hguard hok =>
      ⟨(h.1.step hok).1, ((h.1.step hok).2 h.2).mpr hguard⟩)
    (fun s c s' h hok h' => ((h.1.step hok).2 h.2).mp h'.2) commands db ⟨hrecorded, hseparate⟩]
  constructor
  · exact fun h before after heq => ⟨hrun before, (h before after heq).disjoint⟩
  · exact fun h before after heq => (hrun before).paidOnce (h before after heq).2

/-- **Every debit pays for one service period**: in every run an active entitlement of the wallet has
a debit of its own amount and currency, which is no other's. -/
theorem debited_run (env : RenewalEnv) (prices : ReferencePrices) (calendar : BillingCalendar)
    (db : RenewalTables) (commands : List ProducerCommand) :
    Recorded (run (producerStep env prices calendar)
      { db with adjustments := .empty, entitlements := .empty } commands) := by
  refine invariant_run (fun _ _ _ h hok => (h.step hok).1) commands ⟨?_, ?_, ?_, ?_, ?_, ?_⟩
  all_goals exact fun _ h => absurd h List.not_mem_nil

end Runs

def hundredWallet : RenewalEnv where
  accountExists _ := true
  effectiveMode _ := .prepaid
  defaultCurrency := some "NGN"
  prepaidEnforcementCurrency := some "NGN"
  otherFunding _ _ := some (.store 2 100)
  accountCreditBalance _ _ _ := 0
  openInvoiceBalance _ := 0
  collectionBlockingBalance _ := 0
  legacyReversed _ := false
  adjustmentFingerprint _ := "fingerprint"
  reversalFingerprint _ := "fingerprint"
  date _ := "1970-01-01"

def noPrices : ReferencePrices := fun _ _ => .error (.grant (.referencePrice "missing"))

/-- Days in microseconds. -/
def days (n : ℤ) : ℤ := n * usPerDay

/-- A service that is invoiced for its first 30 days. -/
def invoicedService : RenewalTables where
  subscriptions := Table.empty.insert (fun id => ⟨id, 1, 0, .prepaid, .active, some (days 1)⟩)
    fun _ => rfl
  invoices := Table.empty.insert (fun id => ⟨id, 1, .issued, true, 10, some "NGN", some (days 1),
    some (days 31), [⟨0, some 0, 10, true, some "base_subscription", none, none⟩],
    List.nodup_singleton _⟩) fun _ => rfl
  entitlements := .empty
  extensions := .empty
  entries := .empty
  arrangements := .empty
  grants := .empty
  adjustments := .empty
  ledgerEntries := .empty

def firstRenewal : ProducerCommand :=
  .renew ⟨1, ⟨0, days 1, days 31⟩, 10, "NGN", 100, 90, 0, true, "fingerprint", false⟩ "scheduled"

lemma recorded_invoicedService : Recorded invoicedService :=
  ⟨fun _ h => absurd h List.not_mem_nil, fun _ h => absurd h List.not_mem_nil,
    fun _ h => absurd h List.not_mem_nil, fun _ h => absurd h List.not_mem_nil,
    fun _ h => absurd h List.not_mem_nil, fun _ h => absurd h List.not_mem_nil⟩

/-- Months in UTC. -/
def utcMonths : BillingCalendar where
  zoneInfo _ := some Cadence.utc
  timezoneName := "UTC"
  billingCycle _ := some .monthly

/-- The invoice is paid after its period and moved, and the wallet renews the period it left. -/
theorem paidOnce_iff_invoicedService :
    (∀ before after,
        [.pay 0 (some (days 40)), firstRenewal, .unpay 0 .issued] = before ++ after →
          PaidOnce hundredWallet
            (run (producerStep hundredWallet noPrices utcMonths) invoicedService before)) ↔
      Guarded (producerStep hundredWallet noPrices utcMonths) (Uncovered utcMonths) invoicedService
        [.pay 0 (some (days 40)), firstRenewal, .unpay 0 .issued] :=
  paidOnce_iff hundredWallet noPrices utcMonths recorded_invoicedService
    (fun _ h => absurd h List.not_mem_nil) _

-- The invoice is paid after 9 days without service, and pays for the month from that day.
example : (payInvoice utcMonths invoicedService 0 (some (days 40 + 7))).toOption.map
    (fun db => (db.entitlements.rows.map ServiceEntitlement.period, db.anchor 0)) =
      some ([⟨0, days 40, days 68⟩], some (days 68)) := by
  decide +kernel

/-- The invoice of a period that the wallet has renewed is paid, and pays for it again. -/
theorem paidTwice_invoicedService :
    ¬∀ (env : RenewalEnv) (prices : ReferencePrices) (calendar : BillingCalendar)
      (db : RenewalTables) (commands : List ProducerCommand), Recorded db →
        Separate db.entitlements →
          PaidOnce env (run (producerStep env prices calendar) db commands) := by
  intro hclaim
  have honce := hclaim hundredWallet noPrices utcMonths invoicedService
    [firstRenewal, .pay 0 (some (days 5))] recorded_invoicedService fun _ h => absurd h List.not_mem_nil
  exact absurd honce.disjoint (by decide +kernel)

end DotmacSub.PrepaidService
