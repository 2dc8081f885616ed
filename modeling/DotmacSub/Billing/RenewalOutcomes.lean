import DotmacSub.Billing.PrepaidRenewals

/-!
# Outcomes of a renewal

What a confirmed renewal is: either the period was renewed before and nothing changes, or the debit,
the entitlement and the anchor are new.
-/

namespace DotmacSub.PrepaidService

open Store Checked Payments ServiceExtensions Decimal

section Currency

variable {currency : String}

/-- A normalized currency is its own normal form. -/
lemma upper_upper (currency : String) : upper (upper currency) = upper currency := by
  rw [upper, upper, Text.strip_map_toUpper, String.ofList_toList, Text.strip_strip,
    String.toList_ofList, List.map_map]
  exact congrArg String.ofList (List.map_congr_left fun c _ => Text.toUpper_toUpper c)

lemma length_of_isCurrencyCode (h : isCurrencyCode currency) : currency.length = 3 :=
  of_decide_eq_true (Bool.and_eq_true _ _ ▸ h : _ ∧ _).1

end Currency

section Debit

variable {env : RenewalEnv} {db : RenewalTables} {payload : AccountAdjustmentPreviewRequest}
  {origin : AccountAdjustmentOrigin} {originRef : Option Reference}
  {preview : AccountAdjustmentPreview}

lemma roundMoney_roundMoney (x : ℚ) : roundMoney (roundMoney x) = roundMoney x :=
  roundMoney_of_onGrid (onGrid_roundMoney x)

/-- A debit of whole cents is allowed exactly if the funding covers it. -/
lemma shortfall_eq_zero_iff (amount funding : ℚ) :
    roundMoney (max 0 (roundMoney amount - roundMoney funding)) = 0 ↔
      roundMoney amount ≤ roundMoney funding := by
  have hgrid : OnGrid 2 (max 0 (roundMoney amount - roundMoney funding)) := by
    rcases max_choice 0 (roundMoney amount - roundMoney funding) with h | h
    · rw [h]
      exact ⟨0, by norm_num⟩
    · rw [h]
      exact (onGrid_roundMoney _).sub (onGrid_roundMoney _)
  rw [roundMoney_of_onGrid hgrid, max_eq_left_iff, sub_nonpos]

/-- What a previewed debit says. -/
lemma previewAccountAdjustment_ok
    (h : previewAccountAdjustment env db payload origin originRef = .ok preview) :
    preview.accountId = payload.accountId ∧ preview.origin = origin ∧
      preview.amount = roundMoney payload.amount ∧ 0 < preview.amount ∧
      preview.currency = upper ((payload.currency.orElse fun _ => env.defaultCurrency).getD "") ∧
      isCurrencyCode preview.currency ∧
      (origin = .prepaidServiceRenewal → ∃ available,
        prepaidAvailableBalance env db payload.accountId = .ok available ∧
          (preview.allowed = true ↔ preview.amount ≤ roundMoney available)) := by
  simp only [previewAccountAdjustment, bind_eq_ok, ensure_eq_ok, pure_eq_ok] at h
  obtain ⟨-, -, -, hpos, -, hcode, memo, -, reason, -, available, havailable, rfl⟩ := h
  refine ⟨rfl, rfl, rfl, hpos, rfl, hcode, fun horigin => ⟨available, havailable, ?_⟩⟩
  rw [decide_eq_true_iff, if_pos horigin]
  exact shortfall_eq_zero_iff _ _

end Debit

def Subscription.unanchored (subscription : Subscription) : Subscription :=
  { subscription with nextBillingAt := none }

/-- Two states sell the same service: their subscriptions differ in anchors at most. -/
def SameService (db db' : RenewalTables) : Prop :=
  ∀ i, (db'.subscriptions.get? i).map Subscription.unanchored =
    (db.subscriptions.get? i).map Subscription.unanchored

section Anchor

variable {db db' db'' : RenewalTables} {subscription : Subscription} {target : ℤ}
  {source : BillingAnchorProjectionSource} {evidenceRef : String} {subscriptionId : ℕ}

lemma SameService.refl (db : RenewalTables) : SameService db db := fun _ => rfl

lemma SameService.trans (h : SameService db db') (h' : SameService db' db'') :
    SameService db db'' := fun i => (h' i).trans (h i)

lemma SameService.get? (h : SameService db db')
    (hget : db.subscriptions.get? subscriptionId = some subscription) :
    ∃ other, db'.subscriptions.get? subscriptionId = some other ∧
      other.unanchored = subscription.unanchored := by
  have hsame := h subscriptionId
  rw [hget, Option.map_some, Option.map_eq_some_iff] at hsame
  exact hsame

lemma advanceAnchor_ok (h : advanceAnchor db subscription target source evidenceRef = .ok db') :
    db' = { db with subscriptions := db'.subscriptions } ∧ SameService db db' := by
  unfold advanceAnchor at h
  split_ifs at h
  · simp only [stageSubscriptionBillingAnchor, bind_eq_ok, ensure_eq_ok, orRefuse_eq_ok,
      pure_eq_ok] at h
    obtain ⟨-, -, row, hrow, -, -, -, -, rfl⟩ := h
    refine ⟨rfl, fun i => ?_⟩
    show ((db.subscriptions.update subscription.id (fun row : Subscription =>
      { row with nextBillingAt := some target }) fun _ => rfl).get? i).map _ = _
    by_cases hi : i = subscription.id
    · rw [hi, Table.get?_update_self hrow, hrow]
      rfl
    · rw [Table.get?_update_ne hi]
  · rw [pure_eq_ok] at h
    subst h
    exact ⟨rfl, .refl db⟩

end Anchor

def walletEntitlement (period : ServicePeriod) (debit : AccountAdjustmentPreview)
    (ledgerEntryId id : ℕ) : ServiceEntitlement :=
  ⟨id, debit.accountId, period.subscriptionId, none, none, some ledgerEntryId, none,
    period.startsAt, period.endsAt, debit.amount, debit.currency, .active⟩

/-- A new renewal: what it was checked against, and what it changed. -/
structure Renewed (env : RenewalEnv) (db db' : RenewalTables) (period : ServicePeriod)
    (debit : AccountAdjustmentPreview) : Prop where
  unused : existingForKey db .prepaidServiceRenewal (.period period) = none
  free : existingPeriodEntitlement db period = none
  nonempty : period.startsAt < period.endsAt
  subscription : ∃ subscription, subscriptionForRequest db period.subscriptionId =
    .ok subscription ∧ debit.accountId = subscription.subscriberId
  origin : debit.origin = .prepaidServiceRenewal
  positive : 0 < debit.amount
  cents : roundMoney debit.amount = debit.amount
  code : isCurrencyCode debit.currency
  normal : upper debit.currency = debit.currency
  covered : ∃ available, prepaidAvailableBalance env db debit.accountId = .ok available ∧
    debit.amount ≤ roundMoney available
  adjustments : db'.adjustments = db.adjustments.insert
    (adjustmentRow debit (.period period) db.ledgerEntries.next) fun _ => rfl
  ledgerEntries : db'.ledgerEntries = db.ledgerEntries.insert
    (debitEntry debit (some period.startsAt)) fun _ => rfl
  entitlements : db'.entitlements = db.entitlements.insert
    (walletEntitlement period debit db.ledgerEntries.next) fun _ => rfl
  rest : db' = { db with
    adjustments := db'.adjustments, ledgerEntries := db'.ledgerEntries,
    entitlements := db'.entitlements, subscriptions := db'.subscriptions }
  service : SameService db db'

/-- The sources of entitlements are entries of the ledger. -/
def Sourced (db : RenewalTables) : Prop :=
  ∀ row ∈ db.entitlements.rows, ∀ ledgerEntryId ∈ row.sourceLedgerEntryId,
    ledgerEntryId < db.ledgerEntries.next

section Lookups

variable {db : RenewalTables} {origin : AccountAdjustmentOrigin} {key : Reference}
  {adjustment : AccountAdjustment} {ledgerEntryId : ℕ} {row : ServiceEntitlement}

lemma existingForKey_eq_some (h : existingForKey db origin key = some adjustment) :
    adjustment ∈ db.adjustments.rows ∧ adjustment.origin = origin ∧
      adjustment.idempotencyKey = key := by
  unfold existingForKey at h
  exact ⟨List.mem_of_find?_eq_some h, by simpa using List.find?_some h⟩

lemma existingForKey_isSome (hmem : adjustment ∈ db.adjustments.rows)
    (horigin : adjustment.origin = origin) (hkey : adjustment.idempotencyKey = key) :
    (existingForKey db origin key).isSome :=
  List.find?_isSome.mpr ⟨adjustment, hmem, decide_eq_true ⟨horigin, hkey⟩⟩

lemma entitlementOfDebit_eq_some (h : entitlementOfDebit db ledgerEntryId = some row) :
    row ∈ db.entitlements.rows ∧ row.sourceLedgerEntryId = some ledgerEntryId ∧
      row.status = .active := by
  unfold entitlementOfDebit at h
  exact ⟨List.mem_of_find?_eq_some h, by simpa using List.find?_some h⟩

lemma entitlementOfDebit_isSome (hmem : row ∈ db.entitlements.rows)
    (hsource : row.sourceLedgerEntryId = some ledgerEntryId) (hactive : row.status = .active) :
    (entitlementOfDebit db ledgerEntryId).isSome :=
  List.find?_isSome.mpr ⟨row, hmem, decide_eq_true ⟨hsource, hactive⟩⟩

end Lookups

variable {env : RenewalEnv} {db db' : RenewalTables} {preview : PrepaidServiceRenewalPreview}
  {evidenceRef : String} {result : PrepaidServiceRenewalResult} {period : ServicePeriod}
  {amount : ℚ} {currency : String}

lemma subscriptionForRequest_ok {subscriptionId : ℕ} {subscription : Subscription}
    (h : subscriptionForRequest db subscriptionId = .ok subscription) :
    db.subscriptions.get? subscriptionId = some subscription ∧
      subscription.billingMode = .prepaid ∧ subscription.status ∈ renewalEligibleStatuses := by
  simp only [subscriptionForRequest, bind_eq_ok, orRefuse_eq_ok, ensure_eq_ok, pure_eq_ok] at h
  obtain ⟨row, hrow, -, hmode, -, hstatus, rfl⟩ := h
  exact ⟨hrow, hmode, hstatus⟩

lemma preview_ok (hunused : existingForKey db .prepaidServiceRenewal (.period period) = none)
    (h : previewPrepaidServiceRenewal env db period amount currency = .ok preview) :
    existingPeriodEntitlement db period = none ∧ period.startsAt < period.endsAt ∧
      ∃ subscription debit, subscriptionForRequest db period.subscriptionId = .ok subscription ∧
        previewAccountAdjustment env db (renewalRequest env subscription.subscriberId period
          (roundMoney amount) (upper currency)) .prepaidServiceRenewal (some (.period period)) =
            .ok debit ∧
        preview = ⟨subscription.subscriberId, period, roundMoney amount, upper currency,
          debit.prepaidFundingBefore, debit.prepaidFundingAfter, debit.shortfall, debit.allowed,
          debit.fingerprint, false⟩ := by
  simp only [previewPrepaidServiceRenewal, bind_eq_ok, ensure_eq_ok] at h
  obtain ⟨subscription, hsubscription, -, hnonempty, -, -, -, -, h⟩ := h
  cases hoverlap : existingPeriodEntitlement db period with
  | some overlap =>
    rw [hoverlap] at h
    simp only [bind_eq_ok, orRefuse_eq_ok, hunused] at h
    obtain ⟨adjustment, hadjustment, -⟩ := h
    cases hadjustment
  | none =>
    rw [hoverlap] at h
    simp only [bind_eq_ok, mapError_eq_ok, pure_eq_ok] at h
    obtain ⟨debit, hdebit, rfl⟩ := h
    exact ⟨rfl, hnonempty, subscription, debit, hsubscription, hdebit, rfl⟩

lemma ensurePrepaidEntitlementForWalletDebit_recordDebit {subscription : Subscription}
    {debit : AccountAdjustmentPreview} {key : Reference} {effectiveDate : Option ℤ}
    (hsourced : Sourced db) (horigin : debit.origin = .prepaidServiceRenewal)
    (haccount : debit.accountId = subscription.subscriberId)
    (hid : subscription.id = period.subscriptionId)
    (hcents : roundMoney debit.amount = debit.amount) (hcode : isCurrencyCode debit.currency) :
    ensurePrepaidEntitlementForWalletDebit (recordDebit db debit key effectiveDate) subscription
        (debitEntry debit effectiveDate db.ledgerEntries.next) period.startsAt period.endsAt =
      ({ recordDebit db debit key effectiveDate with
          entitlements := db.entitlements.insert
            (walletEntitlement period debit db.ledgerEntries.next) fun _ => rfl },
        some (walletEntitlement period debit db.ledgerEntries.next db.entitlements.next)) := by
  have howned : ∃ row ∈ (recordDebit db debit key effectiveDate).adjustments.rows,
      row.ledgerEntryId = db.ledgerEntries.next ∧ row.origin = .prepaidServiceRenewal :=
    ⟨_, List.mem_append_right _ (List.mem_singleton_self _), rfl, horigin⟩
  have hnone : entitlementOfDebit (recordDebit db debit key effectiveDate) db.ledgerEntries.next =
      none := by
    rw [entitlementOfDebit, List.find?_eq_none]
    intro row hrow hsource
    exact lt_irrefl _ (hsourced row hrow _ (of_decide_eq_true hsource).1)
  have hnonempty : debit.currency ≠ "" := by
    intro hempty
    have hlength := length_of_isCurrencyCode hcode
    rw [hempty] at hlength
    exact absurd hlength (by decide)
  have hstored : roundMoney (Numeric.store 2 debit.amount).value = debit.amount :=
    (roundMoney_roundMoney _).trans hcents
  unfold ensurePrepaidEntitlementForWalletDebit
  simp only [debitEntry]
  rw [if_neg (by simpa using howned), hnone]
  simp only [hstored, hid, ← haccount, hnonempty, if_false]
  rfl

lemma stageSystemAccountAdjustment_renewal {debited : RenewalTables}
    {request : AccountAdjustmentPreviewRequest} {debit : AccountAdjustmentPreview}
    {effectiveDate : Option ℤ} {staged : AccountAdjustmentResult}
    (hunused : existingForKey db .prepaidServiceRenewal (.period period) = none)
    (hdebit : previewAccountAdjustment env db request .prepaidServiceRenewal
      (some (.period period)) = .ok debit)
    (h : stageSystemAccountAdjustment env db (renewalContext period) request
      .prepaidServiceRenewal (some (.period period)) (.period period) effectiveDate =
        .ok (debited, staged)) :
    debited = recordDebit db debit (.period period) effectiveDate ∧
      staged = ⟨adjustmentRow debit (.period period) db.ledgerEntries.next db.adjustments.next,
        debitEntry debit effectiveDate db.ledgerEntries.next, false⟩ := by
  rw [stageSystemAccountAdjustment, hdebit, ok_bind, stageConfirmation] at h
  simp only [bind_eq_ok] at h
  obtain ⟨-, -, h⟩ := h
  rw [hunused] at h
  simp only [hdebit, ok_bind, bind_eq_ok, ensure_eq_ok, pure_eq_ok, Prod.mk.injEq] at h
  obtain ⟨-, -, -, -, rfl, rfl⟩ := h
  exact ⟨rfl, rfl⟩

/-- **The outcomes of a confirmation**: the period was renewed before and nothing changes, or it is
renewed now. -/
theorem confirm_ok (hsourced : Sourced db)
    (h : confirmPrepaidServiceRenewal env db preview evidenceRef = .ok (db', result)) :
    (db' = db ∧ ∃ adjustment, existingForKey db .prepaidServiceRenewal (.period preview.period) =
        some adjustment ∧ renewalReplay db preview adjustment = .ok result) ∨
      ∃ debit, Renewed env db db' preview.period debit ∧
        debit.amount = roundMoney (roundMoney preview.amount) ∧
        debit.currency = upper (upper preview.currency) ∧ result.replayed = false := by
  simp only [confirmPrepaidServiceRenewal, bind_eq_ok, ensure_eq_ok] at h
  obtain ⟨-, -, h⟩ := h
  cases hexisting : existingForKey db .prepaidServiceRenewal (.period preview.period) with
  | some adjustment =>
    rw [hexisting] at h
    simp only [bind_eq_ok, pure_eq_ok, Prod.mk.injEq] at h
    obtain ⟨replay, hreplay, rfl, rfl⟩ := h
    exact .inl ⟨rfl, adjustment, rfl, hreplay⟩
  | none =>
    rw [hexisting] at h
    simp only [bind_eq_ok, ensure_eq_ok, mapError_eq_ok, orRefuse_eq_ok, pure_eq_ok,
      Prod.mk.injEq] at h
    obtain ⟨subscription, hsubscription, current, hcurrent, -, -, -, hallowed, ⟨debited, staged⟩,
      hstaged, entitlement, hentitlement, anchored, hanchored, rfl, rfl⟩ := h
    obtain ⟨hfree, hnonempty, subscription', debit, hsubscription', hdebit, rfl⟩ :=
      preview_ok hexisting hcurrent
    obtain rfl : subscription' = subscription :=
      Except.ok.inj (hsubscription'.symm.trans hsubscription)
    obtain ⟨haccount, horigin, hamount, hpositive, hcurrency, hcode, havailable⟩ :=
      previewAccountAdjustment_ok hdebit
    obtain ⟨available, hbalance, hcovers⟩ := havailable rfl
    have hdebit' : previewAccountAdjustment env db (renewalRequest env subscription'.subscriberId
        preview.period (roundMoney preview.amount) (upper preview.currency))
        .prepaidServiceRenewal (some (.period preview.period)) = .ok debit := hdebit
    obtain ⟨rfl, rfl⟩ := stageSystemAccountAdjustment_renewal hexisting hdebit' hstaged
    have hcents : roundMoney debit.amount = debit.amount := by
      rw [hamount, roundMoney_roundMoney]
    have hid : subscription'.id = preview.period.subscriptionId :=
      (Table.get?_eq_some.mp (subscriptionForRequest_ok hsubscription).1).2
    rw [ensurePrepaidEntitlementForWalletDebit_recordDebit hsourced horigin haccount hid hcents
      hcode] at hentitlement hanchored
    obtain ⟨hrest, hservice⟩ := advanceAnchor_ok hanchored
    refine .inr ⟨debit, ⟨hexisting, hfree, hnonempty, ⟨subscription', hsubscription, haccount⟩,
      horigin, hpositive, hcents, hcode, ?_, ⟨available, haccount ▸ hbalance, hcovers.mp hallowed⟩,
      ?_, ?_, ?_, ?_, hservice⟩, hamount, hcurrency, rfl⟩
    · rw [hcurrency]
      exact upper_upper _
    · rw [hrest]
      rfl
    · rw [hrest]
      rfl
    · rw [hrest]
    · rw [hrest]
      rfl

end DotmacSub.PrepaidService
