import DotmacSub.Billing.PaidOnce

/-!
# Debits behind renewed service

Service that the wallet pays for lasts as long as its debit, and a renewal spends funding of its own
currency.  Both hold as long as no debit of active service is reversed, and what is renewed in a
currency that is not the enforced one is funded in that currency.
-/

namespace DotmacSub.PrepaidService

open Store Checked Payments ServiceExtensions Decimal Run

/-- A renewal, a debit or its reversal. -/
inductive WalletCommand
  | renew (preview : PrepaidServiceRenewalPreview) (evidenceRef : String)
  | adjust (command : ConfirmAccountAdjustmentCommand)
  | reverse (command : ReverseAccountAdjustmentCommand)

def walletStep (env : RenewalEnv) (db : RenewalTables) :
    WalletCommand → Except Refusal RenewalTables
  | .renew preview evidenceRef =>
    Prod.fst <$> confirmPrepaidServiceRenewal env db preview evidenceRef
  | .adjust command => Prod.fst <$> stageConfirmation env db command
  | .reverse command => Prod.fst <$> stageReversal env db command

def ServiceEntitlement.RestsOn (row : ServiceEntitlement) (adjustment : AccountAdjustment) : Prop :=
  row.status = .active ∧ adjustment.origin = .prepaidServiceRenewal ∧
    row.sourceLedgerEntryId = some adjustment.ledgerEntryId

instance (row : ServiceEntitlement) (adjustment : AccountAdjustment) :
    Decidable (row.RestsOn adjustment) := inferInstanceAs (Decidable (_ ∧ _ ∧ _))

/-- No debit that active service rests on was reversed. -/
def Lasting (db : RenewalTables) : Prop :=
  ∀ row ∈ db.entitlements.rows, ∀ adjustment ∈ db.adjustments.rows, row.RestsOn adjustment →
    adjustment.reversalLedgerEntryId = none ∧
      ∀ entry ∈ db.ledgerEntries.rows, entry.reversalOfEntryId ≠ some adjustment.ledgerEntryId

instance (db : RenewalTables) : Decidable (Lasting db) :=
  inferInstanceAs (Decidable (∀ row ∈ db.entitlements.rows, ∀ adjustment ∈ db.adjustments.rows,
    row.RestsOn adjustment → adjustment.reversalLedgerEntryId = none ∧
      ∀ entry ∈ db.ledgerEntries.rows, entry.reversalOfEntryId ≠ some adjustment.ledgerEntryId))

/-- The debits of a renewal are covered by the funding of their currency, and no funding falls below
zero. -/
structure Charged (env : RenewalEnv) (db db' : RenewalTables) : Prop where
  covered : ∀ adjustment ∈ db'.adjustments.rows, adjustment ∉ db.adjustments.rows →
    ∃ funding, verifiedPrepaidFundingBalance env db adjustment.accountId adjustment.currency =
      .ok funding ∧ adjustment.amount ≤ funding
  kept : ∀ accountId currency funding, verifiedPrepaidFundingBalance env db accountId currency =
    .ok funding → 0 ≤ funding → ∃ left, verifiedPrepaidFundingBalance env db' accountId currency =
      .ok left ∧ 0 ≤ left

/-- A reversal is not of a debit that active service rests on. -/
def KeepsService (db : RenewalTables) : WalletCommand → Prop
  | .reverse command => ∀ adjustment ∈ db.adjustments.get? command.adjustmentId,
    adjustment.reversalLedgerEntryId = none →
      ∀ row ∈ db.entitlements.rows, ¬row.RestsOn adjustment
  | _ => True

/-- A renewal is in the enforced currency, or funded in its own; or it is the repetition of one. -/
def SpendsOwnCurrency (env : RenewalEnv) (db : RenewalTables) : WalletCommand → Prop
  | .renew preview _ =>
    (existingForKey db .prepaidServiceRenewal (.period preview.period)).isSome ∨
      resolvePrepaidEnforcementCurrency env = .ok (upper preview.currency) ∨
      ∃ subscription funding,
        db.subscriptions.get? preview.period.subscriptionId = some subscription ∧
        verifiedPrepaidFundingBalance env db subscription.subscriberId (upper preview.currency) =
          .ok funding ∧ roundMoney preview.amount ≤ funding
  | _ => True

/-- Entries, debits and entitlements refer to each other in order. -/
structure Linked (db : RenewalTables) : Prop where
  sourced : Sourced db
  posted : ∀ adjustment ∈ db.adjustments.rows, adjustment.ledgerEntryId < db.ledgerEntries.next
  entries : ∀ adjustment ∈ db.adjustments.rows, ∀ other ∈ db.adjustments.rows,
    adjustment.ledgerEntryId = other.ledgerEntryId → adjustment = other
  targets : ∀ entry ∈ db.ledgerEntries.rows, ∀ target ∈ entry.reversalOfEntryId,
    target < db.ledgerEntries.next

section Funding

variable {env : RenewalEnv} {db db' : RenewalTables} {accountId : ℕ} {currency : String}
  {debit : AccountAdjustmentPreview} {effectiveDate : Option ℤ} {funding : ℚ}

lemma LedgerEntry.onGrid_signedAmount (entry : LedgerEntry) : OnGrid 2 entry.signedAmount := by
  unfold LedgerEntry.signedAmount
  cases entry.entryType with
  | credit => exact entry.amount.onGrid
  | debit => exact entry.amount.onGrid.neg

lemma onGrid_ledgerPosition : OnGrid 2 (ledgerPosition db accountId currency) := by
  refine OnGrid.list_sum fun x hx => ?_
  obtain ⟨entry, -, rfl⟩ := List.mem_map.mp hx
  exact entry.onGrid_signedAmount

/-- The funding of an account is in whole cents: nothing is rounded away. -/
lemma verifiedPrepaidFundingBalance_eq_ok :
    verifiedPrepaidFundingBalance env db accountId currency = .ok funding ↔
      ∃ other, env.otherFunding accountId currency = some other ∧
        other.value + ledgerPosition db accountId currency = funding := by
  simp only [verifiedPrepaidFundingBalance, bind_eq_ok, orRefuse_eq_ok, pure_eq_ok]
  refine exists_congr fun other => and_congr_right fun _ => ?_
  rw [roundMoney_of_onGrid (other.onGrid.add onGrid_ledgerPosition)]

lemma ledgerPosition_debited (hcents : roundMoney debit.amount = debit.amount)
    (h : db'.ledgerEntries = db.ledgerEntries.insert (debitEntry debit effectiveDate)
      fun _ => rfl) :
    ledgerPosition db' accountId currency = ledgerPosition db accountId currency -
      if debit.accountId = accountId ∧ debit.currency = currency then debit.amount else 0 := by
  have hrows : db'.ledgerEntries.rows =
      db.ledgerEntries.rows ++ [debitEntry debit effectiveDate db.ledgerEntries.next] := by
    rw [h]
    rfl
  have hsigned : (debitEntry debit effectiveDate db.ledgerEntries.next).signedAmount =
      -debit.amount := congrArg Neg.neg hcents
  have hmoves : (debitEntry debit effectiveDate db.ledgerEntries.next).moves accountId currency =
      decide (debit.accountId = accountId ∧ debit.currency = currency) := by
    simp [LedgerEntry.moves, debitEntry]
  unfold ledgerPosition
  rw [hrows, List.filter_append, List.map_append, List.sum_append, List.filter_singleton, hmoves]
  by_cases hown : debit.accountId = accountId ∧ debit.currency = currency
  · simp [hown, hsigned, sub_eq_add_neg]
  · simp [hown]

end Funding

section Outcomes

variable {env : RenewalEnv} {db db' : RenewalTables}

lemma stageConfirmation_ok {command : ConfirmAccountAdjustmentCommand}
    {result : AccountAdjustmentResult} (h : stageConfirmation env db command = .ok (db', result)) :
    db' = db ∨ ∃ debit,
      db' = recordDebit db debit command.idempotencyKey command.ledgerEffectiveDate := by
  simp only [stageConfirmation, bind_eq_ok] at h
  obtain ⟨-, -, h⟩ := h
  cases hexisting : existingForKey db command.origin command.idempotencyKey with
  | some existing =>
    rw [hexisting] at h
    simp only [bind_eq_ok, pure_eq_ok, Prod.mk.injEq] at h
    obtain ⟨-, -, rfl, -⟩ := h
    exact .inl rfl
  | none =>
    rw [hexisting] at h
    simp only [bind_eq_ok, ensure_eq_ok, pure_eq_ok, Prod.mk.injEq] at h
    obtain ⟨debit, -, -, -, -, -, rfl, -⟩ := h
    exact .inr ⟨debit, rfl⟩

lemma stageReversal_ok {command : ReverseAccountAdjustmentCommand}
    {result : AccountAdjustmentResult} (h : stageReversal env db command = .ok (db', result)) :
    ∃ adjustment, db.adjustments.get? command.adjustmentId = some adjustment ∧
      ((adjustment.reversalLedgerEntryId ≠ none ∧ db' = db) ∨
        adjustment.reversalLedgerEntryId = none ∧ ∃ preview original,
          db.ledgerEntries.get? adjustment.ledgerEntryId = some original ∧
            db' = recordReversal db preview command original) := by
  simp only [stageReversal, bind_eq_ok, orRefuse_eq_ok] at h
  obtain ⟨-, -, adjustment, hadjustment, h⟩ := h
  refine ⟨adjustment, hadjustment, ?_⟩
  cases hreused : existingForReversalKey db adjustment.origin command.idempotencyKey with
  | some reused =>
    rw [hreused] at h
    simp only [reversalReplay, bind_eq_ok, ensure_eq_ok, orRefuse_eq_ok, pure_eq_ok,
      Prod.mk.injEq] at h
    obtain ⟨-, ⟨-, hid, -, -, -, -, -, -, entry, hentry, -⟩, rfl, -⟩ := h
    obtain ⟨hmem, hcommand⟩ := Table.get?_eq_some.mp hadjustment
    obtain rfl := Table.eq_of_id_eq (List.mem_of_find?_eq_some hreused) hmem
      (hid.trans hcommand.symm)
    obtain ⟨reversal, hreversal, -⟩ := Option.bind_eq_some_iff.mp hentry
    exact .inl ⟨by rw [hreversal]; exact Option.some_ne_none _, rfl⟩
  | none =>
    rw [hreused] at h
    simp only [bind_eq_ok, ensure_eq_ok, pure_eq_ok, Prod.mk.injEq, originalForReversal,
      orRefuse_eq_ok,
      refuseReversed, onlyIf_eq_ok] at h
    obtain ⟨-, -, _, hunreversed, preview, -, -, -, _,
      ⟨original, horiginal, -, -, -, -, -, -, rfl⟩, rfl, -⟩ := h
    refine .inr ⟨?_, preview, original, horiginal, rfl⟩
    by_contra hreversed
    obtain ⟨-, -, herror⟩ := hunreversed hreversed
    cases herror

end Outcomes

section Debited

variable {env : RenewalEnv} {db db' : RenewalTables} {debit : AccountAdjustmentPreview}
  {key : Reference} {effectiveDate : Option ℤ}

/-- What a recorded debit writes, and what may be funded with it. -/
structure Debited (db db' : RenewalTables) (debit : AccountAdjustmentPreview) (key : Reference)
    (effectiveDate : Option ℤ) : Prop where
  adjustments : db'.adjustments = db.adjustments.insert
    (adjustmentRow debit key db.ledgerEntries.next) fun _ => rfl
  ledgerEntries : db'.ledgerEntries = db.ledgerEntries.insert (debitEntry debit effectiveDate)
    fun _ => rfl
  entitlements : ∀ row ∈ db'.entitlements.rows, row ∈ db.entitlements.rows ∨
    row.sourceLedgerEntryId = some db.ledgerEntries.next

lemma Debited.next (h : Debited db db' debit key effectiveDate) :
    db'.ledgerEntries.next = db.ledgerEntries.next + 1 := by
  rw [h.ledgerEntries]
  rfl

lemma Debited.mem_adjustments (h : Debited db db' debit key effectiveDate)
    {adjustment : AccountAdjustment} : adjustment ∈ db'.adjustments.rows ↔
      adjustment ∈ db.adjustments.rows ∨
        adjustment = adjustmentRow debit key db.ledgerEntries.next db.adjustments.next := by
  rw [h.adjustments]
  exact Table.mem_insert

lemma Debited.mem_ledgerEntries (h : Debited db db' debit key effectiveDate) {entry : LedgerEntry} :
    entry ∈ db'.ledgerEntries.rows ↔ entry ∈ db.ledgerEntries.rows ∨
      entry = debitEntry debit effectiveDate db.ledgerEntries.next := by
  rw [h.ledgerEntries]
  exact Table.mem_insert

lemma debited_recordDebit :
    Debited db (recordDebit db debit key effectiveDate) debit key effectiveDate :=
  ⟨rfl, rfl, fun _ hrow => .inl hrow⟩

lemma Renewed.debited {period : ServicePeriod} (h : Renewed env db db' period debit) :
    Debited db db' debit (.period period) (some period.startsAt) := by
  refine ⟨h.adjustments, h.ledgerEntries, fun row hrow => ?_⟩
  rw [h.entitlements] at hrow
  refine ((Table.mem_insert (h := fun _ => rfl)).mp hrow).imp id ?_
  rintro rfl
  rfl

lemma Linked.debited (h : Linked db) (hdebited : Debited db db' debit key effectiveDate) :
    Linked db' := by
  refine ⟨?_, ?_, ?_, ?_⟩
  · intro row hrow ledgerEntryId hsource
    rw [hdebited.next]
    rcases hdebited.entitlements row hrow with hold | hnew
    · exact (h.sourced row hold ledgerEntryId hsource).trans (Nat.lt_succ_self _)
    · obtain rfl := Option.mem_unique hnew hsource
      exact Nat.lt_succ_self _
  · intro adjustment hadjustment
    rw [hdebited.next]
    obtain hold | rfl := hdebited.mem_adjustments.mp hadjustment
    · exact (h.posted adjustment hold).trans (Nat.lt_succ_self _)
    · exact Nat.lt_succ_self _
  · intro adjustment hadjustment other hother heq
    obtain hold | rfl := hdebited.mem_adjustments.mp hadjustment
    · obtain hotherOld | rfl := hdebited.mem_adjustments.mp hother
      · exact h.entries adjustment hold other hotherOld heq
      · exact absurd heq (h.posted adjustment hold).ne
    · obtain hotherOld | rfl := hdebited.mem_adjustments.mp hother
      · exact absurd heq (h.posted other hotherOld).ne'
      · rfl
  · intro entry hentry target htarget
    rw [hdebited.next]
    obtain hold | rfl := hdebited.mem_ledgerEntries.mp hentry
    · exact (h.targets entry hold target htarget).trans (Nat.lt_succ_self _)
    · cases htarget

lemma Lasting.debited (h : Lasting db) (hlinked : Linked db)
    (hdebited : Debited db db' debit key effectiveDate) : Lasting db' := by
  intro row hrow adjustment hadjustment hrests
  obtain hold | rfl := hdebited.mem_adjustments.mp hadjustment
  · have hrowOld : row ∈ db.entitlements.rows := by
      rcases hdebited.entitlements row hrow with hrow | hnew
      · exact hrow
      · exact absurd (Option.mem_unique hrests.2.2 hnew)
          (hlinked.posted adjustment hold).ne
    obtain ⟨hunreversed, hentries⟩ := h row hrowOld adjustment hold hrests
    refine ⟨hunreversed, fun entry hentry => ?_⟩
    obtain hentry | rfl := hdebited.mem_ledgerEntries.mp hentry
    · exact hentries entry hentry
    · exact (Option.some_ne_none _).symm
  · refine ⟨rfl, fun entry hentry htarget => ?_⟩
    obtain hentry | rfl := hdebited.mem_ledgerEntries.mp hentry
    · exact lt_irrefl _ (hlinked.targets entry hentry _ htarget)
    · cases htarget

end Debited

section Reversed

variable {db : RenewalTables} {preview : AccountAdjustmentReversalPreview}
  {command : ReverseAccountAdjustmentCommand} {original : LedgerEntry}
  {adjustment : AccountAdjustment}

lemma mem_adjustments_recordReversal {row : AccountAdjustment}
    (h : row ∈ (recordReversal db preview command original).adjustments.rows) :
    ∃ before ∈ db.adjustments.rows, before.ledgerEntryId = row.ledgerEntryId ∧
      before.origin = row.origin ∧ before.id = row.id ∧
      (before.id ≠ command.adjustmentId → before = row) := by
  obtain ⟨hrow, -⟩ | ⟨before, hbefore, hid, rfl⟩ :=
    (Table.mem_update (g := AccountAdjustment.reversed preview command db.ledgerEntries.next)
      (h := fun _ => rfl)).mp h
  · exact ⟨row, hrow, rfl, rfl, rfl, fun _ => rfl⟩
  · exact ⟨before, hbefore, rfl, rfl, rfl, fun hne => absurd hid hne⟩

lemma Linked.reversed (h : Linked db)
    (horiginal : db.ledgerEntries.get? adjustment.ledgerEntryId = some original) :
    Linked (recordReversal db preview command original) := by
  have hnext : (recordReversal db preview command original).ledgerEntries.next =
      db.ledgerEntries.next + 1 := rfl
  refine ⟨?_, ?_, ?_, ?_⟩
  · intro row hrow ledgerEntryId hsource
    exact (h.sourced row hrow ledgerEntryId hsource).trans (Nat.lt_succ_self _)
  · intro row hrow
    obtain ⟨before, hbefore, hledger, -⟩ := mem_adjustments_recordReversal hrow
    rw [hnext, ← hledger]
    exact (h.posted before hbefore).trans (Nat.lt_succ_self _)
  · intro row hrow other hother heq
    obtain ⟨before, hbefore, hledger, -, hid, -⟩ := mem_adjustments_recordReversal hrow
    obtain ⟨before', hbefore', hledger', -, hid', -⟩ := mem_adjustments_recordReversal hother
    obtain rfl := h.entries before hbefore before' hbefore'
      (hledger.trans (heq.trans hledger'.symm))
    exact Table.eq_of_id_eq hrow hother (hid.symm.trans hid')
  · intro entry hentry target htarget
    rw [hnext]
    obtain hentry | rfl := (Table.mem_insert (h := fun _ => rfl)).mp hentry
    · exact (h.targets entry hentry target htarget).trans (Nat.lt_succ_self _)
    · obtain rfl : original.id = target := Option.some.inj htarget
      obtain ⟨-, hid⟩ := Table.get?_eq_some.mp horiginal
      have hlt := Table.lt_next_of_get? horiginal
      rw [← hid] at hlt
      exact hlt.trans (Nat.lt_succ_self _)

/-- **A reversal** lets service last exactly if none rests on what is reversed. -/
lemma lasting_recordReversal (h : Lasting db) (hlinked : Linked db)
    (hadjustment : db.adjustments.get? command.adjustmentId = some adjustment)
    (horiginal : db.ledgerEntries.get? adjustment.ledgerEntryId = some original) :
    Lasting (recordReversal db preview command original) ↔
      ∀ row ∈ db.entitlements.rows, ¬row.RestsOn adjustment := by
  obtain ⟨hmem, hid⟩ := Table.get?_eq_some.mp hadjustment
  constructor
  · intro hlasting row hrow hrests
    have hreversed : adjustment.reversed preview command db.ledgerEntries.next ∈
        (recordReversal db preview command original).adjustments.rows :=
      (Table.mem_update (g := AccountAdjustment.reversed preview command db.ledgerEntries.next)
        (h := fun _ => rfl)).mpr (.inr ⟨adjustment, hmem, hid, rfl⟩)
    obtain ⟨hunreversed, -⟩ := hlasting row hrow _ hreversed hrests
    cases hunreversed
  · intro hkeeps row hrow reversed hreversed hrests
    obtain ⟨before, hbefore, hledger, horigin, -, hsame⟩ :=
      mem_adjustments_recordReversal hreversed
    have hbeforeRests : row.RestsOn before :=
      ⟨hrests.1, horigin.trans hrests.2.1, hledger ▸ hrests.2.2⟩
    have hother : before ≠ adjustment := by
      rintro rfl
      exact hkeeps row hrow hbeforeRests
    obtain rfl := hsame fun hcommand => hother (Table.eq_of_id_eq hbefore hmem
      (hcommand.trans hid.symm))
    obtain ⟨hunreversed, hentries⟩ := h row hrow before hbefore hbeforeRests
    refine ⟨hunreversed, fun entry hentry htarget => ?_⟩
    obtain hentry | rfl := (Table.mem_insert (h := fun _ => rfl)).mp hentry
    · exact hentries entry hentry htarget
    · have htargetId : original.id = before.ledgerEntryId := Option.some.inj htarget
      exact hother (hlinked.entries before hbefore adjustment hmem
        (htargetId.symm.trans (Table.get?_eq_some.mp horiginal).2))

end Reversed

section Charged

variable {env : RenewalEnv} {db db' : RenewalTables} {period : ServicePeriod}
  {debit : AccountAdjustmentPreview}

lemma Charged.refl (db : RenewalTables) : Charged env db db :=
  ⟨fun _ hmem hnew => absurd hmem hnew, fun _ _ funding h hnonneg => ⟨funding, h, hnonneg⟩⟩

lemma Renewed.funded (h : Renewed env db db' period debit) :
    ∃ unit funding, resolvePrepaidEnforcementCurrency env = .ok unit ∧
      verifiedPrepaidFundingBalance env db debit.accountId unit = .ok funding ∧
        debit.amount ≤ funding := by
  obtain ⟨available, havailable, hcovered⟩ := h.covered
  unfold prepaidAvailableBalance at havailable
  split_ifs at havailable with hmode
  · obtain rfl := pure_eq_ok.mp havailable
    rw [roundMoney_of_onGrid onGrid_zero] at hcovered
    exact absurd h.positive hcovered.not_gt
  · obtain ⟨unit, hunit, hfunding⟩ := bind_eq_ok.mp havailable
    obtain ⟨other, -, heq⟩ := verifiedPrepaidFundingBalance_eq_ok.mp hfunding
    rw [roundMoney_of_onGrid (heq ▸ other.onGrid.add onGrid_ledgerPosition)] at hcovered
    exact ⟨unit, available, hunit, hfunding, hcovered⟩

/-- **A renewal is charged** to its own currency exactly if that covers it. -/
lemma Renewed.charged_iff (h : Renewed env db db' period debit) : Charged env db db' ↔
    ∃ funding, verifiedPrepaidFundingBalance env db debit.accountId debit.currency = .ok funding ∧
      debit.amount ≤ funding := by
  have hnew : adjustmentRow debit (.period period) db.ledgerEntries.next db.adjustments.next ∉
      db.adjustments.rows := fun hmem => lt_irrefl _ (db.adjustments.fresh _ hmem)
  constructor
  · exact fun hcharged => hcharged.covered _ (h.debited.mem_adjustments.mpr (.inr rfl)) hnew
  · rintro ⟨funding, hfunding, hcovered⟩
    refine ⟨fun adjustment hadjustment hfresh => ?_,
      fun accountId currency before hbefore hnonneg => ?_⟩
    · obtain hold | rfl := h.debited.mem_adjustments.mp hadjustment
      · exact absurd hold hfresh
      · exact ⟨funding, hfunding, hcovered⟩
    · obtain ⟨other, hother, rfl⟩ := verifiedPrepaidFundingBalance_eq_ok.mp hbefore
      refine ⟨_, verifiedPrepaidFundingBalance_eq_ok.mpr ⟨other, hother, rfl⟩, ?_⟩
      rw [ledgerPosition_debited h.cents h.ledgerEntries]
      split_ifs with hown
      · obtain ⟨rfl, rfl⟩ := hown
        obtain rfl := Except.ok.inj (hfunding.symm.trans hbefore)
        linarith
      · linarith

lemma Renewed.charged_iff_spendsOwnCurrency {preview : PrepaidServiceRenewalPreview}
    {evidenceRef : String} (h : Renewed env db db' preview.period debit)
    (hamount : debit.amount = roundMoney (roundMoney preview.amount))
    (hcurrency : debit.currency = upper (upper preview.currency)) :
    Charged env db db' ↔ SpendsOwnCurrency env db (.renew preview evidenceRef) := by
  obtain ⟨subscription, hsubscription, haccount⟩ := h.subscription
  have hget := (subscriptionForRequest_ok hsubscription).1
  rw [upper_upper] at hcurrency
  rw [roundMoney_roundMoney] at hamount
  rw [h.charged_iff, hcurrency, hamount, haccount]
  constructor
  · rintro ⟨funding, hfunding, hcovered⟩
    exact .inr (.inr ⟨subscription, funding, hget, hfunding, hcovered⟩)
  · rintro (hrepeated | henforced | ⟨found, funding, hfound, hfunding, hcovered⟩)
    · rw [h.unused] at hrepeated
      cases hrepeated
    · obtain ⟨unit, funding, hunit, hfunding, hcovered⟩ := h.funded
      obtain rfl := Except.ok.inj (henforced.symm.trans hunit)
      rw [haccount] at hfunding
      exact ⟨funding, hfunding, hamount ▸ hcovered⟩
    · obtain rfl := Option.mem_unique hfound hget
      exact ⟨funding, hfunding, hcovered⟩

end Charged

section Runs

variable {env : RenewalEnv} {db db' : RenewalTables} {command : WalletCommand}

/-- **Step**: references stay in order, and service lasts exactly if the command lets it. -/
lemma Linked.step (h : Linked db) (hok : walletStep env db command = .ok db') :
    Linked db' ∧ (Lasting db → (Lasting db' ↔ KeepsService db command)) := by
  cases command with
  | renew preview evidenceRef =>
    obtain ⟨⟨_, result⟩, hconfirm, rfl⟩ := map_eq_ok.mp hok
    rcases confirm_ok h.sourced hconfirm with ⟨rfl, -⟩ | ⟨debit, hrenewed, -⟩
    · exact ⟨h, fun hlasting => iff_of_true hlasting trivial⟩
    · exact ⟨h.debited hrenewed.debited,
        fun hlasting => iff_of_true (hlasting.debited h hrenewed.debited) trivial⟩
  | adjust command =>
    obtain ⟨⟨_, result⟩, hconfirm, rfl⟩ := map_eq_ok.mp hok
    rcases stageConfirmation_ok hconfirm with rfl | ⟨debit, rfl⟩
    · exact ⟨h, fun hlasting => iff_of_true hlasting trivial⟩
    · exact ⟨h.debited debited_recordDebit,
        fun hlasting => iff_of_true (hlasting.debited h debited_recordDebit) trivial⟩
  | reverse command =>
    obtain ⟨⟨_, result⟩, hreversal, rfl⟩ := map_eq_ok.mp hok
    obtain ⟨adjustment, hadjustment, hcases⟩ := stageReversal_ok hreversal
    have hkeeps : KeepsService db (.reverse command) ↔ (adjustment.reversalLedgerEntryId = none →
        ∀ row ∈ db.entitlements.rows, ¬row.RestsOn adjustment) := by
      rw [KeepsService, hadjustment]
      simp
    rw [hkeeps]
    rcases hcases with ⟨hreversed, rfl⟩ | ⟨hunreversed, preview, original, horiginal, rfl⟩
    · exact ⟨h, fun hlasting => iff_of_true hlasting fun hnone => absurd hnone hreversed⟩
    · refine ⟨h.reversed horiginal, fun hlasting => ?_⟩
      rw [lasting_recordReversal hlasting h hadjustment horiginal]
      exact ⟨fun hkeeps _ => hkeeps, fun hkeeps => hkeeps hunreversed⟩

lemma Linked.charged (h : Linked db) {preview : PrepaidServiceRenewalPreview} {evidenceRef : String}
    (hok : walletStep env db (.renew preview evidenceRef) = .ok db') :
    Charged env db db' ↔ SpendsOwnCurrency env db (.renew preview evidenceRef) := by
  obtain ⟨⟨_, result⟩, hconfirm, rfl⟩ := map_eq_ok.mp hok
  rcases confirm_ok h.sourced hconfirm with ⟨rfl, adjustment, hexisting, -⟩ |
    ⟨debit, hrenewed, hamount, hcurrency, -⟩
  · refine iff_of_true (.refl _) (.inl ?_)
    rw [hexisting]
    rfl
  · exact hrenewed.charged_iff_spendsOwnCurrency hamount hcurrency

/-- In a run service lasts as long as its debit, and every renewal is charged to funding of its own
currency, exactly if no reversal is of a debit that active service rests on, and every renewal is in
the enforced currency or funded in its own. -/
theorem lasting_iff (env : RenewalEnv) {db : RenewalTables} (hlinked : Linked db)
    (hlasting : Lasting db) (commands : List WalletCommand) :
    ((∀ before after, commands = before ++ after → Lasting (run (walletStep env) db before)) ∧
      ∀ before preview evidenceRef after,
        commands = before ++ .renew preview evidenceRef :: after →
          ∀ db', walletStep env (run (walletStep env) db before) (.renew preview evidenceRef) =
            .ok db' → Charged env (run (walletStep env) db before) db') ↔
      Guarded (walletStep env) (fun db command => KeepsService db command ∧
        SpendsOwnCurrency env db command) db commands := by
  have hrun : ∀ before, Linked (run (walletStep env) db before) := fun before =>
    invariant_run (fun _ _ _ h hok => (h.step hok).1) before hlinked
  rw [guarded_and, ← forall_prefix_iff_guarded
    (fun s c s' (h : Linked s ∧ Lasting s) hguard hok =>
      ⟨(h.1.step hok).1, ((h.1.step hok).2 h.2).mpr hguard⟩)
    (fun s c s' h hok h' => ((h.1.step hok).2 h.2).mp h'.2) commands db ⟨hlinked, hlasting⟩,
    guarded_iff_forall_split]
  refine and_congr ⟨fun h before after heq => ⟨hrun before, h before after heq⟩,
    fun h before after heq => (h before after heq).2⟩ ?_
  constructor
  · intro h before command after heq ⟨db', hok⟩
    cases command with
    | renew preview evidenceRef =>
      exact ((hrun before).charged hok).mp (h before preview evidenceRef after heq db' hok)
    | adjust command => trivial
    | reverse command => trivial
  · intro h before preview evidenceRef after heq db' hok
    exact ((hrun before).charged hok).mpr (h before _ after heq ⟨db', hok⟩)

end Runs

def nairaWallet : RenewalEnv :=
  { hundredWallet with
    otherFunding := fun _ currency => some (.store 2 (if currency = "NGN" then 100 else 0)) }

def renewalIn (currency : String) : WalletCommand :=
  .renew ⟨1, ⟨0, 0, 30⟩, 10, currency, 100, 90, 0, true, "fingerprint", false⟩ "scheduled"

def undoRenewal : WalletCommand :=
  .reverse ⟨⟨accountAdjustmentScope, some .user, "operator", some (.text "undo")⟩, 0, "fingerprint",
    .text "undo", "entered by mistake", 7⟩

lemma linked_invoicedService : Linked invoicedService :=
  ⟨fun _ h => absurd h List.not_mem_nil, fun _ h => absurd h List.not_mem_nil,
    fun _ h => absurd h List.not_mem_nil, fun _ h => absurd h List.not_mem_nil⟩

theorem lasting_iff_nairaWallet :
    ((∀ before after, [renewalIn "NGN"] = before ++ after →
        Lasting (run (walletStep nairaWallet) invoicedService before)) ∧
      ∀ before preview evidenceRef after,
        [renewalIn "NGN"] = before ++ .renew preview evidenceRef :: after →
          ∀ db', walletStep nairaWallet (run (walletStep nairaWallet) invoicedService before)
              (.renew preview evidenceRef) = .ok db' →
            Charged nairaWallet (run (walletStep nairaWallet) invoicedService before) db') ↔
      Guarded (walletStep nairaWallet) (fun db command => KeepsService db command ∧
        SpendsOwnCurrency nairaWallet db command) invoicedService [renewalIn "NGN"] :=
  lasting_iff nairaWallet linked_invoicedService (fun _ h => absurd h List.not_mem_nil) _

/-- The debit of a renewal is reversed and the service stays; and dollars that are not there are
spent on a renewal because there are naira. -/
theorem reversedDebit_dollarRenewal :
    (¬∀ (env : RenewalEnv) (db : RenewalTables) (commands : List WalletCommand), Linked db →
        Lasting db → Lasting (run (walletStep env) db commands)) ∧
      ¬∀ (env : RenewalEnv) (db db' : RenewalTables) (preview : PrepaidServiceRenewalPreview)
        (evidenceRef : String), Linked db →
          walletStep env db (.renew preview evidenceRef) = .ok db' → Charged env db db' := by
  constructor
  · intro hclaim
    have hlasting := hclaim nairaWallet invoicedService [renewalIn "NGN", undoRenewal]
      linked_invoicedService fun _ h => absurd h List.not_mem_nil
    exact absurd hlasting (by decide +kernel)
  · intro hclaim
    cases hstep : walletStep nairaWallet invoicedService (renewalIn "USD") with
    | error refusal =>
      have hok : (walletStep nairaWallet invoicedService (renewalIn "USD")).toBool := by
        decide +kernel
      rw [hstep] at hok
      cases hok
    | ok db' =>
      have hafter : run (walletStep nairaWallet) invoicedService [renewalIn "USD"] = db' :=
        next_of_ok hstep
      have hbefore : verifiedPrepaidFundingBalance nairaWallet invoicedService 1 "USD" = .ok 0 := by
        decide +kernel
      have hspent : verifiedPrepaidFundingBalance nairaWallet
          (run (walletStep nairaWallet) invoicedService [renewalIn "USD"]) 1 "USD" = .ok (-10) := by
        decide +kernel
      obtain ⟨left, hleft, hnonneg⟩ :=
        (hclaim nairaWallet invoicedService db' _ _ linked_invoicedService hstep).kept 1 "USD" 0
          hbefore le_rfl
      rw [hafter] at hspent
      obtain rfl := Except.ok.inj (hspent.symm.trans hleft)
      exact absurd hnonneg (by decide)

end DotmacSub.PrepaidService
