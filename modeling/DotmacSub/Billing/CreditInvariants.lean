import DotmacSub.Billing.Proration
import DotmacSub.Models.CreditInspection
import Mathlib.Data.List.Dedup
import Mathlib.Data.Prod.Lex

/-!
# Account-credit invariants

`inspect_invariants` walks accounts and documents one by one; `summarize_invariants` lets the
database aggregate the same facts in bulk.  The two are compared here.
-/

namespace DotmacSub

open Store Decimal Payments

namespace AccountCredit

def eligibleInvoiceStatuses : List InvoiceStatus := [.issued, .partiallyPaid, .overdue]

/-- The place of an invoice among debts: by due date, those without one last, then by creation. -/
def debtKey (i : Invoice) : Bool ×ₗ ℤ ×ₗ ℤ ×ₗ ℕ :=
  toLex (i.dueAt.isNone, toLex (i.dueAt.getD 0, toLex (i.createdAt, i.id)))

def isCollectible (i : Invoice) : Bool :=
  i.isActive ∧ !i.isProforma ∧ i.status ∈ eligibleInvoiceStatuses ∧ 0 < i.balanceDue.value

def eligibleInvoices (db : BillingTables) (accountId : ℕ) : List Invoice :=
  (db.invoices.rows.filter fun i => i.accountId = accountId ∧ isCollectible i).mergeSort fun a b =>
    debtKey a ≤ debtKey b

/-! ## The forensic scan -/

inductive InvariantCode
  | eligibleInvoiceWithUnusedCredit
  | paymentOverallocated
  | negativePaymentCreditSourceAvailability
  | paidInvoiceUnderfunded
  | settledDepositWithoutExactPayment
  | duplicateProviderReference
  | depositWebhookUnresolved
deriving DecidableEq

structure AccountCreditInvariantViolation where
  code : InvariantCode
  accountId : String
  detail : String
deriving DecidableEq

/-- `str(id or "")`. -/
def idText (id : Option ℕ) : String := (id.map toString).getD ""

/-- Whether a row belongs to the account that is scanned; without one, every row does. -/
def inScope (scope accountId : Option ℕ) : Bool := scope = none ∨ accountId = scope

def candidateAccounts (db : BillingTables) (scope : Option ℕ) : List ℕ :=
  ((db.invoices.rows.filter fun i => i.isActive ∧ i.status ∈ eligibleInvoiceStatuses ∧
    0 < i.balanceDue.value ∧ inScope scope i.accountId).map (·.accountId)).dedup.mergeSort

def debtCurrencies (db : BillingTables) (accountId : ℕ) : List String :=
  ((eligibleInvoices db accountId).map fun i => currencyCode i.currency).dedup.mergeSort

def unusedCreditViolation (db : BillingTables) (accountId : ℕ) (currency : String) :
    Option AccountCreditInvariantViolation :=
  let credit := roundMoney (getAccountCreditBalance db accountId currency)
  if 0 < credit then
    some ⟨.eligibleInvoiceWithUnusedCredit, toString accountId,
      s!"{currency} {moneyText credit} remains while debt is payable"⟩
  else none

/-- The sum of the active allocations of a payment that satisfy `p`. -/
def allocationTotal (db : BillingTables) (paymentId : ℕ) (p : PaymentAllocation → Bool) : ℚ :=
  db.allocations.total fun a =>
    if a.paymentId = paymentId ∧ a.isActive ∧ p a then a.amount.value else 0

/-- The sum of all active allocations of a payment. -/
def allocatedTotal (db : BillingTables) (payment : Payment) : ℚ :=
  allocationTotal db payment.id fun _ => true

def sourceConsumedTotal (db : BillingTables) (payment : Payment) : ℚ :=
  allocationTotal db payment.id fun a => a.consumptionLedgerEntryId.isSome

def sourceCapacity (settlement : PaymentSettlement) : ℚ :=
  settlement.unallocatedAmount.value - settlement.prepaidAmount.value

def overallocatedViolation (db : BillingTables) (payment : Payment) :
    Option AccountCreditInvariantViolation :=
  let allocated := roundMoney (allocatedTotal db payment)
  if roundMoney payment.amount.value < allocated then
    some ⟨.paymentOverallocated, idText payment.accountId,
      s!"payment {payment.id} allocates {moneyText allocated} from "
        ++ moneyText payment.amount.value⟩
  else none

def negativeSourceViolation (db : BillingTables) (payment : Payment) :
    Option AccountCreditInvariantViolation :=
  payment.settlement.bind fun settlement =>
    let consumed := roundMoney (sourceConsumedTotal db payment)
    let capacity := roundMoney (sourceCapacity settlement)
    if capacity < consumed then
      some ⟨.negativePaymentCreditSourceAvailability, idText payment.accountId,
        s!"payment {payment.id} consumed {moneyText consumed} from source capacity "
          ++ moneyText capacity⟩
    else none

def underfundedViolation (db : BillingTables) (invoice : Invoice) :
    Option AccountCreditInvariantViolation :=
  let funded := roundMoney (totalApplied db invoice)
  let total := roundMoney invoice.total.value
  if funded < total then
    some ⟨.paidInvoiceUnderfunded, toString invoice.accountId,
      s!"paid invoice {invoice.id} has {moneyText funded} of {moneyText total} settlement evidence"⟩
  else none

def depositPurpose : String := "account_credit_deposit"

def unsettledDepositViolation (db : InspectionTables) (intent : TopupIntent) :
    Option AccountCreditInvariantViolation :=
  if intent.status = "completed" then
    match (intent.completedPaymentId.bind db.payments.get?).bind (·.settlement) with
    | none => some ⟨.settledDepositWithoutExactPayment, idText intent.accountId,
        s!"deposit intent {intent.id} lacks settlement evidence"⟩
    | some _ => none
  else none

def providerReferences (db : InspectionTables) : List (ℕ × String) :=
  db.payments.rows.filterMap fun p =>
    if p.isActive then p.providerId.bind fun provider => (db.externalId p.id).map (provider, ·)
    else none

def duplicateProviderGroups (db : InspectionTables) : List (ℕ × String) :=
  (providerReferences db).dedup.filter fun key => 1 < (providerReferences db).count key

def unresolvedReceipts (db : InspectionTables) : List IntegrationInbox :=
  db.integrationInbox.filter fun r => r.capabilityId = "payments.webhook.v1" ∧
    r.state ∈ ["verified", "processing", "retryable", "dead_letter"]

def payloadIntentId (payload : Json) : Except DomainError Json := do
  let data := ((← (payload.orElse (.object [])).get "data").orElse (.object []))
  let metadata := (← data.get "metadata").orElse ((← data.get "meta").orElse (.object []))
  metadata.get "topup_intent_id"

/-- The intent that a receipt names.  `coerceUuid` answers nothing where the value is no
identifier. -/
def receiptIntentId (coerceUuid : Json → Option ℕ) (receipt : IntegrationInbox) :
    Except DomainError (Option ℕ) := do
  let intentId ← payloadIntentId receipt.payloadJson
  return if intentId.truthy then coerceUuid intentId else none

def unresolvedWebhookViolation (db : InspectionTables) (receipt : IntegrationInbox)
    (intentId : Option ℕ) : Option AccountCreditInvariantViolation :=
  (intentId.bind db.topupIntents.get?).bind fun intent =>
    if intent.purpose = some depositPurpose then
      some ⟨.depositWebhookUnresolved, idText intent.accountId,
        s!"deposit webhook {receipt.id} needs attention"⟩
    else none

def scannedPayments (db : BillingTables) (scope : Option ℕ) : List Payment :=
  db.payments.rows.filter fun p => p.isActive ∧ inScope scope p.accountId

def scannedPaidInvoices (db : BillingTables) (scope : Option ℕ) : List Invoice :=
  db.invoices.rows.filter fun i => i.isActive ∧ i.status = .paid ∧ inScope scope i.accountId

def scannedDeposits (db : InspectionTables) (scope : Option ℕ) : List TopupIntent :=
  db.topupIntents.rows.filter fun t => t.purpose = some depositPurpose ∧ inScope scope t.accountId

def unusedCreditViolations (db : BillingTables) (scope : Option ℕ) :
    List AccountCreditInvariantViolation :=
  (candidateAccounts db scope).flatMap fun accountId =>
    (debtCurrencies db accountId).filterMap (unusedCreditViolation db accountId)

/-- The payments that carry more than their cash, or consumed more than their source. -/
def paymentViolations (db : BillingTables) (scope : Option ℕ) :
    List AccountCreditInvariantViolation :=
  (scannedPayments db scope).flatMap fun p =>
    (overallocatedViolation db p).toList ++ (negativeSourceViolation db p).toList

def duplicateViolations (db : InspectionTables) (scope : Option ℕ) :
    List AccountCreditInvariantViolation :=
  (duplicateProviderGroups db).map fun key => ⟨.duplicateProviderReference, idText scope,
    s!"provider {key.1} transaction {key.2} is duplicated"⟩

def scanReceipt (coerceUuid : Json → Option ℕ) (db : InspectionTables)
    (receipt : IntegrationInbox) : Except DomainError (Option AccountCreditInvariantViolation) := do
  return unresolvedWebhookViolation db receipt (← receiptIntentId coerceUuid receipt)

def webhookViolations (coerceUuid : Json → Option ℕ) (db : InspectionTables) :
    Except DomainError (List AccountCreditInvariantViolation) := do
  return (← (unresolvedReceipts db).mapM (scanReceipt coerceUuid db)).filterMap id

/-- Every violation, with what it is about. -/
def inspectInvariants (coerceUuid : Json → Option ℕ) (db : InspectionTables) (scope : Option ℕ) :
    Except DomainError (List AccountCreditInvariantViolation) := do
  return unusedCreditViolations db.toBillingTables scope
    ++ paymentViolations db.toBillingTables scope
    ++ (scannedPaidInvoices db.toBillingTables scope).filterMap
      (underfundedViolation db.toBillingTables)
    ++ (scannedDeposits db scope).filterMap (unsettledDepositViolation db)
    ++ duplicateViolations db scope
    ++ (← webhookViolations coerceUuid db)

/-! ## The bulk scan -/

structure AccountCreditInvariantSummary where
  eligibleInvoiceWithUnusedCredit : ℕ
  paymentOverallocated : ℕ
  negativePaymentCreditSourceAvailability : ℕ
  paidInvoiceUnderfunded : ℕ
  settledDepositWithoutExactPayment : ℕ
  duplicateProviderReference : ℕ
  depositWebhookUnresolved : ℕ
deriving DecidableEq

def payableCurrencies (db : BillingTables) : List (ℕ × String) :=
  ((db.invoices.rows.filter isCollectible).map fun i => (i.accountId, i.currency.toUpper)).dedup

/-- An active entry of an account that belongs to no invoice: what the outer join pairs. -/
def isJoinedEntry (accountId : ℕ) (currency : String) (e : LedgerEntry) : Bool :=
  e.accountId = accountId ∧ e.currency = currency ∧ e.invoiceId = none ∧ e.isActive

/-- Credits less debits of the joined entries.  The position flag is not looked at. -/
def joinedBalance (db : BillingTables) (accountId : ℕ) (currency : String) : ℚ :=
  ledgerTotal db (fun e => isJoinedEntry accountId currency e ∧ e.entryType = .credit)
    - ledgerTotal db fun e => isJoinedEntry accountId currency e ∧ e.entryType = .debit ∧
        ((e.source ≠ .refund ∧ e.source ≠ .payment) ∨ e.paymentId = none)

/-- The payment rows that the prefilter of the database lets through. -/
def paymentInvariantRows (db : BillingTables) : List Payment :=
  db.payments.rows.filter fun p => p.isActive ∧
    (p.amount.value < allocatedTotal db p ∨
      ∃ s ∈ p.settlement, sourceCapacity s < sourceConsumedTotal db p)

/-- The paid invoices whose funding falls short, of one provenance. -/
def countUnderfundedPaidInvoices (division : NumericDivision) (db : InspectionTables)
    (openingBalance : Bool) : ℕ :=
  db.invoices.rows.countP fun i => i.isActive ∧ i.status = .paid ∧
    (db.splynxInvoiceId i.id).isSome = openingBalance ∧
    fundedTotal division db.toBillingTables i < quantize halfUp 2 i.total.value

/-- The carried-in invoices whose funding evidence was never carried in. -/
def countOpeningBalanceUnderfundedInvoices (division : NumericDivision) (db : InspectionTables) :
    ℕ :=
  countUnderfundedPaidInvoices division db true

def receiptIntentIds (coerceUuid : Json → Option ℕ) (db : InspectionTables) :
    Except DomainError (List ℕ) := do
  return (← (unresolvedReceipts db).mapM (receiptIntentId coerceUuid)).filterMap id

/-- The numbers of violations, counted in the database. -/
def summarizeInvariants (coerceUuid : Json → Option ℕ) (division : NumericDivision)
    (db : InspectionTables) : Except DomainError AccountCreditInvariantSummary := do
  let rows := paymentInvariantRows db.toBillingTables
  let ids ← receiptIntentIds coerceUuid db
  let depositIntentIds := ((db.topupIntents.rows.filter fun t =>
    t.id ∈ ids ∧ t.purpose = some depositPurpose).map (·.id))
  return {
    eligibleInvoiceWithUnusedCredit := (payableCurrencies db.toBillingTables).countP fun key =>
      0 < roundMoney (joinedBalance db.toBillingTables key.1 key.2)
    paymentOverallocated := rows.countP fun p =>
      roundMoney p.amount.value < roundMoney (allocatedTotal db.toBillingTables p)
    negativePaymentCreditSourceAvailability := rows.countP fun p =>
      ∃ s ∈ p.settlement,
        roundMoney (sourceCapacity s) < roundMoney (sourceConsumedTotal db.toBillingTables p)
    paidInvoiceUnderfunded := countUnderfundedPaidInvoices division db false
    settledDepositWithoutExactPayment := db.topupIntents.rows.countP fun t =>
      t.purpose = some depositPurpose ∧ t.status = "completed" ∧
        ((t.completedPaymentId.bind db.payments.get?).bind (·.settlement)) = none
    duplicateProviderReference := (duplicateProviderGroups db).length
    depositWebhookUnresolved := ids.countP (· ∈ depositIntentIds) }

def violationCount (violations : List AccountCreditInvariantViolation) (code : InvariantCode) : ℕ :=
  violations.countP fun v => v.code = code

def Reports {α : Type*} (check : α → Option AccountCreditInvariantViolation)
    (code : InvariantCode) : Prop := ∀ x v, check x = some v → v.code = code

section Count

variable {α : Type*} {check : α → Option AccountCreditInvariantViolation} {code : InvariantCode}
  {db : BillingTables}

lemma violationCount_append (vs ws : List AccountCreditInvariantViolation) :
    violationCount (vs ++ ws) code = violationCount vs code + violationCount ws code :=
  List.countP_append

lemma violationCount_filterMap (h : Reports check code) (l : List α) (c : InvariantCode) :
    violationCount (l.filterMap check) c
      = if c = code then l.countP (fun x => (check x).isSome) else 0 := by
  rw [violationCount, List.countP_filterMap]
  by_cases hc : c = code
  · rw [if_pos hc]
    refine List.countP_congr fun x _ => ?_
    cases hx : check x with
    | none => simp
    | some v => simp [h x v hx, hc]
  · rw [if_neg hc, List.countP_eq_zero]
    intro x _
    cases hx : check x with
    | none => simp
    | some v => simp [h x v hx, Ne.symm hc]

lemma violationCount_flatMap (f : α → List AccountCreditInvariantViolation) (l : List α) :
    violationCount (l.flatMap f) code = (l.map fun x => violationCount (f x) code).sum := by
  rw [violationCount, List.countP_flatMap]
  rfl

lemma sum_map_countP_pair {β : Type*} (l : List α) (f : α → List β) (p : α × β → Bool) :
    (l.map fun x => (f x).countP fun y => p (x, y)).sum
      = (l.flatMap fun x => (f x).map (x, ·)).countP p := by
  rw [List.countP_flatMap]
  simp only [List.countP_map, Function.comp_def]

/-! The codes of the checks. -/

lemma reports_unusedCreditViolation (accountId : ℕ) :
    Reports (unusedCreditViolation db accountId) .eligibleInvoiceWithUnusedCredit := by
  intro currency v h
  rw [unusedCreditViolation] at h
  split_ifs at h
  cases h
  rfl

lemma reports_overallocatedViolation :
    Reports (overallocatedViolation db) .paymentOverallocated := by
  intro p v h
  rw [overallocatedViolation] at h
  split_ifs at h
  cases h
  rfl

lemma reports_negativeSourceViolation :
    Reports (negativeSourceViolation db) .negativePaymentCreditSourceAvailability := by
  intro p v h
  obtain ⟨settlement, -, h⟩ := Option.bind_eq_some_iff.mp h
  dsimp only at h
  split_ifs at h
  cases h
  rfl

lemma reports_underfundedViolation : Reports (underfundedViolation db) .paidInvoiceUnderfunded := by
  intro i v h
  rw [underfundedViolation] at h
  split_ifs at h
  cases h
  rfl

lemma reports_unsettledDepositViolation (db : InspectionTables) :
    Reports (unsettledDepositViolation db) .settledDepositWithoutExactPayment := by
  intro t v h
  rw [unsettledDepositViolation] at h
  split_ifs at h
  split at h
  · cases h
    rfl
  · cases h

end Count

section Sections

variable {db : BillingTables} {code : InvariantCode}

/-- Collectible invoices name their currency. -/
def CurrenciesGiven (db : BillingTables) : Prop :=
  ∀ i ∈ db.invoices.rows, isCollectible i → i.currency ≠ ""

/-- On an account with debt, the adjustments of its unallocated credit are all part of the customer
position. -/
def AdjustmentsInPosition (db : BillingTables) : Prop :=
  ∀ e ∈ db.ledgerEntries.rows, (e.accountId, e.currency) ∈ payableCurrencies db →
    e.invoiceId = none → e.isActive → e.source = .adjustment → e.affectsCustomerPosition

lemma mem_debtCurrencies {accountId : ℕ} {currency : String} :
    currency ∈ debtCurrencies db accountId ↔ ∃ i ∈ db.invoices.rows, i.accountId = accountId ∧
      isCollectible i ∧ currencyCode i.currency = currency := by
  simp only [debtCurrencies, eligibleInvoices, List.mem_mergeSort, List.mem_dedup, List.mem_map,
    List.mem_filter, decide_eq_true_eq, and_assoc]

lemma mem_candidateAccounts {i : Invoice} (hi : i ∈ db.invoices.rows) (h : isCollectible i) :
    i.accountId ∈ candidateAccounts db none := by
  simp only [isCollectible, decide_eq_true_eq] at h
  simp only [candidateAccounts, List.mem_mergeSort, List.mem_dedup, List.mem_map, List.mem_filter,
    decide_eq_true_eq]
  exact ⟨i, ⟨hi, h.1, h.2.2.1, h.2.2.2, by simp [inScope]⟩, rfl⟩

lemma mem_payableCurrencies {key : ℕ × String} : key ∈ payableCurrencies db ↔
    ∃ i ∈ db.invoices.rows, isCollectible i ∧ (i.accountId, i.currency.toUpper) = key := by
  simp only [payableCurrencies, List.mem_dedup, List.mem_map, List.mem_filter, and_assoc]

/-- The walk over accounts and their currencies meets every pair of the bulk query once. -/
lemma perm_payableCurrencies (h : CurrenciesGiven db) :
    ((candidateAccounts db none).flatMap fun a => (debtCurrencies db a).map (a, ·)).Perm
      (payableCurrencies db) := by
  have hnodup : ((candidateAccounts db none).flatMap fun a =>
      (debtCurrencies db a).map (a, ·)).Nodup := by
    refine List.nodup_flatMap.mpr ⟨fun a _ => ?_, ?_⟩
    · refine List.Nodup.map (fun x y hxy => (Prod.mk.inj hxy).2) ?_
      exact (List.mergeSort_perm _ _).nodup_iff.mpr (List.nodup_dedup _)
    · refine List.Pairwise.imp ?_ ((List.mergeSort_perm _ _).nodup_iff.mpr (List.nodup_dedup _))
      intro a b hab x hxa hxb
      obtain ⟨c, -, rfl⟩ := List.mem_map.mp hxa
      obtain ⟨d, -, hd⟩ := List.mem_map.mp hxb
      exact hab (Prod.mk.inj hd).1.symm
  refine (List.perm_ext_iff_of_nodup hnodup (List.nodup_dedup _)).mpr fun key => ?_
  rw [← payableCurrencies, mem_payableCurrencies, List.mem_flatMap]
  have hcode : ∀ i ∈ db.invoices.rows, isCollectible i →
      currencyCode i.currency = i.currency.toUpper := by
    intro i hi hc
    rw [currencyCode, if_neg (h i hi hc)]
  constructor
  · rintro ⟨a, -, ha⟩
    obtain ⟨c, hc, rfl⟩ := List.mem_map.mp ha
    obtain ⟨i, hi, rfl, hcol, rfl⟩ := mem_debtCurrencies.mp hc
    exact ⟨i, hi, hcol, by rw [hcode i hi hcol]⟩
  · rintro ⟨i, hi, hcol, rfl⟩
    refine ⟨i.accountId, mem_candidateAccounts hi hcol, List.mem_map.mpr ⟨_, ?_, rfl⟩⟩
    exact mem_debtCurrencies.mpr ⟨i, hi, rfl, hcol, hcode i hi hcol⟩

lemma roundMoney_joinedBalance (h : AdjustmentsInPosition db) {key : ℕ × String}
    (hkey : key ∈ payableCurrencies db) :
    roundMoney (joinedBalance db key.1 key.2)
      = roundMoney (getAccountCreditBalance db key.1 key.2) := by
  have hposition : ∀ e ∈ db.ledgerEntries.rows, isJoinedEntry key.1 key.2 e →
      (e.affectsCustomerPosition ∨ e.source ≠ .adjustment) := by
    intro e he hjoin
    simp only [isJoinedEntry, decide_eq_true_eq] at hjoin
    obtain ⟨haccount, hcurrency, hinvoice, hactive⟩ := hjoin
    by_cases hsource : e.source = .adjustment
    · refine .inl (h e he ?_ hinvoice hactive hsource)
      rw [haccount, hcurrency]
      exact hkey
    · exact .inr hsource
  have htotal : ∀ p q : LedgerEntry → Bool, (∀ e ∈ db.ledgerEntries.rows, p e = q e) →
      ledgerTotal db p = ledgerTotal db q := by
    intro p q hpq
    simp only [ledgerTotal, Table.total]
    congr 1
    refine List.map_congr_left fun e he => ?_
    rw [hpq e he]
  have hcredit : ledgerTotal db (fun e => isJoinedEntry key.1 key.2 e ∧ e.entryType = .credit)
      = ledgerTotal db (isUnallocatedCredit key.1 key.2) := by
    refine htotal _ _ fun e he => ?_
    have := hposition e he
    simp only [isJoinedEntry, isUnallocatedCredit, decide_eq_true_eq] at this ⊢
    rw [decide_eq_decide]
    tauto
  have hdebit : (ledgerTotal db fun e => isJoinedEntry key.1 key.2 e ∧ e.entryType = .debit ∧
      ((e.source ≠ .refund ∧ e.source ≠ .payment) ∨ e.paymentId = none))
      = ledgerTotal db (isUnallocatedDebit key.1 key.2) := by
    refine htotal _ _ fun e he => ?_
    have := hposition e he
    simp only [isJoinedEntry, isUnallocatedDebit, decide_eq_true_eq] at this ⊢
    rw [decide_eq_decide]
    tauto
  rw [getAccountCreditBalance, roundMoney_of_onGrid (onGrid_roundMoney _), joinedBalance, hcredit,
    hdebit]

lemma violationCount_unusedCreditViolations (scope : Option ℕ) :
    violationCount (unusedCreditViolations db scope) code
      = if code = .eligibleInvoiceWithUnusedCredit then
          ((candidateAccounts db scope).flatMap fun a => (debtCurrencies db a).map (a, ·)).countP
            fun key => 0 < roundMoney (getAccountCreditBalance db key.1 key.2)
        else 0 := by
  rw [unusedCreditViolations, violationCount_flatMap]
  simp only [violationCount_filterMap (reports_unusedCreditViolation _)]
  split_ifs
  · rw [← sum_map_countP_pair]
    congr 1
    refine List.map_congr_left fun a _ => List.countP_congr fun c _ => ?_
    rw [unusedCreditViolation]
    split_ifs with hcredit <;> simp [hcredit]
  · simp

theorem count_unusedCredit (hcurrency : CurrenciesGiven db) (hposition : AdjustmentsInPosition db) :
    ((candidateAccounts db none).flatMap fun a => (debtCurrencies db a).map (a, ·)).countP
        (fun key => 0 < roundMoney (getAccountCreditBalance db key.1 key.2))
      = (payableCurrencies db).countP fun key => 0 < roundMoney (joinedBalance db key.1 key.2) := by
  rw [(perm_payableCurrencies hcurrency).countP_eq]
  refine List.countP_congr fun key hkey => ?_
  rw [roundMoney_joinedBalance hposition hkey]

lemma onGrid_allocationTotal (paymentId : ℕ) (p : PaymentAllocation → Bool) :
    OnGrid 2 (allocationTotal db paymentId p) := by
  refine OnGrid.list_sum fun x hx => ?_
  obtain ⟨a, -, rfl⟩ := List.mem_map.mp hx
  split_ifs
  · exact a.amount.onGrid
  · exact onGrid_zero

lemma isSome_overallocatedViolation (p : Payment) :
    (overallocatedViolation db p).isSome ↔ p.amount.value < allocatedTotal db p := by
  rw [overallocatedViolation, allocatedTotal, roundMoney_value,
    roundMoney_of_onGrid (onGrid_allocationTotal _ _)]
  split_ifs with h <;> simp [h]

lemma isSome_negativeSourceViolation (p : Payment) :
    (negativeSourceViolation db p).isSome
      ↔ ∃ s ∈ p.settlement, sourceCapacity s < sourceConsumedTotal db p := by
  rw [negativeSourceViolation, sourceConsumedTotal,
    roundMoney_of_onGrid (onGrid_allocationTotal _ _)]
  cases p.settlement with
  | none => simp
  | some s =>
    have hcapacity : roundMoney (sourceCapacity s) = sourceCapacity s :=
      roundMoney_of_onGrid (s.unallocatedAmount.onGrid.sub s.prepaidAmount.onGrid)
    simp only [Option.bind_some, hcapacity, Option.mem_some_iff, exists_eq_left']
    split_ifs with h <;> simp [h]

lemma violationCount_paymentViolations (scope : Option ℕ) :
    violationCount (paymentViolations db scope) code
      = (if code = .paymentOverallocated then
          (scannedPayments db scope).countP fun p => (overallocatedViolation db p).isSome else 0)
        + if code = .negativePaymentCreditSourceAvailability then
          (scannedPayments db scope).countP fun p => (negativeSourceViolation db p).isSome else 0 := by
  rw [← violationCount_filterMap reports_overallocatedViolation,
    ← violationCount_filterMap reports_negativeSourceViolation, ← violationCount_append,
    List.filterMap_eq_flatMap_toList, List.filterMap_eq_flatMap_toList]
  exact ((List.flatMap_append_perm _ _ _).countP_eq _).symm

/-- Payments above their cash are counted alike: the prefilter lets every one through. -/
theorem count_paymentOverallocated :
    (scannedPayments db none).countP (fun p => (overallocatedViolation db p).isSome)
      = (paymentInvariantRows db).countP fun p =>
          roundMoney p.amount.value < roundMoney (allocatedTotal db p) := by
  rw [scannedPayments, paymentInvariantRows, List.countP_filter, List.countP_filter]
  refine List.countP_congr fun p _ => ?_
  have hallocated : roundMoney (allocatedTotal db p) = allocatedTotal db p :=
    roundMoney_of_onGrid (onGrid_allocationTotal _ _)
  simp only [Bool.and_eq_true, isSome_overallocatedViolation, decide_eq_true_eq, inScope,
    true_or, decide_true, and_true, roundMoney_value, hallocated]
  tauto

theorem count_negativeSource :
    (scannedPayments db none).countP (fun p => (negativeSourceViolation db p).isSome)
      = (paymentInvariantRows db).countP fun p => ∃ s ∈ p.settlement,
          roundMoney (sourceCapacity s) < roundMoney (sourceConsumedTotal db p) := by
  rw [scannedPayments, paymentInvariantRows, List.countP_filter, List.countP_filter]
  refine List.countP_congr fun p _ => ?_
  have hconsumed : roundMoney (sourceConsumedTotal db p) = sourceConsumedTotal db p :=
    roundMoney_of_onGrid (onGrid_allocationTotal _ _)
  have hcapacity : ∀ s : PaymentSettlement, roundMoney (sourceCapacity s) = sourceCapacity s :=
    fun s => roundMoney_of_onGrid (s.unallocatedAmount.onGrid.sub s.prepaidAmount.onGrid)
  simp only [Bool.and_eq_true, isSome_negativeSourceViolation, decide_eq_true_eq, inScope,
    true_or, decide_true, and_true, hconsumed, hcapacity]
  tauto

end Sections

section Documents

variable {db : InspectionTables} {code : InvariantCode}

/-- Every paid invoice can be resolved. -/
def FundingResolvable (db : BillingTables) : Prop :=
  ∀ i ∈ db.invoices.rows, i.isActive → i.status = .paid → Resolvable db i

lemma isSome_underfundedViolation (db : BillingTables) (i : Invoice) :
    (underfundedViolation db i).isSome
      ↔ roundMoney (totalApplied db i) < roundMoney i.total.value := by
  rw [underfundedViolation]
  split_ifs with h
  · exact iff_of_true rfl h
  · exact iff_of_false Bool.false_ne_true h

/-- Underfunded paid invoices are counted by the bulk query in two parts. -/
theorem count_underfunded (division : NumericDivision)
    (h : FundingResolvable db.toBillingTables) :
    (scannedPaidInvoices db.toBillingTables none).countP
        (fun i => (underfundedViolation db.toBillingTables i).isSome)
      = countUnderfundedPaidInvoices division db false
        + countOpeningBalanceUnderfundedInvoices division db := by
  have hscan : (scannedPaidInvoices db.toBillingTables none).countP
      (fun i => (underfundedViolation db.toBillingTables i).isSome)
      = db.invoices.rows.countP fun i => i.isActive ∧ i.status = .paid ∧
          fundedTotal division db.toBillingTables i < quantize halfUp 2 i.total.value := by
    rw [scannedPaidInvoices, List.countP_filter]
    refine List.countP_congr fun i hi => ?_
    have hverdict := fun ha hp => underfunded_iff division (h i hi ha hp)
    simp only [Bool.and_eq_true, isSome_underfundedViolation, decide_eq_true_eq, inScope, true_or,
      decide_true, and_true]
    tauto
  rw [hscan, countOpeningBalanceUnderfundedInvoices, countUnderfundedPaidInvoices,
    countUnderfundedPaidInvoices,
    List.countP_eq_countP_filter_add _ _ fun i => (db.splynxInvoiceId i.id).isNone,
    List.countP_filter, List.countP_filter]
  congr 1
  all_goals
    refine List.countP_congr fun i _ => ?_
    cases db.splynxInvoiceId i.id <;> simp

lemma isSome_unsettledDepositViolation (t : TopupIntent) :
    (unsettledDepositViolation db t).isSome ↔ t.status = "completed" ∧
      (t.completedPaymentId.bind db.payments.get?).bind (·.settlement) = none := by
  rw [unsettledDepositViolation]
  split_ifs with hstatus
  · cases h : (t.completedPaymentId.bind db.payments.get?).bind (·.settlement) <;> simp [hstatus]
  · simp [hstatus]

theorem count_unsettledDeposit :
    (scannedDeposits db none).countP (fun t => (unsettledDepositViolation db t).isSome)
      = db.topupIntents.rows.countP fun t =>
          t.purpose = some depositPurpose ∧ t.status = "completed" ∧
            (t.completedPaymentId.bind db.payments.get?).bind (·.settlement) = none := by
  rw [scannedDeposits, List.countP_filter]
  refine List.countP_congr fun t _ => ?_
  simp only [Bool.and_eq_true, isSome_unsettledDepositViolation, decide_eq_true_eq, inScope,
    true_or, decide_true, and_true]
  tauto

lemma violationCount_duplicateViolations (scope : Option ℕ) :
    violationCount (duplicateViolations db scope) code
      = if code = .duplicateProviderReference then (duplicateProviderGroups db).length else 0 := by
  rw [violationCount, duplicateViolations, List.countP_map]
  split_ifs with hcode
  · rw [List.countP_eq_length]
    intro key _
    simp [hcode]
  · rw [List.countP_eq_zero]
    intro key _
    simp [Ne.symm hcode]

/-! The receipts. -/

def IsDeposit (db : InspectionTables) (i : ℕ) : Prop :=
  ∃ t ∈ db.topupIntents.get? i, t.purpose = some depositPurpose

instance (i : ℕ) : Decidable (IsDeposit db i) :=
  inferInstanceAs (Decidable (∃ t ∈ db.topupIntents.get? i, _))

variable (db) in
lemma isSome_unresolvedWebhookViolation (receipt : IntegrationInbox) (intentId : Option ℕ) :
    (unresolvedWebhookViolation db receipt intentId).isSome ↔ ∃ i ∈ intentId, IsDeposit db i := by
  cases intentId with
  | none => simp [unresolvedWebhookViolation]
  | some i =>
    rw [unresolvedWebhookViolation, Option.bind_some]
    cases h : db.topupIntents.get? i with
    | none => simp [IsDeposit, h]
    | some t => by_cases hpurpose : t.purpose = some depositPurpose <;> simp [IsDeposit, h, hpurpose]

variable (db) in
lemma reports_unresolvedWebhookViolation (receipt : IntegrationInbox) :
    Reports (unresolvedWebhookViolation db receipt) .depositWebhookUnresolved := by
  intro i v h
  obtain ⟨t, -, h⟩ := Option.bind_eq_some_iff.mp h
  split_ifs at h
  cases h
  rfl

variable (db) in
/-- Both loops over receipts fail together; where they do not, the violations of the one are the
deposits that the other names. -/
lemma mapM_receipts (coerceUuid : Json → Option ℕ) (receipts : List IntegrationInbox) :
    (∃ e, receipts.mapM (scanReceipt coerceUuid db) = .error e ∧
        receipts.mapM (receiptIntentId coerceUuid) = .error e) ∨
      ∃ found ids, receipts.mapM (scanReceipt coerceUuid db) = .ok found ∧
        receipts.mapM (receiptIntentId coerceUuid) = .ok ids ∧
        ∀ code, violationCount (found.filterMap id) code
          = if code = .depositWebhookUnresolved then (ids.filterMap id).countP (IsDeposit db ·)
            else 0 := by
  induction receipts with
  | nil => exact .inr ⟨[], [], rfl, rfl, fun code => by simp [violationCount]⟩
  | cons r receipts ih =>
    rw [List.mapM_cons, List.mapM_cons, scanReceipt]
    cases hr : receiptIntentId coerceUuid r with
    | error e => exact .inl ⟨e, rfl, rfl⟩
    | ok i =>
      obtain ⟨e, hfound, hids⟩ | ⟨found, ids, hfound, hids, hcount⟩ := ih
      · rw [hfound, hids]
        exact .inl ⟨e, rfl, rfl⟩
      · rw [hfound, hids]
        refine .inr ⟨unresolvedWebhookViolation db r i :: found, i :: ids, rfl, rfl, ?_⟩
        intro code
        have hrest := hcount code
        cases i with
        | none => exact hrest
        | some i =>
          have hreports := reports_unresolvedWebhookViolation db r (some i)
          have hsome := isSome_unresolvedWebhookViolation db r (some i)
          simp only [Option.mem_some_iff, exists_eq_left'] at hsome
          cases hv : unresolvedWebhookViolation db r (some i) with
          | none =>
            have hnot : ¬IsDeposit db i := fun h => by simpa [hv] using hsome.mpr h
            simp only [List.filterMap_cons, id, List.countP_cons, hnot, decide_false,
              Bool.false_eq_true, if_false, add_zero]
            exact hrest
          | some v =>
            have hdeposit : IsDeposit db i := hsome.mp (by simp [hv])
            simp only [List.filterMap_cons, id, List.countP_cons, hdeposit, decide_true,
              if_true, violationCount, hreports v hv] at hrest ⊢
            rw [hrest]
            by_cases hcode : code = .depositWebhookUnresolved
            · simp [hcode]
            · simp [hcode, Ne.symm hcode]

/-- The deposits among the identifiers of the receipts are the deposits that the query returns. -/
lemma countP_isDeposit (ids : List ℕ) :
    ids.countP (IsDeposit db ·)
      = ids.countP (· ∈ (db.topupIntents.rows.filter fun t =>
          t.id ∈ ids ∧ t.purpose = some depositPurpose).map (·.id)) := by
  refine List.countP_congr fun i hi => ?_
  rw [decide_eq_true_iff, decide_eq_true_iff, IsDeposit]
  simp only [decide_eq_true_eq, Option.mem_def, Table.get?_eq_some, List.mem_map, List.mem_filter]
  constructor
  · rintro ⟨t, ⟨ht, rfl⟩, hpurpose⟩
    exact ⟨t, ⟨ht, hi, hpurpose⟩, rfl⟩
  · rintro ⟨t, ⟨ht, -, hpurpose⟩, rfl⟩
    exact ⟨t, ⟨ht, rfl⟩, hpurpose⟩

end Documents

/-! ## The two scans -/

/-- Both scans fail alike, or the summary counts what the scan of all accounts reports.  The bulk
count of underfunded invoices leaves out the carried-in ones, which are counted separately. -/
def SummaryAgrees (division : NumericDivision) (db : InspectionTables)
    (inspected : Except DomainError (List AccountCreditInvariantViolation))
    (summary : Except DomainError AccountCreditInvariantSummary) : Prop :=
  match inspected, summary with
  | .ok violations, .ok summary =>
    summary.paymentOverallocated = violationCount violations .paymentOverallocated ∧
    summary.negativePaymentCreditSourceAvailability
      = violationCount violations .negativePaymentCreditSourceAvailability ∧
    summary.settledDepositWithoutExactPayment
      = violationCount violations .settledDepositWithoutExactPayment ∧
    summary.duplicateProviderReference
      = violationCount violations .duplicateProviderReference ∧
    summary.depositWebhookUnresolved = violationCount violations .depositWebhookUnresolved ∧
    (FundingResolvable db.toBillingTables →
      summary.paidInvoiceUnderfunded + countOpeningBalanceUnderfundedInvoices division db
        = violationCount violations .paidInvoiceUnderfunded) ∧
    (CurrenciesGiven db.toBillingTables → AdjustmentsInPosition db.toBillingTables →
      summary.eligibleInvoiceWithUnusedCredit
        = violationCount violations .eligibleInvoiceWithUnusedCredit)
  | .error e, .error e' => e = e'
  | _, _ => False

/-- **The bulk summary agrees with the inspection.** -/
theorem summarizeInvariants_agrees (coerceUuid : Json → Option ℕ) (division : NumericDivision)
    (db : InspectionTables) :
    SummaryAgrees division db (inspectInvariants coerceUuid db none)
      (summarizeInvariants coerceUuid division db) := by
  rw [inspectInvariants, webhookViolations, summarizeInvariants, receiptIntentIds]
  obtain ⟨e, hfound, hids⟩ | ⟨found, ids, hfound, hids, hcount⟩ :=
    mapM_receipts db coerceUuid (unresolvedReceipts db)
  · rw [hfound, hids]
    rfl
  rw [hfound, hids]
  refine ⟨?_, ?_, ?_, ?_, ?_, ?_, ?_⟩
  all_goals
    simp only [violationCount_append, violationCount_unusedCreditViolations,
      violationCount_paymentViolations, violationCount_duplicateViolations, hcount,
      violationCount_filterMap reports_underfundedViolation,
      violationCount_filterMap (reports_unsettledDepositViolation db), reduceCtorEq, if_true,
      if_false, add_zero, zero_add]
  · exact count_paymentOverallocated.symm
  · exact count_negativeSource.symm
  · exact count_unsettledDeposit.symm
  · exact (countP_isDeposit _).symm
  · exact fun h => (count_underfunded division h).symm
  · exact fun hcurrency hposition => (count_unusedCredit hcurrency hposition).symm

/-! ## Databases on which the scans differ -/

def plainInvoice (accountId : ℕ) (status : InvoiceStatus) (currency : String) (total : ℚ) (id : ℕ) :
    Invoice where
  id
  accountId
  status
  currency
  subtotal := .store 2 total
  discountAmount := .store 2 0
  taxTotal := .store 2 0
  total := .store 2 total
  balanceDue := .store 2 (if status = .paid then 0 else total)
  dueAt := none
  paidAt := none
  isProforma := false
  isActive := true
  createdAt := 0
  lines := []
  creditNoteApplications := []
  openingFundingConsumptions := []

def refundedPayment (id : ℕ) : Payment where
  id
  accountId := some 1
  billingAccountId := none
  providerId := none
  amount := .store 2 (6 / 100)
  amount_lt := by decide +kernel
  refundedAmount := .store 2 (1 / 100)
  currency := "NGN"
  status := .partiallyRefunded
  paidAt := some 0
  autoAllocateOnSettlement := false
  splynxPaymentId := none
  isActive := true
  createdAt := 0
  settlement := none
  refunds := []
  reversed := false
  renewalOutcomes := []

def plainCredit (source : LedgerSource) (amount : ℚ) (affectsCustomerPosition : Bool) (id : ℕ) :
    LedgerEntry where
  id
  accountId := 1
  invoiceId := none
  paymentId := none
  entryType := .credit
  source
  amount := .store 2 amount
  currency := "NGN"
  isActive := true
  affectsCustomerPosition

def oneInvoice (invoice : ℕ → Invoice) (h : ∀ i, Row.id (invoice i) = i) : InspectionTables where
  invoices := Table.empty.insert invoice h
  payments := .empty
  allocations := .empty
  ledgerEntries := .empty
  idempotencyKeys := []
  providerEvents := []
  taxRates := []
  splynxInvoiceId := fun _ => none
  externalId := fun _ => none
  topupIntents := .empty
  integrationInbox := []

/-- A paid invoice that was carried in without its allocations. -/
def carriedIn : InspectionTables :=
  { oneInvoice (plainInvoice 1 .paid "NGN" 100) fun _ => rfl with splynxInvoiceId := fun _ => some 7 }

/-- Debt beside an adjustment that is no part of the customer position. -/
def adjustedOutsidePosition : InspectionTables :=
  { oneInvoice (plainInvoice 1 .issued "NGN" 100) fun _ => rfl with
    ledgerEntries := Table.empty.insert (plainCredit .adjustment 20 false) fun _ => rfl }

/-- Debt in a currency without a name, beside unused credit. -/
def withoutCurrency : InspectionTables :=
  { oneInvoice (plainInvoice 1 .issued "" 100) fun _ => rfl with
    ledgerEntries := Table.empty.insert (plainCredit .payment 20 true) fun _ => rfl }

/-- A cent of each of three payments: together they keep two and a half cents of three. -/
def threeShares : InspectionTables :=
  let share (i : ℕ) : PaymentAllocation :=
    ⟨i, i, 0, none, none, none, .store 2 (1 / 100), true⟩
  { oneInvoice (plainInvoice 1 .paid "NGN" (3 / 100)) fun _ => rfl with
    payments := ((Table.empty.insert refundedPayment fun _ => rfl).insert refundedPayment
      fun _ => rfl).insert refundedPayment fun _ => rfl
    allocations := ((Table.empty.insert share fun _ => rfl).insert share fun _ => rfl).insert share
      fun _ => rfl }

/-- The carried-in invoice meets all conditions: the two counts of invoices add up. -/
theorem summarizeInvariants_agrees_carriedIn :
    SummaryAgrees postgresDivision carriedIn (inspectInvariants (fun _ => none) carriedIn none)
        (summarizeInvariants (fun _ => none) postgresDivision carriedIn) ∧
      FundingResolvable carriedIn.toBillingTables ∧ CurrenciesGiven carriedIn.toBillingTables ∧
      AdjustmentsInPosition carriedIn.toBillingTables := by
  refine ⟨summarizeInvariants_agrees _ _ _, ?_, ?_, ?_⟩
  · show ∀ i ∈ carriedIn.invoices.rows, i.isActive → i.status = .paid → Resolvable _ i
    decide +kernel
  · show ∀ i ∈ carriedIn.invoices.rows, isCollectible i → i.currency ≠ ""
    decide +kernel
  · exact fun e he => absurd he List.not_mem_nil

/-- How often the scan of all accounts reports a code. -/
def inspectedCount (db : InspectionTables) (code : InvariantCode) : Option ℕ :=
  (inspectInvariants (fun _ => none) db none).toOption.map (violationCount · code)

def summarizedCount (db : InspectionTables) (count : AccountCreditInvariantSummary → ℕ) :
    Option ℕ :=
  (summarizeInvariants (fun _ => none) postgresDivision db).toOption.map count

/-- **The summary is not the inspection**: a carried-in invoice is not counted, an adjustment outside
the position counts as credit, a missing currency is not read as the default one, and three shares
of five sixths of a cent are rounded up by the one and down by the other. -/
theorem summarizeInvariants_disagrees :
    (inspectedCount carriedIn .paidInvoiceUnderfunded = some 1 ∧
      summarizedCount carriedIn (·.paidInvoiceUnderfunded) = some 0) ∧
    (inspectedCount adjustedOutsidePosition .eligibleInvoiceWithUnusedCredit = some 0 ∧
      summarizedCount adjustedOutsidePosition (·.eligibleInvoiceWithUnusedCredit) = some 1) ∧
    (inspectedCount withoutCurrency .eligibleInvoiceWithUnusedCredit = some 1 ∧
      summarizedCount withoutCurrency (·.eligibleInvoiceWithUnusedCredit) = some 0) ∧
    (inspectedCount threeShares .paidInvoiceUnderfunded = some 0 ∧
      summarizedCount threeShares (·.paidInvoiceUnderfunded) = some 1) := by
  decide +kernel

end AccountCredit

end DotmacSub
