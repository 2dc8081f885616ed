import DotmacSub.Billing.Allocations
import DotmacSub.Billing.Recalculation
import Mathlib.Algebra.Order.BigOperators.Group.List

/-!
# Moving a payment to another invoice

`Payments.reallocate` of `services/billing/payments.py` releases the allocations of a payment
without settlement evidence, with their ledger credits, and gives the payment to one invoice.
-/

namespace DotmacSub

open Store Checked Decimal

namespace Payments

/-- The checks of a reallocation, in the order of the source. -/
def reallocationTarget (db : BillingTables) (paymentId invoiceId : ℕ) :
    Except DomainError (Payment × ℕ × Invoice) := do
  let payment ← orRefuse (db.payments.get? paymentId) (.httpException 404 "Payment not found")
  ensure (payment.refunds = [] ∧ payment.reversed = false) (.httpException 409
    "Evidence-backed refund or reversal allocations are immutable")
  ensure (payment.settlement = none) (.httpException 409
    "Evidence-backed allocations cannot be reallocated; use a reviewed reversal workflow")
  ensure payment.isActive (.httpException 409 "Inactive payment cannot be reallocated")
  ensure (payment.status = .succeeded)
    (.httpException 409 "Only a succeeded payment can be reallocated")
  let accountId ← orRefuse payment.accountId (.httpException 400
    ("Consolidated payments require their dedicated allocation workflow and cannot be reallocated "
      ++ "here"))
  let target ← orRefuse ((db.invoices.get? invoiceId).filter (·.isActive))
    (.httpException 404 "Invoice not found")
  ensure (target.accountId = accountId)
    (.httpException 400 "Invoice belongs to a different account than the payment")
  validateInvoiceCurrency target payment.currency
  assertInvoiceAllocatable target
  ensure ((∃ a ∈ activeAllocations db paymentId, a.invoiceId = target.id) ∨
      0 < roundMoney target.balanceDue.value)
    (.httpException 400 "Invoice has no balance due")
  return (payment, accountId, target)

def releasedInvoices (db : BillingTables) (paymentId targetId : ℕ) : List ℕ :=
  ((activeAllocations db paymentId).filter (·.invoiceId ≠ targetId)).map (·.invoiceId)

def releaseAllocation (paymentId targetId : ℕ) (a : PaymentAllocation) : PaymentAllocation :=
  if a.paymentId = paymentId ∧ a.isActive ∧ a.invoiceId ≠ targetId then
    { a with isActive := false }
  else a

lemma id_releaseAllocation (paymentId targetId : ℕ) (a : PaymentAllocation) :
    Row.id (releaseAllocation paymentId targetId a) = Row.id a := by
  rw [releaseAllocation]
  split_ifs <;> rfl

/-- Drop the allocations on other invoices, each with its ledger credit, and recompute these
invoices. -/
def releaseElsewhere (now : ℤ) (db : BillingTables) (paymentId targetId : ℕ) : BillingTables :=
  (releasedInvoices db paymentId targetId).foldl (finalizeInvoicePaymentEffects now) { db with
    ledgerEntries := db.ledgerEntries.map
      (retireCredit paymentId (releasedInvoices db paymentId targetId))
      (id_retireCredit paymentId (releasedInvoices db paymentId targetId))
    allocations := db.allocations.map (releaseAllocation paymentId targetId)
      (id_releaseAllocation paymentId targetId) }

def allocatedSum (db : BillingTables) (paymentId : ℕ) : ℚ :=
  ((activeAllocations db paymentId).map fun a => roundMoney a.amount.value).sum

/-- The tables after `applied` was given to the target. -/
def fundedTables (now : ℤ) (db : BillingTables) (payment : Payment) (target : Invoice)
    (applied : ℚ) : BillingTables :=
  if 0 < applied then
    finalizeInvoicePaymentEffects now (applyPaymentAllocation db payment target applied).1 target.id
  else db

/-- Give what is not allocated to an invoice, as far as it is owed; the rest becomes account
credit. -/
def fundTarget (now : ℤ) (db : BillingTables) (payment : Payment) (accountId : ℕ)
    (target : Invoice) : Except DomainError BillingTables := do
  let unallocated := roundMoney payment.amount.value - allocatedSum db payment.id
  if unallocated ≤ 0 then return db
  let payable := roundMoney target.balanceDue.value
  let applied := if 0 < payable then min unallocated payable else 0
  return (← recordUnallocatedPaymentCredit (fundedTables now db payment target applied) payment
    accountId (unallocated - applied)).1

/-- Move the allocations of a payment to another invoice. -/
def reallocate (now : ℤ) (db : BillingTables) (paymentId invoiceId : ℕ) :
    Except DomainError BillingTables := do
  let (payment, accountId, target) ← reallocationTarget db paymentId invoiceId
  let released := releaseElsewhere now db payment.id target.id
  let target ← orRefuse (released.invoices.get? target.id)
    (.httpException 404 "Invoice not found")
  fundTarget now released payment accountId target

/-! ## Payments whose money is credited once -/

/-- The credits of a payment: one of its own amount on each active allocation, the rest on no
invoice, and all of them together the payment. -/
structure Credited (db : BillingTables) (payment : Payment) : Prop where
  pairs : ∀ a ∈ db.allocations.rows, ∀ b ∈ db.allocations.rows,
    a.paymentId = b.paymentId → a.invoiceId = b.invoiceId → a = b
  credit : ∀ e ∈ db.ledgerEntries.rows, isPaymentEntry payment.id e → e.entryType = .credit
  nonneg : ∀ e ∈ db.ledgerEntries.rows, isPaymentEntry payment.id e → 0 ≤ e.amount.value
  allocated : ∀ a ∈ activeAllocations db payment.id,
    (entriesOn db payment.id a.invoiceId).map (·.amount) = [a.amount]
  covered : ∀ e ∈ db.ledgerEntries.rows, isPaymentEntry payment.id e → ∀ i ∈ e.invoiceId,
    ∃ a ∈ activeAllocations db payment.id, a.invoiceId = i
  total : paymentCreditTotal db payment.id = payment.amount.value

section Release

variable {now : ℤ} {db : BillingTables} {payment : Payment} {targetId : ℕ} {ids : List ℕ}

lemma foldl_finalize_kept :
    (ids.foldl (finalizeInvoicePaymentEffects now) db).allocations = db.allocations ∧
      (ids.foldl (finalizeInvoicePaymentEffects now) db).ledgerEntries = db.ledgerEntries ∧
      (ids.foldl (finalizeInvoicePaymentEffects now) db).payments = db.payments ∧
      (ids.foldl (finalizeInvoicePaymentEffects now) db).taxRates = db.taxRates := by
  induction ids generalizing db with
  | nil => exact ⟨rfl, rfl, rfl, rfl⟩
  | cons i ids ih => exact ih

lemma get?_foldl_finalize (h : targetId ∉ ids) :
    (ids.foldl (finalizeInvoicePaymentEffects now) db).invoices.get? targetId
      = db.invoices.get? targetId := by
  induction ids generalizing db with
  | nil => rfl
  | cons i ids ih =>
    rw [List.foldl_cons, ih fun hmem => h (List.mem_cons_of_mem _ hmem)]
    exact Table.get?_update_ne (h := recalculateInvoiceTotals_id now db)
      fun hi => h (hi ▸ List.mem_cons_self)

lemma mem_releasedInvoices {paymentId i : ℕ} : i ∈ releasedInvoices db paymentId targetId ↔
    i ≠ targetId ∧ ∃ a ∈ activeAllocations db paymentId, a.invoiceId = i := by
  simp only [releasedInvoices, List.mem_map, List.mem_filter, decide_eq_true_eq]
  constructor
  · rintro ⟨a, ⟨ha, hne⟩, rfl⟩
    exact ⟨hne, a, ha, rfl⟩
  · rintro ⟨hne, a, ha, rfl⟩
    exact ⟨a, ⟨ha, hne⟩, rfl⟩

/-- Two changes of a list that select the same elements, and agree on these. -/
lemma filter_map_congr {α β : Type*} {f g : α → β} {p q : β → Bool} {l : List α}
    (h : ∀ x ∈ l, p (f x) = q (g x) ∧ (q (g x) → f x = g x)) :
    (l.map f).filter p = (l.map g).filter q := by
  induction l with
  | nil => rfl
  | cons x l ih =>
    obtain ⟨hp, hf⟩ := h x List.mem_cons_self
    have hl := ih fun y hy => h y (List.mem_cons_of_mem x hy)
    rw [List.map_cons, List.map_cons, List.filter_cons, List.filter_cons, hp, hl]
    split_ifs with hq
    · rw [hf hq]
    · rfl

lemma filter_map_of_fixed {α : Type*} {f : α → α} {p q : α → Bool} {l : List α}
    (h : ∀ x ∈ l, p (f x) = q x ∧ (q x → f x = x)) : (l.map f).filter p = l.filter q :=
  (filter_map_congr (g := id) h).trans (by rw [List.map_id])

lemma isPaymentEntry_retireCredit {paymentId : ℕ} {e : LedgerEntry} :
    isPaymentEntry paymentId (retireCredit paymentId ids e)
      = (isPaymentEntry paymentId e && decide (¬∃ i ∈ ids, e.invoiceId = some i)) := by
  rw [retireCredit]
  split_ifs with h
  · simp [isPaymentEntry, h.2.2]
  · by_cases hentry : isPaymentEntry paymentId e
    · have hnot : ¬∃ i ∈ ids, e.invoiceId = some i := fun hi => by
        simp only [isPaymentEntry, decide_eq_true_eq] at hentry
        exact h ⟨hentry.1, hentry.2.1, hi⟩
      simp [hentry, hnot]
    · simp [hentry]

lemma ledgerEntries_releaseElsewhere : (releaseElsewhere now db payment.id targetId).ledgerEntries
    = db.ledgerEntries.map (retireCredit payment.id (releasedInvoices db payment.id targetId))
      (id_retireCredit payment.id (releasedInvoices db payment.id targetId)) :=
  foldl_finalize_kept.2.1

lemma allocations_releaseElsewhere : (releaseElsewhere now db payment.id targetId).allocations
    = db.allocations.map (releaseAllocation payment.id targetId)
      (id_releaseAllocation payment.id targetId) :=
  foldl_finalize_kept.1

lemma retireCredit_of_target {e : LedgerEntry} (hids : targetId ∉ ids)
    (h : e.invoiceId = none ∨ e.invoiceId = some targetId) : retireCredit payment.id ids e = e := by
  rw [retireCredit, if_neg]
  rintro ⟨-, -, i, hi, he⟩
  rcases h with h | h
  · rw [h] at he
    cases he
  · rw [h] at he
    exact hids (Option.some.inj he ▸ hi)

lemma invoiceId_retireCredit {paymentId : ℕ} {e : LedgerEntry} :
    (retireCredit paymentId ids e).invoiceId = e.invoiceId := by
  rw [retireCredit]
  split_ifs <;> rfl

lemma targetId_notMem_releasedInvoices {paymentId : ℕ} :
    targetId ∉ releasedInvoices db paymentId targetId :=
  fun h => (mem_releasedInvoices.mp h).1 rfl

variable (now) in
lemma entriesOn_releaseElsewhere : entriesOn (releaseElsewhere now db payment.id targetId)
    payment.id targetId = entriesOn db payment.id targetId := by
  rw [entriesOn, ledgerEntries_releaseElsewhere, entriesOn]
  refine filter_map_of_fixed fun e _ => ?_
  by_cases he : e.invoiceId = some targetId
  · rw [retireCredit_of_target targetId_notMem_releasedInvoices (.inr he)]
    exact ⟨rfl, fun _ => rfl⟩
  · simp [invoiceId_retireCredit, he]

variable (now db payment targetId) in
lemma surplusCredit_releaseElsewhere :
    surplusCredit (releaseElsewhere now db payment.id targetId) payment.id
      = surplusCredit db payment.id := by
  rw [surplusCredit, ledgerTotal_eq_sum, ledgerEntries_releaseElsewhere, surplusCredit,
    ledgerTotal_eq_sum]
  congr 2
  refine filter_map_of_fixed fun e _ => ?_
  by_cases he : e.invoiceId = none
  · rw [retireCredit_of_target targetId_notMem_releasedInvoices (.inl he)]
    exact ⟨rfl, fun _ => rfl⟩
  · simp [invoiceId_retireCredit, he]

/-- At most one element of a list of distinct elements satisfies `p`: the filter is the search. -/
lemma filter_eq_toList_find? {α : Type*} {p : α → Bool} {l : List α} (hnodup : l.Nodup)
    (h : ∀ x ∈ l, ∀ y ∈ l, p x → p y → x = y) : l.filter p = (l.find? p).toList := by
  induction l with
  | nil => rfl
  | cons x l ih =>
    rw [List.filter_cons, List.find?_cons]
    cases hx : p x with
    | true =>
      have hrest : l.filter p = [] := List.filter_eq_nil_iff.mpr fun y hy hp =>
        (List.nodup_cons.mp hnodup).1
          (h x List.mem_cons_self y (List.mem_cons_of_mem x hy) hx hp ▸ hy)
      simp [hrest]
    | false =>
      simp only [Bool.false_eq_true, if_false]
      exact ih (List.nodup_cons.mp hnodup).2
        fun y hy z hz => h y (List.mem_cons_of_mem x hy) z (List.mem_cons_of_mem x hz)

variable (now targetId) in
theorem Credited.onlyOn (h : Credited db payment) :
    OnlyOn (releaseElsewhere now db payment.id targetId) payment.id targetId
      (findPaymentAllocation db payment.id targetId true) where
  allocations := by
    rw [activeAllocations, allocations_releaseElsewhere, findPaymentAllocation,
      ← filter_eq_toList_find?]
    · refine filter_map_of_fixed fun a _ => ?_
      rw [releaseAllocation]
      split_ifs with hrelease
      · simp [hrelease.2.2]
      · refine ⟨?_, fun _ => rfl⟩
        rw [decide_eq_decide]
        tauto
    · exact List.Nodup.of_map _ db.allocations.nodup
    · intro a ha b hb hpa hpb
      obtain ⟨hap, hai, -⟩ := of_decide_eq_true hpa
      obtain ⟨hbp, hbi, -⟩ := of_decide_eq_true hpb
      exact h.pairs a ha b hb (hap.trans hbp.symm) (hai.trans hbi.symm)
  invoice := fun a ha => by
    have := List.find?_some ha
    exact (of_decide_eq_true this).2.1
  credit := by
    intro e he hentry
    rw [ledgerEntries_releaseElsewhere] at he
    obtain ⟨x, hx, rfl⟩ := Table.mem_map.mp he
    rw [isPaymentEntry_retireCredit, Bool.and_eq_true] at hentry
    have := h.credit x hx hentry.1
    rw [retireCredit]
    split_ifs <;> exact this
  entries := by
    intro e he hentry
    rw [ledgerEntries_releaseElsewhere] at he
    obtain ⟨x, hx, rfl⟩ := Table.mem_map.mp he
    rw [isPaymentEntry_retireCredit, Bool.and_eq_true, decide_eq_true_iff] at hentry
    rw [invoiceId_retireCredit]
    cases hi : x.invoiceId with
    | none => exact .inl rfl
    | some i =>
      refine .inr ?_
      by_contra hne
      exact hentry.2 ⟨i, mem_releasedInvoices.mpr ⟨fun heq => hne (congrArg _ heq),
        h.covered x hx hentry.1 i hi⟩, hi⟩

variable (targetId) in
lemma Credited.le (h : Credited db payment) :
    ((entriesOn db payment.id targetId).map fun e => e.amount.value).sum
      + surplusCredit db payment.id ≤ payment.amount.value := by
  rw [← h.total, entriesOn, ← ledgerTotal_eq_sum, surplusCredit, paymentCreditTotal]
  simp only [ledgerTotal, Table.total, ← List.sum_map_add]
  refine List.sum_le_sum fun e he => ?_
  by_cases hentry : isPaymentEntry payment.id e
  · have hcredit := h.credit e he hentry
    have hnonneg := h.nonneg e he hentry
    simp only [isPaymentCredit, hentry, hcredit, true_and, decide_true]
    by_cases hnone : e.invoiceId = none
    · simp [hnone]
    · by_cases htarget : e.invoiceId = some targetId
      · simp [htarget]
      · simp [hnone, htarget, hnonneg]
  · simp [isPaymentCredit, hentry]

lemma Credited.surplus_nonneg (h : Credited db payment) : 0 ≤ surplusCredit db payment.id := by
  rw [surplusCredit, ledgerTotal_eq_sum]
  refine List.sum_nonneg fun x hx => ?_
  obtain ⟨e, he, rfl⟩ := List.mem_map.mp hx
  obtain ⟨hrow, hp⟩ := List.mem_filter.mp he
  simp only [isPaymentCredit, decide_eq_true_eq] at hp
  exact h.nonneg e hrow hp.1.1

end Release

section Fund

variable {now : ℤ} {db db' : BillingTables} {payment : Payment} {target : Invoice}
  {accountId paymentId i : ℕ} {on : Option PaymentAllocation} {a : PaymentAllocation} {amount : ℚ}

def amountOn (on : Option PaymentAllocation) : ℚ := (on.map fun a => a.amount.value).getD 0

lemma OnlyOn.allocatedSum_eq (h : OnlyOn db paymentId i on) : allocatedSum db paymentId = amountOn on := by
  rw [allocatedSum, h.allocations]
  cases on <;> simp [amountOn]

lemma onGrid_amountOn : OnGrid 2 (amountOn on) := by
  cases on with
  | none => exact onGrid_zero
  | some a => exact a.amount.onGrid

lemma recordUnallocatedPaymentCredit_eq (hbilling : payment.billingAccountId = none) :
    recordUnallocatedPaymentCredit db payment accountId amount
      = .ok (recordCredit db accountId (roundMoney amount) (paymentCurrency payment) .payment
        (some payment.id)) := by
  have hround : roundMoney (roundMoney amount) = roundMoney amount :=
    roundMoney_of_onGrid (onGrid_roundMoney _)
  by_cases h : roundMoney amount ≤ 0
  · simp only [recordUnallocatedPaymentCredit, recordCredit, hround, if_pos h]
    rfl
  · simp only [recordUnallocatedPaymentCredit, recordCredit, hround, if_neg h, ensure_of hbilling]
    rfl

def appliedTo (target : Invoice) (unallocated : ℚ) : ℚ :=
  if 0 < target.balanceDue.value then min unallocated target.balanceDue.value else 0

def movedTables (now : ℤ) (db : BillingTables) (payment : Payment) (accountId : ℕ)
    (target : Invoice) (unallocated : ℚ) : BillingTables :=
  let applied := appliedTo target unallocated
  (recordCredit (fundedTables now db payment target applied) accountId (unallocated - applied)
    (paymentCurrency payment) .payment (some payment.id)).1

lemma fundTarget_eq (h : OnlyOn db payment.id i on) (hbilling : payment.billingAccountId = none) :
    fundTarget now db payment accountId target = .ok (if payment.amount.value - amountOn on ≤ 0
      then db else movedTables now db payment accountId target (payment.amount.value - amountOn on)) := by
  have hgrid : OnGrid 2 (payment.amount.value - amountOn on) :=
    payment.amount.onGrid.sub onGrid_amountOn
  rw [fundTarget, roundMoney_value, roundMoney_value, h.allocatedSum_eq]
  dsimp only
  split_ifs with hzero hpayable
  · rfl
  · rw [recordUnallocatedPaymentCredit_eq hbilling, movedTables, appliedTo, if_pos hpayable,
      roundMoney_of_onGrid]
    · rfl
    · rcases min_choice (payment.amount.value - amountOn on) target.balanceDue.value with h | h <;>
        rw [h]
      · rw [sub_self]
        exact onGrid_zero
      · exact hgrid.sub target.balanceDue.onGrid
  · rw [recordUnallocatedPaymentCredit_eq hbilling, movedTables, appliedTo, if_neg hpayable,
      roundMoney_of_onGrid (by rwa [sub_zero])]
    rfl

end Fund

section Guards

variable {now : ℤ} {db db' : BillingTables} {payment : Payment} {target target' : Invoice}
  {accountId paymentId invoiceId : ℕ} {on : Option PaymentAllocation}

structure Movable (db : BillingTables) (paymentId : ℕ) (payment : Payment) (accountId : ℕ) : Prop
    where
  found : db.payments.get? paymentId = some payment
  refunds : payment.refunds = [] ∧ payment.reversed = false
  settlement : payment.settlement = none
  isActive : payment.isActive
  status : payment.status = .succeeded
  account : payment.accountId = some accountId

structure Takes (payment : Payment) (accountId : ℕ) (target : Invoice) : Prop where
  isActive : target.isActive
  account : target.accountId = accountId
  currency : payment.currency = "" ∨ target.currency = payment.currency
  status : IsAllocatable target.status

lemma reallocationTarget_eq_ok :
    reallocationTarget db paymentId invoiceId = .ok (payment, accountId, target)
      ↔ Movable db paymentId payment accountId ∧ db.invoices.get? invoiceId = some target ∧
        Takes payment accountId target ∧
        ((∃ a ∈ activeAllocations db paymentId, a.invoiceId = target.id) ∨
          0 < roundMoney target.balanceDue.value) := by
  simp only [reallocationTarget, validateInvoiceCurrency, assertInvoiceAllocatable,
    orRefuse_bind_eq_ok, ensure_bind_eq_ok, pure_eq_ok, Prod.mk.injEq, Option.filter_eq_some_iff]
  constructor
  · rintro ⟨payment, hfound, hrefunds, hsettlement, hactive, hstatus, accountId, haccount, target,
      ⟨htarget, htargetActive⟩, hsame, hcurrency, hallocatable, hdue, rfl, rfl, rfl⟩
    exact ⟨⟨hfound, hrefunds, hsettlement, hactive, hstatus, haccount⟩, htarget,
      ⟨htargetActive, hsame, hcurrency, hallocatable⟩, hdue⟩
  · rintro ⟨hm, htarget, ht, hdue⟩
    exact ⟨payment, hm.found, hm.refunds, hm.settlement, hm.isActive, hm.status, accountId,
      hm.account, target, ⟨htarget, ht.isActive⟩, ht.account, ht.currency, ht.status, hdue, rfl, rfl,
      rfl⟩

lemma Takes.recalculate (h : Takes payment accountId target) :
    Takes payment accountId (recalculateInvoiceTotals now db target) := by
  obtain ⟨hactive, haccount, hcurrency⟩ :=
    recalculateInvoiceTotals_kept now db target
  exact ⟨hactive ▸ h.isActive, haccount.trans h.account, hcurrency ▸ h.currency,
    isAllocatable_recalculate now db h.status⟩

lemma OnlyOn.releaseElsewhere_eq (h : OnlyOn db payment.id invoiceId on) :
    releaseElsewhere now db payment.id invoiceId = db := by
  have hids : releasedInvoices db payment.id invoiceId = [] := by
    rw [releasedInvoices, h.allocations]
    cases on with
    | none => rfl
    | some a => simp [h.invoice a rfl]
  have hledger : db.ledgerEntries.map
      (retireCredit payment.id (releasedInvoices db payment.id invoiceId))
      (id_retireCredit payment.id (releasedInvoices db payment.id invoiceId))
      = db.ledgerEntries := by
    refine Table.map_eq_self fun e _ => ?_
    rw [hids]
    simp [retireCredit]
  have hallocations : db.allocations.map (releaseAllocation payment.id invoiceId)
      (id_releaseAllocation payment.id invoiceId) = db.allocations := by
    refine Table.map_eq_self fun a ha => ?_
    rw [releaseAllocation]
    split_ifs with hrelease
    · have hmem : a ∈ activeAllocations db payment.id :=
        List.mem_filter.mpr ⟨ha, decide_eq_true ⟨hrelease.1, hrelease.2.1⟩⟩
      rw [h.allocations, Option.mem_toList] at hmem
      exact absurd (h.invoice a hmem) hrelease.2.2
    · rfl
  rw [releaseElsewhere, hledger, hallocations, hids]
  rfl

lemma OnlyOn.reallocate_eq (h : OnlyOn db payment.id target.id on)
    (hguard : reallocationTarget db payment.id target.id = .ok (payment, accountId, target)) :
    reallocate now db payment.id target.id = fundTarget now db payment accountId target := by
  rw [reallocate, hguard, ok_bind]
  dsimp only
  rw [h.releaseElsewhere_eq, (reallocationTarget_eq_ok.mp hguard).2.1, orRefuse_some, ok_bind]

end Guards

section Moved

variable {now now' : ℤ} {db db' : BillingTables} {payment : Payment} {target target' : Invoice}
  {accountId i : ℕ} {on : Option PaymentAllocation} {a : PaymentAllocation} {unallocated : ℚ}

lemma onGrid_appliedTo (h : OnGrid 2 unallocated) : OnGrid 2 (appliedTo target unallocated) := by
  rw [appliedTo]
  split_ifs
  · rcases min_choice unallocated target.balanceDue.value with hmin | hmin <;> rw [hmin]
    · exact h
    · exact target.balanceDue.onGrid
  · exact onGrid_zero

/-- A move that leaves a surplus is seen in the ledger. -/
lemma movedTables_ne (hgrid : OnGrid 2 unallocated) (hpositive : 0 < unallocated)
    (hdue : target.balanceDue.value < unallocated) :
    movedTables now db payment accountId target unallocated ≠ db := by
  have hrest : 0 < unallocated - appliedTo target unallocated := by
    rw [appliedTo]
    split_ifs
    · rw [min_eq_right hdue.le]
      exact sub_pos.mpr hdue
    · rwa [sub_zero]
  have hfunded : db.ledgerEntries.next
      ≤ (fundedTables now db payment target (appliedTo target unallocated)).ledgerEntries.next := by
    rw [fundedTables]
    split_ifs
    · exact next_applyPaymentAllocation_le
    · exact le_rfl
  have hnext : (movedTables now db payment accountId target unallocated).ledgerEntries.next
      = (fundedTables now db payment target (appliedTo target unallocated)).ledgerEntries.next
        + 1 := next_recordCredit (hgrid.sub (onGrid_appliedTo hgrid)) hrest
  intro heq
  rw [heq] at hnext
  omega

/-- A posted allocation takes nothing more: the target is only recalculated. -/
lemma movedTables_posted (h : OnlyOn db payment.id target.id (some a))
    (hposted : a.ledgerEntryId.isSome) (hpositive : 0 < unallocated)
    (hdue : unallocated ≤ target.balanceDue.value) :
    movedTables now db payment accountId target unallocated
      = finalizeInvoicePaymentEffects now db target.id := by
  rw [movedTables, appliedTo, if_pos (hpositive.trans_le hdue), min_eq_left hdue, sub_self,
    recordCredit_of_nonpos onGrid_zero le_rfl, fundedTables, if_pos hpositive,
    applyPaymentAllocation_posted _ h.found hposted]

lemma OnlyOn.again (h : OnlyOn db payment.id target.id on)
    (hguard : reallocationTarget db payment.id target.id = .ok (payment, accountId, target))
    (hbilling : payment.billingAccountId = none) :
    reallocate now db payment.id target.id = .ok (if payment.amount.value - amountOn on ≤ 0 then db
      else movedTables now db payment accountId target (payment.amount.value - amountOn on)) :=
  (h.reallocate_eq hguard).trans (fundTarget_eq h hbilling)

/-- **When a repeated move changes nothing**: nothing is unallocated, or the allocation is posted
and the target could still take what is unallocated. -/
theorem reallocate_again_iff (h : OnlyOn db payment.id target.id on)
    (hguard : reallocationTarget db payment.id target.id = .ok (payment, accountId, target))
    (hbilling : payment.billingAccountId = none)
    (hposted : 0 < target.balanceDue.value → 0 < payment.amount.value - amountOn on →
      (∃ a ∈ on, a.ledgerEntryId.isSome) ∧
        ∀ now', recalculateInvoiceTotals now' db target = target) :
    (∀ now', reallocate now' db payment.id target.id = .ok db)
      ↔ payment.amount.value - amountOn on ≤ 0 ∨
        payment.amount.value - amountOn on ≤ target.balanceDue.value := by
  have hgrid : OnGrid 2 (payment.amount.value - amountOn on) :=
    payment.amount.onGrid.sub onGrid_amountOn
  constructor
  · intro hsame
    by_contra! hmore
    have := (h.again hguard hbilling).symm.trans (hsame 0)
    rw [if_neg (not_le.mpr hmore.1)] at this
    exact movedTables_ne hgrid hmore.1 hmore.2 (Except.ok.inj this)
  · intro hor now'
    rw [h.again hguard hbilling]
    split_ifs with hzero
    · rfl
    · have hpositive := not_le.mp hzero
      have hdue := hor.resolve_left hzero
      obtain ⟨⟨a, ha, hlinked⟩, hstable⟩ := hposted (hpositive.trans_le hdue) hpositive
      obtain rfl : on = some a := ha
      rw [movedTables_posted h hlinked hpositive hdue]
      congr 1
      have hinvoice := (reallocationTarget_eq_ok.mp hguard).2.1
      rw [finalizeInvoicePaymentEffects, Table.update_eq_self hinvoice (hstable now')]

end Moved

section Target

variable {now : ℤ} {db : BillingTables} {payment : Payment} {target : Invoice} {amount : ℚ}

lemma releaseAllocation_of_target {targetId : ℕ} {a : PaymentAllocation} (h : a.invoiceId = targetId) :
    releaseAllocation payment.id targetId a = a := if_neg fun hr => hr.2.2 h

lemma invoiceId_releaseAllocation {targetId : ℕ} (a : PaymentAllocation) :
    (releaseAllocation payment.id targetId a).invoiceId = a.invoiceId := by
  rw [releaseAllocation]
  split_ifs <;> rfl

lemma findPaymentAllocation_releaseElsewhere (active : Bool) {targetId : ℕ} :
    findPaymentAllocation (releaseElsewhere now db payment.id targetId) payment.id targetId active
      = findPaymentAllocation db payment.id targetId active := by
  rw [findPaymentAllocation, allocations_releaseElsewhere, findPaymentAllocation]
  show (db.allocations.rows.map _).find? _ = _
  rw [← List.head?_filter, ← List.head?_filter]
  congr 1
  refine filter_map_of_fixed fun a _ => ?_
  by_cases ha : a.invoiceId = targetId
  · rw [releaseAllocation_of_target ha]
    exact ⟨rfl, fun _ => rfl⟩
  · simp [invoiceId_releaseAllocation, ha]

lemma settledAllocations_apply :
    settledAllocations (applyPaymentAllocation (releaseElsewhere now db payment.id target.id) payment
        target amount).1 target.id
      = settledAllocations (applyPaymentAllocation db payment target amount).1 target.id := by
  have hid : (createPaymentLedgerEntry (releaseElsewhere now db payment.id target.id) payment target
      (roundMoney amount)).2 = (createPaymentLedgerEntry db payment target (roundMoney amount)).2 := by
    rw [createPaymentLedgerEntry, entriesOn_releaseElsewhere, createPaymentLedgerEntry,
      ledgerEntries_releaseElsewhere]
    cases (entriesOn db payment.id target.id).head? <;> rfl
  have hkept := applyPaymentAllocation_kept db payment target amount
  have hkept' := applyPaymentAllocation_kept (releaseElsewhere now db payment.id target.id) payment
    target amount
  have hpayments : (releaseElsewhere now db payment.id target.id).payments = db.payments :=
    foldl_finalize_kept.2.2.1
  refine settledAllocations_congr (hkept'.1.trans (hpayments.trans hkept.1.symm)) ?_
  -- a change of one row, after the release and without it
  have hupdate : ∀ (j : ℕ) (entryId : ℕ),
      (((releaseElsewhere now db payment.id target.id).allocations.update j
        (postedAllocation (roundMoney amount) entryId)
        (id_postedAllocation (roundMoney amount) entryId)).rows.filter
          fun a => a.invoiceId = target.id ∧ a.isActive)
      = (db.allocations.update j (postedAllocation (roundMoney amount) entryId)
        (id_postedAllocation (roundMoney amount) entryId)).rows.filter
          fun a => a.invoiceId = target.id ∧ a.isActive := by
    intro j entryId
    rw [allocations_releaseElsewhere]
    show ((db.allocations.rows.map _).map _).filter _ = (db.allocations.rows.map _).filter _
    rw [List.map_map]
    refine filter_map_congr fun a _ => ?_
    by_cases ha : a.invoiceId = target.id
    · rw [Function.comp_apply, releaseAllocation_of_target ha]
      exact ⟨rfl, fun _ => rfl⟩
    · have hposted : ∀ b : PaymentAllocation, b.invoiceId ≠ target.id → (if Row.id b = j then
          postedAllocation (roundMoney amount) entryId b else b).invoiceId ≠ target.id := by
        intro b hb
        split_ifs
        · exact hb
        · exact hb
      have hnot := hposted a ha
      have hnot' := hposted (releaseAllocation payment.id target.id a)
        (by rwa [invoiceId_releaseAllocation])
      refine ⟨?_, fun h => absurd (of_decide_eq_true h).1 hnot⟩
      rw [decide_eq_decide]
      exact ⟨fun h => absurd h.1 hnot', fun h => absurd h.1 hnot⟩
  have hrows : (releaseElsewhere now db payment.id target.id).allocations.rows.filter
        (fun a => a.invoiceId = target.id ∧ a.isActive)
      = db.allocations.rows.filter fun a => a.invoiceId = target.id ∧ a.isActive := by
    rw [allocations_releaseElsewhere]
    refine filter_map_of_fixed fun a _ => ?_
    by_cases ha : a.invoiceId = target.id
    · rw [releaseAllocation_of_target ha]
      exact ⟨rfl, fun _ => rfl⟩
    · simp [invoiceId_releaseAllocation, ha]
  rw [allocations_applyPaymentAllocation, allocations_applyPaymentAllocation,
    findPaymentAllocation_releaseElsewhere, findPaymentAllocation_releaseElsewhere]
  dsimp only
  rw [hid]
  cases findPaymentAllocation db payment.id target.id true with
  | some a =>
    dsimp only
    split_ifs
    · exact hrows
    · exact hupdate _ _
  | none =>
    cases findPaymentAllocation db payment.id target.id false with
    | some a => exact hupdate _ _
    | none =>
      show ((releaseElsewhere now db payment.id target.id).allocations.rows ++ [_]).filter _
        = (db.allocations.rows ++ [_]).filter _
      rw [List.filter_append, List.filter_append, hrows, allocations_releaseElsewhere]
      rfl

end Target

/-- The credits of the payment are the payment, each active allocation has one of its own amount,
and moving the payment again changes nothing. -/
def Moved (db : BillingTables) (payment : Payment) (targetId : ℕ) : Prop :=
  paymentCreditTotal db payment.id = payment.amount.value ∧
    (∀ a ∈ activeAllocations db payment.id,
      (entriesOn db payment.id a.invoiceId).map (·.amount) = [a.amount]) ∧
    ∀ now, reallocate now db payment.id targetId = .ok db

/-- What the target owes once `amount` was applied to it. -/
def balanceAfter (now : ℤ) (db : BillingTables) (payment : Payment) (target : Invoice)
    (amount : ℚ) : ℚ :=
  (recalculateInvoiceTotals now (applyPaymentAllocation db payment target amount).1
    target).balanceDue.value

/-- The moves that keep the money together.  What is not on the target yet is `unallocated`.
A payment with an unallocated surplus can only be moved where it already is, and only as long as
the target owes that surplus; another payment can be moved where all of it is owed. -/
def MovesExactly (now : ℤ) (db : BillingTables) (payment : Payment) (target : Invoice) : Prop :=
  let surplus := surplusCredit db payment.id
  let payable := target.balanceDue.value
  match findPaymentAllocation db payment.id target.id true with
  | none =>
    let unallocated := payment.amount.value
    unallocated ≤ 0 ∨ (surplus = 0 ∧
      (unallocated ≤ payable ∨ unallocated - payable ≤ balanceAfter now db payment target payable))
  | some a =>
    let unallocated := payment.amount.value - a.amount.value
    unallocated ≤ 0 ∨ (0 < payable ∧ min unallocated payable = surplus ∧
      (a.ledgerEntryId.isSome ∨ a.amount.value = surplus) ∧
      unallocated ≤ balanceAfter now db payment target surplus)

section Main

variable {now : ℤ} {db : BillingTables} {payment : Payment} {target target' : Invoice}
  {accountId : ℕ} {on : Option PaymentAllocation} {a : PaymentAllocation} {unallocated : ℚ}

def Backed (db : BillingTables) (paymentId invoiceId : ℕ) (on : Option PaymentAllocation) : Prop :=
  (entriesOn db paymentId invoiceId).map (·.amount) = on.toList.map (·.amount)

lemma OnlyOn.matched_iff (h : OnlyOn db payment.id target.id on) :
    (∀ a ∈ activeAllocations db payment.id,
      (entriesOn db payment.id a.invoiceId).map (·.amount) = [a.amount])
      ↔ ∀ a ∈ on, (entriesOn db payment.id target.id).map (·.amount) = [a.amount] := by
  rw [h.allocations]
  simp only [Option.mem_toList]
  refine forall₂_congr fun a ha => ?_
  rw [h.invoice a ha]

variable (now target) in
lemma Credited.backed (h : Credited db payment) :
    Backed (releaseElsewhere now db payment.id target.id) payment.id target.id
      (findPaymentAllocation db payment.id target.id true) := by
  rw [Backed, entriesOn_releaseElsewhere]
  cases hfound : findPaymentAllocation db payment.id target.id true with
  | some a =>
    have hrow := List.mem_of_find?_eq_some hfound
    have hpair : a.paymentId = payment.id ∧ a.invoiceId = target.id ∧ a.isActive = true := by
      simpa using List.find?_some hfound
    have hactive : a ∈ activeAllocations db payment.id :=
      List.mem_filter.mpr ⟨hrow, decide_eq_true ⟨hpair.1, hpair.2.2⟩⟩
    have := h.allocated a hactive
    rwa [hpair.2.1] at this
  | none =>
    -- an entry on the target would belong to an active allocation
    have hnone : entriesOn db payment.id target.id = [] := by
      refine List.filter_eq_nil_iff.mpr fun e he hentry => ?_
      obtain ⟨hpayment, hinvoice⟩ := of_decide_eq_true hentry
      obtain ⟨a, ha, hi⟩ := h.covered e he hpayment target.id hinvoice
      obtain ⟨hrow, hactive⟩ := List.mem_filter.mp ha
      obtain ⟨hp, hactive⟩ := of_decide_eq_true hactive
      exact List.find?_eq_none.mp hfound a hrow (decide_eq_true ⟨hp, hi, hactive⟩)
    rw [hnone]
    rfl

lemma sum_entriesOn {paymentId invoiceId : ℕ} {amounts : List Money}
    (h : (entriesOn db paymentId invoiceId).map (·.amount) = amounts) :
    ((entriesOn db paymentId invoiceId).map fun e => e.amount.value).sum
      = (amounts.map (·.value)).sum := by
  rw [← h, List.map_map]
  rfl

lemma Backed.sum {paymentId invoiceId : ℕ} (h : Backed db paymentId invoiceId on) :
    ((entriesOn db paymentId invoiceId).map fun e => e.amount.value).sum = amountOn on := by
  rw [sum_entriesOn h]
  cases on <;> simp [amountOn]

lemma moved_iff (h : OnlyOn db payment.id target.id on)
    (hguard : reallocationTarget db payment.id target.id = .ok (payment, accountId, target))
    (hbilling : payment.billingAccountId = none)
    (hposted : 0 < target.balanceDue.value → 0 < payment.amount.value - amountOn on →
      (∃ a ∈ on, a.ledgerEntryId.isSome) ∧
        ∀ now', recalculateInvoiceTotals now' db target = target) :
    Moved db payment target.id
      ↔ ((entriesOn db payment.id target.id).map fun e => e.amount.value).sum
          + surplusCredit db payment.id = payment.amount.value ∧
        (∀ a ∈ on, (entriesOn db payment.id target.id).map (·.amount) = [a.amount]) ∧
        (payment.amount.value - amountOn on ≤ 0 ∨
          payment.amount.value - amountOn on ≤ target.balanceDue.value) := by
  rw [Moved, h.total, h.matched_iff, reallocate_again_iff h hguard hbilling hposted]

/-- The guards still hold after a move. -/
lemma reallocationTarget_later {db' : BillingTables}
    (hguard : reallocationTarget db payment.id target.id = .ok (payment, accountId, target))
    (hpayments : db'.payments = db.payments) (hinvoice : db'.invoices.get? target.id = some target')
    (htakes : Takes payment accountId target') (hid : target'.id = target.id)
    (hdue : (∃ a ∈ activeAllocations db' payment.id, a.invoiceId = target.id) ∨
      0 < target'.balanceDue.value) :
    reallocationTarget db' payment.id target.id = .ok (payment, accountId, target') := by
  obtain ⟨hmovable, -, -, -⟩ := reallocationTarget_eq_ok.mp hguard
  refine reallocationTarget_eq_ok.mpr ⟨{ hmovable with found := hpayments ▸ hmovable.found },
    hinvoice, htakes, ?_⟩
  rwa [hid, roundMoney_value]

/-- A move that gives money to the target, by what the money of the payment is afterwards. -/
lemma moved_funded_iff
    (hguard : reallocationTarget db payment.id target.id = .ok (payment, accountId, target))
    (hbilling : payment.billingAccountId = none) (hgrid : OnGrid 2 unallocated)
    (hpositive : 0 < unallocated) (hpayable : 0 < target.balanceDue.value)
    (honly : OnlyOn (applyPaymentAllocation db payment target (appliedTo target unallocated)).1
      payment.id target.id (some a)) (hlinked : a.ledgerEntryId.isSome)
    (hsurplus : surplusCredit
      (applyPaymentAllocation db payment target (appliedTo target unallocated)).1 payment.id
        = surplusCredit db payment.id) :
    Moved (movedTables now db payment accountId target unallocated) payment target.id
      ↔ ((entriesOn (applyPaymentAllocation db payment target (appliedTo target unallocated)).1
            payment.id target.id).map fun e => e.amount.value).sum
          + (surplusCredit db payment.id + (unallocated - appliedTo target unallocated))
          = payment.amount.value ∧
        (entriesOn (applyPaymentAllocation db payment target (appliedTo target unallocated)).1
          payment.id target.id).map (·.amount) = [a.amount] ∧
        (payment.amount.value - a.amount.value ≤ 0 ∨ payment.amount.value - a.amount.value
          ≤ balanceAfter now db payment target (appliedTo target unallocated)) := by
  obtain ⟨hmovable, hinvoice, htakes, -⟩ := reallocationTarget_eq_ok.mp hguard
  obtain ⟨applied, happlied⟩ : ∃ x, x = appliedTo target unallocated := ⟨_, rfl⟩
  have happlied_pos : 0 < applied := by
    rw [happlied, appliedTo, if_pos hpayable]
    exact lt_min hpositive hpayable
  have hrest : 0 ≤ unallocated - applied := by
    rw [happlied, appliedTo, if_pos hpayable]
    exact sub_nonneg.mpr (min_le_left _ _)
  have hrestGrid : OnGrid 2 (unallocated - applied) :=
    happlied ▸ hgrid.sub (onGrid_appliedTo hgrid)
  rw [← happlied] at honly hsurplus ⊢
  obtain ⟨funded, hfunded⟩ : ∃ d, d = (applyPaymentAllocation db payment target applied).1 :=
    ⟨_, rfl⟩
  have hkept := applyPaymentAllocation_kept db payment target applied
  rw [← hfunded] at honly hsurplus hkept ⊢
  have hmoved : movedTables now db payment accountId target unallocated
      = (recordCredit (finalizeInvoicePaymentEffects now funded target.id) accountId
        (unallocated - applied) (paymentCurrency payment) .payment (some payment.id)).1 := by
    rw [movedTables, ← happlied, fundedTables, if_pos happlied_pos, ← hfunded]
  obtain ⟨hallocations, hpayments, htaxRates, hinvoices⟩ :=
    recordCredit_kept (finalizeInvoicePaymentEffects now funded target.id) accountId
      (unallocated - applied) (paymentCurrency payment) .payment (some payment.id)
  have honly' := (honly.finalize now target.id).recordCredit accountId (unallocated - applied)
    (paymentCurrency payment)
  have hentries : entriesOn (recordCredit (finalizeInvoicePaymentEffects now funded target.id)
      accountId (unallocated - applied) (paymentCurrency payment) .payment (some payment.id)).1
      payment.id target.id = entriesOn funded payment.id target.id := entriesOn_recordCredit
  have hsurplus' : surplusCredit (recordCredit (finalizeInvoicePaymentEffects now funded target.id)
      accountId (unallocated - applied) (paymentCurrency payment) .payment (some payment.id)).1
      payment.id = surplusCredit funded payment.id + (unallocated - applied) :=
    surplusCredit_recordCredit hrestGrid hrest
  rw [← hmoved] at hallocations hpayments htaxRates hinvoices honly' hentries hsurplus'
  obtain ⟨later, hlater⟩ : ∃ r, r = recalculateInvoiceTotals now funded target := ⟨_, rfl⟩
  have hid : later.id = target.id := hlater ▸ recalculateInvoiceTotals_id now funded target
  have hget : (movedTables now db payment accountId target unallocated).invoices.get? target.id
      = some later := by
    rw [hinvoices, hlater]
    exact Table.get?_update_self (h := recalculateInvoiceTotals_id now funded)
      (hkept.2.2 ▸ hinvoice)
  have hguard' := reallocationTarget_later hguard (hpayments.trans hkept.1) hget
    (hlater ▸ htakes.recalculate) hid (.inl ⟨a, by
      rw [honly'.allocations]
      exact List.mem_singleton_self a, honly'.invoice a rfl⟩)
  have hstable : ∀ now', recalculateInvoiceTotals now'
      (movedTables now db payment accountId target unallocated) later = later := by
    intro now'
    have hcongr : recalculateInvoiceTotals now'
        (movedTables now db payment accountId target unallocated) later
        = recalculateInvoiceTotals now' funded later := by
      refine recalculateInvoiceTotals_congr htaxRates (settledAllocations_congr hpayments ?_)
      rw [hallocations]
      rfl
    rw [hcongr, hlater]
    exact recalculateInvoiceTotals_recalculate htakes.status
  rw [← hid] at honly' hguard'
  have hmovedIff := moved_iff honly' hguard' hbilling fun _ _ => ⟨⟨a, rfl, hlinked⟩, hstable⟩
  rw [hid, hentries, hsurplus', hsurplus] at hmovedIff
  rw [hmovedIff, balanceAfter, ← hfunded, ← hlater]
  simp only [Option.mem_some_iff, forall_eq', amountOn, Option.map_some, Option.getD_some]

/-- Without money for the target, what is not allocated becomes a surplus once more, and again
whenever the move is repeated. -/
lemma not_moved_unfunded (h : OnlyOn db payment.id target.id on)
    (hguard : reallocationTarget db payment.id target.id = .ok (payment, accountId, target))
    (hbilling : payment.billingAccountId = none)
    (hpositive : 0 < payment.amount.value - amountOn on) (hpayable : target.balanceDue.value ≤ 0) :
    ¬Moved (movedTables now db payment accountId target (payment.amount.value - amountOn on)) payment
      target.id := by
  obtain ⟨hmovable, hinvoice, htakes, hdue⟩ := reallocationTarget_eq_ok.mp hguard
  have hgrid : OnGrid 2 (payment.amount.value - amountOn on) :=
    payment.amount.onGrid.sub onGrid_amountOn
  have hmoved : movedTables now db payment accountId target (payment.amount.value - amountOn on)
      = (recordCredit db accountId (payment.amount.value - amountOn on) (paymentCurrency payment)
        .payment (some payment.id)).1 := by
    rw [movedTables, appliedTo, if_neg (not_lt.mpr hpayable), fundedTables, if_neg (lt_irrefl _),
      sub_zero]
  obtain ⟨hallocations, hpayments, -, hinvoices⟩ :=
    recordCredit_kept db accountId (payment.amount.value - amountOn on) (paymentCurrency payment)
      .payment (some payment.id)
  have honly := h.recordCredit accountId (payment.amount.value - amountOn on)
    (paymentCurrency payment)
  rw [← hmoved] at hallocations hpayments hinvoices honly
  have hguard' := reallocationTarget_later hguard hpayments (hinvoices ▸ hinvoice) htakes rfl (by
    rw [roundMoney_value] at hdue
    rw [activeAllocations, hallocations]
    exact hdue)
  rintro ⟨-, -, hagain⟩
  have := (honly.again hguard' hbilling).symm.trans (hagain 0)
  rw [if_neg (not_le.mpr hpositive)] at this
  exact movedTables_ne hgrid hpositive (hpayable.trans_lt hpositive) (Except.ok.inj this)

section Funded

variable {released : BillingTables} (honly : OnlyOn released payment.id target.id on)
  (hbacked : Backed released payment.id target.id on)
  (hguard : reallocationTarget released payment.id target.id = .ok (payment, accountId, target))
  (hbilling : payment.billingAccountId = none) (hpositive : 0 < payment.amount.value - amountOn on)
  (hpayable : 0 < target.balanceDue.value)
  (hon : on = findPaymentAllocation db payment.id target.id true)
  (hsurplus : surplusCredit released payment.id = surplusCredit db payment.id)
  (hbalance : ∀ x, balanceAfter now released payment target x
    = balanceAfter now db payment target x)

include honly hbacked hguard hbilling hpositive hpayable hon hsurplus hbalance

/-- A payment that was not on the target: its surplus would be given away a second time. -/
lemma movesExactly_none_iff (hnone : on = none) :
    Moved (movedTables now released payment accountId target (payment.amount.value - amountOn on))
        payment target.id
      ↔ MovesExactly now db payment target := by
  subst hnone
  have hgrid : OnGrid 2 (payment.amount.value - amountOn none) :=
    payment.amount.onGrid.sub onGrid_amountOn
  have happlied : appliedTo target (payment.amount.value - amountOn none)
      = min payment.amount.value target.balanceDue.value := by
    rw [appliedTo, if_pos hpayable, amountOn, Option.map_none, Option.getD_none, sub_zero]
  obtain ⟨a, hposted, hentries, -⟩ := applyPaymentAllocation_new
    (appliedTo target (payment.amount.value - amountOn none)) honly (List.map_eq_nil_iff.mp hbacked)
  have hamount : a.amount.value = min payment.amount.value target.balanceDue.value := by
    rw [hposted.amount, roundMoney_of_onGrid (onGrid_appliedTo hgrid), Numeric.value_store,
      quantize_of_onGrid (onGrid_appliedTo hgrid), happlied]
  have hzero : ¬payment.amount.value ≤ 0 := by
    simpa [amountOn] using hpositive
  rw [moved_funded_iff hguard hbilling hgrid hpositive hpayable hposted.onlyOn hposted.linked
    hposted.surplus, sum_entriesOn hentries, hentries, happlied, hsurplus, hbalance, MovesExactly,
    ← hon]
  simp only [amountOn, Option.map_none, Option.getD_none, sub_zero, List.map_singleton,
    List.sum_singleton, hamount, true_and, hzero, false_or]
  refine and_congr ⟨fun h => by linarith, fun h => by linarith⟩ ?_
  rcases le_total payment.amount.value target.balanceDue.value with hle | hle
  · rw [min_eq_left hle]
    exact iff_of_true (.inl (sub_self _).le) (.inl hle)
  · rw [min_eq_right hle, sub_nonpos]

/-- A payment that is on the target already: only a surplus that the target owes stays one. -/
lemma movesExactly_some_iff (hsome : on = some a) :
    Moved (movedTables now released payment accountId target (payment.amount.value - amountOn on))
        payment target.id
      ↔ MovesExactly now db payment target := by
  subst hsome
  have hgrid : OnGrid 2 (payment.amount.value - amountOn (some a)) :=
    payment.amount.onGrid.sub onGrid_amountOn
  obtain ⟨applied, happ⟩ : ∃ x, x = appliedTo target (payment.amount.value - amountOn (some a)) :=
    ⟨_, rfl⟩
  have happliedGrid : OnGrid 2 applied := happ ▸ onGrid_appliedTo hgrid
  have happlied : applied = min (payment.amount.value - a.amount.value) target.balanceDue.value := by
    rw [happ, appliedTo, if_pos hpayable, amountOn, Option.map_some, Option.getD_some]
  have hzero : ¬payment.amount.value - a.amount.value ≤ 0 := by
    simpa [amountOn] using hpositive
  have hfound := honly.found
  rw [MovesExactly, ← hon]
  cases hlink : a.ledgerEntryId with
  | some entryId =>
    have hsome : a.ledgerEntryId.isSome := by rw [hlink]; rfl
    have happly := applyPaymentAllocation_posted applied hfound hsome
    rw [moved_funded_iff hguard hbilling hgrid hpositive hpayable (a := a)
      (by rw [← happ, happly]; exact honly) hsome (by rw [← happ, happly]), ← happ, happly,
      hbacked.sum, hbalance, hsurplus]
    simp only [amountOn, Option.map_some, Option.getD_some, hzero, false_or, hsome, true_or,
      true_and, hpayable]
    have hentries : (entriesOn released payment.id target.id).map (·.amount) = [a.amount] := hbacked
    simp only [hentries, true_and, ← happlied]
    constructor
    · rintro ⟨hsum, hdue⟩
      have : applied = surplusCredit db payment.id := by linarith
      exact ⟨this, this ▸ hdue⟩
    · rintro ⟨hsum, hdue⟩
      exact ⟨by linarith, hsum ▸ hdue⟩
  | none =>
    have hne : entriesOn released payment.id target.id ≠ [] := by
      intro hnil
      rw [Backed, hnil] at hbacked
      cases hbacked
    obtain ⟨b, hposted, hledger⟩ := applyPaymentAllocation_intent applied honly hlink hne
    have hamount : b.amount = .store 2 applied := by
      rw [hposted.amount, roundMoney_of_onGrid happliedGrid]
    have hvalue : b.amount.value = applied := by
      rw [hamount, Numeric.value_store, quantize_of_onGrid happliedGrid]
    have hentries : entriesOn (applyPaymentAllocation released payment target applied).1 payment.id
        target.id = entriesOn released payment.id target.id := by
      rw [entriesOn, hledger, entriesOn]
    have hback : (entriesOn released payment.id target.id).map (·.amount) = [a.amount] := hbacked
    rw [moved_funded_iff hguard hbilling hgrid hpositive hpayable (a := b)
      (by rw [← happ]; exact hposted.onlyOn) hposted.linked (by rw [← happ]; exact hposted.surplus),
      ← happ, hentries, hbacked.sum, hbalance, hsurplus, hback, hvalue]
    simp only [amountOn, Option.map_some, Option.getD_some, hzero, false_or, hlink,
      Option.isSome_none, Bool.false_eq_true, hpayable, true_and, ← happlied, List.cons.injEq,
      and_true]
    have hsame : a.amount = b.amount ↔ a.amount.value = applied := by
      rw [← hvalue]
      exact ⟨fun h => congrArg _ h, fun h => Numeric.ext h⟩
    rw [hsame]
    constructor
    · rintro ⟨hsum, hmatch, hdue⟩
      have hsurplusEq : applied = surplusCredit db payment.id := by linarith
      refine ⟨hsurplusEq, hmatch.trans hsurplusEq, ?_⟩
      rw [← hsurplusEq, hmatch]
      refine hdue.resolve_left ?_
      rwa [← hmatch]
    · rintro ⟨hsurplusEq, hmatch, hdue⟩
      have hvalueEq : a.amount.value = applied := hmatch.trans hsurplusEq.symm
      refine ⟨by linarith, hvalueEq, .inr ?_⟩
      rw [← hvalueEq, hvalueEq, hsurplusEq]
      rwa [hmatch] at hdue

end Funded

/-- **A move keeps the money of a payment together exactly when** it is one of `MovesExactly`. -/
theorem reallocate_moved_iff (hcredited : Credited db payment)
    (hguard : reallocationTarget db payment.id target.id = .ok (payment, accountId, target))
    (hbilling : payment.billingAccountId = none) :
    (∃ db', reallocate now db payment.id target.id = .ok db' ∧ Moved db' payment target.id)
      ↔ MovesExactly now db payment target := by
  obtain ⟨hmovable, hinvoice, htakes, hdue⟩ := reallocationTarget_eq_ok.mp hguard
  obtain ⟨released, hr⟩ : ∃ r, r = releaseElsewhere now db payment.id target.id := ⟨_, rfl⟩
  have honly := hcredited.onlyOn now target.id
  have hbacked := hcredited.backed now target
  have hsurplus := surplusCredit_releaseElsewhere now db payment target.id
  have hle := hcredited.le target.id
  rw [← entriesOn_releaseElsewhere now] at hle
  have hnonneg := hcredited.surplus_nonneg
  have hbalance : ∀ x, balanceAfter now released payment target x
      = balanceAfter now db payment target x := by
    intro x
    rw [balanceAfter, balanceAfter, hr]
    congr 2
    have htaxRates : (releaseElsewhere now db payment.id target.id).taxRates = db.taxRates :=
      foldl_finalize_kept.2.2.2
    refine recalculateInvoiceTotals_congr ?_ settledAllocations_apply
    exact (applyPaymentAllocation_kept _ _ _ _).2.1.trans
      (htaxRates.trans (applyPaymentAllocation_kept _ _ _ _).2.1.symm)
  have hpayments : released.payments = db.payments := hr ▸ foldl_finalize_kept.2.2.1
  have hget : released.invoices.get? target.id = some target := by
    rw [hr, releaseElsewhere, get?_foldl_finalize targetId_notMem_releasedInvoices]
    exact hinvoice
  rw [← hr] at honly hbacked hsurplus hle
  have hguard' : reallocationTarget released payment.id target.id
      = .ok (payment, accountId, target) := by
    refine reallocationTarget_later hguard hpayments hget htakes rfl ?_
    rw [roundMoney_value] at hdue
    refine hdue.imp_left ?_
    rintro ⟨a, ha, hi⟩
    obtain ⟨hrow, hactive⟩ := List.mem_filter.mp ha
    obtain ⟨hp, hactive⟩ := of_decide_eq_true hactive
    have hsome : (findPaymentAllocation db payment.id target.id true).isSome :=
      List.find?_isSome.mpr ⟨a, hrow, decide_eq_true ⟨hp, hi, hactive⟩⟩
    obtain ⟨b, hb⟩ := Option.isSome_iff_exists.mp hsome
    refine ⟨b, ?_, honly.invoice b hb⟩
    rw [honly.allocations, hb]
    exact List.mem_singleton_self b
  obtain ⟨on, hon⟩ : ∃ on, on = findPaymentAllocation db payment.id target.id true := ⟨_, rfl⟩
  rw [← hon] at honly hbacked
  have hresult : reallocate now db payment.id target.id
      = .ok (if payment.amount.value - amountOn on ≤ 0 then released
        else movedTables now released payment accountId target
          (payment.amount.value - amountOn on)) := by
    rw [reallocate, hguard, ok_bind]
    dsimp only
    rw [← hr, hget, orRefuse_some, ok_bind, fundTarget_eq honly hbilling]
  have hgrid : OnGrid 2 (payment.amount.value - amountOn on) :=
    payment.amount.onGrid.sub onGrid_amountOn
  rw [hbacked.sum] at hle
  rw [hresult]
  simp only [Except.ok.injEq, exists_eq_left']
  split_ifs with hzero
  · -- nothing is unallocated: the release has moved everything
    have hmoved : Moved released payment target.id := by
      refine (moved_iff honly hguard' hbilling fun _ h => absurd hzero (not_le.mpr h)).mpr
        ⟨?_, ?_, .inl hzero⟩
      · rw [hbacked.sum, hsurplus]
        linarith
      · rintro a rfl
        exact hbacked
    refine iff_of_true hmoved ?_
    rw [MovesExactly, ← hon]
    cases on with
    | none => exact .inl (by simpa [amountOn] using hzero)
    | some a => exact .inl (by simpa [amountOn] using hzero)
  have hpositive := not_le.mp hzero
  by_cases hpayable : 0 < target.balanceDue.value
  · cases on with
    | none =>
      exact movesExactly_none_iff honly hbacked hguard' hbilling hpositive hpayable hon hsurplus
        hbalance rfl
    | some a =>
      exact movesExactly_some_iff honly hbacked hguard' hbilling hpositive hpayable hon hsurplus
        hbalance rfl
  · refine iff_of_false
      (not_moved_unfunded honly hguard' hbilling hpositive (not_lt.mp hpayable)) ?_
    rw [MovesExactly, ← hon]
    cases on with
    | none =>
      -- a target without the payment must owe something
      obtain ⟨a, ha, -⟩ | hdue := (reallocationTarget_eq_ok.mp hguard').2.2.2
      · rw [honly.allocations] at ha
        exact absurd ha List.not_mem_nil
      · rw [roundMoney_value] at hdue
        exact absurd hdue hpayable
    | some a =>
      rintro (h | h)
      · exact hzero (by simpa [amountOn] using h)
      · exact hpayable h.1

end Main

/-- An invoice without lines, with what is still owed on it. -/
def openInvoice (total balanceDue : ℚ) (id : ℕ) : Invoice where
  id
  accountId := 7
  status := if balanceDue ≤ 0 then .paid else .issued
  currency := "NGN"
  subtotal := .store 2 total
  discountAmount := .store 2 0
  taxTotal := .store 2 0
  total := .store 2 total
  balanceDue := .store 2 balanceDue
  dueAt := none
  paidAt := none
  isProforma := false
  isActive := true
  createdAt := 0
  lines := []
  creditNoteApplications := []
  openingFundingConsumptions := []

/-- A succeeded payment without settlement evidence. -/
def legacyPayment : Payment where
  id := 0
  accountId := some 7
  billingAccountId := none
  providerId := none
  amount := .store 2 100
  amount_lt := store_hundred_lt
  refundedAmount := .store 2 0
  currency := "NGN"
  status := .succeeded
  paidAt := some 0
  autoAllocateOnSettlement := false
  splynxPaymentId := none
  isActive := true
  createdAt := 0
  settlement := none
  refunds := []
  reversed := false
  renewalOutcomes := []

/-- The payment with `allocated` of it on invoice 0 and the rest unallocated, beside an invoice 1 on
which `owed` is owed. -/
def legacyTables (allocated surplus owed : ℚ) : BillingTables where
  invoices := (Table.empty.insert (openInvoice allocated 0) fun _ => rfl).insert
    (openInvoice owed owed) fun _ => rfl
  payments := Table.empty.insert (fun i => { legacyPayment with id := i }) fun _ => rfl
  allocations := Table.empty.insert
    (newAllocation legacyPayment (openInvoice allocated 0 0) allocated 0) fun _ => rfl
  ledgerEntries := (Table.empty.insert
    (paymentEntry legacyPayment (openInvoice allocated 0 0) allocated) fun _ => rfl).insert
      (creditEntry 7 surplus "NGN" .payment (some 0)) fun _ => rfl
  idempotencyKeys := []
  providerEvents := []
  taxRates := []

lemma credited_legacyTables_surplus : Credited (legacyTables 60 40 100) legacyPayment where
  pairs := by decide +kernel
  credit := by decide +kernel
  nonneg := by decide +kernel
  allocated := by decide +kernel
  covered := by decide +kernel
  total := by decide +kernel

lemma credited_legacyTables (owed : ℚ) : Credited (legacyTables 100 0 owed) legacyPayment := by
  have h : Credited (legacyTables 100 0 0) legacyPayment :=
    ⟨by decide +kernel, by decide +kernel, by decide +kernel, by decide +kernel, by decide +kernel,
      by decide +kernel⟩
  exact ⟨h.pairs, h.credit, h.nonneg, h.allocated, h.covered, h.total⟩

/-- All of the payment is moved to an invoice on which a hundred is owed. -/
theorem reallocate_moved_iff_legacyTables :
    ∃ db, reallocate 0 (legacyTables 100 0 100) 0 1 = .ok db ∧ Moved db legacyPayment 1 := by
  have hguard : reallocationTarget (legacyTables 100 0 100) 0 1
      = .ok (legacyPayment, 7, openInvoice 100 100 1) :=
    reallocationTarget_eq_ok.mpr ⟨⟨by decide +kernel, ⟨rfl, rfl⟩, rfl, rfl, rfl, rfl⟩,
      by decide +kernel, ⟨rfl, rfl, .inr rfl, by decide +kernel⟩, .inr (by decide +kernel)⟩
  have hiff : _ ↔ MovesExactly 0 (legacyTables 100 0 100) legacyPayment (openInvoice 100 100 1) :=
    reallocate_moved_iff (credited_legacyTables 100) hguard rfl
  refine hiff.mpr ?_
  have hfound : findPaymentAllocation (legacyTables 100 0 100) legacyPayment.id
      (openInvoice 100 100 1).id true = none := by decide +kernel
  rw [MovesExactly, hfound]
  exact .inr ⟨by decide +kernel, .inl (by decide +kernel)⟩

/-- **Moving a payment mints credit**: an unallocated surplus of forty is given to the invoice and
kept as well; and a surplus that is left over is recorded again when the move is repeated. -/
theorem reallocate_mints :
    (Credited (legacyTables 60 40 100) legacyPayment ∧
      ∃ db, reallocate 0 (legacyTables 60 40 100) 0 1 = .ok db ∧ paymentCreditTotal db 0 = 140) ∧
    (Credited (legacyTables 100 0 40) legacyPayment ∧
      ∃ db, reallocate 0 (legacyTables 100 0 40) 0 1 = .ok db ∧ paymentCreditTotal db 0 = 100 ∧
        ∃ db', reallocate 0 db 0 1 = .ok db' ∧ paymentCreditTotal db' 0 = 160) := by
  refine ⟨⟨credited_legacyTables_surplus, ?_⟩, credited_legacyTables 40, ?_⟩
  · decide +kernel
  · decide +kernel

end Payments

end DotmacSub
