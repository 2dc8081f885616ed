import DotmacSub.Billing.Common

/-!
# Recalculated invoices

What `_recalculate_invoice_totals` of `services/billing/_common.py` does to an invoice that takes
payments, and what it keeps.
-/

namespace DotmacSub

open Store Checked Decimal

namespace Payments

section Recalculate

variable {now now' : ℤ} {db db' : BillingTables} {invoice : Invoice}

lemma settledAllocations_congr {i : ℕ} (hpayments : db.payments = db'.payments)
    (h : db.allocations.rows.filter (fun a => a.invoiceId = i ∧ a.isActive)
      = db'.allocations.rows.filter fun a => a.invoiceId = i ∧ a.isActive) :
    settledAllocations db i = settledAllocations db' i := by
  have hform : ∀ db : BillingTables, settledAllocations db i
      = (db.allocations.rows.filter fun a => a.invoiceId = i ∧ a.isActive).filterMap fun a =>
          (db.payments.get? a.paymentId).bind fun p =>
            if p.isActive ∧ (p.status = .succeeded ∨ p.status = .partiallyRefunded) then some (a, p)
            else none := by
    intro db
    rw [settledAllocations, List.filterMap_filter]
    congr 1
    funext a
    simp only [decide_eq_true_eq]
  rw [hform, hform, hpayments, h]

lemma recalculateInvoiceTotals_congr (htax : db.taxRates = db'.taxRates)
    (hsettled : settledAllocations db invoice.id = settledAllocations db' invoice.id) :
    recalculateInvoiceTotals now db invoice = recalculateInvoiceTotals now db' invoice := by
  simp only [recalculateInvoiceTotals, totalApplied, htax, hsettled]

variable (now db invoice) in
lemma recalculateInvoiceTotals_kept :
    (recalculateInvoiceTotals now db invoice).isActive = invoice.isActive ∧
      (recalculateInvoiceTotals now db invoice).accountId = invoice.accountId ∧
      (recalculateInvoiceTotals now db invoice).currency = invoice.currency := by
  rw [recalculateInvoiceTotals]
  dsimp only
  split_ifs <;> exact ⟨rfl, rfl, rfl⟩

/-- The statuses in which an invoice takes payments. -/
def IsAllocatable (status : InvoiceStatus) : Prop :=
  status ≠ .void ∧ status ≠ .writtenOff ∧ status ≠ .draft

instance (status : InvoiceStatus) : Decidable (IsAllocatable status) :=
  inferInstanceAs (Decidable (_ ∧ _ ∧ _))

variable (now db) in
lemma isAllocatable_recalculate (h : IsAllocatable invoice.status) :
    IsAllocatable (recalculateInvoiceTotals now db invoice).status := by
  obtain ⟨hvoid, hwritten, hdraft⟩ := h
  have hterminal : ¬(invoice.status = .void ∨ invoice.status = .writtenOff) := by
    rintro (h | h)
    · exact hvoid h
    · exact hwritten h
  rw [recalculateInvoiceTotals]
  dsimp only
  rw [if_neg hterminal, if_neg hdraft]
  dsimp only
  rw [settledStatus, IsAllocatable]
  split_ifs
  · decide
  · decide
  · split
    · split_ifs <;> decide
    · decide
  · exact ⟨hvoid, hwritten, hdraft⟩

variable (now db invoice) in
lemma recalculateInvoiceTotals_fields :
    let totals := invoiceTotals db.taxRates invoice
    let recalculated := recalculateInvoiceTotals now db invoice
    recalculated.subtotal = .store 2 totals.1 ∧ recalculated.taxTotal = .store 2 totals.2.1 ∧
      recalculated.total = .store 2 totals.2.2 ∧ recalculated.lines = invoice.lines ∧
      recalculated.discountAmount = invoice.discountAmount ∧
      recalculated.creditNoteApplications = invoice.creditNoteApplications ∧
      recalculated.openingFundingConsumptions = invoice.openingFundingConsumptions ∧
      recalculated.dueAt = invoice.dueAt := by
  rw [recalculateInvoiceTotals]
  dsimp only
  split_ifs <;> exact ⟨rfl, rfl, rfl, rfl, rfl, rfl, rfl, rfl⟩

variable (now db invoice) in
lemma invoiceTotals_recalculate :
    invoiceTotals db.taxRates (recalculateInvoiceTotals now db invoice)
      = invoiceTotals db.taxRates invoice := by
  obtain ⟨hsubtotal, htax, htotal, hlines, hdiscount, -⟩ :=
    recalculateInvoiceTotals_fields now db invoice
  obtain ⟨recalculated, hr⟩ : ∃ r, r = recalculateInvoiceTotals now db invoice := ⟨_, rfl⟩
  rw [← hr] at hsubtotal htax htotal hlines hdiscount ⊢
  by_cases hempty : invoice.lines = []
  · -- without lines the stored amounts stand
    rw [invoiceTotals, hempty] at hsubtotal htax htotal
    rw [invoiceTotals, invoiceTotals, hlines, hempty, hdiscount]
    simp only [List.filter_nil, if_true, Numeric.store_value] at hsubtotal htax htotal ⊢
    rw [hsubtotal, htax, htotal]
    split_ifs with hpositive
    · rfl
    · rw [Numeric.store_value]
  · rw [invoiceTotals, invoiceTotals, hlines, hdiscount]
    simp only [hempty, if_false]

variable (now db) in
lemma recalculateInvoiceTotals_of_allocatable (h : IsAllocatable invoice.status) :
    recalculateInvoiceTotals now db invoice
      = let totals := invoiceTotals db.taxRates invoice
        let applied := totalApplied db invoice
        let balanceDue := max 0 (roundMoney (totals.2.2 - applied))
        { invoice with
          subtotal := .store 2 totals.1
          taxTotal := .store 2 totals.2.1
          total := .store 2 totals.2.2
          balanceDue := .store 2 balanceDue
          status := settledStatus now invoice balanceDue applied
          paidAt := settledPaidAt now invoice balanceDue applied } := by
  have hterminal : ¬(invoice.status = .void ∨ invoice.status = .writtenOff) := by
    rintro (hs | hs)
    · exact h.1 hs
    · exact h.2.1 hs
  rw [recalculateInvoiceTotals]
  dsimp only
  rw [if_neg hterminal, if_neg h.2.2]

lemma not_paid_of_fallen {status : InvoiceStatus} {dueAt : Option ℤ}
    (h : status = match dueAt with
      | some dueAt => if dueAt < now then .overdue else .issued
      | none => .issued) : ¬(status = .paid ∨ status = .partiallyPaid) := by
  rw [h]
  split
  · split_ifs <;> decide
  · decide

lemma settledStatus_again {later : Invoice} {balanceDue applied : ℚ}
    (h : later.status = settledStatus now invoice balanceDue applied) :
    settledStatus now' later balanceDue applied = later.status := by
  rw [settledStatus] at h ⊢
  split_ifs at h ⊢ with hpaid hpartial hlater hwas hwas
  · exact h.symm
  · exact h.symm
  · exact absurd hlater (not_paid_of_fallen h)
  · exact absurd (h ▸ hlater) hwas
  · rfl
  · rfl

lemma settledPaidAt_again {later : Invoice} {balanceDue applied : ℚ}
    (h : later.status = settledStatus now invoice balanceDue applied)
    (hpaidAt : later.paidAt = settledPaidAt now invoice balanceDue applied) :
    settledPaidAt now' later balanceDue applied = later.paidAt := by
  rw [settledStatus] at h
  rw [settledPaidAt] at hpaidAt ⊢
  split_ifs at h hpaidAt ⊢ with hpaid hpartial hlater hwas hwas
  · rw [hpaidAt]
    rfl
  · rfl
  · exact hpaidAt.symm
  · exact absurd (h ▸ hlater) hwas
  · rfl
  · rfl

/-- **Recalculating again changes nothing**, whenever it happens. -/
theorem recalculateInvoiceTotals_recalculate (h : IsAllocatable invoice.status) :
    recalculateInvoiceTotals now' db (recalculateInvoiceTotals now db invoice)
      = recalculateInvoiceTotals now db invoice := by
  have hform := recalculateInvoiceTotals_of_allocatable now db h
  have hlater := isAllocatable_recalculate now db h
  have htotals := invoiceTotals_recalculate now db invoice
  obtain ⟨later, hl⟩ : ∃ later, later = recalculateInvoiceTotals now db invoice := ⟨_, rfl⟩
  rw [← hl] at hform hlater htotals ⊢
  have happlied : totalApplied db later = totalApplied db invoice := by
    rw [hform]
    rfl
  obtain ⟨b, hb⟩ : ∃ b, b = max 0
    (roundMoney ((invoiceTotals db.taxRates invoice).2.2 - totalApplied db invoice)) := ⟨_, rfl⟩
  dsimp only at hform
  rw [← hb] at hform
  have hstatus : later.status = settledStatus now invoice b (totalApplied db invoice) := by
    rw [hform]
  have hpaidAt : later.paidAt = settledPaidAt now invoice b (totalApplied db invoice) := by
    rw [hform]
  rw [recalculateInvoiceTotals_of_allocatable now' db hlater, htotals, happlied]
  dsimp only
  rw [← hb, settledStatus_again hstatus, settledPaidAt_again hstatus hpaidAt]
  -- the stored amounts are those of the first time
  conv_rhs => rw [hform]
  conv_lhs => rw [hform]

end Recalculate

variable {db : BillingTables} {invoice : Invoice}

lemma onGrid_foldl_addLine (taxRates : List TaxRate) (lines : List InvoiceLine) (sums : ℚ × ℚ)
    (hsums : OnGrid 2 sums.1 ∧ OnGrid 2 sums.2) :
    OnGrid 2 (lines.foldl (addLine taxRates) sums).1 ∧
      OnGrid 2 (lines.foldl (addLine taxRates) sums).2 := by
  induction lines generalizing sums with
  | nil => exact hsums
  | cons line lines ih =>
    refine ih _ ?_
    have hamount := hsums.1.add line.amount.onGrid
    unfold addLine
    dsimp only
    split
    · exact ⟨hamount, hsums.2⟩
    next rate _ =>
      have htax := onGrid_calculateTaxAmount line.amount.value rate.rate.value
      split
      · exact ⟨hsums.1.add (onGrid_roundMoney _), hsums.2.add (htax _)⟩
      · exact ⟨hamount, hsums.2⟩
      · exact ⟨hamount, hsums.2.add (htax _)⟩

structure TotalsAgree (invoice : Invoice) (subtotal tax total : ℚ) : Prop where
  onGrid : OnGrid 2 subtotal ∧ OnGrid 2 tax ∧ OnGrid 2 total
  active : invoice.lines.filter (·.isActive) ≠ [] →
    total = max 0 (subtotal - invoice.discountAmount.value) + tax
  inactive : invoice.lines.filter (·.isActive) = [] → invoice.lines ≠ [] →
    subtotal = 0 ∧ tax = 0 ∧ total = 0
  lineless : invoice.lines = [] → subtotal = invoice.subtotal.value ∧ tax = invoice.taxTotal.value ∧
    total = if 0 < invoice.discountAmount.value
      then max 0 (subtotal - invoice.discountAmount.value) + tax else invoice.total.value

lemma totalsAgree (taxRates : List TaxRate) (invoice : Invoice) : TotalsAgree invoice
    (invoiceTotals taxRates invoice).1 (invoiceTotals taxRates invoice).2.1
    (invoiceTotals taxRates invoice).2.2 := by
  have hround : ∀ {subtotal tax : ℚ}, OnGrid 2 subtotal → OnGrid 2 tax →
      roundMoney (max 0 (subtotal - invoice.discountAmount.value) + tax) =
        max 0 (subtotal - invoice.discountAmount.value) + tax := fun hsubtotal htax =>
    roundMoney_of_onGrid
      ((onGrid_zero.max (hsubtotal.sub invoice.discountAmount.onGrid)).add htax)
  by_cases hactive : invoice.lines.filter (·.isActive) = []
  · by_cases hlines : invoice.lines = []
    · have hstored := hround invoice.subtotal.onGrid invoice.taxTotal.onGrid
      simp only [invoiceTotals, if_pos hactive, if_pos hlines]
      refine ⟨⟨invoice.subtotal.onGrid, invoice.taxTotal.onGrid, ?_⟩, fun h => absurd hactive h,
        fun _ h => absurd hlines h, fun _ => ⟨rfl, rfl, ?_⟩⟩
      · split_ifs
        · exact onGrid_roundMoney _
        · exact invoice.total.onGrid
      · rw [hstored]
    · simp only [invoiceTotals, if_pos hactive, if_neg hlines]
      exact ⟨⟨onGrid_zero, onGrid_zero, onGrid_zero⟩, fun h => absurd hactive h,
        fun _ _ => ⟨rfl, rfl, rfl⟩, fun h => absurd h hlines⟩
  · obtain ⟨hsubtotal, hsum⟩ := onGrid_foldl_addLine taxRates
      (invoice.lines.filter (·.isActive)) (0, 0) ⟨onGrid_zero, onGrid_zero⟩
    simp only [invoiceTotals, if_neg hactive]
    refine ⟨⟨hsubtotal, ?_, onGrid_roundMoney _⟩, fun _ => hround hsubtotal ?_,
      fun h => absurd h hactive, fun h => absurd (by rw [h]; rfl) hactive⟩ <;>
    · split_ifs
      · exact onGrid_roundMoney _
      · exact hsum

lemma onGrid_totalApplied (db : BillingTables) (invoice : Invoice) :
    OnGrid 2 (totalApplied db invoice) := by
  have hsum : ∀ l : List Money, OnGrid 2 (l.map (·.value)).sum := fun l =>
    OnGrid.list_sum fun x hx => by
      obtain ⟨money, -, rfl⟩ := List.mem_map.mp hx
      exact money.onGrid
  exact ((onGrid_roundMoney _).add (hsum _)).add (hsum _)

lemma settledStatus_eq_paid_iff {now : ℤ} {balanceDue applied : ℚ} :
    settledStatus now invoice balanceDue applied = .paid ↔ balanceDue ≤ 0 := by
  rw [settledStatus]
  split_ifs with hbalance hpartial hwas
  · exact iff_of_true rfl hbalance
  · exact iff_of_false (by decide) hbalance
  · refine iff_of_false (fun h => ?_) hbalance
    exact not_paid_of_fallen rfl (.inl h)
  · exact iff_of_false (fun h => hwas (.inl h)) hbalance

/-- A second recalculation changes nothing, in any status. -/
lemma recalculateInvoiceTotals_twice (now now' : ℤ) (db : BillingTables) (invoice : Invoice) :
    recalculateInvoiceTotals now' db (recalculateInvoiceTotals now db invoice)
      = recalculateInvoiceTotals now db invoice := by
  by_cases hallocatable : IsAllocatable invoice.status
  · exact recalculateInvoiceTotals_recalculate hallocatable
  have htotals := invoiceTotals_recalculate now db invoice
  by_cases hterminal : invoice.status = .void ∨ invoice.status = .writtenOff
  · simp only [recalculateInvoiceTotals, if_pos hterminal] at htotals ⊢
    rw [htotals]
  · have hdraft : invoice.status = .draft := by
      by_contra hdraft
      exact hallocatable ⟨fun h => hterminal (.inl h), fun h => hterminal (.inr h), hdraft⟩
    simp only [recalculateInvoiceTotals, if_neg hterminal, if_pos hdraft] at htotals ⊢
    rw [htotals]
    rfl

/-- **Recalculated totals are consistent and stable**, in every status. -/
theorem recalculateInvoiceTotals_consistent (now : ℤ) (db : BillingTables) (invoice : Invoice) :
    let recalculated := recalculateInvoiceTotals now db invoice
    let terminal := invoice.status = .void ∨ invoice.status = .writtenOff
    (¬terminal → recalculated.balanceDue.value =
      max 0 (recalculated.total.value - totalApplied db invoice)) ∧
    (IsAllocatable invoice.status →
      (recalculated.status = .paid ↔ recalculated.balanceDue.value = 0)) ∧
    (terminal → recalculated.status = invoice.status ∧
      recalculated.balanceDue = invoice.balanceDue) ∧
    TotalsAgree invoice recalculated.subtotal.value recalculated.taxTotal.value
      recalculated.total.value ∧
    ∀ now', recalculateInvoiceTotals now' db recalculated = recalculated := by
  intro recalculated terminal
  obtain ⟨hsubtotal, htax, htotal, -⟩ := recalculateInvoiceTotals_fields now db invoice
  have hagree := totalsAgree db.taxRates invoice
  obtain ⟨hsubtotalGrid, htaxGrid, htotalGrid⟩ := hagree.onGrid
  have hbalanceGrid := htotalGrid.sub (onGrid_totalApplied db invoice)
  have hbalance : ¬terminal → recalculated.balanceDue.value =
      max 0 ((invoiceTotals db.taxRates invoice).2.2 - totalApplied db invoice) := by
    intro hterminal
    have hstored : recalculated.balanceDue = .store 2 (max 0 (roundMoney
        ((invoiceTotals db.taxRates invoice).2.2 - totalApplied db invoice))) := by
      simp only [recalculated, recalculateInvoiceTotals]
      rw [if_neg hterminal]
      split_ifs <;> rfl
    rw [hstored, roundMoney_of_onGrid hbalanceGrid, Numeric.value_store,
      quantize_of_onGrid (onGrid_zero.max hbalanceGrid)]
  refine ⟨fun hterminal => ?_, fun hallocatable => ?_, fun hterminal => ?_, ?_, fun now' => ?_⟩
  · rw [hbalance hterminal, htotal, Numeric.value_store, quantize_of_onGrid htotalGrid]
  · have hterminal : ¬terminal := fun h => h.elim hallocatable.1 hallocatable.2.1
    have hstatus := congrArg Invoice.status
      (recalculateInvoiceTotals_of_allocatable now db hallocatable)
    rw [show recalculated.status = _ from hstatus, settledStatus_eq_paid_iff,
      roundMoney_of_onGrid hbalanceGrid, hbalance hterminal]
    exact ⟨fun h => le_antisymm h (le_max_left _ _), fun h => h.le⟩
  · simp only [recalculated, recalculateInvoiceTotals]
    rw [if_pos hterminal]
    exact ⟨rfl, rfl⟩
  · simp only [recalculated, hsubtotal, htax, htotal, Numeric.value_store,
      quantize_of_onGrid hsubtotalGrid, quantize_of_onGrid htaxGrid, quantize_of_onGrid htotalGrid]
    exact hagree
  · exact recalculateInvoiceTotals_twice now now' db invoice

/-- The check `ck_invoices_discount_current_state` of the table. -/
def DiscountChecked (invoice : Invoice) : Prop :=
  invoice.discountAmount.value = 0 ∨
    0 < invoice.discountAmount.value ∧ invoice.discountAmount.value ≤ invoice.subtotal.value

/-- An invoice from elsewhere, with a total and nothing it is made of. -/
def explicitTotal : Invoice where
  id := 0
  accountId := 0
  status := .issued
  currency := "NGN"
  subtotal := .store 2 0
  discountAmount := .store 2 0
  taxTotal := .store 2 0
  total := .store 2 500
  balanceDue := .store 2 500
  dueAt := none
  paidAt := none
  isProforma := false
  isActive := true
  createdAt := 0
  lines := []
  creditNoteApplications := []
  openingFundingConsumptions := []

/-- **A total may be more than its parts**: without lines and discount it is kept. -/
theorem explicitTotal_kept : ¬ ∀ (now : ℤ) (db : BillingTables) (invoice : Invoice),
    DiscountChecked invoice → (recalculateInvoiceTotals now db invoice).total.value =
      (recalculateInvoiceTotals now db invoice).subtotal.value - invoice.discountAmount.value +
        (recalculateInvoiceTotals now db invoice).taxTotal.value := by
  intro hall
  have h := hall 0 ⟨.empty, .empty, .empty, .empty, [], [], []⟩ explicitTotal
    (.inl (by decide +kernel))
  exact absurd h (by decide +kernel)

end Payments

end DotmacSub
