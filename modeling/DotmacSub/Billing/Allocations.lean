import DotmacSub.Billing.Refunds

/-!
# Payment allocations

How `services/billing/payments.py` gives money of a payment to an invoice: an allocation row, and a
ledger credit of the payment on the invoice.  What no invoice takes becomes account credit.
-/

namespace DotmacSub

open Store Checked Decimal

namespace Payments

/-- `payment.currency or "NGN"`. -/
def paymentCurrency (payment : Payment) : String :=
  if payment.currency = "" then "NGN" else payment.currency

def paymentEntry (payment : Payment) (invoice : Invoice) (amount : ℚ) (id : ℕ) : LedgerEntry where
  id
  accountId := invoice.accountId
  invoiceId := some invoice.id
  paymentId := some payment.id
  entryType := .credit
  source := .payment
  amount := .store 2 (roundMoney amount)
  currency := paymentCurrency payment
  isActive := true
  affectsCustomerPosition := true

lemma id_paymentEntry (payment : Payment) (invoice : Invoice) (amount : ℚ) (i : ℕ) :
    Row.id (paymentEntry payment invoice amount i) = i := rfl

def isPaymentEntry (paymentId : ℕ) (e : LedgerEntry) : Bool :=
  e.paymentId = some paymentId ∧ e.source = .payment ∧ e.isActive

def entriesOn (db : BillingTables) (paymentId invoiceId : ℕ) : List LedgerEntry :=
  db.ledgerEntries.rows.filter fun e => isPaymentEntry paymentId e ∧ e.invoiceId = some invoiceId

/-- Post the credit of a payment on an invoice, unless an active entry stands. -/
def createPaymentLedgerEntry (db : BillingTables) (payment : Payment) (invoice : Invoice)
    (amount : ℚ) : BillingTables × ℕ :=
  match (entriesOn db payment.id invoice.id).head? with
  | some existing => (db, existing.id)
  | none => ({ db with
      ledgerEntries := db.ledgerEntries.insert (paymentEntry payment invoice amount)
        (id_paymentEntry payment invoice amount) }, db.ledgerEntries.next)

def findPaymentAllocation (db : BillingTables) (paymentId invoiceId : ℕ) (active : Bool) :
    Option PaymentAllocation :=
  db.allocations.rows.find? fun a =>
    a.paymentId = paymentId ∧ a.invoiceId = invoiceId ∧ a.isActive = active

def postedAllocation (amount : ℚ) (ledgerEntryId : ℕ) (a : PaymentAllocation) : PaymentAllocation :=
  { a with amount := .store 2 amount, isActive := true, ledgerEntryId := some ledgerEntryId }

lemma id_postedAllocation (amount : ℚ) (ledgerEntryId : ℕ) (a : PaymentAllocation) :
    Row.id (postedAllocation amount ledgerEntryId a) = Row.id a := rfl

def newAllocation (payment : Payment) (invoice : Invoice) (amount : ℚ) (ledgerEntryId : ℕ)
    (id : ℕ) : PaymentAllocation where
  id
  paymentId := payment.id
  invoiceId := invoice.id
  ledgerEntryId := some ledgerEntryId
  consumptionLedgerEntryId := none
  previewFingerprint := none
  amount := .store 2 amount
  isActive := true

lemma id_newAllocation (payment : Payment) (invoice : Invoice) (amount : ℚ) (ledgerEntryId i : ℕ) :
    Row.id (newAllocation payment invoice amount ledgerEntryId i) = i := rfl

def reusedEntry (payment : Payment) (invoice : Invoice) (amount : ℚ) (e : LedgerEntry) :
    LedgerEntry :=
  { e with
    amount := .store 2 amount
    currency := if payment.currency ≠ "" then payment.currency
      else if invoice.currency ≠ "" then invoice.currency else "NGN"
    isActive := true }

lemma id_reusedEntry (payment : Payment) (invoice : Invoice) (amount : ℚ) (e : LedgerEntry) :
    Row.id (reusedEntry payment invoice amount e) = Row.id e := rfl

/-- Create or reuse one allocation of a payment and its ledger entry.  The second component is what
reduces the rest of the payment. -/
def applyPaymentAllocation (db : BillingTables) (payment : Payment) (invoice : Invoice)
    (amount : ℚ) : BillingTables × ℚ :=
  let applied := roundMoney amount
  match findPaymentAllocation db payment.id invoice.id true with
  | some existing =>
    if existing.ledgerEntryId.isSome then (db, 0)
    else
      -- an intent of a pending payment: the money is posted now
      let posted := createPaymentLedgerEntry db payment invoice applied
      ({ posted.1 with
        allocations := db.allocations.update existing.id (postedAllocation applied posted.2)
          (id_postedAllocation applied posted.2) }, applied)
  | none =>
    let posted := createPaymentLedgerEntry db payment invoice applied
    match findPaymentAllocation db payment.id invoice.id false with
    | some inactive => ({ posted.1 with
        ledgerEntries := posted.1.ledgerEntries.update posted.2
          (reusedEntry payment invoice applied) (id_reusedEntry payment invoice applied)
        allocations := db.allocations.update inactive.id (postedAllocation applied posted.2)
          (id_postedAllocation applied posted.2) }, applied)
    | none => ({ posted.1 with
        allocations := db.allocations.insert (newAllocation payment invoice applied posted.2)
          (id_newAllocation payment invoice applied posted.2) }, applied)

def creditEntry (accountId : ℕ) (amount : ℚ) (currency : String) (source : LedgerSource)
    (paymentId : Option ℕ) (id : ℕ) : LedgerEntry where
  id
  accountId
  invoiceId := none
  paymentId
  entryType := .credit
  source
  amount := .store 2 amount
  currency
  isActive := true
  affectsCustomerPosition := true

lemma id_creditEntry (accountId : ℕ) (amount : ℚ) (currency : String) (source : LedgerSource)
    (paymentId : Option ℕ) (i : ℕ) :
    Row.id (creditEntry accountId amount currency source paymentId i) = i := rfl

/-- Bring account credit into existence.  The answer is the entry that was created. -/
def recordCredit (db : BillingTables) (accountId : ℕ) (amount : ℚ) (currency : String)
    (source : LedgerSource) (paymentId : Option ℕ) : BillingTables × Option ℕ :=
  let amount := roundMoney amount
  if amount ≤ 0 then (db, none)
  else ({ db with
    ledgerEntries := db.ledgerEntries.insert
      (creditEntry accountId amount (currencyCode currency) source paymentId)
      (id_creditEntry accountId amount (currencyCode currency) source paymentId) },
    some db.ledgerEntries.next)

/-- The surplus of a payment becomes account credit. -/
def recordUnallocatedPaymentCredit (db : BillingTables) (payment : Payment) (accountId : ℕ)
    (remaining : ℚ) : Except DomainError (BillingTables × Option ℕ) := do
  let remaining := roundMoney remaining
  if remaining ≤ 0 then return (db, none)
  ensure (payment.billingAccountId = none) (.httpException 409
    ("Consolidated credit must be posted by the consolidated payment settlement owner with exact "
      ++ "billing-account ledger evidence"))
  return recordCredit db accountId remaining (paymentCurrency payment) .payment (some payment.id)

def isPaymentCredit (paymentId : ℕ) (e : LedgerEntry) : Bool :=
  isPaymentEntry paymentId e ∧ e.entryType = .credit

def paymentCreditTotal (db : BillingTables) (paymentId : ℕ) : ℚ :=
  ledgerTotal db (isPaymentCredit paymentId)

def surplusCredit (db : BillingTables) (paymentId : ℕ) : ℚ :=
  ledgerTotal db fun e => isPaymentCredit paymentId e ∧ e.invoiceId = none

/-- The money of a payment is on one invoice, by the allocation `on`, or unallocated. -/
structure OnlyOn (db : BillingTables) (paymentId invoiceId : ℕ) (on : Option PaymentAllocation) :
    Prop where
  allocations : activeAllocations db paymentId = on.toList
  invoice : ∀ a ∈ on, a.invoiceId = invoiceId
  credit : ∀ e ∈ db.ledgerEntries.rows, isPaymentEntry paymentId e → e.entryType = .credit
  entries : ∀ e ∈ db.ledgerEntries.rows, isPaymentEntry paymentId e →
    e.invoiceId = none ∨ e.invoiceId = some invoiceId

variable {db db' : BillingTables} {payment : Payment} {invoice : Invoice}
  {paymentId invoiceId accountId : ℕ} {on : Option PaymentAllocation} {a : PaymentAllocation}
  {amount : ℚ} {currency : String} {source : LedgerSource} {p : Option ℕ}

lemma ledgerTotal_eq_sum (p : LedgerEntry → Bool) :
    ledgerTotal db p = ((db.ledgerEntries.rows.filter p).map fun e => e.amount.value).sum := by
  show (db.ledgerEntries.rows.map _).sum = _
  induction db.ledgerEntries.rows with
  | nil => rfl
  | cons e l ih =>
    rw [List.map_cons, List.sum_cons, ih, List.filter_cons]
    split_ifs with he
    · rw [List.map_cons, List.sum_cons]
    · rw [zero_add]

lemma OnlyOn.total (h : OnlyOn db paymentId invoiceId on) :
    paymentCreditTotal db paymentId
      = ((entriesOn db paymentId invoiceId).map fun e => e.amount.value).sum
        + surplusCredit db paymentId := by
  rw [entriesOn, ← ledgerTotal_eq_sum, paymentCreditTotal, surplusCredit]
  simp only [ledgerTotal, Table.total, ← List.sum_map_add]
  congr 1
  refine List.map_congr_left fun e he => ?_
  by_cases hentry : isPaymentEntry paymentId e
  · have hcredit := h.credit e he hentry
    rcases h.entries e he hentry with hinvoice | hinvoice <;>
      simp [isPaymentCredit, hentry, hcredit, hinvoice]
  · simp [isPaymentCredit, hentry]

/-! Finalizing an invoice moves no money. -/

lemma OnlyOn.finalize (h : OnlyOn db paymentId invoiceId on) (now : ℤ) (i : ℕ) :
    OnlyOn (finalizeInvoicePaymentEffects now db i) paymentId invoiceId on :=
  ⟨h.allocations, h.invoice, h.credit, h.entries⟩

/-! Credit without an invoice. -/

lemma rows_recordCredit :
    (recordCredit db accountId amount currency source p).1.ledgerEntries.rows
      = db.ledgerEntries.rows ++ if roundMoney amount ≤ 0 then [] else
          [creditEntry accountId (roundMoney amount) (currencyCode currency) source p
            db.ledgerEntries.next] := by
  rw [recordCredit]
  split_ifs
  · rw [List.append_nil]
  · rfl

variable (accountId amount) in
lemma OnlyOn.recordCredit (h : OnlyOn db paymentId invoiceId on) (currency : String) :
    OnlyOn (recordCredit db accountId amount currency .payment (some paymentId)).1 paymentId
      invoiceId on where
  allocations := by
    rw [Payments.recordCredit]
    split_ifs <;> exact h.allocations
  invoice := h.invoice
  credit := by
    intro e he hentry
    rw [rows_recordCredit, List.mem_append] at he
    rcases he with he | he
    · exact h.credit e he hentry
    · split_ifs at he
      · exact absurd he List.not_mem_nil
      · rw [List.mem_singleton.mp he]
        rfl
  entries := by
    intro e he hentry
    rw [rows_recordCredit, List.mem_append] at he
    rcases he with he | he
    · exact h.entries e he hentry
    · split_ifs at he
      · exact absurd he List.not_mem_nil
      · rw [List.mem_singleton.mp he]
        exact .inl rfl

lemma entriesOn_recordCredit :
    entriesOn (recordCredit db accountId amount currency .payment (some paymentId)).1 paymentId
      invoiceId = entriesOn db paymentId invoiceId := by
  rw [entriesOn, rows_recordCredit, List.filter_append]
  split_ifs
  · rw [List.filter_nil, List.append_nil, ← entriesOn]
  · rw [List.filter_cons_of_neg (by simp [creditEntry]), List.filter_nil, List.append_nil,
      ← entriesOn]

lemma surplusCredit_recordCredit (hgrid : OnGrid 2 amount) (h : 0 ≤ amount) :
    surplusCredit (recordCredit db accountId amount currency .payment (some paymentId)).1 paymentId
      = surplusCredit db paymentId + amount := by
  rw [surplusCredit, ledgerTotal_eq_sum, rows_recordCredit, List.filter_append, List.map_append,
    List.sum_append, ← ledgerTotal_eq_sum, ← surplusCredit, roundMoney_of_onGrid hgrid]
  split_ifs with hzero
  · rw [List.filter_nil, List.map_nil, List.sum_nil, le_antisymm hzero h]
  · rw [List.filter_cons_of_pos (by simp [isPaymentCredit, isPaymentEntry, creditEntry])]
    simp [creditEntry, quantize_of_onGrid hgrid]

/-! What an allocation does to the money of its payment. -/

lemma OnlyOn.found (h : OnlyOn db paymentId invoiceId on) :
    findPaymentAllocation db paymentId invoiceId true = on := by
  have hactive : findPaymentAllocation db paymentId invoiceId true
      = (activeAllocations db paymentId).find? fun a => a.invoiceId = invoiceId := by
    rw [activeAllocations, List.find?_filter, findPaymentAllocation]
    congr 1
    funext a
    simp only [decide_eq_true_eq, decide_eq_decide]
    tauto
  rw [hactive, h.allocations]
  cases on with
  | none => rfl
  | some a => simp [h.invoice a rfl]

variable (amount) in
lemma applyPaymentAllocation_posted (hfound : findPaymentAllocation db payment.id invoice.id true
    = some a) (hposted : a.ledgerEntryId.isSome) :
    applyPaymentAllocation db payment invoice amount = (db, 0) := by
  rw [applyPaymentAllocation, hfound]
  dsimp only
  rw [if_pos hposted]

/-- What it means that money of a payment was posted on an invoice by the allocation `a`. -/
structure Posted (db db' : BillingTables) (payment : Payment) (invoice : Invoice) (amount : ℚ)
    (a : PaymentAllocation) : Prop where
  onlyOn : OnlyOn db' payment.id invoice.id (some a)
  amount : a.amount = .store 2 (roundMoney amount)
  linked : a.ledgerEntryId.isSome
  surplus : surplusCredit db' payment.id = surplusCredit db payment.id
  invoices : db'.invoices = db.invoices
  payments : db'.payments = db.payments

lemma surplusCredit_append (e : LedgerEntry) (he : e.invoiceId ≠ none)
    (hrows : db'.ledgerEntries.rows = db.ledgerEntries.rows ++ [e]) :
    surplusCredit db' paymentId = surplusCredit db paymentId := by
  rw [surplusCredit, ledgerTotal_eq_sum, hrows, List.filter_append,
    List.filter_cons_of_neg (by simp [he]), List.filter_nil, List.append_nil, ← ledgerTotal_eq_sum,
    surplusCredit]

lemma OnlyOn.append (h : OnlyOn db payment.id invoice.id on) {e : LedgerEntry}
    (hinvoice : e.invoiceId = some invoice.id) (hcredit : e.entryType = .credit)
    (hrows : db'.ledgerEntries.rows = db.ledgerEntries.rows ++ [e])
    (hallocations : activeAllocations db' payment.id = [a]) (ha : a.invoiceId = invoice.id) :
    OnlyOn db' payment.id invoice.id (some a) where
  allocations := hallocations
  invoice := by
    rintro _ ⟨⟩
    exact ha
  credit := by
    intro x hx hentry
    rw [hrows, List.mem_append, List.mem_singleton] at hx
    rcases hx with hx | rfl
    · exact h.credit x hx hentry
    · exact hcredit
  entries := by
    intro x hx hentry
    rw [hrows, List.mem_append, List.mem_singleton] at hx
    rcases hx with hx | rfl
    · exact h.entries x hx hentry
    · exact .inr hinvoice

lemma applyPaymentAllocation_none
    (hfound : findPaymentAllocation db payment.id invoice.id true = none)
    (hentries : entriesOn db payment.id invoice.id = []) :
    (applyPaymentAllocation db payment invoice amount).1
      = let applied := roundMoney amount
        let entries := db.ledgerEntries.insert (paymentEntry payment invoice applied)
          (id_paymentEntry payment invoice applied)
        match findPaymentAllocation db payment.id invoice.id false with
        | some inactive => { db with
            ledgerEntries := entries.update db.ledgerEntries.next
              (reusedEntry payment invoice applied) (id_reusedEntry payment invoice applied)
            allocations := db.allocations.update inactive.id
              (postedAllocation applied db.ledgerEntries.next)
              (id_postedAllocation applied db.ledgerEntries.next) }
        | none => { db with
            ledgerEntries := entries
            allocations := db.allocations.insert
              (newAllocation payment invoice applied db.ledgerEntries.next)
              (id_newAllocation payment invoice applied db.ledgerEntries.next) } := by
  rw [applyPaymentAllocation, hfound, createPaymentLedgerEntry, hentries]
  cases findPaymentAllocation db payment.id invoice.id false <;> rfl

lemma entriesOn_append {e : LedgerEntry}
    (hrows : db'.ledgerEntries.rows = db.ledgerEntries.rows ++ [e])
    (he : isPaymentEntry paymentId e ∧ e.invoiceId = some invoiceId) :
    entriesOn db' paymentId invoiceId = entriesOn db paymentId invoiceId ++ [e] := by
  rw [entriesOn, hrows, List.filter_append, List.filter_singleton, decide_eq_true he, cond_true,
    ← entriesOn]

variable (amount) in
/-- A payment without an allocation to the invoice gets one, new or reused, with its credit. -/
theorem applyPaymentAllocation_new (h : OnlyOn db payment.id invoice.id none)
    (hentries : entriesOn db payment.id invoice.id = []) :
    ∃ a, Posted db (applyPaymentAllocation db payment invoice amount).1 payment invoice amount a ∧
      (entriesOn (applyPaymentAllocation db payment invoice amount).1 payment.id invoice.id).map
        (·.amount) = [a.amount] ∧
      (applyPaymentAllocation db payment invoice amount).1.ledgerEntries.next
        = db.ledgerEntries.next + 1 := by
  have hinactive : ∀ r ∈ db.allocations.rows, ¬(r.paymentId = payment.id ∧ r.isActive) := by
    intro r hr hactive
    have : r ∈ activeAllocations db payment.id := List.mem_filter.mpr ⟨hr, decide_eq_true hactive⟩
    rw [h.allocations] at this
    exact List.not_mem_nil this
  have hnone : ∀ l : List PaymentAllocation, (∀ r ∈ l, r ∈ db.allocations.rows) →
      l.filter (fun r => r.paymentId = payment.id ∧ r.isActive) = [] :=
    fun l hl => List.filter_eq_nil_iff.mpr fun r hr hactive =>
      hinactive r (hl r hr) (of_decide_eq_true hactive)
  rw [applyPaymentAllocation_none h.found hentries]
  cases hretired : findPaymentAllocation db payment.id invoice.id false with
  | some inactive =>
    dsimp only
    obtain ⟨hmem, hpair⟩ : inactive ∈ db.allocations.rows ∧ inactive.paymentId = payment.id ∧
        inactive.invoiceId = invoice.id ∧ inactive.isActive = false :=
      ⟨List.mem_of_find?_eq_some hretired, by simpa using List.find?_some hretired⟩
    have hrows : ((db.ledgerEntries.insert (paymentEntry payment invoice (roundMoney amount))
        (id_paymentEntry payment invoice (roundMoney amount))).update db.ledgerEntries.next
          (reusedEntry payment invoice (roundMoney amount))
          (id_reusedEntry payment invoice (roundMoney amount))).rows = db.ledgerEntries.rows
          ++ [reusedEntry payment invoice (roundMoney amount)
            (paymentEntry payment invoice (roundMoney amount) db.ledgerEntries.next)] :=
      Table.rows_update_insert
    refine ⟨postedAllocation (roundMoney amount) db.ledgerEntries.next inactive,
      ⟨?_, rfl, rfl, ?_, rfl, rfl⟩, ?_, rfl⟩
    · refine h.append rfl rfl hrows ?_ hpair.2.1
      -- the reused allocation is the only active one
      obtain ⟨as, bs, hsplit, has, hbs⟩ := Table.exists_split hmem
      have hkeep : ∀ l : List PaymentAllocation, (∀ r ∈ l, Row.id r ≠ Row.id inactive) →
          l.map (fun r => if Row.id r = inactive.id then
            postedAllocation (roundMoney amount) db.ledgerEntries.next r else r) = l := by
        intro l hl
        refine (List.map_congr_left fun r hr => ?_).trans (List.map_id' _)
        exact if_neg (hl r hr)
      show (db.allocations.rows.map _).filter _ = _
      rw [hsplit, List.map_append, List.map_cons, hkeep as has, hkeep bs hbs,
        if_pos (show Row.id inactive = inactive.id from rfl),
        List.filter_append, List.filter_cons_of_pos (by simp [postedAllocation, hpair.1]),
        hnone as fun r hr => hsplit ▸ List.mem_append_left _ hr,
        hnone bs fun r hr => hsplit ▸ List.mem_append_right _ (List.mem_cons_of_mem _ hr),
        List.nil_append]
    · exact surplusCredit_append _ (by simp [reusedEntry, paymentEntry]) hrows
    · rw [entriesOn_append hrows (by simp [isPaymentEntry, reusedEntry, paymentEntry]), hentries]
      simp [reusedEntry, postedAllocation]
  | none =>
    dsimp only
    have hrows : (db.ledgerEntries.insert (paymentEntry payment invoice (roundMoney amount))
        (id_paymentEntry payment invoice (roundMoney amount))).rows = db.ledgerEntries.rows
          ++ [paymentEntry payment invoice (roundMoney amount) db.ledgerEntries.next] := rfl
    refine ⟨newAllocation payment invoice (roundMoney amount) db.ledgerEntries.next
      db.allocations.next, ⟨?_, rfl, rfl, ?_, rfl, rfl⟩, ?_, rfl⟩
    · refine h.append rfl rfl hrows ?_ rfl
      show (db.allocations.rows ++ [_]).filter _ = _
      rw [List.filter_append, hnone _ fun r hr => hr, List.nil_append,
        List.filter_cons_of_pos (by simp [newAllocation]), List.filter_nil]
    · exact surplusCredit_append _ (by simp [paymentEntry]) hrows
    · rw [entriesOn_append hrows (by simp [isPaymentEntry, paymentEntry]), hentries]
      simp [paymentEntry, newAllocation, roundMoney_of_onGrid (onGrid_roundMoney amount)]

variable (amount) in
/-- An intent takes the amount that is applied; an entry that stands on the invoice is kept. -/
theorem applyPaymentAllocation_intent (h : OnlyOn db payment.id invoice.id (some a))
    (hintent : a.ledgerEntryId = none) (hentries : entriesOn db payment.id invoice.id ≠ []) :
    ∃ b, Posted db (applyPaymentAllocation db payment invoice amount).1 payment invoice amount b ∧
      (applyPaymentAllocation db payment invoice amount).1.ledgerEntries = db.ledgerEntries := by
  obtain ⟨e, l, he⟩ := List.exists_cons_of_ne_nil hentries
  have hresult : (applyPaymentAllocation db payment invoice amount).1
      = { db with
          allocations := db.allocations.update a.id (postedAllocation (roundMoney amount) e.id)
            (id_postedAllocation (roundMoney amount) e.id) } := by
    rw [applyPaymentAllocation, h.found, createPaymentLedgerEntry, he]
    simp [hintent]
  have hmem : a ∈ activeAllocations db payment.id := by
    rw [h.allocations]
    exact List.mem_singleton_self a
  obtain ⟨hrow, hactive⟩ := List.mem_filter.mp hmem
  rw [hresult]
  refine ⟨postedAllocation (roundMoney amount) e.id a, ⟨⟨?_, ?_, h.credit, h.entries⟩, rfl, rfl, rfl,
    rfl, rfl⟩, rfl⟩
  · -- the active allocations are the rows of the same filter, changed one by one
    have hmap : activeAllocations { db with
          allocations := db.allocations.update a.id (postedAllocation (roundMoney amount) e.id)
            (id_postedAllocation (roundMoney amount) e.id) } payment.id
        = (activeAllocations db payment.id).map fun r =>
            if Row.id r = a.id then postedAllocation (roundMoney amount) e.id r else r := by
      show (db.allocations.rows.map _).filter _ = _
      rw [List.filter_map, activeAllocations]
      congr 1
      refine List.filter_congr fun r hr => ?_
      show decide _ = decide _
      rw [decide_eq_decide]
      dsimp only
      split_ifs with hid
      · have : r = a := Table.eq_of_id_eq hr hrow hid
        simpa [this, postedAllocation] using fun _ => (of_decide_eq_true hactive).2
      · rfl
    rw [hmap, h.allocations]
    show [if Row.id a = a.id then _ else _] = _
    rw [if_pos (show Row.id a = a.id from rfl)]
    rfl
  · rintro _ ⟨⟩
    exact h.invoice a rfl

variable (db payment invoice amount) in
lemma applyPaymentAllocation_kept :
    (applyPaymentAllocation db payment invoice amount).1.payments = db.payments ∧
      (applyPaymentAllocation db payment invoice amount).1.taxRates = db.taxRates ∧
      (applyPaymentAllocation db payment invoice amount).1.invoices = db.invoices := by
  have hcreate : (createPaymentLedgerEntry db payment invoice (roundMoney amount)).1.payments
        = db.payments ∧
      (createPaymentLedgerEntry db payment invoice (roundMoney amount)).1.taxRates = db.taxRates ∧
      (createPaymentLedgerEntry db payment invoice (roundMoney amount)).1.invoices
        = db.invoices := by
    rw [createPaymentLedgerEntry]
    cases (entriesOn db payment.id invoice.id).head? <;> exact ⟨rfl, rfl, rfl⟩
  rw [applyPaymentAllocation]
  cases findPaymentAllocation db payment.id invoice.id true with
  | some a =>
    dsimp only
    split_ifs
    · exact ⟨rfl, rfl, rfl⟩
    · exact hcreate
  | none => cases findPaymentAllocation db payment.id invoice.id false <;> exact hcreate

lemma allocations_applyPaymentAllocation :
    (applyPaymentAllocation db payment invoice amount).1.allocations
      = let applied := roundMoney amount
        let entryId := (createPaymentLedgerEntry db payment invoice applied).2
        match findPaymentAllocation db payment.id invoice.id true with
        | some a => if a.ledgerEntryId.isSome then db.allocations
            else db.allocations.update a.id (postedAllocation applied entryId)
              (id_postedAllocation applied entryId)
        | none => match findPaymentAllocation db payment.id invoice.id false with
          | some a => db.allocations.update a.id (postedAllocation applied entryId)
              (id_postedAllocation applied entryId)
          | none => db.allocations.insert (newAllocation payment invoice applied entryId)
              (id_newAllocation payment invoice applied entryId) := by
  rw [applyPaymentAllocation]
  cases findPaymentAllocation db payment.id invoice.id true with
  | some a =>
    dsimp only
    split_ifs <;> rfl
  | none => cases findPaymentAllocation db payment.id invoice.id false <;> rfl

variable (db accountId amount) in
lemma recordCredit_kept (currency : String) (source : LedgerSource) (p : Option ℕ) :
    (recordCredit db accountId amount currency source p).1.allocations = db.allocations ∧
      (recordCredit db accountId amount currency source p).1.payments = db.payments ∧
      (recordCredit db accountId amount currency source p).1.taxRates = db.taxRates ∧
      (recordCredit db accountId amount currency source p).1.invoices = db.invoices := by
  rw [recordCredit]
  split_ifs <;> exact ⟨rfl, rfl, rfl, rfl⟩

/-! Every posting uses up an identifier of the ledger. -/

variable (db payment invoice amount) in
lemma next_createPaymentLedgerEntry_le : db.ledgerEntries.next
    ≤ (createPaymentLedgerEntry db payment invoice amount).1.ledgerEntries.next := by
  rw [createPaymentLedgerEntry]
  cases (entriesOn db payment.id invoice.id).head? with
  | none => exact Nat.le_succ _
  | some e => exact le_rfl

lemma next_applyPaymentAllocation_le : db.ledgerEntries.next
    ≤ (applyPaymentAllocation db payment invoice amount).1.ledgerEntries.next := by
  have hcreate := next_createPaymentLedgerEntry_le db payment invoice (roundMoney amount)
  rw [applyPaymentAllocation]
  cases findPaymentAllocation db payment.id invoice.id true with
  | some a =>
    dsimp only
    split_ifs
    · exact le_rfl
    · exact hcreate
  | none => cases findPaymentAllocation db payment.id invoice.id false <;> exact hcreate

lemma next_recordCredit (hgrid : OnGrid 2 amount) (h : 0 < amount) :
    (recordCredit db accountId amount currency source p).1.ledgerEntries.next
      = db.ledgerEntries.next + 1 := by
  have hround : ¬roundMoney amount ≤ 0 := by
    rw [roundMoney_of_onGrid hgrid]
    exact not_le.mpr h
  rw [recordCredit]
  simp only [if_neg hround]
  rfl

lemma recordCredit_of_nonpos (hgrid : OnGrid 2 amount) (h : amount ≤ 0) :
    (recordCredit db accountId amount currency source p).1 = db := by
  rw [recordCredit, roundMoney_of_onGrid hgrid, if_pos h]

end Payments

end DotmacSub
