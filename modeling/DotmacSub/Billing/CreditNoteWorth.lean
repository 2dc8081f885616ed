import DotmacSub.Billing.CreditNoteIssue

/-!
# What a credit note is worth

Issuing stores the total of the request, and every application recomputes it from the line of the
note and the tax rate then in force.
-/

namespace DotmacSub

open Store Checked Decimal

namespace CreditNotes

open Payments

def lineTax (request : CreditNoteIssuePreviewRequest) (taxRates : List TaxRate) : ℚ :=
  match request.lineTaxRateId.bind fun i => taxRates.find? (·.id = i) with
  | none => 0
  | some rate =>
    calculateTaxAmount (roundMoney request.subtotal) rate.rate.value request.lineTaxApplication

/-- What the line of a request is worth. -/
def worth (request : CreditNoteIssuePreviewRequest) (taxRates : List TaxRate) : ℚ :=
  if hasLine request = false ∨ request.lineTaxApplication = .inclusive then roundMoney request.total
  else roundMoney request.subtotal + lineTax request taxRates

/-- The line of a request is worth its total: there is none, it contains its tax, or its amount and
its tax add up to the total. -/
def Priced (request : CreditNoteIssuePreviewRequest) (taxRates : List TaxRate) : Prop :=
  worth request taxRates = roundMoney request.total

def lineAmount (request : CreditNoteIssuePreviewRequest) : ℚ :=
  if request.lineTaxApplication = .inclusive then roundMoney request.total
  else roundMoney request.subtotal

def issuedLines (request : CreditNoteIssuePreviewRequest) : List InvoiceLine :=
  if hasLine request then
    [⟨.store 2 (lineAmount request), request.lineTaxRateId, request.lineTaxApplication, true⟩]
  else []

lemma total_addLine (taxRates : List TaxRate) (line : InvoiceLine) :
    let sums := addLine taxRates (0, 0) line
    roundMoney (roundMoney sums.1 + roundMoney sums.2)
      = line.amount.value + if line.taxApplication = .exclusive then
          match line.taxRateId.bind fun i => taxRates.find? (·.id = i) with
          | none => 0
          | some rate => calculateTaxAmount line.amount.value rate.rate.value .exclusive
        else 0 := by
  intro sums
  have hgrid : OnGrid 2 line.amount.value := line.amount.onGrid
  have htax := onGrid_calculateTaxAmount line.amount.value
  simp only [sums, addLine]
  cases hrate : line.taxRateId.bind fun i => taxRates.find? (·.id = i) with
  | none => simp [roundMoney_of_onGrid onGrid_zero]
  | some rate =>
    cases happlication : line.taxApplication with
    | exclusive => 
      have h := htax rate.rate.value .exclusive
      simp [roundMoney_of_onGrid h, roundMoney_of_onGrid (hgrid.add h)]
    | inclusive =>
      have h := htax rate.rate.value .inclusive
      simp [roundMoney_of_onGrid h, roundMoney_of_onGrid (hgrid.sub h)]
    | exempt => simp [roundMoney_of_onGrid onGrid_zero]

lemma onGrid_worth (request : CreditNoteIssuePreviewRequest) (taxRates : List TaxRate) :
    OnGrid 2 (worth request taxRates) := by
  rw [worth, lineTax]
  split_ifs
  · exact onGrid_roundMoney _
  · refine (onGrid_roundMoney _).add ?_
    split
    · exact onGrid_zero
    · exact onGrid_calculateTaxAmount _ _ _

lemma worth_eq (request : CreditNoteIssuePreviewRequest) (taxRates : List TaxRate) :
    ∀ line ∈ issuedLines request, line.amount.value
      + (if line.taxApplication = .exclusive then
          match line.taxRateId.bind fun i => taxRates.find? (·.id = i) with
          | none => 0
          | some rate => calculateTaxAmount line.amount.value rate.rate.value .exclusive
        else 0) = worth request taxRates := by
  intro line hline
  rw [issuedLines] at hline
  split_ifs at hline with hhas
  · obtain rfl := List.mem_singleton.mp hline
    rw [worth, lineTax, lineAmount]
    cases happlication : request.lineTaxApplication with
    | inclusive => simp [quantize_of_onGrid (onGrid_roundMoney _)]
    | exclusive => simp [hhas, quantize_of_onGrid (onGrid_roundMoney _)]
    | exempt =>
      simp only [hhas, Bool.true_eq_false, reduceCtorEq, or_false, if_false,
        Numeric.value_store, quantize_of_onGrid (onGrid_roundMoney _)]
      split
      · rfl
      · simp [calculateTaxAmount]
  · exact absurd hline List.not_mem_nil

/-- The rows behind an issued note. -/
structure Evidenced (request : CreditNoteIssuePreviewRequest) (fundingId : ℕ)
    (db : CreditNoteTables) (note : CreditNote) : Prop where
  found : db.creditNotes.get? note.id = some note
  linked : note.fundingLedgerEntryId = some fundingId
  live : note.status ≠ .draft ∧ note.status ≠ .void
  account : note.accountId ∈ db.accounts
  funding : ∃ e, db.ledgerEntries.get? fundingId = some e ∧ fundsNote note e = true ∧
    e.isActive = true ∧ e.amount.value = roundMoney request.total
  unreversed : db.reversalOf fundingId = none
  applied : note.appliedTotal.value = appliedTotal db note.id
  consumed : ∀ a ∈ applicationsOf db note.id, ∃ entryId, a.consumptionLedgerEntryId = some entryId ∧
    (db.ledgerEntries.get? entryId).any (consumesNote note a.amount.value) = true
  lines : (activeLines db note.id).map pricedLine = issuedLines request

/-- The document of a note agrees with its rows. -/
structure Backed (request : CreditNoteIssuePreviewRequest) (fundingId : ℕ)
    (db : CreditNoteTables) (note : CreditNote) : Prop
    extends Evidenced request fundingId db note where
  total : note.total.value = roundMoney request.total
  covered : appliedTotal db note.id ≤ roundMoney request.total

variable {request : CreditNoteIssuePreviewRequest} {fundingId : ℕ} {db : CreditNoteTables}
  {note : CreditNote}

lemma creditNoteTotals_total
    (hlines : (activeLines db note.id).map pricedLine = issuedLines request)
    (htotal : note.total.value = roundMoney request.total) :
    (creditNoteTotals db note).2.2 = worth request db.taxRates := by
  rw [creditNoteTotals]
  cases hactive : activeLines db note.id with
  | nil =>
    rw [hactive, List.map_nil, issuedLines] at hlines
    have hhas : hasLine request = false := by
      by_contra h
      rw [if_pos (by simpa using h)] at hlines
      exact nomatch hlines
    simp only [worth, hhas, true_or, if_true, htotal]
    exact roundMoney_of_onGrid (onGrid_roundMoney _)
  | cons line lines =>
    have hhas : hasLine request = true := by
      by_contra h
      rw [hactive, issuedLines, if_neg h] at hlines
      exact nomatch hlines
    rw [hactive, issuedLines, if_pos hhas] at hlines
    have hsum := total_addLine db.taxRates
      ⟨.store 2 (lineAmount request), request.lineTaxRateId, request.lineTaxApplication, true⟩
    simp only [hlines, List.foldl_cons, List.foldl_nil]
    rw [hsum]
    exact worth_eq request db.taxRates _ (by rw [issuedLines, if_pos hhas]; simp)

lemma onGrid_appliedTotal (db : CreditNoteTables) (noteId : ℕ) :
    OnGrid 2 (appliedTotal db noteId) := by
  refine OnGrid.list_sum fun x hx => ?_
  obtain ⟨a, -, rfl⟩ := List.mem_map.mp hx
  exact a.amount.onGrid

lemma foldlM_addConsumed {l : List CreditNoteApplication} (start : ℚ) (hstart : OnGrid 2 start)
    (h : ∀ a ∈ l, ∃ entryId, a.consumptionLedgerEntryId = some entryId ∧
      (db.ledgerEntries.get? entryId).any (consumesNote note a.amount.value) = true) :
    l.foldlM (addConsumed db note) start = .ok (start + (l.map (·.amount.value)).sum) := by
  induction l generalizing start with
  | nil => simp [pure, Except.pure]
  | cons a l ih =>
    obtain ⟨entryId, hid, hentry⟩ := h a List.mem_cons_self
    have hturn : addConsumed db note start a = .ok (start + a.amount.value) := by
      rw [addConsumed, hid]
      simp only [roundMoney_value, ensure_of hentry, ok_bind]
      rw [roundMoney_of_onGrid (hstart.add a.amount.onGrid)]
      rfl
    rw [List.foldlM_cons, hturn, ok_bind, ih _ (hstart.add a.amount.onGrid) fun b hb =>
      h b (List.mem_cons_of_mem a hb), List.map_cons, List.sum_cons, add_assoc]

lemma Backed.fundedCreditAvailable_eq (h : Backed request fundingId db note) :
    fundedCreditAvailable db note = .ok (roundMoney request.total - appliedTotal db note.id) := by
  obtain ⟨e, hfound, hfunds, hactive, hamount⟩ := h.funding
  have hid : e.id = fundingId := (Table.get?_eq_some.mp hfound).2
  have hgrid : OnGrid 2 (roundMoney request.total - appliedTotal db note.id) :=
    (onGrid_roundMoney _).sub (onGrid_appliedTotal db note.id)
  have hconsumed := foldlM_addConsumed 0 onGrid_zero h.consumed
  rw [zero_add] at hconsumed
  have hunreversed : db.reversalOf e.id = none := hid ▸ h.unreversed
  rw [fundedCreditAvailable, h.linked, Option.bind_some, hfound, orRefuse_some, ok_bind,
    ensure_of ⟨hactive, hunreversed⟩, ok_bind, ensure_of hfunds, ok_bind, hconsumed, ok_bind]
  have happlied : ((applicationsOf db note.id).map (·.amount.value)).sum
      = appliedTotal db note.id := rfl
  simp only [happlied, hamount, h.total, h.applied, roundMoney_of_onGrid hgrid]
  rw [ensure_of ⟨by linarith [h.covered], trivial⟩]
  rfl

def recorded (now : ℤ) (db : CreditNoteTables) (note : CreditNote)
    (preview : CreditApplicationPreview) (memo : Option String) : CreditNoteTables :=
  recordApplication now
    (postEntry (postEntry db (consumptionOf note preview.applyAmount)) (postingOf preview))
    (newApplication note preview (db.ledgerEntries.next + 1) (some db.ledgerEntries.next) memo)
    fun _ => rfl

structure Previewed (db : CreditNoteTables) (note : CreditNote)
    (preview : CreditApplicationPreview) : Prop where
  invoice : ∃ invoice, db.invoices.get? preview.invoiceId = some invoice ∧
    invoice.accountId = note.accountId
  account : preview.accountId = note.accountId
  pos : 0 < preview.applyAmount
  grid : OnGrid 2 preview.applyAmount
  covered : preview.applyAmount ≤ roundMoney (note.total.value - note.appliedTotal.value)

lemma previewed_of_build {env : CreditNoteEnv} {invoice : Invoice} {requested : Option ℚ}
    {preview : CreditApplicationPreview} (hinvoice : db.invoices.get? invoice.id = some invoice)
    (h : buildApplicationPreview env note invoice requested = .ok preview) :
    Previewed db note preview := by
  simp only [buildApplicationPreview, ensure_bind_eq_ok] at h
  obtain ⟨-, -, -, haccount, -, -, -, -, hpos, hle, -, h⟩ := h
  obtain rfl := pure_eq_ok.mp h
  exact ⟨⟨invoice, hinvoice, haccount⟩, haccount, hpos, onGrid_roundMoney _, hle⟩

section Recorded

variable {now : ℤ} {preview : CreditApplicationPreview} {memo : Option String}

variable (now memo) in
lemma applicationsOf_recorded (noteId : ℕ) :
    applicationsOf (recorded now db note preview memo) noteId = applicationsOf db noteId ++
      if note.id = noteId then [newApplication note preview (db.ledgerEntries.next + 1)
        (some db.ledgerEntries.next) memo db.creditNoteApplications.next] else [] := by
  show (db.creditNoteApplications.rows ++ [_]).filter _ = _
  rw [List.filter_append]
  congr 1
  by_cases h : note.id = noteId
  · simp [newApplication, h, postEntry]
  · simp [newApplication, h]

variable (now memo) in
lemma appliedTotal_recorded (hgrid : OnGrid 2 preview.applyAmount) :
    appliedTotal (recorded now db note preview memo) note.id
      = appliedTotal db note.id + preview.applyAmount := by
  rw [appliedTotal, applicationsOf_recorded now memo, if_pos rfl, List.map_append, List.sum_append,
    appliedTotal]
  simp [newApplication, quantize_of_onGrid hgrid]

lemma ledger_recorded_of_some {i : ℕ} {e : LedgerEntry} (h : db.ledgerEntries.get? i = some e) :
    (recorded now db note preview memo).ledgerEntries.get? i = some e :=
  get?_postEntry_of_some (get?_postEntry_of_some h)

lemma ledger_recorded_consumption :
    (recorded now db note preview memo).ledgerEntries.get? db.ledgerEntries.next
      = some ((consumptionOf note preview.applyAmount).entry db.ledgerEntries.next) :=
  get?_postEntry_of_some get?_postEntry_next

end Recorded

lemma Backed.stage_eq (h : Backed request fundingId db note) {env : CreditNoteEnv}
    {preview : CreditApplicationPreview} (hpreview : Previewed db note preview) (key : String)
    (memo : Option String) :
    stageApplicationWithEvidence env db note preview key memo
      = (recalculateCreditNoteTotals env.now (recorded env.now db note preview memo) note).map
          fun recalculated =>
            (reserve (writeNote (recorded env.now db note preview memo) recalculated)
              ⟨applicationIdempotencyScope, key, preview.accountId,
                some db.creditNoteApplications.next⟩, db.creditNoteApplications.next) := by
  obtain ⟨invoice, hinvoice, haccount⟩ := hpreview.invoice
  have hcovered : preview.applyAmount ≤ roundMoney request.total - appliedTotal db note.id := by
    have := hpreview.covered
    rwa [h.total, h.applied, roundMoney_of_onGrid
      ((onGrid_roundMoney _).sub (onGrid_appliedTotal db note.id))] at this
  have hconsume : consumeFunding db note preview.applyAmount = .ok
      (postEntry db (consumptionOf note preview.applyAmount), some db.ledgerEntries.next) := by
    rw [consumeFunding, if_neg (by simp [h.linked]), h.fundedCreditAvailable_eq, ok_bind,
      ensure_of hcovered, ok_bind, createLedgerEntry_of h.account (by rintro _ ⟨⟩), ok_bind]
    rfl
  have hpost : createLedgerEntry (postEntry db (consumptionOf note preview.applyAmount))
      (postingOf preview) = .ok (postEntry (postEntry db (consumptionOf note preview.applyAmount))
        (postingOf preview), db.ledgerEntries.next + 1) := by
    refine createLedgerEntry_of (show preview.accountId ∈ db.accounts from ?_) ?_
    · exact hpreview.account ▸ h.account
    · rintro invoiceId ⟨⟩
      exact ⟨invoice, hinvoice, haccount.trans hpreview.account.symm⟩
  rw [stageApplicationWithEvidence, hconsume, ok_bind]
  simp only [hpost, ok_bind]
  rfl

/-- What the recalculation of a live note leaves of it. -/
structure Recalculated (note note' : CreditNote) (total applied : ℚ) : Prop where
  id : note'.id = note.id
  account : note'.accountId = note.accountId
  currency : note'.currency = note.currency
  linked : note'.fundingLedgerEntryId = note.fundingLedgerEntryId
  live : note'.status ≠ .draft ∧ note'.status ≠ .void
  total : note'.total.value = total
  applied : note'.appliedTotal.value = applied

lemma settledStatus_live (applied total : ℚ) :
    settledStatus applied total ≠ .draft ∧ settledStatus applied total ≠ .void := by
  rw [settledStatus]
  split_ifs <;> decide

lemma recalculate_of_le (now : ℤ) (hlive : note.status ≠ .draft ∧ note.status ≠ .void)
    (h : appliedTotal db note.id ≤ (creditNoteTotals db note).2.2)
    (hgrid : OnGrid 2 (creditNoteTotals db note).2.2) :
    ∃ note', recalculateCreditNoteTotals now db note = .ok note' ∧
      Recalculated note note' (creditNoteTotals db note).2.2 (appliedTotal db note.id) := by
  have happlied := onGrid_appliedTotal db note.id
  rw [recalculateCreditNoteTotals]
  simp only [roundMoney_of_onGrid happlied, ensure_of h, ok_bind,
    if_neg (not_or.mpr hlive)]
  exact ⟨_, rfl, rfl, rfl, rfl, rfl, settledStatus_live _ _, quantize_of_onGrid hgrid,
    quantize_of_onGrid happlied⟩

/-- The refusal of an application that the recalculated note does not cover. -/
def appliedExceedsTotal : DomainError :=
  .httpException 400 "Applied total exceeds credit note total"

lemma recalculate_of_lt (now : ℤ)
    (h : (creditNoteTotals db note).2.2 < appliedTotal db note.id) :
    recalculateCreditNoteTotals now db note = .error appliedExceedsTotal := by
  rw [recalculateCreditNoteTotals]
  simp only [roundMoney_of_onGrid (onGrid_appliedTotal db note.id), ensure, if_neg h.not_ge]
  rfl

lemma Evidenced.recorded (h : Evidenced request fundingId db note) {now : ℤ}
    {preview : CreditApplicationPreview} {memo : Option String} {note' : CreditNote} {total : ℚ}
    (hgrid : OnGrid 2 preview.applyAmount)
    (hnote : Recalculated note note' total (appliedTotal db note.id + preview.applyAmount))
    (reserved : CreditNoteReservation) :
    Evidenced request fundingId (reserve (writeNote (recorded now db note preview memo) note')
      reserved) note' := by
  have hfunds : ∀ e, fundsNote note' e = fundsNote note e := fun e => by
    simp only [fundsNote, hnote.account, hnote.currency]
  have hconsumes : ∀ amount e, consumesNote note' amount e = consumesNote note amount e :=
    fun amount e => by simp only [consumesNote, hnote.account, hnote.currency]
  obtain ⟨funding, hfound, hfunding⟩ := h.funding
  refine ⟨?_, hnote.linked.trans h.linked, hnote.live, hnote.account ▸ h.account,
    ⟨funding, ledger_recorded_of_some hfound, (hfunds funding).trans hfunding.1, hfunding.2⟩,
    h.unreversed, ?_, ?_, ?_⟩
  · exact get?_writeNote_self (hnote.id ▸ h.found : db.creditNotes.get? note'.id = some note)
  · rw [hnote.id, hnote.applied]
    exact (appliedTotal_recorded now memo hgrid).symm
  · rw [hnote.id]
    intro a ha
    have hrows : applicationsOf (CreditNotes.recorded now db note preview memo) note.id = _ :=
      applicationsOf_recorded now memo note.id
    rcases List.mem_append.mp (hrows ▸ ha) with ha | ha
    · obtain ⟨entryId, hid, hentry⟩ := h.consumed a ha
      obtain ⟨e, he, hconsumed⟩ := (Option.any_eq_true _ _).mp hentry
      refine ⟨entryId, hid, (Option.any_eq_true _ _).mpr
        ⟨e, ledger_recorded_of_some he, (hconsumes _ e).trans hconsumed⟩⟩
    · rw [if_pos rfl, List.mem_singleton] at ha
      subst ha
      refine ⟨_, rfl, (Option.any_eq_true _ _).mpr
        ⟨_, ledger_recorded_consumption, (hconsumes _ _).trans ?_⟩⟩
      simp [consumesNote, LedgerEntryCreate.entry, consumptionOf, newApplication,
        quantize_of_onGrid hgrid, roundMoney_of_onGrid hgrid]
  · rw [hnote.id]
    exact h.lines

/-- What a note promises: its total is its funding, and what it gave is the sum of its
applications. -/
def KeepsValue (db : CreditNoteTables) (noteId : ℕ) : Prop :=
  ∃ note funding, db.creditNotes.get? noteId = some note ∧
    note.fundingLedgerEntryId.bind db.ledgerEntries.get? = some funding ∧
    note.total = funding.amount ∧ note.appliedTotal.value = appliedTotal db noteId

lemma Evidenced.keepsValue_iff (h : Evidenced request fundingId db note) :
    KeepsValue db note.id ↔ note.total.value = roundMoney request.total := by
  obtain ⟨funding, hfound, -, -, hamount⟩ := h.funding
  have hlinked : note.fundingLedgerEntryId.bind db.ledgerEntries.get? = some funding := by
    rw [h.linked, Option.bind_some, hfound]
  constructor
  · rintro ⟨note', funding', hnote', hfunding', htotal, -⟩
    obtain rfl := Option.mem_unique hnote' h.found
    obtain rfl := Option.mem_unique hfunding' hlinked
    rw [htotal, hamount]
  · intro htotal
    exact ⟨note, funding, h.found, hlinked, Numeric.ext (htotal.trans hamount.symm), h.applied⟩

/-- What staging an application does to a backed note: it is refused if the line is not worth what was
applied, and leaves a note that is worth its line. -/
lemma Backed.stage (h : Backed request fundingId db note) {env : CreditNoteEnv}
    {preview : CreditApplicationPreview} (hpreview : Previewed db note preview) (key : String)
    (memo : Option String) :
    (worth request db.taxRates < appliedTotal db note.id + preview.applyAmount ∧
      stageApplicationWithEvidence env db note preview key memo = .error appliedExceedsTotal) ∨
    ∃ db' note', stageApplicationWithEvidence env db note preview key memo
        = .ok (db', db.creditNoteApplications.next) ∧ Evidenced request fundingId db' note' ∧
      note'.id = note.id ∧ note'.total.value = worth request db.taxRates ∧
      appliedTotal db' note.id = appliedTotal db note.id + preview.applyAmount := by
  have hsum : appliedTotal (CreditNotes.recorded env.now db note preview memo) note.id = _ :=
    appliedTotal_recorded env.now memo hpreview.grid
  have htotals : (creditNoteTotals (CreditNotes.recorded env.now db note preview memo) note).2.2
      = worth request db.taxRates :=
    creditNoteTotals_total h.lines h.total
  rw [h.stage_eq hpreview]
  rcases lt_or_ge (worth request db.taxRates) (appliedTotal db note.id + preview.applyAmount)
    with hlt | hle
  · refine .inl ⟨hlt, ?_⟩
    rw [recalculate_of_lt env.now (by rw [htotals, hsum]; exact hlt)]
    rfl
  · have hgrid : OnGrid 2 (worth request db.taxRates) := onGrid_worth request db.taxRates
    have hcovered := hle.trans_eq htotals.symm
    rw [← hsum] at hcovered
    obtain ⟨note', hok, hnote'⟩ := recalculate_of_le env.now h.live hcovered (htotals ▸ hgrid)
    rw [htotals, hsum] at hnote'
    refine .inr ⟨_, note', by rw [hok]; rfl, h.recorded hpreview.grid hnote' _, hnote'.id,
      hnote'.total, hsum⟩

end CreditNotes

end DotmacSub
