import DotmacSub.Billing.Refunds
import DotmacSub.Models.CreditNotes

/-!
# Credit notes

What `services/billing/credit_notes.py` and `_common.py` make of an issued credit note: its totals
are recomputed from its lines and its applications, its funding is one ledger credit that the
applications consume, and an application moves part of it to an invoice.
-/

namespace DotmacSub

open Store Checked Decimal Text

/-- What the credit-note owner takes from other owners and from outside: the numbering of notes and
the digest that names the application of an issue command, beside what payments take. -/
structure CreditNoteEnv extends PaymentEnv where
  creditNumber : CreditNoteTables → String
  issueApplicationKey : String → String

namespace CreditNotes

open Payments

def validateCreditNoteTotals (subtotal taxTotal total : ℚ) (appliedTotal : Option ℚ) :
    Except DomainError Unit := do
  ensure (0 ≤ subtotal) (.httpException 400 "Subtotal must be non-negative")
  ensure (0 ≤ taxTotal) (.httpException 400 "Tax total must be non-negative")
  ensure (0 ≤ total) (.httpException 400 "Total must be non-negative")
  ensure (∀ applied ∈ appliedTotal, 0 ≤ applied)
    (.httpException 400 "Applied total must be non-negative")
  ensure (roundMoney (add subtotal taxTotal) ≤ roundMoney total)
    (.httpException 400 "Total must cover subtotal and tax")
  ensure (∀ applied ∈ appliedTotal, applied ≤ total)
    (.httpException 400 "Applied total exceeds total")

def pricedLine (line : CreditNoteLine) : InvoiceLine :=
  ⟨line.amount, line.taxRateId, line.taxApplication, line.isActive⟩

def activeLines (db : CreditNoteTables) (creditNoteId : ℕ) : List CreditNoteLine :=
  db.creditNoteLines.rows.filter fun line => line.creditNoteId = creditNoteId ∧ line.isActive

def applicationsOf (db : CreditNoteTables) (creditNoteId : ℕ) : List CreditNoteApplication :=
  db.creditNoteApplications.rows.filter (·.creditNoteId = creditNoteId)

def appliedTotal (db : CreditNoteTables) (creditNoteId : ℕ) : ℚ :=
  ((applicationsOf db creditNoteId).map (·.amount.value)).sum

/-- Subtotal, tax and total of a note.  Without active lines the stored amounts stand. -/
def creditNoteTotals (db : CreditNoteTables) (note : CreditNote) : ℚ × ℚ × ℚ :=
  match activeLines db note.id with
  | [] => (roundMoney note.subtotal.value, roundMoney note.taxTotal.value,
      roundMoney note.total.value)
  | lines =>
    let sums := (lines.map pricedLine).foldl (addLine db.taxRates) (0, 0)
    let subtotal := roundMoney sums.1
    let taxTotal := roundMoney sums.2
    (subtotal, taxTotal, roundMoney (subtotal + taxTotal))

def settledStatus (applied total : ℚ) : CreditNoteStatus :=
  if applied ≤ 0 then .issued
  else if applied < total then .partiallyApplied
  else .applied

/-- Totals and status of a note. -/
def recalculateCreditNoteTotals (now : ℤ) (db : CreditNoteTables) (note : CreditNote) :
    Except DomainError CreditNote := do
  let totals := creditNoteTotals db note
  let applied := roundMoney (appliedTotal db note.id)
  ensure (applied ≤ totals.2.2) (.httpException 400 "Applied total exceeds credit note total")
  let repriced := { note with
    subtotal := .store 2 totals.1
    taxTotal := .store 2 totals.2.1
    total := .store 2 totals.2.2
    appliedTotal := .store 2 applied }
  if note.status = .draft ∨ note.status = .void then return repriced
  else return { repriced with
    issuedAt := some (note.issuedAt.getD now)
    status := settledStatus applied totals.2.2 }

/-- The row of a note takes the values of its object. -/
def writeNote (db : CreditNoteTables) (note : CreditNote) : CreditNoteTables :=
  { db with
    creditNotes := db.creditNotes.update note.id (fun r => { note with id := r.id }) fun _ => rfl }

lemma get?_writeNote_self {db : CreditNoteTables} {note row : CreditNote}
    (h : db.creditNotes.get? note.id = some row) :
    (writeNote db note).creditNotes.get? note.id = some note := by
  have hself := Table.get?_update_self (g := fun r => { note with id := r.id })
    (h := fun _ => rfl) h
  have hid : row.id = note.id := (Table.get?_eq_some.mp h).2
  exact hself.trans (congrArg some (by rw [hid]))

lemma get?_writeNote_ne {db : CreditNoteTables} {note : CreditNote} {i : ℕ} (h : i ≠ note.id) :
    (writeNote db note).creditNotes.get? i = db.creditNotes.get? i :=
  Table.get?_update_ne (g := fun r : CreditNote => { note with id := r.id }) (h := fun _ => rfl) h

structure LedgerEntryCreate where
  accountId : ℕ
  invoiceId : Option ℕ
  entryType : LedgerEntryType
  source : LedgerSource
  amount : ℚ
  currency : String

def LedgerEntryCreate.entry (payload : LedgerEntryCreate) (id : ℕ) : LedgerEntry where
  id
  accountId := payload.accountId
  invoiceId := payload.invoiceId
  paymentId := none
  entryType := payload.entryType
  source := payload.source
  amount := .store 2 payload.amount
  currency := payload.currency
  isActive := true
  affectsCustomerPosition := true

def validateAccount (db : CreditNoteTables) (accountId : ℕ) : Except DomainError Unit :=
  ensure (accountId ∈ db.accounts) (.httpException 404 "Subscriber account not found")

/-- The account and the invoice of an entry must exist and belong together. -/
def validateLedgerLinkages (db : CreditNoteTables) (accountId : ℕ) (invoiceId : Option ℕ) :
    Except DomainError Unit := do
  validateAccount db accountId
  match invoiceId with
  | none => return ()
  | some invoiceId => do
      let invoice ← orRefuse (db.invoices.get? invoiceId) (.httpException 404 "Invoice not found")
      ensure (invoice.accountId = accountId)
        (.httpException 400 "Invoice does not belong to account")

def postEntry (db : CreditNoteTables) (payload : LedgerEntryCreate) : CreditNoteTables :=
  { db with ledgerEntries := db.ledgerEntries.insert payload.entry fun _ => rfl }

def createLedgerEntry (db : CreditNoteTables) (payload : LedgerEntryCreate) :
    Except DomainError (CreditNoteTables × ℕ) := do
  validateLedgerLinkages db payload.accountId payload.invoiceId
  return (postEntry db payload, db.ledgerEntries.next)

section Posting

variable {db : CreditNoteTables} {payload : LedgerEntryCreate}

lemma createLedgerEntry_of (haccount : payload.accountId ∈ db.accounts)
    (hinvoice : ∀ invoiceId ∈ payload.invoiceId, ∃ invoice,
      db.invoices.get? invoiceId = some invoice ∧ invoice.accountId = payload.accountId) :
    createLedgerEntry db payload = .ok (postEntry db payload, db.ledgerEntries.next) := by
  have hlinked : validateLedgerLinkages db payload.accountId payload.invoiceId = .ok () := by
    cases hid : payload.invoiceId with
    | none =>
      simp only [validateLedgerLinkages, validateAccount, ensure_of haccount, ok_bind]
      rfl
    | some invoiceId =>
      obtain ⟨invoice, hfound, hsame⟩ := hinvoice invoiceId hid
      simp only [validateLedgerLinkages, validateAccount, ensure_of haccount, ok_bind, hfound,
        orRefuse_some, ensure_of hsame]
  rw [createLedgerEntry, hlinked, ok_bind]
  rfl

lemma get?_postEntry_of_some {i : ℕ} {e : LedgerEntry} (h : db.ledgerEntries.get? i = some e) :
    (postEntry db payload).ledgerEntries.get? i = some e :=
  Table.get?_insert_of_some (f := payload.entry) (h := fun _ => rfl) h

lemma get?_postEntry_next :
    (postEntry db payload).ledgerEntries.get? db.ledgerEntries.next
      = some (payload.entry db.ledgerEntries.next) :=
  Table.get?_insert_self (f := payload.entry) (h := fun _ => rfl)

end Posting

def fundsNote (note : CreditNote) (e : LedgerEntry) : Bool :=
  e.accountId = note.accountId ∧ e.invoiceId = none ∧ e.entryType = .credit ∧
    e.source = .creditNote ∧ e.currency = note.currency

def consumesNote (note : CreditNote) (amount : ℚ) (e : LedgerEntry) : Bool :=
  e.isActive ∧ e.accountId = note.accountId ∧ e.invoiceId = none ∧ e.entryType = .debit ∧
    e.source = .creditNote ∧ e.currency = note.currency ∧ roundMoney e.amount.value = amount

def addConsumed (db : CreditNoteTables) (note : CreditNote) (consumed : ℚ)
    (application : CreditNoteApplication) : Except DomainError ℚ :=
  match application.consumptionLedgerEntryId with
  | none => return consumed
  | some entryId => do
      let amount := roundMoney application.amount.value
      ensure ((db.ledgerEntries.get? entryId).any (consumesNote note amount) = true)
        (.httpException 409 "Credit note consumption evidence is incomplete")
      return roundMoney (consumed + amount)

/-- The unconsumed funding of a note. -/
def fundedCreditAvailable (db : CreditNoteTables) (note : CreditNote) : Except DomainError ℚ := do
  let funding ← orRefuse (note.fundingLedgerEntryId.bind db.ledgerEntries.get?)
    (.httpException 409 "Credit note funding evidence was not found")
  ensure (funding.isActive = true ∧ db.reversalOf funding.id = none)
    (.httpException 409 "Credit note funding evidence is not active")
  ensure (fundsNote note funding = true)
    (.httpException 409 "Credit note funding evidence does not match the note")
  let consumed ← (applicationsOf db note.id).foldlM (addConsumed db note) 0
  let available := roundMoney (funding.amount.value - consumed)
  let documentRemaining := roundMoney (note.total.value - note.appliedTotal.value)
  ensure (0 ≤ available ∧ available = documentRemaining)
    (.httpException 409 "Credit note funding and document balances disagree")
  return available

/-- The invoices that take credit.  A draft receivable does. -/
def creditApplicableInvoiceStatuses : List InvoiceStatus :=
  [.draft, .issued, .partiallyPaid, .overdue]

structure CreditApplicationPreview where
  creditNoteId : ℕ
  invoiceId : ℕ
  accountId : ℕ
  currency : String
  creditAvailableBefore : ℚ
  invoiceReceivableBefore : ℚ
  applyAmount : ℚ
  creditAvailableAfter : ℚ
  invoiceReceivableAfter : ℚ
  settlesInvoice : Bool
  fingerprint : String

def previewFingerprint (env : CreditNoteEnv) (note : CreditNote) (invoice : Invoice)
    (available receivable amount : ℚ) : String :=
  env.fingerprint [.id note.id, .id invoice.id, .id invoice.accountId, .text invoice.currency,
    .number available, .number receivable, .number amount]

/-- What a note would give to an invoice, or why it gives nothing. -/
def buildApplicationPreview (env : CreditNoteEnv) (note : CreditNote) (invoice : Invoice)
    (requestedAmount : Option ℚ) : Except DomainError CreditApplicationPreview := do
  ensure (note.status ≠ .draft ∧ note.status ≠ .void)
    (.httpException 400 "Credit note is not applicable")
  ensure (invoice.isProforma = false)
    (.httpException 400 "Credit cannot be applied to a proforma document")
  ensure (invoice.status ∈ creditApplicableInvoiceStatuses)
    (.httpException 400 s!"Cannot apply a credit to a {invoice.status.value} invoice")
  ensure (invoice.accountId = note.accountId)
    (.httpException 400 "Credit note does not belong to invoice account")
  ensure (∀ invoiceId ∈ note.invoiceId, invoiceId = invoice.id)
    (.httpException 400 "Credit note is tied to another invoice")
  ensure (invoice.currency = note.currency)
    (.httpException 400 "Currency does not match invoice")
  let available := roundMoney (note.total.value - note.appliedTotal.value)
  let receivable := roundMoney invoice.balanceDue.value
  ensure (0 < available) (.httpException 400 "Credit note has no available balance")
  ensure (0 < receivable) (.httpException 400 "Invoice has no balance due")
  let amount := roundMoney (requestedAmount.getD (min available receivable))
  ensure (0 < amount) (.httpException 400 "Amount must be greater than 0")
  ensure (amount ≤ available) (.httpException 400 "Amount exceeds credit note balance")
  ensure (amount ≤ receivable) (.httpException 400 "Amount exceeds invoice balance")
  let creditAfter := roundMoney (available - amount)
  let receivableAfter := roundMoney (receivable - amount)
  return {
    creditNoteId := note.id
    invoiceId := invoice.id
    accountId := invoice.accountId
    currency := invoice.currency
    creditAvailableBefore := available
    invoiceReceivableBefore := receivable
    applyAmount := amount
    creditAvailableAfter := creditAfter
    invoiceReceivableAfter := max 0 receivableAfter
    settlesInvoice := receivableAfter ≤ 0
    fingerprint := previewFingerprint env note invoice available receivable amount }

/-- The debit of an account that consumes the funding of a note. -/
def consumptionOf (note : CreditNote) (amount : ℚ) : LedgerEntryCreate where
  accountId := note.accountId
  invoiceId := none
  entryType := .debit
  source := .creditNote
  amount
  currency := note.currency

def postingOf (preview : CreditApplicationPreview) : LedgerEntryCreate where
  accountId := preview.accountId
  invoiceId := some preview.invoiceId
  entryType := .credit
  source := .creditNote
  amount := preview.applyAmount
  currency := preview.currency

/-- The debit that consumes the funding of a note for an application.  A note without funding
leaves no such evidence. -/
def consumeFunding (db : CreditNoteTables) (note : CreditNote) (amount : ℚ) :
    Except DomainError (CreditNoteTables × Option ℕ) :=
  if note.fundingLedgerEntryId = none then return (db, none)
  else do
    let available ← fundedCreditAvailable db note
    ensure (amount ≤ available) (.httpException 409
      "Exact credit-note funding is below the confirmed application amount")
    let (db, entryId) ← createLedgerEntry db (consumptionOf note amount)
    return (db, some entryId)

def newApplication (note : CreditNote) (preview : CreditApplicationPreview) (entryId : ℕ)
    (consumptionEntryId : Option ℕ) (memo : Option String) (id : ℕ) : CreditNoteApplication where
  id
  creditNoteId := note.id
  invoiceId := preview.invoiceId
  ledgerEntryId := some entryId
  consumptionLedgerEntryId := consumptionEntryId
  previewFingerprint := some preview.fingerprint
  amount := .store 2 preview.applyAmount
  memo

/-- The application rows with a new one, and the invoice it reduces, recalculated. -/
def recordApplication (now : ℤ) (db : CreditNoteTables) (application : ℕ → CreditNoteApplication)
    (h : ∀ i, Row.id (application i) = i) : CreditNoteTables :=
  let row := application db.creditNoteApplications.next
  let billing := { db.toBillingTables with
    invoices := db.invoices.update row.invoiceId
      (fun invoice => { invoice with
        creditNoteApplications := invoice.creditNoteApplications ++ [row.amount] })
      fun _ => rfl }
  { db with
    toBillingTables := finalizeInvoicePaymentEffects now billing row.invoiceId
    creditNoteApplications := db.creditNoteApplications.insert application h }

def applicationIdempotencyScope : String := "credit_note_application"

def reservation (db : CreditNoteTables) (scope key : String) : Option CreditNoteReservation :=
  db.reservations.find? fun k => k.scope = scope ∧ k.key = key

def reserve (db : CreditNoteTables) (reserved : CreditNoteReservation) : CreditNoteTables :=
  { db with reservations := db.reservations ++ [reserved] }

def stageApplicationWithEvidence (env : CreditNoteEnv) (db : CreditNoteTables) (note : CreditNote)
    (preview : CreditApplicationPreview) (key : String) (memo : Option String) :
    Except DomainError (CreditNoteTables × ℕ) := do
  let (consumed, consumptionEntryId) ← consumeFunding db note preview.applyAmount
  let (posted, entryId) ← createLedgerEntry consumed (postingOf preview)
  let recorded := recordApplication env.now posted
    (newApplication note preview entryId consumptionEntryId memo) fun _ => rfl
  let recalculated ← recalculateCreditNoteTotals env.now recorded note
  let applicationId := db.creditNoteApplications.next
  return (reserve (writeNote recorded recalculated)
    ⟨applicationIdempotencyScope, key, preview.accountId, some applicationId⟩, applicationId)

/-- A confirmation of a previewed application. -/
structure CreditNoteApplyRequest where
  invoiceId : ℕ
  amount : ℚ
  memo : Option String
  previewFingerprint : String
  idempotencyKey : String

/-- Sixteen to 120 safe characters, after trimming. -/
def normalizeIdempotencyKey (value : String) : Except DomainError String := do
  let key := strip value
  ensure (isSafeKey key = true) (.httpException 400 "Invalid idempotency key")
  return key

def idempotentResult (db : CreditNoteTables) (key : String) (creditNoteId : ℕ)
    (payload : CreditNoteApplyRequest) : Except DomainError (Option ℕ) :=
  match reservation db applicationIdempotencyScope key with
  | none => return none
  | some reserved => do
      let refId ← orRefuse reserved.refId
        (.httpException 409 "Credit application is already being processed")
      let application ← orRefuse (db.creditNoteApplications.get? refId)
        (.httpException 409 "Credit application evidence is incomplete")
      ensure (application.creditNoteId = creditNoteId ∧ application.invoiceId = payload.invoiceId)
        (.httpException 409 "Idempotency key was used for another credit application")
      ensure (roundMoney application.amount.value = roundMoney payload.amount ∧
          application.previewFingerprint = some payload.previewFingerprint)
        (.httpException 409 "Idempotency key was used with a different confirmation")
      let entryId ← orRefuse application.ledgerEntryId
        (.httpException 409 "Credit application is missing ledger evidence")
      ensure ((db.ledgerEntries.get? entryId).isSome = true)
        (.httpException 409 "Credit application ledger evidence was not found")
      return some application.id

def confirmApplication (env : CreditNoteEnv) (db : CreditNoteTables) (creditNoteId : ℕ)
    (payload : CreditNoteApplyRequest) :
    Except DomainError (CreditNote × CreditApplicationPreview) := do
  let note ← orRefuse (db.creditNotes.get? creditNoteId)
    (.httpException 404 "Credit note not found")
  let invoice ← orRefuse (db.invoices.get? payload.invoiceId)
    (.httpException 404 "Invoice not found")
  let preview ← buildApplicationPreview env note invoice (some payload.amount)
  ensure (payload.previewFingerprint = preview.fingerprint)
    (.httpException 409 "Financial state changed after preview; preview again")
  return (note, preview)

/-- Apply a previewed amount of a note to an invoice, once for its key. -/
def applyWithEvidence (env : CreditNoteEnv) (db : CreditNoteTables) (creditNoteId : ℕ)
    (payload : CreditNoteApplyRequest) : Except DomainError (CreditNoteTables × ℕ) := do
  let key ← normalizeIdempotencyKey payload.idempotencyKey
  match ← idempotentResult db key creditNoteId payload with
  | some applicationId => return (db, applicationId)
  | none => do
      let (note, preview) ← confirmApplication env db creditNoteId payload
      stageApplicationWithEvidence env db note preview key payload.memo

end CreditNotes

end DotmacSub
