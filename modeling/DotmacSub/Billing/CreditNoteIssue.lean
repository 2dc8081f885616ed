import DotmacSub.Billing.CreditNotes

/-!
# Issuing credit notes

`CreditNotes.issue_with_evidence` of `services/billing/credit_notes.py`: the note, its line, its
funding and, when it names an open receivable, its first application are written together.
-/

namespace DotmacSub

open Store Checked Decimal

namespace CreditNotes

open Payments

/-- The policy decision used by preview and execution. -/
structure IssueApplicationDecision where
  disposition : CreditNoteIssueApplicationDisposition
  reason : CreditNoteIssueApplicationReason
  receivableBefore : Option ℚ
  applicationAmount : ℚ
deriving DecidableEq

def retain (reason : CreditNoteIssueApplicationReason) (receivable : Option ℚ) :
    IssueApplicationDecision :=
  ⟨.retainAccountCredit, reason, receivable, 0⟩

def decideForInvoice (invoice : Invoice) (creditTotal : ℚ) (applyOnIssue : Bool) :
    Except DomainError IssueApplicationDecision := do
  let receivable := roundMoney invoice.balanceDue.value
  ensure (invoice.isActive = true)
    (.httpException 400 "Cannot issue a credit note against an inactive invoice")
  ensure (invoice.isProforma = false)
    (.httpException 400 "Cannot issue a credit note against a proforma document")
  if invoice.status = .paid then
    ensure (receivable = 0) (.httpException 409 "Paid invoice has a non-zero receivable")
    return retain .invoiceAlreadyPaid (some receivable)
  else
    ensure (invoice.status ∈ creditApplicableInvoiceStatuses) (.httpException 400
      s!"Cannot issue a credit note against a {invoice.status.value} invoice")
    -- an open invoice can have nothing left to reduce; the value is retained as for a paid one
    if receivable ≤ 0 then return retain .invoiceReceivableExhausted (some receivable)
    else if applyOnIssue = false then return retain .reversibleWorkflowHold (some receivable)
    else return ⟨.applyToInvoice, .invoiceReceivableOpen, some receivable,
      roundMoney (min creditTotal receivable)⟩

/-- What the issue of a note does with its credit after funding it. -/
def decideIssueApplication (invoice : Option Invoice) (creditTotal : ℚ) (applyOnIssue : Bool) :
    Except DomainError IssueApplicationDecision :=
  match invoice with
  | none => return retain .noInvoiceNamed none
  | some invoice => decideForInvoice invoice creditTotal applyOnIssue

structure CreditNoteIssuePreviewRequest where
  accountId : ℕ
  invoiceId : Option ℕ
  creditNumber : Option String
  currency : String
  subtotal : ℚ
  taxTotal : ℚ
  total : ℚ
  memo : Option String
  lineDescription : Option String
  lineTaxRateId : Option ℕ
  lineTaxApplication : TaxApplication

structure CreditNoteIssueRequest extends CreditNoteIssuePreviewRequest where
  previewFingerprint : String
  idempotencyKey : String

structure CreditIssuePreview where
  creditTotal : ℚ
  prepaidFundingBefore : ℚ
  prepaidFundingAfter : ℚ
  decision : IssueApplicationDecision
  invoiceReceivableAfter : Option ℚ
  residualCredit : ℚ
  settlesInvoice : Bool
  fingerprint : String

def resolveIssueInvoice (db : CreditNoteTables) (accountId : ℕ) (invoiceId : Option ℕ)
    (currency : String) : Except DomainError (Option Invoice) := do
  validateAccount db accountId
  match invoiceId with
  | none => return none
  | some invoiceId => do
      let invoice ← orRefuse (db.invoices.get? invoiceId) (.httpException 404 "Invoice not found")
      ensure (invoice.accountId = accountId)
        (.httpException 400 "Invoice does not belong to account")
      ensure (invoice.currency = currency) (.httpException 400 "Currency does not match invoice")
      return some invoice

def issueFingerprint (env : CreditNoteEnv) (request : CreditNoteIssuePreviewRequest)
    (creditNoteId : Option ℕ) (applyOnIssue : Bool) (total walletBefore : ℚ)
    (decision : IssueApplicationDecision) : String :=
  env.fingerprint [.text "credit_note_issue", .text (if applyOnIssue then "True" else "False"),
    .number decision.applicationAmount, .text decision.disposition.value,
    .text decision.reason.value, .optionalId creditNoteId, .id request.accountId,
    .optionalId request.invoiceId, .text (request.creditNumber.getD "None"),
    .text request.currency, .number (roundMoney request.subtotal),
    .number (roundMoney request.taxTotal), .number total, .text (request.memo.getD "None"),
    .text (request.lineDescription.getD "None"), .optionalId request.lineTaxRateId,
    .text request.lineTaxApplication.value, .number walletBefore,
    match decision.receivableBefore with
    | none => .text "None"
    | some receivable => .number receivable]

/-- An issue as it would be recorded, or why it is refused. -/
def buildIssuePreview (env : CreditNoteEnv) (db : CreditNoteTables)
    (request : CreditNoteIssuePreviewRequest) (creditNoteId : Option ℕ) (applyOnIssue : Bool) :
    Except DomainError CreditIssuePreview := do
  let total := roundMoney request.total
  validateCreditNoteTotals request.subtotal request.taxTotal total none
  ensure (0 < total) (.httpException 400 "Credit total must be greater than 0")
  let invoice ← resolveIssueInvoice db request.accountId request.invoiceId request.currency
  let decision ← decideIssueApplication invoice total applyOnIssue
  let walletBefore := env.customerBalance db.toBillingTables request.accountId request.currency
  let receivableAfter := decision.receivableBefore.map fun receivable =>
    roundMoney (receivable - decision.applicationAmount)
  let residualCredit := roundMoney (total - decision.applicationAmount)
  return {
    creditTotal := total
    prepaidFundingBefore := walletBefore
    prepaidFundingAfter := roundMoney (walletBefore + residualCredit)
    decision
    invoiceReceivableAfter := receivableAfter
    residualCredit
    settlesInvoice := 0 < decision.applicationAmount ∧ receivableAfter = some 0
    fingerprint := issueFingerprint env request creditNoteId applyOnIssue total walletBefore
      decision }

/-- The note that a command issued, its funding and the application made with it. -/
structure CreditIssueResult where
  creditNoteId : ℕ
  fundingLedgerEntryId : ℕ
  idempotentReplay : Bool
  applicationId : Option ℕ
deriving DecidableEq

def issueIdempotencyScope : String := "credit_note_issue"

def validateFundingEntry (note : CreditNote) (entry : LedgerEntry) (expectedAmount : Option ℚ) :
    Except DomainError Unit :=
  ensure (fundsNote note entry = true ∧
      roundMoney entry.amount.value = roundMoney (expectedAmount.getD note.total.value))
    (.httpException 409 "Ledger entry does not exactly fund the required credit-note amount")

def postsApplication (note : CreditNote) (amount : ℚ) (e : LedgerEntry) : Bool :=
  e.isActive ∧ e.accountId = note.accountId ∧ e.invoiceId = note.invoiceId ∧
    e.entryType = .credit ∧ e.source = .creditNote ∧ e.currency = note.currency ∧
    roundMoney e.amount.value = amount

/-- The application under the key of an issue, if its evidence holds. -/
def issueApplicationReplay (env : CreditNoteEnv) (db : CreditNoteTables) (issueKey : String)
    (note : CreditNote) : Except DomainError (Option ℕ) :=
  match reservation db applicationIdempotencyScope (env.issueApplicationKey issueKey) with
  | none => return none
  | some reserved => do
      let refId ← orRefuse reserved.refId
        (.httpException 409 "Credit note issue application is being processed")
      ensure (reserved.accountId = note.accountId)
        (.httpException 409 "Credit note issue application belongs to another account")
      let application ← orRefuse (db.creditNoteApplications.get? refId)
        (.httpException 409 "Credit note issue application evidence is incomplete")
      ensure (note.invoiceId ≠ none)
        (.httpException 409 "Credit note issue application evidence is incomplete")
      let amount := roundMoney application.amount.value
      ensure (application.creditNoteId = note.id ∧ some application.invoiceId = note.invoiceId ∧
          application.previewFingerprint ≠ none ∧ 0 < amount)
        (.httpException 409 "Credit note issue application evidence does not match the issue")
      let entryId ← orRefuse application.ledgerEntryId
        (.httpException 409 "Credit note issue application is missing ledger evidence")
      ensure ((db.ledgerEntries.get? entryId).any (postsApplication note amount) = true)
        (.httpException 409 "Credit note issue application ledger evidence is incomplete")
      ensure ((application.consumptionLedgerEntryId.bind db.ledgerEntries.get?).any
          (consumesNote note amount) = true)
        (.httpException 409 "Credit note issue consumption evidence is incomplete")
      return some application.id

/-- What a key answers that issued a note before. -/
def issueReplay (env : CreditNoteEnv) (db : CreditNoteTables) (key previewFingerprint : String) :
    Except DomainError (Option CreditIssueResult) :=
  match reservation db issueIdempotencyScope key with
  | none => return none
  | some reserved => do
      let refId ← orRefuse reserved.refId
        (.httpException 409 "Credit note issue is being processed")
      let note ← orRefuse (db.creditNotes.get? refId)
        (.httpException 409 "Credit note issue evidence is incomplete")
      let fundingId ← orRefuse note.fundingLedgerEntryId
        (.httpException 409 "Credit note issue evidence is incomplete")
      ensure (note.issuePreviewFingerprint = some previewFingerprint)
        (.httpException 409 "Idempotency key was used with a different issue confirmation")
      let funding ← orRefuse (db.ledgerEntries.get? fundingId)
        (.httpException 409 "Credit note funding evidence was not found")
      validateFundingEntry note funding none
      let applicationId ← issueApplicationReplay env db key note
      return some ⟨note.id, fundingId, true, applicationId⟩

def hasLine (request : CreditNoteIssuePreviewRequest) : Bool :=
  request.lineDescription.any (· ≠ "")

def newNote (env : CreditNoteEnv) (db : CreditNoteTables) (request : CreditNoteIssuePreviewRequest)
    (preview : CreditIssuePreview) (id : ℕ) : CreditNote where
  id
  accountId := request.accountId
  invoiceId := request.invoiceId
  creditNumber := some ((request.creditNumber.filter (· ≠ "")).getD (env.creditNumber db))
  status := .issued
  currency := request.currency
  subtotal := .store 2 (roundMoney request.subtotal)
  taxTotal := .store 2 (roundMoney request.taxTotal)
  total := .store 2 preview.creditTotal
  appliedTotal := .store 2 0
  memo := request.memo
  isActive := true
  issuedAt := some env.now
  fundingLedgerEntryId := none
  issuePreviewFingerprint := some preview.fingerprint
  voidLedgerEntryId := none
  voidPreviewFingerprint := none

/-- The line of an accepted request.  Its amount is the total when it contains the tax. -/
def newLine (request : CreditNoteIssuePreviewRequest) (preview : CreditIssuePreview)
    (creditNoteId id : ℕ) : CreditNoteLine where
  id
  creditNoteId
  description := request.lineDescription.getD ""
  amount := .store 2 (if request.lineTaxApplication = .inclusive then preview.creditTotal
    else roundMoney request.subtotal)
  taxRateId := request.lineTaxRateId
  taxApplication := request.lineTaxApplication
  isActive := true

def addNote (env : CreditNoteEnv) (db : CreditNoteTables) (request : CreditNoteIssuePreviewRequest)
    (preview : CreditIssuePreview) : CreditNoteTables :=
  let noteId := db.creditNotes.next
  { db with
    creditNotes := db.creditNotes.insert (newNote env db request preview) fun _ => rfl
    creditNoteLines := if hasLine request then
        db.creditNoteLines.insert (newLine request preview noteId) fun _ => rfl
      else db.creditNoteLines }

def fundingEntry (note : CreditNote) (amount : ℚ) : LedgerEntryCreate where
  accountId := note.accountId
  invoiceId := none
  entryType := .credit
  source := .creditNote
  amount
  currency := note.currency

/-- Apply a freshly issued note to the invoice it names, in the transaction of the issue. -/
def stageIssueApplication (env : CreditNoteEnv) (db : CreditNoteTables) (note : CreditNote)
    (issueKey : String) (issuePreview : CreditIssuePreview) (applyOnIssue : Bool)
    (memo : Option String) : Except DomainError (CreditNoteTables × Option ℕ) :=
  let decisionChanged : DomainError :=
    .httpException 409 "Credit note issue application decision changed"
  match note.invoiceId with
  | none => do
      ensure (issuePreview.decision.disposition = .retainAccountCredit ∧
        issuePreview.decision.reason = .noInvoiceNamed) decisionChanged
      return (db, none)
  | some invoiceId => do
      let invoice ← orRefuse (db.invoices.get? invoiceId) (.httpException 404 "Invoice not found")
      let decision ← decideIssueApplication (some invoice) (roundMoney note.total.value)
        applyOnIssue
      ensure (decision.disposition = issuePreview.decision.disposition ∧
        decision.reason = issuePreview.decision.reason ∧
        decision.applicationAmount = issuePreview.decision.applicationAmount) decisionChanged
      if decision.disposition = .retainAccountCredit then return (db, none)
      else do
        let preview ← buildApplicationPreview env note invoice none
        ensure (preview.applyAmount = issuePreview.decision.applicationAmount)
          (.httpException 409 "Credit note issue application amount changed")
        let key := env.issueApplicationKey issueKey
        ensure (reservation db applicationIdempotencyScope key = none)
          (.integrityError "uq_idempotency_scope_key")
        let (staged, applicationId) ← stageApplicationWithEvidence env db note preview key memo
        return (staged, some applicationId)

/-- A previewed note is issued and funded. -/
def recordIssue (env : CreditNoteEnv) (db : CreditNoteTables) (payload : CreditNoteIssueRequest)
    (key : String) (applyOnIssue : Bool) :
    Except DomainError (CreditNoteTables × CreditIssueResult) := do
  let request := payload.toCreditNoteIssuePreviewRequest
  ensure (∀ invoiceId ∈ payload.invoiceId, (db.invoices.get? invoiceId).isSome = true)
    (.httpException 404 "Invoice not found")
  let preview ← buildIssuePreview env db request none applyOnIssue
  ensure (preview.fingerprint = payload.previewFingerprint)
    (.httpException 409 "Financial state changed after preview; preview again")
  let noteId := db.creditNotes.next
  let note := newNote env db request preview noteId
  let (funded, fundingId) ← createLedgerEntry (addNote env db request preview)
    (fundingEntry note preview.creditTotal)
  -- the flush of the line
  onlyIf (hasLine request = true) <| ensure
    (∀ rateId ∈ request.lineTaxRateId, ∃ rate ∈ db.taxRates, rate.id = rateId)
    (.integrityError "credit_note_lines_tax_rate_id_fkey")
  let linked := { note with fundingLedgerEntryId := some fundingId }
  let issued := reserve (writeNote funded linked)
    ⟨issueIdempotencyScope, key, payload.accountId, some noteId⟩
  let (staged, applicationId) ← stageIssueApplication env issued linked key preview applyOnIssue
    payload.memo
  return (staged, ⟨noteId, fundingId, false, applicationId⟩)

def issueWithEvidence (env : CreditNoteEnv) (db : CreditNoteTables)
    (payload : CreditNoteIssueRequest) (applyOnIssue : Bool) :
    Except DomainError (CreditNoteTables × CreditIssueResult) := do
  let key ← normalizeIdempotencyKey payload.idempotencyKey
  match ← issueReplay env db key payload.previewFingerprint with
  | some replay => return (db, replay)
  | none => recordIssue env db payload key applyOnIssue

end CreditNotes

end DotmacSub
