import DotmacSub.Models.Billing

/-!
# Credit note records

The rows of `models/billing.py` that the credit-note owner reads and writes beside the invoices and
the ledger.  The links of reversing entries to the entries they reverse are a column of the ledger
that only this owner and the ledger owner read; it is a table of its own here.
-/

namespace DotmacSub

open Store Decimal

inductive CreditNoteStatus
  | draft
  | issued
  | partiallyApplied
  | applied
  | void
deriving DecidableEq

inductive CreditNoteIssueApplicationDisposition
  | applyToInvoice
  | retainAccountCredit
deriving DecidableEq

def CreditNoteIssueApplicationDisposition.value : CreditNoteIssueApplicationDisposition → String
  | applyToInvoice => "apply_to_invoice"
  | retainAccountCredit => "retain_account_credit"

/-- Why the owner selected the disposition. -/
inductive CreditNoteIssueApplicationReason
  | invoiceReceivableOpen
  | invoiceAlreadyPaid
  | invoiceReceivableExhausted
  | noInvoiceNamed
  | reversibleWorkflowHold
deriving DecidableEq

def CreditNoteIssueApplicationReason.value : CreditNoteIssueApplicationReason → String
  | invoiceReceivableOpen => "invoice_receivable_open"
  | invoiceAlreadyPaid => "invoice_already_paid"
  | invoiceReceivableExhausted => "invoice_receivable_exhausted"
  | noInvoiceNamed => "no_invoice_named"
  | reversibleWorkflowHold => "reversible_workflow_hold"

def TaxApplication.value : TaxApplication → String
  | exclusive => "exclusive"
  | inclusive => "inclusive"
  | exempt => "exempt"

/-- A credit note.  An issued one is backed by one exact unallocated ledger credit. -/
structure CreditNote where
  id : ℕ
  accountId : ℕ
  invoiceId : Option ℕ
  creditNumber : Option String
  status : CreditNoteStatus
  currency : String
  subtotal : Money
  taxTotal : Money
  total : Money
  appliedTotal : Money
  memo : Option String
  isActive : Bool
  issuedAt : Option ℤ
  fundingLedgerEntryId : Option ℕ
  issuePreviewFingerprint : Option String
  voidLedgerEntryId : Option ℕ
  voidPreviewFingerprint : Option String
deriving DecidableEq

structure CreditNoteLine where
  id : ℕ
  creditNoteId : ℕ
  description : String
  amount : Money
  taxRateId : Option ℕ
  taxApplication : TaxApplication
  isActive : Bool
deriving DecidableEq

/-- What a credit note gave to an invoice, with the entries that are its evidence. -/
structure CreditNoteApplication where
  id : ℕ
  creditNoteId : ℕ
  invoiceId : ℕ
  ledgerEntryId : Option ℕ
  consumptionLedgerEntryId : Option ℕ
  previewFingerprint : Option String
  amount : Money
  memo : Option String
deriving DecidableEq

structure CreditNoteReservation where
  scope : String
  key : String
  accountId : ℕ
  refId : Option ℕ
deriving DecidableEq

/-- `reversal_of_entry_id` of a ledger entry that reverses another. -/
structure LedgerReversal where
  entryId : ℕ
  reversalOfEntryId : ℕ
deriving DecidableEq

instance : Row CreditNote := ⟨CreditNote.id⟩
instance : Row CreditNoteLine := ⟨CreditNoteLine.id⟩
instance : Row CreditNoteApplication := ⟨CreditNoteApplication.id⟩

/-- The billing tables with those of credit notes. -/
structure CreditNoteTables extends BillingTables where
  accounts : List ℕ
  creditNotes : Table CreditNote
  creditNoteLines : Table CreditNoteLine
  creditNoteApplications : Table CreditNoteApplication
  reservations : List CreditNoteReservation
  reversals : List LedgerReversal

def CreditNoteTables.reversalOf (db : CreditNoteTables) (entryId : ℕ) : Option ℕ :=
  (db.reversals.find? (·.entryId = entryId)).map (·.reversalOfEntryId)

/-- The references between the rows are to identifiers that were handed out. -/
structure CreditNoteTables.ForeignKeys (db : CreditNoteTables) : Prop where
  lines : ∀ line ∈ db.creditNoteLines.rows, line.creditNoteId < db.creditNotes.next
  applications : ∀ a ∈ db.creditNoteApplications.rows, a.creditNoteId < db.creditNotes.next
  reversals : ∀ r ∈ db.reversals, r.entryId < db.ledgerEntries.next

end DotmacSub
