import DotmacSub.Billing.Common
import DotmacSub.Billing.ServiceExtensions
import DotmacSub.Models.PrepaidRenewal

/-!
# Account adjustments

`services/billing/adjustments.py`: a debit against the funding of an account is previewed, confirmed
with the fingerprint of its preview, and reversed by the opposite entry.
-/

namespace DotmacSub.PrepaidService

open Store Checked Payments ServiceExtensions

/-- What is hashed for the fingerprint of a debit. -/
structure AdjustmentMaterial where
  accountId : ℕ
  category : LedgerCategory
  amount : ℚ
  currency : String
  memo : String
  reason : String
  origin : AccountAdjustmentOrigin
  originRef : Option Reference
  prepaidFundingBefore : ℚ
  prepaidFundingAfter : ℚ
  postpaidReceivables : ℚ
  collectionBlockingBalance : ℚ
  allowed : Bool
deriving DecidableEq

structure ReversalMaterial where
  adjustmentId : ℕ
  accountId : ℕ
  amount : ℚ
  currency : String
  prepaidFundingBefore : ℚ
  prepaidFundingAfter : ℚ
  reversesLedgerEntryId : ℕ
  reason : String
deriving DecidableEq

/-- What the owners read from others: who has an account and which mode it is in, the settings, what
funds an account besides the entries here (none without a verified baseline), its invoices, the
entries that were reversed before a reversal named its entry, and the digests and dates that are
printed. -/
structure RenewalEnv where
  accountExists : ℕ → Bool
  effectiveMode : ℕ → BillingMode
  defaultCurrency : Option String
  prepaidEnforcementCurrency : Option String
  otherFunding : ℕ → String → Option Money
  accountCreditBalance : List LedgerEntry → ℕ → String → ℚ
  openInvoiceBalance : ℕ → ℚ
  collectionBlockingBalance : ℕ → ℚ
  legacyReversed : ℕ → Bool
  adjustmentFingerprint : AdjustmentMaterial → String
  reversalFingerprint : ReversalMaterial → String
  date : ℤ → String

def LedgerEntry.signedAmount (entry : LedgerEntry) : ℚ :=
  match entry.entryType with
  | .credit => entry.amount.value
  | .debit => -entry.amount.value

def LedgerEntry.moves (accountId : ℕ) (currency : String) (entry : LedgerEntry) : Bool :=
  entry.accountId = accountId ∧ entry.currency = currency ∧ entry.isActive ∧
    entry.affectsCustomerPosition ∧ (entry.source = .adjustment ∨ entry.source = .other)

def ledgerPosition (db : RenewalTables) (accountId : ℕ) (currency : String) : ℚ :=
  ((db.ledgerEntries.rows.filter (LedgerEntry.moves accountId currency)).map
    (·.signedAmount)).sum

def verifiedPrepaidFundingBalance (env : RenewalEnv) (db : RenewalTables) (accountId : ℕ)
    (currency : String) : Except Refusal ℚ := do
  let other ← orRefuse (env.otherFunding accountId currency) .prepaidFundingBaselineMissing
  pure (roundMoney (other.value + ledgerPosition db accountId currency))

def isCurrencyCode (currency : String) : Bool :=
  currency.length = 3 && currency.toList.all (·.isAlpha)

/-- `str(value).strip().upper()`. -/
def upper (value : String) : String :=
  .ofList ((Text.strip value).toList.map Char.toUpper)

def resolvePrepaidEnforcementCurrency (env : RenewalEnv) : Except Refusal String := do
  let currency := (env.prepaidEnforcementCurrency.map upper).getD ""
  ensure (isCurrencyCode currency) .prepaidCurrency
  pure currency

/-- The wallet balance that access is resolved from; the position asks for no currency. -/
def prepaidAvailableBalance (env : RenewalEnv) (db : RenewalTables) (accountId : ℕ) :
    Except Refusal ℚ :=
  if env.effectiveMode accountId ≠ .prepaid then pure 0
  else do
    let currency ← resolvePrepaidEnforcementCurrency env
    verifiedPrepaidFundingBalance env db accountId currency

structure AccountAdjustmentPreviewRequest where
  accountId : ℕ
  category : LedgerCategory
  amount : ℚ
  currency : Option String
  memo : String
  reason : String
deriving DecidableEq

structure AccountAdjustmentPreview where
  accountId : ℕ
  category : LedgerCategory
  amount : ℚ
  currency : String
  memo : String
  reason : String
  origin : AccountAdjustmentOrigin
  originRef : Option Reference
  prepaidFundingBefore : ℚ
  prepaidFundingAfter : ℚ
  postpaidReceivables : ℚ
  collectionBlockingBalance : ℚ
  shortfall : ℚ
  allowed : Bool
  fingerprint : String
deriving DecidableEq

def requireText (value field : String) : Except Refusal String := do
  let normalized := Text.strip value
  ensure (normalized ≠ "") (.adjustment (.invalidCommand field))
  pure normalized

/-- `(query.origin_ref or "").strip() or None`. -/
def normalizedRef : Option Reference → Option Reference
  | some (.text value) => if Text.strip value = "" then none else some (.text (Text.strip value))
  | originRef => originRef

/-- A debit as it would be recorded.  A renewal is compared with the prepaid position, any other
debit with the credit of the account in its currency. -/
def previewAccountAdjustment (env : RenewalEnv) (db : RenewalTables)
    (payload : AccountAdjustmentPreviewRequest) (origin : AccountAdjustmentOrigin)
    (originRef : Option Reference) : Except Refusal AccountAdjustmentPreview := do
  ensure (env.accountExists payload.accountId) (.adjustment .accountNotFound)
  let amount := roundMoney payload.amount
  ensure (0 < amount) (.adjustment (.invalidCommand "amount"))
  let currency := upper ((payload.currency.orElse fun _ => env.defaultCurrency).getD "")
  ensure (isCurrencyCode currency) (.adjustment (.invalidConfiguration "currency"))
  let memo ← requireText payload.memo "memo"
  let reason ← requireText payload.reason "reason"
  let available ← prepaidAvailableBalance env db payload.accountId
  let fundingBefore := roundMoney (if origin = .prepaidServiceRenewal then available
    else env.accountCreditBalance db.ledgerEntries.rows payload.accountId currency)
  let shortfall := roundMoney (max 0 (amount - fundingBefore))
  let fundingAfter := roundMoney (fundingBefore - amount)
  let allowed : Bool := shortfall = 0
  let receivables := roundMoney (env.openInvoiceBalance payload.accountId)
  let blocking := roundMoney (env.collectionBlockingBalance payload.accountId)
  let ref := normalizedRef originRef
  pure ⟨payload.accountId, payload.category, amount, currency, memo, reason, origin, ref,
    fundingBefore, fundingAfter, receivables, blocking, shortfall, allowed,
    env.adjustmentFingerprint ⟨payload.accountId, payload.category, amount, currency, memo, reason,
      origin, ref, fundingBefore, fundingAfter, receivables, blocking, allowed⟩⟩

structure AdjustmentContext where
  scope : String
  actorType : Option AuditActorType
  actorId : String
  idempotencyKey : Option Reference
deriving DecidableEq

def accountAdjustmentScope : String := "billing:ledger:write"

def commandActor (context : AdjustmentContext) (idempotencyKey : Reference) :
    Except Refusal Unit := do
  ensure (context.scope = accountAdjustmentScope) (.adjustment (.invalidCommand "scope"))
  ensure (context.idempotencyKey = some idempotencyKey)
    (.adjustment (.invalidCommand "idempotency_key"))
  ensure (context.actorType ≠ none) (.adjustment (.invalidCommand "actor"))
  ensure (Text.strip context.actorId ≠ "") (.adjustment (.invalidCommand "actor"))

/-- What is wrong with the debit entry of an adjustment. -/
def originalEvidenceIssueCodes (db : RenewalTables) (adjustment : AccountAdjustment) :
    List String :=
  match db.ledgerEntries.get? adjustment.ledgerEntryId with
  | none => ["missing_debit_ledger_entry"]
  | some entry =>
    (if entry.accountId ≠ adjustment.accountId then ["debit_account_mismatch"] else []) ++
    (if entry.entryType ≠ .debit then ["debit_type_mismatch"] else []) ++
    (if entry.source ≠ .adjustment then ["debit_source_mismatch"] else []) ++
    (if entry.category ≠ adjustment.category then ["debit_category_mismatch"] else []) ++
    (if roundMoney entry.amount.value ≠ roundMoney adjustment.amount then ["debit_amount_mismatch"]
      else []) ++
    (if entry.currency ≠ adjustment.currency then ["debit_currency_mismatch"] else []) ++
    (if entry.reversalOfEntryId ≠ none then ["debit_is_itself_a_reversal"] else [])

def requireOriginalEvidence (db : RenewalTables) (adjustment : AccountAdjustment) :
    Except Refusal Unit :=
  ensure (originalEvidenceIssueCodes db adjustment = [])
    (.adjustment (.incompleteEvidence (originalEvidenceIssueCodes db adjustment)))

structure ConfirmAccountAdjustmentCommand where
  context : AdjustmentContext
  request : AccountAdjustmentPreviewRequest
  previewFingerprint : String
  idempotencyKey : Reference
  origin : AccountAdjustmentOrigin
  originRef : Option Reference
  ledgerEffectiveDate : Option ℤ
deriving DecidableEq

structure AccountAdjustmentResult where
  adjustment : AccountAdjustment
  ledgerEntry : LedgerEntry
  replayed : Bool
deriving DecidableEq

def existingForKey (db : RenewalTables) (origin : AccountAdjustmentOrigin)
    (idempotencyKey : Reference) : Option AccountAdjustment :=
  db.adjustments.rows.find? fun row => row.origin = origin ∧ row.idempotencyKey = idempotencyKey

/-- The answer for a key that was used before. -/
def confirmationReplay (db : RenewalTables) (existing : AccountAdjustment)
    (command : ConfirmAccountAdjustmentCommand) : Except Refusal AccountAdjustmentResult := do
  ensure (existing.accountId = command.request.accountId) (.adjustment .idempotencyConflict)
  ensure (existing.previewFingerprint = command.previewFingerprint)
    (.adjustment .idempotencyConflict)
  requireOriginalEvidence db existing
  let entry ← orRefuse (db.ledgerEntries.get? existing.ledgerEntryId)
    (.adjustment (.incompleteEvidence ["missing_debit_ledger_entry"]))
  ensure (command.ledgerEffectiveDate = none ∨ entry.effectiveDate = command.ledgerEffectiveDate)
    (.adjustment .idempotencyConflict)
  pure ⟨existing, entry, true⟩

def debitEntry (preview : AccountAdjustmentPreview) (effectiveDate : Option ℤ) (id : ℕ) :
    LedgerEntry :=
  ⟨id, preview.accountId, .debit, .adjustment, preview.category, .store 2 preview.amount,
    preview.currency, effectiveDate, none, true, true⟩

def adjustmentRow (preview : AccountAdjustmentPreview) (idempotencyKey : Reference)
    (ledgerEntryId id : ℕ) : AccountAdjustment :=
  ⟨id, preview.accountId, preview.category, preview.amount, preview.currency, preview.memo,
    preview.reason, preview.origin, preview.originRef, preview.prepaidFundingBefore,
    preview.prepaidFundingAfter, preview.postpaidReceivables, preview.collectionBlockingBalance,
    preview.fingerprint, idempotencyKey, ledgerEntryId, none, none, none, none, none, none, none⟩

/-- The entry and the evidence of a debit are written together. -/
def recordDebit (db : RenewalTables) (preview : AccountAdjustmentPreview)
    (idempotencyKey : Reference) (effectiveDate : Option ℤ) : RenewalTables :=
  { db with
    ledgerEntries := db.ledgerEntries.insert (debitEntry preview effectiveDate) fun _ => rfl
    adjustments := db.adjustments.insert
      (adjustmentRow preview idempotencyKey db.ledgerEntries.next) fun _ => rfl }

/-- Confirm a previewed debit once for its key.  The key is looked up again under the lock, where
nothing can have changed. -/
def stageConfirmation (env : RenewalEnv) (db : RenewalTables)
    (command : ConfirmAccountAdjustmentCommand) :
    Except Refusal (RenewalTables × AccountAdjustmentResult) := do
  commandActor command.context command.idempotencyKey
  match existingForKey db command.origin command.idempotencyKey with
  | some existing => do
    let result ← confirmationReplay db existing command
    pure (db, result)
  | none => do
    let preview ← previewAccountAdjustment env db command.request command.origin command.originRef
    ensure (preview.fingerprint = command.previewFingerprint) (.adjustment .stalePreview)
    ensure preview.allowed (.adjustment .insufficientFunding)
    pure (recordDebit db preview command.idempotencyKey command.ledgerEffectiveDate,
      ⟨adjustmentRow preview command.idempotencyKey db.ledgerEntries.next db.adjustments.next,
        debitEntry preview command.ledgerEffectiveDate db.ledgerEntries.next, false⟩)

/-- Preview and confirm a debit for another owner. -/
def stageSystemAccountAdjustment (env : RenewalEnv) (db : RenewalTables)
    (context : AdjustmentContext) (request : AccountAdjustmentPreviewRequest)
    (origin : AccountAdjustmentOrigin) (originRef : Option Reference) (idempotencyKey : Reference)
    (ledgerEffectiveDate : Option ℤ) :
    Except Refusal (RenewalTables × AccountAdjustmentResult) := do
  let preview ← previewAccountAdjustment env db request origin originRef
  stageConfirmation env db ⟨context, request, preview.fingerprint, idempotencyKey, origin,
    originRef, ledgerEffectiveDate⟩

structure AccountAdjustmentReversalPreview where
  adjustmentId : ℕ
  accountId : ℕ
  amount : ℚ
  currency : String
  prepaidFundingBefore : ℚ
  prepaidFundingAfter : ℚ
  reversesLedgerEntryId : ℕ
  reason : String
  fingerprint : String
deriving DecidableEq

def reversalEvidenceIssueCodes (db : RenewalTables) (adjustment : AccountAdjustment) :
    List String :=
  let given := [adjustment.reversalLedgerEntryId.isSome,
    adjustment.reversalPreviewFingerprint.isSome, adjustment.reversalIdempotencyKey.isSome,
    adjustment.reversalReason.isSome, adjustment.reversalPrepaidFundingBefore.isSome,
    adjustment.reversalPrepaidFundingAfter.isSome, adjustment.reversedAt.isSome]
  if given.all (!·) then []
  else if given.any (!·) then ["partial_reversal_evidence"]
  else
    match adjustment.reversalLedgerEntryId.bind db.ledgerEntries.get? with
    | none => ["missing_reversal_ledger_entry"]
    | some entry =>
      (if entry.accountId ≠ adjustment.accountId then ["reversal_account_mismatch"] else []) ++
      (if entry.entryType ≠ .credit then ["reversal_type_mismatch"] else []) ++
      (if entry.source ≠ .adjustment then ["reversal_source_mismatch"] else []) ++
      (if entry.category ≠ adjustment.category then ["reversal_category_mismatch"] else []) ++
      (if roundMoney entry.amount.value ≠ roundMoney adjustment.amount then
        ["reversal_amount_mismatch"] else []) ++
      (if entry.currency ≠ adjustment.currency then ["reversal_currency_mismatch"] else []) ++
      (if entry.reversalOfEntryId ≠ some adjustment.ledgerEntryId then
        ["reversal_target_mismatch"] else [])

def requireReversalEvidence (db : RenewalTables) (adjustment : AccountAdjustment) :
    Except Refusal Unit :=
  ensure (reversalEvidenceIssueCodes db adjustment = [])
    (.adjustment (.incompleteEvidence (reversalEvidenceIssueCodes db adjustment)))

def refuseReversed (db : RenewalTables) (adjustment : AccountAdjustment) : Except Refusal Unit :=
  onlyIf (adjustment.reversalLedgerEntryId ≠ none) do
    requireReversalEvidence db adjustment
    .error (.adjustment .alreadyReversed)

/-- What the reversal of a debit would give back. -/
def previewAccountAdjustmentReversal (env : RenewalEnv) (db : RenewalTables) (adjustmentId : ℕ)
    (reason : String) : Except Refusal AccountAdjustmentReversalPreview := do
  let adjustment ← orRefuse (db.adjustments.get? adjustmentId) (.adjustment .adjustmentNotFound)
  requireOriginalEvidence db adjustment
  refuseReversed db adjustment
  let reason ← requireText reason "reason"
  let available ← prepaidAvailableBalance env db adjustment.accountId
  let fundingBefore := roundMoney available
  let fundingAfter := roundMoney (fundingBefore + adjustment.amount)
  pure ⟨adjustment.id, adjustment.accountId, roundMoney adjustment.amount, adjustment.currency,
    fundingBefore, fundingAfter, adjustment.ledgerEntryId, reason,
    env.reversalFingerprint ⟨adjustment.id, adjustment.accountId, adjustment.amount,
      adjustment.currency, fundingBefore, fundingAfter, adjustment.ledgerEntryId, reason⟩⟩

structure ReverseAccountAdjustmentCommand where
  context : AdjustmentContext
  adjustmentId : ℕ
  previewFingerprint : String
  idempotencyKey : Reference
  reason : String
  now : ℤ
deriving DecidableEq

def existingForReversalKey (db : RenewalTables) (origin : AccountAdjustmentOrigin)
    (idempotencyKey : Reference) : Option AccountAdjustment :=
  db.adjustments.rows.find? fun row =>
    row.origin = origin ∧ row.reversalIdempotencyKey = some idempotencyKey

/-- The answer for a reversal key that was used before. -/
def reversalReplay (db : RenewalTables) (reused : AccountAdjustment)
    (command : ReverseAccountAdjustmentCommand) : Except Refusal AccountAdjustmentResult := do
  ensure (reused.id = command.adjustmentId) (.adjustment .idempotencyConflict)
  ensure (reused.reversalPreviewFingerprint = some command.previewFingerprint)
    (.adjustment .idempotencyConflict)
  requireOriginalEvidence db reused
  requireReversalEvidence db reused
  let entry ← orRefuse (reused.reversalLedgerEntryId.bind db.ledgerEntries.get?)
    (.adjustment (.incompleteEvidence ["missing_reversal_ledger_entry"]))
  pure ⟨reused, entry, true⟩

def reversalEntry (original : LedgerEntry) (id : ℕ) : LedgerEntry :=
  { original with
    id
    entryType := if original.entryType = .debit then .credit else .debit
    effectiveDate := none
    reversalOfEntryId := some original.id
    isActive := true }

/-- `LedgerEntries.reverse`: the original of a reversal is active, and is reversed once. -/
def originalForReversal (env : RenewalEnv) (db : RenewalTables) (ledgerEntryId : ℕ) :
    Except Refusal LedgerEntry := do
  let original ← orRefuse (db.ledgerEntries.get? ledgerEntryId)
    (.adjustment (.incompleteEvidence []))
  ensure original.isActive (.adjustment (.incompleteEvidence []))
  ensure (∀ entry ∈ db.ledgerEntries.rows, entry.reversalOfEntryId ≠ some original.id)
    (.adjustment (.incompleteEvidence []))
  ensure (!env.legacyReversed original.id) (.adjustment (.incompleteEvidence []))
  pure original

def AccountAdjustment.reversed (preview : AccountAdjustmentReversalPreview)
    (command : ReverseAccountAdjustmentCommand) (ledgerEntryId : ℕ)
    (adjustment : AccountAdjustment) : AccountAdjustment :=
  { adjustment with
    reversalLedgerEntryId := some ledgerEntryId
    reversalPreviewFingerprint := some preview.fingerprint
    reversalIdempotencyKey := some command.idempotencyKey
    reversalReason := some preview.reason
    reversalPrepaidFundingBefore := some preview.prepaidFundingBefore
    reversalPrepaidFundingAfter := some preview.prepaidFundingAfter
    reversedAt := some command.now }

/-- The opposite entry and the evidence of a reversal are written together. -/
def recordReversal (db : RenewalTables) (preview : AccountAdjustmentReversalPreview)
    (command : ReverseAccountAdjustmentCommand) (original : LedgerEntry) : RenewalTables :=
  { db with
    ledgerEntries := db.ledgerEntries.insert (reversalEntry original) fun _ => rfl
    adjustments := db.adjustments.update command.adjustmentId
      (.reversed preview command db.ledgerEntries.next) fun _ => rfl }

/-- Reverse a debit, or answer with the reversal of its key. -/
def stageReversal (env : RenewalEnv) (db : RenewalTables)
    (command : ReverseAccountAdjustmentCommand) :
    Except Refusal (RenewalTables × AccountAdjustmentResult) := do
  commandActor command.context command.idempotencyKey
  let adjustment ← orRefuse (db.adjustments.get? command.adjustmentId)
    (.adjustment .adjustmentNotFound)
  match existingForReversalKey db adjustment.origin command.idempotencyKey with
  | some reused => do
    let result ← reversalReplay db reused command
    pure (db, result)
  | none => do
    requireOriginalEvidence db adjustment
    refuseReversed db adjustment
    let preview ← previewAccountAdjustmentReversal env db adjustment.id command.reason
    ensure (preview.fingerprint = command.previewFingerprint) (.adjustment .stalePreview)
    let original ← originalForReversal env db adjustment.ledgerEntryId
    pure (recordReversal db preview command original,
      ⟨adjustment.reversed preview command db.ledgerEntries.next,
        reversalEntry original db.ledgerEntries.next, false⟩)

end DotmacSub.PrepaidService
