import DotmacSub.Models.BillingRecords
import DotmacSub.Models.Runtime

/-!
# Versioned contract terms

The command owner of `services/billing/contracts.py` over its tables.  Every command is a function
from the database to the next one or to the error it is refused with; a refusal rolls back.

`flushVersions` stands for the constraints of the version table, the exclusion constraint of the
production database among them.
-/

namespace DotmacSub

open Store Checked Gregorian Cadence Decimal

/-- One recurring line handed to the obligation owner. -/
structure ObligationInput where
  contractVersionId : ℕ
  contractLineKey : ℕ
  periodIndex : ℕ
deriving DecidableEq

structure ContractVersionResult where
  contractId : ℕ
  versionId : ℕ
  version : ℕ
  authority : BillingRecordAuthority
  lineIds : List ℕ
  replayed : Bool
deriving DecidableEq

/-- The output `billing.contracts.shadow_recorded`. -/
structure ShadowRecordedOutput where
  sourceKind : String
  sourceId : ℕ
  salesOrderId : ℕ
  contractChangeKind : String
  subscriptionId : Option ℕ
  contracts : List (ℕ × ℕ × BillingRecordAuthority)
  obligations : List ObligationInput
deriving DecidableEq

/-- The tables of the contract and obligation owners. -/
structure BillingDb where
  contracts : Table BillingContract
  versions : Table BillingContractVersion
  lines : Table BillingContractLine
  obligations : Table BillingObligation
  timers : Table DurableTimer
  receipts : List OwnerOutputReceipt
  outbox : List ShadowRecordedOutput
  salesOrderLines : List SalesOrderLine
  taxRates : List TaxRate
  nextLineKey : ℕ

/-- What the owners read from outside the database: the zone database, and the authority that the
declared migration state permits. -/
structure BillingEnv where
  zoneInfo : String → Option Zone
  permittedAuthority : BillingRecordAuthority

structure CommandContext where
  reason : String
  idempotencyKey : String

namespace Contracts

def owner : String := "billing.contracts"

def pendingTermsEffectiveTrigger : String := "billing.contracts.pending_terms_effective_due"

def error (suffix message : String) (details : List (String × Detail) := []) : DomainError :=
  ⟨owner ++ "." ++ suffix, message, details⟩

/-- A cadence refusal, as it leaves this owner. -/
def ofCadence {α : Type} (x : Except CadenceError α) : Except DomainError α :=
  x.mapError fun e => ⟨e.code, e.message, []⟩

/-! ## Constraints of the version table -/

/-- Two half-open ranges overlap; a missing end is open. -/
def rangesOverlap (s₁ : ℤ) (e₁ : Option ℤ) (s₂ : ℤ) (e₂ : Option ℤ) : Prop :=
  (∀ e ∈ e₂, s₁ < e) ∧ ∀ e ∈ e₁, s₂ < e

instance (s₁ : ℤ) (e₁ : Option ℤ) (s₂ : ℤ) (e₂ : Option ℤ) : Decidable (rangesOverlap s₁ e₁ s₂ e₂) :=
  inferInstanceAs (Decidable (_ ∧ _))

def versionWellFormed (v : BillingContractVersion) : Prop :=
  (∀ e ∈ v.endsAt, v.startsAt < e) ∧ 0 ≤ v.contractedPrice.value

instance (v : BillingContractVersion) : Decidable (versionWellFormed v) :=
  inferInstanceAs (Decidable (_ ∧ _))

/-- Two versions of one contract have different numbers, and effective ones do not overlap. -/
def versionsCompatible (v w : BillingContractVersion) : Prop :=
  v.contractId = w.contractId → v.version ≠ w.version ∧
    (v.status = .effective → w.status = .effective →
      ¬ rangesOverlap v.startsAt v.endsAt w.startsAt w.endsAt)

instance (v w : BillingContractVersion) : Decidable (versionsCompatible v w) :=
  inferInstanceAs (Decidable (_ → _ ∧ (_ → _ → ¬ _)))

def versionsConsistent (rows : List BillingContractVersion) : Prop :=
  (∀ v ∈ rows, versionWellFormed v) ∧ rows.Pairwise versionsCompatible

instance (rows : List BillingContractVersion) : Decidable (versionsConsistent rows) :=
  inferInstanceAs (Decidable (_ ∧ _))

def flushVersions (db : BillingDb) : Except DomainError BillingDb := do
  ensure (versionsConsistent db.versions.rows) (.integrityError "billing_contract_versions")
  return db

def lineWellFormed (l : BillingContractLine) : Prop :=
  0 ≤ l.unitPrice.value ∧ 0 < l.quantity.value

instance (l : BillingContractLine) : Decidable (lineWellFormed l) :=
  inferInstanceAs (Decidable (_ ∧ _))

/-- Two lines of one version differ in component or key. -/
def linesCompatible (l m : BillingContractLine) : Prop :=
  l.contractVersionId = m.contractVersionId →
    l.chargeComponent = m.chargeComponent → l.componentKey ≠ m.componentKey

instance (l m : BillingContractLine) : Decidable (linesCompatible l m) :=
  inferInstanceAs (Decidable (_ → _ → _))

def flushLines (db : BillingDb) : Except DomainError BillingDb := do
  ensure ((∀ l ∈ db.lines.rows, lineWellFormed l) ∧ db.lines.rows.Pairwise linesCompatible)
    (.integrityError "billing_contract_lines")
  return db

def currentEffective (db : BillingDb) (contractId : ℕ) : Option BillingContractVersion :=
  db.versions.rows.find? fun v =>
    v.contractId = contractId ∧ v.status = .effective ∧ v.endsAt = none

def drafts (db : BillingDb) (contractId : ℕ) : List BillingContractVersion :=
  db.versions.rows.filter fun v => v.contractId = contractId ∧ v.status = .draft

def nextVersion (db : BillingDb) (contractId : ℕ) : ℕ :=
  ((db.versions.rows.filter (·.contractId = contractId)).map
    BillingContractVersion.version).foldl max 0 + 1

def cadenceOf (env : BillingEnv) (version : BillingContractVersion) :
    Except CadenceError BillingCadence :=
  BillingCadence.new env.zoneInfo version.terms

def lineFor (db : BillingDb) (versionId : ℕ) (component : ChargeComponent) (key : String) :
    Option BillingContractLine :=
  db.lines.rows.find? fun l =>
    l.contractVersionId = versionId ∧ l.chargeComponent = component ∧ l.componentKey = key

/-- The lineage key of a component in the latest version of the contract that carries it. -/
def existingLineKey (db : BillingDb) (contractId : ℕ) (component : ChargeComponent)
    (key : String) : Option ℕ :=
  let carriers := (db.versions.rows.filter fun v =>
    v.contractId = contractId ∧ (lineFor db v.id component key).isSome).insertionSort
      (fun v w => w.version ≤ v.version)
  carriers.head?.bind fun v => (lineFor db v.id component key).map
    BillingContractLine.contractLineKey

/-- Reuse the lineage key so obligations survive a supersession, or draw a new one. -/
def inheritedLineKey (db : BillingDb) (contractId : ℕ) (component : ChargeComponent)
    (key : String) : BillingDb × ℕ :=
  match existingLineKey db contractId component key with
  | some lineKey => (db, lineKey)
  | none => ({ db with nextLineKey := db.nextLineKey + 1 }, db.nextLineKey)

/-- The version effective at a moment: the latest effective or superseded one whose interval
contains it. -/
def effectiveVersionAt (db : BillingDb) (subscriptionId : ℕ) (moment : Moment) :
    Except DomainError (Option BillingContractVersion) :=
  match moment with
  | .naive _ => .error (error "invalid_contract_terms"
      "Effective-version lookup requires a timezone-aware instant.")
  | .aware moment =>
    let contracts := (db.contracts.rows.filter (·.subscriptionId = subscriptionId)).map
      BillingContract.id
    let versions := db.versions.rows.filter fun v =>
      v.contractId ∈ contracts ∧ (v.status = .effective ∨ v.status = .superseded) ∧
        v.startsAt ≤ moment ∧ ∀ e ∈ v.endsAt, moment < e
    .ok (versions.insertionSort (fun v w => w.version ≤ v.version)).head?

/-- One charge component of a contracted version. -/
structure ContractLineInput where
  chargeComponent : ChargeComponent
  description : String
  unitPrice : ℚ
  currency : String
  accountingTreatment : AccountingTreatment
  quantity : ℚ := 1
  componentKey : String := ""
  isFinite : Bool := false
  taxTreatmentCode : Option String := none
  contractLineKey : Option ℕ := none

/-- Typed request to record one immutable set of contracted terms. -/
structure RecordContractVersionCommand where
  accountId : ℕ
  subscriptionId : ℕ
  sourceKind : BillingContractSourceKind
  sourceId : ℕ
  startsAt : Moment
  contractedPrice : ℚ
  currency : String
  cadence : BillingCadence
  lines : List ContractLineInput
  sourceVersion : ℕ := 1
  endsAt : Option ℤ := none
  taxTreatmentCode : Option String := none
  taxInclusive : Bool := false

def validateLine (currency : String) (line : ContractLineInput) : Except DomainError Unit := do
  ensure (line.currency = currency) (error "mixed_currency_contract"
    "Every contract line must use the contract currency."
    [("line_currency", .text line.currency), ("contract_currency", .text currency)])
  ensure (0 ≤ line.unitPrice ∧ 0 < line.quantity) (error "invalid_contract_terms"
    "Line unit price must be non-negative and quantity positive.")

def requireStart (startsAt : Moment) : Except DomainError ℤ :=
  match startsAt with
  | .naive _ => .error (error "invalid_contract_terms" "Contract start must be timezone-aware.")
  | .aware startsAt => .ok startsAt

/-- The checks on a command; returns the start as an instant. -/
def validate (command : RecordContractVersionCommand) : Except DomainError ℤ := do
  let startsAt ← requireStart command.startsAt
  ensure (∀ e ∈ command.endsAt, startsAt < e) (error "invalid_contract_terms"
    "Contract version must end after it starts.")
  ensure (0 ≤ command.contractedPrice) (error "invalid_contract_terms"
    "Contracted price cannot be negative.")
  ensure (command.currency.length = 3) (error "invalid_contract_terms"
    "Currency must be a three-letter code." [("currency", .text command.currency)])
  ensure (command.lines ≠ []) (error "invalid_contract_terms"
    "A contract version requires at least one line.")
  command.lines.forM (validateLine command.currency)
  ensure (command.lines.map fun l => (l.chargeComponent, l.componentKey)).Nodup
    (error "duplicate_contract_line"
      "Two lines share the same charge component and component key.")
  return startsAt

def ensureContract (db : BillingDb) (accountId subscriptionId : ℕ)
    (authority : BillingRecordAuthority) : Except DomainError (BillingDb × BillingContract) :=
  match db.contracts.rows.find? (·.subscriptionId = subscriptionId) with
  | some contract => do
      ensure (contract.accountId = accountId) (error "contract_account_mismatch"
        "Subscription already has a contract under another account."
        [("contract_account_id", .id contract.accountId), ("requested_account_id", .id accountId)])
      return (db, contract)
  | none =>
    let contract : ℕ → BillingContract := fun id => { id, accountId, subscriptionId, authority }
    .ok ({ db with contracts := db.contracts.insert contract fun _ => rfl },
      contract db.contracts.next)

/-- A version closed at an instant: the half-open intervals stay contiguous. -/
def closed (at_ : ℤ) (v : BillingContractVersion) : BillingContractVersion :=
  { v with endsAt := some at_, status := .superseded, supersededAt := some at_ }

lemma id_closed (at_ : ℤ) (v : BillingContractVersion) : Row.id (closed at_ v) = Row.id v := rfl

def supersede (db : BillingDb) (versionId : ℕ) (at_ : ℤ) : BillingDb :=
  { db with versions := db.versions.update versionId (closed at_) (id_closed at_) }

def lineRow (versionId lineKey : ℕ) (line : ContractLineInput) (id : ℕ) : BillingContractLine where
  id
  contractVersionId := versionId
  contractLineKey := lineKey
  chargeComponent := line.chargeComponent
  componentKey := line.componentKey
  description := line.description
  quantity := .store 4 line.quantity
  unitPrice := .store 4 line.unitPrice
  currency := line.currency
  accountingTreatment := line.accountingTreatment
  isFinite := line.isFinite
  taxTreatmentCode := line.taxTreatmentCode

def lineKeyFor (db : BillingDb) (contractId : ℕ) (line : ContractLineInput) : BillingDb × ℕ :=
  match line.contractLineKey with
  | some lineKey => (db, lineKey)
  | none => inheritedLineKey db contractId line.chargeComponent line.componentKey

def addLine (db : BillingDb) (contractId versionId : ℕ) (line : ContractLineInput) :
    Except DomainError (BillingDb × ℕ) := do
  let keyed := lineKeyFor db contractId line
  let db' ← flushLines { keyed.1 with
    lines := keyed.1.lines.insert (lineRow versionId keyed.2 line) fun _ => rfl }
  return (db', keyed.1.lines.next)

def addLines (contractId versionId : ℕ) :
    List ContractLineInput → BillingDb → Except DomainError (BillingDb × List ℕ)
  | [], db => .ok (db, [])
  | line :: lines, db => do
      let (db, id) ← addLine db contractId versionId line
      let (db, ids) ← addLines contractId versionId lines db
      return (db, id :: ids)

def lineIds (db : BillingDb) (versionId : ℕ) : List ℕ :=
  (db.lines.rows.filter (·.contractVersionId = versionId)).map BillingContractLine.id

def supersedeCurrent (db : BillingDb) (current : Option BillingContractVersion) (at_ : ℤ) :
    Except DomainError BillingDb :=
  match current with
  | some current => flushVersions (supersede db current.id at_)
  | none => .ok db

def versionRow (command : RecordContractVersionCommand) (context : CommandContext)
    (authority : BillingRecordAuthority) (contractId version : ℕ) (startsAt : ℤ)
    (current : Option BillingContractVersion) (id : ℕ) : BillingContractVersion where
  id
  contractId
  version
  status := .effective
  authority
  accountId := command.accountId
  subscriptionId := command.subscriptionId
  sourceKind := command.sourceKind
  sourceId := command.sourceId
  sourceVersion := command.sourceVersion
  startsAt
  endsAt := command.endsAt
  contractedPrice := .store 4 command.contractedPrice
  currency := command.currency
  terms := { command.cadence.toCadenceTerms with
    rateQuantity := (Numeric.store 4 command.cadence.rateQuantity).value }
  rateQuantity_onGrid := onGrid_quantize
  taxTreatmentCode := command.taxTreatmentCode
  taxInclusive := command.taxInclusive
  supersedesId := current.map BillingContractVersion.id
  supersededAt := none
  reason := context.reason
  idempotencyKey := context.idempotencyKey

def openVersion (db : BillingDb) (command : RecordContractVersionCommand)
    (context : CommandContext) (authority : BillingRecordAuthority) (contractId : ℕ)
    (startsAt : ℤ) : Except DomainError (BillingDb × ContractVersionResult) := do
  let current := currentEffective db contractId
  ensure (∀ v ∈ current, v.startsAt < startsAt) (error "out_of_order_contract_version"
    "A new version must start after the current effective one."
    [("requested_starts_at", .instant startsAt)])
  let version := nextVersion db contractId
  let row := versionRow command context authority contractId version startsAt current
  let db ← supersedeCurrent db current startsAt
  let versionId := db.versions.next
  let db ← flushVersions { db with versions := db.versions.insert row fun _ => rfl }
  let (db, ids) ← addLines contractId versionId command.lines db
  return (db, { contractId, versionId, version, authority, lineIds := ids, replayed := false })

/-- Close the current version and open the next one. -/
def recordVersion (env : BillingEnv) (db : BillingDb) (command : RecordContractVersionCommand)
    (context : CommandContext) : Except DomainError (BillingDb × ContractVersionResult) := do
  let startsAt ← validate command
  ensure (context.idempotencyKey ≠ "") (.missingIdempotencyKey owner
    "Recording contract terms requires a business idempotency key.")
  let authority := env.permittedAuthority
  let (db, contract) ← ensureContract db command.accountId command.subscriptionId authority
  match db.versions.rows.find? fun v =>
      v.contractId = contract.id ∧ v.idempotencyKey = context.idempotencyKey with
  | some existing =>
    return (db, {
      contractId := contract.id, versionId := existing.id, version := existing.version,
      authority := existing.authority, lineIds := lineIds db existing.id, replayed := true })
  | none => openVersion db command context authority contract.id startsAt

/-- The draft row that clones the terms of the current version from a boundary on. -/
def pendingRow (current : BillingContractVersion) (contractId version : ℕ) (effectiveAt : ℤ)
    (sourceKind : BillingContractSourceKind) (reason : String) (id : ℕ) :
    BillingContractVersion where
  id
  contractId
  version
  status := .draft
  authority := current.authority
  accountId := current.accountId
  subscriptionId := current.subscriptionId
  sourceKind
  sourceId := current.subscriptionId
  sourceVersion := current.sourceVersion + 1
  startsAt := effectiveAt
  endsAt := none
  contractedPrice := current.contractedPrice
  currency := current.currency
  terms := current.terms
  rateQuantity_onGrid := current.rateQuantity_onGrid
  taxTreatmentCode := current.taxTreatmentCode
  taxInclusive := current.taxInclusive
  supersedesId := some current.id
  supersededAt := none
  reason
  idempotencyKey := "pending:" ++ toString contractId ++ ":" ++ toString effectiveAt

/-- Copy lines into another version, with their lineage keys. -/
def cloneLines (versionId : ℕ) (lines : List BillingContractLine)
    (table : Table BillingContractLine) : Table BillingContractLine :=
  lines.foldl (fun t l =>
    t.insert (fun id => { l with id, contractVersionId := versionId }) fun _ => rfl) table

/-- Clone the current terms into one mutable, non-effective boundary draft. -/
def createPendingVersion (db : BillingDb) (contract : BillingContract)
    (current : BillingContractVersion) (effectiveAt : ℤ) (sourceKind : BillingContractSourceKind)
    (reason : String) : Except DomainError (BillingDb × BillingContractVersion) := do
  ensure (current.startsAt < effectiveAt) (error "invalid_pending_contract_boundary"
    "Pending terms must begin after the current version."
    [("current_version_id", .id current.id), ("effective_at", .instant effectiveAt)])
  let row := pendingRow current contract.id (nextVersion db contract.id) effectiveAt sourceKind
    reason
  let draft := row db.versions.next
  let db ← flushVersions { db with versions := db.versions.insert row fun _ => rfl }
  let current_lines := db.lines.rows.filter (·.contractVersionId = current.id)
  let db ← flushLines { db with lines := cloneLines draft.id current_lines db.lines }
  return (db, draft)

/-- The next-boundary draft and the timer generation it requires. -/
structure PendingContractTermsResult where
  contractId : ℕ
  draftVersionId : ℕ
  draftVersion : ℕ
  effectiveAt : ℤ
  timerId : ℕ
  timerGeneration : ℕ
deriving DecidableEq

/-- The one draft of a boundary: the existing one, if it still matches, or a new one. -/
def boundaryDraft (db : BillingDb) (contract : BillingContract) (current : BillingContractVersion)
    (effectiveAt : ℤ) (sourceKind : BillingContractSourceKind) (reason staleMessage : String) :
    Except DomainError (BillingDb × BillingContractVersion) :=
  match drafts db contract.id with
  | [] => createPendingVersion db contract current effectiveAt sourceKind reason
  | [draft] => do
      ensure (draft.startsAt = effectiveAt ∧ draft.supersedesId = some current.id)
        (error "stale_pending_contract_terms" staleMessage [("draft_version_id", .id draft.id)])
      return (db, draft)
  | _ => .error (error "ambiguous_pending_contract_terms"
      "The contract has multiple pending term versions." [("contract_id", .id contract.id)])

def schedulePendingTerms (db : BillingDb) (contract : BillingContract)
    (draft : BillingContractVersion) (effectiveAt : ℤ) :
    Except DomainError (BillingDb × PendingContractTermsResult) := do
  let (timers, timer) ← scheduleTimer db.timers
    { owner := owner, entityKind := "billing_contract", entityId := contract.id,
      purpose := "pending_terms_effective", dueAt := effectiveAt,
      outputEventType := pendingTermsEffectiveTrigger, expectedSourceVersion := draft.version }
  return ({ db with timers }, {
    contractId := contract.id, draftVersionId := draft.id, draftVersion := draft.version,
    effectiveAt, timerId := timer.id, timerGeneration := timer.generation })

def addonTreatment (current : BillingContractVersion) : AccountingTreatment :=
  if current.terms.collectionTiming = .advance then .prepaidConsumption else .receivable

inductive BillingCycle
  | daily
  | weekly
  | monthly
  | quarterly
  | annual
deriving DecidableEq

def cycleInterval : BillingCycle → IntervalUnit × ℤ
  | .daily => (.day, 1)
  | .weekly => (.week, 1)
  | .monthly => (.month, 1)
  | .quarterly => (.month, 3)
  | .annual => (.year, 1)

/-- Exact recurring term accepted by the live add-on purchase owner. -/
structure RecurringAddonPurchaseTermSnapshot where
  accountId : ℕ
  subscriptionId : ℕ
  subscriptionAddOnId : ℕ
  description : String
  quantity : ℚ
  unitPrice : ℚ
  currency : String
  purchasedAt : Moment
  billingCycle : Option BillingCycle

/-- `strip().upper()` on a currency code. -/
def normalizeCurrency (s : String) : String :=
  String.ofList (((s.toList.dropWhile Char.isWhitespace).reverse.dropWhile
    Char.isWhitespace).reverse.map Char.toUpper)

def lineMatches (line : BillingContractLine) (term : RecurringAddonPurchaseTermSnapshot)
    (currency : String) (treatment : AccountingTreatment) : Prop :=
  line.description = term.description ∧ line.quantity.value = term.quantity ∧
    line.unitPrice.value = term.unitPrice ∧ line.currency = currency ∧
    line.accountingTreatment = treatment

instance (line : BillingContractLine) (term : RecurringAddonPurchaseTermSnapshot)
    (currency : String) (treatment : AccountingTreatment) :
    Decidable (lineMatches line term currency treatment) :=
  inferInstanceAs (Decidable (_ ∧ _ ∧ _ ∧ _ ∧ _))

/-- The end of the service period that a purchase falls in; an instant outside the contract is
refused, and a calendar overflow escapes. -/
def purchaseBoundary (cadence : BillingCadence) (currentStart : ℤ) (purchasedAt : Moment) :
    Except DomainError ℤ :=
  match periodContaining cadence currentStart purchasedAt defaultMaxPeriods with
  | .ok (_, period) => .ok period.endsAt
  | .error .calendarRange => ofCadence (.error .calendarRange)
  | .error _ => .error (error "invalid_addon_purchase_time"
      "The add-on purchase is outside the effective contract.")

def addPurchasedLine (db : BillingDb) (contract : BillingContract)
    (current draft : BillingContractVersion) (term : RecurringAddonPurchaseTermSnapshot)
    (currency : String) : Except DomainError BillingDb :=
  let treatment := addonTreatment current
  match lineFor db draft.id .addon (toString term.subscriptionAddOnId) with
  | some line => do
      ensure (lineMatches line term currency treatment) (error "duplicate_addon_term_conflict"
        "The pending version already has different terms for this add-on."
        [("subscription_add_on_id", .id term.subscriptionAddOnId)])
      return db
  | none => do
      let (db, _) ← addLine db contract.id draft.id
        { chargeComponent := .addon, description := term.description,
          unitPrice := term.unitPrice, currency, accountingTreatment := treatment,
          quantity := term.quantity, componentKey := toString term.subscriptionAddOnId,
          taxTreatmentCode := current.taxTreatmentCode }
      return db

/-- A draft with the provenance of a live owner transition. -/
def live (contract : BillingContract) (v : BillingContractVersion) : BillingContractVersion :=
  { v with
    sourceKind := .planChange
    sourceId := contract.subscriptionId
    reason := "Pending live recurring add-on terms" }

lemma id_live (contract : BillingContract) (v : BillingContractVersion) :
    Row.id (live contract v) = Row.id v := rfl

/-- An add-on takes effect with the next period, in a version of its own. -/
def recurringAddonPurchaseEffect (env : BillingEnv) (term : RecurringAddonPurchaseTermSnapshot)
    (db : BillingDb) : Except DomainError (BillingDb × Option PendingContractTermsResult) := do
  ensure (term.purchasedAt.isAware = true)
    (error "invalid_addon_purchase_time"
      "Recurring add-on purchase time must be timezone-aware.")
  ensure (0 < term.quantity ∧ 0 ≤ term.unitPrice) (error "invalid_addon_terms"
    "Recurring add-on quantity and price must be valid."
    [("subscription_add_on_id", .id term.subscriptionAddOnId)])
  let contract ← orRefuse (db.contracts.rows.find? fun c =>
      c.subscriptionId = term.subscriptionId ∧ c.accountId = term.accountId)
    (error "contract_not_found" "The recurring add-on purchase has no billing contract."
      [("subscription_id", .id term.subscriptionId)])
  let current ← orRefuse (currentEffective db contract.id) (error "contract_version_not_found"
    "The recurring add-on purchase has no effective contract version."
    [("contract_id", .id contract.id)])
  let cadence ← ofCadence (cadenceOf env current)
  ensure (∀ cycle ∈ term.billingCycle, cycleInterval cycle
      = (cadence.serviceIntervalUnit, cadence.serviceIntervalCount))
    (error "unsupported_addon_cadence"
      "The add-on cadence differs from the contract service cadence.")
  let currency := normalizeCurrency term.currency
  ensure (currency = current.currency) (error "mixed_currency_contract"
    "The recurring add-on currency differs from the contract."
    [("addon_currency", .text currency), ("contract_currency", .text current.currency)])
  match lineFor db current.id .addon (toString term.subscriptionAddOnId) with
  | some line => do
      ensure (lineMatches line term currency (addonTreatment current) ∧ line.isFinite = false)
        (error "duplicate_addon_term_conflict"
          "The effective version has different terms for this add-on."
          [("subscription_add_on_id", .id term.subscriptionAddOnId)])
      return (db, none)
  | none => do
      let effectiveAt ← purchaseBoundary cadence current.startsAt term.purchasedAt
      let (db, draft) ← boundaryDraft db contract current effectiveAt .planChange
        "Pending recurring add-on terms"
        "Pending terms no longer match the current contract boundary."
      let db := { db with
        versions := db.versions.update draft.id (live contract) (id_live contract) }
      let db ← addPurchasedLine db contract current draft term currency
      let (db, result) ← schedulePendingTerms db contract draft effectiveAt
      return (db, some result)

/-- Receipt one live purchase into a next-boundary draft and timer. -/
def consumeRecurringAddonPurchase (env : BillingEnv) (db : BillingDb)
    (term : RecurringAddonPurchaseTermSnapshot) (eventId : ℕ) (context : CommandContext) :
    Except DomainError (BillingDb × Option (Option PendingContractTermsResult)) :=
  consumeOwnerOutput BillingDb.receipts (fun r db => { db with receipts := r :: db.receipts })
    { consumer := owner, eventId, eventType := "billing.contract_terms.recurring_addon_added",
      producerOwner := "financial.addon_purchases" }
    context.idempotencyKey (recurringAddonPurchaseEffect env term) db

/-! ## Migration snapshots of add-ons -/

/-- Exact recurring add-on terms delivered by the migration producer. -/
structure RecurringAddonContractTermSnapshot where
  subscriptionAddOnId : ℕ
  description : String
  quantity : ℚ
  unitPrice : ℚ
  currency : String

/-- One captured snapshot of the recurring add-ons of a contract. -/
structure RecurringAddonBackfill where
  salesOrderId : ℕ
  accountId : ℕ
  subscriptionId : ℕ
  contractId : ℕ
  currentContractVersionId : ℕ
  targetPeriod : Interval
  terms : List RecurringAddonContractTermSnapshot

def anchoredTo (db : BillingDb) (contractId salesOrderId : ℕ) : Prop :=
  ∃ v ∈ db.versions.rows, v.contractId = contractId ∧ v.sourceKind = .salesOrderLine ∧
    ∃ l ∈ db.salesOrderLines, l.id = v.sourceId ∧ l.salesOrderId = salesOrderId

instance (db : BillingDb) (contractId salesOrderId : ℕ) :
    Decidable (anchoredTo db contractId salesOrderId) :=
  inferInstanceAs (Decidable (∃ v ∈ db.versions.rows, _))

/-- The effect of one snapshot: the draft's recurring add-on lines are replaced. -/
def recurringAddonBackfillEffect (env : BillingEnv) (snapshot : RecurringAddonBackfill)
    (db : BillingDb) : Except DomainError (BillingDb × PendingContractTermsResult) := do
  let contract ← orRefuse (db.contracts.rows.find? fun c =>
      c.id = snapshot.contractId ∧ c.subscriptionId = snapshot.subscriptionId)
    (error "contract_not_found" "The add-on snapshot references no billing contract."
      [("contract_id", .id snapshot.contractId)])
  ensure (contract.accountId = snapshot.accountId) (error "contract_account_mismatch"
    "The add-on snapshot account differs from the contract account."
    [("contract_account_id", .id contract.accountId),
      ("snapshot_account_id", .id snapshot.accountId)])
  let current ← orRefuse ((currentEffective db contract.id).filter
      (·.id = snapshot.currentContractVersionId))
    (error "stale_addon_snapshot" "The current contract version changed after add-on capture."
      [("expected_contract_version_id", .id snapshot.currentContractVersionId),
        ("actual_contract_version_id",
          .optionalId ((currentEffective db contract.id).map BillingContractVersion.id))])
  let cadence ← ofCadence (cadenceOf env current)
  let expected ← ofCadence (servicePeriod cadence (.aware snapshot.targetPeriod.startsAt) 0)
  ensure (expected = snapshot.targetPeriod) (error "invalid_addon_period"
    "The add-on snapshot is not one complete contract service period."
    [("target_period_start", .instant snapshot.targetPeriod.startsAt),
      ("target_period_end", .instant snapshot.targetPeriod.endsAt)])
  ensure (anchoredTo db contract.id snapshot.salesOrderId) (error "sales_order_anchor_mismatch"
    "The add-on snapshot is not anchored to this contract's sale."
    [("sales_order_id", .id snapshot.salesOrderId), ("contract_id", .id contract.id)])
  let (db, draft) ← boundaryDraft db contract current snapshot.targetPeriod.startsAt
    .migrationBackfill "Pending recurring add-on migration snapshot"
    "Pending terms no longer match the backfill boundary."
  let db := { db with
    lines := db.lines.filter fun l =>
      ¬ (l.contractVersionId = draft.id ∧ l.chargeComponent = .addon ∧ l.isFinite = false) }
  let (db, _) ← addLines contract.id draft.id (snapshot.terms.map fun term =>
    { chargeComponent := .addon, description := term.description, unitPrice := term.unitPrice,
      currency := term.currency, accountingTreatment := addonTreatment current,
      quantity := term.quantity, componentKey := toString term.subscriptionAddOnId,
      taxTreatmentCode := current.taxTreatmentCode }) db
  schedulePendingTerms db contract draft snapshot.targetPeriod.startsAt

/-- Receipt one exact snapshot into the shared boundary draft and timer. -/
def consumeRecurringAddonBackfill (env : BillingEnv) (db : BillingDb)
    (snapshot : RecurringAddonBackfill) (eventId : ℕ) (context : CommandContext) :
    Except DomainError (BillingDb × Option PendingContractTermsResult) :=
  consumeOwnerOutput BillingDb.receipts (fun r db => { db with receipts := r :: db.receipts })
    { consumer := owner, eventId, eventType := "billing.addon_contract_backfill.captured",
      producerOwner := "billing.addon_contract_backfill" }
    context.idempotencyKey (recurringAddonBackfillEffect env snapshot) db

def timerIdentifies (timer : DurableTimer) (contractId expectedSourceVersion generation : ℕ) :
    Prop :=
  timer.owner = owner ∧ timer.entityKind = "billing_contract" ∧ timer.entityId = contractId ∧
    timer.purpose = "pending_terms_effective" ∧ timer.generation = generation ∧
    timer.expectedSourceVersion = expectedSourceVersion ∧
    timer.outputEventType = pendingTermsEffectiveTrigger ∧ timer.status = .fired

instance (timer : DurableTimer) (contractId expectedSourceVersion generation : ℕ) :
    Decidable (timerIdentifies timer contractId expectedSourceVersion generation) :=
  inferInstanceAs (Decidable (_ ∧ _ ∧ _ ∧ _ ∧ _ ∧ _ ∧ _ ∧ _))

def salesOrderAnchor (db : BillingDb) (contractId : ℕ) : Except DomainError ℕ :=
  let versions := (db.versions.rows.filter fun v =>
    v.contractId = contractId ∧ v.sourceKind = .salesOrderLine).insertionSort
      (fun v w => v.version ≤ w.version)
  orRefuse (versions.findSome? fun v =>
      (db.salesOrderLines.find? (·.id = v.sourceId)).map SalesOrderLine.salesOrderId)
    (error "sales_order_anchor_mismatch"
      "The billing contract has no structural sales-order anchor."
      [("contract_id", .id contractId)])

/-- The output of recorded versions: one obligation input for each of their recurring lines. -/
def stageShadowRecordedOutput (db : BillingDb) (salesOrderId : ℕ)
    (results : List ContractVersionResult) (changeKind sourceKind : String)
    (sourceId subscriptionId : Option ℕ) : BillingDb :=
  { db with outbox := db.outbox ++ [{
      sourceKind, sourceId := sourceId.getD salesOrderId, salesOrderId,
      contractChangeKind := changeKind, subscriptionId,
      contracts := results.map fun r => (r.contractId, r.versionId, r.authority),
      obligations := results.flatMap fun r =>
        (db.lines.rows.filter fun l => l.id ∈ r.lineIds ∧ l.isFinite = false).map fun l =>
          { contractVersionId := r.versionId, contractLineKey := l.contractLineKey,
            periodIndex := 0 } }] }

/-- The identity carried by a fired pending-terms timer. -/
structure PendingTermsDue where
  contractId : ℕ
  timerId : ℕ
  expectedSourceVersion : ℕ
  timerGeneration : ℕ

def dueDraft (db : BillingDb) (due : PendingTermsDue) : Option BillingContractVersion :=
  db.versions.rows.find? fun v =>
    v.contractId = due.contractId ∧ v.version = due.expectedSourceVersion

/-- A draft made effective. -/
def activated (v : BillingContractVersion) : BillingContractVersion :=
  { v with status := .effective }

lemma id_activated (v : BillingContractVersion) : Row.id (activated v) = Row.id v := rfl

/-- The due timer puts the pending terms into force. -/
def pendingTermsEffect (due : PendingTermsDue) (db : BillingDb) :
    Except DomainError (BillingDb × ContractVersionResult) := do
  let timer ← orRefuse (db.timers.get? due.timerId) (error "invalid_pending_terms_timer"
    "The fired timer does not identify the pending contract terms."
    [("timer_id", .id due.timerId)])
  ensure (timerIdentifies timer due.contractId due.expectedSourceVersion due.timerGeneration)
    (error "invalid_pending_terms_timer"
      "The fired timer does not identify the pending contract terms."
      [("timer_id", .id due.timerId)])
  let contract ← orRefuse (db.contracts.get? due.contractId) (error "contract_not_found"
    "The pending-terms timer references no contract." [("contract_id", .id due.contractId)])
  let draft ← orRefuse ((dueDraft db due).filter (·.status = .draft))
    (error "pending_contract_version_not_found"
      "The timer's pending contract version is absent or no longer draft."
      [("contract_id", .id contract.id),
        ("expected_source_version", .number due.expectedSourceVersion)])
  let current ← orRefuse ((currentEffective db contract.id).filter
      (draft.supersedesId = some ·.id))
    (error "stale_pending_contract_terms"
      "The pending version no longer supersedes the current contract."
      [("draft_version_id", .id draft.id)])
  ensure (timer.dueAt = draft.startsAt) (error "invalid_pending_terms_timer"
    "The timer due time differs from the draft boundary." [("timer_id", .id timer.id)])
  let db ← flushVersions (supersede db current.id draft.startsAt)
  let db ← flushVersions { db with
    versions := db.versions.update draft.id activated id_activated }
  let result : ContractVersionResult :=
    { contractId := contract.id, versionId := draft.id, version := draft.version,
      authority := draft.authority, lineIds := lineIds db draft.id, replayed := false }
  let salesOrderId ← salesOrderAnchor db contract.id
  let db := if draft.sourceKind = .planChange then
      stageShadowRecordedOutput db salesOrderId [result] "recurring_addon_purchase"
        "subscription" (some contract.subscriptionId) (some contract.subscriptionId)
    else stageShadowRecordedOutput db salesOrderId [result] "recurring_addon_backfill"
        "sales_order" none none
  return (db, result)

/-- Receipt one exact due timer and activate its draft. -/
def consumePendingTermsEffectiveDue (db : BillingDb) (due : PendingTermsDue) (eventId : ℕ)
    (context : CommandContext) :
    Except DomainError (BillingDb × Option ContractVersionResult) :=
  consumeOwnerOutput BillingDb.receipts (fun r db => { db with receipts := r :: db.receipts })
    { consumer := owner, eventId, eventType := pendingTermsEffectiveTrigger,
      producerOwner := "runtime.durable_timers" }
    context.idempotencyKey (pendingTermsEffect due) db

def canceled (reason : String) (v : BillingContractVersion) : BillingContractVersion :=
  { v with
    status := .canceled
    supersededAt := some (v.supersededAt.getD v.startsAt)
    reason }

lemma id_canceled (reason : String) (v : BillingContractVersion) :
    Row.id (canceled reason v) = Row.id v := rfl

/-- Close a version that was issued in error. -/
def cancelVersion (db : BillingDb) (versionId : ℕ) (context : CommandContext) :
    Except DomainError (BillingDb × ℕ) := do
  let version ← orRefuse (db.versions.get? versionId) (error "contract_version_not_found"
    "Contract version does not exist." [("version_id", .id versionId)])
  if version.status = .canceled then
    return (db, version.id)
  else
    let db ← flushVersions { db with
      versions := db.versions.update versionId (canceled context.reason)
        (id_canceled context.reason) }
    return (db, version.id)

end Contracts

end DotmacSub
