import DotmacSub.Billing.Rating

/-!
# Finite billable units

The command owner of `services/billing/obligations.py`.  An obligation is scheduled once for a line,
a version and a period; scheduling it again replays the recorded rating from its own row.

`flushObligations` stands for the constraints of the obligation table.
-/

namespace DotmacSub

open Store Checked Cadence Decimal Rating

namespace Obligations

def owner : String := "billing.obligations"

def error (suffix message : String) (details : List (String × Detail) := []) : DomainError :=
  ⟨owner ++ "." ++ suffix, message, details⟩

/-! ## Constraints of the obligation table -/

/-- The checks on the stored rating inputs. -/
def ratingWellFormed (o : BillingObligation) (r : RatingColumns) : Prop :=
  (r.coverageStart < r.coverageEnd ∧ o.periodStart ≤ r.coverageStart ∧
      r.coverageEnd ≤ o.periodEnd) ∧
    (0 ≤ r.unitPrice.value ∧ 0 < r.quantity.value ∧ 0 < r.rateQuantity.value ∧
      0 ≤ r.rateUnits.value ∧ 0 ≤ r.prorationFactor.value ∧ r.prorationFactor.value ≤ 1 ∧
      0 ≤ r.taxRatePercent.value) ∧
    ((r.taxTreatmentCode = none ∧ r.taxRateId = none ∧ r.taxRatePercent.value = 0) ∨
      (r.taxTreatmentCode.isSome ∧ r.taxRateId.isSome))

instance (o : BillingObligation) (r : RatingColumns) : Decidable (ratingWellFormed o r) :=
  inferInstanceAs (Decidable (_ ∧ _ ∧ _))

def obligationWellFormed (o : BillingObligation) : Prop :=
  o.periodStart < o.periodEnd ∧
    (0 ≤ o.netAmount.value ∧ 0 ≤ o.taxAmount.value ∧ 0 ≤ o.grossAmount.value) ∧
    (0 ≤ o.resolvedAmount.value ∧ o.resolvedAmount.value ≤ o.grossAmount.value) ∧
    ∀ r ∈ o.rating, ratingWellFormed o r

instance (o : BillingObligation) : Decidable (obligationWellFormed o) :=
  inferInstanceAs (Decidable (_ ∧ _ ∧ _ ∧ _))

def naturalIdentity (o : BillingObligation) : (ℕ × ℕ × ChargeComponent) ×
    (BillingContractSourceKind × ℕ × ℕ) × (ℤ × ℤ × String) :=
  ((o.contractLineKey, o.contractVersionId, o.chargeComponent),
    (o.sourceKind, o.sourceId, o.sourceVersion), (o.periodStart, o.periodEnd, o.currency))

def obligationsConsistent (rows : List BillingObligation) : Prop :=
  (∀ o ∈ rows, obligationWellFormed o) ∧ (rows.map naturalIdentity).Nodup

instance (rows : List BillingObligation) : Decidable (obligationsConsistent rows) :=
  inferInstanceAs (Decidable (_ ∧ _))

def flushObligations (db : BillingDb) (e : DomainError) : Except DomainError BillingDb := do
  ensure (obligationsConsistent db.obligations.rows) e
  return db

/-- Rebuild the typed snapshot without consulting current source rows. -/
def recordedProvenance (obligation : BillingObligation) : Except DomainError RatingProvenance := do
  let r ← orRefuse obligation.rating (error "incomplete_rating_provenance"
    "The existing shadow obligation predates complete rating provenance."
    [("obligation_id", .id obligation.id)])
  let period ← Contracts.ofCadence (interval obligation.periodStart obligation.periodEnd)
  let covered ← Contracts.ofCadence (interval r.coverageStart r.coverageEnd)
  return {
    contractVersionId := obligation.contractVersionId
    contractLineKey := obligation.contractLineKey
    policyVersion := r.policyVersion
    period
    currency := obligation.currency
    covered
    unitPrice := r.unitPrice.value
    quantity := r.quantity.value
    rateBasis := r.rateBasis
    rateUnit := r.rateUnit
    rateQuantity := r.rateQuantity.value
    timezoneName := r.timezoneName
    prorationPolicy := r.prorationPolicy
    rateUnits := r.rateUnits.value
    proration := r.prorationFactor.value
    taxTreatmentCode := r.taxTreatmentCode
    taxRateId := r.taxRateId
    taxRatePercent := r.taxRatePercent.value
    taxInclusive := r.taxInclusive
    inputFingerprint := r.inputFingerprint }

def recordsResult (obligation : BillingObligation) (rated : RatedObligation) : Prop :=
  obligation.currency = rated.currency ∧ obligation.netAmount.value = rated.netAmount ∧
    obligation.taxAmount.value = rated.taxAmount ∧ obligation.grossAmount.value = rated.grossAmount

instance (obligation : BillingObligation) (rated : RatedObligation) :
    Decidable (recordsResult obligation rated) :=
  inferInstanceAs (Decidable (_ ∧ _ ∧ _ ∧ _))

/-- Reproduce one stored result without reading mutable current policy. -/
def replayRecordedRating (env : RatingEnv) (obligation : BillingObligation) :
    Except DomainError RatedObligation := do
  let provenance ← recordedProvenance obligation
  let rated ← (rateFromProvenance env provenance).mapError fun e =>
    error "recorded_rating_provenance_invalid"
      "The existing obligation's rating provenance cannot be replayed."
      [("obligation_id", .id obligation.id), ("rating_code", .text e.code)]
  ensure (recordsResult obligation rated) (error "recorded_rating_result_mismatch"
    "The existing obligation does not match its recorded rating inputs."
    [("obligation_id", .id obligation.id),
      ("recorded_gross", .number obligation.grossAmount.value),
      ("replayed_gross", .number rated.grossAmount)])
  return rated

/-- Typed request to create one obligation for an exact period. -/
structure ScheduleObligationCommand where
  contractVersionId : ℕ
  contractLineKey : ℕ
  periodIndex : ℤ
  covered : Option Interval := none
  dueAt : Option ℤ := none

structure ObligationResult where
  obligationId : ℕ
  state : ObligationState
  authority : BillingRecordAuthority
  period : Interval
  grossAmount : ℚ
  ratingInputFingerprint : String
  replayed : Bool
deriving DecidableEq

def existingRows (db : BillingDb) (lineKey versionId : ℕ) (period : Interval) :
    List BillingObligation :=
  db.obligations.rows.filter fun o => o.contractLineKey = lineKey ∧ o.contractVersionId = versionId ∧
    o.periodStart = period.startsAt ∧ o.periodEnd = period.endsAt

/-- Answer with the recorded obligation when its recorded coverage is the requested one. -/
def replayExisting (env : RatingEnv) (existing : BillingObligation) (period : Interval)
    (covered : Option Interval) : Except DomainError ObligationResult := do
  let replayed ← replayRecordedRating env existing
  let recorded := replayed.provenance.covered
  let requested := covered.getD period
  ensure (recorded.startsAt = requested.startsAt ∧ recorded.endsAt = requested.endsAt)
    (error "rating_provenance_conflict"
      "The natural obligation identity was reused with new coverage."
      [("obligation_id", .id existing.id),
        ("recorded_coverage_start", .instant recorded.startsAt),
        ("recorded_coverage_end", .instant recorded.endsAt),
        ("requested_coverage_start", .instant requested.startsAt),
        ("requested_coverage_end", .instant requested.endsAt)])
  return {
    obligationId := existing.id, state := existing.state, authority := existing.authority, period,
    grossAmount := existing.grossAmount.value,
    ratingInputFingerprint := replayed.provenance.inputFingerprint, replayed := true }

/-- The stored rating inputs of a snapshot. -/
def ratingColumns (provenance : RatingProvenance) : RatingColumns where
  policyVersion := provenance.policyVersion
  coverageStart := provenance.covered.startsAt
  coverageEnd := provenance.covered.endsAt
  unitPrice := .store 4 provenance.unitPrice
  quantity := .store 4 provenance.quantity
  rateBasis := provenance.rateBasis
  rateUnit := provenance.rateUnit
  rateQuantity := .store 4 provenance.rateQuantity
  timezoneName := provenance.timezoneName
  prorationPolicy := provenance.prorationPolicy
  rateUnits := .store 28 provenance.rateUnits
  prorationFactor := .store 28 provenance.proration
  taxTreatmentCode := provenance.taxTreatmentCode
  taxRateId := provenance.taxRateId
  taxRatePercent := .store 4 provenance.taxRatePercent
  taxInclusive := provenance.taxInclusive
  inputFingerprint := provenance.inputFingerprint

/-- The row of an obligation that is scheduled. -/
def obligationRow (version : BillingContractVersion) (line : BillingContractLine) (lineKey : ℕ)
    (period : Interval) (authority : BillingRecordAuthority) (rated : RatedObligation)
    (dueAt : Option ℤ) (id : ℕ) : BillingObligation where
  id
  contractId := version.contractId
  contractVersionId := version.id
  contractLineKey := lineKey
  accountId := version.accountId
  subscriptionId := version.subscriptionId
  authority
  chargeComponent := line.chargeComponent
  sourceKind := version.sourceKind
  sourceId := version.sourceId
  sourceVersion := version.sourceVersion
  periodStart := period.startsAt
  periodEnd := period.endsAt
  currency := line.currency
  netAmount := .store 4 rated.netAmount
  taxAmount := .store 4 rated.taxAmount
  grossAmount := .store 4 rated.grossAmount
  rating := some (ratingColumns rated.provenance)
  resolvedAmount := .store 4 0
  accountingTreatment := line.accountingTreatment
  collectionTiming := version.terms.collectionTiming
  isFinite := line.isFinite
  state := .scheduled
  resolutionKind := none
  openedAt := none
  resolvedAt := none
  dueAt

def recordObligation (env : RatingEnv) (db : BillingDb) (version : BillingContractVersion)
    (line : BillingContractLine) (period : Interval) (command : ScheduleObligationCommand) :
    Except DomainError (BillingDb × ObligationResult) := do
  let rated ← rateLinePeriod env db version.id command.contractLineKey period command.covered
  let row := obligationRow version line command.contractLineKey period env.obligationAuthority rated
    command.dueAt
  let id := db.obligations.next
  let db ← flushObligations { db with obligations := db.obligations.insert row fun _ => rfl }
    (error "duplicate_obligation"
      "An obligation already exists for this exact natural identity."
      [("contract_line_key", .id command.contractLineKey),
        ("period_start", .instant period.startsAt)])
  return (db, {
    obligationId := id, state := .scheduled, authority := env.obligationAuthority, period,
    grossAmount := rated.grossAmount,
    ratingInputFingerprint := rated.provenance.inputFingerprint, replayed := false })

def requestedPeriod (env : RatingEnv) (db : BillingDb) (command : ScheduleObligationCommand)
    (context : CommandContext) :
    Except DomainError (BillingContractVersion × BillingContractLine × Interval) := do
  ensure (context.idempotencyKey ≠ "") (.missingIdempotencyKey owner
    "Scheduling an obligation requires a business idempotency key.")
  let version ← orRefuse (db.versions.get? command.contractVersionId)
    (error "contract_version_not_found" "Obligation requires an existing contract version."
      [("contract_version_id", .id command.contractVersionId)])
  let line ← lineWithKey db version.id command.contractLineKey (error "contract_line_not_found"
    "Obligation requires a line on the named contract version."
    [("contract_line_key", .id command.contractLineKey)])
  let cadence ← Contracts.ofCadence (Contracts.cadenceOf env.toBillingEnv version)
  let period ← Contracts.ofCadence
    (servicePeriod cadence (.aware version.startsAt) command.periodIndex)
  ensure (∀ e ∈ version.endsAt, period.startsAt < e) (error "period_outside_contract_version"
    "Obligation period starts after this version stopped applying."
    [("period_start", .instant period.startsAt),
      ("version_ends_at", .instant (version.endsAt.getD 0))])
  return (version, line, period)

/-- Create one obligation for an exact contract period. -/
def schedule (env : RatingEnv) (db : BillingDb) (command : ScheduleObligationCommand)
    (context : CommandContext) : Except DomainError (BillingDb × ObligationResult) := do
  let (version, line, period) ← requestedPeriod env db command context
  match existingRows db command.contractLineKey version.id period with
  | [] => recordObligation env db version line period command
  | [existing] => do
      let result ← replayExisting env existing period command.covered
      return (db, result)
  | _ => .error (error "duplicate_obligation"
      "Multiple obligations exist for one stable line/version/period."
      [("contract_line_key", .id command.contractLineKey),
        ("period_start", .instant period.startsAt)])

def scheduleAll (env : RatingEnv) (context : CommandContext) :
    List ScheduleObligationCommand → BillingDb →
      Except DomainError (BillingDb × List ObligationResult)
  | [], db => .ok (db, [])
  | command :: commands, db => do
      let (db, result) ← schedule env db command context
      let (db, results) ← scheduleAll env context commands db
      return (db, result :: results)

def consumeContractShadow (env : RatingEnv) (db : BillingDb)
    (commands : List ScheduleObligationCommand) (eventId : ℕ) (context : CommandContext) :
    Except DomainError (BillingDb × Option (List ObligationResult)) :=
  consumeOwnerOutput BillingDb.receipts (fun r db => { db with receipts := r :: db.receipts })
    { consumer := owner, eventId, eventType := "billing.contracts.shadow_recorded",
      producerOwner := Contracts.owner }
    context.idempotencyKey (fun db => scheduleAll env context commands db) db

def stateValue : ObligationState → String
  | .scheduled => "scheduled"
  | .open => "open"
  | .partiallyResolved => "partially_resolved"
  | .resolved => "resolved"
  | .canceled => "canceled"
  | .writtenOff => "written_off"

def locked (db : BillingDb) (obligationId : ℕ) : Except DomainError BillingObligation :=
  orRefuse (db.obligations.get? obligationId) (error "obligation_not_found"
    "Obligation does not exist." [("obligation_id", .id obligationId)])

def opened (openedAt : Option ℤ) (o : BillingObligation) : BillingObligation :=
  { o with state := .open, openedAt := some (openedAt.getD o.periodStart) }

lemma id_opened (openedAt : Option ℤ) (o : BillingObligation) :
    Row.id (opened openedAt o) = Row.id o := rfl

/-- Open a scheduled obligation. -/
def open_ (db : BillingDb) (obligationId : ℕ) (openedAt : Option ℤ) :
    Except DomainError (BillingDb × ObligationState) := do
  let obligation ← locked db obligationId
  if obligation.state = .open then
    return (db, .open)
  else
    ensure (obligation.state = .scheduled) (error "invalid_obligation_transition"
      "Only a scheduled obligation can be opened." [("state", .text (stateValue obligation.state))])
    let db ← flushObligations { db with
      obligations := db.obligations.update obligationId (opened openedAt) (id_opened openedAt) }
      (.integrityError "billing_obligations")
    return (db, .open)

def resolvedState (kind : ObligationResolutionKind) (applied gross : ℚ) : ObligationState :=
  if kind = .writeOff then .writtenOff
  else if kind = .preEarningCancellation then .canceled
  else if applied = gross then .resolved
  else .partiallyResolved

def resolved (kind : ObligationResolutionKind) (applied : ℚ) (resolvedAt : Option ℤ)
    (o : BillingObligation) : BillingObligation :=
  let state := resolvedState kind applied o.grossAmount.value
  { o with
    resolvedAmount := .store 4 applied
    resolutionKind := some kind
    state
    resolvedAt := if state = .partiallyResolved then o.resolvedAt
      else some (resolvedAt.getD o.periodEnd) }

lemma id_resolved (kind : ObligationResolutionKind) (applied : ℚ) (resolvedAt : Option ℤ)
    (o : BillingObligation) : Row.id (resolved kind applied resolvedAt o) = Row.id o := rfl

/-- Apply an explicit terminal or partial resolution. -/
def resolve (db : BillingDb) (obligationId : ℕ) (kind : ObligationResolutionKind) (amount : ℚ)
    (resolvedAt : Option ℤ) : Except DomainError (BillingDb × ObligationState) := do
  let obligation ← locked db obligationId
  ensure (obligation.state = .open ∨ obligation.state = .partiallyResolved)
    (error "invalid_obligation_transition"
      "Only an open or partially resolved obligation can resolve."
      [("state", .text (stateValue obligation.state))])
  ensure (0 < amount) (error "invalid_obligation_amount"
    "A resolution amount must be positive.")
  let applied := add obligation.resolvedAmount.value amount
  ensure (applied ≤ obligation.grossAmount.value) (error "resolution_exceeds_obligation"
    "Applications cannot exceed the obligation's gross amount."
    [("gross_amount", .number obligation.grossAmount.value), ("attempted", .number applied)])
  let db ← flushObligations { db with
    obligations := db.obligations.update obligationId (resolved kind applied resolvedAt)
      (id_resolved kind applied resolvedAt) }
    (.integrityError "billing_obligations")
  return (db, resolvedState kind applied obligation.grossAmount.value)

/-! ## What an accepted scheduling did -/

variable {env : RatingEnv} {db db' : BillingDb} {command : ScheduleObligationCommand}
  {context : CommandContext} {result : ObligationResult} {version : BillingContractVersion}
  {line : BillingContractLine} {period : Interval}

structure RequestedPeriod (env : RatingEnv) (db : BillingDb) (command : ScheduleObligationCommand)
    (version : BillingContractVersion) (line : BillingContractLine) (period : Interval) : Prop where
  version_mem : version ∈ db.versions.rows
  version_id : version.id = command.contractVersionId
  line_eq : linesWithKey db version.id command.contractLineKey = [line]
  period_eq : ∃ cadence, Contracts.cadenceOf env.toBillingEnv version = .ok cadence ∧
    servicePeriod cadence (.aware version.startsAt) command.periodIndex = .ok period
  starts_lt_end : ∀ e ∈ version.endsAt, period.startsAt < e

lemma requestedPeriod_ok
    (h : requestedPeriod env db command context = .ok (version, line, period)) :
    RequestedPeriod env db command version line period := by
  obtain ⟨-, h⟩ := ensure_bind_eq_ok.mp h
  obtain ⟨v, hversion, h⟩ := orRefuse_bind_eq_ok.mp h
  obtain ⟨l, hline, h⟩ := bind_eq_ok.mp h
  obtain ⟨cadence, hcadence, h⟩ := bind_eq_ok.mp h
  obtain ⟨p, hperiod, h⟩ := bind_eq_ok.mp h
  obtain ⟨hends, h⟩ := ensure_bind_eq_ok.mp h
  obtain ⟨rfl, hpair⟩ := mk_eq_ok.mp h
  obtain ⟨rfl, rfl⟩ := Prod.mk.inj hpair
  obtain ⟨hmem, hid⟩ := Table.get?_eq_some.mp hversion
  exact ⟨hmem, hid, lineWithKey_eq_ok.mp hline,
    ⟨cadence, Contracts.ofCadence_eq_ok.mp hcadence, Contracts.ofCadence_eq_ok.mp hperiod⟩, hends⟩

/-- An obligation is scheduled anew. -/
structure Recorded (env : RatingEnv) (db db' : BillingDb) (command : ScheduleObligationCommand)
    (result : ObligationResult) (version : BillingContractVersion) (line : BillingContractLine)
    (period : Interval) (rated : RatedObligation) : Prop where
  none_existing : existingRows db command.contractLineKey version.id period = []
  rate : rateLinePeriod env db version.id command.contractLineKey period command.covered = .ok rated
  insert : db' = { db with
    obligations := db.obligations.insert (obligationRow version line command.contractLineKey period
      env.obligationAuthority rated command.dueAt) fun _ => rfl }
  result_eq : result = {
    obligationId := db.obligations.next, state := .scheduled, authority := env.obligationAuthority,
    period, grossAmount := rated.grossAmount,
    ratingInputFingerprint := rated.provenance.inputFingerprint, replayed := false }

/-- **Scheduling** answers with the recorded obligation of the period, or records one. -/
theorem schedule_ok (h : schedule env db command context = .ok (db', result)) :
    ∃ version line period, requestedPeriod env db command context = .ok (version, line, period) ∧
      ((db' = db ∧ ∃ existing,
          existingRows db command.contractLineKey version.id period = [existing] ∧
          replayExisting env existing period command.covered = .ok result) ∨
        ∃ rated, Recorded env db db' command result version line period rated) := by
  obtain ⟨⟨version, line, period⟩, hp, h⟩ := bind_eq_ok.mp h
  refine ⟨version, line, period, hp, ?_⟩
  dsimp only at h
  split at h
  · rename_i hnone
    obtain ⟨rated, hrated, h⟩ := bind_eq_ok.mp h
    obtain ⟨db₁, hflush, h⟩ := bind_eq_ok.mp h
    obtain ⟨-, hflush⟩ := ensure_bind_eq_ok.mp hflush
    obtain rfl := Except.ok.inj hflush
    obtain ⟨rfl, rfl⟩ := mk_eq_ok.mp h
    exact .inr ⟨rated, hnone, hrated, rfl, rfl⟩
  · rename_i existing hexisting
    obtain ⟨r, hreplay, h⟩ := bind_eq_ok.mp h
    obtain ⟨rfl, rfl⟩ := mk_eq_ok.mp h
    exact .inl ⟨rfl, existing, hexisting, hreplay⟩
  · cases h

variable {rated : RatedObligation}

def recordedRow (env : RatingEnv) (db : BillingDb) (command : ScheduleObligationCommand)
    (version : BillingContractVersion) (line : BillingContractLine) (period : Interval)
    (rated : RatedObligation) : BillingObligation :=
  obligationRow version line command.contractLineKey period env.obligationAuthority rated
    command.dueAt db.obligations.next

lemma Recorded.inputs (hp : RequestedPeriod env db command version line period)
    (h : Recorded env db db' command result version line period rated) :
    ∃ cadence units factor tax,
      Contracts.cadenceOf env.toBillingEnv version = .ok cadence ∧
      unitsForPeriod cadence period = .ok units ∧
      factorForCoverage cadence period command.covered = .ok factor ∧
      effectiveTaxRate db version line = .ok tax ∧
      rateFromProvenance env (withFingerprint env (lineProvenance version line cadence
        command.contractLineKey period command.covered units factor tax)) = .ok rated := by
  obtain ⟨v, l, cadence, units, factor, tax, hv, hl, hcadence, hu, hf, htax, hrate⟩ :=
    (rateLinePeriod_ok h.rate).step
  obtain ⟨hmem, hid⟩ := Table.get?_eq_some.mp hv
  obtain rfl := Table.eq_of_id_eq hmem hp.version_mem hid
  obtain rfl : l = line := by simpa using hl.symm.trans hp.line_eq
  exact ⟨cadence, units, factor, tax, hcadence, hu, hf, htax, hrate⟩

lemma Recorded.covered (hp : RequestedPeriod env db command version line period)
    (h : Recorded env db db' command result version line period rated) :
    rated.provenance.covered = command.covered.getD period := by
  obtain ⟨cadence, units, factor, tax, -, -, -, -, hrate⟩ := h.inputs hp
  rw [provenance_of_rated hrate]
  rfl

lemma Recorded.rows (h : Recorded env db db' command result version line period rated) :
    db'.obligations.rows
      = db.obligations.rows ++ [recordedRow env db command version line period rated] := by
  rw [h.insert]
  rfl

lemma flushObligations_ok {e : DomainError} (h : flushObligations db e = .ok db') : db' = db := by
  obtain ⟨-, h⟩ := ensure_bind_eq_ok.mp h
  exact (Except.ok.inj h).symm

/-- **Opening** marks a scheduled obligation, unless it is open already. -/
theorem open_ok {i : ℕ} {openedAt : Option ℤ} {state : ObligationState}
    (h : open_ db i openedAt = .ok (db', state)) :
    db' = db ∨ ∃ o ∈ db.obligations.rows, o.id = i ∧ o.state = .scheduled ∧
      db' = { db with
        obligations := db.obligations.update i (opened openedAt) (id_opened openedAt) } := by
  obtain ⟨o, ho, h⟩ := orRefuse_bind_eq_ok.mp h
  obtain ⟨hmem, hid⟩ := Table.get?_eq_some.mp ho
  split_ifs at h
  · exact .inl (mk_eq_ok.mp h).1.symm
  · obtain ⟨hstate, h⟩ := ensure_bind_eq_ok.mp h
    obtain ⟨db₁, h₁, h⟩ := bind_eq_ok.mp h
    obtain rfl := flushObligations_ok h₁
    exact .inr ⟨o, hmem, hid, hstate, (mk_eq_ok.mp h).1.symm⟩

/-- **A resolution** changes an open or partially resolved obligation. -/
theorem resolve_ok {i : ℕ} {kind : ObligationResolutionKind} {amount : ℚ} {resolvedAt : Option ℤ}
    {state : ObligationState} (h : resolve db i kind amount resolvedAt = .ok (db', state)) :
    ∃ o ∈ db.obligations.rows, o.id = i ∧ (o.state = .open ∨ o.state = .partiallyResolved) ∧
      ∃ applied, db' = { db with
        obligations := db.obligations.update i (resolved kind applied resolvedAt)
          (id_resolved kind applied resolvedAt) } := by
  obtain ⟨o, ho, h⟩ := orRefuse_bind_eq_ok.mp h
  obtain ⟨hmem, hid⟩ := Table.get?_eq_some.mp ho
  obtain ⟨hstate, h⟩ := ensure_bind_eq_ok.mp h
  obtain ⟨-, h⟩ := ensure_bind_eq_ok.mp h
  obtain ⟨-, h⟩ := ensure_bind_eq_ok.mp h
  obtain ⟨db₁, h₁, h⟩ := bind_eq_ok.mp h
  obtain rfl := flushObligations_ok h₁
  exact ⟨o, hmem, hid, hstate, _, (mk_eq_ok.mp h).1.symm⟩

end Obligations

end DotmacSub
