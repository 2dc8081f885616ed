import DotmacSub.Core.Checked
import DotmacSub.Core.Run
import DotmacSub.Core.Text
import DotmacSub.Models.Sla
import Mathlib.Data.List.Sort

/-!
# Recording policy versions

`record_policy_version` of `services/customer_service_level.py`.  A command appends the next version
of the series of its scope and closes the open one where the new terms begin; a command seen before
is answered from the row it recorded.
-/

namespace DotmacSub.Sla

open Store Checked Decimal Text

/-- Correlation and decision evidence carried by a command. -/
structure CommandContext where
  actor : String
  scope : String
  reason : String
  idempotencyKey : Option String := none

structure RecordPolicyVersionCommand where
  source : SlaPolicySource
  effectiveFrom : Option ℤ
  availabilityTargetPercent : Option ℚ
  context : CommandContext
  subscriptionId : Option ℕ := none
  subscriberId : Option ℕ := none
  offerId : Option ℕ := none
  planFamily : Option SlaPlanFamily := none
  calendarTimezone : String := slaCalendarTimezone
  maintenanceExcludable : Bool := true
  creditPercentPerBreach : Option ℚ := none
  creditCapPercent : Option ℚ := none
  contractReference : Option String := none

/-- The terms that are digested. -/
structure PolicyTerms where
  key : String
  source : SlaPolicySource
  effectiveFrom : ℤ
  availabilityTargetPercent : Option ℚ
  calendarTimezone : String
  maintenanceExcludable : Bool
  creditPercentPerBreach : Option ℚ
  creditCapPercent : Option ℚ
  contractReference : Option String

/-- The digest of a command's terms. -/
structure PolicyEnv where
  fingerprint : PolicyTerms → String

/-- Immutable result of recording terms. -/
structure PolicyVersionOutcome where
  policyVersionId : ℕ
  policyKey : String
  version : ℕ
  source : SlaPolicySource
  effectiveFrom : ℤ
  supersededVersionId : Option ℕ
  supersededAt : Option ℤ
  replayed : Bool
  fingerprint : String
deriving DecidableEq

def policyError (suffix message : String) (details : List (String × Detail) := []) : DomainError :=
  ⟨"customer.service_level." ++ suffix, message, details⟩

def validateText (field value : String) : Except DomainError Unit :=
  ensure (strip value ≠ "") (policyError "invalid_command_context"
    ("Command " ++ field ++ " cannot be empty.")
    [("command", .text "record_policy_version"), ("field", .text field)])

def validateContext (context : CommandContext) : Except DomainError Unit := do
  validateText "actor" context.actor
  validateText "scope" context.scope
  validateText "reason" context.reason
  match context.idempotencyKey with
  | none => return ()
  | some key => validateText "idempotency_key" key

def expectedScope : SlaPolicySource → Option String
  | .subscriptionContract => some "subscription_id"
  | .accountContract => some "subscriber_id"
  | .offerVersion => some "offer_id"
  | .planFamily => some "plan_family"
  | .internalMeasurement => none

/-- The scope fields a command carries beside its own, in alphabetical order. -/
def extraScopes (command : RecordPolicyVersionCommand) : List String :=
  [("offer_id", command.offerId.isSome), ("plan_family", command.planFamily.isSome),
    ("subscriber_id", command.subscriberId.isSome),
    ("subscription_id", command.subscriptionId.isSome)].filterMap fun supplied =>
      if supplied.2 ∧ some supplied.1 ≠ expectedScope command.source then some supplied.1 else none

def requireScope {α : Type} (source : SlaPolicySource) (field : String) (scopeId : Option α) :
    Except DomainError α :=
  orRefuse scopeId (policyError "scope_required"
    ("A " ++ source.value ++ " policy needs its " ++ field ++ "."))

def requireParent {α : Type} [Row α] (table : Table α) (parent field : String) (scopeId : ℕ) :
    Except DomainError Unit :=
  ensure ((table.get? scopeId).isSome) (policyError "unknown_scope"
    ("No " ++ parent ++ " exists for the supplied " ++ field ++ ".") [(field, .id scopeId)])

/-- Exactly one scope, the one of the source, and its parent must exist. -/
def validateScope (db : SlaDb) (command : RecordPolicyVersionCommand) : Except DomainError Unit := do
  ensure (extraScopes command = []) (policyError "invalid_scope"
    ("A " ++ command.source.value ++ " policy must carry only its own scope; got "
      ++ ", ".intercalate (extraScopes command) ++ ".")
    [("unexpected_scope", .text (", ".intercalate (extraScopes command)))])
  match command.source with
  | .internalMeasurement => return ()
  | .planFamily => do
      let _ ← requireScope .planFamily "plan_family" command.planFamily
      return ()
  | .subscriptionContract => do
      let scopeId ← requireScope .subscriptionContract "subscription_id" command.subscriptionId
      requireParent db.subscriptions "Subscription" "subscription_id" scopeId
  | .accountContract => do
      let scopeId ← requireScope .accountContract "subscriber_id" command.subscriberId
      requireParent db.subscribers "Subscriber" "subscriber_id" scopeId
  | .offerVersion => do
      let scopeId ← requireScope .offerVersion "offer_id" command.offerId
      requireParent db.offers "CatalogOffer" "offer_id" scopeId

/-- The scope of a command, by its source. -/
def derivePolicyKey (command : RecordPolicyVersionCommand) : Except DomainError PolicyScope :=
  match command.source with
  | .subscriptionContract => orRefuse (command.subscriptionId.map .subscription)
      (policyError "scope_required" "A subscription contract needs its subscription.")
  | .accountContract => orRefuse (command.subscriberId.map .account)
      (policyError "scope_required" "An account contract needs its account.")
  | .offerVersion => orRefuse (command.offerId.map .offer)
      (policyError "scope_required" "An offer policy needs its offer.")
  | .planFamily => orRefuse (command.planFamily.map .family)
      (policyError "scope_required" "A family policy needs its plan family.")
  | .internalMeasurement => return .internal

def termsOf (command : RecordPolicyVersionCommand) (scope : PolicyScope) (effectiveFrom : ℤ) :
    PolicyTerms where
  key := scope.key
  source := command.source
  effectiveFrom
  availabilityTargetPercent := command.availabilityTargetPercent
  calendarTimezone := command.calendarTimezone
  maintenanceExcludable := command.maintenanceExcludable
  creditPercentPerBreach := command.creditPercentPerBreach
  creditCapPercent := command.creditCapPercent
  contractReference := command.contractReference

def outcomeOf (record : SlaPolicyVersionRecord) (replayed : Bool) : PolicyVersionOutcome where
  policyVersionId := record.id
  policyKey := record.policyKey
  version := record.version
  source := record.source
  effectiveFrom := record.effectiveFrom
  supersededVersionId := record.supersedesId
  supersededAt := record.supersedesId.map fun _ => record.effectiveFrom
  replayed
  fingerprint := record.commandFingerprint.getD ""

def oneOrNone (rows : List SlaPolicyVersionRecord) :
    Except DomainError (Option SlaPolicyVersionRecord) :=
  match rows with
  | [] => .ok none
  | [record] => .ok (some record)
  | _ => .error ⟨"MultipleResultsFound",
      "Multiple rows were found when one or none was required", []⟩

def withFingerprint (db : SlaDb) (fingerprint : String) :
    Except DomainError (Option SlaPolicyVersionRecord) :=
  oneOrNone (db.policies.rows.filter fun r => r.commandFingerprint = some fingerprint)

def withKey (db : SlaDb) (key : String) : Except DomainError (Option SlaPolicyVersionRecord) :=
  oneOrNone (db.policies.rows.filter fun r => r.commandIdempotencyKey = some key)

/-- The row of a command seen before.  A key that was supplied is the identity of the command;
without one, the fingerprint is. -/
def findReplay (db : SlaDb) (idempotencyKey : Option String) (fingerprint : String) :
    Except DomainError (Option SlaPolicyVersionRecord) := do
  let duplicateTerms ← withFingerprint db fingerprint
  match idempotencyKey with
  | none => return duplicateTerms
  | some key => do
      let prior ← withKey db key
      match prior, duplicateTerms with
      | some prior, _ => do
          ensure (prior.commandFingerprint = some fingerprint) (policyError "idempotency_conflict"
            ("This idempotency key was already used for different policy terms; issue a new key "
              ++ "or resend the original command unchanged.")
            [("policy_key", .text prior.policyKey)])
          return some prior
      | none, some duplicate => .error (policyError "duplicate_policy_terms"
          ("These exact policy terms were already recorded under a different command; resend that "
            ++ "command's key to replay it, or change the terms.")
          [("policy_key", .text duplicate.policyKey)])
      | none, none => return none

def series (db : SlaDb) (key : String) : List SlaPolicyVersionRecord :=
  (db.policies.rows.filter fun r => r.policyKey = key).insertionSort fun a b => b.version ≤ a.version

/-- A version that ends where the next terms begin. -/
def closeAt (instant : ℤ) (record : SlaPolicyVersionRecord) : SlaPolicyVersionRecord :=
  if h : record.effectiveFrom < instant then
    { record with
      effectiveTo := some instant
      range := fun _ he => Option.mem_some_iff.mp he ▸ h }
  else record

lemma id_closeAt (instant : ℤ) (record : SlaPolicyVersionRecord) :
    Row.id (closeAt instant record) = Row.id record := by
  unfold closeAt
  split_ifs <;> rfl

def closeOpen (policies : Table SlaPolicyVersionRecord) (openRow : Option SlaPolicyVersionRecord)
    (instant : ℤ) : Table SlaPolicyVersionRecord :=
  match openRow with
  | none => policies
  | some r => policies.update r.id (closeAt instant) (id_closeAt instant)

/-- The row of a new version, if its stored target is one the table admits. -/
def newRecord (command : RecordPolicyVersionCommand) (scope : PolicyScope) (effectiveFrom : ℤ)
    (fingerprint : String) (version : ℕ) (supersedes : Option ℕ) :
    Except DomainError {f : ℕ → SlaPolicyVersionRecord // ∀ i, Row.id (f i) = i} :=
  let target := command.availabilityTargetPercent.map (Numeric.store 3)
  if hbounds : ∀ t ∈ target, 0 < t.value ∧ t.value ≤ 100 then
    if htarget : scope = .internal ∨ target.isSome then
      .ok ⟨fun id => {
        id, scope, version := version + 1, effectiveFrom, effectiveTo := none
        availabilityTargetPercent := target
        calendarTimezone := command.calendarTimezone
        maintenanceExcludable := command.maintenanceExcludable
        creditPercentPerBreach := command.creditPercentPerBreach.map (Numeric.store 3)
        creditCapPercent := command.creditCapPercent.map (Numeric.store 3)
        contractReference := command.contractReference
        establishedBy := some command.context.actor
        supersedesId := supersedes
        commandFingerprint := some fingerprint
        commandIdempotencyKey := command.context.idempotencyKey
        version_pos := Nat.le_add_left 1 version
        range := nofun
        target_bounds := hbounds
        contractual_target := htarget }, fun _ => rfl⟩
    else .error (policyError "invalid_policy_version"
      "The policy version was rejected by the database."
      [("policy_key", .text scope.key),
        ("constraint", .text "ck_sla_policy_versions_contractual_target")])
  else .error (policyError "invalid_policy_version"
    "The policy version was rejected by the database."
    [("policy_key", .text scope.key),
      ("constraint", .text "ck_sla_policy_versions_target_bounds")])

/-- The two versions are never in force together. -/
def Apart (a b : SlaPolicyVersionRecord) : Prop :=
  (∃ e ∈ a.effectiveTo, e ≤ b.effectiveFrom) ∨ ∃ e ∈ b.effectiveTo, e ≤ a.effectiveFrom

instance : DecidableRel Apart := fun a b =>
  inferInstanceAs (Decidable ((∃ e ∈ a.effectiveTo, e ≤ b.effectiveFrom) ∨
    ∃ e ∈ b.effectiveTo, e ≤ a.effectiveFrom))

/-- A flush of the policy table: its unique columns, and no overlap within one scope. -/
def flushPolicies (db : SlaDb) (key : String) : Except DomainError SlaDb := do
  let race (constraint : String) := policyError "concurrent_version_conflict"
    ("Another writer recorded a version of this policy concurrently; re-read the series and "
      ++ "retry.") [("policy_key", .text key), ("constraint", .text constraint)]
  ensure ((db.policies.rows.map fun r => (r.policyKey, r.version)).Nodup)
    (race "uq_sla_policy_versions_key_version")
  ensure ((db.policies.rows.filterMap (·.commandFingerprint)).Nodup)
    (race "uq_sla_policy_versions_fingerprint")
  ensure ((db.policies.rows.filterMap (·.commandIdempotencyKey)).Nodup)
    (race "uq_sla_policy_versions_idempotency_key")
  ensure (db.policies.rows.Pairwise fun a b => a.scope = b.scope → Apart a b)
    (race "ex_sla_policy_versions_no_overlap")
  return db

/-- A stored percentage has three digits before the point. -/
def checkColumns (command : RecordPolicyVersionCommand) : Except DomainError Unit :=
  ensure (∀ p ∈ [command.availabilityTargetPercent, command.creditPercentPerBreach,
    command.creditCapPercent], ∀ x ∈ p, |quantize halfUp 3 x| < 1000)
    ⟨"DataError", "numeric field overflow", []⟩

/-- Append the next version of a series, closing the one it supersedes. -/
def appendVersion (db : SlaDb) (command : RecordPolicyVersionCommand) (scope : PolicyScope)
    (effectiveFrom : ℤ) (fingerprint : String) :
    Except DomainError (SlaDb × PolicyVersionOutcome) := do
  let existing := series db scope.key
  ensure (∀ r ∈ existing, ∀ e ∈ r.effectiveTo, e ≤ effectiveFrom)
    (policyError "would_rewrite_closed_period"
      ("Backdating behind a closed version would rewrite a period that may already have been "
        ++ "scored.") [("policy_key", .text scope.key)])
  let openRow := existing.find? fun r => r.effectiveTo = none
  ensure (∀ r ∈ openRow, r.effectiveFrom < effectiveFrom)
    (policyError "not_after_current"
      "New terms must begin after the version currently in force."
      [("policy_key", .text scope.key)])
  let closed := closeOpen db.policies openRow effectiveFrom
  checkColumns command
  let record ← newRecord command scope effectiveFrom fingerprint
    (existing.head?.elim 0 SlaPolicyVersionRecord.version) (openRow.map SlaPolicyVersionRecord.id)
  let db ← flushPolicies { db with policies := closed.insert record.1 record.2 } scope.key
  return (db, outcomeOf (record.1 closed.next) false)

/-- The scope, the first instant and the fingerprint of a command that passes its checks. -/
def requestedTerms (env : PolicyEnv) (db : SlaDb) (command : RecordPolicyVersionCommand) :
    Except DomainError (PolicyScope × ℤ × String) := do
  validateContext command.context
  let effectiveFrom ← orRefuse command.effectiveFrom (policyError "missing_effective_from"
    "A policy version needs the instant its terms begin.")
  ensure (command.source = .internalMeasurement ∨ command.availabilityTargetPercent.isSome)
    (policyError "contractual_target_required"
      ("A contractual policy must state its availability target; only the internal measurement "
        ++ "policy may omit one."))
  validateScope db command
  let scope ← derivePolicyKey command
  return (scope, effectiveFrom, env.fingerprint (termsOf command scope effectiveFrom))

/-- Replay the version of a key, or append one. -/
def recordPolicyVersion (env : PolicyEnv) (db : SlaDb) (command : RecordPolicyVersionCommand) :
    Except DomainError (SlaDb × PolicyVersionOutcome) := do
  let (scope, effectiveFrom, fingerprint) ← requestedTerms env db command
  let prior ← findReplay db command.context.idempotencyKey fingerprint
  match prior with
  | some prior => return (db, outcomeOf prior true)
  | none => appendVersion db command scope effectiveFrom fingerprint

def recordStep (env : PolicyEnv) (db : SlaDb) (command : RecordPolicyVersionCommand) :
    Except DomainError SlaDb :=
  Prod.fst <$> recordPolicyVersion env db command

/-! ## What an accepted command did -/

variable {env : PolicyEnv} {db db' : SlaDb} {command : RecordPolicyVersionCommand}
  {out : PolicyVersionOutcome} {scope : PolicyScope} {effectiveFrom : ℤ} {fingerprint : String}
  {openRow : Option SlaPolicyVersionRecord} {record r : SlaPolicyVersionRecord}

def closing (openRow : Option SlaPolicyVersionRecord) (instant : ℤ) (r : SlaPolicyVersionRecord) :
    SlaPolicyVersionRecord :=
  if openRow.map SlaPolicyVersionRecord.id = some r.id then closeAt instant r else r

lemma rows_closeOpen (policies : Table SlaPolicyVersionRecord) (instant : ℤ) :
    (closeOpen policies openRow instant).rows = policies.rows.map (closing openRow instant) := by
  cases openRow with
  | none =>
    have hid : closing none instant = id := funext fun r => if_neg nofun
    rw [hid, List.map_id]
    rfl
  | some o =>
    refine List.map_congr_left fun r _ => ?_
    simp only [closing, Option.map_some, Option.some.injEq, eq_comm (a := o.id)]
    rfl

lemma next_closeOpen (policies : Table SlaPolicyVersionRecord) (instant : ℤ) :
    (closeOpen policies openRow instant).next = policies.next := by
  cases openRow <;> rfl

lemma outcomeOf_closing (instant : ℤ) (r : SlaPolicyVersionRecord) (replayed : Bool) :
    outcomeOf (closing openRow instant r) replayed = outcomeOf r replayed := by
  unfold closing closeAt
  split_ifs <;> rfl

lemma closing_frame (instant : ℤ) (r : SlaPolicyVersionRecord) :
    (closing openRow instant r).id = r.id ∧ (closing openRow instant r).policyKey = r.policyKey ∧
      (closing openRow instant r).effectiveFrom = r.effectiveFrom ∧
      (closing openRow instant r).commandFingerprint = r.commandFingerprint ∧
      (closing openRow instant r).commandIdempotencyKey = r.commandIdempotencyKey := by
  unfold closing closeAt
  split_ifs <;> exact ⟨rfl, rfl, rfl, rfl, rfl⟩

def DistinctIdentities (db : SlaDb) : Prop :=
  (db.policies.rows.filterMap (·.commandFingerprint)).Nodup ∧
    (db.policies.rows.filterMap (·.commandIdempotencyKey)).Nodup

/-- What an accepted command writes: it closes the open row and adds one. -/
structure Appended (db db' : SlaDb) (command : RecordPolicyVersionCommand) (scope : PolicyScope)
    (effectiveFrom : ℤ) (fingerprint : String) (out : PolicyVersionOutcome)
    (openRow : Option SlaPolicyVersionRecord) (record : SlaPolicyVersionRecord) : Prop where
  closed_le : ∀ r ∈ db.policies.rows, r.policyKey = scope.key →
    ∀ e ∈ r.effectiveTo, e ≤ effectiveFrom
  open_mem : ∀ r ∈ openRow, r ∈ db.policies.rows ∧ r.policyKey = scope.key ∧
    r.effectiveTo = none ∧ r.effectiveFrom < effectiveFrom
  open_none : openRow = none → ∀ r ∈ db.policies.rows, r.policyKey = scope.key →
    r.effectiveTo ≠ none
  rows : db'.policies.rows = db.policies.rows.map (closing openRow effectiveFrom) ++ [record]
  fresh : ∀ r ∈ db.policies.rows, r.id ≠ record.id
  tables : db' = { db with policies := db'.policies }
  key : record.policyKey = scope.key
  starts : record.effectiveFrom = effectiveFrom
  ends : record.effectiveTo = none
  recorded : record.commandFingerprint = some fingerprint ∧
    record.commandIdempotencyKey = command.context.idempotencyKey
  identities : DistinctIdentities db'
  outcome : out = outcomeOf record false

lemma mem_series {key : String} : r ∈ series db key ↔ r ∈ db.policies.rows ∧ r.policyKey = key := by
  rw [series, (List.perm_insertionSort _ _).mem_iff, List.mem_filter, decide_eq_true_eq]

lemma newRecord_ok {version : ℕ} {supersedes : Option ℕ}
    {f : {f : ℕ → SlaPolicyVersionRecord // ∀ i, Row.id (f i) = i}}
    (h : newRecord command scope effectiveFrom fingerprint version supersedes = .ok f) (i : ℕ) :
    (f.1 i).scope = scope ∧ (f.1 i).effectiveFrom = effectiveFrom ∧ (f.1 i).effectiveTo = none ∧
      (f.1 i).commandFingerprint = some fingerprint ∧
      (f.1 i).commandIdempotencyKey = command.context.idempotencyKey := by
  unfold newRecord at h
  dsimp only at h
  split_ifs at h
  rw [← Except.ok.inj h]
  exact ⟨rfl, rfl, rfl, rfl, rfl⟩

lemma flushPolicies_ok {db₁ : SlaDb} {key : String} (h : flushPolicies db key = .ok db₁) :
    db₁ = db ∧ DistinctIdentities db := by
  obtain ⟨-, h⟩ := ensure_bind_eq_ok.mp h
  obtain ⟨hfingerprints, h⟩ := ensure_bind_eq_ok.mp h
  obtain ⟨hkeys, h⟩ := ensure_bind_eq_ok.mp h
  obtain ⟨-, h⟩ := ensure_bind_eq_ok.mp h
  exact ⟨(Except.ok.inj h).symm, hfingerprints, hkeys⟩

/-- **Appending** closes the open version and adds the next one. -/
theorem appendVersion_ok
    (h : appendVersion db command scope effectiveFrom fingerprint = .ok (db', out)) :
    ∃ openRow record,
      Appended db db' command scope effectiveFrom fingerprint out openRow record := by
  obtain ⟨hclosed, h⟩ := ensure_bind_eq_ok.mp h
  obtain ⟨hopen, h⟩ := ensure_bind_eq_ok.mp h
  obtain ⟨-, -, h⟩ := bind_eq_ok.mp h
  obtain ⟨f, hf, h⟩ := bind_eq_ok.mp h
  obtain ⟨db₁, hflush, h⟩ := bind_eq_ok.mp h
  obtain ⟨rfl, hidentities⟩ := flushPolicies_ok hflush
  obtain ⟨rfl, rfl⟩ := mk_eq_ok.mp h
  generalize hfound : (series db scope.key).find? (fun r => decide (r.effectiveTo = none)) = openRow
    at hopen hidentities ⊢
  have hrecord := newRecord_ok hf (closeOpen db.policies openRow effectiveFrom).next
  refine ⟨openRow, f.1 (closeOpen db.policies openRow effectiveFrom).next, ?_⟩
  constructor
  case closed_le =>
    intro r hr hkey
    exact hclosed r (mem_series.mpr ⟨hr, hkey⟩)
  case open_mem =>
    intro r hr
    have hmem := mem_series.mp (List.mem_of_find?_eq_some (hfound.trans hr))
    have hnone : r.effectiveTo = none := by simpa using List.find?_some (hfound.trans hr)
    exact ⟨hmem.1, hmem.2, hnone, hopen r hr⟩
  case open_none =>
    intro hnone r hr hkey
    have hall := List.find?_eq_none.mp (hfound.trans hnone) r (mem_series.mpr ⟨hr, hkey⟩)
    simpa using hall
  case rows =>
    show (closeOpen db.policies openRow effectiveFrom).rows ++ _ = _
    rw [rows_closeOpen]
  case fresh =>
    intro r hr
    have hid := f.2 (closeOpen db.policies openRow effectiveFrom).next
    have hlt : r.id < db.policies.next := db.policies.fresh r hr
    have hnext : (closeOpen db.policies openRow effectiveFrom).next = db.policies.next :=
      next_closeOpen db.policies effectiveFrom
    refine ne_of_lt (hlt.trans_eq ?_)
    exact (hid.trans hnext).symm
  case tables => rfl
  case key => rw [SlaPolicyVersionRecord.policyKey, hrecord.1]
  case starts => exact hrecord.2.1
  case ends => exact hrecord.2.2.1
  case recorded => exact hrecord.2.2.2
  case identities => exact hidentities
  case outcome => rfl

/-- **A recorded command** was answered from its row, or appended a version. -/
theorem recordPolicyVersion_ok (h : recordPolicyVersion env db command = .ok (db', out)) :
    ∃ scope effectiveFrom fingerprint,
      requestedTerms env db command = .ok (scope, effectiveFrom, fingerprint) ∧
      ((db' = db ∧ ∃ r, findReplay db command.context.idempotencyKey fingerprint = .ok (some r) ∧
          out = outcomeOf r true) ∨
        findReplay db command.context.idempotencyKey fingerprint = .ok none ∧
          ∃ openRow record,
            Appended db db' command scope effectiveFrom fingerprint out openRow record) := by
  obtain ⟨⟨scope, effectiveFrom, fingerprint⟩, hterms, h⟩ := bind_eq_ok.mp h
  obtain ⟨prior, hprior, h⟩ := bind_eq_ok.mp h
  refine ⟨scope, effectiveFrom, fingerprint, hterms, ?_⟩
  cases prior with
  | some r =>
    obtain ⟨rfl, rfl⟩ := mk_eq_ok.mp h
    exact .inl ⟨rfl, r, hprior, rfl⟩
  | none => exact .inr ⟨hprior, appendVersion_ok h⟩

/-- Versions of one series are never in force together. -/
def Disjoint (db : SlaDb) : Prop :=
  ∀ a ∈ db.policies.rows, ∀ b ∈ db.policies.rows, a.policyKey = b.policyKey → a.id ≠ b.id →
    Apart a b

namespace Appended

variable (h : Appended db db' command scope effectiveFrom fingerprint out openRow record)
include h

lemma closing_of_ended (hr : r ∈ db.policies.rows) (hend : r.effectiveTo ≠ none) :
    closing openRow effectiveFrom r = r := by
  refine if_neg fun hid => hend ?_
  obtain ⟨o, ho, hoid⟩ := Option.map_eq_some_iff.mp hid
  obtain ⟨hmem, -, hnone, -⟩ := h.open_mem o ho
  rw [← Table.eq_of_id_eq hmem hr hoid]
  exact hnone

/-- Every version of the series ends by the time the new terms begin. -/
lemma end_le (hdisjoint : Disjoint db) (hr : r ∈ db.policies.rows) (hkey : r.policyKey = scope.key) :
    ∃ e ∈ (closing openRow effectiveFrom r).effectiveTo, e ≤ effectiveFrom := by
  cases hend : r.effectiveTo with
  | some e =>
    have hne : r.effectiveTo ≠ none := by simp [hend]
    rw [h.closing_of_ended hr hne]
    exact ⟨e, hend, h.closed_le r hr hkey e hend⟩
  | none =>
    cases ho : openRow with
    | none => exact absurd hend (h.open_none ho r hr hkey)
    | some o =>
      obtain ⟨hmem, hokey, honone, hlt⟩ := h.open_mem o ho
      have hsame : o = r := by
        by_contra hne
        have hid : o.id ≠ r.id := fun hid => hne (Table.eq_of_id_eq hmem hr hid)
        rcases hdisjoint o hmem r hr (hokey.trans hkey.symm) hid with ⟨e, he, -⟩ | ⟨e, he, -⟩
        · simp [honone] at he
        · simp [hend] at he
      subst hsame
      refine ⟨effectiveFrom, ?_, le_rfl⟩
      rw [closing, if_pos (Option.map_some ..), closeAt, dif_pos hlt]
      rfl

lemma apart_closing {a b : SlaPolicyVersionRecord} (ha : a ∈ db.policies.rows)
    (hb : b ∈ db.policies.rows) (hab : Apart a b) :
    Apart (closing openRow effectiveFrom a) (closing openRow effectiveFrom b) := by
  have hstart : ∀ r, (closing openRow effectiveFrom r).effectiveFrom = r.effectiveFrom :=
    fun r => (closing_frame effectiveFrom r).2.2.1
  have hends : ∀ r ∈ db.policies.rows, ∀ e ∈ r.effectiveTo,
      e ∈ (closing openRow effectiveFrom r).effectiveTo := by
    intro r hr e he
    have hne : r.effectiveTo ≠ none := by
      rw [Option.mem_def.mp he]
      exact Option.some_ne_none e
    rwa [h.closing_of_ended hr hne]
  rcases hab with ⟨e, he, hle⟩ | ⟨e, he, hle⟩
  · exact .inl ⟨e, hends a ha e he, (hstart b).symm ▸ hle⟩
  · exact .inr ⟨e, hends b hb e he, (hstart a).symm ▸ hle⟩

/-- **An appended version keeps the history disjoint.** -/
theorem disjoint (hdisjoint : Disjoint db) : Disjoint db' := by
  have hnew : ∀ r ∈ db.policies.rows, (closing openRow effectiveFrom r).policyKey = record.policyKey →
      Apart (closing openRow effectiveFrom r) record := by
    intro r hr hkey
    rw [(closing_frame effectiveFrom r).2.1, h.key] at hkey
    obtain ⟨e, he, hle⟩ := h.end_le hdisjoint hr hkey
    exact .inl ⟨e, he, h.starts.symm ▸ hle⟩
  intro a ha b hb hkey hid
  rw [h.rows, List.mem_append, List.mem_singleton] at ha hb
  rcases ha with ha | rfl <;> rcases hb with hb | rfl
  · obtain ⟨a₀, ha₀, rfl⟩ := List.mem_map.mp ha
    obtain ⟨b₀, hb₀, rfl⟩ := List.mem_map.mp hb
    rw [(closing_frame effectiveFrom a₀).2.1, (closing_frame effectiveFrom b₀).2.1] at hkey
    rw [(closing_frame effectiveFrom a₀).1, (closing_frame effectiveFrom b₀).1] at hid
    exact h.apart_closing ha₀ hb₀ (hdisjoint a₀ ha₀ b₀ hb₀ hkey hid)
  · obtain ⟨a₀, ha₀, rfl⟩ := List.mem_map.mp ha
    exact hnew a₀ ha₀ hkey
  · obtain ⟨b₀, hb₀, rfl⟩ := List.mem_map.mp hb
    exact Or.symm (hnew b₀ hb₀ hkey.symm)
  · exact absurd rfl hid

end Appended

/-! ## What later states keep -/

/-- The row is the same up to its end, and the same altogether once it has one. -/
structure Continues (r r' : SlaPolicyVersionRecord) : Prop where
  outcome : ∀ replayed, outcomeOf r' replayed = outcomeOf r replayed
  fingerprint : r'.commandFingerprint = r.commandFingerprint
  key : r'.commandIdempotencyKey = r.commandIdempotencyKey
  ended : r.effectiveTo ≠ none → r' = r

/-- Every row of the earlier state continues in the later one, and nothing but policies changed. -/
structure Extends (db db' : SlaDb) : Prop where
  tables : db' = { db with policies := db'.policies }
  rows : ∀ r ∈ db.policies.rows, ∃ r' ∈ db'.policies.rows, Continues r r'

lemma Extends.refl (db : SlaDb) : Extends db db :=
  ⟨rfl, fun r hr => ⟨r, hr, fun _ => rfl, rfl, rfl, fun _ => rfl⟩⟩

lemma Extends.trans {db₁ db₂ db₃ : SlaDb} (h : Extends db₁ db₂) (h' : Extends db₂ db₃) :
    Extends db₁ db₃ := by
  constructor
  · rw [h'.tables, h.tables]
  · intro r hr
    obtain ⟨r₂, hr₂, c⟩ := h.rows r hr
    obtain ⟨r₃, hr₃, c'⟩ := h'.rows r₂ hr₂
    refine ⟨r₃, hr₃, fun b => (c'.outcome b).trans (c.outcome b),
      c'.fingerprint.trans c.fingerprint, c'.key.trans c.key, fun hend => ?_⟩
    have hsame := c.ended hend
    rw [c'.ended (hsame ▸ hend), hsame]

lemma Appended.extends (h : Appended db db' command scope effectiveFrom fingerprint out openRow record) :
    Extends db db' := by
  refine ⟨h.tables, fun r hr => ⟨closing openRow effectiveFrom r, ?_, ?_⟩⟩
  · rw [h.rows]
    exact List.mem_append_left _ (List.mem_map_of_mem hr)
  · obtain ⟨-, -, -, hfingerprint, hkey⟩ :
        (closing openRow effectiveFrom r).id = r.id ∧ _ := closing_frame effectiveFrom r
    exact ⟨outcomeOf_closing effectiveFrom r, hfingerprint, hkey, h.closing_of_ended hr⟩

/-! ## Replays are found -/

lemma filter_eq_singleton {f : SlaPolicyVersionRecord → Option String} {v : String} :
    ∀ {rows : List SlaPolicyVersionRecord}, (rows.filterMap f).Nodup → r ∈ rows → f r = some v →
      rows.filter (fun x => f x = some v) = [r]
  | [], _, hr, _ => absurd hr List.not_mem_nil
  | x :: rows, hnodup, hr, hv => by
    rcases List.mem_cons.mp hr with rfl | hr
    · rw [List.filterMap_cons_some hv, List.nodup_cons] at hnodup
      rw [List.filter_cons_of_pos (by simp [hv]), List.filter_eq_nil_iff.mpr]
      intro y hy hyv
      exact hnodup.1 (List.mem_filterMap.mpr ⟨y, hy, of_decide_eq_true hyv⟩)
    · cases hx : f x with
      | none =>
        rw [List.filterMap_cons_none hx] at hnodup
        rw [List.filter_cons_of_neg (by simp [hx])]
        exact filter_eq_singleton hnodup hr hv
      | some w =>
        rw [List.filterMap_cons_some hx, List.nodup_cons] at hnodup
        have hne : w ≠ v := by
          rintro rfl
          exact hnodup.1 (List.mem_filterMap.mpr ⟨r, hr, hv⟩)
        rw [List.filter_cons_of_neg (by simp [hx, hne])]
        exact filter_eq_singleton hnodup.2 hr hv

def RecordedFor (idempotencyKey : Option String) (fingerprint : String)
    (r : SlaPolicyVersionRecord) : Prop :=
  r.commandFingerprint = some fingerprint ∧
    ∀ key ∈ idempotencyKey, r.commandIdempotencyKey = some key

lemma findReplay_of_mem {idempotencyKey : Option String} (hdistinct : DistinctIdentities db)
    (hr : r ∈ db.policies.rows) (hfor : RecordedFor idempotencyKey fingerprint r) :
    findReplay db idempotencyKey fingerprint = .ok (some r) := by
  have hterms : withFingerprint db fingerprint = .ok (some r) := by
    rw [withFingerprint, filter_eq_singleton hdistinct.1 hr hfor.1]
    rfl
  cases hkey : idempotencyKey with
  | none =>
    rw [findReplay, hterms]
    rfl
  | some key =>
    have hprior : withKey db key = .ok (some r) := by
      rw [withKey, filter_eq_singleton hdistinct.2 hr (hfor.2 key hkey)]
      rfl
    rw [findReplay, hterms, ok_bind]
    show (withKey db key >>= _) = _
    rw [hprior, ok_bind]
    show (ensure (r.commandFingerprint = some fingerprint) _ >>= _) = _
    rw [ensure_of hfor.1]
    rfl

lemma mem_of_oneOrNone {rows : List SlaPolicyVersionRecord} (h : oneOrNone rows = .ok (some r)) :
    r ∈ rows := by
  unfold oneOrNone at h
  split at h
  · cases h
  · obtain rfl := Option.some.inj (Except.ok.inj h)
    exact List.mem_singleton_self _
  · cases h

lemma mem_of_findReplay {idempotencyKey : Option String}
    (h : findReplay db idempotencyKey fingerprint = .ok (some r)) :
    r ∈ db.policies.rows ∧ RecordedFor idempotencyKey fingerprint r := by
  obtain ⟨duplicate, hduplicate, h⟩ := bind_eq_ok.mp h
  cases hkey : idempotencyKey with
  | none =>
    subst hkey
    obtain rfl := Except.ok.inj h
    obtain ⟨hmem, hv⟩ := List.mem_filter.mp (mem_of_oneOrNone hduplicate)
    exact ⟨hmem, of_decide_eq_true hv, nofun⟩
  | some key =>
    subst hkey
    obtain ⟨prior, hprior, h⟩ := bind_eq_ok.mp h
    cases prior with
    | none =>
      cases duplicate with
      | none => cases h
      | some d => cases h
    | some p =>
      obtain ⟨hfingerprint, h⟩ := ensure_bind_eq_ok.mp h
      obtain rfl := Option.some.inj (Except.ok.inj h)
      obtain ⟨hmem, hv⟩ := List.mem_filter.mp (mem_of_oneOrNone hprior)
      refine ⟨hmem, hfingerprint, fun k hk => ?_⟩
      obtain rfl := Option.some.inj hk
      exact of_decide_eq_true hv

structure Lawful (db : SlaDb) : Prop where
  disjoint : Disjoint db
  identities : DistinctIdentities db

/-- **One command** keeps the history lawful and extends it. -/
theorem recordStep_lawful (h : recordStep env db command = .ok db') (hlawful : Lawful db) :
    Lawful db' ∧ Extends db db' := by
  obtain ⟨⟨db₁, out⟩, hrecord, rfl⟩ := map_eq_ok.mp h
  obtain ⟨scope, effectiveFrom, fingerprint, -, hcases⟩ := recordPolicyVersion_ok hrecord
  rcases hcases with ⟨rfl, -⟩ | ⟨-, openRow, record, happended⟩
  · exact ⟨hlawful, Extends.refl _⟩
  · exact ⟨⟨happended.disjoint hlawful.disjoint, happended.identities⟩, happended.extends⟩

/-- **A run** keeps the history lawful and extends it. -/
theorem run_lawful (env : PolicyEnv) (commands : List RecordPolicyVersionCommand)
    (hlawful : Lawful db) :
    Lawful (Run.run (recordStep env) db commands) ∧
      Extends db (Run.run (recordStep env) db commands) := by
  have hnext : ∀ s c s', Lawful s ∧ Extends db s → recordStep env s c = .ok s' →
      Lawful s' ∧ Extends db s' := by
    rintro s c s' ⟨hs, hext⟩ hstep
    obtain ⟨hs', hext'⟩ := recordStep_lawful hstep hs
    exact ⟨hs', hext.trans hext'⟩
  exact Run.invariant_run hnext commands ⟨hlawful, Extends.refl db⟩

def withoutPolicies (db : SlaDb) : SlaDb := { db with policies := .empty }

lemma lawful_withoutPolicies (db : SlaDb) : Lawful (withoutPolicies db) :=
  ⟨fun _ ha => absurd ha List.not_mem_nil, List.nodup_nil, List.nodup_nil⟩

lemma requestedTerms_congr (h : Extends db db') (command : RecordPolicyVersionCommand) :
    requestedTerms env db' command = requestedTerms env db command := by
  rw [h.tables]
  rfl

/-- The answer to a command is a stored version with the digest of its terms: one recorded before,
in the state as it was, or the one the command appended. -/
def Answered (env : PolicyEnv) (db db' : SlaDb) (command : RecordPolicyVersionCommand)
    (out : PolicyVersionOutcome) : Prop :=
  ∃ scope effectiveFrom fingerprint,
    requestedTerms env db command = .ok (scope, effectiveFrom, fingerprint) ∧
    ∃ r ∈ db'.policies.rows, RecordedFor command.context.idempotencyKey fingerprint r ∧
      (db' = db ∧ out = outcomeOf r true ∨
        ∃ openRow, Appended db db' command scope effectiveFrom fingerprint out openRow r)

/-- **An accepted command is recorded.** -/
theorem answered_of_ok (h : recordPolicyVersion env db command = .ok (db', out)) :
    Answered env db db' command out := by
  obtain ⟨scope, effectiveFrom, fingerprint, hterms, hcases⟩ := recordPolicyVersion_ok h
  refine ⟨scope, effectiveFrom, fingerprint, hterms, ?_⟩
  rcases hcases with ⟨rfl, r, hreplay, rfl⟩ | ⟨-, openRow, record, happended⟩
  · obtain ⟨hmem, hfor⟩ := mem_of_findReplay hreplay
    exact ⟨r, hmem, hfor, .inl ⟨rfl, rfl⟩⟩
  · refine ⟨record, ?_, ⟨happended.recorded.1, fun key hkey => ?_⟩, .inr ⟨openRow, happended⟩⟩
    · rw [happended.rows]
      exact List.mem_append_right _ (List.mem_singleton_self _)
    · rw [happended.recorded.2]
      exact hkey

/-- **In every later state** an accepted command is answered from its row. -/
theorem replay_of_accepted (h : recordPolicyVersion env db command = .ok (db', out))
    {later : SlaDb} (hlawful : Lawful later) (hbefore : Extends db later)
    (hafter : Extends db' later) :
    recordPolicyVersion env later command = .ok (later, { out with replayed := true }) := by
  obtain ⟨scope, effectiveFrom, fingerprint, hterms, r, hmem, hfor, hanswer⟩ := answered_of_ok h
  have hout : { out with replayed := true } = outcomeOf r true := by
    rcases hanswer with ⟨-, rfl⟩ | ⟨openRow, happended⟩
    · rfl
    · rw [happended.outcome]
      rfl
  obtain ⟨r', hmem', hcont⟩ := hafter.rows r hmem
  have hfor' : RecordedFor command.context.idempotencyKey fingerprint r' :=
    ⟨hcont.fingerprint.trans hfor.1, fun key hkey => hcont.key.trans (hfor.2 key hkey)⟩
  rw [recordPolicyVersion, requestedTerms_congr hbefore, hterms, ok_bind]
  show (findReplay later command.context.idempotencyKey fingerprint >>= _) = _
  rw [findReplay_of_mem hlawful.identities hmem' hfor', ok_bind, hout, ← hcont.outcome]
  rfl

/-- **Policy history is append-only.**  Whatever commands are sent, the versions of one series are
never in force together, at most one of them is open-ended, a closed version is kept as it is by
every later command, and a command that is accepted stores the version it is answered with, and is
answered with it ever after, in the state as it is. -/
theorem history_append_only (env : PolicyEnv) (db : SlaDb)
    (before after : List RecordPolicyVersionCommand) :
    let reached := Run.run (recordStep env) (withoutPolicies db) before
    (∀ a ∈ reached.policies.rows, ∀ b ∈ reached.policies.rows, a.policyKey = b.policyKey →
      a.id ≠ b.id → ∀ t, ¬ (a.Covers t ∧ b.Covers t)) ∧
    (∀ a ∈ reached.policies.rows, ∀ b ∈ reached.policies.rows, a.policyKey = b.policyKey →
      a.effectiveTo = none → b.effectiveTo = none → a = b) ∧
    (∀ a ∈ reached.policies.rows, a.effectiveTo ≠ none →
      a ∈ (Run.run (recordStep env) reached after).policies.rows) ∧
    ∀ command accepted outcome,
      recordPolicyVersion env reached command = .ok (accepted, outcome) →
      Answered env reached accepted command outcome ∧
      recordPolicyVersion env (Run.run (recordStep env) accepted after) command
        = .ok (Run.run (recordStep env) accepted after, { outcome with replayed := true }) := by
  intro reached
  have hreached : Lawful reached := (run_lawful env before (lawful_withoutPolicies db)).1
  refine ⟨?_, ?_, ?_, ?_⟩
  · rintro a ha b hb hkey hid t ⟨hat, hbt⟩
    rcases hreached.disjoint a ha b hb hkey hid with ⟨e, he, hle⟩ | ⟨e, he, hle⟩
    · exact absurd (hat.2 e he) (not_lt.mpr (hle.trans hbt.1))
    · exact absurd (hbt.2 e he) (not_lt.mpr (hle.trans hat.1))
  · intro a ha b hb hkey haopen hbopen
    by_contra hne
    have hid : a.id ≠ b.id := fun hid => hne (Table.eq_of_id_eq ha hb hid)
    rcases hreached.disjoint a ha b hb hkey hid with ⟨e, he, -⟩ | ⟨e, he, -⟩
    · simp [haopen] at he
    · simp [hbopen] at he
  · intro a ha hend
    obtain ⟨a', ha', hcont⟩ := (run_lawful env after hreached).2.rows a ha
    rwa [hcont.ended hend] at ha'
  · intro command accepted outcome h
    have hstep : recordStep env reached command = .ok accepted := map_eq_ok.mpr ⟨_, h, rfl⟩
    obtain ⟨haccepted, hext⟩ := recordStep_lawful hstep hreached
    obtain ⟨hlater, hext'⟩ := run_lawful env after haccepted
    exact ⟨answered_of_ok h, replay_of_accepted h hlater (hext.trans hext') hext'⟩

/-! ## Two versions of one policy -/

def internalPolicy (target : ℚ) (effectiveFrom : ℤ) : RecordPolicyVersionCommand where
  source := .internalMeasurement
  effectiveFrom := some effectiveFrom
  availabilityTargetPercent := some target
  context := ⟨"ops", "sla", "yearly review", none⟩

def textEnv : PolicyEnv where
  fingerprint terms := terms.key ++ toString terms.effectiveFrom ++
    toString (terms.availabilityTargetPercent.getD 0)

def noTables : SlaDb := ⟨.empty, .empty, .empty, .empty, .empty⟩

/-- A tighter target closes the first version, and is answered with its own version again. -/
theorem history_append_only_internalPolicy :
    ∃ accepted outcome,
      recordPolicyVersion textEnv (Run.run (recordStep textEnv) noTables [internalPolicy 95 0])
        (internalPolicy 99 30) = .ok (accepted, outcome) ∧
      accepted.policies.rows.map (fun r => (r.id, r.effectiveTo)) = [(0, some 30), (1, none)] ∧
      recordPolicyVersion textEnv accepted (internalPolicy 99 30)
        = .ok (accepted, { outcome with replayed := true }) := by
  have haccepted : ∃ answer,
      recordPolicyVersion textEnv (Run.run (recordStep textEnv) noTables [internalPolicy 95 0])
        (internalPolicy 99 30) = .ok answer ∧
      answer.1.policies.rows.map (fun r => (r.id, r.effectiveTo)) = [(0, some 30), (1, none)] := by
    decide +kernel
  obtain ⟨answer, hanswer, hrows⟩ := haccepted
  exact ⟨answer.1, answer.2, hanswer, hrows,
    ((history_append_only textEnv noTables [internalPolicy 95 0] []).2.2.2 _ _ _ hanswer).2⟩

end DotmacSub.Sla
