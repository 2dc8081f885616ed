import DotmacSub.Billing.ContractSteps

/-!
# Rating

The resolver of `services/billing/rating.py`: a contract version, one of its lines and an exact
period give a net, a tax and a gross amount, together with the inputs that produced them.  The
inputs carry a fingerprint, and a result is only ever computed from inputs whose fingerprint
matches, so a recorded obligation is replayed from its own row.

The hash is a parameter: `RatingEnv.digest` stands for SHA-256 over the canonical JSON text of a
payload.
-/

namespace DotmacSub

open Store Checked Cadence Decimal

namespace Rating

def owner : String := "billing.rating"

def ratingPolicyVersion : String := "billing-rating-v1"

def supportedPolicyVersions : List String := ["billing-rating-v1"]

def error (suffix message : String) (details : List (String × Detail) := []) : DomainError :=
  ⟨owner ++ "." ++ suffix, message, details⟩

/-- Immutable inputs that reproduce one obligation's rated result. -/
structure RatingProvenance where
  contractVersionId : ℕ
  contractLineKey : ℕ
  policyVersion : String
  period : Interval
  currency : String
  covered : Interval
  unitPrice : ℚ
  quantity : ℚ
  rateBasis : RateBasis
  rateUnit : IntervalUnit
  rateQuantity : ℚ
  timezoneName : String
  prorationPolicy : ProrationPolicy
  rateUnits : ℚ
  proration : ℚ
  taxTreatmentCode : Option String
  taxRateId : Option ℕ
  taxRatePercent : ℚ
  taxInclusive : Bool
  inputFingerprint : String
deriving DecidableEq

/-- The values that are hashed.  A decimal enters as its normalized text, which is the text of the
decimal rounded to the context precision, so the payload holds that value. -/
structure FingerprintPayload where
  contractVersionId : ℕ
  contractLineKey : ℕ
  policyVersion : String
  periodStart : ℤ
  periodEnd : ℤ
  currency : String
  coverageStart : ℤ
  coverageEnd : ℤ
  unitPrice : ℚ
  quantity : ℚ
  rateBasis : RateBasis
  rateUnit : IntervalUnit
  rateQuantity : ℚ
  timezoneName : String
  prorationPolicy : ProrationPolicy
  rateUnits : ℚ
  proration : ℚ
  taxTreatmentCode : Option String
  taxRateId : Option ℕ
  taxRatePercent : ℚ
  taxInclusive : Bool
deriving DecidableEq

/-- What the rating fingerprint is of. -/
def fingerprintPayload (provenance : RatingProvenance) : FingerprintPayload where
  contractVersionId := provenance.contractVersionId
  contractLineKey := provenance.contractLineKey
  policyVersion := provenance.policyVersion
  periodStart := provenance.period.startsAt
  periodEnd := provenance.period.endsAt
  currency := provenance.currency
  coverageStart := provenance.covered.startsAt
  coverageEnd := provenance.covered.endsAt
  unitPrice := ctx provenance.unitPrice
  quantity := ctx provenance.quantity
  rateBasis := provenance.rateBasis
  rateUnit := provenance.rateUnit
  rateQuantity := ctx provenance.rateQuantity
  timezoneName := provenance.timezoneName
  prorationPolicy := provenance.prorationPolicy
  rateUnits := ctx provenance.rateUnits
  proration := ctx provenance.proration
  taxTreatmentCode := provenance.taxTreatmentCode
  taxRateId := provenance.taxRateId
  taxRatePercent := ctx provenance.taxRatePercent
  taxInclusive := provenance.taxInclusive

/-- What rating and scheduling read from outside the database: the environment of the contract
owner, the hash, and the authority the obligation owner's migration state permits. -/
structure RatingEnv extends BillingEnv where
  digest : FingerprintPayload → String
  obligationAuthority : BillingRecordAuthority

/-- Content-address one exact set of rating inputs. -/
def ratingInputFingerprint (env : RatingEnv) (provenance : RatingProvenance) : String :=
  env.digest (fingerprintPayload provenance)

def withFingerprint (env : RatingEnv) (provenance : RatingProvenance) : RatingProvenance :=
  { provenance with inputFingerprint := ratingInputFingerprint env provenance }

/-- Typed, deterministic result plus its complete replay provenance. -/
structure RatedObligation where
  contractVersionId : ℕ
  contractLineKey : ℕ
  period : Interval
  currency : String
  netAmount : ℚ
  taxAmount : ℚ
  grossAmount : ℚ
  provenance : RatingProvenance
deriving DecidableEq

def money (value : ℚ) : ℚ := quantize halfUp 2 value

/-- The frozen arithmetic of `billing-rating-v1`. -/
def rateV1 (provenance : RatingProvenance) : RatedObligation :=
  let rawNet := mul (mul (mul provenance.unitPrice provenance.quantity) provenance.rateUnits)
    provenance.proration
  let taxRate := div provenance.taxRatePercent 100
  let inclusive := provenance.taxInclusive = true ∧ 0 < taxRate
  let net := if inclusive then money (div (money rawNet) (add 1 taxRate)) else money rawNet
  let tax := if inclusive then sub (money rawNet) net else money (mul net taxRate)
  let gross := if inclusive then money rawNet else add net tax
  { contractVersionId := provenance.contractVersionId
    contractLineKey := provenance.contractLineKey
    period := provenance.period
    currency := provenance.currency
    netAmount := net
    taxAmount := tax
    grossAmount := gross
    provenance }

/-- The numeric inputs of a snapshot are in range. -/
def validNumbers (provenance : RatingProvenance) : Prop :=
  0 ≤ provenance.unitPrice ∧ 0 < provenance.quantity ∧ 0 < provenance.rateQuantity ∧
    0 ≤ provenance.rateUnits ∧ (0 ≤ provenance.proration ∧ provenance.proration ≤ 1) ∧
    0 ≤ provenance.taxRatePercent

instance (provenance : RatingProvenance) : Decidable (validNumbers provenance) :=
  inferInstanceAs (Decidable (_ ∧ _ ∧ _ ∧ _ ∧ _ ∧ _))

/-- A named treatment has its rate, and a snapshot without one is tax-free. -/
def checkTaxSource (provenance : RatingProvenance) : Except DomainError Unit :=
  match provenance.taxTreatmentCode with
  | none => ensure (provenance.taxRateId = none ∧ provenance.taxRatePercent = 0)
      (error "invalid_rating_provenance" "Tax-free provenance cannot carry a tax source or rate.")
  | some _ => ensure (provenance.taxRateId.isSome) (error "invalid_rating_provenance"
      "A named tax treatment must retain its exact tax-rate identity.")

/-- Reproduce a rated result without reading mutable current configuration. -/
def rateFromProvenance (env : RatingEnv) (provenance : RatingProvenance) :
    Except DomainError RatedObligation := do
  ensure (provenance.policyVersion ∈ supportedPolicyVersions) (error "unsupported_policy_version"
    "Rating provenance names an unsupported policy version."
    [("policy_version", .text provenance.policyVersion)])
  ensure (ratingInputFingerprint env provenance = provenance.inputFingerprint)
    (error "rating_provenance_fingerprint_mismatch"
      "Stored rating provenance does not match its immutable fingerprint.")
  ensure (provenance.period.startsAt ≤ provenance.covered.startsAt ∧
      provenance.covered.endsAt ≤ provenance.period.endsAt)
    (error "invalid_rating_provenance" "Rating coverage must fall inside the obligation period.")
  ensure (validNumbers provenance) (error "invalid_rating_provenance"
    "Rating provenance contains an invalid numeric input.")
  checkTaxSource provenance
  ensure (provenance.policyVersion = "billing-rating-v1") (error "unsupported_policy_version"
    "Rating provenance names an unsupported policy version."
    [("policy_version", .text provenance.policyVersion)])
  return rateV1 provenance

def taxTreatmentCode (version : BillingContractVersion) (line : BillingContractLine) :
    Option String :=
  match line.taxTreatmentCode with
  | some code => if code = "" then version.taxTreatmentCode else some code
  | none => version.taxTreatmentCode

/-- The treatment code, the tax rate it names and its percentage. -/
def effectiveTaxRate (db : BillingDb) (version : BillingContractVersion)
    (line : BillingContractLine) : Except DomainError (Option String × Option ℕ × ℚ) :=
  match taxTreatmentCode version line with
  | none => .ok (none, none, 0)
  | some code =>
    match db.taxRates.filter fun rate => rate.code = some code ∧ rate.isActive with
    | [] => .error (error "unknown_tax_treatment"
        "Contracted tax treatment code has no active tax rate."
        [("tax_treatment_code", .text code)])
    | [rate] => .ok (some code, some rate.id, rate.rate.value)
    | _ => .error (error "ambiguous_tax_treatment"
        "Contracted tax treatment code resolves to multiple active tax rates."
        [("tax_treatment_code", .text code)])

def unitsForPeriod (cadence : BillingCadence) (period : Interval) : Except DomainError ℚ :=
  match cadence.rateBasis with
  | .fixedPerServicePeriod | .perQuantity => .ok 1
  | .perRateUnit => do
      let units ← Contracts.ofCadence (rateUnitsIn cadence period)
      return div units cadence.rateQuantity
  | .usageMetered => .error (error "usage_rating_requires_observation"
      "Usage-metered rating requires an observed usage quantity."
      [("rate_basis", .text "usage_metered")])

def factorForCoverage (cadence : BillingCadence) (period : Interval) (covered : Option Interval) :
    Except DomainError ℚ :=
  match covered with
  | none => .ok 1
  | some covered => Contracts.ofCadence (prorationFactor cadence period covered)

/-- The rate units and the proration factor, before tax and rounding. -/
def netForPeriod (cadence : BillingCadence) (line : BillingContractLine) (period : Interval)
    (covered : Option Interval) : Except DomainError (ℚ × ℚ × ℚ) := do
  let base := mul line.unitPrice.value line.quantity.value
  let units ← unitsForPeriod cadence period
  let factor ← factorForCoverage cadence period covered
  return (mul (mul base units) factor, units, factor)

def linesWithKey (db : BillingDb) (versionId lineKey : ℕ) : List BillingContractLine :=
  db.lines.rows.filter fun l => l.contractVersionId = versionId ∧ l.contractLineKey = lineKey

def lineWithKey (db : BillingDb) (versionId lineKey : ℕ) (notFound : DomainError) :
    Except DomainError BillingContractLine :=
  match linesWithKey db versionId lineKey with
  | [] => .error notFound
  | [line] => .ok line
  | _ => .error ⟨"MultipleResultsFound", "Multiple rows were found when one or none was required",
      []⟩

def lineProvenance (version : BillingContractVersion) (line : BillingContractLine)
    (cadence : BillingCadence) (lineKey : ℕ) (period : Interval) (covered : Option Interval)
    (units factor : ℚ) (tax : Option String × Option ℕ × ℚ) : RatingProvenance where
  contractVersionId := version.id
  contractLineKey := lineKey
  policyVersion := ratingPolicyVersion
  period := period
  currency := line.currency
  covered := covered.getD period
  unitPrice := line.unitPrice.value
  quantity := line.quantity.value
  rateBasis := cadence.rateBasis
  rateUnit := cadence.rateUnit
  rateQuantity := cadence.rateQuantity
  timezoneName := cadence.timezoneName
  prorationPolicy := cadence.prorationPolicy
  rateUnits := units
  proration := factor
  taxTreatmentCode := tax.1
  taxRateId := tax.2.1
  taxRatePercent := tax.2.2
  taxInclusive := version.taxInclusive
  inputFingerprint := ""

/-- Rate a line from the current tables. -/
def rateLinePeriod (env : RatingEnv) (db : BillingDb) (versionId lineKey : ℕ) (period : Interval)
    (covered : Option Interval) : Except DomainError RatedObligation := do
  let version ← orRefuse (db.versions.get? versionId) (error "contract_version_not_found"
    "Rating requires an existing contract version." [("contract_version_id", .id versionId)])
  let line ← lineWithKey db version.id lineKey (error "contract_line_not_found"
    "Rating requires a line on the named contract version." [("contract_line_key", .id lineKey)])
  let cadence ← Contracts.ofCadence (Contracts.cadenceOf env.toBillingEnv version)
  let (_, units, factor) ← netForPeriod cadence line period covered
  let tax ← effectiveTaxRate db version line
  rateFromProvenance env (withFingerprint env
    (lineProvenance version line cadence lineKey period covered units factor tax))

variable {env : RatingEnv} {db : BillingDb} {provenance : RatingProvenance}
  {rated : RatedObligation}

/-- Replayable inputs: a known policy, a matching fingerprint and every range check. -/
structure Replayable (env : RatingEnv) (provenance : RatingProvenance) : Prop where
  policy : provenance.policyVersion = ratingPolicyVersion
  fingerprint : ratingInputFingerprint env provenance = provenance.inputFingerprint
  coverage : provenance.period.startsAt ≤ provenance.covered.startsAt ∧
    provenance.covered.endsAt ≤ provenance.period.endsAt
  numbers : validNumbers provenance
  taxSource : checkTaxSource provenance = .ok ()

/-- **Rating recorded inputs** succeeds on exactly the replayable ones, with the frozen
arithmetic. -/
theorem rateFromProvenance_eq_ok :
    rateFromProvenance env provenance = .ok rated ↔
      Replayable env provenance ∧ rateV1 provenance = rated := by
  simp only [rateFromProvenance, bind_eq_ok, ensure_eq_ok, exists_const, pure_eq_ok]
  constructor
  · rintro ⟨hpolicy, hfp, hcov, hnum, ⟨⟩, htax, -, rfl⟩
    exact ⟨⟨List.mem_singleton.mp hpolicy, hfp, hcov, hnum, htax⟩, rfl⟩
  · rintro ⟨h, rfl⟩
    exact ⟨List.mem_singleton.mpr h.policy, h.fingerprint, h.coverage, h.numbers, (), h.taxSource,
      h.policy, rfl⟩

lemma provenance_of_rated (h : rateFromProvenance env provenance = .ok rated) :
    rated.provenance = provenance := by
  obtain ⟨-, rfl⟩ := rateFromProvenance_eq_ok.mp h
  rfl

structure CentAmounts (rated : RatedObligation) : Prop where
  net : OnGrid 2 rated.netAmount
  tax : OnGrid 2 rated.taxAmount
  gross : OnGrid 2 rated.grossAmount

/-- **Rated amounts are whole cents**, the sum and the difference of cents among them. -/
theorem rateV1_cents (provenance : RatingProvenance) : CentAmounts (rateV1 provenance) := by
  have hmoney (x : ℚ) : OnGrid 2 (money x) := onGrid_quantize
  refine ⟨?_, ?_, ?_⟩ <;> simp only [rateV1] <;> split_ifs
  · exact hmoney _
  · exact hmoney _
  · exact ((hmoney _).sub (hmoney _)).ctx
  · exact hmoney _
  · exact hmoney _
  · exact ((hmoney _).add (hmoney _)).ctx

structure RatedLine (env : RatingEnv) (db : BillingDb) (versionId lineKey : ℕ) (period : Interval)
    (covered : Option Interval) (rated : RatedObligation) : Prop where
  step : ∃ version line cadence units factor tax,
    db.versions.get? versionId = some version ∧
    linesWithKey db version.id lineKey = [line] ∧
    Contracts.cadenceOf env.toBillingEnv version = .ok cadence ∧
    unitsForPeriod cadence period = .ok units ∧
    factorForCoverage cadence period covered = .ok factor ∧
    effectiveTaxRate db version line = .ok tax ∧
    rateFromProvenance env (withFingerprint env
      (lineProvenance version line cadence lineKey period covered units factor tax)) = .ok rated

lemma lineWithKey_eq_ok {versionId lineKey : ℕ} {e : DomainError} {line : BillingContractLine} :
    lineWithKey db versionId lineKey e = .ok line ↔
      linesWithKey db versionId lineKey = [line] := by
  rw [lineWithKey]
  split
  · rename_i h
    simp [h]
  · rename_i l h
    simp [h]
  · rename_i h₁ h₂
    exact ⟨nofun, fun h => absurd h (h₂ line)⟩

lemma rateLinePeriod_ok {versionId lineKey : ℕ} {period : Interval} {covered : Option Interval}
    (h : rateLinePeriod env db versionId lineKey period covered = .ok rated) :
    RatedLine env db versionId lineKey period covered rated := by
  obtain ⟨version, hversion, h⟩ := orRefuse_bind_eq_ok.mp h
  obtain ⟨line, hline, h⟩ := bind_eq_ok.mp h
  obtain ⟨cadence, hcadence, h⟩ := bind_eq_ok.mp h
  obtain ⟨⟨_, units, factor⟩, hnet, h⟩ := bind_eq_ok.mp h
  obtain ⟨tax, htax, h⟩ := bind_eq_ok.mp h
  obtain ⟨u, hu, hnet⟩ := bind_eq_ok.mp hnet
  obtain ⟨f, hf, hnet⟩ := bind_eq_ok.mp hnet
  obtain ⟨-, hnet⟩ := mk_eq_ok.mp hnet
  obtain ⟨rfl, rfl⟩ := Prod.mk.inj hnet
  exact ⟨version, line, cadence, u, f, tax, hversion, lineWithKey_eq_ok.mp hline,
    Contracts.ofCadence_eq_ok.mp hcadence, hu, hf, htax, h⟩

lemma effectiveTaxRate_onGrid {version : BillingContractVersion} {line : BillingContractLine}
    {tax : Option String × Option ℕ × ℚ} (h : effectiveTaxRate db version line = .ok tax) :
    OnGrid 4 tax.2.2 := by
  rw [effectiveTaxRate] at h
  split at h
  · obtain rfl := Except.ok.inj h
    exact onGrid_zero
  · split at h
    · cases h
    · rename_i rate _
      obtain rfl := Except.ok.inj h
      exact rate.rate.onGrid
    · cases h

end Rating

end DotmacSub
