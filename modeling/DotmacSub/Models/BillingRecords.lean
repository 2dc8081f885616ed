import DotmacSub.Billing.Cadence
import DotmacSub.Core.Table

/-!
# Billing contract records

The rows of `models/billing_contract.py` that the contract, rating and obligation services read and
write.  Identifiers are natural numbers handed out by the tables, instants are microseconds in
UTC, and a decimal column is a `Numeric` of the scale of the column, so a row cannot hold more
places than the database keeps.
-/

namespace DotmacSub

open Store Decimal

/-- The billable component a contract line and obligation represent. -/
inductive ChargeComponent
  | recurringService
  | installation
  | activation
  | addon
  | equipment
  | usage
  | other
deriving DecidableEq

inductive AccountingTreatment
  | receivable
  | prepaidConsumption
  | nonCashGrant
deriving DecidableEq

inductive ObligationState
  | scheduled
  | open
  | partiallyResolved
  | resolved
  | canceled
  | writtenOff
deriving DecidableEq

/-- Why an obligation reached a terminal state. -/
inductive ObligationResolutionKind
  | settlement
  | credit
  | prepaidConsumption
  | grant
  | waiver
  | writeOff
  | preEarningCancellation
  | reversal
deriving DecidableEq

/-- Customer-specific billing agreement for one subscription. -/
structure BillingContract where
  id : ℕ
  accountId : ℕ
  subscriptionId : ℕ
  authority : BillingRecordAuthority
deriving DecidableEq

/-- One immutable set of contracted terms over a half-open interval.  The cadence columns are the
`terms`. -/
structure BillingContractVersion where
  id : ℕ
  contractId : ℕ
  version : ℕ
  status : BillingContractVersionStatus
  authority : BillingRecordAuthority
  accountId : ℕ
  subscriptionId : ℕ
  sourceKind : BillingContractSourceKind
  sourceId : ℕ
  sourceVersion : ℕ
  startsAt : ℤ
  endsAt : Option ℤ
  contractedPrice : Numeric 4
  currency : String
  terms : Cadence.CadenceTerms
  rateQuantity_onGrid : OnGrid 4 terms.rateQuantity
  taxTreatmentCode : Option String
  taxInclusive : Bool
  supersedesId : Option ℕ
  supersededAt : Option ℤ
  reason : String
  idempotencyKey : String
deriving DecidableEq

/-- One charge component carried by a contract version. -/
structure BillingContractLine where
  id : ℕ
  contractVersionId : ℕ
  contractLineKey : ℕ
  chargeComponent : ChargeComponent
  componentKey : String
  description : String
  quantity : Numeric 4
  unitPrice : Numeric 4
  currency : String
  accountingTreatment : AccountingTreatment
  isFinite : Bool
  taxTreatmentCode : Option String
deriving DecidableEq

/-- The sale that a contract version may be anchored to. -/
structure SalesOrderLine where
  id : ℕ
  salesOrderId : ℕ
deriving DecidableEq

/-- A tax rate of the financial tax owner; `7.5` means 7.5%. -/
structure TaxRate where
  id : ℕ
  code : Option String
  rate : Numeric 4
  isActive : Bool
deriving DecidableEq

/-- The stored rating inputs of an obligation whose provenance is complete. -/
structure RatingColumns where
  policyVersion : String
  coverageStart : ℤ
  coverageEnd : ℤ
  unitPrice : Numeric 4
  quantity : Numeric 4
  rateBasis : RateBasis
  rateUnit : IntervalUnit
  rateQuantity : Numeric 4
  timezoneName : String
  prorationPolicy : ProrationPolicy
  rateUnits : Numeric 28
  prorationFactor : Numeric 28
  taxTreatmentCode : Option String
  taxRateId : Option ℕ
  taxRatePercent : Numeric 4
  taxInclusive : Bool
  inputFingerprint : String
deriving DecidableEq

/-- The finite billable unit for one line, component, period and currency.  A row from before the
provenance columns has no `rating`. -/
structure BillingObligation where
  id : ℕ
  contractId : ℕ
  contractVersionId : ℕ
  contractLineKey : ℕ
  accountId : ℕ
  subscriptionId : ℕ
  authority : BillingRecordAuthority
  chargeComponent : ChargeComponent
  sourceKind : BillingContractSourceKind
  sourceId : ℕ
  sourceVersion : ℕ
  periodStart : ℤ
  periodEnd : ℤ
  currency : String
  netAmount : Numeric 4
  taxAmount : Numeric 4
  grossAmount : Numeric 4
  rating : Option RatingColumns
  resolvedAmount : Numeric 4
  accountingTreatment : AccountingTreatment
  collectionTiming : CollectionTiming
  isFinite : Bool
  state : ObligationState
  resolutionKind : Option ObligationResolutionKind
  openedAt : Option ℤ
  resolvedAt : Option ℤ
  dueAt : Option ℤ
deriving DecidableEq

instance : Row BillingContract := ⟨BillingContract.id⟩
instance : Row BillingContractVersion := ⟨BillingContractVersion.id⟩
instance : Row BillingContractLine := ⟨BillingContractLine.id⟩
instance : Row BillingObligation := ⟨BillingObligation.id⟩

end DotmacSub
