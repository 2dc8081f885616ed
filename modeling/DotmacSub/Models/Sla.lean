import DotmacSub.Core.Decimal
import DotmacSub.Core.Table
import DotmacSub.Models.DomainErrors

/-!
# SLA policies

The policy rows of `models/catalog.py` and the typed contracts of `service_impact_contracts.py`.
A policy version governs exactly one scope, which fixes its source and the key of its series, so the
scope is one value (`PolicyScope`) and the constraints that tie source, scope and key together hold
of every row.  The range and target constraints of the table are fields of the row.
-/

namespace DotmacSub

open Store Decimal

namespace Sla

/-- Approved policy precedence, highest first. -/
inductive SlaPolicySource
  | subscriptionContract
  | accountContract
  | offerVersion
  | planFamily
  | internalMeasurement
deriving DecidableEq

def SlaPolicySource.value : SlaPolicySource → String
  | .subscriptionContract => "subscription_contract"
  | .accountContract => "account_contract"
  | .offerVersion => "offer_version"
  | .planFamily => "plan_family"
  | .internalMeasurement => "internal_measurement"

def SlaPolicySource.rank : SlaPolicySource → ℕ
  | .subscriptionContract => 0
  | .accountContract => 1
  | .offerVersion => 2
  | .planFamily => 3
  | .internalMeasurement => 4

/-- Commercial families eligible to own one SLA default. -/
inductive SlaPlanFamily
  | unlimited
  | dedicated
  | homeFlex
deriving DecidableEq

def SlaPlanFamily.value : SlaPlanFamily → String
  | .unlimited => "unlimited"
  | .dedicated => "dedicated"
  | .homeFlex => "home_flex"

/-- What a policy is about. -/
inductive PolicyScope
  | subscription (subscriptionId : ℕ)
  | account (subscriberId : ℕ)
  | offer (offerId : ℕ)
  | family (planFamily : SlaPlanFamily)
  | internal
deriving DecidableEq

def PolicyScope.source : PolicyScope → SlaPolicySource
  | .subscription _ => .subscriptionContract
  | .account _ => .accountContract
  | .offer _ => .offerVersion
  | .family _ => .planFamily
  | .internal => .internalMeasurement

def PolicyScope.key : PolicyScope → String
  | .subscription i => "subscription_contract:" ++ toString i
  | .account i => "account_contract:" ++ toString i
  | .offer i => "offer_version:" ++ toString i
  | .family f => "plan_family:" ++ f.value
  | .internal => "internal_measurement:global"

def slaCalendarTimezone : String := "Africa/Lagos"

/-- One immutable, effective-dated contractual SLA policy version. -/
structure SlaPolicyVersionRecord where
  id : ℕ
  scope : PolicyScope
  version : ℕ
  effectiveFrom : ℤ
  effectiveTo : Option ℤ
  availabilityTargetPercent : Option (Numeric 3)
  calendarTimezone : String
  maintenanceExcludable : Bool
  creditPercentPerBreach : Option (Numeric 3)
  creditCapPercent : Option (Numeric 3)
  contractReference : Option String
  establishedBy : Option String
  supersedesId : Option ℕ
  commandFingerprint : Option String
  commandIdempotencyKey : Option String
  version_pos : 1 ≤ version
  range : ∀ e ∈ effectiveTo, effectiveFrom < e
  target_bounds : ∀ t ∈ availabilityTargetPercent, 0 < t.value ∧ t.value ≤ 100
  contractual_target : scope = .internal ∨ availabilityTargetPercent.isSome
deriving DecidableEq

instance : Row SlaPolicyVersionRecord := ⟨SlaPolicyVersionRecord.id⟩

namespace SlaPolicyVersionRecord

def policyKey (row : SlaPolicyVersionRecord) : String := row.scope.key

def source (row : SlaPolicyVersionRecord) : SlaPolicySource := row.scope.source

def Covers (row : SlaPolicyVersionRecord) (t : ℤ) : Prop :=
  row.effectiveFrom ≤ t ∧ ∀ e ∈ row.effectiveTo, t < e

instance (row : SlaPolicyVersionRecord) (t : ℤ) : Decidable (row.Covers t) :=
  inferInstanceAs (Decidable (_ ∧ _))

end SlaPolicyVersionRecord

structure SlaProfile where
  id : ℕ
  uptimePercent : Option (Numeric 2)
  creditPercent : Option (Numeric 2)
  createdAt : ℤ
deriving DecidableEq

instance : Row SlaProfile := ⟨SlaProfile.id⟩

/-- The parts of an offer that policies depend on. -/
structure CatalogOffer where
  id : ℕ
  planFamily : Option String
  slaProfileId : Option ℕ
deriving DecidableEq

instance : Row CatalogOffer := ⟨CatalogOffer.id⟩

structure Subscription where
  id : ℕ
  subscriberId : ℕ
  offerId : ℕ
deriving DecidableEq

instance : Row Subscription := ⟨Subscription.id⟩

structure Subscriber where
  id : ℕ
deriving DecidableEq

instance : Row Subscriber := ⟨Subscriber.id⟩

/-- The tables that SLA policies are recorded in and resolved from. -/
structure SlaDb where
  policies : Table SlaPolicyVersionRecord
  profiles : Table SlaProfile
  offers : Table CatalogOffer
  subscriptions : Table Subscription
  subscribers : Table Subscriber

/-- One immutable effective-dated SLA policy version.  A float is the decimal it was read from. -/
structure SlaPolicyVersion where
  policyId : ℕ
  version : ℕ
  source : SlaPolicySource
  effectiveFrom : ℤ
  effectiveTo : Option ℤ
  availabilityTargetPercent : Option ℚ
  calendarTimezone : String := slaCalendarTimezone
  maintenanceExcludable : Bool := true
  creditPercentPerBreach : Option ℚ := none
  creditCapPercent : Option ℚ := none
deriving DecidableEq

/-- A value that a dataclass refuses to be built with. -/
def valueError (message : String) : DomainError := ⟨"ValueError", message, []⟩

end Sla

end DotmacSub
