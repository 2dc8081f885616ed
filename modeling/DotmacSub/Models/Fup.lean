import DotmacSub.Core.Checked
import DotmacSub.Core.Table
import DotmacSub.Core.Text
import DotmacSub.Models.DomainErrors
import Mathlib.Data.List.Sort
import Mathlib.Data.Finset.Basic

/-!
# Fair usage policies

The tables of `models/fup.py`, with the offer columns the rule owner reads.  A percentage or a
threshold is the rational value of its float column, a time of day is counted in microseconds.
-/

namespace DotmacSub.Fup

open Store

inductive FupConsumptionPeriod
  | monthly
  | daily
  | weekly
deriving DecidableEq

inductive FupDirection
  | up
  | down
  | upDown
deriving DecidableEq

inductive FupAction
  | reduceSpeed
  | block
  | notify
deriving DecidableEq

inductive FupDataUnit
  | mb
  | gb
  | tb
deriving DecidableEq

/-- The offer columns that the rule owner reads. -/
structure CatalogOffer where
  id : ℕ
  availableForServices : Bool
  planFamily : Option String
deriving DecidableEq

/-- Fair usage configuration of a catalog offer. -/
structure FupPolicy where
  id : ℕ
  offerId : ℕ
  trafficDaysOfWeek : Option (List ℤ)
  onlineDaysOfWeek : Option (List ℤ)
  isActive : Bool
deriving DecidableEq

/-- The columns of a rule that its commands choose. -/
structure RuleFields where
  name : String
  sortOrder : ℤ
  consumptionPeriod : FupConsumptionPeriod
  direction : FupDirection
  thresholdAmount : ℚ
  thresholdUnit : FupDataUnit
  action : FupAction
  speedReductionPercent : Option ℚ
  timeStart : Option ℕ
  timeEnd : Option ℕ
  enabledByRuleId : Option ℕ
  cooldownMinutes : ℤ
  daysOfWeek : Option (List ℤ)
  isActive : Bool
deriving DecidableEq

/-- A rule: it triggers its action at a consumption threshold. -/
structure FupRule extends RuleFields where
  id : ℕ
  policyId : ℕ
deriving DecidableEq

instance : Row CatalogOffer := ⟨CatalogOffer.id⟩

instance : Row FupPolicy := ⟨FupPolicy.id⟩

instance : Row FupRule := ⟨FupRule.id⟩

/-- The rows the rule owner reads and writes. -/
structure FupDb where
  offers : Table CatalogOffer
  policies : Table FupPolicy
  rules : Table FupRule

/-- The rule reduces speed and is switched on. -/
def FupRule.Enforcing (rule : FupRule) : Prop :=
  rule.action = .reduceSpeed ∧ rule.isActive = true

instance (rule : FupRule) : Decidable rule.Enforcing := inferInstanceAs (Decidable (_ ∧ _))

namespace FupDb

def policyByOffer (db : FupDb) (offerId : ℕ) : Option FupPolicy :=
  db.policies.rows.find? (·.offerId = offerId)

def rulesOf (db : FupDb) (policyId : ℕ) : List FupRule :=
  (db.rules.rows.filter (·.policyId = policyId)).insertionSort (·.sortOrder ≤ ·.sortOrder)

/-- An active policy of the offer has an active rule that reduces speed. -/
def Enforceable (db : FupDb) (offerId : ℕ) : Prop :=
  ∃ policy ∈ db.policies.rows, policy.offerId = offerId ∧ policy.isActive = true ∧
    ∃ rule ∈ db.rules.rows, rule.policyId = policy.id ∧ rule.Enforcing

instance (db : FupDb) (offerId : ℕ) : Decidable (db.Enforceable offerId) :=
  inferInstanceAs (Decidable (∃ _ ∈ _, _))

end FupDb

end DotmacSub.Fup
