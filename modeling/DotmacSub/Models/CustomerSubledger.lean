import DotmacSub.Core.Decimal
import DotmacSub.Core.Table
import DotmacSub.Models.BillingContract

/-!
# Customer subledger records

The rows of `models/customer_subledger.py`: a posting group is the immutable evidence of one
business result, with its typed position effects.  A group carries its effects.
-/

namespace DotmacSub

open Store Decimal

/-- Business results that produce a posting group. -/
inductive PostingCommandKind
  | receivableIssue
  | paymentSettlement
  | creditNoteApplication
  | customerCreditDeposit
  | customerCreditApplication
  | prepaidReservation
  | prepaidConsumption
  | writeOff
  | refund
  | adjustment
  | openingPosition
  | reversal
deriving DecidableEq

/-- Owners allowed to stage posting groups. -/
inductive PostingProducer
  | accountCreditDeposits
  | paymentProviderEvents
  | paymentProofs
  | accountCreditApplications
  | prepaidDraftReconciliation
  | prepaidServiceRenewals
  | customerSubledgerOpeningPositions
  | accountAdjustments
deriving DecidableEq

inductive PostingSourceKind
  | payment
  | paymentAllocation
  | paymentRefund
  | paymentReversal
  | invoice
  | ledgerEntry
  | creditNote
  | accountAdjustment
  | prepaidOpeningFundingConsumption
  | prepaidFundingBaseline
  | customerSubledgerOpeningPosition
deriving DecidableEq

inductive PositionEffectKind
  | receivableIssued
  | receivableSettled
  | customerCreditCreated
  | customerCreditConsumed
  | prepaidFundingReserved
  | prepaidReservationReleased
  | prepaidFundingConsumed
  | receivableWrittenOff
  | creditRefunded
  | adjustmentApplied
deriving DecidableEq

def PositionEffectKind.value : PositionEffectKind → String
  | receivableIssued => "receivable_issued"
  | receivableSettled => "receivable_settled"
  | customerCreditCreated => "customer_credit_created"
  | customerCreditConsumed => "customer_credit_consumed"
  | prepaidFundingReserved => "prepaid_funding_reserved"
  | prepaidReservationReleased => "prepaid_reservation_released"
  | prepaidFundingConsumed => "prepaid_funding_consumed"
  | receivableWrittenOff => "receivable_written_off"
  | creditRefunded => "credit_refunded"
  | adjustmentApplied => "adjustment_applied"

structure EffectLinks where
  obligationId : Option ℕ := none
  invoiceId : Option ℕ := none
  paymentId : Option ℕ := none
  creditNoteId : Option ℕ := none
  entitlementId : Option ℕ := none
deriving DecidableEq

def EffectLinks.toList (l : EffectLinks) : List (Option ℕ) :=
  [l.obligationId, l.invoiceId, l.paymentId, l.creditNoteId, l.entitlementId]

structure PositionEffect where
  effect : PositionEffectKind
  amount : Numeric 4
  links : EffectLinks
deriving DecidableEq

/-- Immutable posting evidence for one idempotent business result. -/
structure PostingGroup where
  id : ℕ
  accountId : ℕ
  currency : String
  authority : BillingRecordAuthority
  commandKind : PostingCommandKind
  producerOwner : PostingProducer
  sourceKind : PostingSourceKind
  sourceId : ℕ
  occurredAt : ℤ
  idempotencyKey : String
  reversesGroupId : Option ℕ
  effects : List PositionEffect
deriving DecidableEq

instance : Row PostingGroup := ⟨PostingGroup.id⟩

/-- One group for a producer's key, one reversal for a group, and positive amounts. -/
def Consistent (groups : List PostingGroup) : Prop :=
  (groups.map fun g => (g.producerOwner, g.idempotencyKey)).Nodup ∧
    (groups.filterMap PostingGroup.reversesGroupId).Nodup ∧
    ∀ g ∈ groups, ∀ e ∈ g.effects, 0 < e.amount.value

instance (groups : List PostingGroup) : Decidable (Consistent groups) :=
  inferInstanceAs (Decidable (_ ∧ _ ∧ ∀ g ∈ groups, _))

/-- The posting groups, and whether the authority cutover was activated. -/
structure Subledger where
  groups : Table PostingGroup
  cutover : Bool
  consistent : Consistent groups.rows

end DotmacSub
