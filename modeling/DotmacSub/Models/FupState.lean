import DotmacSub.Core.Checked
import DotmacSub.Core.Table
import DotmacSub.Models.DomainErrors

/-!
# The runtime state of fair usage enforcement

The rows of `models/fup_state.py`, with the subscription columns their owner reads.  A percentage is
the rational value of its float column and an instant is counted in microseconds.
-/

namespace DotmacSub.Fup

open Store

inductive FupActionStatus
  | none
  | throttled
  | blocked
  | notified
deriving DecidableEq

structure RuntimeSubscription where
  id : ℕ
  offerId : ℕ
deriving DecidableEq

/-- The columns of a runtime row that a transition chooses. -/
structure Posture where
  activeRuleId : Option ℕ
  actionStatus : FupActionStatus
  speedReductionPercent : Option ℚ
  originalProfileId : Option ℕ
  throttleProfileId : Option ℕ
  capResetsAt : Option ℤ
  lastEvaluatedAt : Option ℤ
  notes : Option String
deriving DecidableEq

def Posture.initial : Posture :=
  ⟨none, .none, none, none, none, none, none, none⟩

/-- The row of a subscription: its posture, and the offer it was created for. -/
structure FupState extends Posture where
  id : ℕ
  subscriptionId : ℕ
  offerId : ℕ
deriving DecidableEq

/-- Nothing is left to clear. -/
def FupState.Neutral (state : FupState) : Prop :=
  state.activeRuleId = none ∧ state.actionStatus = .none ∧ state.speedReductionPercent = none ∧
    state.originalProfileId = none ∧ state.throttleProfileId = none ∧ state.capResetsAt = none

instance (state : FupState) : Decidable state.Neutral := inferInstanceAs (Decidable (_ ∧ _))

instance : Row RuntimeSubscription := ⟨RuntimeSubscription.id⟩

instance : Row FupState := ⟨FupState.id⟩

/-- The payload of a `fup.runtime_state_changed` event. -/
structure RuntimeStateChanged where
  schemaVersion : ℕ
  subscriptionId : ℕ
  offerId : ℕ
  transition : String
  actionStatus : FupActionStatus
deriving DecidableEq

/-- The rows the runtime state owner reads and writes, and the events it has emitted. -/
structure RuntimeDb where
  subscriptions : Table RuntimeSubscription
  states : Table FupState
  events : List RuntimeStateChanged

namespace RuntimeDb

def initial (subscriptions : Table RuntimeSubscription) : RuntimeDb :=
  ⟨subscriptions, .empty, []⟩

def lockedState (db : RuntimeDb) (subscriptionId : ℕ) : Option FupState :=
  db.states.rows.find? (·.subscriptionId = subscriptionId)

end RuntimeDb

end DotmacSub.Fup
