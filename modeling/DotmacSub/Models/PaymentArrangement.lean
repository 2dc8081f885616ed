import DotmacSub.Core.Datetime
import DotmacSub.Core.Table
import DotmacSub.Models.DomainErrors

/-!
# Payment arrangements

The tables of `models/payment_arrangement.py`.  An arrangement carries the list of its installments:
installment `k` is the `k`-th of the list, and is identified by its arrangement and that number.
Amounts are the values of `Numeric(12, 2)` columns, which Decimal adds and subtracts exactly.
-/

namespace DotmacSub.Arrangements

open Store Gregorian

inductive PaymentFrequency
  | weekly
  | biweekly
  | monthly
deriving DecidableEq

inductive ArrangementStatus
  | pending
  | active
  | completed
  | defaulted
  | canceled
deriving DecidableEq

def ArrangementStatus.value : ArrangementStatus → String
  | .pending => "pending"
  | .active => "active"
  | .completed => "completed"
  | .defaulted => "defaulted"
  | .canceled => "canceled"

inductive InstallmentStatus
  | pending
  | due
  | paid
  | overdue
  | waived
deriving DecidableEq

/-- One part of an arrangement, with its due date. -/
structure Installment where
  amount : ℚ
  dueDate : Date
  status : InstallmentStatus
  paidAt : Option ℤ
  paymentId : Option ℕ
  notes : Option String
  isActive : Bool
deriving DecidableEq

/-- An agreed plan to pay a balance in installments. -/
structure PaymentArrangement where
  id : ℕ
  subscriberId : ℕ
  invoiceId : Option ℕ
  totalAmount : ℚ
  installmentAmount : ℚ
  frequency : PaymentFrequency
  installmentsTotal : ℕ
  installmentsPaid : ℕ
  startDate : Date
  endDate : Date
  nextDueDate : Option Date
  status : ArrangementStatus
  notes : Option String
  isActive : Bool
  installments : List Installment
deriving DecidableEq

instance : Row PaymentArrangement := ⟨PaymentArrangement.id⟩

/-- The payload of an `arrangement.defaulted` event. -/
structure ArrangementDefaulted where
  arrangementId : ℕ
  totalAmount : ℚ
  installmentsPaid : ℕ
  installmentsTotal : ℕ
deriving DecidableEq

/-- The arrangements, in the order of their creation, and the events emitted about them. -/
structure ArrangementDb where
  arrangements : Table PaymentArrangement
  events : List ArrangementDefaulted

def ArrangementDb.initial : ArrangementDb := ⟨.empty, []⟩

end DotmacSub.Arrangements
