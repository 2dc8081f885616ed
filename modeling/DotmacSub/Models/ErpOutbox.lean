import DotmacSub.Core.Table

/-!
# ERP outbox

The rows of the field-service outbox to the ERP, the ownership of its flows, and what the ERP
answers.  Payloads are JSON texts; instants are microseconds.
-/

namespace DotmacSub.ErpOutbox

open Store

/-- The flows of the column, which also takes other texts. -/
inductive FieldErpSyncFlow
  | expenseClaim
  | materialRequest
  | purchaseOrder
  | purchaseInvoice
  | other (value : String)
deriving DecidableEq

def FieldErpSyncFlow.value : FieldErpSyncFlow → String
  | expenseClaim => "expense_claim"
  | materialRequest => "material_request"
  | purchaseOrder => "purchase_order"
  | purchaseInvoice => "purchase_invoice"
  | other value => value

inductive FieldErpSyncStatus
  | pending
  | sent
  | accepted
  | rejected
  | dead
deriving DecidableEq

inductive SyncFlowOwner
  | crm
  | sub
deriving DecidableEq

/-- What is read of a value of an answer: whether it counts as true, whether it is `true`, and its
text. -/
structure ErpValue where
  truthy : Bool
  isTrue : Bool
  text : String
deriving DecidableEq

/-- An answer of the ERP, a JSON object. -/
abbrev ErpResponse := List (String × ErpValue)

/-- One intent to push an entity to the ERP. -/
structure FieldErpSyncEvent where
  id : ℕ
  flow : FieldErpSyncFlow
  entityType : String
  entityId : ℕ
  idempotencyKey : String
  payload : String
  status : FieldErpSyncStatus
  attempts : ℕ
  lastError : Option String
  erpResponse : Option ErpResponse
  createdAt : ℤ
  sentAt : Option ℤ
deriving DecidableEq

instance : Row FieldErpSyncEvent := ⟨FieldErpSyncEvent.id⟩

abbrev Outbox := Table FieldErpSyncEvent

end DotmacSub.ErpOutbox
