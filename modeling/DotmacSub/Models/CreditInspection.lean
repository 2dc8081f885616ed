import DotmacSub.Models.Billing
import DotmacSub.Models.DomainErrors

/-!
# Records of the account-credit inspection

What the drift scans of `services/billing/account_credit.py` read besides the payment records: the
top-up intents of deposits, the receipts of payment webhooks with their JSON payloads, and two
columns that the payment services never look at.
-/

namespace DotmacSub

open Store

/-- A JSON value.  Of a number only its value matters. -/
inductive Json
  | null
  | bool (value : Bool)
  | number (value : ℚ)
  | text (value : String)
  | array (items : List Json)
  | object (fields : List (String × Json))

namespace Json

/-- Whether a value counts as true. -/
def truthy : Json → Bool
  | null => false
  | bool value => value
  | number value => value ≠ 0
  | text value => value ≠ ""
  | array items => !items.isEmpty
  | object fields => !fields.isEmpty

/-- `value or other`. -/
def orElse (value other : Json) : Json := if value.truthy then value else other

/-- `value.get(key)`: only objects have it, and a missing key answers `None`. -/
def get (value : Json) (key : String) : Except DomainError Json :=
  match value with
  | object fields => .ok ((fields.lookup key).getD null)
  | _ => .error ⟨"AttributeError", "object has no attribute 'get'", []⟩

end Json

/-- A customer's intent to pay in advance of an invoice. -/
structure TopupIntent where
  id : ℕ
  accountId : Option ℕ
  completedPaymentId : Option ℕ
  purpose : Option String
  status : String
deriving DecidableEq

instance : Row TopupIntent := ⟨TopupIntent.id⟩

/-- A received webhook, with the capability of the binding it came in by. -/
structure IntegrationInbox where
  id : ℕ
  capabilityId : String
  state : String
  payloadJson : Json

/-- The tables of the inspection.  An invoice carried over from the prior system has an identity
there, and a payment may have one at its provider. -/
structure InspectionTables extends BillingTables where
  splynxInvoiceId : ℕ → Option ℕ
  externalId : ℕ → Option String
  topupIntents : Table TopupIntent
  integrationInbox : List IntegrationInbox

end DotmacSub
