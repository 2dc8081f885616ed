import DotmacSub.Core.Run
import DotmacSub.Core.Text
import DotmacSub.Models.ErpOutbox

/-!
# Delivery to the ERP

`services/dotmac_erp/outbox.py`: intents are enqueued under an idempotency key, and a delivery run
posts the oldest pending rows, one after the other, with a commit after each.
-/

namespace DotmacSub.ErpOutbox

open Store

/-- Whether this system writes a flow. -/
def flowOwnedBySub (ownership : List (FieldErpSyncFlow × SyncFlowOwner))
    (flow : FieldErpSyncFlow) : Bool :=
  match ownership.find? fun row => row.1.value = flow.value with
  | none => false
  | some row => row.2 = .sub

def flowEndpoint (flow : FieldErpSyncFlow) : Option String :=
  ([("expense_claim", "/api/v1/sync/sub/expense-claims"),
    ("material_request", "/api/v1/sync/sub/material-requests"),
    ("purchase_order", "/api/v1/sync/sub/purchase-orders"),
    ("purchase_invoice", "/api/v1/sync/sub/purchase-invoices")] : List (String × String)).lookup
      flow.value

/-- Whether the purchase order of a purchase invoice is there; the payload is built anew for it, and
that may fail. -/
inductive Readiness
  | waiting
  | ready (payload : String)
  | raised
deriving DecidableEq

/-- What comes of posting a row: an answer, after which the write-back onto the source may fail; an
error of the ERP that is transient or permanent; or any other error. -/
inductive PostResult
  | response (response : ErpResponse) (writebackRaises : Bool)
  | transientError (message : String)
  | erpError (message : String)
  | raised
deriving DecidableEq

structure Surroundings where
  ownership : List (FieldErpSyncFlow × SyncFlowOwner)
  eventReady : FieldErpSyncEvent → Readiness
  post : String → FieldErpSyncEvent → PostResult
  lower : String → String
  now : ℤ

def rejectedStatuses : List String := ["rejected", "declined", "cancelled", "canceled", "denied"]

def acceptedStatuses : List String := ["accepted", "approved", "created", "ok", "success", "paid"]

def erpIdKeys : List String :=
  ["id", "claim_id", "expense_claim_id", "request_id", "material_request_id", "purchase_order_id",
    "purchase_invoice_id"]

/-- The value of a key counts as true. -/
def truthyAt (response : ErpResponse) (key : String) : Bool :=
  (response.lookup key).any ErpValue.truthy

def extractStatus (lower : String → String) (response : ErpResponse) : Option String :=
  if (response.lookup "rejected").any ErpValue.isTrue then some "rejected"
  else if (response.lookup "accepted").any ErpValue.isTrue then some "accepted"
  else
    let raw := if truthyAt response "status" then response.lookup "status"
      else (response.lookup "claim_status").filter ErpValue.truthy
    raw.map fun value =>
      ((lower (Text.strip value.text)).replace "-" "_").replace " " "_"

def hasErpId (response : ErpResponse) : Bool := erpIdKeys.any (truthyAt response ·)

/-- Classify an answer as accepted, rejected or sent. -/
def applyResponse (outside : Surroundings) (row : FieldErpSyncEvent) (response : ErpResponse) :
    FieldErpSyncEvent :=
  let signal := extractStatus outside.lower response
  { row with
    erpResponse := some response
    sentAt := some outside.now
    lastError := none
    status :=
      if signal.any (· ∈ rejectedStatuses) then .rejected
      else if signal.any (· ∈ acceptedStatuses) ∨ hasErpId response then .accepted
      else .sent }

/-- The text of an error, as long as it is kept. -/
def shortened (message : String) : String := String.ofList (message.toList.take 2000)

/-- A transient error leaves the row pending until its attempts are used up. -/
def markTransient (row : FieldErpSyncEvent) (message : String) (maxAttempts : ℕ) :
    FieldErpSyncEvent :=
  { row with
    lastError := some (shortened message)
    status := if maxAttempts ≤ row.attempts then .dead else row.status }

def markDead (row : FieldErpSyncEvent) (message : String) : FieldErpSyncEvent :=
  { row with status := .dead, lastError := some (shortened message) }

inductive Turn
  | notOwned
  | unmapped (row : FieldErpSyncEvent)
  | waiting
  | attempted (row : FieldErpSyncEvent) (error : Option String)
  | raised
deriving DecidableEq

/-- Whether a row may be sent, and with which payload. -/
def readiness (outside : Surroundings) (row : FieldErpSyncEvent) : Readiness :=
  if row.flow = .purchaseInvoice then outside.eventReady row else .ready row.payload

def FieldErpSyncEvent.posted (row : FieldErpSyncEvent) (payload : String) : FieldErpSyncEvent :=
  { row with payload, attempts := row.attempts + 1 }

/-- Post a row.  Only the write-back of material requests may fail the delivery. -/
def postRow (outside : Surroundings) (maxAttempts : ℕ) (endpoint : String)
    (row : FieldErpSyncEvent) : Turn :=
  match outside.post endpoint row with
  | .transientError message => .attempted (markTransient row message maxAttempts) none
  | .erpError message =>
    .attempted (markDead row message) (some (toString row.id ++ ": " ++ message))
  | .response response writebackRaises =>
    if row.flow = .materialRequest ∧ writebackRaises then .raised
    else .attempted (applyResponse outside row response) none
  | .raised => .raised

/-- One turn of the loop over the rows of a run. -/
def turn (outside : Surroundings) (maxAttempts : ℕ) (row : FieldErpSyncEvent) : Turn :=
  if ¬ flowOwnedBySub outside.ownership row.flow then .notOwned
  else
    match flowEndpoint row.flow with
    | none =>
      .unmapped (markDead row ("No ERP endpoint mapped for flow '" ++ row.flow.value ++ "'"))
    | some endpoint =>
      match readiness outside row with
      | .waiting => .waiting
      | .raised => .raised
      | .ready payload => postRow outside maxAttempts endpoint (row.posted payload)

structure DeliveryResult where
  processed : ℕ
  accepted : ℕ
  rejected : ℕ
  sent : ℕ
  retried : ℕ
  dead : ℕ
  skippedNotOwned : ℕ
  errors : List String
deriving DecidableEq

def DeliveryResult.count (result : DeliveryResult) (row : FieldErpSyncEvent)
    (error : Option String) : DeliveryResult :=
  let counted := { result with
    processed := result.processed + 1, errors := result.errors ++ error.toList }
  match row.status with
  | .pending => { counted with retried := result.retried + 1 }
  | .sent => { counted with sent := result.sent + 1 }
  | .accepted => { counted with accepted := result.accepted + 1 }
  | .rejected => { counted with rejected := result.rejected + 1 }
  | .dead => { counted with dead := result.dead + 1 }

/-- The transaction of a run, with the rows that have been attempted so far. -/
structure Session where
  committed : Outbox
  working : Outbox
  attempted : List ℕ
  result : DeliveryResult

def put (outbox : Outbox) (row : FieldErpSyncEvent) : Outbox :=
  outbox.update row.id (fun old => { row with id := old.id }) fun _ => rfl

namespace Session

def commit (session : Session) : Session := { session with committed := session.working }

def write (session : Session) (row : FieldErpSyncEvent) (error : Option String) : Session :=
  { session with
    working := put session.working row
    result := session.result.count row error }

def attempt (session : Session) (id : ℕ) : Session :=
  { session with attempted := session.attempted ++ [id] }

def skip (session : Session) : Session :=
  { session with result :=
      { session.result with skippedNotOwned := session.result.skippedNotOwned + 1 } }

def after (session : Session) (row : FieldErpSyncEvent) : Turn → Session
  | .notOwned => session.skip
  | .unmapped dead => session.write dead none
  | .waiting => session.commit
  | .attempted sent error => ((session.attempt row.id).write sent error).commit
  | .raised => session.attempt row.id

end Session

/-- The loop over the rows, and whether an exception has left it. -/
def deliverRows (outside : Surroundings) (maxAttempts : ℕ) :
    Session → List FieldErpSyncEvent → Session × Bool
  | session, [] => (session, false)
  | session, row :: rows =>
    let t := turn outside maxAttempts row
    if t = .raised then (session.after row t, true)
    else deliverRows outside maxAttempts (session.after row t) rows

def pendingRows (outbox : Outbox) : List FieldErpSyncEvent :=
  (outbox.rows.filter (·.status = .pending)).mergeSort fun first second =>
    first.createdAt ≤ second.createdAt

/-- A delivery run: the outbox after it, the rows it has attempted, and its result.  An exception
rolls back what has not been committed. -/
def deliverPending (outside : Surroundings) (limit maxAttempts : ℕ) (outbox : Outbox) :
    Outbox × List ℕ × DeliveryResult :=
  let (session, raised) := deliverRows outside maxAttempts
    ⟨outbox, outbox, [], ⟨0, 0, 0, 0, 0, 0, 0, []⟩⟩ ((pendingRows outbox).take limit)
  (if raised then session.committed else session.working, session.attempted, session.result)

structure Intent where
  flow : FieldErpSyncFlow
  entityType : String
  entityId : ℕ
  idempotencyKey : String
  payload : String

def Intent.event (intent : Intent) (now : ℤ) (id : ℕ) : FieldErpSyncEvent where
  id := id
  flow := intent.flow
  entityType := intent.entityType
  entityId := intent.entityId
  idempotencyKey := intent.idempotencyKey
  payload := intent.payload
  status := .pending
  attempts := 0
  lastError := none
  erpResponse := none
  createdAt := now
  sentAt := none

lemma Intent.event_id (intent : Intent) (now : ℤ) (id : ℕ) :
    Row.id (intent.event now id) = id := rfl

/-- A new row, or the one with its key. -/
def enqueue (outbox : Outbox) (intent : Intent) (now : ℤ) : Outbox :=
  match outbox.rows.find? (·.idempotencyKey = intent.idempotencyKey) with
  | some _ => outbox
  | none => outbox.insert (intent.event now) (intent.event_id now)

inductive OutboxCommand
  | enqueue (intent : Intent) (now : ℤ)
  | deliver (outside : Surroundings) (limit maxAttempts : ℕ)

/-- One command of the producers, the worker or an operator. -/
def step (outbox : Outbox) : OutboxCommand → Except Empty Outbox
  | .enqueue intent now => .ok (enqueue outbox intent now)
  | .deliver outside limit maxAttempts =>
    .ok (deliverPending outside limit maxAttempts outbox).1

end DotmacSub.ErpOutbox
