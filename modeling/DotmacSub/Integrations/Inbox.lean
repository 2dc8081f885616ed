import DotmacSub.Core.Checked
import DotmacSub.Core.Run
import DotmacSub.Core.Text
import DotmacSub.Models.Inbox

/-!
# Inbox commands

`services/integrations/inbox.py`: a verified event is received and claimed in one transaction, its
consequence is completed or fails in another, and a failed receipt may be replayed.
-/

namespace DotmacSub.Inbox

open Store Checked

inductive InboxError
  | invalid (message : String)
  | providerEventIdentityCollision (message : String)
  | notClaimed
deriving DecidableEq

structure Delivery where
  capabilityBindingId : ℕ
  providerEventId : String
  eventType : String
  payload : String
deriving DecidableEq

def newReceipt (sha256 : String → String) (binding : CapabilityBinding) (delivery : Delivery)
    (id : ℕ) : IntegrationInbox where
  id := id
  installationId := binding.installationId
  capabilityBindingId := binding.id
  providerEventId := Text.strip delivery.providerEventId
  eventType :=
    if Text.strip delivery.eventType = "" then "unknown" else Text.strip delivery.eventType
  payloadDigest := sha256 delivery.payload
  payload := delivery.payload
  state := .verified
  attemptCount := 0
  consequence := "\x7b\x7d"
  errorCode := none
  errorDetail := none
  processedAt := none

lemma newReceipt_id (sha256 : String → String) (binding : CapabilityBinding) (delivery : Delivery)
    (id : ℕ) : Row.id (newReceipt sha256 binding delivery id) = id := rfl

def InboxDb.insertReceipt (db : InboxDb) (sha256 : String → String) (binding : CapabilityBinding)
    (delivery : Delivery) : InboxDb :=
  let inbox := db.inbox.insert (newReceipt sha256 binding delivery)
    (newReceipt_id sha256 binding delivery)
  { db with inbox }

def existingReceipt (db : InboxDb) (binding : CapabilityBinding) (providerEventId : String) :
    Option IntegrationInbox :=
  db.inbox.rows.find? fun receipt =>
    receipt.capabilityBindingId = binding.id ∧ receipt.providerEventId = providerEventId

/-- The receipt of a delivery, a new one if there is none.  When the same event comes with another
payload, the installation has been quarantined by the time the delivery is refused. -/
def receiveVerified (sha256 : String → String) (db : InboxDb) (delivery : Delivery) :
    InboxDb × Except InboxError ℕ :=
  match db.bindings.find? (·.id = delivery.capabilityBindingId) with
  | none => (db, .error (.invalid "capability binding not found"))
  | some binding =>
    if Text.strip delivery.providerEventId = "" then
      (db, .error (.invalid "provider event id is required"))
    else
      match existingReceipt db binding (Text.strip delivery.providerEventId) with
      | some existing =>
        if existing.payloadDigest ≠ sha256 delivery.payload then
          ({ db with quarantined := db.quarantined ++ [binding.installationId] },
            .error (.providerEventIdentityCollision "provider event identity collision"))
        else (db, .ok existing.id)
      | none =>
        (db.insertReceipt sha256 binding delivery, .ok db.inbox.next)

/-- Whether a worker may process the receipt, which is then its own. -/
def claimForProcessing (receipt : IntegrationInbox) : Except InboxError (IntegrationInbox × Bool) :=
  if receipt.state = .processing ∨ receipt.state = .processed then .ok (receipt, false)
  else if receipt.state = .retryable ∧ receipt.errorCode = some "crm_customer_name_rejected" then
    .ok (receipt, false)
  else if receipt.state = .deadLetter then
    .error (.invalid "dead-letter receipt requires authorized replay")
  else
    .ok ({ receipt with
      state := .processing, attemptCount := receipt.attemptCount + 1
      errorCode := none, errorDetail := none }, true)

/-- A change of one receipt, which keeps its number. -/
def InboxDb.put (db : InboxDb) (receipt : IntegrationInbox) : InboxDb :=
  let inbox := db.inbox.update receipt.id (fun row => { receipt with id := row.id }) fun _ => rfl
  { db with inbox }

/-- The receipt, or the refusal of a command that names none. -/
def getReceipt (db : InboxDb) (receiptId : ℕ) : Except InboxError IntegrationInbox :=
  orRefuse (db.inbox.get? receiptId) (.invalid "integration inbox receipt not found")

def claimReceipt (db : InboxDb) (receiptId : ℕ) : Except InboxError (InboxDb × Bool) := do
  let receipt ← getReceipt db receiptId
  let (receipt, shouldProcess) ← claimForProcessing receipt
  return (db.put receipt, shouldProcess)

/-- Receive a delivery and claim its receipt.  Only the quarantine outlives a refusal. -/
def receiveAndClaimVerified (sha256 : String → String) (db : InboxDb) (delivery : Delivery) :
    InboxDb × Except InboxError (ℕ × Bool) :=
  match receiveVerified sha256 db delivery with
  | (received, .error (.providerEventIdentityCollision message)) =>
    (received, .error (.providerEventIdentityCollision message))
  | (_, .error e) => (db, .error e)
  | (received, .ok receiptId) =>
    match claimReceipt received receiptId with
    | .error e => (db, .error e)
    | .ok (claimed, shouldProcess) => (claimed, .ok (receiptId, shouldProcess))

/-- The consequence of a claimed receipt is committed. -/
def markProcessed (receipt : IntegrationInbox) (consequence : String) (now : ℤ) :
    IntegrationInbox :=
  { receipt with
    state := .processed, consequence, processedAt := some now
    errorCode := none, errorDetail := none }

structure Failure where
  errorCode : String
  errorDetail : Option String
  consequence : Option String
  maxAttempts : ℤ
deriving DecidableEq

/-- A claimed receipt may be tried again, or is dead. -/
def markFailed (receipt : IntegrationInbox) (failure : Failure) : IntegrationInbox :=
  let detail := String.ofList ((failure.errorDetail.getD "").toList.take 2000)
  { receipt with
    errorCode := some (String.ofList (failure.errorCode.toList.take 120))
    errorDetail := if detail = "" then none else some detail
    state := if max 1 failure.maxAttempts ≤ receipt.attemptCount then .deadLetter else .retryable }

def completeConsequence (db : InboxDb) (receiptId : ℕ) (consequence : String) (now : ℤ) :
    Except InboxError InboxDb := do
  let receipt ← getReceipt db receiptId
  return { db.put (markProcessed receipt consequence now) with
    consumed := db.consumed ++ [receiptId] }

/-- Record a failure, after what the consequence had written is rolled back.  A failure that another
owner has rolled back is recorded in the same way, without a consequence. -/
def failConsequence (db : InboxDb) (receiptId : ℕ) (failure : Failure) :
    Except InboxError InboxDb := do
  let receipt ← getReceipt db receiptId
  let failed := markFailed receipt failure
  return db.put { failed with consequence := failure.consequence.getD failed.consequence }

/-- Put a receipt back for processing. -/
def replayReceipt (db : InboxDb) (receiptId : ℕ) : Except InboxError InboxDb := do
  let receipt ← getReceipt db receiptId
  ensure (receipt.state = .retryable ∨ receipt.state = .deadLetter)
    (.invalid "integration inbox receipt is not replayable")
  return db.put { receipt with state := .verified, errorCode := none, errorDetail := none }

/-- The commands of workers that may crash between claim and outcome. -/
inductive InboxCommand
  | receive (delivery : Delivery)
  | complete (receiptId : ℕ) (consequence : String) (now : ℤ)
  | fail (receiptId : ℕ) (failure : Failure)
  | crash (receiptId : ℕ)
  | replay (receiptId : ℕ)
deriving DecidableEq

/-- The claim of a worker, which only one that has it can give up. -/
def release (db : InboxDb) (receiptId : ℕ) : Except InboxError InboxDb := do
  ensure (receiptId ∈ db.claims) .notClaimed
  return { db with claims := db.claims.erase receiptId }

/-- One command.  A worker that is told to process the receipt has its claim until it completes the
consequence, fails or crashes. -/
def step (sha256 : String → String) (db : InboxDb) : InboxCommand → Except InboxError InboxDb
  | .receive delivery =>
    match receiveAndClaimVerified sha256 db delivery with
    | (received, .ok (receiptId, shouldProcess)) =>
      .ok (if shouldProcess then { received with claims := received.claims ++ [receiptId] }
        else received)
    -- the quarantine is committed before the delivery is refused
    | (received, .error (.providerEventIdentityCollision _)) => .ok received
    | (_, .error e) => .error e
  | .complete receiptId consequence now => do
    completeConsequence (← release db receiptId) receiptId consequence now
  | .fail receiptId failure => do failConsequence (← release db receiptId) receiptId failure
  | .crash receiptId => release db receiptId
  | .replay receiptId => replayReceipt db receiptId

end DotmacSub.Inbox
