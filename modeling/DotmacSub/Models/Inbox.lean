import DotmacSub.Core.Table

/-!
# Integration inbox

The receipts of verified inbound events, and the capability bindings they belong to.  A JSON value
is its canonical text; instants are microseconds.
-/

namespace DotmacSub.Inbox

open Store

inductive InboxState
  | verified
  | processing
  | processed
  | retryable
  | deadLetter
deriving DecidableEq

structure CapabilityBinding where
  id : ℕ
  installationId : ℕ
deriving DecidableEq

structure IntegrationInbox where
  id : ℕ
  installationId : ℕ
  capabilityBindingId : ℕ
  providerEventId : String
  eventType : String
  payloadDigest : String
  payload : String
  state : InboxState
  attemptCount : ℕ
  consequence : String
  errorCode : Option String
  errorDetail : Option String
  processedAt : Option ℤ
deriving DecidableEq

instance : Row IntegrationInbox := ⟨IntegrationInbox.id⟩

/-- The committed rows and the quarantined installations.  Which receipts a live worker has claimed,
and which consequences have been committed, is what has happened, which the rows do not say. -/
structure InboxDb where
  bindings : List CapabilityBinding
  inbox : Table IntegrationInbox
  quarantined : List ℕ
  claims : List ℕ
  consumed : List ℕ

end DotmacSub.Inbox
