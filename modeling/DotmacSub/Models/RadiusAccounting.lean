import DotmacSub.Core.Table

/-!
# RADIUS accounting

The rows that the import of RADIUS accounting reads and writes.  Instants are microseconds; a row of
`radacct` holds its times as the driver coerces them.
-/

namespace DotmacSub.Accounting

open Store

inductive AccountingStatus
  | start
  | interim
  | stop
deriving DecidableEq

/-- A row of `radacct`. -/
structure RadacctRow where
  radacctid : ℕ
  acctsessionid : Option String
  username : Option String
  nasipaddress : Option String
  acctstarttime : Option ℤ
  acctupdatetime : Option ℤ
  acctstoptime : Option ℤ
  acctinputoctets : Option ℤ
  acctoutputoctets : Option ℤ
  acctterminatecause : Option String
  framedipaddress : Option String
  framedipv6prefix : Option String
  delegatedipv6prefix : Option String
  nasportid : Option String
  calledstationid : Option String
deriving DecidableEq

structure AccessCredential where
  id : ℕ
  username : String
deriving DecidableEq

instance : Row AccessCredential := ⟨AccessCredential.id⟩

/-- A NAS that may send accounting. -/
structure RadiusClient where
  id : ℕ
  clientIp : String
  nasDeviceId : Option ℕ
  isActive : Bool
deriving DecidableEq

/-- The credentials, the subscription each of them is for, and the RADIUS clients. -/
structure AccountingEnv where
  credentials : Table AccessCredential
  subscriptionOf : ℕ → Option ℕ
  radiusClients : List RadiusClient

/-- The session of an account as it is kept here. -/
structure RadiusAccountingSession where
  id : ℕ
  accessCredentialId : ℕ
  sessionId : String
  subscriptionId : Option ℕ
  radiusClientId : Option ℕ
  nasDeviceId : Option ℕ
  statusType : AccountingStatus
  sessionStart : Option ℤ
  sessionEnd : Option ℤ
  lastUpdateAt : Option ℤ
  refreshAttemptedAt : Option ℤ
  inputOctets : Option ℤ
  outputOctets : Option ℤ
  terminateCause : Option String
  framedIpAddress : Option String
  framedIpv6Prefix : Option String
  delegatedIpv6Prefix : Option String
  nasPortId : Option String
  calledStationId : Option String
  createdAt : ℤ
deriving DecidableEq

instance : Row RadiusAccountingSession := ⟨RadiusAccountingSession.id⟩

/-- Both sides of the import: the rows of `radacct`, the local sessions and the cursor; `reads` is
history, every version of a row that a pass has read, newest first. -/
structure AccountingDb where
  radacct : List RadacctRow
  sessions : Table RadiusAccountingSession
  cursor : ℕ
  reads : List RadacctRow

def AccountingDb.initial : AccountingDb := ⟨[], .empty, 0, []⟩

end DotmacSub.Accounting
