import DotmacSub.Core.Checked
import DotmacSub.Core.Text
import DotmacSub.Models.RadiusAccounting
import Mathlib.Data.List.Sort

/-!
# The import of RADIUS accounting

`services/usage.py`: rows of `radacct` are imported behind a cursor, the sessions that are still
open are read again, and sessions whose accounting went silent are reaped.
-/

namespace DotmacSub.Accounting

open Store Checked

/-- A text column without surrounding white space; an absent one is empty. -/
def text (value : Option String) : String := Text.strip (value.getD "")

/-- A text column, unless it is empty. -/
def nonempty (value : Option String) : Option String := (some (text value)).filter (· ≠ "")

def withoutHostPrefix (raw : String) : String :=
  if "/32".toList.isSuffixOf raw.toList then .ofList (raw.toList.take (raw.toList.length - 3))
  else if "/128".toList.isSuffixOf raw.toList then
    .ofList (raw.toList.take (raw.toList.length - 4))
  else raw

def coerceRadacctIp (value : Option String) : Option String :=
  ((nonempty value).map withoutHostPrefix).filter (· ≠ "")

namespace RadacctRow

def status (row : RadacctRow) : AccountingStatus :=
  if row.acctstoptime.isSome then .stop
  else if row.acctupdatetime.isSome ∧ row.acctupdatetime ≠ row.acctstarttime then .interim
  else .start

/-- The most recent observation of a row: stop beats interim beats start. -/
def observedAt (row : RadacctRow) : Option ℤ :=
  row.acctstoptime.or (row.acctupdatetime.or row.acctstarttime)

end RadacctRow

namespace AccountingEnv

/-- The credential and the session identifier of a row. -/
def accountOf (env : AccountingEnv) (row : RadacctRow) : Option (ℕ × String) :=
  if text row.username = "" ∨ text row.acctsessionid = "" then none
  else (env.credentials.rows.find? (·.username = text row.username)).map
    fun credential => (credential.id, text row.acctsessionid)

def radiusClientOf (env : AccountingEnv) (row : RadacctRow) : Option RadiusClient :=
  if text row.nasipaddress = "" then none
  else env.radiusClients.find? fun client =>
    client.clientIp = text row.nasipaddress ∧ client.isActive

def usernameOf (env : AccountingEnv) (credentialId : ℕ) : Option String :=
  (env.credentials.get? credentialId).map (·.username)

end AccountingEnv

def reapedTerminateCause : String := "reaped"

namespace RadiusAccountingSession

def key (session : RadiusAccountingSession) : ℕ × String :=
  (session.accessCredentialId, session.sessionId)

/-- A row is written over a session; the last known addresses and ports stay. -/
def write (env : AccountingEnv) (row : RadacctRow) (target : RadiusAccountingSession) :
    RadiusAccountingSession :=
  let radiusClient := env.radiusClientOf row
  { target with
    subscriptionId := env.subscriptionOf target.accessCredentialId
    radiusClientId := radiusClient.map (·.id)
    nasDeviceId := radiusClient.bind (·.nasDeviceId)
    statusType := row.status
    sessionStart := row.acctstarttime
    sessionEnd := row.acctstoptime
    lastUpdateAt := row.observedAt.or target.lastUpdateAt
    inputOctets := row.acctinputoctets
    outputOctets := row.acctoutputoctets
    terminateCause := row.acctterminatecause
    framedIpAddress := (coerceRadacctIp row.framedipaddress).or target.framedIpAddress
    framedIpv6Prefix := (coerceRadacctIp row.framedipv6prefix).or target.framedIpv6Prefix
    delegatedIpv6Prefix :=
      (coerceRadacctIp row.delegatedipv6prefix).or target.delegatedIpv6Prefix
    nasPortId := (nonempty row.nasportid).or target.nasPortId
    calledStationId := (nonempty row.calledstationid).or target.calledStationId }

/-- A reaped session stays closed while its row shows neither a stop nor anything fresher. -/
def Refuses (target : RadiusAccountingSession) (row : RadacctRow) : Prop :=
  target.terminateCause = some reapedTerminateCause ∧ row.acctstoptime = none ∧
    ∀ observed ∈ row.observedAt, ∃ seen ∈ target.lastUpdateAt, observed ≤ seen

instance (target : RadiusAccountingSession) (row : RadacctRow) : Decidable (target.Refuses row) :=
  inferInstanceAs (Decidable (_ ∧ _ ∧ _))

def stamped (now : ℤ) (session : RadiusAccountingSession) : RadiusAccountingSession :=
  { session with refreshAttemptedAt := some now }

def blank (id : ℕ) (key : ℕ × String) (now : ℤ) : RadiusAccountingSession :=
  { id := id, accessCredentialId := key.1, sessionId := key.2, subscriptionId := none,
    radiusClientId := none, nasDeviceId := none, statusType := .start, sessionStart := none,
    sessionEnd := none, lastUpdateAt := none, refreshAttemptedAt := none, inputOctets := none,
    outputOctets := none, terminateCause := none, framedIpAddress := none,
    framedIpv6Prefix := none, delegatedIpv6Prefix := none, nasPortId := none,
    calledStationId := none, createdAt := now }

end RadiusAccountingSession

/-- One row into its session; says whether the session was created or updated. -/
def upsertAccountingRow (env : AccountingEnv) (now : ℤ)
    (sessions : Table RadiusAccountingSession) (row : RadacctRow) :
    Table RadiusAccountingSession × Bool :=
  match env.accountOf row with
  | none => (sessions, false)
  | some key =>
    match sessions.rows.find? (·.key = key) with
    | none => (sessions.insert (fun id => (RadiusAccountingSession.blank id key now).write env row)
        fun _ => rfl, true)
    | some existing =>
      if existing.Refuses row then (sessions, false)
      else (sessions.update existing.id (·.write env row) fun _ => rfl, true)

namespace AccountingDb

def readRow (env : AccountingEnv) (now : ℤ) (db : AccountingDb) (row : RadacctRow) :
    AccountingDb :=
  { db with
    sessions := (upsertAccountingRow env now db.sessions row).1
    reads := row :: db.reads }

def readRows (env : AccountingEnv) (now : ℤ) (db : AccountingDb) (rows : List RadacctRow) :
    AccountingDb :=
  rows.foldl (readRow env now) db

def byRadacctid (a b : RadacctRow) : Prop := a.radacctid ≤ b.radacctid

instance : DecidableRel byRadacctid := fun a b =>
  inferInstanceAs (Decidable (a.radacctid ≤ b.radacctid))

/-- How many new rows a pass reads. -/
def batchSize (limit : Option ℤ) : ℕ := (max ((limit.filter (· ≠ 0)).getD 500) 1).toNat

def newRows (db : AccountingDb) : List RadacctRow :=
  (db.radacct.filter (db.cursor < ·.radacctid)).insertionSort byRadacctid

/-- The first stage: new rows are read, and the cursor moves behind them. -/
def importNewRows (env : AccountingEnv) (now : ℤ) (limit : Option ℤ) (db : AccountingDb) :
    AccountingDb :=
  let rows := db.newRows.take (batchSize limit)
  { db.readRows env now rows with
    cursor := (rows.map (·.radacctid)).foldl max db.cursor }

/-- How many open sessions a pass reads again. -/
def radiusRefreshBatch : ℕ := 500

def day : ℤ := 24 * 3600 * 1000000

/-- A session that is open, or that was reaped as of the last day. -/
def Refreshable (now : ℤ) (session : RadiusAccountingSession) : Prop :=
  session.sessionEnd = none ∨ session.terminateCause = some reapedTerminateCause ∧
    ∃ ended ∈ session.sessionEnd, now - day ≤ ended

instance (now : ℤ) (session : RadiusAccountingSession) : Decidable (Refreshable now session) :=
  inferInstanceAs (Decidable (_ ∨ _ ∧ _))

def notAfter : Option ℤ → Option ℤ → Prop
  | none, _ => True
  | some _, none => False
  | some x, some y => x ≤ y

instance : DecidableRel notAfter
  | none, _ => inferInstanceAs (Decidable True)
  | some _, none => inferInstanceAs (Decidable False)
  | some x, some y => inferInstanceAs (Decidable (x ≤ y))

def attemptedBefore (a b : RadiusAccountingSession) : Prop :=
  if a.refreshAttemptedAt = b.refreshAttemptedAt then notAfter a.lastUpdateAt b.lastUpdateAt
  else notAfter a.refreshAttemptedAt b.refreshAttemptedAt

instance : DecidableRel attemptedBefore := fun a b =>
  inferInstanceAs (Decidable (if a.refreshAttemptedAt = b.refreshAttemptedAt then
    notAfter a.lastUpdateAt b.lastUpdateAt
    else notAfter a.refreshAttemptedAt b.refreshAttemptedAt))

/-- The sessions a refresh may attempt, in their order. -/
def refreshable (env : AccountingEnv) (now : ℤ) (db : AccountingDb) :
    List RadiusAccountingSession :=
  (db.sessions.rows.filter fun session =>
    Refreshable now session ∧ (env.usernameOf session.accessCredentialId).isSome).insertionSort
      attemptedBefore

def rowsOf (db : AccountingDb) (sessionIds usernames : List String) : List RadacctRow :=
  (db.radacct.filter fun row =>
    (∃ sessionId ∈ row.acctsessionid, sessionId ∈ sessionIds) ∧
      ∃ username ∈ row.username, username ∈ usernames).insertionSort byRadacctid

def stamp (now : ℤ) (attempted : List ℕ) (db : AccountingDb) : AccountingDb :=
  { db with
    sessions := db.sessions.map
      (fun session =>
        if session.id ∈ attempted then session.stamped now else session)
      fun session => by
        split_ifs
        · rfl
        · rfl }

def usernames (env : AccountingEnv) (sessions : List RadiusAccountingSession) : List String :=
  (sessions.filterMap fun session => env.usernameOf session.accessCredentialId).filter (· ≠ "")

/-- The second stage: `radacct` is read again for sessions that are still open. -/
def refreshOpenSessions (env : AccountingEnv) (now : ℤ) (db : AccountingDb) : AccountingDb :=
  let candidates := (refreshable env now db).take radiusRefreshBatch
  let rows := db.rowsOf (candidates.map (·.sessionId)) (usernames env candidates)
  (stamp now (candidates.map (·.id)) db).readRows env now rows

def importRadiusAccounting (env : AccountingEnv) (now : ℤ) (limit : Option ℤ)
    (db : AccountingDb) : AccountingDb :=
  refreshOpenSessions env now (importNewRows env now limit db)

end AccountingDb

namespace RadiusAccountingSession

def lastSeen (session : RadiusAccountingSession) : ℤ :=
  (session.lastUpdateAt.or session.sessionStart).getD session.createdAt

def reaped (session : RadiusAccountingSession) : RadiusAccountingSession :=
  { session with
    sessionEnd := some session.lastSeen
    statusType := .stop
    terminateCause := some reapedTerminateCause }

end RadiusAccountingSession

namespace AccountingDb

def seenBefore (a b : RadiusAccountingSession) : Prop := a.lastSeen ≤ b.lastSeen

instance : DecidableRel seenBefore := fun a b =>
  inferInstanceAs (Decidable (a.lastSeen ≤ b.lastSeen))

/-- The open sessions that were not seen for the time given, in seconds. -/
def stale (now staleAfterSeconds : ℤ) (db : AccountingDb) : List RadiusAccountingSession :=
  (db.sessions.rows.filter fun session => session.sessionEnd = none ∧
    session.lastSeen < now - staleAfterSeconds * 1000000).insertionSort seenBefore

/-- Close open sessions whose accounting went silent. -/
def reapStaleRadiusSessions (now : ℤ) (staleAfterSeconds : Option ℤ) (db : AccountingDb) :
    AccountingDb :=
  let found := (db.stale now (max (staleAfterSeconds.getD 3600) 300)).take 1000
  { db with
    sessions := db.sessions.map
      (fun session => if session.id ∈ found.map (·.id) then session.reaped else session)
      fun session => by
        split_ifs
        · rfl
        · rfl }

end AccountingDb

/-- No time of the row goes back. -/
def notBack (before after : Option ℤ) : Prop := ∀ t ∈ before, ∃ t' ∈ after, t ≤ t'

instance (before after : Option ℤ) : Decidable (notBack before after) :=
  inferInstanceAs (Decidable (∀ t ∈ before, _))

structure Later (before after : RadacctRow) : Prop where
  radacctid : after.radacctid = before.radacctid
  username : after.username = before.username
  acctsessionid : after.acctsessionid = before.acctsessionid
  start : notBack before.acctstarttime after.acctstarttime
  update : notBack before.acctupdatetime after.acctupdatetime
  stop : notBack before.acctstoptime after.acctstoptime

instance (before after : RadacctRow) : Decidable (Later before after) :=
  decidable_of_iff (after.radacctid = before.radacctid ∧ after.username = before.username ∧
    after.acctsessionid = before.acctsessionid ∧
    notBack before.acctstarttime after.acctstarttime ∧
    notBack before.acctupdatetime after.acctupdatetime ∧
    notBack before.acctstoptime after.acctstoptime)
    ⟨fun ⟨h₁, h₂, h₃, h₄, h₅, h₆⟩ => ⟨h₁, h₂, h₃, h₄, h₅, h₆⟩,
      fun h => ⟨h.1, h.2, h.3, h.4, h.5, h.6⟩⟩

/-- A command: of the RADIUS server, of the importer, or of the reaper.  A pass of the import is its
two stages, and `radacct` may change between them. -/
inductive AccountingCommand
  | radacctInsert (row : RadacctRow)
  | radacctUpdate (row : RadacctRow)
  | importNewRows (limit : Option ℤ)
  | refreshOpenSessions
  | reap (staleAfterSeconds : Option ℤ)

/-- What the RADIUS server does not do: a second row of a username and a session, or a row whose
times go back. -/
inductive RadacctRefusal
  | exists
  | notInPlace
deriving DecidableEq

/-- A new row of a username and a session that have none. -/
def AccountingDb.radacctInsert (db : AccountingDb) (row : RadacctRow) :
    Except RadacctRefusal AccountingDb := do
  ensure (∀ other ∈ db.radacct, other.radacctid ≠ row.radacctid ∧
    ¬(text other.username = text row.username ∧
      text other.acctsessionid = text row.acctsessionid)) .exists
  return { db with radacct := db.radacct ++ [row] }

def AccountingDb.radacctUpdate (db : AccountingDb) (row : RadacctRow) :
    Except RadacctRefusal AccountingDb := do
  ensure (∃ before ∈ db.radacct, Later before row) .notInPlace
  return { db with
    radacct := db.radacct.map fun other =>
      if other.radacctid = row.radacctid then row else other }

/-- One command, those of the RADIUS server included. -/
def step (env : AccountingEnv) (db : AccountingDb) :
    AccountingCommand × ℤ → Except RadacctRefusal AccountingDb
  | (.radacctInsert row, _) => db.radacctInsert row
  | (.radacctUpdate row, _) => db.radacctUpdate row
  | (.importNewRows limit, now) => .ok (db.importNewRows env now limit)
  | (.refreshOpenSessions, now) => .ok (db.refreshOpenSessions env now)
  | (.reap staleAfterSeconds, now) => .ok (db.reapStaleRadiusSessions now staleAfterSeconds)

end DotmacSub.Accounting
