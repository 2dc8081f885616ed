import DotmacSub.Core.Run
import DotmacSub.Core.Table
import DotmacSub.Topology.ForwardingPayload
import DotmacSub.Topology.ValidDeclarations

/-!
# Reviewed forwarding decisions

The commands of `network/forwarding_topology.py`: a decision to declare or retire a path is proposed
against a snapshot of the topology, reviewed by somebody else against the same one, and executed if
the snapshot still holds.

Time stamps and the digests of results, which nothing here reads, are left out.
-/

namespace DotmacSub.Topology

open Store Checked

structure NetworkDevice where
  id : ℕ
  isActive : Bool
  legacyRole : String
  popSiteId : Option ℕ
deriving DecidableEq

structure DeviceInterface where
  id : ℕ
  deviceId : ℕ
  name : String
  status : String
deriving DecidableEq

structure PopSite where
  id : ℕ
  isActive : Bool
deriving DecidableEq

structure NasDevice where
  id : ℕ
  isActive : Bool
  networkDeviceId : Option ℕ
  popSiteId : Option ℕ
deriving DecidableEq

/-- The rows a payload refers to. -/
structure Inventory where
  devices : List NetworkDevice
  interfaces : List DeviceInterface
  sites : List PopSite
  nasDevices : List NasDevice

structure SideContext where
  device : NetworkDevice
  interface : DeviceInterface
  site : PopSite
deriving DecidableEq

structure DeviceContext where
  downstream : SideContext
  upstream : Option SideContext
  nas : Option NasDevice
deriving DecidableEq

def loadSide (inventory : Inventory) (side : String) (e : Endpoint) (interfaceId : ℕ) :
    Except ForwardingTopologyError SideContext := do
  let device ← orRefuse (inventory.devices.find? fun d => d.id = e.deviceId ∧ d.isActive)
    (.text (side ++ " device is missing or inactive"))
  let interface ← orRefuse (inventory.interfaces.find? fun i =>
      i.id = interfaceId ∧ i.deviceId = device.id)
    (.text (side ++ " interface does not belong to the exact device"))
  let site ← orRefuse (inventory.sites.find? fun s =>
      s.id = e.popSiteId ∧ s.isActive ∧ device.popSiteId = some s.id)
    (.text (side ++ " site does not match the exact active device projection"))
  return { device, interface, site }

def loadNas (inventory : Inventory) (nasId : ℕ) (downstream : NetworkDevice) :
    Except ForwardingTopologyError NasDevice :=
  orRefuse ((inventory.nasDevices.find? fun nas => nas.networkDeviceId = some downstream.id).filter
      fun nas => nas.isActive && nas.id = nasId && nas.popSiteId = downstream.popSiteId)
    (.text "NAS does not match the exact active downstream device and site")

def loadDeviceContext (inventory : Inventory) (payload : ForwardingPayload) :
    Except ForwardingTopologyError DeviceContext := do
  let downstream ← loadSide inventory "downstream" payload.downstream payload.downstreamInterfaceId
  let upstream ← match payload.upstream, payload.upstreamInterfaceId with
    | some e, some interfaceId => some <$> loadSide inventory "upstream" e interfaceId
    | _, _ => .ok none
  let nas ← match payload.nasDeviceId with
    | some nasId => some <$> loadNas inventory nasId downstream.device
    | none => .ok none
  return { downstream, upstream, nas }

inductive DecisionAction
  | declare
  | retire
deriving DecidableEq

inductive DecisionStatus
  | proposed
  | approved
  | declined
  | applied
  | closed
deriving DecidableEq

structure ForwardingTopologyDeclaration where
  id : ℕ
  payload : ForwardingPayload
  createdByDecisionId : ℕ
  declaredAt : ℤ
  active : Bool
  retiredByDecisionId : Option ℕ
  retiredAt : Option ℤ
  declarationSha256 : String
deriving DecidableEq

structure DeclarationEvidence where
  createdByDecisionId : ℕ
  declarationId : ℕ
  payload : ForwardingPayload
  declaredAt : ℤ
deriving DecidableEq

structure DeclarationState extends DeclarationEvidence where
  active : Bool
  retiredAt : Option ℤ
  retiredByDecisionId : Option ℕ
deriving DecidableEq

/-- The active declarations and the rows of the candidate. -/
structure TopologySnapshot where
  activeDeclarations : List DeclarationState
  candidatePayload : ForwardingPayload
  candidateContext : DeviceContext
deriving DecidableEq

structure DecisionEvidence where
  action : DecisionAction
  payload : ForwardingPayload
  existingDeclarationId : Option ℕ
  expectedDeclarationSha256 : Option String
  expectedTopologySha256 : String
  pathKey : String
  proposedBy : String
  reason : String
deriving DecidableEq

/-- How evidence is digested, to SHA-256 values. -/
structure Digests where
  declaration : DeclarationEvidence → String
  snapshot : TopologySnapshot → String
  decision : DecisionEvidence → String

structure DecisionResult where
  outcome : String
  error : Option ForwardingTopologyError
deriving DecidableEq

structure ForwardingTopologyDecision where
  id : ℕ
  evidence : DecisionEvidence
  decisionSha256 : String
  status : DecisionStatus
  reviewedBy : Option String
  reviewNotes : Option String
  executedBy : Option String
  closedReason : Option String
  resultDeclarationId : Option ℕ
  result : Option DecisionResult
deriving DecidableEq

instance : Row ForwardingTopologyDeclaration := ⟨ForwardingTopologyDeclaration.id⟩

instance : Row ForwardingTopologyDecision := ⟨ForwardingTopologyDecision.id⟩

structure Approval where
  decisionId : ℕ
  reviewedBy : String
  snapshot : TopologySnapshot

/-- The rows, with a history of the approvals and of the applications. -/
structure TopologyDb where
  declarations : Table ForwardingTopologyDeclaration
  decisions : Table ForwardingTopologyDecision
  inventory : Inventory
  approvals : List Approval
  applications : List (ℕ × TopologySnapshot)

def TopologyDb.initial (inventory : Inventory) : TopologyDb := ⟨.empty, .empty, inventory, [], []⟩

def ForwardingTopologyDeclaration.evidence (row : ForwardingTopologyDeclaration) :
    DeclarationEvidence :=
  ⟨row.createdByDecisionId, row.id, row.payload, row.declaredAt⟩

def ForwardingTopologyDeclaration.state (row : ForwardingTopologyDeclaration) : DeclarationState :=
  { row.evidence with
    active := row.active
    retiredAt := row.retiredAt
    retiredByDecisionId := row.retiredByDecisionId }

def activeDeclarations (db : TopologyDb) : List ForwardingTopologyDeclaration :=
  (db.declarations.rows.filter (·.active)).insertionSort fun a b =>
    a.payload.pathKey < b.payload.pathKey ∨ (a.payload.pathKey = b.payload.pathKey ∧ a.id ≤ b.id)

def candidatePayloads (db : TopologyDb) (payload : ForwardingPayload) (action : DecisionAction)
    (existing : Option ForwardingTopologyDeclaration) : List Declaration :=
  let kept := (activeDeclarations db).filter fun row => ∀ e ∈ existing, row.id ≠ e.id
  kept.map (fun row => row.payload.toDeclaration) ++
    match action with
    | .declare => [payload.toDeclaration]
    | .retire => []

/-- The snapshot of a candidate that leaves the graph in order. -/
def topologySnapshot (db : TopologyDb) (payload : ForwardingPayload) (action : DecisionAction)
    (existing : Option ForwardingTopologyDeclaration) :
    Except ForwardingTopologyError TopologySnapshot := do
  let context ← loadDeviceContext db.inventory payload
  let errors := graphErrors (candidatePayloads db payload action existing)
  ensure (errors = ∅) (.invariantFailed errors)
  return ⟨(activeDeclarations db).map (·.state), payload, context⟩

def activePath (db : TopologyDb) (pathKey : String) : Option ForwardingTopologyDeclaration :=
  db.declarations.rows.find? fun row => row.payload.pathKey = pathKey ∧ row.active

variable (readers : Readers) (digests : Digests)

structure ProposalArgs where
  action : PayloadValue
  declaration : Option RawPayload
  pathKey : PayloadValue
  reason : PayloadValue
  proposedBy : PayloadValue
  requireNew : Bool := false

def DecisionAction.parse : String → Option DecisionAction
  | "declare" => some declare
  | "retire" => some retire
  | _ => none

def proposalTarget (db : TopologyDb) (args : ProposalArgs) :
    DecisionAction → Except ForwardingTopologyError
      (ForwardingPayload × String × Option ForwardingTopologyDeclaration)
  | .declare => do
    let declaration ← orRefuse args.declaration (.text "declare requires declaration payload")
    let payload ← normalizePayload readers declaration
    ensure (args.pathKey = .null ∨ Text.strip args.pathKey.str = payload.pathKey)
      (.text "path_key does not match the declaration payload")
    ensure (activePath db payload.pathKey = none)
      (.text "path_key already has an active declaration; retire it first")
    return (payload, payload.pathKey, none)
  | .retire => do
    ensure (args.declaration = none) (.text "retire does not accept declaration payload")
    let pathKey ← requiredText args.pathKey "path_key" 120
    let existing ← orRefuse (activePath db pathKey) (.text "active forwarding declaration not found")
    return (existing.payload, pathKey, some existing)

/-- What a proposal would record, and the decision that is the same. -/
def previewDecision (db : TopologyDb) (args : ProposalArgs) :
    Except ForwardingTopologyError (DecisionEvidence × Option ForwardingTopologyDecision) := do
  let action ← choice DecisionAction.parse args.action "action"
  let proposedBy ← requiredText args.proposedBy "proposed_by" 160
  let reason ← requiredText args.reason "reason" 4000
  let (payload, pathKey, existing) ← proposalTarget readers db args action
  let snapshot ← topologySnapshot db payload action existing
  let evidence : DecisionEvidence :=
    { action, payload, pathKey, proposedBy, reason
      existingDeclarationId := existing.map ForwardingTopologyDeclaration.id
      expectedDeclarationSha256 := existing.map ForwardingTopologyDeclaration.declarationSha256
      expectedTopologySha256 := digests.snapshot snapshot }
  let existingDecision := db.decisions.rows.find? fun row =>
    row.decisionSha256 = digests.decision evidence
  ensure (args.requireNew = true → existingDecision = none)
    (.text "the exact forwarding decision already exists")
  ensure (∀ row ∈ db.decisions.rows, row.evidence.pathKey = pathKey →
      (row.status = .proposed ∨ row.status = .approved) → ∃ e ∈ existingDecision, row.id = e.id)
    (.text "an active forwarding decision already covers this path_key")
  return (evidence, existingDecision)

def sha256 (value : PayloadValue) (field : String) : Except ForwardingTopologyError String := do
  let normalized := value.trimmed.toLower
  ensure (normalized.length = 64 ∧
      normalized.toList.all ("0123456789abcdef".toList.contains ·) = true)
    (.text (field ++ " must be a SHA-256 value"))
  return normalized

/-- Record the decision of an unchanged preview, once. -/
def proposeDecision (db : TopologyDb) (expectedDecisionSha256 : PayloadValue)
    (args : ProposalArgs) : Except ForwardingTopologyError TopologyDb := do
  let expected ← sha256 expectedDecisionSha256 "expected_decision_sha256"
  let (evidence, existing) ← previewDecision readers digests db args
  ensure (digests.decision evidence = expected) (.text "forwarding decision preview changed")
  match existing with
  | some _ => return db
  | none =>
    return { db with decisions := db.decisions.insert (fun id =>
      { id, evidence, decisionSha256 := digests.decision evidence, status := .proposed
        reviewedBy := none, reviewNotes := none, executedBy := none, closedReason := none
        resultDeclarationId := none, result := none }) fun _ => rfl }

def decisionTarget (db : TopologyDb) (row : ForwardingTopologyDecision)
    (payload : ForwardingPayload) :
    Except ForwardingTopologyError (Option ForwardingTopologyDeclaration) :=
  match row.evidence.action with
  | .declare => do
    ensure (activePath db row.evidence.pathKey = none)
      (.text "path_key now has an active declaration")
    return none
  | .retire => do
    let id ← orRefuse row.evidence.existingDeclarationId
      (.text "retire decision has no declaration")
    let existing ← orRefuse (db.declarations.get? id)
      (.text "forwarding declaration evidence changed")
    ensure (existing.active ∧ existing.payload.pathKey = row.evidence.pathKey ∧
      some existing.declarationSha256 = row.evidence.expectedDeclarationSha256 ∧
      existing.payload = payload) (.text "forwarding declaration evidence changed")
    return some existing

def decisionPreview (db : TopologyDb) (row : ForwardingTopologyDecision) :
    Except ForwardingTopologyError (ForwardingPayload × TopologySnapshot) := do
  let payload ← normalizePayload readers (row.evidence.payload.toRaw readers)
  let existing ← decisionTarget db row payload
  let snapshot ← topologySnapshot db payload row.evidence.action existing
  ensure (digests.snapshot snapshot = row.evidence.expectedTopologySha256)
    (.text "forwarding topology evidence changed")
  let evidence : DecisionEvidence :=
    { row.evidence with
      payload
      existingDeclarationId := existing.map ForwardingTopologyDeclaration.id
      expectedTopologySha256 := digests.snapshot snapshot }
  ensure (digests.decision evidence = row.decisionSha256)
    (.text "forwarding decision evidence is invalid")
  return (payload, snapshot)

/-- The decision of an identifier, which the caller has seen. -/
def confirmedDecision (db : TopologyDb) (decisionId : PayloadValue) (expected : String) :
    Except ForwardingTopologyError ForwardingTopologyDecision := do
  let id ← requiredUuid readers decisionId "decision_id"
  let row ← orRefuse (db.decisions.get? id) (.text "forwarding topology decision not found")
  ensure (row.decisionSha256 = expected) (.text "forwarding decision confirmation is stale")
  return row

def ReviewTarget.parse : String → Option DecisionStatus
  | "approve" => some .approved
  | "decline" => some .declined
  | _ => none

/-- The approval that a review gives; a decision that is declined is not looked at again. -/
def reviewApproval (db : TopologyDb) (row : ForwardingTopologyDecision) (target : DecisionStatus)
    (actor : String) : Except ForwardingTopologyError (List Approval) :=
  if target = .approved then do
    let preview ← decisionPreview readers digests db row
    return [⟨row.id, actor, preview.2⟩]
  else .ok []

/-- Approve or decline a proposal; an approval is made against an unchanged snapshot. -/
def reviewDecision (db : TopologyDb)
    (decisionId action reviewedBy reviewNotes expectedDecisionSha256 : PayloadValue) :
    Except ForwardingTopologyError TopologyDb := do
  let expected ← sha256 expectedDecisionSha256 "expected_decision_sha256"
  let actor ← requiredText reviewedBy "reviewed_by" 160
  let notes ← requiredText reviewNotes "review_notes" 4000
  let target ← choice ReviewTarget.parse action "review action"
  let row ← confirmedDecision readers db decisionId expected
  if row.status = target ∧ row.reviewedBy = some actor ∧ row.reviewNotes = some notes then
    return db
  else
    ensure (row.status = .proposed) (.text "forwarding decision is not awaiting review")
    ensure (row.evidence.proposedBy ≠ actor)
      (.text "the proposer cannot review this forwarding decision")
    let approval ← reviewApproval readers digests db row target actor
    return { db with
      decisions := db.decisions.update row.id (fun r =>
        { r with
          status := target
          reviewedBy := some actor
          reviewNotes := some notes
          closedReason := if target = .declined then some "forwarding_topology_decision_declined"
            else r.closedReason }) fun _ => rfl
      approvals := db.approvals ++ approval }

def setResult (db : TopologyDb) (row : ForwardingTopologyDecision) (actor : String)
    (status : DecisionStatus) (result : DecisionResult) (declarationId : Option ℕ := none)
    (closedReason : Option String := none) : TopologyDb :=
  { db with decisions := db.decisions.update row.id (fun r =>
      { r with
        status
        executedBy := some actor
        closedReason
        resultDeclarationId := declarationId
        result := some result }) fun _ => rfl }

/-- The unique constraints that a new declaration would break. -/
def uniquenessConflict (db : TopologyDb) (row : ForwardingTopologyDeclaration) : Bool :=
  db.declarations.rows.any fun r =>
    r.createdByDecisionId = row.createdByDecisionId || r.declarationSha256 = row.declarationSha256 ||
      (r.active && (r.payload.pathKey = row.payload.pathKey ||
        r.payload.toDeclaration.preferenceKey = row.payload.toDeclaration.preferenceKey))

def newDeclaration (row : ForwardingTopologyDecision) (payload : ForwardingPayload) (now : ℤ)
    (id : ℕ) : ForwardingTopologyDeclaration :=
  let evidence : DeclarationEvidence :=
    ⟨row.id, id, { payload with pathKey := row.evidence.pathKey }, now⟩
  { id
    payload := evidence.payload
    createdByDecisionId := row.id
    declaredAt := now
    active := true
    retiredByDecisionId := none
    retiredAt := none
    declarationSha256 := digests.declaration evidence }

/-- An approved decision is applied to the declarations. -/
def applyDecision (db : TopologyDb) (row : ForwardingTopologyDecision) (actor : String) (now : ℤ)
    (payload : ForwardingPayload) (snapshot : TopologySnapshot) :
    Except ForwardingTopologyError TopologyDb :=
  let logged : TopologyDb := { db with applications := db.applications ++ [(row.id, snapshot)] }
  match row.evidence.action with
  | .declare =>
    let declaration := newDeclaration digests row payload now
    if uniquenessConflict db (declaration db.declarations.next) then
      return setResult db row actor .closed
        ⟨"closed_conflict",
          some (.text "canonical forwarding declaration uniqueness conflict")⟩ none
        (some "canonical_forwarding_declaration_conflict")
    else
      let declared := { logged with
        declarations := db.declarations.insert declaration fun _ => rfl }
      return setResult declared row actor .applied ⟨"applied", none⟩ (some db.declarations.next)
  | .retire => do
    let id ← orRefuse row.evidence.existingDeclarationId (.text "AssertionError")
    ensure (db.declarations.get? id).isSome (.text "forwarding declaration disappeared")
    let retired := { logged with
      declarations := db.declarations.update id (fun r =>
        { r with active := false, retiredByDecisionId := some row.id, retiredAt := some now })
        fun _ => rfl }
    return setResult retired row actor .applied ⟨"applied", none⟩ (some id)

/-- Execute an approved decision, or close it if its snapshot no longer holds. -/
def executeDecision (db : TopologyDb) (decisionId executedBy expectedDecisionSha256 : PayloadValue)
    (now : ℤ) : Except ForwardingTopologyError TopologyDb := do
  let expected ← sha256 expectedDecisionSha256 "expected_decision_sha256"
  let actor ← requiredText executedBy "executed_by" 160
  let row ← confirmedDecision readers db decisionId expected
  if row.status = .applied ∨ row.status = .closed then
    return db
  else
    ensure (row.status = .approved) (.text "forwarding decision is not approved")
    match decisionPreview readers digests db row with
    | .error e =>
      return setResult db row actor .closed ⟨"closed_stale", some e⟩ none
        (some "authoritative_forwarding_inputs_changed")
    | .ok (payload, snapshot) => applyDecision digests db row actor now payload snapshot

/-- A command, or a change of the inventory by its owners. -/
inductive TopologyCommand
  | propose (expectedDecisionSha256 : PayloadValue) (args : ProposalArgs)
  | review (decisionId action reviewedBy reviewNotes expectedDecisionSha256 : PayloadValue)
  | execute (decisionId executedBy expectedDecisionSha256 : PayloadValue) (now : ℤ)
  | changeInventory (inventory : Inventory)

def step (db : TopologyDb) : TopologyCommand → Except ForwardingTopologyError TopologyDb
  | .propose expected args => proposeDecision readers digests db expected args
  | .review decisionId action reviewedBy reviewNotes expected =>
    reviewDecision readers digests db decisionId action reviewedBy reviewNotes expected
  | .execute decisionId executedBy expected now =>
    executeDecision readers digests db decisionId executedBy expected now
  | .changeInventory inventory => .ok { db with inventory }

end DotmacSub.Topology
