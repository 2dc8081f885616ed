import DotmacSub.Network.Readback

/-!
# One reconcile pass

`reconcile_ont` of `network/reconcile/core.py`: read both surfaces, plan, apply, read again and
settle the status of the ONT.  The devices, their readers, the validator of a change and the PPP
authorization are parameters (`ReconcileEnv`).
-/

namespace DotmacSub.Network

inductive OntSyncStatus
  | synced
  | reconciling
  | outOfSync
deriving DecidableEq

structure OntRow where
  syncStatus : OntSyncStatus
  lastError : Option String
  lastReconcileStartedAt : Option String
  consecutiveSweepUnreachable : ℕ
deriving DecidableEq

/-- Values that are to replace some of the desired state. -/
structure ProposedChange where
  fields : Finset String
  amend : OntDesiredState → OntDesiredState
  persist : Bool

structure ReconcileRequest where
  mode : ReconcileMode
  proposedChange : Option ProposedChange := none
  wifiDeliveryScope : Option (Finset String) := none
  forceLanConfig : Bool := false
  readbackOnly : Bool := false
  /-- Whether the lifecycle binding, if there is one, is that of the row. -/
  bindingMatches : Option Bool := none

namespace ReconcileRequest

variable (request : ReconcileRequest)

/-- The stored fault concerns this request. -/
def blocksCurrentRequest : Bool := request.bindingMatches.getD true

def wifiOnlyDelivery : Bool := request.wifiDeliveryScope.isSome

def proposedFields : Finset String :=
  match request.proposedChange with
  | some change => change.fields
  | none => request.wifiDeliveryScope.getD ∅ ∪
      if request.forceLanConfig then
        {"dhcp_enabled", "dhcp_pool_min", "dhcp_pool_max", "dhcp_subnet_mask", "lan_gateway_ip"}
      else ∅

/-- A change that is stored once it is delivered. -/
def persistsChange : Bool := request.proposedChange.any ProposedChange.persist

end ReconcileRequest

structure ReadResult (α : Type) where
  unreachable : Bool
  observed : Option α
  error : Option String

structure Readings where
  olt : ReadResult OltObservedFields
  acs : ReadResult AcsObservedFields

def absentOlt : OltObservedFields where
  oltPresent := false
  oltDescription := none
  oltMgmtIp := none
  oltMgmtVlan := none
  oltLineProfileId := none
  oltServiceProfileId := none
  oltServicePorts := []

def absentAcs : AcsObservedFields where
  acsPresent := false

/-- A surface that was not read counts as absent. -/
def Readings.observed (readings : Readings) : OntObservedState where
  olt := readings.olt.observed.getD absentOlt
  acs := readings.acs.observed.getD absentAcs

structure Validation where
  ok : Bool
  reason : Option String

/-- What surrounds a pass over devices in a state. -/
structure ReconcileEnv (σ : Type) where
  startedAt : String
  oltName : String
  desiredFromOntUnit : OntDesiredState
  validateDesired : OntDesiredState → OntDesiredState → Validation
  /-- Why no adapter could be built. -/
  adapterError : Option String
  /-- The readers, or what stands in for a surface that this pass leaves out. -/
  readObserved : OntDesiredState → σ → Readings × σ
  devices : ApplyContext σ
  authorizePppDelivery : List Action → PppDeliveryRuling
  deriveDeliveryScope : List Action → Option PppDeliveryScope

/-- What a failure says beside its message. -/
inductive FailureEvidence
  | acsWait (reason : String)
  | readback (pending : Bool) (driftFields : List String)
deriving DecidableEq

structure PassFailure extends ReconcileFailure where
  evidence : Option FailureEvidence := none
deriving DecidableEq

structure ReconcileResult where
  success : Bool
  ont : OntRow
  actionsApplied : List AppliedAction
  driftBefore : List Drift
  driftAfter : List Drift
  failure : Option PassFailure
  changePersisted : Bool := false

/-- A pass that is over, with the plan it computed last and how its actions went. -/
structure Pass where
  result : ReconcileResult
  lastPlan : Option Plan := none
  applied : Option ApplyResult := none

/-- The status that a pass leaves behind. -/
def finalise (ont : OntRow) (success : Bool) (failure : Option PassFailure)
    (actionsApplied : List AppliedAction) (driftBefore driftAfter : List Drift)
    (changePersisted : Bool := false) : ReconcileResult :=
  let ont := { ont with
    syncStatus := if success ∧ driftAfter = [] then .synced else .outOfSync
    lastError := if success then none else some (failure.elim "unknown failure" (·.message)) }
  ⟨success, ont, actionsApplied, driftBefore, driftAfter, failure, changePersisted⟩

def Drift.label (d : Drift) : String :=
  (match d.surface with
    | .olt => "olt:"
    | .acs => "acs:") ++ d.field

/-- The first three fields and how many more there are. -/
def summariseDrifts (drifts : List Drift) : String :=
  let fields := drifts.map (·.field)
  if fields = [] then "no drift"
  else if fields.length ≤ 3 then ", ".intercalate fields
  else ", ".intercalate (fields.take 3) ++ ", +" ++ toString (fields.length - 3) ++ " more"

def acsWaitFailure (plan : Plan) : Option PassFailure :=
  plan.acsWaitReason.map fun reason =>
    { reason := reason
      message := if plan.acsWaitDetail = "" then "ACS configuration could not be delivered."
        else plan.acsWaitDetail
      evidence := some (.acsWait reason) }

def unreachableFailure (surface : WriteSurface) (message : String) (error : Option String) :
    PassFailure where
  reason := match surface with
    | .olt => ReconcileFailureReason.oltUnreachable.value
    | .acs => ReconcileFailureReason.acsUnreachable.value
  message := message ++ orText error "no detail"

def pendingReadback (plan : Plan) : PassFailure where
  reason := ReconcileFailureReason.verificationMismatch.value
  message := "Current revision is still awaiting device readback."
  evidence := some (.readback true (plan.drifts.map Drift.label))

def verificationMismatch (drifts : List Drift) (actionsApplied : List AppliedAction) :
    PassFailure where
  reason := ReconcileFailureReason.verificationMismatch.value
  message := "Post-apply state still diverges from desired: " ++ summariseDrifts drifts
  evidence := some (.readback ((classifyVerifyDrifts drifts actionsApplied).2 = [])
    (drifts.map Drift.label))

def isPppAttributableDrift (d : Drift) : Bool :=
  d.field ∈ ["wan_pppoe_username", "acs_wan_ppp_instance", "nat_enabled"]

def residualPppDrift (applied : ApplyResult) : List Drift :=
  applied.refusedPpp.map fun refused =>
    ⟨"ppp_delivery[" ++ refused.actionName ++ "]",
      if "Acs".toList.isPrefixOf refused.actionName.toList then .acs else .olt,
      .scalar (.text refused.refusal.value), .scalar .none, false⟩

/-- A pass that never finished is marked on the row. -/
def recoverCrash (ont : OntRow) : OntRow :=
  if ont.syncStatus = .reconciling then
    { ont with
      syncStatus := .outOfSync
      lastError := some ("Prior reconcile started at " ++
        ont.lastReconcileStartedAt.getD "unknown" ++
        " did not finalise (process crash assumed).") }
  else ont

/-- A recorded fault stops a pass that an operator asked for. -/
def blocksPass (request : ReconcileRequest) (ont : OntRow) : Bool :=
  request.mode = .sync ∧ ont.syncStatus = .outOfSync ∧ ont.lastError ≠ none ∧
    request.blocksCurrentRequest

/-- A pass that leaves the row alone. -/
def failureResult (ont : OntRow) (reason : ReconcileFailureReason) (message : String) :
    ReconcileResult :=
  ⟨false, ont, [], [], [], some { reason := reason.value, message }, false⟩

/-- The surface whose outage stops the plan; the OLT comes first. -/
def blockedBy (plan : Plan) (readings : Readings) : Option WriteSurface :=
  if WriteSurface.olt ∈ plan.requiredSurfaces ∧ readings.olt.unreachable then some .olt
  else if readings.acs.unreachable ∧
      (WriteSurface.acs ∈ plan.requiredSurfaces ∨ plan.acsWaitReason ≠ none) then some .acs
  else none

variable {σ : Type} (env : ReconcileEnv σ) (request : ReconcileRequest)

def target : OntDesiredState :=
  match request.proposedChange with
  | some change => change.amend env.desiredFromOntUnit
  | none => env.desiredFromOntUnit

/-- Why the change is rejected. -/
def rejection : Option String :=
  if request.proposedChange.isSome then
    let validation := env.validateDesired (target env request) env.desiredFromOntUnit
    if validation.ok then none else some (orText validation.reason "invalid proposed change")
  else none

def passPlan (observed : OntObservedState) (force : Bool) : Plan :=
  computePlan (target env request) observed request.mode (some request.proposedFields) force

def deliveryContext (plan : Plan) : ApplyContext σ :=
  if request.wifiOnlyDelivery then { env.devices with pppAuthorization := none, pppScope := none }
  else { env.devices with
    pppAuthorization := some (env.authorizePppDelivery plan.actions)
    pppScope := env.deriveDeliveryScope plan.actions }

def readbackPass (ont : OntRow) (plan : Plan) : ReconcileResult :=
  match acsWaitFailure plan with
  | some wait => finalise ont false (some wait) [] plan.drifts plan.drifts
  | none =>
    if plan.actions ≠ [] then
      finalise ont false (some (pendingReadback plan)) [] plan.drifts plan.drifts
    else finalise ont true none [] plan.drifts []

/-- Both surfaces are read again and planned against. -/
def verifyPass (ont : OntRow) (plan : Plan) (applied : ApplyResult) (readings : Readings) : Pass :=
  let residual := residualPppDrift applied
  let actions := applied.actionsApplied
  if readings.olt.unreachable then
    ⟨finalise ont false (some (unreachableFailure .olt
      "Post-apply verification could not reach OLT: " readings.olt.error)) actions plan.drifts
      plan.drifts, some plan, some applied⟩
  else if readings.acs.unreachable then
    ⟨finalise ont false (some (unreachableFailure .acs
      "Post-apply verification could not reach ACS: " readings.acs.error)) actions plan.drifts
      plan.drifts, some plan, some applied⟩
  else
    let verifyPlan := passPlan env request readings.observed false
    let unattributed := verifyPlan.drifts.filter fun d => !isPppAttributableDrift d
    if verifyPlan.drifts ≠ [] ∧ residual ≠ [] ∧ unattributed = [] then
      ⟨finalise ont true none actions plan.drifts residual, some verifyPlan, some applied⟩
    else if verifyPlan.drifts ≠ [] then
      ⟨finalise ont false (some (verificationMismatch verifyPlan.drifts actions)) actions
        plan.drifts verifyPlan.drifts, some verifyPlan, some applied⟩
    else
      -- the wait of the first plan: the second one is not asked
      match acsWaitFailure plan with
      | some wait =>
        ⟨finalise ont false (some wait) actions plan.drifts plan.drifts, some verifyPlan,
          some applied⟩
      | none =>
        ⟨finalise ont true none actions plan.drifts residual request.persistsChange,
          some verifyPlan, some applied⟩

/-- The plan is applied, and verified unless there was nothing to it. -/
def writePass (ont : OntRow) (plan : Plan) (world : σ) : Pass :=
  let run := applyPlan (deliveryContext env request plan) plan world
  let applied := run.1
  if applied.success = false then
    ⟨finalise ont false (applied.haltedBy.map fun failure => { toReconcileFailure := failure })
      applied.actionsApplied plan.drifts plan.drifts, some plan, some applied⟩
  else
    let ont := { ont with consecutiveSweepUnreachable := 0 }
    let residual := residualPppDrift applied
    if applied.actionsApplied = [] ∧ residual = [] then
      match acsWaitFailure plan with
      | some wait =>
        ⟨finalise ont false (some wait) [] plan.drifts plan.drifts, some plan, some applied⟩
      | none =>
        ⟨finalise ont true none applied.actionsApplied plan.drifts residual request.persistsChange,
          some plan, some applied⟩
    else
      verifyPass env request ont plan applied
        (env.readObserved (target env request) run.2.1.world).1

/-- The pass over a device that was read: the first plan, and the exit after it. -/
def devicePass (ont : OntRow) (readings : Readings) (world : σ) : Pass :=
  let plan := passPlan env request readings.observed (!request.readbackOnly)
  match blockedBy plan readings with
  | some .olt =>
    ⟨finalise ont false (some (unreachableFailure .olt ("OLT " ++ env.oltName ++ " unreachable: ")
      readings.olt.error)) [] plan.drifts plan.drifts, some plan, none⟩
  | some .acs =>
    ⟨finalise ont false (some (unreachableFailure .acs "ACS unreachable: " readings.acs.error)) []
      plan.drifts plan.drifts, some plan, none⟩
  | none =>
    if request.readbackOnly then ⟨readbackPass ont plan, some plan, none⟩
    else writePass env request ont plan world

/-- Bring the live state of one ONT into agreement with its desired state. -/
def reconcileOnt (row : OntRow) (world : σ) : Pass :=
  let ont := recoverCrash row
  if blocksPass request ont then
    { result := failureResult ont .blockedOutOfSync ("ONT is out_of_sync (last_error: " ++
        orText ont.lastError "unknown" ++
        "); use sweep/force reconcile to clear before retrying.") }
  else
    let ont := { ont with
      syncStatus := .reconciling
      lastReconcileStartedAt := some env.startedAt }
    match rejection env request with
    | some reason =>
      { result := finalise ont false
          (some { reason := ReconcileFailureReason.invalidChange.value, message := reason })
          [] [] [] }
    | none =>
      match env.adapterError with
      | some error => { result := failureResult ont .oltWriteRejected ("internal error: " ++ error) }
      | none =>
        let reading := env.readObserved (target env request) world
        devicePass env request ont reading.1 reading.2

end DotmacSub.Network
