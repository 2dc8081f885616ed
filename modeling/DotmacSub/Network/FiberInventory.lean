import DotmacSub.Core.BreadthFirst
import DotmacSub.Core.Checked
import DotmacSub.Core.Table

/-!
# Physical fiber inventory

`network/fiber_physical_continuity.py` writes racks, patch panels and connectors by reviewed changes,
and strand terminations and patch cords by decisions that are looked at once more when they are
executed.
-/

namespace DotmacSub.FiberInventory

open Checked Store

structure FiberRack where
  id : ℕ
  popSiteId : Option ℕ
  fdhCabinetId : Option ℕ
  fiberAccessPointId : Option ℕ
  spliceClosureId : Option ℕ
  rackUnits : ℤ
  isActive : Bool

structure FiberPatchPanel where
  id : ℕ
  rackId : ℕ
  panelType : String
  rackUnitStart : ℤ
  rackUnitHeight : ℤ
  portCapacity : ℤ
  connectorType : String
  polishType : String
  fiberMode : String
  isActive : Bool

structure FiberConnectorPort where
  id : ℕ
  patchPanelId : Option ℕ
  ponPortId : Option ℕ
  splitterPortId : Option ℕ
  ontUnitId : Option ℕ
  portNumber : Option ℤ
  connectorType : String
  polishType : String
  fiberMode : String
  isActive : Bool

inductive StrandEnd
  | a
  | b
deriving DecidableEq

structure FiberStrandTermination where
  id : ℕ
  strandId : ℕ
  strandEnd : StrandEnd
  connectorPortId : ℕ
  active : Bool

structure FiberPatchCord where
  id : ℕ
  firstConnectorPortId : ℕ
  secondConnectorPortId : ℕ
  active : Bool

instance : Row FiberRack := ⟨FiberRack.id⟩
instance : Row FiberPatchPanel := ⟨FiberPatchPanel.id⟩
instance : Row FiberConnectorPort := ⟨FiberConnectorPort.id⟩
instance : Row FiberStrandTermination := ⟨FiberStrandTermination.id⟩
instance : Row FiberPatchCord := ⟨FiberPatchCord.id⟩

structure Inventory where
  racks : Table FiberRack
  panels : Table FiberPatchPanel
  connectors : Table FiberConnectorPort
  terminations : Table FiberStrandTermination
  cords : Table FiberPatchCord

inductive EndpointType
  | fdh
  | fiberAccessPoint
  | splitter
  | splitterPort
  | ponPort
  | oltPort
  | ont
  | terminal
  | spliceClosure
  | other
deriving DecidableEq

inductive StrandStatus
  | available
  | inUse
  | reserved
  | damaged
  | retired
deriving DecidableEq

structure FiberStrand where
  segmentId : Option ℕ
  status : StrandStatus
  isActive : Bool

structure FiberSegment where
  fromPointId : Option ℕ
  toPointId : Option ℕ
  isActive : Bool

structure FiberTerminationPoint where
  endpointType : EndpointType
  refId : Option ℕ
  isActive : Bool

inductive HostType
  | pop
  | fdhCabinet
  | fiberAccessPoint
  | spliceClosure
deriving DecidableEq

def HostType.label : HostType → String
  | pop => "POP"
  | fdhCabinet => "FDH cabinet"
  | fiberAccessPoint => "fiber access point"
  | spliceClosure => "splice closure"

/-- Hosts, equipment, strands and cables; a splitter port is known with the cabinet of its splitter,
and an active OLT node with the OLT that it matches and its POP. -/
structure Plant where
  hostActive : HostType → ℕ → Bool
  equipmentActive : EndpointType → ℕ → Bool
  strand : ℕ → Option FiberStrand
  segment : ℕ → Option FiberSegment
  point : ℕ → Option FiberTerminationPoint
  splitterPortCabinet : ℕ → Option ℕ
  ponPortOlt : ℕ → Option ℕ
  oltNodes : List (ℕ × ℕ)

/-- A truth value in a payload; only `False` itself `is False`. -/
inductive Flag
  | bool (value : Bool)
  | number (one : Bool)
deriving DecidableEq

def Flag.truth : Flag → Bool
  | bool value => value
  | number one => one

/-- The keys of a payload that are there, with values of the types of their columns; a float, which
the validators pass and an integer column rounds, is left out. -/
structure RackPayload where
  popSiteId : Option (Option ℕ)
  fdhCabinetId : Option (Option ℕ)
  fiberAccessPointId : Option (Option ℕ)
  spliceClosureId : Option (Option ℕ)
  rackUnits : Option ℤ
  isActive : Option Flag

structure PanelPayload where
  rackId : Option ℕ
  panelType : Option String
  rackUnitStart : Option ℤ
  rackUnitHeight : Option ℤ
  portCapacity : Option ℤ
  connectorType : Option String
  polishType : Option String
  fiberMode : Option String
  isActive : Option Flag

structure ConnectorPayload where
  patchPanelId : Option (Option ℕ)
  ponPortId : Option (Option ℕ)
  splitterPortId : Option (Option ℕ)
  ontUnitId : Option (Option ℕ)
  portNumber : Option (Option ℤ)
  connectorType : Option String
  polishType : Option String
  fiberMode : Option String
  isActive : Option Flag

def flagged (isActive : Bool) (flag : Option Flag) : Bool := (flag.map Flag.truth).getD isActive

def RackPayload.set (payload : RackPayload) (rack : FiberRack) : FiberRack :=
  { rack with
    popSiteId := payload.popSiteId.getD rack.popSiteId
    fdhCabinetId := payload.fdhCabinetId.getD rack.fdhCabinetId
    fiberAccessPointId := payload.fiberAccessPointId.getD rack.fiberAccessPointId
    spliceClosureId := payload.spliceClosureId.getD rack.spliceClosureId
    rackUnits := payload.rackUnits.getD rack.rackUnits
    isActive := flagged rack.isActive payload.isActive }

def PanelPayload.set (payload : PanelPayload) (panel : FiberPatchPanel) : FiberPatchPanel :=
  { panel with
    rackId := payload.rackId.getD panel.rackId
    panelType := payload.panelType.getD panel.panelType
    rackUnitStart := payload.rackUnitStart.getD panel.rackUnitStart
    rackUnitHeight := payload.rackUnitHeight.getD panel.rackUnitHeight
    portCapacity := payload.portCapacity.getD panel.portCapacity
    connectorType := payload.connectorType.getD panel.connectorType
    polishType := payload.polishType.getD panel.polishType
    fiberMode := payload.fiberMode.getD panel.fiberMode
    isActive := flagged panel.isActive payload.isActive }

def ConnectorPayload.set (payload : ConnectorPayload) (connector : FiberConnectorPort) :
    FiberConnectorPort :=
  { connector with
    patchPanelId := payload.patchPanelId.getD connector.patchPanelId
    ponPortId := payload.ponPortId.getD connector.ponPortId
    splitterPortId := payload.splitterPortId.getD connector.splitterPortId
    ontUnitId := payload.ontUnitId.getD connector.ontUnitId
    portNumber := payload.portNumber.getD connector.portNumber
    connectorType := payload.connectorType.getD connector.connectorType
    polishType := payload.polishType.getD connector.polishType
    fiberMode := payload.fiberMode.getD connector.fiberMode
    isActive := flagged connector.isActive payload.isActive }

/-- A row without columns, which its insertion makes active. -/
def FiberRack.blank (id : ℕ) : FiberRack := ⟨id, none, none, none, none, 0, true⟩

def FiberPatchPanel.blank (rackId id : ℕ) : FiberPatchPanel :=
  ⟨id, rackId, "", 0, 0, 0, "", "", "", true⟩

def FiberConnectorPort.blank (id : ℕ) : FiberConnectorPort :=
  ⟨id, none, none, none, none, none, "", "", "", true⟩

def FiberRack.hosts (rack : FiberRack) : List (HostType × ℕ) :=
  [rack.popSiteId.map (.pop, ·), rack.fdhCabinetId.map (.fdhCabinet, ·),
    rack.fiberAccessPointId.map (.fiberAccessPoint, ·),
    rack.spliceClosureId.map (.spliceClosure, ·)].reduceOption

def FiberPatchPanel.endUnit (panel : FiberPatchPanel) : ℤ :=
  panel.rackUnitStart + panel.rackUnitHeight - 1

def validateHost (plant : Plant) (rack : FiberRack) : Except String Unit :=
  match rack.hosts with
  | [(host, hostId)] => ensure (plant.hostActive host hostId)
      ("active fiber rack requires an active " ++ host.label ++ " host")
  | _ => .error "fiber rack requires exactly one canonical host"

/-- The checks of a changed rack. -/
def validateRack (plant : Plant) (inventory : Inventory) (rack : FiberRack) (flag : Option Flag) :
    Except String Unit := do
  validateHost plant rack
  ensure (0 < rack.rackUnits) "rack_units must be positive"
  onlyIf (flag ≠ some (.bool false)) <|
    ensure (∀ panel ∈ inventory.panels.rows, panel.rackId = rack.id → panel.isActive →
      panel.endUnit ≤ rack.rackUnits) "rack_units cannot exclude an active mounted patch panel"

def panelTypes : List String := ["odf", "patch_panel", "splice_panel"]

def connectorTypes : List String := ["sc", "lc", "fc", "st"]

def polishTypes : List String := ["apc", "upc", "pc"]

def fiberModes : List String := ["single_mode", "multi_mode"]

/-- The checks of the kind of a panel or of a connector, as `what` and `which` name it. -/
def validateKind (what which connectorType polishType fiberMode : String) : Except String Unit := do
  if connectorType ∉ connectorTypes then
    .error (if connectorType ∈ ["mpo", "mtp"] then
      "MPO/MTP " ++ what ++ " inventory requires an explicit assembly and lane model"
    else "unsupported " ++ which ++ " type")
  ensure (polishType ∈ polishTypes) ("unsupported " ++ what ++ " polish type")
  ensure (fiberMode ∈ fiberModes) ("unsupported " ++ what ++ " fiber mode")

/-- Two ranges of units that meet. -/
def FiberPatchPanel.Overlaps (panel other : FiberPatchPanel) : Prop :=
  other.rackUnitStart ≤ panel.endUnit ∧ panel.rackUnitStart ≤ other.endUnit

instance (panel other : FiberPatchPanel) : Decidable (panel.Overlaps other) :=
  inferInstanceAs (Decidable (_ ∧ _))

/-- The checks of a changed panel. -/
def validatePanel (inventory : Inventory) (panel : FiberPatchPanel) (flag : Option Flag) :
    Except String Unit := do
  let rack ← orRefuse ((inventory.racks.get? panel.rackId).filter (·.isActive))
    "active patch panel requires an active canonical fiber rack"
  ensure (panel.panelType ∈ panelTypes) "unsupported patch panel type"
  validateKind "panel" "panel connector" panel.connectorType panel.polishType panel.fiberMode
  ensure (0 < panel.rackUnitStart ∧ 0 < panel.rackUnitHeight)
    "patch panel rack units must be positive"
  ensure (panel.endUnit ≤ rack.rackUnits) "patch panel exceeds rack unit capacity"
  ensure (0 < panel.portCapacity) "patch panel port_capacity must be positive"
  onlyIf (∃ value ∈ flag, value.truth) <|
    ensure (∀ other ∈ inventory.panels.rows, other.rackId = panel.rackId → other.isActive →
      other.id ≠ panel.id → ¬panel.Overlaps other)
      "patch panel rack-unit range overlaps another active panel"
  ensure (∀ connector ∈ inventory.connectors.rows, connector.patchPanelId = some panel.id →
    connector.isActive → ∀ number ∈ connector.portNumber, number ≤ panel.portCapacity)
    "patch panel capacity cannot exclude an active connector port"

/-- `_connector_external_identity`. -/
def FiberConnectorPort.externalIdentity (connector : FiberConnectorPort) :
    Option (EndpointType × ℕ) :=
  (connector.ponPortId.map (.ponPort, ·)).or <|
    (connector.splitterPortId.map (.splitterPort, ·)).or (connector.ontUnitId.map (.ont, ·))

def FiberConnectorPort.SameKind (connector : FiberConnectorPort) (panel : FiberPatchPanel) : Prop :=
  connector.connectorType = panel.connectorType ∧ connector.polishType = panel.polishType ∧
    connector.fiberMode = panel.fiberMode

instance (connector : FiberConnectorPort) (panel : FiberPatchPanel) :
    Decidable (connector.SameKind panel) := inferInstanceAs (Decidable (_ ∧ _ ∧ _))

def FiberPatchCord.EndsOn (cord : FiberPatchCord) (connectorId : ℕ) : Prop :=
  cord.firstConnectorPortId = connectorId ∨ cord.secondConnectorPortId = connectorId

instance (cord : FiberPatchCord) (connectorId : ℕ) : Decidable (cord.EndsOn connectorId) :=
  inferInstanceAs (Decidable (_ ∨ _))

def validateOwner (plant : Plant) (inventory : Inventory) (connector : FiberConnectorPort) :
    Except String Unit :=
  match connector.patchPanelId with
  | some panelId => do
      let panel ← orRefuse ((inventory.panels.get? panelId).filter (·.isActive))
        "active panel connector requires an active patch panel"
      ensure (∃ number ∈ connector.portNumber, 1 ≤ number ∧ number ≤ panel.portCapacity)
        "panel connector port_number exceeds declared panel capacity"
      ensure (connector.SameKind panel)
        "panel connector type, polish, and fiber mode must match its panel"
  | none => do
      ensure (connector.portNumber = none)
        "equipment connector uses the canonical equipment port identity"
      ensure (∃ target ∈ connector.externalIdentity, plant.equipmentActive target.1 target.2)
        "active equipment connector requires an active canonical port"

/-- The checks of a changed connector. -/
def validateConnector (plant : Plant) (inventory : Inventory) (connector : FiberConnectorPort)
    (flag : Option Flag) : Except String Unit := do
  ensure (([connector.patchPanelId, connector.ponPortId, connector.splitterPortId,
    connector.ontUnitId].filter (·.isSome)).length = 1)
    "fiber connector requires exactly one canonical owner"
  validateKind "connector" "connector" connector.connectorType connector.polishType
    connector.fiberMode
  validateOwner plant inventory connector
  onlyIf (flag = some (.bool false)) do
    ensure (∀ termination ∈ inventory.terminations.rows,
      termination.connectorPortId = connector.id → ¬termination.active)
      "retire the active strand termination before its connector"
    ensure (∀ cord ∈ inventory.cords.rows, cord.active → ¬cord.EndsOn connector.id)
      "retire the active patch cord before its connector"

/-- A reviewed change of one kind of asset. -/
inductive Change (Payload : Type)
  | create (payload : Payload)
  | update (id : ℕ) (payload : Payload)
  | delete (id : ℕ)

def assetNotFound : String := "physical inventory asset not found"

/-- Create, update or retire a rack. -/
def applyRack (plant : Plant) (inventory : Inventory) :
    Change RackPayload → Except String Inventory
  | .create payload => do
      validateRack plant inventory (payload.set (.blank inventory.racks.next)) payload.isActive
      .ok { inventory with racks := inventory.racks.insert (payload.set ∘ .blank) fun _ => rfl }
  | .update id payload => do
      let rack ← orRefuse (inventory.racks.get? id) assetNotFound
      validateRack plant inventory (payload.set rack)
        (payload.isActive.or (some (.bool rack.isActive)))
      .ok { inventory with racks := inventory.racks.update id payload.set fun _ => rfl }
  | .delete id => do
      let _ ← orRefuse (inventory.racks.get? id) assetNotFound
      ensure (∀ panel ∈ inventory.panels.rows, panel.rackId = id → ¬panel.isActive)
        "retire active patch panels before retiring their rack"
      .ok { inventory with
        racks := inventory.racks.update id ({ · with isActive := false }) fun _ => rfl }

/-- `uq_fiber_patch_panels_rack_unit_start`. -/
def flushPanels (inventory : Inventory) (panels : Table FiberPatchPanel) :
    Except String Inventory := do
  ensure (∀ p ∈ panels.rows, ∀ q ∈ panels.rows, p.rackId = q.rackId →
    p.rackUnitStart = q.rackUnitStart → p.id = q.id) "IntegrityError"
  .ok { inventory with panels }

/-- Create, update or retire a panel. -/
def applyPanel (inventory : Inventory) : Change PanelPayload → Except String Inventory
  | .create payload => do
      let rackId ← orRefuse payload.rackId
        "active patch panel requires an active canonical fiber rack"
      validatePanel inventory (payload.set (.blank rackId inventory.panels.next)) payload.isActive
      flushPanels inventory (inventory.panels.insert (payload.set ∘ .blank rackId) fun _ => rfl)
  | .update id payload => do
      let panel ← orRefuse (inventory.panels.get? id) assetNotFound
      validatePanel inventory (payload.set panel)
        (payload.isActive.or (some (.bool panel.isActive)))
      flushPanels inventory (inventory.panels.update id payload.set fun _ => rfl)
  | .delete id => do
      let _ ← orRefuse (inventory.panels.get? id) assetNotFound
      ensure (∀ connector ∈ inventory.connectors.rows, connector.patchPanelId = some id →
        ¬connector.isActive) "retire active connector ports before retiring their patch panel"
      .ok { inventory with
        panels := inventory.panels.update id ({ · with isActive := false }) fun _ => rfl }

def FiberConnectorPort.Clashes (connector other : FiberConnectorPort) : Prop :=
  (connector.patchPanelId.isSome ∧ connector.patchPanelId = other.patchPanelId ∧
      connector.portNumber = other.portNumber) ∨
    (connector.externalIdentity.isSome ∧ connector.externalIdentity = other.externalIdentity)

instance (connector other : FiberConnectorPort) : Decidable (connector.Clashes other) :=
  inferInstanceAs (Decidable (_ ∨ _))

def flushConnectors (inventory : Inventory) (connectors : Table FiberConnectorPort) :
    Except String Inventory := do
  ensure (∀ c ∈ connectors.rows, ∀ d ∈ connectors.rows, c.Clashes d → c.id = d.id) "IntegrityError"
  .ok { inventory with connectors }

/-- Create, update or retire a connector. -/
def applyConnector (plant : Plant) (inventory : Inventory) :
    Change ConnectorPayload → Except String Inventory
  | .create payload => do
      validateConnector plant inventory (payload.set (.blank inventory.connectors.next))
        payload.isActive
      flushConnectors inventory
        (inventory.connectors.insert (payload.set ∘ .blank) fun _ => rfl)
  | .update id payload => do
      let connector ← orRefuse (inventory.connectors.get? id) assetNotFound
      validateConnector plant inventory (payload.set connector)
        (payload.isActive.or (some (.bool connector.isActive)))
      flushConnectors inventory (inventory.connectors.update id payload.set fun _ => rfl)
  | .delete id => do
      let connector ← orRefuse (inventory.connectors.get? id) assetNotFound
      validateConnector plant inventory { connector with isActive := false } (some (.bool false))
      .ok { inventory with
        connectors := inventory.connectors.update id ({ · with isActive := false }) fun _ => rfl }

/-- An active splice; splice decisions write no table of the inventory. -/
structure FiberCoreSplice where
  firstStrandId : ℕ
  firstStrandEnd : StrandEnd
  secondStrandId : ℕ
  secondStrandEnd : StrandEnd

/-- What an approved decision connects or disconnects. -/
inductive LinkDecision
  | connectTermination (strandId : ℕ) (strandEnd : StrandEnd) (connectorPortId : ℕ)
  | connectCord (firstConnectorPortId secondConnectorPortId : ℕ)
  | disconnectTermination (targetLinkId strandId : ℕ) (strandEnd : StrandEnd)
      (connectorPortId : ℕ)
  | disconnectCord (targetLinkId firstConnectorPortId secondConnectorPortId : ℕ)

def Plant.endpoint (plant : Plant) (strandId : ℕ) (strandEnd : StrandEnd) :
    Option FiberTerminationPoint := do
  let strand ← plant.strand strandId
  let segment ← plant.segment (← strand.segmentId)
  match strandEnd with
  | .a => plant.point (← segment.fromPointId)
  | .b => plant.point (← segment.toPointId)

def loadStrandEnd (plant : Plant) (strandId : ℕ) (strandEnd : StrandEnd) :
    Except String FiberTerminationPoint := do
  let strand ← orRefuse ((plant.strand strandId).filter fun strand =>
    strand.isActive ∧ strand.segmentId.isSome) "physical link requires an active exact segment strand"
  ensure (strand.status ∉ [.damaged, .retired])
    "damaged or retired strand cannot carry physical continuity"
  let _ ← orRefuse ((strand.segmentId.bind plant.segment).filter (·.isActive))
    "physical link requires an active canonical cable segment"
  orRefuse ((plant.endpoint strandId strandEnd).filter fun point =>
    point.isActive ∧ point.refId.isSome) "strand end requires an active exact segment termination"

def strandEndOccupied (inventory : Inventory) (splices : List FiberCoreSplice) (strandId : ℕ)
    (strandEnd : StrandEnd) : Bool :=
  splices.any (fun splice =>
    (splice.firstStrandId = strandId ∧ splice.firstStrandEnd = strandEnd) ∨
      (splice.secondStrandId = strandId ∧ splice.secondStrandEnd = strandEnd)) ||
    inventory.terminations.rows.any fun termination =>
      termination.active ∧ termination.strandId = strandId ∧ termination.strandEnd = strandEnd

def rackMatchesPoint (plant : Plant) (rack : FiberRack) (point : FiberTerminationPoint) : Bool :=
  match point.endpointType, point.refId with
  | .fdh, ref => rack.fdhCabinetId = ref
  | .fiberAccessPoint, ref => rack.fiberAccessPointId = ref
  | .spliceClosure, ref => rack.spliceClosureId = ref
  | .splitterPort, some ref =>
    rack.fdhCabinetId.isSome ∧ plant.splitterPortCabinet ref = rack.fdhCabinetId
  | .ponPort, some ref =>
    ∃ site ∈ rack.popSiteId, ∃ olt ∈ plant.ponPortOlt ref,
      (plant.oltNodes.filter (· = (olt, site))).length = 1
  | _, _ => false

def assertTerminationCompatible (plant : Plant) (inventory : Inventory)
    (point : FiberTerminationPoint) (connector : FiberConnectorPort) : Except String Unit :=
  match connector.externalIdentity with
  | some external => ensure ((external.1, some external.2) = (point.endpointType, point.refId))
      "equipment connector disagrees with the exact segment endpoint"
  | none => do
      let panel ← orRefuse ((connector.patchPanelId.bind inventory.panels.get?).filter (·.isActive))
        "panel connector does not resolve through an active rack"
      let rack ← orRefuse ((inventory.racks.get? panel.rackId).filter (·.isActive))
        "panel connector does not resolve through an active rack"
      ensure (rackMatchesPoint plant rack point)
        "rack host disagrees with the exact segment endpoint infrastructure"

/-- `_connector`. -/
def activeConnector (plant : Plant) (inventory : Inventory) (id : ℕ) :
    Except String FiberConnectorPort := do
  let connector ← orRefuse ((inventory.connectors.get? id).filter (·.isActive))
    "connector port is missing or inactive"
  validateConnector plant inventory connector (some (.bool true))
  .ok connector

inductive CoreNode
  | strand (id : ℕ)
  | connector (id : ℕ)
deriving DecidableEq

def coreLinks (inventory : Inventory) (splices : List FiberCoreSplice) :
    List (CoreNode × CoreNode) :=
  (inventory.terminations.rows.filter (·.active)).map
      (fun t => (.strand t.strandId, .connector t.connectorPortId)) ++
    splices.map (fun s => (.strand s.firstStrandId, .strand s.secondStrandId)) ++
    (inventory.cords.rows.filter (·.active)).map
      (fun c => (.connector c.firstConnectorPortId, .connector c.secondConnectorPortId))

def patchComponentHasInUseStrand (plant : Plant) (inventory : Inventory)
    (splices : List FiberCoreSplice) (cord : FiberPatchCord) : Bool :=
  let links := coreLinks inventory splices
  let next (x : CoreNode) : List CoreNode := (links.filter (·.1 = x)).map Prod.snd ++
    (links.filter (·.2 = x)).map Prod.fst
  (BreadthFirst.searchFrom next (2 * links.length + 2)
    [.connector cord.firstConnectorPortId, .connector cord.secondConnectorPortId]).any fun found =>
      match found.1 with
      | .strand id => (plant.strand id).any (·.status = .inUse)
      | .connector _ => false

def linkMissing : String := "physical link is missing or inactive"

def inUseCore : String := "disconnect would break an in-use core; remove service use first"

/-- What changed since a decision was proposed. -/
def changed : String := "authoritative fields changed after proposal"

/-- A connection or a disconnection. -/
def executePhysicalLink (plant : Plant) (inventory : Inventory) (splices : List FiberCoreSplice) :
    LinkDecision → Except String Inventory
  | .connectTermination strandId strandEnd connectorId => do
      let point ← loadStrandEnd plant strandId strandEnd
      let connector ← activeConnector plant inventory connectorId
      assertTerminationCompatible plant inventory point connector
      ensure (strandEndOccupied inventory splices strandId strandEnd = false)
        "exact strand end already has an active continuity link"
      ensure (∀ termination ∈ inventory.terminations.rows,
        termination.connectorPortId = connectorId → ¬termination.active)
        "connector already has an active back-side strand termination"
      .ok { inventory with
        terminations := inventory.terminations.insert
          (⟨·, strandId, strandEnd, connectorId, true⟩) fun _ => rfl }
  | .connectCord firstId secondId => do
      ensure (firstId ≠ secondId) "patch cord requires distinct connectors"
      -- a proposal has its connectors in order
      ensure (firstId < secondId) changed
      let first ← activeConnector plant inventory firstId
      let second ← activeConnector plant inventory secondId
      ensure (first.fiberMode = second.fiberMode) "patch cord cannot join different fiber modes"
      ensure (∀ cord ∈ inventory.cords.rows, cord.active →
        ¬cord.EndsOn firstId ∧ ¬cord.EndsOn secondId)
        "one of the exact connectors already has an active patch cord"
      .ok { inventory with
        cords := inventory.cords.insert (⟨·, firstId, secondId, true⟩) fun _ => rfl }
  | .disconnectTermination id strandId strandEnd connectorId => do
      let termination ← orRefuse ((inventory.terminations.get? id).filter (·.active)) linkMissing
      ensure (¬∃ strand ∈ plant.strand termination.strandId, strand.status = .inUse) inUseCore
      ensure (termination.strandId = strandId ∧ termination.strandEnd = strandEnd ∧
        termination.connectorPortId = connectorId) changed
      .ok { inventory with
        terminations := inventory.terminations.update id ({ · with active := false }) fun _ => rfl }
  | .disconnectCord id firstId secondId => do
      let cord ← orRefuse ((inventory.cords.get? id).filter (·.active)) linkMissing
      ensure (patchComponentHasInUseStrand plant inventory splices cord = false) inUseCore
      ensure (cord.firstConnectorPortId = firstId ∧ cord.secondConnectorPortId = secondId) changed
      .ok { inventory with
        cords := inventory.cords.update id ({ · with active := false }) fun _ => rfl }

inductive Command
  | rack (change : Change RackPayload)
  | panel (change : Change PanelPayload)
  | connector (change : Change ConnectorPayload)
  | link (splices : List FiberCoreSplice) (decision : LinkDecision)

/-- One command. -/
def step (plant : Plant) (inventory : Inventory) : Command → Except String Inventory
  | .rack change => applyRack plant inventory change
  | .panel change => applyPanel inventory change
  | .connector change => applyConnector plant inventory change
  | .link splices decision => executePhysicalLink plant inventory splices decision

end DotmacSub.FiberInventory
