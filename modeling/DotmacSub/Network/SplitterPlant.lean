import DotmacSub.Core.Checked
import DotmacSub.Core.Table
import DotmacSub.Core.Text
import Mathlib.Data.Rat.Defs

/-!
# Splitter attachments

`network/fiber_splitter_topology.py` resolves a splitter to the PON that feeds it, over PON links and
cascades; `network/fiber_access_attachments.py` writes these links and the outputs of ONTs, as
decisions that are proposed, reviewed, and looked at once more when they are executed.
-/

namespace DotmacSub.SplitterPlant

open Checked Store

inductive SplitterPortType
  | input
  | output
deriving DecidableEq

structure Splitter where
  inputPorts : ℕ
  insertionLossDb : Option ℚ
  isActive : Bool

structure SplitterPort where
  splitterId : ℕ
  portType : SplitterPortType
  isActive : Bool

structure PonPort where
  oltId : ℕ
  isActive : Bool

/-- The inventory, by identifier; an OLT is known by whether it is active. -/
structure Inventory where
  splitter : ℕ → Option Splitter
  port : ℕ → Option SplitterPort
  pon : ℕ → Option PonPort
  olt : ℕ → Option Bool

structure OntUnit where
  id : ℕ
  isActive : Bool
  ponPortId : Option ℕ
  oltDeviceId : Option ℕ
  splitterPortId : Option ℕ
  splitterId : Option ℕ

structure PonPortSplitterLink where
  id : ℕ
  ponPortId : ℕ
  splitterPortId : ℕ
  active : Bool
deriving DecidableEq

structure SplitterCascadeLink where
  id : ℕ
  upstreamOutputPortId : ℕ
  downstreamInputPortId : ℕ
  active : Bool
deriving DecidableEq

instance : Row OntUnit := ⟨OntUnit.id⟩
instance : Row PonPortSplitterLink := ⟨PonPortSplitterLink.id⟩
instance : Row SplitterCascadeLink := ⟨SplitterCascadeLink.id⟩

structure Plant where
  onts : Table OntUnit
  ponLinks : Table PonPortSplitterLink
  cascades : Table SplitterCascadeLink

def Inventory.splitterOf (inv : Inventory) (port : ℕ) : Option ℕ :=
  (inv.port port).map (·.splitterId)

def Plant.activePonLinks (plant : Plant) : List PonPortSplitterLink :=
  plant.ponLinks.rows.filter (·.active)

def Plant.activeCascades (plant : Plant) : List SplitterCascadeLink :=
  plant.cascades.rows.filter (·.active)

/-- `links[0] if links else None`, where several are refused. -/
def atMostOne {α : Type} (links : List α) (message : String) : Except String (Option α) :=
  match links with
  | [] => .ok none
  | [link] => .ok (some link)
  | _ => .error message

structure CascadeEdge where
  link : SplitterCascadeLink
  outputPort : SplitterPort
  inputPort : SplitterPort

/-- The edges of cascades, the splitters that PON links feed, and the splitters of links that are
neither. -/
structure Graph where
  edges : List CascadeEdge
  roots : List (ℕ × PonPortSplitterLink)
  invalidSplitters : List ℕ

def Graph.incoming (graph : Graph) (x : ℕ) : Option CascadeEdge :=
  graph.edges.find? (·.inputPort.splitterId = x)

def Graph.outgoing (graph : Graph) (x : ℕ) : List CascadeEdge :=
  graph.edges.filter (·.outputPort.splitterId = x)

def Graph.rootsOf (graph : Graph) (x : ℕ) : List PonPortSplitterLink :=
  (graph.roots.filter (·.1 = x)).map Prod.snd

def Inventory.Lit (inv : Inventory) (x : ℕ) : Prop := ∃ splitter ∈ inv.splitter x, splitter.isActive

instance (inv : Inventory) (x : ℕ) : Decidable (inv.Lit x) := by
  unfold Inventory.Lit
  infer_instance

def Inventory.Joins (inv : Inventory) (outputPort inputPort : SplitterPort) : Prop :=
  outputPort.isActive ∧ inputPort.isActive ∧ outputPort.portType = .output ∧
    inputPort.portType = .input ∧ outputPort.splitterId ≠ inputPort.splitterId ∧
    inv.Lit outputPort.splitterId ∧ inv.Lit inputPort.splitterId

instance (inv : Inventory) (outputPort inputPort : SplitterPort) :
    Decidable (inv.Joins outputPort inputPort) := by
  unfold Inventory.Joins
  infer_instance

def Graph.addCascade (inv : Inventory) (graph : Graph) (link : SplitterCascadeLink) : Graph :=
  match inv.port link.upstreamOutputPortId, inv.port link.downstreamInputPortId with
  | some outputPort, some inputPort =>
    if inv.Joins outputPort inputPort then
      match graph.incoming inputPort.splitterId with
      | none => { graph with edges := graph.edges ++ [⟨link, outputPort, inputPort⟩] }
      | some edge => { graph with
          invalidSplitters := inputPort.splitterId :: outputPort.splitterId ::
            edge.outputPort.splitterId :: graph.invalidSplitters }
    else { graph with
      invalidSplitters :=
        outputPort.splitterId :: inputPort.splitterId :: graph.invalidSplitters }
  | outputPort, inputPort => { graph with
      invalidSplitters :=
        (outputPort.toList ++ inputPort.toList).map (·.splitterId) ++ graph.invalidSplitters }

def Graph.addRoot (inv : Inventory) (graph : Graph) (link : PonPortSplitterLink) : Graph :=
  match inv.port link.splitterPortId with
  | none => graph
  | some inputPort =>
    if inputPort.isActive ∧ inputPort.portType = .input ∧ inv.Lit inputPort.splitterId then
      { graph with roots := graph.roots ++ [(inputPort.splitterId, link)] }
    else { graph with invalidSplitters := inputPort.splitterId :: graph.invalidSplitters }

def Plant.loadGraph (inv : Inventory) (plant : Plant) : Graph :=
  plant.activePonLinks.foldl (·.addRoot inv)
    (plant.activeCascades.foldl (·.addCascade inv) ⟨[], [], []⟩)

structure SplitterChainStage where
  splitterId : ℕ
  inputPortId : ℕ
  incomingCascadeLinkId : Option ℕ
  upstreamOutputPortId : Option ℕ
  stage : ℕ
  insertionLossDb : Option ℚ
  cumulativeLossDb : Option ℚ

/-- A chain from its root stage down; it has a root stage. -/
structure RootedSplitterChain where
  ponPortId : ℕ
  oltId : ℕ
  root : SplitterChainStage
  below : List SplitterChainStage

def RootedSplitterChain.leaf (chain : RootedSplitterChain) : SplitterChainStage :=
  chain.below.getLastD chain.root

/-- `while current_id in graph.incoming`: the edges above a splitter, from the top, and the splitter
at the top.  A way of more edges than there are meets a splitter twice. -/
def Graph.climb (graph : Graph) : ℕ → ℕ → List ℕ → List CascadeEdge →
    Except String (ℕ × List CascadeEdge)
  | 0, _, _, _ => .error "splitter cascade contains a cycle"
  | fuel + 1, current, visited, edges =>
    match graph.incoming current with
    | none => do
      ensure (current ∉ visited) "splitter cascade contains a cycle"
      return (current, edges)
    | some edge => do
      ensure (current ∉ visited) "splitter cascade contains a cycle"
      ensure (graph.rootsOf current = []) "downstream splitter cannot also have an active PON root"
      ensure (edge.outputPort.splitterId ∉ graph.invalidSplitters)
        "splitter participates in an invalid active source edge"
      graph.climb fuel edge.outputPort.splitterId (current :: visited) (edge :: edges)

def Inventory.lossOf (inv : Inventory) (x : ℕ) : Option ℚ :=
  (inv.splitter x).bind (·.insertionLossDb)

/-- `cumulative += loss`, where both are known. -/
def addLoss : Option ℚ → Option ℚ → Option ℚ
  | some cumulative, some loss => some (cumulative + loss)
  | cumulative, _ => cumulative

def Inventory.stagesBelow (inv : Inventory) :
    List CascadeEdge → ℕ → Option ℚ → List SplitterChainStage
  | [], _, _ => []
  | edge :: edges, stage, cumulative =>
    let x := edge.inputPort.splitterId
    let reached := addLoss cumulative (inv.lossOf x)
    { splitterId := x
      inputPortId := edge.link.downstreamInputPortId
      incomingCascadeLinkId := some edge.link.id
      upstreamOutputPortId := some edge.link.upstreamOutputPortId
      stage := stage
      insertionLossDb := inv.lossOf x
      cumulativeLossDb := reached } :: inv.stagesBelow edges (stage + 1) reached

def Inventory.SingleInput (inv : Inventory) (x : ℕ) : Prop :=
  ∃ splitter ∈ inv.splitter x, splitter.inputPorts = 1

instance (inv : Inventory) (x : ℕ) : Decidable (inv.SingleInput x) := by
  unfold Inventory.SingleInput
  infer_instance

def Graph.onlyRoot (graph : Graph) (x : ℕ) : Except String PonPortSplitterLink :=
  match graph.rootsOf x with
  | [link] => .ok link
  | _ => .error "splitter tree must resolve to exactly one active PON root"

/-- The PON at the root, up the cascades and fail-closed. -/
def resolveSplitterRootFromGraph (inv : Inventory) (graph : Graph) (splitterId : ℕ) :
    Except String RootedSplitterChain := do
  ensure ((inv.splitter splitterId).isSome) "splitter not found"
  ensure (splitterId ∉ graph.invalidSplitters)
    "splitter participates in an invalid active source edge"
  let (top, edges) ← graph.climb (graph.edges.length + 1) splitterId [] []
  let rootLink ← graph.onlyRoot top
  let splitterIds := top :: edges.map (·.inputPort.splitterId)
  ensure (∀ x ∈ splitterIds, inv.SingleInput x)
    "cascade traversal requires explicit single-input splitter inventory"
  ensure (1 < splitterIds.length → ∀ x ∈ splitterIds, inv.lossOf x ≠ none)
    "every splitter in a cascade requires explicit insertion_loss_db"
  let start := if ∀ x ∈ splitterIds, inv.lossOf x ≠ none then some 0 else none
  let reached := addLoss start (inv.lossOf top)
  let pon ← orRefuse ((inv.pon rootLink.ponPortId).filter (·.isActive))
    "splitter root PON is missing or inactive"
  ensure ((inv.olt pon.oltId).isSome) "splitter root OLT is missing"
  return {
    ponPortId := rootLink.ponPortId
    oltId := pon.oltId
    root := {
      splitterId := top
      inputPortId := rootLink.splitterPortId
      incomingCascadeLinkId := none
      upstreamOutputPortId := none
      stage := 1
      insertionLossDb := inv.lossOf top
      cumulativeLossDb := reached }
    below := inv.stagesBelow edges 2 reached }

/-- The chain from the PON down to a splitter. -/
def resolveSplitterRoot (inv : Inventory) (plant : Plant) (splitterId : ℕ) :
    Except String RootedSplitterChain :=
  resolveSplitterRootFromGraph inv (plant.loadGraph inv) splitterId

/-- `visit` of `splitter_subtree_ids`, over the splitters visited and those on the path; a path of
more splitters than there are edges meets one twice. -/
def Graph.visit (graph : Graph) : ℕ → List ℕ × List ℕ → ℕ → Except String (List ℕ × List ℕ)
  | 0, _, _ => .error "splitter cascade contains a cycle"
  | fuel + 1, (visited, activePath), x => do
    ensure (x ∉ activePath) "splitter cascade contains a cycle"
    if x ∈ visited then return (visited, activePath)
    ensure (x ∉ graph.invalidSplitters) "splitter participates in an invalid active source edge"
    let (visited, _) ← (graph.outgoing x).foldlM
      (fun seen edge => graph.visit fuel seen edge.inputPort.splitterId)
      (x :: visited, x :: activePath)
    return (visited, activePath)

/-- A splitter and all below it. -/
def splitterSubtreeIds (inv : Inventory) (plant : Plant) (splitterId : ℕ) :
    Except String (List ℕ) := do
  ensure ((inv.splitter splitterId).isSome) "splitter not found"
  let graph := plant.loadGraph inv
  let (visited, _) ← graph.visit (graph.edges.length + 2) ([], []) splitterId
  return visited

inductive AttachmentType
  | ponInput
  | ontOutput
  | splitterCascade
deriving DecidableEq

inductive Action
  | attach
  | detach
deriving DecidableEq

structure FiberAccessAttachmentPreview where
  attachmentType : AttachmentType
  action : Action
  subjectId : ℕ
  targetSplitterPortId : Option ℕ
  previousSplitterPortId : Option ℕ
  oltId : ℕ
  ponPortId : ℕ
  splitterId : ℕ
  upstreamSplitterId : Option ℕ
  splitterStage : Option ℕ
  cumulativeLossDb : Option ℚ
deriving DecidableEq

def Plant.activePonLink (plant : Plant) (ponPortId : ℕ) :
    Except String (Option PonPortSplitterLink) :=
  atMostOne (plant.activePonLinks.filter (·.ponPortId = ponPortId))
    "PON has multiple active splitter-input links"

def Plant.activeCascadeFromOutput (plant : Plant) (outputPortId : ℕ) :
    Except String (Option SplitterCascadeLink) :=
  atMostOne (plant.activeCascades.filter (·.upstreamOutputPortId = outputPortId))
    "splitter output has multiple active cascade links"

def Plant.activeCascadeIntoSplitter (inv : Inventory) (plant : Plant) (splitterId : ℕ) :
    Except String (Option SplitterCascadeLink) :=
  atMostOne (plant.activeCascades.filter
      (inv.splitterOf ·.downstreamInputPortId = some splitterId))
    "splitter has multiple active upstream cascade links"

def Inventory.inSplitters (inv : Inventory) (splitterIds : List ℕ) (port : ℕ) : Prop :=
  ∃ x ∈ inv.splitterOf port, x ∈ splitterIds

instance (inv : Inventory) (splitterIds : List ℕ) (port : ℕ) :
    Decidable (inv.inSplitters splitterIds port) := by
  unfold Inventory.inSplitters
  infer_instance

def Plant.activeOutgoingCascades (inv : Inventory) (plant : Plant) (splitterIds : List ℕ) :
    List SplitterCascadeLink :=
  plant.activeCascades.filter (inv.inSplitters splitterIds ·.upstreamOutputPortId)

def Plant.activePonLinksIntoSplitters (inv : Inventory) (plant : Plant) (splitterIds : List ℕ) :
    List PonPortSplitterLink :=
  plant.activePonLinks.filter (inv.inSplitters splitterIds ·.splitterPortId)

def OntUnit.On (ont : OntUnit) (port : ℕ) : Prop :=
  ont.isActive ∧ ont.splitterPortId = some port

instance (ont : OntUnit) (port : ℕ) : Decidable (ont.On port) := by
  unfold OntUnit.On
  infer_instance

def Plant.activeOntsInSplitters (inv : Inventory) (plant : Plant) (splitterIds : List ℕ) :
    List OntUnit :=
  plant.onts.rows.filter fun ont => ∃ port ∈ ont.splitterPortId,
    ont.On port ∧ inv.inSplitters splitterIds port

def Inventory.loadActiveOlt (inv : Inventory) (oltId : ℕ) : Except String Unit :=
  ensure (inv.olt oltId = some true) "authoritative OLT is missing or inactive"

def resolveRootedChain (inv : Inventory) (plant : Plant) (splitterId : ℕ) :
    Except String RootedSplitterChain := do
  let chain ← resolveSplitterRoot inv plant splitterId
  inv.loadActiveOlt chain.oltId
  return chain

def assertSplitterRootCanBeUnlinked (inv : Inventory) (plant : Plant) (splitterId : ℕ) :
    Except String Unit := do
  let subtree ← splitterSubtreeIds inv plant splitterId
  ensure (plant.activeOntsInSplitters inv subtree).isEmpty
    "cannot unlink a splitter tree with active ONT attachments"
  ensure (plant.activeOutgoingCascades inv subtree).isEmpty
    "remove leaf cascade links before unlinking the PON root"

def SplitterPortType.value : SplitterPortType → String
  | .input => "input"
  | .output => "output"

def Inventory.loadPort (inv : Inventory) (portId : ℕ) (expectedType : Option SplitterPortType)
    (requireActive : Bool) : Except String (SplitterPort × Splitter) := do
  let port ← orRefuse (inv.port portId) "splitter port not found"
  ensure (requireActive → port.isActive) "splitter port is inactive"
  ensure (∀ expected ∈ expectedType, port.portType = expected)
    ("splitter port must be an active " ++ (expectedType.map (·.value)).getD "" ++ " port")
  let splitter ← orRefuse (inv.splitter port.splitterId) "splitter not found"
  ensure (requireActive → splitter.isActive) "splitter is inactive"
  return (port, splitter)

/-- What is asked for: an attachment has a target. -/
inductive Request
  | attach (target : ℕ)
  | detach

def normalizeRequest (action : Action) (target : Option ℕ) : Except String Request :=
  match action, target with
  | .attach, some target => .ok (.attach target)
  | .attach, none => .error "attach requires target_splitter_port_id"
  | .detach, none => .ok .detach
  | .detach, some _ => .error "detach binds the current attachment and cannot specify a target"

/-- A PON that is moved to another splitter leaves an empty tree. -/
def assertCanMove (inv : Inventory) (plant : Plant) (current : Option PonPortSplitterLink)
    (splitterId : ℕ) : Except String Unit :=
  match current with
  | none => .ok ()
  | some link => do
    let (port, _) ← inv.loadPort link.splitterPortId none false
    onlyIf (port.splitterId ≠ splitterId)
      (assertSplitterRootCanBeUnlinked inv plant port.splitterId)

/-- The checks of a PON that feeds a splitter. -/
def previewPonInput (inv : Inventory) (plant : Plant) (subjectId : ℕ) (request : Request) :
    Except String FiberAccessAttachmentPreview := do
  let pon ← orRefuse (inv.pon subjectId) "PON port not found"
  ensure pon.isActive "PON port is inactive"
  inv.loadActiveOlt pon.oltId
  let current ← plant.activePonLink subjectId
  let preview (action : Action) (target : Option ℕ) (x : ℕ) : FiberAccessAttachmentPreview := {
    attachmentType := .ponInput
    action := action
    subjectId := subjectId
    targetSplitterPortId := target
    previousSplitterPortId := current.map (·.splitterPortId)
    oltId := pon.oltId
    ponPortId := subjectId
    splitterId := x
    upstreamSplitterId := none
    splitterStage := none
    cumulativeLossDb := none }
  match request with
  | .detach => do
    let link ← orRefuse current "PON has no active splitter-input link"
    let (port, _) ← inv.loadPort link.splitterPortId none false
    assertSplitterRootCanBeUnlinked inv plant port.splitterId
    return preview .detach none port.splitterId
  | .attach target => do
    let (port, _) ← inv.loadPort target (some .input) true
    let above ← plant.activeCascadeIntoSplitter inv port.splitterId
    ensure (above = none) "splitter input is already supplied by an active cascade"
    ensure (∀ link ∈ plant.activePonLinks, link.splitterPortId = target → link.ponPortId = subjectId)
      "splitter input is already attached to another PON"
    ensure (∀ link ∈ current, link.splitterPortId ≠ target) "PON is already attached to this input"
    assertCanMove inv plant current port.splitterId
    return preview .attach (some target) port.splitterId

def validatedOntAndPon (inv : Inventory) (plant : Plant) (ontId : ℕ) :
    Except String (OntUnit × ℕ × ℕ) := do
  let ont ← orRefuse (plant.onts.get? ontId) "ONT not found"
  ensure ont.isActive "ONT is inactive"
  let ponPortId ← orRefuse ont.ponPortId "ONT requires explicit PON and OLT identity"
  let oltId ← orRefuse ont.oltDeviceId "ONT requires explicit PON and OLT identity"
  let pon ← orRefuse (inv.pon ponPortId) "authoritative PON port not found"
  ensure pon.isActive "authoritative PON port is inactive"
  ensure (pon.oltId = oltId) "ONT and PON disagree on the authoritative OLT"
  inv.loadActiveOlt oltId
  return (ont, ponPortId, oltId)

/-- The checks of an ONT on an output. -/
def previewOntOutput (inv : Inventory) (plant : Plant) (subjectId : ℕ) (request : Request) :
    Except String FiberAccessAttachmentPreview := do
  let (ont, ponPortId, oltId) ← validatedOntAndPon inv plant subjectId
  let preview (action : Action) (target : Option ℕ) (x : ℕ) : FiberAccessAttachmentPreview := {
    attachmentType := .ontOutput
    action := action
    subjectId := subjectId
    targetSplitterPortId := target
    previousSplitterPortId := ont.splitterPortId
    oltId := oltId
    ponPortId := ponPortId
    splitterId := x
    upstreamSplitterId := none
    splitterStage := none
    cumulativeLossDb := none }
  match request with
  | .detach => do
    let current ← orRefuse ont.splitterPortId "ONT has no splitter-output attachment"
    let (port, _) ← inv.loadPort current none false
    return preview .detach none port.splitterId
  | .attach target => do
    let (port, _) ← inv.loadPort target (some .output) true
    ((do
      let chain ← resolveRootedChain inv plant port.splitterId
      ensure (chain.ponPortId = ponPortId)
        "leaf splitter does not belong to the authoritative PON tree") :
      Except String Unit).mapError fun _ =>
        "ONT output must belong to the splitter attached to its PON " ++
          "or its exact reviewed cascade tree"
    let cascade ← plant.activeCascadeFromOutput target
    ensure (cascade = none) "splitter output already supplies a downstream splitter"
    ensure (∀ other ∈ plant.onts.rows, other.On target → other.id = subjectId)
      "splitter output is already attached to another active ONT"
    ensure (¬ (ont.splitterPortId = some target ∧ ont.splitterId = some port.splitterId))
      "ONT is already attached to this output"
    return preview .attach (some target) port.splitterId

/-- The checks of a splitter that feeds another. -/
def previewSplitterCascade (inv : Inventory) (plant : Plant) (subjectId : ℕ) (request : Request) :
    Except String FiberAccessAttachmentPreview := do
  let (upstreamOutput, _) ← inv.loadPort subjectId (some .output)
    (match request with | .attach _ => true | .detach => false)
  let current ← plant.activeCascadeFromOutput subjectId
  match request with
  | .detach => do
    let link ← orRefuse current "splitter output has no active downstream cascade link"
    let (downstreamInput, _) ← inv.loadPort link.downstreamInputPortId (some .input) false
    let subtree ← splitterSubtreeIds inv plant downstreamInput.splitterId
    ensure (subtree.length ≤ 1) "remove downstream leaf cascades before detaching this link"
    ensure (plant.activeOntsInSplitters inv subtree).isEmpty
      "detach active ONTs before removing their splitter cascade"
    let chain ← resolveRootedChain inv plant downstreamInput.splitterId
    ensure (chain.leaf.upstreamOutputPortId = some subjectId)
      "active cascade does not match the exact rooted splitter chain"
    ensure (chain.leaf.cumulativeLossDb.isSome)
      "cascade detach requires explicit cumulative splitter loss"
    return {
      attachmentType := .splitterCascade
      action := .detach
      subjectId := subjectId
      targetSplitterPortId := none
      previousSplitterPortId := some link.downstreamInputPortId
      oltId := chain.oltId
      ponPortId := chain.ponPortId
      splitterId := downstreamInput.splitterId
      upstreamSplitterId := some upstreamOutput.splitterId
      splitterStage := some chain.leaf.stage
      cumulativeLossDb := chain.leaf.cumulativeLossDb }
  | .attach target => do
    ensure (current = none) "splitter output already has an active downstream cascade link"
    ensure (∀ ont ∈ plant.onts.rows, ¬ ont.On subjectId)
      "splitter output is already attached to an active ONT"
    let (downstreamInput, downstreamSplitter) ← inv.loadPort target (some .input) true
    ensure (upstreamOutput.splitterId ≠ downstreamInput.splitterId)
      "splitter cascade cannot be a self edge"
    ensure (downstreamSplitter.inputPorts = 1)
      "cascade traversal requires explicit single-input splitter inventory"
    let above ← plant.activeCascadeIntoSplitter inv downstreamInput.splitterId
    ensure (above = none) "downstream splitter already has an active upstream cascade"
    let subtree ← splitterSubtreeIds inv plant downstreamInput.splitterId
    ensure (upstreamOutput.splitterId ∉ subtree) "splitter cascade would create a cycle"
    ensure (plant.activePonLinksIntoSplitters inv subtree).isEmpty
      "downstream splitter tree already has an active PON root"
    ensure (plant.activeOntsInSplitters inv subtree).isEmpty
      "downstream splitter tree has unrooted active ONT attachments"
    ensure (plant.activeOutgoingCascades inv subtree).isEmpty
      "attach an empty downstream splitter, then build cascades root-first"
    let chain ← resolveRootedChain inv plant upstreamOutput.splitterId
    let reached ← orRefuse chain.leaf.cumulativeLossDb
      "upstream splitter chain requires explicit insertion_loss_db"
    let loss ← orRefuse downstreamSplitter.insertionLossDb
      "downstream splitter requires explicit insertion_loss_db"
    return {
      attachmentType := .splitterCascade
      action := .attach
      subjectId := subjectId
      targetSplitterPortId := some target
      previousSplitterPortId := none
      oltId := chain.oltId
      ponPortId := chain.ponPortId
      splitterId := downstreamInput.splitterId
      upstreamSplitterId := some upstreamOutput.splitterId
      splitterStage := some (chain.leaf.stage + 1)
      cumulativeLossDb := some (reached + loss) }

/-- What an attachment would do, or why it may not. -/
def previewAccessAttachment (inv : Inventory) (plant : Plant) (attachmentType : AttachmentType)
    (action : Action) (subjectId : ℕ) (target : Option ℕ) :
    Except String FiberAccessAttachmentPreview := do
  let request ← normalizeRequest action target
  match attachmentType with
  | .ponInput => previewPonInput inv plant subjectId request
  | .ontOutput => previewOntOutput inv plant subjectId request
  | .splitterCascade => previewSplitterCascade inv plant subjectId request

inductive DecisionStatus
  | proposed
  | approved
  | declined
  | applied
  | closed
deriving DecidableEq

structure FiberAccessAttachmentDecision where
  id : ℕ
  evidence : FiberAccessAttachmentPreview
  status : DecisionStatus
  reason : String
  decisionSha256 : String
  proposedBy : String
  reviewedBy : Option String
  reviewNotes : Option String
  executedBy : Option String
  closedReason : Option String

instance : Row FiberAccessAttachmentDecision := ⟨FiberAccessAttachmentDecision.id⟩

structure State where
  plant : Plant
  decisions : Table FiberAccessAttachmentDecision

def activeStatuses : List DecisionStatus := [.proposed, .approved]

def requiredText (value field : String) (limit : ℕ) : Except String String := do
  let normalized := Text.strip value
  ensure (normalized ≠ "") (field ++ " is required")
  ensure (normalized.length ≤ limit) (field ++ " must be at most " ++ toString limit ++ " characters")
  return normalized

/-- `_decision_digest_payload`, hashed; the hash is a parameter. -/
abbrev Digest := FiberAccessAttachmentPreview → String → String → String

/-- A preview is proposed, one for a subject and a port at a time. -/
def propose (inv : Inventory) (digest : Digest) (s : State) (attachmentType : AttachmentType)
    (action : Action) (subjectId : ℕ) (target : Option ℕ) (proposedBy reason : String) :
    Except String State := do
  let actor ← requiredText proposedBy "proposed_by" 160
  let normalizedReason ← requiredText reason "reason" 4000
  let preview ← previewAccessAttachment inv s.plant attachmentType action subjectId target
  let sha := digest preview actor normalizedReason
  let active := s.decisions.rows.filter (·.status ∈ activeStatuses)
  match active.find? fun d => d.evidence.attachmentType = preview.attachmentType ∧
      d.evidence.subjectId = preview.subjectId with
  | some existing => do
    ensure (existing.decisionSha256 = sha)
      "subject already has a different active attachment decision"
    return s
  | none => do
    ensure (∀ port ∈ preview.targetSplitterPortId, ∀ d ∈ active,
        d.evidence.targetSplitterPortId ≠ some port)
      "target splitter port already has an active attachment decision"
    ensure (∀ d ∈ s.decisions.rows, d.decisionSha256 ≠ sha)
      "this exact attachment decision is already terminal"
    return { s with decisions := s.decisions.insert (fun i =>
      ⟨i, preview, .proposed, normalizedReason, sha, actor, none, none, none, none⟩) fun _ => rfl }

/-- The fields in which the authoritative state differs from the evidence of a decision. -/
def changedFields (a b : FiberAccessAttachmentPreview) : List String :=
  ([("attachment_type", a.attachmentType ≠ b.attachmentType), ("action", a.action ≠ b.action),
    ("subject_id", a.subjectId ≠ b.subjectId),
    ("target_splitter_port_id", a.targetSplitterPortId ≠ b.targetSplitterPortId),
    ("previous_splitter_port_id", a.previousSplitterPortId ≠ b.previousSplitterPortId),
    ("olt_id", a.oltId ≠ b.oltId), ("pon_port_id", a.ponPortId ≠ b.ponPortId),
    ("splitter_id", a.splitterId ≠ b.splitterId),
    ("upstream_splitter_id", a.upstreamSplitterId ≠ b.upstreamSplitterId),
    ("splitter_stage", a.splitterStage ≠ b.splitterStage),
    ("cumulative_loss_db", a.cumulativeLossDb ≠ b.cumulativeLossDb)] :
    List (String × Bool)).filterMap fun (field, changed) => if changed then some field else none

def revalidate (inv : Inventory) (plant : Plant) (d : FiberAccessAttachmentDecision) :
    Except String Unit := do
  let preview ← previewAccessAttachment inv plant d.evidence.attachmentType d.evidence.action
    d.evidence.subjectId d.evidence.targetSplitterPortId
  match changedFields d.evidence preview with
  | [] => .ok ()
  | field :: _ => .error ("authoritative " ++ field ++ " changed after proposal")

def setDecision (s : State) (d : FiberAccessAttachmentDecision) : State :=
  { s with decisions := s.decisions.update d.id (fun r => { d with id := r.id }) fun _ => rfl }

def approve (inv : Inventory) (s : State) (decisionId : ℕ) (reviewedBy reviewNotes : String) :
    Except String State := do
  let actor ← requiredText reviewedBy "reviewed_by" 160
  let notes ← requiredText reviewNotes "review_notes" 4000
  let d ← orRefuse (s.decisions.get? decisionId) "access attachment decision not found"
  if d.status = .approved ∧ d.reviewedBy = some actor ∧ d.reviewNotes = some notes then return s
  ensure (d.status = .proposed) "attachment decision is not proposed"
  ensure (d.proposedBy ≠ actor) "the proposer cannot review the same attachment decision"
  revalidate inv s.plant d
  return setDecision s { d with
    status := .approved, reviewedBy := some actor, reviewNotes := some notes }

def decline (s : State) (decisionId : ℕ) (reviewedBy reviewNotes : String) :
    Except String State := do
  let actor ← requiredText reviewedBy "reviewed_by" 160
  let notes ← requiredText reviewNotes "review_notes" 4000
  let d ← orRefuse (s.decisions.get? decisionId) "access attachment decision not found"
  if d.status = .declined ∧ d.reviewedBy = some actor ∧ d.reviewNotes = some notes then return s
  ensure (d.status = .proposed) "attachment decision is not proposed"
  ensure (d.proposedBy ≠ actor) "the proposer cannot review the same attachment decision"
  return setDecision s { d with
    status := .declined, reviewedBy := some actor, reviewNotes := some notes
    closedReason := some "attachment_decision_declined" }

def applyPonInput (plant : Plant) (e : FiberAccessAttachmentPreview) : Except String Plant :=
  let row := plant.ponLinks.rows.find? (·.ponPortId = e.ponPortId)
  match e.action with
  | .attach => do
    let target ← orRefuse e.targetSplitterPortId "approved PON attachment has no target input"
    return { plant with ponLinks := match row with
      | none => plant.ponLinks.insert (fun i => ⟨i, e.ponPortId, target, true⟩) fun _ => rfl
      | some link => plant.ponLinks.update link.id
          (fun r => { r with splitterPortId := target, active := true }) fun _ => rfl }
  | .detach => do
    let link ← orRefuse (row.filter (·.active))
      "PON splitter-input attachment changed before execution"
    return { plant with
      ponLinks := plant.ponLinks.update link.id (fun r => { r with active := false }) fun _ => rfl }

def applySplitterCascade (plant : Plant) (e : FiberAccessAttachmentPreview) :
    Except String Plant :=
  match e.action with
  | .attach => do
    let target ← orRefuse e.targetSplitterPortId "approved cascade attachment has no target input"
    return { plant with
      cascades := plant.cascades.insert (fun i => ⟨i, e.subjectId, target, true⟩) fun _ => rfl }
  | .detach => do
    let link ← orRefuse (plant.activeCascades.find? (·.upstreamOutputPortId = e.subjectId))
      "splitter cascade changed before execution"
    return { plant with
      cascades := plant.cascades.update link.id (fun r => { r with active := false }) fun _ => rfl }

def applyOntOutput (plant : Plant) (e : FiberAccessAttachmentPreview) : Except String Plant := do
  let _ ← orRefuse (plant.onts.get? e.subjectId) "ONT not found"
  return { plant with onts := plant.onts.update e.subjectId (fun ont => { ont with
    splitterPortId := e.targetSplitterPortId
    splitterId := e.targetSplitterPortId.map fun _ => e.splitterId }) fun _ => rfl }

def applyAttachment (plant : Plant) (e : FiberAccessAttachmentPreview) : Except String Plant :=
  match e.attachmentType with
  | .ponInput => applyPonInput plant e
  | .splitterCascade => applySplitterCascade plant e
  | .ontOutput => applyOntOutput plant e

def Plant.Unique (plant : Plant) : Prop :=
  (plant.ponLinks.rows.map (·.ponPortId)).Nodup ∧
    (plant.activePonLinks.map (·.splitterPortId)).Nodup ∧
    (plant.activeCascades.map (·.upstreamOutputPortId)).Nodup ∧
    (plant.activeCascades.map (·.downstreamInputPortId)).Nodup

instance (plant : Plant) : Decidable plant.Unique := by
  unfold Plant.Unique
  infer_instance

/-- An approved decision is applied if its inputs are unchanged, and closed otherwise. -/
def execute (inv : Inventory) (s : State) (decisionId : ℕ) (executedBy : String) :
    Except String State := do
  let actor ← requiredText executedBy "executed_by" 160
  let d ← orRefuse (s.decisions.get? decisionId) "access attachment decision not found"
  if d.status = .applied ∨ d.status = .closed then return s
  ensure (d.status = .approved) "attachment decision is not approved"
  match revalidate inv s.plant d with
  | .error _ => return setDecision s { d with
      status := .closed, executedBy := some actor
      closedReason := some "authoritative_attachment_inputs_changed" }
  | .ok () => do
    let plant ← applyAttachment s.plant d.evidence
    if plant.Unique then
      return { setDecision s { d with status := .applied, executedBy := some actor } with plant }
    else return setDecision s { d with
      status := .closed, executedBy := some actor
      closedReason := some "canonical_attachment_conflict" }

inductive Command
  | propose (attachmentType : AttachmentType) (action : Action) (subjectId : ℕ)
      (target : Option ℕ) (proposedBy reason : String)
  | approve (decisionId : ℕ) (reviewedBy reviewNotes : String)
  | decline (decisionId : ℕ) (reviewedBy reviewNotes : String)
  | execute (decisionId : ℕ) (executedBy : String)

/-- One command of the reviewed workflow. -/
def step (inv : Inventory) (digest : Digest) (s : State) : Command → Except String State
  | .propose attachmentType action subjectId target proposedBy reason =>
    propose inv digest s attachmentType action subjectId target proposedBy reason
  | .approve decisionId reviewedBy reviewNotes => approve inv s decisionId reviewedBy reviewNotes
  | .decline decisionId reviewedBy reviewNotes => decline s decisionId reviewedBy reviewNotes
  | .execute decisionId executedBy => execute inv s decisionId executedBy

def State.bare (onts : Table OntUnit) : State where
  plant := {
    onts := onts.map (fun ont => { ont with splitterPortId := none, splitterId := none }) fun _ => rfl
    ponLinks := .empty
    cascades := .empty }
  decisions := .empty

end DotmacSub.SplitterPlant
