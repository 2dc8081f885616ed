import DotmacSub.Core.DepthFirst
import Mathlib.Data.List.Sort

/-!
# Declared forwarding topology

The graph of `network/forwarding_topology.py`: the errors of a set of declarations, the projection
of the declarations that the observations agree with, and the declared path toward a core or border
device.  With it, the walks of `topology/affected.py` over that graph.
-/

namespace DotmacSub.Topology

open BreadthFirst

inductive NodeRole
  | access
  | aggregation
  | distribution
  | core
  | border
  | nas
deriving DecidableEq

/-- One side of a declared path. -/
structure Endpoint where
  deviceId : ℕ
  popSiteId : ℕ
  role : NodeRole
deriving DecidableEq

/-- The payload of a declaration.  A path of a border peer ends outside and has no upstream. -/
structure Declaration where
  pathKey : String
  downstream : Endpoint
  upstream : Option Endpoint
  vrfName : String
  preference : ℕ
deriving DecidableEq

inductive EvidenceState
  | agreement
  | missingObservation
  | drift
  | invalidDeclaration
deriving DecidableEq

/-- A declaration, and what the observations say of it. -/
structure ReportRow where
  declarationId : ℕ
  payload : Declaration
  evidenceState : EvidenceState
deriving DecidableEq

inductive GraphError
  | duplicatePathKey (pathKey : String)
  | duplicateDownstreamPreference (deviceId preference : ℕ) (vrfName : String)
  | conflictingDeviceRole (deviceId : ℕ) (roles : Finset NodeRole)
  | conflictingDeviceSite (deviceId : ℕ) (sites : Finset ℕ)
  | forwardingCycle (deviceId : ℕ) (vrfName : String)
deriving DecidableEq

/-- What the scan of the declarations has met; the roles and sites last seen come first. -/
structure GraphScan where
  errors : List GraphError := []
  pathKeys : List String := []
  preferences : List (ℕ × String × ℕ) := []
  roles : List (ℕ × NodeRole) := []
  sites : List (ℕ × ℕ) := []

def GraphScan.device (scan : GraphScan) (e : Endpoint) : GraphScan :=
  let roleErrors := match scan.roles.lookup e.deviceId with
    | some role => if role ≠ e.role then [.conflictingDeviceRole e.deviceId {role, e.role}] else []
    | none => []
  let siteErrors := match scan.sites.lookup e.deviceId with
    | some site =>
      if site ≠ e.popSiteId then [.conflictingDeviceSite e.deviceId {site, e.popSiteId}] else []
    | none => []
  { scan with
    errors := scan.errors ++ roleErrors ++ siteErrors
    roles := (e.deviceId, e.role) :: scan.roles
    sites := (e.deviceId, e.popSiteId) :: scan.sites }

def GraphScan.declaration (scan : GraphScan) (payload : Declaration) : GraphScan :=
  let preferenceKey := (payload.downstream.deviceId, payload.vrfName, payload.preference)
  let keyErrors := if payload.pathKey ∈ scan.pathKeys
    then [.duplicatePathKey payload.pathKey] else []
  let preferenceErrors := if preferenceKey ∈ scan.preferences
    then [.duplicateDownstreamPreference payload.downstream.deviceId payload.preference
      payload.vrfName] else []
  let scanned : GraphScan := { scan with
    errors := scan.errors ++ keyErrors ++ preferenceErrors
    pathKeys := payload.pathKey :: scan.pathKeys
    preferences := preferenceKey :: scan.preferences }
  payload.upstream.toList.foldl GraphScan.device (scanned.device payload.downstream)

def Declaration.preferenceKey (p : Declaration) : ℕ × String × ℕ :=
  (p.downstream.deviceId, p.vrfName, p.preference)

def GraphScan.keys (scan : GraphScan) (payload : Declaration) : GraphScan :=
  { scan with
    errors := scan.errors ++
      (if payload.pathKey ∈ scan.pathKeys then [.duplicatePathKey payload.pathKey] else []) ++
      if payload.preferenceKey ∈ scan.preferences then
        [.duplicateDownstreamPreference payload.downstream.deviceId payload.preference
          payload.vrfName] else []
    pathKeys := payload.pathKey :: scan.pathKeys
    preferences := payload.preferenceKey :: scan.preferences }

def parents (payloads : List Declaration) (vrfName : String) (deviceId : ℕ) : List ℕ :=
  ((payloads.filter fun p => p.downstream.deviceId = deviceId ∧ p.vrfName = vrfName).filterMap
    fun p => p.upstream.map Endpoint.deviceId).dedup

/-- The devices with a declared upstream, each with the VRF. -/
def starts (payloads : List Declaration) : List (ℕ × String) :=
  ((payloads.filter fun p => p.upstream.isSome).map
    fun p => (p.downstream.deviceId, p.vrfName)).dedup

def devices (payloads : List Declaration) : Finset ℕ :=
  (payloads.flatMap fun p =>
    p.downstream.deviceId :: p.upstream.toList.map Endpoint.deviceId).toFinset

/-- Does the search over the declared upstreams come back to its own path? -/
def containsForwardingCycle (payloads : List Declaration) (start : ℕ) (vrfName : String) : Bool :=
  DepthFirst.reports (parents payloads vrfName) (devices payloads) start

/-- The errors, each once; the digests they are ordered by are left out. -/
def graphErrors (payloads : List Declaration) : Finset GraphError :=
  let scan : GraphScan := payloads.foldl GraphScan.declaration {}
  let cycles := (starts payloads).filter fun s => containsForwardingCycle payloads s.1 s.2
  (scan.errors ++ cycles.map fun s => GraphError.forwardingCycle s.1 s.2).toFinset

structure ForwardingGraph where
  upstreamByDownstream : List (ℕ × ℕ)
  declarationByDownstream : List (ℕ × ℕ)
  rootDeviceIds : Finset ℕ
  declarationIds : Finset ℕ

/-- A device the paths lead to. -/
def Endpoint.isRoot (e : Endpoint) : Bool := e.role = .core ∨ e.role = .border

def selected (candidates : List ReportRow) : Option ReportRow :=
  (candidates.insertionSort fun a b => a.payload.preference < b.payload.preference ∨
    (a.payload.preference = b.payload.preference ∧ a.declarationId ≤ b.declarationId)).head?

def agreeing (rows : List ReportRow) (vrfName : String) : List ReportRow :=
  rows.filter fun row => row.evidenceState = .agreement ∧ row.payload.vrfName = vrfName

/-- The agreeing declarations of the edges that leave a device. -/
def candidatesOf (rows : List ReportRow) (vrfName : String) (deviceId : ℕ) : List ReportRow :=
  (agreeing rows vrfName).filter fun row =>
    row.payload.upstream.isSome ∧ row.payload.downstream.deviceId = deviceId

def downstreamDevices (rows : List ReportRow) (vrfName : String) : List ℕ :=
  (((agreeing rows vrfName).filter fun row => row.payload.upstream.isSome).map
    fun row => row.payload.downstream.deviceId).dedup

def primaryEdge (rows : List ReportRow) (vrfName : String) (deviceId : ℕ) : Option (ℕ × ℕ) := do
  let row ← selected (candidatesOf rows vrfName deviceId)
  let upstream ← row.payload.upstream
  return (upstream.deviceId, row.declarationId)

/-- The core and border devices that the agreeing declarations name. -/
def rootDevices (rows : List ReportRow) (vrfName : String) : List ℕ :=
  (((agreeing rows vrfName).flatMap fun row =>
    row.payload.downstream :: row.payload.upstream.toList).filter Endpoint.isRoot).map
      Endpoint.deviceId

/-- Only declared primary edges that the observations agree with. -/
def projectAuthoritativeForwardingGraph (rows : List ReportRow) (vrfName : String := "main") :
    ForwardingGraph :=
  let edges := (downstreamDevices rows vrfName).filterMap fun d =>
    (primaryEdge rows vrfName d).map fun edge => (d, edge)
  { upstreamByDownstream := edges.map fun e => (e.1, e.2.1)
    declarationByDownstream := edges.map fun e => (e.1, e.2.2)
    rootDeviceIds := (rootDevices rows vrfName).toFinset
    declarationIds := (edges.map fun e => e.2.2).toFinset }

namespace ForwardingGraph

def upstream (graph : ForwardingGraph) (deviceId : ℕ) : Option ℕ :=
  graph.upstreamByDownstream.lookup deviceId

def joined (graph : ForwardingGraph) (deviceId : ℕ) : List ℕ :=
  (graph.upstreamByDownstream.filter (·.1 = deviceId)).map Prod.snd ++
    (graph.upstreamByDownstream.filter (·.2 = deviceId)).map Prod.fst

def adjacency (graph : ForwardingGraph) (deviceId : ℕ) : Finset ℕ :=
  (graph.joined deviceId).toFinset

def nodes (graph : ForwardingGraph) : Finset ℕ :=
  (graph.upstreamByDownstream.flatMap fun e => [e.1, e.2]).toFinset

end ForwardingGraph

/-- The hops from a device upward, up to the first root. -/
def upstreamHops (graph : ForwardingGraph) : ℕ → ℕ → List ℕ → List ℕ
  | 0, _, _ => []
  | hops + 1, current, seen =>
    match graph.upstream current with
    | none => []
    | some upstream =>
      if upstream ∈ seen then []
      else if upstream ∈ graph.rootDeviceIds then [upstream]
      else upstream :: upstreamHops graph hops upstream (upstream :: seen)

/-- The declared path toward a core or border device, if it gets there. -/
def resolveAuthoritativeUpstreamChain (graph : ForwardingGraph) (accessDeviceId : ℕ)
    (maximumHops : ℕ := 16) : List ℕ :=
  let chain := upstreamHops graph maximumHops accessDeviceId [accessDeviceId]
  if ∃ last ∈ chain.getLast?, last ∈ graph.rootDeviceIds then chain else []

/-- The order in which the sets of a graph are gone through. -/
structure Listing (graph : ForwardingGraph) where
  neighbours : ℕ → List ℕ
  roots : List ℕ
  mem_neighbours : ∀ x y, y ∈ neighbours x ↔ y ∈ graph.adjacency x
  mem_roots : ∀ x, x ∈ roots ↔ x ∈ graph.rootDeviceIds

def declaredListing (rows : List ReportRow) (vrfName : String) :
    Listing (projectAuthoritativeForwardingGraph rows vrfName) where
  neighbours := (projectAuthoritativeForwardingGraph rows vrfName).joined
  roots := rootDevices rows vrfName
  mem_neighbours _ _ := List.mem_toFinset.symm
  mem_roots _ := List.mem_toFinset.symm

variable {graph : ForwardingGraph}

/-- The distance from the nearest root. -/
def distToCore (listing : Listing graph) : List (ℕ × ℕ) :=
  searchFrom listing.neighbours (enough graph.nodes listing.roots) listing.roots

/-- Both distances are known, and the second is larger. -/
def awayFromCore (dist : List (ℕ × ℕ)) (x y : ℕ) : Bool :=
  match dist.lookup x, dist.lookup y with
  | some a, some b => a < b
  | _, _ => false

/-- The device and what is reached from it strictly away from the core. -/
def downstreamNodes (listing : Listing graph) (root : ℕ) : Finset ℕ :=
  let away := fun x => (listing.neighbours x).filter (awayFromCore (distToCore listing) x)
  ((searchFrom away (enough graph.nodes [root]) [root]).map Prod.fst).toFinset

end DotmacSub.Topology
