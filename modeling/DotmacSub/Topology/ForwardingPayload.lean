import DotmacSub.Core.Checked
import DotmacSub.Core.Text
import DotmacSub.Topology.Forwarding
import Mathlib.Data.String.Basic

/-!
# Payloads of forwarding declarations

`_normalize_payload` of `network/forwarding_topology.py`: a JSON object becomes a payload of one of
three kinds or is refused, with the message of the first check that fails.  How identifiers,
integers and addresses are read is a parameter.
-/

namespace DotmacSub.Topology

open Checked

/-- Why a forwarding command is refused; of a graph error the message lists the codes. -/
inductive ForwardingTopologyError
  | text (message : String)
  | invariantFailed (errors : Finset GraphError)
deriving DecidableEq

inductive PayloadValue
  | null
  | bool (value : Bool)
  | int (value : ℤ)
  | text (value : String)
deriving DecidableEq

namespace PayloadValue

def str : PayloadValue → String
  | null => "None"
  | bool value => if value then "True" else "False"
  | int value => toString value
  | text value => value

/-- The trimmed text of a value, of a falsy one the empty text. -/
def trimmed : PayloadValue → String
  | null => ""
  | bool value => if value then "True" else ""
  | int value => if value = 0 then "" else toString value
  | text value => Text.strip value

def isBlank (value : PayloadValue) : Bool := value = null ∨ Text.strip value.str = ""

end PayloadValue

/-- The JSON object of a payload, in the order of its keys. -/
abbrev RawPayload := List (String × PayloadValue)

/-- How the standard library reads identifiers, integers, addresses and prefixes, and writes
identifiers. -/
structure Readers where
  uuid : String → Option ℕ
  uuidText : ℕ → String
  integer : String → Option ℤ
  ipAddress : String → Option String
  ipNetwork : String → Option String

inductive PathKind
  | internal
  | borderPeer
  | nasTermination
deriving DecidableEq

inductive ConfigurationOwner
  | controlPlaneIntent
  | routerosSot
deriving DecidableEq

/-- A payload; its ends are whole by construction. -/
structure ForwardingPayload extends Declaration where
  pathKind : PathKind
  downstreamInterfaceId : ℕ
  upstreamInterfaceId : Option ℕ
  peerIp : Option String
  peerAsn : Option ℕ
  routePrefix : Option String
  nextHopIp : Option String
  nasDeviceId : Option ℕ
  configurationOwner : ConfigurationOwner
  configurationIntentRef : String
deriving DecidableEq

def PathKind.parse : String → Option PathKind
  | "internal" => some internal
  | "border_peer" => some borderPeer
  | "nas_termination" => some nasTermination
  | _ => none

def PathKind.value : PathKind → String
  | internal => "internal"
  | borderPeer => "border_peer"
  | nasTermination => "nas_termination"

def NodeRole.parse : String → Option NodeRole
  | "access" => some access
  | "aggregation" => some aggregation
  | "distribution" => some distribution
  | "core" => some core
  | "border" => some border
  | "nas" => some nas
  | _ => none

def NodeRole.value : NodeRole → String
  | access => "access"
  | aggregation => "aggregation"
  | distribution => "distribution"
  | core => "core"
  | border => "border"
  | nas => "nas"

def ConfigurationOwner.parse : String → Option ConfigurationOwner
  | "network.control_plane_intent" => some controlPlaneIntent
  | "network.routeros_sot" => some routerosSot
  | _ => none

def ConfigurationOwner.value : ConfigurationOwner → String
  | controlPlaneIntent => "network.control_plane_intent"
  | routerosSot => "network.routeros_sot"

def requiredText (value : PayloadValue) (field : String) (limit : ℕ) :
    Except ForwardingTopologyError String := do
  let normalized := value.trimmed
  ensure (normalized ≠ "") (.text (field ++ " is required"))
  ensure (normalized.length ≤ limit)
    (.text (field ++ " must be at most " ++ toString limit ++ " characters"))
  return normalized

def choice {α : Type} (parse : String → Option α) (value : PayloadValue) (field : String) :
    Except ForwardingTopologyError α :=
  orRefuse (parse value.trimmed.toLower) (.text (field ++ " is unsupported"))

/-- An identifier.  One that is absent is refused here and not, with the same message, when its
device is loaded. -/
def requiredUuid (readers : Readers) (value : PayloadValue) (field : String) :
    Except ForwardingTopologyError ℕ :=
  orRefuse (if value = .null then none else readers.uuid value.str)
    (.text (field ++ " must be a UUID"))

def optional {α : Type} (read : PayloadValue → Except ForwardingTopologyError α)
    (value : PayloadValue) : Except ForwardingTopologyError (Option α) :=
  if value.isBlank then .ok none else some <$> read value

def positiveInt (readers : Readers) (value : PayloadValue) (field : String) :
    Except ForwardingTopologyError ℕ := do
  let refusal := ForwardingTopologyError.text (field ++ " must be a positive integer")
  ensure (∀ b, value ≠ .bool b) refusal
  let normalized ← orRefuse (readers.integer value.str) refusal
  ensure (1 ≤ normalized) refusal
  return normalized.toNat

def asn (readers : Readers) (field : String) (value : PayloadValue) :
    Except ForwardingTopologyError ℕ := do
  let normalized ← positiveInt readers value field
  ensure (normalized ≤ 4294967295) (.text (field ++ " must be a 32-bit ASN"))
  return normalized

def ipAddress (readers : Readers) (field : String) (value : PayloadValue) :
    Except ForwardingTopologyError String :=
  orRefuse (readers.ipAddress (Text.strip value.str)) (.text (field ++ " must be an IP address"))

def ipPrefix (readers : Readers) (field : String) (value : PayloadValue) :
    Except ForwardingTopologyError String :=
  orRefuse (readers.ipNetwork (Text.strip value.str)) (.text (field ++ " must be an IP prefix"))

def allowedFields : List String :=
  ["path_key", "path_kind", "downstream_device_id", "downstream_interface_id",
    "downstream_pop_site_id", "downstream_role", "upstream_device_id", "upstream_interface_id",
    "upstream_pop_site_id", "upstream_role", "vrf_name", "peer_ip", "peer_asn", "route_prefix",
    "next_hop_ip", "nas_device_id", "preference", "configuration_owner",
    "configuration_intent_ref"]

def RawPayload.get (raw : RawPayload) (field : String) (default : PayloadValue := .null) :
    PayloadValue :=
  (raw.lookup field).getD default

/-- The checks that depend on the kind of a declaration. -/
def checkKind (kind : PathKind) (downstreamRole : NodeRole) (allUpstream anyUpstream : Bool)
    (peerIp routePrefix nextHopIp : Option String) (peerAsn nasDeviceId : Option ℕ) :
    Except ForwardingTopologyError Unit :=
  match kind with
  | .internal => do
    ensure (allUpstream = true)
      (.text "internal paths require exact upstream device, interface, site, and role")
    ensure (peerIp = none ∧ peerAsn = none ∧ routePrefix = none ∧ nextHopIp = none ∧
      nasDeviceId = none) (.text "internal paths cannot declare peer, route, or NAS fields")
  | .borderPeer => do
    ensure (anyUpstream = false ∧ nasDeviceId = none)
      (.text "border_peer paths terminate at an external peer, not a Sub device or NAS")
    ensure (downstreamRole = .border) (.text "border_peer downstream_role must be border")
    ensure (peerIp.isSome ∧ peerAsn.isSome ∧ routePrefix.isSome ∧ nextHopIp.isSome)
      (.text "border_peer paths require exact peer, ASN, route, and next hop")
  | .nasTermination => do
    ensure (allUpstream = true)
      (.text "nas_termination paths require exact upstream device, interface, site, and role")
    ensure (downstreamRole = .nas) (.text "nas_termination downstream_role must be nas")
    ensure nasDeviceId.isSome (.text "nas_termination paths require exact nas_device_id")
    ensure (peerIp = none ∧ peerAsn = none)
      (.text "nas_termination paths cannot declare an external BGP peer")
    ensure (routePrefix.isSome ∧ nextHopIp.isSome)
      (.text "nas_termination paths require exact route and next hop")

def upstreamEnd (deviceId popSiteId : Option ℕ) (role : Option NodeRole) : Option Endpoint := do
  return { deviceId := ← deviceId, popSiteId := ← popSiteId, role := ← role }

/-- A declaration after its checks, in their order. -/
def normalizePayload (readers : Readers) (raw : RawPayload) :
    Except ForwardingTopologyError ForwardingPayload := do
  let unknown := (raw.map Prod.fst).filter (· ∉ allowedFields)
  ensure (unknown = []) (.text ("unsupported forwarding declaration fields: " ++
    String.intercalate ", " (unknown.insertionSort (· ≤ ·))))
  let configurationIntentRef ← requiredText (raw.get "configuration_intent_ref")
    "configuration_intent_ref" 255
  let configurationOwner ← choice ConfigurationOwner.parse (raw.get "configuration_owner")
    "configuration_owner"
  let downstreamDeviceId ← requiredUuid readers (raw.get "downstream_device_id")
    "downstream_device_id"
  let downstreamInterfaceId ← requiredUuid readers (raw.get "downstream_interface_id")
    "downstream_interface_id"
  let downstreamPopSiteId ← requiredUuid readers (raw.get "downstream_pop_site_id")
    "downstream_pop_site_id"
  let downstreamRole ← choice NodeRole.parse (raw.get "downstream_role") "downstream_role"
  let nasDeviceId ← optional (requiredUuid readers · "nas_device_id") (raw.get "nas_device_id")
  let nextHopIp ← optional (ipAddress readers "next_hop_ip") (raw.get "next_hop_ip")
  let pathKey ← requiredText (raw.get "path_key") "path_key" 120
  let pathKind ← choice PathKind.parse (raw.get "path_kind") "path_kind"
  let peerAsn ← optional (asn readers "peer_asn") (raw.get "peer_asn")
  let peerIp ← optional (ipAddress readers "peer_ip") (raw.get "peer_ip")
  let preference ← positiveInt readers (raw.get "preference" (.int 100)) "preference"
  let routePrefix ← optional (ipPrefix readers "route_prefix") (raw.get "route_prefix")
  let upstreamDeviceId ← optional (requiredUuid readers · "upstream_device_id")
    (raw.get "upstream_device_id")
  let upstreamInterfaceId ← optional (requiredUuid readers · "upstream_interface_id")
    (raw.get "upstream_interface_id")
  let upstreamPopSiteId ← optional (requiredUuid readers · "upstream_pop_site_id")
    (raw.get "upstream_pop_site_id")
  let upstreamRole ← optional (choice NodeRole.parse · "upstream_role") (raw.get "upstream_role")
  let vrfName ← requiredText (raw.get "vrf_name" (.text "main")) "vrf_name" 120
  let allUpstream := upstreamDeviceId.isSome && upstreamInterfaceId.isSome &&
    upstreamPopSiteId.isSome && upstreamRole.isSome
  let anyUpstream := upstreamDeviceId.isSome || upstreamInterfaceId.isSome ||
    upstreamPopSiteId.isSome || upstreamRole.isSome
  checkKind pathKind downstreamRole allUpstream anyUpstream peerIp routePrefix nextHopIp peerAsn
    nasDeviceId
  ensure (upstreamDeviceId ≠ some downstreamDeviceId)
    (.text "forwarding path devices must be distinct")
  return {
    pathKey, pathKind, vrfName, preference, peerIp, peerAsn, routePrefix, nextHopIp, nasDeviceId
    configurationOwner, configurationIntentRef, downstreamInterfaceId, upstreamInterfaceId
    downstream := ⟨downstreamDeviceId, downstreamPopSiteId, downstreamRole⟩
    upstream := upstreamEnd upstreamDeviceId upstreamPopSiteId upstreamRole }

/-- The JSON object of a stored payload. -/
def ForwardingPayload.toRaw (readers : Readers) (payload : ForwardingPayload) : RawPayload :=
  let id (value : Option ℕ) : PayloadValue :=
    (value.map fun i => .text (readers.uuidText i)).getD .null
  let text (value : Option String) : PayloadValue := (value.map PayloadValue.text).getD .null
  let upstream := payload.upstream
  [("configuration_intent_ref", .text payload.configurationIntentRef),
    ("configuration_owner", .text payload.configurationOwner.value),
    ("downstream_device_id", id (some payload.downstream.deviceId)),
    ("downstream_interface_id", id (some payload.downstreamInterfaceId)),
    ("downstream_pop_site_id", id (some payload.downstream.popSiteId)),
    ("downstream_role", .text payload.downstream.role.value),
    ("nas_device_id", id payload.nasDeviceId),
    ("next_hop_ip", text payload.nextHopIp),
    ("path_key", .text payload.pathKey),
    ("path_kind", .text payload.pathKind.value),
    ("peer_asn", (payload.peerAsn.map fun n => .int n).getD .null),
    ("peer_ip", text payload.peerIp),
    ("preference", .int payload.preference),
    ("route_prefix", text payload.routePrefix),
    ("upstream_device_id", id (upstream.map Endpoint.deviceId)),
    ("upstream_interface_id", id payload.upstreamInterfaceId),
    ("upstream_pop_site_id", id (upstream.map Endpoint.popSiteId)),
    ("upstream_role", text (upstream.map fun e => e.role.value)),
    ("vrf_name", .text payload.vrfName)]

end DotmacSub.Topology
