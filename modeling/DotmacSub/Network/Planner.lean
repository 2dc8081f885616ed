import DotmacSub.Core.Text
import DotmacSub.Network.ReconcileState

/-!
# The ONT planner

`compute_plan` of `network/reconcile/planner.py`: desired against observed state, as an ordered list
of actions.  A helper that appends to the lists of its caller returns what it appends
(`Emitted`), and the conditions of the source that several helpers share have names of their own.
-/

namespace DotmacSub.Network

open Text

/-- What a planning helper appends to the actions and the drifts. -/
structure Emitted where
  actions : List Action := []
  drifts : List Drift := []

namespace Emitted

instance : Append Emitted := ⟨fun a b => ⟨a.actions ++ b.actions, a.drifts ++ b.drifts⟩⟩

def when (p : Prop) [Decidable p] (e : Emitted) : Emitted := if p then e else {}

@[simp] lemma actions_append (a b : Emitted) : (a ++ b).actions = a.actions ++ b.actions := rfl

@[simp] lemma actions_when (p : Prop) [Decidable p] (e : Emitted) :
    (when p e).actions = if p then e.actions else [] := by
  unfold when
  split_ifs <;> rfl

@[simp] lemma drifts_append (a b : Emitted) : (a ++ b).drifts = a.drifts ++ b.drifts := rfl

@[simp] lemma drifts_when (p : Prop) [Decidable p] (e : Emitted) :
    (when p e).drifts = if p then e.drifts else [] := by
  unfold when
  split_ifs <;> rfl

end Emitted

/-! ## Python truthiness -/

/-- `value or fallback`, for a string. -/
def orText (value : Option String) (fallback : String) : String :=
  match value with
  | none => fallback
  | some v => if v = "" then fallback else v

/-- `value or other`, for two optional strings. -/
def orElseText (value other : Option String) : Option String :=
  if value = none ∨ value = some "" then other else value

/-- `value or fallback`, for an integer. -/
def orNumber (value : Option ℤ) (fallback : ℤ) : ℤ :=
  match value with
  | none => fallback
  | some v => if v = 0 then fallback else v

/-- An optional string that is neither absent nor empty. -/
def truthy (value : Option String) : Bool := value ≠ none ∧ value ≠ some ""

def observedDiffers {α : Type} [DecidableEq α] (observed desired : Option α) : Bool :=
  observed ≠ none ∧ observed ≠ desired

def oltDrift (field : String) (desired observed : DesiredScalar) (repairable : Bool := true) :
    Drift :=
  ⟨field, .olt, .scalar desired, .scalar observed, repairable⟩

def acsDrift (field : String) (desired observed : DesiredScalar) (repairable : Bool := true) :
    Drift :=
  ⟨field, .acs, .scalar desired, .scalar observed, repairable⟩

/-- The fields a narrow WiFi edit may touch. -/
def wifiOnlyFields : Finset String :=
  {"wifi_ssid", "wifi_password_ref", "wifi_enabled", "wifi_channel", "wifi_security_mode"}

def remoteAccessOnlyFields : Finset String :=
  {"wan_remote_access_enabled", "wan_remote_access_expires_at", "wan_remote_access_source_cidrs",
    "wan_remote_access_ssh_port"}

def wanOnlyFields : Finset String :=
  {"wan_mode", "wan_pppoe_username", "wan_pppoe_password_ref", "wan_pppoe_wcd_index",
    "wan_static_ip", "wan_static_subnet", "wan_static_gateway", "wan_static_dns",
    "wan_static_ip_is_public", "ipv6_enabled"}

def acsEndpointFields : Finset String := {"acs_url", "acs_username", "acs_password_ref"}

def tr069ProfileOnlyFields : Finset String := {"tr069_profile_id"}

def isWifiOnlyChange (mode : ReconcileMode) (proposed : Finset String) : Bool :=
  (mode = .sync ∨ mode = .sweep ∨ mode = .bootstrap) ∧ proposed ≠ ∅ ∧ proposed ⊆ wifiOnlyFields

def isRemoteAccessOnlyChange (mode : ReconcileMode) (proposed : Finset String) : Bool :=
  mode = .sync ∧ proposed ≠ ∅ ∧ proposed ⊆ remoteAccessOnlyFields

def isWanOnlyChange (mode : ReconcileMode) (proposed : Finset String) : Bool :=
  mode = .sync ∧ proposed ≠ ∅ ∧ proposed ⊆ wanOnlyFields

def isTr069ProfileOnlyChange (mode : ReconcileMode) (proposed : Finset String) : Bool :=
  mode = .sync ∧ proposed ≠ ∅ ∧ proposed ⊆ tr069ProfileOnlyFields

/-! ## OLT-side planning -/

section Olt

variable (desired : OntDesiredState) (observed : OntObservedState)

/-- The TR-069 profile is one the OLT would apply. -/
def tr069Deliverable : Bool := isDeliverable "tr069_profile_id" (.number desired.tr069ProfileId)

def tr069Binding : Action :=
  .oltTr069ServerConfig desired.fsp desired.oltOntId desired.tr069ProfileId

def tr069ProfileDiffers : Bool :=
  tr069Deliverable desired ∧ observed.olt.oltTr069ProfileId ≠ some desired.tr069ProfileId

def planTr069ProfileOnly : Emitted :=
  .when (tr069ProfileDiffers desired observed) {
    actions := [tr069Binding desired]
    drifts := [oltDrift "olt_tr069_profile_id" (.number desired.tr069ProfileId)
      (.ofNumber observed.olt.oltTr069ProfileId)] }

/-- Both profile bindings of an authorization are set. -/
def authorizable : Bool :=
  isDeliverable "line_profile_id" (.number desired.lineProfileId) ∧
    isDeliverable "service_profile_id" (.number desired.serviceProfileId)

def authorization : Action :=
  .oltAuthorize desired.fsp desired.oltOntId desired.lineProfileId desired.serviceProfileId
    desired.serialNumber desired.description

/-- Authorize an absent ONT, or record that nobody supplied its profiles. -/
def planAbsent : Emitted where
  actions := if authorizable desired then [authorization desired] else []
  drifts := [oltDrift "olt_present" (.flag true) (.flag false) (authorizable desired)]

/-- What is planned for an ONT that the OLT knows. -/
def planPresent : Emitted :=
  .when (isDeliverable "line_profile_id" (.number desired.lineProfileId) ∧
      observedDiffers observed.olt.oltLineProfileId (some desired.lineProfileId)) {
    actions := [.oltModifyLineProfile desired.fsp desired.oltOntId desired.lineProfileId]
    drifts := [oltDrift "olt_line_profile_id" (.number desired.lineProfileId)
      (.ofNumber observed.olt.oltLineProfileId)] } ++
  .when (isDeliverable "service_profile_id" (.number desired.serviceProfileId) ∧
      observedDiffers observed.olt.oltServiceProfileId (some desired.serviceProfileId)) {
    actions := [.oltModifyServiceProfile desired.fsp desired.oltOntId desired.serviceProfileId]
    drifts := [oltDrift "olt_service_profile_id" (.number desired.serviceProfileId)
      (.ofNumber observed.olt.oltServiceProfileId)] } ++
  .when (observedDiffers observed.olt.oltDescription (some desired.description)) {
    actions := [.oltModifyDescription desired.fsp desired.oltOntId desired.description]
    drifts := [oltDrift "olt_description" (.text desired.description)
      (.ofText observed.olt.oltDescription)] } ++
  .when (tr069Deliverable desired ∧
      observedDiffers observed.olt.oltTr069ProfileId (some desired.tr069ProfileId)) {
    actions := [tr069Binding desired]
    drifts := [oltDrift "olt_tr069_profile_id" (.number desired.tr069ProfileId)
      (.ofNumber observed.olt.oltTr069ProfileId)] }

/-- The entries of the OLT that are no desired port. -/
def stalePorts : List ServicePort :=
  observed.olt.oltServicePorts.filter fun sp => sp.index ≠ none ∧
    sp.index ≠ desired.mgmtServicePortIndex ∧ sp.index ≠ desired.wanServicePortIndex

/-- What a stale port was for, recovered from its VLAN. -/
def slotOf (sp : ServicePort) : String :=
  if sp.vlanId = none then "unknown"
  else if sp.vlanId = desired.mgmtVlan then "mgmt"
  else if sp.vlanId = desired.wanVlan then "wan"
  else "unknown"

def portObserved (index : ℤ) : Bool := ∃ sp ∈ observed.olt.oltServicePorts, sp.index = some index

def planStalePorts : Emitted where
  actions := (stalePorts desired observed).map fun sp =>
    .oltDeleteServicePort (sp.index.getD 0) (slotOf desired sp)
  drifts := (stalePorts desired observed).map fun sp =>
    ⟨"olt_service_ports[" ++ toString (sp.index.getD 0) ++ "]", .olt, .scalar .none, .port sp, true⟩

/-- Create a missing management port. -/
def planMgmtServicePort : Emitted :=
  match desired.mgmtServicePortIndex, desired.mgmtVlan with
  | some index, some vlan => .when (portObserved observed index = false)
      { actions := [.oltCreateServicePort desired.fsp desired.oltOntId index vlan 2 "mgmt"] }
  | _, _ => {}

/-- Create a missing WAN port without treating other ports as disposable. -/
def planWanServicePort : Emitted :=
  match desired.wanServicePortIndex, desired.wanVlan with
  | some index, some vlan => .when (portObserved observed index = false ∧
        isDeliverable "wan_vlan" (.number vlan) ∧ desired.wanMode = .pppoe)
      { actions := [.oltCreateServicePort desired.fsp desired.oltOntId index vlan
          (orNumber desired.wanGemIndex 1) "wan"] }
  | _, _ => {}

/-- Stale ports removed, missing ports created. -/
def planServicePorts : Emitted :=
  planStalePorts desired observed ++ planMgmtServicePort desired observed ++
    planWanServicePort desired observed

/-- The management IP host has to be written. -/
def iphostDiffers : Bool :=
  (observed.olt.oltMgmtIp ≠ none ∧ observed.olt.oltMgmtIp ≠ desired.mgmtIp) ∨
    (observed.olt.oltMgmtVlan ≠ none ∧ observed.olt.oltMgmtVlan ≠ desired.mgmtVlan) ∨
    observed.olt.oltPresent = false

/-- Clear the IP host at both common indices and write the new one. -/
def planIphost : Emitted :=
  match desired.mgmtVlan, desired.mgmtIp with
  | some vlan, some ip => .when (iphostDiffers desired observed) {
      actions := [.oltClearIphost desired.fsp desired.oltOntId 0,
        .oltClearIphost desired.fsp desired.oltOntId 1,
        .oltIpconfig desired.fsp desired.oltOntId 0 ip
          (orText desired.mgmtSubnetMask "255.255.255.0") (orText desired.mgmtGateway "") vlan
          desired.mgmtIphostPriority desired.mgmtDnsPrimary desired.mgmtDnsSecondary]
      drifts := [oltDrift "olt_mgmt_ip" (.text ip) (.ofText observed.olt.oltMgmtIp)] }
  | _, _ => {}

/-- The OLT half of a full plan: authorization or fields, service ports, IP host, and the binding
a fresh authorization needs. -/
def planOltSide : Emitted :=
  (if observed.olt.oltPresent then planPresent desired observed else planAbsent desired) ++
    planServicePorts desired observed ++ planIphost desired observed ++
    .when (observed.olt.oltPresent = false ∧ tr069Deliverable desired)
      { actions := [tr069Binding desired] }

/-- The WAN by OMCI, and whether it was planned. -/
def planOltOmciWan : Emitted × Bool :=
  match desired.wanConfigProfileId, desired.wanInternetConfigIpIndex, desired.wanVlan with
  | some profile, some ipIndex, some vlan =>
    if desired.wanMode ≠ .pppoe ∨ desired.wanPppoeProvisioningMethod = .tr069 ∨ profile ≤ 0 ∨
        isDeliverable "wan_vlan" (.number vlan) = false then ({}, false)
    else ({ actions := [
      .oltOmciPppoe desired.fsp desired.oltOntId ipIndex vlan (orText desired.wanPppoeUsername "")
        (orText desired.wanPppoePasswordRef ""),
      .oltOmciInternetConfig desired.fsp desired.oltOntId ipIndex,
      .oltOmciWanConfig desired.fsp desired.oltOntId ipIndex profile] }, true)
  | _, _, _ => ({}, false)

/-- A reset after actions that need one. -/
def appendResetIfNeeded (actions : List Action) : List Action :=
  if actions.any Action.requiresReset then actions ++ [.oltReset desired.fsp desired.oltOntId]
  else actions

def Emitted.withReset (e : Emitted) : Emitted :=
  { e with actions := appendResetIfNeeded desired e.actions }

end Olt

/-- Outcome of resolving the GenieACS identifier of an ONT. -/
structure AcsIdentity where
  deviceId : Option String
  waitReason : Option String
  detail : String
deriving DecidableEq

/-- A trimmed identifier, if anything is left of it. -/
def trimmedId (value : Option String) : Option String :=
  let text := strip (orText value "")
  if text = "" then none else some text

/-- The exact identifier the writes of this ONT target: recorded, or reported by the ACS itself, and
never composed. -/
def resolveAcsDeviceId (desired : OntDesiredState) (observed : OntObservedState) : AcsIdentity :=
  let persisted := trimmedId desired.acsDeviceId
  let seen := trimmedId observed.acs.deviceId
  if observed.acs.acsPresent = false then
    ⟨none, some ontNotInforming, "ONT " ++ desired.serialNumber ++
      " has no ACS device document; ACS configuration waits for the next Inform."⟩
  else if observed.acs.deviceMatchCount > 1 then
    ⟨none, some acsIdentityUnresolved, toString observed.acs.deviceMatchCount ++
      " ACS devices match serial " ++ desired.serialNumber ++
      "; refusing to guess which one to write."⟩
  else if persisted ≠ none ∧ seen ≠ none ∧ persisted ≠ seen then
    ⟨none, some acsIdentityUnresolved, "Recorded ACS device id disagrees with the id the ACS " ++
      "reports for serial " ++ desired.serialNumber ++
      "; refusing to write to either until the CPE record is repaired."⟩
  else if persisted = none ∧ seen = none then
    ⟨none, some acsIdentityUnresolved, "No recorded GenieACS device id for serial " ++
      desired.serialNumber ++ " and the ACS read returned none."⟩
  else ⟨persisted <|> seen, none, ""⟩

/-! ## WiFi and remote access paths -/

/-- Replace the first instance number that stands between the marker and a dot. -/
def retarget (marker index : List Char) : List Char → List Char
  | [] => []
  | c :: cs =>
    let rest := (c :: cs).drop marker.length
    let tail := rest.dropWhile Char.isDigit
    if marker.isPrefixOf (c :: cs) ∧ rest.head?.any Char.isDigit ∧ tail.head? = some '.' then
      marker ++ index ++ tail
    else c :: retarget marker index cs

def retargetPath (root : Option String) (index : ℤ) (path : String) : String :=
  let markers := if root = some "Device" then [".WiFi.SSID.", ".WiFi.Radio.", ".WiFi.AccessPoint."]
    else [".WLANConfiguration."]
  String.ofList (markers.foldl (fun chars marker =>
    retarget marker.toList (toString index).toList chars) path.toList)

/-- Retarget standard or model paths to the active WLAN instance. -/
def wifiPathsForInstance (paths : Tr069WifiParameterPaths) (root : Option String) (index : ℤ) :
    Tr069WifiParameterPaths :=
  if index < 1 then paths
  else {
    enabled := retargetPath root index paths.enabled
    ssid := retargetPath root index paths.ssid
    pskPath := retargetPath root index paths.pskPath
    channel := retargetPath root index paths.channel
    securityMode := retargetPath root index paths.securityMode }

def standardWifiPaths (root : Option String) : Tr069WifiParameterPaths :=
  if root = some "Device" then {
    enabled := "Device.WiFi.SSID.1.Enable"
    ssid := "Device.WiFi.SSID.1.SSID"
    pskPath := "Device.WiFi.AccessPoint.1.Security.KeyPassphrase"
    channel := "Device.WiFi.Radio.1.Channel"
    securityMode := "Device.WiFi.AccessPoint.1.Security.ModeEnabled" }
  else {
    enabled := "InternetGatewayDevice.LANDevice.1.WLANConfiguration.1.Enable"
    ssid := "InternetGatewayDevice.LANDevice.1.WLANConfiguration.1.SSID"
    pskPath := "InternetGatewayDevice.LANDevice.1.WLANConfiguration.1.PreSharedKey.1.PreSharedKey"
    channel := "InternetGatewayDevice.LANDevice.1.WLANConfiguration.1.Channel"
    securityMode := "InternetGatewayDevice.LANDevice.1.WLANConfiguration.1.BeaconType" }

def standardRemoteAccessPaths (root : Option String) : Tr069RemoteAccessParameterPaths :=
  let base := (if root = some "Device" then "Device" else "InternetGatewayDevice") ++
    ".X_HW_UserInterface"
  ⟨base ++ ".SSHEnable", base ++ ".SSHPort", base ++ ".TelnetEnable", base ++ ".TelnetPort"⟩

/-- What the Internet gateway model calls a security mode. -/
def securityModeAliases : List (String × String) :=
  [("none", "None"), ("open", "None"), ("wep", "Basic"), ("basic", "Basic"), ("wpa", "WPA"),
    ("wpa-personal", "WPA"), ("wpapsk", "WPA"), ("wpa-psk", "WPA"), ("wpa2", "11i"),
    ("wpa2-personal", "11i"), ("wpa2psk", "11i"), ("wpa2-psk", "11i"), ("11i", "11i"),
    ("wpa-wpa2", "WPAand11i"), ("wpa-wpa2-personal", "WPAand11i"), ("wpa/wpa2", "WPAand11i"),
    ("wpa2/wpa", "WPAand11i"), ("wpaand11i", "WPAand11i"), ("mixed", "WPAand11i")]

def normaliseWifiSecurityMode (value root : Option String) : Option String :=
  value.bind fun v =>
    let text := strip v
    if text = "" then none
    else if root ≠ some "InternetGatewayDevice" then some text
    else some ((securityModeAliases.lookup text.toLower).getD text)

/-- The servers of a list, one spelling for every separator. -/
def normaliseDnsServers (value : Option String) : Option String :=
  value.bind fun v =>
    let servers := (v.toList.splitOnP fun c => isSpace c ∨ c = ',').filter (· ≠ [])
    if servers = [] then none else some (String.ofList ([','].intercalate servers))

/-! ## ACS-side planning -/

def forces (force : Bool) (proposed fields : Finset String) : Bool :=
  force ∧ ∃ field ∈ fields, field ∈ proposed

section Acs

variable (desired : OntDesiredState) (observed : OntObservedState) (mode : ReconcileMode)
  (proposed : Finset String) (force : Bool) (deviceId : String)

/-- The data model of the device, as observed or else as recorded. -/
def dataModelRoot : Option String :=
  orElseText observed.acs.dataModelRoot desired.tr069DataModelRoot

/-- The child the reader took its values from. -/
def primaryObservedWanPppLocation : Option (ℤ × ℤ) :=
  match observed.acs.wanWcdIndex, observed.acs.wanInstanceIndex with
  | some wcd, some inst => some (wcd, inst)
  | _, _ => none

def observedWanPppLocations : List (ℤ × ℤ) :=
  if observed.acs.wanPppLocations ≠ [] then observed.acs.wanPppLocations
  else (primaryObservedWanPppLocation observed).toList

/-- The instance under the desired device: the primary one, else the lowest discovered. -/
def desiredWanPppInstance : Option ℤ :=
  match (primaryObservedWanPppLocation observed).filter
      fun primary => desired.wanPppoeWcdIndex = some primary.1 with
  | some primary => some primary.2
  | none => (((observedWanPppLocations observed).filter
      fun pair => desired.wanPppoeWcdIndex = some pair.1).map Prod.snd).min?

def targetWanPppLocation : Option (ℤ × ℤ) :=
  match desired.wanPppoeWcdIndex, desiredWanPppInstance desired observed with
  | some wcd, some inst => some (wcd, inst)
  | _, _ => none

/-- Duplicates, when the target is the very child the reader used. -/
def staleWanPppLocations : List (ℤ × ℤ) :=
  match targetWanPppLocation desired observed with
  | none => []
  | some target =>
    if primaryObservedWanPppLocation observed ≠ some target then []
    else (observedWanPppLocations observed).filter (· ≠ target)

def wanPppNeedsHeal : Bool :=
  observedWanPppLocations observed ≠ [] ∧
    (desiredWanPppInstance desired observed = none ∨ staleWanPppLocations desired observed ≠ [])

def wanPppDiffers : Bool :=
  observedDiffers observed.acs.pppoeUsername desired.wanPppoeUsername ∨
    observedDiffers observed.acs.wanVlan desired.wanVlan ∨ observed.acs.pppoeEnable = some false

/-- The exact readback of a modelled path table, or the lenient comparison. -/
def wanDiffers {α : Type} [DecidableEq α] (observedValue desiredValue : Option α) : Bool :=
  if desired.tr181WanPaths ≠ none ∧ dataModelRoot desired observed = some "Device"
  then observedValue ≠ desiredValue else observedDiffers observedValue desiredValue

def wanIpDiffers : Bool :=
  wanDiffers desired observed observed.acs.wanIpEnable (some true) ∨
    wanDiffers desired observed observed.acs.wanAddressingType
      (some (if desired.wanMode = .dhcp then "DHCP" else "Static")) ∨
    wanDiffers desired observed observed.acs.wanVlan desired.wanVlan ∨
    wanDiffers desired observed observed.acs.natEnabled (some desired.natEnabled) ∨
    (desired.wanMode = .static ∧
      (wanDiffers desired observed observed.acs.wanIpAddress desired.wanStaticIp ∨
        wanDiffers desired observed observed.acs.wanSubnetMask desired.wanStaticSubnet ∨
        wanDiffers desired observed observed.acs.wanGateway desired.wanStaticGateway ∨
        wanDiffers desired observed (normaliseDnsServers observed.acs.wanDnsServers)
          (normaliseDnsServers desired.wanStaticDns)))

def ipv6Differs : Bool :=
  observedDiffers observed.acs.ipv6Enabled (some desired.ipv6Enabled) ∨
    ((desired.tr069DataModelRoot = some "Device" ∨ observed.acs.dataModelRoot = some "Device") ∧
      (observedDiffers observed.acs.dhcpv6Enabled (some desired.ipv6Enabled) ∨
        observedDiffers observed.acs.dhcpv6RequestPrefixes (some desired.ipv6Enabled) ∨
        observedDiffers observed.acs.raEnabled (some desired.ipv6Enabled)))

def dhcpDiffers : Bool :=
  observedDiffers observed.acs.dhcpEnabled (some desired.dhcpEnabled) ∨
    observed.olt.oltPresent = false

def managementServerDiffers : Bool :=
  (truthy desired.acsUrl ∧ observed.acs.url ≠ desired.acsUrl) ∨
    (truthy desired.acsUrl ∧ observed.acs.username ≠ some (orText desired.acsUsername "")) ∨
    (truthy desired.acsPasswordRef ∧ observed.acs.passwordSet ≠ some true) ∨
    observed.acs.periodicInformIntervalSec ≠ some desired.periodicInformIntervalSec ∨
    observed.acs.crUsername ≠ desired.crUsername ∨ observed.acs.crPasswordSet ≠ some true

def shouldPushWifiPassword : Bool :=
  isDeliverable "wifi_password_ref" (.text desired.wifiPasswordRef) ∧
    (mode = .bootstrap ∨
      (force ∧ (mode = .sync ∨ mode = .sweep) ∧ "wifi_password_ref" ∈ proposed) ∨
      (mode = .sync ∧ observed.olt.oltPresent = false))

/-- The WAN PPP child is added if it is missing, then gets its parameters. -/
def planAcsWanPpp : Emitted :=
  match desired.wanPppoeWcdIndex, desired.wanVlan with
  | some wcd, some vlan =>
    let found := desiredWanPppInstance desired observed
    .when (isDeliverable "wan_pppoe_wcd_index" (.number wcd) ∧
        isDeliverable "wan_vlan" (.number vlan)) <|
      .when (found = none) {
        actions := [.acsAddObject deviceId ("InternetGatewayDevice.WANDevice.1." ++
          "WANConnectionDevice." ++ toString wcd ++ ".WANPPPConnection") (some wcd)]
        drifts := [acsDrift "acs_wan_ppp_instance" (.number desired.wanPppoeInstanceIndex) .none] }
      ++ .when (found = none ∨
          forces force proposed {"wan_mode", "wan_pppoe_username", "wan_pppoe_password_ref",
            "wan_pppoe_wcd_index"} ∨
          wanPppNeedsHeal desired observed ∨ wanPppDiffers desired observed) {
        actions := [.acsSetPppoe deviceId wcd (found.getD desired.wanPppoeInstanceIndex)
          (orText desired.wanPppoeUsername "") (orText desired.wanPppoePasswordRef "") vlan]
        drifts := [acsDrift "wan_pppoe_username" (.ofText desired.wanPppoeUsername)
          (.ofText observed.acs.pppoeUsername)] }
  | _, _ => {}

/-- The WAN of a DHCP or static service. -/
def planAcsWanIp : Emitted :=
  match desired.wanPppoeWcdIndex, desired.wanVlan with
  | some wcd, some vlan =>
    .when (isDeliverable "wan_pppoe_wcd_index" (.number wcd) ∧
        isDeliverable "wan_vlan" (.number vlan) ∧
        (forces force proposed {"wan_mode", "wan_pppoe_wcd_index", "wan_static_ip",
            "wan_static_subnet", "wan_static_gateway", "wan_static_dns"} ∨
          observed.olt.oltPresent = false ∨ wanIpDiffers desired observed)) {
      actions := [.acsSetWanIp deviceId
        (orText (dataModelRoot desired observed) "InternetGatewayDevice") wcd
        desired.wanPppoeInstanceIndex desired.wanMode vlan desired.natEnabled desired.wanStaticIp
        desired.wanStaticSubnet desired.wanStaticGateway desired.wanStaticDns
        desired.tr181WanPaths]
      drifts := [acsDrift "wan_ip_mode" (.text desired.wanMode.value)
        (.ofText observed.acs.wanAddressingType)] }
  | _, _ => {}

def wifiChange {α : Type} [DecidableEq α] (field : String) (scalar : α → DesiredScalar)
    (desiredValue observedValue : Option α) : Option α :=
  desiredValue.filter fun value => isDeliverable field (scalar value) ∧
    ((force ∧ field ∈ proposed) ∨ observedDiffers observedValue desiredValue ∨
      observed.olt.oltPresent = false)

def wifiDrift {α : Type} (field : String) (scalar : α → DesiredScalar)
    (change observedValue : Option α) : List Drift :=
  change.toList.map fun value => acsDrift field (scalar value) (observedValue.elim .none scalar)

/-- The paths of the WiFi write; there are standard ones for every data model. -/
def wifiPaths : Tr069WifiParameterPaths :=
  let root := dataModelRoot desired observed
  let paths := desired.wifiPaths.getD (standardWifiPaths root)
  observed.acs.wifiInstanceIndex.elim paths (wifiPathsForInstance paths root)

/-- One batched write of the WiFi fields that differ, and of the password when it is pushed. -/
def planWifi : Emitted :=
  let root := dataModelRoot desired observed
  let observedSecurity := normaliseWifiSecurityMode observed.acs.wifiSecurityMode root
  let ssid := wifiChange observed proposed force "wifi_ssid" .text (some desired.wifiSsid)
    observed.acs.ssid
  let enabled := wifiChange observed proposed force "wifi_enabled" .flag desired.wifiEnabled
    observed.acs.wifiEnabled
  let channel := wifiChange observed proposed force "wifi_channel" .number desired.wifiChannel
    observed.acs.wifiChannel
  let securityMode := wifiChange observed proposed force "wifi_security_mode" .text
    (normaliseWifiSecurityMode desired.wifiSecurityMode root) observedSecurity
  let password := shouldPushWifiPassword desired observed mode proposed force
  { actions :=
      if ssid ≠ none ∨ enabled ≠ none ∨ channel ≠ none ∨ securityMode ≠ none ∨ password then
        [.acsSetWifiConfig deviceId (wifiPaths desired observed) enabled ssid
          (if password then some desired.wifiPasswordRef else none) channel securityMode]
      else []
    drifts := wifiDrift "wifi_ssid" .text ssid observed.acs.ssid ++
      wifiDrift "wifi_enabled" .flag enabled observed.acs.wifiEnabled ++
      wifiDrift "wifi_channel" .number channel observed.acs.wifiChannel ++
      wifiDrift "wifi_security_mode" .text securityMode observedSecurity }

/-- One atomic SSH and Telnet support-access transaction. -/
def planRemoteAccess : Emitted :=
  let enabled := desired.wanRemoteAccessEnabled
  let explicitToggle := "wan_remote_access_enabled" ∈ proposed
  let strictReadback : Prop := enabled ∨ explicitToggle
  let toggle : Bool := (force ∧ explicitToggle) ∨
    if strictReadback then observed.acs.remoteSshEnabled ≠ some enabled
    else observedDiffers observed.acs.remoteSshEnabled (some enabled)
  let port : Bool := enabled ∧ observed.acs.remoteSshPort ≠ some desired.wanRemoteAccessSshPort
  let telnet : Bool := if strictReadback then observed.acs.remoteTelnetEnabled ≠ some false
    else observed.acs.remoteTelnetEnabled = some true
  .when (toggle ∨ port ∨ telnet) {
    actions := [.acsSetRemoteAccess deviceId
      (desired.remoteAccessPaths.getD (standardRemoteAccessPaths (dataModelRoot desired observed)))
      (if toggle then some enabled else none)
      (if port then some desired.wanRemoteAccessSshPort else none)
      (if telnet ∨ enabled then some false else none)]
    drifts :=
      (if toggle then [acsDrift "wan_remote_access_enabled" (.flag enabled)
        (.ofFlag observed.acs.remoteSshEnabled)] else []) ++
      (if port then [acsDrift "wan_remote_access_ssh_port" (.number desired.wanRemoteAccessSshPort)
        (.ofNumber observed.acs.remoteSshPort)] else []) ++
      (if telnet then [acsDrift "wan_remote_telnet_disabled" (.flag false)
        (.ofFlag observed.acs.remoteTelnetEnabled)] else []) }

/-- Defensive NAT on the routed WAN, and removal of its duplicate children. -/
def planNat : Emitted :=
  match desired.wanPppoeWcdIndex with
  | none => {}
  | some wcd => .when (isDeliverable "wan_pppoe_wcd_index" (.number wcd)) <|
      .when (wanPppNeedsHeal desired observed ∨
          observedDiffers observed.acs.natEnabled (some desired.natEnabled)) {
        actions := [.acsSetNatEnabled deviceId wcd
          (orNumber (desiredWanPppInstance desired observed) desired.wanPppoeInstanceIndex)
          desired.natEnabled]
        drifts := [acsDrift "nat_enabled" (.flag desired.natEnabled)
          (.ofFlag observed.acs.natEnabled)] }
      ++ { actions := (staleWanPppLocations desired observed).map fun stale =>
          .acsDeleteObject deviceId ("InternetGatewayDevice.WANDevice.1.WANConnectionDevice." ++
            toString stale.1 ++ ".WANPPPConnection." ++ toString stale.2 ++ ".") }

/-- IPv6, when the desired value was chosen by somebody. -/
def planIpv6 : Emitted :=
  let provenance := if "ipv6_enabled" ∈ proposed then .explicit else desired.ipv6EnabledProvenance
  let repairable : Bool := dataModelRoot desired observed = some "Device"
  .when (hasExecutableDesiredProvenance provenance ∧
      (observed.olt.oltPresent = false ∨ ipv6Differs desired observed)) {
    actions := if repairable then [.acsSetIpv6 deviceId desired.wanPppoeInstanceIndex
      desired.ipv6Enabled desired.ipv6Enabled provenance] else []
    drifts := [acsDrift "ipv6_enabled" (.flag desired.ipv6Enabled) (.ofFlag observed.acs.ipv6Enabled)
      repairable] }

/-- The whole DHCP block when any of its fields differs. -/
def planDhcpServer : Emitted :=
  .when (forces force proposed {"dhcp_enabled", "dhcp_pool_min", "dhcp_pool_max",
      "dhcp_subnet_mask", "lan_gateway_ip"} ∨ dhcpDiffers desired observed) {
    actions := [.acsSetDhcpServer deviceId desired.dhcpEnabled desired.dhcpPoolMin
      desired.dhcpPoolMax desired.dhcpSubnetMask desired.lanGatewayIp]
    drifts := [acsDrift "dhcp_enabled" (.flag desired.dhcpEnabled)
      (.ofFlag observed.acs.dhcpEnabled)] }

/-- Connection request credentials and inform interval. -/
def planManagementServer : Emitted :=
  match desired.crUsername, desired.crPasswordRef with
  | some crUsername, some crPasswordRef =>
    .when (isDeliverable "cr_username" (.text crUsername) ∧
        isDeliverable "cr_password_ref" (.text crPasswordRef) ∧
        (forces force proposed acsEndpointFields ∨ managementServerDiffers desired observed)) {
      actions := [.acsSetManagementServer deviceId crUsername crPasswordRef
        desired.periodicInformIntervalSec
        (orText (dataModelRoot desired observed) "InternetGatewayDevice") desired.acsUrl
        desired.acsUsername desired.acsPasswordRef]
      drifts := [acsDrift "acs_management_server" (.text "configured") (.text "diverged")] }
  | _, _ => {}

/-- The writes of a device whose identity is known. -/
def planAcsWrites (omciWanPlanned : Bool) : Emitted :=
  let wifiOnly := isWifiOnlyChange mode proposed
  let remoteOnly := isRemoteAccessOnlyChange mode proposed
  let wanOnly := isWanOnlyChange mode proposed
  let narrow := wifiOnly || remoteOnly
  .when (narrow = false ∧ desired.wanMode = .pppoe ∧ omciWanPlanned = false)
      (planAcsWanPpp desired observed proposed force deviceId) ++
    .when (narrow = false ∧ (desired.wanMode = .dhcp ∨ desired.wanMode = .static))
      (planAcsWanIp desired observed proposed force deviceId) ++
    .when ((remoteOnly || wanOnly) = false) (planWifi desired observed mode proposed force deviceId) ++
    .when ((wifiOnly || wanOnly) = false)
      (planRemoteAccess desired observed proposed force deviceId) ++
    .when (narrow = false) (
      .when (desired.wanMode = .pppoe ∧ omciWanPlanned = false)
        (planNat desired observed deviceId) ++
      planIpv6 desired observed proposed deviceId ++
      .when (wanOnly = false) (planDhcpServer desired observed proposed force deviceId ++
        planManagementServer desired observed proposed force deviceId))

/-- The ACS half of a plan, with the device it is for. -/
def planAcsSide (omciWanPlanned : Bool) : Emitted × AcsIdentity :=
  if truthy desired.acsServerId = false then ({}, ⟨none, none, ""⟩)
  else
    let identity := resolveAcsDeviceId desired observed
    match identity.deviceId with
    | none => ({}, identity)
    | some deviceId =>
      (planAcsWrites desired observed mode proposed force deviceId omciWanPlanned, identity)

end Acs

/-- Output of `computePlan`. -/
structure Plan where
  actions : List Action
  drifts : List Drift
  requiredSurfaces : Finset WriteSurface
  acsWaitReason : Option String := none
  acsWaitDetail : String := ""

variable (desired : OntDesiredState) (observed : OntObservedState) (mode : ReconcileMode)
  (proposedFields : Option (Finset String)) (forceProposedWrites : Bool)

/-- The OLT half of the plan of a scope, and whether OMCI owns the WAN. -/
def planOltScope (proposed : Finset String) : Emitted × Bool :=
  let omci := planOltOmciWan desired
  if isTr069ProfileOnlyChange mode proposed then (planTr069ProfileOnly desired observed, false)
  else if isWifiOnlyChange mode proposed ∨ isRemoteAccessOnlyChange mode proposed then ({}, false)
  else if isWanOnlyChange mode proposed then
    ((planWanServicePort desired observed ++ omci.1).withReset desired, omci.2)
  else ((planOltSide desired observed ++ omci.1).withReset desired, omci.2)

/-- Diff desired against observed: the ordered action list. -/
def computePlan : Plan :=
  let proposed := proposedFields.getD ∅
  let olt := planOltScope desired observed mode proposed
  let acs := if isTr069ProfileOnlyChange mode proposed then ({}, ⟨none, none, ""⟩)
    else planAcsSide desired observed mode proposed forceProposedWrites olt.2
  let emitted := olt.1 ++ acs.1
  { actions := emitted.actions
    drifts := emitted.drifts
    requiredSurfaces := (emitted.actions.map Action.surface).toFinset
    acsWaitReason := acs.2.waitReason
    acsWaitDetail := acs.2.detail }

end DotmacSub.Network
