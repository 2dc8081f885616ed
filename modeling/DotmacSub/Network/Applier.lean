import DotmacSub.Core.Logged
import DotmacSub.Network.Planner

/-!
# The ONT applier

`apply_plan` of `network/reconcile/applier.py`: the actions of a plan, executed in order against the
OLT and the ACS.  The two devices, the clock and the secrets are parameters (`ApplyContext`); what
the devices do is up to a state of their own.
-/

namespace DotmacSub.Network

open Text Logged

/-! ## Delivery of PPP work -/

inductive PppActionPurpose
  | notPpp
  | pppBearing
  | indeterminate
deriving DecidableEq

inductive PppDeliveryRefusal
  | noActiveServiceIntent
  | bridgedServiceIntent
  | noActiveAssignment
  | ambiguousAssignment
  | unresolvableOnt
  | scopeMismatch
  | noAuthoritativeCredential
  | ambiguousAuthoritativeCredential
  | unreadableAuthoritativeCredential
  | credentialKeyUnavailable
  | missingProjectionFingerprint
  | credentialFingerprintMismatch
deriving DecidableEq

def PppDeliveryRefusal.value : PppDeliveryRefusal → String
  | .noActiveServiceIntent => "no_active_service_intent"
  | .bridgedServiceIntent => "bridged_service_intent"
  | .noActiveAssignment => "no_active_assignment"
  | .ambiguousAssignment => "ambiguous_assignment"
  | .unresolvableOnt => "unresolvable_ont"
  | .scopeMismatch => "scope_mismatch"
  | .noAuthoritativeCredential => "no_authoritative_credential"
  | .ambiguousAuthoritativeCredential => "ambiguous_authoritative_credential"
  | .unreadableAuthoritativeCredential => "unreadable_authoritative_credential"
  | .credentialKeyUnavailable => "credential_key_unavailable"
  | .missingProjectionFingerprint => "missing_projection_fingerprint"
  | .credentialFingerprintMismatch => "credential_fingerprint_mismatch"

structure PppDeliveryScope where
  ontId : String
  subscriptionId : String
  instanceId : String
  instanceRevision : ℤ
  planFingerprint : String
  credentialFingerprint : String
deriving DecidableEq

structure PppDeliveryRuling where
  authorized : Bool
  refusal : Option PppDeliveryRefusal
  scope : PppDeliveryScope
deriving DecidableEq

/-- A ruling lets an action of this scope pass. -/
def PppDeliveryRuling.authorizes (ruling : PppDeliveryRuling) (scope : Option PppDeliveryScope) :
    Bool :=
  ruling.authorized ∧ scope = some ruling.scope

def pppObjectPath (path : String) : Bool :=
  "wanpppconnection".toList <:+: ((strip path).toLower).toList

/-- Whether an action touches PPP. -/
def classifyAction : Action → PppActionPurpose
  | .acsSetPppoe .. | .oltOmciPppoe .. | .oltOmciInternetConfig .. | .oltOmciWanConfig ..
  | .acsSetNatEnabled .. => .pppBearing
  | .acsAddObject _ objectPath _ | .acsDeleteObject _ objectPath =>
    if pppObjectPath objectPath then .pppBearing else .notPpp
  | .oltCreateServicePort _ _ _ _ _ slot | .oltDeleteServicePort _ slot =>
    if (strip slot).toLower = "mgmt" then .notPpp
    else if (strip slot).toLower = "wan" then .pppBearing
    else .indeterminate
  | _ => .notPpp

/-- An argument of a device call: its name or path, the desired field it came from, its value. -/
structure Param where
  name : String
  field : String
  value : DesiredScalar
deriving DecidableEq

inductive DeviceCall
  | olt (method : String) (params : List Param)
  | setParameterValues (deviceId : String) (params : List Param)
  | addObject (deviceId : String) (objectPath : Param)
  | deleteObject (deviceId objectPath : String)
deriving DecidableEq

def DeviceCall.params : DeviceCall → List Param
  | .olt _ params | .setParameterValues _ params => params
  | .addObject _ objectPath => [objectPath]
  | .deleteObject _ _ => []

structure OltOperationResult where
  success : Bool
  message : String

/-- A fault that a device reported for a task. -/
structure CwmpFault where
  code : String
  message : Option String
  detail : Option String

structure AcsTask where
  connectionRequestError : String := ""
  fault : Option CwmpFault := none

/-- The devices, the clock and the secrets of a pass. -/
structure ApplyContext (σ : Type) where
  oltAdapter : String → List Param → σ → OltOperationResult × σ
  setParameterValues : String → List Param → σ → Except String AcsTask × σ
  addObject : String → String → σ → Except String Unit × σ
  deleteObject : String → String → σ → Except String Unit × σ
  discoverWanPppInstanceIndex : String → String → σ → Option ℤ × σ
  overdue : σ → Bool × σ
  resolveSecret : String → Except String (Option String)
  pppAuthorization : Option PppDeliveryRuling
  pppScope : Option PppDeliveryScope

/-- The state of the devices, and the PPP instances created in this pass. -/
structure Session (σ : Type) where
  world : σ
  wanPppInstances : ℤ → Option ℤ

inductive ReconcileFailureReason
  | oltUnreachable
  | acsUnreachable
  | blockedOutOfSync
  | invalidChange
  | oltWriteRejected
  | acsWriteFaulted
  | acsCrFailed
  | verificationMismatch
  | timeout
deriving DecidableEq

def ReconcileFailureReason.value : ReconcileFailureReason → String
  | .oltUnreachable => "olt_unreachable"
  | .acsUnreachable => "acs_unreachable"
  | .blockedOutOfSync => "blocked_out_of_sync"
  | .invalidChange => "invalid_change"
  | .oltWriteRejected => "olt_write_rejected"
  | .acsWriteFaulted => "acs_write_faulted"
  | .acsCrFailed => "acs_cr_failed"
  | .verificationMismatch => "verification_mismatch"
  | .timeout => "timeout"

/-- Why one action was not applied. -/
inductive ApplyError
  | unset (fields : List String)
  | unknownProvenance (field : String)
  | pathMismatch
  | noChangedFields (action : String)
  | unmappedWan
  | secretResolutionFailed (error : String)
  | secretMissing
  | oltRejected (message : String)
  | addObjectFailed (error : String)
  | deleteObjectFailed (error : String)
  | setParameterValuesFailed (error : String)
  | connectionRequestFailed (error : String)
  | cwmpFault (fault : CwmpFault)

namespace ApplyError

def reason : ApplyError → ReconcileFailureReason
  | unset _ | unknownProvenance _ | pathMismatch | noChangedFields _ => .invalidChange
  | oltRejected _ => .oltWriteRejected
  | connectionRequestFailed _ => .acsCrFailed
  | unmappedWan | secretResolutionFailed _ | secretMissing | addObjectFailed _
  | deleteObjectFailed _ | setParameterValuesFailed _ | cwmpFault _ => .acsWriteFaulted

def message : ApplyError → String
  | unset fields => "refusing to write unset " ++ ", ".intercalate fields
  | unknownProvenance field => "refusing to write provenance-unknown " ++ field
  | pathMismatch => "WAN PPP addObject path does not match its typed WCD index"
  | noChangedFields action => action ++ " action contained no changed fields"
  | unmappedWan => "TR-181 WAN requires a resolved vendor/model parameter map"
  | secretResolutionFailed error => "secret resolution failed: " ++ error
  | secretMissing => "secret resolver returned None"
  | oltRejected message => message
  | addObjectFailed error => "addObject failed: " ++ error
  | deleteObjectFailed error => "deleteObject failed: " ++ error
  | setParameterValuesFailed error => "setParameterValues failed: " ++ error
  | connectionRequestFailed error => "setParameterValues queued but Connection Request failed: " ++
      error ++ ". Force OLT `ont reset` to drain."
  | cwmpFault fault => "CWMP fault " ++ fault.code ++ ": " ++
      orText (orElseText fault.message fault.detail) "CWMP fault"

/-- The action was refused or lacks a secret; no device has failed it. -/
def isRefusal : ApplyError → Bool
  | unset _ | unknownProvenance _ | pathMismatch | noChangedFields _ | unmappedWan
  | secretResolutionFailed _ | secretMissing => true
  | _ => false

end ApplyError

structure AppliedAction where
  field : String
  surface : WriteSurface
  oldValue : DesiredScalar
  newValue : DesiredScalar
  changedFields : List String := []
deriving DecidableEq

/-! ## Steps of an action -/

abbrev Apply (σ α : Type) : Type := Logged DeviceCall (Session σ) ApplyError α

section Execute

variable {σ : Type} (ctx : ApplyContext σ)

/-- Pass a question on to the devices. -/
def Session.through {α : Type} (answer : σ → α × σ) (s : Session σ) : α × Session σ :=
  ((answer s.world).1, { s with world := (answer s.world).2 })

/-- Refuse the whole action if any field carries an unset sentinel. -/
def refuseUnset (fields : List (String × DesiredScalar)) : Apply σ Unit :=
  let unset := fields.filter fun f => isDeliverable f.1 f.2 = false
  if unset = [] then pure () else fail (.unset (unset.map Prod.fst))

def refuseUnknownProvenance (field : String) (provenance : DesiredValueProvenance) : Apply σ Unit :=
  if hasExecutableDesiredProvenance provenance then pure () else fail (.unknownProvenance field)

/-- The secret behind a reference; an empty one needs none. -/
def secretOf (resolveSecret : String → Except String (Option String)) (ref : String) :
    Except ApplyError String :=
  if ref = "" then .ok ""
  else
    match resolveSecret ref with
    | .error error => .error (.secretResolutionFailed error)
    | .ok none => .error .secretMissing
    | .ok (some value) => .ok value

def resolveOrFail (ref : String) : Apply σ String := fun s => (secretOf ctx.resolveSecret ref, s, [])

def resolveIfGiven : Option String → Apply σ (Option String)
  | none => pure none
  | some ref => do
    let value ← resolveOrFail ctx ref
    return some value

def oltWrite (method : String) (params : List Param) : Apply σ Unit :=
  emit (.olt method params) <| Session.through fun w =>
    let answer := ctx.oltAdapter method params w
    (if answer.1.success then .ok () else .error (.oltRejected answer.1.message), answer.2)

def acsCheck : Except String AcsTask → Except ApplyError Unit
  | .error error => .error (.setParameterValuesFailed error)
  | .ok task =>
    if task.connectionRequestError ≠ "" then
      .error (.connectionRequestFailed task.connectionRequestError)
    else match task.fault with
      | some fault => .error (.cwmpFault fault)
      | none => .ok ()

def acsSet (deviceId : String) (params : List Param) : Apply σ Unit :=
  emit (.setParameterValues deviceId params) <| Session.through fun w =>
    let answer := ctx.setParameterValues deviceId params w
    (acsCheck answer.1, answer.2)

def acsAddObject (deviceId : String) (objectPath : Param) : Apply σ Unit :=
  emit (.addObject deviceId objectPath) <| Session.through fun w =>
    let answer := ctx.addObject deviceId objectPath.name w
    (answer.1.mapError ApplyError.addObjectFailed, answer.2)

def acsDeleteObject (deviceId objectPath : String) : Apply σ Unit :=
  emit (.deleteObject deviceId objectPath) <| Session.through fun w =>
    let answer := ctx.deleteObject deviceId objectPath w
    (answer.1.mapError ApplyError.deleteObjectFailed, answer.2)

def wanPppWcdFromObjectPath (objectPath : String) : Option ℤ :=
  let tail := ".WANPPPConnection".toList.reverse
  let chars := objectPath.toList.reverse
  let digits := (chars.drop tail.length).takeWhile Char.isDigit
  let rest := (chars.drop tail.length).dropWhile Char.isDigit
  if tail.isPrefixOf chars ∧ digits ≠ [] ∧
      "WANDevice.1.WANConnectionDevice.".toList.reverse.isPrefixOf rest
    then (String.ofList digits.reverse).toInt?
    else none

def requireAddObjectLayout (objectPath : String) (wcdIndex : Option ℤ) : Apply σ (Option ℤ) :=
  match wanPppWcdFromObjectPath objectPath with
  | none => pure none
  | some rendered => do
    refuseUnset [("wan_pppoe_wcd_index", .ofNumber wcdIndex)]
    if some rendered ≠ wcdIndex then fail .pathMismatch else pure (some rendered)

def lastSegment (path : String) : String :=
  String.ofList (path.toList.reverse.takeWhile (· ≠ '.')).reverse

def splitDnsServers (value : Option String) : List String :=
  (((orText value "").toList.splitOnP fun c => isSpace c ∨ c = ',').filter (· ≠ [])).map String.ofList

/-- The instance that this pass has created, or else the planned one. -/
def wanPppInstance (wcdIndex instanceIndex : ℤ) : Apply σ ℤ :=
  ask fun s => ((s.wanPppInstances wcdIndex).getD instanceIndex, s)

def wanPppBase (wcdIndex instanceIndex : ℤ) : String :=
  "InternetGatewayDevice.WANDevice.1.WANConnectionDevice." ++ toString wcdIndex ++
    ".WANPPPConnection." ++ toString instanceIndex

/-- The device numbers its children itself: look the new one up for the writes to come. -/
def noteWanPppInstance (deviceId objectPath : String) : Option ℤ → Apply σ Unit
  | none => pure ()
  | some wcdIndex => ask fun s =>
    let answer := ctx.discoverWanPppInstanceIndex deviceId objectPath s.world
    ((), ⟨answer.2, answer.1.elim s.wanPppInstances fun discovered wcd =>
      if wcd = wcdIndex then some discovered else s.wanPppInstances wcd⟩)

/-- The fields of a WiFi action. -/
def wifiChanged (enabled : Option Bool) (ssid passwordRef : Option String) (channel : Option ℤ)
    (securityMode : Option String) : List String :=
  (enabled.map fun _ => "wifi_enabled").toList ++ (ssid.map fun _ => "wifi_ssid").toList ++
    (channel.map fun _ => "wifi_channel").toList ++
    (securityMode.map fun _ => "wifi_security_mode").toList ++
    (passwordRef.map fun _ => "wifi_password_ref").toList

def remoteChanged (sshEnabled : Option Bool) (sshPort : Option ℤ) (telnetEnabled : Option Bool) :
    List String :=
  (sshEnabled.map fun _ => "ssh_enabled").toList ++ (sshPort.map fun _ => "ssh_port").toList ++
    (telnetEnabled.map fun _ => "telnet_enabled").toList

/-- What is recorded of an applied action. -/
def report (action : Action) : AppliedAction :=
  let ok (field : String) (oldValue newValue : DesiredScalar) (changed : List String := []) :
      AppliedAction := ⟨field, action.surface, oldValue, newValue, changed⟩
  match action with
  | .oltAuthorize _ _ _ _ serialNumber _ => ok "olt_authorize" .none (.text serialNumber)
  | .oltModifyDescription _ _ description => ok "olt_description" .none (.text description)
  | .oltModifyLineProfile _ _ lineProfileId =>
    ok "olt_line_profile_id" .none (.number lineProfileId)
  | .oltModifyServiceProfile _ _ serviceProfileId =>
    ok "olt_service_profile_id" .none (.number serviceProfileId)
  | .oltClearIphost _ _ ipIndex => ok ("iphost[" ++ toString ipIndex ++ "]") .none .none
  | .oltIpconfig _ _ _ ipAddress _ _ _ _ _ _ => ok "olt_mgmt_ip" .none (.text ipAddress)
  | .oltTr069ServerConfig _ _ profileId => ok "olt_tr069_profile_id" .none (.number profileId)
  | .oltCreateServicePort _ _ servicePortIndex _ _ slot =>
    ok ("service_port[" ++ slot ++ "]") .none (.number servicePortIndex)
  | .oltDeleteServicePort servicePortIndex _ =>
    ok ("service_port[" ++ toString servicePortIndex ++ "]") (.number servicePortIndex) .none
  | .oltOmciPppoe _ _ _ _ username _ => ok "omci_pppoe" .none (.text username)
  | .oltOmciInternetConfig _ _ ipIndex => ok "omci_internet_config" .none (.number ipIndex)
  | .oltOmciWanConfig _ _ _ profileId => ok "omci_wan_config" .none (.number profileId)
  | .oltReset .. => ok "ont_reset" .none .none
  | .acsAddObject _ objectPath _ =>
    ok ("add_object[" ++ lastSegment objectPath ++ "]") .none (.text objectPath)
  | .acsDeleteObject _ objectPath =>
    ok ("delete_object[" ++ lastSegment (String.ofList
      (objectPath.toList.reverse.dropWhile (· = '.')).reverse) ++ "]") (.text objectPath) .none
  | .acsSetPppoe _ _ _ username _ _ => ok "acs_pppoe" .none (.text username)
  | .acsSetWifiConfig _ _ enabled ssid passwordRef channel securityMode =>
    let changed := wifiChanged enabled ssid passwordRef channel securityMode
    ok "acs_wifi_config" .none (.text (",".intercalate changed)) changed
  | .acsSetRemoteAccess _ _ sshEnabled sshPort telnetEnabled =>
    ok "acs_remote_access" .none
      (.text (",".intercalate (remoteChanged sshEnabled sshPort telnetEnabled)))
  | .acsSetNatEnabled _ _ _ enabled => ok "acs_nat_enabled" .none (.flag enabled)
  | .acsSetIpv6 _ _ enabled _ _ => ok "acs_ipv6_enabled" .none (.flag enabled)
  | .acsSetWanIp _ _ _ _ mode _ _ _ _ _ _ _ => ok "acs_wan_ip_mode" .none (.text mode.value)
  | .acsSetDhcpServer _ enabled _ _ _ _ => ok "acs_dhcp_server" .none (.flag enabled)
  | .acsSetManagementServer _ _ _ informIntervalSec _ _ _ _ =>
    ok "acs_management_server" .none (.number informIntervalSec)

/-- The parameters of a WiFi action, the password already resolved. -/
def wifiParams (paths : Tr069WifiParameterPaths) (enabled : Option Bool) (ssid : Option String)
    (channel : Option ℤ) (securityMode password : Option String) : List Param :=
  (enabled.map fun v => ⟨paths.enabled, "wifi_enabled", .flag v⟩).toList ++
    (ssid.map fun v => ⟨paths.ssid, "wifi_ssid", .text v⟩).toList ++
    (channel.map fun v => ⟨paths.channel, "wifi_channel", .number v⟩).toList ++
    (securityMode.map fun v => ⟨paths.securityMode, "wifi_security_mode", .text v⟩).toList ++
    (password.map fun v => ⟨paths.pskPath, "wifi_password_ref", .text v⟩).toList

def remoteParams (paths : Tr069RemoteAccessParameterPaths) (sshEnabled : Option Bool)
    (sshPort : Option ℤ) (telnetEnabled : Option Bool) : List Param :=
  (sshEnabled.map fun v => ⟨paths.sshEnabled, "wan_remote_access_enabled", .flag v⟩).toList ++
    (sshPort.map fun v => ⟨paths.sshPort, "wan_remote_access_ssh_port", .number v⟩).toList ++
    (telnetEnabled.map fun v => ⟨paths.telnetEnabled, "wan_remote_access_enabled", .flag v⟩).toList

def tr181WanParams (paths : Tr181WanParameterPaths) (mode : WanMode) (vlan : ℤ) (natEnabled : Bool)
    (ipAddress subnetMask gateway dnsServers : Option String) : List Param :=
  let servers := splitDnsServers dnsServers
  [⟨paths.ipEnable, "", .flag true⟩,
    ⟨paths.dhcpEnable, "wan_mode", .flag (mode = .dhcp)⟩,
    ⟨paths.vlanEnable, "", .flag true⟩,
    ⟨paths.vlanId, "wan_vlan", .number vlan⟩,
    ⟨paths.natEnable, "nat_enabled", .flag natEnabled⟩] ++
  if mode = .static then
    [⟨paths.ipAddress, "wan_static_ip", .ofText ipAddress⟩,
      ⟨paths.subnetMask, "wan_static_subnet", .ofText subnetMask⟩,
      ⟨paths.gateway, "wan_static_gateway", .ofText gateway⟩] ++
    (servers[0]?.map fun v => ⟨paths.dnsPrimary, "wan_static_dns", .text v⟩).toList ++
    (servers[1]?.map fun v => ⟨paths.dnsSecondary, "wan_static_dns", .text v⟩).toList
  else []

/-- The parameters of a WAN in the Internet gateway data model. -/
def tr098WanParams (base : String) (mode : WanMode) (vlan : ℤ) (natEnabled : Bool)
    (ipAddress subnetMask gateway dnsServers : Option String) : List Param :=
  [⟨base ++ ".Enable", "", .flag true⟩,
    ⟨base ++ ".NATEnabled", "nat_enabled", .flag natEnabled⟩,
    ⟨base ++ ".ConnectionType", "", .text "IP_Routed"⟩,
    ⟨base ++ ".AddressingType", "wan_mode", .text (if mode = .dhcp then "DHCP" else "Static")⟩,
    ⟨base ++ ".X_HW_VLAN", "wan_vlan", .number vlan⟩,
    ⟨base ++ ".X_HW_SERVICELIST", "", .text "INTERNET"⟩] ++
  if mode = .static then
    [⟨base ++ ".ExternalIPAddress", "wan_static_ip", .ofText ipAddress⟩,
      ⟨base ++ ".SubnetMask", "wan_static_subnet", .ofText subnetMask⟩,
      ⟨base ++ ".DefaultGateway", "wan_static_gateway", .ofText gateway⟩] ++
    (if truthy dnsServers then [⟨base ++ ".DNSServers", "wan_static_dns", .ofText dnsServers⟩]
      else [])
  else []

def connectionParams (base crUsername crPassword : String) (informIntervalSec : ℤ) : List Param :=
  [⟨base ++ ".ConnectionRequestUsername", "cr_username", .text crUsername⟩,
    ⟨base ++ ".ConnectionRequestPassword", "cr_password_ref", .text crPassword⟩,
    ⟨base ++ ".PeriodicInformEnable", "", .flag true⟩,
    ⟨base ++ ".PeriodicInformInterval", "periodic_inform_interval_sec", .number informIntervalSec⟩]

def moveEndpoint (deviceId base : String) (acsUrl acsUsername acsPasswordRef : Option String) :
    Apply σ Unit := do
  let acsPassword ← resolveOrFail ctx (orText acsPasswordRef "")
  acsSet ctx deviceId
    [⟨base ++ ".URL", "acs_url", .ofText acsUrl⟩,
      ⟨base ++ ".Username", "acs_username", .text (orText acsUsername "")⟩,
      ⟨base ++ ".Password", "acs_password_ref", .text acsPassword⟩]

def oltAction (action : Action) (unset : List (String × DesiredScalar)) (method : String)
    (params : List Param) : Apply σ AppliedAction := do
  refuseUnset unset
  oltWrite ctx method params
  return report action

def acsAction (action : Action) (unset : List (String × DesiredScalar)) (deviceId : String)
    (params : List Param) : Apply σ AppliedAction := do
  refuseUnset unset
  acsSet ctx deviceId params
  return report action

/-- An ACS action that writes what has changed, and must have something to write. -/
def changedAction (action : Action) (kind deviceId : String) (params : List Param) :
    Apply σ AppliedAction :=
  if params = [] then fail (.noChangedFields kind)
  else do
    acsSet ctx deviceId params
    return report action

/-- Dispatch one action to the device calls it stands for. -/
def execute (action : Action) : Apply σ AppliedAction :=
  match action with
  | .oltAuthorize fsp _ lineProfileId serviceProfileId serialNumber description =>
    oltAction ctx action
      [("line_profile_id", .number lineProfileId), ("service_profile_id", .number serviceProfileId)]
      "authorize_ont"
      [⟨"fsp", "fsp", .text fsp⟩, ⟨"serial_number", "serial_number", .text serialNumber⟩,
        ⟨"line_profile_id", "line_profile_id", .number lineProfileId⟩,
        ⟨"service_profile_id", "service_profile_id", .number serviceProfileId⟩,
        ⟨"description", "description", .text description⟩]
  | .oltModifyDescription fsp ontId description =>
    oltAction ctx action [] "set_ont_description"
      [⟨"fsp", "fsp", .text fsp⟩, ⟨"ont_id", "olt_ont_id", .number ontId⟩,
        ⟨"description", "description", .text description⟩]
  | .oltModifyLineProfile fsp ontId lineProfileId =>
    oltAction ctx action [("line_profile_id", .number lineProfileId)] "update_ont_profiles"
      [⟨"fsp", "fsp", .text fsp⟩, ⟨"ont_id", "olt_ont_id", .number ontId⟩,
        ⟨"line_profile_id", "line_profile_id", .number lineProfileId⟩]
  | .oltModifyServiceProfile fsp ontId serviceProfileId =>
    oltAction ctx action [("service_profile_id", .number serviceProfileId)] "update_ont_profiles"
      [⟨"fsp", "fsp", .text fsp⟩, ⟨"ont_id", "olt_ont_id", .number ontId⟩,
        ⟨"service_profile_id", "service_profile_id", .number serviceProfileId⟩]
  | .oltClearIphost fsp ontId ipIndex =>
    oltAction ctx action [] "clear_iphost_config"
      [⟨"fsp", "fsp", .text fsp⟩, ⟨"ont_id", "olt_ont_id", .number ontId⟩,
        ⟨"ip_index", "", .number ipIndex⟩]
  | .oltIpconfig fsp ontId ipIndex ipAddress subnetMask gateway vlan priority _ _ =>
    oltAction ctx action [] "configure_iphost"
      [⟨"fsp", "fsp", .text fsp⟩, ⟨"ont_id", "olt_ont_id", .number ontId⟩,
        ⟨"ip_index", "", .number ipIndex⟩, ⟨"mode", "", .text "static"⟩,
        ⟨"vlan", "mgmt_vlan", .number vlan⟩,
        ⟨"priority", "mgmt_iphost_priority", .number priority⟩,
        ⟨"ip_address", "mgmt_ip", .text ipAddress⟩,
        ⟨"subnet_mask", "mgmt_subnet_mask", .text subnetMask⟩,
        ⟨"gateway", "mgmt_gateway", .text gateway⟩]
  | .oltTr069ServerConfig fsp ontId profileId =>
    oltAction ctx action [("tr069_profile_id", .number profileId)] "bind_tr069_profile"
      [⟨"fsp", "fsp", .text fsp⟩, ⟨"ont_id", "olt_ont_id", .number ontId⟩,
        ⟨"profile_id", "tr069_profile_id", .number profileId⟩]
  | .oltCreateServicePort fsp ontId servicePortIndex vlan gemIndex slot =>
    let vlanField := if slot = "wan" then "wan_vlan" else "mgmt_vlan"
    oltAction ctx action (if slot = "wan" then [("wan_vlan", .number vlan)] else [])
      "create_service_port"
      [⟨"fsp", "fsp", .text fsp⟩, ⟨"ont_id", "olt_ont_id", .number ontId⟩,
        ⟨"gem_index", "wan_gem_index", .number gemIndex⟩,
        ⟨"vlan_id", vlanField, .number vlan⟩, ⟨"user_vlan", vlanField, .number vlan⟩,
        ⟨"port_index", "", .number servicePortIndex⟩]
  | .oltDeleteServicePort servicePortIndex _ =>
    oltAction ctx action [] "delete_service_port"
      [⟨"service_port_index", "", .number servicePortIndex⟩]
  | .oltOmciPppoe fsp ontId ipIndex vlan username passwordRef => do
      refuseUnset [("wan_vlan", .number vlan)]
      let password ← resolveOrFail ctx passwordRef
      oltWrite ctx "configure_pppoe"
        [⟨"fsp", "fsp", .text fsp⟩, ⟨"ont_id", "olt_ont_id", .number ontId⟩,
          ⟨"ip_index", "wan_internet_config_ip_index", .number ipIndex⟩,
          ⟨"vlan_id", "wan_vlan", .number vlan⟩,
          ⟨"username", "wan_pppoe_username", .text username⟩,
          ⟨"password", "wan_pppoe_password_ref", .text password⟩]
      return report action
  | .oltOmciInternetConfig fsp ontId ipIndex =>
    oltAction ctx action [] "configure_internet_config"
      [⟨"fsp", "fsp", .text fsp⟩, ⟨"ont_id", "olt_ont_id", .number ontId⟩,
        ⟨"ip_index", "wan_internet_config_ip_index", .number ipIndex⟩]
  | .oltOmciWanConfig fsp ontId ipIndex profileId =>
    oltAction ctx action [] "configure_wan_config"
      [⟨"fsp", "fsp", .text fsp⟩, ⟨"ont_id", "olt_ont_id", .number ontId⟩,
        ⟨"ip_index", "wan_internet_config_ip_index", .number ipIndex⟩,
        ⟨"profile_id", "wan_config_profile_id", .number profileId⟩]
  | .oltReset fsp ontId =>
    oltAction ctx action [] "reboot_ont"
      [⟨"fsp", "fsp", .text fsp⟩, ⟨"ont_id", "olt_ont_id", .number ontId⟩]
  | .acsAddObject deviceId objectPath wcdIndex => do
      let rendered ← requireAddObjectLayout objectPath wcdIndex
      acsAddObject ctx deviceId (rendered.elim ⟨objectPath, "", .text objectPath⟩ fun wcd =>
        ⟨objectPath, "wan_pppoe_wcd_index", .number wcd⟩)
      noteWanPppInstance ctx deviceId objectPath rendered
      return report action
  | .acsDeleteObject deviceId objectPath => do
      acsDeleteObject ctx deviceId objectPath
      return report action
  | .acsSetPppoe deviceId wcdIndex instanceIndex username passwordRef vlan => do
      refuseUnset [("wan_pppoe_wcd_index", .number wcdIndex), ("wan_vlan", .number vlan)]
      let password ← resolveOrFail ctx passwordRef
      let inst ← wanPppInstance wcdIndex instanceIndex
      let base := wanPppBase wcdIndex inst
      acsSet ctx deviceId
        [⟨base ++ ".Username", "wan_pppoe_username", .text username⟩,
          ⟨base ++ ".Password", "wan_pppoe_password_ref", .text password⟩,
          ⟨base ++ ".Enable", "", .flag true⟩,
          ⟨base ++ ".ConnectionType", "", .text "IP_Routed"⟩,
          ⟨base ++ ".X_HW_VLAN", "wan_vlan", .number vlan⟩,
          ⟨base ++ ".X_HW_SERVICELIST", "", .text "INTERNET"⟩]
      return report action
  | .acsSetWifiConfig deviceId paths enabled ssid passwordRef channel securityMode => do
      refuseUnset ((ssid.map fun v => ("wifi_ssid", .text v)).toList ++
        (passwordRef.map fun v => ("wifi_password_ref", .text v)).toList)
      let password ← resolveIfGiven ctx passwordRef
      changedAction ctx action "WiFi" deviceId
        (wifiParams paths enabled ssid channel securityMode password)
  | .acsSetRemoteAccess deviceId paths sshEnabled sshPort telnetEnabled =>
    changedAction ctx action "remote-access" deviceId
      (remoteParams paths sshEnabled sshPort telnetEnabled)
  | .acsSetNatEnabled deviceId wcdIndex instanceIndex enabled => do
      refuseUnset [("wan_pppoe_wcd_index", .number wcdIndex)]
      let inst ← wanPppInstance wcdIndex instanceIndex
      acsSet ctx deviceId
        [⟨wanPppBase wcdIndex inst ++ ".NATEnabled", "nat_enabled", .flag enabled⟩]
      return report action
  | .acsSetIpv6 deviceId interfaceIndex enabled requestPrefixes provenance => do
      refuseUnknownProvenance "ipv6_enabled" provenance
      let index := toString interfaceIndex
      acsSet ctx deviceId
        [⟨"Device.IP.Interface." ++ index ++ ".IPv6Enable", "ipv6_enabled", .flag enabled⟩,
          ⟨"Device.DHCPv6.Client." ++ index ++ ".Enable", "ipv6_enabled", .flag enabled⟩,
          ⟨"Device.DHCPv6.Client." ++ index ++ ".RequestPrefixes", "ipv6_enabled",
            .flag (enabled && requestPrefixes)⟩,
          ⟨"Device.RouterAdvertisement.InterfaceSettings." ++ index ++ ".Enable", "ipv6_enabled",
            .flag enabled⟩]
      return report action
  | .acsSetWanIp deviceId root wcdIndex instanceIndex mode vlan natEnabled ipAddress subnetMask
      gateway dnsServers tr181Paths => do
      refuseUnset [("wan_pppoe_wcd_index", .number wcdIndex), ("wan_vlan", .number vlan)]
      if root = "Device" then
        match tr181Paths with
        | none => fail .unmappedWan
        | some paths => do
          acsSet ctx deviceId
            (tr181WanParams paths mode vlan natEnabled ipAddress subnetMask gateway dnsServers)
          return report action
      else do
        acsSet ctx deviceId (tr098WanParams ("InternetGatewayDevice.WANDevice.1." ++
          "WANConnectionDevice." ++ toString wcdIndex ++ ".WANIPConnection." ++
          toString instanceIndex) mode vlan natEnabled ipAddress subnetMask gateway dnsServers)
        return report action
  | .acsSetDhcpServer deviceId enabled poolMin poolMax subnetMask gatewayIp =>
    let base := "InternetGatewayDevice.LANDevice.1.LANHostConfigManagement."
    acsAction ctx action [] deviceId
      ([⟨base ++ "DHCPServerEnable", "dhcp_enabled", .flag enabled⟩,
        ⟨base ++ "MinAddress", "dhcp_pool_min", .text poolMin⟩,
        ⟨base ++ "MaxAddress", "dhcp_pool_max", .text poolMax⟩,
        ⟨base ++ "SubnetMask", "dhcp_subnet_mask", .text subnetMask⟩] ++
        (gatewayIp.map fun v =>
          ⟨base ++ "IPInterface.1.IPInterfaceIPAddress", "lan_gateway_ip", .text v⟩).toList)
  | .acsSetManagementServer deviceId crUsername crPasswordRef informIntervalSec root acsUrl
      acsUsername acsPasswordRef => do
      refuseUnset [("cr_username", .text crUsername), ("cr_password_ref", .text crPasswordRef)]
      let crPassword ← resolveOrFail ctx crPasswordRef
      let base := root ++ ".ManagementServer"
      acsSet ctx deviceId (connectionParams base crUsername crPassword informIntervalSec)
      -- the endpoint moves last, once the credentials are there
      if truthy acsUrl then moveEndpoint ctx deviceId base acsUrl acsUsername acsPasswordRef
      return report action

end Execute

/-! ## The whole plan -/

def Action.typeName : Action → String
  | .oltAuthorize .. => "OltAuthorize"
  | .oltModifyDescription .. => "OltModifyDescription"
  | .oltModifyLineProfile .. => "OltModifyLineProfile"
  | .oltModifyServiceProfile .. => "OltModifyServiceProfile"
  | .oltClearIphost .. => "OltClearIphost"
  | .oltIpconfig .. => "OltIpconfig"
  | .oltTr069ServerConfig .. => "OltTr069ServerConfig"
  | .oltCreateServicePort .. => "OltCreateServicePort"
  | .oltDeleteServicePort .. => "OltDeleteServicePort"
  | .oltOmciPppoe .. => "OltOmciPppoe"
  | .oltOmciInternetConfig .. => "OltOmciInternetConfig"
  | .oltOmciWanConfig .. => "OltOmciWanConfig"
  | .oltReset .. => "OltReset"
  | .acsAddObject .. => "AcsAddObject"
  | .acsDeleteObject .. => "AcsDeleteObject"
  | .acsSetPppoe .. => "AcsSetPppoe"
  | .acsSetWifiConfig .. => "AcsSetWifiConfig"
  | .acsSetRemoteAccess .. => "AcsSetRemoteAccess"
  | .acsSetNatEnabled .. => "AcsSetNatEnabled"
  | .acsSetIpv6 .. => "AcsSetIpv6"
  | .acsSetWanIp .. => "AcsSetWanIp"
  | .acsSetDhcpServer .. => "AcsSetDhcpServer"
  | .acsSetManagementServer .. => "AcsSetManagementServer"

structure ReconcileFailure where
  reason : String
  message : String
deriving DecidableEq

structure RefusedAction where
  actionName : String
  purpose : PppActionPurpose
  refusal : PppDeliveryRefusal
deriving DecidableEq

/-- The outcome of `applyPlan`. -/
structure ApplyResult where
  success : Bool
  actionsApplied : List AppliedAction
  haltedBy : Option ReconcileFailure
  refusedPpp : List RefusedAction
deriving DecidableEq

variable {σ : Type} (ctx : ApplyContext σ)

/-- The ruling is there and covers this delivery. -/
def pppAllowed : Bool :=
  match ctx.pppAuthorization with
  | none => false
  | some ruling => ruling.authorizes ctx.pppScope

/-- Why PPP work is withheld. -/
def pppRefusal : PppDeliveryRefusal :=
  match ctx.pppAuthorization with
  | none => .noActiveServiceIntent
  | some ruling => ruling.refusal.getD .scopeMismatch

def withheld (action : Action) : Bool :=
  pppAllowed ctx = false ∧ classifyAction action ≠ .notPpp

/-- Execute actions in order: withheld ones are skipped, the first failure stops the rest. -/
def applyActions : List Action → Session σ → ApplyResult × Session σ × List DeviceCall
  | [], s => (⟨true, [], none, []⟩, s, [])
  | action :: rest, s =>
    if withheld ctx action then
      let (result, s', calls) := applyActions rest s
      ({ result with
          refusedPpp := ⟨action.typeName, classifyAction action, pppRefusal ctx⟩ :: result.refusedPpp },
        s', calls)
    else
      let (late, world) := ctx.overdue s.world
      if late then
        (⟨false, [], some ⟨ReconcileFailureReason.timeout.value, "apply deadline exceeded before " ++ action.typeName⟩, []⟩,
          { s with world }, [])
      else
        match execute ctx action { s with world } with
        | (.error error, s', calls) =>
          (⟨false, [], some ⟨error.reason.value, error.message⟩, []⟩, s', calls)
        | (.ok applied, s', calls) =>
          let (result, s'', calls') := applyActions rest s'
          ({ result with actionsApplied := applied :: result.actionsApplied }, s'', calls ++ calls')

def applyPlan (plan : Plan) (world : σ) : ApplyResult × Session σ × List DeviceCall :=
  applyActions ctx plan.actions ⟨world, fun _ => none⟩

end DotmacSub.Network
