import Mathlib.Data.Finset.Basic

/-!
# Reconciler state and actions

The inputs and outputs of the ONT planner: `network/reconcile/state.py`, `actions.py` and the
declaration table of `sentinels.py`.  A literal type is an enumeration; the fields that no planning
function reads are left out.
-/

namespace DotmacSub.Network

inductive WanMode
  | pppoe
  | dhcp
  | static
  | bridge
deriving DecidableEq

def WanMode.value : WanMode → String
  | .pppoe => "pppoe"
  | .dhcp => "dhcp"
  | .static => "static"
  | .bridge => "bridge"

inductive PppoeProvisioningMethod
  | omci
  | tr069
  | auto
deriving DecidableEq

inductive ReconcileMode
  | sync
  | sweep
  | bootstrap
deriving DecidableEq

inductive WriteSurface
  | olt
  | acs
deriving DecidableEq

inductive DesiredValueProvenance
  | explicit
  | declaredDefault
  | unknown
deriving DecidableEq

/-- Whether provenance is sufficient to execute the represented value. -/
def hasExecutableDesiredProvenance (provenance : DesiredValueProvenance) : Bool :=
  provenance = .explicit ∨ provenance = .declaredDefault

/-! ## Values that mean "unset" -/

/-- A value that a composition layer can substitute. -/
inductive DesiredScalar
  | text (value : String)
  | number (value : ℤ)
  | flag (value : Bool)
  | none
deriving DecidableEq

namespace DesiredScalar

def ofText (value : Option String) : DesiredScalar := value.elim .none .text

def ofNumber (value : Option ℤ) : DesiredScalar := value.elim .none .number

def ofFlag (value : Option Bool) : DesiredScalar := value.elim .none .flag

end DesiredScalar

/-- Who, if anyone, authorises executing a substituted default. -/
inductive DesiredValueAuthority
  | declaredDefault
  | inadmissible
  | delegated
  | undeclared
deriving DecidableEq

/-- One unset-to-default substitution on the desired-state path. -/
structure SentinelRule where
  field : String
  sentinel : DesiredScalar
  authority : DesiredValueAuthority

/-- The declaration table of the provider. -/
def rules : List SentinelRule :=
  [⟨"wifi_ssid", .text "", .inadmissible⟩,
    ⟨"wifi_password_ref", .text "", .inadmissible⟩,
    ⟨"line_profile_id", .number 0, .inadmissible⟩,
    ⟨"service_profile_id", .number 0, .inadmissible⟩,
    ⟨"wan_pppoe_username", .text "", .delegated⟩,
    ⟨"wan_pppoe_password_ref", .text "", .delegated⟩,
    ⟨"wan_pppoe_instance_index", .number 1, .declaredDefault⟩,
    ⟨"dhcp_enabled", .flag true, .undeclared⟩,
    ⟨"dhcp_pool_min", .text "192.168.100.2", .undeclared⟩,
    ⟨"dhcp_pool_max", .text "192.168.100.254", .undeclared⟩,
    ⟨"tr069_profile_id", .number 0, .inadmissible⟩,
    ⟨"wan_pppoe_wcd_index", .none, .inadmissible⟩,
    ⟨"cr_username", .text "", .inadmissible⟩,
    ⟨"cr_password_ref", .text "", .inadmissible⟩,
    ⟨"wan_vlan", .number 0, .inadmissible⟩,
    ⟨"wan_gem_index", .number 1, .undeclared⟩,
    ⟨"mgmt_subnet_mask", .text "255.255.255.0", .undeclared⟩,
    ⟨"mgmt_gateway", .text "", .undeclared⟩,
    ⟨"acs_username", .text "", .undeclared⟩,
    ⟨"tr069_data_model_root", .text "InternetGatewayDevice", .undeclared⟩,
    ⟨"acs_device_id", .text "", .undeclared⟩,
    ⟨"periodic_inform_interval_sec", .number 300, .undeclared⟩]

/-- The control-plane admissibility rule for one desired value: the substituted default is
executable unless nobody authorises it. -/
def isExecutableDesiredValue (value : DesiredScalar) (rule : SentinelRule) : Bool :=
  value ≠ rule.sentinel ∨ rule.authority ≠ .inadmissible

/-- Whether a value may be written to a device as a field. -/
def isDeliverable (field : String) (value : DesiredScalar) : Bool :=
  match rules.find? (·.field = field) with
  | none => true
  | some rule => isExecutableDesiredValue value rule

structure Tr181WanParameterPaths where
  ipEnable : String
  dhcpEnable : String
  ipAddress : String
  subnetMask : String
  gateway : String
  dnsPrimary : String
  dnsSecondary : String
  natEnable : String
  vlanEnable : String
  vlanId : String
deriving DecidableEq

structure Tr069WifiParameterPaths where
  enabled : String
  ssid : String
  pskPath : String
  channel : String
  securityMode : String
deriving DecidableEq

structure Tr069RemoteAccessParameterPaths where
  sshEnabled : String
  sshPort : String
  telnetEnabled : String
  telnetPort : String
deriving DecidableEq

/-- Operator and system intent for one ONT. -/
structure OntDesiredState where
  serialNumber : String
  fsp : String
  oltOntId : ℤ
  lineProfileId : ℤ
  serviceProfileId : ℤ
  description : String
  mgmtVlan : Option ℤ
  mgmtIp : Option String
  mgmtSubnetMask : Option String
  mgmtGateway : Option String
  mgmtDnsPrimary : Option String
  mgmtDnsSecondary : Option String
  mgmtIphostPriority : ℤ
  tr069ProfileId : ℤ
  acsServerId : Option String
  crUsername : Option String
  crPasswordRef : Option String
  periodicInformIntervalSec : ℤ
  wanMode : WanMode
  wanVlan : Option ℤ
  wanGemIndex : Option ℤ
  wanPppoeUsername : Option String
  wanPppoePasswordRef : Option String
  wanPppoeProvisioningMethod : PppoeProvisioningMethod
  wanPppoeWcdIndex : Option ℤ
  wanPppoeInstanceIndex : ℤ
  wanConfigProfileId : Option ℤ
  wanInternetConfigIpIndex : Option ℤ
  natEnabled : Bool
  ipv6Enabled : Bool
  dhcpEnabled : Bool
  dhcpPoolMin : String
  dhcpPoolMax : String
  dhcpSubnetMask : String
  wifiSsid : String
  wifiPasswordRef : String
  mgmtServicePortIndex : Option ℤ
  wanServicePortIndex : Option ℤ
  tr069DataModelRoot : Option String := none
  wanStaticIp : Option String := none
  wanStaticSubnet : Option String := none
  wanStaticGateway : Option String := none
  wanStaticDns : Option String := none
  tr181WanPaths : Option Tr181WanParameterPaths := none
  acsUrl : Option String := none
  acsUsername : Option String := none
  acsPasswordRef : Option String := none
  wifiEnabled : Option Bool := none
  wifiChannel : Option ℤ := none
  wifiSecurityMode : Option String := none
  wifiPaths : Option Tr069WifiParameterPaths := none
  wanRemoteAccessEnabled : Bool := false
  wanRemoteAccessSshPort : ℤ := 22
  remoteAccessPaths : Option Tr069RemoteAccessParameterPaths := none
  lanGatewayIp : Option String := none
  ipv6EnabledProvenance : DesiredValueProvenance := .explicit
  acsDeviceId : Option String := none

structure ServicePort where
  index : Option ℤ
  vlanId : Option ℤ
deriving DecidableEq

structure OltObservedFields where
  oltPresent : Bool
  oltDescription : Option String
  oltMgmtIp : Option String
  oltMgmtVlan : Option ℤ
  oltLineProfileId : Option ℤ
  oltServiceProfileId : Option ℤ
  oltServicePorts : List ServicePort
  oltTr069ProfileId : Option ℤ := none

/-- ACS-side observations; an absent value was not read. -/
structure AcsObservedFields where
  acsPresent : Bool
  pppoeUsername : Option String := none
  pppoeEnable : Option Bool := none
  wanVlan : Option ℤ := none
  natEnabled : Option Bool := none
  dhcpEnabled : Option Bool := none
  ssid : Option String := none
  periodicInformIntervalSec : Option ℤ := none
  crUsername : Option String := none
  crPasswordSet : Option Bool := none
  wanWcdIndex : Option ℤ := none
  wanInstanceIndex : Option ℤ := none
  wanPppLocations : List (ℤ × ℤ) := []
  dataModelRoot : Option String := none
  ipv6Enabled : Option Bool := none
  wanIpEnable : Option Bool := none
  wanAddressingType : Option String := none
  wanIpAddress : Option String := none
  wanSubnetMask : Option String := none
  wanGateway : Option String := none
  wanDnsServers : Option String := none
  dhcpv6Enabled : Option Bool := none
  dhcpv6RequestPrefixes : Option Bool := none
  raEnabled : Option Bool := none
  url : Option String := none
  username : Option String := none
  passwordSet : Option Bool := none
  wifiEnabled : Option Bool := none
  wifiChannel : Option ℤ := none
  wifiSecurityMode : Option String := none
  wifiInstanceIndex : Option ℤ := none
  remoteSshEnabled : Option Bool := none
  remoteSshPort : Option ℤ := none
  remoteTelnetEnabled : Option Bool := none
  deviceId : Option String := none
  deviceMatchCount : ℤ := 0

/-- What was last read of an ONT. -/
structure OntObservedState where
  olt : OltObservedFields
  acs : AcsObservedFields

/-- One OLT or ACS write. -/
inductive Action
  | oltAuthorize (fsp : String) (ontId lineProfileId serviceProfileId : ℤ)
      (serialNumber description : String)
  | oltModifyDescription (fsp : String) (ontId : ℤ) (description : String)
  | oltModifyLineProfile (fsp : String) (ontId lineProfileId : ℤ)
  | oltModifyServiceProfile (fsp : String) (ontId serviceProfileId : ℤ)
  | oltClearIphost (fsp : String) (ontId ipIndex : ℤ)
  | oltIpconfig (fsp : String) (ontId ipIndex : ℤ) (ipAddress subnetMask gateway : String)
      (vlan priority : ℤ) (dnsPrimary dnsSecondary : Option String)
  | oltTr069ServerConfig (fsp : String) (ontId profileId : ℤ)
  | oltCreateServicePort (fsp : String) (ontId servicePortIndex vlan gemIndex : ℤ) (slot : String)
  | oltDeleteServicePort (servicePortIndex : ℤ) (slot : String)
  | oltOmciPppoe (fsp : String) (ontId ipIndex vlan : ℤ) (username passwordRef : String)
  | oltOmciInternetConfig (fsp : String) (ontId ipIndex : ℤ)
  | oltOmciWanConfig (fsp : String) (ontId ipIndex profileId : ℤ)
  | oltReset (fsp : String) (ontId : ℤ)
  | acsAddObject (deviceId objectPath : String) (wcdIndex : Option ℤ)
  | acsDeleteObject (deviceId objectPath : String)
  | acsSetPppoe (deviceId : String) (wcdIndex instanceIndex : ℤ) (username passwordRef : String)
      (vlan : ℤ)
  | acsSetWifiConfig (deviceId : String) (paths : Tr069WifiParameterPaths) (enabled : Option Bool)
      (ssid passwordRef : Option String) (channel : Option ℤ) (securityMode : Option String)
  | acsSetRemoteAccess (deviceId : String) (paths : Tr069RemoteAccessParameterPaths)
      (sshEnabled : Option Bool) (sshPort : Option ℤ) (telnetEnabled : Option Bool)
  | acsSetNatEnabled (deviceId : String) (wcdIndex instanceIndex : ℤ) (enabled : Bool)
  | acsSetIpv6 (deviceId : String) (interfaceIndex : ℤ) (enabled requestPrefixes : Bool)
      (provenance : DesiredValueProvenance)
  | acsSetWanIp (deviceId dataModelRoot : String) (wcdIndex instanceIndex : ℤ) (mode : WanMode)
      (vlan : ℤ) (natEnabled : Bool) (ipAddress subnetMask gateway dnsServers : Option String)
      (tr181Paths : Option Tr181WanParameterPaths)
  | acsSetDhcpServer (deviceId : String) (enabled : Bool) (poolMin poolMax subnetMask : String)
      (gatewayIp : Option String)
  | acsSetManagementServer (deviceId crUsername crPasswordRef : String) (informIntervalSec : ℤ)
      (dataModelRoot : String) (acsUrl acsUsername acsPasswordRef : Option String)
deriving DecidableEq

namespace Action

def surface : Action → WriteSurface
  | oltAuthorize .. | oltModifyDescription .. | oltModifyLineProfile .. | oltModifyServiceProfile ..
  | oltClearIphost .. | oltIpconfig .. | oltTr069ServerConfig .. | oltCreateServicePort ..
  | oltDeleteServicePort .. | oltOmciPppoe .. | oltOmciInternetConfig .. | oltOmciWanConfig ..
  | oltReset .. => .olt
  | acsAddObject .. | acsDeleteObject .. | acsSetPppoe .. | acsSetWifiConfig ..
  | acsSetRemoteAccess .. | acsSetNatEnabled .. | acsSetIpv6 .. | acsSetWanIp ..
  | acsSetDhcpServer .. | acsSetManagementServer .. => .acs

def requiresReset : Action → Bool
  | oltAuthorize .. | oltModifyLineProfile .. | oltModifyServiceProfile ..
  | oltTr069ServerConfig .. => true
  | _ => false

end Action

inductive DriftValue
  | scalar (value : DesiredScalar)
  | port (value : ServicePort)
deriving DecidableEq

/-- A field whose desired value differs from what was observed. -/
structure Drift where
  field : String
  surface : WriteSurface
  desired : DriftValue
  observed : DriftValue
  repairable : Bool
deriving DecidableEq

def ontNotInforming : String := "ont_not_informing"

def acsIdentityUnresolved : String := "acs_identity_unresolved"

end DotmacSub.Network
