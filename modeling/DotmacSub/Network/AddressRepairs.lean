import DotmacSub.Core.Checked
import DotmacSub.Core.Text
import DotmacSub.Models.DomainErrors
import DotmacSub.Models.ServiceExtension
import Mathlib.Data.List.Infix
import Mathlib.Data.List.Sort

/-!
# IPv4 assignment repairs

`ip_assignment_lifecycle.py` changes which address a service holds: a repair is previewed, reviewed,
and planned once more when it is executed, and an ownership link attaches an assignment that names
an account only.
-/

namespace DotmacSub.AddressRepairs

open Checked Store DomainError
open ServiceExtensions (SubscriptionStatus)

inductive IPVersion
  | ipv4
  | ipv6
deriving DecidableEq

/-- The version and the address columns of an assignment, which a check constraint ties together. -/
inductive HeldAddress
  | ipv4 (addressId : ℕ)
  | ipv6 (addressId : ℕ)
deriving DecidableEq

structure IPAssignment where
  id : ℕ
  subscriberId : Option ℕ
  subscriptionId : Option ℕ
  serviceAddressId : Option ℕ
  address : HeldAddress
  isPrimary : Bool
  prefixLength : Option ℕ
  gateway : Option String
  dnsPrimary : Option String
  dnsSecondary : Option String
  isActive : Bool
deriving DecidableEq

instance : Row IPAssignment := ⟨IPAssignment.id⟩

def IPAssignment.ipv4AddressId (row : IPAssignment) : Option ℕ :=
  match row.address with
  | .ipv4 addressId => some addressId
  | .ipv6 _ => none

/-- An active IPv4 assignment of a service. -/
def IPAssignment.Serves (row : IPAssignment) (service : ℕ) : Prop :=
  row.isActive ∧ row.ipv4AddressId.isSome ∧ row.subscriptionId = some service

instance (row : IPAssignment) (service : ℕ) : Decidable (row.Serves service) := by
  unfold IPAssignment.Serves
  infer_instance

/-- `uq_ip_assignments_ipv4_active`, `uq_ip_assignments_ipv6_active` and
`uq_ip_assignments_primary_ipv4_active`. -/
structure Indexed (rows : Table IPAssignment) : Prop where
  active : ∀ r ∈ rows.rows, ∀ r' ∈ rows.rows, r.isActive → r'.isActive → r.address = r'.address →
    r.id = r'.id
  primary : ∀ r ∈ rows.rows, ∀ r' ∈ rows.rows, ∀ service ∈ r.subscriptionId,
    r.Serves service → r'.Serves service → r.isPrimary → r'.isPrimary → r.id = r'.id

instance (rows : Table IPAssignment) : Decidable (Indexed rows) :=
  decidable_of_iff (_ ∧ _) ⟨fun h => ⟨h.1, h.2⟩, fun h => ⟨h.active, h.primary⟩⟩

/-- The assignments, with the partial unique indexes of the table; `flush` keeps them. -/
structure Ledger where
  rows : Table IPAssignment
  indexed : Indexed rows

/-- `db.flush()`. -/
def flush (rows : Table IPAssignment) : Except DomainError Ledger :=
  if h : Indexed rows then .ok ⟨rows, h⟩ else .error (integrityError "uq_ip_assignments")

structure Subscription where
  id : ℕ
  subscriberId : ℕ
  status : SubscriptionStatus
  serviceAddressId : Option ℕ
  ipv4Address : Option String

instance : Row Subscription := ⟨Subscription.id⟩

structure IPv4Address where
  address : String
  poolId : Option ℕ
  isReserved : Bool
  ontUnitId : Option ℕ
  allocationType : Option String

structure IpPool where
  name : String
  ipVersion : IPVersion
  cidr : String
  gateway : Option String
  dnsPrimary : Option String
  dnsSecondary : Option String
  isActive : Bool
  oltDeviceId : Option ℕ
  notes : Option String

structure DeviceHost where
  isActive : Bool
  addresses : List (Option String)

/-- The inventory: `networkDevices` to `radiusClients` are the devices of the eligibility check, where
a router has no active flag and counts as active. -/
structure Registry where
  subscriptions : Table Subscription
  subscribers : List ℕ
  address : ℕ → Option IPv4Address
  pool : ℕ → Option IpPool
  activeRoutes : List String
  networkDevices : List DeviceHost
  nasDevices : List DeviceHost
  oltDevices : List DeviceHost
  routers : List DeviceHost
  radiusClients : List DeviceHost

def normalizedIp (value : Option String) : String := Text.strip (value.getD "")

/-- `int` of a string of ASCII digits. -/
def digits? (text : List Char) : Option ℕ :=
  if text ≠ [] ∧ text.all Char.isDigit then
    some (text.foldl (fun n c => 10 * n + (c.toNat - '0'.toNat)) 0)
  else none

/-- One decimal octet of `ipaddress.IPv4Address`. -/
def parseOctet (text : List Char) : Option ℕ :=
  if text.length ≤ 3 ∧ (text = ['0'] ∨ text.head? ≠ some '0') then
    (digits? text).filter (· ≤ 255)
  else none

def parseIPv4 (text : List Char) : Option ℕ :=
  match (text.splitOnP (· = '.')).map parseOctet with
  | [some a, some b, some c, some d] => some (((a * 256 + b) * 256 + c) * 256 + d)
  | _ => none

/-- A prefix length, or the netmask or the host mask that stands for one. -/
def parsePrefix (text : List Char) : Option ℕ :=
  match digits? text with
  | some length => if length ≤ 32 then some length else none
  | none => (parseIPv4 text).bind fun mask =>
    ((List.range 33).find? fun length => mask = 2 ^ 32 - 2 ^ (32 - length)).or
      ((List.range 33).find? fun length => mask = 2 ^ (32 - length) - 1)

/-- `ipaddress.ip_network(cidr, strict=False)`, when that is an IPv4 network: an address in it and
the prefix length. -/
def parseNetwork (cidr : String) : Option (ℕ × ℕ) :=
  match cidr.toList.splitOnP (· = '/') with
  | [address] => (parseIPv4 address).map fun value => (value, 32)
  | [address, length] => do some (← parseIPv4 address, ← parsePrefix length)
  | _ => none

def prefixLength (pool : Option IpPool) : Option ℕ :=
  pool.bind fun pool => (parseNetwork pool.cidr).map Prod.snd

def addressIsInActiveRoutedBlock (registry : Registry) (address : String) : Bool :=
  match parseIPv4 address.toList with
  | none => true
  | some parsed => registry.activeRoutes.any fun cidr =>
    match parseNetwork cidr with
    | some (base, length) => parsed / 2 ^ (32 - length) = base / 2 ^ (32 - length)
    | none => false

/-- `value.strip().lower()`, as far as ASCII letters go: no marker has another letter. -/
def lowered (value : String) : List Char := (Text.strip value).toList.map Char.toLower

def infrastructurePoolMarkers : List String := ["management", "mgmt", "mgt"]

def poolIsInfrastructure (pool : IpPool) : Bool :=
  pool.oltDeviceId.isSome || infrastructurePoolMarkers.any fun marker =>
    marker.toList <:+: lowered (pool.name ++ " " ++ pool.notes.getD "")

def targetAddressIsServiceable (address : IPv4Address) (pool : Option IpPool) : Bool :=
  if address.isReserved ∨ address.ontUnitId.isSome then false
  else if lowered (address.allocationType.getD "") = "management".toList then false
  else match pool with
    | none => false
    | some pool => pool.isActive && pool.ipVersion = .ipv4 && !poolIsInfrastructure pool

def targetAddressIsDeviceHost (registry : Registry) (address : String) : Bool :=
  [registry.networkDevices, registry.nasDevices, registry.oltDevices, registry.routers,
    registry.radiusClients].any (·.any fun device => device.isActive &&
      device.addresses.any fun held => held = some address ∨ held = some (address ++ "/32"))

def retainingStatuses : List SubscriptionStatus :=
  [.active, .archived, .blocked, .disabled, .hidden, .pending, .suspended, .stopped]

def terminalStatuses : List SubscriptionStatus := [.canceled, .expired]

inductive RepairDecision
  | readyCreate
  | readyLink
  | readyKeep
  | readyRelease
  | noop
  | subscriptionNotFound
  | subscriberNotFound
  | subscriptionNotServiceable
  | subscriptionNotTerminal
  | targetAddressNotFound
  | targetAddressNotServiceable
  | targetAddressInRoutedBlock
  | targetAddressIsDeviceHost
  | targetOwnedByOtherService
  | deactivationAssignmentNotFound
  | deactivationNotExactService
  | desiredAssignmentSelectedForDeactivation
  | incompleteDeactivationSet
deriving DecidableEq

def RepairDecision.value : RepairDecision → String
  | readyCreate => "ready_create"
  | readyLink => "ready_link"
  | readyKeep => "ready_keep"
  | readyRelease => "ready_release"
  | noop => "noop"
  | subscriptionNotFound => "subscription_not_found"
  | subscriberNotFound => "subscriber_not_found"
  | subscriptionNotServiceable => "subscription_not_serviceable"
  | subscriptionNotTerminal => "subscription_not_terminal"
  | targetAddressNotFound => "target_address_not_found"
  | targetAddressNotServiceable => "target_address_not_serviceable"
  | targetAddressInRoutedBlock => "target_address_in_routed_block"
  | targetAddressIsDeviceHost => "target_address_is_device_host"
  | targetOwnedByOtherService => "target_owned_by_other_service"
  | deactivationAssignmentNotFound => "deactivation_assignment_not_found"
  | deactivationNotExactService => "deactivation_not_exact_service"
  | desiredAssignmentSelectedForDeactivation => "desired_assignment_selected_for_deactivation"
  | incompleteDeactivationSet => "incomplete_deactivation_set"

def RepairDecision.applicable : RepairDecision → Bool
  | readyCreate | readyLink | readyKeep | readyRelease => true
  | _ => false

structure AssignmentEvidence where
  assignmentId : ℕ
  subscriberId : Option ℕ
  subscriptionId : Option ℕ
  addressId : ℕ
  address : String
deriving DecidableEq

def evidence (registry : Registry) (row : IPAssignment) : Option AssignmentEvidence :=
  row.ipv4AddressId.map fun addressId => {
    assignmentId := row.id
    subscriberId := row.subscriberId
    subscriptionId := row.subscriptionId
    addressId := addressId
    address := normalizedIp ((registry.address addressId).map (·.address)) }

def IPAssignment.Visible (row : IPAssignment) (account : ℕ) (desired : Option ℕ) : Prop :=
  row.subscriberId = some account ∨ (desired.isSome ∧ row.ipv4AddressId = desired)

instance (row : IPAssignment) (account : ℕ) (desired : Option ℕ) :
    Decidable (row.Visible account desired) := by
  unfold IPAssignment.Visible
  infer_instance

def activeAssignmentEvidence (registry : Registry) (ledger : Ledger) (account : ℕ)
    (desired : Option ℕ) : List AssignmentEvidence :=
  ((ledger.rows.rows.filter fun row => row.isActive ∧ row.Visible account desired).insertionSort
    (·.id ≤ ·.id)).filterMap (evidence registry)

structure RepairPreview where
  subscriptionId : ℕ
  subscriberId : Option ℕ
  desiredAddressId : Option ℕ
  desiredAddress : Option String
  deactivateAssignmentIds : List ℕ
  activeAssignments : List AssignmentEvidence
  decision : RepairDecision

def releaseDecision (subscription : Subscription) (active : List AssignmentEvidence)
    (deactivate : List ℕ) : RepairDecision :=
  let exactRows := active.filter (·.subscriptionId = some subscription.id)
  if subscription.status ∉ terminalStatuses then .subscriptionNotTerminal
  else if exactRows.filter (·.assignmentId ∉ deactivate) ≠ [] then .incompleteDeactivationSet
  else if exactRows = [] then .noop
  else .readyRelease

def heldDecision (assignment : Option AssignmentEvidence) (deactivate : List ℕ) : RepairDecision :=
  match assignment with
  | none => .readyCreate
  | some item =>
    if item.subscriptionId = none then .readyLink
    else if deactivate ≠ [] then .readyKeep
    else .noop

/-- What is decided of the desired address. -/
def targetDecision (registry : Registry) (subscription : Subscription) (target : IPv4Address)
    (desired : ℕ) (active : List AssignmentEvidence) (deactivate : List ℕ) : RepairDecision :=
  let desiredAddress := normalizedIp (some target.address)
  let assignment := active.find? (·.addressId = desired)
  let remainingExact := active.filter fun item =>
    item.subscriptionId = some subscription.id ∧ item.addressId ≠ desired ∧
      item.assignmentId ∉ deactivate
  if ¬targetAddressIsServiceable target (target.poolId.bind registry.pool) then
    .targetAddressNotServiceable
  else if addressIsInActiveRoutedBlock registry desiredAddress then .targetAddressInRoutedBlock
  else if targetAddressIsDeviceHost registry desiredAddress then .targetAddressIsDeviceHost
  else if ∃ item ∈ assignment, item.subscriberId ≠ some subscription.subscriberId ∨
      item.subscriptionId ∉ [none, some subscription.id] then .targetOwnedByOtherService
  else if ∃ item ∈ assignment, item.assignmentId ∈ deactivate then
    .desiredAssignmentSelectedForDeactivation
  else if remainingExact ≠ [] then .incompleteDeactivationSet
  else heldDecision assignment deactivate

def desiredDecision (registry : Registry) (subscription : Subscription) (desired : ℕ)
    (active : List AssignmentEvidence) (deactivate : List ℕ) : RepairDecision :=
  if subscription.status ∉ retainingStatuses then .subscriptionNotServiceable
  else match registry.address desired with
    | none => .targetAddressNotFound
    | some target => targetDecision registry subscription target desired active deactivate

def serviceDecision (registry : Registry) (subscription : Subscription) (desired : Option ℕ)
    (active : List AssignmentEvidence) (deactivate : List ℕ) : RepairDecision :=
  let requested := deactivate.map fun id => active.find? (·.assignmentId = id)
  if none ∈ requested then .deactivationAssignmentNotFound
  else if ∃ item ∈ requested.reduceOption, item.subscriptionId ≠ some subscription.id then
    .deactivationNotExactService
  else match desired with
    | none => releaseDecision subscription active deactivate
    | some desired => desiredDecision registry subscription desired active deactivate

/-- The address of the target, once the checks that come before it have passed. -/
def desiredText (registry : Registry) (decision : RepairDecision) (desired : Option ℕ) :
    Option String :=
  if decision ∈ [RepairDecision.deactivationAssignmentNotFound, .deactivationNotExactService,
      .subscriptionNotServiceable] then none
  else (desired.bind registry.address).map fun target => normalizedIp (some target.address)

/-- What a repair would do, or why it may not. -/
def previewRepair (registry : Registry) (ledger : Ledger) (subscriptionId : ℕ)
    (desired : Option ℕ) (deactivateIds : List ℕ) : RepairPreview :=
  let deactivate := deactivateIds.dedup.insertionSort (· ≤ ·)
  match registry.subscriptions.get? subscriptionId with
  | none => ⟨subscriptionId, none, desired, none, deactivate, [], .subscriptionNotFound⟩
  | some subscription =>
    if subscription.subscriberId ∉ registry.subscribers then
      ⟨subscriptionId, some subscription.subscriberId, desired, none, deactivate, [],
        .subscriberNotFound⟩
    else
      let active := activeAssignmentEvidence registry ledger subscription.subscriberId desired
      let decision := serviceDecision registry subscription desired active deactivate
      ⟨subscriptionId, some subscription.subscriberId, desired,
        desiredText registry decision desired, deactivate, active, decision⟩

def IPAssignment.mark (row : IPAssignment) (isPrimary : Bool) : IPAssignment :=
  { row with isPrimary := isPrimary }

/-- `mark_primary_ipv4_assignment`: siblings are demoted before the target is promoted. -/
def markPrimary (ledger : Ledger) (service : ℕ) (addressId : Option ℕ) :
    Except DomainError (Ledger × Bool) :=
  match addressId with
  | none => .ok (ledger, false)
  | some addressId =>
    let activeIPv4 := ledger.rows.rows.filter (·.Serves service)
    match activeIPv4.find? (·.ipv4AddressId = some addressId) with
    | none => .ok (ledger, false)
    | some target => do
        let demoted ← flush (ledger.rows.map (fun row => row.mark
          (row.isPrimary && !(row.Serves service && row.id ≠ target.id))) fun _ => rfl)
        let promoted ← flush (demoted.rows.update target.id (·.mark true) fun _ => rfl)
        .ok (promoted, true)

inductive OwnershipDecision
  | exact
  | repairableMissingServiceLink
  | missingSubscriber
  | missingSubscription
  | subscriberMismatch
  | servedAddressMismatch
  | ambiguousActiveServices
  | ambiguousActiveAssignments
deriving DecidableEq

structure OwnershipItem where
  assignmentId : ℕ
  subscriberId : Option ℕ
  currentSubscriptionId : Option ℕ
  proposedSubscriptionId : Option ℕ
  address : String
  decision : OwnershipDecision

def Registry.activeSubscriptions (registry : Registry) : List Subscription :=
  registry.subscriptions.rows.filter (·.status = .active)

def Ledger.activeIPv4 (ledger : Ledger) : List IPAssignment :=
  (ledger.rows.rows.filter fun row => row.isActive ∧ row.ipv4AddressId.isSome).insertionSort
    (·.id ≤ ·.id)

/-- Whose the address is, by its assignments. -/
def ownershipDecision (registry : Registry) (ledger : Ledger) (row : IPAssignment)
    (account : ℕ) (address : String) : OwnershipDecision × Option ℕ :=
  let unambiguous := (ledger.activeIPv4.filter (·.subscriberId = some account)).length = 1
  match row.subscriptionId with
  | some current =>
    match registry.activeSubscriptions.find? (·.id = current) with
    | none => (.missingSubscription, none)
    | some linked =>
      if linked.subscriberId ≠ account then (.subscriberMismatch, none)
      else if normalizedIp linked.ipv4Address ≠ address then (.servedAddressMismatch, none)
      else if ¬unambiguous then (.ambiguousActiveAssignments, none)
      else (.exact, none)
  | none =>
    match registry.activeSubscriptions.filter (·.subscriberId = account) with
    | [subscription] =>
      if ¬unambiguous then (.ambiguousActiveAssignments, none)
      else if normalizedIp subscription.ipv4Address ≠ address then
        (.servedAddressMismatch, none)
      else (.repairableMissingServiceLink, some subscription.id)
    | _ => (.ambiguousActiveServices, none)

def ownershipItem (registry : Registry) (ledger : Ledger) (row : IPAssignment) : OwnershipItem :=
  let address := normalizedIp ((row.ipv4AddressId.bind registry.address).map (·.address))
  let (decision, proposed) := match row.subscriberId with
    | none => (.missingSubscriber, none)
    | some account => ownershipDecision registry ledger row account address
  ⟨row.id, row.subscriberId, row.subscriptionId, proposed, address, decision⟩

/-- What a reviewed repair of links would do, item by item. -/
def previewOwnership (registry : Registry) (ledger : Ledger) (assignmentIds : List ℕ) :
    List OwnershipItem :=
  (ledger.activeIPv4.filter (·.id ∈ assignmentIds)).map (ownershipItem registry ledger)

/-- `hashlib.sha256` over the canonical JSON of a preview of either kind. -/
structure Digests where
  repair : RepairPreview → String
  ownership : List OwnershipItem → String

structure RepairCommand where
  idempotencyKey : Option String
  subscriptionId : ℕ
  desiredAddressId : Option ℕ
  deactivateAssignmentIds : List ℕ
  previewFingerprint : String

structure RepairOutcome where
  subscriptionId : ℕ
  desiredAssignmentId : Option ℕ
  linkedCount : ℕ
  createdCount : ℕ
  deactivatedCount : ℕ
  previewFingerprint : String
  replayed : Bool

structure LinkOutcome where
  previewFingerprint : String
  linkedCount : ℕ
  replayed : Bool

/-- The ledger, and the batch audits of both commands under their idempotency keys. -/
structure Database where
  ledger : Ledger
  repairs : List (String × RepairOutcome)
  links : List (String × LinkOutcome)

def lifecycleError (suffix message : String) (details : List (String × Detail) := []) :
    DomainError :=
  ⟨"network.ip_assignment_lifecycle." ++ suffix, message, details⟩

def contextKey (idempotencyKey : Option String) : String := Text.strip (idempotencyKey.getD "")

def Ledger.deactivate (ledger : Ledger) (ids : List ℕ) : Except DomainError Ledger :=
  flush (ledger.rows.map (fun row => if row.id ∈ ids then { row with isActive := false } else row)
    fun row => by split <;> rfl)

/-- The service takes the desired address: a new assignment, the link of one without a service, or
one that it has already. -/
def Ledger.take (registry : Registry) (ledger : Ledger) (subscription : Subscription)
    (desired : ℕ) : Except DomainError (Ledger × RepairOutcome) := do
  let outcome (id linked created : ℕ) : RepairOutcome :=
    ⟨subscription.id, some id, linked, created, 0, "", false⟩
  match ledger.rows.rows.find? (fun row => row.isActive ∧ row.address = .ipv4 desired) with
  | none =>
    let address ← orRefuse (registry.address desired)
      ⟨"AssertionError", "desired_address is not None", []⟩
    let pool := address.poolId.bind registry.pool
    let created ← flush (ledger.rows.insert (fun id => {
      id := id
      subscriberId := some subscription.subscriberId
      subscriptionId := some subscription.id
      serviceAddressId := subscription.serviceAddressId
      address := .ipv4 desired
      isPrimary := false
      prefixLength := prefixLength pool
      gateway := pool.bind (·.gateway)
      dnsPrimary := pool.bind (·.dnsPrimary)
      dnsSecondary := pool.bind (·.dnsSecondary)
      isActive := true }) fun _ => rfl)
    let (marked, _) ← markPrimary created subscription.id (some desired)
    .ok (marked, outcome ledger.rows.next 0 1)
  | some row =>
    if row.subscriptionId = none then do
      let linked ← flush (ledger.rows.update row.id (fun row => { row with
        subscriptionId := some subscription.id
        serviceAddressId := subscription.serviceAddressId }) fun _ => rfl)
      let (marked, _) ← markPrimary linked subscription.id row.ipv4AddressId
      .ok (marked, outcome row.id 1 0)
    else .ok (ledger, outcome row.id 0 0)

def Ledger.assign (registry : Registry) (ledger : Ledger) (subscription : Subscription)
    (desired : Option ℕ) : Except DomainError (Ledger × RepairOutcome) :=
  match desired with
  | none => .ok (ledger, ⟨subscription.id, none, 0, 0, 0, "", false⟩)
  | some desired => ledger.take registry subscription desired

variable (digests : Digests)

/-- A reviewed repair, replayed under its key. -/
def repair (registry : Registry) (db : Database) (command : RepairCommand) :
    Except DomainError (Database × RepairOutcome) := do
  let key := contextKey command.idempotencyKey
  ensure (key ≠ "") (lifecycleError "missing_idempotency_key" "An idempotency key is required.")
  ensure command.deactivateAssignmentIds.Nodup
    (lifecycleError "duplicate_assignment" "The deactivation cohort repeats an assignment.")
  match db.repairs.find? (·.1 = key) with
  | some (_, prior) =>
    ensure (prior.previewFingerprint = command.previewFingerprint)
      (lifecycleError "idempotency_conflict"
        "The idempotency key was already used for different IPAM evidence.")
    .ok (db, { prior with replayed := true })
  | none =>
    let subscription ← orRefuse (registry.subscriptions.get? command.subscriptionId)
      (lifecycleError "subscription_not_found" "The reviewed subscription no longer exists.")
    ensure (subscription.subscriberId ∈ registry.subscribers)
      (lifecycleError "subscriber_not_found"
        "The reviewed subscription no longer has a subscriber.")
    let current := previewRepair registry db.ledger command.subscriptionId
      command.desiredAddressId command.deactivateAssignmentIds
    let fingerprint := digests.repair current
    ensure (fingerprint = command.previewFingerprint)
      (lifecycleError "stale_preview"
        "IPAM lifecycle evidence changed after preview; preview again."
        [("current_fingerprint", .text fingerprint)])
    ensure current.decision.applicable
      (lifecycleError "unsafe_repair"
        "The reviewed IPAM lifecycle repair is no longer safe to apply."
        [("decision", .text current.decision.value)])
    let ledger ← db.ledger.deactivate current.deactivateAssignmentIds
    let (ledger, outcome) ← ledger.assign registry subscription command.desiredAddressId
    let outcome := { outcome with
      deactivatedCount := current.deactivateAssignmentIds.length
      previewFingerprint := fingerprint }
    .ok ({ db with ledger, repairs := (key, outcome) :: db.repairs }, outcome)

structure LinkCommand where
  idempotencyKey : Option String
  previewFingerprint : String
  assignmentIds : List ℕ

/-- Write the reviewed links, or answer with those of the key. -/
def reconcile (registry : Registry) (db : Database) (command : LinkCommand) :
    Except DomainError (Database × LinkOutcome) := do
  let key := contextKey command.idempotencyKey
  ensure (key ≠ "") (lifecycleError "missing_idempotency_key" "An idempotency key is required.")
  ensure (command.assignmentIds ≠ [])
    (lifecycleError "empty_cohort" "The reviewed repair cohort is empty.")
  ensure command.assignmentIds.Nodup
    (lifecycleError "duplicate_assignment" "The repair cohort repeats an assignment.")
  match db.links.find? (·.1 = key) with
  | some (_, prior) =>
    ensure (prior.previewFingerprint = command.previewFingerprint)
      (lifecycleError "idempotency_conflict"
        "The idempotency key was already used for different IPAM evidence.")
    .ok (db, { prior with replayed := true })
  | none =>
    ensure (∀ id ∈ command.assignmentIds, (db.ledger.rows.get? id).isSome)
      (lifecycleError "assignment_not_found" "A reviewed IP assignment no longer exists.")
    let current := previewOwnership registry db.ledger command.assignmentIds
    let fingerprint := digests.ownership current
    ensure (fingerprint = command.previewFingerprint)
      (lifecycleError "stale_preview"
        "IPAM ownership evidence changed after preview; preview again."
        [("current_fingerprint", .text fingerprint)])
    ensure (∀ item ∈ current, item.decision = .repairableMissingServiceLink)
      (lifecycleError "unsafe_cohort"
        "The reviewed cohort contains an ambiguous or already-linked assignment.")
    let ledger ← flush (db.ledger.rows.map (fun row =>
      match current.find? (·.assignmentId = row.id) with
      | some item => { row with subscriptionId := item.proposedSubscriptionId }
      | none => row) fun row => by split <;> rfl)
    let outcome : LinkOutcome := ⟨fingerprint, current.length, false⟩
    .ok ({ db with ledger, links := (key, outcome) :: db.links }, outcome)

inductive Command
  | repair (registry : Registry) (command : RepairCommand)
  | reconcile (registry : Registry) (command : LinkCommand)

/-- One command, with the inventory as it is at that time. -/
def step (db : Database) : Command → Except DomainError Database
  | .repair registry command => Prod.fst <$> repair digests registry db command
  | .reconcile registry command => Prod.fst <$> reconcile digests registry db command

end DotmacSub.AddressRepairs
