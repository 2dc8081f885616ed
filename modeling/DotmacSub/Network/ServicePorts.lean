import DotmacSub.Core.IndexRange
import DotmacSub.Models.ServicePorts

/-!
# The service port allocator

`services/network/service_port_allocator.py`: indices are allocated from a pool in the database,
whose cache of the next index and of the number of indices left is recomputed by most calls.
-/

namespace DotmacSub.ServicePorts

open Store Checked

variable {π τ ε : Type}

def allocationError (message : String) : DomainError := ⟨"AllocationError", message, []⟩

/-- The allocation was provisioned, and its result was stored. -/
def ServicePortAllocation.Replayable (allocation : ServicePortAllocation π) : Prop :=
  allocation.provisionedAt.isSome ∧ allocation.resultPayload.isSome

instance (allocation : ServicePortAllocation π) : Decidable allocation.Replayable :=
  inferInstanceAs (Decidable (_ ∧ _))

def ServicePortAllocation.released (allocation : ServicePortAllocation π) (now : ℤ) :
    ServicePortAllocation π :=
  { allocation with isActive := false, releasedAt := some now }

def OltServicePortPool.new (id oltId : ℕ) (minIndex maxIndex : ℤ) : OltServicePortPool :=
  ⟨id, oltId, minIndex, maxIndex, none, some minIndex, none, true⟩

namespace OltServicePortPool

def reserved (pool : OltServicePortPool) : Finset ℤ :=
  ((pool.reservedIndices.getD []).filter fun index =>
    pool.minIndex ≤ index ∧ index ≤ pool.maxIndex).toFinset

/-- The first free index from a start, wrapping around. -/
def findNextAvailable (pool : OltServicePortPool) (allocated : Finset ℤ)
    (startFrom : Option ℤ := none) : Option ℤ :=
  IndexRange.search pool.minIndex pool.maxIndex allocated pool.reserved
    (startFrom.getD pool.minIndex)

/-- The pool with its cache recomputed, the next index being searched from `startFrom`. -/
def withCache (pool : OltServicePortPool) (allocated : Finset ℤ)
    (startFrom : Option ℤ := none) : OltServicePortPool :=
  let totalRange := pool.maxIndex - pool.minIndex + 1
  { pool with
    availableCount := some (totalRange - allocated.card - pool.reserved.card)
    nextAvailableIndex := pool.findNextAvailable allocated startFrom }

def IsAvailableIndex (pool : OltServicePortPool) (index : ℤ) (allocated : Finset ℤ) : Prop :=
  (pool.minIndex ≤ index ∧ index ≤ pool.maxIndex) ∧ index ∉ allocated ∧ index ∉ pool.reserved

instance (pool : OltServicePortPool) (index : ℤ) (allocated : Finset ℤ) :
    Decidable (pool.IsAvailableIndex index allocated) := inferInstanceAs (Decidable (_ ∧ _ ∧ _))

/-- The index an allocation takes: the cached one if it is available, else the next one. -/
def chooseIndex (pool : OltServicePortPool) (allocated : Finset ℤ) : Option ℤ :=
  let cached := pool.nextAvailableIndex.filter (pool.IsAvailableIndex · allocated)
  (cached <|> pool.findNextAvailable allocated) <|>
    pool.findNextAvailable allocated (some pool.minIndex)

def reserving (pool : OltServicePortPool) (indices : List ℤ) : OltServicePortPool :=
  let existing := ((pool.reservedIndices.getD []) ++ indices).dedup
  { pool with reservedIndices := some (existing.insertionSort (· ≤ ·)) }

end OltServicePortPool

namespace PortDb

/-- The indices of all allocation rows of a pool, released ones included. -/
def allocatedIndices (db : PortDb π) (poolId : ℕ) : Finset ℤ :=
  ((db.allocations.rows.filter (·.poolId = poolId)).map (·.portIndex)).toFinset

def importedServicePortIndices (db : PortDb π) (oltId : ℕ) : Finset ℤ :=
  ((db.servicePorts.filter (·.oltDeviceId = oltId)).map (·.portIndex)).toFinset

def unavailableIndices (db : PortDb π) (pool : OltServicePortPool) : Finset ℤ :=
  db.allocatedIndices pool.id ∪ db.importedServicePortIndices pool.oltDeviceId

/-- Count the free indices of a pool anew. -/
def refreshPoolCache (db : PortDb π) (poolId : ℕ) : PortDb π :=
  { db with
    pools := db.pools.update poolId (fun pool => pool.withCache (db.unavailableIndices pool))
      fun _ => rfl }

def activePool (db : PortDb π) (oltId : ℕ) : Option OltServicePortPool :=
  db.pools.rows.find? fun pool => pool.oltDeviceId = oltId ∧ pool.isActive

def getOrCreatePool (db : PortDb π) (oltId : ℕ) :
    Except DomainError (PortDb π × OltServicePortPool) :=
  match db.activePool oltId with
  | some pool => .ok (db, pool)
  | none => do
    ensure (oltId ∈ db.oltDevices) (allocationError ("OLT " ++ toString oltId ++ " not found"))
    ensure (∀ pool ∈ db.pools.rows, pool.oltDeviceId ≠ oltId)
      (.integrityError "uq_olt_service_port_pools_olt")
    return ({ db with pools := db.pools.insert (.new · oltId 0 65535) fun _ => rfl },
      .new db.pools.next oltId 0 65535)

def findAllocationByCorrelationKey (db : PortDb π) (correlationKey : String) :
    Option (ServicePortAllocation π) :=
  db.allocations.rows.find? (·.correlationKey = some correlationKey)

end PortDb

structure AllocationRequest where
  oltId : ℕ
  ontId : ℕ
  serviceType : Option String := none
  vlanId : Option ℤ := none
  gemIndex : Option ℤ := none
  correlationKey : Option String := none
deriving DecidableEq

/-- The key of a request that replays: neither absent nor empty. -/
def AllocationRequest.replayKey (request : AllocationRequest) : Option String :=
  request.correlationKey.filter (· ≠ "")

namespace PortDb

def replayed (db : PortDb π) (request : AllocationRequest) : Option (ServicePortAllocation π) :=
  (request.replayKey.bind db.findAllocationByCorrelationKey).filter
    (decide <| ServicePortAllocation.Replayable ·)

def KeyTaken (db : PortDb π) (request : AllocationRequest) : Prop :=
  request.correlationKey.isSome ∧
    ∃ row ∈ db.allocations.rows, row.correlationKey = request.correlationKey

instance (db : PortDb π) (request : AllocationRequest) : Decidable (db.KeyTaken request) :=
  inferInstanceAs (Decidable (_ ∧ ∃ _ ∈ _, _))

def addAllocation (db : PortDb π) (poolId : ℕ) (portIndex : ℤ) (request : AllocationRequest) :
    PortDb π × ServicePortAllocation π :=
  let row (id : ℕ) : ServicePortAllocation π :=
    { id, poolId, ontUnitId := request.ontId, portIndex, vlanId := request.vlanId
      gemIndex := request.gemIndex, serviceType := request.serviceType
      correlationKey := request.correlationKey, resultPayload := none, isActive := true
      provisionedAt := none, releasedAt := none }
  ({ db with allocations := db.allocations.insert row fun _ => rfl }, row db.allocations.next)

def cachePool (db : PortDb π) (cached : OltServicePortPool) : PortDb π :=
  { db with
    pools := db.pools.update cached.id
      (fun row => { row with
        nextAvailableIndex := cached.nextAvailableIndex
        availableCount := cached.availableCount }) fun _ => rfl }

/-- Allocate the next index of the pool of an OLT to an ONT. -/
def allocateServicePort (db : PortDb π) (request : AllocationRequest) :
    Except DomainError (PortDb π × ServicePortAllocation π) :=
  match db.replayed request with
  | some existing => .ok (db, existing)
  | none => do
    let (db, pool) ← db.getOrCreatePool request.oltId
    ensure (request.ontId ∈ db.ontUnits)
      (allocationError ("ONT " ++ toString request.ontId ++ " not found"))
    let allocated := db.unavailableIndices pool
    let portIndex ← orRefuse (pool.chooseIndex allocated) (allocationError
      ("No available service-port indices on OLT (pool " ++ toString pool.id ++ ")"))
    -- the flush: a second row with the key breaks its unique constraint
    ensure (¬ db.KeyTaken request) (allocationError
      "Service-port allocation failed: uq_service_port_allocations_correlation_key")
    let (db, allocation) := db.addAllocation pool.id portIndex request
    let cached := pool.withCache (insert portIndex allocated) (some (portIndex + 1))
    return (db.cachePool cached, allocation)

/-- Mark the allocations that satisfy `p` as released. -/
def deactivate (db : PortDb π) (p : ServicePortAllocation π → Prop) [DecidablePred p] (now : ℤ) :
    PortDb π :=
  { db with
    allocations := db.allocations.map
      (fun row => if p row then row.released now else row)
      fun row => by
        split_ifs
        · rfl
        · rfl }

/-- Give one index back. -/
def releaseServicePort (db : PortDb π) (allocationId : ℕ) (now : ℤ) : PortDb π × Bool :=
  match (db.allocations.get? allocationId).filter (·.isActive) with
  | none => (db, false)
  | some allocation =>
    ((db.deactivate (·.id = allocationId) now).refreshPoolCache allocation.poolId, true)

/-- Give the indices of an ONT back. -/
def releaseAllForOnt (db : PortDb π) (ontId : ℕ) (now : ℤ) : PortDb π × ℕ :=
  let allocations := db.allocations.rows.filter fun row => row.ontUnitId = ontId ∧ row.isActive
  let poolIds := (allocations.map (·.poolId)).dedup
  (poolIds.foldl refreshPoolCache
    (db.deactivate (fun row => row.ontUnitId = ontId ∧ row.isActive) now), allocations.length)

structure SyncCounts where
  created : ℕ
  released : ℕ
  matched : ℕ
  orphaned : ℕ
deriving DecidableEq

/-- Release the allocations of an OLT that are not among the observed indices. -/
def syncAllocationsFromOlt (db : PortDb π) (oltId : ℕ) (actualPorts : List ℤ) (now : ℤ) :
    Except DomainError (PortDb π × SyncCounts) := do
  let (db, pool) ← db.getOrCreatePool oltId
  let existing := db.allocations.rows.filter fun row => row.poolId = pool.id ∧ row.isActive
  let matched := actualPorts.countP fun index => index ∈ existing.map (·.portIndex)
  let stale := existing.filter (·.portIndex ∉ actualPorts)
  let db := db.deactivate
    (fun row => row.poolId = pool.id ∧ row.isActive ∧ row.portIndex ∉ actualPorts) now
  return (db.refreshPoolCache pool.id,
    ⟨0, stale.length, matched, actualPorts.length - matched⟩)

def writeReserved (db : PortDb π) (poolId : ℕ) (indices : List ℤ) : PortDb π :=
  { db with pools := db.pools.update poolId (·.reserving indices) fun _ => rfl }

/-- Set the indices of a pool that are not handed out. -/
def reserveIndices (db : PortDb π) (oltId : ℕ) (indices : List ℤ) :
    Except DomainError (PortDb π) := do
  let (db, pool) ← db.getOrCreatePool oltId
  return (db.writeReserved pool.id indices).refreshPoolCache pool.id

/-- Clear what a failed write must not leave behind for a replay. -/
def forget (db : PortDb π) (allocationId : ℕ) : PortDb π :=
  { db with
    allocations := db.allocations.update allocationId
      ({ · with resultPayload := none, correlationKey := none }) fun _ => rfl }

def markProvisioned (db : PortDb π) (allocationId : ℕ) (payload : Option (Option π)) (now : ℤ) :
    PortDb π :=
  { db with
    allocations := db.allocations.update allocationId
      (fun row => { row with
        resultPayload := payload.getD row.resultPayload
        provisionedAt := some now }) fun _ => rfl }

end PortDb

/-- The callbacks of a write to the OLT: the write itself, whether its result is a success (every
result is, without the callback), and how the result is stored. -/
structure Provisioning (π τ ε : Type) where
  provision : ServicePortAllocation π → Except ε τ
  provisioned : Option (τ → Bool) := none
  serializeResult : Option (τ → Option π) := none
  deserializeResult : Option (π → τ) := none

def Provisioning.isProvisioned (callbacks : Provisioning π τ ε) (result : τ) : Bool :=
  callbacks.provisioned.elim true (· result)

/-- How a call ends: with a stored result, with the result of a write that succeeded or failed, with
what the write raised, or with a refusal of the allocation. -/
inductive PortOutcome (π τ ε : Type)
  | replayed (existing : ServicePortAllocation π) (result : τ)
  | provisioned (allocation : ServicePortAllocation π) (result : τ)
  | notProvisioned (allocation : ServicePortAllocation π) (result : τ)
  | raised (allocation : ServicePortAllocation π) (e : ε)
  | refused (e : DomainError)

namespace PortDb

def storedResult (db : PortDb π) (request : AllocationRequest) (callbacks : Provisioning π τ ε) :
    Option (ServicePortAllocation π × τ) := do
  let deserialize ← callbacks.deserializeResult
  let existing ← db.replayed request
  let payload ← existing.resultPayload
  return (existing, deserialize payload)

/-- Allocate an index and run the OLT write before the transaction is committed. -/
def withAllocatedServicePort (db : PortDb π) (request : AllocationRequest)
    (callbacks : Provisioning π τ ε) (now : ℤ) : PortDb π × PortOutcome π τ ε :=
  match db.storedResult request callbacks with
  | some (existing, result) => (db, .replayed existing result)
  | none =>
    match db.allocateServicePort request with
    | .error e => (db, .refused e)
    | .ok (allocated, allocation) =>
      match callbacks.provision allocation with
      -- the release is rolled back with the allocation
      | .error e => (db, .raised allocation e)
      | .ok result =>
        if callbacks.isProvisioned result then
          (allocated.markProvisioned allocation.id
            (callbacks.serializeResult.map (· result)) now, .provisioned allocation result)
        else
          (((allocated.forget allocation.id).releaseServicePort allocation.id now).1,
            .notProvisioned allocation result)

end PortDb

end DotmacSub.ServicePorts
