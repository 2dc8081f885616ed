import DotmacSub.Core.Checked
import DotmacSub.Core.Table
import DotmacSub.Models.DomainErrors
import Mathlib.Data.Finset.Image

/-!
# Service ports

The service port tables of `models/network.py`.  `π` is the type of the JSON objects that a
provisioning result is stored as.
-/

namespace DotmacSub.ServicePorts

open Store

/-- The indices of one OLT, with the cache of what is left of them. -/
structure OltServicePortPool where
  id : ℕ
  oltDeviceId : ℕ
  minIndex : ℤ
  maxIndex : ℤ
  reservedIndices : Option (List ℤ)
  nextAvailableIndex : Option ℤ
  availableCount : Option ℤ
  isActive : Bool
deriving DecidableEq

/-- An index handed out to an ONT; a released row keeps its index. -/
structure ServicePortAllocation (π : Type) where
  id : ℕ
  poolId : ℕ
  ontUnitId : ℕ
  portIndex : ℤ
  vlanId : Option ℤ
  gemIndex : Option ℤ
  serviceType : Option String
  correlationKey : Option String
  resultPayload : Option π
  isActive : Bool
  provisionedAt : Option ℤ
  releasedAt : Option ℤ
deriving DecidableEq

/-- The columns of an imported port that the allocator reads. -/
structure OltServicePort where
  oltDeviceId : ℕ
  portIndex : ℤ
deriving DecidableEq

instance : Row OltServicePortPool := ⟨OltServicePortPool.id⟩

instance {π : Type} : Row (ServicePortAllocation π) := ⟨ServicePortAllocation.id⟩

/-- The rows the allocator reads and writes. -/
structure PortDb (π : Type) where
  oltDevices : List ℕ
  ontUnits : List ℕ
  pools : Table OltServicePortPool
  allocations : Table (ServicePortAllocation π)
  servicePorts : List OltServicePort

end DotmacSub.ServicePorts
