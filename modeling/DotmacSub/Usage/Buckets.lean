import DotmacSub.Core.Checked
import DotmacSub.Core.Run
import DotmacSub.Models.Usage

/-!
# Writers of a quota bucket

The three operations of `services/usage.py` that write a bucket: a usage record adds to it, a
metering pass computes it anew from the accounting sessions, and a data top-up grants volume to it.
-/

namespace DotmacSub.Usage

open Decimal Checked

inductive UsageError
  | numericOverflow
deriving DecidableEq

def roundGb (value : ℚ) : ℚ := quantize halfUp 4 value

def roundBucketGb (value : ℚ) : ℚ := quantize halfUp 2 value

/-- Round a volume for its column, which may be too narrow for it. -/
def storeVolume (value : ℚ) : Except UsageError Volume :=
  if h : |roundBucketGb value| < 10 ^ 8 then .ok ⟨roundBucketGb value, onGrid_quantize, h⟩
  else .error .numericOverflow

/-- The thresholds of the setting, each once and in order. -/
def parseWarningThresholds (parts : List (Option ℚ)) : List ℚ :=
  (parts.reduceOption.filter fun threshold => 0 < threshold ∧ threshold < 3 / 2).dedup.mergeSort
    (· ≤ ·)

/-- What is announced when the usage of a bucket goes from one value to another. -/
def emitUsageEvents (settings : UsageSettings) (bucket : QuotaBucket) (previousUsed newUsed : ℚ) :
    List UsageEvent :=
  if settings.warnings = false then []
  else if bucket.included ≤ 0 then []
  else
    ((parseWarningThresholds settings.warningThresholds).filter fun threshold =>
      div previousUsed bucket.included < threshold ∧
        threshold ≤ div newUsed bucket.included).map
          (UsageEvent.usageWarning (roundGb newUsed) (roundGb bucket.included)) ++
    if previousUsed < bucket.included ∧ bucket.included ≤ newUsed then
      [.usageExhausted (roundGb newUsed) (roundGb bucket.included) bucket.periodEnd]
    else []

/-- Add a usage record to its bucket.  The record has a column of four places of its own, and the
volume it adds is that of the request. -/
def createRecord (settings : UsageSettings) (bucket : QuotaBucket) (totalGb : ℚ) :
    Except UsageError (QuotaBucket × List UsageEvent) := do
  ensure (|roundGb totalGb| < 10 ^ 8) .numericOverflow
  let newUsed := add bucket.usedGb.value totalGb
  let usedGb ← storeVolume newUsed
  let overageGb ← storeVolume (max (sub newUsed bucket.included) 0)
  return ({ bucket with usedGb, overageGb },
    emitUsageEvents settings bucket bucket.usedGb.value newUsed)

/-- The top-up is in its validity window. -/
def DataTopup.Active (now : ℤ) (topup : DataTopup) : Prop :=
  topup.grantGb.isSome ∧ (∀ start ∈ topup.startAt, start ≤ now) ∧ ∀ stop ∈ topup.endAt, now < stop

instance (now : ℤ) : DecidablePred (DataTopup.Active now) := fun _ => by
  unfold DataTopup.Active
  infer_instance

/-- The volume of a top-up; a missing quantity, or none, is one. -/
def DataTopup.volume (topup : DataTopup) : ℚ :=
  let quantity := match topup.quantity with
    | none | some 0 => 1
    | some quantity => quantity
  mul (topup.grantGb.getD 0 : ℤ) (quantity : ℤ)

/-- The volume of the top-ups that are valid. -/
def activeTopupGb (topups : List DataTopup) (now : ℤ) : ℚ :=
  (topups.filter (·.Active now)).foldl (fun total topup => add total topup.volume) 0

def gbBytes : ℚ := 1024 ^ 3

/-- A metering pass over the bucket: the usage of its sessions, and the allowances of the hour. -/
def meterBucket (bucket : QuotaBucket) (topups : List DataTopup) (octets : ℕ) (now : ℤ) :
    Except UsageError QuotaBucket := do
  let usedGb ← storeVolume (div octets gbBytes)
  let topupGb ← storeVolume (activeTopupGb topups now)
  let allowed := add (add bucket.included bucket.rolloverGb.value) topupGb.value
  let overage := sub usedGb.value allowed
  let overageGb ← if 0 < overage then storeVolume overage else .ok .zero
  return { bucket with usedGb, topupGb, overageGb }

/-! ## Data top-ups -/

/-- When a purchased top-up ends: after its validity, or with the period. -/
def topupEnd (bucket : QuotaBucket) (validityDays : Option ℤ) (now : ℤ) : ℤ :=
  match validityDays with
  | none | some 0 => bucket.periodEnd
  | some days => now + days * 86400000000

/-- Apply a purchased top-up to the bucket of its subscription. -/
def grantDataTopup (bucket : QuotaBucket) (topups : List DataTopup) (topup : DataTopup)
    (validityDays : Option ℤ) (now : ℤ) : Except UsageError (QuotaBucket × List DataTopup) := do
  let purchased := topups ++ [{ topup with endAt := some (topupEnd bucket validityDays now) }]
  let topupGb ← storeVolume (activeTopupGb purchased now)
  return ({ bucket with topupGb }, purchased)

/-! ## The writers together -/

/-- A bucket with the top-ups of its subscription and what was announced of it. -/
structure QuotaState where
  bucket : QuotaBucket
  topups : List DataTopup
  announced : List UsageEvent

inductive QuotaCommand
  | createRecord (totalGb : ℚ)
  | meter (octets : ℕ) (now : ℤ)
  | grantTopup (topup : DataTopup) (validityDays : Option ℤ) (now : ℤ)

def step (settings : UsageSettings) (state : QuotaState) :
    QuotaCommand → Except UsageError QuotaState
  | .createRecord totalGb => do
    let (bucket, events) ← createRecord settings state.bucket totalGb
    return { state with bucket, announced := state.announced ++ events }
  | .meter octets now => do
    let bucket ← meterBucket state.bucket state.topups octets now
    return { state with bucket }
  | .grantTopup topup validityDays now => do
    let (bucket, topups) ← grantDataTopup state.bucket state.topups topup validityDays now
    return { state with bucket, topups }

end DotmacSub.Usage
