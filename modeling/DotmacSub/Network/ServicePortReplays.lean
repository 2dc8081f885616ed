import DotmacSub.Network.ServicePortCaches

/-!
# Provisioned ports are held

Whether a call that reports a provisioned port leaves an active allocation behind it, over any
sequence of calls and releases.
-/

namespace DotmacSub.ServicePorts

open Store Checked Run

variable {π τ ε : Type}

/-- The database, and the allocations and indices that a successful write was made with. -/
structure PortRun (π : Type) where
  db : PortDb π
  writes : List (ℕ × ℤ)

/-- A call with its callbacks, or a release. -/
inductive PortCommand (π τ ε : Type)
  | provision (request : AllocationRequest) (callbacks : Provisioning π τ ε)
  | release (allocationId : ℕ)
  | releaseAll (ontId : ℕ)

/-- The write a call has made, if it succeeded. -/
def PortOutcome.write : PortOutcome π τ ε → List (ℕ × ℤ)
  | .provisioned allocation _ => [(allocation.id, allocation.portIndex)]
  | _ => []

namespace PortRun

def initial (oltDevices ontUnits : List ℕ) (pools : Table OltServicePortPool)
    (servicePorts : List OltServicePort) : PortRun π :=
  ⟨⟨oltDevices, ontUnits, pools, .empty, servicePorts⟩, []⟩

def call (s : PortRun π) (request : AllocationRequest) (callbacks : Provisioning π τ ε)
    (now : ℤ) : PortRun π × PortOutcome π τ ε :=
  let (db, outcome) := s.db.withAllocatedServicePort request callbacks now
  (⟨db, s.writes ++ outcome.write⟩, outcome)

def step (s : PortRun π) : PortCommand π τ ε × ℤ → Except Empty (PortRun π)
  | (.provision request callbacks, now) => .ok (s.call request callbacks now).1
  | (.release allocationId, now) =>
    .ok { s with db := (s.db.releaseServicePort allocationId now).1 }
  | (.releaseAll ontId, now) => .ok { s with db := (s.db.releaseAllForOnt ontId now).1 }

end PortRun

/-- Correlation keys are unique, and what can be replayed was written to the OLT. -/
structure Recorded (s : PortRun π) : Prop where
  keys : ∀ row ∈ s.db.allocations.rows, ∀ other ∈ s.db.allocations.rows,
    row.correlationKey.isSome → row.correlationKey = other.correlationKey → row = other
  written : ∀ row ∈ s.db.allocations.rows, row.Replayable → (row.id, row.portIndex) ∈ s.writes

/-- An active allocation that a successful write was made with. -/
def HeldAllocation (s : PortRun π) (allocationId : ℕ) : Prop :=
  ∃ row ∈ s.db.allocations.rows, row.id = allocationId ∧ row.isActive ∧
    (row.id, row.portIndex) ∈ s.writes

/-- Nothing is left of the allocation, and no row stands in the way of the key. -/
def Dropped (s : PortRun π) (request : AllocationRequest) (allocationId : ℕ) : Prop :=
  (∀ row ∈ s.db.allocations.rows, row.id = allocationId → row.isActive = false) ∧
    (s.db.KeyTaken request → (s.db.replayed request).isSome)

/-- What a call is to leave, by how it ended. -/
def Held (s : PortRun π) (request : AllocationRequest) : PortOutcome π τ ε → Prop
  | .replayed existing _ => HeldAllocation s existing.id
  | .provisioned allocation _ => HeldAllocation s allocation.id
  | .notProvisioned allocation _ => Dropped s request allocation.id
  | .raised allocation _ => Dropped s request allocation.id
  | .refused _ => True

/-- The call does not replay a released allocation, nor does it write again, and raise, for one
that is active. -/
def ReplaysActive (s : PortRun π) (request : AllocationRequest) (callbacks : Provisioning π τ ε) :
    Prop :=
  ∀ existing, s.db.replayed request = some existing →
    (callbacks.deserializeResult.isSome → existing.isActive = true) ∧
      (callbacks.deserializeResult = none →
        (∀ result, callbacks.provision existing = .ok result →
          callbacks.isProvisioned result = true → existing.isActive = true) ∧
        ∀ e, callbacks.provision existing = .error e → existing.isActive = false)

section Rows

variable {db db' : PortDb π} {s s' : PortRun π} {request : AllocationRequest} {now : ℤ}
  {allocation row : ServicePortAllocation π} {id : ℕ}

lemma replayed_eq_some (h : db.replayed request = some allocation) :
    allocation ∈ db.allocations.rows ∧ allocation.Replayable ∧
      request.correlationKey.isSome ∧ allocation.correlationKey = request.correlationKey := by
  obtain ⟨hfound, hreplayable⟩ := Option.filter_eq_some_iff.mp h
  obtain ⟨key, hkey, hfind⟩ := Option.bind_eq_some_iff.mp hfound
  obtain ⟨hrequest, -⟩ := Option.filter_eq_some_iff.mp hkey
  have hrow := List.find?_some hfind
  refine ⟨List.mem_of_find?_eq_some hfind, of_decide_eq_true hreplayable, ?_, ?_⟩
  · rw [hrequest]
    rfl
  · rw [hrequest]
    exact of_decide_eq_true hrow

lemma allocate_rows (h : db.allocateServicePort request = .ok (db', allocation)) :
    (db.replayed request = some allocation ∧ db' = db) ∨
      (db.replayed request = none ∧ ¬ db.KeyTaken request ∧
        db'.allocations.rows = db.allocations.rows ++ [allocation] ∧
        allocation.id = db.allocations.next ∧ allocation.isActive = true ∧
        allocation.correlationKey = request.correlationKey ∧ ¬ allocation.Replayable) := by
  cases hreplay : db.replayed request with
  | some existing =>
    rw [PortDb.allocateServicePort, hreplay] at h
    obtain ⟨rfl, rfl⟩ := mk_eq_ok.mp h
    exact .inl ⟨rfl, rfl⟩
  | none =>
    obtain ⟨created, pool, i, hcreate, -, -, hkey, rfl, rfl⟩ := (allocate_eq_ok_iff hreplay).mp h
    obtain ⟨-, hallocations, -, -⟩ := getOrCreatePool_frame hcreate
    refine .inr ⟨rfl, ?_, ?_, congrArg Table.next hallocations, rfl, rfl, ?_⟩
    · simpa only [PortDb.KeyTaken, hallocations] using hkey
    · rw [← hallocations]
      rfl
    · rintro ⟨hprovisioned, -⟩
      cases hprovisioned

lemma mem_of_allocate (h : db.allocateServicePort request = .ok (db', allocation)) :
    allocation ∈ db'.allocations.rows := by
  obtain ⟨hreplay, rfl⟩ | ⟨-, -, hrows, -⟩ := allocate_rows h
  · exact (replayed_eq_some hreplay).1
  · rw [hrows]
    exact List.mem_append_right _ List.mem_cons_self

lemma key_of_allocate (h : db.allocateServicePort request = .ok (db', allocation)) :
    allocation.correlationKey = request.correlationKey := by
  obtain ⟨hreplay, rfl⟩ | ⟨-, -, -, -, -, hkey, -⟩ := allocate_rows h
  · exact (replayed_eq_some hreplay).2.2.2
  · exact hkey

/-- A change of the rows that keeps or clears their keys, and makes only what was written
replayable. -/
lemma Recorded.of_map (h : Recorded s) {f : ServicePortAllocation π → ServicePortAllocation π}
    (hrows : s'.db.allocations.rows = s.db.allocations.rows.map f)
    (hid : ∀ row, (f row).id = row.id ∧ (f row).portIndex = row.portIndex)
    (hkey : ∀ row, (f row).correlationKey.isSome →
      (f row).correlationKey = row.correlationKey)
    (hwritten : ∀ row ∈ s.db.allocations.rows, (f row).Replayable →
      (row.id, row.portIndex) ∈ s'.writes) : Recorded s' where
  keys row hrow other hother hsome heq := by
    rw [hrows] at hrow hother
    obtain ⟨before, hbefore, rfl⟩ := List.mem_map.mp hrow
    obtain ⟨before', hbefore', rfl⟩ := List.mem_map.mp hother
    have hkeys := heq
    rw [hkey before hsome, hkey before' (heq ▸ hsome)] at hkeys
    rw [h.keys before hbefore before' hbefore' (hkey before hsome ▸ hsome) hkeys]
  written row hrow hreplayable := by
    rw [hrows] at hrow
    obtain ⟨before, hbefore, rfl⟩ := List.mem_map.mp hrow
    rw [(hid before).1, (hid before).2]
    exact hwritten before hbefore hreplayable

lemma Recorded.allocate (h : Recorded s)
    (hok : s.db.allocateServicePort request = .ok (db', allocation)) :
    Recorded { s with db := db' } := by
  obtain ⟨-, rfl⟩ | ⟨-, hfree, hrows, -, -, hkey, hnew⟩ := allocate_rows hok
  · exact h
  · have hother : ∀ row ∈ s.db.allocations.rows, row.correlationKey.isSome →
        row.correlationKey ≠ allocation.correlationKey := by
      intro row hrow hsome heq
      rw [hkey] at heq
      exact hfree ⟨heq ▸ hsome, row, hrow, heq⟩
    refine ⟨fun row hrow other hother' hsome heq => ?_, fun row hrow hreplayable => ?_⟩
    · rw [hrows, List.mem_append, List.mem_singleton] at hrow hother'
      rcases hrow with hrow | rfl <;> rcases hother' with hother' | rfl
      · exact h.keys row hrow other hother' hsome heq
      · exact absurd heq (hother row hrow hsome)
      · exact absurd heq.symm (hother other hother' (heq ▸ hsome))
      · rfl
    · rw [hrows, List.mem_append, List.mem_singleton] at hrow
      obtain hrow | rfl := hrow
      · exact h.written row hrow hreplayable
      · exact absurd hreplayable hnew

/-- A release keeps the keys and the results of the rows. -/
lemma Recorded.deactivate (h : Recorded s) {p : ServicePortAllocation π → Prop} [DecidablePred p]
    (hdb : db.allocations = (s.db.deactivate p now).allocations) :
    Recorded { s with db := db } := by
  refine h.of_map (f := fun row => if p row then row.released now else row)
    (congrArg Table.rows hdb) (fun row => ?_) (fun row => ?_) fun row hrow => ?_
  · split_ifs
    · exact ⟨rfl, rfl⟩
    · exact ⟨rfl, rfl⟩
  · split_ifs
    · exact fun _ => rfl
    · exact fun _ => rfl
  · split_ifs
    · exact h.written row hrow
    · exact h.written row hrow

lemma allocations_refresh {ids : List ℕ} :
    (ids.foldl PortDb.refreshPoolCache db).allocations = db.allocations := by
  induction ids generalizing db with
  | nil => rfl
  | cons id ids ih => exact ih

lemma allocations_release (db : PortDb π) (id : ℕ) (now : ℤ) :
    ((db.releaseServicePort id now).1 = db ∧
        ∀ row ∈ db.allocations.rows, row.id = id → row.isActive = false) ∨
      (db.releaseServicePort id now).1.allocations =
        (db.deactivate (·.id = id) now).allocations := by
  rw [PortDb.releaseServicePort]
  cases hactive : (db.allocations.get? id).filter (·.isActive) with
  | none =>
    refine .inl ⟨rfl, fun row hrow hid => ?_⟩
    rw [Table.get?_eq_some.mpr ⟨hrow, hid⟩, Option.filter_some] at hactive
    simpa using hactive
  | some allocation => exact .inr rfl

lemma Recorded.release (h : Recorded s) :
    Recorded { s with db := (s.db.releaseServicePort id now).1 } := by
  obtain ⟨heq, -⟩ | heq := allocations_release s.db id now
  · rw [heq]
    exact h
  · exact h.deactivate heq

lemma Recorded.releaseAll (h : Recorded s) {ontId : ℕ} :
    Recorded { s with db := (s.db.releaseAllForOnt ontId now).1 } :=
  h.deactivate allocations_refresh

lemma mem_markProvisioned {payload : Option (Option π)} :
    row ∈ (db.markProvisioned id payload now).allocations.rows ↔
      (row ∈ db.allocations.rows ∧ row.id ≠ id) ∨ ∃ before ∈ db.allocations.rows, before.id = id ∧
        { before with
          resultPayload := payload.getD before.resultPayload
          provisionedAt := some now } = row :=
  Table.mem_update (t := db.allocations)
    (g := fun row => { row with
      resultPayload := payload.getD row.resultPayload
      provisionedAt := some now }) (h := fun _ => rfl)

lemma Recorded.markProvisioned (h : Recorded s) {payload : Option (Option π)} {portIndex : ℤ}
    (hid : ∀ row ∈ s.db.allocations.rows, row.id = id → row.portIndex = portIndex) :
    Recorded ⟨s.db.markProvisioned id payload now, s.writes ++ [(id, portIndex)]⟩ := by
  refine h.of_map (f := fun row => if row.id = id then { row with
      resultPayload := payload.getD row.resultPayload
      provisionedAt := some now } else row) rfl (fun row => ?_) (fun row => ?_) fun row hrow => ?_
  · split_ifs
    · exact ⟨rfl, rfl⟩
    · exact ⟨rfl, rfl⟩
  · split_ifs
    · exact fun _ => rfl
    · exact fun _ => rfl
  · split_ifs with hrowId
    · intro _
      rw [← hid row hrow hrowId, hrowId]
      exact List.mem_append_right _ List.mem_cons_self
    · exact fun hreplayable => List.mem_append_left _ (h.written row hrow hreplayable)

lemma mem_forget : row ∈ (db.forget id).allocations.rows ↔
    (row ∈ db.allocations.rows ∧ row.id ≠ id) ∨ ∃ before ∈ db.allocations.rows, before.id = id ∧
      { before with resultPayload := none, correlationKey := none } = row :=
  Table.mem_update (t := db.allocations)
    (g := fun row => { row with resultPayload := none, correlationKey := none })
    (h := fun _ => rfl)

lemma Recorded.forget (h : Recorded s) : Recorded { s with db := s.db.forget id } := by
  refine h.of_map (f := fun row => if row.id = id then
      { row with resultPayload := none, correlationKey := none } else row)
    rfl (fun row => ?_) (fun row => ?_) fun row hrow => ?_
  · split_ifs
    · exact ⟨rfl, rfl⟩
    · exact ⟨rfl, rfl⟩
  · split_ifs
    · exact nofun
    · exact fun _ => rfl
  · split_ifs
    · exact fun hreplayable => absurd hreplayable.2 nofun
    · exact h.written row hrow

/-- After a failed write the allocation is inactive and has no key, and others are as before. -/
lemma mem_of_dropped
    (hrow : row ∈ ((db.forget id).releaseServicePort id now).1.allocations.rows) :
    (row ∈ db.allocations.rows ∧ row.id ≠ id) ∨
      (row.id = id ∧ row.isActive = false ∧ row.correlationKey = none) := by
  have hforget : ∀ before ∈ (db.forget id).allocations.rows,
      (before ∈ db.allocations.rows ∧ before.id ≠ id) ∨
        (before.id = id ∧ before.correlationKey = none) := by
    intro before hbefore
    obtain hkept | ⟨first, -, hid, rfl⟩ := mem_forget.mp hbefore
    · exact .inl hkept
    · exact .inr ⟨hid, rfl⟩
  obtain ⟨heq, hinactive⟩ | heq := allocations_release (db.forget id) id now
  · rw [heq] at hrow
    obtain hkept | ⟨hid, hkey⟩ := hforget row hrow
    · exact .inl hkept
    · exact .inr ⟨hid, hinactive row hrow hid, hkey⟩
  · rw [heq] at hrow
    obtain ⟨before, hbefore, rfl⟩ := mem_deactivate.mp hrow
    obtain ⟨hmem, hne⟩ | ⟨hid, hkey⟩ := hforget before hbefore
    · rw [if_neg hne]
      exact .inl ⟨hmem, hne⟩
    · rw [if_pos hid]
      exact .inr ⟨hid, rfl, hkey⟩

end Rows

section Call

variable {s : PortRun π} {request : AllocationRequest} {callbacks : Provisioning π τ ε} {now : ℤ}

lemma storedResult_eq_some {existing : ServicePortAllocation π} {result : τ}
    (h : s.db.storedResult request callbacks = some (existing, result)) :
    callbacks.deserializeResult.isSome ∧ s.db.replayed request = some existing := by
  obtain ⟨deserialize, hdeserialize, h⟩ := Option.bind_eq_some_iff.mp h
  obtain ⟨found, hfound, h⟩ := Option.bind_eq_some_iff.mp h
  obtain ⟨payload, -, h⟩ := Option.bind_eq_some_iff.mp h
  obtain ⟨rfl, -⟩ := Prod.mk.inj (Option.some.inj h)
  exact ⟨by rw [hdeserialize]; rfl, hfound⟩

/-- Without a stored result nothing is replayed, or the call cannot read it. -/
lemma deserializeResult_of_storedResult (h : s.db.storedResult request callbacks = none)
    {existing : ServicePortAllocation π} (hexisting : s.db.replayed request = some existing) :
    callbacks.deserializeResult = none := by
  obtain ⟨-, ⟨-, hpayload⟩, -⟩ := replayed_eq_some hexisting
  obtain ⟨payload, hpayload⟩ := Option.isSome_iff_exists.mp hpayload
  cases hdeserialize : callbacks.deserializeResult with
  | none => rfl
  | some deserialize =>
    rw [PortDb.storedResult, hdeserialize, hexisting] at h
    simp [hpayload] at h

lemma Recorded.call (h : Recorded s) : Recorded (s.call request callbacks now).1 := by
  rw [PortRun.call, PortDb.withAllocatedServicePort]
  cases s.db.storedResult request callbacks with
  | some stored => simpa [PortOutcome.write] using h
  | none =>
    cases hok : s.db.allocateServicePort request with
    | error e => simpa [PortOutcome.write] using h
    | ok result =>
      obtain ⟨allocated, allocation⟩ := result
      have hallocated := h.allocate hok
      dsimp only
      cases callbacks.provision allocation with
      | error e => simpa [PortOutcome.write] using h
      | ok result =>
        dsimp only
        split_ifs
        · refine hallocated.markProvisioned fun row hrow hid => ?_
          rw [Table.eq_of_id_eq hrow (mem_of_allocate hok) hid]
        · simpa [PortOutcome.write] using hallocated.forget.release

lemma heldAllocation_iff (s' : PortRun π) {allocation : ServicePortAllocation π} {id : ℕ}
    (hmem : allocation ∈ s'.db.allocations.rows) (hid : allocation.id = id)
    (hwritten : (id, allocation.portIndex) ∈ s'.writes) :
    HeldAllocation s' id ↔ allocation.isActive = true := by
  constructor
  · rintro ⟨row, hrow, hrowId, hactive, -⟩
    rwa [Table.eq_of_id_eq hrow hmem (hrowId.trans hid.symm)] at hactive
  · exact fun hactive => ⟨allocation, hmem, hid, hactive, hid ▸ hwritten⟩

lemma replaysActive_iff {existing : ServicePortAllocation π}
    (hnone : callbacks.deserializeResult = none)
    (hexisting : s.db.replayed request = some existing) :
    ReplaysActive s request callbacks ↔
      (∀ result, callbacks.provision existing = .ok result →
        callbacks.isProvisioned result = true → existing.isActive = true) ∧
      ∀ e, callbacks.provision existing = .error e → existing.isActive = false := by
  simp [ReplaysActive, hexisting, hnone]

lemma replaysActive_of_none (hnone : s.db.replayed request = none) :
    ReplaysActive s request callbacks :=
  fun _ hexisting => absurd (hnone.symm.trans hexisting) nofun

section Allocated

variable {db : PortDb π} {allocation : ServicePortAllocation π} (h : Recorded s)
  (hnone : s.db.storedResult request callbacks = none)
  (hok : s.db.allocateServicePort request = .ok (db, allocation))

include hnone hok in
/-- What raised is rolled back: nothing is left, unless the allocation was there before. -/
lemma dropped_raised_iff {e : ε} (hraised : callbacks.provision allocation = .error e) :
    Dropped s request allocation.id ↔ ReplaysActive s request callbacks := by
  obtain ⟨hreplay, rfl⟩ | ⟨hreplay, hfree, -, hid, -⟩ := allocate_rows hok
  · rw [replaysActive_iff (deserializeResult_of_storedResult hnone hreplay) hreplay]
    constructor
    · rintro ⟨hinactive, -⟩
      refine ⟨fun result hresult => absurd (hraised.symm.trans hresult) nofun, fun _ _ => ?_⟩
      exact hinactive allocation (mem_of_allocate hok) rfl
    · rintro ⟨-, hinactive⟩
      refine ⟨fun row hrow hid => ?_, fun _ => by rw [hreplay]; rfl⟩
      rw [Table.eq_of_id_eq hrow (mem_of_allocate hok) hid]
      exact hinactive e hraised
  · refine iff_of_true ⟨fun row hrow heq => ?_, fun htaken => absurd htaken hfree⟩
      (replaysActive_of_none hreplay)
    exact absurd (heq.trans hid) (s.db.allocations.fresh row hrow).ne

include hnone hok in
lemma held_provisioned_iff {result : τ} (hresult : callbacks.provision allocation = .ok result)
    (hprovisioned : callbacks.isProvisioned result = true) {payload : Option (Option π)} :
    HeldAllocation ⟨db.markProvisioned allocation.id payload now,
        s.writes ++ [(allocation.id, allocation.portIndex)]⟩ allocation.id ↔
      ReplaysActive s request callbacks := by
  have hmem : { allocation with
      resultPayload := payload.getD allocation.resultPayload
      provisionedAt := some now } ∈
      (db.markProvisioned allocation.id payload now).allocations.rows :=
    mem_markProvisioned.mpr (.inr ⟨allocation, mem_of_allocate hok, rfl, rfl⟩)
  refine (heldAllocation_iff ⟨_, _⟩ hmem rfl
    (List.mem_append_right _ List.mem_cons_self)).trans ?_
  obtain ⟨hreplay, rfl⟩ | ⟨hreplay, -, -, -, hactive, -⟩ := allocate_rows hok
  · rw [replaysActive_iff (deserializeResult_of_storedResult hnone hreplay) hreplay]
    constructor
    · intro hactive
      exact ⟨fun _ _ _ => hactive, fun e he => absurd (hresult.symm.trans he) nofun⟩
    · rintro ⟨hactive, -⟩
      exact hactive result hresult hprovisioned
  · exact iff_of_true hactive (replaysActive_of_none hreplay)

include h hok in
/-- A failed write leaves nothing behind. -/
lemma dropped_notProvisioned {writes : List (ℕ × ℤ)} : Dropped
    ⟨((db.forget allocation.id).releaseServicePort allocation.id now).1, writes⟩ request
    allocation.id := by
  have hkeys := (h.allocate hok).keys
  refine ⟨fun row hrow hid => ?_, ?_⟩
  · obtain ⟨-, hne⟩ | ⟨-, hinactive, -⟩ := mem_of_dropped hrow
    · exact absurd hid hne
    · exact hinactive
  · rintro ⟨hsome, row, hrow, hkey⟩
    obtain ⟨hmem, hne⟩ | ⟨-, -, hcleared⟩ := mem_of_dropped hrow
    · have heq := hkeys row hmem allocation (mem_of_allocate hok) (hkey ▸ hsome)
        (hkey.trans (key_of_allocate hok).symm)
      exact absurd (congrArg ServicePortAllocation.id heq) hne
    · rw [← hkey, hcleared] at hsome
      exact absurd hsome nofun

include hnone hok in
lemma replaysActive_notProvisioned {result : τ}
    (hresult : callbacks.provision allocation = .ok result)
    (hfailed : callbacks.isProvisioned result = false) : ReplaysActive s request callbacks := by
  obtain ⟨hreplay, rfl⟩ | ⟨hreplay, -⟩ := allocate_rows hok
  · refine (replaysActive_iff (deserializeResult_of_storedResult hnone hreplay) hreplay).mpr
      ⟨fun other hother htrue => ?_, fun e he => absurd (hresult.symm.trans he) nofun⟩
    obtain rfl := Except.ok.inj (hresult.symm.trans hother)
    exact absurd (hfailed.symm.trans htrue) nofun
  · exact replaysActive_of_none hreplay

end Allocated

/-- **What a call leaves**: its law holds exactly if it replays an active allocation. -/
lemma held_call_iff (h : Recorded s) :
    Held (s.call request callbacks now).1 request (s.call request callbacks now).2 ↔
      ReplaysActive s request callbacks := by
  rw [PortRun.call, PortDb.withAllocatedServicePort]
  cases hstored : s.db.storedResult request callbacks with
  | some stored =>
    obtain ⟨existing, result⟩ := stored
    obtain ⟨hdeserialize, hreplay⟩ := storedResult_eq_some hstored
    obtain ⟨hmem, hreplayable, -⟩ := replayed_eq_some hreplay
    have hwritten := h.written existing hmem hreplayable
    refine (heldAllocation_iff ⟨s.db, s.writes ++ []⟩ hmem rfl
      (List.mem_append_left _ hwritten)).trans ?_
    constructor
    · intro hactive other hother
      obtain rfl := Option.mem_unique hreplay hother
      refine ⟨fun _ => hactive, fun hnone => ?_⟩
      rw [hnone] at hdeserialize
      cases hdeserialize
    · exact fun hactive => (hactive existing hreplay).1 hdeserialize
  | none =>
    cases hok : s.db.allocateServicePort request with
    | error e =>
      refine iff_of_true trivial fun existing hexisting => ?_
      rw [PortDb.allocateServicePort, hexisting] at hok
      cases hok
    | ok result =>
      obtain ⟨allocated, allocation⟩ := result
      dsimp only
      cases hresult : callbacks.provision allocation with
      | error e => simpa [PortOutcome.write, Held] using dropped_raised_iff hstored hok hresult
      | ok result =>
        dsimp only
        split_ifs with hprovisioned
        · exact held_provisioned_iff hstored hok hresult hprovisioned
        · exact iff_of_true (dropped_notProvisioned h hok)
            (replaysActive_notProvisioned hstored hok hresult (eq_false_of_ne_true hprovisioned))

end Call

lemma Recorded.initial {oltDevices ontUnits : List ℕ} {pools : Table OltServicePortPool}
    {servicePorts : List OltServicePort} :
    Recorded (PortRun.initial (π := π) oltDevices ontUnits pools servicePorts) :=
  ⟨fun _ h => (nomatch h), fun _ h => nomatch h⟩

lemma Recorded.step {s s' : PortRun π} (h : Recorded s) {command : PortCommand π τ ε × ℤ}
    (hstep : s.step command = .ok s') : Recorded s' := by
  obtain ⟨command, now⟩ := command
  cases command with
  | provision request callbacks =>
    obtain rfl := Except.ok.inj hstep
    exact h.call
  | release allocationId =>
    obtain rfl := Except.ok.inj hstep
    exact h.release
  | releaseAll ontId =>
    obtain rfl := Except.ok.inj hstep
    exact h.releaseAll

/-- **Nothing is replayed that was not written**, in any run; and correlation keys are unique. -/
theorem replayable_run (oltDevices ontUnits : List ℕ) (pools : Table OltServicePortPool)
    (servicePorts : List OltServicePort) (commands : List (PortCommand π τ ε × ℤ)) :
    Recorded (run PortRun.step (.initial oltDevices ontUnits pools servicePorts) commands) :=
  invariant_run (fun _ _ _ h hstep => h.step hstep) commands Recorded.initial

/-- **Provisioned ports are held** in the runs whose calls replay active allocations only. -/
theorem held_run_iff (oltDevices ontUnits : List ℕ) (pools : Table OltServicePortPool)
    (servicePorts : List OltServicePort) (commands : List (PortCommand π τ ε × ℤ)) :
    let reached := run PortRun.step (.initial oltDevices ontUnits pools servicePorts)
    (∀ before request callbacks now after,
        commands = before ++ (.provision request callbacks, now) :: after →
        Held ((reached before).call request callbacks now).1 request
          ((reached before).call request callbacks now).2) ↔
      ∀ before request callbacks now after,
        commands = before ++ (.provision request callbacks, now) :: after →
        ReplaysActive (reached before) request callbacks := by
  intro reached
  have hrecorded : ∀ before, Recorded (reached before) := fun before =>
    invariant_run (fun _ _ _ h hstep => h.step hstep) before Recorded.initial
  simp only [held_call_iff (hrecorded _)]

def storedWrite : Provisioning Unit Unit Empty where
  provision _ := .ok ()
  serializeResult := some fun _ => some ()
  deserializeResult := some fun _ => ()

def keyedRequest : AllocationRequest where
  oltId := 0
  ontId := 0
  correlationKey := some "change-1"

def releasedPort : PortRun Unit :=
  run PortRun.step (.initial [0] [0] fourPorts.pools [])
    [(.provision keyedRequest storedWrite, 0), (.release 0, 1)]

/-- The key still answers with a provisioned port, of which no allocation is held. -/
theorem not_held_releasedPort :
    ¬ Held (releasedPort.call keyedRequest storedWrite 2).1 keyedRequest
      (releasedPort.call keyedRequest storedWrite 2).2 := by
  have hrecorded : Recorded releasedPort :=
    invariant_run (fun _ _ _ h hstep => h.step hstep) _ Recorded.initial
  rw [held_call_iff hrecorded]
  intro h
  have hreplay : releasedPort.db.replayed keyedRequest = some
      ⟨0, 0, 0, 0, none, none, none, some "change-1", some (), false, some 0, some 1⟩ := by
    decide +kernel
  exact absurd ((h _ hreplay).1 rfl) nofun

end DotmacSub.ServicePorts
