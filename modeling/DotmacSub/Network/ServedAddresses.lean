import DotmacSub.Core.Run
import DotmacSub.Network.AddressRepairs
import Mathlib.Data.List.ReduceOption

/-!
# The address a service is served on

A repair with a desired address is meant to leave one active IPv4 assignment, which carries the
marker.
-/

namespace DotmacSub.AddressRepairs

open Checked Store

variable {registry : Registry} {ledger ledger' : Ledger} {rows : Table IPAssignment}
  {r r' : IPAssignment} {service account a : ℕ} {desired : Option ℕ} {ids : List ℕ}
  {subscription : Subscription} {db db' : Database} {b : Bool}

lemma rows_of_flush (h : flush rows = .ok ledger) : ledger.rows = rows := by
  unfold flush at h
  split_ifs at h
  cases h
  rfl

lemma ipv4AddressId_eq_some : r.ipv4AddressId = some a ↔ r.address = .ipv4 a := by
  unfold IPAssignment.ipv4AddressId
  cases r.address with
  | ipv4 b => simp
  | ipv6 b => simp

/-- **An address is actively assigned once.** -/
lemma Ledger.eq_of_address (hr : r ∈ ledger.rows.rows) (hr' : r' ∈ ledger.rows.rows)
    (hactive : r.isActive) (hactive' : r'.isActive) (h : r.ipv4AddressId = some a)
    (h' : r'.ipv4AddressId = some a) : r = r' := by
  rw [ipv4AddressId_eq_some] at h h'
  exact Table.eq_of_id_eq hr hr' (ledger.indexed.active r hr r' hr' hactive hactive'
    (h.trans h'.symm))

@[simp] lemma serves_mark : (r.mark b).Serves service ↔ r.Serves service := Iff.rfl

@[simp] lemma mark_isPrimary : r.mark r.isPrimary = r := rfl

@[simp] lemma ipv4AddressId_mark : (r.mark b).ipv4AddressId = r.ipv4AddressId := rfl

@[simp] lemma isPrimary_mark : (r.mark b).isPrimary = b := rfl

/-- **The marker moves inside the service**, to the row of the address. -/
theorem markPrimary_rows {marked : Bool}
    (h : markPrimary ledger service (some a) = .ok (ledger', marked)) :
    ∃ g : IPAssignment → Bool, ledger'.rows.rows = ledger.rows.rows.map (fun r => r.mark (g r)) ∧
      (∀ r, ¬r.Serves service → r ∈ ledger.rows.rows → g r = r.isPrimary) ∧
      ∀ r ∈ ledger.rows.rows, r.Serves service → r.ipv4AddressId = some a → g r = true := by
  unfold markPrimary at h
  simp only at h
  split at h
  · rename_i hnone
    cases h
    refine ⟨(·.isPrimary), by simp, fun r _ _ => rfl, fun r hr hserves ha => ?_⟩
    have := List.find?_eq_none.mp hnone r (List.mem_filter.mpr ⟨hr, by simpa using hserves⟩)
    simp [ha] at this
  · rename_i target htarget
    simp only [bind_eq_ok, Except.ok.injEq, Prod.mk.injEq] at h
    obtain ⟨demoted, hdemoted, promoted, hpromoted, rfl, -⟩ := h
    have hmem := List.mem_filter.mp (List.mem_of_find?_eq_some htarget)
    have haddress := List.find?_some htarget
    simp only [decide_eq_true_eq] at hmem haddress
    refine ⟨fun r => if r.id = target.id then true else
      (r.isPrimary && !(r.Serves service && r.id ≠ target.id)), ?_, ?_, ?_⟩
    · rw [rows_of_flush hpromoted, rows_of_flush hdemoted]
      simp only [Table.update, Table.map, List.map_map]
      refine List.map_congr_left fun r _ => ?_
      simp only [Function.comp_apply, Row.id, IPAssignment.mark]
      split <;> rfl
    · intro r hserves hr
      have hne : r.id ≠ target.id := by
        intro hid
        exact hserves (Table.eq_of_id_eq hr hmem.1 hid ▸ hmem.2)
      simp [hne, hserves]
    · intro r hr hserves ha
      have := Ledger.eq_of_address hr hmem.1 hserves.1 hmem.2.1 ha haddress
      simp [this]

/-- What the desired address does to the assignments of its service. -/
structure Taken (before after : Table IPAssignment) (service a : ℕ) : Prop where
  keeps : ∀ r ∈ before.rows, r.subscriptionId.isSome →
    ∃ b, r.mark b ∈ after.rows ∧ (¬r.Serves service → b = r.isPrimary)
  holds : ∀ r' ∈ after.rows, (r'.Serves service ∧ r'.ipv4AddressId = some a) ∨
    ∃ r ∈ before.rows, ∃ b, r' = r.mark b ∧ (¬r.Serves service → b = r.isPrimary)
  serves : (∀ r ∈ before.rows, r.isActive → r.ipv4AddressId = some a →
      r.subscriptionId ∈ [none, some service]) →
    (∀ r ∈ before.rows, r.Serves service → r.ipv4AddressId = some a → r.isPrimary) →
      ∃ r ∈ after.rows, r.Serves service ∧ r.ipv4AddressId = some a ∧ r.isPrimary
  same : (∃ r ∈ before.rows, r.Serves service ∧ r.ipv4AddressId = some a) → after = before

lemma Taken.of_mark {marked : Bool} {row : IPAssignment} {before : Table IPAssignment}
    (hmark : markPrimary ledger service (some a) = .ok (ledger', marked))
    (hrow : row ∈ ledger.rows.rows) (hserves : row.Serves service)
    (ha : row.ipv4AddressId = some a)
    (hkeeps : ∀ r ∈ before.rows, r.subscriptionId.isSome → r ∈ ledger.rows.rows)
    (hholds : ∀ r ∈ ledger.rows.rows, r ∈ before.rows ∨ r = row)
    (hsame : ∀ r ∈ before.rows, r.Serves service → r.ipv4AddressId ≠ some a) :
    Taken before ledger'.rows service a := by
  obtain ⟨g, hrows, hframe, hpromoted⟩ := markPrimary_rows hmark
  constructor
  · intro r hr hlinked
    have hr' := hkeeps r hr hlinked
    refine ⟨g r, ?_, fun hne => hframe r hne hr'⟩
    rw [hrows]
    exact List.mem_map_of_mem hr'
  · intro r' hr'
    rw [hrows] at hr'
    obtain ⟨r, hr, rfl⟩ := List.mem_map.mp hr'
    rcases hholds r hr with hbefore | rfl
    · exact .inr ⟨r, hbefore, g r, rfl, fun hne => hframe r hne hr⟩
    · exact .inl ⟨hserves, ha⟩
  · intro _ _
    refine ⟨row.mark (g row), ?_, hserves, ha, hpromoted row hrow hserves ha⟩
    rw [hrows]
    exact List.mem_map_of_mem hrow
  · rintro ⟨r, hr, hrserves, hra⟩
    exact absurd hra (hsame r hr hrserves)

/-- **The desired address is created, linked or kept.** -/
theorem Taken.of_take {outcome : RepairOutcome}
    (h : ledger.take registry subscription a = .ok (ledger', outcome)) :
    Taken ledger.rows ledger'.rows subscription.id a := by
  unfold Ledger.take at h
  simp only at h
  split at h
  · rename_i hnone
    simp only [bind_eq_ok, Except.ok.injEq, Prod.mk.injEq, Prod.exists] at h
    obtain ⟨address, -, created, hcreated, marked, b, hmark, rfl, -⟩ := h
    have hmem := fun r => (rows_of_flush hcreated ▸ Table.mem_insert (r := r) :)
    refine .of_mark hmark ((hmem _).mpr (.inr rfl)) ⟨rfl, rfl, rfl⟩ rfl ?_ ?_ ?_
    · exact fun r hr _ => (hmem r).mpr (.inl hr)
    · exact fun r hr => (hmem r).mp hr
    · intro r hr hserves ha
      simpa [hserves.1, ipv4AddressId_eq_some.mp ha] using List.find?_eq_none.mp hnone r hr
  · rename_i row hfound
    have hrow := List.mem_of_find?_eq_some hfound
    have hheld : row.isActive ∧ row.address = .ipv4 a := by simpa using List.find?_some hfound
    have ha : row.ipv4AddressId = some a := ipv4AddressId_eq_some.mpr hheld.2
    have honly : ∀ r ∈ ledger.rows.rows, r.isActive → r.ipv4AddressId = some a → r = row :=
      fun r hr hactive hra => Ledger.eq_of_address hr hrow hactive hheld.1 hra ha
    split at h
    · rename_i hunlinked
      simp only [bind_eq_ok, Except.ok.injEq, Prod.mk.injEq, Prod.exists, ha] at h
      obtain ⟨linked, hlinked, marked, b, hmark, rfl, -⟩ := h
      have hmem := fun r => (rows_of_flush hlinked ▸ Table.mem_update (r := r) :)
      refine .of_mark hmark ((hmem _).mpr (.inr ⟨row, hrow, rfl, rfl⟩))
        ⟨hheld.1, by simp [IPAssignment.ipv4AddressId, hheld.2], rfl⟩
        (ipv4AddressId_eq_some.mpr hheld.2) ?_ ?_ ?_
      · intro r hr hlinked
        refine (hmem r).mpr (.inl ⟨hr, fun hid => ?_⟩)
        rw [Table.eq_of_id_eq hr hrow hid, hunlinked] at hlinked
        cases hlinked
      · intro r hr
        rcases (hmem r).mp hr with ⟨hr, -⟩ | ⟨r', hr', hid, rfl⟩
        · exact .inl hr
        · exact .inr (Table.eq_of_id_eq hr' hrow hid ▸ rfl)
      · intro r hr hserves hra
        have hservice := hserves.2.2
        rw [honly r hr hserves.1 hra, hunlinked] at hservice
        cases hservice
    · rename_i hlinked
      cases h
      constructor
      · exact fun r hr _ => ⟨r.isPrimary, hr, fun _ => rfl⟩
      · exact fun r hr => .inr ⟨r, hr, r.isPrimary, rfl, fun _ => rfl⟩
      · intro howner hprimary
        have hserves : row.Serves subscription.id := by
          refine ⟨hheld.1, by simp [ha], ?_⟩
          simpa [hlinked] using howner row hrow hheld.1 ha
        exact ⟨row, hrow, hserves, ha, hprimary row hrow hserves ha⟩
      · exact fun _ => rfl

/-- The deactivated rows are the service's own; they are all that it sees of the service but the
desired address, which is the account's, and the service's or no one's. -/
structure Cleared (ledger : Ledger) (account service : ℕ) (desired : Option ℕ) (ids : List ℕ) :
    Prop where
  requested : ∀ id ∈ ids, ∃ r ∈ ledger.rows.rows, r.id = id ∧ r.Visible account desired ∧
    r.subscriptionId = some service
  complete : ∀ r ∈ ledger.rows.rows, r.Serves service → r.Visible account desired →
    r.ipv4AddressId ≠ desired → r.id ∈ ids
  target : ∀ r ∈ ledger.rows.rows, r.isActive → r.ipv4AddressId.isSome → r.ipv4AddressId = desired →
    r.subscriberId = some account ∧ r.subscriptionId ∈ [none, some service] ∧ r.id ∉ ids

lemma mem_activeAssignmentEvidence {item : AssignmentEvidence} :
    item ∈ activeAssignmentEvidence registry ledger account desired ↔
      ∃ r ∈ ledger.rows.rows, r.isActive ∧ r.Visible account desired ∧
        evidence registry r = some item := by
  simp [activeAssignmentEvidence, and_assoc]

def AssignmentEvidence.Shows (item : AssignmentEvidence) (row : IPAssignment) : Prop :=
  item.assignmentId = row.id ∧ item.subscriberId = row.subscriberId ∧
    item.subscriptionId = row.subscriptionId ∧ row.ipv4AddressId = some item.addressId

lemma shows_of_evidence {item : AssignmentEvidence} (h : evidence registry r = some item) :
    item.Shows r := by
  obtain ⟨b, hb, rfl⟩ := Option.map_eq_some_iff.mp h
  exact ⟨rfl, rfl, rfl, hb⟩

variable (registry) in
lemma exists_evidence (hr : r ∈ ledger.rows.rows) (hactive : r.isActive)
    (hv4 : r.ipv4AddressId.isSome) (hvisible : r.Visible account desired) :
    ∃ item ∈ activeAssignmentEvidence registry ledger account desired, item.Shows r := by
  obtain ⟨b, hb⟩ := Option.isSome_iff_exists.mp hv4
  have hevidence : ∃ item, evidence registry r = some item := ⟨_, by rw [evidence, hb]; rfl⟩
  obtain ⟨item, hitem⟩ := hevidence
  exact ⟨item, mem_activeAssignmentEvidence.mpr ⟨r, hr, hactive, hvisible, hitem⟩,
    shows_of_evidence hitem⟩

variable (registry) in
lemma find?_evidence (hr : r ∈ ledger.rows.rows) (hactive : r.isActive)
    (ha : r.ipv4AddressId = some a) :
    ∃ item, (activeAssignmentEvidence registry ledger account (some a)).find?
      (·.addressId = a) = some item ∧ item.Shows r := by
  have hvisible : r.Visible account (some a) := .inr ⟨rfl, ha⟩
  obtain ⟨item, hmem, hshows⟩ := exists_evidence registry hr hactive (ha ▸ rfl) hvisible
  have haddress : item.addressId = a := Option.mem_unique hshows.2.2.2 ha
  cases hfind : (activeAssignmentEvidence registry ledger account (some a)).find?
      (·.addressId = a) with
  | none => simpa [haddress] using List.find?_eq_none.mp hfind item hmem
  | some found =>
    obtain ⟨r', hr', hactive', -, hevidence⟩ :=
      mem_activeAssignmentEvidence.mp (List.mem_of_find?_eq_some hfind)
    have hfound := shows_of_evidence hevidence
    have ha' : r'.ipv4AddressId = some a := by
      rw [hfound.2.2.2]
      simpa using List.find?_some hfind
    rw [Ledger.eq_of_address hr hr' hactive hactive' ha ha']
    exact ⟨found, rfl, hfound⟩

variable {active : List AssignmentEvidence}

lemma of_releaseDecision (h : (releaseDecision subscription active ids).applicable) :
    ∀ item ∈ active,
      item.subscriptionId = some subscription.id → item.assignmentId ∈ ids := by
  unfold releaseDecision at h
  simp only at h
  split_ifs at h with hterminal hremaining hrows <;> try cases h
  simp only [ne_eq, not_not, List.filter_eq_nil_iff, List.mem_filter] at hremaining
  intro item hitem hservice
  simpa using hremaining item ⟨hitem, by simpa using hservice⟩

lemma of_targetDecision {target : IPv4Address}
    (h : (targetDecision registry subscription target a active ids).applicable) :
    (∀ item ∈ active.find? (·.addressId = a), item.subscriberId = some subscription.subscriberId ∧
      item.subscriptionId ∈ [none, some subscription.id] ∧ item.assignmentId ∉ ids) ∧
      ∀ item ∈ active, item.subscriptionId = some subscription.id → item.addressId ≠ a →
        item.assignmentId ∈ ids := by
  unfold targetDecision at h
  simp only at h
  split_ifs at h with hserviceable hrouted hhost howned hselected hremaining <;> try cases h
  simp only [ne_eq, not_not, List.filter_eq_nil_iff, decide_eq_true_eq, not_and] at hremaining
  refine ⟨fun item hitem => ?_, hremaining⟩
  have hown := not_or.mp fun hor => howned ⟨item, hitem, hor⟩
  exact ⟨not_not.mp hown.1, not_not.mp hown.2, fun hid => hselected ⟨item, hitem, hid⟩⟩

lemma of_desiredDecision (h : (desiredDecision registry subscription a active ids).applicable) :
    ∃ target, (targetDecision registry subscription target a active ids).applicable := by
  unfold desiredDecision at h
  split_ifs at h with hstatus
  · split at h
    · cases h
    · exact ⟨_, h⟩
  · cases h

lemma requested_of_evidence
    (hactive : active = activeAssignmentEvidence registry ledger account desired)
    (hfound : none ∉ ids.map fun id => active.find? (·.assignmentId = id))
    (hexact : ¬∃ item ∈ (ids.map fun id => active.find? (·.assignmentId = id)).reduceOption,
      item.subscriptionId ≠ some service) :
    ∀ id ∈ ids, ∃ r ∈ ledger.rows.rows, r.id = id ∧ r.Visible account desired ∧
      r.subscriptionId = some service := by
  intro id hid
  cases hitem : active.find? (·.assignmentId = id) with
  | none => exact absurd (List.mem_map.mpr ⟨id, hid, hitem⟩) hfound
  | some item =>
    have hmem := List.mem_of_find?_eq_some hitem
    have hassignment : item.assignmentId = id := by simpa using List.find?_some hitem
    have hservice : item.subscriptionId = some service := by
      by_contra hne
      refine hexact ⟨item, ?_, hne⟩
      exact List.reduceOption_mem_iff.mpr (List.mem_map.mpr ⟨id, hid, hitem⟩)
    rw [hactive, mem_activeAssignmentEvidence] at hmem
    obtain ⟨r, hr, -, hvisible, hevidence⟩ := hmem
    have hshows := shows_of_evidence hevidence
    exact ⟨r, hr, hshows.1.symm.trans hassignment, hvisible, hshows.2.2.1.symm.trans hservice⟩

/-- **An applicable plan is cleared.** -/
theorem Cleared.of_applicable
    (hsub : registry.subscriptions.get? service = some subscription)
    (h : (previewRepair registry ledger service desired ids).decision.applicable) :
    Cleared ledger subscription.subscriberId service desired
      (previewRepair registry ledger service desired ids).deactivateAssignmentIds := by
  obtain rfl : subscription.id = service := (Table.get?_eq_some.mp hsub).2
  unfold previewRepair at h ⊢
  simp only [hsub] at h ⊢
  split_ifs at h ⊢ with haccount
  · simp only [serviceDecision] at h
    split_ifs at h with hfound hexact <;> try cases h
    have hrequested := requested_of_evidence rfl hfound hexact
    cases desired with
    | none =>
      refine ⟨hrequested, fun r hr hserves hvisible _ => ?_, fun r _ _ hv4 hnone => ?_⟩
      · obtain ⟨item, hitem, hshows⟩ := exists_evidence registry hr hserves.1 hserves.2.1
          hvisible
        rw [← hshows.1]
        exact of_releaseDecision h item hitem (hshows.2.2.1.trans hserves.2.2)
      · rw [hnone] at hv4
        cases hv4
    | some a =>
      obtain ⟨target, htarget⟩ := of_desiredDecision h
      obtain ⟨hheld, hcomplete⟩ := of_targetDecision htarget
      refine ⟨hrequested, fun r hr hserves hvisible hne => ?_, fun r hr hactive _ ha => ?_⟩
      · obtain ⟨item, hitem, hshows⟩ := exists_evidence registry hr hserves.1 hserves.2.1
          hvisible
        rw [← hshows.1]
        refine hcomplete item hitem (hshows.2.2.1.trans hserves.2.2) fun heq => hne ?_
        rw [hshows.2.2.2, heq]
      · obtain ⟨item, hfind, hshows⟩ := find?_evidence registry hr hactive ha
        rw [← hshows.1, ← hshows.2.1, ← hshows.2.2.1]
        exact hheld item hfind
  · cases h

/-- The step of a repair was carried out before, under its key. -/
def Database.Answered (db : Database) (command : RepairCommand) : Prop :=
  (db.repairs.find? (·.1 = contextKey command.idempotencyKey)).isSome

instance (db : Database) (command : RepairCommand) : Decidable (db.Answered command) := by
  unfold Database.Answered
  infer_instance

/-- What a repair asks for: its service has the desired address only, and the marker is on it; or it
has no address. -/
def Asked (command : RepairCommand) (ledger : Ledger) : Prop :=
  match command.desiredAddressId with
  | some desired => ∃ r ∈ ledger.rows.rows, r.Serves command.subscriptionId ∧
      r.ipv4AddressId = some desired ∧ r.isPrimary ∧
        ∀ r' ∈ ledger.rows.rows, r'.Serves command.subscriptionId → r' = r
  | none => ∀ r ∈ ledger.rows.rows, ¬r.Serves command.subscriptionId

/-- The assignments of the service are the account's, and the one that is kept has the marker. -/
def Settled (registry : Registry) (ledger : Ledger) (command : RepairCommand) : Prop :=
  ∀ subscription ∈ registry.subscriptions.get? command.subscriptionId, ∀ r ∈ ledger.rows.rows,
    r.Serves command.subscriptionId → r.subscriberId = some subscription.subscriberId ∧
      (r.ipv4AddressId = command.desiredAddressId → r.isPrimary)

/-- The ledger of an executed repair: the rows `ids` are deactivated, and the desired address is
taken. -/
structure Executed (before after : Ledger) (subscription : Subscription) (desired : Option ℕ)
    (ids : List ℕ) (between : Table IPAssignment) : Prop where
  cleared : Cleared before subscription.subscriberId subscription.id desired ids
  between_eq : between.rows =
    before.rows.rows.map fun r => if r.id ∈ ids then { r with isActive := false } else r
  released : desired = none → after.rows = between
  taken : ∀ a, desired = some a → Taken between after.rows subscription.id a

section

variable {digests : Digests} {command : RepairCommand} {outcome : RepairOutcome}
  {before after : Ledger} {between : Table IPAssignment}

theorem executed_of_repair (h : repair digests registry db command = .ok (db', outcome))
    (hnew : ¬db.Answered command) : ∃ subscription ids between,
      registry.subscriptions.get? command.subscriptionId = some subscription ∧
        Executed db.ledger db'.ledger subscription command.desiredAddressId ids between := by
  unfold repair at h
  simp only [bind_eq_ok, ensure_eq_ok] at h
  obtain ⟨-, -, -, -, h⟩ := h
  split at h
  · rename_i hprior
    exact absurd (Option.isSome_of_eq_some hprior) hnew
  · simp only [bind_eq_ok, ensure_eq_ok, orRefuse_eq_ok, Except.ok.injEq, Prod.mk.injEq,
      Prod.exists] at h
    obtain ⟨subscription, hsub, -, -, -, -, -, happlicable, cut, hcut, after, o, htake, rfl, -⟩ := h
    refine ⟨subscription, (previewRepair registry db.ledger command.subscriptionId
      command.desiredAddressId command.deactivateAssignmentIds).deactivateAssignmentIds,
      cut.rows, hsub, ?_⟩
    have hid : subscription.id = command.subscriptionId := (Table.get?_eq_some.mp hsub).2
    refine ⟨?_, ?_, ?_, ?_⟩
    · rw [hid]
      exact Cleared.of_applicable hsub happlicable
    · rw [rows_of_flush hcut]
      rfl
    · intro hnone
      rw [hnone, Ledger.assign] at htake
      cases htake
      rfl
    · intro a ha
      rw [ha] at htake
      exact .of_take htake

/-- A replay changes nothing. -/
lemma eq_of_answered (h : repair digests registry db command = .ok (db', outcome))
    (hanswered : db.Answered command) : db' = db := by
  unfold repair at h
  simp only [bind_eq_ok, ensure_eq_ok] at h
  obtain ⟨-, -, -, -, h⟩ := h
  split at h
  · simp only [bind_eq_ok, Except.ok.injEq, Prod.mk.injEq] at h
    obtain ⟨-, -, rfl, -⟩ := h
    rfl
  · rename_i hnone
    rw [Database.Answered, hnone] at hanswered
    cases hanswered

namespace Executed

variable (h : Executed before after subscription desired ids between)
include h

lemma mem_of_active (hr : r ∈ between.rows) (hactive : r.isActive) :
    r ∈ before.rows.rows ∧ r.id ∉ ids := by
  rw [h.between_eq] at hr
  obtain ⟨s, hs, rfl⟩ := List.mem_map.mp hr
  split_ifs at hactive ⊢ with hid
  exact ⟨hs, hid⟩

lemma mem_between (hr : r ∈ before.rows.rows) (hid : r.id ∉ ids) : r ∈ between.rows := by
  rw [h.between_eq]
  exact List.mem_map.mpr ⟨r, hr, if_neg hid⟩

lemma service_of_mem (hr : r ∈ before.rows.rows) (hid : r.id ∈ ids) :
    r.subscriptionId = some subscription.id ∧ r.Visible subscription.subscriberId desired := by
  obtain ⟨s, hs, heq, hvisible, hservice⟩ := h.cleared.requested _ hid
  rw [Table.eq_of_id_eq hr hs heq.symm]
  exact ⟨hservice, hvisible⟩

/-- **Other services keep their assignments**, and get no others. -/
theorem other_iff (hother : r.subscriptionId ≠ some subscription.id)
    (hlinked : r.subscriptionId.isSome) : r ∈ before.rows.rows ↔ r ∈ after.rows.rows := by
  have hbetween : r ∈ before.rows.rows ↔ r ∈ between.rows := by
    rw [h.between_eq, List.mem_map]
    constructor
    · exact fun hr => ⟨r, hr, if_neg fun hid => hother (h.service_of_mem hr hid).1⟩
    · rintro ⟨s, hs, rfl⟩
      split_ifs at hother ⊢ with hid
      · exact absurd (h.service_of_mem hs hid).1 hother
      · exact hs
  rw [hbetween]
  cases hdesired : desired with
  | none => rw [h.released hdesired]
  | some a =>
    have htaken := h.taken a hdesired
    constructor
    · intro hr
      obtain ⟨b, hmem, hb⟩ := htaken.keeps r hr hlinked
      rw [hb fun hserves => hother hserves.2.2] at hmem
      exact hmem
    · intro hr
      rcases htaken.holds r hr with ⟨hserves, -⟩ | ⟨s, hs, b, rfl, hb⟩
      · exact absurd hserves.2.2 hother
      · rw [hb fun hserves => hother hserves.2.2]
        exact hs

/-- An assignment that the plan did not see stays. -/
lemma unseen (hr : r ∈ before.rows.rows) (hserves : r.Serves subscription.id)
    (hunseen : r.subscriberId ≠ some subscription.subscriberId) :
    r.ipv4AddressId ≠ desired ∧ ∃ b, r.mark b ∈ after.rows.rows := by
  have hne : r.ipv4AddressId ≠ desired := fun heq =>
    hunseen (h.cleared.target r hr hserves.1 hserves.2.1 heq).1
  have hmem : r ∈ between.rows := by
    refine h.mem_between hr fun hid => ?_
    rcases (h.service_of_mem hr hid).2 with hvisible | hvisible
    · exact hunseen hvisible
    · exact hne hvisible.2
  refine ⟨hne, ?_⟩
  cases hdesired : desired with
  | none => exact ⟨r.isPrimary, by rw [h.released hdesired]; exact hmem⟩
  | some a =>
    obtain ⟨b, hb, -⟩ := (h.taken a hdesired).keeps r hmem (hserves.2.2 ▸ rfl)
    exact ⟨b, hb⟩

lemma address_of_serves (hown : ∀ r ∈ before.rows.rows, r.Serves subscription.id →
      r.subscriberId = some subscription.subscriberId)
    (hr : r ∈ between.rows) (hserves : r.Serves subscription.id) : r.ipv4AddressId = desired := by
  obtain ⟨hmem, hid⟩ := h.mem_of_active hr hserves.1
  by_contra hne
  exact hid (h.cleared.complete r hmem hserves (.inl (hown r hmem hserves)) hne)

end Executed

/-- **A repair does what it is asked for exactly when it is settled.** -/
theorem asked_iff (hsub : registry.subscriptions.get? command.subscriptionId = some subscription)
    (h : Executed before after subscription command.desiredAddressId ids between) :
    Asked command after ↔ Settled registry before command := by
  have hid : subscription.id = command.subscriptionId := (Table.get?_eq_some.mp hsub).2
  unfold Settled Asked
  rw [hsub, ← hid]
  generalize command.desiredAddressId = desired at h
  simp only [Option.mem_def, Option.some.injEq, forall_eq']
  cases desired with
  | none =>
    constructor
    · intro hasked r hr hserves
      have hown : r.subscriberId = some subscription.subscriberId := by
        by_contra hunseen
        obtain ⟨-, b, hb⟩ := h.unseen hr hserves hunseen
        exact hasked _ hb hserves
      exact ⟨hown, fun hnone => absurd hserves.2.1 (by simp [hnone])⟩
    · intro hsettled r hr hserves
      rw [h.released rfl] at hr
      have hnone := h.address_of_serves (fun r hr hserves => (hsettled r hr hserves).1) hr hserves
      exact absurd hserves.2.1 (by simp [hnone])
  | some a =>
    have htaken := h.taken a rfl
    constructor
    · rintro ⟨s, hs, -, ha, hprimary, honly⟩ r hr hserves
      have hown : r.subscriberId = some subscription.subscriberId := by
        by_contra hunseen
        obtain ⟨hne, b, hb⟩ := h.unseen hr hserves hunseen
        have hmark : r.mark b = s := honly _ hb hserves
        exact hne (by rw [← ha, ← hmark, ipv4AddressId_mark])
      refine ⟨hown, fun hra => ?_⟩
      have hmem := h.mem_between hr (h.cleared.target r hr hserves.1 hserves.2.1 hra).2.2
      have hafter : r ∈ after.rows.rows := by
        rw [htaken.same ⟨r, hmem, hserves, hra⟩]
        exact hmem
      rw [honly r hafter hserves]
      exact hprimary
    · intro hsettled
      have haddress : ∀ r ∈ between.rows, r.Serves subscription.id → r.ipv4AddressId = some a :=
        fun r hr => h.address_of_serves (fun r hr hserves => (hsettled r hr hserves).1) hr
      obtain ⟨s, hs, hserves, ha, hprimary⟩ := htaken.serves
        (fun r hr hactive hra => (h.cleared.target r (h.mem_of_active hr hactive).1 hactive
          (by simp [hra]) hra).2.1)
        (fun r hr hserves hra => (hsettled r (h.mem_of_active hr hserves.1).1 hserves).2 hra)
      refine ⟨s, hs, hserves, ha, hprimary, fun r hr hrserves => ?_⟩
      have hra : r.ipv4AddressId = some a := by
        rcases htaken.holds r hr with ⟨-, hra⟩ | ⟨q, hq, b, rfl, -⟩
        · exact hra
        · exact haddress q hq hrserves
      exact Ledger.eq_of_address hr hs hrserves.1 hserves.1 hra ha

lemma subscriptionId_of_repairable
    (h : (ownershipItem registry ledger r).decision = .repairableMissingServiceLink) :
    r.subscriptionId = none := by
  unfold ownershipItem ownershipDecision at h
  cases hservice : r.subscriptionId with
  | none => rfl
  | some current =>
    rw [hservice] at h
    simp only at h
    split at h
    · cases h
    · split at h
      · cases h
      · split_ifs at h

/-- Links leave the assignments that have a service. -/
lemma mem_of_reconcile {command : LinkCommand} {linked : LinkOutcome}
    (h : reconcile digests registry db command = .ok (db', linked)) (hr : r ∈ db.ledger.rows.rows)
    (hlinked : r.subscriptionId.isSome) : r ∈ db'.ledger.rows.rows := by
  unfold reconcile at h
  simp only [bind_eq_ok, ensure_eq_ok] at h
  obtain ⟨-, -, -, -, -, -, h⟩ := h
  split at h
  · simp only [bind_eq_ok, Except.ok.injEq, Prod.mk.injEq] at h
    obtain ⟨-, -, rfl, -⟩ := h
    exact hr
  · simp only [bind_eq_ok, ensure_eq_ok, Except.ok.injEq, Prod.mk.injEq] at h
    obtain ⟨-, -, -, -, -, hready, ledger, hledger, rfl, -⟩ := h
    simp only [rows_of_flush hledger]
    refine List.mem_map.mpr ⟨r, hr, ?_⟩
    split
    · rename_i item hitem
      have hmem := List.mem_of_find?_eq_some hitem
      have hdecision := hready item hmem
      obtain ⟨q, hq, rfl⟩ := List.mem_map.mp hmem
      have hid : q.id = r.id := by simpa [ownershipItem] using List.find?_some hitem
      have hqr : q = r := by
        refine Table.eq_of_id_eq (t := db.ledger.rows) ?_ hr hid
        have := List.mem_of_mem_filter hq
        rw [Ledger.activeIPv4, List.mem_insertionSort] at this
        exact List.mem_of_mem_filter this
      rw [← hqr, subscriptionId_of_repairable hdecision] at hlinked
      cases hlinked
    · rfl

end

/-- What a command is to leave: each address with one service, the assignments of other services as
they were, and after an executed repair what it asked for. -/
structure Leaves (db : Database) (command : Command) (db' : Database) : Prop where
  oneService : ∀ r ∈ db'.ledger.rows.rows, ∀ r' ∈ db'.ledger.rows.rows, ∀ a, r.isActive →
    r'.isActive → r.ipv4AddressId = some a → r'.ipv4AddressId = some a →
      r.subscriptionId = r'.subscriptionId
  others : match command with
    | .repair _ command => ∀ r, r.subscriptionId.isSome →
        r.subscriptionId ≠ some command.subscriptionId →
          (r ∈ db.ledger.rows.rows ↔ r ∈ db'.ledger.rows.rows)
    | .reconcile _ _ => ∀ r ∈ db.ledger.rows.rows, r.subscriptionId.isSome →
        r ∈ db'.ledger.rows.rows
  asked : match command with
    | .repair _ command => ¬db.Answered command → Asked command db'.ledger
    | .reconcile _ _ => True

/-- The repairs that are executed find their service settled. -/
def FindsSettled (db : Database) : Command → Prop
  | .repair registry command => ¬db.Answered command → Settled registry db.ledger command
  | .reconcile _ _ => True

/-- **A command leaves what it is to leave exactly when it finds its service settled.** -/
theorem leaves_iff {digests : Digests} {command : Command}
    (h : step digests db command = .ok db') : Leaves db command db' ↔ FindsSettled db command := by
  have hone : ∀ r ∈ db'.ledger.rows.rows, ∀ r' ∈ db'.ledger.rows.rows, ∀ a, r.isActive →
      r'.isActive → r.ipv4AddressId = some a → r'.ipv4AddressId = some a →
        r.subscriptionId = r'.subscriptionId := fun r hr r' hr' a hactive hactive' ha ha' =>
    congrArg _ (Ledger.eq_of_address hr hr' hactive hactive' ha ha')
  cases command with
  | reconcile registry command =>
    obtain ⟨⟨db', linked⟩, hlink, rfl⟩ := map_eq_ok.mp h
    exact ⟨fun _ => trivial, fun _ => ⟨hone, fun r hr => mem_of_reconcile hlink hr, trivial⟩⟩
  | repair registry command =>
    obtain ⟨⟨db', outcome⟩, hrepair, rfl⟩ := map_eq_ok.mp h
    by_cases hanswered : db.Answered command
    · obtain rfl := eq_of_answered hrepair hanswered
      exact ⟨fun _ hnew => absurd hanswered hnew,
        fun _ => ⟨hone, fun _ _ _ => Iff.rfl, fun hnew => absurd hanswered hnew⟩⟩
    · obtain ⟨subscription, ids, between, hsub, hexecuted⟩ := executed_of_repair hrepair hanswered
      have hid : subscription.id = command.subscriptionId := (Table.get?_eq_some.mp hsub).2
      have hasked := asked_iff hsub hexecuted
      constructor
      · exact fun hleaves _ => hasked.mp (hleaves.asked hanswered)
      · intro hsettled
        refine ⟨hone, fun r hlinked hother => ?_, fun _ => hasked.mpr (hsettled hanswered)⟩
        exact hexecuted.other_iff (hid ▸ hother) hlinked

/-- **The runs that leave what they are asked for** are those whose repairs find their services
settled. -/
theorem leaves_run (digests : Digests) (commands : List Command) (db : Database) :
    (∀ before command after db', commands = before ++ command :: after →
      step digests (Run.run (step digests) db before) command = .ok db' →
        Leaves (Run.run (step digests) db before) command db') ↔
      Run.Guarded (step digests) FindsSettled db commands := by
  rw [Run.guarded_iff_forall_split]
  constructor
  · rintro h before command after heq ⟨db', hok⟩
    exact (leaves_iff hok).mp (h before command after db' heq hok)
  · intro h before command after db' heq hok
    exact (leaves_iff hok).mpr (h before command after heq ⟨db', hok⟩)

/-! ### A kept assignment without the marker -/

def serviceAssignment (isPrimary : Bool) (id : ℕ) : IPAssignment :=
  ⟨id, some 7, some 0, none, .ipv4 id, isPrimary, none, none, none, none, true⟩

def twoAssignments : Table IPAssignment :=
  (Table.empty.insert (serviceAssignment true) fun _ => rfl).insert (serviceAssignment false)
    fun _ => rfl

lemma indexed_twoAssignments : Indexed twoAssignments := by decide

def twoAddresses : Database := ⟨⟨twoAssignments, indexed_twoAssignments⟩, [], []⟩

def customerPool : IpPool :=
  ⟨"Customers", .ipv4, "10.0.0.0/24", some "10.0.0.254", none, none, true, none, none⟩

/-- An active service, and two addresses of a customer pool. -/
def customerRegistry : Registry where
  subscriptions := Table.empty.insert (fun id => ⟨id, 7, .active, none, some "10.0.0.1"⟩)
    fun _ => rfl
  subscribers := [7]
  address := fun a => some ⟨if a = 0 then "10.0.0.1" else "10.0.0.2", some 0, false, none, none⟩
  pool := fun _ => some customerPool
  activeRoutes := []
  networkDevices := []
  nasDevices := []
  oltDevices := []
  routers := []
  radiusClients := []

def keepSecond : RepairCommand := ⟨some "repair-1", 0, some 1, [0], "ready_keep"⟩

def decisionDigests : Digests := ⟨(·.decision.value), fun _ => ""⟩

/-- **A repair keeps an assignment that no one marks.** -/
theorem keep_unmarked : ¬∀ before command after db',
    [.repair customerRegistry keepSecond] = before ++ command :: after →
      step decisionDigests (Run.run (step decisionDigests) twoAddresses before) command = .ok db' →
        Leaves (Run.run (step decisionDigests) twoAddresses before) command db' := by
  intro h
  have hok : ∃ db', step decisionDigests twoAddresses (.repair customerRegistry keepSecond) =
      .ok db' ∧ True := by decide +kernel
  obtain ⟨db', hok, -⟩ := hok
  have hsettled := (leaves_iff hok).mp (h [] _ [] db' rfl hok) (by decide) _ rfl
    (serviceAssignment false 1) (by decide) (by decide)
  exact absurd (hsettled.2 rfl) (by decide)

end DotmacSub.AddressRepairs
