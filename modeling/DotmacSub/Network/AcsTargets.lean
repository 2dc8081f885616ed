import DotmacSub.Network.PlanOrder

/-!
# The device an ACS action targets

Every ACS write of a plan goes to one resolved identifier, and the resolution fails closed.
-/

namespace DotmacSub.Network

def Action.deviceId : Action → Option String
  | .acsAddObject deviceId .. | .acsDeleteObject deviceId .. | .acsSetPppoe deviceId ..
  | .acsSetWifiConfig deviceId .. | .acsSetRemoteAccess deviceId .. | .acsSetNatEnabled deviceId ..
  | .acsSetIpv6 deviceId .. | .acsSetWanIp deviceId .. | .acsSetDhcpServer deviceId ..
  | .acsSetManagementServer deviceId .. => some deviceId
  | _ => none

/-- The identifier the ACS writes of an ONT may carry: recorded or reported, the two sources agree,
and the ACS holds one document for the serial. -/
structure AcsTarget (desired : OntDesiredState) (observed : OntObservedState) (deviceId : String) :
    Prop where
  known : trimmedId desired.acsDeviceId = some deviceId ∨
    trimmedId observed.acs.deviceId = some deviceId
  agrees : ∀ persisted seen, trimmedId desired.acsDeviceId = some persisted →
    trimmedId observed.acs.deviceId = some seen → persisted = seen
  present : observed.acs.acsPresent = true
  matched : observed.acs.deviceMatchCount ≤ 1

/-- One device id on every ACS action, or nothing to target, no ACS action and a reason to wait. -/
def WritesOneTarget (desired : OntDesiredState) (observed : OntObservedState) (plan : Plan) : Prop :=
  (∃ deviceId, AcsTarget desired observed deviceId ∧
    ∀ a ∈ plan.actions, a.surface = .acs → a.deviceId = some deviceId) ∨
  ((¬ ∃ deviceId, AcsTarget desired observed deviceId) ∧
    (∀ a ∈ plan.actions, a.surface ≠ .acs) ∧ plan.acsWaitReason ≠ none)

section Resolve

variable {desired : OntDesiredState} {observed : OntObservedState}

variable (desired observed)

/-- What the resolution hands out is a target, and it hands one out whenever there is one. -/
lemma resolveAcsDeviceId_eq_some (deviceId : String) :
    (resolveAcsDeviceId desired observed).deviceId = some deviceId ↔
      AcsTarget desired observed deviceId := by
  unfold resolveAcsDeviceId
  dsimp only
  split_ifs with habsent hmany hdisagree hunknown
  · exact iff_of_false (by simp) fun h => Bool.false_ne_true (habsent.symm.trans h.present)
  · exact iff_of_false (by simp) fun h => not_le.mpr hmany h.matched
  · refine iff_of_false (by simp) fun h => hdisagree.2.2 ?_
    obtain ⟨persisted, hpersisted⟩ := Option.ne_none_iff_exists'.mp hdisagree.1
    obtain ⟨seen, hseen⟩ := Option.ne_none_iff_exists'.mp hdisagree.2.1
    rw [hpersisted, hseen, h.agrees persisted seen hpersisted hseen]
  · exact iff_of_false (by simp) fun h => by simpa [hunknown] using h.known
  · have hagrees : ∀ persisted seen, trimmedId desired.acsDeviceId = some persisted →
        trimmedId observed.acs.deviceId = some seen → persisted = seen := by
      intro persisted seen hpersisted hseen
      by_contra hne
      simp [hpersisted, hseen, hne] at hdisagree
    have hpresent : observed.acs.acsPresent = true := by simpa using habsent
    constructor
    · intro h
      refine ⟨?_, hagrees, hpresent, not_lt.mp hmany⟩
      cases hpersisted : trimmedId desired.acsDeviceId with
      | none => right; simpa [hpersisted] using h
      | some persisted => left; simpa [hpersisted] using h
    · intro h
      cases hpersisted : trimmedId desired.acsDeviceId with
      | none => simpa [hpersisted] using h.known
      | some persisted =>
        rcases h.known with hknown | hseen
        · simpa [hpersisted] using hknown
        · simp [hagrees persisted deviceId hpersisted hseen]

lemma waitReason_of_unresolved (h : (resolveAcsDeviceId desired observed).deviceId = none) :
    (resolveAcsDeviceId desired observed).waitReason ≠ none := by
  unfold resolveAcsDeviceId at h ⊢
  dsimp only at h ⊢
  split_ifs at h ⊢ with habsent hmany hdisagree hunknown <;> simp_all

end Resolve

section Acs

variable (desired : OntDesiredState) (observed : OntObservedState) (mode : ReconcileMode)
  (proposed : Finset String) (force : Bool) (deviceId : String) {a : Action}

lemma mem_planAcsWanPpp (h : a ∈ (planAcsWanPpp desired observed proposed force deviceId).actions) :
    (∃ objectPath wcd, a = .acsAddObject deviceId objectPath wcd) ∨
      ∃ wcd inst username passwordRef vlan,
        a = .acsSetPppoe deviceId wcd inst username passwordRef vlan := by
  unfold planAcsWanPpp at h
  split at h
  · simp only [Emitted.actions_when, Emitted.actions_append, List.mem_ite_nil_right,
      List.mem_append, List.mem_singleton] at h
    rcases h with ⟨-, ⟨-, rfl⟩ | ⟨-, rfl⟩⟩
    · exact .inl ⟨_, _, rfl⟩
    · exact .inr ⟨_, _, _, _, _, rfl⟩
  · exact absurd h List.not_mem_nil

lemma mem_planManagementServer :
    a ∈ (planManagementServer desired observed proposed force deviceId).actions ↔
      ∃ crUsername crPasswordRef, desired.crUsername = some crUsername ∧
        desired.crPasswordRef = some crPasswordRef ∧
        isDeliverable "cr_username" (.text crUsername) = true ∧
        isDeliverable "cr_password_ref" (.text crPasswordRef) = true ∧
        (forces force proposed acsEndpointFields ∨ managementServerDiffers desired observed) ∧
        a = .acsSetManagementServer deviceId crUsername crPasswordRef
          desired.periodicInformIntervalSec
          (orText (dataModelRoot desired observed) "InternetGatewayDevice") desired.acsUrl
          desired.acsUsername desired.acsPasswordRef := by
  unfold planManagementServer
  split
  · next crUsername crPasswordRef husername href =>
    simp only [Emitted.actions_when, List.mem_ite_nil_right, List.mem_singleton, husername, href,
      Option.some.injEq, and_assoc]
    exact ⟨fun h => ⟨_, _, rfl, rfl, h⟩, fun ⟨_, _, husername, href, h⟩ => by
      subst husername href
      exact h⟩
  · next hnone =>
    refine iff_of_false List.not_mem_nil ?_
    rintro ⟨crUsername, crPasswordRef, husername, href, -⟩
    exact hnone _ _ husername href

lemma mem_planAcsWanIp (h : a ∈ (planAcsWanIp desired observed proposed force deviceId).actions) :
    ∃ root wcd inst mode vlan nat ip mask gateway dns paths,
      a = .acsSetWanIp deviceId root wcd inst mode vlan nat ip mask gateway dns paths := by
  unfold planAcsWanIp at h
  split at h
  · simp only [Emitted.actions_when, List.mem_ite_nil_right, List.mem_singleton] at h
    exact ⟨_, _, _, _, _, _, _, _, _, _, _, h.2⟩
  · exact absurd h List.not_mem_nil

lemma mem_planNat (h : a ∈ (planNat desired observed deviceId).actions) :
    (∃ wcd inst enabled, a = .acsSetNatEnabled deviceId wcd inst enabled) ∨
      ∃ objectPath, a = .acsDeleteObject deviceId objectPath := by
  unfold planNat at h
  split at h
  · exact absurd h List.not_mem_nil
  · simp only [Emitted.actions_when, Emitted.actions_append, List.mem_ite_nil_right,
      List.mem_append, List.mem_singleton, List.mem_map] at h
    rcases h with ⟨-, ⟨-, rfl⟩ | ⟨stale, -, rfl⟩⟩
    · exact .inl ⟨_, _, _, rfl⟩
    · exact .inr ⟨_, rfl⟩

lemma planAcsWanPpp_deviceId
    (h : a ∈ (planAcsWanPpp desired observed proposed force deviceId).actions) :
    a.deviceId = some deviceId := by
  rcases mem_planAcsWanPpp desired observed proposed force deviceId h with
    ⟨_, _, rfl⟩ | ⟨_, _, _, _, _, rfl⟩ <;> rfl

lemma planManagementServer_deviceId
    (h : a ∈ (planManagementServer desired observed proposed force deviceId).actions) :
    a.deviceId = some deviceId := by
  obtain ⟨_, _, -, -, -, -, -, rfl⟩ :=
    (mem_planManagementServer desired observed proposed force deviceId).mp h
  rfl

lemma planAcsWanIp_deviceId
    (h : a ∈ (planAcsWanIp desired observed proposed force deviceId).actions) :
    a.deviceId = some deviceId := by
  obtain ⟨_, _, _, _, _, _, _, _, _, _, _, rfl⟩ :=
    mem_planAcsWanIp desired observed proposed force deviceId h
  rfl

lemma planNat_deviceId (h : a ∈ (planNat desired observed deviceId).actions) :
    a.deviceId = some deviceId := by
  rcases mem_planNat desired observed deviceId h with ⟨_, _, _, rfl⟩ | ⟨_, rfl⟩ <;> rfl

lemma acsSettings_deviceId (omciWanPlanned : Bool)
    (h : a ∈ acsSettings desired observed mode proposed force deviceId omciWanPlanned) :
    a.deviceId = some deviceId := by
  simp only [acsSettings, List.mem_append, List.mem_ite_nil_right] at h
  rcases h with ((⟨-, h⟩ | ⟨-, h⟩) | ⟨-, h⟩) | ⟨-, (⟨-, h⟩ | h) | ⟨-, h⟩⟩
  · exact planAcsWanIp_deviceId desired observed proposed force deviceId h
  · simp only [planWifi, List.mem_ite_nil_right, List.mem_singleton] at h
    rw [h.2, Action.deviceId]
  · simp only [planRemoteAccess, Emitted.actions_when, List.mem_ite_nil_right,
      List.mem_singleton] at h
    rw [h.2, Action.deviceId]
  · exact planNat_deviceId desired observed deviceId h
  · simp only [planIpv6, Emitted.actions_when, List.mem_ite_nil_right, List.mem_singleton] at h
    rw [h.2.2, Action.deviceId]
  · simp only [planDhcpServer, Emitted.actions_when, List.mem_ite_nil_right,
      List.mem_singleton] at h
    rw [h.2, Action.deviceId]

/-- Each ACS action carries the identifier the planner resolved. -/
lemma planAcsWrites_deviceId (omciWanPlanned : Bool)
    (h : a ∈ (planAcsWrites desired observed mode proposed force deviceId omciWanPlanned).actions) :
    a.deviceId = some deviceId := by
  simp only [planAcsWrites_actions, List.mem_append, List.mem_ite_nil_right] at h
  rcases h with (⟨-, h⟩ | h) | ⟨-, h⟩
  · exact planAcsWanPpp_deviceId desired observed proposed force deviceId h
  · exact acsSettings_deviceId desired observed mode proposed force deviceId omciWanPlanned h
  · exact planManagementServer_deviceId desired observed proposed force deviceId h

end Acs

section Plan

variable (desired : OntDesiredState) (observed : OntObservedState) (mode : ReconcileMode)
  (proposedFields : Option (Finset String)) (forceProposedWrites : Bool)

def PlansAcs : Prop :=
  isTr069ProfileOnlyChange mode (proposedFields.getD ∅) = false ∧ truthy desired.acsServerId = true

lemma planOltScope_surface {proposed : Finset String} {a : Action}
    (h : a ∈ (planOltScope desired observed mode proposed).1.actions) : a.surface = .olt := by
  cases hscope : isTr069ProfileOnlyChange mode proposed with
  | true =>
    simp only [planOltScope, hscope, if_true, planTr069ProfileOnly, Emitted.actions_when,
      List.mem_ite_nil_right, List.mem_singleton] at h
    rw [h.2, tr069Binding, Action.surface]
  | false =>
    rw [planOltScope_actions desired observed hscope, appendResetIfNeeded_eq] at h
    exact surface_of_mem_olt desired (fun _ => oltBase_write desired observed) _ h

/-- Where the scope plans no ACS half, nothing is sent to the ACS and nothing waits for it. -/
lemma computePlan_of_not_plansAcs (h : ¬ PlansAcs desired mode proposedFields) :
    (∀ a ∈ (computePlan desired observed mode proposedFields forceProposedWrites).actions,
      a.surface ≠ .acs) ∧
    (computePlan desired observed mode proposedFields forceProposedWrites).acsWaitReason = none := by
  rw [PlansAcs, not_and, Bool.not_eq_true] at h
  have hacs : (if isTr069ProfileOnlyChange mode (proposedFields.getD ∅) then ({}, ⟨none, none, ""⟩)
      else planAcsSide desired observed mode (proposedFields.getD ∅) forceProposedWrites
        (planOltScope desired observed mode (proposedFields.getD ∅)).2) =
      (({}, ⟨none, none, ""⟩) : Emitted × AcsIdentity) := by
    split_ifs with hscope
    · rfl
    · simp only [planAcsSide, h (by simpa using hscope), if_true]
  simp only [computePlan, hacs, Emitted.actions_append, List.append_nil, and_true]
  intro a ha hsurface
  rw [planOltScope_surface desired observed mode ha] at hsurface
  exact WriteSurface.noConfusion hsurface

/-- Where it plans one, the resolved identifier decides. -/
lemma computePlan_of_plansAcs (h : PlansAcs desired mode proposedFields) :
    WritesOneTarget desired observed
      (computePlan desired observed mode proposedFields forceProposedWrites) := by
  obtain ⟨hscope, hserver⟩ := h
  have hresolve := resolveAcsDeviceId_eq_some desired observed
  simp only [WritesOneTarget, computePlan, hscope, planAcsSide, hserver, Bool.true_eq_false,
    Bool.false_eq_true, if_false, Emitted.actions_append, List.mem_append]
  cases hid : (resolveAcsDeviceId desired observed).deviceId with
  | none =>
    right
    refine ⟨?_, fun a ha hsurface => ?_, waitReason_of_unresolved desired observed hid⟩
    · rintro ⟨deviceId, htarget⟩
      rw [← hresolve, hid] at htarget
      exact absurd htarget (by simp)
    · rcases ha with ha | ha
      · rw [planOltScope_surface desired observed mode ha] at hsurface
        exact WriteSurface.noConfusion hsurface
      · exact absurd ha List.not_mem_nil
  | some deviceId =>
    left
    refine ⟨deviceId, (hresolve deviceId).mp hid, fun a ha hsurface => ?_⟩
    rcases ha with ha | ha
    · rw [planOltScope_surface desired observed mode ha] at hsurface
      exact WriteSurface.noConfusion hsurface
    · exact planAcsWrites_deviceId desired observed mode _ forceProposedWrites deviceId _ ha

/-- **ACS writes never reach another device.**  In a scope with an ACS half every ACS action carries
the one identifier both sources allow, and without one there is no ACS action and a reason to wait.
The profile edit and an ONT without an ACS server have no ACS half: nothing is sent or awaited. -/
theorem acsActions_targeted :
    (PlansAcs desired mode proposedFields → WritesOneTarget desired observed
      (computePlan desired observed mode proposedFields forceProposedWrites)) ∧
    (¬ PlansAcs desired mode proposedFields →
      (∀ a ∈ (computePlan desired observed mode proposedFields forceProposedWrites).actions,
        a.surface ≠ .acs) ∧
      (computePlan desired observed mode proposedFields forceProposedWrites).acsWaitReason = none) :=
  ⟨computePlan_of_plansAcs desired observed mode proposedFields forceProposedWrites,
    computePlan_of_not_plansAcs desired observed mode proposedFields forceProposedWrites⟩

end Plan

/-- An ONT without an ACS server waits for nothing, although no device answers for it. -/
theorem unboundOnt_waits_for_nothing : ¬ ∀ desired observed mode proposedFields force,
    WritesOneTarget desired observed (computePlan desired observed mode proposedFields force) := by
  intro hall
  have hunbound : ¬ PlansAcs unprofiledOnt .sync none := by
    simp [PlansAcs, unprofiledOnt, truthy]
  rcases hall unprofiledOnt unseenOnt .sync none true with ⟨deviceId, htarget, -⟩ | ⟨-, -, hwait⟩
  · exact Bool.false_ne_true htarget.present
  · exact hwait (computePlan_of_not_plansAcs unprofiledOnt unseenOnt .sync none true hunbound).2

end DotmacSub.Network
