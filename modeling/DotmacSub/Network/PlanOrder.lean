import DotmacSub.Network.Planner

/-!
# The order of a plan

What the ordering contract of the planner module promises about the actions of a plan, and the
scopes in which it holds.
-/

namespace DotmacSub.Network

namespace Action

def isReset : Action → Bool
  | oltReset .. => true
  | _ => false

def isAuthorize : Action → Bool
  | oltAuthorize .. => true
  | _ => false

def isManagementServer : Action → Bool
  | acsSetManagementServer .. => true
  | _ => false

/-- The WAN connection device under which an action adds a child. -/
def createdUnder : Action → Option ℤ
  | acsAddObject _ _ wcdIndex => wcdIndex
  | _ => none

/-- The WAN connection device whose child an action sets. -/
def setsUnder : Action → Option ℤ
  | acsSetPppoe _ wcdIndex .. => some wcdIndex
  | acsSetNatEnabled _ wcdIndex .. => some wcdIndex
  | acsSetWanIp _ _ wcdIndex .. => some wcdIndex
  | _ => none

end Action

namespace Action

lemma surface_of_requiresReset {a : Action} (h : a.requiresReset = true) : a.surface = .olt := by
  cases a <;> first | rfl | simp [requiresReset] at h

lemma isReset_of_requiresReset {a : Action} (h : a.requiresReset = true) : a.isReset = false := by
  cases a <;> first | rfl | simp [requiresReset] at h

lemma surface_of_isReset {a : Action} (h : a.isReset = true) : a.surface = .olt := by
  cases a <;> first | rfl | simp [isReset] at h

lemma setsUnder_of_olt {a : Action} (h : a.surface = .olt) : a.setsUnder = none := by
  cases a <;> first | rfl | simp [surface] at h

lemma isManagementServer_of_olt {a : Action} (h : a.surface = .olt) :
    a.isManagementServer = false := by
  cases a <;> first | rfl | simp [surface] at h

end Action

/-- The order that the steps of a plan promise. -/
structure WellOrdered (actions : List Action) : Prop where
  oltFirst : actions.Pairwise fun a b => b.surface = .olt → a.surface = .olt
  resetOnce : actions.countP Action.isReset ≤ 1
  resetFollows : ∀ a ∈ actions, a.requiresReset → ∃ b ∈ actions, b.isReset
  resetNeeded : ∀ before after b, actions = before ++ b :: after → b.isReset →
    ∃ a ∈ before, a.requiresReset
  resetLast : actions.Pairwise fun a b => a.isReset → b.surface ≠ .olt
  objectFirst : actions.Pairwise fun a b => a.setsUnder = none ∨ a.setsUnder ≠ b.createdUnder
  managementLast : actions.Pairwise fun a b => a.isManagementServer → b.surface ≠ .acs

def StartsAuthorized (actions : List Action) : Prop :=
  (∀ a ∈ actions, a.surface ≠ .olt) ∨
    ∃ a, (actions.filter (·.surface = .olt)).head? = some a ∧ a.isAuthorize

/-! ## What the OLT half consists of -/

structure Action.IsOltWrite (a : Action) : Prop where
  surface_eq : a.surface = .olt
  isReset_eq : a.isReset = false
  isAuthorize_eq : a.isAuthorize = false

section Olt

variable (desired : OntDesiredState) (observed : OntObservedState)

def wanPortMissing : Prop :=
  desired.wanMode = .pppoe ∧ ∃ index vlan, desired.wanServicePortIndex = some index ∧
    desired.wanVlan = some vlan ∧ portObserved observed index = false ∧
    isDeliverable "wan_vlan" (.number vlan)

def mgmtPortMissing : Prop :=
  ∃ index vlan, desired.mgmtServicePortIndex = some index ∧ desired.mgmtVlan = some vlan ∧
    portObserved observed index = false

def omciOwnsWan : Prop :=
  desired.wanMode = .pppoe ∧ desired.wanPppoeProvisioningMethod ≠ .tr069 ∧
    ∃ profile ipIndex vlan, desired.wanConfigProfileId = some profile ∧
      desired.wanInternetConfigIpIndex = some ipIndex ∧ desired.wanVlan = some vlan ∧ 0 < profile ∧
      isDeliverable "wan_vlan" (.number vlan)

lemma planWanServicePort_eq_nil :
    (planWanServicePort desired observed).actions = [] ↔ ¬ wanPortMissing desired observed := by
  unfold planWanServicePort wanPortMissing
  split
  · next index vlan hindex hvlan => simp [hindex, hvlan]; grind
  · next hnone =>
    simp only [true_iff]
    rintro ⟨-, index, vlan, hindex, hvlan, -⟩
    exact hnone index vlan hindex hvlan

lemma planMgmtServicePort_eq_nil :
    (planMgmtServicePort desired observed).actions = [] ↔ ¬ mgmtPortMissing desired observed := by
  unfold planMgmtServicePort mgmtPortMissing
  split
  · next index vlan hindex hvlan => simp [hindex, hvlan]
  · next hnone =>
    simp only [true_iff]
    rintro ⟨index, vlan, hindex, hvlan, -⟩
    exact hnone index vlan hindex hvlan

lemma planOltOmciWan_eq_nil : (planOltOmciWan desired).1.actions = [] ↔ ¬ omciOwnsWan desired := by
  unfold planOltOmciWan omciOwnsWan
  split
  · next profile ipIndex vlan hprofile hindex hvlan =>
    simp only [hprofile, hindex, hvlan]
    split_ifs with hskip
    · simp; grind
    · simp; grind
  · next hnone =>
    simp only [true_iff]
    rintro ⟨-, -, profile, ipIndex, vlan, hprofile, hindex, hvlan, -⟩
    exact hnone profile ipIndex vlan hprofile hindex hvlan

lemma planIphost_eq_nil (habsent : observed.olt.oltPresent = false) :
    (planIphost desired observed).actions = [] ↔ desired.mgmtVlan = none ∨ desired.mgmtIp = none := by
  unfold planIphost
  split
  · next vlan ip hvlan hip => simp [hvlan, hip, iphostDiffers, habsent]
  · next hnone =>
    simp only [true_iff]
    by_contra! hset
    obtain ⟨vlan, hvlan⟩ := Option.ne_none_iff_exists'.mp hset.1
    obtain ⟨ip, hip⟩ := Option.ne_none_iff_exists'.mp hset.2
    exact hnone vlan ip hvlan hip

lemma planWanServicePort_write {a : Action} (h : a ∈ (planWanServicePort desired observed).actions) :
    a.IsOltWrite := by
  unfold planWanServicePort at h
  split at h
  · simp only [Emitted.actions_when, List.mem_ite_nil_right, List.mem_singleton] at h
    obtain ⟨-, rfl⟩ := h
    exact ⟨rfl, rfl, rfl⟩
  · exact absurd h List.not_mem_nil

lemma planMgmtServicePort_write {a : Action}
    (h : a ∈ (planMgmtServicePort desired observed).actions) : a.IsOltWrite := by
  unfold planMgmtServicePort at h
  split at h
  · simp only [Emitted.actions_when, List.mem_ite_nil_right, List.mem_singleton] at h
    obtain ⟨-, rfl⟩ := h
    exact ⟨rfl, rfl, rfl⟩
  · exact absurd h List.not_mem_nil

lemma planServicePorts_write {a : Action} (h : a ∈ (planServicePorts desired observed).actions) :
    a.IsOltWrite := by
  simp only [planServicePorts, planStalePorts, Emitted.actions_append, List.mem_append,
    List.mem_map] at h
  obtain (⟨sp, -, rfl⟩ | h) | h := h
  · exact ⟨rfl, rfl, rfl⟩
  · exact planMgmtServicePort_write desired observed h
  · exact planWanServicePort_write desired observed h

lemma planIphost_write {a : Action} (h : a ∈ (planIphost desired observed).actions) :
    a.IsOltWrite := by
  unfold planIphost at h
  split at h
  · simp only [Emitted.actions_when, List.mem_ite_nil_right, List.mem_cons, List.not_mem_nil,
      or_false] at h
    obtain ⟨-, rfl | rfl | rfl⟩ := h <;> exact ⟨rfl, rfl, rfl⟩
  · exact absurd h List.not_mem_nil

lemma planOltOmciWan_write {a : Action} (h : a ∈ (planOltOmciWan desired).1.actions) :
    a.IsOltWrite := by
  unfold planOltOmciWan at h
  split at h
  · split_ifs at h
    · exact absurd h List.not_mem_nil
    · simp only [List.mem_cons, List.not_mem_nil, or_false] at h
      obtain rfl | rfl | rfl := h <;> exact ⟨rfl, rfl, rfl⟩
  · exact absurd h List.not_mem_nil

lemma planPresent_write {a : Action} (h : a ∈ (planPresent desired observed).actions) :
    a.IsOltWrite := by
  simp only [planPresent, Emitted.actions_append, Emitted.actions_when, List.mem_append,
    List.mem_ite_nil_right, List.mem_singleton] at h
  obtain ((⟨-, rfl⟩ | ⟨-, rfl⟩) | ⟨-, rfl⟩) | ⟨-, rfl⟩ := h <;> exact ⟨rfl, rfl, rfl⟩

def afterAuthorization : List Action :=
  (planServicePorts desired observed).actions ++ (planIphost desired observed).actions ++
    (if tr069Deliverable desired then [tr069Binding desired] else []) ++
    (planOltOmciWan desired).1.actions

lemma afterAuthorization_write {a : Action} (h : a ∈ afterAuthorization desired observed) :
    a.IsOltWrite := by
  simp only [afterAuthorization, List.mem_append, List.mem_ite_nil_right, List.mem_singleton] at h
  obtain ((h | h) | ⟨-, rfl⟩) | h := h
  · exact planServicePorts_write desired observed h
  · exact planIphost_write desired observed h
  · exact ⟨rfl, rfl, rfl⟩
  · exact planOltOmciWan_write desired h

lemma planOltSide_of_absent (habsent : observed.olt.oltPresent = false) :
    (planOltSide desired observed ++ (planOltOmciWan desired).1).actions =
      (if authorizable desired then [authorization desired] else []) ++
        afterAuthorization desired observed := by
  simp [planOltSide, planAbsent, afterAuthorization, habsent]

lemma planOltSide_write {a : Action}
    (h : a ∈ (planOltSide desired observed ++ (planOltOmciWan desired).1).actions) :
    a.surface = .olt ∧ a.isReset = false := by
  cases hpresent : observed.olt.oltPresent with
  | false =>
    rw [planOltSide_of_absent desired observed hpresent, List.mem_append, List.mem_ite_nil_right,
      List.mem_singleton] at h
    obtain ⟨-, rfl⟩ | h := h
    · exact ⟨rfl, rfl⟩
    · exact ⟨(afterAuthorization_write desired observed h).1,
        (afterAuthorization_write desired observed h).2⟩
  | true =>
    simp only [planOltSide, hpresent, if_true, Emitted.actions_append, Emitted.actions_when,
      List.mem_append, Bool.true_eq_false, false_and, if_false, List.not_mem_nil, or_false] at h
    have hwrite : a.IsOltWrite := by
      obtain ((h | h) | h) | h := h
      · exact planPresent_write desired observed h
      · exact planServicePorts_write desired observed h
      · exact planIphost_write desired observed h
      · exact planOltOmciWan_write desired h
    exact ⟨hwrite.1, hwrite.2⟩

def oltBase (mode : ReconcileMode) (proposed : Finset String) : List Action :=
  if isWifiOnlyChange mode proposed ∨ isRemoteAccessOnlyChange mode proposed then []
  else if isWanOnlyChange mode proposed then
    (planWanServicePort desired observed).actions ++ (planOltOmciWan desired).1.actions
  else (planOltSide desired observed ++ (planOltOmciWan desired).1).actions

lemma oltBase_write {mode : ReconcileMode} {proposed : Finset String} {a : Action}
    (h : a ∈ oltBase desired observed mode proposed) : a.surface = .olt ∧ a.isReset = false := by
  unfold oltBase at h
  split_ifs at h with hnarrow hwan
  · exact absurd h List.not_mem_nil
  · obtain h | h := List.mem_append.mp h
    · exact ⟨(planWanServicePort_write desired observed h).1,
        (planWanServicePort_write desired observed h).2⟩
    · exact ⟨(planOltOmciWan_write desired h).1, (planOltOmciWan_write desired h).2⟩
  · exact planOltSide_write desired observed h

lemma planOltScope_actions {mode : ReconcileMode} {proposed : Finset String}
    (hscope : isTr069ProfileOnlyChange mode proposed = false) :
    (planOltScope desired observed mode proposed).1.actions =
      appendResetIfNeeded desired (oltBase desired observed mode proposed) := by
  simp only [planOltScope, oltBase, hscope, Bool.false_eq_true, if_false]
  split_ifs <;> rfl

end Olt

/-- An ACS action other than an added object and the management-server change. -/
structure Action.IsAcsWrite (a : Action) : Prop where
  surface_eq : a.surface = .acs
  createdUnder_eq : a.createdUnder = none
  isManagementServer_eq : a.isManagementServer = false

/-- Added objects, then writes, then the management-server change. -/
structure AcsHalf (actions : List Action) where
  created : List Action
  writes : List Action
  management : Option Action
  actions_eq : actions = created ++ writes ++ management.toList
  of_created : ∀ a ∈ created, a.surface = .acs ∧ a.setsUnder = none ∧ a.isManagementServer = false
  of_writes : ∀ a ∈ writes, a.IsAcsWrite
  of_management : ∀ a ∈ management, a.surface = .acs ∧ a.createdUnder = none

namespace AcsHalf

variable {actions : List Action}

def empty : AcsHalf [] := ⟨[], [], none, rfl, by simp, by simp, by simp⟩

lemma surface (half : AcsHalf actions) {a : Action} (h : a ∈ actions) : a.surface = .acs := by
  rw [half.actions_eq, List.mem_append, List.mem_append, Option.mem_toList] at h
  obtain (h | h) | h := h
  · exact (half.of_created a h).1
  · exact (half.of_writes a h).1
  · exact (half.of_management a h).1

/-- No setting stands before an object it could use. -/
lemma objectFirst (half : AcsHalf actions) :
    actions.Pairwise fun a b => a.setsUnder = none ∨ a.setsUnder ≠ b.createdUnder := by
  have hlater : ∀ b ∈ half.writes ++ half.management.toList, b.createdUnder = none := by
    intro b hb
    rw [List.mem_append, Option.mem_toList] at hb
    obtain hb | hb := hb
    · exact (half.of_writes b hb).2
    · exact (half.of_management b hb).2
  rw [half.actions_eq, List.append_assoc, List.pairwise_append]
  refine ⟨?_, ?_, fun a ha b _ => .inl (half.of_created a ha).2.1⟩
  · exact List.pairwise_of_forall_mem_list fun a ha b _ => .inl (half.of_created a ha).2.1
  · refine List.pairwise_of_forall_mem_list fun a _ b hb => ?_
    rw [hlater b hb]
    exact eq_or_ne _ _

lemma managementLast (half : AcsHalf actions) :
    actions.Pairwise fun a _ => a.isManagementServer = false := by
  have hearlier : ∀ a ∈ half.created ++ half.writes, a.isManagementServer = false := by
    intro a ha
    obtain ha | ha := List.mem_append.mp ha
    · exact (half.of_created a ha).2.2
    · exact (half.of_writes a ha).3
  rw [half.actions_eq, List.pairwise_append]
  refine ⟨List.pairwise_of_forall_mem_list fun a ha b _ => hearlier a ha, ?_,
    fun a ha b _ => hearlier a ha⟩
  cases half.management with
  | none => exact .nil
  | some a => exact List.pairwise_singleton _ a

end AcsHalf

section Acs

variable (desired : OntDesiredState) (observed : OntObservedState) (mode : ReconcileMode)
  (proposed : Finset String) (force : Bool) (deviceId : String)

lemma planAcsWanIp_write {a : Action}
    (h : a ∈ (planAcsWanIp desired observed proposed force deviceId).actions) : a.IsAcsWrite := by
  unfold planAcsWanIp at h
  split at h
  · simp only [Emitted.actions_when, List.mem_ite_nil_right, List.mem_singleton] at h
    obtain ⟨-, rfl⟩ := h
    exact ⟨rfl, rfl, rfl⟩
  · exact absurd h List.not_mem_nil

lemma planWifi_write {a : Action}
    (h : a ∈ (planWifi desired observed mode proposed force deviceId).actions) : a.IsAcsWrite := by
  simp only [planWifi, List.mem_ite_nil_right, List.mem_singleton] at h
  obtain ⟨-, rfl⟩ := h
  exact ⟨rfl, rfl, rfl⟩

lemma planRemoteAccess_write {a : Action}
    (h : a ∈ (planRemoteAccess desired observed proposed force deviceId).actions) :
    a.IsAcsWrite := by
  simp only [planRemoteAccess, Emitted.actions_when, List.mem_ite_nil_right,
    List.mem_singleton] at h
  obtain ⟨-, rfl⟩ := h
  exact ⟨rfl, rfl, rfl⟩

lemma planNat_write {a : Action} (h : a ∈ (planNat desired observed deviceId).actions) :
    a.IsAcsWrite := by
  unfold planNat at h
  split at h
  · exact absurd h List.not_mem_nil
  · simp only [Emitted.actions_when, Emitted.actions_append, List.mem_ite_nil_right,
      List.mem_append, List.mem_singleton, List.mem_map] at h
    obtain ⟨-, ⟨-, rfl⟩ | ⟨stale, -, rfl⟩⟩ := h <;> exact ⟨rfl, rfl, rfl⟩

lemma planIpv6_write {a : Action} (h : a ∈ (planIpv6 desired observed proposed deviceId).actions) :
    a.IsAcsWrite := by
  simp only [planIpv6, Emitted.actions_when, List.mem_ite_nil_right, List.mem_singleton] at h
  obtain ⟨-, -, rfl⟩ := h
  exact ⟨rfl, rfl, rfl⟩

lemma planDhcpServer_write {a : Action}
    (h : a ∈ (planDhcpServer desired observed proposed force deviceId).actions) : a.IsAcsWrite := by
  simp only [planDhcpServer, Emitted.actions_when, List.mem_ite_nil_right, List.mem_singleton] at h
  obtain ⟨-, rfl⟩ := h
  exact ⟨rfl, rfl, rfl⟩

lemma planAcsWanPpp_split : ∃ created writes,
    (planAcsWanPpp desired observed proposed force deviceId).actions = created ++ writes ∧
    (∀ a ∈ created, a.surface = .acs ∧ a.setsUnder = none ∧ a.isManagementServer = false) ∧
    ∀ a ∈ writes, a.IsAcsWrite := by
  unfold planAcsWanPpp
  split
  · simp only [Emitted.actions_when, Emitted.actions_append]
    split
    · refine ⟨_, _, rfl, fun a ha => ?_, fun a ha => ?_⟩
      · rw [List.mem_ite_nil_right, List.mem_singleton] at ha
        obtain ⟨-, rfl⟩ := ha
        exact ⟨rfl, rfl, rfl⟩
      · rw [List.mem_ite_nil_right, List.mem_singleton] at ha
        obtain ⟨-, rfl⟩ := ha
        exact ⟨rfl, rfl, rfl⟩
    · exact ⟨[], [], rfl, by simp, by simp⟩
  · exact ⟨[], [], rfl, by simp, by simp⟩

lemma planManagementServer_split : ∃ management : Option Action,
    (planManagementServer desired observed proposed force deviceId).actions = management.toList ∧
    ∀ a ∈ management, a.surface = .acs ∧ a.createdUnder = none := by
  unfold planManagementServer
  split
  · simp only [Emitted.actions_when]
    split_ifs with hwrite
    · refine ⟨some _, rfl, fun a ha => ?_⟩
      obtain rfl := Option.some.inj ha
      exact ⟨rfl, rfl⟩
    · exact ⟨none, rfl, by simp⟩
  · exact ⟨none, rfl, by simp⟩

/-- The settings between the added object and the management server. -/
def acsSettings (omciWanPlanned : Bool) : List Action :=
  let wifiOnly := isWifiOnlyChange mode proposed
  let remoteOnly := isRemoteAccessOnlyChange mode proposed
  let wanOnly := isWanOnlyChange mode proposed
  let narrow := wifiOnly || remoteOnly
  (if narrow = false ∧ (desired.wanMode = .dhcp ∨ desired.wanMode = .static) then
    (planAcsWanIp desired observed proposed force deviceId).actions else []) ++
  (if (remoteOnly || wanOnly) = false then
    (planWifi desired observed mode proposed force deviceId).actions else []) ++
  (if (wifiOnly || wanOnly) = false then
    (planRemoteAccess desired observed proposed force deviceId).actions else []) ++
  (if narrow = false then
    (if desired.wanMode = .pppoe ∧ omciWanPlanned = false then
      (planNat desired observed deviceId).actions else []) ++
    (planIpv6 desired observed proposed deviceId).actions ++
    (if wanOnly = false then
      (planDhcpServer desired observed proposed force deviceId).actions else []) else [])

lemma acsSettings_write (omciWanPlanned : Bool) {a : Action}
    (h : a ∈ acsSettings desired observed mode proposed force deviceId omciWanPlanned) :
    a.IsAcsWrite := by
  simp only [acsSettings, List.mem_append, List.mem_ite_nil_right] at h
  obtain ((⟨-, h⟩ | ⟨-, h⟩) | ⟨-, h⟩) | ⟨-, (⟨-, h⟩ | h) | ⟨-, h⟩⟩ := h
  · exact planAcsWanIp_write desired observed proposed force deviceId h
  · exact planWifi_write desired observed mode proposed force deviceId h
  · exact planRemoteAccess_write desired observed proposed force deviceId h
  · exact planNat_write desired observed deviceId h
  · exact planIpv6_write desired observed proposed deviceId h
  · exact planDhcpServer_write desired observed proposed force deviceId h

lemma planAcsWrites_actions (omciWanPlanned : Bool) :
    (planAcsWrites desired observed mode proposed force deviceId omciWanPlanned).actions =
      (if (isWifiOnlyChange mode proposed || isRemoteAccessOnlyChange mode proposed) = false ∧
          desired.wanMode = .pppoe ∧ omciWanPlanned = false then
        (planAcsWanPpp desired observed proposed force deviceId).actions else []) ++
      acsSettings desired observed mode proposed force deviceId omciWanPlanned ++
      (if (isWifiOnlyChange mode proposed || isRemoteAccessOnlyChange mode proposed) = false ∧
          isWanOnlyChange mode proposed = false then
        (planManagementServer desired observed proposed force deviceId).actions else []) := by
  simp only [planAcsWrites, acsSettings, Emitted.actions_append, Emitted.actions_when]
  cases isWifiOnlyChange mode proposed || isRemoteAccessOnlyChange mode proposed <;>
    cases isWanOnlyChange mode proposed <;> simp

/-- The writes of a known device: the added object, the settings, the management server. -/
lemma planAcsWrites_half (omciWanPlanned : Bool) : Nonempty (AcsHalf
    (planAcsWrites desired observed mode proposed force deviceId omciWanPlanned).actions) := by
  rw [planAcsWrites_actions]
  have hsettings := fun a =>
    @acsSettings_write desired observed mode proposed force deviceId omciWanPlanned a
  obtain ⟨created, writes, hppp, hcreated, hwrites⟩ :=
    planAcsWanPpp_split desired observed proposed force deviceId
  obtain ⟨management, hmgmt, hmanagement⟩ :=
    planManagementServer_split desired observed proposed force deviceId
  have hall : ∀ a ∈ writes ++ acsSettings desired observed mode proposed force deviceId
      omciWanPlanned, a.IsAcsWrite := fun a ha =>
    (List.mem_append.mp ha).elim (hwrites a) (hsettings a)
  rw [hppp, hmgmt]
  split_ifs
  · exact ⟨⟨created, _, management, by simp, hcreated, hall, hmanagement⟩⟩
  · exact ⟨⟨created, _, none, by simp, hcreated, hall, by simp⟩⟩
  · exact ⟨⟨[], _, management, by simp, by simp, hsettings, hmanagement⟩⟩
  · exact ⟨⟨[], _, none, by simp, by simp, hsettings, by simp⟩⟩

lemma planAcsSide_half (omciWanPlanned : Bool) : Nonempty (AcsHalf
    (planAcsSide desired observed mode proposed force omciWanPlanned).1.actions) := by
  unfold planAcsSide
  split_ifs
  · exact ⟨.empty⟩
  · dsimp only
    split
    · exact ⟨.empty⟩
    · exact planAcsWrites_half desired observed mode proposed force _ omciWanPlanned

end Acs

/-! ## Putting the halves together -/

section Halves

variable (desired : OntDesiredState) {base acs : List Action}

def resetActions (base : List Action) : List Action :=
  if base.any Action.requiresReset then [.oltReset desired.fsp desired.oltOntId] else []

lemma appendResetIfNeeded_eq (base : List Action) :
    appendResetIfNeeded desired base = base ++ resetActions desired base := by
  unfold appendResetIfNeeded resetActions
  split_ifs <;> simp

lemma mem_resetActions {a : Action} : a ∈ resetActions desired base ↔
    base.any Action.requiresReset = true ∧ a = .oltReset desired.fsp desired.oltOntId := by
  rw [resetActions, List.mem_ite_nil_right, List.mem_singleton]

lemma mem_halves {a : Action} (h : a ∈ base ++ resetActions desired base ++ acs) :
    a ∈ base ∨ a ∈ resetActions desired base ∨ a ∈ acs := by
  simpa [or_assoc] using h

lemma surface_of_mem_olt (hbase : ∀ a ∈ base, a.surface = .olt ∧ a.isReset = false) :
    ∀ a ∈ base ++ resetActions desired base, a.surface = .olt := by
  intro a ha
  obtain ha | ha := List.mem_append.mp ha
  · exact (hbase a ha).1
  · rw [((mem_resetActions desired).mp ha).2]
    rfl

lemma mem_base_of_requiresReset (hacs : ∀ a ∈ acs, a.surface ≠ .olt) {a : Action}
    (ha : a ∈ base ++ resetActions desired base ++ acs) (hrequires : a.requiresReset = true) :
    a ∈ base := by
  obtain ha | ha | ha := mem_halves desired ha
  · exact ha
  · rw [((mem_resetActions desired).mp ha).2] at hrequires
    exact absurd hrequires Bool.false_ne_true
  · exact absurd (Action.surface_of_requiresReset hrequires) (hacs a ha)

lemma exists_requiresReset (hbase : ∀ a ∈ base, a.surface = .olt ∧ a.isReset = false)
    (hacs : ∀ a ∈ acs, a.surface ≠ .olt) {b : Action}
    (hb : b ∈ base ++ resetActions desired base ++ acs) (hresets : b.isReset = true) :
    ∃ a ∈ base, a.requiresReset = true := by
  obtain hb | hb | hb := mem_halves desired hb
  · exact absurd hresets (by simp [(hbase b hb).2])
  · exact List.any_eq_true.mp ((mem_resetActions desired).mp hb).1
  · exact absurd (Action.surface_of_isReset hresets) (hacs b hb)

lemma resetLast_halves (hbase : ∀ a ∈ base, a.surface = .olt ∧ a.isReset = false)
    (hacs : ∀ a ∈ acs, a.surface ≠ .olt) :
    (base ++ resetActions desired base ++ acs).Pairwise
      fun a b => a.isReset = true → b.surface ≠ .olt := by
  have hnone : ∀ a ∈ base, ¬ a.isReset = true := fun a ha => by simp [(hbase a ha).2]
  rw [List.pairwise_append, List.pairwise_append]
  refine ⟨⟨?_, ?_, fun a ha _ _ hresets => absurd hresets (hnone a ha)⟩, ?_,
    fun a _ b hb _ => hacs b hb⟩
  · exact List.pairwise_of_forall_mem_list fun a ha _ _ hresets => absurd hresets (hnone a ha)
  · unfold resetActions
    split_ifs <;> simp
  · exact List.pairwise_of_forall_mem_list fun a ha b hb _ => hacs b hb

lemma resetNeeded_halves (hbase : ∀ a ∈ base, a.surface = .olt ∧ a.isReset = false)
    (hacs : ∀ a ∈ acs, a.surface ≠ .olt) {before after : List Action} {b : Action}
    (hsplit : base ++ resetActions desired base ++ acs = before ++ b :: after)
    (hresets : b.isReset = true) : ∃ a ∈ before, a.requiresReset = true := by
  obtain ⟨a, ha, hrequires⟩ := exists_requiresReset desired hbase hacs (by simp [hsplit]) hresets
  have hin : a ∈ before ++ b :: after := by
    rw [← hsplit]
    exact List.mem_append_left _ (List.mem_append_left _ ha)
  have hlast := resetLast_halves desired hbase hacs
  rw [hsplit, List.pairwise_append, List.pairwise_cons] at hlast
  obtain hin | hin := List.mem_append.mp hin
  · exact ⟨a, hin, hrequires⟩
  · obtain rfl | hin := List.mem_cons.mp hin
    · exact absurd hresets (by simp [Action.isReset_of_requiresReset hrequires])
    · exact absurd (Action.surface_of_requiresReset hrequires) (hlast.2.1.1 a hin hresets)

lemma resetOnce_halves (hbase : ∀ a ∈ base, a.surface = .olt ∧ a.isReset = false)
    (hacs : ∀ a ∈ acs, a.surface ≠ .olt) :
    (base ++ resetActions desired base ++ acs).countP Action.isReset ≤ 1 := by
  have hbase0 : base.countP Action.isReset = 0 :=
    List.countP_eq_zero.mpr fun a ha => by simp [(hbase a ha).2]
  have hacs0 : acs.countP Action.isReset = 0 :=
    List.countP_eq_zero.mpr fun a ha hresets => hacs a ha (Action.surface_of_isReset hresets)
  have hlength : (resetActions desired base).length ≤ 1 := by
    unfold resetActions
    split_ifs <;> simp
  rw [List.countP_append, List.countP_append, hbase0, hacs0, Nat.zero_add, Nat.add_zero]
  exact List.countP_le_length.trans hlength

/-- Plain OLT writes, the reset helper and an ACS half keep the contract. -/
lemma wellOrdered_append (base : List Action)
    (hbase : ∀ a ∈ base, a.surface = .olt ∧ a.isReset = false) (half : AcsHalf acs) : WellOrdered (appendResetIfNeeded desired base ++ acs) := by
  have hacs : ∀ a ∈ acs, a.surface ≠ .olt := fun a ha => by rw [half.surface ha]; decide
  have holt := surface_of_mem_olt desired hbase
  have hmgmt : ∀ a ∈ base ++ resetActions desired base, ¬ a.isManagementServer = true :=
    fun a ha => by simp [Action.isManagementServer_of_olt (holt a ha)]
  have hsets := fun a ha => Action.setsUnder_of_olt (holt a ha)
  rw [appendResetIfNeeded_eq]
  refine ⟨?_, resetOnce_halves desired hbase hacs, fun a ha hrequires => ?_,
    fun _ _ _ => resetNeeded_halves desired hbase hacs, resetLast_halves desired hbase hacs, ?_, ?_⟩
  · rw [List.pairwise_append]
    exact ⟨List.pairwise_of_forall_mem_list fun a ha _ _ _ => holt a ha,
      List.pairwise_of_forall_mem_list fun _ _ b hb h => absurd h (hacs b hb),
      fun a ha _ _ _ => holt a ha⟩
  · have hany : base.any Action.requiresReset = true := List.any_eq_true.mpr
      ⟨a, mem_base_of_requiresReset desired hacs ha hrequires, hrequires⟩
    exact ⟨.oltReset desired.fsp desired.oltOntId, by simp [resetActions, hany], rfl⟩
  · rw [List.pairwise_append]
    exact ⟨List.pairwise_of_forall_mem_list fun a ha _ _ => .inl (hsets a ha), half.objectFirst,
      fun a ha _ _ => .inl (hsets a ha)⟩
  · rw [List.pairwise_append]
    exact ⟨List.pairwise_of_forall_mem_list fun a ha _ _ h => absurd h (hmgmt a ha),
      half.managementLast.imp fun hnone h => absurd h (by simp [hnone]),
      fun a ha _ _ h => absurd h (hmgmt a ha)⟩

end Halves

/-! ## Which plans keep the contract -/

/-- An ONT nobody has chosen profiles for. -/
def unprofiledOnt : OntDesiredState where
  serialNumber := "48575443A1B2C3D4"
  fsp := "0/1/0"
  oltOntId := 5
  lineProfileId := 0
  serviceProfileId := 0
  description := "customer"
  mgmtVlan := none
  mgmtIp := none
  mgmtSubnetMask := none
  mgmtGateway := none
  mgmtDnsPrimary := none
  mgmtDnsSecondary := none
  mgmtIphostPriority := 2
  tr069ProfileId := 2
  acsServerId := none
  crUsername := none
  crPasswordRef := none
  periodicInformIntervalSec := 300
  wanMode := .pppoe
  wanVlan := none
  wanGemIndex := none
  wanPppoeUsername := none
  wanPppoePasswordRef := none
  wanPppoeProvisioningMethod := .auto
  wanPppoeWcdIndex := none
  wanPppoeInstanceIndex := 1
  wanConfigProfileId := none
  wanInternetConfigIpIndex := none
  natEnabled := true
  ipv6Enabled := false
  dhcpEnabled := true
  dhcpPoolMin := "192.168.100.2"
  dhcpPoolMax := "192.168.100.254"
  dhcpSubnetMask := "255.255.255.0"
  wifiSsid := ""
  wifiPasswordRef := ""
  mgmtServicePortIndex := none
  wanServicePortIndex := none

def unseenOnt : OntObservedState where
  olt := ⟨false, none, none, none, none, none, [], none⟩
  acs := { acsPresent := false }

section Plan

variable (desired : OntDesiredState) (observed : OntObservedState) (mode : ReconcileMode)
  (proposedFields : Option (Finset String)) (forceProposedWrites : Bool)

lemma computePlan_of_profileOnly
    (hscope : isTr069ProfileOnlyChange mode (proposedFields.getD ∅) = true) :
    (computePlan desired observed mode proposedFields forceProposedWrites).actions =
      if tr069ProfileDiffers desired observed then [tr069Binding desired] else [] := by
  simp [computePlan, planOltScope, planTr069ProfileOnly, hscope]

lemma computePlan_of_scope
    (hscope : isTr069ProfileOnlyChange mode (proposedFields.getD ∅) = false) :
    ∃ acs, Nonempty (AcsHalf acs) ∧
      (computePlan desired observed mode proposedFields forceProposedWrites).actions =
        appendResetIfNeeded desired (oltBase desired observed mode (proposedFields.getD ∅)) ++
          acs := by
  refine ⟨_, planAcsSide_half desired observed mode (proposedFields.getD ∅) forceProposedWrites
    (planOltScope desired observed mode (proposedFields.getD ∅)).2, ?_⟩
  simp [computePlan, hscope, planOltScope_actions desired observed hscope]

/-- **Plans are well ordered.**  The one exception is an edit of the TR-069 profile that has
something to bind: the binding requires a reset, and that scope never appends one. -/
theorem wellOrdered_iff :
    WellOrdered (computePlan desired observed mode proposedFields forceProposedWrites).actions ↔
      ¬ (isTr069ProfileOnlyChange mode (proposedFields.getD ∅) = true ∧
        tr069ProfileDiffers desired observed = true) := by
  cases hscope : isTr069ProfileOnlyChange mode (proposedFields.getD ∅) with
  | false =>
    obtain ⟨acs, ⟨half⟩, heq⟩ :=
      computePlan_of_scope desired observed mode proposedFields forceProposedWrites hscope
    rw [heq]
    simpa using wellOrdered_append desired _ (fun _ => oltBase_write desired observed) half
  | true =>
    rw [computePlan_of_profileOnly desired observed mode proposedFields forceProposedWrites hscope]
    split_ifs with hdiffers
    · -- the binding requires a reset, and there is none
      simp only [hdiffers, and_self, not_true_eq_false, iff_false]
      intro hordered
      obtain ⟨b, hb, hresets⟩ := hordered.resetFollows _ (List.mem_singleton_self _) rfl
      rw [List.mem_singleton.mp hb] at hresets
      exact Bool.false_ne_true hresets
    · simpa [hdiffers, appendResetIfNeeded] using wellOrdered_append desired [] (by simp) .empty

/-- A profile edit binds the profile without the reset the binding needs. -/
theorem profileEdit_not_wellOrdered : ¬ WellOrdered
    (computePlan unprofiledOnt unseenOnt .sync (some {"tr069_profile_id"}) true).actions := by
  have hplan : (computePlan unprofiledOnt unseenOnt .sync (some {"tr069_profile_id"})
      true).actions = [.oltTr069ServerConfig "0/1/0" 5 2] := by
    decide +kernel
  intro hordered
  rw [hplan] at hordered
  obtain ⟨b, hb, hresets⟩ := hordered.resetFollows _ (List.mem_singleton_self _) rfl
  rw [List.mem_singleton.mp hb] at hresets
  exact Bool.false_ne_true hresets

/-! ## An ONT the OLT does not know -/

/-- What a plan of the scope would do to an unknown ONT is its authorization, or nothing. -/
def NothingUnauthorized : Prop :=
  let proposed := proposedFields.getD ∅
  if isTr069ProfileOnlyChange mode proposed then ¬ tr069ProfileDiffers desired observed
  else if isWifiOnlyChange mode proposed ∨ isRemoteAccessOnlyChange mode proposed then True
  else if isWanOnlyChange mode proposed then
    ¬ wanPortMissing desired observed ∧ ¬ omciOwnsWan desired
  else authorizable desired ∨
    stalePorts desired observed = [] ∧ ¬ mgmtPortMissing desired observed ∧
      ¬ wanPortMissing desired observed ∧ (desired.mgmtVlan = none ∨ desired.mgmtIp = none) ∧
      ¬ tr069Deliverable desired ∧ ¬ omciOwnsWan desired

lemma startsAuthorized_of_writes {olt acs : List Action} (holt : ∀ a ∈ olt, a.surface = .olt)
    (hnone : ∀ a ∈ olt, a.isAuthorize = false) (hacs : ∀ a ∈ acs, a.surface = .acs) :
    StartsAuthorized (olt ++ acs) ↔ olt = [] := by
  have hfilter : (olt ++ acs).filter (·.surface = .olt) = olt := by
    rw [List.filter_append, List.filter_eq_self.mpr fun a ha => by simp [holt a ha],
      List.filter_eq_nil_iff.mpr fun a ha => by simp [hacs a ha], List.append_nil]
  constructor
  · rintro (hno | ⟨a, ha, hauth⟩)
    · refine List.eq_nil_iff_forall_not_mem.mpr fun a ha => ?_
      exact hno a (List.mem_append_left _ ha) (holt a ha)
    · rw [hfilter] at ha
      exact absurd hauth (by simp [hnone a (List.mem_of_head? ha)])
  · rintro rfl
    exact .inl fun a ha => by rw [hacs a ha]; decide

lemma appendResetIfNeeded_eq_nil (base : List Action) :
    appendResetIfNeeded desired base = [] ↔ base = [] := by
  unfold appendResetIfNeeded
  split_ifs with hany
  · constructor
    · simp
    · rintro rfl
      exact absurd hany Bool.false_ne_true
  · exact Iff.rfl

lemma startsAuthorized_of_base (base : List Action) {acs : List Action}
    (hbase : ∀ a ∈ base, a.IsOltWrite) (half : AcsHalf acs) : StartsAuthorized (appendResetIfNeeded desired base ++ acs) ↔ base = [] := by
  rw [← appendResetIfNeeded_eq_nil desired base]
  refine startsAuthorized_of_writes ?_ (fun a ha => ?_) fun a => half.surface
  · rw [appendResetIfNeeded_eq]
    exact surface_of_mem_olt desired fun a ha => ⟨(hbase a ha).1, (hbase a ha).2⟩
  · rw [appendResetIfNeeded_eq, List.mem_append, mem_resetActions] at ha
    obtain ha | ⟨-, rfl⟩ := ha
    · exact (hbase a ha).3
    · rfl

lemma afterAuthorization_eq_nil (habsent : observed.olt.oltPresent = false) :
    afterAuthorization desired observed = [] ↔
      stalePorts desired observed = [] ∧ ¬ mgmtPortMissing desired observed ∧
        ¬ wanPortMissing desired observed ∧ (desired.mgmtVlan = none ∨ desired.mgmtIp = none) ∧
        ¬ tr069Deliverable desired ∧ ¬ omciOwnsWan desired := by
  simp only [afterAuthorization, planServicePorts, planStalePorts, Emitted.actions_append,
    List.append_eq_nil_iff, List.map_eq_nil_iff, planMgmtServicePort_eq_nil,
    planWanServicePort_eq_nil, planIphost_eq_nil desired observed habsent, planOltOmciWan_eq_nil,
    ite_eq_right_iff, List.cons_ne_nil, imp_false, and_assoc]

/-- **An ONT missing from the OLT.**  Its plan starts with the authorization, or leaves the OLT
alone, exactly when the scope has nothing to write or can authorize. -/
theorem startsAuthorized_iff (habsent : observed.olt.oltPresent = false) :
    StartsAuthorized (computePlan desired observed mode proposedFields forceProposedWrites).actions ↔
      NothingUnauthorized desired observed mode proposedFields := by
  cases hscope : isTr069ProfileOnlyChange mode (proposedFields.getD ∅) with
  | true =>
    simp only [NothingUnauthorized, hscope, if_true]
    rw [computePlan_of_profileOnly desired observed mode proposedFields forceProposedWrites hscope,
      ← List.append_nil (ite _ _ _), startsAuthorized_of_writes _ _ (by simp)]
    · simp
    · simp [tr069Binding, Action.surface]
    · simp [tr069Binding, Action.isAuthorize]
  | false =>
    obtain ⟨acs, ⟨half⟩, heq⟩ :=
      computePlan_of_scope desired observed mode proposedFields forceProposedWrites hscope
    simp only [NothingUnauthorized, hscope, Bool.false_eq_true, if_false]
    rw [heq, oltBase]
    split_ifs with hnarrow hwan
    · simpa using startsAuthorized_of_base desired [] (by simp) half
    · rw [startsAuthorized_of_base desired _ (fun a ha => ?_) half, List.append_eq_nil_iff,
        planWanServicePort_eq_nil, planOltOmciWan_eq_nil]
      exact (List.mem_append.mp ha).elim (planWanServicePort_write desired observed)
        (planOltOmciWan_write desired)
    · rw [planOltSide_of_absent desired observed habsent]
      by_cases hauth : authorizable desired = true
      · -- the authorization heads the plan
        simp only [hauth, if_true, true_or, iff_true]
        refine .inr ⟨authorization desired, ?_, rfl⟩
        rw [appendResetIfNeeded_eq]
        simp [authorization, Action.surface]
      · rw [if_neg hauth, List.nil_append, startsAuthorized_of_base desired _
          (fun a => afterAuthorization_write desired observed) half,
          afterAuthorization_eq_nil desired observed habsent, or_iff_right hauth]

end Plan

/-- The condition, for an ONT that cannot be authorized. -/
theorem unprofiledOnt_startsAuthorized_iff :
    StartsAuthorized (computePlan unprofiledOnt unseenOnt .sync none true).actions ↔
      NothingUnauthorized unprofiledOnt unseenOnt .sync none :=
  startsAuthorized_iff unprofiledOnt unseenOnt .sync none true rfl

/-- Its profile is bound although it is not authorized. -/
theorem unprofiledOnt_not_startsAuthorized : ¬ StartsAuthorized
    (computePlan unprofiledOnt unseenOnt .sync none true).actions := by
  have hplan : (computePlan unprofiledOnt unseenOnt .sync none true).actions =
      [.oltTr069ServerConfig "0/1/0" 5 2, .oltReset "0/1/0" 5] := by
    decide +kernel
  rw [hplan]
  rintro (hnone | ⟨a, ha, hauth⟩)
  · exact hnone (.oltReset "0/1/0" 5) (by simp) rfl
  · obtain rfl := Option.some.inj ha
    exact Bool.false_ne_true hauth

end DotmacSub.Network
