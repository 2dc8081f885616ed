import DotmacSub.Network.Deliveries

/-!
# What the actions of a plan write

The secrets that a plan hands over, in terms of what it is computed from, and what follows for every
run of it.
-/

namespace DotmacSub.Network

open Logged

section Plan

variable (desired : OntDesiredState) (observed : OntObservedState) (mode : ReconcileMode)
  (proposedFields : Option (Finset String)) (force : Bool)

lemma mem_computePlan_acs {a : Action} (ha : a.surface = .acs) :
    a ∈ (computePlan desired observed mode proposedFields force).actions ↔
      PlansAcs desired mode proposedFields ∧ ∃ deviceId, AcsTarget desired observed deviceId ∧
        a ∈ (planAcsWrites desired observed mode (proposedFields.getD ∅) force deviceId
          (planOltScope desired observed mode (proposedFields.getD ∅)).2).actions := by
  by_cases hplans : PlansAcs desired mode proposedFields
  · obtain ⟨hscope, hserver⟩ := hplans
    have holt : a ∉ (planOltScope desired observed mode (proposedFields.getD ∅)).1.actions := by
      intro hmem
      exact absurd ((planOltScope_surface desired observed mode hmem).symm.trans ha) (by simp)
    simp only [computePlan, PlansAcs, hscope, hserver, planAcsSide, Bool.true_eq_false,
      Bool.false_eq_true, if_false, Emitted.actions_append, List.mem_append, holt, false_or,
      and_self, true_and, ← resolveAcsDeviceId_eq_some]
    cases hid : (resolveAcsDeviceId desired observed).deviceId with
    | none => simp
    | some deviceId => simp
  · refine iff_of_false (fun hmem => ?_) fun h => hplans h.1
    exact (computePlan_of_not_plansAcs desired observed mode proposedFields force hplans).1 a hmem ha

/-- The plan pushes the WiFi password. -/
def PushesWifiPassword : Prop :=
  PlansAcs desired mode proposedFields ∧ (∃ deviceId, AcsTarget desired observed deviceId) ∧
    (isRemoteAccessOnlyChange mode (proposedFields.getD ∅) ||
      isWanOnlyChange mode (proposedFields.getD ∅)) = false ∧
    shouldPushWifiPassword desired observed mode (proposedFields.getD ∅) force = true

/-- The plan writes these connection-request credentials. -/
def WritesManagementServer (crUsername crPasswordRef : String) : Prop :=
  PlansAcs desired mode proposedFields ∧ (∃ deviceId, AcsTarget desired observed deviceId) ∧
    (isWifiOnlyChange mode (proposedFields.getD ∅) ||
      isRemoteAccessOnlyChange mode (proposedFields.getD ∅)) = false ∧
    isWanOnlyChange mode (proposedFields.getD ∅) = false ∧
    desired.crUsername = some crUsername ∧ desired.crPasswordRef = some crPasswordRef ∧
    isDeliverable "cr_username" (.text crUsername) = true ∧
    isDeliverable "cr_password_ref" (.text crPasswordRef) = true ∧
    (forces force (proposedFields.getD ∅) acsEndpointFields ∨
      managementServerDiffers desired observed)

/-- The secrets that a plan hands over resolve to something, and the second one of the management
server resolves if the first one does. -/
structure SecretsResolve (resolveSecret : String → Except String (Option String)) : Prop where
  wifi : PushesWifiPassword desired observed mode proposedFields force →
    secretOf resolveSecret desired.wifiPasswordRef ≠ .ok ""
  connection : ∀ crUsername crPasswordRef,
    WritesManagementServer desired observed mode proposedFields force crUsername crPasswordRef →
      secretOf resolveSecret crPasswordRef ≠ .ok "" ∧
        ((∃ value, secretOf resolveSecret crPasswordRef = .ok value) →
          truthy desired.acsUrl = true →
            ∃ value, secretOf resolveSecret (orText desired.acsPasswordRef "") = .ok value)

section Wifi

variable (proposed : Finset String) (deviceId : String)

/-- The WiFi action carries no blank name, and the password only when it is pushed. -/
lemma mem_planWifi {a : Action}
    (h : a ∈ (planWifi desired observed mode proposed force deviceId).actions) :
    ∃ enabled ssid channel securityMode, ssid ≠ some "" ∧
      a = .acsSetWifiConfig deviceId (wifiPaths desired observed) enabled ssid
        (if shouldPushWifiPassword desired observed mode proposed force
          then some desired.wifiPasswordRef else none) channel securityMode := by
  simp only [planWifi, List.mem_ite_nil_right, List.mem_singleton] at h
  refine ⟨_, _, _, _, fun hblank => ?_, h.2⟩
  simp [wifiChange, isDeliverable_text] at hblank

lemma exists_mem_planWifi
    (h : shouldPushWifiPassword desired observed mode proposed force = true) :
    ∃ enabled ssid channel securityMode, ssid ≠ some "" ∧
      .acsSetWifiConfig deviceId (wifiPaths desired observed) enabled ssid
        (some desired.wifiPasswordRef) channel securityMode ∈
          (planWifi desired observed mode proposed force deviceId).actions := by
  obtain ⟨a, ha⟩ : ∃ a, a ∈ (planWifi desired observed mode proposed force deviceId).actions :=
    ⟨_, by simp only [planWifi, h, or_true, if_true]; exact List.mem_cons_self⟩
  obtain ⟨enabled, ssid, channel, securityMode, hssid, rfl⟩ :=
    mem_planWifi desired observed mode force proposed deviceId ha
  rw [h] at ha
  exact ⟨enabled, ssid, channel, securityMode, hssid, ha⟩

lemma mem_planAcsWrites_of_wifi (omciWanPlanned : Bool) {a : Action}
    (hscope : (isRemoteAccessOnlyChange mode proposed || isWanOnlyChange mode proposed) = false)
    (h : a ∈ (planWifi desired observed mode proposed force deviceId).actions) :
    a ∈ (planAcsWrites desired observed mode proposed force deviceId omciWanPlanned).actions := by
  rw [planAcsWrites_actions, acsSettings]
  simp only [hscope, if_true, List.mem_append, h, or_true, true_or]

lemma mem_planAcsWrites_of_management (omciWanPlanned : Bool) {a : Action}
    (hnarrow : (isWifiOnlyChange mode proposed || isRemoteAccessOnlyChange mode proposed) = false)
    (hwan : isWanOnlyChange mode proposed = false)
    (h : a ∈ (planManagementServer desired observed proposed force deviceId).actions) :
    a ∈ (planAcsWrites desired observed mode proposed force deviceId omciWanPlanned).actions := by
  rw [planAcsWrites_actions]
  simp only [hnarrow, hwan, and_self, if_true, List.mem_append, h, or_true]

variable {resolveSecret : String → Except String (Option String)}

/-- Every setting but the WiFi is written without a guarded secret. -/
lemma acsSettings_filled (omciWanPlanned : Bool) {a : Action}
    (h : a ∈ acsSettings desired observed mode proposed force deviceId omciWanPlanned) :
    a.SecretsFilled resolveSecret ∨
      ((isRemoteAccessOnlyChange mode proposed || isWanOnlyChange mode proposed) = false ∧
        a ∈ (planWifi desired observed mode proposed force deviceId).actions) := by
  simp only [acsSettings, List.mem_append, List.mem_ite_nil_right] at h
  rcases h with ((⟨-, h⟩ | h) | ⟨-, h⟩) | ⟨-, (⟨-, h⟩ | h) | ⟨-, h⟩⟩
  · obtain ⟨_, _, _, _, _, _, _, _, _, _, _, rfl⟩ :=
      mem_planAcsWanIp desired observed proposed force deviceId h
    exact .inl trivial
  · exact .inr h
  · simp only [planRemoteAccess, Emitted.actions_when, List.mem_ite_nil_right,
      List.mem_singleton] at h
    exact .inl (h.2 ▸ trivial)
  · rcases mem_planNat desired observed deviceId h with ⟨_, _, _, rfl⟩ | ⟨_, rfl⟩
    · exact .inl trivial
    · exact .inl trivial
  · simp only [planIpv6, Emitted.actions_when, List.mem_ite_nil_right, List.mem_singleton] at h
    exact .inl (h.2.2 ▸ trivial)
  · simp only [planDhcpServer, Emitted.actions_when, List.mem_ite_nil_right,
      List.mem_singleton] at h
    exact .inl (h.2 ▸ trivial)

end Wifi

section Secrets

variable {desired observed mode proposedFields force}
variable {resolveSecret : String → Except String (Option String)}

lemma filled_of_surface {a : Action} (h : a.surface = .olt) : a.SecretsFilled resolveSecret := by
  cases a <;> first | exact trivial | exact nomatch h

lemma SecretsResolve.filled
    (h : SecretsResolve desired observed mode proposedFields force resolveSecret) {a : Action}
    (ha : a ∈ (computePlan desired observed mode proposedFields force).actions) :
    a.SecretsFilled resolveSecret := by
  cases hsurface : a.surface with
  | olt => exact filled_of_surface hsurface
  | acs =>
    obtain ⟨hplans, deviceId, htarget, ha⟩ :=
      (mem_computePlan_acs desired observed mode proposedFields force hsurface).mp ha
    simp only [planAcsWrites_actions, List.mem_append, List.mem_ite_nil_right] at ha
    rcases ha with (⟨-, ha⟩ | ha) | ⟨⟨hnarrow, hwan⟩, ha⟩
    · rcases mem_planAcsWanPpp desired observed _ force deviceId ha with
        ⟨_, _, rfl⟩ | ⟨_, _, _, _, _, rfl⟩
      · exact trivial
      · exact trivial
    · rcases acsSettings_filled desired observed mode force _ deviceId _ ha with ha | ⟨hscope, ha⟩
      · exact ha
      · obtain ⟨_, ssid, _, _, hssid, rfl⟩ := mem_planWifi desired observed mode force _ deviceId ha
        split_ifs with hpush
        · exact fun _ _ => h.wifi ⟨hplans, ⟨deviceId, htarget⟩, hscope, hpush⟩
        · exact trivial
    · obtain ⟨_, _, husername, href, hset, hset', hneeded, rfl⟩ :=
        (mem_planManagementServer desired observed _ force deviceId).mp ha
      exact fun _ _ => h.connection _ _
        ⟨hplans, ⟨deviceId, htarget⟩, hnarrow, hwan, husername, href, hset, hset', hneeded⟩

lemma secretsResolve_of_filled
    (h : ∀ a ∈ (computePlan desired observed mode proposedFields force).actions,
      a.SecretsFilled resolveSecret) :
    SecretsResolve desired observed mode proposedFields force resolveSecret := by
  constructor
  · rintro ⟨hplans, ⟨deviceId, htarget⟩, hscope, hpush⟩
    obtain ⟨_, ssid, _, _, hssid, hmem⟩ := exists_mem_planWifi desired observed mode force
      (proposedFields.getD ∅) deviceId hpush
    have hmem' := mem_planAcsWrites_of_wifi desired observed mode force _ deviceId
      (planOltScope desired observed mode (proposedFields.getD ∅)).2 hscope hmem
    have hfilled := h _ ((mem_computePlan_acs desired observed mode proposedFields force rfl).mpr
      ⟨hplans, deviceId, htarget, hmem'⟩)
    have hset : desired.wifiPasswordRef ≠ "" := by
      have hpush' := hpush
      simp only [shouldPushWifiPassword, isDeliverable_text, List.mem_cons, or_true, true_or,
        decide_eq_true_eq] at hpush'
      exact hpush'.1
    exact hfilled hssid hset
  · rintro crUsername crPasswordRef
      ⟨hplans, ⟨deviceId, htarget⟩, hnarrow, hwan, husername, href, hset, hset', hneeded⟩
    have hmem := (mem_planManagementServer desired observed (proposedFields.getD ∅) force
      deviceId).mpr ⟨_, _, husername, href, hset, hset', hneeded, rfl⟩
    have hmem' := mem_planAcsWrites_of_management desired observed mode force _ deviceId
      (planOltScope desired observed mode (proposedFields.getD ∅)).2 hnarrow hwan hmem
    have hfilled := h _ ((mem_computePlan_acs desired observed mode proposedFields force rfl).mpr
      ⟨hplans, deviceId, htarget, hmem'⟩)
    simp only [isDeliverable_text, List.mem_cons, or_true, true_or, decide_eq_true_eq] at hset hset'
    exact hfilled hset hset'

end Secrets

section Runs

variable {σ : Type} {ctx : ApplyContext σ}

/-- A run of actions that write set values only. -/
lemma applyActions_deliverable : ∀ {actions : List Action} {s : Session σ},
    (∀ a ∈ actions, Emits DeviceCall.Deliverable (execute ctx a)) →
      ∀ call ∈ (applyActions ctx actions s).2.2, call.Deliverable
  | [], _, _ => fun _ hcall => absurd hcall List.not_mem_nil
  | a :: rest, s, h => by
    have hrest := fun s' => @applyActions_deliverable rest s' fun b hb => h b (List.mem_cons_of_mem a hb)
    intro call hcall
    rw [applyActions] at hcall
    split_ifs at hcall
    · exact hrest _ call hcall
    · dsimp only at hcall
      split_ifs at hcall
      · exact absurd hcall List.not_mem_nil
      · have hfirst := h a List.mem_cons_self ⟨(ctx.overdue s.world).2, s.wanPppInstances⟩
        rcases hrun : execute ctx a ⟨(ctx.overdue s.world).2, s.wanPppInstances⟩ with
          ⟨e | applied, s', calls⟩
        · rw [hrun] at hfirst hcall
          exact hfirst call hcall
        · rw [hrun] at hfirst hcall
          rcases List.mem_append.mp hcall with hcall | hcall
          · exact hfirst call hcall
          · exact hrest _ call hcall

end Runs

/-- **Unset values are never written.**  Every action of a plan writes set values only and writes
nothing if it is refused or lacks a secret, on every device and in every state, if and only if the
secrets of the plan resolve; no run of such a plan then writes an unset value. -/
theorem unsetNeverWritten_iff (resolveSecret : String → Except String (Option String)) :
    ((∀ a ∈ (computePlan desired observed mode proposedFields force).actions,
      a.SparesUnset resolveSecret) ↔
        SecretsResolve desired observed mode proposedFields force resolveSecret) ∧
    (SecretsResolve desired observed mode proposedFields force resolveSecret →
      ∀ (σ : Type) (ctx : ApplyContext σ) (world : σ), ctx.resolveSecret = resolveSecret →
        ∀ call ∈ (applyPlan ctx (computePlan desired observed mode proposedFields force) world).2.2,
          call.Deliverable) := by
  constructor
  · exact ⟨fun h => secretsResolve_of_filled fun a ha => sparesUnset_iff.mp (h a ha),
      fun h a ha => sparesUnset_iff.mpr (h.filled ha)⟩
  · rintro h σ ctx world rfl
    exact applyActions_deliverable fun a ha => (sparesUnset_iff.mpr (h.filled ha) σ ctx rfl).1

end Plan

/-! ## An endpoint without its password -/

/-- An ONT that is moved to another ACS, whose password is not found. -/
def movingOnt : OntDesiredState :=
  { unprofiledOnt with
    acsServerId := some "acs-1"
    acsDeviceId := some "00259E-HG8546M-48575443A1B2C3D4"
    crUsername := some "cpe"
    crPasswordRef := some "cr-secret"
    acsUrl := some "https://acs.example.net/cwmp"
    acsPasswordRef := some "bao://network/acs#password" }

def informingOnt : OntObservedState :=
  { unseenOnt with acs := { acsPresent := true, deviceMatchCount := 1 } }

/-- Only the password of the connection requests is known. -/
def crSecretOnly (ref : String) : Except String (Option String) :=
  if ref = "cr-secret" then .ok (some "s3cret") else .error "not found"

/-- The management server is written before the second secret is looked up. -/
theorem movingOnt_writes_before_failing : ¬ ∀ desired observed mode proposedFields force resolveSecret,
    ∀ a ∈ (computePlan desired observed mode proposedFields force).actions,
      a.SparesUnset resolveSecret := by
  intro hall
  have hspares := hall movingOnt informingOnt .sync none true crSecretOnly
    (.acsSetManagementServer "00259E-HG8546M-48575443A1B2C3D4" "cpe" "cr-secret" 300
      "InternetGatewayDevice" (some "https://acs.example.net/cwmp") none
      (some "bao://network/acs#password")) (by decide +kernel)
  obtain ⟨-, hsecond⟩ := sparesUnset_iff.mp hspares (by decide) (by decide)
  obtain ⟨value, hvalue⟩ := hsecond ⟨"s3cret", rfl⟩ rfl
  exact nomatch hvalue

end DotmacSub.Network
