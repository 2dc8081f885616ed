import DotmacSub.Network.Deliveries

/-!
# Reading back what was written

The verification of `network/reconcile/core.py` tells a drift of the ACS cache from a failed write
by the names of fields: those the applier recorded against those the planner reports.
-/

namespace DotmacSub.Network

def appliedAcsFields (actionsApplied : List AppliedAction) : List String :=
  (actionsApplied.filter (·.surface = .acs)).flatMap fun applied =>
    applied.field :: applied.changedFields

/-- The drift may be lag of the ACS cache: it was written in this pass and can be read back. -/
def isCacheLag (actionsApplied : List AppliedAction) (d : Drift) : Bool :=
  d.surface = .acs ∧ d.repairable ∧ d.field ∈ appliedAcsFields actionsApplied

/-- Split the drifts after an apply pass into cache lag and genuine ones. -/
def classifyVerifyDrifts (drifts : List Drift) (actionsApplied : List AppliedAction) :
    List Drift × List Drift :=
  let cacheLag := drifts.filter (isCacheLag actionsApplied)
  (cacheLag, drifts.filter (· ∉ cacheLag))

/-- The names under which the planner reports what an ACS action writes. -/
def Action.driftFields : Action → List String
  | .acsAddObject .. => ["acs_wan_ppp_instance"]
  | .acsSetPppoe .. => ["wan_pppoe_username"]
  | .acsSetWifiConfig _ _ enabled ssid _ channel securityMode =>
    wifiChanged enabled ssid none channel securityMode
  | .acsSetRemoteAccess _ _ sshEnabled sshPort telnetEnabled =>
    (sshEnabled.map fun _ => "wan_remote_access_enabled").toList ++
      (sshPort.map fun _ => "wan_remote_access_ssh_port").toList ++
      (telnetEnabled.map fun _ => "wan_remote_telnet_disabled").toList
  | .acsSetNatEnabled .. => ["nat_enabled"]
  | .acsSetIpv6 .. => ["ipv6_enabled"]
  | .acsSetWanIp .. => ["wan_ip_mode"]
  | .acsSetDhcpServer .. => ["dhcp_enabled"]
  | .acsSetManagementServer .. => ["acs_management_server"]
  | _ => []

/-- The actions whose fields have one name throughout: the WiFi and the management server. -/
def Action.namedAlike : Action → Bool
  | .acsSetWifiConfig .. | .acsSetManagementServer .. => true
  | _ => false

/-- Every drift names the field of an action beside it. -/
def Written (e : Emitted) : Prop :=
  ∀ d ∈ e.drifts, d.surface = .acs ∧ d.repairable = true ∧ ∃ a ∈ e.actions, d.field ∈ a.driftFields

namespace Written

lemma empty : Written {} := fun _ hd => absurd hd List.not_mem_nil

lemma append {a b : Emitted} (ha : Written a) (hb : Written b) : Written (a ++ b) := by
  intro d hd
  rcases List.mem_append.mp hd with hd | hd
  · refine (ha d hd).imp_right (And.imp_right fun ⟨x, hx, hfield⟩ => ?_)
    exact ⟨x, List.mem_append_left _ hx, hfield⟩
  · refine (hb d hd).imp_right (And.imp_right fun ⟨x, hx, hfield⟩ => ?_)
    exact ⟨x, List.mem_append_right _ hx, hfield⟩

lemma when {p : Prop} [Decidable p] {e : Emitted} (h : p → Written e) : Written (.when p e) := by
  unfold Emitted.when
  split_ifs with hp
  · exact h hp
  · exact empty

lemma single {a : Action} {field : String} {wanted seen : DesiredScalar}
    (h : field ∈ a.driftFields) : Written ⟨[a], [acsDrift field wanted seen]⟩ := by
  intro d hd
  obtain rfl := List.mem_singleton.mp hd
  exact ⟨rfl, rfl, a, List.mem_singleton_self a, h⟩

lemma actionsOnly {actions : List Action} : Written ⟨actions, []⟩ :=
  fun _ hd => absurd hd List.not_mem_nil

end Written

/-- Every drift names the field of an action beside it, or is IPv6 without a write. -/
def Backed (e : Emitted) : Prop :=
  ∀ d ∈ e.drifts, d.surface = .acs ∧
    ((d.repairable = true ∧ ∃ a ∈ e.actions, d.field ∈ a.driftFields) ∨
      (d.repairable = false ∧ d.field = "ipv6_enabled"))

lemma Written.backed {e : Emitted} (h : Written e) : Backed e :=
  fun d hd => (h d hd).imp_right Or.inl

namespace Backed

lemma empty : Backed {} := Written.empty.backed

lemma append {a b : Emitted} (ha : Backed a) (hb : Backed b) : Backed (a ++ b) := by
  intro d hd
  rcases List.mem_append.mp hd with hd | hd
  · refine (ha d hd).imp_right (Or.imp_left fun ⟨hrepairable, x, hx, hfield⟩ => ?_)
    exact ⟨hrepairable, x, List.mem_append_left _ hx, hfield⟩
  · refine (hb d hd).imp_right (Or.imp_left fun ⟨hrepairable, x, hx, hfield⟩ => ?_)
    exact ⟨hrepairable, x, List.mem_append_right _ hx, hfield⟩

lemma when {p : Prop} [Decidable p] {e : Emitted} (h : p → Backed e) : Backed (.when p e) := by
  unfold Emitted.when
  split_ifs with hp
  · exact h hp
  · exact empty

end Backed

section Acs

variable {desired : OntDesiredState} {observed : OntObservedState} {mode : ReconcileMode}
  {proposed : Finset String} {force : Bool} {deviceId : String}

lemma planAcsWanPpp_written : Written (planAcsWanPpp desired observed proposed force deviceId) := by
  unfold planAcsWanPpp
  split
  · refine .when fun _ => .append (.when fun _ => .single ?_) (.when fun _ => .single ?_)
    · exact List.mem_cons_self
    · exact List.mem_cons_self
  · exact .empty

lemma planAcsWanIp_written : Written (planAcsWanIp desired observed proposed force deviceId) := by
  unfold planAcsWanIp
  split
  · exact .when fun _ => .single List.mem_cons_self
  · exact .empty

lemma mem_wifiDrift {α : Type} {field : String} {scalar : α → DesiredScalar}
    {change seen : Option α} {d : Drift} (h : d ∈ wifiDrift field scalar change seen) :
    d.surface = .acs ∧ d.repairable = true ∧ d.field = field ∧ change ≠ none := by
  cases change with
  | none => exact absurd h List.not_mem_nil
  | some value =>
    obtain rfl := List.mem_singleton.mp h
    exact ⟨rfl, rfl, rfl, by simp⟩

lemma planWifi_written : Written (planWifi desired observed mode proposed force deviceId) := by
  unfold planWifi
  extract_lets root observedSecurity ssid enabled channel securityMode password
  intro d hd
  simp only [List.mem_append] at hd
  rcases hd with ((hd | hd) | hd) | hd
  all_goals
    obtain ⟨hsurface, hrepairable, hfield, hchange⟩ := mem_wifiDrift hd
    refine ⟨hsurface, hrepairable, .acsSetWifiConfig deviceId (wifiPaths desired observed)
      enabled ssid (if password then some desired.wifiPasswordRef else none) channel securityMode,
        ?_, ?_⟩
    · simp only [hchange, ne_eq, not_false_eq_true, true_or, or_true, if_true, List.mem_singleton]
    · obtain ⟨value, hvalue⟩ := Option.ne_none_iff_exists'.mp hchange
      simp [Action.driftFields, wifiChanged, hfield, hvalue]

lemma planRemoteAccess_written :
    Written (planRemoteAccess desired observed proposed force deviceId) := by
  unfold planRemoteAccess
  extract_lets enabled explicitToggle strictReadback toggle port telnet
  refine .when fun _ => ?_
  intro d hd
  simp only [List.mem_append, List.mem_ite_nil_right, List.mem_singleton] at hd
  rcases hd with (⟨hwritten, rfl⟩ | ⟨hwritten, rfl⟩) | ⟨hwritten, rfl⟩
  · exact ⟨rfl, rfl, _, List.mem_singleton_self _, by simp [Action.driftFields, acsDrift, hwritten]⟩
  · exact ⟨rfl, rfl, _, List.mem_singleton_self _, by simp [Action.driftFields, acsDrift, hwritten]⟩
  · exact ⟨rfl, rfl, _, List.mem_singleton_self _, by simp [Action.driftFields, acsDrift, hwritten]⟩

lemma planNat_written : Written (planNat desired observed deviceId) := by
  unfold planNat
  split
  · exact .empty
  · exact .when fun _ => .append (.when fun _ => .single List.mem_cons_self) .actionsOnly

lemma planIpv6_backed : Backed (planIpv6 desired observed proposed deviceId) := by
  unfold planIpv6
  extract_lets provenance repairable
  refine .when fun _ d hd => ?_
  obtain rfl := List.mem_singleton.mp hd
  cases hrepairable : repairable with
  | true =>
    exact ⟨rfl, .inl ⟨rfl, .acsSetIpv6 deviceId desired.wanPppoeInstanceIndex desired.ipv6Enabled
      desired.ipv6Enabled provenance, List.mem_singleton_self _, List.mem_singleton_self _⟩⟩
  | false => exact ⟨rfl, .inr ⟨rfl, rfl⟩⟩

lemma planDhcpServer_written :
    Written (planDhcpServer desired observed proposed force deviceId) :=
  .when fun _ => .single List.mem_cons_self

lemma planManagementServer_written :
    Written (planManagementServer desired observed proposed force deviceId) := by
  unfold planManagementServer
  split
  · exact .when fun _ => .single List.mem_cons_self
  · exact .empty

lemma planAcsWrites_backed {omciWanPlanned : Bool} :
    Backed (planAcsWrites desired observed mode proposed force deviceId omciWanPlanned) :=
  .append (.append (.append (.append (.when fun _ => planAcsWanPpp_written.backed)
    (.when fun _ => planAcsWanIp_written.backed)) (.when fun _ => planWifi_written.backed))
    (.when fun _ => planRemoteAccess_written.backed))
    (.when fun _ => .append (.append (.when fun _ => planNat_written.backed) planIpv6_backed)
      (.when fun _ => (planDhcpServer_written.append planManagementServer_written).backed))

end Acs

def OnOlt (e : Emitted) : Prop := ∀ d ∈ e.drifts, d.surface = .olt

namespace OnOlt

lemma append {a b : Emitted} (ha : OnOlt a) (hb : OnOlt b) : OnOlt (a ++ b) :=
  fun d hd => (List.mem_append.mp hd).elim (ha d) (hb d)

lemma when {p : Prop} [Decidable p] {e : Emitted} (h : OnOlt e) : OnOlt (.when p e) := by
  unfold Emitted.when
  split_ifs
  · exact h
  · exact fun _ hd => absurd hd List.not_mem_nil

lemma single {actions : List Action} {field : String} {wanted seen : DesiredScalar}
    {repairable : Bool} : OnOlt ⟨actions, [oltDrift field wanted seen repairable]⟩ :=
  fun _ hd => List.mem_singleton.mp hd ▸ rfl

lemma actionsOnly {actions : List Action} : OnOlt ⟨actions, []⟩ :=
  fun _ hd => absurd hd List.not_mem_nil

end OnOlt

section Olt

variable {desired : OntDesiredState} {observed : OntObservedState}

lemma planServicePorts_onOlt : OnOlt (planServicePorts desired observed) := by
  refine .append (.append ?_ ?_) ?_
  · intro d hd
    obtain ⟨sp, -, rfl⟩ := List.mem_map.mp hd
    rfl
  · unfold planMgmtServicePort
    split
    · exact .when .actionsOnly
    · exact .actionsOnly
  · unfold planWanServicePort
    split
    · exact .when .actionsOnly
    · exact .actionsOnly

lemma planIphost_onOlt : OnOlt (planIphost desired observed) := by
  unfold planIphost
  split
  · exact .when .single
  · exact .actionsOnly

lemma planOltSide_onOlt : OnOlt (planOltSide desired observed) := by
  refine .append (.append (.append ?_ planServicePorts_onOlt) planIphost_onOlt) (.when .actionsOnly)
  split_ifs
  · exact .append (.append (.append (.when .single) (.when .single)) (.when .single)) (.when .single)
  · exact .single

lemma planOltOmciWan_onOlt : OnOlt (planOltOmciWan desired).1 := by
  unfold planOltOmciWan
  split
  · split_ifs <;> exact .actionsOnly
  · exact .actionsOnly

lemma planOltScope_onOlt {mode : ReconcileMode} {proposed : Finset String} :
    OnOlt (planOltScope desired observed mode proposed).1 := by
  have hport : OnOlt (planWanServicePort desired observed) :=
    fun d hd => planServicePorts_onOlt d (List.mem_append_right _ hd)
  unfold planOltScope
  dsimp only
  split_ifs
  · exact .when .single
  · exact .actionsOnly
  · exact hport.append planOltOmciWan_onOlt
  · exact planOltSide_onOlt.append planOltOmciWan_onOlt

end Olt

section Plan

variable {desired : OntDesiredState} {observed : OntObservedState} {mode : ReconcileMode}
  {proposedFields : Option (Finset String)} {force : Bool} {d : Drift}

lemma planAcsSide_backed {proposed : Finset String} {omciWanPlanned : Bool} :
    Backed (planAcsSide desired observed mode proposed force omciWanPlanned).1 := by
  unfold planAcsSide
  split_ifs
  · exact .empty
  · dsimp only
    split
    · exact .empty
    · exact planAcsWrites_backed

/-- A drift of the ACS names the field of an action of the plan, unless it is IPv6 that cannot be
written. -/
lemma acsDrift_backed (h : d ∈ (computePlan desired observed mode proposedFields force).drifts)
    (hsurface : d.surface = .acs) :
    (d.repairable = true ∧ ∃ a ∈ (computePlan desired observed mode proposedFields force).actions,
      d.field ∈ a.driftFields) ∨ (d.repairable = false ∧ d.field = "ipv6_enabled") := by
  have hbacked : Backed (if isTr069ProfileOnlyChange mode (proposedFields.getD ∅)
      then (({}, ⟨none, none, ""⟩) : Emitted × AcsIdentity)
      else planAcsSide desired observed mode (proposedFields.getD ∅) force
        (planOltScope desired observed mode (proposedFields.getD ∅)).2).1 := by
    split_ifs
    · exact .empty
    · exact planAcsSide_backed
  rcases List.mem_append.mp h with h | h
  · exact absurd ((planOltScope_onOlt d h).symm.trans hsurface) (by simp)
  · refine (hbacked d h).2.imp_left fun ⟨hrepairable, a, ha, hfield⟩ => ?_
    exact ⟨hrepairable, a, List.mem_append_right _ ha, hfield⟩

end Plan

def recordedFields (a : Action) : List String := (report a).field :: (report a).changedFields

/-- The names of drifts that no action is recorded under. -/
def unmatchedFields : List String :=
  ["acs_wan_ppp_instance", "wan_pppoe_username", "wan_remote_access_enabled",
    "wan_remote_access_ssh_port", "wan_remote_telnet_disabled", "nat_enabled", "ipv6_enabled",
    "wan_ip_mode", "dhcp_enabled"]

section Names

variable {a : Action} {field : String}

lemma recorded_of_namedAlike (h : a.namedAlike = true) (hfield : field ∈ a.driftFields) :
    field ∈ recordedFields a := by
  cases a with
  | acsSetWifiConfig =>
    refine List.mem_cons_of_mem _ ?_
    simp only [Action.driftFields, wifiChanged, report, Option.map_none, Option.toList_none,
      List.append_nil] at hfield ⊢
    exact List.mem_append_left _ hfield
  | acsSetManagementServer => exact hfield
  | _ => exact nomatch h

lemma unmatched_of_driftFields (h : a.namedAlike = false) (hfield : field ∈ a.driftFields) :
    field ∈ unmatchedFields := by
  cases a with
  | acsSetRemoteAccess =>
    simp only [Action.driftFields, List.mem_append, Option.mem_toList,
      Option.map_eq_some_iff] at hfield
    rcases hfield with (⟨_, -, rfl⟩ | ⟨_, -, rfl⟩) | ⟨_, -, rfl⟩ <;> simp [unmatchedFields]
  | acsSetWifiConfig | acsSetManagementServer => exact nomatch h
  | acsAddObject | acsSetPppoe | acsSetNatEnabled | acsSetIpv6 | acsSetWanIp | acsSetDhcpServer =>
    rw [List.mem_singleton.mp hfield]
    simp [unmatchedFields]
  | _ => exact absurd hfield List.not_mem_nil

lemma not_unmatched_of_recorded (hsurface : a.surface = .acs) (h : field ∈ recordedFields a) :
    field ∉ unmatchedFields := by
  cases a with
  | acsAddObject _ objectPath _ =>
    have hname : "add_object[".toList <+: field.toList := by
      rw [List.mem_singleton.mp h, report, String.toList_append, String.toList_append,
        List.append_assoc]
      exact List.prefix_append _ _
    exact fun hmem => (by decide : ∀ n ∈ unmatchedFields, ¬ "add_object[".toList <+: n.toList) _ hmem
      hname
  | acsDeleteObject _ objectPath =>
    have hname : "delete_object[".toList <+: field.toList := by
      rw [List.mem_singleton.mp h, report, String.toList_append, String.toList_append,
        List.append_assoc]
      exact List.prefix_append _ _
    exact fun hmem => (by decide : ∀ n ∈ unmatchedFields, ¬ "delete_object[".toList <+: n.toList) _
      hmem hname
  | acsSetWifiConfig =>
    rcases List.mem_cons.mp h with rfl | h
    · simp [report, unmatchedFields]
    · simp only [report, wifiChanged, List.mem_append, Option.mem_toList,
        Option.map_eq_some_iff] at h
      rcases h with (((⟨_, -, rfl⟩ | ⟨_, -, rfl⟩) | ⟨_, -, rfl⟩) | ⟨_, -, rfl⟩) | ⟨_, -, rfl⟩ <;>
        simp [unmatchedFields]
  | acsSetPppoe | acsSetRemoteAccess | acsSetNatEnabled | acsSetIpv6 | acsSetWanIp
  | acsSetDhcpServer | acsSetManagementServer =>
    rw [List.mem_singleton.mp h]
    simp [report, unmatchedFields]
  | _ => exact nomatch hsurface

end Names

section Runs

open Logged

variable {σ : Type} {ctx : ApplyContext σ} {action : Action} {fields : List (String × DesiredScalar)}
  {name : String} {params : List Param}

lemma oltAction_yields : Yields (· = report action) (oltAction ctx action fields name params) :=
  .bind fun _ _ => .bind fun _ _ => .pure rfl

lemma acsAction_yields : Yields (· = report action) (acsAction ctx action fields name params) :=
  .bind fun _ _ => .bind fun _ _ => .pure rfl

lemma changedAction_yields {kind : String} :
    Yields (· = report action) (changedAction ctx action kind name params) := by
  unfold changedAction
  split_ifs
  · exact .fail
  · exact .bind fun _ _ => .pure rfl

lemma execute_yields : Yields (· = report action) (execute ctx action) := by
  cases action with
  | oltOmciPppoe | acsAddObject | acsDeleteObject | acsSetPppoe | acsSetNatEnabled | acsSetIpv6 =>
    repeat refine .bind fun _ _ => ?_
    exact .pure rfl
  | acsSetWifiConfig => exact .bind fun _ _ => .bind fun _ _ => changedAction_yields
  | acsSetRemoteAccess => exact changedAction_yields
  | acsSetWanIp _ root _ _ _ _ _ _ _ _ _ paths =>
    refine .bind fun _ _ => ?_
    split_ifs
    · cases paths with
      | none => exact .fail
      | some _ => exact .bind fun _ _ => .pure rfl
    · exact .bind fun _ _ => .pure rfl
  | acsSetDhcpServer => exact acsAction_yields
  | acsSetManagementServer =>
    refine .bind fun _ _ => .bind fun _ _ => .bind fun _ _ => ?_
    split_ifs
    · exact .bind fun _ _ => .pure rfl
    · exact .pure rfl
  | _ => exact oltAction_yields

lemma surface_report : (report action).surface = action.surface := by cases action <;> rfl

lemma mem_actionsApplied : ∀ {actions : List Action} {s : Session σ},
    ∀ applied ∈ (applyActions ctx actions s).1.actionsApplied, ∃ a ∈ actions, applied = report a
  | [], _ => fun _ h => absurd h List.not_mem_nil
  | a :: rest, s => by
    have hrest := fun s' => @mem_actionsApplied rest s'
    intro applied happlied
    rw [applyActions] at happlied
    split_ifs at happlied
    · obtain ⟨b, hb, heq⟩ := hrest _ applied happlied
      exact ⟨b, List.mem_cons_of_mem a hb, heq⟩
    · dsimp only at happlied
      split_ifs at happlied
      · exact absurd happlied List.not_mem_nil
      · rcases hrun : execute ctx a ⟨(ctx.overdue s.world).2, s.wanPppInstances⟩ with
          ⟨e | first, s', calls⟩
        · rw [hrun] at happlied
          exact absurd happlied List.not_mem_nil
        · rw [hrun] at happlied
          rcases List.mem_cons.mp happlied with rfl | happlied
          · exact ⟨a, List.mem_cons_self, execute_yields _ _ (by rw [hrun])⟩
          · obtain ⟨b, hb, heq⟩ := hrest _ applied happlied
            exact ⟨b, List.mem_cons_of_mem a hb, heq⟩

end Runs

/-- **Which stale fields are recognised.**  After any run of a plan, a drift of a field that an
applied ACS action wrote is classified as cache lag if and only if the action is the WiFi
configuration or the management server. -/
theorem cacheLag_iff {σ : Type} (ctx : ApplyContext σ) (world : σ) (desired : OntDesiredState)
    (before after : OntObservedState) (mode : ReconcileMode)
    (proposedFields : Option (Finset String)) (force : Bool) :
    let plan := computePlan desired before mode proposedFields force
    let applied := (applyPlan ctx plan world).1.actionsApplied
    let drifts := (computePlan desired after mode proposedFields false).drifts
    ∀ a ∈ plan.actions, report a ∈ applied → ∀ d ∈ drifts, d.surface = .acs →
      d.field ∈ a.driftFields →
        (d ∈ (classifyVerifyDrifts drifts applied).1 ↔ a.namedAlike = true) := by
  intro plan applied drifts a ha happlied d hd hsurface hfield
  have hacs : a.surface = .acs := by
    cases a <;> first | rfl | exact absurd hfield List.not_mem_nil
  constructor
  · intro hlag
    by_contra hother
    rw [Bool.not_eq_true] at hother
    obtain ⟨-, hlag⟩ := List.mem_filter.mp hlag
    obtain ⟨-, -, hrecorded⟩ := of_decide_eq_true hlag
    obtain ⟨record, hrecord, hname⟩ := List.mem_flatMap.mp hrecorded
    obtain ⟨hmem, hside⟩ := List.mem_filter.mp hrecord
    obtain ⟨b, -, rfl⟩ := mem_actionsApplied record hmem
    have hb : b.surface = .acs := surface_report ▸ of_decide_eq_true hside
    exact not_unmatched_of_recorded hb hname (unmatched_of_driftFields hother hfield)
  · intro hnamed
    have hrepairable : d.repairable = true := by
      rcases acsDrift_backed hd hsurface with ⟨h, -⟩ | ⟨-, hipv6⟩
      · exact h
      · refine absurd ?_ (not_unmatched_of_recorded hacs (recorded_of_namedAlike hnamed hfield))
        rw [hipv6]
        simp [unmatchedFields]
    refine List.mem_filter.mpr ⟨hd, decide_eq_true ⟨hsurface, hrepairable, ?_⟩⟩
    refine List.mem_flatMap.mpr ⟨report a, List.mem_filter.mpr ⟨happlied, ?_⟩,
      recorded_of_namedAlike hnamed hfield⟩
    exact decide_eq_true (surface_report.trans hacs)

/-! ## A stale DHCP server -/

def managedOnt : OntDesiredState :=
  { unprofiledOnt with
    acsServerId := some "acs-1"
    acsDeviceId := some "00259E-HG8546M-48575443A1B2C3D4" }

/-- Its DHCP server reads as off, before the write and after it. -/
def dhcpOff : OntObservedState where
  olt := ⟨true, some "customer", none, none, none, none, [], some 2⟩
  acs := { acsPresent := true, deviceMatchCount := 1, dhcpEnabled := some false }

def dhcpWrite : Action :=
  .acsSetDhcpServer "00259E-HG8546M-48575443A1B2C3D4" true "192.168.100.2" "192.168.100.254"
    "255.255.255.0" none

/-- The stale DHCP server is no lag of the cache. -/
theorem dhcpOff_cacheLag_iff : acsDrift "dhcp_enabled" (.flag true) (.flag false) ∈
    (classifyVerifyDrifts (computePlan managedOnt dhcpOff .sync none false).drifts
      (applyPlan (acceptingContext fun ref => .ok (some ref))
        (computePlan managedOnt dhcpOff .sync none true) ()).1.actionsApplied).1 ↔
          dhcpWrite.namedAlike = true :=
  cacheLag_iff (acceptingContext fun ref => .ok (some ref)) () managedOnt dhcpOff dhcpOff .sync none
    true dhcpWrite (by decide +kernel) (by decide +kernel) _ (by decide +kernel) rfl
    List.mem_cons_self

/-- A stale field that was written need not be classified as cache lag. -/
theorem dhcpOff_genuine : ¬ ∀ (σ : Type) (ctx : ApplyContext σ) (world : σ)
    (desired : OntDesiredState) (before after : OntObservedState) (mode : ReconcileMode)
    (proposedFields : Option (Finset String)) (force : Bool),
      ∀ a ∈ (computePlan desired before mode proposedFields force).actions,
        report a ∈ (applyPlan ctx (computePlan desired before mode proposedFields force)
          world).1.actionsApplied →
        ∀ d ∈ (computePlan desired after mode proposedFields false).drifts, d.surface = .acs →
          d.field ∈ a.driftFields →
            d ∈ (classifyVerifyDrifts (computePlan desired after mode proposedFields false).drifts
              (applyPlan ctx (computePlan desired before mode proposedFields force)
                world).1.actionsApplied).1 := by
  intro hall
  have hlag := hall Unit (acceptingContext fun ref => .ok (some ref)) () managedOnt dhcpOff dhcpOff
    .sync none true dhcpWrite (by decide +kernel) (by decide +kernel)
    (acsDrift "dhcp_enabled" (.flag true) (.flag false)) (by decide +kernel) rfl List.mem_cons_self
  exact absurd hlag (by decide +kernel)

end DotmacSub.Network
