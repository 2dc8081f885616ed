import DotmacSub.Network.Applier
import DotmacSub.Network.AcsTargets

/-!
# What reaches a device

Which values the applier writes, and what an action that gives up has written before.
-/

namespace DotmacSub.Network

open Logged

/-! ## Fields without a refused value -/

/-- The fields that have a value nobody may write. -/
def guardedFields : List String := (rules.filter (·.authority = .inadmissible)).map SentinelRule.field

lemma guardedFields_eq : guardedFields = ["wifi_ssid", "wifi_password_ref", "line_profile_id",
    "service_profile_id", "tr069_profile_id", "wan_pppoe_wcd_index", "cr_username",
    "cr_password_ref", "wan_vlan"] := rfl

lemma isDeliverable_of_unguarded {field : String} {value : DesiredScalar}
    (h : field ∉ guardedFields) : isDeliverable field value = true := by
  unfold isDeliverable
  cases hrule : rules.find? (·.field = field) with
  | none => rfl
  | some rule =>
    have hmem := List.mem_of_find?_eq_some hrule
    have hfield : rule.field = field := by simpa using List.find?_some hrule
    have hauthority : rule.authority ≠ .inadmissible := by
      intro hguarded
      refine h (List.mem_map.mpr ⟨rule, List.mem_filter.mpr ⟨hmem, ?_⟩, hfield⟩)
      exact decide_eq_true hguarded
    simp [isExecutableDesiredValue, hauthority]

/-- No argument is an unset value of the field it came from. -/
def DeviceCall.Deliverable (call : DeviceCall) : Prop :=
  ∀ p ∈ call.params, isDeliverable p.field p.value = true

instance (call : DeviceCall) : Decidable call.Deliverable :=
  inferInstanceAs (Decidable (∀ p ∈ call.params, _))

/-- Set values only, and nothing written before a refusal. -/
def Sound {σ α : Type} (m : Apply σ α) : Prop :=
  Emits DeviceCall.Deliverable m ∧ Spares (fun e => e.isRefusal = true) m

/-- An action writes set values only, and writes nothing if it is refused or lacks a secret: on every
device, in every state. -/
def Action.SparesUnset (resolveSecret : String → Except String (Option String)) (a : Action) : Prop :=
  ∀ (σ : Type) (ctx : ApplyContext σ), ctx.resolveSecret = resolveSecret → Sound (execute ctx a)

section Steps

variable {σ : Type} {ctx : ApplyContext σ} {fields : List (String × DesiredScalar)} {ref : String}
  {method deviceId : String} {params : List Param} {a : Action}

/-- The kind of failure that a device reports. -/
abbrev ByDevice (e : ApplyError) : Prop := ¬ e.isRefusal = true

lemma quiet_refuseUnset : Quiet (refuseUnset fields : Apply σ Unit) := by
  unfold refuseUnset
  dsimp only
  split_ifs
  · exact .pure
  · exact .fail

/-- What a check that passes has found. -/
lemma deliverable_of_returns {u : Unit} (h : Returns (refuseUnset fields : Apply σ Unit) u) :
    ∀ f ∈ fields, isDeliverable f.1 f.2 = true := by
  obtain ⟨s, hs⟩ := h
  unfold refuseUnset at hs
  split_ifs at hs with hnone
  · intro f hf
    by_contra hunset
    have hmem : f ∈ fields.filter fun f => isDeliverable f.1 f.2 = false :=
      List.mem_filter.mpr ⟨hf, by simpa using hunset⟩
    rw [hnone] at hmem
    exact absurd hmem List.not_mem_nil
  · exact nomatch hs

lemma quiet_resolveOrFail : Quiet (resolveOrFail ctx ref) := fun _ => rfl

lemma secretOf_of_returns {value : String} (h : Returns (resolveOrFail ctx ref) value) :
    secretOf ctx.resolveSecret ref = .ok value := h.elim fun _ hs => hs

lemma oltWrite_failsAs : FailsAs ByDevice (oltWrite ctx method params) := by
  intro s e he
  simp only [oltWrite, emit, Session.through] at he
  split_ifs at he
  obtain rfl := Except.error.inj he
  simp [ApplyError.isRefusal]

lemma acsCheck_failsAs {answer : Except String AcsTask} {e : ApplyError}
    (h : acsCheck answer = .error e) : ByDevice e := by
  cases answer with
  | error error =>
    obtain rfl := Except.error.inj h
    simp [ApplyError.isRefusal]
  | ok task =>
    simp only [acsCheck] at h
    split_ifs at h
    · obtain rfl := Except.error.inj h
      simp [ApplyError.isRefusal]
    · split at h
      · obtain rfl := Except.error.inj h
        simp [ApplyError.isRefusal]
      · exact nomatch h

lemma acsSet_failsAs : FailsAs ByDevice (acsSet ctx deviceId params) :=
  fun _ _ he => acsCheck_failsAs he

lemma byDevice_of_mapError {x : Except String Unit} {f : String → ApplyError} {e : ApplyError}
    (hf : ∀ error, ByDevice (f error)) (h : x.mapError f = .error e) : ByDevice e := by
  cases x with
  | error error => exact Except.error.inj h ▸ hf error
  | ok _ => exact nomatch h

lemma acsAddObject_failsAs {path : Param} : FailsAs ByDevice (acsAddObject ctx deviceId path) :=
  fun _ _ he => byDevice_of_mapError (by simp [ApplyError.isRefusal]) he

lemma acsDeleteObject_failsAs {path : String} :
    FailsAs ByDevice (acsDeleteObject ctx deviceId path) :=
  fun _ _ he => byDevice_of_mapError (by simp [ApplyError.isRefusal]) he

lemma Sound.check {α β : Type} {m : Apply σ α} {f : α → Apply σ β} (hm : Quiet m)
    (hf : ∀ x, Returns m x → Sound (f x)) : Sound (m >>= f) :=
  ⟨hm.emits.bind fun x hx => (hf x hx).1, .bind hm fun x hx => (hf x hx).2⟩

lemma Sound.fail {α : Type} {e : ApplyError} : Sound (Logged.fail e : Apply σ α) :=
  ⟨Quiet.fail.emits, Quiet.fail.spares⟩

lemma Sound.write {α β : Type} {m : Apply σ α} {f : α → Apply σ β}
    (hm : Emits DeviceCall.Deliverable m) (hfails : FailsAs ByDevice m)
    (hf : ∀ x, Quiet (f x) ∧ FailsAs ByDevice (f x)) : Sound (m >>= f) :=
  ⟨hm.bind fun x _ => (hf x).1.emits, (hfails.bind fun x _ => (hf x).2).spares⟩

lemma Sound.last {m : Apply σ Unit} {applied : AppliedAction}
    (hm : Emits DeviceCall.Deliverable m) (hfails : FailsAs ByDevice m) :
    Sound (m >>= fun _ => (pure applied : Apply σ AppliedAction)) :=
  .write hm hfails fun _ => ⟨.pure, .pure⟩

lemma sound_oltAction (h : (∀ f ∈ fields, isDeliverable f.1 f.2 = true) →
    (DeviceCall.olt method params).Deliverable) : Sound (oltAction ctx a fields method params) :=
  .check quiet_refuseUnset fun _ hpassed =>
    .last (.emit (h (deliverable_of_returns hpassed))) oltWrite_failsAs

lemma sound_acsAction (h : (∀ f ∈ fields, isDeliverable f.1 f.2 = true) →
    (DeviceCall.setParameterValues deviceId params).Deliverable) :
    Sound (acsAction ctx a fields deviceId params) :=
  .check quiet_refuseUnset fun _ hpassed =>
    .last (.emit (h (deliverable_of_returns hpassed))) acsSet_failsAs

lemma sound_changedAction {kind : String}
    (h : (DeviceCall.setParameterValues deviceId params).Deliverable) :
    Sound (changedAction ctx a kind deviceId params) := by
  unfold changedAction
  split_ifs
  · exact .fail
  · exact .last (.emit h) acsSet_failsAs

end Steps

section Actions

variable {σ : Type} {ctx : ApplyContext σ}

/-- The actions that hand over a secret under a guarded field, and the one that needs a second
secret after its first write. -/
def Action.SecretsFilled (resolveSecret : String → Except String (Option String)) : Action → Prop
  | .acsSetWifiConfig _ _ _ ssid (some ref) _ _ =>
    ssid ≠ some "" → ref ≠ "" → secretOf resolveSecret ref ≠ .ok ""
  | .acsSetManagementServer _ crUsername crPasswordRef _ _ acsUrl _ acsPasswordRef =>
    crUsername ≠ "" → crPasswordRef ≠ "" → secretOf resolveSecret crPasswordRef ≠ .ok "" ∧
      ((∃ value, secretOf resolveSecret crPasswordRef = .ok value) → truthy acsUrl = true →
        ∃ value, secretOf resolveSecret (orText acsPasswordRef "") = .ok value)
  | _ => True

lemma quiet_requireAddObjectLayout {objectPath : String} {wcdIndex : Option ℤ} :
    Quiet (requireAddObjectLayout objectPath wcdIndex : Apply σ (Option ℤ)) := by
  unfold requireAddObjectLayout
  split
  · exact .pure
  · refine quiet_refuseUnset.bind fun _ _ => ?_
    split_ifs
    · exact .fail
    · exact .pure

lemma noteWanPppInstance_passes {deviceId objectPath : String} {rendered : Option ℤ} :
    Quiet (noteWanPppInstance ctx deviceId objectPath rendered) ∧
      FailsAs ByDevice (noteWanPppInstance ctx deviceId objectPath rendered) := by
  cases rendered with
  | none => exact ⟨.pure, .pure⟩
  | some _ => exact ⟨.ask, .ask⟩

lemma quiet_resolveIfGiven {ref : Option String} : Quiet (resolveIfGiven ctx ref) := by
  cases ref with
  | none => exact .pure
  | some _ => exact quiet_resolveOrFail.bind fun _ _ => .pure

lemma secretOf_of_resolveIfGiven {ref : Option String} {password : Option String}
    (h : Returns (resolveIfGiven ctx ref) password) : ∀ value ∈ password,
      ∃ r ∈ ref, secretOf ctx.resolveSecret r = .ok value := by
  obtain ⟨s, hs⟩ := h
  cases ref with
  | none =>
    obtain rfl := Except.ok.inj hs
    simp
  | some r =>
    intro value hvalue
    cases hsecret : secretOf ctx.resolveSecret r with
    | error e =>
      have hfail : (resolveOrFail ctx r s).1 = .error e := hsecret
      rw [resolveIfGiven, bind_error hfail] at hs
      exact nomatch hs
    | ok secret =>
      have hok : (resolveOrFail ctx r s).1 = .ok secret := hsecret
      rw [resolveIfGiven, bind_ok hok] at hs
      obtain rfl := Except.ok.inj hs
      obtain rfl := Option.some.inj hvalue
      exact ⟨r, rfl, hsecret⟩

attribute [local simp] isDeliverable_of_unguarded guardedFields_eq DeviceCall.Deliverable
  DeviceCall.params

lemma isDeliverable_text {field value : String}
    (h : field ∈ ["wifi_ssid", "wifi_password_ref", "cr_username", "cr_password_ref"]) :
    isDeliverable field (.text value) = decide (value ≠ "") := by
  simp only [List.mem_cons, List.not_mem_nil, or_false] at h
  rcases h with rfl | rfl | rfl | rfl <;> simp [isDeliverable, rules, isExecutableDesiredValue]

lemma wifiParams_deliverable {deviceId : String} {paths : Tr069WifiParameterPaths}
    {enabled : Option Bool} {ssid : Option String} {channel : Option ℤ}
    {securityMode password : Option String} (hssid : ∀ v ∈ ssid, v ≠ "")
    (hpassword : ∀ v ∈ password, v ≠ "") : (DeviceCall.setParameterValues deviceId
      (wifiParams paths enabled ssid channel securityMode password)).Deliverable := by
  intro p hp
  simp only [DeviceCall.params, wifiParams, List.mem_append, Option.mem_toList,
    Option.map_eq_some_iff] at hp
  rcases hp with (((⟨v, -, rfl⟩ | ⟨v, hv, rfl⟩) | ⟨v, -, rfl⟩) | ⟨v, -, rfl⟩) | ⟨v, hv, rfl⟩
  · simp
  · simpa [isDeliverable_text] using hssid v hv
  · simp
  · simp
  · simpa [isDeliverable_text] using hpassword v hv

lemma remoteParams_deliverable {deviceId : String} {paths : Tr069RemoteAccessParameterPaths}
    {sshEnabled : Option Bool} {sshPort : Option ℤ} {telnetEnabled : Option Bool} :
    (DeviceCall.setParameterValues deviceId
      (remoteParams paths sshEnabled sshPort telnetEnabled)).Deliverable := by
  intro p hp
  simp only [DeviceCall.params, remoteParams, List.mem_append, Option.mem_toList,
    Option.map_eq_some_iff] at hp
  rcases hp with (⟨v, -, rfl⟩ | ⟨v, -, rfl⟩) | ⟨v, -, rfl⟩ <;> simp

section Wan

variable {deviceId : String} {mode : WanMode} {vlan : ℤ} {natEnabled : Bool}
  {ipAddress subnetMask gateway dnsServers : Option String}

lemma tr181WanParams_deliverable {paths : Tr181WanParameterPaths}
    (hvlan : isDeliverable "wan_vlan" (.number vlan) = true) :
    (DeviceCall.setParameterValues deviceId (tr181WanParams paths mode vlan natEnabled ipAddress
      subnetMask gateway dnsServers)).Deliverable := by
  intro p hp
  simp only [DeviceCall.params, tr181WanParams] at hp
  split_ifs at hp
  · simp only [List.mem_append, List.mem_cons, Option.mem_toList, Option.map_eq_some_iff,
      List.not_mem_nil, or_false] at hp
    rcases hp with (rfl | rfl | rfl | rfl | rfl) | ((rfl | rfl | rfl) | ⟨v, -, rfl⟩) | ⟨v, -, rfl⟩ <;>
      simp [hvlan]
  · simp only [List.append_nil, List.mem_cons, List.not_mem_nil, or_false] at hp
    rcases hp with rfl | rfl | rfl | rfl | rfl <;> simp [hvlan]

lemma tr098WanParams_deliverable {base : String}
    (hvlan : isDeliverable "wan_vlan" (.number vlan) = true) :
    (DeviceCall.setParameterValues deviceId (tr098WanParams base mode vlan natEnabled ipAddress
      subnetMask gateway dnsServers)).Deliverable := by
  intro p hp
  simp only [DeviceCall.params, tr098WanParams] at hp
  by_cases hstatic : mode = .static
  · simp only [hstatic, if_true, List.mem_append, List.mem_cons, List.mem_ite_nil_right,
      List.not_mem_nil, or_false] at hp
    rcases hp with (rfl | rfl | rfl | rfl | rfl | rfl) | (rfl | rfl | rfl) | ⟨-, rfl⟩ <;>
      simp [hvlan]
  · simp only [hstatic, if_false, List.append_nil, List.mem_cons, List.not_mem_nil, or_false] at hp
    rcases hp with rfl | rfl | rfl | rfl | rfl | rfl <;> simp [hvlan]

end Wan

lemma moveEndpoint_emits {deviceId base : String} {acsUrl acsUsername acsPasswordRef : Option String} :
    Emits DeviceCall.Deliverable (moveEndpoint ctx deviceId base acsUrl acsUsername acsPasswordRef) :=
  quiet_resolveOrFail.emits.bind fun _ _ => .emit (by simp)

lemma moveEndpoint_failsAs {deviceId base : String}
    {acsUrl acsUsername acsPasswordRef : Option String} {value : String}
    (h : secretOf ctx.resolveSecret (orText acsPasswordRef "") = .ok value) :
    FailsAs ByDevice (moveEndpoint ctx deviceId base acsUrl acsUsername acsPasswordRef) := by
  refine FailsAs.bind (fun s e he => ?_) fun _ _ => acsSet_failsAs
  exact absurd (h.symm.trans he) (by simp)

lemma sound_execute {a : Action} (hfilled : a.SecretsFilled ctx.resolveSecret) :
    Sound (execute ctx a) := by
  cases a
  case oltAuthorize => exact sound_oltAction fun h => by simpa using h
  case oltModifyDescription => exact sound_oltAction fun h => by simp
  case oltModifyLineProfile => exact sound_oltAction fun h => by simpa using h
  case oltModifyServiceProfile => exact sound_oltAction fun h => by simpa using h
  case oltClearIphost => exact sound_oltAction fun h => by simp
  case oltIpconfig => exact sound_oltAction fun h => by simp
  case oltTr069ServerConfig => exact sound_oltAction fun h => by simpa using h
  case oltCreateServicePort fsp ontId index vlan gem slot =>
    refine sound_oltAction fun h => ?_
    by_cases hslot : slot = "wan"
    · simpa [hslot] using h
    · simp [hslot]
  case oltDeleteServicePort => exact sound_oltAction fun h => by simp
  case oltOmciInternetConfig => exact sound_oltAction fun h => by simp
  case oltOmciWanConfig => exact sound_oltAction fun h => by simp
  case oltReset => exact sound_oltAction fun h => by simp
  case oltOmciPppoe =>
    refine .check quiet_refuseUnset fun _ h => .check quiet_resolveOrFail fun _ _ => ?_
    have hvlan := deliverable_of_returns h
    exact .last (.emit (by simpa using hvlan)) oltWrite_failsAs
  case acsAddObject deviceId objectPath wcdIndex =>
    refine .check quiet_requireAddObjectLayout fun rendered hrendered => ?_
    refine .write (.emit ?_) acsAddObject_failsAs fun _ => ?_
    · cases rendered with
      | none => simp
      | some wcd => simp [isDeliverable, rules, isExecutableDesiredValue]
    · exact ⟨noteWanPppInstance_passes.1.bind fun _ _ => .pure,
        noteWanPppInstance_passes.2.bind fun _ _ => .pure⟩
  case acsDeleteObject => exact .last (.emit (by simp)) acsDeleteObject_failsAs
  case acsSetPppoe =>
    refine .check quiet_refuseUnset fun _ h => .check quiet_resolveOrFail fun _ _ => ?_
    refine .check .ask fun inst _ => ?_
    have hset := deliverable_of_returns h
    simp only [List.forall_mem_cons] at hset
    exact .last (.emit (by simpa using hset.2)) acsSet_failsAs
  case acsSetWifiConfig deviceId paths enabled ssid passwordRef channel securityMode =>
    refine .check quiet_refuseUnset fun _ h => .check quiet_resolveIfGiven fun password hsecret => ?_
    have hset := deliverable_of_returns h
    have hssid : ∀ v ∈ ssid, v ≠ "" := fun v hv => by
      simpa [isDeliverable_text] using hset ("wifi_ssid", .text v) (by simp [Option.mem_def.mp hv])
    refine sound_changedAction (wifiParams_deliverable hssid fun v hv => ?_)
    obtain ⟨ref, href, hvalue⟩ := secretOf_of_resolveIfGiven hsecret v hv
    have hrefset : ref ≠ "" := by
      simpa [isDeliverable_text] using
        hset ("wifi_password_ref", .text ref) (by simp [Option.mem_def.mp href])
    obtain rfl := Option.mem_def.mp href
    rintro rfl
    exact hfilled (fun hblank => hssid "" hblank rfl) hrefset hvalue
  case acsSetRemoteAccess => exact sound_changedAction remoteParams_deliverable
  case acsSetNatEnabled =>
    refine .check quiet_refuseUnset fun _ _ => .check .ask fun inst _ => ?_
    exact .last (.emit (by simp)) acsSet_failsAs
  case acsSetIpv6 =>
    refine .check ?_ fun _ _ => .last (.emit (by simp)) acsSet_failsAs
    unfold refuseUnknownProvenance
    split_ifs
    · exact .pure
    · exact .fail
  case acsSetWanIp deviceId root wcd inst mode vlan nat ip mask gateway dns paths =>
    refine .check quiet_refuseUnset fun _ h => ?_
    have hset := deliverable_of_returns h
    simp only [List.forall_mem_cons] at hset
    split_ifs
    · cases paths with
      | none => exact .fail
      | some paths => exact .last (.emit (tr181WanParams_deliverable hset.2.1)) acsSet_failsAs
    · exact .last (.emit (tr098WanParams_deliverable hset.2.1)) acsSet_failsAs
  case acsSetDhcpServer deviceId enabled poolMin poolMax subnetMask gatewayIp =>
    refine sound_acsAction fun _ => ?_
    cases gatewayIp <;> simp
  case acsSetManagementServer deviceId crUsername crPasswordRef interval root acsUrl acsUsername
      acsPasswordRef =>
    refine .check quiet_refuseUnset fun _ h => .check quiet_resolveOrFail fun secret hsecret => ?_
    have hset := deliverable_of_returns h
    have husername : crUsername ≠ "" := by
      simpa [isDeliverable_text] using hset ("cr_username", .text crUsername) (by simp)
    have href : crPasswordRef ≠ "" := by
      simpa [isDeliverable_text] using hset ("cr_password_ref", .text crPasswordRef) (by simp)
    obtain ⟨hfilled, hsecond⟩ := hfilled husername href
    have hvalue := secretOf_of_returns hsecret
    have hblank : secret ≠ "" := by
      rintro rfl
      exact hfilled hvalue
    have hfirst : (DeviceCall.setParameterValues deviceId (connectionParams
        (root ++ ".ManagementServer") crUsername secret interval)).Deliverable := by
      simp [connectionParams, isDeliverable_text, husername, hblank]
    split_ifs with hurl
    · obtain ⟨password, hpassword⟩ := hsecond ⟨secret, hvalue⟩ hurl
      constructor
      · exact Emits.bind (.emit hfirst) fun _ _ => moveEndpoint_emits.bind fun _ _ => .pure
      · exact (FailsAs.bind acsSet_failsAs fun _ _ =>
          (moveEndpoint_failsAs hpassword).bind fun _ _ => .pure).spares
    · exact .last (.emit hfirst) acsSet_failsAs

end Actions

/-! ## A device that accepts everything -/

def acceptingContext (resolveSecret : String → Except String (Option String)) : ApplyContext Unit where
  oltAdapter _ _ w := (⟨true, ""⟩, w)
  setParameterValues _ _ w := (.ok {}, w)
  addObject _ _ w := (.ok (), w)
  deleteObject _ _ w := (.ok (), w)
  discoverWanPppInstanceIndex _ _ w := (none, w)
  overdue w := (false, w)
  resolveSecret := resolveSecret
  pppAuthorization := none
  pppScope := none

variable {resolveSecret : String → Except String (Option String)}

lemma refuseUnset_of_deliverable {σ : Type} {fields : List (String × DesiredScalar)}
    (h : ∀ f ∈ fields, isDeliverable f.1 f.2 = true) : (refuseUnset fields : Apply σ Unit) = pure () := by
  unfold refuseUnset
  rw [if_pos]
  exact List.filter_eq_nil_iff.mpr fun f hf => by simp [h f hf]

instance : Inhabited (Session Unit) := ⟨⟨(), fun _ => none⟩⟩

lemma resolveOrFail_of_ok {σ : Type} {ctx : ApplyContext σ} {ref value : String}
    (h : secretOf ctx.resolveSecret ref = .ok value) : resolveOrFail ctx ref = pure value :=
  funext fun s => by rw [resolveOrFail, h]; rfl

lemma resolveOrFail_of_error {σ : Type} {ctx : ApplyContext σ} {ref : String} {e : ApplyError}
    (h : secretOf ctx.resolveSecret ref = .error e) : resolveOrFail ctx ref = fail e :=
  funext fun s => by rw [resolveOrFail, h]; rfl

lemma isRefusal_of_secretOf {ref : String} {e : ApplyError}
    (h : secretOf resolveSecret ref = .error e) : e.isRefusal = true := by
  unfold secretOf at h
  split_ifs at h
  cases hanswer : resolveSecret ref with
  | error error =>
    rw [hanswer] at h
    exact Except.error.inj h ▸ rfl
  | ok answer =>
    rw [hanswer] at h
    cases answer with
    | none => exact Except.error.inj h ▸ rfl
    | some value => exact nomatch h

/-- A blank password is written. -/
lemma wifi_filled {deviceId : String} {paths : Tr069WifiParameterPaths} {enabled : Option Bool}
    {ssid : Option String} {ref : String} {channel : Option ℤ} {securityMode : Option String}
    (h : (Action.acsSetWifiConfig deviceId paths enabled ssid (some ref) channel securityMode).SparesUnset
      resolveSecret) (hssid : ssid ≠ some "") (href : ref ≠ "") :
    secretOf resolveSecret ref ≠ .ok "" := by
  intro hblank
  have hpassed : ∀ f ∈ (ssid.map fun v => (("wifi_ssid", .text v) : String × DesiredScalar)).toList ++
      ((some ref).map fun v => (("wifi_password_ref", .text v) : String × DesiredScalar)).toList,
        isDeliverable f.1 f.2 = true := by
    cases ssid with
    | none => simp [isDeliverable_text, href]
    | some v => simpa [isDeliverable_text, href] using hssid
  have hemits := (h Unit (acceptingContext resolveSecret) rfl).1
  have hsecret := @resolveOrFail_of_ok _ (acceptingContext resolveSecret) _ _ hblank
  simp only [execute, refuseUnset_of_deliverable hpassed, pure_bind, resolveIfGiven, hsecret,
    changedAction] at hemits
  have hmem : (⟨paths.pskPath, "wifi_password_ref", .text ""⟩ : Param) ∈
      wifiParams paths enabled ssid channel securityMode (some "") := by
    simp [wifiParams]
  rw [if_neg (List.ne_nil_of_mem hmem)] at hemits
  have hcall := hemits.left.of_emit _ hmem
  simp [isDeliverable_text] at hcall

variable {deviceId crUsername crPasswordRef root : String} {interval : ℤ}
  {acsUrl acsUsername acsPasswordRef : Option String}

lemma execute_managementServer {σ : Type} {ctx : ApplyContext σ} {value : String}
    (husername : crUsername ≠ "") (href : crPasswordRef ≠ "")
    (hvalue : secretOf ctx.resolveSecret crPasswordRef = .ok value) :
    execute ctx (.acsSetManagementServer deviceId crUsername crPasswordRef interval root acsUrl
      acsUsername acsPasswordRef) =
        acsSet ctx deviceId (connectionParams (root ++ ".ManagementServer") crUsername value
          interval) >>= fun _ =>
            if truthy acsUrl = true then
              moveEndpoint ctx deviceId (root ++ ".ManagementServer") acsUrl acsUsername
                acsPasswordRef >>= fun _ => pure (report (.acsSetManagementServer deviceId crUsername
                  crPasswordRef interval root acsUrl acsUsername acsPasswordRef))
            else pure (report (.acsSetManagementServer deviceId crUsername crPasswordRef interval
              root acsUrl acsUsername acsPasswordRef)) := by
  have hpassed : ∀ f ∈ [(("cr_username", .text crUsername) : String × DesiredScalar),
      ("cr_password_ref", .text crPasswordRef)], isDeliverable f.1 f.2 = true := by
    simp [isDeliverable_text, husername, href]
  simp only [execute, refuseUnset_of_deliverable hpassed, pure_bind, resolveOrFail_of_ok hvalue]

/-- A second secret that does not resolve is missed after the first write. -/
lemma managementServer_filled
    (h : (Action.acsSetManagementServer deviceId crUsername crPasswordRef interval root acsUrl
      acsUsername acsPasswordRef).SparesUnset resolveSecret) (husername : crUsername ≠ "")
    (href : crPasswordRef ≠ "") : secretOf resolveSecret crPasswordRef ≠ .ok "" ∧
      ((∃ value, secretOf resolveSecret crPasswordRef = .ok value) → truthy acsUrl = true →
        ∃ value, secretOf resolveSecret (orText acsPasswordRef "") = .ok value) := by
  obtain ⟨hemits, hspares⟩ := h Unit (acceptingContext resolveSecret) rfl
  constructor
  · intro hblank
    rw [@execute_managementServer deviceId crUsername crPasswordRef root interval acsUrl acsUsername
      acsPasswordRef _ (acceptingContext resolveSecret) "" husername href hblank] at hemits
    have hcall := hemits.left.of_emit
    simp [connectionParams, DeviceCall.Deliverable, DeviceCall.params, isDeliverable_text] at hcall
  · rintro ⟨value, hvalue⟩ hurl
    rw [@execute_managementServer deviceId crUsername crPasswordRef root interval acsUrl acsUsername
      acsPasswordRef _ (acceptingContext resolveSecret) value husername href hvalue] at hspares
    cases hsecond : secretOf resolveSecret (orText acsPasswordRef "") with
    | ok password => exact ⟨password, rfl⟩
    | error e =>
      have hfail := @resolveOrFail_of_error _ (acceptingContext resolveSecret) _ _ hsecond
      simp only [hurl, if_true, moveEndpoint, hfail] at hspares
      exact absurd (hspares ⟨(), fun _ => none⟩ e rfl (isRefusal_of_secretOf hsecond)) (by
        exact List.cons_ne_nil _ _)

/-- **What an action writes and refuses** is settled by its secrets. -/
lemma sparesUnset_iff {a : Action} : a.SparesUnset resolveSecret ↔ a.SecretsFilled resolveSecret := by
  constructor
  · intro h
    cases a with
    | acsSetWifiConfig deviceId paths enabled ssid passwordRef channel securityMode =>
      cases passwordRef with
      | none => exact trivial
      | some ref => exact wifi_filled h
    | acsSetManagementServer => exact managementServer_filled h
    | _ => exact trivial
  · rintro h σ ctx rfl
    exact sound_execute h

end DotmacSub.Network
