import DotmacSub.Network.Reconcile

/-!
# What a synced ONT has converged to

A pass may end as synced at three exits, and none of them plans once more.  Two things get past
them: drift that no action repairs, and an ACS identity that is lost between the two readings.
-/

namespace DotmacSub.Network

/-! ## Drift without an action -/

/-- Without an action there is no drift. -/
def Silent (e : Emitted) : Prop := e.actions = [] → e.drifts = []

namespace Silent

lemma empty : Silent {} := fun _ => rfl

lemma append {a b : Emitted} (ha : Silent a) (hb : Silent b) : Silent (a ++ b) := by
  intro h
  obtain ⟨hactions, hactions'⟩ := List.append_eq_nil_iff.mp h
  exact List.append_eq_nil_iff.mpr ⟨ha hactions, hb hactions'⟩

lemma when {p : Prop} [Decidable p] {e : Emitted} (h : Silent e) : Silent (.when p e) := by
  unfold Emitted.when
  split_ifs
  · exact h
  · exact empty

lemma acting {a : Action} {actions : List Action} {drifts : List Drift} :
    Silent ⟨a :: actions, drifts⟩ :=
  fun h => absurd h (List.cons_ne_nil a actions)

end Silent

lemma Written.silent {e : Emitted} (h : Written e) : Silent e := by
  intro hactions
  refine List.eq_nil_iff_forall_not_mem.mpr fun d hd => ?_
  obtain ⟨-, -, a, ha, -⟩ := h d hd
  exact absurd (hactions ▸ ha) List.not_mem_nil

section Idle

variable (desired : OntDesiredState) (observed : OntObservedState) (mode : ReconcileMode)
  (proposed : Finset String)

/-- A full plan for an ONT that is not on the OLT, and whose profiles nobody has set. -/
structure UnauthorizableAbsence : Prop where
  full : isTr069ProfileOnlyChange mode proposed = false ∧ isWifiOnlyChange mode proposed = false ∧
    isRemoteAccessOnlyChange mode proposed = false ∧ isWanOnlyChange mode proposed = false
  absent : observed.olt.oltPresent = false
  unset : authorizable desired = false

/-- Where the desired IPv6 value comes from; one that is being proposed is explicit. -/
def ipv6Provenance : DesiredValueProvenance :=
  if "ipv6_enabled" ∈ proposed then .explicit else desired.ipv6EnabledProvenance

/-- IPv6 was decided by somebody, differs, and cannot be written in the data model of the device. -/
structure UnwritableIpv6 : Prop where
  wide : isTr069ProfileOnlyChange mode proposed = false ∧ isWifiOnlyChange mode proposed = false ∧
    isRemoteAccessOnlyChange mode proposed = false
  served : truthy desired.acsServerId = true
  target : ∃ deviceId, AcsTarget desired observed deviceId
  decided : hasExecutableDesiredProvenance (ipv6Provenance desired proposed) = true
  differs : observed.olt.oltPresent = false ∨ ipv6Differs desired observed = true
  unmapped : dataModelRoot desired observed ≠ some "Device"

variable {desired observed mode proposed}

lemma planMgmtServicePort_drifts : (planMgmtServicePort desired observed).drifts = [] := by
  unfold planMgmtServicePort
  split
  · rw [Emitted.drifts_when, ite_self]
  · rfl

lemma planWanServicePort_drifts : (planWanServicePort desired observed).drifts = [] := by
  unfold planWanServicePort
  split
  · rw [Emitted.drifts_when, ite_self]
  · rfl

lemma planServicePorts_silent : Silent (planServicePorts desired observed) := by
  refine .append (.append ?_ fun _ => planMgmtServicePort_drifts)
    fun _ => planWanServicePort_drifts
  intro h
  have hnone : stalePorts desired observed = [] := List.map_eq_nil_iff.mp h
  simp only [planStalePorts, hnone, List.map_nil]

lemma planOltOmciWan_drifts : (planOltOmciWan desired).1.drifts = [] := by
  unfold planOltOmciWan
  split
  · split_ifs <;> rfl
  · rfl

lemma planIphost_silent : Silent (planIphost desired observed) := by
  unfold planIphost
  split
  · exact .when .acting
  · exact .empty

/-- An idle OLT half of a full plan reports an absence at most. -/
lemma planOltSide_drifts (h : (planOltSide desired observed).actions = []) :
    (planOltSide desired observed).drifts ≠ [] ↔
      observed.olt.oltPresent = false ∧ authorizable desired = false := by
  obtain ⟨h, -⟩ := List.append_eq_nil_iff.mp h
  obtain ⟨h, hiphost⟩ := List.append_eq_nil_iff.mp h
  obtain ⟨hfirst, hports⟩ := List.append_eq_nil_iff.mp h
  simp only [planOltSide, Emitted.drifts_append, Emitted.drifts_when, planServicePorts_silent hports,
    planIphost_silent hiphost, ite_self, List.append_nil]
  cases hpresent : observed.olt.oltPresent with
  | true =>
    have hsilent : Silent (planPresent desired observed) :=
      .append (.append (.append (.when .acting) (.when .acting)) (.when .acting)) (.when .acting)
    rw [hpresent] at hfirst
    simp only [if_true, Bool.true_eq_false, false_and, iff_false, not_not]
    exact hsilent hfirst
  | false =>
    rw [hpresent] at hfirst
    have hunset : authorizable desired = false := by
      by_contra hset
      rw [Bool.not_eq_false] at hset
      simp [planAbsent, hset] at hfirst
    simp [planAbsent, hunset]

lemma planOltScope_drifts (h : (planOltScope desired observed mode proposed).1.actions = []) :
    (planOltScope desired observed mode proposed).1.drifts ≠ [] ↔
      UnauthorizableAbsence desired observed mode proposed := by
  unfold planOltScope at h ⊢
  dsimp only at h ⊢
  split_ifs at h ⊢ with hprofile hnarrow hwan
  · have hsilent : Silent (planTr069ProfileOnly desired observed) := .when .acting
    refine iff_of_false (not_not.mpr (hsilent h)) fun habsence => ?_
    exact Bool.false_ne_true (habsence.full.1.symm.trans hprofile)
  · refine iff_of_false (not_not.mpr rfl) fun habsence => ?_
    simp [habsence.full] at hnarrow
  · refine iff_of_false (not_not.mpr ?_) fun habsence => ?_
    · exact List.append_eq_nil_iff.mpr ⟨planWanServicePort_drifts, planOltOmciWan_drifts⟩
    · exact Bool.false_ne_true (habsence.full.2.2.2.symm.trans hwan)
  · have hside : (planOltSide desired observed).actions = [] := by
      rw [Emitted.withReset, appendResetIfNeeded_eq, List.append_eq_nil_iff] at h
      exact (List.append_eq_nil_iff.mp h.1).1
    simp only [Bool.not_eq_true, not_or] at hprofile hnarrow hwan
    have hdrifts := planOltSide_drifts hside
    rw [Emitted.withReset, Emitted.drifts_append, planOltOmciWan_drifts, List.append_nil, hdrifts]
    constructor
    · rintro ⟨habsent, hunset⟩
      exact ⟨⟨hprofile, hnarrow.1, hnarrow.2, hwan⟩, habsent, hunset⟩
    · intro habsence
      exact ⟨habsence.absent, habsence.unset⟩

lemma planIpv6_drifts {deviceId : String}
    (h : (planIpv6 desired observed proposed deviceId).actions = []) :
    (planIpv6 desired observed proposed deviceId).drifts ≠ [] ↔
      hasExecutableDesiredProvenance (ipv6Provenance desired proposed) = true ∧
        (observed.olt.oltPresent = false ∨ ipv6Differs desired observed = true) ∧
        dataModelRoot desired observed ≠ some "Device" := by
  unfold planIpv6 at h ⊢
  rw [← ipv6Provenance] at h ⊢
  dsimp only at h ⊢
  rw [Emitted.actions_when] at h
  rw [Emitted.drifts_when]
  by_cases hplanned : hasExecutableDesiredProvenance (ipv6Provenance desired proposed) = true ∧
      (observed.olt.oltPresent = false ∨ ipv6Differs desired observed = true)
  · rw [if_pos hplanned] at h ⊢
    refine iff_of_true (List.cons_ne_nil _ _) ⟨hplanned.1, hplanned.2, fun hroot => ?_⟩
    simp [hroot] at h
  · rw [if_neg hplanned]
    exact iff_of_false (not_not.mpr rfl) fun hipv6 => hplanned ⟨hipv6.1, hipv6.2.1⟩

lemma planAcsWrites_drifts {force omciWanPlanned : Bool} {deviceId : String}
    (h : (planAcsWrites desired observed mode proposed force deviceId omciWanPlanned).actions = []) :
    (planAcsWrites desired observed mode proposed force deviceId omciWanPlanned).drifts ≠ [] ↔
      (isWifiOnlyChange mode proposed = false ∧ isRemoteAccessOnlyChange mode proposed = false) ∧
        hasExecutableDesiredProvenance (ipv6Provenance desired proposed) = true ∧
        (observed.olt.oltPresent = false ∨ ipv6Differs desired observed = true) ∧
        dataModelRoot desired observed ≠ some "Device" := by
  unfold planAcsWrites at h ⊢
  obtain ⟨h, hwide⟩ := List.append_eq_nil_iff.mp h
  obtain ⟨h, hremote⟩ := List.append_eq_nil_iff.mp h
  obtain ⟨h, hwifi⟩ := List.append_eq_nil_iff.mp h
  obtain ⟨hppp, hip⟩ := List.append_eq_nil_iff.mp h
  rw [Emitted.drifts_append, Emitted.drifts_append, Emitted.drifts_append, Emitted.drifts_append,
    planAcsWanPpp_written.silent.when hppp, planAcsWanIp_written.silent.when hip,
    planWifi_written.silent.when hwifi, planRemoteAccess_written.silent.when hremote,
    Emitted.drifts_when, ← Bool.or_eq_false_iff]
  rw [Emitted.actions_when] at hwide
  split_ifs at hwide ⊢ with hnarrow
  · obtain ⟨hwide, hserver⟩ := List.append_eq_nil_iff.mp hwide
    obtain ⟨hnat, hipv6⟩ := List.append_eq_nil_iff.mp hwide
    rw [Emitted.drifts_append, Emitted.drifts_append, planNat_written.silent.when hnat,
      (planDhcpServer_written.append planManagementServer_written).silent.when hserver]
    simp only [List.nil_append, List.append_nil, hnarrow, true_and]
    exact planIpv6_drifts hipv6
  · exact iff_of_false (not_not.mpr rfl) fun hipv6 => hnarrow hipv6.1

lemma planAcsSide_drifts {force omciWanPlanned : Bool}
    (hprofile : isTr069ProfileOnlyChange mode proposed = false)
    (h : (planAcsSide desired observed mode proposed force omciWanPlanned).1.actions = []) :
    (planAcsSide desired observed mode proposed force omciWanPlanned).1.drifts ≠ [] ↔
      UnwritableIpv6 desired observed mode proposed := by
  have htarget := resolveAcsDeviceId_eq_some desired observed
  unfold planAcsSide at h ⊢
  split_ifs at h ⊢ with hserver
  · refine iff_of_false (not_not.mpr rfl) fun hipv6 => ?_
    exact Bool.false_ne_true (hserver.symm.trans hipv6.served)
  · dsimp only at h ⊢
    cases hid : (resolveAcsDeviceId desired observed).deviceId with
    | none =>
      refine iff_of_false (not_not.mpr rfl) fun hipv6 => ?_
      obtain ⟨deviceId, hdevice⟩ := hipv6.target
      rw [← htarget, hid] at hdevice
      exact absurd hdevice (by simp)
    | some deviceId =>
      simp only [hid] at h ⊢
      rw [planAcsWrites_drifts h]
      constructor
      · rintro ⟨⟨hwifi, hremote⟩, hdecided, hdiffers, hunmapped⟩
        exact ⟨⟨hprofile, hwifi, hremote⟩, by simpa using hserver,
          ⟨deviceId, (htarget deviceId).mp hid⟩, hdecided, hdiffers, hunmapped⟩
      · intro hipv6
        exact ⟨hipv6.wide.2, hipv6.decided, hipv6.differs, hipv6.unmapped⟩

end Idle

section Plan

variable (desired : OntDesiredState) (observed : OntObservedState) (mode : ReconcileMode)
  (proposed : Finset String) (force : Bool)

/-- The ACS half is planned for a device that cannot be told. -/
def AwaitsAcs : Prop :=
  PlansAcs desired mode (some proposed) ∧ ¬ ∃ deviceId, AcsTarget desired observed deviceId

variable {desired observed mode proposed force}

/-- A plan without actions reports no drift but these two. -/
lemma drifts_of_idle (h : (computePlan desired observed mode (some proposed) force).actions = []) :
    (computePlan desired observed mode (some proposed) force).drifts ≠ [] ↔
      UnauthorizableAbsence desired observed mode proposed ∨
        UnwritableIpv6 desired observed mode proposed := by
  obtain ⟨holt, hacs⟩ := List.append_eq_nil_iff.mp h
  have hdrifts := planOltScope_drifts holt
  simp only [Option.getD_some] at hdrifts hacs
  simp only [computePlan, Emitted.drifts_append, Option.getD_some, ne_eq, List.append_eq_nil_iff,
    not_and_or]
  refine or_congr hdrifts ?_
  cases hprofile : isTr069ProfileOnlyChange mode proposed with
  | true =>
    simp only [if_true]
    refine iff_of_false (not_not.mpr trivial) fun hipv6 => ?_
    exact Bool.false_ne_true (hipv6.wide.1.symm.trans hprofile)
  | false =>
    simp only [hprofile, Bool.false_eq_true, if_false] at hacs ⊢
    exact planAcsSide_drifts hprofile hacs

lemma waitReason_of_resolved {deviceId : String}
    (h : (resolveAcsDeviceId desired observed).deviceId = some deviceId) :
    (resolveAcsDeviceId desired observed).waitReason = none := by
  unfold resolveAcsDeviceId at h ⊢
  dsimp only at h ⊢
  split_ifs at h ⊢
  all_goals simp_all

lemma acsWaitReason_iff :
    (computePlan desired observed mode (some proposed) force).acsWaitReason ≠ none ↔
      AwaitsAcs desired observed mode proposed := by
  by_cases hplans : PlansAcs desired mode (some proposed)
  · have htargets := computePlan_of_plansAcs desired observed mode (some proposed) force hplans
    rcases htargets with ⟨deviceId, htarget, -⟩ | ⟨hnone, -, hwait⟩
    · refine iff_of_false (not_not.mpr ?_) fun hawaits => hawaits.2 ⟨deviceId, htarget⟩
      have hid := (resolveAcsDeviceId_eq_some desired observed deviceId).mpr htarget
      obtain ⟨hscope, hserver⟩ := hplans
      simp only [computePlan, hscope, planAcsSide, hserver, hid, Bool.true_eq_false,
        Bool.false_eq_true, if_false, waitReason_of_resolved hid]
    · exact iff_of_true hwait ⟨hplans, hnone⟩
  · have hwait := computePlan_of_not_plansAcs desired observed mode (some proposed) force hplans
    exact iff_of_false (not_not.mpr hwait.2) fun hawaits => hplans hawaits.1

end Plan

/-- A synced status is true: the plan computed last has no drift and waits for nothing, no action
has failed and none was withheld. -/
def Pass.Honest (pass : Pass) : Prop :=
  pass.result.ont.syncStatus = .synced →
    (∃ plan, pass.lastPlan = some plan ∧ plan.drifts = [] ∧ plan.acsWaitReason = none) ∧
      ∀ applied, pass.applied = some applied → applied.success = true ∧ applied.refusedPpp = []

section Exits

variable {σ : Type} {ctx : ApplyContext σ} {env : ReconcileEnv σ} {request : ReconcileRequest}
  {ont : OntRow} {plan : Plan}

@[simp] lemma finalise_synced {success : Bool} {failure : Option PassFailure}
    {actionsApplied : List AppliedAction} {driftBefore driftAfter : List Drift} {persisted : Bool} :
    (finalise ont success failure actionsApplied driftBefore driftAfter persisted).ont.syncStatus =
      .synced ↔ success = true ∧ driftAfter = [] := by
  simp [finalise]

lemma honest_of_failed {pass : Pass} (h : pass.result.ont.syncStatus ≠ .synced) : pass.Honest :=
  fun hsynced => absurd hsynced h

lemma acsWaitFailure_eq_none : acsWaitFailure plan = none ↔ plan.acsWaitReason = none :=
  Option.map_eq_none_iff

lemma residualPppDrift_eq_nil {applied : ApplyResult} :
    residualPppDrift applied = [] ↔ applied.refusedPpp = [] :=
  List.map_eq_nil_iff

lemma applyActions_length : ∀ {actions : List Action} {s : Session σ},
    (applyActions ctx actions s).1.success = true →
      (applyActions ctx actions s).1.actionsApplied.length +
        (applyActions ctx actions s).1.refusedPpp.length = actions.length
  | [], _ => fun _ => rfl
  | a :: rest, s => by
    have hrest := fun s' => @applyActions_length rest s'
    intro hsuccess
    rw [applyActions] at hsuccess ⊢
    split_ifs at hsuccess ⊢ with hwithheld
    · have hlength := hrest s hsuccess
      simp only [List.length_cons]
      omega
    · dsimp only at hsuccess ⊢
      -- a pass that is late has failed
      split_ifs at hsuccess ⊢
      rcases hrun : execute ctx a ⟨(ctx.overdue s.world).2, s.wanPppInstances⟩ with
        ⟨e | first, s', calls⟩
      · rw [hrun] at hsuccess
        exact absurd hsuccess Bool.false_ne_true
      · rw [hrun] at hsuccess
        have hlength := hrest s' hsuccess
        simp only [List.length_cons]
        omega

/-- A comparison without writes is honest unless it settles drift that nothing repairs. -/
lemma honest_readbackPass :
    (⟨readbackPass ont plan, some plan, none⟩ : Pass).Honest ↔
      ¬ (plan.acsWaitReason = none ∧ plan.actions = [] ∧ plan.drifts ≠ []) := by
  cases hwait : acsWaitFailure plan with
  | some wait =>
    refine iff_of_true (honest_of_failed (by simp [readbackPass, hwait])) fun hbad => ?_
    rw [acsWaitFailure_eq_none.mpr hbad.1] at hwait
    exact absurd hwait (by simp)
  | none =>
    have hreason : plan.acsWaitReason = none := acsWaitFailure_eq_none.mp hwait
    by_cases hactions : plan.actions = []
    · simp [Pass.Honest, readbackPass, hwait, hreason, hactions]
    · refine iff_of_true (honest_of_failed ?_) fun hbad => hactions hbad.2.1
      simp [readbackPass, hwait, hactions]

variable {applied : ApplyResult} {readings : Readings}

/-- The verification finds no drift and does not notice that the device is lost. -/
def MissesLoss (env : ReconcileEnv σ) (request : ReconcileRequest) (plan : Plan)
    (applied : ApplyResult) (readings : Readings) : Prop :=
  readings.olt.unreachable = false ∧ readings.acs.unreachable = false ∧
    plan.acsWaitReason = none ∧ applied.refusedPpp = [] ∧
    (passPlan env request readings.observed false).drifts = [] ∧
    (passPlan env request readings.observed false).acsWaitReason ≠ none

lemma honest_verifyPass (hsuccess : applied.success = true) :
    (verifyPass env request ont plan applied readings).Honest ↔
      ¬ MissesLoss env request plan applied readings := by
  unfold verifyPass MissesLoss
  dsimp only
  split_ifs with holt hacs hresidual hdrifts
  · exact iff_of_true (honest_of_failed (by simp)) fun hbad => by simp [hbad.1] at holt
  · exact iff_of_true (honest_of_failed (by simp)) fun hbad => by simp [hbad.2.1] at hacs
  · refine iff_of_true (honest_of_failed (by simp [hresidual.2.1])) fun hbad => ?_
    exact hresidual.1 hbad.2.2.2.2.1
  · exact iff_of_true (honest_of_failed (by simp)) fun hbad => hdrifts hbad.2.2.2.2.1
  · rw [not_ne_iff] at hdrifts
    rw [Bool.not_eq_true] at holt hacs
    cases hwait : acsWaitFailure plan with
    | some wait =>
      refine iff_of_true (honest_of_failed (by simp)) fun hbad => ?_
      rw [acsWaitFailure_eq_none.mpr hbad.2.2.1] at hwait
      exact absurd hwait (by simp)
    | none =>
      have hreason : plan.acsWaitReason = none := acsWaitFailure_eq_none.mp hwait
      simp only [Pass.Honest, finalise_synced, residualPppDrift_eq_nil, Option.some.injEq,
        exists_eq_left', forall_eq', hsuccess, hdrifts, holt, hacs, hreason, true_and]
      tauto

/-- A pass that writes is honest unless it settles drift that nothing repairs, or verifies without
noticing that the device is lost. -/
lemma honest_writePass {world : σ} :
    (writePass env request ont plan world).Honest ↔
      ¬ ((plan.acsWaitReason = none ∧ plan.actions = [] ∧ plan.drifts ≠ []) ∨
        (plan.actions ≠ [] ∧
          (applyPlan (deliveryContext env request plan) plan world).1.success = true ∧
          MissesLoss env request plan (applyPlan (deliveryContext env request plan) plan world).1
            (env.readObserved (target env request)
              (applyPlan (deliveryContext env request plan) plan world).2.1.world).1)) := by
  have hidle : plan.actions = [] →
      (applyPlan (deliveryContext env request plan) plan world).1.success = true := by
    intro hactions
    rw [applyPlan, hactions, applyActions]
  have hlength := @applyActions_length _ (deliveryContext env request plan) plan.actions
    ⟨world, fun _ => none⟩
  rw [← applyPlan] at hlength
  unfold writePass
  dsimp only
  generalize applyPlan (deliveryContext env request plan) plan world = run at hidle hlength ⊢
  split_ifs with hfailed hempty
  · refine iff_of_true (honest_of_failed (by simp)) ?_
    rintro (⟨-, hactions, -⟩ | ⟨-, hsuccess, -⟩)
    · rw [hidle hactions] at hfailed
      exact absurd hfailed (by simp)
    · rw [hsuccess] at hfailed
      exact absurd hfailed (by simp)
  · -- nothing applied and nothing withheld: there was nothing to do
    rw [Bool.not_eq_false] at hfailed
    have hrefused : run.1.refusedPpp = [] := residualPppDrift_eq_nil.mp hempty.2
    have hactions : plan.actions = [] := by
      have hzero := hlength hfailed
      rw [hempty.1, hrefused] at hzero
      exact List.length_eq_zero_iff.mp hzero.symm
    cases hwait : acsWaitFailure plan with
    | some wait =>
      refine iff_of_true (honest_of_failed (by simp)) ?_
      rintro (⟨hreason, -⟩ | ⟨hplanned, -⟩)
      · rw [acsWaitFailure_eq_none.mpr hreason] at hwait
        exact absurd hwait (by simp)
      · exact hplanned hactions
    | none =>
      have hreason : plan.acsWaitReason = none := acsWaitFailure_eq_none.mp hwait
      simp [Pass.Honest, hempty, hreason, hactions, hfailed, hrefused]
  · rw [Bool.not_eq_false] at hfailed
    have hactions : plan.actions ≠ [] := by
      intro hactions
      have hzero := hlength hfailed
      rw [hactions, List.length_nil, Nat.add_eq_zero_iff, List.length_eq_zero_iff,
        List.length_eq_zero_iff] at hzero
      exact hempty ⟨hzero.1, residualPppDrift_eq_nil.mpr hzero.2⟩
    rw [honest_verifyPass hfailed]
    simp only [hactions, hfailed, ne_eq, not_false_eq_true, false_and, and_false, false_or,
      true_and]

end Exits

/-! ## A whole pass -/

section Pass

variable {σ : Type} (env : ReconcileEnv σ) (request : ReconcileRequest) (row : OntRow) (world : σ)

/-- The pass gets as far as its devices: no recorded fault stops it, the change is valid and the
adapters can be built. -/
def Starts : Prop :=
  blocksPass request (recoverCrash row) = false ∧ rejection env request = none ∧
    env.adapterError = none

def firstReading : Readings × σ := env.readObserved (target env request) world

def firstPlan : Plan :=
  passPlan env request (firstReading env request world).1.observed (!request.readbackOnly)

/-- There is nothing to write, and yet the ONT is absent from the OLT with its profiles unset or has
another IPv6 setting on a data model that cannot be written. -/
structure StaysUnrepaired : Prop where
  idle : (firstPlan env request world).actions = []
  resolved : ¬ AwaitsAcs (target env request) (firstReading env request world).1.observed
    request.mode request.proposedFields
  differs : UnauthorizableAbsence (target env request)
      (firstReading env request world).1.observed request.mode request.proposedFields ∨
    UnwritableIpv6 (target env request) (firstReading env request world).1.observed request.mode
      request.proposedFields

/-- How the actions of the first plan go. -/
def firstRun : ApplyResult × Session σ × List DeviceCall :=
  applyPlan (deliveryContext env request (firstPlan env request world)) (firstPlan env request world)
    (firstReading env request world).2

def secondReading : Readings :=
  (env.readObserved (target env request) (firstRun env request world).2.1.world).1

/-- Everything is written, and the ACS device that the first reading told apart is unknown or
ambiguous in the second one, where the OLT shows no drift. -/
structure LosesDevice : Prop where
  writes : request.readbackOnly = false
  planned : (firstPlan env request world).actions ≠ []
  reachable : blockedBy (firstPlan env request world) (firstReading env request world).1 = none
  delivered : (firstRun env request world).1.success = true ∧
    (firstRun env request world).1.refusedPpp = []
  read : (secondReading env request world).olt.unreachable = false ∧
    (secondReading env request world).acs.unreachable = false
  resolved : ¬ AwaitsAcs (target env request) (firstReading env request world).1.observed
    request.mode request.proposedFields
  lost : AwaitsAcs (target env request) (secondReading env request world).observed request.mode
    request.proposedFields
  settled : (passPlan env request (secondReading env request world).observed false).drifts = []

variable {env request row world}

lemma honest_of_not_starts (h : ¬ Starts env request row) :
    (reconcileOnt env request row world).Honest := by
  refine honest_of_failed ?_
  unfold reconcileOnt
  cases hblocks : blocksPass request (recoverCrash row) with
  | true =>
    have hstatus : (recoverCrash row).syncStatus = .outOfSync := (of_decide_eq_true hblocks).2.1
    simp [failureResult, hblocks, hstatus]
  | false =>
    cases hrejected : rejection env request with
    | some reason => simp [hblocks]
    | none =>
      cases herror : env.adapterError with
      | some error => simp [failureResult, hblocks]
      | none => exact absurd ⟨hblocks, hrejected, herror⟩ h

lemma blockedBy_of_idle {readings : Readings} (h : (firstPlan env request world).actions = [])
    (hwait : (firstPlan env request world).acsWaitReason = none) :
    blockedBy (firstPlan env request world) readings = none := by
  have hnone : (firstPlan env request world).requiredSurfaces = ∅ := by
    change ((firstPlan env request world).actions.map Action.surface).toFinset = ∅
    rw [h]
    rfl
  simp [blockedBy, hnone, hwait]

lemma staysUnrepaired_iff : StaysUnrepaired env request world ↔
    (firstPlan env request world).acsWaitReason = none ∧ (firstPlan env request world).actions = [] ∧
      (firstPlan env request world).drifts ≠ [] := by
  constructor
  · intro h
    exact ⟨not_not.mp (mt acsWaitReason_iff.mp h.resolved), h.idle,
      (drifts_of_idle h.idle).mpr h.differs⟩
  · rintro ⟨hwait, hidle, hdrifts⟩
    exact ⟨hidle, fun hawaits => acsWaitReason_iff.mpr hawaits hwait,
      (drifts_of_idle hidle).mp hdrifts⟩

lemma losesDevice_iff : LosesDevice env request world ↔
    request.readbackOnly = false ∧
      blockedBy (firstPlan env request world) (firstReading env request world).1 = none ∧
      (firstPlan env request world).actions ≠ [] ∧
      (firstRun env request world).1.success = true ∧
      MissesLoss env request (firstPlan env request world) (firstRun env request world).1
        (secondReading env request world) := by
  constructor
  · intro h
    exact ⟨h.writes, h.reachable, h.planned, h.delivered.1, h.read.1, h.read.2,
      not_not.mp (mt acsWaitReason_iff.mp h.resolved), h.delivered.2, h.settled,
      acsWaitReason_iff.mpr h.lost⟩
  · rintro ⟨hwrites, hreachable, hplanned, hsuccess, holt, hacs, hwait, hrefused, hsettled, hlost⟩
    exact ⟨hwrites, hplanned, hreachable, ⟨hsuccess, hrefused⟩, ⟨holt, hacs⟩,
      fun hawaits => acsWaitReason_iff.mpr hawaits hwait, acsWaitReason_iff.mp hlost, hsettled⟩

/-- A pass that starts ends by its first plan. -/
lemma honest_of_starts (h : Starts env request row) :
    (reconcileOnt env request row world).Honest ↔
      ¬ (StaysUnrepaired env request world ∨ LosesDevice env request world) := by
  obtain ⟨hblocks, hrejected, herror⟩ := h
  rw [staysUnrepaired_iff, losesDevice_iff]
  have hidle := @blockedBy_of_idle _ env request world (firstReading env request world).1
  have hpass : reconcileOnt env request row world = devicePass env request
      { recoverCrash row with
        syncStatus := .reconciling
        lastReconcileStartedAt := some env.startedAt }
      (firstReading env request world).1 (firstReading env request world).2 := by
    simp only [reconcileOnt, hblocks, hrejected, herror, Bool.false_eq_true, if_false, firstReading]
  have hplan : passPlan env request (firstReading env request world).1.observed
      (!request.readbackOnly) = firstPlan env request world := rfl
  rw [hpass, devicePass, hplan]
  dsimp only
  cases hblocked : blockedBy (firstPlan env request world) (firstReading env request world).1 with
  | some surface =>
    have hfailed : ¬ (((firstPlan env request world).acsWaitReason = none ∧
        (firstPlan env request world).actions = [] ∧ (firstPlan env request world).drifts ≠ []) ∨
        (request.readbackOnly = false ∧ some surface = none ∧
          (firstPlan env request world).actions ≠ [] ∧
          (firstRun env request world).1.success = true ∧
          MissesLoss env request (firstPlan env request world) (firstRun env request world).1
            (secondReading env request world))) := by
      rintro (⟨hwait, hactions, -⟩ | ⟨-, hnone, -⟩)
      · rw [hidle hactions hwait] at hblocked
        exact absurd hblocked (by simp)
      · exact absurd hnone (by simp)
    cases surface with
    | olt => exact iff_of_true (honest_of_failed (by simp)) hfailed
    | acs => exact iff_of_true (honest_of_failed (by simp)) hfailed
  | none =>
    cases hreadback : request.readbackOnly with
    | true =>
      simp only [if_true, Bool.true_eq_false, false_and, or_false]
      exact honest_readbackPass
    | false =>
      simp only [Bool.false_eq_true, if_false, true_and]
      exact honest_writePass

variable (env request row world)

/-- **When synced means zero residual drift.**  A run of any request leaves a true status, if and
only if it does not start, or it neither stays unrepaired with nothing to write nor loses the ACS
device between the two readings. -/
theorem honest_iff : (reconcileOnt env request row world).Honest ↔
    ¬ (Starts env request row ∧
      (StaysUnrepaired env request world ∨ LosesDevice env request world)) := by
  by_cases hstarts : Starts env request row
  · rw [honest_of_starts hstarts]
    simp only [hstarts, true_and]
  · exact iff_of_true (honest_of_not_starts hstarts) fun hbad => hstarts hbad.1

end Pass

/-! ## IPv6 on a data model without it -/

def ipv6Ont : OntDesiredState := { managedOnt with ipv6Enabled := true }

def ipv6OffAcs : AcsObservedFields where
  acsPresent := true
  deviceMatchCount := 1
  dhcpEnabled := some true
  dataModelRoot := some "InternetGatewayDevice"
  ipv6Enabled := some false

def ipv6Off : Readings where
  olt := ⟨false, some dhcpOff.olt, none⟩
  acs := ⟨false, some ipv6OffAcs, none⟩

/-- Devices that answer, and always read the same. -/
def steadyEnv : ReconcileEnv Unit where
  startedAt := "2026-01-01T00:00:00+00:00"
  oltName := "olt-1"
  desiredFromOntUnit := ipv6Ont
  validateDesired _ _ := ⟨true, none⟩
  adapterError := none
  readObserved _ w := (ipv6Off, w)
  devices := acceptingContext fun ref => .ok (some ref)
  authorizePppDelivery _ := ⟨false, some .noActiveServiceIntent, ⟨"", "", "", 0, "", ""⟩⟩
  deriveDeliveryScope _ := none

/-- The ONT is synced while the last plan has a drift. -/
theorem ipv6Off_synced : ¬ ∀ (σ : Type) (env : ReconcileEnv σ) (request : ReconcileRequest)
    (row : OntRow) (world : σ), (reconcileOnt env request row world).Honest := by
  intro hall
  have hhonest := hall Unit steadyEnv { mode := .sweep } ⟨.synced, none, none, 0⟩ ()
  have hdrifts : (reconcileOnt steadyEnv { mode := .sweep } ⟨.synced, none, none, 0⟩ ()).lastPlan.map
      (fun plan => plan.drifts.map (·.field)) = some ["ipv6_enabled"] := by
    decide +kernel
  obtain ⟨⟨plan, hplan, hnone, -⟩, -⟩ := hhonest (by decide +kernel)
  rw [hplan, Option.map_some, hnone] at hdrifts
  exact absurd hdrifts (by decide)

end DotmacSub.Network
