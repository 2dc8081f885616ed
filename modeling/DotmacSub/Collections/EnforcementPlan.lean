import DotmacSub.Collections.ServiceByService

/-!
# The plan of prepaid enforcement

`plan_prepaid_enforcement` plans a cohort of accounts one by one.  The grace of an account is
resolved by `collections/grace_policy.py` before the decision table is read, and it asks for the
billing mode of the account, which `billing_profile.py` refuses where the modes do not agree.
-/

namespace DotmacSub.FinancialAccess

open Store Checked Lifecycle
open PrepaidService (BillingMode)
open ServiceExtensions (SubscriptionStatus)
open Gregorian (Wall)

inductive GracePolicySource
  | accountOverride
  | policySet
  | billingModeDefault
deriving DecidableEq

inductive GracePolicySetSource
  | account
  | reseller
  | offerVersion
  | offer
  | billingModeDefault
  | none
deriving DecidableEq

structure PolicySet where
  isActive : Bool
  graceDays : Option ℤ

/-- What the owner of grace policies reads.  A default policy set is `some none` if the setting is
no identifier; default days are `none` if the setting is no number. -/
structure GraceSettings where
  policySets : ℕ → Option PolicySet
  defaultPolicySetId : BillingMode → Option (Option ℕ)
  defaultGracePeriodDays : BillingMode → Option ℤ

/-- What it reads of an account, and of its services by their numbers. -/
structure GraceAccount where
  gracePeriodDays : Option ℤ
  policySetId : Option ℕ
  resellerPolicySetId : Option ℕ
  createdAt : ℕ → Option ℤ
  offerVersionPolicySetId : ℕ → Option ℕ
  offerPolicySetId : ℕ → Option ℕ

structure EffectiveGracePolicy where
  days : ℕ
  source : GracePolicySource
  billingMode : BillingMode
  policySetId : Option ℕ
  policySetSource : GracePolicySetSource
deriving DecidableEq

inductive PlanError
  | sweep (error : SweepError)
  | billingProfile (reason : String)
  | invalidPolicySetId (mode : BillingMode)
  | invalidGraceDays (source : GracePolicySource)
  | dateOverflow
  | missingPolicyText
deriving DecidableEq

def requireEffectiveBillingMode (profile : BillingProfile) : Except PlanError BillingMode :=
  match profile.invalidReason with
  | some reason => .error (.billingProfile reason)
  | none => orRefuse profile.effectiveMode (.billingProfile "billing_mode_unresolved")

/-- The order in which the services of an account are asked for a policy set. -/
def servicePriority : SubscriptionStatus → ℕ
  | .active => 0
  | .suspended => 1
  | .pending => 2
  | .blocked => 3
  | _ => 99

section Policy

variable (db : AccessDb) (settings : GraceSettings) (account : GraceAccount) (pass : SweepPass)

def servicePolicySet : Option (ℕ × GracePolicySetSource) :=
  let services := db.lifecycle.subscriptions.rows.filter fun subscription =>
    subscription.subscriberId = pass.accountId ∧ subscription.status ∈ collectibleServiceStatuses
  let key := fun id => (account.createdAt id).getD 0
  (services.insertionSort fun a b => servicePriority a.status < servicePriority b.status ∨
    servicePriority a.status = servicePriority b.status ∧ key b.id ≤ key a.id).findSome?
      fun service => ((account.offerVersionPolicySetId service.id).map (·, .offerVersion)).or
        ((account.offerPolicySetId service.id).map (·, .offer))

def resolvePolicySetDecision : Except PlanError (Option ℕ × GracePolicySetSource) :=
  match ((account.policySetId.map (·, .account)).or
    (account.resellerPolicySetId.map (·, .reseller))).or (servicePolicySet db account pass) with
  | some (id, source) => return (some id, source)
  | none => do
    let mode ← requireEffectiveBillingMode (pass.profile db)
    match settings.defaultPolicySetId mode with
    | none => return (none, .none)
    | some raw => return (some (← orRefuse raw (.invalidPolicySetId mode)), .billingModeDefault)

/-- `_grace_days`. -/
def graceDaysOf (value : Option ℤ) (source : GracePolicySource) : Except PlanError ℕ := do
  let days ← orRefuse value (.invalidGraceDays source)
  ensure (0 ≤ days) (.invalidGraceDays source)
  return days.toNat

def resolveEffectiveGracePolicy : Except PlanError EffectiveGracePolicy := do
  let mode ← requireEffectiveBillingMode (pass.profile db)
  let (policySetId, policySetSource) ← resolvePolicySetDecision db settings account pass
  if account.gracePeriodDays.isSome then
    return ⟨← graceDaysOf account.gracePeriodDays .accountOverride, .accountOverride, mode,
      policySetId, policySetSource⟩
  else
    match (policySetId.bind settings.policySets).filter fun policy =>
        policy.isActive && policy.graceDays.isSome with
    | some policy =>
      return ⟨← graceDaysOf policy.graceDays .policySet, .policySet, mode, policySetId,
        policySetSource⟩
    | none =>
      return ⟨← graceDaysOf (settings.defaultGracePeriodDays mode) .billingModeDefault,
        .billingModeDefault, mode, policySetId, policySetSource⟩

end Policy

/-- The end of a grace in `decide_grace`: the midnight after its last day. -/
def graceEndsAt (days : ℕ) (startsAt : Option ℤ) : Except PlanError (Option ℤ) :=
  match startsAt with
  | none => return none
  | some start =>
    if days = 0 then return some start
    else do
      let ends ← orRefuse ((Wall.midnight (Wall.ofMicros start).date).addDays (days + 1)) .dateOverflow
      return some ends.toMicros

/-- What is planned for an account, with the funding and the grace it was decided by. -/
structure AccountPlan where
  accountId : ℕ
  item : PrepaidEnforcementPlanItem
  funding : PrepaidFundingDecision
  grace : EffectiveGracePolicy
  deactivationDueAt : Option ℤ

structure CohortFacts where
  communicationTexts : List String
  settings : GraceSettings
  account : ℕ → GraceAccount
  pass : ℕ → SweepPass
  accountId_pass : ∀ id, (pass id).accountId = id
  incompleteSource : ℕ → Bool

section Plan

variable (db : AccessDb) (facts : CohortFacts)

/-- `plan_prepaid_account`. -/
def planAccount (id : ℕ) : Except PlanError AccountPlan := do
  let pass := facts.pass id
  let lowBalanceAt := (db.timers id).lowBalanceAt
  let funding ← (planFunding db pass).mapError .sweep
  let grace ← resolveEffectiveGracePolicy db facts.settings (facts.account id) pass
  let endsAt ← graceEndsAt grace.days lowBalanceAt
  return ⟨id, (excludedItem db pass).getD (fundingItem db pass funding grace.days), funding, grace,
    if grace.days = 0 then lowBalanceAt.or (some pass.now) else endsAt⟩

/-- The accounts of a cohort whose sources of funding are complete, each once and in order. -/
def CohortFacts.selected (accountIds : List ℕ) : List ℕ :=
  (accountIds.dedup.insertionSort (· ≤ ·)).filter fun id => !facts.incompleteSource id

/-- The plans of a cohort, or why there are none. -/
def planPrepaidEnforcement (accountIds : List ℕ) : Except PlanError (List AccountPlan) := do
  let ids := facts.selected accountIds
  ensure (∀ id ∈ ids, (db.lifecycle.subscribers.get? id).isSome) (.sweep .accountNotFound)
  ensure ("" ∉ facts.communicationTexts) .missingPolicyText
  ids.mapM (planAccount db facts)

end Plan

/-- Every number of days that may be configured is one of grace. -/
structure ValidGrace (settings : GraceSettings) (account : GraceAccount) : Prop where
  override : ∀ days ∈ account.gracePeriodDays, 0 ≤ days
  policySet : ∀ id, ∀ policy ∈ settings.policySets id, ∀ days ∈ policy.graceDays, 0 ≤ days
  defaultSet : ∀ mode, settings.defaultPolicySetId mode ≠ some none
  defaultDays : ∀ mode, ∃ days, 0 ≤ days ∧ settings.defaultGracePeriodDays mode = some days

def BillingProfile.Resolved (profile : BillingProfile) : Prop :=
  profile.invalidReason = none ∧ profile.effectiveMode.isSome

instance (profile : BillingProfile) : Decidable profile.Resolved :=
  inferInstanceAs (Decidable (_ ∧ _))

section Defined

variable {db : AccessDb} {settings : GraceSettings} {account : GraceAccount} {pass : SweepPass}

lemma requireEffectiveBillingMode_isOk_iff {profile : BillingProfile} :
    (∃ mode, requireEffectiveBillingMode profile = .ok mode) ↔ profile.Resolved := by
  unfold requireEffectiveBillingMode BillingProfile.Resolved
  cases profile.invalidReason with
  | some reason => simp
  | none => simp [orRefuse_eq_ok, Option.isSome_iff_exists]

lemma graceDaysOf_isOk {value : Option ℤ} {source : GracePolicySource} {days : ℤ}
    (hvalue : value = some days) (hdays : 0 ≤ days) :
    graceDaysOf value source = .ok days.toNat := by
  subst hvalue
  simp [graceDaysOf, orRefuse_some, ensure_of hdays, pure, Except.pure]

lemma resolveEffectiveGracePolicy_isOk_iff (hvalid : ValidGrace settings account) :
    (∃ policy, resolveEffectiveGracePolicy db settings account pass = .ok policy) ↔
      (pass.profile db).Resolved := by
  rw [← requireEffectiveBillingMode_isOk_iff]
  constructor
  · rintro ⟨policy, h⟩
    obtain ⟨mode, hmode, -⟩ := bind_eq_ok.mp h
    exact ⟨mode, hmode⟩
  · rintro ⟨mode, hmode⟩
    obtain ⟨⟨policySetId, source⟩, hdecision⟩ :
        ∃ decision, resolvePolicySetDecision db settings account pass = .ok decision := by
      unfold resolvePolicySetDecision
      split
      · exact ⟨_, rfl⟩
      · rw [hmode, ok_bind]
        cases hdefault : settings.defaultPolicySetId mode with
        | none => exact ⟨_, rfl⟩
        | some raw =>
          cases raw with
          | none => exact absurd hdefault (hvalid.defaultSet mode)
          | some id => exact ⟨_, rfl⟩
    simp only [resolveEffectiveGracePolicy, hmode, hdecision, ok_bind]
    split_ifs with hoverride
    · obtain ⟨days, hdays⟩ := Option.isSome_iff_exists.mp hoverride
      rw [graceDaysOf_isOk hdays (hvalid.override days hdays)]
      exact ⟨_, rfl⟩
    · split
      next policy hpolicy =>
        obtain ⟨hfound, hset⟩ := Option.filter_eq_some_iff.mp hpolicy
        obtain ⟨id, -, hget⟩ := Option.bind_eq_some_iff.mp hfound
        obtain ⟨days, hdays⟩ := Option.isSome_iff_exists.mp (Bool.and_eq_true_iff.mp hset).2
        rw [graceDaysOf_isOk hdays (hvalid.policySet id policy hget days hdays)]
        exact ⟨_, rfl⟩
      · obtain ⟨days, hnonneg, hdays⟩ := hvalid.defaultDays mode
        rw [graceDaysOf_isOk hdays hnonneg]
        exact ⟨_, rfl⟩

/-- A profile that resolves and is still unsafe is that of an account with services. -/
lemma hasCollectible_of_mismatch (hresolved : (pass.profile db).Resolved)
    (hrisky : (pass.profile db).automationSafe = false) :
    (pass.profile db).hasCollectibleSubscriptions = true := by
  unfold SweepPass.profile resolveBillingProfile at *
  generalize ((collectibleSubscriptionIds db pass.accountId).filterMap
    pass.sources.billingMode).dedup = modes at *
  match modes with
  | [] =>
    obtain ⟨-, hmode⟩ := hresolved
    simp [profileFromModes] at hmode
    simp [profileFromModes, BillingProfile.automationSafe, hmode] at hrisky
  | [_] => rfl
  | _ :: _ :: _ => rfl

/-- Of the unsafe profiles that resolve, the table reports those of eligible accounts. -/
lemma excludedItem_mismatch (hresolved : (pass.profile db).Resolved)
    (hrisky : (pass.profile db).automationSafe = false) :
    ∃ item, excludedItem db pass = some item ∧
      (item.action = .billingProfileInvalid ↔ pass.ineligible = false) := by
  have hcollectible := hasCollectible_of_mismatch hresolved hrisky
  unfold excludedItem
  simp only [hcollectible, hrisky, SweepPass.ineligible]
  cases hactive : pass.accountIsActive <;> cases hbilled : pass.billingEnabled <;>
    by_cases hcanceled : pass.facts.accountStatus = some .canceled <;>
      simp [hcanceled] <;> split_ifs <;> simp

variable {facts : CohortFacts} {accountIds : List ℕ} {id : ℕ}

variable (db facts) in
/-- The plan of an account is defined, and reports its profile if that is unsafe. -/
structure Plannable (id : ℕ) : Prop where
  resolved : ((facts.pass id).profile db).Resolved
  dated : ∀ policy,
    resolveEffectiveGracePolicy db facts.settings (facts.account id) (facts.pass id) = .ok policy →
      ∃ endsAt, graceEndsAt policy.days (db.timers id).lowBalanceAt = .ok endsAt
  eligible : ((facts.pass id).profile db).automationSafe = false →
    (facts.pass id).ineligible = false

variable (db facts accountIds) in
/-- A cohort of existing accounts whose funding resolves, with valid numbers of grace days. -/
structure Cohort : Prop where
  found : ∀ id ∈ accountIds, (db.lifecycle.subscribers.get? id).isSome
  complete : ∀ id ∈ accountIds, facts.incompleteSource id = false
  funded : ∀ id ∈ accountIds, ∃ funding, planFunding db (facts.pass id) = .ok funding
  valid : ∀ id ∈ accountIds, ValidGrace facts.settings (facts.account id)

lemma Cohort.single (h : Cohort db facts accountIds) (hid : id ∈ accountIds) :
    Cohort db facts [id] where
  found := by simpa using h.found id hid
  complete := by simpa using h.complete id hid
  funded := by simpa using h.funded id hid
  valid := by simpa using h.valid id hid

lemma planAccount_ok {plan : AccountPlan} (h : planAccount db facts id = .ok plan) :
    plan.accountId = id ∧ ∃ otherwise, plan.item = (excludedItem db (facts.pass id)).getD otherwise := by
  simp only [planAccount, bind_eq_ok, pure_eq_ok] at h
  obtain ⟨funding, -, grace, -, endsAt, -, rfl⟩ := h
  exact ⟨rfl, _, rfl⟩

lemma planAccount_isOk_iff (hcohort : Cohort db facts accountIds) (hid : id ∈ accountIds) :
    (∃ plan, planAccount db facts id = .ok plan) ↔ ((facts.pass id).profile db).Resolved ∧
      ∀ policy, resolveEffectiveGracePolicy db facts.settings (facts.account id) (facts.pass id) =
        .ok policy → ∃ endsAt, graceEndsAt policy.days (db.timers id).lowBalanceAt = .ok endsAt := by
  obtain ⟨funding, hfunding⟩ := hcohort.funded id hid
  rw [← resolveEffectiveGracePolicy_isOk_iff (hcohort.valid id hid)]
  simp only [planAccount, hfunding, Except.mapError, ok_bind]
  constructor
  · rintro ⟨plan, h⟩
    obtain ⟨policy, hpolicy, h⟩ := bind_eq_ok.mp h
    obtain ⟨endsAt, hendsAt, -⟩ := bind_eq_ok.mp h
    refine ⟨⟨policy, hpolicy⟩, fun other hother => ?_⟩
    obtain rfl := Except.ok.inj (hpolicy.symm.trans hother)
    exact ⟨endsAt, hendsAt⟩
  · rintro ⟨⟨policy, hpolicy⟩, hdated⟩
    obtain ⟨endsAt, hendsAt⟩ := hdated policy hpolicy
    rw [hpolicy, ok_bind, hendsAt, ok_bind]
    exact ⟨_, rfl⟩

lemma planPrepaidEnforcement_eq_ok (hcohort : Cohort db facts accountIds)
    {plans : List AccountPlan} : planPrepaidEnforcement db facts accountIds = .ok plans ↔
      "" ∉ facts.communicationTexts ∧ List.Forall₂ (fun id plan => planAccount db facts id = .ok plan)
        (accountIds.dedup.insertionSort (· ≤ ·)) plans := by
  have hmem : ∀ id, id ∈ accountIds.dedup.insertionSort (· ≤ ·) ↔ id ∈ accountIds := fun id => by
    rw [List.mem_insertionSort, List.mem_dedup]
  have hselected : facts.selected accountIds = accountIds.dedup.insertionSort (· ≤ ·) :=
    List.filter_eq_self.mpr fun id hid => by simp [hcohort.complete id ((hmem id).mp hid)]
  have hfound : ∀ id ∈ facts.selected accountIds, (db.lifecycle.subscribers.get? id).isSome :=
    fun id hid => hcohort.found id ((hmem id).mp (hselected ▸ hid))
  rw [planPrepaidEnforcement, ensure_of hfound, ok_bind, ensure_bind_eq_ok, hselected, mapM_eq_ok_iff]

variable (db facts accountIds) in
/-- The cohort has a plan with one item for each account, the same as of the account alone, and an
unsafe billing profile is reported as such. -/
def PlansAll : Prop := ∃ plans, planPrepaidEnforcement db facts accountIds = .ok plans ∧
  plans.map (·.accountId) = accountIds.dedup.insertionSort (· ≤ ·) ∧
  ∀ plan ∈ plans, planPrepaidEnforcement db facts [plan.accountId] = .ok [plan] ∧
    (((facts.pass plan.accountId).profile db).automationSafe = false →
      plan.item.action = .billingProfileInvalid)

/-- **When the plan is defined for every account of a cohort**: exactly if the billing mode of each
resolves and its grace ends on a date, and no account that is not enforced has an unsafe profile. -/
theorem plansAll_iff (hcohort : Cohort db facts accountIds) : PlansAll db facts accountIds ↔
    "" ∉ facts.communicationTexts ∧ ∀ id ∈ accountIds, Plannable db facts id := by
  have hmem : ∀ id, id ∈ accountIds.dedup.insertionSort (· ≤ ·) ↔ id ∈ accountIds := fun id => by
    rw [List.mem_insertionSort, List.mem_dedup]
  constructor
  · rintro ⟨plans, hplans, -, hitems⟩
    obtain ⟨htexts, hplanned⟩ := (planPrepaidEnforcement_eq_ok hcohort).mp hplans
    refine ⟨htexts, fun id hid => ?_⟩
    obtain ⟨plan, hmemPlan, hplan⟩ := exists_of_mem_left hplanned id ((hmem id).mpr hid)
    obtain ⟨hresolved, hdated⟩ := (planAccount_isOk_iff hcohort hid).mp ⟨plan, hplan⟩
    obtain ⟨rfl, otherwise, hitem⟩ := planAccount_ok hplan
    refine ⟨hresolved, hdated, fun hrisky => ?_⟩
    obtain ⟨item, hexcluded, haction⟩ := excludedItem_mismatch hresolved hrisky
    have hreported := (hitems plan hmemPlan).2 hrisky
    rw [hitem, hexcluded] at hreported
    exact haction.mp hreported
  · rintro ⟨htexts, hplannable⟩
    obtain ⟨plans, hplans, hplanned⟩ := mapM_eq_ok (f := planAccount db facts)
      (q := fun id plan => planAccount db facts id = .ok plan)
      (l := accountIds.dedup.insertionSort (· ≤ ·)) fun id hid => by
        have hid := (hmem id).mp hid
        obtain ⟨plan, hplan⟩ := (planAccount_isOk_iff hcohort hid).mpr
          ⟨(hplannable id hid).resolved, (hplannable id hid).dated⟩
        exact ⟨plan, hplan, hplan⟩
    refine ⟨plans, (planPrepaidEnforcement_eq_ok hcohort).mpr ⟨htexts, hplanned⟩, ?_,
      fun plan hplan => ?_⟩
    · have hids : List.Forall₂ (· = ·) (accountIds.dedup.insertionSort (· ≤ ·))
          (plans.map (·.accountId)) := List.forall₂_map_right_iff.mpr
        (hplanned.imp fun _ _ hplan => (planAccount_ok hplan).1.symm)
      rw [List.forall₂_eq_eq_eq] at hids
      exact hids.symm
    · obtain ⟨id, hid, hplanned⟩ := exists_of_mem_right hplanned plan hplan
      have hid := (hmem id).mp hid
      obtain ⟨rfl, otherwise, hitem⟩ := planAccount_ok hplanned
      refine ⟨(planPrepaidEnforcement_eq_ok (hcohort.single hid)).mpr ⟨htexts, .cons hplanned .nil⟩,
        fun hrisky => ?_⟩
      obtain ⟨item, hexcluded, haction⟩ := excludedItem_mismatch (hplannable _ hid).resolved hrisky
      rw [hitem, hexcluded]
      exact haction.mpr ((hplannable _ hid).eligible hrisky)

end Defined

def plannedWith (billingMode : ℕ → Option BillingMode) : CohortFacts where
  communicationTexts := []
  settings := ⟨fun _ => none, fun _ => none, fun _ => some 3⟩
  account := fun _ => ⟨none, none, none, fun _ => none, fun _ => none, fun _ => none⟩
  pass := fun id =>
    { lapsedPass 1 0 with accountId := id, sources := { duePrepaid with billingMode } }
  accountId_pass := fun _ => rfl
  incompleteSource := fun _ => false

lemma validGrace_plannedWith (billingMode : ℕ → Option BillingMode) (id : ℕ) :
    ValidGrace (plannedWith billingMode).settings ((plannedWith billingMode).account id) where
  override := by simp [plannedWith]
  policySet := by simp [plannedWith]
  defaultSet := by simp [plannedWith]
  defaultDays := fun _ => ⟨3, by decide, rfl⟩

theorem plansAll_prepaid : PlansAll twoServices (plannedWith fun _ => some .prepaid) [0] := by
  have hcohort : Cohort twoServices (plannedWith fun _ => some .prepaid) [0] := by
    refine ⟨by decide, by decide, fun id hid => ?_, fun id _ => validGrace_plannedWith _ id⟩
    obtain rfl := List.mem_singleton.mp hid
    have hisOk : (planFunding twoServices ((plannedWith fun _ => some .prepaid).pass 0)).isOk = true := by
      decide +kernel
    cases hfunding : planFunding twoServices ((plannedWith fun _ => some .prepaid).pass 0) with
    | ok funding => exact ⟨funding, rfl⟩
    | error e => simp [hfunding, Except.isOk, Except.toBool] at hisOk
  refine (plansAll_iff hcohort).mpr ⟨by decide, fun id hid => ?_⟩
  obtain rfl := List.mem_singleton.mp hid
  exact ⟨by decide +kernel, fun _ _ => ⟨_, rfl⟩, by decide +kernel⟩

/-- A prepaid and a postpaid service: nothing is planned, for this account or any other. -/
theorem mixedModes_raise : ¬ ∀ (db : AccessDb) (facts : CohortFacts) (accountIds : List ℕ),
    Cohort db facts accountIds → PlansAll db facts accountIds := by
  intro hall
  obtain ⟨plans, hplans, -⟩ := hall twoServices
    (plannedWith fun id => if id = 0 then some .prepaid else some .postpaid) [0] (by
      refine ⟨by decide, by decide, fun id hid => ?_, fun id _ => validGrace_plannedWith _ id⟩
      obtain rfl := List.mem_singleton.mp hid
      exact ⟨_, rfl⟩)
  have hraised : planPrepaidEnforcement twoServices
      (plannedWith fun id => if id = 0 then some .prepaid else some .postpaid) [0] =
        .error (.billingProfile "mixed_collectible_subscription_billing_modes") := by
    rfl
  exact absurd (hraised.symm.trans hplans) (by simp)

end DotmacSub.FinancialAccess
