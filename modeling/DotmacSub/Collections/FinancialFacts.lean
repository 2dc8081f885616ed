import DotmacSub.Billing.PrepaidCoverage
import DotmacSub.Collections.FinancialAccess
import Mathlib.Data.List.Dedup

/-!
# Where the financial facts of an account come from

The profile of an account is that of its collectible services, and its prepaid funding sorts the
prepaid ones by treatment, coverage and charge: `services/billing_profile.py` and
`services/prepaid_threshold.py`.
-/

namespace DotmacSub.FinancialAccess

open Store Checked Lifecycle
open PrepaidService (BillingMode)
open PrepaidCoverage (PrepaidCoverageStatus)

/-- The contracted charge of a due service. -/
structure MonthlyCharge where
  amount : ℚ
  currency : String
deriving DecidableEq

/-- What the owners of billing say about an account and each of its services. -/
structure FinancialSources where
  accountMode : Option BillingMode
  billingMode : ℕ → Option BillingMode
  minBalance : Option ℚ
  defaultMinBalance : ℚ
  availableBalance : ℚ
  currency : String
  suppressCustomerBilling : ℕ → Bool
  coverage : ℕ → PrepaidCoverageStatus
  enforcementBlocked : ℕ → Bool
  monthlyCharge : ℕ → Option MonthlyCharge

inductive FundingError
  | invalidMinimumBalance (source : String)
  | currencyMismatch (subscriptionId : ℕ) (priceCurrency enforcementCurrency : String)
deriving DecidableEq

variable (db : AccessDb) (accountId : ℕ) (sources : FinancialSources)

/-- The services of an account that are still collected for. -/
def collectibleSubscriptionIds : List ℕ :=
  (db.lifecycle.subscriptions.rows.filter fun subscription =>
    subscription.subscriberId = accountId ∧
      subscription.status ∈ collectibleServiceStatuses).map (·.id)

def profileFromModes (accountMode : Option BillingMode) (modes : List BillingMode) :
    BillingProfile :=
  match modes with
  | [] => ⟨accountMode, [], accountMode, "account", false, none⟩
  | [effective] => ⟨accountMode, [effective], some effective, "subscription",
      accountMode.any (· ≠ effective),
      if accountMode = none then some "account_billing_mode_missing" else none⟩
  | modes => ⟨accountMode, modes, none, "mixed_subscriptions", true,
      some "mixed_collectible_subscription_billing_modes"⟩

/-- The billing mode of an account, and what it rests on. -/
def resolveBillingProfile : BillingProfile :=
  profileFromModes sources.accountMode
    ((collectibleSubscriptionIds db accountId).filterMap sources.billingMode).dedup

/-- The collectible prepaid services of an account. -/
def prepaidSubscriptionIds : List ℕ :=
  (collectibleSubscriptionIds db accountId).filter (sources.billingMode · = some .prepaid)

def minimum (value : ℚ) (source : String) : Except FundingError ℚ := do
  ensure (0 ≤ value) (.invalidMinimumBalance source)
  return value

/-- The minimum of an account, or else that of the domain. -/
def configuredMinimum : Except FundingError ℚ := do
  let defaultMinimum ← minimum sources.defaultMinBalance "billing.prepaid_default_min_balance"
  match sources.minBalance with
  | some minBalance => minimum minBalance ("account:" ++ toString accountId)
  | none => return defaultMinimum

/-- What the loop over the due services has found. -/
structure RenewalRequirement where
  actionable : List ℕ
  unresolvedRenewal : List ℕ
  required : ℚ

/-- One due service asks for its charge. -/
def requireRenewal (requirement : RenewalRequirement) (subscriptionId : ℕ) :
    Except FundingError RenewalRequirement :=
  match sources.monthlyCharge subscriptionId with
  | none => return { requirement with
      unresolvedRenewal := requirement.unresolvedRenewal ++ [subscriptionId] }
  | some charge => do
    let currency := (Text.strip charge.currency).toUpper
    ensure (currency = sources.currency)
      (.currencyMismatch subscriptionId currency sources.currency)
    return { requirement with
      actionable := requirement.actionable ++ [subscriptionId]
      required := requirement.required + max charge.amount 0 }

def sortedIds (ids : List ℕ) : List ℕ := ids.insertionSort (· ≤ ·)

/-- `resolve_prepaid_funding`, over `resolve_prepaid_threshold_decisions`. -/
def resolvePrepaidFunding : Except FundingError PrepaidFundingDecision := do
  let configured ← configuredMinimum accountId sources
  let (nonBillable, standard) :=
    (prepaidSubscriptionIds db accountId sources).partition sources.suppressCustomerBilling
  let blocked := fun id => sources.coverage id ≠ .covered ∧ sources.enforcementBlocked id
  let covered := standard.filter fun id => ¬blocked id ∧ sources.coverage id = .covered
  let unresolved := standard.filter fun id =>
    blocked id ∨ sources.coverage id = .unresolvedProjection
  let unfunded := standard.filter fun id => sources.coverage id = .uncoveredDue ∧ ¬blocked id
  let requirement ← unfunded.foldlM (requireRenewal sources) ⟨[], [], 0⟩
  return {
    availableBalance := sources.availableBalance
    requiredBalance := if requirement.actionable = [] then 0
      else max configured requirement.required
    currency := sources.currency
    coveredSubscriptionIds := sortedIds covered
    nonBillableSubscriptionIds := sortedIds nonBillable
    actionableUncoveredSubscriptionIds := sortedIds requirement.actionable
    unresolvedProjectionSubscriptionIds := sortedIds unresolved
    unresolvedRenewalSubscriptionIds := sortedIds requirement.unresolvedRenewal }

variable {db accountId sources}

lemma mem_sortedIds {ids : List ℕ} {id : ℕ} : id ∈ sortedIds ids ↔ id ∈ ids :=
  List.mem_insertionSort _

/-- What the loop finds actionable is a service that it went through. -/
lemma actionable_requireRenewals {ids : List ℕ} {requirement requirement' : RenewalRequirement}
    (h : ids.foldlM (requireRenewal sources) requirement = .ok requirement') :
    ∀ id ∈ requirement'.actionable, id ∈ requirement.actionable ∨ id ∈ ids := by
  induction ids generalizing requirement with
  | nil =>
    obtain rfl := foldlM_nil_eq_ok.mp h
    exact fun id hid => .inl hid
  | cons due ids ih =>
    obtain ⟨turned, hturn, h⟩ := foldlM_cons_eq_ok.mp h
    intro id hid
    obtain hfirst | hlater := ih h id hid
    · have hturned : id ∈ requirement.actionable ∨ id = due := by
        unfold requireRenewal at hturn
        cases hcharge : sources.monthlyCharge due with
        | none =>
          rw [hcharge] at hturn
          obtain rfl := pure_eq_ok.mp hturn
          exact .inl hfirst
        | some charge =>
          rw [hcharge] at hturn
          obtain ⟨-, hturn⟩ := ensure_bind_eq_ok.mp hturn
          obtain rfl := pure_eq_ok.mp hturn
          rw [List.mem_append, List.mem_singleton] at hfirst
          exact hfirst
      obtain hbefore | rfl := hturned
      · exact .inl hbefore
      · exact .inr List.mem_cons_self
    · exact .inr (List.mem_cons_of_mem due hlater)

/-- **No service is both covered and due**, and a due one is a collectible prepaid one. -/
theorem resolvePrepaidFunding_eq_ok {funding : PrepaidFundingDecision}
    (h : resolvePrepaidFunding db accountId sources = .ok funding) :
    (∀ id ∈ funding.coveredSubscriptionIds, sources.coverage id = .covered) ∧
      ∀ id ∈ funding.actionableUncoveredSubscriptionIds, sources.coverage id = .uncoveredDue ∧
        id ∈ prepaidSubscriptionIds db accountId sources := by
  simp only [resolvePrepaidFunding, bind_eq_ok, List.partition_eq_filter_filter] at h
  obtain ⟨_, -, requirement, hloop, h⟩ := h
  obtain rfl := pure_eq_ok.mp h
  constructor
  · intro id hid
    have hcovered := (List.mem_filter.mp (mem_sortedIds.mp hid)).2
    exact (of_decide_eq_true hcovered).2
  · intro id hid
    obtain hnone | hdue := actionable_requireRenewals hloop id (mem_sortedIds.mp hid)
    · exact absurd hnone List.not_mem_nil
    · obtain ⟨hstandard, hdue⟩ := List.mem_filter.mp hdue
      exact ⟨(of_decide_eq_true hdue).1, (List.mem_filter.mp hstandard).1⟩

/-- Without collectible services of a mode nothing is collected for in prepaid. -/
lemma prepaidSubscriptionIds_eq_nil
    (h : (resolveBillingProfile db accountId sources).hasCollectibleSubscriptions = false) :
    prepaidSubscriptionIds db accountId sources = [] := by
  have hnone : ((collectibleSubscriptionIds db accountId).filterMap sources.billingMode).dedup =
      [] := by
    unfold resolveBillingProfile at h
    generalize ((collectibleSubscriptionIds db accountId).filterMap sources.billingMode).dedup =
      modes at h
    match modes with
    | [] => rfl
    | [_] => cases h
    | _ :: _ :: _ => cases h
  refine List.filter_eq_nil_iff.mpr fun id hid hprepaid => ?_
  have hmode : BillingMode.prepaid ∈
      ((collectibleSubscriptionIds db accountId).filterMap sources.billingMode).dedup :=
    List.mem_dedup.mpr (List.mem_filterMap.mpr ⟨id, hid, of_decide_eq_true hprepaid⟩)
  rw [hnone] at hmode
  exact absurd hmode List.not_mem_nil

end DotmacSub.FinancialAccess
