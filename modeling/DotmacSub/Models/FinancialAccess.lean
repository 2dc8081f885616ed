import DotmacSub.Lifecycle.Commands
import DotmacSub.Models.PrepaidService

/-!
# Financial access

The rows of `models/collections.py` and the facts that the consequence owner of
`services/collections/_core.py` decides by.  A fingerprint is a digest of what is decided and of
the evidence that is kept of these facts, which leaves some of them out; a `Decision` is just what
is digested, and stands for its fingerprint.
-/

namespace DotmacSub.FinancialAccess

open Store Lifecycle Decimal
open PrepaidService (BillingMode)

inductive FinancialAccessAction
  | suspend
  | reject
  | throttle
  | restore
deriving DecidableEq

inductive FinancialAccessOrigin
  | dunning
  | prepaidEnforcement
  | financialReconciliation
  | historicalReconciliation
deriving DecidableEq

inductive DunningCaseStatus
  | open
  | paused
  | resolved
  | closed
deriving DecidableEq

structure DunningCase where
  id : ℕ
  accountId : ℕ
  status : DunningCaseStatus
  currentStep : Option ℤ
  startedAt : ℤ
  resolvedAt : Option ℤ
deriving DecidableEq

instance : Row DunningCase := ⟨DunningCase.id⟩

/-- A login of an account; a throttled one remembers the profile it had. -/
structure AccessCredential where
  id : ℕ
  subscriberId : ℕ
  radiusProfileId : Option ℕ
  preThrottleRadiusProfileId : Option ℕ
  isActive : Bool
deriving DecidableEq

instance : Row AccessCredential := ⟨AccessCredential.id⟩

structure RadiusProfile where
  id : ℕ
  isActive : Bool
deriving DecidableEq

instance : Row RadiusProfile := ⟨RadiusProfile.id⟩

structure OverdueReceivable where
  invoiceId : ℕ
  currency : String
  receivable : ℚ
  paymentsApplied : ℚ
  creditsApplied : ℚ
deriving DecidableEq

/-- The billing mode of an account, and what it rests on. -/
structure BillingProfile where
  accountMode : Option BillingMode
  subscriptionModes : List BillingMode
  effectiveMode : Option BillingMode
  source : String
  accountSubscriptionMismatch : Bool
  invalidReason : Option String
deriving DecidableEq

def BillingProfile.hasCollectibleSubscriptions (profile : BillingProfile) : Bool :=
  profile.subscriptionModes ≠ []

def BillingProfile.automationSafe (profile : BillingProfile) : Bool :=
  profile.invalidReason = none && profile.effectiveMode.isSome &&
    !profile.accountSubscriptionMismatch

structure PrepaidFundingDecision where
  availableBalance : ℚ
  requiredBalance : ℚ
  currency : String
  coveredSubscriptionIds : List ℕ
  nonBillableSubscriptionIds : List ℕ
  actionableUncoveredSubscriptionIds : List ℕ
  unresolvedProjectionSubscriptionIds : List ℕ
  unresolvedRenewalSubscriptionIds : List ℕ
deriving DecidableEq

def PrepaidFundingDecision.funded (funding : PrepaidFundingDecision) : Bool :=
  if funding.unresolvedProjectionSubscriptionIds ≠ [] ∨
      funding.unresolvedRenewalSubscriptionIds ≠ [] then false
  else if (funding.coveredSubscriptionIds ≠ [] ∨ funding.nonBillableSubscriptionIds ≠ []) ∧
      funding.actionableUncoveredSubscriptionIds = [] then true
  else funding.requiredBalance ≤ funding.availableBalance

/-- The access that is left to a restricted account. -/
structure WalledGardenDecision where
  requestedMode : AccessRestrictionMode
  effectiveMode : AccessRestrictionMode
  reason : String
deriving DecidableEq

/-- What other owners say about an account when a decision is made; the grace decision is as it
enters the evidence. -/
structure AccountFacts where
  accountStatus : Option SubscriberStatus
  dedicatedBundle : Bool
  profile : BillingProfile
  receivables : List OverdueReceivable
  funding : PrepaidFundingDecision
  graceDecision : EnforcementReason → Option ℕ → String
  shieldReason : Option String
  minimumEnforcingDays : ℤ
  shouldDefer : Bool
  insideWindow : Bool
  windowBlockReason : Option String
  healthReasons : List String
  accessDecision : AccessRestrictionMode → WalledGardenDecision

structure CredentialChange where
  credentialId : ℕ
  profileBeforeId : Option ℕ
  profileAfterId : Option ℕ
deriving DecidableEq

/-- What the evidence keeps of a billing profile. -/
structure ProfileEvidence where
  valid : Bool
  automationSafe : Bool
  effectiveMode : Option BillingMode
  source : String
  invalidReason : Option String
deriving DecidableEq

def BillingProfile.evidence (profile : BillingProfile) : ProfileEvidence :=
  ⟨profile.invalidReason = none, profile.automationSafe, profile.effectiveMode, profile.source,
    profile.invalidReason⟩

/-- What the evidence keeps of a funding decision: not the services that nobody is billed for. -/
structure FundingEvidence where
  currency : String
  availableBalance : ℚ
  requiredBalance : ℚ
  funded : Bool
  coveredSubscriptionIds : List ℕ
  actionableUncoveredSubscriptionIds : List ℕ
  unresolvedProjectionSubscriptionIds : List ℕ
  unresolvedRenewalSubscriptionIds : List ℕ
deriving DecidableEq

/-- The balances are written with two places. -/
def PrepaidFundingDecision.evidence (funding : PrepaidFundingDecision) : FundingEvidence where
  currency := funding.currency
  availableBalance := quantize halfEven 2 funding.availableBalance
  requiredBalance := quantize halfEven 2 funding.requiredBalance
  funded := funding.funded
  coveredSubscriptionIds := funding.coveredSubscriptionIds
  actionableUncoveredSubscriptionIds := funding.actionableUncoveredSubscriptionIds
  unresolvedProjectionSubscriptionIds := funding.unresolvedProjectionSubscriptionIds
  unresolvedRenewalSubscriptionIds := funding.unresolvedRenewalSubscriptionIds

/-- The evidence for a suspension, a rejection or a throttle. -/
structure ConsequenceInputs where
  accountStatus : Option SubscriberStatus
  profile : Option ProfileEvidence
  overdueReceivables : List OverdueReceivable
  prepaidFunding : Option FundingEvidence
  graceDecision : Option String
  accessDecision : Option WalledGardenDecision
  shieldReason : Option String
  billingHealthReasons : List String
  dedicatedBundle : Bool
  insideEnforcementWindow : Bool
  enforcementWindowBlockReason : Option String
  overdueDays : Option ℤ
  targetSubscriptionIds : List ℕ
  credentialChanges : List CredentialChange
deriving DecidableEq

/-- The evidence for a restoration. -/
structure RestorationInputs where
  accountStatus : Option SubscriberStatus
  profile : Option ProfileEvidence
  overdueReceivables : List OverdueReceivable
  prepaidFunding : Option FundingEvidence
  targetSubscriptionIds : List ℕ
  targetLockIds : List ℕ
  targetCaseIds : List ℕ
  credentialChanges : List CredentialChange
  legacyThrottleCredentialIds : List ℕ
  clearPrepaidTimers : Bool
  prepaidLowBalanceAt : Option ℤ
  prepaidDeactivationAt : Option ℤ
deriving DecidableEq

inductive DecisionInputs
  | consequence (inputs : ConsequenceInputs)
  | restoration (inputs : RestorationInputs)
deriving DecidableEq

/-- A decision with its evidence, as it is digested. -/
structure Decision where
  accountId : ℕ
  action : FinancialAccessAction
  requestedReason : Option EnforcementReason
  origin : FinancialAccessOrigin
  dunningCaseId : Option ℕ
  eligible : Bool
  outcome : String
  decisionInputs : DecisionInputs
deriving DecidableEq

namespace Decision

def targetSubscriptionIds (preview : Decision) : List ℕ :=
  match preview.decisionInputs with
  | .consequence inputs => inputs.targetSubscriptionIds
  | .restoration inputs => inputs.targetSubscriptionIds

def targetLockIds (preview : Decision) : List ℕ :=
  match preview.decisionInputs with
  | .consequence _ => []
  | .restoration inputs => inputs.targetLockIds

def targetCaseIds (preview : Decision) : List ℕ :=
  match preview.decisionInputs with
  | .consequence _ => []
  | .restoration inputs => inputs.targetCaseIds

def credentialChanges (preview : Decision) : List CredentialChange :=
  match preview.decisionInputs with
  | .consequence inputs => inputs.credentialChanges
  | .restoration inputs => inputs.credentialChanges

def clearPrepaidTimers (preview : Decision) : Bool :=
  match preview.decisionInputs with
  | .consequence _ => false
  | .restoration inputs => inputs.clearPrepaidTimers

end Decision

structure ConsequencePreview extends Decision where
  targetSubscriptionIds : List ℕ
  targetLockIds : List ℕ
  targetCaseIds : List ℕ
  credentialChanges : List CredentialChange
deriving DecidableEq

namespace Decision

def preview (decision : Decision) : ConsequencePreview :=
  ⟨decision, decision.targetSubscriptionIds, decision.targetLockIds, decision.targetCaseIds,
    decision.credentialChanges⟩

def replayed (decision : Decision) : ConsequencePreview :=
  ⟨decision, decision.targetSubscriptionIds, [], [], []⟩

end Decision

/-- The keys that the entry points of the owner make of a fingerprint, and those that are given. -/
inductive AccessKey
  | financialSuspend (accountId : ℕ) (reason : EnforcementReason) (fingerprint : Decision)
  | dunning (caseId : ℕ) (action : FinancialAccessAction) (dayOffset : ℤ)
      (fingerprint : Decision)
  | financialRestore (accountId : ℕ) (origin : FinancialAccessOrigin)
      (fingerprint : Decision)
  | stalePrepaidLocks (accountId : ℕ) (fingerprint : Decision)
  | given (key : String)
deriving DecidableEq

/-- A confirmed decision, with what it did. -/
structure FinancialAccessConsequence where
  id : ℕ
  idempotencyKey : AccessKey
  decision : Decision
  accessMode : Option AccessRestrictionMode
  outcome : String
  subscriptionsChanged : ℕ
  enforcementLockIds : List ℕ
  dunningCaseIds : List ℕ
  accessCredentialIds : List ℕ
deriving DecidableEq

instance : Row FinancialAccessConsequence := ⟨FinancialAccessConsequence.id⟩

structure PrepaidTimers where
  lowBalanceAt : Option ℤ
  deactivationAt : Option ℤ
deriving DecidableEq

/-- The tables of the consequence owner, with the configured throttle profile. -/
structure AccessDb where
  lifecycle : LifecycleDb
  credentials : Table AccessCredential
  radiusProfiles : Table RadiusProfile
  throttleRadiusProfileId : Option ℕ
  cases : Table DunningCase
  timers : ℕ → PrepaidTimers
  consequences : Table FinancialAccessConsequence

end DotmacSub.FinancialAccess
