import DotmacSub.Collections.FinancialAccess
import DotmacSub.Lifecycle.Settled

/-!
# Access consequences that are answered from a record

The entry points make their keys of the fingerprint, and the fingerprint of what was decided by.
When the facts of an earlier decision return, so does its key, and the call answers from the record
of what was done then, although the locks of then may be gone.
-/

namespace DotmacSub.FinancialAccess

open Store Checked Lifecycle Run

/-- A call of an entry point for an account, or a command of the lifecycle by others. -/
inductive AccessCommand
  | suspendAccount (facts : AccountFacts) (accountId : ℕ) (now : ℤ) (reason : EnforcementReason)
      (source : String)
  | executeDunningAction (facts : AccountFacts) (accountId : ℕ) (now : ℤ) (caseId : ℕ)
      (action : FinancialAccessAction) (dayOffset : ℤ) (overdueDays : Option ℤ) (source : String)
  | restoreAccountServices (facts : AccountFacts) (accountId : ℕ) (now : ℤ)
      (origin : FinancialAccessOrigin) (idempotencyKey : Option String)
      (overdueTrigger resolvedBy : String)
  | reconcileStalePrepaidLocks (facts : AccountFacts) (accountId : ℕ) (now : ℤ)
      (resolvedBy : String)
  | administrative (call : Call) (command : Command)

/-- One command, with what it reports. -/
def answer (db : AccessDb) :
    AccessCommand → Except AccessError (AccessDb × Option ConsequenceResult)
  | .suspendAccount facts accountId now reason source => do
    let (db, result) ← suspendAccount db facts accountId now reason source
    return (db, some result)
  | .executeDunningAction facts accountId now caseId action dayOffset overdueDays source => do
    let (db, result) ← executeDunningAction db facts accountId now caseId action dayOffset
      overdueDays source
    return (db, some result)
  | .restoreAccountServices facts accountId now origin idempotencyKey overdueTrigger resolvedBy =>
    restoreAccountServicesDetailed db facts accountId now origin idempotencyKey overdueTrigger
      resolvedBy
  | .reconcileStalePrepaidLocks facts accountId now resolvedBy => do
    let (db, result) ← reconcileStalePrepaidLocks db facts accountId now resolvedBy
    return (db, some result)
  | .administrative call command => do
    let lifecycle ← (step db.lifecycle (call, command)).mapError .lifecycle
    return ({ db with lifecycle }, none)

def accessStep (db : AccessDb) (command : AccessCommand) : Except AccessError AccessDb :=
  Prod.fst <$> answer db command

/-- The targets of a suspension or a rejection are held for its reason, and the locks that a
restoration was about are resolved, whether a service came back with them or not. -/
def ConsequenceResult.InForce (db : AccessDb) (result : ConsequenceResult) : Prop :=
  (result.consequence.outcome = "suspended" ∨ result.consequence.outcome = "rejected" →
    ∀ id ∈ result.preview.targetSubscriptionIds, ∃ lock ∈ db.lifecycle.activeLocks id,
      result.preview.requestedReason = some lock.reason) ∧
  ∀ lockId ∈ result.preview.toDecision.targetLockIds, Settled db.lifecycle lockId

/-- No eligible suspension or rejection is recorded already. -/
def Fresh (db : AccessDb) : AccessCommand → Prop
  | .suspendAccount facts accountId _ reason _ =>
    let origin := if reason = .prepaid then .prepaidEnforcement else .dunning
    let decision := decideConsequence db facts accountId .suspend reason origin none none
    decision.eligible = true → Unrecorded db (.financialSuspend accountId reason decision)
  | .executeDunningAction facts accountId _ caseId action dayOffset overdueDays _ =>
    let decision := decideConsequence db facts accountId action .overdue .dunning (some caseId)
      (some (overdueDays.getD dayOffset))
    action = .suspend ∨ action = .reject → decision.eligible = true →
      Unrecorded db (.dunning caseId action dayOffset decision)
  | _ => True

section Loops

variable {now : ℤ} {reason : EnforcementReason} {source : String}
  {accessMode : AccessRestrictionMode} {overdueTrigger resolvedBy : String}

/-- **The loop over the targets** holds each of them. -/
lemma suspendTargets_held {targets : List ℕ} {progress progress' : SuspendProgress}
    (h : targets.foldlM (suspendTarget now reason source accessMode) progress = .ok progress') :
    (∀ id ∈ targets, Held progress'.lifecycle id reason) ∧
      (∀ id r, Held progress.lifecycle id r → Held progress'.lifecycle id r) ∧
      Settles progress.lifecycle progress'.lifecycle := by
  induction targets generalizing progress with
  | nil =>
    obtain rfl := foldlM_nil_eq_ok.mp h
    exact ⟨nofun, fun _ _ hheld => hheld, .refl⟩
  | cons id targets ih =>
    obtain ⟨turned, hturn, h⟩ := foldlM_cons_eq_ok.mp h
    obtain ⟨suspended, hsuspended, hturn⟩ := bind_eq_ok.mp hturn
    obtain rfl := pure_eq_ok.mp hturn
    have hsuspended := mapError_eq_ok.mp hsuspended
    obtain ⟨hself, hkept⟩ := suspendSubscription_held hsuspended
    obtain ⟨htargets, hlater, hsettles⟩ := ih h
    refine ⟨?_, fun j r hheld => hlater j r (hkept j r hheld),
      (suspendSubscription_settles hsuspended).trans hsettles⟩
    rw [List.forall_mem_cons]
    exact ⟨hlater id reason hself, htargets⟩

lemma restoreLock_settled {progress progress' : RestoreProgress} {lockId : ℕ}
    (h : restoreLock now overdueTrigger resolvedBy progress lockId = .ok progress') :
    Settled progress'.lifecycle lockId ∧ Settles progress.lifecycle progress'.lifecycle := by
  obtain ⟨lock, hlock, h⟩ := bind_eq_ok.mp h
  obtain ⟨hget, -⟩ := Option.filter_eq_some_iff.mp (orRefuse_eq_ok.mp hlock)
  obtain ⟨subscription, -, h⟩ := bind_eq_ok.mp h
  have hturned : ∀ {turned : LifecycleDb}, Settles progress.lifecycle turned →
      (turned.locks.get? lockId).all (!·.isActive) = true →
      Settled turned lockId ∧ Settles progress.lifecycle turned := by
    intro turned hsettles hinactive
    obtain ⟨lock', hget', -⟩ := hsettles lockId lock hget
    rw [hget'] at hinactive
    exact ⟨⟨lock', hget', Bool.not_eq_true' _ ▸ hinactive⟩, hsettles⟩
  dsimp only at h
  split_ifs at h
  · obtain ⟨⟨restored, outcome⟩, hrestored, h⟩ := bind_eq_ok.mp h
    obtain ⟨hinactive, h⟩ := ensure_bind_eq_ok.mp h
    obtain rfl := pure_eq_ok.mp h
    exact hturned (restoreSubscriptionDetailed_settles (mapError_eq_ok.mp hrestored)) hinactive
  · obtain ⟨⟨resolved, count⟩, hresolved, h⟩ := bind_eq_ok.mp h
    obtain ⟨-, h⟩ := ensure_bind_eq_ok.mp h
    obtain ⟨hinactive, h⟩ := ensure_bind_eq_ok.mp h
    obtain rfl := pure_eq_ok.mp h
    exact hturned (resolveStaleLockWithoutRestoration_settles (mapError_eq_ok.mp hresolved))
      hinactive

/-- **The loop over the locks** settles each of them. -/
lemma restoreLocks_settled {lockIds : List ℕ} {progress progress' : RestoreProgress}
    (h : lockIds.foldlM (restoreLock now overdueTrigger resolvedBy) progress = .ok progress') :
    (∀ lockId ∈ lockIds, Settled progress'.lifecycle lockId) ∧
      Settles progress.lifecycle progress'.lifecycle := by
  induction lockIds generalizing progress with
  | nil =>
    obtain rfl := foldlM_nil_eq_ok.mp h
    exact ⟨nofun, .refl⟩
  | cons lockId lockIds ih =>
    obtain ⟨turned, hturn, h⟩ := foldlM_cons_eq_ok.mp h
    obtain ⟨hself, hfirst⟩ := restoreLock_settled hturn
    obtain ⟨hlocks, hsettles⟩ := ih h
    refine ⟨?_, hfirst.trans hsettles⟩
    rw [List.forall_mem_cons]
    exact ⟨hsettles.settled hself, hlocks⟩

end Loops

def reportedOutcomes : List String := ["suspended", "rejected", "throttled", "restored"]

section Outcomes

variable {db : AccessDb} {facts : AccountFacts} {accountId : ℕ} {action : FinancialAccessAction}
  {reason : EnforcementReason} {origin : FinancialAccessOrigin} {dunningCaseId : Option ℕ}
  {overdueDays : Option ℤ} {outcome : String}

lemma financialRefusal_unreported (h : financialRefusal facts reason = some outcome) :
    outcome ∉ reportedOutcomes := by
  unfold financialRefusal at h
  cases reason <;> dsimp only at h <;> split_ifs at h <;> cases h <;> decide

lemma policyRefusal_unreported (h : policyRefusal facts reason overdueDays = some outcome) :
    outcome ∉ reportedOutcomes := by
  unfold policyRefusal at h
  by_cases hshield : facts.shieldReason.any (· ≠ "")
  · rw [if_pos hshield] at h
    cases h
    decide
  · rw [if_neg hshield] at h
    cases hskip : overdueDays.bind (minimumAgeSkip facts) with
    | some skip =>
      rw [hskip] at h
      obtain rfl := Option.some.inj h
      obtain ⟨days, -, hdays⟩ := Option.bind_eq_some_iff.mp hskip
      unfold minimumAgeSkip at hdays
      split_ifs at hdays
      cases hdays
      decide
    | none =>
      rw [hskip] at h
      dsimp only at h
      split_ifs at h
      cases h
      decide

lemma consequenceTargets_unreported
    (h : (consequenceTargets db facts accountId action reason).1 = some outcome) :
    outcome ∉ reportedOutcomes := by
  unfold consequenceTargets at h
  by_cases hthrottle : action = .throttle
  · rw [if_pos hthrottle] at h
    cases hprofile : throttleProfile db with
    | none =>
      rw [hprofile] at h
      cases h
      decide
    | some profile =>
      rw [hprofile] at h
      dsimp only at h
      split_ifs at h <;> cases h <;> decide
  · rw [if_neg hthrottle] at h
    dsimp only at h
    split_ifs at h <;> cases h <;> decide

lemma outcome_decideConsequence : (decideConsequence db facts accountId action reason origin
    dunningCaseId overdueDays).outcome ∉ reportedOutcomes := by
  unfold decideConsequence
  split_ifs
  · exact (by decide : "account_not_found" ∉ reportedOutcomes)
  · exact (by decide : "account_canceled" ∉ reportedOutcomes)
  dsimp only
  split_ifs with hrefusal
  · cases htargets : (consequenceTargets db facts accountId action reason).1 with
    | none =>
      rw [Option.getD_none]
      cases action <;> decide
    | some refusal => exact consequenceTargets_unreported htargets
  · obtain ⟨refusal, hsome⟩ := Option.ne_none_iff_exists'.mp hrefusal
    rw [hsome]
    obtain hfinancial | ⟨-, hpolicy⟩ := Option.or_eq_some_iff.mp hsome
    · exact financialRefusal_unreported hfinancial
    · exact policyRefusal_unreported hpolicy

lemma outcome_decideRestoration :
    (decideRestoration db facts accountId origin).outcome ∉ reportedOutcomes := by
  unfold decideRestoration
  split_ifs
  · exact (by decide : "account_not_found" ∉ reportedOutcomes)
  · exact (by decide : "account_canceled" ∉ reportedOutcomes)
  · dsimp only
    split_ifs <;> decide

lemma action_decideRestoration :
    (decideRestoration db facts accountId origin).action = .restore := by
  unfold decideRestoration
  split_ifs <;> rfl

end Outcomes

/-- What is recorded of a decision was done, and what a restoration resolved is still so. -/
structure Recorded (db : AccessDb) (record : FinancialAccessConsequence) : Prop where
  suspended : record.outcome = "suspended" ↔
    record.decision.eligible = true ∧ record.decision.action = .suspend
  rejected : record.outcome = "rejected" ↔
    record.decision.eligible = true ∧ record.decision.action = .reject
  restored : ∀ lockId ∈ record.decision.targetLockIds, Settled db.lifecycle lockId

def RecordedAll (db : AccessDb) : Prop := ∀ record ∈ db.consequences.rows, Recorded db record

section Records

variable {db db' : AccessDb} {facts : AccountFacts} {accountId : ℕ} {now : ℤ}
  {action : FinancialAccessAction} {reason : EnforcementReason} {origin : FinancialAccessOrigin}
  {fingerprint : Decision} {key : AccessKey} {source : String} {dunningCaseId : Option ℕ}
  {overdueDays : Option ℤ} {result : ConsequenceResult} {overdueTrigger resolvedBy : String}
  {record : FinancialAccessConsequence}

lemma Recorded.settles (h : Recorded db record) (hsettles : Settles db.lifecycle db'.lifecycle) :
    Recorded db' record :=
  ⟨h.suspended, h.rejected, fun lockId hmem => hsettles.settled (h.restored lockId hmem)⟩

lemma RecordedAll.settles (h : RecordedAll db) (hsettles : Settles db.lifecycle db'.lifecycle)
    (hrows : db'.consequences.rows = db.consequences.rows) : RecordedAll db' :=
  fun record hmem => (h record (hrows ▸ hmem)).settles hsettles

lemma RecordedAll.append (h : RecordedAll db) (hsettles : Settles db.lifecycle db'.lifecycle)
    (hrows : db'.consequences.rows = db.consequences.rows ++ [record])
    (hrecord : Recorded db' record) : RecordedAll db' := by
  intro other hmem
  rw [hrows, List.mem_append, List.mem_singleton] at hmem
  obtain hmem | rfl := hmem
  · exact (h other hmem).settles hsettles
  · exact hrecord

lemma Confirmed.locks (h : Confirmed db facts accountId now action reason origin fingerprint key
    source dunningCaseId overdueDays db' result) :
    Settles db.lifecycle db'.lifecycle ∧
      db'.consequences.rows = db.consequences.rows ++ [result.consequence] ∧
      (fingerprint.eligible = true → action ≠ .throttle →
        ∀ id ∈ fingerprint.targetSubscriptionIds, Held db'.lifecycle id reason) := by
  have haction : fingerprint.action = action := by
    rw [h.decision]
    exact action_decideConsequence
  obtain ⟨heffected, -, hrows⟩ := h.effected
  cases heffected with
  | refused heligible hlifecycle =>
    refine ⟨settles_of_eq (by rw [hlifecycle]), hrows, fun hready => ?_⟩
    exact absurd (heligible.symm.trans hready) Bool.false_ne_true
  | throttled _ hthrottle hlifecycle =>
    exact ⟨settles_of_eq (by rw [hlifecycle]), hrows,
      fun _ hne => absurd (haction.symm.trans hthrottle) hne⟩
  | suspended _ _ _ _ hloop hlifecycle =>
    obtain ⟨hheld, -, hsettles⟩ := suspendTargets_held hloop
    rw [hlifecycle]
    exact ⟨hsettles, hrows, fun _ _ => hheld⟩

lemma RestorationConfirmed.locks (h : RestorationConfirmed db facts accountId now origin
    fingerprint key overdueTrigger resolvedBy db' result) :
    Settles db.lifecycle db'.lifecycle ∧
      db'.consequences.rows = db.consequences.rows ++ [result.consequence] ∧
      ∀ lockId ∈ fingerprint.targetLockIds, Settled db'.lifecycle lockId := by
  obtain ⟨⟨⟨progress, hloop, hlifecycle⟩, -, -, -, -⟩, hrows⟩ := h.effected
  obtain ⟨hsettled, hsettles⟩ := restoreLocks_settled hloop
  rw [hlifecycle]
  exact ⟨hsettles, hrows, hsettled⟩

lemma Confirmed.reports (h : Confirmed db facts accountId now action reason origin fingerprint key
    source dunningCaseId overdueDays db' result) :
    (result.consequence.outcome = "suspended" ↔ fingerprint.eligible = true ∧ action = .suspend) ∧
      (result.consequence.outcome = "rejected" ↔
        fingerprint.eligible = true ∧ action = .reject) := by
  have houtcome : fingerprint.preview.outcome ∉ reportedOutcomes := by
    rw [h.decision]
    exact outcome_decideConsequence
  have haction : fingerprint.preview.action = action := by
    rw [h.decision]
    exact action_decideConsequence
  rw [h.outcome, confirmedOutcome, haction,
    show fingerprint.preview.eligible = fingerprint.eligible from rfl]
  generalize fingerprint.preview.outcome = outcome at houtcome ⊢
  simp only [reportedOutcomes, List.mem_cons, List.not_mem_nil, or_false, not_or] at houtcome
  obtain ⟨hsuspended, hrejected, -, -⟩ := houtcome
  cases fingerprint.eligible <;> cases action <;> simp [*]

lemma RestorationConfirmed.reports (h : RestorationConfirmed db facts accountId now origin
    fingerprint key overdueTrigger resolvedBy db' result) :
    result.consequence.outcome ≠ "suspended" ∧ result.consequence.outcome ≠ "rejected" := by
  obtain ⟨_, restored, -, -, -, houtcome⟩ := h.applied
  have hpreview : fingerprint.preview.outcome ∉ reportedOutcomes := by
    rw [h.decision]
    exact outcome_decideRestoration
  rw [houtcome, restorationOutcome]
  split_ifs
  · decide
  · decide
  · simp only [reportedOutcomes, List.mem_cons, List.not_mem_nil, or_false, not_or] at hpreview
    exact ⟨hpreview.1, hpreview.2.1⟩

lemma targetLockIds_decideConsequence : (decideConsequence db facts accountId action reason origin
    dunningCaseId overdueDays).targetLockIds = [] := by
  unfold decideConsequence
  split_ifs <;> rfl

lemma requestedReason_decideConsequence : (decideConsequence db facts accountId action reason origin
    dunningCaseId overdueDays).requestedReason = some reason := by
  unfold decideConsequence
  split_ifs <;> rfl

lemma Eligible.unheld {inputs : ConsequenceInputs}
    (h : Eligible db facts accountId action reason overdueDays inputs) (hne : action ≠ .throttle) :
    ∃ id ∈ inputs.targetSubscriptionIds, ¬Held db.lifecycle id reason := by
  have hready := h.ready
  have htargets := h.targets
  unfold consequenceTargets at hready htargets
  rw [if_neg hne] at hready htargets
  dsimp only at hready htargets
  have hsome : suspensionTargets db facts accountId reason ≠ [] := by
    intro hnil
    rw [if_neg (not_not.mpr hnil)] at hready
    split_ifs at hready
  obtain ⟨id, hid⟩ := List.exists_mem_of_ne_nil _ hsome
  refine ⟨id, htargets ▸ hid, ?_⟩
  rintro ⟨lock, hlock, hreason⟩
  obtain ⟨hrow, hheld⟩ := List.mem_filter.mp hlock
  obtain ⟨hsubscription, hactive⟩ := of_decide_eq_true hheld
  obtain ⟨subscription, hmem, rfl⟩ := List.mem_map.mp hid
  obtain ⟨hrows, hchecked⟩ := List.mem_filter.mp hmem
  obtain ⟨haccount, -, hunlocked, -⟩ := of_decide_eq_true hchecked
  have hmine : subscription.id ∈ db.lifecycle.subscriptionIds accountId :=
    List.mem_map_of_mem (List.mem_filter.mpr ⟨hrows, decide_eq_true haccount⟩)
  refine hunlocked (List.mem_map.mpr ⟨lock, List.mem_filter.mpr ⟨hrow, ?_⟩, hsubscription⟩)
  exact decide_eq_true ⟨hsubscription ▸ hmine, hreason, hactive⟩

lemma reported_iff {outcome : String} {eligible : Bool}
    (hsuspended : outcome = "suspended" ↔ eligible = true ∧ action = .suspend)
    (hrejected : outcome = "rejected" ↔ eligible = true ∧ action = .reject) :
    outcome = "suspended" ∨ outcome = "rejected" ↔
      eligible = true ∧ (action = .suspend ∨ action = .reject) := by
  rw [hsuspended, hrejected, and_or_left]

lemma ne_throttle (h : action = .suspend ∨ action = .reject) : action ≠ .throttle := by
  rintro rfl
  cases h <;> contradiction

/-- **A call that takes access** keeps the records, and its report is in force exactly if it is not
the answer to an eligible suspension or rejection from a record. -/
lemma confirmConsequence_inForce (hrecords : RecordedAll db)
    (h : confirmFinancialAccessConsequence db facts accountId now action reason origin
      (decideConsequence db facts accountId action reason origin dunningCaseId overdueDays) key
      source dunningCaseId overdueDays = .ok (db', result)) (hkey : normalizeKey key = .ok key) :
    RecordedAll db' ∧ (result.InForce db' ↔ (action = .suspend ∨ action = .reject →
      (decideConsequence db facts accountId action reason origin dunningCaseId
        overdueDays).eligible = true → Unrecorded db key)) := by
  have haction : (decideConsequence db facts accountId action reason origin dunningCaseId
    overdueDays).action = action := action_decideConsequence
  have hreason : (decideConsequence db facts accountId action reason origin dunningCaseId
    overdueDays).requestedReason = some reason := requestedReason_decideConsequence
  have hlocks : (decideConsequence db facts accountId action reason origin dunningCaseId
    overdueDays).targetLockIds = [] := targetLockIds_decideConsequence
  obtain ⟨used, hused, ⟨rfl, hreplay⟩ | hconfirmed⟩ := confirmConsequence_cases h
  · obtain rfl : key = used := Except.ok.inj (hkey.symm.trans hused)
    obtain ⟨hsuspended, hrejected, -⟩ := hrecords _ hreplay.recorded
    rw [hreplay.decision, haction] at hsuspended hrejected
    have hreported := reported_iff hsuspended hrejected
    refine ⟨hrecords, fun hforce hkind heligible => ?_, fun hfresh => ⟨fun houtcome => ?_, ?_⟩⟩
    · obtain ⟨inputs, hinputs, hchecked⟩ := eligible_of_decide heligible
      obtain ⟨id, hid, hunheld⟩ := hchecked.unheld (ne_throttle hkind)
      have hmem : id ∈ result.preview.targetSubscriptionIds := by
        rw [hreplay.preview]
        change id ∈ Decision.targetSubscriptionIds _
        rw [Decision.targetSubscriptionIds, hinputs]
        exact hid
      obtain ⟨lock, hlock, hlockReason⟩ := hforce.1 (hreported.mpr ⟨heligible, hkind⟩) id hmem
      rw [hreplay.preview] at hlockReason
      exact absurd ⟨lock, hlock, (Option.mem_unique hreason hlockReason).symm⟩ hunheld
    · obtain ⟨heligible, hkind⟩ := hreported.mp houtcome
      exact absurd hreplay.idempotencyKey (hfresh hkind heligible _ hreplay.recorded)
    · rw [hreplay.preview]
      exact hlocks ▸ fun _ hmem => absurd hmem List.not_mem_nil
  · obtain rfl : key = used := Except.ok.inj (hkey.symm.trans hused)
    obtain ⟨hsettles, hrows, hheld⟩ := hconfirmed.locks
    obtain ⟨hsuspended, hrejected⟩ := hconfirmed.reports
    have hreported := reported_iff hsuspended hrejected
    have hnone : ∀ lockId ∈ Decision.targetLockIds (decideConsequence db facts accountId action
        reason origin dunningCaseId overdueDays), Settled db'.lifecycle lockId :=
      hlocks ▸ fun _ hmem => absurd hmem List.not_mem_nil
    refine ⟨hrecords.append hsettles hrows ⟨?_, ?_, ?_⟩, fun _ _ _ => hconfirmed.unrecorded,
      fun _ => ⟨fun houtcome id hid => ?_, ?_⟩⟩
    · rw [hconfirmed.recorded, haction]
      exact hsuspended
    · rw [hconfirmed.recorded, haction]
      exact hrejected
    · rw [hconfirmed.recorded]
      exact hnone
    · obtain ⟨heligible, hkind⟩ := hreported.mp houtcome
      rw [hconfirmed.preview] at hid ⊢
      obtain ⟨lock, hlock, hlockReason⟩ := hheld heligible (ne_throttle hkind) id hid
      exact ⟨lock, hlock, hlockReason ▸ hreason⟩
    · rw [hconfirmed.preview]
      exact hnone

/-- **A call that gives access back** keeps the records, and its report is in force. -/
lemma confirmRestoration_inForce (hrecords : RecordedAll db)
    (h : confirmFinancialAccessRestoration db facts accountId now origin
      (decideRestoration db facts accountId origin) key overdueTrigger resolvedBy =
        .ok (db', result)) :
    RecordedAll db' ∧ result.InForce db' := by
  have haction : (decideRestoration db facts accountId origin).action = .restore :=
    action_decideRestoration
  obtain ⟨used, -, ⟨rfl, hreplay⟩ | hconfirmed⟩ := confirmRestoration_cases h
  · obtain ⟨hsuspended, hrejected, hrestored⟩ := hrecords _ hreplay.recorded
    rw [hreplay.decision] at hsuspended hrejected hrestored
    rw [haction] at hsuspended hrejected
    refine ⟨hrecords, fun houtcome => ?_, ?_⟩
    · obtain houtcome | houtcome := houtcome
      · exact nomatch (hsuspended.mp houtcome).2
      · exact nomatch (hrejected.mp houtcome).2
    · rw [hreplay.preview]
      exact hrestored
  · obtain ⟨hsettles, hrows, hsettled⟩ := hconfirmed.locks
    obtain ⟨hsuspended, hrejected⟩ := hconfirmed.reports
    refine ⟨hrecords.append hsettles hrows ⟨?_, ?_, ?_⟩,
      fun houtcome => absurd houtcome (not_or.mpr ⟨hsuspended, hrejected⟩), ?_⟩
    · rw [hconfirmed.recorded, haction]
      exact iff_of_false hsuspended fun h => nomatch h.2
    · rw [hconfirmed.recorded, haction]
      exact iff_of_false hrejected fun h => nomatch h.2
    · rw [hconfirmed.recorded]
      exact hsettled
    · rw [hconfirmed.preview]
      exact hsettled

end Records

variable {db db' : AccessDb} {command : AccessCommand} {answered : Option ConsequenceResult}

lemma suspendAccount_inForce {facts : AccountFacts} {accountId : ℕ} {now : ℤ}
    {reason : EnforcementReason} {source : String} {result : ConsequenceResult}
    (hrecords : RecordedAll db)
    (h : suspendAccount db facts accountId now reason source = .ok (db', result)) :
    RecordedAll db' ∧ (Fresh db (.suspendAccount facts accountId now reason source) ↔
      result.InForce db') := by
  unfold suspendAccount at h
  unfold Fresh
  dsimp only [previewFinancialAccessConsequence, Decision.preview] at h ⊢
  obtain ⟨hkept, hiff⟩ := confirmConsequence_inForce hrecords h rfl
  exact ⟨hkept, hiff.trans ⟨fun h => h (.inl rfl), fun h _ => h⟩ |>.symm⟩

lemma executeDunningAction_inForce {facts : AccountFacts} {accountId caseId : ℕ} {now dayOffset : ℤ}
    {action : FinancialAccessAction} {overdueDays : Option ℤ} {source : String}
    {result : ConsequenceResult} (hrecords : RecordedAll db)
    (h : executeDunningAction db facts accountId now caseId action dayOffset overdueDays source =
      .ok (db', result)) :
    RecordedAll db' ∧ (Fresh db (.executeDunningAction facts accountId now caseId action dayOffset
      overdueDays source) ↔ result.InForce db') := by
  unfold executeDunningAction at h
  unfold Fresh
  dsimp only [previewFinancialAccessConsequence, Decision.preview] at h ⊢
  obtain ⟨hkept, hiff⟩ := confirmConsequence_inForce hrecords h rfl
  exact ⟨hkept, hiff.symm⟩

lemma restoreAccountServicesDetailed_cases {facts : AccountFacts} {accountId : ℕ} {now : ℤ}
    {origin : FinancialAccessOrigin} {idempotencyKey : Option String}
    {overdueTrigger resolvedBy : String}
    (h : restoreAccountServicesDetailed db facts accountId now origin idempotencyKey overdueTrigger
      resolvedBy = .ok (db', answered)) :
    db' = db ∧ answered = none ∨ ∃ key result, answered = some result ∧
      (key = .financialRestore accountId origin (decideRestoration db facts accountId origin) ∨
        ∃ text, key = .given text) ∧
      confirmFinancialAccessRestoration db facts accountId now origin
        (decideRestoration db facts accountId origin) key overdueTrigger resolvedBy =
          .ok (db', result) := by
  unfold restoreAccountServicesDetailed at h
  dsimp only at h
  by_cases hmissing :
      (previewFinancialAccessRestoration db facts accountId origin).outcome = "account_not_found"
  · rw [if_pos hmissing] at h
    obtain ⟨rfl, rfl⟩ := mk_eq_ok.mp h
    exact .inl ⟨rfl, rfl⟩
  · rw [if_neg hmissing] at h
    obtain ⟨⟨_, result⟩, hconfirm, h⟩ := bind_eq_ok.mp h
    obtain ⟨rfl, rfl⟩ := mk_eq_ok.mp h
    refine .inr ⟨_, result, rfl, ?_, hconfirm⟩
    split
    · exact .inl rfl
    · exact .inl rfl
    · exact .inr ⟨_, rfl⟩

/-- **Step**: every command keeps the records, and its report is in force exactly if it is fresh. -/
lemma answer_inForce (hrecords : RecordedAll db) (h : answer db command = .ok (db', answered)) :
    RecordedAll db' ∧ (Fresh db command ↔ ∀ result ∈ answered, result.InForce db') := by
  have hsome : ∀ {result : ConsequenceResult}, (∀ r ∈ some result, r.InForce db') ↔
      result.InForce db' := fun {result} =>
    ⟨fun h => h result rfl, fun h _ hr => Option.some.inj hr ▸ h⟩
  have hnone : ∀ r ∈ (none : Option ConsequenceResult), r.InForce db' := fun _ hmem =>
    absurd hmem (Option.not_mem_none _)
  unfold answer at h
  cases command with
  | suspendAccount facts accountId now reason source =>
    dsimp only at h
    obtain ⟨⟨db', result⟩, hconfirm, h⟩ := bind_eq_ok.mp h
    obtain ⟨rfl, rfl⟩ := mk_eq_ok.mp h
    obtain ⟨hkept, hiff⟩ := suspendAccount_inForce hrecords hconfirm
    exact ⟨hkept, hiff.trans hsome.symm⟩
  | executeDunningAction facts accountId now caseId action dayOffset overdueDays source =>
    dsimp only at h
    obtain ⟨⟨db', result⟩, hconfirm, h⟩ := bind_eq_ok.mp h
    obtain ⟨rfl, rfl⟩ := mk_eq_ok.mp h
    obtain ⟨hkept, hiff⟩ := executeDunningAction_inForce hrecords hconfirm
    exact ⟨hkept, hiff.trans hsome.symm⟩
  | restoreAccountServices facts accountId now origin idempotencyKey overdueTrigger resolvedBy =>
    obtain ⟨rfl, rfl⟩ | ⟨_, result, rfl, -, hconfirm⟩ := restoreAccountServicesDetailed_cases h
    · exact ⟨hrecords, iff_of_true trivial hnone⟩
    · obtain ⟨hkept, hforce⟩ := confirmRestoration_inForce hrecords hconfirm
      exact ⟨hkept, iff_of_true trivial (hsome.mpr hforce)⟩
  | reconcileStalePrepaidLocks facts accountId now resolvedBy =>
    dsimp only [reconcileStalePrepaidLocks, previewFinancialAccessRestoration,
      Decision.preview] at h
    obtain ⟨⟨db', result⟩, hconfirm, h⟩ := bind_eq_ok.mp h
    obtain ⟨rfl, rfl⟩ := mk_eq_ok.mp h
    obtain ⟨hkept, hforce⟩ := confirmRestoration_inForce hrecords hconfirm
    exact ⟨hkept, iff_of_true trivial (hsome.mpr hforce)⟩
  | administrative call command =>
    dsimp only at h
    obtain ⟨lifecycle, hstep, h⟩ := bind_eq_ok.mp h
    obtain ⟨rfl, rfl⟩ := mk_eq_ok.mp h
    exact ⟨hrecords.settles (step_settles (mapError_eq_ok.mp hstep)) rfl,
      iff_of_true trivial hnone⟩

/-- **A recorded restoration lasts**: in every history without records at first, a record says
suspended just of an eligible suspension and rejected just of an eligible rejection, and every lock
that a restoration was about is still resolved. -/
theorem recordedAll_run (start : AccessDb) (commands : List AccessCommand) :
    RecordedAll (run accessStep { start with consequences := .empty } commands) := by
  refine invariant_run (fun db c db' hinv hok => ?_) commands ?_
  · obtain ⟨⟨_, answered⟩, hanswer, rfl⟩ := map_eq_ok.mp hok
    exact (answer_inForce hinv hanswer).1
  · exact fun _ hmem => absurd hmem List.not_mem_nil

/-- **What is reported is in force**, in a history that starts without records, exactly if no
eligible suspension or rejection is called for whose decision is recorded under its key. -/
theorem inForce_iff_fresh (start : AccessDb) (commands : List AccessCommand) :
    (∀ before command after, commands = before ++ command :: after → ∀ db' result,
      answer (run accessStep { start with consequences := .empty } before) command =
        .ok (db', some result) → result.InForce db') ↔
      Guarded accessStep Fresh { start with consequences := .empty } commands := by
  have hrecords : ∀ before, RecordedAll
      (run accessStep { start with consequences := .empty } before) := by
    intro before
    refine invariant_run (fun db c db' hinv hok => ?_) before ?_
    · obtain ⟨⟨_, answered⟩, hanswer, rfl⟩ := map_eq_ok.mp hok
      exact (answer_inForce hinv hanswer).1
    · exact fun _ hmem => absurd hmem List.not_mem_nil
  rw [guarded_iff_forall_split]
  constructor
  · rintro h before command after hsplit ⟨_, hok⟩
    obtain ⟨⟨db', answered⟩, hanswer, -⟩ := map_eq_ok.mp hok
    refine (answer_inForce (hrecords before) hanswer).2.mpr fun result hresult => ?_
    obtain rfl : answered = some result := hresult
    exact h before command after hsplit db' result hanswer
  · intro h before command after hsplit db' result hanswer
    have hfresh := h before command after hsplit ⟨db', map_eq_ok.mpr ⟨_, hanswer, rfl⟩⟩
    exact (answer_inForce (hrecords before) hanswer).2.mp hfresh result rfl

def suspendOverdue : AccessCommand :=
  .suspendAccount (postpaidFacts [overdueInvoice]) 0 1 .overdue "dunning"

def restoreByAdmin : AccessCommand :=
  .administrative (.ofClock 2) (.restore 0 "admin" "operator" none none)

/-- After a restoration by an administrator the suspension is answered from its record: it is
reported, and nothing holds the service. -/
theorem suspended_not_inForce : ∃ db' result,
    answer (run accessStep (oneService none) [suspendOverdue, restoreByAdmin]) suspendOverdue =
        .ok (db', some result) ∧ result.consequence.outcome = "suspended" ∧
      result.preview.targetSubscriptionIds = [0] ∧ db'.lifecycle.activeLocks 0 = [] ∧
      ¬result.InForce db' := by
  obtain ⟨⟨db', answered⟩, hanswer, hresult, hnone⟩ : ∃ answered,
      answer (run accessStep (oneService none) [suspendOverdue, restoreByAdmin]) suspendOverdue =
        .ok answered ∧ (answered.2.map fun result => (result.consequence.outcome,
          result.preview.targetSubscriptionIds)) = some ("suspended", [0]) ∧
        answered.1.lifecycle.activeLocks 0 = [] := by
    decide +kernel
  obtain ⟨result, rfl, heq⟩ := Option.map_eq_some_iff.mp hresult
  obtain ⟨houtcome, htargets⟩ := Prod.mk.inj heq
  refine ⟨db', result, hanswer, houtcome, htargets, hnone, fun hforce => ?_⟩
  obtain ⟨lock, hlock, -⟩ := hforce.1 (.inl houtcome) 0 (htargets ▸ List.mem_cons_self)
  rw [hnone] at hlock
  exact absurd hlock List.not_mem_nil

end DotmacSub.FinancialAccess
