import DotmacSub.Collections.AccessReplays

/-!
# The steps of a dunning policy

A run takes the last step that an overdue account has reached, and remembers its offset unless the
outcome is one of a list.  Steps that lie between two runs, steps of one offset and refusals that
are not on the list are passed without effect.
-/

namespace DotmacSub.FinancialAccess

open Store Checked Lifecycle Run

inductive DunningAction
  | notify
  | throttle
  | suspend
  | reject
deriving DecidableEq

def DunningAction.consequence : DunningAction → Option FinancialAccessAction
  | .notify => none
  | .throttle => some .throttle
  | .suspend => some .suspend
  | .reject => some .reject

def DunningAction.strength : DunningAction → ℕ
  | .notify => 0
  | .throttle => 1
  | .suspend => 2
  | .reject => 3

structure PolicyDunningStep where
  dayOffset : ℤ
  action : DunningAction
deriving DecidableEq

/-- What a case was tried with; `replayed` if the consequence owner answered from a record. -/
structure DunningActionLog where
  caseId : ℕ
  action : DunningAction
  stepDay : ℤ
  outcome : String
  replayed : Bool
deriving DecidableEq

def nonAdvancingDunningOutcomes : List String :=
  ["balance_cleared", "shielded", "prepaid_balance_available", "billing_profile_invalid",
    "notice_grace_active", "enforcement_health_blocked"]

structure DunningState where
  access : AccessDb
  logs : List DunningActionLog

/-- A run over an account, with what it reads of other owners: the days that each eligible invoice
is overdue among them. -/
structure DunningAccountRun where
  facts : AccountFacts
  accountId : ℕ
  runAt : ℤ
  overdueDays : List ℤ
  hasCollectiblePostpaidService : Bool
  dryRun : Bool

structure DunningAccountRunResult where
  casesCreated : ℕ
  actionsCreated : ℕ
  skipped : ℕ
  hasEffectiveOverdue : Bool
deriving DecidableEq

/-- The case and the step that a run acts on. -/
structure DunningTurn where
  case : DunningCase
  step : PolicyDunningStep
  maxDays : ℤ
deriving DecidableEq

/-- What a run finds to do, with the case opened. -/
structure DunningPlan where
  access : AccessDb
  result : DunningAccountRunResult
  turn : Option DunningTurn

variable (policy : ℕ → List PolicyDunningStep) (state : DunningState) (run : DunningAccountRun)

def resolveDunningSteps (accountId : ℕ) : List PolicyDunningStep :=
  (policy accountId).insertionSort fun a b => a.dayOffset ≤ b.dayOffset

/-- Nothing is done for an account with overdue invoices. -/
def skipsDunning (maxDays : ℤ) : Bool :=
  !run.facts.profile.automationSafe || run.facts.profile.effectiveMode ≠ some .postpaid ||
    !run.hasCollectiblePostpaidService || run.facts.shielded ||
    resolveDunningSteps policy run.accountId = [] || maxDays ≤ 0

def currentCase (db : AccessDb) (accountId : ℕ) : Option DunningCase :=
  ((db.cases.rows.filter fun case => case.accountId = accountId ∧
    (case.status = .open ∨ case.status = .paused)).insertionSort
      fun a b => b.startedAt ≤ a.startedAt).head?

def openCase (db : AccessDb) (accountId : ℕ) (runAt : ℤ) : AccessDb × DunningCase :=
  ({ db with
      cases := db.cases.insert (fun id => ⟨id, accountId, .open, none, runAt, none⟩) fun _ => rfl },
    ⟨db.cases.next, accountId, .open, none, runAt, none⟩)

def findOrOpenCase (db : AccessDb) (accountId : ℕ) (runAt : ℤ) : (AccessDb × DunningCase) × ℕ :=
  match currentCase db accountId with
  | some case => ((db, case), 0)
  | none => (openCase db accountId runAt, 1)

def reachedStep (steps : List PolicyDunningStep) (maxDays : ℤ) : Option PolicyDunningStep :=
  (steps.filter (·.dayOffset ≤ maxDays)).getLast?

/-- `_run_dunning_account`, up to its action. -/
def planDunningAccount : DunningPlan :=
  let skip := fun hasEffectiveOverdue => ⟨state.access, ⟨0, 0, 1, hasEffectiveOverdue⟩, none⟩
  if (state.access.lifecycle.subscribers.get? run.accountId).isNone then skip false
  else match run.overdueDays.max? with
  | none => skip false
  | some maxDays =>
    if skipsDunning policy run maxDays then skip true
    else
      let ((access, case), casesCreated) := findOrOpenCase state.access run.accountId run.runAt
      if case.status = .paused then ⟨access, ⟨casesCreated, 0, 1, true⟩, none⟩
      else match reachedStep (resolveDunningSteps policy run.accountId) maxDays with
      | none => ⟨access, ⟨casesCreated, 0, 0, true⟩, none⟩
      | some step =>
        if case.currentStep.any (step.dayOffset ≤ ·) then
          ⟨access, ⟨casesCreated, 0, 0, true⟩, none⟩
        else ⟨access, ⟨casesCreated, 1, 0, true⟩, some ⟨case, step, maxDays⟩⟩

/-- `_execute_dunning_action_with_evidence`: the outcome, and whether it comes from a record. -/
def executeDunningTurn (db : AccessDb) (facts : AccountFacts) (now : ℤ) (turn : DunningTurn) :
    Except AccessError (AccessDb × String × Bool) :=
  match turn.step.action.consequence with
  | none => return (db, if facts.shielded then "shielded" else "notification_sent", false)
  | some action => do
    let (acted, result) ← executeDunningAction db facts turn.case.accountId now turn.case.id action
      turn.step.dayOffset (some turn.maxDays) ("dunning_case:" ++ toString turn.case.id)
    return (acted, result.consequence.outcome, result.idempotentReplay)

def AccessDb.advanceCase (db : AccessDb) (caseId : ℕ) (dayOffset : ℤ) : AccessDb :=
  { db with
    cases := db.cases.update caseId (fun case => { case with currentStep := some dayOffset })
      fun _ => rfl }

def runDunningAccount : Except AccessError (DunningState × DunningAccountRunResult) :=
  let plan := planDunningAccount policy state run
  if run.dryRun then return (state, plan.result)
  else match plan.turn with
  | none => return (⟨plan.access, state.logs⟩, plan.result)
  | some turn => do
    let (acted, outcome, replayed) ← executeDunningTurn plan.access run.facts run.runAt turn
    let advanced := if outcome ∈ nonAdvancingDunningOutcomes then acted
      else acted.advanceCase turn.case.id turn.step.dayOffset
    return (⟨advanced, state.logs ++
      [⟨turn.case.id, turn.step.action, turn.step.dayOffset, outcome, replayed⟩]⟩, plan.result)

def AccessCommand.isDunning : AccessCommand → Bool
  | .executeDunningAction .. => true
  | _ => false

inductive DunningCommand
  | run (run : DunningAccountRun)
  | elsewhere (command : AccessCommand) (h : command.isDunning = false)

def dunningStep (state : DunningState) : DunningCommand → Except AccessError DunningState
  | .run run => Prod.fst <$> runDunningAccount policy state run
  | .elsewhere command _ => do
    let (access, _) ← answer state.access command
    return { state with access }

/-- The outcomes of consequences that took effect. -/
def effectiveOutcomes : List String := ["throttled", "suspended", "rejected"]

def DunningActionLog.TookEffect (log : DunningActionLog) : Prop :=
  log.outcome ∈ effectiveOutcomes ∧ log.replayed = false

/-- A step makes another one unnecessary: it is the same, or stronger and not before it. -/
def Serves (action : DunningAction) (stepDay : ℤ) (step : PolicyDunningStep) : Prop :=
  action = step.action ∧ stepDay = step.dayOffset ∨
    step.action.strength < action.strength ∧ step.dayOffset ≤ stepDay

/-- **No step is lost**: every enforcing step that an open case has passed took effect during the
case, or a stronger one after it did. -/
def NoStepLost (state : DunningState) : Prop :=
  ∀ case ∈ state.access.cases.rows, case.status = .open → ∀ reached,
    case.currentStep = some reached → ∀ step ∈ policy case.accountId, step.action ≠ .notify →
      step.dayOffset ≤ reached → ∃ log ∈ state.logs, log.caseId = case.id ∧ log.TookEffect ∧
        Serves log.action log.stepDay step

def previewedOutcome (db : AccessDb) (facts : AccountFacts) (turn : DunningTurn) : String :=
  match turn.step.action.consequence with
  | none => if facts.shielded then "shielded" else "notification_sent"
  | some action => confirmedOutcome (previewFinancialAccessConsequence db facts turn.case.accountId
      action .overdue .dunning (some turn.case.id) (some turn.maxDays))

/-- The condition on a command: a run that leaves steps behind has previewed an effect, of the only
or the strongest of them. -/
def Keeps (state : DunningState) : DunningCommand → Prop
  | .run run => run.dryRun = false → ∀ turn ∈ (planDunningAccount policy state run).turn,
      let outcome := previewedOutcome (planDunningAccount policy state run).access run.facts turn
      outcome ∉ nonAdvancingDunningOutcomes → ∀ step ∈ policy run.accountId,
        step.action ≠ .notify → (∀ current ∈ turn.case.currentStep, current < step.dayOffset) →
          step.dayOffset ≤ turn.step.dayOffset →
            outcome ∈ effectiveOutcomes ∧ Serves turn.step.action turn.step.dayOffset step
  | .elsewhere _ _ => True

section Cases

variable {db db' db'' : AccessDb} {facts : AccountFacts} {accountId : ℕ} {runAt now : ℤ}

/-- The cases of before are there with the step that they remember, and an open case that remembers
one was open before. -/
structure CasesKept (db db' : AccessDb) : Prop where
  kept : ∀ id case, db.cases.get? id = some case →
    ∃ case', db'.cases.get? id = some case' ∧ case'.currentStep = case.currentStep
  before : ∀ case' ∈ db'.cases.rows, case'.status = .open → case'.currentStep ≠ none →
    ∃ case ∈ db.cases.rows, case.id = case'.id ∧ case.accountId = case'.accountId ∧
      case.currentStep = case'.currentStep ∧ case.status = .open

lemma CasesKept.refl : CasesKept db db :=
  ⟨fun _ case hget => ⟨case, hget, rfl⟩, fun case hmem hopen _ => ⟨case, hmem, rfl, rfl, rfl,
      hopen⟩⟩

lemma casesKept_of_eq (h : db'.cases = db.cases) : CasesKept db db' :=
  ⟨fun _ case hget => ⟨case, h ▸ hget, rfl⟩,
    fun case hmem hopen _ => ⟨case, h ▸ hmem, rfl, rfl, rfl, hopen⟩⟩

lemma CasesKept.trans (h : CasesKept db db') (h' : CasesKept db' db'') : CasesKept db db'' := by
  constructor
  · intro id case hget
    obtain ⟨case', hget', hstep⟩ := h.kept id case hget
    obtain ⟨case'', hget'', hstep'⟩ := h'.kept id case' hget'
    exact ⟨case'', hget'', hstep'.trans hstep⟩
  · intro case'' hmem hopen hsome
    obtain ⟨case', hmem', hid', haccount', hstep', hopen'⟩ := h'.before case'' hmem hopen hsome
    obtain ⟨case, hrow, hid, haccount, hstep, hopen⟩ :=
      h.before case' hmem' hopen' (hstep' ▸ hsome)
    exact ⟨case, hrow, hid.trans hid', haccount.trans haccount', hstep.trans hstep', hopen⟩

lemma casesKept_openCase : CasesKept db (openCase db accountId runAt).1 := by
  constructor
  · intro id case hget
    exact ⟨case, Table.get?_insert_of_some (h := fun _ => rfl) hget, rfl⟩
  · intro case' hmem hopen hsome
    obtain hmem | rfl := (Table.mem_insert (h := fun _ => rfl)).mp hmem
    · exact ⟨case', hmem, rfl, rfl, rfl, hopen⟩
    · exact absurd rfl hsome

lemma casesKept_resolveCase {cases : Table DunningCase} {caseId : ℕ}
    (h : resolveCase now db.cases caseId = .ok cases) : CasesKept db { db with cases } := by
  obtain ⟨_, -, h⟩ := bind_eq_ok.mp h
  obtain rfl := pure_eq_ok.mp h
  constructor
  · intro id case hget
    by_cases hid : id = caseId
    · subst hid
      exact ⟨_, Table.get?_update_self (g := fun case : DunningCase =>
        { case with status := .resolved, resolvedAt := some now }) (h := fun _ => rfl) hget, rfl⟩
    · exact ⟨case, (Table.get?_update_ne (g := fun case : DunningCase =>
        { case with status := .resolved, resolvedAt := some now }) (h := fun _ => rfl) hid).trans
          hget, rfl⟩
  · intro case' hmem hopen _
    obtain ⟨hmem, -⟩ | ⟨case, -, -, rfl⟩ := (Table.mem_update (g := fun case : DunningCase =>
        { case with status := .resolved, resolvedAt := some now }) (h := fun _ => rfl)).mp hmem
    · exact ⟨case', hmem, rfl, rfl, rfl, hopen⟩
    · cases hopen

lemma casesKept_resolveCases {cases : Table DunningCase} {caseIds : List ℕ}
    (h : caseIds.foldlM (resolveCase now) db.cases = .ok cases) :
    CasesKept db { db with cases } := by
  refine foldlM_keeps (p := fun cases => CasesKept db { db with cases })
    (fun cases caseId _ cases' hturn hkept => hkept.trans ?_) .refl h
  exact @casesKept_resolveCase { db with cases } now _ caseId hturn

lemma findOrOpenCase_spec :
    CasesKept db (findOrOpenCase db accountId runAt).1.1 ∧
      (findOrOpenCase db accountId runAt).1.1.consequences = db.consequences ∧
      (findOrOpenCase db accountId runAt).1.1.cases.get? (findOrOpenCase db accountId runAt).1.2.id
        = some (findOrOpenCase db accountId runAt).1.2 ∧
      (findOrOpenCase db accountId runAt).1.2.accountId = accountId ∧
      ((findOrOpenCase db accountId runAt).1.2.status = .open ∨
        (findOrOpenCase db accountId runAt).1.2.status = .paused) := by
  unfold findOrOpenCase
  cases hfind : currentCase db accountId with
  | some case =>
    have hmem := List.mem_of_mem_head? hfind
    rw [List.mem_insertionSort] at hmem
    obtain ⟨hrow, hchecked⟩ := List.mem_filter.mp hmem
    obtain ⟨haccount, hstatus⟩ := of_decide_eq_true hchecked
    exact ⟨.refl, rfl, Table.get?_eq_some.mpr ⟨hrow, rfl⟩, haccount, hstatus⟩
  | none =>
    exact ⟨casesKept_openCase, rfl, Table.get?_insert_self (h := fun _ => rfl), rfl, .inl rfl⟩

end Cases

section Plans

variable {policy : ℕ → List PolicyDunningStep} {state : DunningState} {run : DunningAccountRun}
  {turn : DunningTurn}

/-- A turn acts on an open case, with a step of its policy that it has not passed. -/
structure DunningTurn.Ready (policy : ℕ → List PolicyDunningStep) (db : AccessDb)
    (facts : AccountFacts) (accountId : ℕ) (turn : DunningTurn) : Prop where
  found : db.cases.get? turn.case.id = some turn.case
  account : turn.case.accountId = accountId
  isOpen : turn.case.status = .open
  step : turn.step ∈ policy accountId
  unpassed : ∀ current ∈ turn.case.currentStep, current < turn.step.dayOffset
  unshielded : facts.shielded = false

lemma mem_of_reachedStep {accountId : ℕ} {maxDays : ℤ} {step : PolicyDunningStep}
    (h : reachedStep (resolveDunningSteps policy accountId) maxDays = some step) :
    step ∈ policy accountId := by
  have hmem := (List.mem_filter.mp (List.mem_of_getLast? h)).1
  rwa [resolveDunningSteps, List.mem_insertionSort] at hmem

/-- **What a run plans**: a case may be opened, and a turn is ready. -/
lemma planDunningAccount_spec :
    CasesKept state.access (planDunningAccount policy state run).access ∧
      (planDunningAccount policy state run).access.consequences = state.access.consequences ∧
      ∀ turn ∈ (planDunningAccount policy state run).turn,
        turn.Ready policy (planDunningAccount policy state run).access run.facts run.accountId := by
  unfold planDunningAccount
  dsimp only
  by_cases hmissing : (state.access.lifecycle.subscribers.get? run.accountId).isNone = true
  · rw [if_pos hmissing]
    exact ⟨.refl, rfl, fun _ h => nomatch h⟩
  rw [if_neg hmissing]
  cases run.overdueDays.max? with
  | none => exact ⟨.refl, rfl, fun _ h => nomatch h⟩
  | some maxDays =>
    dsimp only
    by_cases hskip : skipsDunning policy run maxDays = true
    · rw [if_pos hskip]
      exact ⟨.refl, rfl, fun _ h => nomatch h⟩
    rw [if_neg hskip]
    obtain ⟨hkept, hsame, hfound, haccount, hstatus⟩ :=
      @findOrOpenCase_spec state.access run.accountId run.runAt
    generalize findOrOpenCase state.access run.accountId run.runAt = found at *
    obtain ⟨⟨access, case⟩, created⟩ := found
    dsimp only at *
    by_cases hpaused : case.status = .paused
    · rw [if_pos hpaused]
      exact ⟨hkept, hsame, fun _ h => nomatch h⟩
    rw [if_neg hpaused]
    cases hreached : reachedStep (resolveDunningSteps policy run.accountId) maxDays with
    | none => exact ⟨hkept, hsame, fun _ h => nomatch h⟩
    | some step =>
      dsimp only
      by_cases hpassed : case.currentStep.any (step.dayOffset ≤ ·) = true
      · rw [if_pos hpassed]
        exact ⟨hkept, hsame, fun _ h => nomatch h⟩
      rw [if_neg hpassed]
      refine ⟨hkept, hsame, fun turn hturn => ?_⟩
      obtain rfl := Option.some.inj hturn
      refine ⟨hfound, haccount, hstatus.resolve_right hpaused, mem_of_reachedStep hreached, ?_, ?_⟩
      · intro current hcurrent
        by_contra hle
        rw [Option.mem_def.mp hcurrent] at hpassed
        exact hpassed (decide_eq_true (not_lt.mp hle))
      · simp only [skipsDunning, Bool.or_eq_true, not_or] at hskip
        exact Bool.eq_false_iff.mpr hskip.1.1.2

end Plans

/-- A record says what its decision was confirmed as. -/
def FinancialAccessConsequence.Faithful (record : FinancialAccessConsequence) : Prop :=
  record.decision.action ≠ .restore → record.outcome = confirmedOutcome record.decision.preview

section Recording

variable {db db' : AccessDb} {facts : AccountFacts} {accountId : ℕ} {now : ℤ}
  {action : FinancialAccessAction} {reason : EnforcementReason} {origin : FinancialAccessOrigin}
  {fingerprint : Decision} {key : AccessKey} {source : String} {dunningCaseId : Option ℕ}
  {overdueDays : Option ℤ} {result : ConsequenceResult} {overdueTrigger resolvedBy : String}

lemma RestorationConfirmed.cases (h : RestorationConfirmed db facts accountId now origin
    fingerprint key overdueTrigger resolvedBy db' result) : CasesKept db db' := by
  obtain ⟨⟨-, hloop, -, -, -⟩, -⟩ := h.effected
  exact (casesKept_resolveCases hloop).trans (casesKept_of_eq rfl)

/-- The records of before, with one more perhaps that satisfies a condition. -/
def RecordsKept (p : FinancialAccessConsequence → Prop) (db db' : AccessDb) : Prop :=
  ∀ record ∈ db'.consequences.rows, record ∈ db.consequences.rows ∨ p record

lemma recordsKept_of_rows {p : FinancialAccessConsequence → Prop}
    {record : FinancialAccessConsequence}
    (hrows : db'.consequences.rows = db.consequences.rows ++ [record]) (h : p record) :
    RecordsKept p db db' := by
  intro other hmem
  rw [hrows, List.mem_append, List.mem_singleton] at hmem
  obtain hmem | rfl := hmem
  · exact .inl hmem
  · exact .inr h

/-- What a call that takes access leaves of the cases and the records, and what it returns. -/
lemma confirmConsequence_records (hfaithful : ∀ record ∈ db.consequences.rows, record.Faithful)
    (h : confirmFinancialAccessConsequence db facts accountId now action reason origin
      (decideConsequence db facts accountId action reason origin dunningCaseId overdueDays) key
      source dunningCaseId overdueDays = .ok (db', result)) (hne : action ≠ .restore)
    (hnormal : normalizeKey key = .ok key) :
    db'.cases = db.cases ∧
      RecordsKept (fun record => record.Faithful ∧ record.idempotencyKey = key ∧ record.decision =
        decideConsequence db facts accountId action reason origin dunningCaseId overdueDays)
        db db' ∧
      result.consequence.outcome = confirmedOutcome (decideConsequence db facts accountId action
        reason origin dunningCaseId overdueDays).preview ∧
      ((∀ record ∈ db.consequences.rows, record.idempotencyKey = key → record.decision ≠
        decideConsequence db facts accountId action reason origin dunningCaseId overdueDays) →
          result.idempotentReplay = false) := by
  have haction : (decideConsequence db facts accountId action reason origin dunningCaseId
    overdueDays).action = action := action_decideConsequence
  obtain ⟨used, hused, ⟨rfl, hreplay⟩ | hconfirmed⟩ := confirmConsequence_cases h
  · obtain rfl : key = used := Except.ok.inj (hnormal.symm.trans hused)
    refine ⟨rfl, fun record hmem => .inl hmem, ?_, fun hfree => ?_⟩
    · have hsame := hfaithful _ hreplay.recorded
      unfold FinancialAccessConsequence.Faithful at hsame
      rw [hreplay.decision, haction] at hsame
      exact hsame hne
    · exact absurd hreplay.decision (hfree _ hreplay.recorded hreplay.idempotencyKey)
  · obtain rfl : key = used := Except.ok.inj (hnormal.symm.trans hused)
    obtain ⟨-, hrows, -⟩ := hconfirmed.locks
    obtain ⟨-, hkept, -⟩ := hconfirmed.effected
    refine ⟨hkept.cases, recordsKept_of_rows hrows ⟨fun _ => ?_, hconfirmed.idempotencyKey,
      hconfirmed.recorded⟩, hconfirmed.outcome, fun _ => hconfirmed.replay⟩
    rw [hconfirmed.recorded]
    exact hconfirmed.outcome

/-- What a call that gives access back leaves of the cases and the records. -/
lemma confirmRestoration_records
    (h : confirmFinancialAccessRestoration db facts accountId now origin
      (decideRestoration db facts accountId origin) key overdueTrigger resolvedBy =
        .ok (db', result)) :
    CasesKept db db' ∧ RecordsKept (fun record => record.Faithful ∧
      normalizeKey key = .ok record.idempotencyKey) db db' := by
  obtain ⟨used, hused, ⟨rfl, -⟩ | hconfirmed⟩ := confirmRestoration_cases h
  · exact ⟨.refl, fun record hmem => .inl hmem⟩
  · obtain ⟨-, hrows, -⟩ := hconfirmed.locks
    refine ⟨hconfirmed.cases, recordsKept_of_rows hrows ⟨fun hne => ?_, ?_⟩⟩
    · rw [hconfirmed.recorded] at hne
      exact absurd action_decideRestoration hne
    · rw [hconfirmed.idempotencyKey]
      exact hused

end Recording

def Passed (db : AccessDb) (caseId : ℕ) (dayOffset : ℤ) : Prop :=
  ∃ case reached, db.cases.get? caseId = some case ∧ case.currentStep = some reached ∧
    dayOffset ≤ reached

/-- Records are faithful, and what took effect was passed. -/
structure DunningBase (db : AccessDb) (logs : List DunningActionLog) : Prop where
  faithful : ∀ record ∈ db.consequences.rows, record.Faithful
  keys : ∀ record ∈ db.consequences.rows, ∀ caseId action dayOffset decision,
    record.idempotencyKey = .dunning caseId action dayOffset decision →
      record.decision.eligible = true → Passed db caseId dayOffset
  logs : ∀ log ∈ logs, log.TookEffect → Passed db log.caseId log.stepDay

section Histories

variable {policy : ℕ → List PolicyDunningStep} {state state' : DunningState}
  {run : DunningAccountRun} {turn : DunningTurn} {db db' acted : AccessDb}
  {logs : List DunningActionLog} {facts : AccountFacts} {now : ℤ} {accountId : ℕ}
  {outcome : String} {replayed : Bool}

lemma CasesKept.passed {caseId : ℕ} {dayOffset : ℤ} (h : CasesKept db db')
    (hpassed : Passed db caseId dayOffset) : Passed db' caseId dayOffset := by
  obtain ⟨case, reached, hget, hstep, hle⟩ := hpassed
  obtain ⟨case', hget', hstep'⟩ := h.kept caseId case hget
  exact ⟨case', reached, hget', hstep'.trans hstep, hle⟩

lemma DunningBase.elsewhere (h : DunningBase db logs) (hcases : CasesKept db db')
    (hrecords : RecordsKept (fun record => record.Faithful ∧
      ∀ caseId action dayOffset decision,
        record.idempotencyKey ≠ .dunning caseId action dayOffset decision) db db') :
    DunningBase db' logs := by
  refine ⟨fun record hmem => ?_, fun record hmem caseId action dayOffset decision hkey heligible =>
    ?_, fun log hmem heffect => hcases.passed (h.logs log hmem heffect)⟩
  · exact (hrecords record hmem).elim (h.faithful record) And.left
  · obtain hold | ⟨-, hnew⟩ := hrecords record hmem
    · exact hcases.passed (h.keys record hold caseId action dayOffset decision hkey heligible)
    · exact absurd hkey (hnew caseId action dayOffset decision)

lemma NoStepLost.elsewhere (h : NoStepLost policy ⟨db, logs⟩) (hcases : CasesKept db db') :
    NoStepLost policy ⟨db', logs⟩ := by
  intro case' hmem hopen reached hreached step hstep henforcing hle
  obtain ⟨case, hrow, hid, haccount, hcurrent, hopen⟩ :=
    hcases.before case' hmem hopen (hreached ▸ Option.some_ne_none reached)
  obtain ⟨log, hlog, hcase, hserves⟩ := h case hrow hopen reached (hcurrent.trans hreached) step
    (haccount ▸ hstep) henforcing hle
  exact ⟨log, hlog, hcase.trans hid, hserves⟩

lemma normalizeKey_given {text : String} {used : AccessKey}
    (h : normalizeKey (.given text) = .ok used) : ∃ stripped, used = .given stripped := by
  obtain ⟨-, h⟩ := ensure_bind_eq_ok.mp h
  exact ⟨_, (pure_eq_ok.mp h).symm⟩

/-- A call that gives access back keeps the base. -/
lemma DunningBase.restored {origin : FinancialAccessOrigin} {key : AccessKey}
    {overdueTrigger resolvedBy : String} {result : ConsequenceResult} (hbase : DunningBase db logs)
    (hconfirm : confirmFinancialAccessRestoration db facts accountId now origin
      (decideRestoration db facts accountId origin) key overdueTrigger resolvedBy =
        .ok (db', result))
    (hkey : ∀ caseId action dayOffset decision,
      normalizeKey key ≠ .ok (.dunning caseId action dayOffset decision)) :
    DunningBase db' logs ∧ CasesKept db db' := by
  obtain ⟨hcases, hrecords⟩ := confirmRestoration_records hconfirm
  refine ⟨hbase.elsewhere hcases fun record hmem => ?_, hcases⟩
  refine (hrecords record hmem).imp_right fun ⟨hfaithful, hused⟩ => ⟨hfaithful, ?_⟩
  intro caseId action dayOffset decision hdunning
  exact hkey caseId action dayOffset decision (hdunning ▸ hused)

lemma answer_base {command : AccessCommand} {answered : Option ConsequenceResult}
    (hbase : DunningBase db logs) (hother : command.isDunning = false)
    (h : answer db command = .ok (db', answered)) : DunningBase db' logs ∧ CasesKept db db' := by
  unfold answer at h
  cases command with
  | suspendAccount facts accountId now reason source =>
    dsimp only at h
    obtain ⟨⟨_, result⟩, hconfirm, h⟩ := bind_eq_ok.mp h
    obtain ⟨rfl, -⟩ := mk_eq_ok.mp h
    unfold suspendAccount at hconfirm
    dsimp only [previewFinancialAccessConsequence, Decision.preview] at hconfirm
    obtain ⟨hcases, hrecords, -⟩ := confirmConsequence_records hbase.faithful hconfirm nofun rfl
    refine ⟨hbase.elsewhere (casesKept_of_eq hcases) fun record hmem => ?_, casesKept_of_eq hcases⟩
    refine (hrecords record hmem).imp_right fun ⟨hfaithful, hkey, _⟩ => ⟨hfaithful, ?_⟩
    intro caseId action dayOffset decision hdunning
    cases hkey.symm.trans hdunning
  | executeDunningAction => cases hother
  | restoreAccountServices facts accountId now origin idempotencyKey overdueTrigger resolvedBy =>
    obtain ⟨rfl, -⟩ | ⟨key, result, -, hkey, hconfirm⟩ := restoreAccountServicesDetailed_cases h
    · exact ⟨hbase, .refl⟩
    · refine hbase.restored hconfirm fun caseId action dayOffset decision hused => ?_
      obtain rfl | ⟨text, rfl⟩ := hkey
      · cases hused
      · obtain ⟨_, hgiven⟩ := normalizeKey_given hused
        cases hgiven
  | reconcileStalePrepaidLocks facts accountId now resolvedBy =>
    dsimp only [reconcileStalePrepaidLocks, previewFinancialAccessRestoration,
      Decision.preview] at h
    obtain ⟨⟨_, result⟩, hconfirm, h⟩ := bind_eq_ok.mp h
    obtain ⟨rfl, -⟩ := mk_eq_ok.mp h
    exact hbase.restored hconfirm fun _ _ _ _ hused => AccessKey.noConfusion (Except.ok.inj hused)
  | administrative call command =>
    dsimp only at h
    obtain ⟨lifecycle, hstep, h⟩ := bind_eq_ok.mp h
    obtain ⟨rfl, -⟩ := mk_eq_ok.mp h
    exact ⟨hbase.elsewhere (casesKept_of_eq rfl) fun record hmem => .inl hmem, casesKept_of_eq rfl⟩

/-- The outcome of a turn that takes effect is that of an eligible decision. -/
lemma effective_iff {action : FinancialAccessAction} {origin : FinancialAccessOrigin}
    {reason : EnforcementReason} {dunningCaseId : Option ℕ} {overdueDays : Option ℤ}
    (hne : action ≠ .restore) :
    confirmedOutcome (decideConsequence db facts accountId action reason origin dunningCaseId
        overdueDays).preview ∈ effectiveOutcomes ↔
      (decideConsequence db facts accountId action reason origin dunningCaseId
        overdueDays).eligible = true := by
  have haction : (decideConsequence db facts accountId action reason origin dunningCaseId
    overdueDays).action = action := action_decideConsequence
  have houtcome : (decideConsequence db facts accountId action reason origin dunningCaseId
    overdueDays).outcome ∉ reportedOutcomes := outcome_decideConsequence
  generalize decideConsequence db facts accountId action reason origin dunningCaseId overdueDays =
    decision at haction houtcome ⊢
  rw [confirmedOutcome, show decision.preview.eligible = decision.eligible from rfl,
    show decision.preview.action = decision.action from rfl, haction,
    show decision.preview.outcome = decision.outcome from rfl]
  simp only [reportedOutcomes, List.mem_cons, List.not_mem_nil, or_false, not_or] at houtcome
  obtain ⟨hsuspended, hrejected, hthrottled, -⟩ := houtcome
  cases decision.eligible <;> cases action <;> simp_all [effectiveOutcomes]

lemma executeDunningTurn_spec (hbase : DunningBase db logs)
    (hready : turn.Ready policy db facts accountId)
    (h : executeDunningTurn db facts now turn = .ok (acted, outcome, replayed)) :
    acted.cases = db.cases ∧ outcome = previewedOutcome db facts turn ∧
      (outcome ∈ effectiveOutcomes → replayed = false) ∧
      RecordsKept (fun record => record.Faithful ∧
        ∀ caseId action dayOffset decision,
          record.idempotencyKey = .dunning caseId action dayOffset decision →
            record.decision.eligible = true → caseId = turn.case.id ∧
              dayOffset = turn.step.dayOffset ∧ outcome ∈ effectiveOutcomes) db acted := by
  unfold executeDunningTurn at h
  unfold previewedOutcome
  cases hconsequence : turn.step.action.consequence with
  | none =>
    rw [hconsequence] at h
    obtain ⟨rfl, hanswer⟩ := mk_eq_ok.mp h
    obtain ⟨rfl, rfl⟩ := Prod.mk.inj hanswer
    exact ⟨rfl, rfl, fun _ => rfl, fun record hmem => .inl hmem⟩
  | some action =>
    rw [hconsequence] at h
    dsimp only at h ⊢
    have hne : action ≠ .restore := by
      rintro rfl
      cases hstep : turn.step.action <;> rw [hstep] at hconsequence <;> cases hconsequence
    obtain ⟨⟨db', result⟩, hconfirm, h⟩ := bind_eq_ok.mp h
    obtain ⟨rfl, hanswer⟩ := mk_eq_ok.mp h
    obtain ⟨rfl, rfl⟩ := Prod.mk.inj hanswer
    unfold executeDunningAction at hconfirm
    dsimp only [previewFinancialAccessConsequence, Decision.preview, Option.getD_some] at hconfirm ⊢
    obtain ⟨hcases, hrecords, houtcome, hnew⟩ :=
      confirmConsequence_records hbase.faithful hconfirm hne rfl
    have heffective : result.consequence.outcome ∈ effectiveOutcomes ↔ _ :=
      houtcome ▸ effective_iff hne
    refine ⟨hcases, houtcome, fun heffect => hnew fun record hmem hkey hsame => ?_,
      fun record hmem => ?_⟩
    · have heligible : record.decision.eligible = true := hsame ▸ heffective.mp heffect
      obtain ⟨case, reached, hget, hcurrent, hle⟩ :=
        hbase.keys record hmem _ _ _ _ hkey heligible
      obtain rfl := Option.mem_unique hready.found hget
      exact absurd (hready.unpassed reached hcurrent) (not_lt.mpr hle)
    · refine (hrecords record hmem).imp_right fun ⟨hfaithful, hkey, hdecision⟩ => ⟨hfaithful, ?_⟩
      intro caseId action' dayOffset decision hdunning heligible
      obtain ⟨hcase, -, hoffset, -⟩ := AccessKey.dunning.inj (hdunning.symm.trans hkey)
      exact ⟨hcase, hoffset, heffective.mpr (hdecision ▸ heligible)⟩

def DunningTurn.advanced (turn : DunningTurn) : DunningCase :=
  { turn.case with currentStep := some turn.step.dayOffset }

lemma passed_advanceCase {caseId : ℕ} {dayOffset : ℤ}
    (hready : turn.Ready policy db facts accountId) (h : Passed db caseId dayOffset) :
    Passed (db.advanceCase turn.case.id turn.step.dayOffset) caseId dayOffset := by
  obtain ⟨case, reached, hget, hcurrent, hle⟩ := h
  by_cases hid : caseId = turn.case.id
  · subst hid
    obtain rfl := Option.mem_unique hready.found hget
    refine ⟨_, turn.step.dayOffset, Table.get?_update_self (g := fun case : DunningCase =>
      { case with currentStep := some turn.step.dayOffset }) (h := fun _ => rfl) hget, rfl, ?_⟩
    exact hle.trans (hready.unpassed reached hcurrent).le
  · exact ⟨case, reached, (Table.get?_update_ne (g := fun case : DunningCase =>
      { case with currentStep := some turn.step.dayOffset }) (h := fun _ => rfl) hid).trans hget,
        hcurrent, hle⟩

lemma passed_turn (hready : turn.Ready policy db facts accountId) :
    Passed (db.advanceCase turn.case.id turn.step.dayOffset) turn.case.id turn.step.dayOffset :=
  ⟨_, turn.step.dayOffset, Table.get?_update_self (g := fun case : DunningCase =>
    { case with currentStep := some turn.step.dayOffset }) (h := fun _ => rfl) hready.found, rfl,
      le_rfl⟩

lemma mem_advanceCase (hready : turn.Ready policy db facts accountId) {case : DunningCase} :
    case ∈ (db.advanceCase turn.case.id turn.step.dayOffset).cases.rows ↔
      case ∈ db.cases.rows ∧ case.id ≠ turn.case.id ∨ case = turn.advanced := by
  refine (Table.mem_update (g := fun case : DunningCase =>
    { case with currentStep := some turn.step.dayOffset }) (h := fun _ => rfl)).trans
      (or_congr Iff.rfl ⟨?_, ?_⟩)
  · rintro ⟨other, hother, hid, rfl⟩
    obtain rfl := Table.eq_of_id_eq hother (Table.get?_eq_some.mp hready.found).1 hid
    rfl
  · rintro rfl
    exact ⟨turn.case, (Table.get?_eq_some.mp hready.found).1, rfl, rfl⟩

/-- **A turn that leaves its step behind** loses none exactly if it took effect, for the only or the
strongest of the steps that it leaves behind. -/
lemma noStepLost_advance {log : DunningActionLog}
    (hpassed : ∀ log ∈ logs, log.TookEffect → Passed db log.caseId log.stepDay)
    (hready : turn.Ready policy db facts accountId) (hlost : NoStepLost policy ⟨db, logs⟩)
    (hcase : log.caseId = turn.case.id) :
    NoStepLost policy ⟨db.advanceCase turn.case.id turn.step.dayOffset, logs ++ [log]⟩ ↔
      ∀ step ∈ policy accountId, step.action ≠ .notify →
        (∀ current ∈ turn.case.currentStep, current < step.dayOffset) →
          step.dayOffset ≤ turn.step.dayOffset →
            log.TookEffect ∧ Serves log.action log.stepDay step := by
  constructor
  · intro h step hstep henforcing hpast hle
    obtain ⟨found, hfound, hid, heffect, hserves⟩ := h turn.advanced
      ((mem_advanceCase hready).mpr (.inr rfl)) hready.isOpen _ rfl step
      (hready.account.symm ▸ hstep) henforcing hle
    obtain hold | hnew := List.mem_append.mp hfound
    · -- what took effect before was passed before
      obtain ⟨case, reached, hget, hcurrent, hreached⟩ := hpassed found hold heffect
      rw [show found.caseId = turn.case.id from hid] at hget
      obtain rfl := Option.mem_unique hready.found hget
      have hlt := hpast reached hcurrent
      obtain ⟨-, heq⟩ | ⟨-, hbefore⟩ := hserves <;> omega
    · obtain rfl := List.mem_singleton.mp hnew
      exact ⟨heffect, hserves⟩
  · intro h case hmem hopen reached hreached step hstep henforcing hle
    obtain ⟨hrow, hne⟩ | rfl := (mem_advanceCase hready).mp hmem
    · obtain ⟨found, hfound, hserves⟩ :=
        hlost case hrow hopen reached hreached step hstep henforcing hle
      exact ⟨found, List.mem_append_left _ hfound, hserves⟩
    · obtain rfl : turn.step.dayOffset = reached := Option.some.inj hreached
      by_cases hpast : ∀ current ∈ turn.case.currentStep, current < step.dayOffset
      · obtain ⟨heffect, hserves⟩ :=
          h step (hready.account ▸ hstep) henforcing hpast hle
        exact ⟨log, List.mem_append_right _ List.mem_cons_self, hcase, heffect, hserves⟩
      · simp only [not_forall, not_lt] at hpast
        obtain ⟨current, hcurrent, hbefore⟩ := hpast
        obtain ⟨found, hfound, hserves⟩ := hlost turn.case (Table.get?_eq_some.mp hready.found).1
          hready.isOpen current hcurrent step hstep henforcing hbefore
        exact ⟨found, List.mem_append_left _ hfound, hserves⟩

lemma not_effective_of_nonAdvancing (h : outcome ∈ nonAdvancingDunningOutcomes) :
    outcome ∉ effectiveOutcomes := by
  revert outcome
  decide

/-- **Step**: a run keeps the base, and loses no step exactly if it meets the condition. -/
lemma runDunningAccount_noStepLost {result : DunningAccountRunResult}
    (hbase : DunningBase state.access state.logs) (hlost : NoStepLost policy state)
    (h : runDunningAccount policy state run = .ok (state', result)) :
    DunningBase state'.access state'.logs ∧
      (NoStepLost policy state' ↔ Keeps policy state (.run run)) := by
  unfold runDunningAccount at h
  unfold Keeps
  dsimp only at h ⊢
  cases hdry : run.dryRun with
  | true =>
    rw [if_pos hdry] at h
    obtain ⟨rfl, -⟩ := mk_eq_ok.mp h
    exact ⟨hbase, iff_of_true hlost nofun⟩
  | false =>
    rw [if_neg (Bool.eq_false_iff.mp hdry)] at h
    obtain ⟨hkept, hsame, hready⟩ := @planDunningAccount_spec policy state run
    generalize planDunningAccount policy state run = plan at h hkept hsame hready ⊢
    have hopened : DunningBase plan.access state.logs :=
      hbase.elsewhere hkept fun record hmem => .inl (hsame ▸ hmem)
    have hlost : NoStepLost policy ⟨plan.access, state.logs⟩ := hlost.elsewhere hkept
    cases hturn : plan.turn with
    | none =>
      rw [hturn] at h
      obtain ⟨rfl, -⟩ := mk_eq_ok.mp h
      exact ⟨hopened, iff_of_true hlost fun _ _ hnone => absurd hnone (Option.not_mem_none _)⟩
    | some turn =>
      rw [hturn] at h
      obtain ⟨⟨acted, outcome, replayed⟩, hexecute, h⟩ := bind_eq_ok.mp h
      obtain ⟨rfl, -⟩ := mk_eq_ok.mp h
      have hready := hready turn hturn
      obtain ⟨hcases, houtcome, hreplayed, hrecords⟩ :=
        executeDunningTurn_spec hopened hready hexecute
      have hacted : CasesKept plan.access acted := casesKept_of_eq hcases
      have hready : turn.Ready policy acted run.facts run.accountId :=
        { hready with found := hcases ▸ hready.found }
      have hlost := hlost.elsewhere hacted
      have hpassed : ∀ log ∈ state.logs, log.TookEffect → Passed acted log.caseId log.stepDay :=
        fun log hmem heffect => hacted.passed (hopened.logs log hmem heffect)
      have hfaithful : ∀ record ∈ acted.consequences.rows, record.Faithful := fun record hmem =>
        (hrecords record hmem).elim (hopened.faithful record) And.left
      simp only [Option.mem_some, forall_eq', true_imp_iff, ← houtcome]
      by_cases hstays : outcome ∈ nonAdvancingDunningOutcomes
      · have hnone := not_effective_of_nonAdvancing hstays
        rw [if_pos hstays]
        refine ⟨⟨hfaithful, ?_, ?_⟩, iff_of_true ?_ fun hnot => absurd hstays hnot⟩
        · intro record hmem caseId action dayOffset decision hkey heligible
          obtain hold | ⟨-, hnew⟩ := hrecords record hmem
          · exact hacted.passed
              (hopened.keys record hold caseId action dayOffset decision hkey heligible)
          · exact absurd (hnew caseId action dayOffset decision hkey heligible).2.2 hnone
        · intro log hmem heffect
          obtain hold | hnew := List.mem_append.mp hmem
          · exact hpassed log hold heffect
          · obtain rfl := List.mem_singleton.mp hnew
            exact absurd heffect.1 hnone
        · intro case hmem hopen reached hreached step hstep henforcing hle
          obtain ⟨log, hlog, hserves⟩ :=
            hlost case hmem hopen reached hreached step hstep henforcing hle
          exact ⟨log, List.mem_append_left _ hlog, hserves⟩
      · rw [if_neg hstays]
        refine ⟨⟨hfaithful, ?_, ?_⟩, (noStepLost_advance hpassed hready hlost rfl).trans ?_⟩
        · intro record hmem caseId action dayOffset decision hkey heligible
          obtain hold | ⟨-, hnew⟩ := hrecords record hmem
          · exact passed_advanceCase hready (hacted.passed
              (hopened.keys record hold caseId action dayOffset decision hkey heligible))
          · obtain ⟨rfl, rfl, -⟩ := hnew caseId action dayOffset decision hkey heligible
            exact passed_turn hready
        · intro log hmem heffect
          obtain hold | hnew := List.mem_append.mp hmem
          · exact passed_advanceCase hready (hpassed log hold heffect)
          · obtain rfl := List.mem_singleton.mp hnew
            exact passed_turn hready
        · have heffect : DunningActionLog.TookEffect ⟨turn.case.id, turn.step.action,
              turn.step.dayOffset, outcome, replayed⟩ ↔ outcome ∈ effectiveOutcomes :=
            ⟨And.left, fun heffective => ⟨heffective, hreplayed heffective⟩⟩
          simp only [heffect, hstays, not_false_eq_true, true_imp_iff]

end Histories

variable {policy : ℕ → List PolicyDunningStep}

/-- A history starts without cases, consequences and logs. -/
def DunningState.start (access : AccessDb) : DunningState :=
  ⟨{ access with cases := .empty, consequences := .empty }, []⟩

/-- **No dunning step is lost**, in any history, exactly if every run that leaves enforcing steps
behind takes effect, for the only or the strongest of them. -/
theorem noStepLost_iff_keeps (policy : ℕ → List PolicyDunningStep) (access : AccessDb)
    (commands : List DunningCommand) :
    (∀ before after, commands = before ++ after →
      NoStepLost policy (Run.run (dunningStep policy) (.start access) before)) ↔
      Guarded (dunningStep policy) (Keeps policy) (.start access) commands := by
  have hstep : ∀ state command state', DunningBase state.access state.logs →
      NoStepLost policy state → dunningStep policy state command = .ok state' →
        DunningBase state'.access state'.logs ∧
          (NoStepLost policy state' ↔ Keeps policy state command) := by
    intro state command state' hbase hlost hok
    cases command with
    | run run =>
      obtain ⟨⟨_, result⟩, hrun, rfl⟩ := map_eq_ok.mp hok
      exact runDunningAccount_noStepLost hbase hlost hrun
    | elsewhere command hother =>
      obtain ⟨⟨access', answered⟩, hanswer, hok⟩ := bind_eq_ok.mp hok
      obtain rfl := pure_eq_ok.mp hok
      obtain ⟨hkept, hcases⟩ := answer_base hbase hother hanswer
      exact ⟨hkept, iff_of_true (hlost.elsewhere hcases) trivial⟩
  have hstart : DunningBase (DunningState.start access).access [] :=
    ⟨fun _ hmem => absurd hmem List.not_mem_nil, fun _ hmem => absurd hmem List.not_mem_nil,
      fun _ hmem => absurd hmem List.not_mem_nil⟩
  have hnone : NoStepLost policy (.start access) := fun _ hmem => absurd hmem List.not_mem_nil
  have hiff : (∀ before after, commands = before ++ after →
      DunningBase (Run.run (dunningStep policy) (.start access) before).access
          (Run.run (dunningStep policy) (.start access) before).logs ∧
        NoStepLost policy (Run.run (dunningStep policy) (.start access) before)) ↔
      Guarded (dunningStep policy) (Keeps policy) (.start access) commands := by
    have hkeep : ∀ state command state', DunningBase state.access state.logs ∧
        NoStepLost policy state → Keeps policy state command →
          dunningStep policy state command = .ok state' →
            DunningBase state'.access state'.logs ∧ NoStepLost policy state' := by
      intro state command state' h hkeeps hok
      obtain ⟨hbase, hiff⟩ := hstep state command state' h.1 h.2 hok
      exact ⟨hbase, hiff.mpr hkeeps⟩
    exact forall_prefix_iff_guarded hkeep
      (fun s c s' h hok h' => (hstep s c s' h.1 h.2 hok).2.mp h'.2) commands _ ⟨hstart, hnone⟩
  refine (Iff.intro (fun h before => ?_) fun h before after hsplit =>
    (h before after hsplit).2).trans hiff
  -- where no step is lost up to a command, the base is kept by it
  induction before using List.reverseRecOn with
  | nil => exact fun after hsplit => ⟨hstart, h [] after hsplit⟩
  | append_singleton before command ih =>
    intro after hsplit
    refine ⟨?_, h _ after hsplit⟩
    obtain ⟨hbase, hlost⟩ := ih (command :: after) (by rw [hsplit, List.append_assoc]; rfl)
    rw [run_append, run_cons, run_nil]
    cases hok : dunningStep policy (Run.run (dunningStep policy) (.start access) before) command
        with
    | ok state' =>
      rw [next_of_ok hok]
      exact (hstep _ _ _ hbase hlost hok).1
    | error refusal =>
      rw [next_of_error hok]
      exact hbase

def suspendAtTen : ℕ → List PolicyDunningStep := fun _ => [⟨10, .suspend⟩]

def dunningRun (runAt overdueDays : ℤ) (shouldDefer : Bool) : DunningCommand :=
  .run ⟨{ postpaidFacts [overdueInvoice] with shouldDefer }, 0, runAt, [overdueDays], true, false⟩

/-- A suspension that was put off until the enforcement window opens is never tried again: the case
has passed it, and nothing holds the service. -/
theorem deferred_step_lost :
    let state := Run.run (dunningStep suspendAtTen) (.start (oneService none))
      [dunningRun 1 10 true, dunningRun 2 11 false]
    state.access.cases.rows.map (fun case => (case.status, case.currentStep)) =
        [(.open, some 10)] ∧
      state.logs.map (·.outcome) = ["outside_enforcement_window"] ∧
      state.access.lifecycle.activeLocks 0 = [] ∧ ¬NoStepLost suspendAtTen state := by
  intro state
  have hfacts : state.access.cases.rows.map (fun case => (case.status, case.currentStep)) =
        [(.open, some 10)] ∧
      state.logs.map (·.outcome) = ["outside_enforcement_window"] ∧
      state.access.lifecycle.activeLocks 0 = [] := by
    decide +kernel
  obtain ⟨hcases, hlogs, hlocks⟩ := hfacts
  refine ⟨hcases, hlogs, hlocks, fun hlost => ?_⟩
  obtain ⟨case, hmem, hcase⟩ := List.mem_map.mp (hcases ▸ List.mem_cons_self)
  obtain ⟨hopen, hcurrent⟩ := Prod.mk.inj hcase
  obtain ⟨log, hlog, -, heffect, -⟩ := hlost case hmem hopen 10 hcurrent ⟨10, .suspend⟩
    List.mem_cons_self (by decide) le_rfl
  have houtcome : log.outcome ∈ state.logs.map (·.outcome) := List.mem_map_of_mem hlog
  rw [hlogs, List.mem_singleton] at houtcome
  have heffective := heffect.1
  rw [houtcome] at heffective
  revert heffective
  decide

end DotmacSub.FinancialAccess
