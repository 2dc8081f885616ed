import DotmacSub.Core.Checked
import DotmacSub.Core.Run
import Mathlib.Algebra.Group.Int.Defs
import Mathlib.Order.Basic

/-!
# Scheduled status commands

`subscription_lifecycle_schedules`: a deferred status command waits in a row.  A worker claims the
row under a lease, executes the command under the key of the schedule, and writes what came of it
onto the row, whoever the lease belongs to by then.
-/

namespace DotmacSub.StatusSchedules

open Checked

inductive SubscriptionCommandKind
  | activate
  | suspend
  | disable
  | restore
  | renew
  | cancel
  | expire
  | changePlan
  | vacationHold
  | vacationResume
deriving DecidableEq

def SubscriptionCommandKind.value : SubscriptionCommandKind → String
  | activate => "activate"
  | suspend => "suspend"
  | disable => "disable"
  | restore => "restore"
  | renew => "renew"
  | cancel => "cancel"
  | expire => "expire"
  | changePlan => "change_plan"
  | vacationHold => "vacation_hold"
  | vacationResume => "vacation_resume"

def statusCommands : List SubscriptionCommandKind :=
  [.activate, .suspend, .disable, .restore, .cancel, .expire]

inductive SubscriptionEffectiveTiming
  | immediate
  | nextCycle
  | scheduled
deriving DecidableEq

inductive ScheduleStatus
  | pending
  | processing
  | applied
  | canceled
  | superseded
  | rejected
  | failed
deriving DecidableEq

def ScheduleStatus.value : ScheduleStatus → String
  | pending => "pending"
  | processing => "processing"
  | applied => "applied"
  | canceled => "canceled"
  | superseded => "superseded"
  | rejected => "rejected"
  | failed => "failed"

/-- Nothing is left to be done. -/
def ScheduleStatus.isFinal (status : ScheduleStatus) : Bool :=
  status ≠ .pending ∧ status ≠ .processing

/-- One reviewed, deferred status command; the command itself never changes and is left out. -/
structure Schedule where
  effectiveAt : ℤ
  status : ScheduleStatus
  attemptCount : ℕ
  maxAttempts : ℕ
  nextAttemptAt : ℤ
  claimedAt : Option ℤ
  claimExpiresAt : Option ℤ
  claimedBy : Option String
  lastErrorCode : Option String
  lastMessage : Option String
  outcomeHead : Option String
  artifactIds : Option (List String)
  appliedAt : Option ℤ
  canceledAt : Option ℤ
  canceledBy : Option String
deriving DecidableEq

def minute : ℤ := 60000000

def leaseDuration : ℤ := 15 * minute

def baseRetryDelay : ℤ := 5 * minute

def maxRetryDelay : ℤ := 60 * minute

/-- `max_attempts` of a new row. -/
def defaultMaxAttempts : ℕ := 5

/-- Persist one already reviewed deferred status command. -/
def scheduleSubscriptionStatusCommand (kind : SubscriptionCommandKind)
    (timing : SubscriptionEffectiveTiming) (effectiveAt : Option ℤ) (now : ℤ) :
    Except String Schedule := do
  ensure (kind ∈ statusCommands) s!"{kind.value} is not owned by the status scheduler"
  ensure (timing ≠ .immediate) "Immediate commands cannot be added to the lifecycle scheduler"
  return {
    effectiveAt := effectiveAt.getD now
    status := .pending
    attemptCount := 0
    maxAttempts := defaultMaxAttempts
    nextAttemptAt := effectiveAt.getD now
    claimedAt := none
    claimExpiresAt := none
    claimedBy := none
    lastErrorCode := none
    lastMessage := none
    outcomeHead := none
    artifactIds := none
    appliedAt := none
    canceledAt := none
    canceledBy := none }

namespace Schedule

def clearClaim (row : Schedule) : Schedule :=
  { row with claimedAt := none, claimExpiresAt := none, claimedBy := none }

def cancel (row : Schedule) (actorId : Option String) (now : ℤ) : Except String Schedule :=
  if row.status = .canceled then .ok row
  else if row.status ≠ .pending then
    .error s!"Lifecycle schedule cannot be canceled from {row.status.value}"
  else .ok { row.clearClaim with
    status := .canceled, canceledAt := some now, canceledBy := actorId }

/-- A worker may claim the row: it is due, or the lease of its worker has run out. -/
def isDue (row : Schedule) (now : ℤ) : Prop :=
  row.effectiveAt ≤ now ∧ (row.status = .pending ∧ row.nextAttemptAt ≤ now ∨
    row.status = .processing ∧ ∃ expiresAt ∈ row.claimExpiresAt, expiresAt ≤ now)

instance (row : Schedule) (now : ℤ) : Decidable (row.isDue now) :=
  inferInstanceAs (Decidable (_ ∧ (_ ∨ _)))

def claimed (row : Schedule) (now : ℤ) (workerId : String) : Schedule :=
  { row with
    status := .processing
    attemptCount := row.attemptCount + 1
    claimedAt := some now
    claimExpiresAt := some (now + leaseDuration)
    claimedBy := some workerId }

/-- `_retry_or_fail_locked`. -/
def retryOrFail (row : Schedule) (now : ℤ) : Schedule :=
  if row.maxAttempts ≤ row.attemptCount then { row.clearClaim with status := .failed }
  else { row.clearClaim with
    status := .pending
    nextAttemptAt :=
      now + min (baseRetryDelay * 2 ^ (row.attemptCount - 1)) maxRetryDelay }

end Schedule

inductive OutcomeStatus
  | applied
  | skipped
  | rejected
  | failed
  | superseded
deriving DecidableEq

structure Outcome where
  status : OutcomeStatus
  errorCode : Option String
  message : String
  currentHead : String
  artifactIds : List String
deriving DecidableEq

/-- What the owners of a status do with a command that is executed for the first time. -/
inductive Dispatch
  | superseded (message : String)
  | rejected (code message : String)
  | failed (message : String)
  | applied (message : String) (artifactIds : List String)

/-- What an execution meets: an exception before anything is written, what the owners do, an
exception after the commit, and the head of the subscription. -/
structure CommandFacts where
  fault : Option String
  dispatch : Dispatch
  lateFault : Option String
  head : String

/-- What an execution leaves: whether the key of the schedule is reserved, whether the owners have
carried the command out, and the outcome or the exception. -/
structure Execution where
  reserved : Bool
  carriedOut : Bool
  result : Except String Outcome

/-- `execute_subscription_command` under the key of the schedule.  The reservation of the key is
committed with the effects of the command. -/
def executeSubscriptionCommand (reserved : Bool) (facts : CommandFacts) : Execution :=
  match facts.fault with
  | some message => ⟨reserved, false, .error message⟩
  | none =>
    if reserved then
      ⟨reserved, false, .ok ⟨.skipped, some "idempotent_replay",
        "Idempotent replay; command was not executed again", facts.head, []⟩⟩
    else
      match facts.dispatch with
      | .superseded message => ⟨reserved, false,
          .ok ⟨.superseded, some "subscription_head_changed", message, facts.head, []⟩⟩
      | .rejected code message =>
        ⟨reserved, false, .ok ⟨.rejected, some code, message, facts.head, []⟩⟩
      | .failed message => ⟨reserved, false,
          .ok ⟨.failed, some "command_execution_failed", message, facts.head, []⟩⟩
      | .applied message artifactIds =>
        match facts.lateFault with
        | some message => ⟨true, true, .error message⟩
        | none => ⟨true, true, .ok ⟨.applied, none, message, facts.head, artifactIds⟩⟩

/-- What a worker writes onto the row when its execution has ended. -/
def Schedule.finished (row : Schedule) (now : ℤ) : Except String Outcome → Schedule
  | .error message =>
    { row with
      lastErrorCode := some "scheduled_command_execution_failed"
      lastMessage := some message }.retryOrFail now
  | .ok outcome =>
    let row := { row with
      lastErrorCode := outcome.errorCode
      lastMessage := some outcome.message
      outcomeHead := some outcome.currentHead
      artifactIds := some outcome.artifactIds }.clearClaim
    match outcome.status with
    | .applied | .skipped => { row with status := .applied, appliedAt := some now }
    | .superseded => { row with status := .superseded }
    | .rejected => { row with status := .rejected }
    | .failed => row.retryOrFail now

/-- Where a worker stands; its clock is read once for a pass. -/
inductive Worker
  | idle
  | claimed (now : ℤ)
  | executed (now : ℤ) (result : Except String Outcome)
  | dead

def Worker.attemptAt : Worker → Option ℤ
  | claimed now => some now
  | executed now _ => some now
  | _ => none

/-- The committed row and reservation, and the workers.  Who made the latest claim, how many there
were and when the command was carried out is what has happened, which the row does not say. -/
structure Fleet where
  schedule : Option Schedule
  reserved : Bool
  worker : ℕ → Worker
  holder : Option ℕ
  claims : ℕ
  carriedOut : List ℤ

def Fleet.initial : Fleet := ⟨none, false, fun _ => .idle, none, 0, []⟩

/-- The worker has claimed the row and not finished. -/
def Fleet.Working (s : Fleet) (w : ℕ) : Prop := (s.worker w).attemptAt.isSome

inductive Step
  | schedule (kind : SubscriptionCommandKind) (timing : SubscriptionEffectiveTiming)
      (effectiveAt : Option ℤ) (now : ℤ)
  | cancel (actorId : Option String) (now : ℤ)
  | claim (w : ℕ) (now : ℤ) (workerId : String)
  | execute (w : ℕ) (facts : CommandFacts)
  | finish (w : ℕ)
  | crash (w : ℕ)

def Fleet.execute (s : Fleet) (w : ℕ) (now : ℤ) (facts : CommandFacts) : Fleet :=
  let execution := executeSubscriptionCommand s.reserved facts
  { s with
    reserved := execution.reserved
    worker := Function.update s.worker w (.executed now execution.result)
    carriedOut := if execution.carriedOut then now :: s.carriedOut else s.carriedOut }

/-- One step of one worker, or a schedule or cancellation; in any order, each with a clock reading
of its own. A worker that claims another row leaves this one alone. -/
def step (s : Fleet) : Step → Except String Fleet
  | .schedule kind timing effectiveAt now =>
    match s.schedule with
    | some _ => .error "uq_subscription_lifecycle_schedule_idempotency"
    | none => do
      let row ← scheduleSubscriptionStatusCommand kind timing effectiveAt now
      return { s with schedule := some row }
  | .cancel actorId now => do
    let row ← orRefuse s.schedule "Lifecycle schedule not found"
    let row ← row.cancel actorId now
    return { s with schedule := some row }
  | .claim w now workerId =>
    match s.worker w, s.schedule with
    | .idle, some row =>
      if row.isDue now then
        .ok { s with
          schedule := some (row.claimed now workerId)
          worker := Function.update s.worker w (.claimed now)
          holder := some w
          claims := s.claims + 1 }
      else .error "nothing due"
    | _, _ => .error "nothing due"
  | .execute w facts =>
    match s.worker w with
    | .claimed now => .ok (s.execute w now facts)
    | _ => .error "not claimed"
  | .finish w =>
    match s.worker w, s.schedule with
    | .executed now result, some row =>
      .ok { s with
        schedule := some (row.finished now result)
        worker := Function.update s.worker w .idle
        holder := none }
    | _, _ => .error "not executed"
  | .crash w => .ok { s with worker := Function.update s.worker w .dead }

/-- What a step may do: the command is carried out once at most, not before its time and not after
its cancellation; the row is claimed no more often than it may be; a budget that is used up leaves
the row failed or with an outcome, unless its last worker is still at it; and a final row stays. -/
structure EffectiveOnce (s s' : Fleet) : Prop where
  once : s'.carriedOut.length ≤ 1
  due : ∀ row ∈ s'.schedule, ∀ t ∈ s'.carriedOut, row.effectiveAt ≤ t
  notCanceled : ∀ row ∈ s.schedule, row.status = .canceled → s'.carriedOut = s.carriedOut
  budget : ∀ row ∈ s'.schedule, s'.claims ≤ row.maxAttempts
  exhausted : ∀ row ∈ s'.schedule, row.maxAttempts ≤ row.attemptCount →
    row.status ∈ [.applied, .superseded, .rejected, .failed] ∨
      ∃ w, s'.holder = some w ∧ s'.Working w
  settled : ∀ row ∈ s.schedule, row.status.isFinal → s'.schedule = some row

/-- A worker acts under its own lease, and the attempt that uses up the budget is neither lost nor
taken over. -/
def Fenced (s : Fleet) : Step → Prop
  | .execute w _ | .finish w => s.holder = some w
  | .claim _ _ _ => ∀ row ∈ s.schedule, row.status = .processing → row.attemptCount < row.maxAttempts
  | .crash w => s.Working w → s.holder = some w →
      ∀ row ∈ s.schedule, row.attemptCount < row.maxAttempts
  | _ => True

/-- What each step can do. -/
inductive Moved (s : Fleet) : Fleet → Step → Prop
  | scheduled {kind timing effectiveAt now row} (hnone : s.schedule = none)
      (hrow : scheduleSubscriptionStatusCommand kind timing effectiveAt now = .ok row) :
      Moved s { s with schedule := some row } (.schedule kind timing effectiveAt now)
  | canceled {actorId now row row'} (hrow : s.schedule = some row)
      (hcancel : row.cancel actorId now = .ok row') :
      Moved s { s with schedule := some row' } (.cancel actorId now)
  | claimed {w now workerId row} (hidle : s.worker w = .idle) (hrow : s.schedule = some row)
      (hdue : row.isDue now) :
      Moved s { s with
        schedule := some (row.claimed now workerId)
        worker := Function.update s.worker w (.claimed now)
        holder := some w
        claims := s.claims + 1 } (.claim w now workerId)
  | executed {w now facts} (hclaimed : s.worker w = .claimed now) :
      Moved s (s.execute w now facts) (.execute w facts)
  | finished {w now result row} (hexecuted : s.worker w = .executed now result)
      (hrow : s.schedule = some row) :
      Moved s { s with
        schedule := some (row.finished now result)
        worker := Function.update s.worker w .idle
        holder := none } (.finish w)
  | crashed {w} : Moved s { s with worker := Function.update s.worker w .dead } (.crash w)

section Steps

variable {s s' : Fleet} {c : Step} {row : Schedule} {w : ℕ} {now : ℤ}

lemma moved_of_ok (hok : step s c = .ok s') : Moved s s' c := by
  cases c with
  | schedule kind timing effectiveAt now =>
    simp only [step] at hok
    split at hok
    · cases hok
    · rename_i hnone
      obtain ⟨row, hrow, hok⟩ := bind_eq_ok.mp hok
      obtain rfl := pure_eq_ok.mp hok
      exact .scheduled hnone hrow
  | cancel actorId now =>
    obtain ⟨row, hrow, hok⟩ := orRefuse_bind_eq_ok.mp hok
    obtain ⟨row', hcancel, hok⟩ := bind_eq_ok.mp hok
    obtain rfl := pure_eq_ok.mp hok
    exact .canceled hrow hcancel
  | claim w now workerId =>
    simp only [step] at hok
    split at hok
    · rename_i hidle hrow
      split_ifs at hok with hdue
      obtain rfl := Except.ok.inj hok
      exact .claimed hidle hrow hdue
    · cases hok
  | execute w facts =>
    simp only [step] at hok
    split at hok
    · rename_i hclaimed
      obtain rfl := Except.ok.inj hok
      exact .executed hclaimed
    · cases hok
  | finish w =>
    simp only [step] at hok
    split at hok
    · rename_i hexecuted hrow
      obtain rfl := Except.ok.inj hok
      exact .finished hexecuted hrow
    · cases hok
  | crash w =>
    obtain rfl := Except.ok.inj hok
    exact .crashed

@[simp] lemma retryOrFail_effectiveAt : (row.retryOrFail now).effectiveAt = row.effectiveAt := by
  unfold Schedule.retryOrFail
  split_ifs <;> rfl

@[simp] lemma finished_effectiveAt {result : Except String Outcome} :
    (row.finished now result).effectiveAt = row.effectiveAt := by
  cases result with
  | error message => exact retryOrFail_effectiveAt
  | ok outcome =>
    rw [Schedule.finished]
    cases outcome.status <;> first | rfl | exact retryOrFail_effectiveAt

/-- A cancellation that is accepted leaves a canceled row, and is of one that is pending or canceled
already. -/
lemma cancel_cases {actorId : Option String} {row' : Schedule}
    (h : row.cancel actorId now = .ok row') :
    row' = row ∧ row.status = .canceled ∨
      row.status = .pending ∧ row'.status = .canceled ∧ row'.effectiveAt = row.effectiveAt ∧
        row'.attemptCount = row.attemptCount ∧ row'.maxAttempts = row.maxAttempts := by
  unfold Schedule.cancel at h
  split_ifs at h with hcanceled hpending
  · exact .inl ⟨(Except.ok.inj h).symm, hcanceled⟩
  · obtain rfl := Except.ok.inj h
    exact .inr ⟨not_not.mp hpending, rfl, rfl, rfl, rfl⟩

lemma scheduled_eq {kind : SubscriptionCommandKind} {timing : SubscriptionEffectiveTiming}
    {effectiveAt : Option ℤ}
    (h : scheduleSubscriptionStatusCommand kind timing effectiveAt now = .ok row) :
    row.status = .pending ∧ row.attemptCount = 0 ∧ row.maxAttempts = defaultMaxAttempts := by
  obtain ⟨-, -, h⟩ := bind_eq_ok.mp h
  obtain ⟨-, -, h⟩ := bind_eq_ok.mp h
  obtain rfl := pure_eq_ok.mp h
  exact ⟨rfl, rfl, rfl⟩

/-- A command is carried out under a key that was free, and a key that is reserved stays so. -/
lemma execute_cases (reserved : Bool) (facts : CommandFacts) :
    (executeSubscriptionCommand reserved facts).carriedOut = true ∧ reserved = false ∧
        (executeSubscriptionCommand reserved facts).reserved = true ∨
      (executeSubscriptionCommand reserved facts).carriedOut = false ∧
        (executeSubscriptionCommand reserved facts).reserved = reserved := by
  unfold executeSubscriptionCommand
  cases facts.fault with
  | some message => exact .inr ⟨rfl, rfl⟩
  | none =>
    cases reserved with
    | true => exact .inr ⟨rfl, rfl⟩
    | false =>
      cases facts.dispatch with
      | applied message artifactIds => cases facts.lateFault <;> exact .inl ⟨rfl, rfl, rfl⟩
      | _ => exact .inr ⟨rfl, rfl⟩

/-- What every run keeps: an execution is of a claimed row that is due, and leaves the reservation. -/
structure Inv (s : Fleet) : Prop where
  unscheduled : s.schedule = none → s.holder = none ∧ s.claims = 0 ∧ s.carriedOut = [] ∧
    ∀ w, (s.worker w).attemptAt = none
  once : s.carriedOut.length ≤ if s.reserved then 1 else 0
  due : ∀ row ∈ s.schedule, (∀ t ∈ s.carriedOut, row.effectiveAt ≤ t) ∧
    ∀ w, ∀ t ∈ (s.worker w).attemptAt, row.effectiveAt ≤ t

lemma inv_initial : Inv .initial where
  unscheduled _ := ⟨rfl, rfl, rfl, fun _ => rfl⟩
  once := Nat.le_refl 0
  due _ hrow := absurd hrow (Option.not_mem_none _)

lemma attemptAt_update {phase : Worker} {u : ℕ} {t : ℤ}
    (h : t ∈ (Function.update s.worker w phase u).attemptAt) :
    t ∈ phase.attemptAt ∨ t ∈ (s.worker u).attemptAt := by
  rw [Function.update_apply] at h
  split_ifs at h
  · exact .inl h
  · exact .inr h

lemma Inv.step (h : Inv s) (hmoved : Moved s s' c) : Inv s' := by
  cases hmoved with
  | @scheduled kind timing effectiveAt now row hnone hrow =>
    obtain ⟨-, -, hcarried, hworkers⟩ := h.unscheduled hnone
    refine ⟨nofun, h.once, fun row' _ => ⟨fun t ht => ?_, fun w t ht => ?_⟩⟩
    · rw [hcarried] at ht
      exact absurd ht List.not_mem_nil
    · rw [hworkers w] at ht
      exact absurd ht (Option.not_mem_none t)
  | @canceled actorId now row row' hrow hcancel =>
    refine ⟨nofun, h.once, ?_⟩
    rintro _ ⟨⟩
    have heffective : row'.effectiveAt = row.effectiveAt := by
      rcases cancel_cases hcancel with ⟨rfl, -⟩ | ⟨-, -, heq, -⟩
      · rfl
      · exact heq
    rw [heffective]
    exact h.due row hrow
  | @claimed w now workerId row hidle hrow hdue =>
    refine ⟨nofun, h.once, ?_⟩
    rintro _ ⟨⟩
    refine ⟨(h.due row hrow).1, fun u t ht => ?_⟩
    rcases attemptAt_update ht with ht | ht
    · obtain rfl := Option.some.inj ht
      exact hdue.1
    · exact (h.due row hrow).2 u t ht
  | @executed w now facts hclaimed =>
    have hattempt : (s.worker w).attemptAt = some now := by rw [hclaimed]; rfl
    refine ⟨fun hnone => ?_, ?_, fun row hrow => ⟨fun t ht => ?_, fun u t ht => ?_⟩⟩
    · have hidle := (h.unscheduled hnone).2.2.2 w
      rw [hattempt] at hidle
      cases hidle
    · have honce := h.once
      rcases execute_cases s.reserved facts with ⟨hout, hfree, hreserved⟩ | ⟨hout, hreserved⟩
      · rw [hfree] at honce
        simp only [Fleet.execute, hout, hreserved, if_true]
        exact Nat.succ_le_succ honce
      · simp only [Fleet.execute, hout, hreserved]
        exact honce
    · simp only [Fleet.execute] at ht
      split_ifs at ht
      · rcases List.mem_cons.mp ht with rfl | ht
        · exact (h.due row hrow).2 w t hattempt
        · exact (h.due row hrow).1 t ht
      · exact (h.due row hrow).1 t ht
    · rcases attemptAt_update ht with ht | ht
      · exact (h.due row hrow).2 w t (hattempt.trans ht)
      · exact (h.due row hrow).2 u t ht
  | @finished w now result row hexecuted hrow =>
    refine ⟨nofun, h.once, ?_⟩
    rintro _ ⟨⟩
    rw [finished_effectiveAt]
    refine ⟨(h.due row hrow).1, fun u t ht => ?_⟩
    rcases attemptAt_update ht with ht | ht
    · cases ht
    · exact (h.due row hrow).2 u t ht
  | @crashed w =>
    refine ⟨fun hnone => ?_, h.once, fun row hrow => ⟨(h.due row hrow).1, fun u t ht => ?_⟩⟩
    · obtain ⟨hholder, hclaims, hcarried, hworkers⟩ := h.unscheduled hnone
      refine ⟨hholder, hclaims, hcarried, fun u => ?_⟩
      show (Function.update s.worker w .dead u).attemptAt = none
      rw [Function.update_apply]
      split_ifs
      · rfl
      · exact hworkers u
    · rcases attemptAt_update ht with ht | ht
      · cases ht
      · exact (h.due row hrow).2 u t ht

end Steps

/-- **In every run the command is carried out at most once, and not before its time.** -/
theorem carriedOut_once (steps : List Step) :
    (Run.run step .initial steps).carriedOut.length ≤ 1 ∧
      ∀ row ∈ (Run.run step .initial steps).schedule,
        ∀ t ∈ (Run.run step .initial steps).carriedOut, row.effectiveAt ≤ t := by
  have h : Inv (Run.run step .initial steps) :=
    Run.invariant_run (fun _ _ _ hinv hok => hinv.step (moved_of_ok hok)) steps inv_initial
  refine ⟨Nat.le_trans h.once ?_, fun row hrow => (h.due row hrow).1⟩
  split_ifs <;> decide

/-! ## In a fenced run -/

/-- What a fenced run keeps: claims are counted, a lease is held exactly while the row is processed,
only a row with attempts left is pending or canceled, and the last attempt has its worker. -/
structure FencedInv (s : Fleet) : Prop extends Inv s where
  counted : ∀ row ∈ s.schedule, s.claims = row.attemptCount ∧ row.attemptCount ≤ row.maxAttempts
  held : ∀ row ∈ s.schedule, ∀ w, s.holder = some w → row.status = .processing
  left : ∀ row ∈ s.schedule, row.status = .pending ∨ row.status = .canceled →
    row.attemptCount < row.maxAttempts
  last : ∀ row ∈ s.schedule, row.status = .processing → row.maxAttempts ≤ row.attemptCount →
    ∃ w, s.holder = some w ∧ s.Working w

section Fenced

variable {s s' : Fleet} {c : Step} {row : Schedule} {w : ℕ} {now : ℤ}

lemma fencedInv_initial : FencedInv .initial where
  toInv := inv_initial
  counted _ hrow := absurd hrow (Option.not_mem_none _)
  held _ hrow := absurd hrow (Option.not_mem_none _)
  left _ hrow := absurd hrow (Option.not_mem_none _)
  last _ hrow := absurd hrow (Option.not_mem_none _)

@[simp] lemma retryOrFail_counts : (row.retryOrFail now).attemptCount = row.attemptCount ∧
    (row.retryOrFail now).maxAttempts = row.maxAttempts := by
  unfold Schedule.retryOrFail
  split_ifs <;> exact ⟨rfl, rfl⟩

lemma retryOrFail_status : (row.retryOrFail now).status =
    if row.maxAttempts ≤ row.attemptCount then .failed else .pending := by
  unfold Schedule.retryOrFail
  split_ifs <;> rfl

lemma finished_cases {result : Except String Outcome} :
    (row.finished now result).attemptCount = row.attemptCount ∧
      (row.finished now result).maxAttempts = row.maxAttempts ∧
      ((row.finished now result).status ∈
          [ScheduleStatus.applied, .superseded, .rejected, .failed] ∨
        (row.finished now result).status = .pending ∧ row.attemptCount < row.maxAttempts) := by
  have hretry : ∀ row' : Schedule, row'.attemptCount = row.attemptCount →
      row'.maxAttempts = row.maxAttempts →
      (row'.retryOrFail now).attemptCount = row.attemptCount ∧
        (row'.retryOrFail now).maxAttempts = row.maxAttempts ∧
        ((row'.retryOrFail now).status ∈
            [ScheduleStatus.applied, .superseded, .rejected, .failed] ∨
          (row'.retryOrFail now).status = .pending ∧ row.attemptCount < row.maxAttempts) := by
    intro row' hcount hmax
    refine ⟨retryOrFail_counts.1.trans hcount, retryOrFail_counts.2.trans hmax, ?_⟩
    rw [retryOrFail_status, hcount, hmax]
    split_ifs with hused
    · exact .inl (by decide)
    · exact .inr ⟨rfl, Nat.lt_of_not_le hused⟩
  cases result with
  | error message => exact hretry _ rfl rfl
  | ok outcome =>
    rw [Schedule.finished]
    cases outcome.status with
    | applied | skipped => exact ⟨rfl, rfl, .inl List.mem_cons_self⟩
    | superseded => exact ⟨rfl, rfl, .inl (List.mem_cons_of_mem _ List.mem_cons_self)⟩
    | rejected =>
      exact ⟨rfl, rfl, .inl (List.mem_cons_of_mem _ (List.mem_cons_of_mem _ List.mem_cons_self))⟩
    | failed => exact hretry _ rfl rfl

lemma attemptAt_update_self {phase : Worker} (h : phase.attemptAt.isSome) :
    (Function.update s.worker w phase w).attemptAt.isSome := by
  rwa [Function.update_self]

lemma FencedInv.step (h : FencedInv s) (hfenced : Fenced s c) (hmoved : Moved s s' c) :
    FencedInv s' := by
  have hinv := h.toInv.step hmoved
  cases hmoved with
  | @scheduled kind timing effectiveAt now row hnone hrow =>
    obtain ⟨hpending, hcount, hmax⟩ := scheduled_eq hrow
    obtain ⟨hholder, hclaims, -, -⟩ := h.unscheduled hnone
    refine ⟨hinv, ?_, ?_, ?_, ?_⟩ <;> rintro _ ⟨⟩
    · exact ⟨hclaims.trans hcount.symm, hcount ▸ Nat.zero_le _⟩
    · exact fun w hw => absurd (hholder.symm.trans hw) (Option.some_ne_none w).symm
    · exact fun _ => by rw [hcount, hmax]; decide
    · exact fun hstatus => absurd (hpending.symm.trans hstatus) (by decide)
  | @canceled actorId now row row' hrow hcancel =>
    rcases cancel_cases hcancel with ⟨rfl, -⟩ | ⟨hpending, hstatus, -, hcount, hmax⟩
    · refine ⟨hinv, ?_, ?_, ?_, ?_⟩ <;> rintro _ ⟨⟩
      · exact h.counted row' hrow
      · exact h.held row' hrow
      · exact h.left row' hrow
      · exact h.last row' hrow
    · refine ⟨hinv, ?_, ?_, ?_, ?_⟩ <;> rintro _ ⟨⟩
      · rw [hcount, hmax]
        exact h.counted row hrow
      · exact fun w hw => absurd (hpending.symm.trans (h.held row hrow w hw)) (by decide)
      · rw [hcount, hmax]
        exact fun _ => h.left row hrow (.inl hpending)
      · exact fun hprocessing => absurd (hstatus.symm.trans hprocessing) (by decide)
  | @claimed w now workerId row hidle hrow hdue =>
    have hroom : row.attemptCount < row.maxAttempts := by
      rcases hdue.2 with ⟨hpending, -⟩ | ⟨hprocessing, -⟩
      · exact h.left row hrow (.inl hpending)
      · exact hfenced row hrow hprocessing
    refine ⟨hinv, ?_, ?_, ?_, ?_⟩ <;> rintro _ ⟨⟩
    · exact ⟨congrArg (· + 1) (h.counted row hrow).1, hroom⟩
    · exact fun _ _ => rfl
    · rintro (hstatus | hstatus) <;> cases hstatus
    · exact fun _ _ => ⟨w, rfl, attemptAt_update_self rfl⟩
  | @executed w now facts hclaimed =>
    exact ⟨hinv, h.counted, h.held, h.left,
      fun row hrow _ _ => ⟨w, hfenced, attemptAt_update_self rfl⟩⟩
  | @finished w now result row hexecuted hrow =>
    obtain ⟨hcount, hmax, hstatus⟩ := @finished_cases row now result
    refine ⟨hinv, ?_, ?_, ?_, ?_⟩ <;> rintro _ ⟨⟩
    · rw [hcount, hmax]
      exact h.counted row hrow
    · exact fun u hu => nomatch hu
    · rw [hcount, hmax]
      rcases hstatus with hended | ⟨-, hroom⟩
      · rintro (hpending | hcanceled)
        · rw [hpending] at hended
          exact absurd hended (by decide)
        · rw [hcanceled] at hended
          exact absurd hended (by decide)
      · exact fun _ => hroom
    · intro hprocessing
      rcases hstatus with hended | ⟨hpending, -⟩
      · rw [hprocessing] at hended
        exact absurd hended (by decide)
      · exact absurd (hpending.symm.trans hprocessing) (by decide)
  | @crashed w =>
    refine ⟨hinv, h.counted, h.held, h.left, fun row hrow hprocessing hused => ?_⟩
    obtain ⟨u, hu, hworking⟩ := h.last row hrow hprocessing hused
    refine ⟨u, hu, ?_⟩
    -- the worker of the last attempt is not the one that crashed
    have hne : u ≠ w := by
      rintro rfl
      exact absurd (hfenced hworking hu row hrow) (Nat.not_lt.mpr hused)
    show (Function.update s.worker w .dead u).attemptAt.isSome
    rwa [Function.update_of_ne hne]

lemma FencedInv.holder_eq_none (h : FencedInv s) (hrow : s.schedule = some row)
    (hfinal : row.status.isFinal = true) : s.holder = none := by
  by_contra hholder
  obtain ⟨w, hw⟩ := Option.ne_none_iff_exists'.mp hholder
  have hprocessing := h.held row hrow w hw
  rw [hprocessing] at hfinal
  exact absurd hfinal (by decide)

/-- **A fenced step obeys the law.** -/
lemma effectiveOnce_of_fenced (h : FencedInv s) (hfenced : Fenced s c) (hmoved : Moved s s' c) :
    EffectiveOnce s s' := by
  have h' := h.step hfenced hmoved
  refine ⟨Nat.le_trans h'.once (by split_ifs <;> decide), fun row hrow => (h'.due row hrow).1, ?_,
    fun row hrow => (h'.counted row hrow).1 ▸ (h'.counted row hrow).2, ?_, ?_⟩
  · intro row hrow hcanceled
    cases hmoved with
    | @executed w now facts hclaimed =>
      have hholder := h.holder_eq_none hrow (by rw [hcanceled]; decide)
      exact absurd (hholder.symm.trans hfenced) (Option.some_ne_none w).symm
    | _ => rfl
  · intro row hrow hused
    cases hstatus : row.status with
    | pending => exact absurd (h'.left row hrow (.inl hstatus)) (Nat.not_lt.mpr hused)
    | canceled => exact absurd (h'.left row hrow (.inr hstatus)) (Nat.not_lt.mpr hused)
    | processing => exact .inr (h'.last row hrow hstatus hused)
    | applied | superseded | rejected | failed => exact .inl (by decide)
  · intro row hrow hfinal
    have hnot : ∀ w, s.holder ≠ some w := fun w hw =>
      absurd ((h.holder_eq_none hrow hfinal).symm.trans hw) (Option.some_ne_none w).symm
    cases hmoved with
    | scheduled hnone => exact absurd (hrow.symm.trans hnone) (Option.some_ne_none row)
    | @canceled actorId now row' row'' hrow' hcancel =>
      obtain rfl := Option.mem_unique hrow' hrow
      rcases cancel_cases hcancel with ⟨rfl, -⟩ | ⟨hpending, -⟩
      · rfl
      · rw [hpending] at hfinal
        exact absurd hfinal (by decide)
    | @claimed w now workerId row' hidle hrow' hdue =>
      obtain rfl := Option.mem_unique hrow' hrow
      rcases hdue.2 with ⟨hstatus, -⟩ | ⟨hstatus, -⟩ <;>
      · rw [hstatus] at hfinal
        exact absurd hfinal (by decide)
    | @executed w => exact hrow
    | @finished w => exact absurd hfenced (hnot w)
    | crashed => exact hrow

end Fenced

/-- **A scheduled command takes effect once and within its budget** in every run whose steps are
fenced: every step of it obeys the law. -/
theorem effectiveOnce_run (steps : List Step) (hfenced : Run.Guarded step Fenced .initial steps)
    (before : List Step) (c : Step) (after : List Step) (hsplit : steps = before ++ c :: after)
    (s' : Fleet) (hok : step (Run.run step .initial before) c = .ok s') :
    EffectiveOnce (Run.run step .initial before) s' := by
  rw [hsplit] at hfenced
  have hinv : FencedInv (Run.run step .initial before) :=
    Run.invariant_guarded (fun _ _ _ hinv hp hok => hinv.step hp (moved_of_ok hok)) before _
      fencedInv_initial hfenced.append_left
  exact effectiveOnce_of_fenced hinv (hfenced.append_right.1 ⟨s', hok⟩) (moved_of_ok hok)

def carriesOut : CommandFacts := ⟨none, .applied "applied" [], none, "head"⟩

/-- A command is scheduled, claimed, executed and finished. -/
theorem effectiveOnce_run_applied :
    let s := Run.run step .initial [.schedule .suspend .scheduled (some 10) 0, .claim 0 10 "worker",
      .execute 0 carriesOut]
    ∃ s', step s (.finish 0) = .ok s' ∧ EffectiveOnce s s' := by
  refine ⟨_, rfl, effectiveOnce_run [.schedule .suspend .scheduled (some 10) 0,
    .claim 0 10 "worker", .execute 0 carriesOut, .finish 0] ?_ _ _ [] rfl _ rfl⟩
  refine ⟨fun _ => trivial, fun _ => ?_, fun _ => rfl, fun _ => rfl, trivial⟩
  rintro _ ⟨⟩ hprocessing
  cases hprocessing

/-- Worker 0 claims, and is slow; its lease runs out, and worker 1 claims and meets a fault; the
command is canceled before it is tried again. -/
def canceledLate : List Step :=
  [.schedule .suspend .scheduled (some 0) 0, .claim 0 0 "slow", .claim 1 leaseDuration "quick",
    .execute 1 ⟨some "fault", carriesOut.dispatch, none, "head"⟩, .finish 1,
    .cancel none (leaseDuration + 1)]

/-- **A canceled command is carried out** by the worker whose lease has run out. -/
theorem canceled_carriedOut : ¬ ∀ (steps before : List Step) (c : Step) (after : List Step),
    steps = before ++ c :: after → ∀ s', step (Run.run step .initial before) c = .ok s' →
      EffectiveOnce (Run.run step .initial before) s' := by
  intro hlaw
  have heffective := hlaw _ canceledLate (.execute 0 carriesOut) [] rfl _ rfl
  exact absurd (heffective.notCanceled _ rfl rfl) (by decide)

end DotmacSub.StatusSchedules
