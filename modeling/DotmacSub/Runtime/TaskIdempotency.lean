import DotmacSub.Core.Run
import Mathlib.Data.Int.Notation

/-!
# Idempotent tasks

`task_idempotency`: workers that are given one task race for the row of its idempotency key.  A
worker looks the row up, claims it by an insertion or by a conditional update, runs the body, and
writes the outcome onto the row, whoever the row has been given to since.
-/

namespace DotmacSub.TaskIdempotency

inductive TaskExecutionStatus
  | running
  | succeeded
  | failed
deriving DecidableEq

abbrev Result := List (String × String)

structure TaskExecution where
  status : TaskExecutionStatus
  celeryTaskId : Option String
  result : Option Result
  errorMessage : Option String
  createdAt : ℤ
  updatedAt : ℤ
  completedAt : Option ℤ
deriving DecidableEq

/-- The options of the decorator; the timeout is a length of time. -/
structure TaskOptions where
  staleTimeout : ℕ
  skipIfRunning : Bool
  returnCachedResult : Bool

/-- What the body of a task returns or raises. -/
inductive Outcome
  | dict (result : Result)
  | value (result : String)
  | raised (message : String)
deriving DecidableEq

/-- What the decorated task returns or raises when it does not run the body. -/
inductive Answer
  | skipped (existingTaskId : Option String)
  | taskAlreadyRunning (existingTaskId : Option String)
  | cached (result : Result)
  | taskAlreadySucceeded (result : Option Result)
deriving DecidableEq

/-- Where an attempt stands. -/
inductive Worker
  | idle
  | found (existing : Option TaskExecution)
  | reclaiming
  | running (startedAt : ℤ)
  | finished (outcome : Outcome)
  | answered (answer : Answer)
  | dead
deriving DecidableEq

/-- The committed row and the workers; whose attempt the row is and whether an attempt was ever
marked succeeded is what has happened, which the row does not say. -/
structure Fleet where
  row : Option TaskExecution
  worker : ℕ → Worker
  holder : Option ℕ
  succeeded : Bool

/-- Nobody has claimed the key. -/
def Fleet.initial : Fleet := ⟨none, fun _ => .idle, none, false⟩

def attemptStartedAt (e : TaskExecution) : ℤ := e.updatedAt

/-- The row may be taken over: it is failed or stale. -/
def reclaimable (options : TaskOptions) (now : ℤ) (e : TaskExecution) : Prop :=
  e.status = .failed ∨ (e.status = .running ∧ e.updatedAt < now - options.staleTimeout)

instance (options : TaskOptions) (now : ℤ) (e : TaskExecution) :
    Decidable (reclaimable options now e) :=
  inferInstanceAs (Decidable (_ ∨ _))

/-- The attempt on the row is left alone: it has succeeded, or it runs and is not stale. -/
def leaves (options : TaskOptions) (now : ℤ) (existing : TaskExecution) : Prop :=
  existing.status = .succeeded ∨
    (existing.status = .running ∧ attemptStartedAt existing ≥ now - options.staleTimeout)

instance (options : TaskOptions) (now : ℤ) (e : TaskExecution) :
    Decidable (leaves options now e) :=
  inferInstanceAs (Decidable (_ ∨ _))

def inserted (now : ℤ) (celeryTaskId : Option String) : TaskExecution where
  status := .running
  celeryTaskId := celeryTaskId
  result := none
  errorMessage := none
  createdAt := now
  updatedAt := now
  completedAt := none

/-- The row of an attempt that takes over. -/
def reclaimed (now : ℤ) (celeryTaskId : Option String) (e : TaskExecution) : TaskExecution :=
  { e with status := .running, celeryTaskId, result := none, errorMessage := none,
           updatedAt := now, completedAt := none }

/-- The row after its outcome is written; every write moves `updated_at`. -/
def marked (now : ℤ) (outcome : Outcome) (e : TaskExecution) : TaskExecution :=
  match outcome with
  | .dict result =>
    { e with status := .succeeded, result := some result, updatedAt := now, completedAt := some now }
  | .value result =>
    { e with status := .succeeded, result := some [("result", result)], updatedAt := now,
             completedAt := some now }
  | .raised message =>
    { e with status := .failed, errorMessage := some (String.ofList (message.toList.take 4000)),
             updatedAt := now, completedAt := some now }

def Outcome.succeeded : Outcome → Bool
  | .raised _ => false
  | _ => true

def answer (options : TaskOptions) (execution : TaskExecution) : Answer :=
  match execution.status with
  | .running =>
    if options.skipIfRunning then .skipped execution.celeryTaskId
    else .taskAlreadyRunning execution.celeryTaskId
  | .succeeded =>
    if options.returnCachedResult then
      match execution.result with
      | some (entry :: entries) => .cached (entry :: entries)
      | _ => .cached [("cached", "True")]
    else .taskAlreadySucceeded execution.result
  | .failed => .skipped execution.celeryTaskId

inductive Step
  | look (w : ℕ)
  | claim (w : ℕ) (now : ℤ) (celeryTaskId : Option String)
  | reclaim (w : ℕ) (now : ℤ) (celeryTaskId : Option String)
  | finish (w : ℕ) (now : ℤ) (outcome : Outcome)
  | die (w : ℕ)

def Fleet.move (s : Fleet) (w : ℕ) (phase : Worker) : Fleet :=
  { s with worker := Function.update s.worker w phase }

/-- The worker starts the body on its row. -/
def Fleet.start (s : Fleet) (w : ℕ) (now : ℤ) (e : TaskExecution) : Fleet :=
  { s with row := some e, worker := Function.update s.worker w (.running now), holder := some w }

/-- The worker writes its outcome onto the row of the key. -/
def Fleet.finish (s : Fleet) (w : ℕ) (now : ℤ) (outcome : Outcome) : Fleet where
  row := s.row.map (marked now outcome)
  worker := Function.update s.worker w (.finished outcome)
  holder := s.holder
  succeeded := s.succeeded || outcome.succeeded

/-- One step; a worker that is elsewhere does not take it.  An insertion that loses the race looks
the row up again, and a claim is committed in the step that makes it. -/
def step (options : TaskOptions) (s : Fleet) : Step → Except Unit Fleet
  | .look w =>
    match s.worker w with
    | .idle => .ok (s.move w (.found s.row))
    | _ => .error ()
  | .claim w now celeryTaskId =>
    match s.worker w with
    | .found none =>
      match s.row with
      | none => .ok (s.start w now (inserted now celeryTaskId))
      | some existing => .ok (s.move w (.found (some existing)))
    | .found (some existing) =>
      if leaves options now existing then .ok (s.move w (.answered (answer options existing)))
      else .ok (s.move w .reclaiming)
    | _ => .error ()
  | .reclaim w now celeryTaskId =>
    match s.worker w, s.row with
    | .reclaiming, some e =>
      if reclaimable options now e then .ok (s.start w now (reclaimed now celeryTaskId e))
      else .ok (s.move w (.answered (answer options e)))
    | _, _ => .error ()
  | .finish w now outcome =>
    match s.worker w with
    | .running _ => .ok (s.finish w now outcome)
    | _ => .error ()
  | .die w => .ok (s.move w .dead)

def Starts (s s' : Fleet) (w : ℕ) (startedAt : ℤ) : Prop :=
  s'.worker w = .running startedAt ∧ ∀ t, s.worker w ≠ .running t

/-- The worker still runs an attempt that another one has replaced. -/
def TakenOver (s : Fleet) (w : ℕ) : Prop := (∃ t, s.worker w = .running t) ∧ s.holder ≠ some w

/-- The body is not started after a success or beside an attempt that started within the timeout,
and a worker whose attempt was taken over leaves the row alone. -/
structure SafeStep (options : TaskOptions) (s s' : Fleet) (c : Step) : Prop where
  once : ∀ w t, Starts s s' w t → s.succeeded = false
  alone : ∀ w t, Starts s s' w t → ∀ u t', u ≠ w → s.worker u = .running t' →
    t' < t - options.staleTimeout
  kept : ∀ w now outcome, c = .finish w now outcome → TakenOver s w → s'.row = s.row

/-- A worker that finishes still has the row, or writes what the row says already; and a worker that
restarts a failed task reads a clock by which every attempt that still runs is stale. -/
def Undisturbed (options : TaskOptions) (s : Fleet) : Step → Prop
  | .finish w now outcome => s.holder = some w ∨ s.row.map (marked now outcome) = s.row
  | .reclaim _ now _ => ∀ e, s.row = some e → e.status = .failed →
      ∀ u t, s.worker u = .running t → t < now - options.staleTimeout
  | _ => True

/-- Before the first claim nothing runs; after a success the row says so; an attempt that runs and
has the row is on it as running, and one that was taken over was stale then. -/
structure Inv (options : TaskOptions) (s : Fleet) : Prop where
  unborn : s.row = none → s.succeeded = false ∧ ∀ w t, s.worker w ≠ .running t
  success : s.succeeded = true → ∃ e, s.row = some e ∧ e.status = .succeeded
  held : ∀ w t, s.holder = some w → s.worker w = .running t →
    ∃ e, s.row = some e ∧ e.status = .running ∧ t = e.updatedAt
  behind : ∀ e, s.row = some e → e.status = .running → ∀ w t, s.holder ≠ some w →
    s.worker w = .running t → t < e.updatedAt - options.staleTimeout

section Steps

variable {options : TaskOptions} {s s' : Fleet} {w u : ℕ} {now t : ℤ} {e : TaskExecution} {c : Step}
  {outcome : Outcome}

lemma inv_initial : Inv options .initial :=
  ⟨fun _ => ⟨rfl, fun _ _ h => nomatch h⟩, fun h => (nomatch h), fun _ _ h => (nomatch h),
    fun _ h => nomatch h⟩

lemma move_worker {phase : Worker} (hphase : ∀ t, phase ≠ .running t)
    (h : (s.move w phase).worker u = .running t) : s.worker u = .running t := by
  simp only [Fleet.move, Function.update_apply] at h
  split_ifs at h
  · exact absurd h (hphase t)
  · exact h

lemma Inv.move (h : Inv options s) {phase : Worker} (hphase : ∀ t, phase ≠ .running t) :
    Inv options (s.move w phase) where
  unborn hrow := ⟨(h.unborn hrow).1, fun u t hu => (h.unborn hrow).2 u t (move_worker hphase hu)⟩
  success := h.success
  held u t hholder hu := h.held u t hholder (move_worker hphase hu)
  behind e hrow hstatus u t hholder hu := h.behind e hrow hstatus u t hholder (move_worker hphase hu)

lemma start_worker (h : (s.start w now e).worker u = .running t) :
    (u = w ∧ t = now) ∨ (u ≠ w ∧ s.worker u = .running t) := by
  simp only [Fleet.start, Function.update_apply] at h
  split_ifs at h with hu
  · exact .inl ⟨hu, (Worker.running.inj h).symm⟩
  · exact .inr ⟨hu, h⟩

/-- An attempt that starts alone, before any success, has the row. -/
lemma Inv.start (hrow : e.status = .running ∧ e.updatedAt = now) (hsucceeded : s.succeeded = false)
    (halone : ∀ u t, u ≠ w → s.worker u = .running t → t < now - options.staleTimeout) :
    Inv options (s.start w now e) := by
  refine ⟨nofun, fun h => ?_, ?_, ?_⟩
  · rw [show (s.start w now e).succeeded = s.succeeded from rfl, hsucceeded] at h
    exact absurd h Bool.false_ne_true
  · intro u t hholder hu
    obtain rfl : w = u := Option.some.inj hholder
    rcases start_worker hu with ⟨-, rfl⟩ | ⟨hne, -⟩
    · exact ⟨e, rfl, hrow.1, hrow.2.symm⟩
    · exact absurd rfl hne
  · intro e' he' _ u t hholder hu
    obtain rfl : e = e' := Option.some.inj he'
    rcases start_worker hu with ⟨rfl, -⟩ | ⟨hne, hu⟩
    · exact absurd rfl hholder
    · rw [hrow.2]
      exact halone u t hne hu

lemma finish_worker (h : (s.finish w now outcome).worker u = .running t) :
    u ≠ w ∧ s.worker u = .running t := by
  simp only [Fleet.finish, Function.update_apply] at h
  split_ifs at h with hu
  exact ⟨hu, h⟩

lemma marked_status : (marked now outcome e).status =
    if outcome.succeeded then .succeeded else .failed := by
  cases outcome <;> rfl

lemma Inv.finish (h : Inv options s) (hw : s.worker w = .running t)
    (hundisturbed : s.holder = some w ∨ s.row.map (marked now outcome) = s.row) :
    Inv options (s.finish w now outcome) := by
  have hborn : ∃ e, s.row = some e := by
    cases hrow : s.row with
    | none => exact absurd hw ((h.unborn hrow).2 w t)
    | some e => exact ⟨e, rfl⟩
  obtain ⟨e, hrow⟩ := hborn
  have hrow' : (s.finish w now outcome).row = some (marked now outcome e) := by
    rw [Fleet.finish, hrow, Option.map_some]
  have hdone : (marked now outcome e).status ≠ .running := by
    rw [marked_status]
    split_ifs <;> decide
  refine ⟨fun hnone => ?_, fun hsucceeded => ?_, fun u t' hholder hu => ?_, ?_⟩
  · rw [hrow'] at hnone
    exact absurd hnone (Option.some_ne_none _)
  · refine ⟨_, hrow', ?_⟩
    rw [marked_status]
    rcases Bool.or_eq_true_iff.mp hsucceeded with hbefore | houtcome
    · obtain ⟨e', he', hstatus⟩ := h.success hbefore
      rcases hundisturbed with hholder | hsame
      · obtain ⟨e'', he'', hrunning, -⟩ := h.held w t hholder hw
        rw [Option.mem_unique he' he'', hrunning] at hstatus
        exact absurd hstatus (by decide)
      · rw [hrow, Option.map_some, Option.some.injEq] at hsame
        have hmarked : (marked now outcome e).status = _ := marked_status
        rw [← hmarked, hsame, Option.mem_unique hrow he']
        exact hstatus
    · rw [if_pos houtcome]
  · obtain ⟨hne, hu⟩ := finish_worker hu
    rcases hundisturbed with hholds | hsame
    · exact absurd (Option.mem_unique hholder hholds) hne
    · obtain ⟨e', he', hfacts⟩ := h.held u t' hholder hu
      exact ⟨e', (hsame.trans he' : s.row.map _ = _), hfacts⟩
  · intro e' he' hstatus
    rw [hrow', Option.some.injEq] at he'
    exact absurd (he' ▸ hstatus) hdone

lemma step_cases (hok : step options s c = .ok s') :
    (∃ w phase, s' = s.move w phase ∧ (∀ t, phase ≠ .running t) ∧
      (∀ w' now outcome, c ≠ .finish w' now outcome) ∧ Undisturbed options s c) ∨
    (∃ w now id, c = .claim w now id ∧ s.row = none ∧ (∀ t, s.worker w ≠ .running t) ∧
      s' = s.start w now (inserted now id)) ∨
    (∃ w now id e, c = .reclaim w now id ∧ s.row = some e ∧ reclaimable options now e ∧
      (∀ t, s.worker w ≠ .running t) ∧ s' = s.start w now (reclaimed now id e)) ∨
    ∃ w now outcome t, c = .finish w now outcome ∧ s.worker w = .running t ∧
      s' = s.finish w now outcome := by
  cases c with
  | look w =>
    simp only [step] at hok
    split at hok
    · exact .inl ⟨w, _, (Except.ok.inj hok).symm, fun _ => nofun, fun _ _ _ => nofun, trivial⟩
    · cases hok
  | claim w now id =>
    simp only [step] at hok
    split at hok
    · rename_i hw
      split at hok
      · rename_i hrow
        refine .inr (.inl ⟨w, now, id, rfl, hrow, fun t => ?_, (Except.ok.inj hok).symm⟩)
        rw [hw]
        exact nofun
      · exact .inl ⟨w, _, (Except.ok.inj hok).symm, fun _ => nofun, fun _ _ _ => nofun, trivial⟩
    · split_ifs at hok
      · exact .inl ⟨w, _, (Except.ok.inj hok).symm, fun _ => nofun, fun _ _ _ => nofun, trivial⟩
      · exact .inl ⟨w, _, (Except.ok.inj hok).symm, fun _ => nofun, fun _ _ _ => nofun, trivial⟩
    · cases hok
  | reclaim w now id =>
    simp only [step] at hok
    split at hok
    · rename_i e hw hrow
      split_ifs at hok with hreclaimable
      · refine .inr (.inr (.inl ⟨w, now, id, e, rfl, hrow, hreclaimable, fun t => ?_,
          (Except.ok.inj hok).symm⟩))
        rw [hw]
        exact nofun
      · refine .inl ⟨w, _, (Except.ok.inj hok).symm, fun _ => nofun, fun _ _ _ => nofun, ?_⟩
        intro e' he' hstatus
        rw [Option.mem_unique he' hrow] at hstatus
        exact absurd (.inl hstatus) hreclaimable
    · cases hok
  | finish w now outcome =>
    simp only [step] at hok
    split at hok
    · rename_i t hw
      exact .inr (.inr (.inr ⟨w, now, outcome, t, rfl, hw, (Except.ok.inj hok).symm⟩))
    · cases hok
  | die w => exact .inl ⟨w, .dead, (Except.ok.inj hok).symm, fun _ => nofun, fun _ _ _ => nofun, trivial⟩

/-- An attempt on a row that is taken over starts alone, if nobody disturbs it. -/
lemma alone_of_reclaimable (h : Inv options s) (hrow : s.row = some e)
    (hreclaimable : reclaimable options now e)
    (hfailed : e.status = .failed →
      ∀ u t, s.worker u = .running t → t < now - options.staleTimeout) :
    ∀ u t, s.worker u = .running t → t < now - options.staleTimeout := by
  rcases hreclaimable with hstatus | ⟨hstatus, hstale⟩
  · exact hfailed hstatus
  · intro u t hu
    by_cases hholder : s.holder = some u
    · obtain ⟨e', he', -, rfl⟩ := h.held u t hholder hu
      rw [← Option.mem_unique hrow he']
      exact hstale
    · have hbehind := h.behind e hrow hstatus u t hholder hu
      omega

lemma not_succeeded_of_reclaimable (h : Inv options s) (hrow : s.row = some e)
    (hreclaimable : reclaimable options now e) : s.succeeded = false := by
  by_contra hsucceeded
  obtain ⟨e', he', hstatus⟩ := h.success (Bool.not_eq_false _ ▸ hsucceeded)
  rw [← Option.mem_unique hrow he'] at hstatus
  rcases hreclaimable with hfailed | ⟨hrunning, -⟩
  · exact absurd (hstatus.symm.trans hfailed) (by decide)
  · exact absurd (hstatus.symm.trans hrunning) (by decide)

/-- An undisturbed step keeps what the row says of its attempts. -/
lemma Inv.step (h : Inv options s) (hundisturbed : Undisturbed options s c)
    (hok : step options s c = .ok s') : Inv options s' := by
  rcases step_cases hok with ⟨w, phase, rfl, hphase, -, -⟩ | ⟨w, now, id, rfl, hrow, -, rfl⟩ |
    ⟨w, now, id, e, rfl, hrow, hreclaimable, -, rfl⟩ | ⟨w, now, outcome, t, rfl, hw, rfl⟩
  · exact h.move hphase
  · obtain ⟨hsucceeded, hnobody⟩ := h.unborn hrow
    exact .start ⟨rfl, rfl⟩ hsucceeded fun u t _ hu => absurd hu (hnobody u t)
  · refine .start ⟨rfl, rfl⟩ (not_succeeded_of_reclaimable h hrow hreclaimable) fun u t _ hu => ?_
    exact alone_of_reclaimable h hrow hreclaimable (hundisturbed e hrow) u t hu
  · exact h.finish hw hundisturbed

lemma starts_start (h : Starts s (s.start w now e) u t) : u = w ∧ t = now := by
  rcases start_worker h.1 with hstarted | ⟨-, hu⟩
  · exact hstarted
  · exact absurd hu (h.2 t)

lemma SafeStep.of_not_starts (hstarts : ∀ w t, ¬ Starts s s' w t)
    (hkept : ∀ w now outcome, c = .finish w now outcome → TakenOver s w → s'.row = s.row) :
    SafeStep options s s' c :=
  ⟨fun w t h => absurd h (hstarts w t), fun w t h => absurd h (hstarts w t), hkept⟩

lemma SafeStep.of_start (hsucceeded : s.succeeded = false)
    (halone : ∀ u t, u ≠ w → s.worker u = .running t → t < now - options.staleTimeout)
    (hc : ∀ w' now' outcome, c ≠ .finish w' now' outcome) :
    SafeStep options s (s.start w now e) c := by
  refine ⟨fun _ _ _ => hsucceeded, fun v t h u t' hne hu => ?_,
    fun w' now' outcome heq => absurd heq (hc w' now' outcome)⟩
  obtain ⟨rfl, rfl⟩ := starts_start h
  exact halone u t' hne hu

lemma safeStep_iff (h : Inv options s) (hok : step options s c = .ok s') :
    SafeStep options s s' c ↔ Undisturbed options s c := by
  rcases step_cases hok with ⟨w, phase, rfl, hphase, hc, hundisturbed⟩ | ⟨w, now, id, rfl, hrow, -, rfl⟩ |
    ⟨w, now, id, e, rfl, hrow, hreclaimable, hw, rfl⟩ | ⟨w, now, outcome, t, rfl, hw, rfl⟩
  · refine ⟨fun _ => hundisturbed, fun _ => .of_not_starts (fun u t hstarts => ?_) ?_⟩
    · exact hstarts.2 t (move_worker hphase hstarts.1)
    · exact fun w' now outcome heq => absurd heq (hc w' now outcome)
  · obtain ⟨hsucceeded, hnobody⟩ := h.unborn hrow
    refine ⟨fun _ => trivial, fun _ => ?_⟩
    exact .of_start hsucceeded (fun u t _ hu => absurd hu (hnobody u t)) fun _ _ _ => nofun
  · constructor
    · intro hsafe e' he' hstatus u t hu
      refine hsafe.alone w now ⟨Function.update_self .., hw⟩ u t ?_ hu
      rintro rfl
      exact hw t hu
    · intro hundisturbed
      refine .of_start (not_succeeded_of_reclaimable h hrow hreclaimable) (fun u t _ hu => ?_)
        fun _ _ _ => nofun
      exact alone_of_reclaimable h hrow hreclaimable (hundisturbed e hrow) u t hu
  · constructor
    · intro hsafe
      by_cases hholder : s.holder = some w
      · exact .inl hholder
      · exact .inr (hsafe.kept w now outcome rfl ⟨⟨t, hw⟩, hholder⟩)
    · intro hundisturbed
      refine .of_not_starts (fun u t' hstarts => hstarts.2 t' (finish_worker hstarts.1).2) ?_
      intro w' now' outcome' heq htaken
      obtain ⟨rfl, rfl, rfl⟩ := Step.finish.inj heq
      exact hundisturbed.resolve_left htaken.2

end Steps

def Safe (options : TaskOptions) (steps : List Step) : Prop :=
  ∀ before c after, steps = before ++ c :: after → ∀ s',
    step options (Run.run (step options) .initial before) c = .ok s' →
    SafeStep options (Run.run (step options) .initial before) s' c

/-- **A task runs once to success and never beside a live attempt, exactly where nobody finishes an
attempt that was taken over.**  The workers are as many as they like and take their steps in any
order, each with any clock readings. -/
theorem safe_iff (options : TaskOptions) (steps : List Step) :
    Safe options steps ↔
      Run.Guarded (step options) (Undisturbed options) .initial steps := by
  have hsafe : Safe options steps ↔ Run.Guarded (step options)
      (fun s c => ∀ s', step options s c = .ok s' → SafeStep options s s' c) .initial steps := by
    rw [Run.guarded_iff_forall_split]
    constructor
    · exact fun h before c after heq _ s' hok => h before c after heq s' hok
    · exact fun h before c after heq s' hok => h before c after heq ⟨s', hok⟩ s' hok
  rw [hsafe]
  refine Run.guarded_congr (fun s c s' h hundisturbed hok => h.step hundisturbed hok) ?_ steps _
    inv_initial
  intro s c s' h hok
  rw [← safeStep_iff h hok]
  constructor
  · exact fun hall => hall s' hok
  · rintro hstep s'' hok'
    rw [Except.ok.inj (hok'.symm.trans hok)]
    exact hstep

/-- Worker 1 takes over from worker 0, which returns late; then worker 1 fails and worker 2 starts the
body again. -/
def lateReturn : List Step :=
  [.look 0, .claim 0 0 none, .look 1, .claim 1 3601 none, .reclaim 1 3601 none,
    .finish 0 3602 (.dict []), .finish 1 3603 (.raised "timeout"), .look 2, .claim 2 3604 none]

/-- The body is started again after an attempt was marked succeeded. -/
theorem lateReturn_unsafe : ¬ Safe ⟨3600, true, true⟩ (lateReturn ++ [.reclaim 2 3605 none]) := by
  intro hsafe
  have honce := (hsafe lateReturn _ [] rfl _ rfl).once 2 3605 ⟨by decide +kernel, ?_⟩
  · exact absurd honce (by decide +kernel)
  · intro t ht
    have hreclaiming : (Run.run (step ⟨3600, true, true⟩) .initial lateReturn).worker 2 =
        .reclaiming := by decide +kernel
    rw [hreclaiming] at ht
    exact Worker.noConfusion ht

end DotmacSub.TaskIdempotency
