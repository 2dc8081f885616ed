import DotmacSub.Core.Run
import DotmacSub.Runtime.EventPlan
import Mathlib.Data.List.Dedup

/-!
# The delivery of an event

`events/dispatcher` and `event_store`: an outbox row is dispatched once and retried until every
handler of its plan has run.  A handler works in a savepoint, which lasts if the pass commits; what
is left to do is remembered in the failure manifest of the row.

The `error` text and the `processed_at` stamp of the row, which nothing here reads, are left out.
-/

namespace DotmacSub.EventDelivery

inductive EventStatus
  | pending
  | processing
  | completed
  | failed
deriving DecidableEq

structure Failure where
  handler : String
  error : String
  blockedBy : Option String
deriving DecidableEq

inductive AttemptStatus
  | success
  | failed
  | blocked
deriving DecidableEq

structure HandlerAttempt where
  handlerName : String
  status : AttemptStatus
  error : Option String
  retryCount : ℕ
  attemptedAt : ℤ
deriving DecidableEq

structure EventRecord where
  status : EventStatus
  retryCount : ℕ
  failedHandlers : Option (List Failure)
  isActive : Bool
  createdAt : ℤ
  updatedAt : ℤ
deriving DecidableEq

/-- What is committed: the row, the attempts on it, and the handlers whose savepoints are part of a
committed transaction, in order. -/
structure EventDb where
  record : EventRecord
  attempts : List HandlerAttempt
  effects : List String
deriving DecidableEq

def EventDb.emitted (now : ℤ) : EventDb := ⟨⟨.pending, 0, none, true, now, now⟩, [], []⟩

/-! ## One pass over the plan -/

/-- A pass under way; `succeeded` are the handlers that satisfy dependencies. -/
structure Progress where
  attempts : List HandlerAttempt
  effects : List String
  succeeded : List String
  failures : List Failure

def unmet (p : Progress) (step : HandlerStep) : List String :=
  (step.dependencies.filter (· ∉ p.succeeded)).dedup.insertionSort (· ≤ ·)

def Progress.fail (p : Progress) (status : AttemptStatus) (retryCount : ℕ) (now : ℤ)
    (failure : Failure) : Progress :=
  { p with
    attempts := p.attempts ++ [⟨failure.handler, status, some failure.error, retryCount, now⟩]
    failures := p.failures ++ [failure] }

/-- The savepoint of the handler is kept. -/
def Progress.succeed (p : Progress) (retryCount : ℕ) (now : ℤ) (name : String) : Progress :=
  { p with
    attempts := p.attempts ++ [⟨name, .success, none, retryCount, now⟩]
    effects := p.effects ++ [name]
    succeeded := p.succeeded ++ [name] }

/-- Run one handler, unless a dependency blocks it; `outcome` is the error it raises, if any. -/
def processStep (retryCount : ℕ) (now : ℤ) (outcome : String → Option String) (p : Progress)
    (step : HandlerStep) : Progress :=
  let unmet := unmet p step
  if unmet ≠ [] then
    p.fail .blocked retryCount now
      ⟨step.handlerName, "blocked by event dependencies: " ++ String.intercalate ", " unmet,
        some (String.intercalate "," unmet)⟩
  else
    match outcome step.handlerName with
    | none => p.succeed retryCount now step.handlerName
    | some error => p.fail .failed retryCount now ⟨step.handlerName, error, none⟩

/-- Handlers by the failure manifest; a row without one goes by the latest attempt of each. -/
def failedHandlerNames (db : EventDb) : List String :=
  match db.record.failedHandlers with
  | some failures => failures.map Failure.handler
  | none =>
    let latest (name : String) : Option HandlerAttempt :=
      (db.attempts.filter (·.handlerName = name)).foldl (fun previous attempt =>
        match previous with
        | none => some attempt
        | some previous =>
          if previous.retryCount < attempt.retryCount ∨
            (previous.retryCount = attempt.retryCount ∧ previous.attemptedAt ≤ attempt.attemptedAt)
          then some attempt else some previous) none
    ((db.attempts.map HandlerAttempt.handlerName).dedup).filter fun name =>
      (latest name).any fun attempt => attempt.status = .failed ∨ attempt.status = .blocked

def selected (plan : List HandlerStep) (failedNames : List String) : List HandlerStep :=
  if failedNames = [] then plan else plan.filter (·.handlerName ∈ failedNames)

/-- Predecessors that succeeded before satisfy dependencies without running again. -/
def succeededBefore (plan : List HandlerStep) (failedNames : List String) : List String :=
  if failedNames = [] then []
  else (plan.map HandlerStep.handlerName).filter (· ∉ failedNames)

def processPlan (plan : List HandlerStep) (failedNames : List String) (retryCount : ℕ) (now : ℤ)
    (outcome : String → Option String) (db : EventDb) : Progress :=
  (selected plan failedNames).foldl (processStep retryCount now outcome)
    ⟨db.attempts, db.effects, succeededBefore plan failedNames, []⟩

/-- The row after a pass: failed with its manifest, or completed. -/
def markEventCompleted (now : ℤ) (failures : List Failure) (record : EventRecord) : EventRecord :=
  if failures ≠ [] then
    { record with status := .failed, failedHandlers := some failures, updatedAt := now }
  else { record with status := .completed, failedHandlers := none, updatedAt := now }

/-- What a pass commits at its end. -/
def EventDb.finish (db : EventDb) (now : ℤ) (p : Progress) : EventDb :=
  ⟨markEventCompleted now p.failures db.record, p.attempts, p.effects⟩

def claimPendingEvent (now : ℤ) (db : EventDb) : Option EventDb :=
  if db.record.status = .pending ∧ db.record.isActive then
    some { db with record := { db.record with status := .processing, updatedAt := now } }
  else none

/-- Claim and dispatch the row; all of it is committed at the end. -/
def dispatchPendingEvent (plan : List HandlerStep) (now : ℤ) (outcome : String → Option String)
    (db : EventDb) : Option EventDb :=
  (claimPendingEvent now db).map fun claimed =>
    claimed.finish now (processPlan plan [] 0 now outcome claimed)

/-- The row, taken up again; this is committed at once. -/
def markRetryStarted (now : ℤ) (db : EventDb) : EventDb :=
  { db with record := { db.record with
      retryCount := db.record.retryCount + 1, status := .processing, updatedAt := now } }

/-- Retry the failed handlers of a row that was taken up; this is committed at the end. -/
def retryEvent (plan : List HandlerStep) (failedNames : List String) (now : ℤ)
    (outcome : String → Option String) (started : EventDb) : EventDb :=
  started.finish now
    (processPlan plan failedNames started.record.retryCount now outcome started)

def retryable (maxRetries : ℕ) (cutoff : ℤ) (record : EventRecord) : Bool :=
  record.status = .failed && record.retryCount < maxRetries && cutoff < record.createdAt &&
    record.isActive

def stale (cutoff : ℤ) (record : EventRecord) : Bool :=
  record.status = .processing && record.updatedAt < cutoff && record.isActive

/-- A stuck row is marked failed; its manifest stays. -/
def markStaleProcessingEvents (now cutoff : ℤ) (db : EventDb) : EventDb :=
  if stale cutoff db.record then
    { db with record := { db.record with status := .failed, updatedAt := now } }
  else db

/-- Where a pass crashes: nowhere, before anything is committed, or before its last commit. -/
inductive Crash
  | never
  | first
  | last

inductive Pass
  | dispatch (now : ℤ) (outcome : String → Option String) (crash : Crash)
  | retry (now : ℤ) (maxRetries : ℕ) (cutoff : ℤ) (outcome : String → Option String) (crash : Crash)
  | sweep (now cutoff : ℤ) (crash : Crash)

def step (plan : List HandlerStep) (db : EventDb) : Pass → Except Unit EventDb
  | .dispatch now outcome crash =>
    match dispatchPendingEvent plan now outcome db, crash with
    | some db', .never => .ok db'
    | _, _ => .error ()
  | .retry now maxRetries cutoff outcome crash =>
    if retryable maxRetries cutoff db.record then
      match crash with
      | .never => .ok (retryEvent plan (failedHandlerNames db) now outcome (markRetryStarted now db))
      | .first => .error ()
      | .last => .ok (markRetryStarted now db)
    else .error ()
  | .sweep now cutoff crash =>
    match crash with
    | .never => .ok (markStaleProcessingEvents now cutoff db)
    | _ => .error ()

def Ordered (plan : List HandlerStep) (effects : List String) : Prop :=
  ∀ before h after, effects = before ++ h :: after →
    ∃ s ∈ plan, s.handlerName = h ∧ ∀ d ∈ s.dependencies, d ∈ before

def Waits (plan : List HandlerStep) (db : EventDb) (name : String) : Prop :=
  ∃ s ∈ plan, s.handlerName = name ∧ ∃ d ∈ s.dependencies, d ∉ db.effects

/-- A pass over the row that has taken up the handlers of `done`. -/
structure Sound (plan : List HandlerStep) (db : EventDb) (done : List String) (p : Progress) :
    Prop where
  kept : db.effects ⊆ p.effects
  once : p.effects.Nodup
  ordered : Ordered plan p.effects
  satisfied : ∀ n, n ∈ p.succeeded ↔ n ∈ p.effects
  manifest : p.failures.map Failure.handler = done.filter (· ∉ p.effects)
  attempted : p.attempts.map HandlerAttempt.handlerName =
    db.attempts.map HandlerAttempt.handlerName ++ done
  blocked : ∀ a ∈ p.attempts, a ∈ db.attempts ∨ (a.status = .blocked → Waits plan db a.handlerName)

section Pass

variable {plan : List HandlerStep} {db : EventDb} {done effects : List String} {p : Progress}
  {s : HandlerStep} {retryCount : ℕ} {now : ℤ} {outcome : String → Option String}

lemma ordered_nil : Ordered plan [] := by
  intro before h after heq
  exact absurd heq.symm (List.append_ne_nil_of_right_ne_nil _ (List.cons_ne_nil _ _))

lemma Ordered.snoc (h : Ordered plan effects) (hs : s ∈ plan)
    (hdeps : ∀ d ∈ s.dependencies, d ∈ effects) : Ordered plan (effects ++ [s.handlerName]) := by
  intro before n after heq
  rcases after.eq_nil_or_concat with rfl | ⟨rest, last, rfl⟩
  · obtain ⟨rfl, hlast⟩ := List.append_inj' heq rfl
    obtain rfl := List.singleton_injective hlast
    exact ⟨s, hs, rfl, hdeps⟩
  · rw [List.concat_eq_append, ← List.cons_append, ← List.append_assoc] at heq
    obtain ⟨hinit, -⟩ := List.append_inj' heq rfl
    exact h before n rest hinit

lemma Ordered.mem_names (h : Ordered plan effects) {n : String} (hn : n ∈ effects) :
    n ∈ plan.map HandlerStep.handlerName := by
  obtain ⟨before, after, rfl⟩ := List.append_of_mem hn
  obtain ⟨s, hs, rfl, -⟩ := h before n after rfl
  exact List.mem_map_of_mem hs

lemma unmet_eq_nil : unmet p s = [] ↔ ∀ d ∈ s.dependencies, d ∈ p.succeeded := by
  have hperm : (unmet p s).Perm (s.dependencies.filter (· ∉ p.succeeded)).dedup :=
    List.perm_insertionSort _ _
  simp only [List.eq_nil_iff_forall_not_mem, hperm.mem_iff, List.mem_dedup, List.mem_filter,
    decide_eq_true_eq, not_and, not_not]

lemma Sound.fail (h : Sound plan db done p) {status : AttemptStatus} (failure : Failure)
    (hnew : failure.handler ∉ p.effects)
    (hwaits : status = .blocked → Waits plan db failure.handler) :
    Sound plan db (done ++ [failure.handler]) (p.fail status retryCount now failure) := by
  refine ⟨h.kept, h.once, h.ordered, h.satisfied, ?_, ?_, fun a ha => ?_⟩
  · have hlast : [failure.handler].filter (· ∉ p.effects) = [failure.handler] := by simp [hnew]
    rw [List.filter_append, Progress.fail, List.map_append, h.manifest, hlast, List.map_singleton]
  · simp [Progress.fail, h.attempted]
  · rcases List.mem_append.mp ha with ha | ha
    · exact h.blocked a ha
    · rw [List.mem_singleton.mp ha]
      exact .inr hwaits

lemma Sound.succeed (h : Sound plan db done p) (hs : s ∈ plan)
    (hdeps : ∀ d ∈ s.dependencies, d ∈ p.succeeded) (hnew : s.handlerName ∉ p.effects)
    (hdone : s.handlerName ∉ done) :
    Sound plan db (done ++ [s.handlerName]) (p.succeed retryCount now s.handlerName) := by
  refine ⟨fun n hn => List.mem_append_left _ (h.kept hn), ?_,
    h.ordered.snoc hs fun d hd => (h.satisfied d).mp (hdeps d hd), fun n => ?_, ?_, ?_,
    fun a ha => ?_⟩
  · exact List.nodup_append.mpr ⟨h.once, List.nodup_singleton _, fun a ha b hb => by
      rw [List.mem_singleton.mp hb]
      exact fun heq => hnew (heq ▸ ha)⟩
  · simp [Progress.succeed, h.satisfied n]
  · have hkept : done.filter (· ∉ p.effects ++ [s.handlerName]) = done.filter (· ∉ p.effects) := by
      refine List.filter_congr fun n hn => ?_
      have hne : n ≠ s.handlerName := fun heq => hdone (heq ▸ hn)
      simp [hne]
    have hlast : [s.handlerName].filter (· ∉ p.effects ++ [s.handlerName]) = [] := by simp
    rw [List.filter_append, show (p.succeed retryCount now s.handlerName).effects =
      p.effects ++ [s.handlerName] from rfl, hkept, hlast, List.append_nil]
    exact h.manifest
  · simp [Progress.succeed, h.attempted]
  · rcases List.mem_append.mp ha with ha | ha
    · exact h.blocked a ha
    · rw [List.mem_singleton.mp ha]
      exact .inr nofun

lemma Sound.processStep (h : Sound plan db done p) (hs : s ∈ plan) (hnew : s.handlerName ∉ p.effects)
    (hdone : s.handlerName ∉ done) :
    Sound plan db (done ++ [s.handlerName]) (processStep retryCount now outcome p s) := by
  unfold EventDelivery.processStep
  by_cases hblocked : unmet p s = []
  · simp only [hblocked, ne_eq, not_true_eq_false, if_false]
    cases outcome s.handlerName with
    | none => exact h.succeed hs (unmet_eq_nil.mp hblocked) hnew hdone
    | some error => exact h.fail ⟨s.handlerName, error, none⟩ hnew nofun
  · simp only [ne_eq, hblocked, not_false_eq_true, if_true]
    have hwaits : Waits plan db s.handlerName := by
      rw [unmet_eq_nil, not_forall] at hblocked
      obtain ⟨d, hd⟩ := hblocked
      obtain ⟨hd, hunmet⟩ := Classical.not_imp.mp hd
      exact ⟨s, hs, rfl, d, hd, fun hkept => hunmet ((h.satisfied d).mpr (h.kept hkept))⟩
    exact h.fail ⟨s.handlerName, _, _⟩ hnew fun _ => hwaits

lemma effects_processStep {n : String} (h : n ∈ (processStep retryCount now outcome p s).effects) :
    n ∈ p.effects ∨ n = s.handlerName := by
  unfold EventDelivery.processStep at h
  by_cases hblocked : unmet p s = []
  · simp only [hblocked, ne_eq, not_true_eq_false, if_false] at h
    cases houtcome : outcome s.handlerName with
    | none =>
      rw [houtcome] at h
      simpa [Progress.succeed] using h
    | some error =>
      rw [houtcome] at h
      exact .inl h
  · simp only [ne_eq, hblocked, not_false_eq_true, if_true] at h
    exact .inl h

lemma Sound.foldl : ∀ (steps : List HandlerStep) {done : List String} {p : Progress},
    Sound plan db done p → (∀ s ∈ steps, s ∈ plan) →
    (done ++ steps.map HandlerStep.handlerName).Nodup →
    (∀ s ∈ steps, s.handlerName ∉ p.effects) →
    Sound plan db (done ++ steps.map HandlerStep.handlerName)
      (steps.foldl (EventDelivery.processStep retryCount now outcome) p)
  | [], done, p, h, _, _, _ => by
    rw [List.map_nil, List.append_nil]
    exact h
  | s :: steps, done, p, h, hplan, hnodup, hnew => by
    rw [List.map_cons, List.append_cons] at hnodup ⊢
    have hfresh := (List.nodup_append.mp hnodup)
    have hdone : s.handlerName ∉ done := fun hmem =>
      (List.nodup_append.mp hfresh.1).2.2 _ hmem _ (List.mem_singleton_self _) rfl
    refine Sound.foldl steps (h.processStep (hplan s List.mem_cons_self)
      (hnew s List.mem_cons_self) hdone) (fun s' hs' => hplan s' (List.mem_cons_of_mem _ hs'))
      hnodup fun s' hs' hmem => ?_
    rcases effects_processStep hmem with hmem | heq
    · exact hnew s' (List.mem_cons_of_mem _ hs') hmem
    · exact hfresh.2.2 _ (List.mem_append_right _ (List.mem_singleton_self _)) _
        (List.mem_map_of_mem hs') heq.symm

end Pass

/-! ## Every sequence of passes -/

def retried (plan : List HandlerStep) (db : EventDb) : List String :=
  (selected plan (failedHandlerNames db)).map HandlerStep.handlerName

def uncommitted (plan : List HandlerStep) (db : EventDb) : List String :=
  (plan.map HandlerStep.handlerName).filter (· ∉ db.effects)

/-- No handler has two effects, each comes after what it waits for, and the row says which handlers
have none. -/
structure Delivered (plan : List HandlerStep) (db : EventDb) : Prop where
  once : db.effects.Nodup
  ordered : Ordered plan db.effects
  pending : db.record.status = .pending → db.effects = []
  completed : db.record.status = .completed → uncommitted plan db = []
  manifest : db.record.status = .failed ∨ db.record.status = .processing →
    ∃ failures, db.record.failedHandlers = some failures ∧
      failures.map Failure.handler = uncommitted plan db ∧ uncommitted plan db ≠ []

section Passes

variable {plan : List HandlerStep} {db db' : EventDb} {p : Progress} {now : ℤ}
  {outcome : String → Option String} {retryCount : ℕ} {failedNames : List String} {pass : Pass}

lemma mem_uncommitted {n : String} : n ∈ uncommitted plan db ↔
    n ∈ plan.map HandlerStep.handlerName ∧ n ∉ db.effects := by
  simp [uncommitted]

lemma Delivered.emitted : Delivered plan (.emitted now) :=
  ⟨.nil, ordered_nil, fun _ => rfl, nofun, by simp [EventDb.emitted]⟩

lemma names_selected (hne : uncommitted plan db ≠ []) :
    (selected plan (uncommitted plan db)).map HandlerStep.handlerName = uncommitted plan db := by
  have hsame : ∀ s ∈ plan, decide (s.handlerName ∈ uncommitted plan db) =
      decide (s.handlerName ∉ db.effects) := by
    intro s hs
    rw [decide_eq_decide, mem_uncommitted]
    exact and_iff_right (List.mem_map_of_mem hs)
  rw [selected, if_neg hne, List.filter_congr hsame, uncommitted, List.filter_map]
  rfl

lemma sound_processPlan (hnodup : (plan.map HandlerStep.handlerName).Nodup)
    (honce : db.effects.Nodup) (hordered : Ordered plan db.effects)
    (hnames : (failedNames = uncommitted plan db ∧ uncommitted plan db ≠ []) ∨
      (failedNames = [] ∧ db.effects = [])) :
    Sound plan db (uncommitted plan db) (processPlan plan failedNames retryCount now outcome db) := by
  have hselected : (selected plan failedNames).map HandlerStep.handlerName = uncommitted plan db := by
    rcases hnames with ⟨rfl, hne⟩ | ⟨rfl, hnone⟩
    · exact names_selected hne
    · simp [selected, uncommitted, hnone]
  have hsub : ∀ s ∈ selected plan failedNames, s ∈ plan := by
    intro s hs
    unfold selected at hs
    split_ifs at hs
    · exact hs
    · exact List.mem_of_mem_filter hs
  have hsatisfied : ∀ n, n ∈ succeededBefore plan failedNames ↔ n ∈ db.effects := by
    intro n
    rcases hnames with ⟨rfl, hne⟩ | ⟨rfl, hnone⟩
    · rw [succeededBefore, if_neg hne, List.mem_filter, decide_eq_true_eq, mem_uncommitted]
      constructor
      · rintro ⟨hn, hcommitted⟩
        by_contra hmem
        exact hcommitted ⟨hn, hmem⟩
      · exact fun hn => ⟨hordered.mem_names hn, fun hmem => hmem.2 hn⟩
    · simp [succeededBefore, hnone]
  have hstart : Sound plan db []
      ⟨db.attempts, db.effects, succeededBefore plan failedNames, []⟩ :=
    ⟨fun _ hn => hn, honce, hordered, hsatisfied, rfl, (List.append_nil _).symm,
      fun _ ha => .inl ha⟩
  have hnodup' : ([] ++ (selected plan failedNames).map HandlerStep.handlerName).Nodup := by
    rw [List.nil_append, hselected]
    exact hnodup.filter _
  have hfold : Sound plan db ([] ++ _) (processPlan plan failedNames retryCount now outcome db) :=
    hstart.foldl _ hsub hnodup'
      fun s hs => (mem_uncommitted.mp (hselected ▸ List.mem_map_of_mem hs)).2
  rw [List.nil_append, hselected] at hfold
  exact hfold

lemma Sound.finish (h : Sound plan db (uncommitted plan db) p) :
    Delivered plan (db.finish now p) := by
  have hrest : p.failures.map Failure.handler = uncommitted plan (db.finish now p) := by
    rw [h.manifest, uncommitted, uncommitted, List.filter_filter]
    refine List.filter_congr fun n _ => ?_
    rw [← Bool.decide_and, decide_eq_decide]
    exact and_iff_left_of_imp fun hn hbefore => hn (h.kept hbefore)
  by_cases hnone : p.failures = []
  · have hstatus : (db.finish now p).record.status = .completed := by
      simp [EventDb.finish, markEventCompleted, hnone]
    refine ⟨h.once, h.ordered, ?_, fun _ => ?_, ?_⟩
    · rw [hstatus]
      exact nofun
    · rw [← hrest, hnone, List.map_nil]
    · rw [hstatus]
      exact nofun
  · have hstatus : (db.finish now p).record.status = .failed := by
      simp [EventDb.finish, markEventCompleted, hnone]
    refine ⟨h.once, h.ordered, ?_, ?_, fun _ => ⟨p.failures, ?_, hrest, ?_⟩⟩
    · rw [hstatus]
      exact nofun
    · rw [hstatus]
      exact nofun
    · simp [EventDb.finish, markEventCompleted, hnone]
    · rw [← hrest, ne_eq, List.map_eq_nil_iff]
      exact hnone

lemma failedHandlerNames_eq (h : Delivered plan db)
    (hstatus : db.record.status = .failed ∨ db.record.status = .processing) :
    failedHandlerNames db = uncommitted plan db := by
  obtain ⟨failures, hfailures, hnames, -⟩ := h.manifest hstatus
  rw [failedHandlerNames, hfailures]
  exact hnames

lemma Delivered.started (h : Delivered plan db) (hstatus : db.record.status = .failed) :
    Delivered plan (markRetryStarted now db) :=
  ⟨h.once, h.ordered, nofun, nofun, fun _ => h.manifest (.inl hstatus)⟩

lemma retryable_status {maxRetries : ℕ} {cutoff : ℤ}
    (h : retryable maxRetries cutoff db.record = true) : db.record.status = .failed := by
  simp only [retryable, Bool.and_eq_true, decide_eq_true_eq] at h
  exact h.1.1.1

lemma sound_retry (hnodup : (plan.map HandlerStep.handlerName).Nodup) (h : Delivered plan db)
    (hstatus : db.record.status = .failed) :
    Sound plan (markRetryStarted now db) (uncommitted plan db)
      (processPlan plan (failedHandlerNames db) (db.record.retryCount + 1) now outcome
        (markRetryStarted now db)) := by
  obtain ⟨-, -, -, hne⟩ := h.manifest (.inl hstatus)
  exact sound_processPlan hnodup h.once h.ordered
    (.inl ⟨failedHandlerNames_eq h (.inl hstatus), hne⟩)

lemma Delivered.step (hnodup : (plan.map HandlerStep.handlerName).Nodup) (h : Delivered plan db)
    (hok : step plan db pass = .ok db') : Delivered plan db' := by
  cases pass with
  | dispatch now outcome crash =>
    simp only [EventDelivery.step] at hok
    split at hok
    · rename_i hdispatch
      obtain rfl := Except.ok.inj hok
      simp only [dispatchPendingEvent, claimPendingEvent, Option.map_eq_some_iff,
        Option.ite_none_right_eq_some, Option.some.injEq] at hdispatch
      obtain ⟨claimed, ⟨⟨hpending, -⟩, rfl⟩, rfl⟩ := hdispatch
      exact (sound_processPlan hnodup h.once h.ordered (.inr ⟨rfl, h.pending hpending⟩)).finish
    · cases hok
  | retry now maxRetries cutoff outcome crash =>
    simp only [EventDelivery.step] at hok
    split_ifs at hok with hretryable
    have hstatus := retryable_status hretryable
    cases crash with
    | never =>
      obtain rfl := Except.ok.inj hok
      exact (sound_retry hnodup h hstatus).finish
    | first => cases hok
    | last =>
      obtain rfl := Except.ok.inj hok
      exact h.started hstatus
  | sweep now cutoff crash =>
    cases crash with
    | never =>
      obtain rfl := Except.ok.inj hok
      unfold markStaleProcessingEvents
      split_ifs with hstale
      · simp only [stale, Bool.and_eq_true, decide_eq_true_eq] at hstale
        exact ⟨h.once, h.ordered, nofun, nofun, fun _ => h.manifest (.inr hstale.1.1)⟩
      · exact h
    | first => cases hok
    | last => cases hok

lemma Delivered.run (hnodup : (plan.map HandlerStep.handlerName).Nodup) (passes : List Pass) :
    Delivered plan (Run.run (EventDelivery.step plan) (.emitted now) passes) :=
  Run.invariant_run (fun _ _ _ h hok => h.step hnodup hok) passes .emitted

end Passes

end DotmacSub.EventDelivery
