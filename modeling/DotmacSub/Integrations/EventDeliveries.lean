import DotmacSub.Core.Checked
import DotmacSub.Core.Run
import Mathlib.Algebra.Group.Nat.Defs
import Mathlib.Order.Lattice

/-!
# Outbound event deliveries

`integrations/delivery.py`: a task message has a worker read the row of a delivery, send it and write
the outcome.  Reading takes no lock; the lease is flushed before the request and committed with its
outcome, so that what it does is hold the row lock.  An operator may replay a failed delivery.
-/

namespace DotmacSub.EventDeliveries

open Checked

inductive DeliveryState
  | pending
  | leased
  | delivered
  | retryable
  | reconciliationRequired
  | deadLetter
  | canceled
deriving DecidableEq

structure IntegrationDelivery where
  state : DeliveryState
  attemptCount : ℕ
  nextAttemptAt : Option ℤ
  leasedUntil : Option ℤ
  lastAttemptAt : Option ℤ
  deliveredAt : Option ℤ
  responseStatus : Option ℕ
  externalReceipt : List (String × String)
  errorCode : Option String
  errorDetail : Option String
deriving DecidableEq

def IntegrationDelivery.created : IntegrationDelivery where
  state := .pending
  attemptCount := 0
  nextAttemptAt := none
  leasedUntil := none
  lastAttemptAt := none
  deliveredAt := none
  responseStatus := none
  externalReceipt := []
  errorCode := none
  errorDetail := none

inductive OperationStatus
  | succeeded
  | partial_
  | retryable
  | rejected
  | reconciliationRequired
  | failed
  | canceled
deriving DecidableEq

structure OperationResult where
  status : OperationStatus
  externalReceipt : List (String × String)
  responseStatus : Option ℕ
  errorCode : Option String
  retryAfterSeconds : Option ℕ
deriving DecidableEq

def budget (maxAttempts : Option ℤ) : ℕ :=
  (max 1 (min ((maxAttempts.filter (· ≠ 0)).getD 10) 20)).toNat

def second : ℤ := 1000000

def column {α : Type} [DecidableEq α] (read current new : α) : α :=
  if new = read then current else new

def retryDelay (result : OperationResult) (attemptCount : ℕ) : ℤ :=
  ((result.retryAfterSeconds.filter (· ≠ 0)).getD
    (min (8 * 60 * 60) (60 * 2 ^ (attemptCount - 1))) : ℕ)

def stateAfter (maxAttempts : Option ℤ) (result : OperationResult) (attemptCount : ℕ) :
    DeliveryState :=
  match result.status with
  | .succeeded => .delivered
  | .retryable => if budget maxAttempts ≤ attemptCount then .deadLetter else .retryable
  | .reconciliationRequired => .reconciliationRequired
  | _ => .deadLetter

/-- `execute_delivery` on a row that was read, written over the row as it is committed. -/
def executed (maxAttempts : Option ℤ) (read current : IntegrationDelivery)
    (result : OperationResult) (sentAt now : ℤ) : IntegrationDelivery where
  state := stateAfter maxAttempts result (read.attemptCount + 1)
  attemptCount := read.attemptCount + 1
  nextAttemptAt :=
    if stateAfter maxAttempts result (read.attemptCount + 1) = .retryable then
      some (now + retryDelay result (read.attemptCount + 1) * second)
    else current.nextAttemptAt
  leasedUntil := none
  lastAttemptAt := some sentAt
  deliveredAt := if result.status = .succeeded then some now else current.deliveredAt
  responseStatus := column read.responseStatus current.responseStatus result.responseStatus
  externalReceipt := column read.externalReceipt current.externalReceipt result.externalReceipt
  errorCode := column read.errorCode current.errorCode result.errorCode
  errorDetail :=
    if result.status = .succeeded then column read.errorDetail current.errorDetail none
    else current.errorDetail

def replayable : List DeliveryState := [.deadLetter, .reconciliationRequired, .retryable]

/-- `replay_delivery` on a row that was read, written over the row as it is committed. -/
def replayed (read current : IntegrationDelivery) : IntegrationDelivery :=
  { current with
    state := .pending
    nextAttemptAt := column read.nextAttemptAt current.nextAttemptAt none
    errorCode := column read.errorCode current.errorCode none
    errorDetail := column read.errorDetail current.errorDetail none }

inductive Session
  | idle
  | delivering (read : IntegrationDelivery)
  | replaying (read : IntegrationDelivery)

/-- The request whose lease holds the row lock: what its session had read, and its answer. -/
structure Attempt where
  read : IntegrationDelivery
  result : OperationResult
  sentAt : ℤ

/-- The committed row, the sessions and the attempt in flight.  Whether an attempt ever reported
success, and how many were sent since the creation or the last replay, is what has happened, which
the row does not say. -/
structure Wire where
  row : IntegrationDelivery
  session : ℕ → Session
  inFlight : Option Attempt
  succeeded : Bool
  sent : ℕ

def Wire.initial : Wire := ⟨.created, fun _ => .idle, none, false, 0⟩

inductive Step
  | read (w : ℕ) (enabled : Bool)
  | send (w : ℕ) (now : ℤ) (result : OperationResult)
  | commit (now : ℤ)
  | crash
  | readReplay (w : ℕ) (enabled : Bool)
  | replay (w : ℕ)

/-- One step; a session that would write a locked row waits.  A session that never goes on has
crashed. -/
def step (maxAttempts : Option ℤ) (s : Wire) : Step → Except String Wire
  | .read w enabled =>
    if s.row.state = .delivered ∨ s.row.state = .canceled then .ok s
    else if enabled then
      .ok { s with session := Function.update s.session w (.delivering s.row) }
    else .error "delivery capability binding is not enabled"
  | .send w now result =>
    match s.session w, s.inFlight with
    | .delivering read, none =>
      .ok { s with
        session := Function.update s.session w .idle
        inFlight := some ⟨read, result, now⟩
        succeeded := s.succeeded || result.status = .succeeded
        sent := s.sent + 1 }
    | _, _ => .error "locked"
  | .commit now =>
    match s.inFlight with
    | some attempt =>
      .ok { s with
        row := executed maxAttempts attempt.read s.row attempt.result attempt.sentAt now
        inFlight := none }
    | none => .error "nothing sent"
  | .crash => .ok { s with inFlight := none }
  | .readReplay w enabled => do
    ensure (s.row.state ∈ replayable) "delivery is not replayable"
    ensure (enabled = true) "delivery capability binding is not enabled"
    return { s with session := Function.update s.session w (.replaying s.row) }
  | .replay w =>
    match s.session w, s.inFlight with
    | .replaying read, none =>
      .ok { s with
        row := replayed read s.row
        session := Function.update s.session w .idle
        sent := 0 }
    | _, _ => .error "locked"

/-- What a step may send: nothing after a success, nothing from a failed state, nothing beside
another attempt, and no more than the budget; and an answer to retry ends a life only when the
attempts of this life have used the budget up. -/
structure SentOwed (maxAttempts : Option ℤ) (s s' : Wire) (c : Step) : Prop where
  unsuccessful : ∀ w now result, c = .send w now result → s.succeeded = false
  owed : ∀ w now result, c = .send w now result →
    s.row.state ≠ .deadLetter ∧ s.row.state ≠ .reconciliationRequired
  alone : ∀ w now result, c = .send w now result → s.inFlight = none
  budgeted : s'.sent ≤ budget maxAttempts
  fresh : ∀ now attempt, c = .commit now → s.inFlight = some attempt →
    attempt.result.status = .retryable →
      (s'.row.state = .deadLetter ↔ budget maxAttempts ≤ s.sent)

/-- What is written is written over the row that was read; what is sent was read as pending or to be
retried; an attempt in flight is not lost; and the count of all attempts uses the budget up only when
the attempts since the last replay do. -/
def Orderly (maxAttempts : Option ℤ) (s : Wire) : Step → Prop
  | .send w _ _ => ∀ read, s.session w = .delivering read →
      read = s.row ∧ (read.state = .pending ∨ read.state = .retryable)
  | .commit _ => ∀ attempt ∈ s.inFlight, attempt.result.status = .retryable →
      attempt.read.attemptCount + 1 < budget maxAttempts ∨ budget maxAttempts ≤ s.sent
  | .crash => s.inFlight = none
  | .replay w => ∀ read, s.session w = .replaying read → read = s.row
  | _ => True

/-- What each step can do. -/
inductive Moved (maxAttempts : Option ℤ) (s : Wire) : Wire → Step → Prop
  | stayed {w enabled} : Moved maxAttempts s s (.read w enabled)
  | read {w enabled} : Moved maxAttempts s
      { s with session := Function.update s.session w (.delivering s.row) } (.read w enabled)
  | sent {w now result read} (hsession : s.session w = .delivering read)
      (hfree : s.inFlight = none) :
      Moved maxAttempts s { s with
        session := Function.update s.session w .idle
        inFlight := some ⟨read, result, now⟩
        succeeded := s.succeeded || result.status = .succeeded
        sent := s.sent + 1 } (.send w now result)
  | committed {now attempt} (hflight : s.inFlight = some attempt) :
      Moved maxAttempts s { s with
        row := executed maxAttempts attempt.read s.row attempt.result attempt.sentAt now
        inFlight := none } (.commit now)
  | crashed : Moved maxAttempts s { s with inFlight := none } .crash
  | readReplay {w enabled} (hstate : s.row.state ∈ replayable) : Moved maxAttempts s
      { s with session := Function.update s.session w (.replaying s.row) } (.readReplay w enabled)
  | replayed {w read} (hsession : s.session w = .replaying read) (hfree : s.inFlight = none) :
      Moved maxAttempts s { s with
        row := replayed read s.row
        session := Function.update s.session w .idle
        sent := 0 } (.replay w)

/-! ## Orderly runs -/

/-- What an orderly run keeps: replays are of rows that can be replayed; an attempt in flight was
read as the row is; the row counts at least the attempts of this life, and one that is still to be
sent has not used the budget up. -/
structure Inv (maxAttempts : Option ℤ) (s : Wire) : Prop where
  reading : ∀ w read, s.session w = .replaying read → read.state ∈ replayable
  flying : ∀ attempt ∈ s.inFlight, attempt.read = s.row ∧ s.sent ≤ s.row.attemptCount + 1
  succeeding : ∀ attempt ∈ s.inFlight,
    s.succeeded = true → attempt.result.status = .succeeded
  counted : s.inFlight = none → s.sent ≤ s.row.attemptCount
  owing : s.inFlight = none → s.row.state = .pending ∨ s.row.state = .retryable →
    s.sent < budget maxAttempts
  delivered : s.inFlight = none → s.succeeded = true → s.row.state = .delivered
  budgeted : s.sent ≤ budget maxAttempts

section Steps

variable {maxAttempts : Option ℤ} {s s' : Wire} {c : Step}

lemma moved_of_ok (hok : step maxAttempts s c = .ok s') : Moved maxAttempts s s' c := by
  cases c with
  | read w enabled =>
    simp only [step] at hok
    split_ifs at hok with hended henabled
    · obtain rfl := Except.ok.inj hok
      exact .stayed
    · obtain rfl := Except.ok.inj hok
      exact .read
  | send w now result =>
    simp only [step] at hok
    split at hok
    · rename_i hsession hfree
      obtain rfl := Except.ok.inj hok
      exact .sent hsession hfree
    · cases hok
  | commit now =>
    simp only [step] at hok
    split at hok
    · rename_i hflight
      obtain rfl := Except.ok.inj hok
      exact .committed hflight
    · cases hok
  | crash =>
    obtain rfl := Except.ok.inj hok
    exact .crashed
  | readReplay w enabled =>
    obtain ⟨hstate, hok⟩ := ensure_bind_eq_ok.mp hok
    obtain ⟨-, hok⟩ := ensure_bind_eq_ok.mp hok
    obtain rfl := pure_eq_ok.mp hok
    exact .readReplay hstate
  | replay w =>
    simp only [step] at hok
    split at hok
    · rename_i hsession hfree
      obtain rfl := Except.ok.inj hok
      exact .replayed hsession hfree
    · cases hok

lemma budget_pos : 0 < budget maxAttempts := by
  rw [budget, Int.lt_toNat]
  exact lt_of_lt_of_le Int.zero_lt_one (le_max_left _ _)

lemma inv_initial : Inv maxAttempts .initial where
  reading _ _ h := nomatch h
  flying _ h := nomatch h
  succeeding _ h := nomatch h
  counted _ := Nat.le_refl 0
  owing _ _ := budget_pos
  delivered _ h := nomatch h
  budgeted := Nat.zero_le _

lemma session_update {w u : ℕ} {phase : Session} {read : IntegrationDelivery}
    (h : Function.update s.session w phase u = .replaying read) :
    phase = .replaying read ∨ s.session u = .replaying read := by
  rw [Function.update_apply] at h
  split_ifs at h
  · exact .inl h
  · exact .inr h

lemma Inv.succeeded_eq_false (h : Inv maxAttempts s) (hfree : s.inFlight = none)
    (hstate : s.row.state ≠ .delivered) : s.succeeded = false := by
  by_contra hsucceeded
  exact hstate (h.delivered hfree (Bool.eq_true_of_not_eq_false hsucceeded))

lemma Inv.succeeded_eq_false_of_sendable (h : Inv maxAttempts s) (hfree : s.inFlight = none)
    (hstate : s.row.state = .pending ∨ s.row.state = .retryable) : s.succeeded = false := by
  refine h.succeeded_eq_false hfree fun hdelivered => ?_
  rw [hdelivered] at hstate
  exact hstate.elim (nomatch ·) (nomatch ·)

/-- A state that is to be tried again comes of an answer to retry, with attempts left. -/
lemma lt_budget_of_stateAfter {result : OperationResult} {count : ℕ}
    (h : stateAfter maxAttempts result count = .pending ∨
      stateAfter maxAttempts result count = .retryable) : count < budget maxAttempts := by
  unfold stateAfter at h
  split at h
  · exact h.elim (nomatch ·) (nomatch ·)
  · split_ifs at h with hused
    · exact h.elim (nomatch ·) (nomatch ·)
    · exact Nat.lt_of_not_le hused
  · exact h.elim (nomatch ·) (nomatch ·)
  · exact h.elim (nomatch ·) (nomatch ·)

lemma Inv.step (h : Inv maxAttempts s) (horderly : Orderly maxAttempts s c)
    (hmoved : Moved maxAttempts s s' c) : Inv maxAttempts s' := by
  cases hmoved with
  | stayed => exact h
  | read =>
    exact { h with
      reading := fun u read hread =>
        (session_update hread).elim (nomatch ·) (h.reading u read) }
  | @sent w now result read hsession hfree =>
    obtain ⟨rfl, hstate⟩ := horderly read hsession
    exact {
      reading := fun u read hread =>
        (session_update hread).elim (nomatch ·) (h.reading u read)
      flying := by
        rintro _ ⟨⟩
        exact ⟨rfl, Nat.succ_le_succ (h.counted hfree)⟩
      succeeding := by
        rintro _ ⟨⟩ hsucceeded
        rw [h.succeeded_eq_false_of_sendable hfree hstate, Bool.false_or] at hsucceeded
        exact of_decide_eq_true hsucceeded
      counted := fun hflight => nomatch hflight
      owing := fun hflight => nomatch hflight
      delivered := fun hflight => nomatch hflight
      budgeted := h.owing hfree hstate }
  | @committed now attempt hflight =>
    obtain ⟨hread, hcount⟩ := h.flying attempt hflight
    exact {
      reading := h.reading
      flying := fun _ hnone => nomatch hnone
      succeeding := fun _ hnone => nomatch hnone
      counted := fun _ => hread ▸ hcount
      owing := fun _ hstate =>
        Nat.lt_of_le_of_lt (hread ▸ hcount) (lt_budget_of_stateAfter hstate)
      delivered := fun _ hsucceeded => by
        show stateAfter _ attempt.result _ = _
        rw [stateAfter, h.succeeding attempt hflight hsucceeded]
      budgeted := h.budgeted }
  | crashed =>
    -- an attempt in flight would be lost
    have hfree : s.inFlight = none := horderly
    exact {
      reading := h.reading
      flying := fun _ hnone => nomatch hnone
      succeeding := fun _ hnone => nomatch hnone
      counted := fun _ => h.counted hfree
      owing := fun _ => h.owing hfree
      delivered := fun _ => h.delivered hfree
      budgeted := h.budgeted }
  | readReplay hstate =>
    refine { h with reading := fun u read hread => ?_ }
    rcases session_update hread with hphase | hsession
    · obtain rfl := Session.replaying.inj hphase
      exact hstate
    · exact h.reading u read hsession
  | @replayed w read hsession hfree =>
    obtain rfl := horderly read hsession
    have hstate : s.row.state ≠ .delivered := by
      intro hdelivered
      have hmem := h.reading w s.row hsession
      rw [hdelivered] at hmem
      exact absurd hmem (by decide)
    exact {
      reading := fun u read hread =>
        (session_update hread).elim (nomatch ·) (h.reading u read)
      flying := fun _ hflight => nomatch hfree.symm.trans hflight
      succeeding := fun _ hflight => nomatch hfree.symm.trans hflight
      counted := fun _ => Nat.zero_le _
      owing := fun _ _ => budget_pos
      delivered := fun _ hsucceeded =>
        nomatch (h.succeeded_eq_false hfree hstate).symm.trans hsucceeded
      budgeted := Nat.zero_le _ }

/-- **An orderly step obeys the law.** -/
lemma sentOwed_of_orderly (h : Inv maxAttempts s) (horderly : Orderly maxAttempts s c)
    (hmoved : Moved maxAttempts s s' c) : SentOwed maxAttempts s s' c := by
  have h' := h.step horderly hmoved
  cases hmoved with
  | @sent w now result read hsession hfree =>
    obtain ⟨rfl, hstate⟩ := horderly read hsession
    refine ⟨fun _ _ _ _ => h.succeeded_eq_false_of_sendable hfree hstate, fun _ _ _ _ => ?_,
      fun _ _ _ _ => hfree, h'.budgeted, fun _ _ => (nomatch ·)⟩
    constructor <;> intro hfailed <;> rw [hfailed] at hstate <;>
      exact hstate.elim (nomatch ·) (nomatch ·)
  | @committed now attempt hflight =>
    refine ⟨fun _ _ _ => (nomatch ·), fun _ _ _ => (nomatch ·),
      fun _ _ _ => (nomatch ·), h'.budgeted, fun now' attempt' _ hflight' hretry => ?_⟩
    obtain rfl := Option.mem_unique hflight hflight'
    obtain ⟨hread, hcount⟩ := h.flying attempt hflight
    show stateAfter _ attempt.result _ = _ ↔ _
    rw [stateAfter, hretry]
    constructor
    · intro hdead
      split_ifs at hdead with hused
      exact (horderly attempt hflight hretry).resolve_left (Nat.not_lt.mpr hused)
    · intro hused
      rw [if_pos (Nat.le_trans hused (hread ▸ hcount))]
  | _ =>
    exact ⟨fun _ _ _ => (nomatch ·), fun _ _ _ => (nomatch ·),
      fun _ _ _ => (nomatch ·), h'.budgeted, fun _ _ => (nomatch ·)⟩

end Steps

/-- **A delivery is sent only while it is owed** in every run whose steps are orderly: every step of
it obeys the law. -/
theorem sentOwed_run (maxAttempts : Option ℤ) (steps : List Step)
    (horderly : Run.Guarded (step maxAttempts) (Orderly maxAttempts) .initial steps)
    (before : List Step) (c : Step) (after : List Step) (hsplit : steps = before ++ c :: after)
    (s' : Wire) (hok : step maxAttempts (Run.run (step maxAttempts) .initial before) c = .ok s') :
    SentOwed maxAttempts (Run.run (step maxAttempts) .initial before) s' c := by
  rw [hsplit] at horderly
  have hinv : Inv maxAttempts (Run.run (step maxAttempts) .initial before) :=
    Run.invariant_guarded (fun _ _ _ hinv hp hok => hinv.step hp (moved_of_ok hok)) before _
      inv_initial horderly.append_left
  exact sentOwed_of_orderly hinv (horderly.append_right.1 ⟨s', hok⟩) (moved_of_ok hok)

def answer (status : OperationStatus) : OperationResult := ⟨status, [], some 200, none, none⟩

/-- A delivery is read and sent, and its outcome is committed. -/
theorem sentOwed_run_delivered :
    let s := Run.run (step none) .initial [.read 0 true, .send 0 1 (answer .succeeded)]
    ∃ s', step none s (.commit 2) = .ok s' ∧ SentOwed none s s' (.commit 2) := by
  refine ⟨_, rfl, sentOwed_run none [.read 0 true, .send 0 1 (answer .succeeded), .commit 2]
    ?_ _ _ [] rfl _ rfl⟩
  refine ⟨fun _ => trivial, fun _ => ?_, fun _ => ?_, trivial⟩
  · rintro _ ⟨⟩
    exact ⟨rfl, .inl rfl⟩
  · rintro _ ⟨⟩ hretry
    cases hretry

/-- The endpoint rejects a delivery, and a late message of it is worked off. -/
def lateMessage : List Step :=
  [.read 0 true, .send 0 1 (answer .rejected), .commit 2, .read 1 true]

/-- **A dead letter is sent again**, without a replay. -/
theorem deadLetter_sent : ¬ ∀ (maxAttempts : Option ℤ) (steps before : List Step) (c : Step)
    (after : List Step), steps = before ++ c :: after →
      ∀ s', step maxAttempts (Run.run (step maxAttempts) .initial before) c = .ok s' →
        SentOwed maxAttempts (Run.run (step maxAttempts) .initial before) s' c := by
  intro hlaw
  have howed := hlaw none _ lateMessage (.send 1 3 (answer .succeeded)) [] rfl _ rfl
  exact absurd rfl (howed.owed 1 3 (answer .succeeded) rfl).1

end DotmacSub.EventDeliveries
