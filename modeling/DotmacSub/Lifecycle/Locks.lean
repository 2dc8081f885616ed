import DotmacSub.Lifecycle.Accounts

/-!
# Service under enforcement locks

No command leaves service running under a lock.  The invariant says for each status what locks there
can be; a subscription that starts pending without locks satisfies it, and every command keeps it.
-/

namespace DotmacSub.Lifecycle

open Store Run
open ServiceExtensions (SubscriptionStatus)

variable {db : LifecycleDb} {id : ℕ} {v : View}

/-- Locks of different reasons, and none where service may run or has ended. -/
structure View.Enforced (v : View) : Prop where
  pending : v.status = .pending → v.locks = []
  active : v.status = .active → v.locks = []
  terminal : v.status ∈ terminal → v.locks = []
  nodup : (v.locks.map (·.reason)).Nodup

/-- The commands that may resolve a lock. -/
inductive Released (db : LifecycleDb) (id : ℕ) (lock : Hold) : Command → View → View → Prop
  | restored {w w' trigger resolvedBy reason notes} (hscope : ∀ r ∈ reason, lock.reason = r)
      (htrigger : trigger ∈ allowedRestorers lock.reason) :
      Released db id lock (.restore id trigger resolvedBy reason notes) w w'
  | staleResolved {w w' trigger resolvedBy notes}
      (htrigger : trigger ∈ allowedRestorers lock.reason) :
      Released db id lock (.resolveStaleLock id trigger resolvedBy lock.reason notes) w w'
  | ended {c w w'} (hstatus : w'.status ∈ terminal) : Released db id lock c w w'
  | disabled {w w' reason} (hstatus : w'.status = .disabled) :
      Released db id lock (.disable id reason false) w w'
  | unsuspended {w w' reason source subscriber recorded}
      (hsubscriber : db.subscribers.get? w.subscriberId = some subscriber)
      (hrecorded : subscriber.lifecycleOverride = some recorded)
      (hsuspended : recorded.status = .suspended)
      (hadmin : lock.reason = .admin) (hsource : lock.source = Text.strip recorded.source) :
      Released db id lock (.unsuspendAccount w.subscriberId reason source) w w'
  | routed {c c' w w'} (hroute : Routes id w c c') (h : Released db id lock c' w w') :
      Released db id lock c w w'

lemma nodup_reasons_filter {locks : List Hold} {p : Hold → Bool}
    (h : (locks.map (·.reason)).Nodup) : ((locks.filter p).map (·.reason)).Nodup :=
  h.sublist (List.filter_sublist.map _)

/-- Locks that are lifted leave the rest in agreement with the status. -/
lemma View.Enforced.filter (h : v.Enforced) (p : Hold → Bool) :
    ({ v with locks := v.locks.filter p } : View).Enforced where
  pending hstatus := by
    rw [h.pending hstatus, List.filter_nil]
  active hstatus := by
    rw [h.active hstatus, List.filter_nil]
  terminal hstatus := by
    rw [h.terminal hstatus, List.filter_nil]
  nodup := nodup_reasons_filter h.nodup

lemma View.enforced_of_nil (h : v.locks = []) : v.Enforced := by
  refine ⟨fun _ => h, fun _ => h, fun _ => h, ?_⟩
  rw [h]
  exact List.nodup_nil

lemma View.enforced_of_held (h : v.status ∈ suspendedEquivalent ∨ v.status = .disabled)
    (hnodup : (v.locks.map (·.reason)).Nodup) : v.Enforced := by
  have hstatus : v.status ≠ .pending ∧ v.status ≠ .active ∧ v.status ∉ terminal := by
    revert h
    cases v.status <;> decide
  exact ⟨fun h => absurd h hstatus.1, fun h => absurd h hstatus.2.1,
    fun h => absurd h hstatus.2.2, hnodup⟩

/-- **A command keeps the locks and the status in agreement.** -/
theorem Moved.enforced {now : ℤ} {c : Command} {w w' : View} (h : Moved db now id c w w')
    (hw : w.Enforced) : w'.Enforced := by
  induction h with
  | idle => exact hw
  | @suspended w _ _ _ _ _ hstatus hlocks =>
    refine View.enforced_of_held (.inl ?_) ?_
    · by_cases hheld : w.status ∈ suspendedEquivalent
      · simp only [hheld, if_true]
      · simp only [hheld, if_false]
        decide
    · rcases hlocks with ⟨rfl, -⟩ | ⟨hne, lockId, rfl⟩
      · exact hw.nodup
      · rw [List.map_append, List.nodup_append]
        refine ⟨hw.nodup, List.nodup_singleton _, ?_⟩
        rintro _ hreason _ hnew rfl
        obtain ⟨lock, hlock, heq⟩ := List.mem_map.mp hreason
        exact hne lock hlock (heq.trans (List.mem_singleton.mp hnew))
  | lifted => exact hw.filter _
  | restored => exact View.enforced_of_nil rfl
  | staleResolved => exact hw.filter _
  | activated hstatus => exact View.enforced_of_nil (hw.pending hstatus)
  | expired => exact View.enforced_of_nil rfl
  | canceled => exact View.enforced_of_nil rfl
  | @disabled _ _ preserveLocks _ _ _ _ =>
    cases preserveLocks with
    | true => exact View.enforced_of_held (.inr rfl) hw.nodup
    | false => exact View.enforced_of_nil rfl
  | keptHeld =>
    exact View.enforced_of_held (.inl (by simp [suspendedEquivalent])) hw.nodup
  | enabled _ hlocks => exact View.enforced_of_nil hlocks
  | unsuspended => exact hw.filter _
  | returned => exact View.enforced_of_nil rfl
  | routed _ _ ih => exact ih hw

lemma of_not_mem_filter {locks : List Hold} {p : Hold → Bool} {lock : Hold} (h : lock ∈ locks)
    (hnot : lock ∉ locks.filter (!p ·)) : p lock = true := by
  by_contra hp
  exact hnot (List.mem_filter.mpr ⟨h, by simpa using hp⟩)

/-- **A lock is released for a reason.** -/
theorem Moved.released {now : ℤ} {c : Command} {w w' : View} {lock : Hold}
    (h : Moved db now id c w w') (hlock : lock ∈ w.locks) (hnot : lock ∉ w'.locks) :
    Released db id lock c w w' := by
  induction h with
  | idle => exact absurd hlock hnot
  | suspended _ hlocks =>
    rcases hlocks with ⟨rfl, -⟩ | ⟨-, _, rfl⟩
    · exact absurd hlock hnot
    · exact absurd (List.mem_append_left _ hlock) hnot
  | lifted =>
    obtain ⟨hscope, htrigger⟩ := of_decide_eq_true (of_not_mem_filter hlock hnot)
    exact .restored hscope htrigger
  | restored _ hlocks =>
    rw [← hlocks] at hnot
    obtain ⟨hscope, htrigger⟩ := of_decide_eq_true (of_not_mem_filter hlock hnot)
    exact .restored hscope htrigger
  | staleResolved =>
    obtain ⟨hscope, htrigger⟩ := of_decide_eq_true (of_not_mem_filter hlock hnot)
    obtain rfl := hscope _ rfl
    exact .staleResolved htrigger
  | activated => exact absurd hlock hnot
  | expired => exact .ended (by simp [terminal])
  | canceled => exact .ended (by simp [terminal])
  | @disabled _ _ preserveLocks _ _ _ _ =>
    cases preserveLocks with
    | true => exact absurd hlock hnot
    | false => exact .disabled rfl
  | keptHeld => exact absurd hlock hnot
  | enabled => exact absurd hlock hnot
  | unsuspended hsubscriber hrecorded hsuspended =>
    obtain ⟨-, hadmin, hsource⟩ := of_decide_eq_true (of_not_mem_filter hlock hnot)
    exact .unsuspended hsubscriber hrecorded hsuspended hadmin hsource
  | returned hsubscriber hrecorded hsuspended _ hlocks =>
    rw [← hlocks] at hnot
    obtain ⟨-, hadmin, hsource⟩ := of_decide_eq_true (of_not_mem_filter hlock hnot)
    exact .unsuspended hsubscriber hrecorded hsuspended hadmin hsource
  | routed hroute _ ih => exact .routed hroute (ih hlock hnot)

def Enforced (id : ℕ) (db : LifecycleDb) : Prop := ∃ v, db.view id = some v ∧ v.Enforced

lemma enforced_step {s s' : LifecycleDb} {c : Call × Command} (h : Enforced id s)
    (hok : step s c = .ok s') : Enforced id s' := by
  obtain ⟨w, hw, henforced⟩ := h
  obtain ⟨call, c⟩ := c
  obtain ⟨w', hw', hmoved⟩ := step_moved hok hw
  exact ⟨w', hw', hmoved.enforced henforced⟩

/-- **Service never runs under a lock.** After any run of a subscription that had no lock, one that
was pending for example, its locks agree with its status, and a command releases a lock for a reason
only. -/
theorem enforced_run (hv : db.view id = some v) (hlocks : v.locks = [])
    (cs : List (Call × Command)) :
    ∃ w, (run step db cs).view id = some w ∧ w.Enforced ∧
      ∀ (call : Call) (c : Command) (s' : LifecycleDb),
        step (run step db cs) (call, c) = .ok s' → ∃ w', s'.view id = some w' ∧
          ∀ lock ∈ w.locks, lock ∉ w'.locks → Released (run step db cs) id lock c w w' := by
  have hstart : Enforced id db := ⟨v, hv, View.enforced_of_nil hlocks⟩
  obtain ⟨w, hw, henforced⟩ := invariant_run (fun _ _ _ => enforced_step) cs hstart
  refine ⟨w, hw, henforced, fun call c s' hok => ?_⟩
  obtain ⟨w', hw', hmoved⟩ := step_moved hok hw
  exact ⟨w', hw', fun lock hlock hnot => hmoved.released hlock hnot⟩

/-- A suspension for an overdue balance, then a pause that preserves its lock. -/
def pausedUnderLock : List (Call × Command) :=
  [(.ofClock 1, .suspend 0 .overdue "collections" .hardReject none),
    (.ofClock 2, .disable 0 "moved" true)]

/-- A pending subscription that is suspended and paused is enforced. -/
theorem enforced_run_pausedUnderLock :
    ∃ w, (run step (.single .pending none .empty) pausedUnderLock).view 0 = some w ∧ w.Enforced ∧
      ∀ (call : Call) (c : Command) (s' : LifecycleDb),
        step (run step (.single .pending none .empty) pausedUnderLock) (call, c) = .ok s' →
          ∃ w', s'.view 0 = some w' ∧ ∀ lock ∈ w.locks, lock ∉ w'.locks →
            Released (run step (.single .pending none .empty) pausedUnderLock) 0 lock c w w' :=
  enforced_run rfl rfl pausedUnderLock

end DotmacSub.Lifecycle
