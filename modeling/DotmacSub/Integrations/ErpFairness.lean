import DotmacSub.Core.Batches
import DotmacSub.Core.Checked
import DotmacSub.Integrations.ErpTurns

/-!
# Bad rows of the ERP outbox

A delivery run takes the oldest pending rows first and looks at ownership and readiness afterwards,
so rows that may not be sent take the places of rows that may; and an exception that leaves the loop
leaves the rows after it, and takes the attempt of its own row back.
-/

namespace DotmacSub.ErpOutbox

open Store Run

variable {outside : Surroundings} {maxAttempts limit : ℕ} {outbox : Outbox}

/-! ## What a run should do -/

/-- The oldest pending rows that are owned and ready. -/
def due (outside : Surroundings) (limit : ℕ) (outbox : Outbox) : List FieldErpSyncEvent :=
  ((pendingRows outbox).filter (Eligible outside)).take limit

def Delivered (row : FieldErpSyncEvent) : Prop :=
  row.status = .sent ∨ row.status = .accepted ∨ row.status = .rejected

/-- A run attempts the rows that are due, and counts the attempts of those it does not deliver. -/
structure Fair (outside : Surroundings) (limit maxAttempts : ℕ) (outbox : Outbox) : Prop where
  attempted : (deliverPending outside limit maxAttempts outbox).2.1 =
    (due outside limit outbox).map FieldErpSyncEvent.id
  counted : ∀ i ∈ (deliverPending outside limit maxAttempts outbox).2.1, ∀ row,
    outbox.get? i = some row → ∃ after,
      (deliverPending outside limit maxAttempts outbox).1.get? i = some after ∧
        (Delivered after ∨ after.attempts = row.attempts + 1)

/-- Among the oldest pending rows no eligible one obstructs the run, and no eligible row comes after
them, unless all of them are eligible. -/
structure Unobstructed (outside : Surroundings) (limit : ℕ) (outbox : Outbox) : Prop where
  clear : ∀ row ∈ (pendingRows outbox).take limit, Eligible outside row → ¬ Obstructs outside row
  room : (∀ row ∈ (pendingRows outbox).take limit, Eligible outside row) ∨
    ∀ row ∈ (pendingRows outbox).drop limit, ¬ Eligible outside row

lemma mem_pendingRows {row : FieldErpSyncEvent} :
    row ∈ pendingRows outbox ↔ outbox.get? row.id = some row ∧ row.status = .pending := by
  rw [pendingRows, List.mem_mergeSort, List.mem_filter, decide_eq_true_eq, Table.get?_eq_some]
  exact ⟨fun h => ⟨⟨h.1, rfl⟩, h.2⟩, fun h => ⟨h.1.1, h.2⟩⟩

lemma pendingRows_nodup : ((pendingRows outbox).map FieldErpSyncEvent.id).Nodup := by
  have hperm : (pendingRows outbox).Perm (outbox.rows.filter (·.status = .pending)) :=
    List.mergeSort_perm _ _
  rw [(hperm.map _).nodup_iff]
  exact outbox.nodup.sublist (List.filter_sublist.map _)

lemma pendingRows_holds : Holds outbox (pendingRows outbox) :=
  fun _ hrow => (mem_pendingRows.mp hrow).1

/-- Identifiers tell pending rows apart. -/
lemma eq_of_map_id_eq : ∀ {rows rows' : List FieldErpSyncEvent}, Holds outbox rows →
    Holds outbox rows' → rows.map FieldErpSyncEvent.id = rows'.map FieldErpSyncEvent.id →
    rows = rows'
  | [], [], _, _, _ => rfl
  | [], _ :: _, _, _, h => absurd h.symm (List.cons_ne_nil _ _)
  | _ :: _, [], _, _, h => absurd h (List.cons_ne_nil _ _)
  | row :: rows, row' :: rows', hrows, hrows', h => by
    obtain ⟨hid, hids⟩ := List.cons.inj h
    have hsame : some row = some row' := by
      rw [← hrows row List.mem_cons_self, ← hrows' row' List.mem_cons_self, hid]
    rw [Option.some.inj hsame, eq_of_map_id_eq
      (fun other hother => hrows other (List.mem_cons_of_mem row hother))
      (fun other hother => hrows' other (List.mem_cons_of_mem row' hother)) hids]

structure Completed (outside : Surroundings) (limit maxAttempts : ℕ) (outbox : Outbox) : Prop where
  goes : ∀ row ∈ (pendingRows outbox).take limit, turn outside maxAttempts row ≠ .raised
  attempted : (deliverPending outside limit maxAttempts outbox).2.1 =
    (((pendingRows outbox).take limit).filter fun row =>
      (turn outside maxAttempts row).isAttempt).map FieldErpSyncEvent.id
  written : ∀ row ∈ (pendingRows outbox).take limit,
    (deliverPending outside limit maxAttempts outbox).1.get? row.id =
      some (turned outside maxAttempts row)
  kept : ∀ i ∉ ((pendingRows outbox).take limit).map FieldErpSyncEvent.id,
    (deliverPending outside limit maxAttempts outbox).1.get? i = outbox.get? i

/-- **A run is undisturbed, or it loses an attempt.** -/
lemma completed_or_lost (outside : Surroundings) (limit maxAttempts : ℕ) (outbox : Outbox) :
    Completed outside limit maxAttempts outbox ∨
      ∃ row ∈ (pendingRows outbox).take limit, turn outside maxAttempts row = .raised ∧
        row.id ∈ (deliverPending outside limit maxAttempts outbox).2.1 ∧
          (deliverPending outside limit maxAttempts outbox).1.get? row.id = some row := by
  have hnodup : (((pendingRows outbox).take limit).map FieldErpSyncEvent.id).Nodup :=
    pendingRows_nodup.sublist ((List.take_sublist limit _).map _)
  have hholds : Holds outbox ((pendingRows outbox).take limit) :=
    fun row hrow => pendingRows_holds row (List.mem_of_mem_take hrow)
  cases hloop : deliverRows outside maxAttempts ⟨outbox, outbox, [], ⟨0, 0, 0, 0, 0, 0, 0, []⟩⟩
      ((pendingRows outbox).take limit) with
  | mk session raised =>
    have hrun : deliverPending outside limit maxAttempts outbox =
        (if raised then session.committed else session.working, session.attempted,
          session.result) := by
      rw [deliverPending, hloop]
    cases raised with
    | false =>
      left
      obtain ⟨hgoes, hattempted, hwritten, hkept⟩ :=
        deliverRows_completed _ _ session hloop hnodup hholds
      exact ⟨hgoes, by rw [hrun]; exact hattempted, by rw [hrun]; exact hwritten,
        by rw [hrun]; exact hkept⟩
    | true =>
      right
      obtain ⟨row, hrow, hraised, hattempted, hcommitted⟩ :=
        deliverRows_raised _ _ session hloop hnodup hholds hholds
      exact ⟨row, hrow, hraised, by rw [hrun]; exact hattempted, by rw [hrun]; exact hcommitted⟩

lemma obstructs_of_raised {row : FieldErpSyncEvent} (h : turn outside maxAttempts row = .raised) :
    Eligible outside row ∧ Obstructs outside row := by
  cases h ▸ turn_of outside maxAttempts row with
  | skipped idle blocked => rcases idle with hidle | hidle <;> exact absurd hidle (by decide)
  | raised eligible obstructs => exact ⟨eligible, obstructs⟩

/-- The selected rows that are attempted are those that are due if and only if nothing holds them
back. -/
lemma due_eq_iff : ((pendingRows outbox).take limit).filter
    (fun row => (turn outside maxAttempts row).isAttempt) = due outside limit outbox ↔
      Unobstructed outside limit outbox := by
  have hattempts : ∀ row : FieldErpSyncEvent,
      decide ((turn outside maxAttempts row).isAttempt = true) =
        (turn outside maxAttempts row).isAttempt := fun _ => Bool.decide_eq_true
  have hbatch := Batches.filter_take_eq_iff (l := pendingRows outbox) (n := limit)
    (p := Eligible outside) (q := fun row => (turn outside maxAttempts row).isAttempt = true)
    fun row hrow => (isAttempt_iff.mp hrow).1
  simp only [hattempts] at hbatch
  rw [due, hbatch]
  constructor
  · rintro ⟨hclear, hroom⟩
    exact ⟨fun row hrow heligible => (isAttempt_iff.mp (hclear row hrow heligible)).2, hroom⟩
  · rintro ⟨hclear, hroom⟩
    exact ⟨fun row hrow heligible => isAttempt_iff.mpr ⟨heligible, hclear row hrow heligible⟩,
      hroom⟩

lemma Completed.attempted_iff (h : Completed outside limit maxAttempts outbox) :
    (deliverPending outside limit maxAttempts outbox).2.1 =
        (due outside limit outbox).map FieldErpSyncEvent.id ↔
      Unobstructed outside limit outbox := by
  rw [h.attempted, ← due_eq_iff]
  have hselected : Holds outbox (((pendingRows outbox).take limit).filter
      fun row => (turn outside maxAttempts row).isAttempt) :=
    fun row hrow => pendingRows_holds row (List.mem_of_mem_take (List.mem_of_mem_filter hrow))
  have hdue : Holds outbox (due outside limit outbox) :=
    fun row hrow => pendingRows_holds row (List.mem_of_mem_filter (List.mem_of_mem_take hrow))
  exact ⟨eq_of_map_id_eq hselected hdue, fun heq => by rw [heq]⟩

/-- **A run is fair if and only if nothing holds its rows back.** -/
theorem fair_iff : Fair outside limit maxAttempts outbox ↔ Unobstructed outside limit outbox := by
  rcases completed_or_lost outside limit maxAttempts outbox with
    hcompleted | ⟨row, hrow, hraised, hattempted, hcommitted⟩
  · refine ⟨fun h => hcompleted.attempted_iff.mp h.attempted,
      fun h => ⟨hcompleted.attempted_iff.mpr h, fun i hi row hrow => ?_⟩⟩
    rw [hcompleted.attempted] at hi
    obtain ⟨other, hother, rfl⟩ := List.mem_map.mp hi
    obtain ⟨hselected, hattempt⟩ := List.mem_filter.mp hother
    have hheld := pendingRows_holds other (List.mem_of_mem_take hselected)
    obtain rfl : other = row := Option.mem_unique hheld hrow
    exact ⟨_, hcompleted.written other hselected, .inr (turned_attempts hattempt)⟩
  · obtain ⟨heligible, hobstructs⟩ := obstructs_of_raised hraised
    refine iff_of_false (fun h => ?_) fun h => h.clear row hrow heligible hobstructs
    obtain ⟨hheld, hpending⟩ := mem_pendingRows.mp (List.mem_of_mem_take hrow)
    obtain ⟨after, hafter, hcounted⟩ := h.counted row.id hattempted row hheld
    obtain rfl : row = after := Option.mem_unique hcommitted hafter
    rcases hcounted with hdelivered | hattempts
    · rcases hdelivered with hstatus | hstatus | hstatus <;>
        exact absurd (hpending.symm.trans hstatus) (by decide)
    · exact absurd hattempts (Nat.succ_ne_self _).symm

/-! ## Sequences of runs -/

/-- Nothing holds back the rows of a delivery run. -/
def Clear (outbox : Outbox) : OutboxCommand → Prop
  | .enqueue _ _ => True
  | .deliver outside limit _ => Unobstructed outside limit outbox

/-- While the row is pending, it is due in every delivery run, and fails. -/
def KeepsFailing (most i : ℕ) (outbox : Outbox) : OutboxCommand → Prop
  | .enqueue _ _ => True
  | .deliver outside limit maxAttempts =>
    ∀ row, outbox.get? i = some row → row.status = .pending →
      maxAttempts = most ∧ row ∈ due outside limit outbox ∧ Fails outside row

def deliveries : List OutboxCommand → ℕ
  | [] => 0
  | .enqueue _ _ :: cs => deliveries cs
  | .deliver _ _ _ :: cs => deliveries cs + 1

/-- After some failing runs the row is dead, or has attempts left. -/
def Failing (most i runs : ℕ) (outbox : Outbox) : Prop :=
  ∃ row, outbox.get? i = some row ∧ (row.status = .dead ∨
    row.status = .pending ∧ runs ≤ row.attempts ∧ (0 < runs → row.attempts < most))

lemma completed_of_unobstructed (h : Unobstructed outside limit outbox) :
    Completed outside limit maxAttempts outbox := by
  rcases completed_or_lost outside limit maxAttempts outbox with
    hcompleted | ⟨row, hrow, hraised, -⟩
  · exact hcompleted
  · obtain ⟨heligible, hobstructs⟩ := obstructs_of_raised hraised
    exact absurd hobstructs (h.clear row hrow heligible)

lemma enqueue_get? {intent : Intent} {now : ℤ} {i : ℕ} {row : FieldErpSyncEvent}
    (h : outbox.get? i = some row) : (enqueue outbox intent now).get? i = some row := by
  unfold enqueue
  cases outbox.rows.find? (·.idempotencyKey = intent.idempotencyKey) with
  | some _ => exact h
  | none => exact Table.get?_insert_of_some h

lemma failing_deliver {most i runs : ℕ} (hclear : Unobstructed outside limit outbox)
    (hkeeps : KeepsFailing most i outbox (.deliver outside limit maxAttempts))
    (h : Failing most i runs outbox) :
    Failing most i (runs + 1) (deliverPending outside limit maxAttempts outbox).1 := by
  have hcompleted : Completed outside limit maxAttempts outbox := completed_of_unobstructed hclear
  obtain ⟨row, hrow, hdead | ⟨hpending, hruns, -⟩⟩ := h
  · refine ⟨row, ?_, .inl hdead⟩
    rw [hcompleted.kept, hrow]
    intro hmem
    obtain ⟨other, hother, rfl⟩ := List.mem_map.mp hmem
    obtain ⟨hheld, hpending⟩ := mem_pendingRows.mp (List.mem_of_mem_take hother)
    obtain rfl : row = other := Option.mem_unique hrow hheld
    exact absurd (hdead.symm.trans hpending) (by decide)
  · obtain ⟨rfl, hdue, hfails⟩ := hkeeps row hrow hpending
    have hsame : ((pendingRows outbox).take limit).filter
        (fun row => (turn outside maxAttempts row).isAttempt) = due outside limit outbox :=
      due_eq_iff.mpr hclear
    rw [← hsame] at hdue
    obtain ⟨hselected, hattempt⟩ := List.mem_filter.mp hdue
    obtain rfl : row.id = i := (Table.get?_eq_some.mp hrow).2
    refine ⟨_, hcompleted.written row hselected, ?_⟩
    have hcount := turned_attempts hattempt
    rcases turned_fails hattempt hfails with hstatus | ⟨hstatus, hleft⟩
    · exact .inl hstatus
    · exact .inr ⟨hstatus.trans hpending, by omega, fun _ => hleft⟩

lemma failing_run {most i : ℕ} : ∀ (cs : List OutboxCommand) (outbox : Outbox) (runs : ℕ),
    Guarded step Clear outbox cs → Guarded step (KeepsFailing most i) outbox cs →
    Failing most i runs outbox → Failing most i (runs + deliveries cs) (run step outbox cs)
  | [], _, _, _, _, h => h
  | .enqueue intent now :: cs, outbox, runs, hclear, hkeeps, h => by
    refine failing_run cs _ runs hclear.2 hkeeps.2 ?_
    obtain ⟨row, hrow, hfailing⟩ := h
    exact ⟨row, enqueue_get? hrow, hfailing⟩
  | .deliver outside limit maxAttempts :: cs, outbox, runs, hclear, hkeeps, h => by
    have hnext := failing_deliver (hclear.1 ⟨_, rfl⟩) (hkeeps.1 ⟨_, rfl⟩) h
    rw [deliveries, Nat.add_comm (deliveries cs), ← Nat.add_assoc]
    exact failing_run cs _ (runs + 1) hclear.2 hkeeps.2 hnext

/-- **In a sequence of commands every delivery run is fair, and a row that keeps failing is dead
after as many runs as it has attempts, if and only if nothing ever holds the rows back.** -/
theorem deliveries_fair_iff (outbox : Outbox) (cs : List OutboxCommand) :
    ((∀ before outside limit maxAttempts after,
        cs = before ++ .deliver outside limit maxAttempts :: after →
          Fair outside limit maxAttempts (run step outbox before)) ∧
      ∀ most i before runs after row, cs = before ++ runs ++ after →
        (run step outbox before).get? i = some row → row.status = .pending →
        Guarded step (KeepsFailing most i) (run step outbox before) runs →
        0 < deliveries runs → most ≤ deliveries runs →
          ∃ dead, (run step outbox (before ++ runs)).get? i = some dead ∧ dead.status = .dead) ↔
      Guarded step Clear outbox cs := by
  constructor
  · rintro ⟨hfair, -⟩
    refine (guarded_iff_forall_split cs outbox).mpr fun before c after heq _ => ?_
    cases c with
    | enqueue intent now => trivial
    | deliver outside limit maxAttempts =>
      exact fair_iff.mp (hfair before outside limit maxAttempts after heq)
  · intro hclear
    refine ⟨fun before outside limit maxAttempts after heq => ?_, ?_⟩
    · exact fair_iff.mpr ((guarded_iff_forall_split cs outbox).mp hclear before _ after heq
        ⟨_, rfl⟩)
    · rintro most i before runs after row rfl hrow hpending hkeeps hsome hmost
      have hruns : Guarded step Clear (run step outbox before) runs :=
        Guarded.append_right before _ (Guarded.append_left (before ++ runs) _ hclear)
      obtain ⟨last, hlast, hdead | ⟨-, hcount, hleft⟩⟩ := failing_run runs _ 0 hruns hkeeps
        ⟨row, hrow, .inr ⟨hpending, Nat.zero_le _, fun h => absurd h (Nat.lt_irrefl 0)⟩⟩
      · exact ⟨last, run_append ▸ hlast, hdead⟩
      · have hfew := hleft (by omega)
        omega

def materialRequest : Intent :=
  ⟨.materialRequest, "field_material_request", 1, "mr-1-approve-v1", "request"⟩

def expenseClaim : Intent :=
  ⟨.expenseClaim, "field_expense_request", 2, "exp-2-submit-v1", "claim"⟩

/-- A material request, and a later expense claim. -/
def backlog : Outbox := enqueue (enqueue Table.empty materialRequest 0) expenseClaim 1

/-- Every row is posted, and the write-back of every answer fails. -/
def brokenWriteback (ownership : List (FieldErpSyncFlow × SyncFlowOwner)) : Surroundings where
  ownership := ownership
  eventReady := fun row => .ready row.payload
  post := fun _ _ => .response [("request_id", ⟨true, false, "MR-7"⟩)] true
  lower := fun text => text
  now := 2

lemma pendingRows_backlog :
    pendingRows backlog = [materialRequest.event 0 0, expenseClaim.event 1 1] :=
  List.mergeSort_of_pairwise (l := [materialRequest.event 0 0, expenseClaim.event 1 1])
    (List.pairwise_pair.mpr (by decide))

/-- A request that is not owned takes the only place of the claim; and a write-back that fails
leaves the claim, and the request with the attempts that it had. -/
theorem held_back :
    ¬ Fair (brokenWriteback [(.expenseClaim, .sub)]) 1 10 backlog ∧
      ¬ Fair (brokenWriteback [(.expenseClaim, .sub), (.materialRequest, .sub)]) 100 10
        backlog := by
  constructor
  · intro h
    have hattempted := h.attempted
    rw [due, deliverPending, pendingRows_backlog] at hattempted
    exact absurd hattempted (by decide)
  · intro h
    have hattempted := h.attempted
    rw [due, deliverPending, pendingRows_backlog] at hattempted
    exact absurd hattempted (by decide)

end DotmacSub.ErpOutbox
