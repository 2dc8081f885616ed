import DotmacSub.Core.Run
import DotmacSub.Models.FupState

/-!
# Plan changes and fair usage enforcement

The writer of `services/fup_state.py`, and whether enforcement of a subscription can start again
after its offer has changed.
-/

namespace DotmacSub.Fup

open Store Checked Run

def runtimeError (suffix message : String) : DomainError :=
  ⟨"access.fup_runtime_state." ++ suffix, message, []⟩

structure ApplyFupRuntimeState where
  subscriptionId : ℕ
  offerId : ℕ
  actionStatus : FupActionStatus
  evaluatedAt : ℤ
  ruleId : Option ℕ := none
  speedReductionPercent : Option ℚ := none
  originalProfileId : Option ℕ := none
  throttleProfileId : Option ℕ := none
  capResetsAt : Option ℤ := none
  notes : Option String := none
deriving DecidableEq

structure ClearFupRuntimeState where
  subscriptionId : ℕ
  evaluatedAt : ℤ
deriving DecidableEq

def ApplyFupRuntimeState.proposed (command : ApplyFupRuntimeState) : Posture where
  activeRuleId := command.ruleId
  actionStatus := command.actionStatus
  speedReductionPercent := command.speedReductionPercent
  originalProfileId := command.originalProfileId
  throttleProfileId := command.throttleProfileId
  capResetsAt := command.capResetsAt
  lastEvaluatedAt := some command.evaluatedAt
  notes := command.notes

namespace RuntimeDb

def lockedSubscription (db : RuntimeDb) (subscriptionId : ℕ) :
    Except DomainError RuntimeSubscription :=
  orRefuse (db.subscriptions.get? subscriptionId)
    (runtimeError "subscription_not_found" "Subscription was not found.")

def addState (db : RuntimeDb) (subscriptionId offerId : ℕ) : RuntimeDb :=
  { db with
    states := db.states.insert (fun id => ⟨.initial, id, subscriptionId, offerId⟩) fun _ => rfl }

def getOrCreate (db : RuntimeDb) (subscription : RuntimeSubscription) (offerId : ℕ) :
    Except DomainError (RuntimeDb × FupState) := do
  ensure (subscription.offerId = offerId) (runtimeError "offer_mismatch"
    "FUP runtime state offer does not match the subscription offer.")
  match db.lockedState subscription.id with
  | some state =>
    ensure (state.offerId = offerId) (runtimeError "state_offer_mismatch"
      "Existing FUP runtime state has conflicting offer evidence.")
    return (db, state)
  | none =>
    return (db.addState subscription.id offerId,
      ⟨.initial, db.states.next, subscription.id, offerId⟩)

def emitTransition (db : RuntimeDb) (state : FupState) (transition : String) : RuntimeDb :=
  { db with events := db.events ++
      [⟨1, state.subscriptionId, state.offerId, transition, state.actionStatus⟩] }

def write (db : RuntimeDb) (state : FupState) (posture : Posture) (transition : String) :
    RuntimeDb × FupState :=
  let written : FupState := { state with toPosture := posture }
  (emitTransition { db with
      states := db.states.update state.id ({ · with toPosture := posture }) fun _ => rfl }
    written transition, written)

/-- Remember that a rule has fired. -/
def applyAction (db : RuntimeDb) (command : ApplyFupRuntimeState) :
    Except DomainError (RuntimeDb × FupState) := do
  let subscription ← db.lockedSubscription command.subscriptionId
  let (db, state) ← db.getOrCreate subscription command.offerId
  if state.toPosture = command.proposed then
    return (db, state)
  else
    return db.write state command.proposed "action_applied"

/-- Stage an idempotent locked period reset. -/
def clear (db : RuntimeDb) (command : ClearFupRuntimeState) :
    Except DomainError (RuntimeDb × Option FupState) := do
  let _ ← db.lockedSubscription command.subscriptionId
  match db.lockedState command.subscriptionId with
  | none => return (db, none)
  | some state =>
    if state.Neutral then
      return (db, some state)
    else
      let (db, cleared) := db.write state { Posture.initial with
        lastEvaluatedAt := some command.evaluatedAt
        notes := some "Period reset" } "state_cleared"
      return (db, some cleared)

def changeOffer (db : RuntimeDb) (subscriptionId offerId : ℕ) : Except DomainError RuntimeDb := do
  let _ ← db.lockedSubscription subscriptionId
  return { db with
    subscriptions := db.subscriptions.update subscriptionId ({ · with offerId }) fun _ => rfl }

end RuntimeDb

/-- What is done to the enforcement of a subscription. -/
inductive RuntimeCommand
  | apply (command : ApplyFupRuntimeState)
  | clear (command : ClearFupRuntimeState)
  | changeOffer (subscriptionId offerId : ℕ)
deriving DecidableEq

def runtimeStep (db : RuntimeDb) : RuntimeCommand → Except DomainError RuntimeDb
  | .apply command => Prod.fst <$> db.applyAction command
  | .clear command => Prod.fst <$> db.clear command
  | .changeOffer subscriptionId offerId => db.changeOffer subscriptionId offerId

section Writes

variable {db db' : RuntimeDb} {subscription : RuntimeSubscription} {state : FupState}
  {id offerId : ℕ} {command : ApplyFupRuntimeState}

lemma subscriptionId_of_lockedState (h : db.lockedState id = some state) :
    state.subscriptionId = id := by
  simpa using List.find?_some h

lemma mem_of_lockedState (h : db.lockedState id = some state) : state ∈ db.states.rows :=
  List.mem_of_find?_eq_some h

/-- A new row is found under its subscription, and nowhere else. -/
lemma lockedState_addState (hnone : db.lockedState subscription.id = none) :
    (db.addState subscription.id offerId).lockedState id =
      if subscription.id = id then some ⟨.initial, db.states.next, subscription.id, offerId⟩
      else db.lockedState id := by
  simp only [RuntimeDb.lockedState, RuntimeDb.addState, Table.insert, List.find?_append,
    List.find?_singleton, decide_eq_true_eq]
  split_ifs with hid
  · subst hid
    rw [show db.states.rows.find? _ = none from hnone, Option.none_or]
  · exact Option.or_none

/-- A written row has its new posture, and the rows of other subscriptions are as before. -/
lemma lockedState_write {posture : Posture} {transition : String} {other : ℕ}
    (hstate : db.lockedState id = some state) :
    (db.write state posture transition).1.lockedState other =
      if other = id then some { state with toPosture := posture } else db.lockedState other := by
  show (db.states.rows.map _).find? _ = _
  rw [List.find?_map]
  have hkeep : ((fun row : FupState => decide (row.subscriptionId = other)) ∘ fun row =>
      if Row.id row = state.id then { row with toPosture := posture } else row) =
      fun row => decide (row.subscriptionId = other) := by
    funext row
    simp only [Function.comp_apply]
    split_ifs <;> rfl
  rw [hkeep]
  show (db.lockedState other).map _ = _
  split_ifs with hid
  · subst hid
    rw [hstate, Option.map_some, if_pos (show Row.id state = state.id from rfl)]
  · cases hother : db.lockedState other with
    | none => rfl
    | some row =>
      rw [Option.map_some, if_neg]
      intro hrow
      have heq := Table.eq_of_id_eq (mem_of_lockedState hother) (mem_of_lockedState hstate) hrow
      refine hid ?_
      rw [← subscriptionId_of_lockedState hother, ← subscriptionId_of_lockedState hstate, heq]

/-- The row a command works on exists afterwards, and no other has moved. -/
lemma getOrCreate_eq_ok :
    db.getOrCreate subscription offerId = .ok (db', state) ↔
      subscription.offerId = offerId ∧
        ((db.lockedState subscription.id = some state ∧ state.offerId = offerId ∧ db' = db) ∨
          (db.lockedState subscription.id = none ∧ db' = db.addState subscription.id offerId ∧
            state = ⟨.initial, db.states.next, subscription.id, offerId⟩)) := by
  rw [RuntimeDb.getOrCreate, ensure_bind_eq_ok]
  refine and_congr_right fun _ => ?_
  cases hlocked : db.lockedState subscription.id with
  | none =>
    simp only [pure_eq_ok, Prod.mk.injEq, reduceCtorEq, false_and, true_and, false_or]
    exact and_congr eq_comm eq_comm
  | some row =>
    simp only [ensure_bind_eq_ok, pure_eq_ok, Prod.mk.injEq, Option.some.injEq, reduceCtorEq,
      false_and, or_false]
    constructor
    · rintro ⟨hoffer, rfl, rfl⟩
      exact ⟨rfl, hoffer, rfl⟩
    · rintro ⟨rfl, hoffer, rfl⟩
      exact ⟨hoffer, rfl, rfl⟩

/-- What an accepted apply leaves: the row of the subscription, in the posture it asked for. -/
structure Applied (db : RuntimeDb) (command : ApplyFupRuntimeState) (db' : RuntimeDb)
    (state : FupState) : Prop where
  subscriptions : db'.subscriptions = db.subscriptions
  recorded : db'.lockedState command.subscriptionId = some state
  offer : state.offerId = command.offerId
  posture : state.toPosture = command.proposed
  others : ∀ other ≠ command.subscriptionId, db'.lockedState other = db.lockedState other

lemma lockedSubscription_eq_ok :
    db.lockedSubscription id = .ok subscription ↔ db.subscriptions.get? id = some subscription :=
  orRefuse_eq_ok

/-- Getting or creating the row moves no other row. -/
lemma lockedState_getOrCreate (h : db.getOrCreate subscription offerId = .ok (db', state)) :
    db'.subscriptions = db.subscriptions ∧ state.offerId = offerId ∧
      db'.lockedState subscription.id = some state ∧
      ∀ other ≠ subscription.id, db'.lockedState other = db.lockedState other := by
  obtain ⟨-, ⟨hlocked, hoffer, rfl⟩ | ⟨hnone, rfl, rfl⟩⟩ := getOrCreate_eq_ok.mp h
  · exact ⟨rfl, hoffer, hlocked, fun _ _ => rfl⟩
  · refine ⟨rfl, rfl, ?_, fun other hother => ?_⟩
    · rw [lockedState_addState hnone, if_pos rfl]
    · rw [lockedState_addState hnone, if_neg hother.symm]

/-- An accepted apply was for the current offer, and is recorded. -/
lemma applyAction_ok (h : db.applyAction command = .ok (db', state)) :
    Applied db command db' state := by
  simp only [RuntimeDb.applyAction, bind_eq_ok, lockedSubscription_eq_ok] at h
  obtain ⟨subscription, hget, ⟨created, row⟩, hcreate, h⟩ := h
  have hid : subscription.id = command.subscriptionId := (Table.get?_eq_some.mp hget).2
  obtain ⟨hsubscriptions, hoffer, hrow, hothers⟩ := lockedState_getOrCreate hcreate
  rw [hid] at hrow hothers
  split_ifs at h with hsame
  · obtain ⟨rfl, rfl⟩ := mk_eq_ok.mp h
    exact ⟨hsubscriptions, hrow, hoffer, hsame, hothers⟩
  · obtain ⟨rfl, rfl⟩ := mk_eq_ok.mp h
    refine ⟨hsubscriptions, ?_, hoffer, rfl, fun other hother => ?_⟩
    · exact (lockedState_write hrow).trans (if_pos rfl)
    · exact ((lockedState_write hrow).trans (if_neg hother)).trans (hothers other hother)

lemma offer_of_applyAction (h : db.applyAction command = .ok (db', state)) :
    ∃ current, db.subscriptions.get? command.subscriptionId = some current ∧
      current.offerId = command.offerId := by
  simp only [RuntimeDb.applyAction, bind_eq_ok, lockedSubscription_eq_ok] at h
  obtain ⟨current, hget, ⟨created, row⟩, hcreate, -⟩ := h
  exact ⟨current, hget, (getOrCreate_eq_ok.mp hcreate).1⟩

/-- **An apply for the current offer is accepted** exactly if the row names no other one. -/
theorem applyAction_accepted_iff
    (hget : db.subscriptions.get? command.subscriptionId = some subscription)
    (hoffer : subscription.offerId = command.offerId) :
    (∃ result, db.applyAction command = .ok result) ↔
      ∀ state, db.lockedState command.subscriptionId = some state →
        state.offerId = subscription.offerId := by
  have hid : subscription.id = command.subscriptionId := (Table.get?_eq_some.mp hget).2
  rw [RuntimeDb.applyAction, lockedSubscription_eq_ok.mpr hget, ok_bind]
  constructor
  · rintro ⟨result, h⟩ state hstate
    obtain ⟨⟨created, row⟩, hcreate, -⟩ := bind_eq_ok.mp h
    rw [← hid] at hstate
    obtain ⟨-, ⟨hlocked, hrow, -⟩ | ⟨hnone, -⟩⟩ := getOrCreate_eq_ok.mp hcreate
    · obtain rfl := Option.mem_unique hstate hlocked
      exact hrow.trans hoffer.symm
    · exact absurd (hnone.symm.trans hstate) nofun
  · intro hmatch
    have hcreate : ∃ created row,
        db.getOrCreate subscription command.offerId = .ok (created, row) := by
      simp only [getOrCreate_eq_ok, hid]
      cases hlocked : db.lockedState command.subscriptionId with
      | none => exact ⟨_, _, hoffer, .inr ⟨rfl, rfl, rfl⟩⟩
      | some state =>
        exact ⟨_, state, hoffer, .inl ⟨rfl, (hmatch state hlocked).trans hoffer, rfl⟩⟩
    obtain ⟨created, row, hcreate⟩ := hcreate
    rw [hcreate, ok_bind]
    by_cases hsame : row.toPosture = command.proposed
    · exact ⟨_, if_pos hsame⟩
    · exact ⟨_, if_neg hsame⟩

/-- What an accepted clear leaves: the row of the subscription is inactive, under its old offer. -/
structure Cleared (db : RuntimeDb) (id : ℕ) (db' : RuntimeDb) : Prop where
  subscriptions : db'.subscriptions = db.subscriptions
  offer : ∀ state', db'.lockedState id = some state' → state'.actionStatus = .none ∧
    ∃ state, db.lockedState id = some state ∧ state'.offerId = state.offerId
  kept : ∀ state, db.lockedState id = some state →
    ∃ state', db'.lockedState id = some state' ∧ state'.offerId = state.offerId
  others : ∀ other ≠ id, db'.lockedState other = db.lockedState other

lemma clear_ok {command : ClearFupRuntimeState} {cleared : Option FupState}
    (h : db.clear command = .ok (db', cleared)) : Cleared db command.subscriptionId db' := by
  simp only [RuntimeDb.clear, bind_eq_ok, lockedSubscription_eq_ok] at h
  obtain ⟨subscription, -, h⟩ := h
  cases hlocked : db.lockedState command.subscriptionId with
  | none =>
    rw [hlocked] at h
    obtain ⟨rfl, -⟩ := mk_eq_ok.mp h
    exact ⟨rfl, by simp [hlocked], by simp [hlocked], fun _ _ => rfl⟩
  | some state =>
    rw [hlocked] at h
    simp only at h
    split_ifs at h with hneutral
    · obtain ⟨rfl, -⟩ := mk_eq_ok.mp h
      refine ⟨rfl, fun state' h' => ?_, fun state' h' => ⟨state', h', rfl⟩, fun _ _ => rfl⟩
      obtain rfl := Option.mem_unique hlocked h'
      exact ⟨hneutral.2.1, state, h', rfl⟩
    · obtain ⟨rfl, -⟩ := mk_eq_ok.mp h
      refine ⟨rfl, fun state' h' => ?_, fun state' h' => ?_, fun other hother => ?_⟩
      · rw [lockedState_write hlocked, if_pos rfl] at h'
        obtain rfl := Option.some.inj h'
        exact ⟨rfl, state, hlocked, rfl⟩
      · obtain rfl := Option.mem_unique hlocked h'
        exact ⟨_, (lockedState_write hlocked).trans (if_pos rfl), rfl⟩
      · exact (lockedState_write hlocked).trans (if_neg hother)

end Writes

def RuntimeDb.Inactive (db : RuntimeDb) (subscriptionId : ℕ) : Prop :=
  ∀ state, db.lockedState subscriptionId = some state → state.actionStatus = .none

/-- Where no action is active, every action for the current offer is accepted and recorded. -/
def Startable (db : RuntimeDb) : Prop :=
  ∀ subscription ∈ db.subscriptions.rows, db.Inactive subscription.id →
    ∀ command : ApplyFupRuntimeState, command.subscriptionId = subscription.id →
      command.offerId = subscription.offerId →
      ∃ db' state, db.applyAction command = .ok (db', state) ∧
        db'.lockedState subscription.id = some state ∧ state.offerId = subscription.offerId ∧
        state.toPosture = command.proposed

/-- A row without an active action names the current offer. -/
def Matching (db : RuntimeDb) : Prop :=
  ∀ subscription ∈ db.subscriptions.rows, ∀ state, db.lockedState subscription.id = some state →
    state.actionStatus = .none → state.offerId = subscription.offerId

/-- The command leaves no inactive row under another offer: a plan change does not move the
subscription away from the offer of its inactive row, and a clear ends an action that was recorded
under the current offer. -/
def KeepsOffer (db : RuntimeDb) : RuntimeCommand → Prop
  | .apply _ => True
  | .clear command => ∀ subscription state,
      db.subscriptions.get? command.subscriptionId = some subscription →
      db.lockedState command.subscriptionId = some state → state.offerId = subscription.offerId
  | .changeOffer subscriptionId offerId => ∀ state, db.lockedState subscriptionId = some state →
      state.actionStatus = .none → state.offerId = offerId

variable {db db' : RuntimeDb}

lemma startable_iff_matching : Startable db ↔ Matching db := by
  constructor
  · intro h subscription hmem state hstate hnone
    have hinactive : db.Inactive subscription.id := fun row hrow => by
      obtain rfl := Option.mem_unique hstate hrow
      exact hnone
    obtain ⟨db', row, happly, -⟩ := h subscription hmem hinactive
      ⟨subscription.id, subscription.offerId, .notified, 0, none, none, none, none, none, none⟩
      rfl rfl
    exact (applyAction_accepted_iff (Table.get?_eq_some.mpr ⟨hmem, rfl⟩) rfl).mp
      ⟨_, happly⟩ state hstate
  · intro h subscription hmem hinactive command hid hoffer
    have hget : db.subscriptions.get? command.subscriptionId = some subscription :=
      Table.get?_eq_some.mpr ⟨hmem, hid.symm⟩
    obtain ⟨⟨db', state⟩, happly⟩ := (applyAction_accepted_iff hget hoffer.symm).mpr
      fun state hstate => by
        rw [hid] at hstate
        exact h subscription hmem state hstate (hinactive state hstate)
    have happlied := applyAction_ok happly
    refine ⟨db', state, happly, ?_, happlied.offer.trans hoffer, happlied.posture⟩
    rw [← hid]
    exact happlied.recorded

/-- What an accepted plan change leaves. -/
lemma changeOffer_ok {subscriptionId offerId : ℕ}
    (h : db.changeOffer subscriptionId offerId = .ok db') :
    (∀ id, db'.lockedState id = db.lockedState id) ∧
      ∃ subscription, db.subscriptions.get? subscriptionId = some subscription ∧
        ∀ row, row ∈ db'.subscriptions.rows ↔
          (row ∈ db.subscriptions.rows ∧ row.id ≠ subscriptionId) ∨
            row = { subscription with offerId } := by
  simp only [RuntimeDb.changeOffer, bind_eq_ok, lockedSubscription_eq_ok, pure_eq_ok] at h
  obtain ⟨subscription, hget, rfl⟩ := h
  refine ⟨fun _ => rfl, subscription, hget, fun row => ?_⟩
  obtain ⟨hmem, hid⟩ := Table.get?_eq_some.mp hget
  have hupdate : row ∈ (db.subscriptions.update subscriptionId ({ · with offerId })
      fun _ => rfl).rows ↔ _ := Table.mem_update
  refine hupdate.trans (or_congr_right ⟨?_, ?_⟩)
  · rintro ⟨other, hother, hother', rfl⟩
    rw [Table.eq_of_id_eq hother hmem (hother'.trans hid.symm)]
  · rintro rfl
    exact ⟨subscription, hmem, hid, rfl⟩

/-- A plan change keeps a matching database so exactly if the row of the subscription allows it. -/
lemma matching_changeOffer {subscriptionId offerId : ℕ} (hmatching : Matching db)
    (h : db.changeOffer subscriptionId offerId = .ok db') :
    Matching db' ↔ KeepsOffer db (.changeOffer subscriptionId offerId) := by
  obtain ⟨hlocked, subscription, hget, hrows⟩ := changeOffer_ok h
  obtain ⟨-, hid⟩ := Table.get?_eq_some.mp hget
  constructor
  · intro h' state hstate hnone
    have hmem := (hrows { subscription with offerId }).mpr (.inr rfl)
    refine h' _ hmem state ?_ hnone
    rw [hlocked]
    exact (congrArg db.lockedState hid).trans hstate
  · intro hkeeps row hrow state hstate hnone
    rw [hlocked] at hstate
    obtain ⟨hrow, -⟩ | rfl := (hrows row).mp hrow
    · exact hmatching row hrow state hstate hnone
    · exact hkeeps state ((congrArg db.lockedState hid).symm.trans hstate) hnone

/-- A clear keeps a matching database so exactly if it ends no action of another offer. -/
lemma matching_clear {command : ClearFupRuntimeState} {cleared : Option FupState}
    (hmatching : Matching db) (h : db.clear command = .ok (db', cleared)) :
    Matching db' ↔ KeepsOffer db (.clear command) := by
  obtain ⟨hsubscriptions, hoffer, hkept, hothers⟩ := clear_ok h
  constructor
  · intro h' subscription state hget hstate
    obtain ⟨hmem, hid⟩ := Table.get?_eq_some.mp hget
    obtain ⟨state', hstate', heq⟩ := hkept state hstate
    rw [← heq]
    refine h' subscription (hsubscriptions ▸ hmem) state' ?_ (hoffer state' hstate').1
    exact (congrArg db'.lockedState hid).trans hstate'
  · intro hkeeps subscription hmem state' hstate' hnone
    rw [hsubscriptions] at hmem
    by_cases hid : subscription.id = command.subscriptionId
    · rw [hid] at hstate'
      obtain ⟨-, state, hstate, heq⟩ := hoffer state' hstate'
      rw [heq]
      exact hkeeps subscription state (Table.get?_eq_some.mpr ⟨hmem, hid⟩) hstate
    · rw [hothers _ hid] at hstate'
      exact hmatching subscription hmem state' hstate' hnone

/-- An apply keeps a matching database so: the row it writes is under the current offer. -/
lemma matching_applyAction {command : ApplyFupRuntimeState} {state : FupState}
    (hmatching : Matching db) (h : db.applyAction command = .ok (db', state)) : Matching db' := by
  obtain ⟨hsubscriptions, hrecorded, hoffer, -, hothers⟩ := applyAction_ok h
  intro subscription hmem row hrow hnone
  rw [hsubscriptions] at hmem
  by_cases hid : subscription.id = command.subscriptionId
  · rw [hid] at hrow
    obtain rfl := Option.mem_unique hrecorded hrow
    obtain ⟨current, hget, hcurrent⟩ := offer_of_applyAction h
    obtain rfl := Table.eq_of_id_eq hmem (Table.get?_eq_some.mp hget).1
      (hid.trans (Table.get?_eq_some.mp hget).2.symm)
    rw [hoffer, hcurrent]
  · rw [hothers _ hid] at hrow
    exact hmatching subscription hmem row hrow hnone

lemma matching_runtimeStep {command : RuntimeCommand} (hmatching : Matching db)
    (h : runtimeStep db command = .ok db') : Matching db' ↔ KeepsOffer db command := by
  cases command with
  | apply command =>
    obtain ⟨⟨_, state⟩, happly, rfl⟩ := map_eq_ok.mp h
    exact iff_of_true (matching_applyAction hmatching happly) trivial
  | clear command =>
    obtain ⟨⟨_, cleared⟩, hclear, rfl⟩ := map_eq_ok.mp h
    exact matching_clear hmatching hclear
  | changeOffer subscriptionId offerId => exact matching_changeOffer hmatching h

/-- **When plan changes never wedge enforcement.**  Enforcement can start wherever no action is
active, in every state of the run, exactly if each of its commands keeps the offer. -/
theorem startable_run_iff (subscriptions : Table RuntimeSubscription)
    (commands : List RuntimeCommand) :
    (∀ before after, commands = before ++ after →
        Startable (run runtimeStep (.initial subscriptions) before)) ↔
      Guarded runtimeStep KeepsOffer (.initial subscriptions) commands := by
  simp only [startable_iff_matching]
  refine forall_prefix_iff_guarded (fun _ _ _ hmatching hkeeps h => ?_)
    (fun _ _ _ hmatching h hnext => ?_) commands _ fun _ _ _ h => nomatch h
  · exact (matching_runtimeStep hmatching h).mpr hkeeps
  · exact (matching_runtimeStep hmatching h).mp hnext

/-- A throttle that was lifted, and a plan change after it. -/
def throttledThenUpgraded : List RuntimeCommand :=
  [.apply ⟨0, 0, .throttled, 10, none, none, none, none, none, none⟩, .clear ⟨0, 20⟩,
    .changeOffer 0 1]

/-- After the plan change the subscription cannot be enforced any more. -/
theorem not_startable_throttledThenUpgraded :
    ¬ Startable (run runtimeStep
      (.initial (Table.empty.insert (fun id => ⟨id, 0⟩) fun _ => rfl)) throttledThenUpgraded) := by
  rw [startable_iff_matching]
  intro h
  have hoffer := h ⟨0, 1⟩ (by decide)
    ⟨⟨none, .none, none, none, none, none, some 20, some "Period reset"⟩, 0, 0, 0⟩
    (by decide) rfl
  exact absurd hoffer (by decide)

end DotmacSub.Fup
