import DotmacSub.Core.Table
import DotmacSub.Core.Checked
import DotmacSub.Core.Text
import DotmacSub.Models.DomainErrors
import Mathlib.Data.List.Sort

/-!
# Durable timers and owner-output receipts

The two runtime owners that every billing transition leans on: `runtime_durable_timers` keeps one
current timer per owner, entity and purpose, and `events/owner_outputs` runs a consumer's effect
once per event.
-/

namespace DotmacSub

open Store Checked

inductive TimerStatus
  | scheduled
  | fired
  | canceled
  | superseded
deriving DecidableEq

/-- One generation of one owner's timer for one entity and purpose. -/
structure DurableTimer where
  id : ℕ
  owner : String
  entityKind : String
  entityId : ℕ
  purpose : String
  generation : ℕ
  dueAt : ℤ
  expectedSourceVersion : ℕ
  outputEventType : String
  status : TimerStatus
deriving DecidableEq

instance : Row DurableTimer := ⟨DurableTimer.id⟩

/-- Typed request to create or replace one owner's timer. -/
structure ScheduleTimerCommand where
  owner : String
  entityKind : String
  entityId : ℕ
  purpose : String
  dueAt : ℤ
  outputEventType : String
  expectedSourceVersion : ℕ

/-- The timer is a generation of the command's owner, entity and purpose. -/
def ScheduleTimerCommand.matches (command : ScheduleTimerCommand) (timer : DurableTimer) : Prop :=
  timer.owner = command.owner ∧ timer.entityKind = command.entityKind ∧
    timer.entityId = command.entityId ∧ timer.purpose = command.purpose

instance (command : ScheduleTimerCommand) (timer : DurableTimer) :
    Decidable (command.matches timer) :=
  inferInstanceAs (Decidable (_ ∧ _ ∧ _ ∧ _))

/-- The highest generation, including fired and canceled history. -/
def latestGeneration (timers : Table DurableTimer) (command : ScheduleTimerCommand) : ℕ :=
  ((timers.rows.filter (command.matches ·)).map DurableTimer.generation).foldl max 0

/-- Create or replace the current timer, superseding the scheduled generation.  The timer is
returned with the table. -/
def scheduleTimer (timers : Table DurableTimer) (command : ScheduleTimerCommand) :
    Except DomainError (Table DurableTimer × DurableTimer) := do
  ensure (Text.strip command.outputEventType ≠ "")
    ⟨"runtime.durable_timers.invalid_timer_output",
      "A timer must declare its output event type.", []⟩
  let generation := latestGeneration timers command + 1
  let superseded := timers.map (fun t =>
    if command.matches t ∧ t.generation + 1 = generation ∧ t.status = .scheduled then
      { t with status := .superseded } else t) (fun t => by split_ifs <;> rfl)
  let timer : ℕ → DurableTimer := fun id =>
    { id, owner := command.owner, entityKind := command.entityKind, entityId := command.entityId,
      purpose := command.purpose, generation, dueAt := command.dueAt,
      expectedSourceVersion := command.expectedSourceVersion,
      outputEventType := command.outputEventType, status := .scheduled }
  return (superseded.insert timer fun _ => rfl, timer superseded.next)

def dueTimers (timers : Table DurableTimer) (now : ℤ) (batchLimit : ℕ) : List DurableTimer :=
  ((timers.rows.filter fun t => t.status = .scheduled ∧ t.dueAt ≤ now).insertionSort
    (fun a b => a.dueAt ≤ b.dueAt)).take batchLimit

/-- Mark the due timers fired, earliest first, up to the batch limit. -/
def fireDue (timers : Table DurableTimer) (now : ℤ) (batchLimit : ℕ) : Table DurableTimer :=
  timers.map (fun t => if t ∈ dueTimers timers now batchLimit then { t with status := .fired }
    else t) (fun t => by split_ifs <;> rfl)

/-- One consumer's committed outcome for one owner-output event. -/
structure OwnerOutputReceipt where
  consumer : String
  eventId : ℕ
  eventType : String
  producerOwner : String
deriving DecidableEq

/-- Run the effect unless this consumer already has a receipt for the event; a replay returns no
result. -/
def consumeOwnerOutput {σ α : Type} (receipts : σ → List OwnerOutputReceipt)
    (record : OwnerOutputReceipt → σ → σ) (receipt : OwnerOutputReceipt) (idempotencyKey : String)
    (operation : σ → Except DomainError (σ × α)) (db : σ) :
    Except DomainError (σ × Option α) := do
  ensure (idempotencyKey ≠ "") (.missingIdempotencyKey "events.owner_outputs"
    "A consumer effect requires its business idempotency key.")
  if ∃ r ∈ receipts db, r.consumer = receipt.consumer ∧ r.eventId = receipt.eventId then
    return (db, none)
  else
    let (db', result) ← operation db
    return (record receipt db', some result)

end DotmacSub
