import DotmacSub.Core.Checked
import DotmacSub.Models.DomainErrors
import Mathlib.Data.List.Sort

/-!
# The plan of an event

`control_relationships`: which handlers an event reaches, in which order, and what each of them
waits for.  The declarations of the handlers are a parameter.
-/

namespace DotmacSub.EventDelivery

open Checked

inductive HandlerStage
  | state
  | communication
  | external
deriving DecidableEq

namespace HandlerStage

def value : HandlerStage → ℕ
  | state => 10
  | communication => 20
  | external => 30

end HandlerStage

structure HandlerControl where
  stage : HandlerStage
  order : ℕ
  capabilities : List String

/-- The declarations: the control and the scope of a handler, the chained events and the
dependencies within a stage.  A handler without a scope takes every event. -/
structure Controls where
  control : String → Option HandlerControl
  eventTypes : String → Option (List String)
  chainedEventTypes : List String
  eventHandlerDependencies : String → String → List String

structure HandlerStep where
  handlerName : String
  stage : Option HandlerStage
  dependencies : List String

/-- The stage of a handler and its order within the stage. -/
def sortKey (controls : Controls) (name : String) : ℕ × ℕ :=
  match controls.control name with
  | some control => (control.stage.value, control.order)
  | none => (0, 0)

/-- The handler comes no later than the other. -/
def precedes (controls : Controls) (a b : String) : Bool :=
  (sortKey controls a).1 < (sortKey controls b).1 ||
    ((sortKey controls a).1 = (sortKey controls b).1 &&
      (sortKey controls a).2 ≤ (sortKey controls b).2)

/-- Handlers by stage and order, those of one place as registered. -/
def sorted (controls : Controls) (handlers : List String) : List String :=
  handlers.insertionSort fun a b => precedes controls a b

def allDeclared (controls : Controls) (handlers : List String) : Bool :=
  handlers.all fun name => (controls.control name).isSome

/-- The registered handlers that an event reaches, in the order they run. -/
def applicable (controls : Controls) (eventType : String) (handlers : List String) : List String :=
  let resolved := if handlers ≠ [] ∧ allDeclared controls handlers then sorted controls handlers
    else handlers
  resolved.filter fun name =>
    (controls.control name).isNone ||
      match controls.eventTypes name with
      | none => true
      | some eventTypes => eventTypes.contains eventType

def dependencies (controls : Controls) (eventType : String) (applicable : List String)
    (index : ℕ) (name : String) : List String :=
  let chained := controls.chainedEventTypes.contains eventType
  let ofStages :=
    match chained, allDeclared controls applicable, controls.control name with
    | true, true, some control => applicable.filter fun prior =>
      (controls.control prior).any fun other => other.stage.value < control.stage.value
    | true, _, _ => applicable.take index
    | false, _, _ => []
  let explicit :=
    if allDeclared controls applicable ∧ (controls.control name).isSome then
      (controls.eventHandlerDependencies eventType name).filter applicable.contains
    else []
  (ofStages ++ explicit).eraseDups

def eventExecutionPlan (controls : Controls) (eventType : String) (handlers : List String) :
    List HandlerStep :=
  let applicable := applicable controls eventType handlers
  applicable.mapIdx fun index name =>
    { handlerName := name
      stage := (controls.control name).map HandlerControl.stage
      dependencies := dependencies controls eventType applicable index name }

def claimCapabilities (owners : List (String × String)) :
    List (String × String) → Except DomainError Unit
  | [] => .ok ()
  | (capability, name) :: rest =>
    match owners.lookup capability with
    | some previous => .error ⟨"ControlRelationshipError", "Exclusive event capability " ++
        capability ++ " owned by " ++ previous ++ " and " ++ name, []⟩
    | none => claimCapabilities ((capability, name) :: owners) rest

/-- The handlers in their order, if none is registered twice, all are declared and no capability
has two owners. -/
def validateAndOrderHandlers (controls : Controls) (handlers : List String) :
    Except DomainError (List String) := do
  ensure handlers.Nodup ⟨"ControlRelationshipError", "Duplicate event handler registrations: " ++
    String.intercalate ", " ((handlers.filter (handlers.count · > 1)).dedup.insertionSort (· ≤ ·)),
    []⟩
  let missing := handlers.filter fun name => (controls.control name).isNone
  ensure (missing = []) ⟨"ControlRelationshipError", "Event handlers missing control declarations: " ++
    String.intercalate ", " (missing.insertionSort (· ≤ ·)), []⟩
  claimCapabilities [] (handlers.flatMap fun name =>
    (((controls.control name).map HandlerControl.capabilities).getD []).map (·, name))
  return sorted controls handlers

/-- Registered handlers, none of them twice. -/
structure Handlers where
  names : List String
  nodup : names.Nodup

variable {controls : Controls} {eventType : String} {handlers registered : List String}

lemma sorted_perm : (sorted controls handlers).Perm handlers := by
  unfold sorted
  exact List.perm_insertionSort _ _

theorem nodup_of_validated (h : validateAndOrderHandlers controls registered = .ok handlers) :
    handlers.Nodup := by
  simp only [validateAndOrderHandlers, bind_eq_ok, ensure_eq_ok, pure_eq_ok] at h
  obtain ⟨-, hnodup, -, -, -, -, rfl⟩ := h
  exact sorted_perm.nodup_iff.mpr hnodup

/-- What the startup registers. -/
def Handlers.validated (controls : Controls) (registered : List String) :
    Except DomainError Handlers :=
  match h : validateAndOrderHandlers controls registered with
  | .ok names => .ok ⟨names, nodup_of_validated h⟩
  | .error error => .error error

@[simp] lemma names_eventExecutionPlan :
    (eventExecutionPlan controls eventType handlers).map HandlerStep.handlerName =
      applicable controls eventType handlers := by
  simp only [eventExecutionPlan, List.mapIdx_eq_zipIdx_map, List.map_map]
  exact List.zipIdx_map_fst 0 _

lemma nodup_applicable (h : handlers.Nodup) : (applicable controls eventType handlers).Nodup := by
  unfold applicable
  refine List.Nodup.filter _ ?_
  split_ifs
  · exact sorted_perm.nodup_iff.mpr h
  · exact h

end DotmacSub.EventDelivery
