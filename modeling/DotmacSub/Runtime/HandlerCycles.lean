import DotmacSub.Core.DepthFirst
import DotmacSub.Runtime.EventDelivery

/-!
# Handlers that wait for each other

`control_relationships`: the check at startup that no handlers of an event wait for each other.
-/

namespace DotmacSub.EventDelivery

open Checked DepthFirst Cycles Relation

open BreadthFirst (Next)

/-- What a handler waits for; the handlers of a plan differ. -/
def graph (plan : List HandlerStep) (name : String) : List String :=
  (plan.filter (·.handlerName = name)).flatMap HandlerStep.dependencies

/-- The error also names one of the handlers, which is left out. -/
def validateAcyclicHandlerGraph (eventType : String) (plan : List HandlerStep) :
    Except DomainError Unit :=
  ensure ((anySeen (walk (graph plan) (plan.length + 1))
      (plan.map HandlerStep.handlerName) unseen).1 = false)
    ⟨"ControlRelationshipError", "Event " ++ eventType ++ " handler dependency cycle", []⟩

variable {controls : Controls} {plan : List HandlerStep} {db : EventDb}
  {eventType name dependency : String} {handlers : List String}

lemma mem_graph : dependency ∈ graph plan name ↔
    ∃ s ∈ plan, s.handlerName = name ∧ dependency ∈ s.dependencies := by
  simp [graph, and_assoc]

/-- The handlers wait for handlers of the plan only. -/
def Closed (plan : List HandlerStep) : Prop :=
  ∀ name, ∀ dependency ∈ graph plan name, dependency ∈ plan.map HandlerStep.handlerName

lemma closed_eventExecutionPlan : Closed (eventExecutionPlan controls eventType handlers) := by
  intro name dependency h
  obtain ⟨s, hs, -, hdependency⟩ := mem_graph.mp h
  rw [eventExecutionPlan, List.mem_mapIdx] at hs
  obtain ⟨i, hi, rfl⟩ := hs
  rw [names_eventExecutionPlan]
  simp only [dependencies, List.mem_eraseDups, List.mem_append] at hdependency
  grind [List.mem_of_mem_take]

lemma validateAcyclicHandlerGraph_eq_ok (hclosed : Closed plan) :
    validateAcyclicHandlerGraph eventType plan = .ok () ↔ Acyclic (Next (graph plan)) := by
  have hcard : (plan.map HandlerStep.handlerName).toFinset.card < plan.length + 1 :=
    Nat.lt_succ_of_le ((List.toFinset_card_le _).trans_eq (List.length_map _))
  rw [validateAcyclicHandlerGraph, ensure_eq_ok]
  refine anySeen_walk_iff hcard (fun x y hy => List.mem_toFinset.mpr (hclosed x y hy))
    (fun _ hx => List.mem_toFinset.mpr hx) fun x hx => ?_
  obtain ⟨dependency, hdependency⟩ := List.exists_mem_of_ne_nil _ hx
  obtain ⟨s, hs, rfl, -⟩ := mem_graph.mp hdependency
  exact List.mem_map_of_mem hs

/-- Where every handler has an effect, none of them waits for itself. -/
lemma Delivered.acyclic (hnodup : (plan.map HandlerStep.handlerName).Nodup) (h : Delivered plan db)
    (hall : uncommitted plan db = []) : Acyclic (Next (graph plan)) := by
  have hless : ∀ x y, Next (graph plan) x y → db.effects.idxOf y < db.effects.idxOf x := by
    intro x y hxy
    obtain ⟨s, hs, rfl, hy⟩ := mem_graph.mp hxy
    have hx : s.handlerName ∈ db.effects := by
      by_contra hmissing
      have hmem := mem_uncommitted.mpr ⟨List.mem_map_of_mem hs, hmissing⟩
      exact absurd (hall ▸ hmem) List.not_mem_nil
    obtain ⟨before, after, heq⟩ := List.append_of_mem hx
    obtain ⟨s', hs', hname, hdeps⟩ := h.ordered before _ after heq
    obtain rfl := List.inj_on_of_nodup_map hnodup hs' hs hname
    have hfresh : s'.handlerName ∉ before := fun hmem =>
      (List.nodup_append.mp (heq ▸ h.once)).2.2 _ hmem _ List.mem_cons_self rfl
    rw [heq, List.idxOf_append_of_mem (hdeps y hy), List.idxOf_append_of_notMem hfresh]
    exact Nat.lt_add_right _ (List.idxOf_lt_length_iff.mpr (hdeps y hy))
  intro x hcycle
  have hback : TransGen (· > ·) (db.effects.idxOf x) (db.effects.idxOf x) :=
    TransGen.lift db.effects.idxOf hless x x hcycle
  rw [transGen_eq_self] at hback
  exact lt_irrefl _ hback

/-- **The startup check is exact.**  It accepts the handlers of an event if and only if none of them
waits for itself; the event of refused handlers is completed by no sequence of passes. -/
theorem cyclic_never_completed (controls : Controls) (eventType : String) (handlers : Handlers)
    (emittedAt : ℤ) :
    let plan := eventExecutionPlan controls eventType handlers.names
    (validateAcyclicHandlerGraph eventType plan = .ok () ↔ Acyclic (Next (graph plan))) ∧
      ∀ passes, (Run.run (step plan) (.emitted emittedAt) passes).record.status = .completed →
        validateAcyclicHandlerGraph eventType plan = .ok () := by
  intro plan
  have hnodup : (plan.map HandlerStep.handlerName).Nodup := by
    rw [names_eventExecutionPlan]
    exact nodup_applicable handlers.nodup
  have haccepted : validateAcyclicHandlerGraph eventType plan = .ok () ↔
      Acyclic (Next (graph plan)) := validateAcyclicHandlerGraph_eq_ok closed_eventExecutionPlan
  refine ⟨haccepted, fun passes hcompleted => haccepted.mpr ?_⟩
  have h : Delivered plan (Run.run (step plan) (.emitted emittedAt) passes) := .run hnodup passes
  exact h.acyclic hnodup (h.completed hcompleted)

end DotmacSub.EventDelivery
