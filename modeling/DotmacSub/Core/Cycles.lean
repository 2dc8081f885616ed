import Mathlib.Logic.Relation
import Mathlib.Order.Preorder.Finite

/-!
# Cycles of a relation

A relation without cycles, and what becomes of it when one element is pointed somewhere else.
-/

namespace Cycles

open Relation

universe u

variable {α : Type u} {r s : α → α → Prop} {x y : α}

/-- Nothing is reached from itself. -/
def Acyclic (r : α → α → Prop) : Prop := ∀ a, ¬ TransGen r a a

/-- Dropping edges closes no cycle. -/
lemma Acyclic.mono (hr : Acyclic r) (h : ∀ a b, s a b → r a b) : Acyclic s :=
  fun a ha => hr a (TransGen.mono h _ _ ha)

/-- A path over one new edge either avoids it or reaches its start and leaves from its end. -/
lemma transGen_or_through (h : ∀ a b, s a b → r a b ∨ (a = x ∧ b = y))
    (hno : ¬ ReflTransGen r y x) {a b : α} (hab : TransGen s a b) :
    TransGen r a b ∨ (ReflTransGen r a x ∧ ReflTransGen r y b) := by
  induction hab with
  | single hstep =>
    rcases h _ _ hstep with hr | ⟨rfl, rfl⟩
    · exact .inl (.single hr)
    · exact .inr ⟨.refl, .refl⟩
  | tail _ hstep ih =>
    rcases h _ _ hstep with hr | ⟨rfl, rfl⟩
    · rcases ih with ih | ⟨hax, hyb⟩
      · exact .inl (ih.tail hr)
      · exact .inr ⟨hax, hyb.tail hr⟩
    · rcases ih with ih | ⟨-, hyb⟩
      · exact .inr ⟨ih.to_reflTransGen, .refl⟩
      · exact absurd hyb hno

/-- One new edge closes no cycle unless its end already reached its start. -/
lemma Acyclic.addEdge (hr : Acyclic r) (h : ∀ a b, s a b → r a b ∨ (a = x ∧ b = y))
    (hno : ¬ ReflTransGen r y x) : Acyclic s := by
  intro a ha
  rcases transGen_or_through h hno ha with har | ⟨hax, hya⟩
  · exact hr a har
  · exact hno (hya.trans hax)

/-- A path to `x` can be cut where it first arrives. -/
lemma reflTransGen_avoiding (hyx : ReflTransGen r y x) :
    ReflTransGen (fun a b => a ≠ x ∧ r a b) y x := by
  induction hyx using ReflTransGen.head_induction_on with
  | refl => exact .refl
  | @head a b hstep _ ih =>
    by_cases hax : a = x
    · exact hax ▸ .refl
    · exact .head ⟨hax, hstep⟩ ih

/-- **Pointing `x` at `y`** closes a cycle exactly if `y` already reached `x`. -/
theorem acyclic_repoint_iff (hr : Acyclic r)
    (h : ∀ a b, s a b ↔ (a ≠ x ∧ r a b) ∨ (a = x ∧ b = y)) : Acyclic s ↔ ¬ ReflTransGen r y x := by
  constructor
  · intro hs hyx
    have hpath : ReflTransGen s y x :=
      ReflTransGen.mono (fun a b hab => (h a b).mpr (.inl hab)) _ _ (reflTransGen_avoiding hyx)
    exact hs x (TransGen.head' ((h x y).mpr (.inr ⟨rfl, rfl⟩)) hpath)
  · intro hno
    refine hr.addEdge (fun a b hab => ?_) hno
    rcases (h a b).mp hab with ⟨-, hr⟩ | hxy
    · exact .inl hr
    · exact .inr hxy

/-- A new element that nothing points at closes no cycle. -/
lemma acyclic_of_fresh (hr : Acyclic r) (h : ∀ a b, s a b → r a b ∨ (a = x ∧ b = y))
    (hfresh : ∀ a, ¬ r a x) (hne : y ≠ x) : Acyclic s := by
  refine hr.addEdge h fun hyx => ?_
  rcases hyx.cases_tail with heq | ⟨a, -, hax⟩
  · exact hne heq.symm
  · exact hfresh a hax

end Cycles
