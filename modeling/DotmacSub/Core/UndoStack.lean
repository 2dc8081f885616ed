import Mathlib.Data.List.Perm.Lattice

/-!
# Undoing what is on top

Steps stand on each other, the newest on top.  A request to undo a step takes it away if it is on
top, and is spent otherwise: it does not wait until the steps above are gone.
-/

namespace UndoStack

variable {κ : Type*} [DecidableEq κ] {stack requests : List κ} {x : κ}

/-- Take the step away if it is on top. -/
def pop (stack : List κ) (x : κ) : List κ := if stack.head? = some x then stack.tail else stack

/-- The steps that stand after requests in some order. -/
def popAll (stack requests : List κ) : List κ := requests.foldl pop stack

@[simp] lemma popAll_nil : popAll stack [] = stack := rfl

@[simp] lemma popAll_cons : popAll stack (x :: requests) = popAll (pop stack x) requests := rfl

@[simp] lemma pop_nil : pop ([] : List κ) x = [] := by simp [pop]

lemma pop_top : pop (x :: stack) x = stack := if_pos rfl

lemma pop_of_ne {y : κ} (h : y ≠ x) : pop (y :: stack) x = y :: stack :=
  if_neg fun heq => h (Option.some.inj heq)

lemma popAll_append {newest : List κ} : popAll (newest ++ stack) newest = stack := by
  induction newest with
  | nil => rfl
  | cons x newest ih => rw [List.cons_append, popAll_cons, pop_top, ih]

/-- **All steps are gone exactly if they are requested newest first.** -/
theorem popAll_eq_nil_iff : popAll stack requests = [] ↔ stack.Sublist requests := by
  induction requests generalizing stack with
  | nil => exact List.sublist_nil.symm
  | cons x requests ih =>
    rw [popAll_cons, ih]
    cases stack with
    | nil => simp
    | cons y stack =>
      by_cases hyx : y = x
      · rw [hyx, pop_top, List.cons_sublist_cons]
      · rw [pop_of_ne hyx, List.sublist_cons_iff]
        refine (or_iff_left ?_).symm
        rintro ⟨_, heq, -⟩
        exact hyx (List.cons.inj heq).1

/-- Requests for every step, each once, take all away only in the order of the stack. -/
lemma popAll_eq_nil_iff_of_perm (h : requests.Perm stack) :
    popAll stack requests = [] ↔ requests = stack := by
  rw [popAll_eq_nil_iff]
  refine ⟨fun hsub => (hsub.eq_of_length h.length_eq.symm).symm, ?_⟩
  rintro rfl
  exact .refl _

end UndoStack
