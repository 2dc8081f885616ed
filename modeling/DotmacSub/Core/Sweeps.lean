import Mathlib.Data.List.Sort
import Mathlib.Data.Prod.Lex
import Mathlib.Order.Interval.Set.Defs

/-!
# Sweeping over sorted intervals

A cursor that moves over intervals in the order of their starts decides whether they cover a range:
it stops at the first gap, and no later interval can close it.
-/

namespace Sweeps

variable {α β κ : Type*} [LinearOrder α] [LinearOrder κ]

def keyLe (key : β → κ) (a b : β) : Prop := key a ≤ key b

instance (key : β → κ) : DecidableRel (keyLe key) :=
  fun a b => inferInstanceAs (Decidable (key a ≤ key b))

instance (key : β → κ) : Std.Total (keyLe key) := ⟨fun a b => le_total (key a) (key b)⟩

instance (key : β → κ) : IsTrans β (keyLe key) := ⟨fun _ _ _ => le_trans⟩

/-- A list in the order of a key. -/
def sortedBy (key : β → κ) (l : List β) : List β := l.insertionSort (keyLe key)

lemma perm_sortedBy {key : β → κ} {l : List β} : (sortedBy key l).Perm l :=
  List.perm_insertionSort _ _

@[simp] lemma mem_sortedBy {key : β → κ} {l : List β} {b : β} : b ∈ sortedBy key l ↔ b ∈ l :=
  perm_sortedBy.mem_iff

lemma pairwise_sortedBy {key : β → κ} {l : List β} :
    (sortedBy key l).Pairwise fun a b => key a ≤ key b :=
  List.pairwise_insertionSort (keyLe key) l

variable (start stop : β → α) (limit : α)

/-- Whether the intervals cover what lies between the cursor and the end. -/
def covers : α → List β → Bool
  | cursor, [] => decide (limit ≤ cursor)
  | cursor, i :: is =>
    if stop i ≤ cursor then covers cursor is
    else if cursor < start i then false
    else if limit ≤ max cursor (stop i) then true
    else covers (max cursor (stop i)) is

variable {start stop limit} {cursor : α} {l : List β}

/-- **The sweep decides coverage** of a range by intervals in the order of their starts. -/
theorem covers_iff (hsorted : l.Pairwise (start · ≤ start ·)) (hcursor : cursor < limit) :
    covers start stop limit cursor l = true ↔
      ∀ t, cursor ≤ t → t < limit → ∃ i ∈ l, start i ≤ t ∧ t < stop i := by
  induction l generalizing cursor with
  | nil =>
    simp only [covers, decide_eq_true_eq, List.not_mem_nil, false_and, exists_false]
    refine ⟨fun h => absurd hcursor h.not_gt, fun h => ?_⟩
    exact (h cursor le_rfl hcursor).elim
  | cons i is ih =>
    obtain ⟨hfirst, hrest⟩ := List.pairwise_cons.mp hsorted
    rw [covers]
    by_cases hpast : stop i ≤ cursor
    · rw [if_pos hpast, ih hrest hcursor]
      refine forall₃_congr fun t ht _ => ?_
      rw [List.exists_mem_cons_iff]
      exact (or_iff_right fun h => (h.2.trans_le hpast).not_ge ht).symm
    rw [if_neg hpast]
    by_cases hgap : cursor < start i
    · rw [if_pos hgap]
      refine iff_of_false Bool.false_ne_true fun h => ?_
      obtain ⟨j, hj, hstart, -⟩ := h cursor le_rfl hcursor
      rcases List.mem_cons.mp hj with rfl | hj
      · exact hgap.not_ge hstart
      · exact hgap.not_ge ((hfirst j hj).trans hstart)
    rw [if_neg hgap, max_eq_right (not_le.mp hpast).le]
    by_cases hend : limit ≤ stop i
    · rw [if_pos hend]
      refine iff_of_true rfl fun t ht hlt => ?_
      exact ⟨i, List.mem_cons_self, (not_lt.mp hgap).trans ht, hlt.trans_le hend⟩
    · rw [if_neg hend, ih hrest (not_le.mp hend)]
      constructor
      · intro h t ht hlt
        rcases lt_or_ge t (stop i) with hin | hout
        · exact ⟨i, List.mem_cons_self, (not_lt.mp hgap).trans ht, hin⟩
        · obtain ⟨j, hj, hjt⟩ := h t hout hlt
          exact ⟨j, List.mem_cons_of_mem i hj, hjt⟩
      · intro h t ht hlt
        obtain ⟨j, hj, hjt⟩ := h t ((not_le.mp hpast).le.trans ht) hlt
        rcases List.mem_cons.mp hj with rfl | hj
        · exact absurd hjt.2 (not_lt.mpr ht)
        · exact ⟨j, hj, hjt⟩

end Sweeps
