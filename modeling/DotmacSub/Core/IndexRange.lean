import Mathlib.Data.Int.Range
import Mathlib.Data.Int.Interval

/-!
# Indices of a range

A pool hands out the integers `lo, ..., hi` that are not taken.  It looks for the next one from a
start onwards and then from the beginning, and it may count them by subtracting the sizes of the
sets that take them.
-/

namespace IndexRange

variable {lo hi start i : ℤ} {used reserved : Finset ℤ}

/-- The indices that can be handed out. -/
def free (lo hi : ℤ) (used reserved : Finset ℤ) : Finset ℤ :=
  ((Int.range lo (hi + 1)).filter fun i => i ∉ used ∧ i ∉ reserved).toFinset

lemma mem_free : i ∈ free lo hi used reserved ↔ (lo ≤ i ∧ i ≤ hi) ∧ i ∉ used ∧ i ∉ reserved := by
  rw [free, List.mem_toFinset, List.mem_filter, Int.mem_range_iff, decide_eq_true_eq,
    Int.lt_add_one_iff]

/-- The first index that is free from `start` on, or else before it. -/
def search (lo hi : ℤ) (used reserved : Finset ℤ) (start : ℤ) : Option ℤ :=
  (Int.range start (hi + 1) ++ Int.range lo start).find? fun i => i ∉ used ∧ i ∉ reserved

lemma search_mem (hlo : lo ≤ start) (hhi : start ≤ hi + 1)
    (h : search lo hi used reserved start = some i) : i ∈ free lo hi used reserved := by
  have hfree := List.find?_some h
  have hmem := List.mem_of_find?_eq_some h
  rw [List.mem_append, Int.mem_range_iff, Int.mem_range_iff] at hmem
  rw [decide_eq_true_eq] at hfree
  exact mem_free.mpr ⟨by omega, hfree⟩

lemma search_start_mem (h : search lo hi used reserved lo = some i) :
    i ∈ free lo hi used reserved := by
  have hfree := List.find?_some h
  have hmem := List.mem_of_find?_eq_some h
  rw [List.mem_append, Int.mem_range_iff, Int.mem_range_iff] at hmem
  rw [decide_eq_true_eq] at hfree
  exact mem_free.mpr ⟨by omega, hfree⟩

/-- **The search fails** only if nothing is free. -/
lemma search_eq_none (h : search lo hi used reserved start = none) :
    free lo hi used reserved = ∅ := by
  rw [Finset.eq_empty_iff_forall_notMem]
  intro i hi
  obtain ⟨hrange, hfree⟩ := mem_free.mp hi
  refine List.find?_eq_none.mp h i ?_ (decide_eq_true hfree)
  rw [List.mem_append, Int.mem_range_iff, Int.mem_range_iff]
  omega

/-- **Counting by sizes** is exact if the range is not inverted, the used indices lie in it, and
none of them is reserved. -/
theorem span_sub_card_iff (hreserved : ∀ i ∈ reserved, lo ≤ i ∧ i ≤ hi) :
    hi - lo + 1 - used.card - reserved.card = ((free lo hi used reserved).card : ℤ) ↔
      lo ≤ hi + 1 ∧ (∀ i ∈ used, lo ≤ i ∧ i ≤ hi) ∧ Disjoint used reserved := by
  have hfree : free lo hi used reserved = Finset.Icc lo hi \ (used ∪ reserved) := by
    ext i
    rw [mem_free, Finset.mem_sdiff, Finset.mem_Icc, Finset.mem_union, not_or]
  have hspan : (Finset.Icc lo hi).card = (hi + 1 - lo).toNat := Int.card_Icc lo hi
  have hsplit := Finset.card_sdiff_add_card_inter (Finset.Icc lo hi) (used ∪ reserved)
  have hinter : (Finset.Icc lo hi ∩ (used ∪ reserved)).card ≤ (used ∪ reserved).card :=
    Finset.card_le_card Finset.inter_subset_right
  have hunion := Finset.card_union_add_card_inter used reserved
  rw [← hfree, hspan] at hsplit
  constructor
  · intro h
    have hcap : (used ∩ reserved).card = 0 := by omega
    have hall : (used ∪ reserved).card ≤ (Finset.Icc lo hi ∩ (used ∪ reserved)).card := by omega
    have heq := Finset.eq_of_subset_of_card_le Finset.inter_subset_right hall
    refine ⟨by omega, ?_, Finset.disjoint_iff_inter_eq_empty.mpr (Finset.card_eq_zero.mp hcap)⟩
    intro i hi
    exact Finset.mem_Icc.mp (Finset.inter_eq_right.mp heq (Finset.mem_union_left _ hi))
  · rintro ⟨hrange, hused, hdisjoint⟩
    have hcap : (used ∩ reserved).card = 0 :=
      Finset.card_eq_zero.mpr (Finset.disjoint_iff_inter_eq_empty.mp hdisjoint)
    have heq : Finset.Icc lo hi ∩ (used ∪ reserved) = used ∪ reserved :=
      Finset.inter_eq_right.mpr (Finset.union_subset (fun i hi => Finset.mem_Icc.mpr (hused i hi))
        fun i hi => Finset.mem_Icc.mpr (hreserved i hi))
    rw [heq] at hsplit
    omega

end IndexRange
