import DotmacSub.Core.Table
import Mathlib.Data.List.MinMax
import Mathlib.Data.List.Sort

/-!
# Lookups in bulk

A program that reads many rows at once keeps them in dictionaries; a program that reads one row
asks for it.
-/

namespace Lookups

open Store

variable {α κ : Type*} [DecidableEq κ] {key : α → κ} {rows : List α}

/-- `{key(row): row for row in rows}`. -/
def byKey (key : α → κ) (rows : List α) : κ → Option α :=
  rows.foldl (fun found row => Function.update found (key row) (some row)) fun _ => none

/-- The dictionary of the lists of rows with a key. -/
def grouped (key : α → κ) (rows : List α) : κ → List α :=
  rows.foldl (fun groups row => Function.update groups (key row) (groups (key row) ++ [row]))
    fun _ => []

lemma grouped_eq (k : κ) : grouped key rows k = rows.filter (key · = k) := by
  unfold grouped
  induction rows using List.reverseRecOn with
  | nil => rfl
  | append_singleton rows row ih =>
    rw [List.foldl_append, List.foldl_cons, List.foldl_nil, List.filter_append, ← ih]
    by_cases hkey : key row = k
    · subst hkey
      simp
    · rw [Function.update_of_ne (Ne.symm hkey)]
      simp [hkey]

lemma byKey_eq_some {k : κ} {row : α} (hnodup : (rows.map key).Nodup) :
    byKey key rows k = some row ↔ row ∈ rows ∧ key row = k := by
  unfold byKey
  induction rows using List.reverseRecOn with
  | nil => simp
  | append_singleton rows last ih =>
    rw [List.map_append, List.nodup_append] at hnodup
    obtain ⟨hrows, -, hne⟩ := hnodup
    have hlast : ∀ other ∈ rows, key other ≠ key last := fun other hother =>
      hne _ (List.mem_map_of_mem hother) _ (List.mem_map_of_mem List.mem_cons_self)
    rw [List.foldl_append, List.foldl_cons, List.foldl_nil, List.mem_append, List.mem_singleton]
    by_cases hkey : key last = k
    · subst hkey
      rw [Function.update_self, Option.some_inj]
      constructor
      · rintro rfl
        exact ⟨.inr rfl, rfl⟩
      · rintro ⟨hmem | rfl, hkey⟩
        · exact absurd hkey (hlast row hmem)
        · rfl
    · rw [Function.update_of_ne (Ne.symm hkey), ih hrows]
      constructor
      · exact fun ⟨hmem, hrow⟩ => ⟨.inl hmem, hrow⟩
      · rintro ⟨hmem | rfl, hrow⟩
        · exact ⟨hmem, hrow⟩
        · exact absurd hrow hkey

lemma byKey_filter_eq {α : Type*} [Row α] (t : Table α) (p : α → Bool) (i : ℕ) :
    byKey Row.id (t.rows.filter p) i = (t.get? i).filter p := by
  refine Option.ext fun row => ?_
  rw [Option.filter_eq_some_iff, Table.get?_eq_some]
  refine (byKey_eq_some (t.filter p).nodup).trans ?_
  rw [Table.filter, List.mem_filter, and_right_comm]

/-- The dictionary of the rows that a set of identifiers asks for. -/
lemma byKey_mem_eq {α : Type*} [Row α] (t : Table α) {ids : List ℕ} {i : ℕ} (hi : i ∈ ids) :
    byKey Row.id (t.rows.filter (Row.id · ∈ ids)) i = t.get? i := by
  rw [byKey_filter_eq]
  cases hrow : t.get? i with
  | none => rfl
  | some row => simp [Option.filter_some, (Table.get?_eq_some.mp hrow).2, hi]

/-- **The first in descending order is the largest.** -/
lemma head?_insertionSort_eq {β : Type*} [LinearOrder β] {f : α → β}
    (hinj : ∀ a ∈ rows, ∀ b ∈ rows, f a = f b → a = b) :
    (rows.insertionSort fun a b => f b ≤ f a).head? = rows.argmax f := by
  have hperm := List.perm_insertionSort (fun a b => f b ≤ f a) rows
  have hsorted := List.pairwise_insertionSort (fun a b => f b ≤ f a) rows
  cases hsort : rows.insertionSort fun a b => f b ≤ f a with
  | nil =>
    rw [hsort] at hperm
    rw [List.nil_perm.mp hperm]
    rfl
  | cons first others =>
    rw [hsort] at hperm hsorted
    have hfirst : first ∈ rows := hperm.subset List.mem_cons_self
    have hsome : rows.argmax f ≠ none := fun hnone =>
      List.ne_nil_of_mem hfirst (List.argmax_eq_none.mp hnone)
    obtain ⟨best, hbest⟩ := Option.ne_none_iff_exists'.mp hsome
    rw [hbest, List.head?_cons, Option.some_inj]
    have hmem := List.argmax_mem hbest
    refine hinj first hfirst best hmem (le_antisymm (List.le_of_mem_argmax hfirst hbest) ?_)
    rcases List.mem_cons.mp (hperm.symm.subset hmem) with rfl | hother
    · exact le_rfl
    · exact (List.pairwise_cons.mp hsorted).1 best hother

end Lookups
