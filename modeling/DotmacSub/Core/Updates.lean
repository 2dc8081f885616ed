import DotmacSub.Core.Checked
import DotmacSub.Core.Table

/-!
# Loops of updates

A loop that changes one row of a table in each turn, no row twice.
-/

namespace Store.Table

open Checked

universe u v

variable {ε : Type u} {α γ : Type v} [Row α] {f : Table α → γ → Except ε (Table α)}
  {key : γ → ℕ} {g : γ → α → α}

/-- **A row is changed by its own turn**, if it has one. -/
theorem get?_foldlM_update {t t' : Table α} {changes : List γ}
    (hg : ∀ change r, Row.id (g change r) = Row.id r)
    (hturn : ∀ t change t', f t change = .ok t' → t' = t.update (key change) (g change) (hg change))
    (hnodup : (changes.map key).Nodup) (h : changes.foldlM f t = .ok t') (i : ℕ) :
    t'.get? i = (t.get? i).map fun r => ((changes.find? (key · = i)).map (g · r)).getD r := by
  induction changes generalizing t with
  | nil =>
    obtain rfl := foldlM_nil_eq_ok.mp h
    simp
  | cons change changes ih =>
    obtain ⟨next, hnext, h⟩ := foldlM_cons_eq_ok.mp h
    obtain ⟨hfirst, hrest⟩ := List.nodup_cons.mp hnodup
    rw [ih hrest h, hturn _ _ _ hnext]
    by_cases hkey : key change = i
    · have hnone : changes.find? (key · = i) = none := by
        refine List.find?_eq_none.mpr fun other hother hother' => hfirst ?_
        have hsame : key other = key change := (of_decide_eq_true hother').trans hkey.symm
        exact hsame ▸ List.mem_map_of_mem hother
      have hturn' : (change :: changes).find? (key · = i) = some change :=
        List.find?_cons_of_pos (decide_eq_true hkey)
      rw [hturn', hnone]
      cases hget : t.get? i with
      | none => rw [update, get?_map, hkey, hget, Option.map_none, Option.map_none, Option.map_none]
      | some r =>
        subst hkey
        rw [get?_update_self hget]
        rfl
    · rw [get?_update_ne (Ne.symm hkey), List.find?_cons_of_neg (by simpa using hkey)]

omit [Row α] in
/-- The turn of a row among those made of the rows that satisfy a condition. -/
lemma find?_changes [Row α] {t : Table α} {p : α → Bool} {make : α → γ}
    (hkey : ∀ r, key (make r) = Row.id r) {r : α} (hr : r ∈ t.rows) :
    ((t.rows.filter p).map make).find? (key · = Row.id r) =
      if p r then some (make r) else none := by
  rw [List.find?_map]
  have hself : (t.rows.filter p).find? ((fun change => decide (key change = Row.id r)) ∘ make) =
      if p r then some r else none := by
    split_ifs with hp
    · rw [List.find?_filter]
      refine (List.find?_eq_some_iff_append).mpr ⟨by simp [hp, hkey], ?_⟩
      obtain ⟨as, bs, hsplit, has, -⟩ := exists_split hr
      refine ⟨as, bs, hsplit, fun a ha => ?_⟩
      simp [hkey, has a ha]
    · refine List.find?_eq_none.mpr fun a ha hid => hp ?_
      have heq : a = r := eq_of_id_eq (List.mem_of_mem_filter ha) hr (by simpa [hkey] using hid)
      exact heq ▸ (List.mem_filter.mp ha).2
  rw [hself]
  split_ifs <;> rfl

end Store.Table
