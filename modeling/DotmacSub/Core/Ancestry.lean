import DotmacSub.Core.BreadthFirst
import DotmacSub.Core.Cycles

/-!
# Ancestors in a forest

A map that sends an element to its parent, without cycles, and the walks over its edges taken in
either direction.
-/

namespace Ancestry

open Relation Cycles BreadthFirst

universe u

variable {α : Type u} (up : α → Option α)

def Parent (x y : α) : Prop := up x = some y

/-- So many steps up. -/
def ancestor : ℕ → α → Option α
  | 0, x => some x
  | k + 1, x => (up x).bind (ancestor k)

def Adjacent (x y : α) : Prop := up x = some y ∨ up y = some x

variable {up} {x y z w : α} {j k m : ℕ}

lemma Adjacent.symm (h : Adjacent up x y) : Adjacent up y x := Or.symm h

@[simp] lemma ancestor_zero : ancestor up 0 x = some x := rfl

lemma ancestor_succ_of_parent (h : up x = some y) : ancestor up (k + 1) x = ancestor up k y := by
  rw [ancestor, h, Option.bind_some]

lemma ancestor_add : ∀ (k m : ℕ) (x : α),
    ancestor up (k + m) x = (ancestor up k x).bind (ancestor up m)
  | 0, m, x => by rw [Nat.zero_add, ancestor_zero, Option.bind_some]
  | k + 1, m, x => by
    rw [Nat.succ_add, ancestor, ancestor, Option.bind_assoc]
    exact congrArg _ (funext (ancestor_add k m))

lemma ancestor_trans (hxy : ancestor up k x = some y) (hyz : ancestor up m y = some z) :
    ancestor up (k + m) x = some z := by
  rw [ancestor_add, hxy, Option.bind_some, hyz]

lemma ancestor_sub (hxy : ancestor up k x = some y) (hxz : ancestor up (k + m) x = some z) :
    ancestor up m y = some z := by
  rwa [ancestor_add, hxy, Option.bind_some] at hxz

lemma transGen_of_ancestor : ∀ (k : ℕ) (x : α), ancestor up (k + 1) x = some y →
    TransGen (Parent up) x y
  | 0, x, h => by
    obtain ⟨z, hz, heq⟩ := Option.bind_eq_some_iff.mp h
    exact .single (hz.trans (congrArg some (Option.some.inj heq)))
  | k + 1, x, h => by
    obtain ⟨z, hz, hrest⟩ := Option.bind_eq_some_iff.mp h
    exact .head hz (transGen_of_ancestor k z hrest)

lemma ancestor_inj (hacyclic : Acyclic (Parent up)) (hj : ancestor up j x = some y)
    (hk : ancestor up k x = some y) : j = k := by
  have hlt : ∀ a b, a < b → ancestor up a x = some y → ancestor up b x ≠ some y := by
    intro a b hab ha hb
    obtain ⟨c, rfl⟩ : ∃ c, b = a + (c + 1) := ⟨b - a - 1, by omega⟩
    exact hacyclic y (transGen_of_ancestor c y (ancestor_sub ha hb))
  rcases Nat.lt_trichotomy j k with h | h | h
  · exact absurd hk (hlt j k h hj)
  · exact h
  · exact absurd hj (hlt k j h hk)

/-- The ends of a walk have a common ancestor, no further away than the walk is long. -/
lemma exists_common (h : Walk (Adjacent up) k x y) :
    ∃ a b w, ancestor up a x = some w ∧ ancestor up b y = some w ∧ a + b ≤ k := by
  induction h with
  | refl => exact ⟨0, 0, _, rfl, rfl, le_rfl⟩
  | @tail k x y z _ hstep ih =>
    obtain ⟨a, b, w, ha, hb, hle⟩ := ih
    rcases hstep with hup | hdown
    · cases b with
      | zero =>
        obtain rfl : y = w := Option.some.inj hb
        refine ⟨a + 1, 0, z, ancestor_trans ha ?_, rfl, by omega⟩
        rw [ancestor_succ_of_parent hup, ancestor_zero]
      | succ b =>
        refine ⟨a, b, w, ha, ?_, by omega⟩
        rwa [ancestor_succ_of_parent hup] at hb
    · refine ⟨a, b + 1, w, ha, ?_, by omega⟩
      rw [ancestor_succ_of_parent hdown, hb]

lemma le_of_walk (hacyclic : Acyclic (Parent up)) (hwalk : Walk (Adjacent up) k x y)
    (hup : ancestor up j x = some y) : j ≤ k := by
  obtain ⟨a, b, w, ha, hb, hle⟩ := exists_common hwalk
  have heq : a = j + b := ancestor_inj hacyclic ha (ancestor_trans hup hb)
  omega

/-- A walk to an ancestor that is as long as the way up meets nothing else. -/
lemma ancestor_of_walk (hacyclic : Acyclic (Parent up)) (hxy : Walk (Adjacent up) k x y)
    (hyz : Walk (Adjacent up) m y z) (hup : ancestor up (k + m) x = some z) :
    ancestor up k x = some y := by
  obtain ⟨a, b, w, ha, hb, hle⟩ := exists_common hxy
  obtain ⟨c, d, v, hc, hd, hle'⟩ := exists_common hyz
  have hv : ancestor up (k + m + d) x = some v := ancestor_trans hup hd
  rcases Nat.le_total b c with hbc | hcb
  · -- the ancestor shared with `z` stands above the one shared with `x`
    obtain ⟨e, rfl⟩ := Nat.exists_eq_add_of_le hbc
    have hwv : ancestor up e w = some v := ancestor_sub hb hc
    have heq : a + e = k + m + d := ancestor_inj hacyclic (ancestor_trans ha hwv) hv
    obtain rfl : b = 0 := by omega
    obtain rfl : a = k := by omega
    rw [ha, ← hb, ancestor_zero]
  · obtain ⟨e, rfl⟩ := Nat.exists_eq_add_of_le hcb
    have hvw : ancestor up e v = some w := ancestor_sub hc hb
    have heq : a = k + m + d + e := ancestor_inj hacyclic ha (ancestor_trans hv hvw)
    obtain rfl : e = 0 := by omega
    obtain rfl : c = 0 := by omega
    obtain rfl : a = k := by omega
    rw [ha, ← hb, Nat.add_zero, ancestor_zero]

lemma walk_of_ancestor : ∀ (k : ℕ) (x : α), ancestor up k x = some y → Walk (Adjacent up) k x y
  | 0, x, h => by
    obtain rfl : x = y := Option.some.inj h
    exact .refl
  | k + 1, x, h => by
    obtain ⟨z, hz, hrest⟩ := Option.bind_eq_some_iff.mp h
    have hstep : Walk (Adjacent up) 1 x z := .single (.inl hz)
    rw [Nat.add_comm]
    exact hstep.trans (walk_of_ancestor k z hrest)

end Ancestry
