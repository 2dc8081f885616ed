import Mathlib.Algebra.Order.Group.Abs
import Mathlib.Data.List.SplitBy

/-!
# Single-link clusters

A list that is sorted by a key is cut wherever neighbouring keys are further apart than a tolerance.
The pieces are the classes of the elements under chains of small steps.
-/

namespace SingleLink

universe u v

variable {α : Type u} {G : Type v} [AddCommGroup G] [LinearOrder G] (key : α → G) (tolerance : G) {l : List α}

/-- The keys differ by at most the tolerance. -/
def near (x y : α) : Bool := |key y - key x| ≤ tolerance

/-- Two elements of the list whose keys differ by at most the tolerance. -/
def Near (l : List α) (x y : α) : Prop := x ∈ l ∧ y ∈ l ∧ |key y - key x| ≤ tolerance

/-- The longest pieces of a list whose neighbours are near. -/
def singleLink (l : List α) : List (List α) := l.splitBy (near key tolerance)

/-- Two elements are in one piece. -/
def Together (l : List α) (x y : α) : Prop := ∃ g ∈ singleLink key tolerance l, x ∈ g ∧ y ∈ g

variable {key tolerance}

lemma mem_of_mem_singleLink {g : List α} (hg : g ∈ singleLink key tolerance l) {x : α}
    (hx : x ∈ g) : x ∈ l := by
  rw [← List.flatten_splitBy (near key tolerance) l]
  exact List.mem_flatten.mpr ⟨g, hg, hx⟩

lemma exists_mem_singleLink (key : α → G) (tolerance : G) {x : α} (hx : x ∈ l) : ∃ g ∈ singleLink key tolerance l, x ∈ g := by
  rw [← List.flatten_splitBy (near key tolerance) l] at hx
  exact List.mem_flatten.mp hx

omit [AddCommGroup G] in
lemma key_le_getLast {g : List α} (hsorted : g.Pairwise fun x y => key x ≤ key y) {x : α}
    (hx : x ∈ g) (hg : g ≠ []) : key x ≤ key (g.getLast hg) := by
  rw [← List.dropLast_append_getLast hg] at hsorted hx
  rcases List.mem_append.mp hx with hx | hx
  · exact (List.pairwise_append.mp hsorted).2.2 x hx _ (List.mem_singleton_self _)
  · exact le_of_eq (congrArg key (List.mem_singleton.mp hx))

omit [AddCommGroup G] in
lemma key_head_le {g : List α} (hsorted : g.Pairwise fun x y => key x ≤ key y) {x : α}
    (hx : x ∈ g) (hg : g ≠ []) : key (g.head hg) ≤ key x := by
  cases g with
  | nil => exact absurd rfl hg
  | cons y g =>
    rcases List.mem_cons.mp hx with rfl | hx
    · exact le_rfl
    · exact List.rel_of_pairwise_cons hsorted hx

instance : Std.Symm (Near key tolerance l) :=
  ⟨fun _ _ h => ⟨h.2.1, h.1, by rw [abs_sub_comm]; exact h.2.2⟩⟩

/-- The elements of a piece are joined by chains of near elements. -/
lemma linked_of_mem {g : List α} (hg : g ∈ singleLink key tolerance l) {x y : α} (hx : x ∈ g)
    (hy : y ∈ g) : Relation.ReflTransGen (Near key tolerance l) x y := by
  have hchain : g.IsChain (Relation.ReflTransGen (Near key tolerance l)) := by
    refine (List.isChain_of_mem_splitBy hg).imp_of_mem_imp fun x y hx hy h => ?_
    exact .single ⟨mem_of_mem_singleLink hg hx, mem_of_mem_singleLink hg hy, of_decide_eq_true h⟩
  exact hchain.pairwise.forall_of_forall (fun _ _ => .refl) hx hy

variable [IsOrderedAddMonoid G]

/-- One piece ends more than the tolerance before the other one begins. -/
def Apart (key : α → G) (tolerance : G) (g h : List α) : Prop :=
  g ≠ [] ∧ h ≠ [] ∧ ∀ x ∈ g, ∀ y ∈ h, key x + tolerance < key y

lemma Apart.trans (ht : 0 ≤ tolerance) {g h k : List α} (hgh : Apart key tolerance g h)
    (hhk : Apart key tolerance h k) : Apart key tolerance g k := by
  refine ⟨hgh.1, hhk.2.1, fun x hx z hz => ?_⟩
  obtain ⟨y, hy⟩ := List.exists_mem_of_ne_nil h hgh.2.1
  calc key x + tolerance < key y := hgh.2.2 x hx y hy
    _ ≤ key y + tolerance := le_add_of_nonneg_right ht
    _ < key z := hhk.2.2 y hy z hz

/-- The pieces of a sorted list are apart. -/
lemma pairwise_apart (ht : 0 ≤ tolerance) (hsorted : l.Pairwise fun x y => key x ≤ key y) :
    (singleLink key tolerance l).Pairwise (Apart key tolerance) := by
  rw [← List.flatten_splitBy (near key tolerance) l, List.pairwise_flatten] at hsorted
  have : IsTrans (List α) (Apart key tolerance) := ⟨fun _ _ _ => Apart.trans ht⟩
  refine List.IsChain.pairwise (List.isChain_iff_getElem.mpr fun i hi => ?_)
  have hcross := List.pairwise_iff_getElem.mp hsorted.2 i (i + 1) ((Nat.lt_succ_self i).trans hi) hi
    (Nat.lt_succ_self i)
  have hends := List.isChain_iff_getElem.mp
    (List.isChain_getLast_head_splitBy (near key tolerance) l) i hi
  have hpiece (j : ℕ) (hj : j < (singleLink key tolerance l).length) :=
    hsorted.1 (singleLink key tolerance l)[j] (List.getElem_mem hj)
  obtain ⟨hg, hh, hcut⟩ := hends
  refine ⟨hg, hh, fun x hx y hy => ?_⟩
  have hstep := hcross _ (List.getLast_mem hg) _ (List.head_mem hh)
  have hfar := lt_of_not_ge (of_decide_eq_false hcut)
  rw [abs_of_nonneg (sub_nonneg.mpr hstep), lt_sub_iff_add_lt'] at hfar
  calc key x + tolerance ≤ key (List.getLast _ hg) + tolerance :=
        add_le_add_left (key_le_getLast (hpiece i _) hx hg) tolerance
    _ < key (List.head _ hh) := hfar
    _ ≤ key y := key_head_le (hpiece (i + 1) hi) hy hh

lemma eq_or_apart (ht : 0 ≤ tolerance) (hsorted : l.Pairwise fun x y => key x ≤ key y)
    {g h : List α} (hg : g ∈ singleLink key tolerance l) (hh : h ∈ singleLink key tolerance l) :
    g = h ∨ Apart key tolerance g h ∨ Apart key tolerance h g := by
  have hpairs := (pairwise_apart ht hsorted).imp (S := fun g h =>
    g = h ∨ Apart key tolerance g h ∨ Apart key tolerance h g) fun h => .inr (.inl h)
  have : Std.Symm fun g h : List α => g = h ∨ Apart key tolerance g h ∨ Apart key tolerance h g :=
    ⟨fun _ _ h => h.imp Eq.symm Or.symm⟩
  exact hpairs.forall_of_forall (fun _ _ => .inl rfl) hg hh

lemma eq_of_near (ht : 0 ≤ tolerance) (hsorted : l.Pairwise fun x y => key x ≤ key y)
    {x y : α} {g h : List α} (hg : g ∈ singleLink key tolerance l)
    (hh : h ∈ singleLink key tolerance l) (hx : x ∈ g) (hy : y ∈ h)
    (hnear : |key y - key x| ≤ tolerance) : g = h := by
  obtain ⟨hlo, hhi⟩ := abs_le.mp hnear
  rw [neg_le, neg_sub, sub_le_iff_le_add'] at hlo
  rw [sub_le_iff_le_add'] at hhi
  rcases eq_or_apart ht hsorted hg hh with heq | happart | happart
  · exact heq
  · exact absurd (happart.2.2 x hx y hy) (not_lt.mpr hhi)
  · exact absurd (happart.2.2 y hy x hx) (not_lt.mpr hlo)

/-- **Two elements are in one piece** exactly when a chain of near elements joins them. -/
theorem together_iff (ht : 0 ≤ tolerance) (hsorted : l.Pairwise fun x y => key x ≤ key y)
    {x y : α} (hx : x ∈ l) :
    Together key tolerance l x y ↔ Relation.ReflTransGen (Near key tolerance l) x y := by
  constructor
  · rintro ⟨g, hg, hx, hy⟩
    exact linked_of_mem hg hx hy
  · intro hlinked
    induction hlinked with
    | refl =>
      obtain ⟨g, hg, hx⟩ := exists_mem_singleLink key tolerance hx
      exact ⟨g, hg, hx, hx⟩
    | tail _ hnear ih =>
      obtain ⟨g, hg, hx, hy⟩ := ih
      obtain ⟨h, hh, hz⟩ := exists_mem_singleLink key tolerance hnear.2.1
      obtain rfl := eq_of_near ht hsorted hg hh hy hz hnear.2.2
      exact ⟨g, hg, hx, hz⟩

end SingleLink
