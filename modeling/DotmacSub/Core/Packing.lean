import DotmacSub.Core.Intervals
import Mathlib.Algebra.BigOperators.Group.List.Lemmas
import Mathlib.Algebra.Order.BigOperators.Group.List
import Mathlib.Algebra.Order.Ring.Int
import Mathlib.Data.Finset.Card
import Mathlib.Data.Set.Lattice
import Mathlib.Order.CompletePartialOrder

/-!
# Lengths of spans

How much time disjoint spans of integers take, exactly and in whole units.
-/

namespace Intervals

variable {l m : List (Span ℤ)} {s : Span ℤ} {t w : ℤ}

def Span.length (s : Span ℤ) : ℤ := s.stop - s.start

def Apart (l : List (Span ℤ)) : Prop := l.Pairwise fun a b => Disjoint a.toSet b.toSet

lemma Canonical.apart (h : Canonical l) : Apart l := by
  refine List.Pairwise.imp (fun hbefore => Set.disjoint_left.mpr fun t hs hr => ?_) h
  have hlt := hs.2.trans hbefore
  exact absurd (hlt.trans_le hr.1) (lt_irrefl t)

lemma Tiles.apart {a b : ℤ} (h : Tiles l a b) : Apart l :=
  h.pairwise.imp fun hle => Set.disjoint_left.mpr fun _ hs hr =>
    absurd (hs.2.trans_le (hle.trans hr.1)) (lt_irrefl _)

def instants : List (Span ℤ) → Finset ℤ
  | [] => ∅
  | s :: l => (Finset.range s.length.toNat).image (fun n : ℕ => s.start + n) ∪ instants l

lemma mem_range_image : t ∈ (Finset.range s.length.toNat).image (fun n : ℕ => s.start + n) ↔
    s.start ≤ t ∧ t < s.stop := by
  simp only [Finset.mem_image, Finset.mem_range, Span.length]
  constructor
  · rintro ⟨n, hn, rfl⟩
    omega
  · intro ht
    exact ⟨(t - s.start).toNat, by omega, by omega⟩

@[simp] lemma mem_instants : t ∈ instants l ↔ t ∈ covered l := by
  induction l with
  | nil => simp [instants]
  | cons s l ih => rw [instants, Finset.mem_union, mem_range_image, ih, covered_cons]; rfl

/-- Spans that share no instant cover as many instants as they are long. -/
lemma card_instants (h : Apart l) : ((instants l).card : ℤ) = (l.map Span.length).sum := by
  induction l with
  | nil => rfl
  | cons s l ih =>
    obtain ⟨hfirst, hrest⟩ := List.pairwise_cons.mp h
    have hdisjoint : Disjoint ((Finset.range s.length.toNat).image fun n : ℕ => s.start + n)
        (instants l) := by
      refine Finset.disjoint_left.mpr fun t hs hl => ?_
      obtain ⟨r, hr, ht⟩ := mem_instants.mp hl
      exact Set.disjoint_left.mp (hfirst r hr) (mem_range_image.mp hs) ht
    have hinjective : Function.Injective fun n : ℕ => s.start + n := fun m n hmn => by
      dsimp only at hmn
      omega
    have hlt := s.start_lt_stop
    rw [instants, Finset.card_union_of_disjoint hdisjoint, Nat.cast_add, ih hrest,
      Finset.card_image_of_injective _ hinjective, Finset.card_range,
      Int.toNat_of_nonneg (by rw [Span.length]; omega), List.map_cons, List.sum_cons]

/-- **What is covered is at least as long** as what fits into it. -/
theorem sum_length_le (hl : Apart l) (hm : Apart m) (h : covered l ⊆ covered m) :
    (l.map Span.length).sum ≤ (m.map Span.length).sum := by
  rw [← card_instants hl, ← card_instants hm]
  refine Int.ofNat_le.mpr (Finset.card_le_card fun t ht => ?_)
  exact mem_instants.mpr (h (mem_instants.mp ht))

theorem sum_length_eq (hl : Apart l) (hm : Apart m) (h : covered l = covered m) :
    (l.map Span.length).sum = (m.map Span.length).sum :=
  (sum_length_le hl hm h.subset).antisymm (sum_length_le hm hl h.symm.subset)

lemma sum_units_mul_le (hw : 0 < w) (l : List (Span ℤ)) :
    (l.map (·.length / w)).sum * w ≤ (l.map Span.length).sum := by
  induction l with
  | nil => simp
  | cons s l ih =>
    have hfirst := Int.ediv_mul_le s.length hw.ne'
    simp only [List.map_cons, List.sum_cons, add_mul]
    exact add_le_add hfirst ih

/-- **Pieces of spans have no more whole units** than the spans. -/
theorem sum_units_le (hw : 0 < w) : ∀ {l m : List (Span ℤ)}, Apart l → Canonical m →
    covered l ⊆ covered m → (l.map (·.length / w)).sum ≤ (m.map (·.length / w)).sum
  | l, [], _, _, h => by
    cases l with
    | nil => exact le_rfl
    | cons s l => exact absurd (h ⟨s, List.mem_cons_self, s.start_mem⟩) (by simp)
  | l, r :: m, hl, hm, h => by
    -- The pieces that start in the first span end in it, and the others lie in the spans after it.
    let inFirst : Span ℤ → Bool := fun s => decide (s.start < r.stop)
    have hpieces := (List.filter_append_perm inFirst l).map (·.length / w)
    rw [← hpieces.sum_eq, List.map_append, List.sum_append, List.map_cons, List.sum_cons]
    refine add_le_add ?_ (sum_units_le hw (hl.filter _) hm.tail ?_)
    · refine (Int.le_ediv_iff_mul_le hw).mpr ((sum_units_mul_le hw _).trans ?_)
      have hfits : covered (l.filter inFirst) ⊆ covered [r] := by
        rintro t ⟨s, hs, ht⟩
        obtain ⟨hmem, hin⟩ := List.mem_filter.mp hs
        have hinside : ∀ u ∈ s.toSet, u ∈ covered (r :: m) := fun u hu => h ⟨s, hmem, hu⟩
        have hstart := hm.start_le (hinside _ s.start_mem)
        have hstop : s.stop ≤ r.stop := by
          by_contra hlt
          exact hm.stop_notMem (hinside _ ⟨(of_decide_eq_true hin).le, not_le.mp hlt⟩)
        exact ⟨r, List.mem_cons_self, hstart.trans ht.1, ht.2.trans_le hstop⟩
      simpa using sum_length_le (hl.filter _) (List.pairwise_singleton _ r) hfits
    · rintro t ⟨s, hs, ht⟩
      obtain ⟨hmem, hout⟩ := List.mem_filter.mp hs
      have hafter : r.stop ≤ s.start := by simpa [inFirst] using hout
      obtain ⟨q, hq, htq⟩ := h ⟨s, hmem, ht⟩
      rcases List.mem_cons.mp hq with rfl | hq
      · exact absurd (htq.2.trans_le (hafter.trans ht.1)) (lt_irrefl t)
      · exact ⟨q, hq, htq⟩

end Intervals
