import Mathlib.Order.Interval.Set.LinearOrder
import Mathlib.Data.List.Pairwise

/-!
# Half-open spans and their canonical lists

A list of half-open spans covers a set of points.  Many lists cover the same set; exactly one of
them is canonical: sorted, with a gap between any two neighbours.  So a computation on lists that
returns canonical ones is determined by the sets, and two of them agree as soon as their sets do.
-/

namespace Intervals

/-- A half-open interval that is not empty. -/
@[ext] structure Span (α : Type*) [LinearOrder α] where
  start : α
  stop : α
  start_lt_stop : start < stop
deriving DecidableEq

variable {α : Type*} [LinearOrder α] {s r : Span α} {l m : List (Span α)} {t : α}

namespace Span

def toSet (s : Span α) : Set α := Set.Ico s.start s.stop

@[simp] lemma mem_toSet : t ∈ s.toSet ↔ s.start ≤ t ∧ t < s.stop := Iff.rfl

lemma start_mem (s : Span α) : s.start ∈ s.toSet := ⟨le_rfl, s.start_lt_stop⟩

/-- There is a gap between the end of `s` and the start of `r`. -/
def Before (s r : Span α) : Prop := s.stop < r.start

instance : DecidableRel (Before (α := α)) := fun s r => inferInstanceAs (Decidable (s.stop < r.start))

end Span

/-! ## Covered points -/

/-- The points of a list of spans. -/
def covered (l : List (Span α)) : Set α := {t | ∃ s ∈ l, t ∈ s.toSet}

lemma mem_covered : t ∈ covered l ↔ ∃ s ∈ l, t ∈ s.toSet := Iff.rfl

@[simp] lemma covered_nil : covered ([] : List (Span α)) = ∅ := by
  ext t
  simp [mem_covered]

@[simp] lemma covered_cons : covered (s :: l) = s.toSet ∪ covered l := by
  ext t
  simp [mem_covered]

@[simp] lemma covered_append : covered (l ++ m) = covered l ∪ covered m := by
  ext t
  simp [mem_covered, or_and_right, exists_or]

@[simp] lemma covered_reverse : covered l.reverse = covered l := by
  ext t
  simp [mem_covered]

/-- The order of a list does not matter for what it covers. -/
lemma covered_perm (h : l.Perm m) : covered l = covered m := by
  ext t
  simp only [mem_covered, h.mem_iff]

lemma mem_covered_flatMap {f : Span α → List (Span α)} :
    t ∈ covered (l.flatMap f) ↔ ∃ s ∈ l, t ∈ covered (f s) := by
  simp only [mem_covered, List.mem_flatMap]
  constructor
  · rintro ⟨r, ⟨s, hs, hr⟩, ht⟩
    exact ⟨s, hs, r, hr, ht⟩
  · rintro ⟨s, hs, r, hr, ht⟩
    exact ⟨r, ⟨s, hs, hr⟩, ht⟩

lemma covered_flatten {ls : List (List (Span α))} :
    covered ls.flatten = {t | ∃ l ∈ ls, t ∈ covered l} := by
  ext t
  simp only [← List.flatMap_id, Set.mem_ofPred_eq, mem_covered, List.mem_flatMap, id]
  constructor
  · rintro ⟨s, ⟨l, hl, hs⟩, ht⟩
    exact ⟨l, hl, s, hs, ht⟩
  · rintro ⟨l, hl, s, hs, ht⟩
    exact ⟨s, ⟨l, hl, hs⟩, ht⟩

/-- Sorted, pairwise disjoint and never abutting. -/
def Canonical (l : List (Span α)) : Prop := l.Pairwise Span.Before

namespace Canonical

lemma nil : Canonical ([] : List (Span α)) := List.Pairwise.nil

lemma tail (h : Canonical (s :: l)) : Canonical l := List.Pairwise.of_cons h

lemma before (h : Canonical (s :: l)) (hr : r ∈ l) : s.stop < r.start :=
  List.rel_of_pairwise_cons h hr

/-- What comes after the first span comes after its end. -/
lemma stop_lt (h : Canonical (s :: l)) (ht : t ∈ covered l) : s.stop < t := by
  obtain ⟨r, hr, hrt⟩ := ht
  exact (h.before hr).trans_le hrt.1

lemma start_le (h : Canonical (s :: l)) (ht : t ∈ covered (s :: l)) : s.start ≤ t := by
  rw [covered_cons] at ht
  rcases ht with ht | ht
  · exact ht.1
  · exact (s.start_lt_stop.trans (h.stop_lt ht)).le

lemma stop_notMem (h : Canonical (s :: l)) : s.stop ∉ covered (s :: l) := by
  rw [covered_cons]
  rintro (ht | ht)
  · exact lt_irrefl _ ht.2
  · exact lt_irrefl _ (h.stop_lt ht)

/-- The remaining spans cover what lies beyond the first. -/
lemma mem_tail_iff (h : Canonical (s :: l)) :
    t ∈ covered l ↔ t ∈ covered (s :: l) ∧ s.stop ≤ t := by
  rw [covered_cons]
  constructor
  · intro ht
    exact ⟨.inr ht, (h.stop_lt ht).le⟩
  · rintro ⟨ht | ht, hle⟩
    · exact absurd ht.2 (not_lt.mpr hle)
    · exact ht

/-- Two canonical lists that cover the same points do not end their first spans differently. -/
lemma stop_le (hl : Canonical (s :: l)) (hstart : s.start = r.start)
    (h : covered (s :: l) = covered (r :: m)) : r.stop ≤ s.stop := by
  by_contra hlt
  refine hl.stop_notMem (h ▸ ?_)
  rw [covered_cons]
  exact .inl ⟨hstart ▸ s.start_lt_stop.le, not_le.mp hlt⟩

/-- **A canonical list is determined by the points it covers.** -/
theorem eq_of_covered_eq : ∀ {l m : List (Span α)}, Canonical l → Canonical m →
    covered l = covered m → l = m
  | [], [], _, _, _ => rfl
  | [], r :: m, _, _, h => by
    have hr : r.start ∈ covered (r :: m) := ⟨r, List.mem_cons_self, r.start_mem⟩
    rw [← h, covered_nil] at hr
    exact hr.elim
  | s :: l, [], _, _, h => by
    have hs : s.start ∈ covered (s :: l) := ⟨s, List.mem_cons_self, s.start_mem⟩
    rw [h, covered_nil] at hs
    exact hs.elim
  | s :: l, r :: m, hl, hm, h => by
    have hs : s.start ∈ covered (s :: l) := ⟨s, List.mem_cons_self, s.start_mem⟩
    have hr : r.start ∈ covered (r :: m) := ⟨r, List.mem_cons_self, r.start_mem⟩
    have hstart : s.start = r.start :=
      le_antisymm (hl.start_le (h ▸ hr)) (hm.start_le (h ▸ hs))
    have hstop : s.stop = r.stop :=
      le_antisymm (hm.stop_le hstart.symm h.symm) (hl.stop_le hstart h)
    have htail : covered l = covered m := by
      ext t
      rw [hl.mem_tail_iff, hm.mem_tail_iff, h, hstop]
    rw [Span.ext hstart hstop, eq_of_covered_eq hl.tail hm.tail htail]

end Canonical

/-- The canonical list of a set of points. -/
structure Represents (l : List (Span α)) (points : Set α) : Prop where
  canonical : Canonical l
  covered_eq : covered l = points

namespace Represents

variable {points : Set α}

/-- A set has one canonical list. -/
theorem unique (hl : Represents l points) (hm : Represents m points) : l = m :=
  hl.canonical.eq_of_covered_eq hm.canonical (hl.covered_eq.trans hm.covered_eq.symm)

end Represents

/-! ## Cutting at points -/

/-- The spans between neighbouring points of a list, leaving out the empty ones. -/
def between : List α → List (Span α)
  | a :: b :: l => if h : a < b then ⟨a, b, h⟩ :: between (b :: l) else between (b :: l)
  | _ => []

/-- The spans follow each other from one point to the other without a gap. -/
def Tiles : List (Span α) → α → α → Prop
  | [], a, b => a = b
  | s :: l, a, b => s.start = a ∧ Tiles l s.stop b

/-- The tiled range goes forward. -/
lemma Tiles.le : ∀ {l : List (Span α)} {a b : α}, Tiles l a b → a ≤ b
  | [], _, _, h => le_of_eq h
  | s :: _, _, _, h => h.1 ▸ s.start_lt_stop.le.trans h.2.le

/-- **Tiles cover the range**, and nothing else. -/
theorem Tiles.covered_eq : ∀ {l : List (Span α)} {a b : α}, Tiles l a b → covered l = Set.Ico a b
  | [], a, b, h => by
    obtain rfl : a = b := h
    rw [covered_nil, Set.Ico_self]
  | s :: l, a, b, h => by
    obtain ⟨rfl, h⟩ := h
    rw [covered_cons, h.covered_eq]
    exact Set.Ico_union_Ico_eq_Ico s.start_lt_stop.le h.le

/-- **Tiles do not overlap.** -/
theorem Tiles.pairwise : ∀ {l : List (Span α)} {a b : α}, Tiles l a b →
    l.Pairwise fun s r => s.stop ≤ r.start
  | [], _, _, _ => List.Pairwise.nil
  | s :: l, a, b, h => by
    refine List.pairwise_cons.mpr ⟨fun r hr => ?_, h.2.pairwise⟩
    have hmem : r.start ∈ covered l := ⟨r, hr, r.start_mem⟩
    rw [h.2.covered_eq] at hmem
    exact hmem.1

/-- The spans between increasing points tile the range from the first point to the last. -/
theorem tiles_between : ∀ {a : α} {l : List α}, (a :: l).Pairwise (· < ·) →
    Tiles (between (a :: l)) a ((a :: l).getLast (List.cons_ne_nil a l))
  | a, [], _ => rfl
  | a, b :: l, h => by
    have hab : a < b := List.rel_of_pairwise_cons h List.mem_cons_self
    rw [between, dif_pos hab, List.getLast_cons (List.cons_ne_nil b l)]
    exact ⟨rfl, tiles_between (List.Pairwise.of_cons h)⟩

theorem tiles_between_of_bounds {l : List α} {a b : α} (h : l.Pairwise (· < ·)) (ha : a ∈ l)
    (hb : b ∈ l) (hbounds : ∀ x ∈ l, a ≤ x ∧ x ≤ b) : Tiles (between l) a b := by
  cases l with
  | nil => exact absurd ha List.not_mem_nil
  | cons c l =>
    have hca : c = a := by
      rcases List.mem_cons.mp ha with hac | hac
      · exact hac.symm
      · exact absurd (hbounds c List.mem_cons_self).1 (not_le.mpr (List.rel_of_pairwise_cons h hac))
    have hlast : (c :: l).getLast (List.cons_ne_nil c l) = b := by
      refine le_antisymm (hbounds _ (List.getLast_mem _)).2 ?_
      have hle : (c :: l).Pairwise (· ≤ ·) := h.imp le_of_lt
      exact hle.rel_getLast_of_rel_getLast_getLast hb le_rfl
    rw [← hlast, ← hca]
    exact tiles_between h

/-- No point lies inside a span between increasing points. -/
theorem not_mem_between : ∀ {l : List α}, l.Pairwise (· < ·) → ∀ s ∈ between l, ∀ x ∈ l,
    x ≤ s.start ∨ s.stop ≤ x
  | [], _, s, hs, _, _ => absurd hs List.not_mem_nil
  | [_], _, s, hs, _, _ => absurd hs List.not_mem_nil
  | a :: b :: l, h, s, hs, x, hx => by
    have hab : a < b := List.rel_of_pairwise_cons h List.mem_cons_self
    have htail := List.Pairwise.of_cons h
    have hle : ∀ y ∈ b :: l, b ≤ y := by
      rintro y (_ | ⟨_, hy⟩)
      · exact le_rfl
      · exact (List.rel_of_pairwise_cons htail hy).le
    rw [between, dif_pos hab, List.mem_cons] at hs
    rcases hs with rfl | hs
    · rcases List.mem_cons.mp hx with rfl | hx
      · exact .inl le_rfl
      · exact .inr (hle x hx)
    · rcases List.mem_cons.mp hx with rfl | hx
      · have hmem : s.start ∈ covered (between (b :: l)) := ⟨s, hs, s.start_mem⟩
        rw [(tiles_between htail).covered_eq] at hmem
        exact .inl (hab.le.trans hmem.1)
      · exact not_mem_between htail s hs x hx

end Intervals
