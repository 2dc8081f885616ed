import DotmacSub.Core.Intervals
import Mathlib.Algebra.BigOperators.Group.List.Basic
import Mathlib.Algebra.Order.Ring.Int
import Mathlib.Data.List.Sort

/-!
# Interval algebra for SLA period scoring

The pure functions of `services/sla_interval_algebra.py`.  An instant is a number of microseconds
in UTC; a span that is empty or not in UTC cannot be built.
-/

namespace DotmacSub.Sla

open Intervals

/-- One half-open interval in UTC. -/
abbrev Span := Intervals.Span ℤ

/-- The order of the dataclass: by start, then by end. -/
def Span.le (a b : Span) : Prop := a.start < b.start ∨ a.start = b.start ∧ a.stop ≤ b.stop

instance : DecidableRel Span.le := fun a b =>
  inferInstanceAs (Decidable (a.start < b.start ∨ a.start = b.start ∧ a.stop ≤ b.stop))

def Span.overlaps (a b : Span) : Bool := a.start < b.stop ∧ b.start < a.stop

/-- The spans in the order of `Span.le`. -/
def sorted (spans : List Span) : List Span := spans.insertionSort Span.le

/-- One turn of the merging loop; `merged` has the last merged span first. -/
def mergeSpan (merged : List Span) (span : Span) : List Span :=
  match merged with
  | [] => [span]
  | previous :: earlier =>
    if span.start ≤ previous.stop then
      if h : previous.stop < span.stop then
        ⟨previous.start, span.stop, previous.start_lt_stop.trans h⟩ :: earlier
      else previous :: earlier
    else span :: previous :: earlier

/-- Sort and merge into a canonical, disjoint list. -/
def normalize (spans : List Span) : List Span := ((sorted spans).foldl mergeSpan []).reverse

/-- The union of lists of spans. -/
def union (groups : List (List Span)) : List Span := normalize groups.flatten

def common (a b : Span) : List Span :=
  if h : max a.start b.start < min a.stop b.stop then [⟨_, _, h⟩] else []

/-- The loop of `intersect` over the two normalized lists; whichever span ends first is left. -/
def intersectLoop : List Span → List Span → List Span
  | [], _ => []
  | _ :: _, [] => []
  | a :: as, b :: bs =>
    common a b ++
      if a.stop ≤ b.stop then intersectLoop as (b :: bs) else intersectLoop (a :: as) bs
termination_by as bs => as.length + bs.length

/-- The intersection of two lists of spans. -/
def intersect (left right : List Span) : List Span :=
  intersectLoop (normalize left) (normalize right)

def carve (cut span : Span) : List Span :=
  if span.overlaps cut then
    (if h : span.start < cut.start then [⟨span.start, cut.start, h⟩] else [])
      ++ (if h : cut.stop < span.stop then [⟨cut.stop, span.stop, h⟩] else [])
  else [span]

/-- The spans of one list without those of another. -/
def subtract (left right : List Span) : List Span :=
  normalize ((normalize right).foldl (fun remaining cut => remaining.flatMap (carve cut))
    (normalize left))

/-- The spans within a window. -/
def clamp (spans : List Span) (window : Span) : List Span := intersect spans [window]

/-- Whole seconds covered, counting each instant once. -/
def totalSeconds (spans : List Span) : ℤ :=
  ((normalize spans).map fun span => (span.stop - span.start) / 1000000).sum

lemma perm_sorted (spans : List Span) : (sorted spans).Perm spans := List.perm_insertionSort _ _

instance : Std.Total Span.le := ⟨fun a b => by simp only [Span.le]; omega⟩

instance : IsTrans Span Span.le := ⟨fun a b c => by simp only [Span.le]; omega⟩

lemma sorted_starts (spans : List Span) : (sorted spans).Pairwise fun a b => a.start ≤ b.start := by
  refine (List.pairwise_insertionSort Span.le spans).imp ?_
  rintro a b (hlt | ⟨heq, -⟩)
  · exact hlt.le
  · exact heq.le

lemma mergeSpan_spec {merged : List Span} {span : Span} (hm : Canonical merged.reverse)
    (hstart : ∀ p ∈ merged, p.start ≤ span.start) :
    Canonical (mergeSpan merged span).reverse ∧
      covered (mergeSpan merged span) = covered merged ∪ span.toSet ∧
      ∀ p ∈ mergeSpan merged span, p.start ≤ span.start := by
  unfold Canonical at *
  rw [List.pairwise_reverse] at *
  cases merged with
  | nil => simp [mergeSpan]
  | cons previous earlier =>
    have hprev := hstart previous List.mem_cons_self
    rw [List.pairwise_cons] at hm
    simp only [mergeSpan]
    split_ifs with htouch hlonger
    · refine ⟨List.pairwise_cons.mpr hm, ?_, List.forall_mem_cons.mpr ⟨hprev, fun p hp =>
        hstart p (List.mem_cons_of_mem _ hp)⟩⟩
      ext t
      simp only [covered_cons, Set.mem_union, Span.mem_toSet]
      by_cases ht : t ∈ covered earlier
      · simp [ht]
      · simp only [ht, or_false]
        omega
    · refine ⟨List.pairwise_cons.mpr hm, ?_, hstart⟩
      ext t
      simp only [covered_cons, Set.mem_union, Span.mem_toSet]
      by_cases ht : t ∈ covered earlier
      · simp [ht]
      · simp only [ht, or_false]
        omega
    · refine ⟨List.pairwise_cons.mpr ⟨?_, List.pairwise_cons.mpr hm⟩, ?_,
        List.forall_mem_cons.mpr ⟨le_rfl, hstart⟩⟩
      · intro p hp
        rcases List.mem_cons.mp hp with rfl | hp
        · exact not_le.mp htouch
        · have hbefore : p.stop < previous.start := hm.1 p hp
          show p.stop < span.start
          omega
      · rw [covered_cons, Set.union_comm]

/-- What the merging loop returns, from any state it reaches. -/
lemma foldl_mergeSpan : ∀ (spans merged : List Span), Canonical merged.reverse →
    (spans.Pairwise fun a b => a.start ≤ b.start) →
    (∀ p ∈ merged, ∀ span ∈ spans, p.start ≤ span.start) →
    Represents (spans.foldl mergeSpan merged).reverse (covered merged ∪ covered spans)
  | [], merged, hm, _, _ => ⟨hm, by simp⟩
  | span :: spans, merged, hm, hsorted, hstart => by
    obtain ⟨hfirst, hrest⟩ := List.pairwise_cons.mp hsorted
    obtain ⟨hm', hcovered, hstart'⟩ :=
      mergeSpan_spec hm fun p hp => hstart p hp span List.mem_cons_self
    have hloop := foldl_mergeSpan spans (mergeSpan merged span) hm' hrest
      fun p hp r hr => (hstart' p hp).trans (hfirst r hr)
    rw [hcovered, Set.union_assoc, ← covered_cons] at hloop
    exact hloop

/-- **Normalizing returns the canonical list.** -/
theorem normalize_represents (spans : List Span) :
    Represents (normalize spans) (covered spans) := by
  have hloop := foldl_mergeSpan (sorted spans) [] Canonical.nil (sorted_starts spans) nofun
  rwa [covered_nil, Set.empty_union, covered_perm (perm_sorted spans)] at hloop

example : normalize [⟨5, 9, by decide⟩, ⟨1, 5, by decide⟩] = [⟨1, 9, by decide⟩] := by decide

theorem union_represents (groups : List (List Span)) :
    Represents (union groups) {t | ∃ group ∈ groups, t ∈ covered group} := by
  have h := normalize_represents groups.flatten
  rwa [covered_flatten] at h

lemma covered_common (a b : Span) : covered (common a b) = a.toSet ∩ b.toSet := by
  ext t
  have ha := a.start_lt_stop
  have hb := b.start_lt_stop
  unfold common
  split_ifs with h
  · simp only [covered_cons, covered_nil, Set.union_empty, Set.mem_inter_iff, Span.mem_toSet,
      max_le_iff, lt_min_iff]
    tauto
  · rw [lt_min_iff, max_lt_iff, max_lt_iff] at h
    simp only [covered_nil, Set.mem_empty_iff_false, Set.mem_inter_iff, Span.mem_toSet, false_iff]
    omega

/-- Leaving the span that ends first loses nothing the two sides share. -/
lemma inter_cons {a b : Span} {as bs : List Span} (hb : Canonical (b :: bs))
    (h : a.stop ≤ b.stop) :
    covered (a :: as) ∩ covered (b :: bs)
      = a.toSet ∩ b.toSet ∪ covered as ∩ covered (b :: bs) := by
  ext t
  have hbs : t ∈ covered bs → b.stop < t := hb.stop_lt
  simp only [covered_cons, Set.mem_inter_iff, Set.mem_union, Span.mem_toSet]
  by_cases ht : t ∈ covered bs
  · have := hbs ht
    by_cases has : t ∈ covered as
    · simp [ht, has]
    · simp only [ht, has, or_true, and_true, or_false]
      omega
  · simp only [ht, or_false]
    tauto

/-- What the loop of `intersect` covers. -/
lemma covered_intersectLoop (as bs : List Span) (ha : Canonical as) (hb : Canonical bs) :
    covered (intersectLoop as bs) = covered as ∩ covered bs := by
  fun_induction intersectLoop as bs with
  | case1 => simp
  | case2 => simp
  | case3 a as b bs ih1 ih2 =>
    rw [covered_append, covered_common]
    split_ifs with h
    · rw [ih1 ha.tail hb, inter_cons hb h]
    · rw [ih2 ha hb.tail, Set.inter_comm a.toSet, Set.inter_comm (covered (a :: as)),
        Set.inter_comm (covered (a :: as)), inter_cons ha (not_le.mp h).le]

lemma start_intersectLoop (as bs : List Span) : ∀ r ∈ intersectLoop as bs,
    (∃ a ∈ as, a.start ≤ r.start) ∧ ∃ b ∈ bs, b.start ≤ r.start := by
  fun_induction intersectLoop as bs with
  | case1 => simp
  | case2 => simp
  | case3 a as b bs ih1 ih2 =>
    intro r hr
    rcases List.mem_append.mp hr with hr | hr
    · unfold common at hr
      split_ifs at hr
      · obtain rfl := List.mem_singleton.mp hr
        exact ⟨⟨a, List.mem_cons_self, le_max_left _ _⟩, b, List.mem_cons_self, le_max_right _ _⟩
      · exact absurd hr List.not_mem_nil
    · split_ifs at hr
      · obtain ⟨⟨a', ha', hle⟩, hright⟩ := ih1 r hr
        exact ⟨⟨a', List.mem_cons_of_mem _ ha', hle⟩, hright⟩
      · obtain ⟨hleft, b', hb', hle⟩ := ih2 r hr
        exact ⟨hleft, b', List.mem_cons_of_mem _ hb', hle⟩

/-- The loop of `intersect` leaves gaps: the spans after one that ended start in the next span of
the side that ended. -/
lemma canonical_intersectLoop (as bs : List Span) (ha : Canonical as) (hb : Canonical bs) :
    Canonical (intersectLoop as bs) := by
  fun_induction intersectLoop as bs with
  | case1 => exact Canonical.nil
  | case2 => exact Canonical.nil
  | case3 a as b bs ih1 ih2 =>
    have hrest : Canonical
        (if a.stop ≤ b.stop then intersectLoop as (b :: bs) else intersectLoop (a :: as) bs) := by
      split_ifs
      · exact ih1 ha.tail hb
      · exact ih2 ha hb.tail
    refine List.pairwise_append.mpr ⟨?_, hrest, ?_⟩
    · unfold common
      split_ifs
      · exact List.pairwise_singleton _ _
      · exact List.Pairwise.nil
    · intro s hs r hr
      unfold common at hs
      split_ifs at hs
      · obtain rfl := List.mem_singleton.mp hs
        show min a.stop b.stop < r.start
        split_ifs at hr
        · obtain ⟨⟨a', ha', hle⟩, -⟩ := start_intersectLoop _ _ r hr
          exact (min_le_left _ _).trans_lt ((ha.before ha').trans_le hle)
        · obtain ⟨-, b', hb', hle⟩ := start_intersectLoop _ _ r hr
          exact (min_le_right _ _).trans_lt ((hb.before hb').trans_le hle)
      · exact absurd hs List.not_mem_nil

/-- **Intersecting returns the canonical list of the intersection.** -/
theorem intersect_represents (left right : List Span) :
    Represents (intersect left right) (covered left ∩ covered right) := by
  have hl := normalize_represents left
  have hr := normalize_represents right
  refine ⟨canonical_intersectLoop _ _ hl.canonical hr.canonical, ?_⟩
  rw [intersect, covered_intersectLoop _ _ hl.canonical hr.canonical, hl.covered_eq, hr.covered_eq]

lemma covered_carve (cut span : Span) : covered (carve cut span) = span.toSet \ cut.toSet := by
  ext t
  have hcut := cut.start_lt_stop
  simp only [carve, Span.overlaps, decide_eq_true_eq]
  split_ifs with ho h1 h2 h2 <;>
    simp only [covered_append, covered_cons, covered_nil, Set.union_empty, Set.empty_union,
      Set.mem_union, Set.mem_sdiff, Set.mem_empty_iff_false, false_iff,
      Span.mem_toSet] <;>
    omega

lemma covered_foldl_carve : ∀ (cuts remaining : List Span),
    covered (cuts.foldl (fun remaining cut => remaining.flatMap (carve cut)) remaining)
      = covered remaining \ covered cuts
  | [], remaining => by simp
  | cut :: cuts, remaining => by
    have hone : covered (remaining.flatMap (carve cut)) = covered remaining \ cut.toSet := by
      ext t
      rw [mem_covered_flatMap]
      simp only [covered_carve, Set.mem_sdiff]
      constructor
      · rintro ⟨s, hs, ht, hcut⟩
        exact ⟨⟨s, hs, ht⟩, hcut⟩
      · rintro ⟨⟨s, hs, ht⟩, hcut⟩
        exact ⟨s, hs, ht, hcut⟩
    rw [List.foldl_cons, covered_foldl_carve cuts, hone, Set.sdiff_sdiff, covered_cons]

/-- **Subtracting returns the canonical list of the difference.** -/
theorem subtract_represents (left right : List Span) :
    Represents (subtract left right) (covered left \ covered right) := by
  have h := normalize_represents
    ((normalize right).foldl (fun remaining cut => remaining.flatMap (carve cut)) (normalize left))
  rwa [covered_foldl_carve, (normalize_represents left).covered_eq,
    (normalize_represents right).covered_eq] at h

/-- **Clamping returns the canonical list of what lies in the window.** -/
theorem clamp_represents (spans : List Span) (window : Span) :
    Represents (clamp spans window) (covered spans ∩ window.toSet) := by
  have h := intersect_represents spans [window]
  rwa [covered_cons, covered_nil, Set.union_empty] at h

/-- **Interval algebra is set algebra.**  Every operation returns the canonical list of its set of
instants, and no operation sees the order in which its spans or groups were given. -/
theorem set_algebra :
    (∀ spans, Represents (normalize spans) (covered spans)) ∧
    (∀ groups, Represents (union groups) {t | ∃ group ∈ groups, t ∈ covered group}) ∧
    (∀ left right, Represents (intersect left right) (covered left ∩ covered right)) ∧
    (∀ left right, Represents (subtract left right) (covered left \ covered right)) ∧
    (∀ spans window, Represents (clamp spans window) (covered spans ∩ window.toSet)) ∧
    (∀ left left' right right' window, left.Perm left' → right.Perm right' →
      normalize left = normalize left' ∧ intersect left right = intersect left' right' ∧
      subtract left right = subtract left' right' ∧ clamp left window = clamp left' window) ∧
    ∀ groups groups', groups.flatten.Perm groups'.flatten → union groups = union groups' := by
  refine ⟨normalize_represents, union_represents, intersect_represents, subtract_represents,
    clamp_represents, ?_, ?_⟩
  · intro left left' right right' window hl hr
    have hleft := covered_perm hl
    have hright := covered_perm hr
    refine ⟨(normalize_represents left).unique ?_, (intersect_represents left right).unique ?_,
      (subtract_represents left right).unique ?_, (clamp_represents left window).unique ?_⟩
    · exact hleft ▸ normalize_represents left'
    · exact hleft ▸ hright ▸ intersect_represents left' right'
    · exact hleft ▸ hright ▸ subtract_represents left' right'
    · exact hleft ▸ clamp_represents left' window
  · intro groups groups' h
    refine (normalize_represents groups.flatten).unique ?_
    exact covered_perm h ▸ normalize_represents groups'.flatten

end DotmacSub.Sla
