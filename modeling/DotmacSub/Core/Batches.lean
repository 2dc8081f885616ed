import Mathlib.Data.List.Nodup

/-!
# Batches of a queue

A worker takes a batch of `n` elements and then looks for those it may serve, or it looks first and
takes afterwards.
-/

namespace Batches

variable {α : Type*} {p q : α → Prop} [DecidablePred p] [DecidablePred q] {l : List α} {n : ℕ}

/-- The first `n` served elements, by where they stand. -/
lemma take_filter : (l.filter p).take n = (l.take n).filter p ++
    ((l.drop n).filter p).take (n - ((l.take n).filter p).length) := by
  have hlength : ((l.take n).filter p).length ≤ n :=
    Nat.le_trans (List.length_filter_le _ _) (List.length_take_le n l)
  conv_lhs => rw [← List.take_append_drop n l]
  rw [List.filter_append, List.take_append, List.take_of_length_le hlength]

/-- What the first finds is a prefix of what the second finds. -/
lemma filter_prefix : (l.take n).filter p <+: (l.filter p).take n :=
  ⟨_, take_filter.symm⟩

/-- Taking before looking loses nothing if and only if the whole batch may be served or nothing
after it. -/
lemma filter_take_eq : (l.take n).filter p = (l.filter p).take n ↔
    (∀ x ∈ l.take n, p x) ∨ ∀ x ∈ l.drop n, ¬ p x := by
  rw [take_filter, List.self_eq_append_right, List.take_eq_nil_iff, List.filter_eq_nil_iff]
  have hlength : ((l.take n).filter p).length ≤ (l.take n).length := List.length_filter_le _ _
  constructor
  · rintro (hfull | hnone)
    · left
      have heq : ((l.take n).filter p).length = (l.take n).length := by
        have htake := List.length_take_le n l
        omega
      simpa using List.length_filter_eq_length_iff.mp heq
    · exact .inr fun x hx => by simpa using hnone x hx
  · rintro (hall | hnone)
    · by_cases hn : n ≤ l.length
      · left
        rw [List.filter_eq_self.mpr fun x hx => decide_eq_true (hall x hx),
          List.length_take_of_le hn, Nat.sub_self]
      · right
        rw [List.drop_of_length_le (Nat.le_of_not_le hn)]
        exact fun x hx => absurd hx List.not_mem_nil
    · exact .inr fun x hx => by simpa using hnone x hx

/-- The same when the worker serves only some of those it may serve. -/
theorem filter_take_eq_iff (hqp : ∀ x, q x → p x) :
    (l.take n).filter q = (l.filter p).take n ↔
      (∀ x ∈ l.take n, p x → q x) ∧
        ((∀ x ∈ l.take n, p x) ∨ ∀ x ∈ l.drop n, ¬ p x) := by
  have hsame : (∀ x ∈ l.take n, p x → q x) → (l.take n).filter q = (l.take n).filter p := by
    intro h
    refine List.filter_congr fun x hx => ?_
    rw [decide_eq_decide]
    exact ⟨hqp x, h x hx⟩
  constructor
  · intro h
    -- both differences show in the lengths
    have hsublist : List.Sublist ((l.take n).filter q) ((l.take n).filter p) :=
      List.monotone_filter_right _ fun x hx => decide_eq_true (hqp x (of_decide_eq_true hx))
    have hserved : (l.take n).filter q = (l.take n).filter p :=
      hsublist.eq_of_length_le (h ▸ filter_prefix.length_le)
    refine ⟨fun x hx hpx => ?_, filter_take_eq.mp (hserved ▸ h)⟩
    have hmem : x ∈ (l.take n).filter q :=
      hserved ▸ List.mem_filter.mpr ⟨hx, decide_eq_true hpx⟩
    exact of_decide_eq_true (List.mem_filter.mp hmem).2
  · rintro ⟨hclear, hroom⟩
    rw [hsame hclear, filter_take_eq.mpr hroom]

end Batches
