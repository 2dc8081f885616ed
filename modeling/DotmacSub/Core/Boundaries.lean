import Mathlib.Order.Lattice

/-!
# Partitions by growing boundaries

A strictly increasing sequence of boundaries cuts the line from its first term on into half-open
pieces.  Every point before some boundary lies in exactly one of them.
-/

namespace Boundaries

variable {α : Type*} [LinearOrder α] {b : ℕ → α} {t : α}

/-- The half-open piece between two consecutive boundaries. -/
def InPiece (b : ℕ → α) (i : ℕ) (t : α) : Prop := b i ≤ t ∧ t < b (i + 1)

/-- A point before boundary `n` lies in one of the first `n` pieces. -/
theorem exists_piece (h0 : b 0 ≤ t) : ∀ n, t < b n → ∃ i < n, InPiece b i t
  | 0, h => absurd h (not_lt.mpr h0)
  | n + 1, h => by
    rcases lt_or_ge t (b n) with hlt | hge
    · obtain ⟨i, hi, hp⟩ := exists_piece h0 n hlt
      exact ⟨i, Nat.lt_succ_of_lt hi, hp⟩
    · exact ⟨n, Nat.lt_succ_self n, hge, h⟩

/-- A point is in one piece at most. -/
theorem piece_unique (hb : StrictMono b) {i j : ℕ} (hi : InPiece b i t) (hj : InPiece b j t) :
    i = j := by
  have hij : i < j + 1 := hb.lt_iff_lt.mp (hi.1.trans_lt hj.2)
  have hji : j < i + 1 := hb.lt_iff_lt.mp (hj.1.trans_lt hi.2)
  exact le_antisymm (Nat.le_of_lt_succ hij) (Nat.le_of_lt_succ hji)

end Boundaries
