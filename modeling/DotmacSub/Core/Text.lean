import Mathlib.Data.List.DropRight

/-!
# Text

Strings as a program trims and checks them, character by character.
-/

namespace Text

/-- The characters that `strip` removes. -/
def isSpace (c : Char) : Bool :=
  (9 ≤ c.toNat && c.toNat ≤ 13) || (28 ≤ c.toNat && c.toNat ≤ 32) ||
    (8192 ≤ c.toNat && c.toNat ≤ 8202) ||
    [133, 160, 5760, 8232, 8233, 8239, 8287, 12288].contains c.toNat

/-- A string without surrounding white space. -/
def strip (value : String) : String :=
  .ofList ((value.toList.dropWhile isSpace).reverse.dropWhile isSpace).reverse

/-- The end of a trimmed beginning begins as trimmed. -/
lemma dropWhile_rdropWhile (p : Char → Bool) (l : List Char) :
    ((l.dropWhile p).rdropWhile p).dropWhile p = (l.dropWhile p).rdropWhile p := by
  rw [List.dropWhile_eq_self_iff]
  intro hpos
  have hstart := List.rdropWhile_prefix p (l := l.dropWhile p)
  have hpos' : 0 < (l.dropWhile p).length := hpos.trans_le hstart.length_le
  rw [hstart.getElem hpos]
  exact List.dropWhile_get_zero_not p l hpos'

/-- A trimmed string has no surrounding white space. -/
lemma strip_strip (value : String) : strip (strip value) = strip value := by
  show String.ofList (((String.ofList ((value.toList.dropWhile isSpace).rdropWhile
    isSpace)).toList.dropWhile isSpace).rdropWhile isSpace) =
      String.ofList ((value.toList.dropWhile isSpace).rdropWhile isSpace)
  rw [String.toList_ofList, dropWhile_rdropWhile, List.rdropWhile_idempotent]

lemma isSpace_of_isAlpha {c : Char} (h : c.isAlpha) : isSpace c = false := by
  delta Char.isAlpha Char.isUpper Char.isLower at h
  simp only [ge_iff_le, Bool.or_eq_true, Bool.and_eq_true, decide_eq_true_eq,
    UInt32.le_iff_toNat_le] at h
  have hA : ('A'.val).toNat = 65 := rfl
  have hZ : ('Z'.val).toNat = 90 := rfl
  have ha : ('a'.val).toNat = 97 := rfl
  have hz : ('z'.val).toNat = 122 := rfl
  have hc : c.val.toNat = c.toNat := rfl
  rw [hA, hZ, ha, hz, hc] at h
  rw [isSpace, ← Bool.not_eq_true]
  simp only [Bool.or_eq_true, Bool.and_eq_true, decide_eq_true_eq, List.contains_eq_mem,
    List.mem_cons, List.not_mem_nil, or_false]
  omega

lemma toUpper_toUpper (c : Char) : c.toUpper.toUpper = c.toUpper := by
  unfold Char.toUpper
  split
  · rename_i h
    rw [dif_neg]
    rintro ⟨hlo, -⟩
    obtain ⟨h1, h2⟩ := h
    rw [UInt32.le_iff_toNat_le] at h1 h2 hlo
    rw [UInt32.toNat_add] at hlo
    have ha : ('a'.val).toNat = 97 := rfl
    have hz : ('z'.val).toNat = 122 := rfl
    have hk : ('A'.val - 'a'.val).toNat = 4294967264 := rfl
    omega
  · rfl

lemma toUpper_of_not_isAlpha {c : Char} (h : ¬c.isAlpha) : c.toUpper = c := by
  unfold Char.toUpper
  rw [dif_neg]
  rintro ⟨hlo, hhi⟩
  refine h (Bool.or_eq_true_iff.mpr (.inr ?_))
  delta Char.isLower
  rw [Bool.and_eq_true, decide_eq_true_eq, decide_eq_true_eq]
  exact ⟨hlo, hhi⟩

lemma isAlpha_toUpper {c : Char} (h : c.isAlpha) : c.toUpper.isAlpha := by
  unfold Char.toUpper
  split
  · rename_i hlower
    obtain ⟨h1, h2⟩ := hlower
    rw [UInt32.le_iff_toNat_le] at h1 h2
    have ha : ('a'.val).toNat = 97 := rfl
    have hz : ('z'.val).toNat = 122 := rfl
    have hA : ('A'.val).toNat = 65 := rfl
    have hZ : ('Z'.val).toNat = 90 := rfl
    have hk : ('A'.val - 'a'.val).toNat = 4294967264 := rfl
    delta Char.isAlpha Char.isUpper
    simp only [Bool.or_eq_true, decide_eq_true_eq, ge_iff_le, UInt32.le_iff_toNat_le]
    refine .inl ⟨?_, ?_⟩
    · rw [UInt32.toNat_add]
      omega
    · rw [UInt32.toNat_add]
      omega
  · exact h

/-- Raising a character makes no white space. -/
lemma isSpace_toUpper (c : Char) : isSpace c.toUpper = isSpace c := by
  by_cases h : c.isAlpha
  · rw [isSpace_of_isAlpha h, isSpace_of_isAlpha (isAlpha_toUpper h)]
  · rw [toUpper_of_not_isAlpha h]

/-- Raising letters leaves the white space as it is. -/
lemma strip_map_toUpper (l : List Char) : strip (.ofList (l.map Char.toUpper)) =
    .ofList ((strip (.ofList l)).toList.map Char.toUpper) := by
  have hspace : isSpace ∘ Char.toUpper = isSpace := funext isSpace_toUpper
  simp only [strip, String.toList_ofList]
  rw [List.dropWhile_map, ← List.map_reverse, List.dropWhile_map, ← List.map_reverse, hspace]

end Text
