import Mathlib.Data.Int.ConditionallyCompleteOrder
import Mathlib.Data.Int.Log
import Mathlib.Data.Rat.Floor

/-!
# Decimal arithmetic

Decimals are rationals; what makes them decimal is where they are rounded.  A `Rounding` is any
monotone map to the nearest integer, so the two roundings a billing program meets — half up for
money and half even for everything else — share one set of lemmas.
-/

namespace Decimal

/-! ## Rounding to an integer -/

/-- A rounding to a nearest integer, monotone and exact on integers. -/
structure Rounding where
  toInt : ℚ → ℤ
  monotone : Monotone toInt
  nearest : ∀ x, |(toInt x : ℚ) - x| ≤ 1 / 2
  toInt_intCast : ∀ n : ℤ, toInt n = n

/-- Ties go away from zero. -/
def halfUpInt (x : ℚ) : ℤ := if 0 ≤ x then ⌊x + 1 / 2⌋ else ⌈x - 1 / 2⌉

/-- Ties go to the even neighbour. -/
def halfEvenInt (x : ℚ) : ℤ :=
  if x - ⌊x⌋ < 1 / 2 then ⌊x⌋
  else if 1 / 2 < x - ⌊x⌋ then ⌊x⌋ + 1
  else ⌊x⌋ + ⌊x⌋ % 2

lemma halfUpInt_monotone : Monotone halfUpInt := by
  intro x y h
  unfold halfUpInt
  split_ifs with hx hy hy
  · exact Int.floor_le_floor (by linarith)
  · exact absurd (hx.trans h) hy
  · have h1 : ⌈x - 1 / 2⌉ ≤ 0 := Int.ceil_le.mpr (by push_cast; linarith)
    have h2 : 0 ≤ ⌊y + 1 / 2⌋ := Int.floor_nonneg.mpr (by linarith)
    omega
  · exact Int.ceil_le_ceil (by linarith)

lemma halfUpInt_nearest (x : ℚ) : |(halfUpInt x : ℚ) - x| ≤ 1 / 2 := by
  unfold halfUpInt
  split_ifs with hx
  · have h1 := Int.floor_le (x + 1 / 2)
    have h2 := Int.lt_floor_add_one (x + 1 / 2)
    exact abs_le.mpr ⟨by linarith, by linarith⟩
  · have h1 := Int.le_ceil (x - 1 / 2)
    have h2 := Int.ceil_lt_add_one (x - 1 / 2)
    exact abs_le.mpr ⟨by linarith, by linarith⟩

lemma halfUpInt_intCast (n : ℤ) : halfUpInt n = n := by
  unfold halfUpInt
  split_ifs
  · exact Int.floor_eq_iff.mpr ⟨by linarith, by linarith⟩
  · exact Int.ceil_eq_iff.mpr ⟨by linarith, by linarith⟩

lemma halfEvenInt_bounds (x : ℚ) : ⌊x⌋ ≤ halfEvenInt x ∧ halfEvenInt x ≤ ⌊x⌋ + 1 := by
  unfold halfEvenInt
  split_ifs <;> omega

lemma halfEvenInt_monotone : Monotone halfEvenInt := by
  intro x y h
  rcases (Int.floor_le_floor h).lt_or_eq with hlt | heq
  · have hx := halfEvenInt_bounds x
    have hy := halfEvenInt_bounds y
    omega
  · unfold halfEvenInt
    rw [heq]
    split_ifs <;> first | omega | linarith

lemma halfEvenInt_nearest (x : ℚ) : |(halfEvenInt x : ℚ) - x| ≤ 1 / 2 := by
  have h1 := Int.floor_le x
  have h2 := Int.lt_floor_add_one x
  have h3 : ((⌊x⌋ % 2 : ℤ) : ℚ) = 0 ∨ ((⌊x⌋ % 2 : ℤ) : ℚ) = 1 := by
    rcases Int.emod_two_eq_zero_or_one ⌊x⌋ with h | h <;> simp [h]
  unfold halfEvenInt
  split_ifs with hlo hhi
  · exact abs_le.mpr ⟨by linarith, by linarith⟩
  · push_cast
    exact abs_le.mpr ⟨by linarith, by linarith⟩
  · push_cast
    rcases h3 with h3 | h3 <;> rw [h3] <;> exact abs_le.mpr ⟨by linarith, by linarith⟩

lemma halfEvenInt_intCast (n : ℤ) : halfEvenInt n = n := by
  simp [halfEvenInt]

def halfUp : Rounding := ⟨halfUpInt, halfUpInt_monotone, halfUpInt_nearest, halfUpInt_intCast⟩

def halfEven : Rounding :=
  ⟨halfEvenInt, halfEvenInt_monotone, halfEvenInt_nearest, halfEvenInt_intCast⟩

/-! ## Rounding to a number of places -/

/-- A value with at most `s` decimal places. -/
def OnGrid (s : ℕ) (x : ℚ) : Prop := ∃ n : ℤ, x * 10 ^ s = n

/-- Rounding to `s` places. -/
def quantize (r : Rounding) (s : ℕ) (x : ℚ) : ℚ := r.toInt (x * 10 ^ s) / 10 ^ s

section Quantize

variable {r : Rounding} {s : ℕ} {x y : ℚ}

lemma tenPow_pos (s : ℕ) : (0 : ℚ) < 10 ^ s := by positivity

lemma quantize_mul_tenPow : quantize r s x * 10 ^ s = r.toInt (x * 10 ^ s) := by
  rw [quantize, div_mul_cancel₀ _ (tenPow_pos s).ne']

lemma onGrid_quantize : OnGrid s (quantize r s x) := ⟨_, quantize_mul_tenPow⟩

/-- **The values that survive rounding** are those with few enough places. -/
theorem quantize_eq_self_iff : quantize r s x = x ↔ OnGrid s x := by
  refine ⟨fun h => h ▸ onGrid_quantize, ?_⟩
  rintro ⟨n, hn⟩
  rw [quantize, hn, r.toInt_intCast, ← hn, mul_div_cancel_right₀ _ (tenPow_pos s).ne']

instance : Decidable (OnGrid s x) := decidable_of_iff _ (quantize_eq_self_iff (r := halfUp))

lemma quantize_of_onGrid (h : OnGrid s x) : quantize r s x = x := quantize_eq_self_iff.mpr h

lemma quantize_mono (h : x ≤ y) : quantize r s x ≤ quantize r s y := by
  have hxy : x * 10 ^ s ≤ y * 10 ^ s := mul_le_mul_of_nonneg_right h (tenPow_pos s).le
  have hr : (r.toInt (x * 10 ^ s) : ℚ) ≤ r.toInt (y * 10 ^ s) := by
    exact_mod_cast r.monotone hxy
  exact div_le_div_of_nonneg_right hr (tenPow_pos s).le

@[simp] lemma onGrid_zero : OnGrid s 0 := ⟨0, by simp⟩

@[simp] lemma quantize_zero : quantize r s 0 = 0 := quantize_of_onGrid onGrid_zero

lemma quantize_nonneg (h : 0 ≤ x) : 0 ≤ quantize r s x := by
  simpa using quantize_mono (r := r) (s := s) h

lemma OnGrid.add (hx : OnGrid s x) (hy : OnGrid s y) : OnGrid s (x + y) := by
  obtain ⟨m, hm⟩ := hx
  obtain ⟨n, hn⟩ := hy
  exact ⟨m + n, by push_cast; rw [add_mul, hm, hn]⟩

lemma OnGrid.neg (hx : OnGrid s x) : OnGrid s (-x) := by
  obtain ⟨m, hm⟩ := hx
  exact ⟨-m, by push_cast; rw [neg_mul, hm]⟩

lemma OnGrid.max (hx : OnGrid s x) (hy : OnGrid s y) : OnGrid s (max x y) := by
  rcases max_choice x y with h | h <;> rw [h] <;> assumption

lemma OnGrid.sub (hx : OnGrid s x) (hy : OnGrid s y) : OnGrid s (x - y) :=
  sub_eq_add_neg x y ▸ hx.add hy.neg

lemma OnGrid.list_sum {l : List ℚ} (h : ∀ x ∈ l, OnGrid s x) : OnGrid s l.sum := by
  induction l with
  | nil => exact onGrid_zero
  | cons x l ih =>
    rw [List.sum_cons]
    exact (h x List.mem_cons_self).add (ih fun y hy => h y (List.mem_cons_of_mem x hy))

/-- A value with few places has more places too. -/
lemma OnGrid.mono {t : ℕ} (hx : OnGrid s x) (h : s ≤ t) : OnGrid t x := by
  obtain ⟨m, hm⟩ := hx
  obtain ⟨k, rfl⟩ := Nat.exists_eq_add_of_le h
  refine ⟨m * 10 ^ k, ?_⟩
  rw [pow_add, ← mul_assoc, hm]
  push_cast
  ring

end Quantize

/-! ## Rounding to the context precision -/

/-- The significant digits kept by an arithmetic operation. -/
def precision : ℤ := 28

/-- Rounding to the context precision, half even. -/
def ctx (x : ℚ) : ℚ :=
  halfEvenInt (x / 10 ^ (Int.log 10 |x| - (precision - 1)))
    * 10 ^ (Int.log 10 |x| - (precision - 1))

/-- A value with few enough digits is not rounded. -/
lemma ctx_eq_self_of_zpow {n k : ℤ} {x : ℚ} (hx : x = n * 10 ^ k) (hn : |n| < 10 ^ 28) :
    ctx x = x := by
  have hten : (10 : ℚ) ≠ 0 := by norm_num
  have hpow : (10 : ℚ) ^ (Int.log 10 |x| - (precision - 1)) ≠ 0 := zpow_ne_zero _ hten
  rcases eq_or_ne x 0 with rfl | hx0
  · simp [ctx, halfEvenInt]
  obtain ⟨j, hj⟩ : ∃ j : ℕ, k - (Int.log 10 |x| - (precision - 1)) = j := by
    have hlt : |x| < ((10 : ℕ) : ℚ) ^ (28 + k) := by
      have hk : (0 : ℚ) < 10 ^ k := zpow_pos (by norm_num) k
      have hn' : ((|n| : ℤ) : ℚ) < 10 ^ 28 := by exact_mod_cast hn
      rw [hx, abs_mul, abs_of_pos hk, ← Int.cast_abs, Nat.cast_ofNat, zpow_add₀ hten]
      exact mul_lt_mul_of_pos_right (by exact_mod_cast hn') hk
    have hlog := (Int.lt_zpow_iff_log_lt (b := 10) (by norm_num) (abs_pos.mpr hx0)).mp hlt
    exact ⟨(k - (Int.log 10 |x| - (precision - 1))).toNat, by unfold precision at *; omega⟩
  have hint : x / 10 ^ (Int.log 10 |x| - (precision - 1)) = ((n * 10 ^ j : ℤ) : ℚ) := by
    rw [show x / 10 ^ (Int.log 10 |x| - (precision - 1))
        = n * (10 ^ k / 10 ^ (Int.log 10 |x| - (precision - 1))) by nth_rewrite 1 [hx]; ring,
      ← zpow_sub₀ hten, hj]
    push_cast
    rw [zpow_natCast]
  rw [ctx, hint, halfEvenInt_intCast, ← hint, div_mul_cancel₀ _ hpow]

lemma ctx_eq_self {n : ℤ} {s : ℕ} {x : ℚ} (hx : x * 10 ^ s = n) (hn : |n| < 10 ^ 28) :
    ctx x = x := by
  refine ctx_eq_self_of_zpow (k := -s) ?_ hn
  rw [← hx, zpow_neg, zpow_natCast, mul_assoc, mul_inv_cancel₀ (tenPow_pos s).ne', mul_one]

/-- A number of 28 digits is an integer of at most 28 digits, scaled. -/
lemma abs_halfEvenInt_scaled_le (x : ℚ) :
    |halfEvenInt (x / 10 ^ (Int.log 10 |x| - (precision - 1)))| ≤ 10 ^ 28 := by
  rcases eq_or_ne x 0 with rfl | hx0
  · simp [halfEvenInt]
  have hpow : (0 : ℚ) < 10 ^ (Int.log 10 |x| - (precision - 1)) := zpow_pos (by norm_num) _
  have hlt : |x / 10 ^ (Int.log 10 |x| - (precision - 1))| < 10 ^ 28 := by
    have := Int.lt_zpow_succ_log_self (b := 10) (by norm_num) |x|
    rw [abs_div, abs_of_pos hpow, div_lt_iff₀ hpow, ← zpow_natCast, ← zpow_add₀ (by norm_num)]
    refine this.trans_le (zpow_le_zpow_right₀ (by norm_num) ?_)
    unfold precision
    omega
  obtain ⟨hlo, hhi⟩ := abs_lt.mp hlt
  refine abs_le.mpr ⟨?_, ?_⟩
  · have := halfEvenInt_monotone (show ((-10 ^ 28 : ℤ) : ℚ) ≤ _ by push_cast; exact hlo.le)
    rwa [halfEvenInt_intCast] at this
  · have := halfEvenInt_monotone (show _ ≤ ((10 ^ 28 : ℤ) : ℚ) by push_cast; exact hhi.le)
    rwa [halfEvenInt_intCast] at this

/-- **Rounding twice is rounding once.** -/
@[simp] theorem ctx_ctx (x : ℚ) : ctx (ctx x) = ctx x := by
  rcases (abs_halfEvenInt_scaled_le x).lt_or_eq with hlt | heq
  · exact ctx_eq_self_of_zpow rfl hlt
  · -- the digits carried over: the value is a power of ten
    have hten : (10 : ℚ) ≠ 0 := by norm_num
    rcases abs_eq (by norm_num) |>.mp heq with h | h
    · refine ctx_eq_self_of_zpow (n := 1) (k := 28 + (Int.log 10 |x| - (precision - 1))) ?_
        (by norm_num)
      rw [ctx, h, zpow_add₀ hten]
      push_cast
      norm_num
    · refine ctx_eq_self_of_zpow (n := -1) (k := 28 + (Int.log 10 |x| - (precision - 1))) ?_
        (by norm_num)
      rw [ctx, h, zpow_add₀ hten]
      push_cast
      norm_num

lemma ctx_intCast {n : ℤ} (hn : |n| < 10 ^ 28) : ctx n = n := ctx_eq_self (s := 0) (by simp) hn

lemma ctx_zero : ctx 0 = 0 := by simp [ctx, halfEvenInt]

lemma intCast_tenPow_mul_zpow (k : ℕ) (z : ℤ) : ((10 ^ k : ℤ) : ℚ) * 10 ^ z = 10 ^ (k + z) := by
  rw [zpow_add₀ (by norm_num), zpow_natCast, Int.cast_pow, Int.cast_ofNat]

/-- The number of digits decides the power of ten that a value is at least. -/
lemma zpow_log_le_ctx {x : ℚ} (hx : 0 < x) : (10 : ℚ) ^ Int.log 10 x ≤ ctx x := by
  have hpow : (0 : ℚ) < 10 ^ (Int.log 10 x - (precision - 1)) := zpow_pos (by norm_num) _
  have hscale : ((10 ^ 27 : ℤ) : ℚ) * 10 ^ (Int.log 10 x - (precision - 1)) = 10 ^ Int.log 10 x := by
    rw [intCast_tenPow_mul_zpow]
    congr 1
    unfold precision
    norm_num
  have hlog : (10 : ℚ) ^ Int.log 10 x ≤ x := by
    exact_mod_cast Int.zpow_log_le_self (b := 10) (by norm_num) hx
  have hint : (10 ^ 27 : ℤ) ≤ halfEvenInt (x / 10 ^ (Int.log 10 x - (precision - 1))) := by
    rw [← halfEvenInt_intCast (10 ^ 27)]
    exact halfEvenInt_monotone ((le_div_iff₀ hpow).mpr (hscale.le.trans hlog))
  rw [ctx, abs_of_pos hx, ← hscale]
  exact mul_le_mul_of_nonneg_right (by exact_mod_cast hint) hpow.le

lemma ctx_le_zpow_log {x : ℚ} (hx : 0 < x) : ctx x ≤ (10 : ℚ) ^ (Int.log 10 x + 1) := by
  have hpow : (0 : ℚ) < 10 ^ (Int.log 10 x - (precision - 1)) := zpow_pos (by norm_num) _
  have hscale : ((10 ^ 28 : ℤ) : ℚ) * 10 ^ (Int.log 10 x - (precision - 1))
      = 10 ^ (Int.log 10 x + 1) := by
    rw [intCast_tenPow_mul_zpow]
    congr 1
    unfold precision
    push_cast
    ring
  have hint := (abs_le.mp (abs_halfEvenInt_scaled_le x)).2
  rw [abs_of_pos hx] at hint
  rw [ctx, abs_of_pos hx, ← hscale]
  exact mul_le_mul_of_nonneg_right (by exact_mod_cast hint) hpow.le

/-- **Arithmetic keeps the order** of values that are not negative. -/
theorem ctx_mono {x y : ℚ} (hx : 0 ≤ x) (h : x ≤ y) : ctx x ≤ ctx y := by
  rcases hx.eq_or_lt with rfl | hx
  · rcases h.eq_or_lt with rfl | hy
    · exact le_rfl
    · rw [ctx_zero]
      exact (zpow_pos (by norm_num) _).le.trans (zpow_log_le_ctx hy)
  have hy := hx.trans_le h
  rcases (Int.log_mono_right (b := 10) hx h).eq_or_lt with heq | hlt
  · rw [ctx, ctx, abs_of_pos hx, abs_of_pos hy, heq]
    have hpow : (0 : ℚ) < 10 ^ (Int.log 10 y - (precision - 1)) := zpow_pos (by norm_num) _
    refine mul_le_mul_of_nonneg_right ?_ hpow.le
    exact_mod_cast halfEvenInt_monotone (div_le_div_of_nonneg_right h hpow.le)
  · calc ctx x ≤ 10 ^ (Int.log 10 x + 1) := ctx_le_zpow_log hx
      _ ≤ 10 ^ Int.log 10 y := zpow_le_zpow_right₀ (by norm_num) hlt
      _ ≤ ctx y := zpow_log_le_ctx hy

lemma ctx_nonneg {x : ℚ} (hx : 0 ≤ x) : 0 ≤ ctx x := ctx_zero ▸ ctx_mono le_rfl hx

/-- Rounding to the context precision adds no places. -/
lemma OnGrid.ctx {s : ℕ} {x : ℚ} (h : OnGrid s x) : OnGrid s (ctx x) := by
  obtain ⟨n, hn⟩ := h
  rcases lt_or_ge |n| (10 ^ 28) with hlt | hge
  · rw [ctx_eq_self hn hlt]
    exact ⟨n, hn⟩
  · -- too many digits: the last kept one is not after place `s`
    have hlog : 28 - (s : ℤ) ≤ Int.log 10 |x| := by
      have hx0 : x ≠ 0 := fun h0 => by
        rw [h0, zero_mul] at hn
        have : n = 0 := by exact_mod_cast hn.symm
        rw [this] at hge
        norm_num at hge
      refine (Int.zpow_le_iff_le_log (by norm_num) (abs_pos.mpr hx0)).mp ?_
      have habs : |x| * 10 ^ s = ((|n| : ℤ) : ℚ) := by
        rw [← abs_of_pos (tenPow_pos s), ← abs_mul, hn, Int.cast_abs]
      push_cast
      rw [zpow_sub₀ (by norm_num), zpow_natCast, div_le_iff₀ (tenPow_pos s), habs]
      exact_mod_cast hge
    obtain ⟨k, hk⟩ : ∃ k : ℕ, Int.log 10 |x| - (precision - 1) + s = k :=
      ⟨(Int.log 10 |x| - (precision - 1) + s).toNat, by unfold precision; omega⟩
    refine ⟨halfEvenInt (x / 10 ^ (Int.log 10 |x| - (precision - 1))) * 10 ^ k, ?_⟩
    rw [Decimal.ctx, mul_assoc, ← zpow_natCast (10 : ℚ) s, ← zpow_add₀ (by norm_num), hk]
    push_cast
    rw [zpow_natCast]

lemma ctx_pos {x : ℚ} (hx : 0 < x) : 0 < ctx x :=
  (zpow_pos (by norm_num) _).trans_le (zpow_log_le_ctx hx)

/-- The column value of a number of 28 digits has at most 28 digits. -/
lemma ctx_quantize_ctx (r : Rounding) (s : ℕ) (x : ℚ) :
    ctx (quantize r s (ctx x)) = quantize r s (ctx x) := by
  by_cases hgrid : OnGrid s (ctx x)
  · rw [quantize_of_onGrid hgrid, ctx_ctx]
  -- places are cut off, so that fewer digits than 28 stay
  have hexp : Int.log 10 |x| - (precision - 1) + s < 0 := by
    by_contra! hge
    obtain ⟨k, hk⟩ := Int.eq_ofNat_of_zero_le hge
    refine hgrid ⟨halfEvenInt (x / 10 ^ (Int.log 10 |x| - (precision - 1))) * 10 ^ k, ?_⟩
    rw [ctx, mul_assoc, ← zpow_natCast (10 : ℚ) s, ← zpow_add₀ (by norm_num), hk]
    push_cast
    rw [zpow_natCast]
  have hsmall : |ctx x * 10 ^ s| ≤ 10 ^ 27 := by
    have hint : ((|halfEvenInt (x / 10 ^ (Int.log 10 |x| - (precision - 1)))| : ℤ) : ℚ) ≤ 10 ^ 28 := by
      exact_mod_cast abs_halfEvenInt_scaled_le x
    have hpow : (10 : ℚ) ^ (Int.log 10 |x| - (precision - 1) + s) ≤ 10 ^ (-1 : ℤ) :=
      zpow_le_zpow_right₀ (by norm_num) (by omega)
    have hpos : (0 : ℚ) < 10 ^ (Int.log 10 |x| - (precision - 1) + s) := zpow_pos (by norm_num) _
    rw [ctx, mul_assoc, ← zpow_natCast (10 : ℚ) s, ← zpow_add₀ (by norm_num), abs_mul,
      abs_of_pos hpos, ← Int.cast_abs]
    calc _ ≤ (10 : ℚ) ^ 28 * 10 ^ (-1 : ℤ) := mul_le_mul hint hpow hpos.le (by positivity)
      _ = 10 ^ 27 := by norm_num
  refine ctx_eq_self quantize_mul_tenPow ?_
  have hnear := abs_le.mp (r.nearest (ctx x * 10 ^ s))
  have hbound := abs_le.mp hsmall
  have hlo : (-(10 ^ 28) : ℚ) < r.toInt (ctx x * 10 ^ s) := by linarith
  have hhi : (r.toInt (ctx x * 10 ^ s) : ℚ) < 10 ^ 28 := by linarith
  exact abs_lt.mpr ⟨by exact_mod_cast hlo, by exact_mod_cast hhi⟩

/-- A small enough amount disappears in a sum of 28 digits. -/
lemma exists_ctx_add_eq {x : ℚ} (hx : 0 < x) (h : ctx x = x) : ∃ a, 0 < a ∧ ctx (x + a) = x := by
  obtain ⟨e, he⟩ : ∃ e, e = Int.log 10 x - (precision - 1) := ⟨_, rfl⟩
  obtain ⟨n, hn⟩ : ∃ n : ℤ, x = n * 10 ^ e := by
    rw [ctx, abs_of_pos hx, ← he] at h
    exact ⟨_, h.symm⟩
  have hpow : (0 : ℚ) < 10 ^ e := zpow_pos (by norm_num) e
  have hlog : (10 : ℚ) ^ Int.log 10 x ≤ x := by
    exact_mod_cast Int.zpow_log_le_self (b := 10) (by norm_num) hx
  -- the next number of 28 digits is still below the next power of ten
  have hlt : x + 10 ^ e ≤ (10 : ℚ) ^ (Int.log 10 x + 1) := by
    have hscale : (10 : ℚ) ^ (Int.log 10 x + 1) = ((10 ^ 28 : ℤ) : ℚ) * 10 ^ e := by
      rw [intCast_tenPow_mul_zpow, he]
      congr 1
      unfold precision
      push_cast
      ring
    have hx' : x < (10 : ℚ) ^ (Int.log 10 x + 1) := by
      exact_mod_cast Int.lt_zpow_succ_log_self (b := 10) (by norm_num) x
    rw [hscale] at hx' ⊢
    nth_rewrite 1 [hn] at hx'
    have hlt : n < 10 ^ 28 := by exact_mod_cast lt_of_mul_lt_mul_right hx' hpow.le
    have hle : ((n + 1 : ℤ) : ℚ) ≤ ((10 ^ 28 : ℤ) : ℚ) := by exact_mod_cast hlt
    calc x + 10 ^ e = ((n + 1 : ℤ) : ℚ) * 10 ^ e := by rw [hn]; push_cast; ring
      _ ≤ _ := mul_le_mul_of_nonneg_right hle hpow.le
  have hquarter : (0 : ℚ) < 10 ^ e / 4 := by positivity
  refine ⟨10 ^ e / 4, hquarter, ?_⟩
  have hsame : Int.log 10 (x + 10 ^ e / 4) = Int.log 10 x := by
    refine le_antisymm ?_ (Int.log_mono_right hx (by linarith))
    refine Int.lt_add_one_iff.mp ((Int.lt_zpow_iff_log_lt (by norm_num) (by linarith)).mp ?_)
    push_cast
    linarith
  have hint : halfEvenInt ((x + 10 ^ e / 4) / 10 ^ e) = n := by
    have hdiv : (x + 10 ^ e / 4) / 10 ^ e = n + 1 / 4 := by
      rw [hn]
      field_simp
    have hfloor : ⌊(n + 1 / 4 : ℚ)⌋ = n := Int.floor_eq_iff.mpr ⟨by linarith, by linarith⟩
    rw [hdiv, halfEvenInt, hfloor, if_pos (by norm_num)]
  rw [ctx, abs_of_pos (by linarith), hsame, ← he, hint, ← hn]

/-- Rounding to the context precision moves a value by little of itself. -/
lemma abs_ctx_sub_le (x : ℚ) : |ctx x - x| ≤ |x| / 10 ^ 27 := by
  rcases eq_or_ne x 0 with rfl | hx
  · simp [ctx, halfEvenInt]
  obtain ⟨e, he⟩ : ∃ e, e = Int.log 10 |x| - (precision - 1) := ⟨_, rfl⟩
  have hpow : (0 : ℚ) < 10 ^ e := zpow_pos (by norm_num) e
  have hlog : (10 : ℚ) ^ Int.log 10 |x| ≤ |x| := by
    exact_mod_cast Int.zpow_log_le_self (b := 10) (by norm_num) (abs_pos.mpr hx)
  have hstep : (10 : ℚ) ^ e * 10 ^ 27 = 10 ^ Int.log 10 |x| := by
    rw [← zpow_natCast (10 : ℚ) 27, ← zpow_add₀ (by norm_num), he]
    congr 1
    unfold precision
    norm_num
  have herror : ctx x - x = (halfEvenInt (x / 10 ^ e) - x / 10 ^ e) * 10 ^ e := by
    rw [ctx, ← he, sub_mul, div_mul_cancel₀ _ hpow.ne']
  rw [herror, abs_mul, abs_of_pos hpow, le_div_iff₀ (by norm_num)]
  calc _ ≤ 1 / 2 * (10 : ℚ) ^ e * 10 ^ 27 := by
        gcongr
        exact halfEvenInt_nearest _
    _ = 1 / 2 * (10 : ℚ) ^ Int.log 10 |x| := by rw [mul_assoc, hstep]
    _ ≤ |x| := by linarith

/-- A value of few enough places is not rounded. -/
lemma ctx_of_onGrid {s : ℕ} {x : ℚ} (h : OnGrid s x) (hlt : |x| * 10 ^ s < 10 ^ 28) : ctx x = x := by
  obtain ⟨n, hn⟩ := h
  refine ctx_eq_self hn ?_
  have habs : ((|n| : ℤ) : ℚ) = |x| * 10 ^ s := by
    rw [Int.cast_abs, ← hn, abs_mul, abs_of_pos (tenPow_pos s)]
  rw [← habs] at hlt
  exact_mod_cast hlt

lemma ctx_nonpos {x : ℚ} (h : x ≤ 0) : ctx x ≤ 0 := by
  have hclose := (abs_le.mp (abs_ctx_sub_le x)).2
  rw [abs_of_nonpos h] at hclose
  linarith

/-- A difference of a number of 28 digits and a smaller one of few places is not rounded. -/
lemma ctx_sub_eq {s : ℕ} {x y : ℚ} (hx : ctx x = x) (hy : OnGrid s y) (h0 : 0 ≤ y) (hle : y ≤ x)
    (hlt : x < 10 ^ (28 - s : ℤ)) : ctx (x - y) = x - y := by
  rcases h0.eq_or_lt with rfl | hpos
  · rw [sub_zero, hx]
  have hx0 : 0 < x := hpos.trans_le hle
  obtain ⟨m, hm⟩ := hy
  obtain ⟨e, he⟩ : ∃ e, e = Int.log 10 x - (precision - 1) := ⟨_, rfl⟩
  have hlog : Int.log 10 x < 28 - s := by
    refine (Int.lt_zpow_iff_log_lt (by norm_num) hx0).mp ?_
    exact_mod_cast hlt
  obtain ⟨k, hk⟩ : ∃ k : ℕ, -(e + s) = k := ⟨(-(e + s)).toNat, by unfold precision at he; omega⟩
  obtain ⟨n, hn⟩ : ∃ n : ℤ, x = n * 10 ^ e ∧ |n| ≤ 10 ^ 28 := by
    refine ⟨_, ?_, abs_halfEvenInt_scaled_le x⟩
    rw [ctx, abs_of_pos hx0] at hx
    rw [he, abs_of_pos hx0]
    exact hx.symm
  have hpow : (0 : ℚ) < 10 ^ e := zpow_pos (by norm_num) e
  have hscale : y = ((m * 10 ^ k : ℤ) : ℚ) * 10 ^ e := by
    have hkz : (10 : ℚ) ^ k = 10 ^ (-(e + s)) := by rw [← zpow_natCast, hk]
    rw [eq_comm, Int.cast_mul, Int.cast_pow, Int.cast_ofNat, ← hm, hkz, mul_assoc, mul_assoc,
      ← zpow_natCast, ← zpow_add₀ (by norm_num), ← zpow_add₀ (by norm_num)]
    norm_num
  have hbelow : m * 10 ^ k ≤ n := by
    have hle' := hle
    rw [hscale, hn.1] at hle'
    exact_mod_cast le_of_mul_le_mul_right hle' hpow
  have hmpos : 0 < m * 10 ^ k := by
    rw [hscale] at hpos
    exact_mod_cast (mul_pos_iff_of_pos_right hpow).mp hpos
  refine ctx_eq_self_of_zpow (n := n - m * 10 ^ k) (k := e) ?_ ?_
  · rw [Int.cast_sub, sub_mul, ← hn.1, ← hscale]
  · have hbound := (abs_le.mp hn.2).2
    exact abs_lt.mpr ⟨by omega, by omega⟩

/-- Rounding half up is not moved by a smaller number on the grid. -/
lemma quantize_halfUp_sub {s : ℕ} {x y : ℚ} (hy : OnGrid s y) (h0 : 0 ≤ y) (hle : y ≤ x) :
    quantize halfUp s (x - y) = quantize halfUp s x - y := by
  obtain ⟨m, hm⟩ := hy
  have hten := tenPow_pos s
  have hx : 0 ≤ x * 10 ^ s := mul_nonneg (h0.trans hle) hten.le
  have hxy : 0 ≤ (x - y) * 10 ^ s := mul_nonneg (sub_nonneg.mpr hle) hten.le
  have hshift : (x - y) * 10 ^ s + 1 / 2 = x * 10 ^ s + 1 / 2 - m := by
    rw [sub_mul, hm]
    ring
  have hfloor : halfUp.toInt ((x - y) * 10 ^ s) = halfUp.toInt (x * 10 ^ s) - m := by
    show halfUpInt _ = halfUpInt _ - m
    rw [halfUpInt, halfUpInt, if_pos hxy, if_pos hx, hshift, Int.floor_sub_intCast]
  rw [quantize, quantize, hfloor, Int.cast_sub, sub_div, ← hm, mul_div_cancel_right₀ _ hten.ne']

def add (x y : ℚ) : ℚ := ctx (x + y)

def sub (x y : ℚ) : ℚ := ctx (x - y)

def mul (x y : ℚ) : ℚ := ctx (x * y)

def div (x y : ℚ) : ℚ := ctx (x / y)

/-- A value of a `NUMERIC(_, s)` column: it has at most `s` places. -/
@[ext] structure Numeric (s : ℕ) where
  value : ℚ
  onGrid : OnGrid s value
deriving DecidableEq

namespace Numeric

variable {s : ℕ}

instance : CoeOut (Numeric s) ℚ := ⟨value⟩

/-- Store a value in a column: ties are rounded away from zero. -/
def store (s : ℕ) (x : ℚ) : Numeric s := ⟨quantize halfUp s x, onGrid_quantize⟩

@[simp] lemma value_store (x : ℚ) : (store s x).value = quantize halfUp s x := rfl

/-- A value comes back from a column as it was exactly when it has few enough places. -/
lemma store_eq_iff {x : ℚ} : (store s x).value = x ↔ OnGrid s x := quantize_eq_self_iff

@[simp] lemma store_value (x : Numeric s) : store s x.value = x :=
  Numeric.ext (store_eq_iff.mpr x.onGrid)

end Numeric

end Decimal
