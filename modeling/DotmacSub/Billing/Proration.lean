import DotmacSub.Billing.Common
import Mathlib.Algebra.Order.BigOperators.Group.List

/-!
# Prorated funding

A partially refunded payment funds an invoice by the share that was kept.  `_common.py` adds these
shares up in decimals of 28 digits; the bulk query of `account_credit.py` leaves it to the database,
whose division keeps other digits.
-/

namespace DotmacSub

open Store Decimal Payments

namespace AccountCredit

/-- Division of `NUMERIC` values of four places by values of two: it keeps at least sixteen digits
and at least the places of its operands. -/
structure NumericDivision where
  div : ℚ → ℚ → ℚ
  close : ∀ x y, |div x y - x / y| ≤ |x / y| / 10 ^ 15
  exact : ∀ x y, OnGrid 4 (x / y) → div x y = x / y

/-- The digits of `NUMERIC` values are grouped by four: the place of the first group. -/
def weight (x : ℚ) : ℤ := Int.log 10000 |x|

def firstDigit (x : ℚ) : ℤ := ⌊|x| / 10000 ^ weight x⌋

/-- The estimated place of the first group of a quotient. -/
def quotientWeight (x y : ℚ) : ℤ :=
  weight x - weight y - if firstDigit x ≤ firstDigit y then 1 else 0

/-- The places of a quotient: sixteen digits from the estimated place on, and no fewer places than
the operands. -/
def resultScale (x y : ℚ) : ℕ := max 4 (16 - 4 * quotientWeight x y).toNat

lemma pow_quotientWeight_le {x y : ℚ} (hx : x ≠ 0) (hy : y ≠ 0) :
    (10000 : ℚ) ^ quotientWeight x y ≤ |x / y| := by
  have hx' : 0 < |x| := abs_pos.mpr hx
  have hy' : 0 < |y| := abs_pos.mpr hy
  have hbase : (0 : ℚ) < 10000 := by norm_num
  have hxw : (0 : ℚ) < 10000 ^ weight x := zpow_pos hbase _
  have hyw : (0 : ℚ) < 10000 ^ weight y := zpow_pos hbase _
  have hlo : (10000 : ℚ) ^ weight x ≤ |x| := by
    exact_mod_cast Int.zpow_log_le_self (b := 10000) (by norm_num) hx'
  have hhi : |y| < (10000 : ℚ) ^ (weight y + 1) := by
    exact_mod_cast Int.lt_zpow_succ_log_self (b := 10000) (by norm_num) |y|
  rw [abs_div, le_div_iff₀ hy', quotientWeight]
  split_ifs with hdigit
  · have hquotient : (0 : ℚ) < 10000 ^ (weight x - weight y - 1) := zpow_pos hbase _
    calc (10000 : ℚ) ^ (weight x - weight y - 1) * |y|
        ≤ 10000 ^ (weight x - weight y - 1) * 10000 ^ (weight y + 1) := by gcongr
      _ = 10000 ^ weight x := by
          rw [← zpow_add₀ hbase.ne']
          congr 1
          ring
      _ ≤ |x| := hlo
  · -- the first group of the numerator is at least one more
    have hfirst : ((firstDigit y : ℤ) : ℚ) + 1 ≤ firstDigit x := by exact_mod_cast not_le.mp hdigit
    have hxd : (firstDigit x : ℚ) ≤ |x| / 10000 ^ weight x := Int.floor_le _
    have hyd : |y| / 10000 ^ weight y < firstDigit y + 1 := Int.lt_floor_add_one _
    have hle : |y| / 10000 ^ weight y ≤ |x| / 10000 ^ weight x := by linarith
    rw [div_le_div_iff₀ hyw hxw] at hle
    rw [sub_zero, zpow_sub₀ hbase.ne', div_mul_eq_mul_div, div_le_iff₀ hyw]
    linarith

/-- The division of the database, at its result scale. -/
def postgresDivision : NumericDivision where
  div x y := quantize halfUp (resultScale x y) (x / y)
  close x y := by
    rcases eq_or_ne x 0 with rfl | hx
    · simp
    rcases eq_or_ne y 0 with rfl | hy
    · simp
    have hplaces : (1 : ℚ) / 10 ^ resultScale x y ≤ |x / y| / 10 ^ 15 := by
      have hweight := pow_quotientWeight_le hx hy
      have hscale : 16 - 4 * quotientWeight x y ≤ (resultScale x y : ℤ) := by
        have := Int.self_le_toNat (16 - 4 * quotientWeight x y)
        rw [resultScale]
        push_cast
        exact this.trans (le_max_right _ _)
      have hten : (10 : ℚ) ^ (16 - 4 * quotientWeight x y) ≤ 10 ^ resultScale x y := by
        rw [← zpow_natCast]
        exact zpow_le_zpow_right₀ (by norm_num) hscale
      have hsplit : (10 : ℚ) ^ (16 - 4 * quotientWeight x y)
          = 10 ^ 16 / 10000 ^ quotientWeight x y := by
        rw [zpow_sub₀ (by norm_num), zpow_mul]
        norm_num
      have hpos : (0 : ℚ) < 10000 ^ quotientWeight x y := zpow_pos (by norm_num) _
      calc (1 : ℚ) / 10 ^ resultScale x y
          ≤ 1 / (10 ^ 16 / 10000 ^ quotientWeight x y) := by
            rw [← hsplit]
            exact one_div_le_one_div_of_le (zpow_pos (by norm_num) _) hten
        _ = 10000 ^ quotientWeight x y / 10 ^ 16 := one_div_div _ _
        _ ≤ |x / y| / 10 ^ 15 := by linarith [abs_nonneg (x / y)]
    have hnear := halfUp.nearest (x / y * 10 ^ resultScale x y)
    have hpos : (0 : ℚ) < 10 ^ resultScale x y := tenPow_pos _
    rw [quantize, div_sub' hpos.ne', abs_div, abs_of_pos hpos]
    refine le_trans ?_ hplaces
    refine div_le_div_of_nonneg_right ?_ hpos.le
    rw [mul_comm (10 ^ resultScale x y)]
    linarith
  exact x y h := quantize_of_onGrid (h.mono (le_max_left _ _))

/-- What an allocation still contributes, by the arithmetic of the database. -/
def effectivePaymentAmount (division : NumericDivision) (row : PaymentAllocation × Payment) : ℚ :=
  let payment := row.2
  if payment.status = .succeeded then row.1.amount.value
  else if payment.status = .partiallyRefunded ∧ 0 < payment.amount.value then
    division.div (row.1.amount.value * (payment.amount.value - payment.refundedAmount.value))
      payment.amount.value
  else 0

/-- The funding of an invoice, by the arithmetic of the database. -/
def fundedTotal (division : NumericDivision) (db : BillingTables) (invoice : Invoice) : ℚ :=
  let paymentsApplied := quantize halfUp 2
    ((settledAllocations db invoice.id).map (effectivePaymentAmount division)).sum
  let creditsApplied := quantize halfUp 2 (invoice.creditNoteApplications.map (·.value)).sum
  let openingFundingApplied :=
    quantize halfUp 2 (invoice.openingFundingConsumptions.map (·.value)).sum
  quantize halfUp 2 (paymentsApplied + creditsApplied + openingFundingApplied)

/-- What an allocation still contributes, before any rounding. -/
def exactShare (row : PaymentAllocation × Payment) : ℚ :=
  let gross := row.2.amount.value
  if row.2.status ≠ .partiallyRefunded then row.1.amount.value
  else if gross ≤ 0 then 0
  else row.1.amount.value * (gross - row.2.refundedAmount.value) / gross

def neededFromPayments (invoice : Invoice) : ℚ :=
  invoice.total.value - (invoice.creditNoteApplications.map (·.value)).sum
    - (invoice.openingFundingConsumptions.map (·.value)).sum

/-- The shares of the payments of an invoice are short decimals, or their sum is not within a
relative `10 ^ -12` of the half cent at which the verdict on the invoice turns. -/
def Resolvable (db : BillingTables) (invoice : Invoice) : Prop :=
  let rows := settledAllocations db invoice.id
  rows.length ≤ 10 ^ 12 ∧
    ((∀ row ∈ rows, OnGrid 4 (exactShare row) ∧ |exactShare row| < 10 ^ 11) ∨
      (rows.map fun row => |exactShare row|).sum / 10 ^ 12
        < |(rows.map exactShare).sum - (neededFromPayments invoice - 1 / 200)|)

instance (db : BillingTables) (invoice : Invoice) : Decidable (Resolvable db invoice) :=
  inferInstanceAs (Decidable (_ ∧ (_ ∨ _)))

variable {division : NumericDivision} {db : BillingTables} {invoice : Invoice}
  {row : PaymentAllocation × Payment} {rows : List (PaymentAllocation × Payment)} {acc : ℚ}

lemma status_of_mem_settledAllocations {i : ℕ} (h : row ∈ settledAllocations db i) :
    row.2.status = .succeeded ∨ row.2.status = .partiallyRefunded := by
  obtain ⟨a, -, ha⟩ := List.mem_filterMap.mp h
  split_ifs at ha with hactive
  obtain ⟨p, -, hp⟩ := Option.bind_eq_some_iff.mp ha
  split_ifs at hp with hsettled
  cases hp
  exact hsettled.2

variable (acc row) in
/-- One loop step is off by little of what it adds up. -/
lemma abs_addPaid_sub_le :
    |addPaid acc row - (acc + exactShare row)| ≤ (|acc| + 5 * |exactShare row|) / 10 ^ 27 := by
  obtain ⟨s, hs⟩ : ∃ s, s = exactShare row := ⟨_, rfl⟩
  rw [← hs]
  simp only [exactShare] at hs
  rw [addPaid]
  split_ifs at hs ⊢ with hfull hgross
  · rw [← hs, Decimal.add]
    have herror := abs_ctx_sub_le (acc + s)
    have hsum := abs_add_le acc s
    linarith [abs_nonneg s]
  · rw [hs]
    simp only [add_zero, sub_self, abs_zero, mul_zero]
    positivity
  · have hpos : 0 < row.2.amount.value := not_le.mp hgross
    obtain ⟨p, hp⟩ : ∃ p, p = row.1.amount.value * (row.2.amount.value
      - row.2.refundedAmount.value) := ⟨_, rfl⟩
    rw [Decimal.add, Decimal.div, Decimal.mul, ← hp]
    rw [← hp] at hs
    -- the numerator, the quotient and the sum are rounded in turn
    have hnumerator : |ctx p / row.2.amount.value - s| ≤ |s| / 10 ^ 27 := by
      rw [hs, ← sub_div, abs_div, abs_div, abs_of_pos hpos, div_right_comm]
      exact div_le_div_of_nonneg_right (abs_ctx_sub_le p) hpos.le
    have hquotient := abs_ctx_sub_le (ctx p / row.2.amount.value)
    have hsum := abs_ctx_sub_le (acc + ctx (ctx p / row.2.amount.value))
    have hs0 := abs_nonneg s
    obtain ⟨x, hx⟩ : ∃ x, x = ctx p / row.2.amount.value := ⟨_, rfl⟩
    rw [← hx] at hnumerator hquotient hsum ⊢
    have hx1 : |x| ≤ |s| + |x - s| := by
      simpa using abs_add_le s (x - s)
    have hq1 : |ctx x| ≤ |x| + |ctx x - x| := by
      simpa using abs_add_le x (ctx x - x)
    have hacc := abs_add_le acc (ctx x)
    have hsplit : ctx (acc + ctx x) - (acc + s)
        = (ctx (acc + ctx x) - (acc + ctx x)) + ((ctx x - x) + (x - s)) := by ring
    rw [hsplit]
    have h1 := abs_add_le (ctx (acc + ctx x) - (acc + ctx x)) ((ctx x - x) + (x - s))
    have h2 := abs_add_le (ctx x - x) (x - s)
    linarith

variable (acc) in
/-- The loop is off by little of what it adds up. -/
lemma abs_foldl_addPaid_sub_le (hlen : rows.length ≤ 10 ^ 12) :
    |rows.foldl addPaid acc - (acc + (rows.map exactShare).sum)|
      ≤ 6 * rows.length / 10 ^ 27 * (|acc| + (rows.map fun row => |exactShare row|).sum) := by
  induction rows generalizing acc with
  | nil => simp
  | cons row rows ih =>
    have hlen' : rows.length ≤ 10 ^ 12 := (Nat.le_succ _).trans hlen
    have hstep := abs_addPaid_sub_le row acc
    have hrest := ih (addPaid acc row) hlen'
    have hk : (rows.length : ℚ) ≤ 10 ^ 12 := by exact_mod_cast hlen'
    have hk0 : (0 : ℚ) ≤ rows.length := Nat.cast_nonneg _
    obtain ⟨s, hs⟩ : ∃ s, s = exactShare row := ⟨_, rfl⟩
    obtain ⟨b, hb⟩ : ∃ b, b = (rows.map fun row => |exactShare row|).sum := ⟨_, rfl⟩
    have hb0 : 0 ≤ b := hb ▸ List.sum_nonneg fun x hx => by
      obtain ⟨row, -, rfl⟩ := List.mem_map.mp hx
      exact abs_nonneg _
    simp only [List.foldl_cons, List.map_cons, List.sum_cons, List.length_cons, Nat.cast_add,
      Nat.cast_one, ← hs, ← hb] at hstep hrest ⊢
    obtain ⟨k, hkk⟩ : ∃ k : ℚ, k = rows.length := ⟨_, rfl⟩
    rw [← hkk] at hrest hk hk0 ⊢
    have hnew : |addPaid acc row| ≤ |acc| + |s| + (|acc| + 5 * |s|) / 10 ^ 27 := by
      have h1 := abs_add_le (acc + s) (addPaid acc row - (acc + s))
      have h2 := abs_add_le acc s
      rw [add_sub_cancel] at h1
      linarith
    have hsplit : rows.foldl addPaid (addPaid acc row) - (acc + (s + (rows.map exactShare).sum))
        = (rows.foldl addPaid (addPaid acc row)
            - (addPaid acc row + (rows.map exactShare).sum))
          + (addPaid acc row - (acc + s)) := by ring
    rw [hsplit]
    refine (abs_add_le _ _).trans ((add_le_add hrest hstep).trans ?_)
    have ha0 := abs_nonneg acc
    have hs0 := abs_nonneg s
    calc 6 * k / 10 ^ 27 * (|addPaid acc row| + b) + (|acc| + 5 * |s|) / 10 ^ 27
        ≤ 6 * k / 10 ^ 27 * (|acc| + |s| + (|acc| + 5 * |s|) / 10 ^ 27 + b)
          + (|acc| + 5 * |s|) / 10 ^ 27 := by gcongr
      _ = 6 * k / 10 ^ 27 * (|acc| + (|s| + b))
          + (1 + 6 * k / 10 ^ 27) * ((|acc| + 5 * |s|) / 10 ^ 27) := by ring
      _ ≤ 6 * k / 10 ^ 27 * (|acc| + (|s| + b))
          + (1 + 6 * 10 ^ 12 / 10 ^ 27) * (5 * (|acc| + (|s| + b)) / 10 ^ 27) := by
            gcongr
            linarith
      _ ≤ 6 * (k + 1) / 10 ^ 27 * (|acc| + (|s| + b)) := by
            have hsum : 0 ≤ |acc| + (|s| + b) := by positivity
            norm_num
            linarith

/-- Short decimals are added up without rounding. -/
lemma addPaid_of_onGrid (bound : ℚ) (hacc : OnGrid 4 acc) (hbound : |acc| + 10 ^ 11 ≤ bound)
    (hsmall : bound ≤ 10 ^ 24) (hgrid : OnGrid 4 (exactShare row))
    (hshare : |exactShare row| < 10 ^ 11) : addPaid acc row = acc + exactShare row := by
  -- a short decimal below `10 ^ 24` has at most 28 digits
  have hexact : ∀ x, OnGrid 4 x → |x| < 10 ^ 24 → ctx x = x := by
    rintro x ⟨n, hn⟩ hx
    refine ctx_eq_self hn ?_
    have habs : ((|n| : ℤ) : ℚ) = |x| * 10 ^ 4 := by
      rw [Int.cast_abs, ← hn, abs_mul, abs_of_pos (tenPow_pos 4)]
    have hlt : ((|n| : ℤ) : ℚ) < 10 ^ 28 := by
      rw [habs]
      linarith
    exact_mod_cast hlt
  have hsum : ctx (acc + exactShare row) = acc + exactShare row :=
    hexact _ (hacc.add hgrid) (by linarith [abs_add_le acc (exactShare row)])
  have hs : |exactShare row| < 10 ^ 24 := hshare.trans (by norm_num)
  rw [addPaid]
  simp only [exactShare] at hgrid hshare hsum hs ⊢
  split_ifs at hgrid hshare hsum hs ⊢ with hfull hgross
  · exact hsum
  · rw [add_zero]
  · have hpos : 0 < row.2.amount.value := not_le.mp hgross
    obtain ⟨p, hp⟩ : ∃ p, p = row.1.amount.value * (row.2.amount.value
      - row.2.refundedAmount.value) := ⟨_, rfl⟩
    rw [Decimal.add, Decimal.div, Decimal.mul, ← hp]
    rw [← hp] at hgrid hshare hsum hs
    have hnumerator : ctx p = p := by
      refine hexact p ?_ ?_
      · obtain ⟨m, hm⟩ := row.1.amount.onGrid
        obtain ⟨n, hn⟩ := row.2.amount.onGrid.sub row.2.refundedAmount.onGrid
        refine ⟨m * n, ?_⟩
        rw [hp]
        push_cast
        rw [← hm, ← hn]
        ring
      · have hp' : p = p / row.2.amount.value * row.2.amount.value := by
          rw [div_mul_cancel₀ _ hpos.ne']
        rw [hp', abs_mul, abs_of_pos hpos]
        calc |p / row.2.amount.value| * row.2.amount.value
            ≤ 10 ^ 11 * row.2.amount.value := mul_le_mul_of_nonneg_right hshare.le hpos.le
          _ < 10 ^ 11 * 10 ^ 10 := mul_lt_mul_of_pos_left row.2.amount_lt (by norm_num)
          _ < 10 ^ 24 := by norm_num
    rw [hnumerator, hexact _ hgrid hs, hsum]

lemma foldl_addPaid_of_onGrid {k : ℕ} (hacc : OnGrid 4 acc) (hbound : |acc| ≤ k * 10 ^ 11)
    (hlen : k + rows.length ≤ 10 ^ 12)
    (hrows : ∀ row ∈ rows, OnGrid 4 (exactShare row) ∧ |exactShare row| < 10 ^ 11) :
    rows.foldl addPaid acc = acc + (rows.map exactShare).sum := by
  induction rows generalizing acc k with
  | nil => simp
  | cons row rows ih =>
    obtain ⟨hgrid, hshare⟩ := hrows row List.mem_cons_self
    rw [List.length_cons] at hlen
    have hk : (k : ℚ) + 1 ≤ 10 ^ 12 := by
      exact_mod_cast (show k + 1 ≤ 10 ^ 12 by omega)
    have hstep := addPaid_of_onGrid ((k + 1) * 10 ^ 11) hacc (by linarith)
      (by linarith) hgrid hshare
    rw [List.foldl_cons, hstep, List.map_cons, List.sum_cons, ← add_assoc]
    refine ih (k := k + 1) (hacc.add hgrid) ?_ (by omega)
      fun r hr => hrows r (List.mem_cons_of_mem _ hr)
    push_cast
    linarith [abs_add_le acc (exactShare row)]

/-! What the database contributes. -/

variable (division) in
lemma abs_effectivePaymentAmount_sub_le
    (h : row.2.status = .succeeded ∨ row.2.status = .partiallyRefunded) :
    |effectivePaymentAmount division row - exactShare row| ≤ |exactShare row| / 10 ^ 15 := by
  have hzero : |(0 : ℚ)| ≤ |exactShare row| / 10 ^ 15 := by
    rw [abs_zero]
    positivity
  simp only [effectivePaymentAmount, exactShare] at hzero ⊢
  rcases h with h | h
  · simp only [h, ne_eq, reduceCtorEq, not_false_eq_true, if_true, sub_self, abs_zero]
    positivity
  · simp only [h, ne_eq, not_true_eq_false, if_false, reduceCtorEq, true_and]
    split_ifs with hpos hneg hneg
    · exact absurd hpos (not_lt.mpr hneg)
    · exact division.close _ _
    · simp
    · exact absurd (not_le.mp hneg) hpos

lemma effectivePaymentAmount_of_onGrid
    (h : row.2.status = .succeeded ∨ row.2.status = .partiallyRefunded)
    (hgrid : OnGrid 4 (exactShare row)) :
    effectivePaymentAmount division row = exactShare row := by
  simp only [effectivePaymentAmount, exactShare] at hgrid ⊢
  rcases h with h | h
  · simp [h]
  · simp only [h, ne_eq, not_true_eq_false, if_false, reduceCtorEq, true_and] at hgrid ⊢
    split_ifs at hgrid ⊢ with hpos hneg hneg
    · exact absurd hpos (not_lt.mpr hneg)
    · exact division.exact _ _ hgrid
    · rfl
    · exact absurd (not_le.mp hneg) hpos

variable (division) in
lemma abs_sum_effectivePaymentAmount_sub_le
    (h : ∀ row ∈ rows, row.2.status = .succeeded ∨ row.2.status = .partiallyRefunded) :
    |(rows.map (effectivePaymentAmount division)).sum - (rows.map exactShare).sum|
      ≤ (rows.map fun row => |exactShare row|).sum / 10 ^ 15 := by
  induction rows with
  | nil => simp
  | cons row rows ih =>
    have hrow := abs_effectivePaymentAmount_sub_le division
      (h row List.mem_cons_self)
    have hrest := ih fun r hr => h r (List.mem_cons_of_mem _ hr)
    simp only [List.map_cons, List.sum_cons]
    rw [add_sub_add_comm]
    linarith [abs_add_le (effectivePaymentAmount division row - exactShare row)
      ((rows.map (effectivePaymentAmount division)).sum - (rows.map exactShare).sum)]

/-! The verdict. -/

/-- Below a half cent before a money amount, rounding stays below the amount; above it, it does
not. -/
lemma roundMoney_lt_iff {x amount : ℚ} (hgrid : OnGrid 2 amount) (hne : x ≠ amount - 1 / 200) :
    roundMoney x < amount ↔ x < amount - 1 / 200 := by
  have hnear : |roundMoney x - x| ≤ 1 / 200 := by
    have := halfUp.nearest (x * 10 ^ 2)
    rw [roundMoney, quantize]
    have hscale : ((halfUp.toInt (x * 10 ^ 2) : ℤ) : ℚ) / 10 ^ 2 - x
        = (halfUp.toInt (x * 10 ^ 2) - x * 10 ^ 2) / 100 := by
      norm_num
      ring
    rw [hscale, abs_div, abs_of_pos (by norm_num : (0 : ℚ) < 100)]
    linarith
  obtain ⟨hlo, hhi⟩ := abs_le.mp hnear
  refine ⟨fun hlt => ?_, fun hlt => by linarith⟩
  refine lt_of_le_of_ne ?_ hne
  -- the next amount below is a whole cent below
  obtain ⟨m, hm⟩ := onGrid_roundMoney x
  obtain ⟨n, hn⟩ := hgrid
  have hmn : (m : ℚ) < n := by
    rw [← hm, ← hn]
    linarith
  have hcent : (m : ℚ) + 1 ≤ n := by exact_mod_cast hmn
  linarith

/-- Two sums that are close to a third are judged alike when that one is not close to the half
cent. -/
lemma roundMoney_lt_iff_of_close {x y sum slack amount : ℚ} (hgrid : OnGrid 2 amount)
    (hx : |x - sum| ≤ slack) (hy : |y - sum| ≤ slack)
    (hfar : slack < |sum - (amount - 1 / 200)|) : roundMoney x < amount ↔ roundMoney y < amount := by
  obtain ⟨hx1, hx2⟩ := abs_le.mp hx
  obtain ⟨hy1, hy2⟩ := abs_le.mp hy
  rcases lt_abs.mp hfar with hfar | hfar
  · rw [roundMoney_lt_iff hgrid (by linarith), roundMoney_lt_iff hgrid (by linarith)]
    exact ⟨fun h => by linarith, fun h => by linarith⟩
  · rw [roundMoney_lt_iff hgrid (by linarith), roundMoney_lt_iff hgrid (by linarith)]
    exact ⟨fun h => by linarith, fun h => by linarith⟩

lemma onGrid_sum_money (l : List Money) : OnGrid 2 (l.map (·.value)).sum := by
  refine OnGrid.list_sum fun x hx => ?_
  obtain ⟨m, -, rfl⟩ := List.mem_map.mp hx
  exact m.onGrid

lemma onGrid_neededFromPayments : OnGrid 2 (neededFromPayments invoice) :=
  (invoice.total.onGrid.sub (onGrid_sum_money _)).sub (onGrid_sum_money _)

lemma totalApplied_lt_total_iff :
    roundMoney (totalApplied db invoice) < roundMoney invoice.total.value
      ↔ roundMoney ((settledAllocations db invoice.id).foldl addPaid 0)
        < neededFromPayments invoice := by
  rw [roundMoney_value, totalApplied, neededFromPayments,
    roundMoney_of_onGrid (((onGrid_roundMoney _).add (onGrid_sum_money _)).add (onGrid_sum_money _))]
  constructor <;> intro h <;> linarith

lemma fundedTotal_lt_total_iff :
    fundedTotal division db invoice < quantize halfUp 2 invoice.total.value
      ↔ roundMoney ((settledAllocations db invoice.id).map (effectivePaymentAmount division)).sum
        < neededFromPayments invoice := by
  rw [fundedTotal, neededFromPayments, quantize_of_onGrid (onGrid_sum_money _), quantize_of_onGrid (onGrid_sum_money _),
    quantize_of_onGrid ((onGrid_quantize.add (onGrid_sum_money _)).add (onGrid_sum_money _)),
    quantize_of_onGrid invoice.total.onGrid, ← roundMoney]
  constructor <;> intro h <;> linarith

variable (division) in
/-- **Prorated funding is judged alike** by both arithmetics where it can be resolved. -/
theorem underfunded_iff (h : Resolvable db invoice) :
    fundedTotal division db invoice < quantize halfUp 2 invoice.total.value
      ↔ roundMoney (totalApplied db invoice) < roundMoney invoice.total.value := by
  rw [totalApplied_lt_total_iff, fundedTotal_lt_total_iff]
  obtain ⟨hlen, hexact | hfar⟩ := h
  · -- short decimals: neither arithmetic rounds
    have hdatabase : ((settledAllocations db invoice.id).map (effectivePaymentAmount division))
        = (settledAllocations db invoice.id).map exactShare :=
      List.map_congr_left fun row hrow => effectivePaymentAmount_of_onGrid
        (status_of_mem_settledAllocations hrow) (hexact row hrow).1
    have hloop := foldl_addPaid_of_onGrid (k := 0) onGrid_zero (by simp)
      (by omega) hexact
    rw [hdatabase, hloop, zero_add]
  · obtain ⟨b, hb⟩ : ∃ b, b = ((settledAllocations db invoice.id).map
      fun row => |exactShare row|).sum := ⟨_, rfl⟩
    have hb0 : 0 ≤ b := hb ▸ List.sum_nonneg fun x hx => by
      obtain ⟨row, -, rfl⟩ := List.mem_map.mp hx
      exact abs_nonneg _
    refine roundMoney_lt_iff_of_close onGrid_neededFromPayments ?_ ?_ hfar
    · refine (abs_sum_effectivePaymentAmount_sub_le division fun row hrow =>
        status_of_mem_settledAllocations hrow).trans ?_
      rw [← hb]
      linarith
    · have hloop := abs_foldl_addPaid_sub_le 0 hlen
      have hk : ((settledAllocations db invoice.id).length : ℚ) ≤ 10 ^ 12 := by
        exact_mod_cast hlen
      rw [zero_add, abs_zero, zero_add, ← hb] at hloop
      rw [← hb]
      refine hloop.trans ?_
      calc 6 * ((settledAllocations db invoice.id).length : ℚ) / 10 ^ 27 * b
          ≤ 6 * 10 ^ 12 / 10 ^ 27 * b := by gcongr
        _ ≤ b / 10 ^ 12 := by linarith

end AccountCredit

end DotmacSub
