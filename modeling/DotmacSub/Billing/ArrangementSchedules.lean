import DotmacSub.Billing.ArrangementRuns

/-!
# The schedule of a new arrangement

`PaymentArrangements.create` rounds the share of an installment once and puts what is left on the
last one.  Where the share is rounded up, the other installments may ask for more than the debt; where
it is rounded to nothing, they ask for nothing.
-/

open Checked

namespace DotmacSub.Arrangements

open Store Gregorian Decimal

/-- The schedule divides the debt into positive amounts, due in order from the start date to the end
date; a monthly date is the start day, or the last day of a shorter month. -/
structure PositivePartition (request : ArrangementRequest) (a : PaymentArrangement) : Prop where
  positive : ∀ i ∈ a.installments, 0 < i.amount
  total : (a.installments.map (·.amount)).sum = request.totalAmount
  ordered : (a.installments.map (·.dueDate.toOrdinal)).Pairwise (· < ·)
  first : a.installments.head?.map (·.dueDate) = some request.startDate
  last : a.installments.getLast?.map (·.dueDate) = some a.endDate
  monthly : request.frequency = .monthly → ∀ i ∈ a.installments,
    i.dueDate.day = min request.startDate.day (daysInMonth i.dueDate.year i.dueDate.month)

/-- A number of cents is divided so that every installment gets one: where the share is rounded down
it is at least a cent, and where it is rounded up the cents that are missing then are no more than
the rounded-down share. -/
def FairShare (cents n : ℕ) : Prop :=
  if 2 * (cents % n) < n ∨ 2 * (cents % n) = n ∧ cents / n % 2 = 0 then 0 < cents / n
  else n ≤ cents / n + cents % n

def shareCents (totalAmount : ℚ) (n : ℕ) : ℤ := halfEvenInt (Decimal.div totalAmount n * 10 ^ 2)

/-- A rounded number is the integer that it is closer to than one half. -/
lemma halfEvenInt_eq {y : ℚ} {m : ℤ} (h : |y - m| < 1 / 2) : halfEvenInt y = m := by
  obtain ⟨hlo, hhi⟩ := abs_lt.mp h
  obtain ⟨hlo', hhi'⟩ := abs_le.mp (halfEvenInt_nearest y)
  have hle : (halfEvenInt y : ℚ) < ((m + 1 : ℤ) : ℚ) := by
    push_cast
    linarith
  have hge : ((m - 1 : ℤ) : ℚ) < halfEvenInt y := by
    push_cast
    linarith
  have hle' : halfEvenInt y < m + 1 := by exact_mod_cast hle
  have hge' : m - 1 < halfEvenInt y := by exact_mod_cast hge
  omega

/-- The quotient before it is rounded to cents is close to the exact one. -/
lemma abs_div_sub_le {x : ℚ} (hx : 0 ≤ x) (n : ℕ) :
    |Decimal.div (x / 100) n * 10 ^ 2 - x / n| ≤ x / n / 10 ^ 27 := by
  have hclose := abs_ctx_sub_le (x / 100 / n)
  rw [abs_of_nonneg (show 0 ≤ x / 100 / n by positivity)] at hclose
  have hscale : Decimal.div (x / 100) n * 10 ^ 2 - x / n = (ctx (x / 100 / n) - x / 100 / n) * 100 := by
    rw [Decimal.div]
    ring
  rw [hscale, abs_mul, abs_of_pos (by norm_num : (0 : ℚ) < 100)]
  calc _ ≤ x / 100 / n / 10 ^ 27 * 100 := by gcongr
    _ = x / n / 10 ^ 27 := by ring

section Share

variable {x : ℚ} {q r n : ℕ}

/-- The quotient halfway between two cents is computed exactly. -/
lemma div_of_tie (hx : x / n = q + 1 / 2) (hsmall : x / n < 10 ^ 20) :
    Decimal.div (x / 100) n * 10 ^ 2 = q + 1 / 2 := by
  have hgrid : OnGrid 3 (x / 100 / n) := by
    refine ⟨10 * q + 5, ?_⟩
    rw [div_right_comm, hx]
    push_cast
    ring
  rw [Decimal.div, ctx_of_onGrid hgrid, div_right_comm, hx]
  · ring
  · rw [div_right_comm, hx, abs_of_nonneg (by positivity)]
    rw [hx] at hsmall
    linarith

/-- A share of a moderate total is rounded as the exact quotient is. -/
lemma shareCents_eq (hr : r < n) (hx : x / n = q + r / n) (hsmall : x / n / 10 ^ 27 < 1 / (2 * n))
    (hx0 : 0 ≤ x) (hlt : x / n < 10 ^ 20) : shareCents (x / 100) n =
      if 2 * r < n ∨ 2 * r = n ∧ q % 2 = 0 then (q : ℤ) else q + 1 := by
  have hn : (0 : ℚ) < n := by exact_mod_cast (Nat.zero_le r).trans_lt hr
  have hone : (1 : ℚ) ≤ n := by exact_mod_cast (Nat.zero_le r).trans_lt hr
  have hhalf : 1 / (2 * (n : ℚ)) ≤ 1 / 2 := one_div_le_one_div_of_le two_pos (by linarith)
  have hless : (r : ℚ) / n < 1 := (div_lt_one hn).mpr (by exact_mod_cast hr)
  have hpart : (0 : ℚ) ≤ r / n := by positivity
  have hunit : (n : ℚ) * (1 / (2 * n)) = 1 / 2 := by field_simp
  obtain ⟨hlo, hhi⟩ := abs_le.mp (abs_div_sub_le hx0 n)
  rcases lt_trichotomy (2 * r) n with hdown | htie | hup
  · have hfar : (r : ℚ) / n ≤ 1 / 2 - 1 / (2 * n) := by
      have hcast : 2 * (r : ℚ) + 1 ≤ n := by exact_mod_cast hdown
      rw [div_le_iff₀ hn, sub_mul, mul_comm (1 / (2 * (n : ℚ))), hunit]
      linarith
    rw [if_pos (.inl hdown), shareCents, halfEvenInt_eq]
    rw [Int.cast_natCast, abs_lt]
    constructor
    · linarith
    · linarith
  · have hhalf : (r : ℚ) / n = 1 / 2 := by
      rw [div_eq_div_iff hn.ne' two_ne_zero, one_mul, mul_comm]
      exact_mod_cast htie
    have hfloor : ⌊(q : ℚ) + 1 / 2⌋ = q := Int.floor_eq_iff.mpr
      ⟨by rw [Int.cast_natCast]; linarith, by rw [Int.cast_natCast]; linarith⟩
    rw [shareCents, div_of_tie (hx.trans (by rw [hhalf])) hlt,
      halfEvenInt, hfloor, Int.cast_natCast, add_sub_cancel_left, if_neg (lt_irrefl _),
      if_neg (lt_irrefl _)]
    split_ifs <;> omega
  · have hfar : 1 / 2 + 1 / (2 * (n : ℚ)) ≤ r / n := by
      have hcast : (n : ℚ) + 1 ≤ 2 * r := by exact_mod_cast hup
      rw [le_div_iff₀ hn, add_mul, mul_comm (1 / (2 * (n : ℚ))), hunit]
      linarith
    rw [if_neg (by omega), shareCents, halfEvenInt_eq]
    rw [Int.cast_add, Int.cast_natCast, Int.cast_one, abs_lt]
    constructor
    · linarith
    · linarith

end Share

/-- Every installment gets a cent: the share does, and the other installments leave one. -/
def PositiveShare (cents n : ℕ) : Prop :=
  0 < shareCents ((cents : ℚ) / 100) n ∧ (n - 1) * shareCents ((cents : ℚ) / 100) n < cents

/-- **The shares are positive** exactly for fair totals. -/
theorem positiveShare_iff {cents n : ℕ} (hn : 2 ≤ n) (hmax : n ≤ 60) :
    PositiveShare cents n ↔ FairShare cents n := by
  have hn0 : (0 : ℚ) < n := by exact_mod_cast (by omega : 0 < n)
  have hr : cents % n < n := Nat.mod_lt cents (by omega)
  have hdiv := Nat.div_add_mod cents n
  have hquotient : (cents : ℚ) / n = (cents / n : ℕ) + (cents % n : ℕ) / n := by
    field_simp
    exact_mod_cast hdiv.symm
  rw [PositiveShare, FairShare]
  rcases lt_or_ge cents (10 ^ 20) with hlt | hge
  · have hbound : (cents : ℚ) < 10 ^ 20 := by exact_mod_cast hlt
    have hsmall : (cents : ℚ) / n / 10 ^ 27 < 1 / (2 * n) := by
      rw [div_div, div_lt_div_iff₀ (by positivity) (by positivity)]
      nlinarith
    have hle : (cents : ℚ) / n ≤ cents :=
      div_le_self (by positivity) (by exact_mod_cast (by omega : 1 ≤ n))
    rw [shareCents_eq hr hquotient hsmall (by positivity) (hle.trans_lt hbound)]
    generalize cents / n = q at *
    generalize cents % n = r at *
    have hq : ((n : ℤ) - 1) * q = n * q - q := by ring
    have hq' : ((n : ℤ) - 1) * (q + 1) = n * q - q + n - 1 := by ring
    have hcents : (cents : ℤ) = n * q + r := by exact_mod_cast hdiv.symm
    split_ifs
    · rw [hq, hcents]
      omega
    · rw [hq', hcents]
      omega
  · -- a large total is fair, whatever is rounded
    have hfair : n ≤ cents / n := (Nat.le_div_iff_mul_le (by omega)).mpr
      ((Nat.mul_le_mul hmax hmax).trans (le_trans (by norm_num) hge))
    have hn60 : (n : ℚ) ≤ 60 := by exact_mod_cast hmax
    have hlarge : (10 : ℚ) ^ 18 ≤ cents / n := by
      have hbound : (10 : ℚ) ^ 20 ≤ cents := by exact_mod_cast hge
      rw [le_div_iff₀ hn0]
      linarith
    obtain ⟨hlo, hhi⟩ := abs_le.mp (abs_div_sub_le (x := cents) (by positivity) n)
    obtain ⟨hlo', hhi'⟩ := abs_le.mp
      (halfEvenInt_nearest (Decimal.div ((cents : ℚ) / 100) n * 10 ^ 2))
    have hcents : (cents : ℚ) = n * (cents / n) := by field_simp
    refine iff_of_true ⟨?_, ?_⟩ (by split_ifs <;> omega)
    · have hpos : (0 : ℚ) < shareCents ((cents : ℚ) / 100) n := by
        rw [shareCents]
        linarith
      exact_mod_cast hpos
    · have hshare : (shareCents ((cents : ℚ) / 100) n : ℚ) ≤
          cents / n + cents / n / 10 ^ 27 + 1 / 2 := by
        rw [shareCents]
        linarith
      have hn1 : (0 : ℚ) ≤ n - 1 := by linarith [show (2 : ℚ) ≤ n by exact_mod_cast hn]
      have hless : ((n : ℚ) - 1) * shareCents ((cents : ℚ) / 100) n < cents := by
        calc ((n : ℚ) - 1) * shareCents ((cents : ℚ) / 100) n
            ≤ (n - 1) * (cents / n + cents / n / 10 ^ 27 + 1 / 2) :=
              mul_le_mul_of_nonneg_left hshare hn1
          _ ≤ (n - 1) * (cents / n) + 59 * (cents / n / 10 ^ 27 + 1 / 2) := by
              rw [add_assoc, mul_add]
              gcongr
              linarith
          _ < n * (cents / n) := by linarith
          _ = cents := hcents.symm
      exact_mod_cast hless

/-- All installments but the last one have the share; the last one has the rest. -/
lemma amounts_newInstallments {request : ArrangementRequest} {s : ℚ} {dates : List Date} {m : ℕ}
    (hcount : request.installments = m + 1) (hlength : dates.length = m + 1) :
    (newInstallments request s dates).map (·.amount)
      = List.replicate m s ++ [request.totalAmount - m * s] := by
  refine List.ext_getElem (by simp [newInstallments, hlength]) fun i hi _ => ?_
  rw [List.length_map, length_newInstallments, hlength] at hi
  simp only [newInstallments, List.getElem_map, List.getElem_mapIdx, hcount, Nat.add_sub_cancel]
  rcases Nat.lt_succ_iff_lt_or_eq.mp hi with hlt | rfl
  · rw [if_neg hlt.ne, List.getElem_append_left (by simpa using hlt), List.getElem_replicate]
  · rw [if_pos rfl, List.getElem_append_right (by simp)]
    simp only [List.length_replicate, Nat.sub_self, List.getElem_singleton]
    push_cast
    ring

section Dates

variable {frequency : PaymentFrequency} {anchorDay : ℤ}

lemma getLast_dueDates : ∀ {n : ℕ} {date : Date} {dates : List Date},
    dueDates frequency anchorDay (n + 1) date = .ok dates → ∃ last, dates.getLast? = some last ∧
      (frequency = .weekly → last.toOrdinal = date.toOrdinal + 7 * n) ∧
      (frequency = .biweekly → last.toOrdinal = date.toOrdinal + 14 * n) ∧
      (frequency = .monthly → addMonthsClamped anchorDay n date = .ok last)
  | 0, date, dates, h => by
    simp only [dueDates, bind_eq_ok, pure_eq_ok] at h
    obtain ⟨next, -, rest, hrest, rfl⟩ := h
    obtain rfl := Except.ok.inj hrest
    exact ⟨date, rfl, by simp, by simp, fun _ => rfl⟩
  | n + 1, date, dates, h => by
    rw [dueDates, bind_eq_ok] at h
    obtain ⟨next, hnext, h⟩ := h
    obtain ⟨rest, hrest, h⟩ := bind_eq_ok.mp h
    obtain rfl := pure_eq_ok.mp h
    obtain ⟨last, hlast, hweekly, hbiweekly, hmonthly⟩ := getLast_dueDates hrest
    refine ⟨last, ?_, fun hf => ?_, fun hf => ?_, fun hf => ?_⟩
    · rw [List.getLast?_cons, hlast]
      rfl
    · subst hf
      rw [hweekly rfl, toOrdinal_addWeeks hnext]
      push_cast
      ring
    · subst hf
      rw [hbiweekly rfl, toOrdinal_addWeeks hnext]
      push_cast
      ring
    · subst hf
      exact bind_eq_ok.mpr ⟨next, hnext, hmonthly rfl⟩

lemma getLast_eq_endDate {start endDate : Date} {n : ℕ} {dates : List Date} (hn : 0 < n)
    (hdates : dueDates frequency start.day n start = .ok dates)
    (hend : calculateEndDate start frequency n = .ok endDate) :
    dates.getLast? = some endDate := by
  obtain ⟨m, rfl⟩ := Nat.exists_eq_succ_of_ne_zero hn.ne'
  obtain ⟨last, hlast, hweekly, hbiweekly, hmonthly⟩ := getLast_dueDates hdates
  rw [hlast]
  refine congrArg some ?_
  cases frequency with
  | weekly =>
    refine Date.toOrdinal_injective ?_
    rw [hweekly rfl, toOrdinal_addWeeks hend]
    push_cast
    ring
  | biweekly =>
    refine Date.toOrdinal_injective ?_
    rw [hbiweekly rfl, toOrdinal_addWeeks hend]
    push_cast
    ring
  | monthly => exact Except.ok.inj ((hmonthly rfl).symm.trans hend)

def OnAnchor (anchorDay : ℤ) (date : Date) : Prop :=
  date.day = min anchorDay (daysInMonth date.year date.month)

lemma onAnchor_dueDates : ∀ {n : ℕ} {date : Date} {dates : List Date},
    dueDates .monthly anchorDay n date = .ok dates → OnAnchor anchorDay date →
      ∀ due ∈ dates, OnAnchor anchorDay due
  | 0, date, dates, h, _ => by
    obtain rfl := Except.ok.inj h
    exact nofun
  | n + 1, date, dates, h, hdate => by
    simp only [dueDates, bind_eq_ok, pure_eq_ok] at h
    obtain ⟨next, hnext, rest, hrest, rfl⟩ := h
    obtain ⟨hyear, hmonth, hday, -⟩ := Date.new?_eq_some.mp (orRefuse_eq_ok.mp hnext)
    have hanchor : OnAnchor anchorDay next := by rw [OnAnchor, hyear, hmonth, hday]
    rintro due (_ | ⟨_, hdue⟩)
    · exact hdate
    · exact onAnchor_dueDates hrest hanchor due hdue

end Dates

lemma bounds_le_sixty (facts : ArrangementFacts) : (arrangementInstallmentBounds facts).2 ≤ 60 := by
  unfold arrangementInstallmentBounds resolveIntSetting
  cases facts.minInstallments <;> cases facts.maxInstallments <;> dsimp only <;> omega

variable {db db' : ArrangementDb} {facts : ArrangementFacts} {request : ArrangementRequest}

/-- What an accepted creation adds. -/
structure Created (request : ArrangementRequest) (a : PaymentArrangement) : Prop where
  count : 2 ≤ request.installments ∧ request.installments ≤ 60
  endDate : calculateEndDate request.startDate request.frequency request.installments = .ok a.endDate
  installments : ∃ dates, dueDates request.frequency request.startDate.day request.installments
    request.startDate = .ok dates ∧ a.installments = newInstallments request
      (quantize halfEven 2 (Decimal.div request.totalAmount request.installments)) dates

lemma created_of_ok (hok : db.create facts request = .ok db') :
    ∃ a, db'.arrangements.rows = db.arrangements.rows ++ [a] ∧ Created request a := by
  simp only [ArrangementDb.create, bind_eq_ok, pure_eq_ok, ensure_eq_ok] at hok
  obtain ⟨-, -, -, -, -, hmin, -, hmax, -, -, -, -, -, -, -, -, endDate, hend, dates, hdates, rfl⟩ :=
    hok
  have hlo := one_lt_bounds facts
  have hhi := bounds_le_sixty facts
  exact ⟨_, rfl, ⟨by omega, by omega⟩, hend, dates, hdates, rfl⟩

lemma Created.positive_iff {a : PaymentArrangement} (h : Created request a) {cents : ℕ}
    (hcents : request.totalAmount = cents / 100) :
    (∀ i ∈ a.installments, 0 < i.amount) ↔ PositiveShare cents request.installments := by
  obtain ⟨dates, hdates, hinstallments⟩ := h.installments
  obtain ⟨m, hm⟩ := Nat.exists_eq_add_of_le h.count.1
  have hamounts := amounts_newInstallments (m := m + 1) (s :=
    quantize halfEven 2 (Decimal.div request.totalAmount request.installments))
    (by rw [hm, add_comm]) ((dueDates_spec hdates).1.trans (by rw [hm, add_comm]))
  have hshare : quantize halfEven 2 (Decimal.div request.totalAmount request.installments)
      = shareCents ((cents : ℚ) / 100) request.installments / 100 := by
    rw [hcents, quantize, shareCents, show halfEven.toInt = halfEvenInt from rfl]
    norm_num
  rw [← hinstallments] at hamounts
  calc (∀ i ∈ a.installments, 0 < i.amount)
      ↔ ∀ amount ∈ a.installments.map (·.amount), 0 < amount := List.forall_mem_map.symm
    _ ↔ PositiveShare cents request.installments := by
        rw [hamounts, hshare, hcents, PositiveShare, hm]
        generalize shareCents ((cents : ℚ) / 100) (2 + m) = share
        have hlast : (0 : ℚ) < cents / 100 - (m + 1 : ℕ) * (share / 100)
            ↔ ((2 + m : ℕ) - 1 : ℤ) * share < cents := by
          rw [← Int.cast_lt (R := ℚ)]
          push_cast
          constructor
          · intro h
            linarith
          · intro h
            linarith
        have hfirst : (0 : ℚ) < share / 100 ↔ 0 < share := by
          rw [div_pos_iff_of_pos_right (by norm_num), Int.cast_pos]
        rw [← hlast, ← hfirst]
        simp only [List.forall_mem_append, List.mem_replicate, List.mem_singleton, forall_eq,
          ne_eq, Nat.add_eq_zero_iff, one_ne_zero, and_false, not_false_eq_true, true_and]

/-- **A new arrangement divides its debt** into positive amounts exactly when the total is fair. -/
theorem create_positivePartition_iff {cents : ℕ} (hcents : request.totalAmount = cents / 100)
    (hok : db.create facts request = .ok db') :
    ∃ a, db'.arrangements.rows = db.arrangements.rows ++ [a] ∧
      (PositivePartition request a ↔ FairShare cents request.installments) := by
  obtain ⟨a, hrows, h⟩ := created_of_ok hok
  refine ⟨a, hrows, ?_⟩
  rw [← positiveShare_iff h.count.1 h.count.2, ← h.positive_iff hcents]
  obtain ⟨dates, hdates, hinstallments⟩ := h.installments
  obtain ⟨m, hm⟩ := Nat.exists_eq_add_of_le h.count.1
  obtain ⟨hlength, hordered, -, hfirst⟩ := dueDates_spec hdates
  have hmap : a.installments.map (·.dueDate) = dates :=
    hinstallments ▸ dueDates_newInstallments
  refine ⟨PositivePartition.positive, fun hpositive => ⟨hpositive, ?_, ?_, ?_, ?_, ?_⟩⟩
  · rw [hinstallments, amounts_newInstallments (m := m + 1) (by rw [hm, add_comm])
      (by rw [hlength, hm, add_comm]), List.sum_append, List.sum_replicate, List.sum_singleton,
      nsmul_eq_mul, add_sub_cancel]
  · have hordinals := congrArg (List.map Date.toOrdinal) hmap
    rw [List.map_map] at hordinals
    exact hordinals ▸ hordered
  · rw [← List.head?_map, hmap, hfirst (by omega)]
  · rw [← List.getLast?_map, hmap, getLast_eq_endDate (by omega) hdates h.endDate]
  · intro hmonthly i hi
    rw [hmonthly] at hdates
    refine onAnchor_dueDates hdates (min_eq_left request.startDate.day_mem.2).symm i.dueDate ?_
    rw [← hmap]
    exact List.mem_map_of_mem hi

/-- A debt that is divided on the last day of January. -/
def debt (totalAmount : ℚ) (installments : ℕ) : ArrangementRequest where
  subscriberId := 1
  totalAmount
  installments
  frequency := .monthly
  startDate := ⟨2024, 1, 31, by decide, by decide⟩

/-- An account that owes a hundred. -/
def owing : ArrangementFacts := ⟨[1], fun _ => none, none, none, 100⟩

theorem debt_in_three : ∃ db', ArrangementDb.initial.create owing (debt 100 3) = .ok db' ∧
    ∃ a, db'.arrangements.rows = [] ++ [a] ∧
      (PositivePartition (debt 100 3) a ↔ FairShare 10000 3) := by
  have hok : ∃ db', ArrangementDb.initial.create owing (debt 100 3) = .ok db' ∧ True := by
    decide +kernel
  obtain ⟨db', hok, -⟩ := hok
  exact ⟨db', hok, create_positivePartition_iff (by norm_num [debt]) hok⟩

/-- **Three cents in five installments**: four of them ask for a cent, and the last one pays one
back. -/
theorem three_cents_in_five : ∃ db', ArrangementDb.initial.create owing (debt (3 / 100) 5) = .ok db' ∧
    ∃ a ∈ db'.arrangements.rows, ¬PositivePartition (debt (3 / 100) 5) a := by
  have hok : ∃ db', ArrangementDb.initial.create owing (debt (3 / 100) 5) = .ok db' ∧
      ∃ a ∈ db'.arrangements.rows, ∃ i ∈ a.installments, i.amount = -1 / 100 := by
    decide +kernel
  obtain ⟨db', hok, a, ha, i, hi, hamount⟩ := hok
  refine ⟨db', hok, a, ha, fun h => ?_⟩
  have hpositive := h.positive i hi
  rw [hamount] at hpositive
  norm_num at hpositive

end DotmacSub.Arrangements
