import DotmacSub.Usage.Buckets

/-!
# The overage of a quota bucket

Three operations keep the overage of a bucket.  The metering pass counts the included volume, the
rollover and the top-ups against the usage; a usage record counts the included volume only, and a
data top-up leaves the overage as it is.
-/

namespace DotmacSub.Usage

open Decimal Checked Run

variable {settings : UsageSettings} {bucket bucket' : QuotaBucket}

def QuotaBucket.allowed (bucket : QuotaBucket) : ℚ :=
  bucket.included + bucket.rolloverGb.value + bucket.topupGb.value

/-- The overage of the bucket's own fields. -/
def QuotaBucket.expectedOverage (bucket : QuotaBucket) : ℚ :=
  roundBucketGb (max 0 (bucket.usedGb.value - bucket.included - bucket.rolloverGb.value -
    bucket.topupGb.value))

def QuotaBucket.Agrees (bucket : QuotaBucket) : Prop :=
  bucket.overageGb.value = bucket.expectedOverage

lemma storeVolume_eq_ok {x : ℚ} {volume : Volume} :
    storeVolume x = .ok volume ↔ volume.value = roundBucketGb x ∧ |roundBucketGb x| < 10 ^ 8 := by
  unfold storeVolume
  split_ifs with h
  · rw [Except.ok.injEq]
    exact ⟨fun heq => ⟨heq ▸ rfl, h⟩, fun heq => Volume.ext heq.1.symm⟩
  · exact ⟨fun heq => absurd heq (by simp), fun heq => absurd heq.2 h⟩

lemma onGrid_included : OnGrid 2 bucket.included := by
  unfold QuotaBucket.included
  cases bucket.includedGb with
  | none => exact onGrid_zero
  | some included => exact included.onGrid

lemma abs_included_lt (bucket : QuotaBucket) : |bucket.included| < 10 ^ 8 := by
  unfold QuotaBucket.included
  cases bucket.includedGb with
  | none => norm_num
  | some included => exact included.bounded

lemma roundBucketGb_of_onGrid {x : ℚ} (h : OnGrid 2 x) : roundBucketGb x = x :=
  quantize_of_onGrid h

/-- The expected overage without its rounding, which has nothing to round. -/
lemma expectedOverage_eq : bucket.expectedOverage = max 0 (bucket.usedGb.value - bucket.allowed) := by
  have hsub : bucket.usedGb.value - bucket.included - bucket.rolloverGb.value -
      bucket.topupGb.value = bucket.usedGb.value - bucket.allowed := by
    rw [QuotaBucket.allowed]
    ring
  rw [QuotaBucket.expectedOverage, hsub]
  have hallowed : OnGrid 2 bucket.allowed :=
    (onGrid_included.add bucket.rolloverGb.onGrid).add bucket.topupGb.onGrid
  exact roundBucketGb_of_onGrid (onGrid_zero.max (bucket.usedGb.onGrid.sub hallowed))

/-- Two amounts have the same positive part. -/
lemma max_zero_eq_iff {a b : ℚ} : max 0 a = max 0 b ↔ a = b ∨ a ≤ 0 ∧ b ≤ 0 := by
  constructor
  · intro h
    rcases le_total a 0 with ha | ha
    · rw [max_eq_left ha] at h
      exact .inr ⟨ha, max_eq_left_iff.mp h.symm⟩
    · rw [max_eq_right ha] at h
      rcases le_total b 0 with hb | hb
      · rw [max_eq_left hb] at h
        exact .inr ⟨h.le, hb⟩
      · rw [max_eq_right hb] at h
        exact .inl h
  · rintro (rfl | ⟨ha, hb⟩)
    · rfl
    · rw [max_eq_left ha, max_eq_left hb]

/-- Rounding the overage of an unrounded usage is taking that of the rounded usage. -/
lemma roundBucketGb_overage {newUsed included : ℚ} (hctx : ctx newUsed = newUsed)
    (hgrid : OnGrid 2 included) (h0 : 0 ≤ included) (hbound : |roundBucketGb newUsed| < 10 ^ 8) :
    roundBucketGb (max (sub newUsed included) 0) = max 0 (roundBucketGb newUsed - included) := by
  rcases le_or_gt newUsed included with hle | hlt
  · have hsub : sub newUsed included ≤ 0 := ctx_nonpos (sub_nonpos.mpr hle)
    have hround : roundBucketGb newUsed ≤ included := by
      rw [← roundBucketGb_of_onGrid hgrid]
      exact quantize_mono hle
    rw [max_eq_right hsub, max_eq_left (sub_nonpos.mpr hround), roundBucketGb_of_onGrid onGrid_zero]
  · have hsmall : newUsed < 10 ^ (28 - (2 : ℕ) : ℤ) := by
      by_contra! hge
      have hgrid' : OnGrid 2 ((10 : ℚ) ^ (28 - (2 : ℕ) : ℤ)) := ⟨10 ^ 28, by norm_num⟩
      have hround : (10 : ℚ) ^ (28 - (2 : ℕ) : ℤ) ≤ roundBucketGb newUsed := by
        rw [← roundBucketGb_of_onGrid hgrid']
        exact quantize_mono hge
      have hup := (abs_lt.mp hbound).2
      norm_num at hround
      linarith
    have hsub : sub newUsed included = newUsed - included :=
      ctx_sub_eq hctx hgrid h0 hlt.le hsmall
    have hround : included ≤ roundBucketGb newUsed := by
      rw [← roundBucketGb_of_onGrid hgrid]
      exact quantize_mono hlt.le
    rw [hsub, max_eq_left (sub_nonneg.mpr hlt.le), max_eq_right (sub_nonneg.mpr hround)]
    exact quantize_halfUp_sub hgrid h0 hlt.le

lemma createRecord_eq_ok {totalGb : ℚ} {events : List UsageEvent}
    (h : createRecord settings bucket totalGb = .ok (bucket', events)) : ∃ usedGb overageGb,
      bucket' = { bucket with usedGb, overageGb } ∧
      usedGb.value = roundBucketGb (add bucket.usedGb.value totalGb) ∧
      overageGb.value
        = roundBucketGb (max (sub (add bucket.usedGb.value totalGb) bucket.included) 0) ∧
      events = emitUsageEvents settings bucket bucket.usedGb.value
        (add bucket.usedGb.value totalGb) := by
  simp only [createRecord, bind_eq_ok, ensure_eq_ok, storeVolume_eq_ok] at h
  obtain ⟨-, -, usedGb, ⟨hused, -⟩, overageGb, ⟨hoverage, -⟩, h⟩ := h
  obtain ⟨rfl, rfl⟩ := mk_eq_ok.mp h
  exact ⟨usedGb, overageGb, rfl, hused, hoverage, rfl⟩

lemma roundBucketGb_max (x : ℚ) : roundBucketGb (max x 0) = max 0 (roundBucketGb x) := by
  rcases le_total x 0 with hx | hx
  · have hround : roundBucketGb x ≤ 0 := quantize_zero (r := halfUp) (s := 2) ▸ quantize_mono hx
    rw [max_eq_right hx, max_eq_left hround, roundBucketGb_of_onGrid onGrid_zero]
  · rw [max_eq_left hx]
    exact (max_eq_right (quantize_nonneg hx)).symm

/-- A record that leaves this usage takes the whole allowance off it.  A bucket may include less
than nothing; what it includes is then added before the usage is rounded. -/
def RecordCounts (bucket : QuotaBucket) (newUsed : ℚ) : Prop :=
  if 0 ≤ bucket.included then
    bucket.rolloverGb.value + bucket.topupGb.value = 0 ∨
      roundBucketGb newUsed ≤ bucket.included ∧ roundBucketGb newUsed ≤ bucket.allowed
  else
    roundBucketGb (sub newUsed bucket.included) = roundBucketGb newUsed - bucket.allowed ∨
      roundBucketGb (sub newUsed bucket.included) ≤ 0 ∧ roundBucketGb newUsed ≤ bucket.allowed

lemma createRecord_agrees_iff {totalGb : ℚ} {events : List UsageEvent}
    (h : createRecord settings bucket totalGb = .ok (bucket', events)) :
    bucket'.Agrees ↔ RecordCounts bucket (add bucket.usedGb.value totalGb) := by
  obtain ⟨usedGb, overageGb, rfl, hused, hoverage, -⟩ := createRecord_eq_ok h
  have hbound := usedGb.bounded
  rw [hused] at hbound
  rw [QuotaBucket.Agrees, expectedOverage_eq, RecordCounts]
  split_ifs with h0
  · have hctx : ctx (add bucket.usedGb.value totalGb) = add bucket.usedGb.value totalGb := ctx_ctx _
    rw [roundBucketGb_overage hctx onGrid_included h0 hbound] at hoverage
    simp only [hoverage, QuotaBucket.allowed, QuotaBucket.included, hused]
    rw [max_zero_eq_iff, sub_nonpos, sub_nonpos]
    refine or_congr_left ?_
    constructor <;> intro heq <;> linarith
  · rw [roundBucketGb_max] at hoverage
    simp only [hoverage, QuotaBucket.allowed, QuotaBucket.included, hused]
    rw [max_zero_eq_iff, sub_nonpos]

lemma ctx_of_small {x : ℚ} (hgrid : OnGrid 2 x) (hbound : |x| < 10 ^ 10) : ctx x = x := by
  refine ctx_of_onGrid hgrid ?_
  calc |x| * 10 ^ 2 < 10 ^ 10 * 10 ^ 2 := mul_lt_mul_of_pos_right hbound (by norm_num)
    _ < 10 ^ 28 := by norm_num

lemma add_allowances {rollover topup : Volume} :
    add (add bucket.included rollover.value) topup.value =
      bucket.included + rollover.value + topup.value := by
  have hincluded := abs_lt.mp (abs_included_lt bucket)
  have hrollover := abs_lt.mp rollover.bounded
  have htopup := abs_lt.mp topup.bounded
  have hsum : ctx (bucket.included + rollover.value) = bucket.included + rollover.value :=
    ctx_of_small (onGrid_included.add rollover.onGrid)
      (abs_lt.mpr ⟨by linarith, by linarith⟩)
  have hall : ctx (bucket.included + rollover.value + topup.value) =
      bucket.included + rollover.value + topup.value :=
    ctx_of_small ((onGrid_included.add rollover.onGrid).add topup.onGrid)
      (abs_lt.mpr ⟨by linarith, by linarith⟩)
  rw [add, add, hsum, hall]

/-- The metering pass counts everything. -/
lemma meterBucket_agrees {topups : List DataTopup} {octets : ℕ} {now : ℤ}
    (h : meterBucket bucket topups octets now = .ok bucket') : bucket'.Agrees := by
  simp only [meterBucket, bind_eq_ok] at h
  obtain ⟨usedGb, -, topupGb, -, h⟩ := h
  have hsub : sub usedGb.value (add (add bucket.included bucket.rolloverGb.value) topupGb.value) =
      usedGb.value - (bucket.included + bucket.rolloverGb.value + topupGb.value) := by
    have hincluded := abs_lt.mp (abs_included_lt bucket)
    have hrollover := abs_lt.mp bucket.rolloverGb.bounded
    have htopup := abs_lt.mp topupGb.bounded
    have hused := abs_lt.mp usedGb.bounded
    rw [add_allowances, sub]
    exact ctx_of_small (usedGb.onGrid.sub ((onGrid_included.add bucket.rolloverGb.onGrid).add
      topupGb.onGrid)) (abs_lt.mpr ⟨by linarith, by linarith⟩)
  have hgrid : OnGrid 2 (usedGb.value - (bucket.included + bucket.rolloverGb.value +
      topupGb.value)) := usedGb.onGrid.sub ((onGrid_included.add bucket.rolloverGb.onGrid).add
        topupGb.onGrid)
  rw [hsub] at h
  rw [QuotaBucket.Agrees, expectedOverage_eq]
  split_ifs at h with hover
  · obtain ⟨overageGb, hoverage, h⟩ := bind_eq_ok.mp h
    obtain rfl := pure_eq_ok.mp h
    rw [(storeVolume_eq_ok.mp hoverage).1, roundBucketGb_of_onGrid hgrid]
    exact (max_eq_right hover.le).symm
  · obtain ⟨overageGb, hoverage, h⟩ := bind_eq_ok.mp h
    obtain rfl := Except.ok.inj hoverage
    obtain rfl := pure_eq_ok.mp h
    exact (max_eq_left (not_lt.mp hover)).symm

/-- The top-up volume of a bucket after a purchase. -/
def topupAfter (state : QuotaState) (topup : DataTopup) (validityDays : Option ℤ) (now : ℤ) : ℚ :=
  roundBucketGb (activeTopupGb (state.topups ++
    [{ topup with endAt := some (topupEnd state.bucket validityDays now) }]) now)

lemma grantDataTopup_agrees_iff {state : QuotaState} {topups' : List DataTopup} {topup : DataTopup}
    {validityDays : Option ℤ} {now : ℤ}
    (h : grantDataTopup state.bucket state.topups topup validityDays now = .ok (bucket', topups'))
    (hbefore : state.bucket.Agrees) : bucket'.Agrees ↔
      topupAfter state topup validityDays now = state.bucket.topupGb.value ∨
        state.bucket.usedGb.value ≤ state.bucket.allowed ∧
          state.bucket.usedGb.value ≤ state.bucket.included + state.bucket.rolloverGb.value +
            topupAfter state topup validityDays now := by
  simp only [grantDataTopup, bind_eq_ok, storeVolume_eq_ok] at h
  obtain ⟨topupGb, ⟨htopup, -⟩, h⟩ := h
  obtain ⟨rfl, rfl⟩ := mk_eq_ok.mp h
  rw [QuotaBucket.Agrees, expectedOverage_eq] at hbefore ⊢
  simp only [hbefore, QuotaBucket.allowed, QuotaBucket.included, htopup, topupAfter]
  rw [max_zero_eq_iff, sub_nonpos, sub_nonpos]
  refine or_congr_left ?_
  constructor <;> intro heq <;> linarith

/-- The operation computes the overage anew, or there is nothing for it to miss. -/
def CountsAll (state : QuotaState) : QuotaCommand → Prop
  | .createRecord totalGb =>
    RecordCounts state.bucket (add state.bucket.usedGb.value totalGb)
  | .meter _ _ => True
  | .grantTopup topup validityDays now =>
    topupAfter state topup validityDays now = state.bucket.topupGb.value ∨
      state.bucket.usedGb.value ≤ state.bucket.allowed ∧
        state.bucket.usedGb.value ≤ state.bucket.included + state.bucket.rolloverGb.value +
          topupAfter state topup validityDays now

/-- One operation keeps the agreement if and only if it counts all. -/
lemma step_agrees_iff {state state' : QuotaState} {c : QuotaCommand} (h : state.bucket.Agrees)
    (hok : step settings state c = .ok state') : state'.bucket.Agrees ↔ CountsAll state c := by
  cases c with
  | createRecord totalGb =>
    obtain ⟨⟨bucket, events⟩, hcreate, hpure⟩ := bind_eq_ok.mp hok
    obtain rfl := pure_eq_ok.mp hpure
    exact createRecord_agrees_iff hcreate
  | meter octets now =>
    obtain ⟨bucket, hmeter, hpure⟩ := bind_eq_ok.mp hok
    obtain rfl := pure_eq_ok.mp hpure
    exact iff_of_true (meterBucket_agrees hmeter) trivial
  | grantTopup topup validityDays now =>
    obtain ⟨⟨bucket, topups⟩, hgrant, hpure⟩ := bind_eq_ok.mp hok
    obtain rfl := pure_eq_ok.mp hpure
    exact grantDataTopup_agrees_iff hgrant h

/-- **The writers agree on the overage** in exactly the runs in which each counts all. -/
theorem overage_agrees_iff {state : QuotaState} (h : state.bucket.Agrees)
    (cs : List QuotaCommand) :
    (∀ before after, cs = before ++ after → (run (step settings) state before).bucket.Agrees) ↔
      Guarded (step settings) CountsAll state cs :=
  forall_prefix_iff_guarded (fun _ _ _ hs hc hok => (step_agrees_iff hs hok).mpr hc)
    (fun _ _ _ hs hok hs' => (step_agrees_iff hs hok).mp hs') cs state h

/-- A whole number of gigabytes. -/
def Volume.ofNat (n : ℕ) (h : n < 10 ^ 8) : Volume where
  value := n
  onGrid := ⟨n * 100, by push_cast; norm_num⟩
  bounded := by
    rw [Nat.abs_cast]
    exact_mod_cast h

/-- A bucket that includes 10 and has 5 from the period before. -/
def rolledOver : QuotaState where
  bucket :=
    { subscriptionId := 0, periodStart := 0, periodEnd := 100
      includedGb := some (.ofNat 10 (by norm_num)), usedGb := .zero
      rolloverGb := .ofNat 5 (by norm_num), topupGb := .zero, overageGb := .zero }
  topups := []
  announced := []

/-- **Usage inside the rollover is counted as overage**: a record of 12 leaves an overage of 2. -/
theorem overage_of_rollover :
    rolledOver.bucket.overageGb.value = rolledOver.bucket.expectedOverage ∧
      (run (step ⟨false, []⟩) rolledOver [.createRecord 12]).bucket.overageGb.value = 2 ∧
      (run (step ⟨false, []⟩) rolledOver [.createRecord 12]).bucket.expectedOverage = 0 := by
  decide +kernel

/-- The metering pass after the record counts all, so the condition is about the record alone. -/
theorem overage_agrees_iff_rolledOver :
    (∀ before after, [.createRecord 8, .meter (12 * 1024 ^ 3) 50] = before ++ after →
      (run (step ⟨false, []⟩) rolledOver before).bucket.Agrees) ↔
        Guarded (step ⟨false, []⟩) CountsAll rolledOver
          [.createRecord 8, .meter (12 * 1024 ^ 3) 50] := by
  have h : rolledOver.bucket.overageGb.value = rolledOver.bucket.expectedOverage := by
    decide +kernel
  exact overage_agrees_iff h _

end DotmacSub.Usage
