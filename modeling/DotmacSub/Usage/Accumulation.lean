import DotmacSub.Usage.Overage
import Mathlib.Algebra.Order.BigOperators.Group.List
import Mathlib.Data.List.Dedup

/-!
# Usage adding up in a bucket

Every usage record adds to a value that was rounded to two places when the record before was added,
and a boundary is announced when it lies between that value and the new one before its rounding.
With records of whole hundredths nothing is rounded, and then each boundary that the usage reaches
is announced once.
-/

namespace DotmacSub.Usage

open Decimal Checked

variable {settings : UsageSettings} {bucket : QuotaBucket}

inductive Boundary
  | warning (threshold : ℚ)
  | exhaustion
deriving DecidableEq

def UsageEvent.boundary : UsageEvent → Boundary
  | .usageWarning _ _ threshold => .warning threshold
  | .usageExhausted _ _ _ => .exhaustion

/-- The usage at which it is announced. -/
def Boundary.level (bucket : QuotaBucket) : Boundary → ℚ
  | .warning threshold => threshold * bucket.included
  | .exhaustion => bucket.included

/-- What is configured to be announced. -/
def boundaries (settings : UsageSettings) (bucket : QuotaBucket) : List Boundary :=
  if settings.warnings = false ∨ bucket.included ≤ 0 then []
  else (parseWarningThresholds settings.warningThresholds).map .warning ++ [.exhaustion]

lemma mem_parseWarningThresholds {parts : List (Option ℚ)} {threshold : ℚ}
    (h : threshold ∈ parseWarningThresholds parts) : 0 < threshold ∧ threshold < 3 / 2 := by
  rw [parseWarningThresholds, List.mem_mergeSort, List.mem_dedup, List.mem_filter] at h
  exact of_decide_eq_true h.2

lemma parseWarningThresholds_nodup {parts : List (Option ℚ)} :
    (parseWarningThresholds parts).Nodup :=
  (List.mergeSort_perm _ _).nodup_iff.mpr (List.nodup_dedup _)

lemma boundaries_nodup : (boundaries settings bucket).Nodup := by
  unfold boundaries
  split_ifs
  · exact List.nodup_nil
  · rw [List.nodup_append]
    refine ⟨parseWarningThresholds_nodup.map fun _ _ h => Boundary.warning.inj h,
      List.nodup_singleton _, ?_⟩
    rintro _ hwarning _ hexhaustion rfl
    obtain ⟨_, -, heq⟩ := List.mem_map.mp hwarning
    exact absurd (heq.trans (List.mem_singleton.mp hexhaustion)) Boundary.noConfusion

/-- A configured boundary is not reached before there is usage. -/
lemma level_pos {boundary : Boundary} (h : boundary ∈ boundaries settings bucket) :
    0 < boundary.level bucket := by
  unfold boundaries at h
  split_ifs at h with hoff
  · exact absurd h List.not_mem_nil
  · have hincluded : 0 < bucket.included := not_le.mp fun hle => hoff (.inr hle)
    rcases List.mem_append.mp h with h | h
    · obtain ⟨threshold, hthreshold, rfl⟩ := List.mem_map.mp h
      exact mul_pos (mem_parseWarningThresholds hthreshold).1 hincluded
    · obtain rfl := List.mem_singleton.mp h
      exact hincluded

/-- The thresholds have few enough places for a ratio of 28 digits to be compared with them. -/
def FineThresholds (settings : UsageSettings) : Prop :=
  ∀ threshold ∈ parseWarningThresholds settings.warningThresholds, OnGrid 16 threshold

/-- The rounded ratio reaches a threshold as the usage does. -/
lemma le_div_included_iff {used threshold : ℚ} (hused : OnGrid 2 used) (h0 : 0 ≤ used)
    (hincluded : 0 < bucket.included) (hfine : OnGrid 16 threshold) (hpos : 0 < threshold)
    (hlt : threshold < 3 / 2) :
    threshold ≤ div used bucket.included ↔ threshold * bucket.included ≤ used := by
  have hbound : bucket.included < 10 ^ 8 := (abs_lt.mp (abs_included_lt bucket)).2
  have hgrid : OnGrid 2 bucket.included := onGrid_included
  rw [← le_div_iff₀ hincluded, div]
  have hexact : ctx threshold = threshold := by
    refine ctx_of_onGrid hfine ?_
    rw [abs_of_pos hpos]
    linarith
  refine ⟨fun h => ?_, fun h => ?_⟩
  · -- a smaller ratio is smaller by more than its rounding
    by_contra! hbelow
    obtain ⟨n, hn⟩ := hfine
    obtain ⟨m, hm⟩ := hgrid
    obtain ⟨k, hk⟩ := hused
    have hgap : 1 / 10 ^ 18 ≤ threshold * bucket.included - used := by
      have hlevel := (div_lt_iff₀ hincluded).mp hbelow
      have hscaled : ((n * m - k * 10 ^ 16 : ℤ) : ℚ) =
          (threshold * bucket.included - used) * 10 ^ 18 := by
        push_cast
        rw [← hn, ← hm, ← hk]
        ring
      have hint : (0 : ℚ) < ((n * m - k * 10 ^ 16 : ℤ) : ℚ) := by
        rw [hscaled]
        exact mul_pos (sub_pos.mpr hlevel) (by norm_num)
      have hone : (1 : ℚ) ≤ ((n * m - k * 10 ^ 16 : ℤ) : ℚ) := by exact_mod_cast hint
      rw [hscaled] at hone
      rwa [div_le_iff₀ (by norm_num)]
    have hclose := (abs_le.mp (abs_ctx_sub_le (used / bucket.included))).2
    rw [abs_of_nonneg (div_nonneg h0 hincluded.le)] at hclose
    have herror : used / bucket.included / 10 ^ 27 < 3 / 2 / 10 ^ 27 :=
      div_lt_div_of_pos_right (hbelow.trans hlt) (by norm_num)
    have hdistance : 1 / 10 ^ 26 ≤ threshold - used / bucket.included := by
      have hquotient : threshold - used / bucket.included =
          (threshold * bucket.included - used) / bucket.included := by
        field_simp
      rw [hquotient, le_div_iff₀ hincluded]
      linarith
    have habsurd : (1 : ℚ) / 10 ^ 26 ≤ 3 / 2 / 10 ^ 27 := by linarith
    norm_num at habsurd
  · rw [← hexact]
    exact ctx_mono hpos.le h

/-- **One record announces the boundaries it crosses.** -/
lemma emitUsageEvents_boundaries {previousUsed newUsed : ℚ} (hfine : FineThresholds settings)
    (hprevious : OnGrid 2 previousUsed) (hnew : OnGrid 2 newUsed) (h0 : 0 ≤ previousUsed)
    (hle : previousUsed ≤ newUsed) :
    (emitUsageEvents settings bucket previousUsed newUsed).map UsageEvent.boundary =
      (boundaries settings bucket).filter fun boundary =>
        previousUsed < boundary.level bucket ∧ boundary.level bucket ≤ newUsed := by
  unfold emitUsageEvents boundaries
  by_cases hoff : settings.warnings = false
  · rw [if_pos hoff, if_pos (.inl hoff)]
    rfl
  by_cases hincluded : bucket.included ≤ 0
  · rw [if_neg hoff, if_pos hincluded, if_pos (.inr hincluded)]
    rfl
  rw [if_neg hoff, if_neg hincluded, if_neg (not_or.mpr ⟨hoff, hincluded⟩), List.map_append,
    List.filter_append]
  congr 1
  · rw [List.map_map, List.filter_map]
    refine congrArg₂ List.map rfl (List.filter_congr fun threshold hthreshold => ?_)
    obtain ⟨hpos, hlt⟩ := mem_parseWarningThresholds hthreshold
    have hreach : ∀ {used : ℚ}, OnGrid 2 used → 0 ≤ used →
        (threshold ≤ div used bucket.included ↔ threshold * bucket.included ≤ used) :=
      fun hused h0 => le_div_included_iff hused h0 (not_le.mp hincluded)
        (hfine threshold hthreshold) hpos hlt
    refine decide_eq_decide.mpr (and_congr ?_ (hreach hnew (h0.trans hle)))
    rw [← not_le, hreach hprevious h0, not_le]
    rfl
  · by_cases hcross : previousUsed < bucket.included ∧ bucket.included ≤ newUsed
    · simp [hcross, Boundary.level, UsageEvent.boundary]
    · simp only [hcross, Boundary.level, if_false, List.map_nil, decide_false, List.filter_cons,
        List.filter_nil, Bool.false_eq_true]

def addRecords (settings : UsageSettings) (state : QuotaState) (totals : List ℚ) :
    Except UsageError QuotaState :=
  totals.foldlM (fun state totalGb => step settings state (.createRecord totalGb)) state

def QuotaState.announcements (state : QuotaState) (boundary : Boundary) : ℕ :=
  (state.announced.map UsageEvent.boundary).count boundary

/-- The usage is that of the records within half a hundredth, and a boundary has been announced once
if it is configured and they reach it, and never otherwise. -/
def Tracks (settings : UsageSettings) (totals : List ℚ) (state : QuotaState) : Prop :=
  |state.bucket.usedGb.value - totals.sum| ≤ 1 / 200 ∧
    ∀ boundary, state.announcements boundary =
      if boundary ∈ boundaries settings state.bucket ∧ boundary.level state.bucket ≤ totals.sum then
        1 else 0

def Hundredths (totalGb : ℚ) : Prop := 0 ≤ totalGb ∧ OnGrid 2 totalGb

lemma add_hundredths {used : Volume} {totalGb : ℚ} (h0 : 0 ≤ used.value)
    (htotal : Hundredths totalGb) (hbound : |roundBucketGb (add used.value totalGb)| < 10 ^ 8) :
    add used.value totalGb = used.value + totalGb := by
  have hsum : 0 ≤ used.value + totalGb := add_nonneg h0 htotal.1
  have hgrid : OnGrid 2 (used.value + totalGb) := used.onGrid.add htotal.2
  refine ctx_of_small hgrid ?_
  rw [abs_of_nonneg hsum]
  by_contra! hlarge
  have hten : ctx ((10 : ℚ) ^ 10) = 10 ^ 10 := by
    refine ctx_of_onGrid (s := 0) ⟨10 ^ 10, by norm_num⟩ (by norm_num)
  have hctx : (10 : ℚ) ^ 10 ≤ add used.value totalGb := by
    rw [← hten]
    exact ctx_mono (by norm_num) hlarge
  have hround : roundBucketGb (add used.value totalGb) = add used.value totalGb :=
    roundBucketGb_of_onGrid hgrid.ctx
  rw [hround] at hbound
  have hup := (abs_lt.mp hbound).2
  linarith

lemma step_hundredths {state state' : QuotaState} {totalGb : ℚ} (hfine : FineThresholds settings)
    (h0 : 0 ≤ state.bucket.usedGb.value) (htotal : Hundredths totalGb)
    (hok : step settings state (.createRecord totalGb) = .ok state') :
    state'.bucket.included = state.bucket.included ∧
    state'.bucket.usedGb.value = state.bucket.usedGb.value + totalGb ∧
    state'.announced.map UsageEvent.boundary = state.announced.map UsageEvent.boundary ++
      (boundaries settings state.bucket).filter fun boundary =>
        state.bucket.usedGb.value < boundary.level state.bucket ∧
          boundary.level state.bucket ≤ state.bucket.usedGb.value + totalGb := by
  obtain ⟨⟨bucket, events⟩, hcreate, hpure⟩ := bind_eq_ok.mp hok
  obtain rfl := pure_eq_ok.mp hpure
  obtain ⟨usedGb, overageGb, rfl, hused, -, rfl⟩ := createRecord_eq_ok hcreate
  have hbound : |roundBucketGb (add state.bucket.usedGb.value totalGb)| < 10 ^ 8 := by
    rw [← hused]
    exact usedGb.bounded
  have hexact := add_hundredths h0 htotal hbound
  have hgrid : OnGrid 2 (state.bucket.usedGb.value + totalGb) :=
    state.bucket.usedGb.onGrid.add htotal.2
  refine ⟨rfl, ?_, ?_⟩
  · rw [hused, hexact, roundBucketGb_of_onGrid hgrid]
  · rw [List.map_append, hexact, emitUsageEvents_boundaries hfine state.bucket.usedGb.onGrid hgrid
      h0 (le_add_of_nonneg_right htotal.1)]

lemma boundaries_congr {bucket' : QuotaBucket} (h : bucket'.included = bucket.included) :
    boundaries settings bucket' = boundaries settings bucket := by
  rw [boundaries, boundaries, h]

lemma level_congr {bucket' : QuotaBucket} (h : bucket'.included = bucket.included)
    (boundary : Boundary) : boundary.level bucket' = boundary.level bucket := by
  cases boundary with
  | warning threshold => rw [Boundary.level, Boundary.level, h]
  | exhaustion => rw [Boundary.level, Boundary.level, h]

lemma crossed_add {p : Prop} [Decidable p] {used more further level : ℚ} (hmore : 0 ≤ more)
    (hfurther : 0 ≤ further) :
    (if p ∧ used < level ∧ level ≤ used + more then 1 else 0) +
      (if p ∧ used + more < level ∧ level ≤ used + more + further then 1 else 0) =
        if p ∧ used < level ∧ level ≤ used + more + further then 1 else 0 := by
  by_cases hp : p
  · by_cases hlevel : level ≤ used + more
    · have hlater : ¬ used + more < level := not_lt.mpr hlevel
      have hboth : level ≤ used + more + further := hlevel.trans (le_add_of_nonneg_right hfurther)
      simp [hp, hlevel, hlater, hboth]
    · have hfirst : used < level := (le_add_of_nonneg_right hmore).trans_lt (not_le.mp hlevel)
      simp [hp, hlevel, not_le.mp hlevel, hfirst]
  · simp [hp]

lemma announcements_step {state state' : QuotaState} {totalGb : ℚ} (hfine : FineThresholds settings)
    (h0 : 0 ≤ state.bucket.usedGb.value) (htotal : Hundredths totalGb)
    (hok : step settings state (.createRecord totalGb) = .ok state') (boundary : Boundary) :
    state'.announcements boundary = state.announcements boundary +
      if boundary ∈ boundaries settings state.bucket ∧
        state.bucket.usedGb.value < boundary.level state.bucket ∧
          boundary.level state.bucket ≤ state.bucket.usedGb.value + totalGb then 1 else 0 := by
  obtain ⟨-, -, hannounced⟩ := step_hundredths hfine h0 htotal hok
  rw [QuotaState.announcements, hannounced, List.count_append,
    (boundaries_nodup.filter _).count, QuotaState.announcements]
  simp only [List.mem_filter, decide_eq_true_eq]

/-- **Records of whole hundredths** are added exactly, and each boundary they cross is announced. -/
theorem addRecords_hundredths (hfine : FineThresholds settings) : ∀ (totals : List ℚ)
    (state state' : QuotaState), 0 ≤ state.bucket.usedGb.value → (∀ t ∈ totals, Hundredths t) →
    addRecords settings state totals = .ok state' →
    state'.bucket.included = state.bucket.included ∧
    state'.bucket.usedGb.value = state.bucket.usedGb.value + totals.sum ∧
    ∀ boundary, state'.announcements boundary = state.announcements boundary +
      if boundary ∈ boundaries settings state.bucket ∧
        state.bucket.usedGb.value < boundary.level state.bucket ∧
          boundary.level state.bucket ≤ state.bucket.usedGb.value + totals.sum then 1 else 0
  | [], state, state', _, _, hok => by
    obtain rfl := foldlM_nil_eq_ok.mp hok
    refine ⟨rfl, (add_zero _).symm, fun boundary => ?_⟩
    rw [if_neg, Nat.add_zero]
    rintro ⟨-, hlt, hle⟩
    rw [List.sum_nil, add_zero] at hle
    exact absurd hle (not_le.mpr hlt)
  | total :: totals, state, state', h0, htotals, hok => by
    obtain ⟨next, hnext, hrest⟩ := foldlM_cons_eq_ok.mp hok
    have htotal := htotals total List.mem_cons_self
    have hlater : ∀ t ∈ totals, Hundredths t := fun t ht =>
      htotals t (List.mem_cons_of_mem total ht)
    obtain ⟨hincluded, hused, -⟩ := step_hundredths hfine h0 htotal hnext
    have hnext0 : 0 ≤ next.bucket.usedGb.value := by
      rw [hused]
      exact add_nonneg h0 htotal.1
    obtain ⟨hincluded', hused', hannounced⟩ :=
      addRecords_hundredths hfine totals next state' hnext0 hlater hrest
    refine ⟨hincluded'.trans hincluded, ?_, fun boundary => ?_⟩
    · rw [hused', hused, List.sum_cons, add_assoc]
    · rw [hannounced, announcements_step hfine h0 htotal hnext, hused,
        boundaries_congr hincluded, level_congr hincluded, Nat.add_assoc,
        crossed_add htotal.1 (List.sum_nonneg fun t ht => (hlater t ht).1), List.sum_cons,
        add_assoc]

/-- **Whole hundredths are tracked**: in a fresh bucket the usage is the sum of the records, and
every configured boundary is announced once if they reach it, and never otherwise. -/
theorem tracks_of_hundredths (hfine : FineThresholds settings) {state state' : QuotaState}
    (hused : state.bucket.usedGb.value = 0) (hannounced : state.announced = []) {totals : List ℚ}
    (htotals : ∀ t ∈ totals, Hundredths t) (hok : addRecords settings state totals = .ok state') :
    Tracks settings totals state' := by
  obtain ⟨hincluded, hsum, hcount⟩ :=
    addRecords_hundredths hfine totals state state' hused.ge htotals hok
  rw [hused, zero_add] at hsum
  refine ⟨by rw [hsum, sub_self]; norm_num, fun boundary => ?_⟩
  have hnone : state.announcements boundary = 0 := by
    rw [QuotaState.announcements, hannounced]
    rfl
  rw [hcount, hnone, hused, zero_add, zero_add, boundaries_congr hincluded, level_congr hincluded]
  refine if_congr (and_congr_right fun hmem => ?_) rfl rfl
  exact and_iff_right (level_pos hmem)

/-- A fresh bucket that includes 1. -/
def oneGigabyte : QuotaState where
  bucket :=
    { subscriptionId := 0, periodStart := 0, periodEnd := 100
      includedGb := some (.ofNat 1 (by norm_num)), usedGb := .zero
      rolloverGb := .zero, topupGb := .zero, overageGb := .zero }
  topups := []
  announced := []

def fourFifths : UsageSettings := ⟨true, [some (4 / 5)]⟩

lemma fineThresholds_fourFifths : FineThresholds fourFifths := by
  intro threshold h
  rw [parseWarningThresholds, List.mem_mergeSort, List.mem_dedup, List.mem_filter] at h
  obtain rfl := List.mem_singleton.mp h.1
  exact ⟨8 * 10 ^ 15, by norm_num⟩

lemma exists_ok_of_observed {α : Type} {result : Except UsageError QuotaState}
    {observe : QuotaState → α} {value : α} (h : result.toOption.map observe = some value) :
    ∃ state, result = .ok state ∧ observe state = value := by
  cases result with
  | error e => simp [Except.toOption] at h
  | ok state => exact ⟨state, rfl, Option.some.inj h⟩

/-- Records of thousandths: one below the threshold, and three that come after it. -/
def thousandths : List ℚ := [199 / 250, 1 / 250, 1 / 250, 1 / 250]

/-- **Usage and a warning are lost**: the first record is rounded up to the threshold, which it has
not reached, the others do not cross it then, and none of them is counted. -/
theorem usage_and_warning_lost : ∃ state,
    addRecords fourFifths oneGigabyte thousandths = .ok state ∧
      1 / 200 < thousandths.sum - state.bucket.usedGb.value ∧
      Boundary.warning (4 / 5) ∈ boundaries fourFifths state.bucket ∧
      (Boundary.warning (4 / 5)).level state.bucket ≤ thousandths.sum ∧
      state.announced = [] ∧ ¬ Tracks fourFifths thousandths state := by
  have hvalue : (addRecords fourFifths oneGigabyte thousandths).toOption.map (fun state =>
      (state.bucket.usedGb.value, state.bucket.included, state.announced)) =
        some (4 / 5, 1, []) := by
    decide +kernel
  obtain ⟨state, hok, hobserved⟩ := exists_ok_of_observed hvalue
  simp only [Prod.mk.injEq] at hobserved
  obtain ⟨hused, hincluded, hnone⟩ := hobserved
  have hsum : thousandths.sum = 101 / 125 := by norm_num [thousandths]
  have hfar : 1 / 200 < thousandths.sum - state.bucket.usedGb.value := by
    rw [hsum, hused]
    norm_num
  refine ⟨state, hok, hfar, ?_, ?_, hnone, fun htracks => ?_⟩
  · rw [boundaries, hincluded, if_neg (by norm_num [fourFifths])]
    refine List.mem_append_left _ (List.mem_map_of_mem ?_)
    rw [parseWarningThresholds, List.mem_mergeSort, List.mem_dedup, List.mem_filter]
    exact ⟨List.mem_singleton_self _, by norm_num⟩
  · rw [Boundary.level, hincluded, hsum]
    norm_num
  · exact absurd htracks.1 (not_le.mpr (hfar.trans_le (neg_le_abs _ |>.trans' (neg_sub _ _).ge)))

/-- Four records of a quarter of a gigabyte announce the warning and the exhaustion. -/
theorem tracks_of_hundredths_quarters : ∃ state,
    addRecords fourFifths oneGigabyte [1 / 4, 1 / 4, 1 / 4, 1 / 4] = .ok state ∧
      Tracks fourFifths [1 / 4, 1 / 4, 1 / 4, 1 / 4] state := by
  have hvalue : (addRecords fourFifths oneGigabyte [1 / 4, 1 / 4, 1 / 4, 1 / 4]).toOption.map
      (·.announced.length) = some 2 := by decide +kernel
  obtain ⟨state, hok, -⟩ := exists_ok_of_observed hvalue
  refine ⟨state, hok, tracks_of_hundredths fineThresholds_fourFifths rfl rfl ?_ hok⟩
  intro t ht
  obtain rfl : t = 1 / 4 := by
    simpa using ht
  exact ⟨by norm_num, 25, by norm_num⟩

end DotmacSub.Usage
