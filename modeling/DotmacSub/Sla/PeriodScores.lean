import DotmacSub.Core.Packing
import DotmacSub.Sla.PolicySegments
import Mathlib.Algebra.BigOperators.Ring.List

/-!
# Scores of a reporting period

`_calculate_period_score`, `_segment_verdict` and `_complete_verdict` of
`services/customer_service_level.py`, over typed evidence; a percentage is exact.
-/

namespace DotmacSub.Sla

open Intervals Checked

inductive SlaVerdict
  | passing
  | atRisk
  | breach
  | unavailable
  | noContractualSla
deriving DecidableEq

def SlaVerdict.Met (v : SlaVerdict) : Prop := v = .passing ∨ v = .atRisk

structure ScoreSeconds where
  eligible : ℤ
  unavailable : ℤ
  excluded : ℤ
  unknown : ℤ
  unavailable_nonneg : 0 ≤ unavailable
  excluded_nonneg : 0 ≤ excluded
  unknown_nonneg : 0 ≤ unknown
  le_eligible : unavailable + excluded + unknown ≤ eligible

def validateScoreSeconds (eligible unavailable excluded unknown : ℤ) :
    Except DomainError ScoreSeconds :=
  if eligible < 0 then .error (valueError "eligible_seconds cannot be negative")
  else if hu : unavailable < 0 then .error (valueError "unavailable_seconds cannot be negative")
  else if he : excluded < 0 then .error (valueError "excluded_seconds cannot be negative")
  else if hk : unknown < 0 then .error (valueError "unknown_seconds cannot be negative")
  else if hsum : eligible < unavailable + excluded + unknown then
    .error (valueError
      "unavailable, excluded, and unknown seconds cannot exceed eligible seconds")
  else .ok ⟨eligible, unavailable, excluded, unknown, not_lt.mp hu, not_lt.mp he, not_lt.mp hk,
    not_lt.mp hsum⟩

def targetOf (policy : Option SlaPolicyVersion) : Option ℚ :=
  policy.bind SlaPolicyVersion.availabilityTargetPercent

/-- The share of seconds that were available, in percent. -/
def availability (eligible unavailable : ℤ) : ℚ := 100 * (eligible - unavailable) / eligible

def completeVerdict (policy : Option SlaPolicyVersion) (eligible unavailable : ℤ) : SlaVerdict :=
  if eligible ≤ 0 then .unavailable
  else match targetOf policy with
    | none => .noContractualSla
    | some target =>
      let allowedDowntime : ℚ := eligible * (100 - target) / 100
      if availability eligible unavailable < target then .breach
      else if 0 < allowedDowntime ∧ 4 / 5 * allowedDowntime ≤ unavailable then .atRisk
      else .passing

def segmentVerdict (policy : Option SlaPolicyVersion) (s : ScoreSeconds)
    (evidenceComplete : Bool) : SlaVerdict :=
  let denominator := s.eligible - s.excluded
  if denominator ≤ 0 then .unavailable
  else match targetOf policy with
    | none => .noContractualSla
    | some target =>
      if availability denominator s.unavailable < target then .breach
      else if evidenceComplete = false ∨ 0 < s.unknown then .unavailable
      else completeVerdict policy denominator s.unavailable

structure SegmentScore where
  segment : PolicySegment
  seconds : ScoreSeconds
  evidenceComplete : Bool

namespace SegmentScore

def verdict (s : SegmentScore) : SlaVerdict :=
  segmentVerdict s.segment.policy s.seconds s.evidenceComplete

/-- A policy governs seconds that are not excluded. -/
def Contractual (s : SegmentScore) : Prop :=
  s.segment.policy.isSome ∧ 0 < s.seconds.eligible - s.seconds.excluded

instance : DecidablePred Contractual := fun _ => inferInstanceAs (Decidable (_ ∧ _))

end SegmentScore

def periodVerdict (eligible : ℤ) (scores : List SegmentScore) (evidenceComplete : Bool) :
    SlaVerdict :=
  let contractual := scores.filter (·.Contractual)
  if eligible ≤ 0 then .unavailable
  else if contractual = [] then .noContractualSla
  else if ∃ s ∈ contractual, s.verdict = .breach then .breach
  else if evidenceComplete = false then .unavailable
  else if ∃ s ∈ contractual, s.verdict = .atRisk then .atRisk
  else .passing

/-- Whether a subscription could be used. -/
inductive ImpactState
  | potentiallyAffected
  | confirmedUnavailable
  | degraded
  | restored
  | unknown
  | excluded
deriving DecidableEq

structure ImpactInterval where
  startedAt : ℤ
  endedAt : Option ℤ
  state : ImpactState
  quality : String
  exclusionCandidate : Option String

/-- What the owners of the facts say about a period. -/
structure PeriodEvidence where
  activeWindows : List Span
  entitlements : List Span
  accounting : List Span
  impacts : List ImpactInterval
  complete : Bool

def ImpactInterval.spanIn (period : Span) (i : ImpactInterval) : List Span :=
  if h : max i.startedAt period.start < min (i.endedAt.getD period.stop) period.stop then
    [⟨_, _, h⟩]
  else []

namespace PeriodEvidence

variable (e : PeriodEvidence) (period : Span)

def eligible : List Span :=
  union [e.activeWindows.flatMap fun active => e.entitlements.flatMap fun entitlement =>
    intersect [active] [entitlement]]

def monitored : List Span := intersect e.eligible e.accounting

/-- The confirmed impacts that count as downtime, or those that do not. -/
def impactSpans (qualifying : Bool) : List Span :=
  (e.impacts.filter fun i => i.state = .confirmedUnavailable ∧
    decide (i.exclusionCandidate = none ∧ i.quality = "exact") = qualifying).flatMap
      (·.spanIn period)

def downtime : List Span := intersect e.eligible (e.impactSpans period true)

/-- Eligible, not down, and to be left out. -/
def excluded : List Span :=
  subtract (intersect e.eligible (e.impactSpans period false)) (e.downtime period)

/-- Eligible time of which something is known. -/
def known : List Span := union [e.monitored, e.downtime period, e.excluded period]

/-- Eligible time of which nothing is known. -/
def unknown : List Span := subtract e.eligible (e.known period)

/-- The checked seconds of the four kinds of time, each cut down by `cut`. -/
def seconds (cut : List Span → List Span) : Except DomainError ScoreSeconds :=
  validateScoreSeconds (totalSeconds (cut e.eligible)) (totalSeconds (cut (e.downtime period)))
    (totalSeconds (cut (e.excluded period))) (totalSeconds (cut (e.unknown period)))

def segmentScore (segment : PolicySegment) : Except DomainError SegmentScore := do
  let seconds ← e.seconds period fun spans => intersect spans [segment.span]
  return { segment, seconds, evidenceComplete := e.complete }

end PeriodEvidence

structure PeriodScore where
  segments : List SegmentScore
  seconds : ScoreSeconds
  evidenceComplete : Bool

def PeriodScore.verdict (score : PeriodScore) : SlaVerdict :=
  periodVerdict score.seconds.eligible score.segments score.evidenceComplete

def measuredPeriod (start stop evaluatedAt : ℤ) : Except DomainError Span :=
  if stop ≤ start then .error (valueError "SLA scoring requires a positive UTC reporting period")
  else if evaluatedAt < start then
    .error (valueError "SLA scoring cannot evaluate before the period begins")
  else if h : start < min stop evaluatedAt then .ok ⟨start, min stop evaluatedAt, h⟩
  else .ok ⟨start, start + 1, lt_add_one start⟩

/-- The score of a period: seconds and verdicts, in each policy segment and over all. -/
def calculatePeriodScore (db : SlaDb) (subscription : Subscription)
    (evidence : Span → PeriodEvidence) (start stop evaluatedAt : ℤ) :
    Except DomainError PeriodScore := do
  let period ← measuredPeriod start stop evaluatedAt
  let segments ← policySegmentsForPeriod db subscription period.start period.stop
  let e := evidence period
  let segments ← segments.mapM (e.segmentScore period)
  let seconds ← e.seconds period id
  return { segments, seconds,
           evidenceComplete := e.complete && decide (e.unknown period = []) }

def SegmentScore.Checked (s : SegmentScore) : Prop :=
  ∀ policy ∈ s.segment.policy, postInit policy = .ok policy

/-- Unknown seconds of one score are up, down or excluded in another. -/
structure ScoreSeconds.Reassigned (s t : ScoreSeconds) : Prop where
  eligible : t.eligible = s.eligible
  unavailable : s.unavailable ≤ t.unavailable
  excluded : s.excluded ≤ t.excluded
  unknown : t.unavailable - s.unavailable + (t.excluded - s.excluded) + t.unknown ≤ s.unknown

/-- One segment, its unknown seconds reassigned; the evidence may have been completed. -/
def SegmentScore.Reassigned (s t : SegmentScore) : Prop :=
  t.segment = s.segment ∧ s.seconds.Reassigned t.seconds

def PeriodScore.Reassigned (p q : PeriodScore) : Prop :=
  List.Forall₂ SegmentScore.Reassigned p.segments q.segments ∧
    q.seconds.eligible = p.seconds.eligible

section Verdicts

variable {s t : SegmentScore} {policy : SlaPolicyVersion}

lemma target_le_of_checked (h : postInit policy = .ok policy) {target : ℚ}
    (htarget : policy.availabilityTargetPercent = some target) : target ≤ 100 := by
  simp only [postInit, bind_eq_ok, ensure_eq_ok] at h
  obtain ⟨-, -, -, -, -, hbounds, -⟩ := h
  exact (hbounds target htarget).2

lemma segment_breach_iff : s.verdict = .breach ↔ 0 < s.seconds.eligible - s.seconds.excluded ∧
    ∃ target ∈ targetOf s.segment.policy,
      availability (s.seconds.eligible - s.seconds.excluded) s.seconds.unavailable < target := by
  unfold SegmentScore.verdict segmentVerdict
  cases htarget : targetOf s.segment.policy with
  | none =>
    dsimp only
    split_ifs <;> simp
  | some target =>
    simp only [Option.mem_some_iff, exists_eq_left', completeVerdict, htarget]
    split_ifs <;> simp_all

lemma unknown_of_met (h : s.verdict.Met) : s.seconds.unknown = 0 := by
  by_contra hne
  have hpos := lt_of_le_of_ne s.seconds.unknown_nonneg (Ne.symm hne)
  unfold SegmentScore.verdict segmentVerdict at h
  cases htarget : targetOf s.segment.policy with
  | none =>
    simp only [htarget] at h
    split_ifs at h <;> simp [SlaVerdict.Met] at h
  | some target =>
    simp only [htarget, hpos, or_true, if_true] at h
    split_ifs at h <;> simp [SlaVerdict.Met] at h

/-- **A breach stays a breach**: taking time out of the denominator only makes downtime weigh
more. -/
lemma breach_of_reassigned (hchecked : s.Checked) (hst : s.Reassigned t)
    (h : s.verdict = .breach) : t.verdict = .breach := by
  obtain ⟨hsegment, heligible, hdown, hexcluded, hunknown⟩ := hst
  obtain ⟨hpos, target, htarget, hlt⟩ := segment_breach_iff.mp h
  obtain ⟨policy, hpolicy, hpromised⟩ := Option.bind_eq_some_iff.mp htarget
  have hle := target_le_of_checked (hchecked policy hpolicy) hpromised
  have hposq : (0 : ℚ) < (s.seconds.eligible - s.seconds.excluded : ℤ) := Int.cast_pos.mpr hpos
  rw [availability, div_lt_iff₀ hposq] at hlt
  have hdownpos : (0 : ℚ) < s.seconds.unavailable := by
    have := mul_le_mul_of_nonneg_right hle hposq.le
    linarith
  have hsum := t.seconds.le_eligible
  have hleft := t.seconds.unknown_nonneg
  have hdownint : 0 < s.seconds.unavailable := Int.cast_pos.mp hdownpos
  have hpos' : 0 < t.seconds.eligible - t.seconds.excluded := by omega
  refine segment_breach_iff.mpr ⟨hpos', target, hsegment ▸ htarget, ?_⟩
  have hposq' : (0 : ℚ) < (t.seconds.eligible - t.seconds.excluded : ℤ) := Int.cast_pos.mpr hpos'
  have hshrunk : ((t.seconds.eligible - t.seconds.excluded : ℤ) : ℚ)
      ≤ (s.seconds.eligible - s.seconds.excluded : ℤ) := Int.cast_le.mpr (by omega)
  have hmore : (s.seconds.unavailable : ℚ) ≤ t.seconds.unavailable := Int.cast_le.mpr hdown
  rw [availability, div_lt_iff₀ hposq']
  have hweigh := mul_le_mul_of_nonneg_left hshrunk (sub_nonneg.mpr hle)
  linarith

lemma breach_of_known (hst : s.Reassigned t) (hunknown : s.seconds.unknown = 0)
    (h : t.verdict = .breach) : s.verdict = .breach := by
  obtain ⟨hsegment, heligible, hdown, hexcluded, hle⟩ := hst
  have hleft := t.seconds.unknown_nonneg
  rw [segment_breach_iff] at h ⊢
  rwa [hsegment, heligible, show t.seconds.unavailable = s.seconds.unavailable by omega,
    show t.seconds.excluded = s.seconds.excluded by omega] at h

lemma contractual_of_breach (h : s.verdict = .breach) : s.Contractual := by
  obtain ⟨hpos, target, htarget, -⟩ := segment_breach_iff.mp h
  obtain ⟨policy, hpolicy, -⟩ := Option.bind_eq_some_iff.mp htarget
  exact ⟨Option.isSome_of_eq_some hpolicy, hpos⟩

lemma period_breach_iff {p : PeriodScore} :
    p.verdict = .breach ↔ 0 < p.seconds.eligible ∧ ∃ s ∈ p.segments, s.verdict = .breach := by
  have hsome : (∃ s ∈ p.segments.filter (·.Contractual), s.verdict = .breach) ↔
      ∃ s ∈ p.segments, s.verdict = .breach := by
    constructor
    · rintro ⟨s, hs, hbreach⟩
      exact ⟨s, (List.mem_filter.mp hs).1, hbreach⟩
    · rintro ⟨s, hs, hbreach⟩
      exact ⟨s, List.mem_filter.mpr ⟨hs, decide_eq_true (contractual_of_breach hbreach)⟩, hbreach⟩
  rw [← hsome, PeriodScore.verdict, periodVerdict]
  split_ifs with helig hnil hbreach
  · simp [helig]
  · simp [hnil]
  · exact iff_of_true rfl ⟨not_le.mp helig, hbreach⟩
  all_goals exact iff_of_false (by simp) fun h => hbreach h.2

lemma complete_of_met {p : PeriodScore} (h : p.verdict.Met) :
    p.evidenceComplete = true ∧ p.verdict ≠ .breach := by
  refine ⟨?_, fun hbreach => ?_⟩
  · simp only [PeriodScore.verdict, periodVerdict] at h
    split_ifs at h with _ _ _ hincomplete
    all_goals first
      | exact Bool.eq_true_of_not_eq_false hincomplete
      | simp [SlaVerdict.Met] at h
  · rw [hbreach] at h
    simp [SlaVerdict.Met] at h

end Verdicts

section Scores

variable {db : SlaDb} {subscription : Subscription} {evidence : Span → PeriodEvidence}
  {e : PeriodEvidence} {period : Span} {start stop evaluatedAt : ℤ} {segments : List PolicySegment}
  {p q : PeriodScore}

lemma checked_of_segments (h : policySegmentsForPeriod db subscription start stop = .ok segments) :
    ∀ segment ∈ segments, ∀ policy ∈ segment.policy, postInit policy = .ok policy := by
  intro segment hsegment policy hpolicy
  rw [policySegmentsForPeriod, bind_eq_ok] at h
  obtain ⟨legacy, -, hloop⟩ := h
  obtain ⟨span, -, hspan⟩ := exists_of_mem_right (forall₂_of_mapM hloop) segment hsegment
  simp only [bind_eq_ok, pure_eq_ok] at hspan
  obtain ⟨winner, hwinner, rfl⟩ := hspan
  simp only [resolveEffectivePolicy, mapM_rowToPolicy, bind_eq_ok, pure_eq_ok] at hwinner
  obtain ⟨_, hrows, legacy, hlegacy, rfl⟩ := hwinner
  obtain rfl := Except.ok.inj hrows
  rcases List.mem_append.mp (List.argmin_mem hpolicy) with hrow | hprofile
  · obtain ⟨row, -, rfl⟩ := List.mem_map.mp hrow
    exact rowToPolicy_ok row
  · obtain rfl := (Option.filter_eq_some_iff.mp (Option.mem_toList.mp hprofile)).1
    unfold legacyOfferPolicy at hlegacy
    split at hlegacy
    · cases hlegacy
    · split at hlegacy
      · cases hlegacy
      · obtain ⟨built, hbuilt, hsome⟩ := map_eq_ok.mp hlegacy
        obtain rfl := Option.some.inj hsome
        rw [postInit_legacy] at hbuilt
        split_ifs at hbuilt with hbounds
        obtain rfl := Except.ok.inj hbuilt
        rw [postInit_legacy, if_pos hbounds]

lemma validateScoreSeconds_ok {a b c d : ℤ} {s : ScoreSeconds}
    (h : validateScoreSeconds a b c d = .ok s) : s.eligible = a ∧ s.unknown = d := by
  unfold validateScoreSeconds at h
  split_ifs at h
  obtain rfl := Except.ok.inj h
  exact ⟨rfl, rfl⟩

lemma calculatePeriodScore_ok
    (h : calculatePeriodScore db subscription evidence start stop evaluatedAt = .ok p) :
    ∀ s ∈ p.segments, s.Checked ∧ (p.evidenceComplete = true → s.seconds.unknown = 0) := by
  simp only [calculatePeriodScore, bind_eq_ok, pure_eq_ok] at h
  obtain ⟨period, -, segments, hsegments, scores, hscores, -, -, rfl⟩ := h
  intro s hs
  obtain ⟨segment, hsegment, hscore⟩ := exists_of_mem_right (forall₂_of_mapM hscores) s hs
  simp only [PeriodEvidence.segmentScore, bind_eq_ok, pure_eq_ok] at hscore
  obtain ⟨seconds, hseconds, rfl⟩ := hscore
  refine ⟨checked_of_segments hsegments segment hsegment, fun hcomplete => ?_⟩
  have hnone : (evidence period).unknown period = [] :=
    of_decide_eq_true (Bool.and_eq_true_iff.mp hcomplete).2
  rw [(validateScoreSeconds_ok hseconds).2, hnone]
  simp [intersect, intersectLoop, normalize, sorted, totalSeconds]

/-- **Verdicts are sound under unknown time.**  A breach, of a segment or of a period, stays one
however unknown seconds are reassigned; a verdict that a target was met leaves no unknown second. -/
theorem verdicts_sound :
    (∀ s t : SegmentScore, s.Checked → s.Reassigned t →
      (s.verdict = .breach → t.verdict = .breach) ∧
        (s.verdict.Met → s.seconds.unknown = 0 ∧ t.verdict ≠ .breach)) ∧
    ∀ db subscription evidence start stop evaluatedAt p,
      calculatePeriodScore db subscription evidence start stop evaluatedAt = .ok p →
        ∀ q, p.Reassigned q → (p.verdict = .breach → q.verdict = .breach) ∧
          (p.verdict.Met → (∀ s ∈ p.segments, s.seconds.unknown = 0) ∧ q.verdict ≠ .breach) := by
  refine ⟨fun s t hchecked hst => ⟨breach_of_reassigned hchecked hst, fun hmet => ?_⟩, ?_⟩
  · refine ⟨unknown_of_met hmet, fun hbreach => ?_⟩
    rw [breach_of_known hst (unknown_of_met hmet) hbreach] at hmet
    simp [SlaVerdict.Met] at hmet
  · intro db subscription evidence start stop evaluatedAt p hp q hpq
    have hscores := calculatePeriodScore_ok hp
    refine ⟨fun hbreach => ?_, fun hmet => ?_⟩
    · obtain ⟨hpos, s, hs, hbreach⟩ := period_breach_iff.mp hbreach
      obtain ⟨t, ht, hst⟩ := exists_of_mem_left hpq.1 s hs
      exact period_breach_iff.mpr
        ⟨hpq.2 ▸ hpos, t, ht, breach_of_reassigned (hscores s hs).1 hst hbreach⟩
    · obtain ⟨hcomplete, hnone⟩ := complete_of_met hmet
      refine ⟨fun s hs => (hscores s hs).2 hcomplete, fun hbreach => hnone ?_⟩
      obtain ⟨hpos, t, ht, hbreach⟩ := period_breach_iff.mp hbreach
      obtain ⟨s, hs, hst⟩ := exists_of_mem_right hpq.1 t ht
      exact period_breach_iff.mpr
        ⟨hpq.2 ▸ hpos, s, hs, breach_of_known hst ((hscores s hs).2 hcomplete) hbreach⟩

/-- The seconds that are neither down nor excluded nor unknown. -/
def ScoreSeconds.up (s : ScoreSeconds) : ℤ := s.eligible - s.unavailable - s.excluded - s.unknown

def ScoreSeconds.total (s : ScoreSeconds) : ℤ := s.up + s.unavailable + s.excluded + s.unknown

lemma total_eq (s : ScoreSeconds) : s.total = s.eligible := by
  simp only [ScoreSeconds.total, ScoreSeconds.up]
  omega

lemma totalSeconds_of_canonical {l : List Span} (h : Canonical l) :
    totalSeconds l = (l.map (·.length / 1000000)).sum := by
  rw [totalSeconds, (normalize_represents l).unique ⟨h, rfl⟩]
  rfl

lemma totalSeconds_mono {l m : List Span} (h : covered l ⊆ covered m) :
    totalSeconds l ≤ totalSeconds m := by
  have hl := normalize_represents l
  have hm := normalize_represents m
  exact sum_units_le (by decide) hl.canonical.apart hm.canonical
    (by rwa [hl.covered_eq, hm.covered_eq])

lemma totalSeconds_nonneg (l : List Span) : 0 ≤ totalSeconds l :=
  totalSeconds_mono (l := []) (by simp)

/-- Joining disjoint times loses no whole second. -/
lemma totalSeconds_add_le {l m : List Span} (h : Disjoint (covered l) (covered m)) :
    totalSeconds l + totalSeconds m ≤ totalSeconds (l ++ m) := by
  have hl := normalize_represents l
  have hm := normalize_represents m
  have hlm := normalize_represents (l ++ m)
  have hapart : Apart (normalize l ++ normalize m) := by
    refine List.pairwise_append.mpr ⟨hl.canonical.apart, hm.canonical.apart, fun a ha b hb => ?_⟩
    refine Set.disjoint_left.mpr fun t hat hbt => ?_
    exact Set.disjoint_left.mp h (hl.covered_eq.subset ⟨a, ha, hat⟩)
      (hm.covered_eq.subset ⟨b, hb, hbt⟩)
  have hsum := sum_units_le (w := 1000000) (by decide) hapart hlm.canonical
    (by rw [covered_append, hl.covered_eq, hm.covered_eq, hlm.covered_eq, covered_append])
  rwa [List.map_append, List.sum_append] at hsum

variable (e period) in
/-- The four kinds of time never fail the checks of a score. -/
lemma seconds_ok {cut : List Span → List Span} {points : Set ℤ}
    (hcut : ∀ l, covered (cut l) = covered l ∩ points) :
    ∃ s, e.seconds period cut = .ok s ∧ s.eligible = totalSeconds (cut e.eligible) := by
  have hdown := (intersect_represents e.eligible (e.impactSpans period true)).covered_eq
  have hexcluded := (subtract_represents (intersect e.eligible (e.impactSpans period false))
    (e.downtime period)).covered_eq
  have hcandidates := (intersect_represents e.eligible (e.impactSpans period false)).covered_eq
  have hunknown := (subtract_represents e.eligible (e.known period)).covered_eq
  have hknown := (union_represents [e.monitored, e.downtime period, e.excluded period]).covered_eq
  have hsum : totalSeconds (cut (e.downtime period)) + totalSeconds (cut (e.excluded period))
      + totalSeconds (cut (e.unknown period)) ≤ totalSeconds (cut e.eligible) := by
    refine (add_le_add_left (totalSeconds_add_le ?_) _).trans
      ((totalSeconds_add_le ?_).trans (totalSeconds_mono ?_))
    · rw [hcut, hcut, PeriodEvidence.excluded, hexcluded]
      exact Set.disjoint_left.mpr fun t ht ht' => ht'.1.2 ht.1
    · rw [covered_append, hcut, hcut, hcut, PeriodEvidence.unknown, hunknown, PeriodEvidence.known,
        hknown]
      refine Set.disjoint_left.mpr fun t ht ht' => ht'.1.2 ?_
      rcases ht with ht | ht
      · exact ⟨e.downtime period, by simp, ht.1⟩
      · exact ⟨e.excluded period, by simp, ht.1⟩
    · rw [covered_append, covered_append, hcut, hcut, hcut, hcut, PeriodEvidence.downtime, hdown,
        PeriodEvidence.excluded, hexcluded, hcandidates, PeriodEvidence.unknown, hunknown]
      rintro t ((ht | ht) | ht)
      · exact ⟨ht.1.1, ht.2⟩
      · exact ⟨ht.1.1.1, ht.2⟩
      · exact ⟨ht.1.1, ht.2⟩
  refine ⟨⟨totalSeconds (cut e.eligible), totalSeconds (cut (e.downtime period)),
    totalSeconds (cut (e.excluded period)), totalSeconds (cut (e.unknown period)),
    totalSeconds_nonneg _, totalSeconds_nonneg _, totalSeconds_nonneg _, hsum⟩, ?_, rfl⟩
  rw [PeriodEvidence.seconds, validateScoreSeconds, if_neg (not_lt.mpr (totalSeconds_nonneg _)),
    dif_neg (not_lt.mpr (totalSeconds_nonneg _)), dif_neg (not_lt.mpr (totalSeconds_nonneg _)),
    dif_neg (not_lt.mpr (totalSeconds_nonneg _)), dif_neg (not_lt.mpr hsum)]

def beyondSeconds (spans : List Span) : ℤ := (spans.map (·.length % 1000000)).sum

lemma length_eq {l : List Span} (h : Canonical l) :
    (l.map Span.length).sum = totalSeconds l * 1000000 + beyondSeconds l := by
  rw [totalSeconds_of_canonical h, beyondSeconds, ← List.sum_map_mul_right, ← List.sum_map_add]
  exact congrArg List.sum (List.map_congr_left fun s _ => (Int.ediv_mul_add_emod s.length _).symm)

lemma tiles_segments (h : policySegmentsForPeriod db subscription period.start period.stop
      = .ok segments) : Tiles (segments.map PolicySegment.span) period.start period.stop := by
  obtain ⟨legacy, hlegacy, -⟩ := bind_eq_ok.mp (policySegmentsForPeriod.eq_1 .. ▸ h)
  obtain rfl := Except.ok.inj ((policySegmentsForPeriod_eq hlegacy).symm.trans h)
  rw [List.map_map]
  simpa [Function.comp_def] using tiles_ordered period.start_lt_stop.le

lemma length_segments (eligible : List Span)
    (htiles : Tiles (segments.map PolicySegment.span) period.start period.stop) :
    (segments.map fun segment => ((intersect eligible [segment.span]).map Span.length).sum).sum
      = ((clamp eligible period).map Span.length).sum := by
  have hpiece (span : Span) := intersect_represents eligible [span]
  have hclamp := clamp_represents eligible period
  have hapart : Apart ((segments.map PolicySegment.span).flatMap (intersect eligible [·])) := by
    refine List.pairwise_flatMap.mpr ⟨fun span _ => (hpiece span).canonical.apart, ?_⟩
    refine htiles.apart.imp fun {a b} hab r hr u hu => Set.disjoint_left.mpr fun t htr htu => ?_
    have hinside {span piece : Span} (hpiece' : piece ∈ intersect eligible [span])
        (ht : t ∈ piece.toSet) : t ∈ span.toSet := by
      simpa using ((hpiece span).covered_eq.subset ⟨piece, hpiece', ht⟩).2
    exact Set.disjoint_left.mp hab (hinside hr htr) (hinside hu htu)
  have hcovered : covered ((segments.map PolicySegment.span).flatMap (intersect eligible [·]))
      = covered (clamp eligible period) := by
    ext t
    rw [mem_covered_flatMap, hclamp.covered_eq, Span.toSet, ← htiles.covered_eq]
    simp only [(hpiece _).covered_eq, covered_cons, covered_nil, Set.union_empty, Set.mem_inter_iff]
    constructor
    · rintro ⟨span, hspan, helig, ht⟩
      exact ⟨helig, span, hspan, ht⟩
    · rintro ⟨helig, span, hspan, ht⟩
      exact ⟨span, hspan, helig, ht⟩
  rw [← sum_length_eq hapart hclamp.canonical.apart hcovered, List.flatMap_map, List.map_flatMap,
    List.flatMap_def, List.sum_flatten, List.map_map]
  rfl

variable (evidence)

/-- A score never fails its checks, and its totals are those of the eligible time. -/
lemma score_totals (hperiod : measuredPeriod start stop evaluatedAt = .ok period)
    (hsegments : policySegmentsForPeriod db subscription period.start period.stop = .ok segments) :
    ∃ p, calculatePeriodScore db subscription evidence start stop evaluatedAt = .ok p ∧
      p.segments.map (·.seconds.total) = segments.map fun segment =>
        totalSeconds (intersect (evidence period).eligible [segment.span]) := by
  have hscore : ∀ segment ∈ segments, ∃ s,
      (evidence period).segmentScore period segment = .ok s ∧
        s.seconds.total = totalSeconds (intersect (evidence period).eligible [segment.span]) := by
    intro segment _
    obtain ⟨s, hs, heligible⟩ := seconds_ok (evidence period) period
      fun l => (intersect_represents l [segment.span]).covered_eq
    exact ⟨_, bind_eq_ok.mpr ⟨s, hs, rfl⟩, (total_eq s).trans heligible⟩
  obtain ⟨scores, hscores, hall⟩ := mapM_eq_ok hscore
  obtain ⟨whole, hwhole, -⟩ := seconds_ok (evidence period) period
    fun l => (Set.inter_univ (covered (id l))).symm
  refine ⟨⟨scores, whole, (evidence period).complete
    && decide ((evidence period).unknown period = [])⟩, ?_, ?_⟩
  · rw [calculatePeriodScore, hperiod, ok_bind, hsegments, ok_bind]
    simp only [hscores, hwhole, ok_bind]
    rfl
  · rw [← List.forall₂_eq_eq_eq, List.forall₂_map_left_iff, List.forall₂_map_right_iff]
    exact hall.flip

/-- **Whole seconds conserve eligible time up to what is cut off**: what the figures of all segments
miss of the eligible time is what its pieces in the segments last beyond whole seconds. -/
theorem seconds_conserve (hperiod : measuredPeriod start stop evaluatedAt = .ok period)
    (hsegments : policySegmentsForPeriod db subscription period.start period.stop = .ok segments) :
    ∃ p, calculatePeriodScore db subscription evidence start stop evaluatedAt = .ok p ∧
      (∀ s ∈ p.segments, 0 ≤ s.seconds.up) ∧
      (p.segments.map (·.seconds.total)).sum * 1000000
        + (segments.map fun segment =>
            beyondSeconds (intersect (evidence period).eligible [segment.span])).sum
          = ((clamp (evidence period).eligible period).map Span.length).sum := by
  obtain ⟨p, hp, htotals⟩ := score_totals evidence hperiod hsegments
  refine ⟨p, hp, fun s _ => ?_, ?_⟩
  · have hle := s.seconds.le_eligible
    rw [ScoreSeconds.up]
    omega
  · rw [htotals, ← length_segments _ (tiles_segments hsegments), ← List.sum_map_mul_right,
      ← List.sum_map_add]
    exact congrArg List.sum (List.map_congr_left fun segment _ =>
      (length_eq (intersect_represents _ _).canonical).symm)

end Scores

/-- A subscription that was active, entitled and observed all the time. -/
def served (period : Span) : PeriodEvidence := ⟨[period], [period], [period], [], true⟩

lemma segments_within_second : ∃ segments,
    policySegmentsForPeriod (contractFrom40 (.store 2 99)) ⟨0, 0, 0⟩ 0 1000000 = .ok segments ∧
      segments.map PolicySegment.span = [⟨0, 40, by decide⟩, ⟨40, 1000000, by decide⟩] := by
  refine map_eq_ok.mp ?_
  decide +kernel

theorem served_conserves : ∃ (segments : List PolicySegment) (p : PeriodScore),
    calculatePeriodScore (contractFrom40 (.store 2 99)) ⟨0, 0, 0⟩ served 0 1000000 1000000
      = .ok p ∧
    (∀ s ∈ p.segments, 0 ≤ s.seconds.up) ∧
    (p.segments.map (·.seconds.total)).sum * 1000000
      + (segments.map fun segment => beyondSeconds
          (intersect (served ⟨0, 1000000, by decide⟩).eligible [segment.span])).sum
        = ((clamp (served ⟨0, 1000000, by decide⟩).eligible ⟨0, 1000000, by decide⟩).map
            Span.length).sum := by
  obtain ⟨segments, hsegments, -⟩ := segments_within_second
  exact ⟨segments, seconds_conserve served (show measuredPeriod 0 1000000 1000000
    = .ok ⟨0, 1000000, by decide⟩ from rfl) hsegments⟩

/-- A policy that changes within a second takes the second out of the score. -/
theorem changed_within_second : ¬ ∀ db subscription evidence start stop evaluatedAt period p,
    measuredPeriod start stop evaluatedAt = .ok period →
    calculatePeriodScore db subscription evidence start stop evaluatedAt = .ok p →
      (p.segments.map (·.seconds.total)).sum = period.length / 1000000 := by
  intro h
  have hperiod : measuredPeriod 0 1000000 1000000 = .ok ⟨0, 1000000, by decide⟩ := rfl
  obtain ⟨segments, hsegments, hspans⟩ := segments_within_second
  obtain ⟨p, hp, htotals⟩ := score_totals served hperiod hsegments
  have hsum := h _ _ _ _ _ _ _ p hperiod hp
  have hnone (span : Span) (hshort : totalSeconds [span] = 0) : ∀ eligible : List Span,
      totalSeconds (intersect eligible [span]) ≤ 0 := fun eligible =>
    hshort ▸ totalSeconds_mono ((intersect_represents _ _).covered_eq.trans_subset
      Set.inter_subset_right)
  have hmap : segments.map (fun segment => totalSeconds (intersect
      (served ⟨0, 1000000, by decide⟩).eligible [segment.span])) =
      (segments.map PolicySegment.span).map fun span => totalSeconds (intersect
        (served ⟨0, 1000000, by decide⟩).eligible [span]) := by
    rw [List.map_map]
    rfl
  rw [htotals, hmap, hspans] at hsum
  have hfirst := hnone ⟨0, 40, by decide⟩ (by decide) (served ⟨0, 1000000, by decide⟩).eligible
  have hrest := hnone ⟨40, 1000000, by decide⟩ (by decide) (served ⟨0, 1000000, by decide⟩).eligible
  simp only [List.map_cons, List.map_nil, List.sum_cons, List.sum_nil, Span.length] at hsum
  omega

end DotmacSub.Sla
