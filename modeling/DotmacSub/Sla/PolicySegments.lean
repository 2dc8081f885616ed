import DotmacSub.Core.Checked
import DotmacSub.Models.Sla
import DotmacSub.Sla.IntervalAlgebra
import Mathlib.Data.List.Dedup
import Mathlib.Data.List.MinMax

/-!
# The policy in force

`resolve_effective_policy` and `policy_segments_for_period` of `services/customer_service_level.py`.
The resolver ranks the versions that cover one instant; the segments cut a period at every edge of a
version that overlaps it and resolve once in each piece.
-/

namespace DotmacSub.Sla

open Intervals Store Checked Decimal

/-- The checks of a new contract, in order. -/
def postInit (policy : SlaPolicyVersion) : Except DomainError SlaPolicyVersion := do
  ensure (∀ e ∈ policy.effectiveTo, policy.effectiveFrom < e)
    (valueError "a policy version cannot end before it starts")
  ensure (1 ≤ policy.version) (valueError "policy versions are numbered from 1")
  ensure (∀ t ∈ policy.availabilityTargetPercent, 0 < t ∧ t ≤ 100)
    (valueError "availability target must be within (0, 100]")
  ensure (policy.source = .internalMeasurement ∨ policy.availabilityTargetPercent.isSome)
    (valueError "contractual policy versions must state their availability target")
  return policy

def contractOf (row : SlaPolicyVersionRecord) : SlaPolicyVersion where
  policyId := row.id
  version := row.version
  source := row.source
  effectiveFrom := row.effectiveFrom
  effectiveTo := row.effectiveTo
  availabilityTargetPercent := row.availabilityTargetPercent.map Numeric.value
  calendarTimezone := if row.calendarTimezone = "" then slaCalendarTimezone
    else row.calendarTimezone
  maintenanceExcludable := row.maintenanceExcludable
  creditPercentPerBreach := row.creditPercentPerBreach.map Numeric.value
  creditCapPercent := row.creditCapPercent.map Numeric.value

/-- Persisted row to the immutable typed contract the scorer consumes. -/
def rowToPolicy (row : SlaPolicyVersionRecord) : Except DomainError SlaPolicyVersion :=
  postInit (contractOf row)

def subscribedOffer (db : SlaDb) (subscription : Subscription) : Option CatalogOffer :=
  db.offers.get? subscription.offerId

def governs (db : SlaDb) (subscription : Subscription) : PolicyScope → Prop
  | .internal => True
  | .subscription i => i = subscription.id
  | .account i => i = subscription.subscriberId
  | .offer i => i = subscription.offerId
  | .family f => (subscribedOffer db subscription).bind CatalogOffer.planFamily = some f.value

instance (db : SlaDb) (subscription : Subscription) : DecidablePred (governs db subscription)
  | .internal => .isTrue trivial
  | .subscription i => inferInstanceAs (Decidable (i = subscription.id))
  | .account i => inferInstanceAs (Decidable (i = subscription.subscriberId))
  | .offer i => inferInstanceAs (Decidable (i = subscription.offerId))
  | .family f => inferInstanceAs (Decidable
      ((subscribedOffer db subscription).bind CatalogOffer.planFamily = some f.value))

/-- The order of precedence, then of effective instants. -/
def precedes (a b : SlaPolicyVersionRecord) : Prop :=
  a.source.rank < b.source.rank ∨
    a.source.rank = b.source.rank ∧ a.effectiveFrom ≤ b.effectiveFrom

instance : DecidableRel precedes := fun a b =>
  inferInstanceAs (Decidable (a.source.rank < b.source.rank ∨
    a.source.rank = b.source.rank ∧ a.effectiveFrom ≤ b.effectiveFrom))

/-- Every persisted version whose effective range overlaps `[start, stop)`. -/
def persistedVersionsCovering (db : SlaDb) (subscription : Subscription) (start stop : ℤ) :
    List SlaPolicyVersionRecord :=
  (db.policies.rows.filter fun row => governs db subscription row.scope ∧
    row.effectiveFrom < stop ∧ ∀ e ∈ row.effectiveTo, start < e).insertionSort precedes

def legacyProfile (db : SlaDb) (subscription : Subscription) : Option SlaProfile := do
  let offer ← subscribedOffer db subscription
  let profileId ← offer.slaProfileId
  db.profiles.get? profileId

def legacyContract (profile : SlaProfile) (uptime : ℚ) : SlaPolicyVersion where
  policyId := profile.id
  version := 1
  source := .offerVersion
  effectiveFrom := profile.createdAt
  effectiveTo := none
  availabilityTargetPercent := some uptime
  creditPercentPerBreach := profile.creditPercent.map Numeric.value

/-- The profile derivation that persisted versions supersede. -/
def legacyOfferPolicy (db : SlaDb) (subscription : Subscription) :
    Except DomainError (Option SlaPolicyVersion) :=
  match legacyProfile db subscription with
  | none => .ok none
  | some profile =>
    match profile.uptimePercent with
    | none => .ok none
    | some uptime => some <$> postInit (legacyContract profile uptime.value)

/-- The contract is in force at an instant. -/
def SlaPolicyVersion.Covers (policy : SlaPolicyVersion) (t : ℤ) : Prop :=
  policy.effectiveFrom ≤ t ∧ ∀ e ∈ policy.effectiveTo, t < e

instance (policy : SlaPolicyVersion) (t : ℤ) : Decidable (policy.Covers t) :=
  inferInstanceAs (Decidable (_ ∧ _))

/-- The effective contractual policy at an instant, or none.  The first of the contracts with the
highest precedence wins, and persisted rows come before the legacy derivation. -/
def resolveEffectivePolicy (db : SlaDb) (subscription : Subscription) (instant : ℤ) :
    Except DomainError (Option SlaPolicyVersion) := do
  let covering := persistedVersionsCovering db subscription instant (instant + 1)
  let persisted ← covering.mapM rowToPolicy
  let legacy ← legacyOfferPolicy db subscription
  let candidates := persisted ++ (legacy.filter (·.Covers instant)).toList
  return candidates.argmin fun policy => policy.source.rank

/-- One contiguous stretch of a reporting period under a single policy. -/
structure PolicySegment where
  span : Span
  policy : Option SlaPolicyVersion
deriving DecidableEq

def cutPoints (periodStart periodEnd : ℤ) (covering : List SlaPolicyVersionRecord)
    (legacy : Option SlaPolicyVersion) : List ℤ :=
  let edges := (covering.flatMap fun row => row.effectiveFrom :: row.effectiveTo.toList) ++
    legacy.toList.flatMap fun policy => policy.effectiveFrom :: policy.effectiveTo.toList
  periodStart :: periodEnd :: edges.filter fun edge => periodStart < edge ∧ edge < periodEnd

/-- Split `[periodStart, periodEnd)` at every effective policy change, resolving each stretch at its
own start. -/
def policySegmentsForPeriod (db : SlaDb) (subscription : Subscription)
    (periodStart periodEnd : ℤ) : Except DomainError (List PolicySegment) := do
  let covering := persistedVersionsCovering db subscription periodStart periodEnd
  let legacy ← legacyOfferPolicy db subscription
  let ordered := (cutPoints periodStart periodEnd covering legacy).dedup.insertionSort (· ≤ ·)
  (between ordered).mapM fun span => do
    let policy ← resolveEffectivePolicy db subscription span.start
    return { span, policy }

variable {db : SlaDb} {subscription : Subscription} {row : SlaPolicyVersionRecord}
  {legacy : Option SlaPolicyVersion} {periodStart periodEnd t : ℤ} {span : Span}

/-- The constraints of the table are the checks of the contract. -/
lemma rowToPolicy_ok (row : SlaPolicyVersionRecord) : rowToPolicy row = .ok (contractOf row) := by
  have hrange : ∀ e ∈ (contractOf row).effectiveTo, (contractOf row).effectiveFrom < e := row.range
  have htarget : ∀ t ∈ (contractOf row).availabilityTargetPercent, 0 < t ∧ t ≤ 100 := by
    intro t ht
    obtain ⟨n, hn, rfl⟩ := Option.mem_map.mp ht
    exact row.target_bounds n hn
  have hcontract : (contractOf row).source = .internalMeasurement ∨
      (contractOf row).availabilityTargetPercent.isSome := by
    rcases row.contractual_target with h | h
    · exact .inl (by simp [contractOf, SlaPolicyVersionRecord.source, h, PolicyScope.source])
    · exact .inr (by simpa [contractOf] using h)
  rw [rowToPolicy, postInit, ensure_of hrange, ok_bind,
    ensure_of (show 1 ≤ (contractOf row).version from row.version_pos), ok_bind,
    ensure_of htarget, ok_bind, ensure_of hcontract, ok_bind]
  rfl

lemma mapM_rowToPolicy (rows : List SlaPolicyVersionRecord) :
    rows.mapM rowToPolicy = .ok (rows.map contractOf) := by
  induction rows with
  | nil => rfl
  | cons row rows ih => rw [List.mapM_cons, rowToPolicy_ok, ok_bind, ih, ok_bind]; rfl

/-- The uptime the subscribed offer's profile promises is one a contract may name. -/
def LegacyTargetValid (db : SlaDb) (subscription : Subscription) : Prop :=
  ∀ profile ∈ legacyProfile db subscription, ∀ uptime ∈ profile.uptimePercent,
    0 < uptime.value ∧ uptime.value ≤ 100

lemma postInit_legacy (profile : SlaProfile) (uptime : ℚ) :
    postInit (legacyContract profile uptime) =
      if 0 < uptime ∧ uptime ≤ 100 then .ok (legacyContract profile uptime)
      else .error (valueError "availability target must be within (0, 100]") := by
  rw [postInit, ensure_of (show ∀ e ∈ (legacyContract profile uptime).effectiveTo,
      (legacyContract profile uptime).effectiveFrom < e from nofun), ok_bind,
    ensure_of (show 1 ≤ (legacyContract profile uptime).version from le_rfl), ok_bind]
  split_ifs with h
  · rw [ensure_of (show ∀ t ∈ (legacyContract profile uptime).availabilityTargetPercent,
        0 < t ∧ t ≤ 100 from fun t ht => Option.mem_some_iff.mp ht ▸ h), ok_bind,
      ensure_of (.inr rfl), ok_bind]
    rfl
  · rw [ensure, if_neg fun hall => h (hall uptime rfl)]
    rfl

instance : Decidable (LegacyTargetValid db subscription) :=
  inferInstanceAs (Decidable (∀ profile ∈ legacyProfile db subscription,
    ∀ uptime ∈ profile.uptimePercent, 0 < uptime.value ∧ uptime.value ≤ 100))

lemma legacyOfferPolicy_of_promise {profile : SlaProfile} {uptime : Numeric 2}
    (hp : legacyProfile db subscription = some profile) (hu : profile.uptimePercent = some uptime) :
    legacyOfferPolicy db subscription = some <$> postInit (legacyContract profile uptime.value) := by
  simp only [legacyOfferPolicy, hp, hu]

lemma legacyOfferPolicy_of_valid (h : LegacyTargetValid db subscription) :
    ∃ legacy, legacyOfferPolicy db subscription = .ok legacy := by
  cases hp : legacyProfile db subscription with
  | none => exact ⟨none, by simp only [legacyOfferPolicy, hp]⟩
  | some profile =>
    cases hu : profile.uptimePercent with
    | none => exact ⟨none, by simp only [legacyOfferPolicy, hp, hu]⟩
    | some uptime =>
      refine ⟨some (legacyContract profile uptime.value), ?_⟩
      rw [legacyOfferPolicy_of_promise hp hu, postInit_legacy, if_pos (h profile hp uptime hu)]
      rfl

lemma legacyOfferPolicy_of_invalid (h : ¬ LegacyTargetValid db subscription) :
    legacyOfferPolicy db subscription
      = .error (valueError "availability target must be within (0, 100]") := by
  simp only [LegacyTargetValid, not_forall] at h
  obtain ⟨profile, hp, uptime, hu, hbad⟩ := h
  rw [legacyOfferPolicy_of_promise hp hu, postInit_legacy, if_neg hbad]
  rfl

def inForce (db : SlaDb) (subscription : Subscription) (t : ℤ) : List SlaPolicyVersionRecord :=
  (db.policies.rows.filter fun row => governs db subscription row.scope ∧ row.Covers t).insertionSort
    precedes

lemma persistedVersionsCovering_instant (t : ℤ) :
    persistedVersionsCovering db subscription t (t + 1) = inForce db subscription t := by
  refine congrArg (List.insertionSort precedes) (List.filter_congr fun row _ => ?_)
  rw [decide_eq_decide, Int.lt_add_one_iff]
  exact Iff.rfl

def winner (db : SlaDb) (subscription : Subscription) (legacy : Option SlaPolicyVersion) (t : ℤ) :
    Option SlaPolicyVersion :=
  ((inForce db subscription t).map contractOf ++ (legacy.filter (·.Covers t)).toList).argmin
    fun policy => policy.source.rank

lemma resolveEffectivePolicy_eq (h : legacyOfferPolicy db subscription = .ok legacy) (t : ℤ) :
    resolveEffectivePolicy db subscription t = .ok (winner db subscription legacy t) := by
  rw [resolveEffectivePolicy, persistedVersionsCovering_instant, mapM_rowToPolicy, ok_bind, h,
    ok_bind]
  rfl

/-- A half-open range holds the same of two instants with none of its edges between them. -/
lemma covers_iff_of_no_edge {a s t : ℤ} {e : Option ℤ} (hst : s ≤ t) (ha : a ≤ s ∨ t < a)
    (he : ∀ x ∈ e, x ≤ s ∨ t < x) : (a ≤ s ∧ ∀ x ∈ e, s < x) ↔ (a ≤ t ∧ ∀ x ∈ e, t < x) := by
  cases e with
  | none => simp; omega
  | some x =>
    have hx := he x rfl
    simp only [Option.mem_some_iff, forall_eq']
    omega

/-- The cut points in order. -/
def ordered (db : SlaDb) (subscription : Subscription) (legacy : Option SlaPolicyVersion)
    (periodStart periodEnd : ℤ) : List ℤ :=
  (cutPoints periodStart periodEnd (persistedVersionsCovering db subscription periodStart periodEnd)
    legacy).dedup.insertionSort (· ≤ ·)

lemma mem_ordered {x : ℤ} : x ∈ ordered db subscription legacy periodStart periodEnd ↔
    x ∈ cutPoints periodStart periodEnd
      (persistedVersionsCovering db subscription periodStart periodEnd) legacy := by
  rw [ordered, (List.perm_insertionSort _ _).mem_iff, List.mem_dedup]

lemma pairwise_ordered : (ordered db subscription legacy periodStart periodEnd).Pairwise (· < ·) := by
  have hle := List.pairwise_insertionSort (· ≤ ·) (cutPoints periodStart periodEnd
    (persistedVersionsCovering db subscription periodStart periodEnd) legacy).dedup
  have hne : (ordered db subscription legacy periodStart periodEnd).Nodup :=
    (List.perm_insertionSort _ _).nodup_iff.mpr (List.nodup_dedup _)
  exact (hle.and hne).imp fun h => lt_of_le_of_ne h.1 h.2

lemma tiles_ordered (h : periodStart ≤ periodEnd) :
    Tiles (between (ordered db subscription legacy periodStart periodEnd)) periodStart periodEnd := by
  refine tiles_between_of_bounds pairwise_ordered (mem_ordered.mpr List.mem_cons_self)
    (mem_ordered.mpr (List.mem_cons_of_mem _ List.mem_cons_self)) fun x hx => ?_
  rcases List.mem_cons.mp (mem_ordered.mp hx) with rfl | hx
  · exact ⟨le_rfl, h⟩
  · rcases List.mem_cons.mp hx with rfl | hx
    · exact ⟨h, le_rfl⟩
    · have hin := of_decide_eq_true (List.mem_filter.mp hx).2
      exact ⟨hin.1.le, hin.2.le⟩

lemma edge_outside {x t : ℤ} (h : periodStart ≤ periodEnd)
    (hspan : span ∈ between (ordered db subscription legacy periodStart periodEnd))
    (ht : t ∈ span.toSet)
    (hx : periodStart < x → x < periodEnd → x ∈ cutPoints periodStart periodEnd
      (persistedVersionsCovering db subscription periodStart periodEnd) legacy) :
    x ≤ span.start ∨ t < x := by
  have hstart : span.start ∈ Set.Ico periodStart periodEnd := by
    rw [← (tiles_ordered h).covered_eq]
    exact ⟨span, hspan, span.start_mem⟩
  have hin : t ∈ Set.Ico periodStart periodEnd := by
    rw [← (tiles_ordered h).covered_eq]
    exact ⟨span, hspan, ht⟩
  by_cases hleft : x ≤ periodStart
  · exact .inl (hleft.trans hstart.1)
  by_cases hright : periodEnd ≤ x
  · exact .inr (hin.2.trans_le hright)
  have hcut := hx (not_le.mp hleft) (not_le.mp hright)
  rcases not_mem_between pairwise_ordered span hspan x (mem_ordered.mpr hcut) with hle | hle
  · exact .inl hle
  · exact .inr (ht.2.trans_le hle)

/-- The versions in force do not change inside a piece. -/
lemma inForce_eq (h : periodStart ≤ periodEnd)
    (hspan : span ∈ between (ordered db subscription legacy periodStart periodEnd))
    (ht : t ∈ span.toSet) : inForce db subscription span.start = inForce db subscription t := by
  have hbounds : ∀ u ∈ span.toSet, u ∈ Set.Ico periodStart periodEnd := by
    intro u hu
    rw [← (tiles_ordered h).covered_eq]
    exact ⟨span, hspan, hu⟩
  refine congrArg (List.insertionSort precedes) (List.filter_congr fun row hrow => ?_)
  rw [decide_eq_decide, and_congr_right_iff]
  intro hgoverns
  -- a version in force somewhere in the piece overlaps the period, so its edges are cut points
  have hedge : (row.Covers span.start ∨ row.Covers t) →
      ∀ x, x ∈ row.effectiveFrom :: row.effectiveTo.toList → x ≤ span.start ∨ t < x := by
    intro hcovers x hx
    refine edge_outside h hspan ht fun hleft hright => ?_
    refine List.mem_cons_of_mem _ (List.mem_cons_of_mem _ (List.mem_filter.mpr ⟨?_, ?_⟩))
    · refine List.mem_append_left _ (List.mem_flatMap.mpr ⟨row, ?_, hx⟩)
      refine (List.perm_insertionSort _ _).mem_iff.mpr (List.mem_filter.mpr ⟨hrow, ?_⟩)
      refine decide_eq_true ⟨hgoverns, ?_⟩
      rcases hcovers with hc | hc
      · have hu := hbounds span.start span.start_mem
        exact ⟨hc.1.trans_lt hu.2, fun e he => hu.1.trans_lt (hc.2 e he)⟩
      · have hu := hbounds t ht
        exact ⟨hc.1.trans_lt hu.2, fun e he => hu.1.trans_lt (hc.2 e he)⟩
    · exact decide_eq_true ⟨hleft, hright⟩
  have hiff : (row.Covers span.start ∨ row.Covers t) → (row.Covers span.start ↔ row.Covers t) := by
    intro hcovers
    refine covers_iff_of_no_edge ht.1 (hedge hcovers _ List.mem_cons_self) fun x hx => ?_
    exact hedge hcovers x (List.mem_cons_of_mem _ (Option.mem_toList.mpr hx))
  constructor
  · intro hc
    exact (hiff (.inl hc)).mp hc
  · intro hc
    exact (hiff (.inr hc)).mpr hc

lemma legacy_covers_iff {policy : SlaPolicyVersion} (h : periodStart ≤ periodEnd)
    (hpolicy : legacy = some policy)
    (hspan : span ∈ between (ordered db subscription legacy periodStart periodEnd))
    (ht : t ∈ span.toSet) : policy.Covers span.start ↔ policy.Covers t := by
  have hedge : ∀ x, x ∈ policy.effectiveFrom :: policy.effectiveTo.toList →
      x ≤ span.start ∨ t < x := by
    intro x hx
    refine edge_outside h hspan ht fun hleft hright => ?_
    refine List.mem_cons_of_mem _ (List.mem_cons_of_mem _ (List.mem_filter.mpr ⟨?_, ?_⟩))
    · refine List.mem_append_right _ (List.mem_flatMap.mpr ⟨policy, ?_, hx⟩)
      rw [hpolicy]
      exact List.mem_singleton_self policy
    · exact decide_eq_true ⟨hleft, hright⟩
  refine covers_iff_of_no_edge ht.1 (hedge _ List.mem_cons_self) fun x hx => ?_
  exact hedge x (List.mem_cons_of_mem _ (Option.mem_toList.mpr hx))

lemma winner_eq (h : periodStart ≤ periodEnd)
    (hspan : span ∈ between (ordered db subscription legacy periodStart periodEnd))
    (ht : t ∈ span.toSet) :
    winner db subscription legacy span.start = winner db subscription legacy t := by
  have hlegacy : legacy.filter (fun policy => policy.Covers span.start)
      = legacy.filter fun policy => policy.Covers t := by
    cases hp : legacy with
    | none => rfl
    | some policy =>
      rw [Option.filter_some, Option.filter_some]
      simp only [decide_eq_true_eq, legacy_covers_iff h hp hspan ht]
  rw [winner, winner, inForce_eq h hspan ht, hlegacy]

lemma policySegmentsForPeriod_eq (h : legacyOfferPolicy db subscription = .ok legacy) :
    policySegmentsForPeriod db subscription periodStart periodEnd
      = .ok ((between (ordered db subscription legacy periodStart periodEnd)).map fun span =>
          ⟨span, winner db subscription legacy span.start⟩) := by
  have hloop : ∀ spans : List Span, (spans.mapM fun span => do
      let policy ← resolveEffectivePolicy db subscription span.start
      return ({ span, policy } : PolicySegment))
      = .ok (spans.map fun span => ⟨span, winner db subscription legacy span.start⟩) := by
    intro spans
    induction spans with
    | nil => rfl
    | cons span spans ih =>
      rw [List.mapM_cons, resolveEffectivePolicy_eq h, ok_bind, ih]
      rfl
  rw [policySegmentsForPeriod, h, ok_bind]
  exact hloop _

/-- **The segments are the resolver, piece by piece.**  Unless the profile of the subscribed offer
names a target no contract may name, the segments tile the period and each has the policy of every
instant in it; with such a profile the segments and the resolver refuse alike. -/
theorem policySegments_resolve (db : SlaDb) (subscription : Subscription)
    (periodStart periodEnd : ℤ) (h : periodStart ≤ periodEnd) :
    (LegacyTargetValid db subscription → ∃ segments,
      policySegmentsForPeriod db subscription periodStart periodEnd = .ok segments ∧
      Tiles (segments.map PolicySegment.span) periodStart periodEnd ∧
      ∀ segment ∈ segments, ∀ t ∈ segment.span.toSet,
        resolveEffectivePolicy db subscription t = .ok segment.policy) ∧
    (¬ LegacyTargetValid db subscription →
      policySegmentsForPeriod db subscription periodStart periodEnd
        = .error (valueError "availability target must be within (0, 100]") ∧
      ∀ t, resolveEffectivePolicy db subscription t
        = .error (valueError "availability target must be within (0, 100]")) := by
  constructor
  · intro hvalid
    obtain ⟨legacy, hlegacy⟩ := legacyOfferPolicy_of_valid hvalid
    refine ⟨_, policySegmentsForPeriod_eq hlegacy, ?_, ?_⟩
    · rw [List.map_map]
      simpa [Function.comp_def] using tiles_ordered h
    · intro segment hsegment t ht
      obtain ⟨span, hspan, rfl⟩ := List.mem_map.mp hsegment
      rw [resolveEffectivePolicy_eq hlegacy, winner_eq h hspan ht]
  · intro hinvalid
    have hlegacy := legacyOfferPolicy_of_invalid hinvalid
    constructor
    · rw [policySegmentsForPeriod, hlegacy]
      rfl
    · intro t
      rw [resolveEffectivePolicy, mapM_rowToPolicy, ok_bind, hlegacy]
      rfl

/-- An account's contract that starts at instant 40, for a subscription whose offer has a profile
with the given uptime. -/
def contractFrom40 (uptime : Numeric 2) : SlaDb where
  policies := {
    rows := [{
      id := 0, scope := .account 0, version := 1, effectiveFrom := 40, effectiveTo := none
      availabilityTargetPercent := some ⟨995 / 10, 99500, by norm_num⟩
      calendarTimezone := slaCalendarTimezone, maintenanceExcludable := true
      creditPercentPerBreach := none, creditCapPercent := none, contractReference := none
      establishedBy := none, supersedesId := none, commandFingerprint := none
      commandIdempotencyKey := none
      version_pos := le_rfl
      range := nofun
      target_bounds := by decide +kernel
      contractual_target := .inr rfl }]
    next := 1
    nodup := by decide
    fresh := by decide }
  profiles := ⟨[⟨0, some uptime, none, 0⟩], 1, by simp, by simp [Row.id]⟩
  offers := ⟨[⟨0, none, some 0⟩], 1, by decide, by decide⟩
  subscriptions := ⟨[⟨0, 0, 0⟩], 1, by decide, by decide⟩
  subscribers := ⟨[⟨0⟩], 1, by decide, by decide⟩

theorem contractFrom40_segments : ∃ segments,
    policySegmentsForPeriod (contractFrom40 (.store 2 99)) ⟨0, 0, 0⟩ 0 100 = .ok segments ∧
    Tiles (segments.map PolicySegment.span) 0 100 ∧
    ∀ segment ∈ segments, ∀ t ∈ segment.span.toSet,
      resolveEffectivePolicy (contractFrom40 (.store 2 99)) ⟨0, 0, 0⟩ t = .ok segment.policy :=
  (policySegments_resolve (contractFrom40 (.store 2 99)) ⟨0, 0, 0⟩ 0 100 (by decide)).1
    (by decide +kernel)

/-- A profile that promises no uptime at all is stored and cannot be resolved, so its period has no
segments. -/
theorem zeroUptime_no_segments :
    ¬ ∀ (db : SlaDb) (subscription : Subscription) (periodStart periodEnd : ℤ),
      periodStart ≤ periodEnd → ∃ segments,
        policySegmentsForPeriod db subscription periodStart periodEnd = .ok segments ∧
        Tiles (segments.map PolicySegment.span) periodStart periodEnd ∧
        ∀ segment ∈ segments, ∀ t ∈ segment.span.toSet,
          resolveEffectivePolicy db subscription t = .ok segment.policy := by
  intro h
  obtain ⟨segments, hok, -⟩ := h (contractFrom40 (.store 2 0)) ⟨0, 0, 0⟩ 0 100 (by decide)
  have hinvalid : ¬ LegacyTargetValid (contractFrom40 (.store 2 0)) ⟨0, 0, 0⟩ := by decide +kernel
  have hrefused : legacyOfferPolicy (contractFrom40 (.store 2 0)) ⟨0, 0, 0⟩
      = .error (valueError "availability target must be within (0, 100]") :=
    legacyOfferPolicy_of_invalid hinvalid
  rw [policySegmentsForPeriod, hrefused] at hok
  cases hok

end DotmacSub.Sla
