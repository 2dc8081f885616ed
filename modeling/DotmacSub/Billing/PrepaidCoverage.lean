import DotmacSub.Core.Sweeps
import DotmacSub.Models.ServiceExtension
import Mathlib.Order.MinMax

/-!
# Coverage of a prepaid service

`prepaid_service_coverage`: funded entitlements and the grants of applied extensions are the evidence
that a prepaid service is paid for.  One reader decides an instant and the other lists a period; a
billing anchor in the future without evidence is unresolved for both.
-/

namespace DotmacSub.PrepaidCoverage

open Store Sweeps ServiceExtensions

inductive PrepaidCoverageSource
  | fundedEntitlement
  | serviceExtensionGrant
deriving DecidableEq

inductive PrepaidCoverageStatus
  | covered
  | uncoveredDue
  | unresolvedProjection
deriving DecidableEq

structure PrepaidCoverageEvidence where
  source : PrepaidCoverageSource
  sourceId : ℕ
  startsAt : ℤ
  endsAt : ℤ
deriving DecidableEq

structure PrepaidServiceCoverageDecision where
  subscriptionId : ℕ
  accountId : ℕ
  asOf : ℤ
  status : PrepaidCoverageStatus
  evidence : Option PrepaidCoverageEvidence
  projectedPaidThrough : Option ℤ
deriving DecidableEq

/-- One funded or granted interval, clipped to the period that was asked for. -/
structure PrepaidCoverageInterval where
  subscriptionId : ℕ
  source : PrepaidCoverageSource
  sourceId : ℕ
  startsAt : ℤ
  endsAt : ℤ
deriving DecidableEq

structure PrepaidCoveragePeriodHistory where
  subscriptionId : ℕ
  periodStart : ℤ
  periodEnd : ℤ
  intervals : List PrepaidCoverageInterval
  complete : Bool
  issues : List String
deriving DecidableEq

structure CoverageDb where
  entitlements : Table ServiceEntitlement
  extensions : Table ServiceExtension
  entries : Table ServiceExtensionEntry

/-- A row that a decision may rest on. -/
structure Grant where
  subscriptionId : ℕ
  source : PrepaidCoverageSource
  sourceId : ℕ
  startsAt : ℤ
  endsAt : ℤ
deriving DecidableEq

namespace CoverageDb

variable (db : CoverageDb)

def funded : List Grant :=
  db.entitlements.rows.filterMap fun row =>
    if row.status = .active then
      some ⟨row.subscriptionId, .fundedEntitlement, row.id, row.startsAt, row.endsAt⟩
    else none

/-- The entries of applied extensions that have a grant. -/
def granted : List Grant :=
  db.entries.rows.filterMap fun row => do
    let extension ← db.extensions.get? row.extensionId
    let startsAt ← row.grantStartsAt
    let endsAt ← row.grantEndsAt
    if extension.status = .applied then
      some ⟨row.subscriptionId, .serviceExtensionGrant, row.id, startsAt, endsAt⟩
    else none

end CoverageDb

/-- The order of the evidence: by subscription, the latest start first, then the latest row. -/
def Grant.rank (g : Grant) : ℕ ×ₗ ℤᵒᵈ ×ₗ ℕᵒᵈ :=
  toLex (g.subscriptionId, toLex (OrderDual.toDual g.startsAt, OrderDual.toDual g.sourceId))

/-- The rows of a cohort that hold at an instant. -/
def current (subscriptionIds : List ℕ) (observedAt : ℤ) (grants : List Grant) : List Grant :=
  sortedBy Grant.rank (grants.filter fun g =>
    g.subscriptionId ∈ subscriptionIds ∧ g.startsAt ≤ observedAt ∧ observedAt < g.endsAt)

def evidence (db : CoverageDb) (subscriptionIds : List ℕ) (observedAt : ℤ) (subscriptionId : ℕ) :
    Option PrepaidCoverageEvidence :=
  ((current subscriptionIds observedAt db.funded ++ current subscriptionIds observedAt db.granted).find?
    (·.subscriptionId = subscriptionId)).map fun g => ⟨g.source, g.sourceId, g.startsAt, g.endsAt⟩

def decision (db : CoverageDb) (subscriptionIds : List ℕ) (observedAt : ℤ)
    (subscription : Subscription) : PrepaidServiceCoverageDecision :=
  let currentEvidence := evidence db subscriptionIds observedAt subscription.id
  let projectedFuture := ∃ paidThrough ∈ subscription.nextBillingAt, observedAt < paidThrough
  { subscriptionId := subscription.id
    accountId := subscription.subscriberId
    asOf := observedAt
    status := if currentEvidence.isSome then .covered
      else if projectedFuture then .unresolvedProjection else .uncoveredDue
    evidence := currentEvidence
    projectedPaidThrough := subscription.nextBillingAt }

/-- The coverage of each subscription at an instant. -/
def resolvePrepaidServiceCoverage (db : CoverageDb) (subscriptions : List Subscription)
    (observedAt : ℤ) : List PrepaidServiceCoverageDecision :=
  subscriptions.map (decision db (subscriptions.map (·.id)) observedAt)

def coversPeriod (intervals : List PrepaidCoverageInterval) (start stop : ℤ) : Bool :=
  covers (fun i : PrepaidCoverageInterval => max i.startsAt start) (fun i => min i.endsAt stop) stop
    start (sortedBy (fun i => toLex (i.startsAt, i.endsAt)) intervals)

def clipped (subscription : Subscription) (start stop : ℤ) (grants : List Grant) :
    List PrepaidCoverageInterval :=
  (grants.filter fun g =>
    g.subscriptionId = subscription.id ∧ g.startsAt < stop ∧ start < g.endsAt).map fun g =>
      ⟨subscription.id, g.source, g.sourceId, max g.startsAt start, min g.endsAt stop⟩

/-- Why a history is not complete: the anchor claims time that the intervals do not cover. -/
def issues (subscription : Subscription) (start stop : ℤ)
    (intervals : List PrepaidCoverageInterval) : List String :=
  let projectedStart := max start (subscription.startAt.getD start)
  let projectedEnd := (subscription.nextBillingAt.map (min stop)).getD start
  if projectedStart < projectedEnd ∧ ¬coversPeriod intervals projectedStart projectedEnd then
    ["unresolved_paid_through_projection"]
  else []

/-- The intervals of a period in order, and whether they account for the anchor. -/
def prepaidCoverageHistoryForPeriod (db : CoverageDb) (subscription : Subscription)
    (start stop : ℤ) : Except String PrepaidCoveragePeriodHistory :=
  if stop ≤ start then .error "Prepaid coverage history requires a positive UTC period"
  else
    let intervals := clipped subscription start stop db.funded
      ++ clipped subscription start stop db.granted
    .ok
      { subscriptionId := subscription.id
        periodStart := start
        periodEnd := stop
        intervals := sortedBy (fun i => toLex (i.startsAt, toLex (i.endsAt, i.sourceId))) intervals
        complete := (issues subscription start stop intervals).isEmpty
        issues := issues subscription start stop intervals }

/-- Some evidence of the subscription holds at the instant. -/
def Covered (db : CoverageDb) (subscriptionId : ℕ) (t : ℤ) : Prop :=
  ∃ g ∈ db.funded ++ db.granted, g.subscriptionId = subscriptionId ∧ g.startsAt ≤ t ∧ t < g.endsAt

def decisionFor (db : CoverageDb) (cohort : List Subscription) (observedAt : ℤ)
    (subscriptionId : ℕ) : Option PrepaidServiceCoverageDecision :=
  (resolvePrepaidServiceCoverage db cohort observedAt).find? (·.subscriptionId = subscriptionId)

variable {db : CoverageDb} {subscription : Subscription} {cohort : List Subscription}
  {start stop t : ℤ} {grants : List Grant} {g : Grant}

@[simp] lemma mem_current {subscriptionIds : List ℕ} : g ∈ current subscriptionIds t grants ↔
    g ∈ grants ∧ g.subscriptionId ∈ subscriptionIds ∧ g.startsAt ≤ t ∧ t < g.endsAt := by
  simp [current]

lemma isSome_evidence {subscriptionIds : List ℕ} {id : ℕ} (hmem : id ∈ subscriptionIds) :
    (evidence db subscriptionIds t id).isSome = true ↔ Covered db id t := by
  rw [evidence, Option.isSome_map, List.find?_isSome]
  simp only [decide_eq_true_eq, Covered, List.mem_append, mem_current]
  constructor
  · rintro ⟨g, (⟨hg, -, ht⟩ | ⟨hg, -, ht⟩), rfl⟩
    · exact ⟨g, .inl hg, rfl, ht⟩
    · exact ⟨g, .inr hg, rfl, ht⟩
  · rintro ⟨g, hg | hg, rfl, ht⟩
    · exact ⟨g, .inl ⟨hg, hmem, ht⟩, rfl⟩
    · exact ⟨g, .inr ⟨hg, hmem, ht⟩, rfl⟩

/-- The interval of a grant holds the same instants of the period as the grant. -/
lemma exists_mem_clipped (hstart : start ≤ t) (hstop : t < stop) :
    (∃ i ∈ clipped subscription start stop grants, i.startsAt ≤ t ∧ t < i.endsAt) ↔
      ∃ g ∈ grants, g.subscriptionId = subscription.id ∧ g.startsAt ≤ t ∧ t < g.endsAt := by
  simp only [clipped, List.mem_map, List.mem_filter, decide_eq_true_eq]
  constructor
  · rintro ⟨_, ⟨g, ⟨hg, hid, -, -⟩, rfl⟩, hle, hlt⟩
    exact ⟨g, hg, hid, (le_max_left _ _).trans hle, hlt.trans_le (min_le_left _ _)⟩
  · rintro ⟨g, hg, hid, hle, hlt⟩
    exact ⟨_, ⟨g, ⟨hg, hid, hle.trans_lt hstop, hstart.trans_lt hlt⟩, rfl⟩, max_le hle hstart,
      lt_min hlt hstop⟩

/-- The intervals of a history, before they are put in order. -/
def intervalsOf (db : CoverageDb) (subscription : Subscription) (start stop : ℤ) :
    List PrepaidCoverageInterval :=
  clipped subscription start stop db.funded ++ clipped subscription start stop db.granted

lemma exists_mem_intervalsOf (hstart : start ≤ t) (hstop : t < stop) :
    (∃ i ∈ intervalsOf db subscription start stop, i.startsAt ≤ t ∧ t < i.endsAt) ↔
      Covered db subscription.id t := by
  simp only [intervalsOf, Covered, List.mem_append, or_and_right, exists_or,
    exists_mem_clipped hstart hstop]

/-- The sweep decides whether every instant of the range is in an interval. -/
lemma coversPeriod_iff {intervals : List PrepaidCoverageInterval} (h : start < stop) :
    coversPeriod intervals start stop = true ↔
      ∀ t, start ≤ t → t < stop → ∃ i ∈ intervals, i.startsAt ≤ t ∧ t < i.endsAt := by
  have hsorted : (sortedBy (fun i : PrepaidCoverageInterval => toLex (i.startsAt, i.endsAt))
      intervals).Pairwise fun a b => max a.startsAt start ≤ max b.startsAt start := by
    refine pairwise_sortedBy.imp fun {a b} hab => max_le_max_right start ?_
    exact Prod.Lex.monotone_fst _ _ hab
  rw [coversPeriod, covers_iff hsorted h]
  refine forall₃_congr fun t hstart hstop => ?_
  simp only [mem_sortedBy, max_le_iff, lt_min_iff, hstart, hstop, and_true]

lemma find_cohort (hmem : subscription ∈ cohort) (hids : (cohort.map (·.id)).Nodup) :
    cohort.find? (·.id = subscription.id) = some subscription := by
  have hsome : (cohort.find? (·.id = subscription.id)).isSome :=
    List.find?_isSome.mpr ⟨subscription, hmem, decide_eq_true rfl⟩
  obtain ⟨found, hfound⟩ := Option.isSome_iff_exists.mp hsome
  have hid : found.id = subscription.id := of_decide_eq_true (List.find?_some hfound :)
  rw [hfound, List.inj_on_of_nodup_map hids (List.mem_of_find?_eq_some hfound) hmem hid]

lemma decisionFor_eq (hmem : subscription ∈ cohort) (hids : (cohort.map (·.id)).Nodup) :
    decisionFor db cohort t subscription.id = some (decision db (cohort.map (·.id)) t subscription) := by
  rw [decisionFor, resolvePrepaidServiceCoverage, List.find?_map]
  exact congrArg (Option.map _) (find_cohort hmem hids)

lemma status_decision {subscriptionIds : List ℕ} (hid : subscription.id ∈ subscriptionIds) :
    ((decision db subscriptionIds t subscription).status = .covered ↔
      Covered db subscription.id t) ∧
    ((decision db subscriptionIds t subscription).status = .unresolvedProjection ↔
      ¬Covered db subscription.id t ∧ ∃ paidThrough ∈ subscription.nextBillingAt, t < paidThrough) := by
  rw [← isSome_evidence hid, decision]
  dsimp only
  split_ifs with hevidence hfuture
  · exact ⟨iff_of_true rfl hevidence, iff_of_false nofun fun h => h.1 hevidence⟩
  · exact ⟨iff_of_false nofun hevidence, iff_of_true rfl ⟨hevidence, hfuture⟩⟩
  · exact ⟨iff_of_false nofun hevidence, iff_of_false nofun fun h => hfuture h.2⟩

/-- The history is complete if the anchor claims no instant that is not covered. -/
lemma issues_eq_nil_iff :
    issues subscription start stop (intervalsOf db subscription start stop) = [] ↔
      ∀ t, max start (subscription.startAt.getD start) ≤ t → t < stop →
        (∃ paidThrough ∈ subscription.nextBillingAt, t < paidThrough) →
        Covered db subscription.id t := by
  rw [issues]
  cases hnext : subscription.nextBillingAt with
  | none => simp
  | some paidThrough =>
    simp only [Option.map_some, Option.getD_some, Option.mem_some_iff, exists_eq_left']
    by_cases hspan : max start (subscription.startAt.getD start) < min stop paidThrough
    · have hcovers : coversPeriod (intervalsOf db subscription start stop)
          (max start (subscription.startAt.getD start)) (min stop paidThrough) = true ↔ _ :=
        coversPeriod_iff hspan
      rw [ite_eq_right_iff]
      simp only [hspan, true_and, reduceCtorEq, imp_false, not_not, hcovers, lt_min_iff]
      refine forall₂_congr fun t ht => ?_
      rw [and_imp]
      refine forall₂_congr fun hstop _ => ?_
      exact exists_mem_intervalsOf ((le_max_left _ _).trans ht) hstop
    · refine iff_of_true (if_neg fun h => hspan h.1) fun t ht hstop hpaid => ?_
      exact absurd (ht.trans_lt (lt_min hstop hpaid)) hspan

/-- **The history of a period agrees with the decision** at each of its instants, and is complete
exactly if no instant from the start of the service on is an unresolved projection. -/
theorem history_agrees (db : CoverageDb) {subscription : Subscription} {cohort : List Subscription}
    {start stop : ℤ} (hmem : subscription ∈ cohort) (hids : (cohort.map (·.id)).Nodup)
    (h : start < stop) :
    ∃ history, prepaidCoverageHistoryForPeriod db subscription start stop = .ok history ∧
      (∀ t, start ≤ t → t < stop → ∃ d, decisionFor db cohort t subscription.id = some d ∧
        (d.status = .covered ↔ ∃ i ∈ history.intervals, i.startsAt ≤ t ∧ t < i.endsAt)) ∧
      (history.complete = true ↔ ∀ t, max start (subscription.startAt.getD start) ≤ t → t < stop →
        ∀ d, decisionFor db cohort t subscription.id = some d →
          d.status ≠ .unresolvedProjection) := by
  have hid : subscription.id ∈ cohort.map (·.id) := List.mem_map_of_mem hmem
  refine ⟨_, if_neg h.not_ge, fun t hstart hstop => ?_, ?_⟩
  · refine ⟨_, decisionFor_eq hmem hids, (status_decision hid).1.trans ?_⟩
    rw [← exists_mem_intervalsOf hstart hstop]
    simp only [mem_sortedBy]
    rfl
  · rw [List.isEmpty_iff]
    refine issues_eq_nil_iff.trans ?_
    refine forall₃_congr fun t _ _ => ?_
    rw [decisionFor_eq hmem hids]
    simp only [Option.some.injEq, forall_eq', ne_eq, (status_decision hid).2, not_and']
    exact imp_congr_right fun _ => not_not.symm

/-- A service that is paid up to an extension, which is granted, and claims one instant more. -/
theorem history_agrees_granted :
    let subscription : Subscription := ⟨1, 1, .active, some 0, some 31, none⟩
    let db : CoverageDb :=
      { entitlements := Table.empty.insert (fun id => ⟨id, 1, .active, 0, 20⟩) fun _ => rfl
        extensions := Table.empty.insert
          (fun id => ⟨id, 1, by decide, .network, .applied, 1, 0, 0, 0, none, none, some 20⟩) fun _ => rfl
        entries := Table.empty.insert
          (fun id => ⟨id, 0, 1, some 20, some 20, some 30, some .existingBillingAnchor, some 30⟩)
          fun _ => rfl }
    ∃ history, prepaidCoverageHistoryForPeriod db subscription 10 40 = .ok history ∧
      (∀ t, 10 ≤ t → t < 40 → ∃ d, decisionFor db [subscription] t subscription.id = some d ∧
        (d.status = .covered ↔ ∃ i ∈ history.intervals, i.startsAt ≤ t ∧ t < i.endsAt)) ∧
      (history.complete = true ↔ ∀ t, max 10 (subscription.startAt.getD 10) ≤ t → t < 40 →
        ∀ d, decisionFor db [subscription] t subscription.id = some d →
          d.status ≠ .unresolvedProjection) :=
  history_agrees _ (List.mem_singleton_self _) (List.nodup_singleton _) (by decide)

end DotmacSub.PrepaidCoverage
