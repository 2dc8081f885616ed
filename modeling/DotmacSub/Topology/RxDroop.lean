import DotmacSub.Core.Decimal
import DotmacSub.Core.SingleLink
import Mathlib.Data.Prod.Lex

/-!
# Correlated loss of signal

`detect_rx_droop` of `services/topology/splice_inference.py`: ONTs of a PON that lost signal are
sorted by their loss, and a cluster goes on while the next loss is close to the previous one.
-/

namespace DotmacSub.Topology

open Decimal SingleLink

structure OntSignalObservation where
  ontUnitId : ℕ
  ponPortId : Option ℕ
  rxSignalDbm : Option ℚ
  observedAt : ℤ
deriving DecidableEq

def loadObservations (rows : List OntSignalObservation) (ponPortId : ℕ) (window now : ℤ) :
    List OntSignalObservation :=
  (rows.filter fun o => o.ponPortId = some ponPortId ∧ now - window ≤ o.observedAt).mergeSort
    fun a b => a.observedAt ≤ b.observedAt

structure Reading where
  ontUnitId : ℕ
  first : ℚ
  last : ℚ
deriving DecidableEq

/-- The loop body over snapshots. -/
def observe (seen : List Reading) (o : OntSignalObservation) : List Reading :=
  match o.rxSignalDbm with
  | none => seen
  | some rx =>
    if seen.any (·.ontUnitId = o.ontUnitId) then
      seen.map fun r => if r.ontUnitId = o.ontUnitId then { r with last := rx } else r
    else seen ++ [⟨o.ontUnitId, rx, rx⟩]

/-- The first and the last valid reading of each ONT. -/
def readings (obs : List OntSignalObservation) : List Reading := obs.foldl observe []

/-- An ONT must lose at least this much to count as drooping. -/
def rxDroopMinDb : ℚ := 2

/-- Two losses agree when they differ by at most this much. -/
def rxCorrelationToleranceDb : ℚ := 1

def minBranchSize : ℕ := 2

def droops (obs : List OntSignalObservation) : List (ℕ × ℚ) :=
  (readings obs).filterMap fun r =>
    if r.last - r.first ≤ -rxDroopMinDb then some (r.ontUnitId, r.last - r.first) else none

def ordered (obs : List OntSignalObservation) : List (ℕ × ℚ) :=
  (droops obs).mergeSort fun a b => toLex (a.2, a.1) ≤ toLex (b.2, b.1)

structure RxCluster where
  ontUnitIds : List ℕ
  sharedShiftDb : ℚ
  confidence : String
deriving DecidableEq

def rxCluster (cluster : List (ℕ × ℚ)) : RxCluster where
  ontUnitIds := (cluster.map Prod.fst).mergeSort
  sharedShiftDb := quantize halfEven 2 ((cluster.map Prod.snd).sum / cluster.length)
  confidence := if 3 ≤ cluster.length then "high" else "medium"

/-- The reports about a list of snapshots: a cluster goes on while the next change is within the
tolerance of the previous one. -/
def rxClusters (obs : List OntSignalObservation) : List RxCluster :=
  (((singleLink Prod.snd rxCorrelationToleranceDb (ordered obs)).filter fun cluster =>
    minBranchSize ≤ cluster.length).map rxCluster).mergeSort fun a b =>
      b.ontUnitIds.length ≤ a.ontUnitIds.length

def detectRxDroop (rows : List OntSignalObservation) (ponPortId : ℕ) (window now : ℤ) :
    List RxCluster :=
  rxClusters (loadObservations rows ponPortId window now)

/-- The valid readings of an ONT in their order. -/
def rxOf (obs : List OntSignalObservation) (ont : ℕ) : List ℚ :=
  obs.filterMap fun o => if o.ontUnitId = ont then o.rxSignalDbm else none

/-- The ONT lost at least the minimum between its first and its last valid reading. -/
def Droops (obs : List OntSignalObservation) (ont : ℕ) (delta : ℚ) : Prop :=
  ∃ base latest, (rxOf obs ont).head? = some base ∧ (rxOf obs ont).getLast? = some latest ∧
    delta = latest - base ∧ delta ≤ -rxDroopMinDb

lemma Droops.unique {obs : List OntSignalObservation} {ont : ℕ} {d e : ℚ} (hd : Droops obs ont d)
    (he : Droops obs ont e) : d = e := by
  obtain ⟨b, l, hb, hl, rfl, -⟩ := hd
  obtain ⟨b', l', hb', hl', rfl, -⟩ := he
  rw [Option.mem_unique hb hb', Option.mem_unique hl hl']

def Collected (obs : List OntSignalObservation) (r : Reading) : Prop :=
  (rxOf obs r.ontUnitId).head? = some r.first ∧ (rxOf obs r.ontUnitId).getLast? = some r.last

lemma rxOf_concat (obs : List OntSignalObservation) (o : OntSignalObservation) (ont : ℕ) :
    rxOf (obs ++ [o]) ont
      = rxOf obs ont ++ if o.ontUnitId = ont then o.rxSignalDbm.toList else [] := by
  rw [rxOf, List.filterMap_append]
  refine congrArg (rxOf obs ont ++ ·) ?_
  split_ifs with h <;> cases hrx : o.rxSignalDbm <;> simp [h, hrx]

/-- Of the readings of another ONT, a snapshot changes nothing. -/
lemma mem_observe_of_ne {seen : List Reading} {o : OntSignalObservation} {r : Reading}
    (h : o.ontUnitId ≠ r.ontUnitId) : r ∈ observe seen o ↔ r ∈ seen := by
  rw [observe]
  split
  · rfl
  split_ifs
  · rw [List.mem_map]
    constructor
    · rintro ⟨r', hr', rfl⟩
      split_ifs at h ⊢ with hid
      · exact absurd hid.symm h
      · exact hr'
    · exact fun hr => ⟨r, hr, if_neg (Ne.symm h)⟩
  · rw [List.mem_append, List.mem_singleton, or_iff_left]
    rintro rfl
    exact h rfl

lemma mem_observe_of_eq {seen : List Reading} {o : OntSignalObservation} {r : Reading} {rx : ℚ}
    (hrx : o.rxSignalDbm = some rx) (h : o.ontUnitId = r.ontUnitId) :
    r ∈ observe seen o ↔ r.last = rx ∧ ((∃ last, { r with last } ∈ seen) ∨
      r.first = rx ∧ ∀ r' ∈ seen, r'.ontUnitId ≠ r.ontUnitId) := by
  simp only [observe, hrx, List.any_eq_true, decide_eq_true_eq]
  split_ifs with hseen
  · obtain ⟨s, hs, hid⟩ := hseen
    rw [List.mem_map]
    constructor
    · rintro ⟨r', hr', rfl⟩
      split_ifs at h ⊢ with hid'
      · exact ⟨rfl, .inl ⟨r'.last, hr'⟩⟩
      · exact absurd h.symm hid'
    · rintro ⟨hlast, ⟨last, hr⟩ | ⟨-, hnone⟩⟩
      · refine ⟨_, hr, ?_⟩
        rw [if_pos h.symm, ← hlast]
      · exact absurd (hid.trans h) (hnone s hs)
  · rw [List.mem_append, List.mem_singleton]
    constructor
    · rintro (hr | rfl)
      · exact absurd ⟨r, hr, h.symm⟩ hseen
      · exact ⟨rfl, .inr ⟨rfl, fun r' hr' hid => hseen ⟨r', hr', hid⟩⟩⟩
    · rintro ⟨hlast, ⟨last, hr⟩ | ⟨hfirst, -⟩⟩
      · exact absurd ⟨_, hr, h.symm⟩ hseen
      · refine .inr ?_
        cases r
        simp_all

/-- **The loop collects** the first and the last valid reading of every ONT. -/
theorem mem_readings (obs : List OntSignalObservation) (r : Reading) :
    r ∈ readings obs ↔ Collected obs r := by
  induction obs using List.reverseRecOn generalizing r with
  | nil => simp [readings, Collected, rxOf]
  | append_singleton obs o ih =>
    rw [readings, List.foldl_concat, ← readings, Collected, rxOf_concat]
    by_cases hid : o.ontUnitId = r.ontUnitId
    · cases hrx : o.rxSignalDbm with
      | none =>
        rw [observe, hrx, ih, Collected]
        simp
      | some rx =>
        rw [mem_observe_of_eq hrx hid, if_pos hid]
        simp only [ih, Collected, Option.toList_some, List.getLast?_concat, Option.some.injEq]
        cases hlist : rxOf obs r.ontUnitId with
        | nil =>
          have hnone : ∀ r' : Reading, (rxOf obs r'.ontUnitId).head? = some r'.first ∧
              (rxOf obs r'.ontUnitId).getLast? = some r'.last →
                r'.ontUnitId ≠ r.ontUnitId := by
            rintro r' ⟨hfirst, -⟩ hsame
            rw [hsame, hlist] at hfirst
            exact nomatch hfirst
          constructor
          · rintro ⟨hlast, ⟨_, hfirst, -⟩ | ⟨hfirst, -⟩⟩
            · exact nomatch hfirst
            · exact ⟨congrArg some hfirst.symm, hlast.symm⟩
          · rintro ⟨hfirst, hlast⟩
            exact ⟨hlast.symm, .inr ⟨(Option.some.inj hfirst).symm, hnone⟩⟩
        | cons a l =>
          obtain ⟨b, hlast'⟩ : ∃ b, (a :: l).getLast? = some b :=
            ⟨_, List.getLast?_eq_some_getLast (List.cons_ne_nil a l)⟩
          constructor
          · rintro ⟨hlast, ⟨_, hfirst, -⟩ | ⟨-, hnone⟩⟩
            · exact ⟨hfirst, hlast.symm⟩
            · refine absurd rfl (hnone ⟨r.ontUnitId, a, b⟩ ?_)
              rw [hlist]
              exact ⟨rfl, hlast'⟩
          · rintro ⟨hfirst, hlast⟩
            exact ⟨hlast.symm, .inl ⟨b, hfirst, hlast'⟩⟩
    · rw [mem_observe_of_ne hid, ih, if_neg hid, List.append_nil, Collected]

lemma mem_ordered {obs : List OntSignalObservation} {x : ℕ × ℚ} :
    x ∈ ordered obs ↔ Droops obs x.1 x.2 := by
  rw [ordered, List.mem_mergeSort, droops, List.mem_filterMap]
  constructor
  · rintro ⟨r, hr, h⟩
    split_ifs at h with hloss
    obtain rfl := Option.some.inj h
    obtain ⟨hfirst, hlast⟩ := (mem_readings obs r).mp hr
    exact ⟨r.first, r.last, hfirst, hlast, rfl, hloss⟩
  · rintro ⟨base, latest, hfirst, hlast, hdelta, hloss⟩
    refine ⟨⟨x.1, base, latest⟩, (mem_readings obs _).mpr ⟨hfirst, hlast⟩, ?_⟩
    rw [if_pos (hdelta ▸ hloss), ← hdelta]

lemma ordered_sorted (obs : List OntSignalObservation) :
    (ordered obs).Pairwise fun x y => x.2 ≤ y.2 := by
  have hsorted : (ordered obs).Pairwise fun a b : ℕ × ℚ =>
      decide (toLex (a.2, a.1) ≤ toLex (b.2, b.1)) :=
    List.pairwise_mergeSort (fun a b c hab hbc => decide_eq_true
      ((of_decide_eq_true hab).trans (of_decide_eq_true hbc))) (fun a b => by
        simpa using le_total (toLex (a.2, a.1)) (toLex (b.2, b.1))) (droops obs)
  refine hsorted.imp fun {a b} h => ?_
  rcases Prod.Lex.toLex_le_toLex.mp (of_decide_eq_true h) with hlt | ⟨heq, -⟩
  · exact hlt.le
  · exact heq.le

def Agree (obs : List OntSignalObservation) (x y : ℕ) : Prop :=
  ∃ d e, Droops obs x d ∧ Droops obs y e ∧ |e - d| ≤ rxCorrelationToleranceDb

def ReportedTogether (clusters : List RxCluster) (x y : ℕ) : Prop :=
  ∃ c ∈ clusters, x ∈ c.ontUnitIds ∧ y ∈ c.ontUnitIds

/-- Clusters of correlated losses: their ONTs droop, and two of them are together when a chain of
agreeing losses joins them. -/
structure SingleLinked (obs : List OntSignalObservation) (clusters : List RxCluster) : Prop where
  drooping : ∀ c ∈ clusters, ∀ x ∈ c.ontUnitIds, ∃ d, Droops obs x d
  together : ∀ x y, x ≠ y →
    (ReportedTogether clusters x y ↔ Relation.ReflTransGen (Agree obs) x y)
  agreeing : ∀ x y, x ≠ y → Agree obs x y → ReportedTogether clusters x y

variable {obs : List OntSignalObservation}

lemma mem_rxClusters {c : RxCluster} : c ∈ rxClusters obs ↔
    ∃ g ∈ singleLink Prod.snd rxCorrelationToleranceDb (ordered obs),
      minBranchSize ≤ g.length ∧ rxCluster g = c := by
  simp only [rxClusters, List.mem_mergeSort, List.mem_map, List.mem_filter, decide_eq_true_eq,
    and_assoc]

lemma mem_rxCluster {g : List (ℕ × ℚ)} {x : ℕ} :
    x ∈ (rxCluster g).ontUnitIds ↔ ∃ d, (x, d) ∈ g := by
  simp [rxCluster]

/-- Two different ONTs make a piece large enough to be reported. -/
lemma reportedTogether_iff {x y : ℕ} (hne : x ≠ y) : ReportedTogether (rxClusters obs) x y ↔
    ∃ d e, Together Prod.snd rxCorrelationToleranceDb (ordered obs) (x, d) (y, e) := by
  constructor
  · rintro ⟨c, hc, hx, hy⟩
    obtain ⟨g, hg, -, rfl⟩ := mem_rxClusters.mp hc
    obtain ⟨d, hd⟩ := mem_rxCluster.mp hx
    obtain ⟨e, he⟩ := mem_rxCluster.mp hy
    exact ⟨d, e, g, hg, hd, he⟩
  · rintro ⟨d, e, g, hg, hd, he⟩
    have hsize : minBranchSize ≤ g.length := by
      match g with
      | [] => exact absurd hd List.not_mem_nil
      | [z] =>
        rw [List.mem_singleton] at hd he
        exact absurd (congrArg Prod.fst (hd.trans he.symm)) hne
      | _ :: _ :: _ => exact Nat.le_add_left 2 _
    exact ⟨_, mem_rxClusters.mpr ⟨g, hg, hsize, rfl⟩, mem_rxCluster.mpr ⟨d, hd⟩,
      mem_rxCluster.mpr ⟨e, he⟩⟩

/-- A chain of agreeing ONTs is a chain of near changes. -/
lemma linked_iff {x y : ℕ} {d : ℚ} (hx : Droops obs x d) :
    Relation.ReflTransGen (Agree obs) x y ↔ ∃ e,
      Relation.ReflTransGen (Near Prod.snd rxCorrelationToleranceDb (ordered obs)) (x, d) (y, e) := by
  constructor
  · intro h
    induction h with
    | refl => exact ⟨d, .refl⟩
    | @tail y z _ hstep ih =>
      obtain ⟨e, he⟩ := ih
      obtain ⟨d', e', hd', he', hnear⟩ := hstep
      have hy : Droops obs y e := by
        rcases Relation.ReflTransGen.cases_tail he with heq | ⟨w, -, hw⟩
        · obtain ⟨rfl, rfl⟩ := Prod.mk.inj heq
          exact hx
        · exact mem_ordered.mp hw.2.1
      obtain rfl := hy.unique hd'
      exact ⟨e', he.tail ⟨mem_ordered.mpr hd', mem_ordered.mpr he', hnear⟩⟩
  · rintro ⟨e, h⟩
    refine h.lift Prod.fst fun p q hpq => ?_
    exact ⟨p.2, q.2, mem_ordered.mp hpq.1, mem_ordered.mp hpq.2.1, hpq.2.2⟩

lemma tolerance_nonneg : 0 ≤ rxCorrelationToleranceDb := by
  rw [rxCorrelationToleranceDb]
  norm_num

lemma rxClusters_together {x y : ℕ} (hne : x ≠ y) :
    ReportedTogether (rxClusters obs) x y ↔ Relation.ReflTransGen (Agree obs) x y := by
  rw [reportedTogether_iff hne]
  constructor
  · rintro ⟨d, e, g, hg, hx, hy⟩
    exact (linked_iff (mem_ordered.mp (mem_of_mem_singleLink hg hx))).mpr
      ⟨e, linked_of_mem hg hx hy⟩
  · intro h
    obtain ⟨z, hxz, -⟩ := (Relation.ReflTransGen.cases_head h).resolve_left hne
    obtain ⟨d, _, hx, -⟩ := hxz
    obtain ⟨e, he⟩ := (linked_iff hx).mp h
    exact ⟨d, e, (together_iff tolerance_nonneg (ordered_sorted obs) (mem_ordered.mpr hx)).mpr he⟩

/-- **Clusters are single-linked**: two ONTs are in one cluster exactly when a chain of drooping ONTs
with agreeing losses joins them. -/
theorem detectRxDroop_singleLinked (rows : List OntSignalObservation) (ponPortId : ℕ)
    (window now : ℤ) : SingleLinked (loadObservations rows ponPortId window now)
      (detectRxDroop rows ponPortId window now) := by
  refine ⟨fun c hc x hx => ?_, fun x y hne => rxClusters_together hne, fun x y hne h =>
    (rxClusters_together hne).mpr (.single h)⟩
  obtain ⟨g, hg, -, rfl⟩ := mem_rxClusters.mp hc
  obtain ⟨d, hd⟩ := mem_rxCluster.mp hx
  exact ⟨d, mem_ordered.mp (mem_of_mem_singleLink hg hd)⟩

/-- Three ONTs that lost two, three and four decibels. -/
def fading : List OntSignalObservation := [⟨1, some 1, some (-20), 0⟩, ⟨2, some 1, some (-20), 0⟩,
  ⟨3, some 1, some (-20), 0⟩, ⟨1, some 1, some (-22), 1⟩, ⟨2, some 1, some (-23), 1⟩,
  ⟨3, some 1, some (-24), 1⟩]

/-- **A chain joins losses that do not agree**: the first and the last ONT are in one cluster. -/
theorem fading_not_pairwise : ∃ c ∈ detectRxDroop fading 1 30 1, ∃ x ∈ c.ontUnitIds,
    ∃ y ∈ c.ontUnitIds, ∃ d e, Droops (loadObservations fading 1 30 1) x d ∧
      Droops (loadObservations fading 1 30 1) y e ∧ rxCorrelationToleranceDb < |e - d| := by
  have hload : loadObservations fading 1 30 1 = fading := by
    rw [loadObservations, show fading.filter _ = fading by decide]
    exact List.mergeSort_of_pairwise (by decide)
  have hlost (x : ℕ) (latest : ℚ) (h : rxOf fading x = [-20, latest])
      (hloss : latest - -20 ≤ -rxDroopMinDb) : Droops fading x (latest - -20) :=
    ⟨-20, latest, by rw [h]; rfl, by rw [h]; rfl, rfl, hloss⟩
  have hfirst := hlost 1 (-22) (by decide) (by decide +kernel)
  have hmiddle := hlost 2 (-23) (by decide) (by decide +kernel)
  have hlast := hlost 3 (-24) (by decide) (by decide +kernel)
  have hchain : Relation.ReflTransGen (Agree fading) 1 3 :=
    .tail (.single ⟨_, _, hfirst, hmiddle, by decide +kernel⟩)
      ⟨_, _, hmiddle, hlast, by decide +kernel⟩
  obtain ⟨c, hc, hx, hy⟩ := (rxClusters_together (by decide)).mpr hchain
  rw [detectRxDroop, hload]
  exact ⟨c, hc, 1, hx, 3, hy, _, _, hfirst, hlast, by decide +kernel⟩

end DotmacSub.Topology
