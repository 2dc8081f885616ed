import DotmacSub.Core.RouteCounts
import DotmacSub.Network.FiberInventory

/-!
# The path of a cable between two assets

`_validated_segment_path` of `services/fiber_topology.py`: the one shortest path over active segments
with geometry, from a termination of one asset to a termination of another.
-/

namespace DotmacSub.FiberTopology

open Store RouteCounts BreadthFirst

open FiberInventory (EndpointType)

structure FiberTerminationPoint where
  id : ℕ
  name : Option String
  endpointType : EndpointType
  refId : Option ℕ
  isActive : Bool

structure FiberSegment where
  id : ℕ
  name : String
  fromPointId : Option ℕ
  toPointId : Option ℕ
  hasRouteGeom : Bool
  isActive : Bool

instance : Row FiberTerminationPoint := ⟨FiberTerminationPoint.id⟩
instance : Row FiberSegment := ⟨FiberSegment.id⟩

structure FiberTraceHop where
  kind : String
  label : String
  assetId : ℕ
  evidence : String
  validation : String := "validated"
  operationalState : Option String := none
  splitterStage : Option ℕ := none
  insertionLossDb : Option String := none
  cumulativeSplitterLossDb : Option String := none

structure ValidatedSegmentPath where
  hops : List FiberTraceHop
  segmentIds : List ℕ
  errorCode : Option String := none
  errorMessage : Option String := none

structure FiberPlant where
  points : Table FiberTerminationPoint
  segments : Table FiberSegment

def endpointValue : EndpointType → String
  | .fdh => "fdh"
  | .fiberAccessPoint => "fiber_access_point"
  | .splitter => "splitter"
  | .splitterPort => "splitter_port"
  | .ponPort => "pon_port"
  | .oltPort => "olt_port"
  | .ont => "ont"
  | .terminal => "terminal"
  | .spliceClosure => "splice_closure"
  | .other => "other"

def terminationHop (point : FiberTerminationPoint) : FiberTraceHop :=
  let endpoint := endpointValue point.endpointType
  { kind := "termination"
    label := (point.name.filter (· ≠ "")).getD
      (" ".intercalate ((endpoint.splitOn "_").map String.capitalize))
    assetId := point.id
    evidence := "active FiberTerminationPoint (" ++ endpoint ++ ") with explicit ref_id " ++
      point.refId.elim "None" toString }

namespace FiberPlant

variable (plant : FiberPlant)

/-- The points that a path may use: active, and with a reference. -/
def referenced : List FiberTerminationPoint :=
  plant.points.rows.filter fun point => point.isActive && point.refId.isSome

def pointIds : List ℕ := plant.referenced.map (·.id)

def terminations (endpointType : EndpointType) (refId : ℕ) : List ℕ :=
  (plant.referenced.filter fun point =>
    point.endpointType = endpointType && point.refId = some refId).map (·.id)

/-- The two points that an operational segment joins. -/
def joined (segment : FiberSegment) : Option (ℕ × ℕ) := do
  let a ← segment.fromPointId
  let b ← segment.toPointId
  if segment.isActive ∧ segment.hasRouteGeom ∧ a ∈ plant.pointIds ∧ b ∈ plant.pointIds
    then some (a, b) else none

/-- What a segment adds to the list of a point. -/
def exits (point : ℕ) (segment : FiberSegment) : List (ℕ × FiberSegment) :=
  match plant.joined segment with
  | none => []
  | some (a, b) =>
    (if a = point then [(b, segment)] else []) ++ if b = point then [(a, segment)] else []

/-- The segments at a termination, with their other ends. -/
def adjacency (point : ℕ) : List (ℕ × FiberSegment) :=
  plant.segments.rows.flatMap (plant.exits point)

def maxSegments : ℕ := 128

def search (starts : List ℕ) : Labels ℕ FiberSegment :=
  RouteCounts.search plant.adjacency maxSegments (enough plant.pointIds.toFinset starts)
    (start starts)

/-- The hops of a path that ends at a point. -/
def hops (segmentKind : String) : List (ℕ × FiberSegment) → ℕ → List FiberTraceHop
  | [], point => ((plant.referenced.find? (·.id = point)).map terminationHop).toList
  | (previous, segment) :: path, point =>
    hops segmentKind path previous ++
      { kind := segmentKind
        label := segment.name
        assetId := segment.id
        evidence := "active FiberSegment with two explicit termination IDs and " ++
          "approved route geometry" } ::
      ((plant.referenced.find? (·.id = point)).map terminationHop).toList

def traced (segmentKind : String) (path : List (ℕ × FiberSegment)) (point : ℕ) :
    ValidatedSegmentPath :=
  { hops := plant.hops segmentKind path point, segmentIds := (path.map (·.2.id)).reverse }

def refused (errorCode errorMessage : String) : ValidatedSegmentPath :=
  ⟨[], [], some errorCode, some errorMessage⟩

def terminationMissing (side : String) (endpointType : EndpointType) : ValidatedSegmentPath :=
  refused ("fiber_" ++ side ++ "_termination_missing")
    ("No active referenced " ++ endpointValue endpointType ++ " termination exists.")

def pathMissing : ValidatedSegmentPath :=
  refused "fiber_segment_path_missing"
    ("Referenced terminations exist, but no active segment path with " ++
      "approved geometry connects them.")

def pathAmbiguous : ValidatedSegmentPath :=
  refused "fiber_segment_path_ambiguous"
    ("Multiple equally short validated segment paths connect these assets; " ++
      "manual topology review is required.")

/-- The verdict on the ends that are reached over the fewest segments. -/
def chosen (segmentKind : String) (s : Labels ℕ FiberSegment) (shortest : ℕ)
    (shortestEnds : List ℕ) : ValidatedSegmentPath :=
  if (shortestEnds.map s.pathCount).sum ≠ 1 then pathAmbiguous
  else match shortestEnds with
    | [] => pathAmbiguous
    | current :: _ => plant.traced segmentKind (trace s.predecessor shortest current) current

def distanceTo (s : Labels ℕ FiberSegment) (point : ℕ) : Option ℕ := s.distance.lookup point

/-- The search, and the hops to the ends that are nearest. -/
def pathBetween (starts ends : List ℕ) (segmentKind : String) : ValidatedSegmentPath :=
  let s := plant.search starts
  -- an end that is not reached has no distance
  match (ends.filterMap (distanceTo s)).min? with
  | none => pathMissing
  | some shortest =>
    plant.chosen segmentKind s shortest (ends.filter (distanceTo s · = some shortest))

/-- The only shortest path over active segments, with its hops, or why there is none. -/
def validatedSegmentPath (startType : EndpointType) (startRefId : ℕ) (endType : EndpointType)
    (endRefId : ℕ) (segmentKind : String) : ValidatedSegmentPath :=
  let starts := plant.terminations startType startRefId
  let ends := plant.terminations endType endRefId
  if starts = [] then terminationMissing "start" startType
  else if ends = [] then terminationMissing "end" endType
  else plant.pathBetween starts ends segmentKind

/-- An operational segment leads from a point to another. -/
def Joins (point : ℕ) (edge : ℕ × FiberSegment) : Prop :=
  edge.2 ∈ plant.segments.rows ∧
    (plant.joined edge.2 = some (point, edge.1) ∨ plant.joined edge.2 = some (edge.1, point))

/-- The paths from a start to an end, each with the end it leads to. -/
def paths (starts ends : List ℕ) : Set (List (ℕ × FiberSegment) × ℕ) :=
  {p | Route plant.Joins starts p.1 p.2 ∧ p.2 ∈ ends ∧ p.1.length ≤ maxSegments}

def shortestPaths (starts ends : List ℕ) : Set (List (ℕ × FiberSegment) × ℕ) :=
  {p ∈ plant.paths starts ends | ∀ q ∈ plant.paths starts ends, p.1.length ≤ q.1.length}

variable {plant} {starts ends : List ℕ}

lemma mem_exits {point : ℕ} {segment : FiberSegment} {edge : ℕ × FiberSegment} :
    edge ∈ plant.exits point segment ↔ edge.2 = segment ∧
      (plant.joined segment = some (point, edge.1) ∨ plant.joined segment = some (edge.1, point)) := by
  obtain ⟨other, row⟩ := edge
  cases hjoined : plant.joined segment with
  | none => simp [exits, hjoined]
  | some ends =>
    obtain ⟨a, b⟩ := ends
    simp only [exits, hjoined, List.mem_append, List.mem_ite_nil_right, List.mem_singleton,
      Prod.mk.injEq, Option.some.injEq]
    tauto

lemma listed_adjacency : Listed plant.adjacency = plant.Joins := by
  ext point edge
  simp [Listed, Joins, adjacency, mem_exits]

/-- A segment leads from a point only once, unless it leads back to it. -/
lemma pairwise_adjacency (point : ℕ) :
    (plant.adjacency point).Pairwise fun a b => b.1 ≠ point → b ≠ a := by
  refine List.pairwise_flatMap.mpr ⟨fun segment _ => ?_, ?_⟩
  · unfold exits
    split
    · exact List.Pairwise.nil
    · split_ifs with ha hb <;> simp [ha]
  · refine plant.segments.nodup.of_map.imp fun hne a ha b hb _ heq => hne ?_
    rw [← (mem_exits.mp ha).1, ← (mem_exits.mp hb).1, heq]

lemma mem_pointIds_of_joins {point : ℕ} {edge : ℕ × FiberSegment} (h : plant.Joins point edge) :
    edge.1 ∈ plant.pointIds := by
  have hboth : ∀ {a b}, plant.joined edge.2 = some (a, b) →
      a ∈ plant.pointIds ∧ b ∈ plant.pointIds := by
    intro a b hjoined
    simp only [joined, Option.bind_eq_bind, Option.bind_eq_some_iff] at hjoined
    obtain ⟨_, -, _, -, hjoined⟩ := hjoined
    split_ifs at hjoined with huse
    obtain ⟨rfl, rfl⟩ := Prod.mk.inj (Option.some.inj hjoined)
    exact huse.2.2
  exact h.2.elim (fun hjoined => (hboth hjoined).2) fun hjoined => (hboth hjoined).1

lemma nodup_terminations (endpointType : EndpointType) (refId : ℕ) :
    (plant.terminations endpointType refId).Nodup :=
  plant.points.nodup.sublist ((List.filter_sublist.trans List.filter_sublist).map _)

/-- Of the ends that are reached over the fewest segments, one alone with one path is chosen. -/
lemma chosen_spec {s : Labels ℕ FiberSegment} {shortest : ℕ} {shortestEnds : List ℕ}
    (hne : shortestEnds ≠ []) (hnodup : shortestEnds.Nodup) (segmentKind : String)
    (hexact : ∀ point ∈ shortestEnds, Exact plant.Joins starts s point shortest)
    {paths : Set (List (ℕ × FiberSegment) × ℕ)} (hpaths : ∀ p, p ∈ paths ↔
      p.2 ∈ shortestEnds ∧ Route plant.Joins starts p.1 p.2 ∧ p.1.length = shortest) :
    (plant.chosen segmentKind s shortest shortestEnds = pathAmbiguous ∧ paths.Nontrivial) ∨
      ∃ p, plant.chosen segmentKind s shortest shortestEnds = plant.traced segmentKind p.1 p.2 ∧
        paths = {p} := by
  have htrace : ∀ point ∈ shortestEnds, (trace s.predecessor shortest point, point) ∈ paths :=
    fun point h => (hpaths _).mpr ⟨h, (hexact point h).route, (hexact point h).length⟩
  match shortestEnds, hne with
  | [point], _ =>
    have hpoint := List.mem_singleton_self point
    rcases (hexact point hpoint).count with ⟨hone, honly⟩ | ⟨htwo, route, hroute, hlength, hother⟩
    · refine .inr ⟨(_, point), by simp [chosen, hone],
        Set.eq_singleton_iff_unique_mem.mpr ⟨htrace point hpoint, ?_⟩⟩
      rintro ⟨route, other⟩ hp
      obtain ⟨hother, hroute, hlength⟩ := (hpaths _).mp hp
      obtain rfl := List.mem_singleton.mp hother
      exact congrArg (·, other) (honly route hroute hlength)
    · exact .inl ⟨by simp [chosen, htwo], _, htrace point hpoint, (route, point),
        (hpaths _).mpr ⟨hpoint, hroute, hlength⟩, fun heq => hother (congrArg Prod.fst heq).symm⟩
  | point :: other :: rest, _ =>
    have hpoint : point ∈ point :: other :: rest := List.mem_cons_self
    have hother : other ∈ point :: other :: rest := List.mem_cons_of_mem _ List.mem_cons_self
    refine .inl ⟨if_pos ?_, _, htrace point hpoint, _, htrace other hother, fun heq => ?_⟩
    · have hone := (hexact point hpoint).count
      have hone' := (hexact other hother).count
      simp only [List.map_cons, List.sum_cons]
      omega
    · obtain rfl : point = other := congrArg Prod.snd heq
      exact (List.nodup_cons.mp hnodup).1 List.mem_cons_self

lemma pathBetween_spec (hstarts : starts.Nodup) (hends : ends.Nodup) (segmentKind : String) :
    (plant.pathBetween starts ends segmentKind = pathMissing ∧ plant.paths starts ends = ∅) ∨
      (plant.pathBetween starts ends segmentKind = pathAmbiguous ∧
        (plant.shortestPaths starts ends).Nontrivial) ∨
      ∃ p, plant.pathBetween starts ends segmentKind = plant.traced segmentKind p.1 p.2 ∧
        plant.shortestPaths starts ends = {p} := by
  obtain ⟨hunique, hexact, hfound⟩ := search_exact plant.adjacency
    maxSegments plant.pointIds.toFinset hstarts
    (fun point edge hedge => List.mem_toFinset.mpr
      (mem_pointIds_of_joins (listed_adjacency ▸ hedge : plant.Joins point edge)))
    pairwise_adjacency
  rw [listed_adjacency] at hexact hfound
  have hlookup : ∀ {point k}, distanceTo (plant.search starts) point = some k ↔ _ :=
    lookup_eq_some_iff hunique
  have hreached : ∀ p ∈ plant.paths starts ends, ∃ k ≤ p.1.length,
      distanceTo (plant.search starts) p.2 = some k := by
    rintro p ⟨hroute, -, hlength⟩
    obtain ⟨k, hk, hmem⟩ := hfound p.1 p.2 hroute hlength
    exact ⟨k, hk, hlookup.mpr hmem⟩
  rw [pathBetween]
  cases hmin : (ends.filterMap (distanceTo (plant.search starts))).min? with
  | none =>
    refine .inl ⟨rfl, Set.eq_empty_of_forall_notMem fun p hp => ?_⟩
    obtain ⟨k, -, hk⟩ := hreached p hp
    have hmem := List.mem_filterMap.mpr ⟨p.2, hp.2.1, hk⟩
    rw [List.min?_eq_none_iff.mp hmin] at hmem
    exact absurd hmem List.not_mem_nil
  | some shortest =>
    obtain ⟨hmem, hleast⟩ := List.min?_eq_some_iff.mp hmin
    obtain ⟨first, hfirst, hshortest⟩ := List.mem_filterMap.mp hmem
    have hlow : ∀ p ∈ plant.paths starts ends, ∀ {k},
        distanceTo (plant.search starts) p.2 = some k → shortest ≤ k := fun p hp k hk =>
      hleast k (List.mem_filterMap.mpr ⟨p.2, hp.2.1, hk⟩)
    refine .inr (chosen_spec
      (List.ne_nil_of_mem (List.mem_filter.mpr ⟨hfirst, decide_eq_true hshortest⟩))
      (hends.filter _) segmentKind (fun point hpoint =>
        (hexact _ (hlookup.mp (of_decide_eq_true (List.mem_filter.mp hpoint).2))).2) fun p => ?_)
    rw [List.mem_filter, decide_eq_true_iff]
    constructor
    · rintro ⟨hp, hall⟩
      obtain ⟨k, hk, hreach⟩ := hreached p hp
      obtain ⟨hlimit, hexact⟩ := hexact _ (hlookup.mp hshortest)
      have hhigh := hall (_, first) ⟨hexact.route, hfirst, hexact.length.trans_le hlimit⟩
      rw [hexact.length] at hhigh
      obtain rfl := le_antisymm (hk.trans hhigh) (hlow p hp hreach)
      exact ⟨⟨hp.2.1, hreach⟩, hp.1, le_antisymm hhigh hk⟩
    · rintro ⟨⟨hend, hpoint⟩, hroute, hlength⟩
      refine ⟨⟨hroute, hend, hlength.trans_le (hexact _ (hlookup.mp hpoint)).1⟩, fun q hq => ?_⟩
      obtain ⟨k, hk, hreach⟩ := hreached q hq
      exact hlength.trans_le ((hlow q hq hreach).trans hk)

/-- **The traced path is the one shortest path**: among the paths of at most 128 segments from a
start to an end, it is returned if no other is as short; else there is none, or there are two. -/
theorem validatedSegmentPath_exact (plant : FiberPlant) (startType endType : EndpointType)
    (startRefId endRefId : ℕ) (segmentKind : String) :
    let starts := plant.terminations startType startRefId
    let ends := plant.terminations endType endRefId
    let result := plant.validatedSegmentPath startType startRefId endType endRefId segmentKind
    if starts = [] then result = terminationMissing "start" startType
    else if ends = [] then result = terminationMissing "end" endType
    else (result = pathMissing ∧ plant.paths starts ends = ∅) ∨
      (result = pathAmbiguous ∧ (plant.shortestPaths starts ends).Nontrivial) ∨
      ∃ p, result = plant.traced segmentKind p.1 p.2 ∧ plant.shortestPaths starts ends = {p} := by
  dsimp only [validatedSegmentPath]
  split_ifs
  · rfl
  · rfl
  · exact pathBetween_spec (nodup_terminations startType startRefId)
      (nodup_terminations endType endRefId) segmentKind

/-- Without terminations there is no path, and that is not what is reported. -/
theorem noTerminations_reported : ¬ ∀ (plant : FiberPlant) (startType endType : EndpointType)
    (startRefId endRefId : ℕ) (segmentKind : String),
    plant.validatedSegmentPath startType startRefId endType endRefId segmentKind = pathMissing ↔
      plant.paths (plant.terminations startType startRefId)
        (plant.terminations endType endRefId) = ∅ := by
  intro h
  have hcode := congrArg ValidatedSegmentPath.errorCode
    ((h ⟨.empty, .empty⟩ .ponPort .ont 1 2 "feeder_segment").mpr
      (Set.eq_empty_of_forall_notMem fun p hp => absurd hp.2.1 List.not_mem_nil))
  exact absurd hcode (by decide)

end FiberPlant

end DotmacSub.FiberTopology
