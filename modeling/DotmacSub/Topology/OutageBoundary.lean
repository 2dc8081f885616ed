import DotmacSub.Topology.Affected
import Mathlib.Data.List.MinMax

/-!
# Where an outage begins

`classify_node` and `localize_outage` of `topology/health_classifier.py`, and the dark arm of
`_candidate_outages` in `topology/outage_reconcile.py`.  A device with customers is dark if none of
them is online.
-/

namespace DotmacSub.Topology

open BreadthFirst Ancestry Relation

inductive MgmtState
  | up
  | down
  | unknown
deriving DecidableEq

inductive NodeClass
  | healthy
  | monitoringFault
  | serviceFault
  | nodeOutage
  | unknown
deriving DecidableEq

inductive Confidence
  | low
  | medium
  | high
deriving DecidableEq

def classifyNode (mgmt : MgmtState) (onlineCount : ℕ) (hadPriorLife : Bool) : NodeClass :=
  if 0 < onlineCount then if mgmt = .up then .healthy else .monitoringFault
  else if !hadPriorLife then .unknown
  else match mgmt with
    | .up => .serviceFault
    | .down => .nodeOutage
    | .unknown => .unknown

def smallNThreshold : ℕ := 3

def confidence (affectedBefore : ℕ) (survivorsElsewhere : Bool) : Confidence :=
  if affectedBefore < smallNThreshold then .low
  else if survivorsElsewhere then .high
  else .medium

/-- The subscriptions behind each device, those that are online, and the devices on record. -/
structure Customers where
  byNode : ℕ → List ℕ
  onlineIds : Finset ℕ
  mgmt : ℕ → Option MgmtState

namespace Customers

def provisionedByNode (c : Customers) (n : ℕ) : ℕ := (c.byNode n).length

def onlineByNode (c : Customers) (n : ℕ) : ℕ := (c.byNode n).countP (· ∈ c.onlineIds)

def Dark (c : Customers) (n : ℕ) : Prop := 0 < c.provisionedByNode n ∧ c.onlineByNode n = 0

instance (c : Customers) (n : ℕ) : Decidable (c.Dark n) := inferInstanceAs (Decidable (_ ∧ _))

/-- No customer is online, and the management plane is down too. -/
def InOutage (c : Customers) (n : ℕ) : Prop :=
  ∃ mgmt ∈ c.mgmt n,
    classifyNode mgmt (c.onlineByNode n) (0 < c.provisionedByNode n) = .nodeOutage

instance (c : Customers) (n : ℕ) : Decidable (c.InOutage n) :=
  inferInstanceAs (Decidable (∃ mgmt ∈ c.mgmt n, _))

lemma InOutage.dark {c : Customers} {n : ℕ} (h : c.InOutage n) : c.Dark n := by
  obtain ⟨mgmt, -, h⟩ := h
  unfold classifyNode at h
  split_ifs at h with honline hup hlife
  exact ⟨Nat.pos_of_ne_zero (by simpa using hlife), by omega⟩

end Customers

structure Localized where
  failureNode : ℕ
  nodeClass : NodeClass
  affectedOnlineBefore : ℕ
  affectedNow : ℕ
  confidence : Confidence
deriving DecidableEq

/-- A device without a path to the core counts as nearest. -/
def depthKey (dist : List (ℕ × ℕ)) (n : ℕ) : ℕ := (dist.lookup n).elim 0 (· + 1)

/-- The first of the dark devices that are furthest from the core. -/
def localizeOutage (c : Customers) (dist : List (ℕ × ℕ)) (nodeIds : List ℕ) : Option Localized :=
  ((nodeIds.filter c.Dark).argmax (depthKey dist)).map fun failureNode =>
    { failureNode
      nodeClass := (c.mgmt failureNode).elim .unknown (classifyNode · 0 true)
      affectedOnlineBefore := c.provisionedByNode failureNode
      affectedNow := 0
      confidence := Topology.confidence (c.provisionedByNode failureNode)
        (nodeIds.any fun n => 0 < c.onlineByNode n) }

/-- The boundary of a device in outage, among the devices in outage of its scope. -/
def boundaryOf (c : Customers) (dist : List (ℕ × ℕ)) (scope : List ℕ) : Option ℕ :=
  (localizeOutage c dist (scope.filter c.InOutage)).map Localized.failureNode

section Localize

variable {c : Customers} {dist : List (ℕ × ℕ)} {l : List ℕ} {n : ℕ}

lemma failureNode_spec {r : Localized} (h : localizeOutage c dist l = some r) :
    (r.failureNode ∈ l ∧ c.Dark r.failureNode) ∧
      ∀ m ∈ l, c.Dark m → depthKey dist m ≤ depthKey dist r.failureNode := by
  obtain ⟨n, hn, rfl⟩ := Option.map_eq_some_iff.mp h
  refine ⟨by simpa using List.argmax_mem hn, fun m hm hdark => ?_⟩
  exact List.le_of_mem_argmax (List.mem_filter.mpr ⟨hm, decide_eq_true hdark⟩) hn

/-- Listed first, a dark device that is as far as all dark ones is taken. -/
lemma localizeOutage_cons (hn : c.Dark n)
    (h : ∀ m ∈ l, c.Dark m → depthKey dist m ≤ depthKey dist n) :
    ∃ r, localizeOutage c dist (n :: l) = some r ∧ r.failureNode = n := by
  have hmax : ((n :: l).filter c.Dark).argmax (depthKey dist) = some n := by
    rw [List.filter_cons_of_pos (by simpa using hn), List.argmax_eq_some_iff]
    refine ⟨List.mem_cons_self, fun m hm => ?_, fun m _ _ => by simp⟩
    rcases List.mem_cons.mp hm with rfl | hm
    · exact le_rfl
    · exact h m (List.mem_filter.mp hm).1 (of_decide_eq_true (List.mem_filter.mp hm).2)
  exact ⟨_, by rw [localizeOutage, hmax]; rfl, rfl⟩

lemma boundaryOf_eq_some (hn : n ∈ l) (hout : ∀ m ∈ l, c.InOutage m)
    (h : ∀ m ∈ l, m ≠ n → depthKey dist m < depthKey dist n) : boundaryOf c dist l = some n := by
  have hmax : (((l.filter c.InOutage).filter c.Dark).argmax (depthKey dist)) = some n := by
    rw [List.filter_eq_self.mpr fun m hm => decide_eq_true (hout m hm),
      List.filter_eq_self.mpr fun m hm => decide_eq_true (hout m hm).dark, List.argmax_eq_some_iff]
    refine ⟨hn, fun m hm => ?_, fun m hm hle => ?_⟩
    · by_cases hne : m = n
      · exact hne ▸ le_rfl
      · exact (h m hm hne).le
    · by_cases hne : m = n
      · exact hne ▸ le_rfl
      · exact absurd hle (h m hm hne).not_ge
  rw [boundaryOf, localizeOutage, hmax]
  rfl

lemma mem_of_boundaryOf (h : boundaryOf c dist l = some n) : n ∈ l := by
  obtain ⟨r, hr, rfl⟩ := Option.map_eq_some_iff.mp h
  exact (List.mem_filter.mp (failureNode_spec hr).1.1).1

end Localize

/-- The boundary is dark under a live device, in whatever order the candidates are listed: its
upstream device is no candidate, has no customers or has one online. -/
def BoundaryLive (c : Customers) {graph : ForwardingGraph} (listing : Listing graph)
    (candidates : Finset ℕ) : Prop :=
  ∀ nodeIds : List ℕ, nodeIds.toFinset = candidates →
    ∀ r, localizeOutage c (distToCore listing) nodeIds = some r →
      0 < c.provisionedByNode r.failureNode ∧ c.onlineByNode r.failureNode = 0 ∧
      ∀ u, graph.upstream r.failureNode = some u → u ∈ candidates → 0 < c.provisionedByNode u →
        0 < c.onlineByNode u

def OneBoundary (c : Customers) {graph : ForwardingGraph} (listing : Listing graph)
    (scope : ℕ → List ℕ) (root : ℕ) : Prop :=
  ∃ f, ∀ n ∈ downstreamNodes listing root, boundaryOf c (distToCore listing) (scope n) = some f

/-- The deepest dark candidate lies under a live one exactly if no dark candidate that is furthest
from the core has a dark one as its upstream device. -/
lemma boundaryLive_iff {c : Customers} {graph : ForwardingGraph} {listing : Listing graph}
    {candidates : Finset ℕ} :
    BoundaryLive c listing candidates ↔
      ∀ f ∈ candidates, c.Dark f → (∀ m ∈ candidates, c.Dark m →
        depthKey (distToCore listing) m ≤ depthKey (distToCore listing) f) →
        ∀ u, graph.upstream f = some u → u ∈ candidates → ¬ c.Dark u := by
  constructor
  · intro h f hf hdark hmax u hup hu hdarku
    obtain ⟨r, hr, rfl⟩ := localizeOutage_cons (l := candidates.toList) hdark fun m hm =>
      hmax m (Finset.mem_toList.mp hm)
    have hlive := (h _ (by simp [hf]) r hr).2.2 u hup hu hdarku.1
    exact absurd hdarku.2 (by omega)
  · rintro h nodeIds rfl r hr
    obtain ⟨⟨hmem, hdark⟩, hmax⟩ := failureNode_spec hr
    refine ⟨hdark.1, hdark.2, fun u hup hu hpos => Nat.pos_of_ne_zero fun hzero => ?_⟩
    exact h _ (List.mem_toFinset.mpr hmem) hdark
      (fun m hm => hmax m (List.mem_toFinset.mp hm)) u hup hu ⟨hpos, hzero⟩

/-- Devices in outage have one boundary exactly if one of them lies below all the others. -/
lemma oneBoundary_iff {c : Customers} {rows : List ReportRow} {vrfName : String}
    {listing : Listing (projectAuthoritativeForwardingGraph rows vrfName)} {scope : ℕ → List ℕ}
    (hscope : ∀ n x, x ∈ scope n ↔ x ∈ downstreamNodes listing n) {root : ℕ}
    (hout : ∀ n ∈ downstreamNodes listing root, c.InOutage n) :
    OneBoundary c listing scope root ↔ ∃ f, ∀ n ∈ downstreamNodes listing root,
      f ∈ downstreamNodes listing n := by
  have hdown : ∀ {n v}, v ∈ downstreamNodes listing n ↔
      ReflTransGen (Away (projectAuthoritativeForwardingGraph rows vrfName)) n v :=
    mem_downstreamNodes fun _ _ => adjacency_iff
  constructor
  · rintro ⟨f, hf⟩
    exact ⟨f, fun n hn => (hscope n f).mp (mem_of_boundaryOf (hf n hn))⟩
  · rintro ⟨f, hf⟩
    refine ⟨f, fun n hn => boundaryOf_eq_some ((hscope n f).mpr (hf n hn))
      (fun m hm => hout m (hdown.mpr ((hdown.mp hn).trans (hdown.mp ((hscope n m).mp hm)))))
      fun m hm hne => ?_⟩
    -- every other device of the scope leads down to the lowest, and so is nearer to the core
    have haway := hdown.mp (hf m (hdown.mpr ((hdown.mp hn).trans (hdown.mp ((hscope n m).mp hm)))))
    rcases haway.cases_head with heq | ⟨y, ⟨-, d, -, hd, -⟩, -⟩
    · exact absurd heq hne
    obtain ⟨k, hwalk, hfar⟩ := exists_walk_of_away haway hd
    have hpos : 0 < k := by
      rcases Nat.eq_zero_or_pos k with rfl | hpos
      · cases hwalk
        exact absurd rfl hne
      · exact hpos
    have hlookup : ∀ {x e}, (distToCore listing).lookup x = some e ↔ _ :=
      lookup_distToCore fun _ _ => adjacency_iff
    rw [depthKey, depthKey, hlookup.mpr hd, hlookup.mpr hfar]
    exact Nat.succ_lt_succ (Nat.lt_add_of_pos_right hpos)

/-- **Localization takes the deepest dark device**, and does not look above it.  The boundary lies
under a live device exactly if no dark candidate furthest from the core has a dark one as its
upstream device; what is all dark from a device down gets one boundary exactly if one device of it
lies below all the others. -/
theorem localizeOutage_live_iff (rows : List ReportRow) (vrfName : String)
    (listing : Listing (projectAuthoritativeForwardingGraph rows vrfName)) (c : Customers) :
    (∀ candidates : Finset ℕ, BoundaryLive c listing candidates ↔
      ∀ f ∈ candidates, c.Dark f → (∀ m ∈ candidates, c.Dark m →
        depthKey (distToCore listing) m ≤ depthKey (distToCore listing) f) →
        ∀ u, (projectAuthoritativeForwardingGraph rows vrfName).upstream f = some u →
          u ∈ candidates → ¬ c.Dark u) ∧
    ∀ scope : ℕ → List ℕ, (∀ n x, x ∈ scope n ↔ x ∈ downstreamNodes listing n) →
      ∀ root, (∀ n ∈ downstreamNodes listing root, c.InOutage n) →
        (OneBoundary c listing scope root ↔ ∃ f, ∀ n ∈ downstreamNodes listing root,
          f ∈ downstreamNodes listing n) :=
  ⟨fun _ => boundaryLive_iff, fun _ hscope _ hout => oneBoundary_iff hscope hout⟩

/-- A switch with a customer of its own above an access device, both without a session. -/
def accessSwitchCore : List ReportRow :=
  [agreed 0 "access-switch" ⟨1, 0, .access⟩ ⟨2, 0, .aggregation⟩,
    agreed 1 "switch-core" ⟨2, 0, .aggregation⟩ ⟨3, 0, .core⟩]

def offline : Customers where
  byNode n := if n ≤ 2 then [n] else []
  onlineIds := ∅
  mgmt _ := some .down

/-- The access device is taken, and the switch above it is dark as well. -/
theorem localizeOutage_underDark :
    ¬ BoundaryLive offline (declaredListing accessSwitchCore "main") {1, 2} := by
  intro h
  obtain ⟨-, -, hlive⟩ := h [1, 2] (by decide) ⟨1, .nodeOutage, 1, 0, .low⟩ (by decide +kernel)
  exact absurd (hlive 2 (by decide +kernel) (by decide) (by decide)) (by decide)

end DotmacSub.Topology
