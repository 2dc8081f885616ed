import DotmacSub.Core.Ancestry
import DotmacSub.Topology.Forwarding

/-!
# What an outage reaches

Which devices count as downstream of a device, compared with the declared path of a device toward
the core.
-/

namespace DotmacSub.Topology

open BreadthFirst Ancestry Cycles Relation

section Errors

variable {payloads : List Declaration} {vrfName : String} {x y : ℕ}

lemma mem_parents : y ∈ parents payloads vrfName x ↔ ∃ p ∈ payloads,
    p.downstream.deviceId = x ∧ p.vrfName = vrfName ∧ ∃ e, p.upstream = some e ∧ e.deviceId = y := by
  simp only [parents, List.mem_dedup, List.mem_filterMap, List.mem_filter, decide_eq_true_eq,
    Option.map_eq_some_iff, and_assoc]

lemma mem_devices_of_mem_parents (h : y ∈ parents payloads vrfName x) :
    x ∈ devices payloads ∧ y ∈ devices payloads := by
  obtain ⟨p, hp, rfl, -, e, he, rfl⟩ := mem_parents.mp h
  simp only [devices, List.mem_toFinset, List.mem_flatMap]
  refine ⟨⟨p, hp, List.mem_cons_self⟩, p, hp, List.mem_cons_of_mem _ ?_⟩
  simp [he]

/-- The devices of a VRF from which a cycle is looked for. -/
def startsIn (payloads : List Declaration) (vrfName : String) : List ℕ :=
  ((starts payloads).filter (·.2 = vrfName)).map Prod.fst

lemma mem_startsIn : x ∈ startsIn payloads vrfName ↔ (x, vrfName) ∈ starts payloads := by
  simp [startsIn]

lemma mem_startsIn_of_parents (h : y ∈ parents payloads vrfName x) :
    x ∈ startsIn payloads vrfName := by
  obtain ⟨p, hp, rfl, rfl, e, he, -⟩ := mem_parents.mp h
  rw [mem_startsIn, starts, List.mem_dedup]
  exact List.mem_map.mpr ⟨p, List.mem_filter.mpr ⟨hp, by simp [he]⟩, rfl⟩

lemma mem_devices_of_mem_startsIn (h : x ∈ startsIn payloads vrfName) : x ∈ devices payloads := by
  rw [mem_startsIn, starts, List.mem_dedup] at h
  obtain ⟨p, hp, heq⟩ := List.mem_map.mp h
  obtain ⟨rfl, -⟩ := Prod.mk.inj heq
  simp only [devices, List.mem_toFinset, List.mem_flatMap]
  exact ⟨p, (List.mem_filter.mp hp).1, List.mem_cons_self⟩

/-- The declared upstreams of one VRF have no cycle. -/
lemma acyclic_of_graphErrors (h : graphErrors payloads = ∅) (vrfName : String) :
    Acyclic (Next (parents payloads vrfName)) := by
  have hquiet : ∀ x ∈ startsIn payloads vrfName,
      DepthFirst.reports (parents payloads vrfName) (devices payloads) x = false := by
    intro x hx
    rw [← Bool.not_eq_true]
    intro hcycle
    have hlisted : (x, vrfName) ∈ (starts payloads).filter fun s =>
        containsForwardingCycle payloads s.1 s.2 :=
      List.mem_filter.mpr ⟨mem_startsIn.mp hx, hcycle⟩
    have herror : GraphError.forwardingCycle x vrfName ∈ graphErrors payloads :=
      List.mem_toFinset.mpr (List.mem_append_right _ (List.mem_map.mpr ⟨_, hlisted, rfl⟩))
    rw [h] at herror
    exact absurd herror (Finset.notMem_empty _)
  refine (DepthFirst.forall_reports_iff (fun x y hy => (mem_devices_of_mem_parents hy).2)
    (fun x hx => mem_devices_of_mem_startsIn hx) (fun x hx => ?_)).mp hquiet
  obtain ⟨y, hy⟩ := List.exists_mem_of_ne_nil _ hx
  exact mem_startsIn_of_parents hy

end Errors

/-- A key that occurs once has one value. -/
lemma lookup_iff_mem {α β : Type*} [DecidableEq α] {x : α} {y : β} :
    ∀ {entries : List (α × β)}, (entries.map Prod.fst).Nodup →
      (entries.lookup x = some y ↔ (x, y) ∈ entries)
  | [], _ => by simp
  | (a, b) :: entries, hnodup => by
    obtain ⟨hfresh, hnodup⟩ := List.nodup_cons.mp hnodup
    by_cases hx : x = a
    · subst hx
      have hother : (x, y) ∉ entries := fun h => hfresh (List.mem_map.mpr ⟨(x, y), h, rfl⟩)
      simp [hother, eq_comm]
    · have hbeq : (x == a) = false := beq_eq_false_iff_ne.mpr hx
      rw [List.lookup_cons, hbeq, lookup_iff_mem hnodup]
      simp [hx]

section Projection

variable {rows : List ReportRow} {vrfName : String} {x y : ℕ}

def edgesOf (rows : List ReportRow) (vrfName : String) : List (ℕ × ℕ) :=
  (projectAuthoritativeForwardingGraph rows vrfName).upstreamByDownstream

lemma nodup_edgesOf : ((edgesOf rows vrfName).map Prod.fst).Nodup := by
  have hkeys : (edgesOf rows vrfName).map Prod.fst = (downstreamDevices rows vrfName).filterMap
      fun d => (primaryEdge rows vrfName d).map fun _ => d := by
    simp only [edgesOf, projectAuthoritativeForwardingGraph, List.map_filterMap, Option.map_map]
    rfl
  rw [hkeys]
  refine List.Nodup.filterMap (fun a b c ha hb => ?_) (List.nodup_dedup _)
  obtain ⟨-, -, rfl⟩ := Option.map_eq_some_iff.mp ha
  obtain ⟨-, -, rfl⟩ := Option.map_eq_some_iff.mp hb
  rfl

lemma upstream_iff :
    (projectAuthoritativeForwardingGraph rows vrfName).upstream x = some y ↔
      (x, y) ∈ edgesOf rows vrfName :=
  lookup_iff_mem nodup_edgesOf

/-- The projected graph is the forest of its primary edges. -/
lemma adjacency_iff :
    y ∈ (projectAuthoritativeForwardingGraph rows vrfName).adjacency x ↔
      Adjacent (projectAuthoritativeForwardingGraph rows vrfName).upstream x y := by
  rw [Adjacent, upstream_iff, upstream_iff]
  simp [ForwardingGraph.adjacency, ForwardingGraph.joined, edgesOf]

/-- A primary edge is a declared one. -/
lemma mem_parents_of_upstream
    (h : (projectAuthoritativeForwardingGraph rows vrfName).upstream x = some y) :
    y ∈ parents (rows.map ReportRow.payload) vrfName x := by
  have hedge := upstream_iff.mp h
  simp only [edgesOf, projectAuthoritativeForwardingGraph, List.mem_map, List.mem_filterMap,
    Option.map_eq_some_iff] at hedge
  obtain ⟨-, ⟨d, -, edge, hprimary, rfl⟩, hpair⟩ := hedge
  obtain ⟨rfl, rfl⟩ := Prod.mk.inj hpair
  obtain ⟨row, hrow, hedge⟩ := Option.bind_eq_some_iff.mp hprimary
  obtain ⟨e, he, hedge⟩ := Option.bind_eq_some_iff.mp hedge
  obtain rfl : (e.deviceId, row.declarationId) = edge := Option.some.inj hedge
  have hcandidate : row ∈ candidatesOf rows vrfName d := by
    have hmem := List.mem_of_mem_head? hrow
    exact (List.mem_insertionSort _).mp hmem
  simp only [candidatesOf, agreeing, List.mem_filter, decide_eq_true_eq] at hcandidate
  obtain ⟨⟨hmem, -, hvrf⟩, -, hdown⟩ := hcandidate
  exact mem_parents.mpr ⟨row.payload, List.mem_map_of_mem hmem, hdown, hvrf, e, he, rfl⟩

lemma acyclic_projection (h : graphErrors (rows.map ReportRow.payload) = ∅) :
    Acyclic (Parent (projectAuthoritativeForwardingGraph rows vrfName).upstream) :=
  (acyclic_of_graphErrors h vrfName).mono fun _ _ hup => mem_parents_of_upstream hup

lemma mem_nodes_of_adjacency {graph : ForwardingGraph} (h : y ∈ graph.adjacency x) :
    y ∈ graph.nodes := by
  simp only [ForwardingGraph.adjacency, ForwardingGraph.joined, List.mem_toFinset, List.mem_append,
    List.mem_map, List.mem_filter] at h
  simp only [ForwardingGraph.nodes, List.mem_toFinset, List.mem_flatMap]
  rcases h with ⟨e, ⟨he, -⟩, rfl⟩ | ⟨e, ⟨he, -⟩, rfl⟩
  · exact ⟨e, he, by simp⟩
  · exact ⟨e, he, by simp⟩

end Projection

/-! ## The declared path -/

/-- The hops upward from a device, up to the first root. -/
inductive Rises (graph : ForwardingGraph) : ℕ → List ℕ → Prop
  | last {x y : ℕ} (hup : graph.upstream x = some y) (hroot : y ∈ graph.rootDeviceIds) :
      Rises graph x [y]
  | hop {x y : ℕ} {ys : List ℕ} (hup : graph.upstream x = some y)
      (hnot : y ∉ graph.rootDeviceIds) (hrest : Rises graph y ys) : Rises graph x (y :: ys)

section Rises

variable {graph : ForwardingGraph} {x n : ℕ} {chain : List ℕ}

lemma rises_of_hops : ∀ (hops x : ℕ) (seen : List ℕ),
    (∃ last ∈ (upstreamHops graph hops x seen).getLast?, last ∈ graph.rootDeviceIds) →
      Rises graph x (upstreamHops graph hops x seen)
  | 0, _, _, h => by
    obtain ⟨_, hlast, -⟩ := h
    exact nomatch hlast
  | hops + 1, x, seen, h => by
    rw [upstreamHops] at h ⊢
    cases hup : graph.upstream x with
    | none =>
      simp only [hup] at h
      obtain ⟨_, hlast, -⟩ := h
      exact nomatch hlast
    | some y =>
      simp only [hup] at h ⊢
      split_ifs at h ⊢ with hseen hroot
      · obtain ⟨_, hlast, -⟩ := h
        exact nomatch hlast
      · exact .last hup hroot
      · refine .hop hup hroot (rises_of_hops hops y _ ?_)
        obtain ⟨last, hlast, hmem⟩ := h
        cases hrest : upstreamHops graph hops y (y :: seen) with
        | nil =>
          rw [hrest] at hlast
          obtain rfl : y = last := Option.some.inj hlast
          exact absurd hmem hroot
        | cons z zs =>
          rw [hrest, List.getLast?_cons_cons] at hlast
          exact ⟨last, hlast, hmem⟩

lemma rises_of_chain {hops : ℕ} (h : resolveAuthoritativeUpstreamChain graph x hops ≠ []) :
    Rises graph x (resolveAuthoritativeUpstreamChain graph x hops) := by
  simp only [resolveAuthoritativeUpstreamChain] at h ⊢
  split_ifs at h ⊢ with hlast
  · exact rises_of_hops hops x _ hlast
  · exact absurd rfl h

/-- The path ends at a root, as many steps up as it has hops. -/
lemma Rises.end_root (h : Rises graph x chain) : ∃ e, chain.getLast? = some e ∧
    e ∈ graph.rootDeviceIds ∧ ancestor graph.upstream chain.length x = some e ∧ 0 < chain.length := by
  induction h with
  | last hup hroot => exact ⟨_, rfl, hroot, ancestor_succ_of_parent hup, Nat.one_pos⟩
  | @hop x y ys hup _ hrest ih =>
    obtain ⟨e, hlast, hroot, hancestor, -⟩ := ih
    refine ⟨e, ?_, hroot, ?_, Nat.succ_pos _⟩
    · cases ys with
      | nil => exact nomatch hlast
      | cons z zs => rw [List.getLast?_cons_cons, hlast]
    · rw [List.length_cons, ancestor_succ_of_parent hup, hancestor]

/-- The devices on the path are the ancestors up to its end. -/
lemma Rises.mem_iff (h : Rises graph x chain) :
    n ∈ chain ↔ ∃ j < chain.length, ancestor graph.upstream (j + 1) x = some n := by
  induction h with
  | @last x y hup hroot =>
    constructor
    · intro hn
      exact ⟨0, Nat.one_pos, List.mem_singleton.mp hn ▸ ancestor_succ_of_parent hup⟩
    · rintro ⟨j, hj, hancestor⟩
      obtain rfl : j = 0 := Nat.lt_one_iff.mp hj
      rw [ancestor_succ_of_parent hup, ancestor_zero, Option.some_inj] at hancestor
      exact List.mem_singleton.mpr hancestor.symm
  | @hop x y ys hup _ hrest ih =>
    rw [List.mem_cons, ih]
    constructor
    · rintro (rfl | ⟨j, hj, hancestor⟩)
      · exact ⟨0, Nat.succ_pos _, ancestor_succ_of_parent hup⟩
      · exact ⟨j + 1, Nat.succ_lt_succ hj, by rw [ancestor_succ_of_parent hup, hancestor]⟩
    · rintro ⟨j, hj, hancestor⟩
      rw [ancestor_succ_of_parent hup] at hancestor
      cases j with
      | zero => exact .inl (Option.some.inj hancestor).symm
      | succ j => exact .inr ⟨j, Nat.lt_of_succ_lt_succ hj, hancestor⟩

lemma Rises.not_root (h : Rises graph x chain) {j : ℕ} (hj : j + 1 < chain.length)
    (hancestor : ancestor graph.upstream (j + 1) x = some n) : n ∉ graph.rootDeviceIds := by
  induction h generalizing j with
  | last => exact absurd hj (by simp)
  | @hop x y ys hup hnot _ ih =>
    rw [ancestor_succ_of_parent hup] at hancestor
    cases j with
    | zero => exact Option.some.inj hancestor ▸ hnot
    | succ j => exact ih (Nat.lt_of_succ_lt_succ hj) hancestor

end Rises

section Distance

variable {graph : ForwardingGraph} {listing : Listing graph} {x y n v : ℕ} {k m d : ℕ}

/-- The distance of a device from the nearest root, over edges in either direction. -/
def Distance (graph : ForwardingGraph) (x d : ℕ) : Prop :=
  (∃ root ∈ graph.rootDeviceIds, Walk (Adjacent graph.upstream) d root x) ∧
    ∀ root ∈ graph.rootDeviceIds, ∀ k, Walk (Adjacent graph.upstream) k root x → d ≤ k

lemma Distance.unique (hd : Distance graph x d) (hk : Distance graph x k) : d = k := by
  obtain ⟨⟨root, hroot, hwalk⟩, hleast⟩ := hd
  obtain ⟨⟨root', hroot', hwalk'⟩, hleast'⟩ := hk
  exact le_antisymm (hleast root' hroot' k hwalk') (hleast' root hroot d hwalk)

/-- A neighbour is at most one step further from the roots. -/
lemma Distance.exists_adjacent (hd : Distance graph x d) (hxy : Adjacent graph.upstream x y) :
    ∃ e ≤ d + 1, Distance graph y e := by
  classical
  obtain ⟨⟨root, hroot, hwalk⟩, -⟩ := hd
  have hreached : ∃ e, ∃ root ∈ graph.rootDeviceIds, Walk (Adjacent graph.upstream) e root y :=
    ⟨d + 1, root, hroot, hwalk.tail hxy⟩
  refine ⟨Nat.find hreached, Nat.find_min' hreached ⟨root, hroot, hwalk.tail hxy⟩,
    Nat.find_spec hreached, fun root' hroot' k hk => ?_⟩
  exact Nat.find_min' hreached ⟨root', hroot', hk⟩

/-- An edge that leads away from the roots. -/
def Away (graph : ForwardingGraph) (x y : ℕ) : Prop :=
  Adjacent graph.upstream x y ∧ ∃ a b, Distance graph x a ∧ Distance graph y b ∧ a < b

/-- What edges that lead away reach is as much further as there are edges. -/
lemma exists_walk_of_away (h : ReflTransGen (Away graph) n v) (hd : Distance graph n d) :
    ∃ m, Walk (Adjacent graph.upstream) m n v ∧ Distance graph v (d + m) := by
  induction h with
  | refl => exact ⟨0, .refl, hd⟩
  | @tail y z _ hstep ih =>
    obtain ⟨m, hwalk, hy⟩ := ih
    obtain ⟨hadjacent, a, b, ha, hb, hlt⟩ := hstep
    obtain ⟨e, he, hz⟩ := hy.exists_adjacent hadjacent
    have hay : a = d + m := ha.unique hy
    have hbe : b = e := hb.unique hz
    have hexact : e = d + (m + 1) := by omega
    exact ⟨m + 1, hwalk.tail hadjacent, hexact ▸ hz⟩

/-- A walk along which the distance grows by its length leads away all the time. -/
lemma away_of_walk (hwalk : Walk (Adjacent graph.upstream) m n v) (hd : Distance graph n d)
    (hv : Distance graph v (d + m)) : ReflTransGen (Away graph) n v := by
  induction hwalk with
  | refl => exact .refl
  | @tail m n y z hwalk hstep ih =>
    -- the last but one is exactly one step nearer
    have hy : Distance graph y (d + m) := by
      obtain ⟨⟨root, hroot, hpath⟩, -⟩ := hd
      obtain ⟨e, he, hye⟩ := hv.exists_adjacent hstep.symm
      have hle : e ≤ d + m := hye.2 root hroot _ (hpath.trans hwalk)
      obtain ⟨e', he', hze⟩ := hye.exists_adjacent hstep
      have hsame : e' = d + (m + 1) := hze.unique hv
      have hexact : e = d + m := by omega
      exact hexact ▸ hye
    exact (ih hd hy).tail ⟨hstep, _, _, hy, hv, by omega⟩

lemma mem_nodes_of_neighbours : ∀ x, ∀ y ∈ listing.neighbours x, y ∈ graph.nodes :=
  fun x y hy => mem_nodes_of_adjacency ((listing.mem_neighbours x y).mp hy)

variable (hadjacency : ∀ x y, y ∈ graph.adjacency x ↔ Adjacent graph.upstream x y)
include hadjacency

lemma next_neighbours : Next listing.neighbours = Adjacent graph.upstream := by
  funext x y
  exact propext ((listing.mem_neighbours x y).trans (hadjacency x y))

lemma lookup_distToCore : (distToCore listing).lookup x = some d ↔ Distance graph x d := by
  rw [distToCore, lookup_searchFrom mem_nodes_of_neighbours, Depth, Distance, Reached,
    next_neighbours hadjacency]
  simp only [Reached, next_neighbours hadjacency, listing.mem_roots]
  refine and_congr Iff.rfl ⟨fun h root hroot k hk => h k ⟨root, hroot, hk⟩, ?_⟩
  rintro h k ⟨root, hroot, hk⟩
  exact h root hroot k hk

lemma awayFromCore_iff :
    y ∈ (listing.neighbours x).filter (awayFromCore (distToCore listing) x) ↔ Away graph x y := by
  rw [List.mem_filter, listing.mem_neighbours, hadjacency, Away]
  have hlookup : ∀ z e, Distance graph z e ↔ (distToCore listing).lookup z = some e :=
    fun z e => (lookup_distToCore hadjacency).symm
  refine and_congr Iff.rfl ?_
  simp only [hlookup, awayFromCore]
  cases (distToCore listing).lookup x <;> cases (distToCore listing).lookup y <;> simp

lemma mem_downstreamNodes : v ∈ downstreamNodes listing n ↔ ReflTransGen (Away graph) n v := by
  have hnext : Next (fun x => (listing.neighbours x).filter
      (awayFromCore (distToCore listing) x)) = Away graph := by
    funext x y
    exact propext (awayFromCore_iff hadjacency)
  rw [downstreamNodes, List.mem_toFinset, mem_searchFrom fun x y hy =>
    mem_nodes_of_neighbours x y (List.mem_of_mem_filter hy), hnext]
  simp

variable {chain : List ℕ} {e : ℕ}

/-- If the path ends at the nearest root, every device on it has the device downstream. -/
lemma downstream_of_mem_chain (hchain : Rises graph v chain) (hv : Distance graph v chain.length)
    (hn : n ∈ chain) : v ∈ downstreamNodes listing n := by
  obtain ⟨j, hj, hup⟩ := hchain.mem_iff.mp hn
  obtain ⟨e, -, hroot, hancestor, -⟩ := hchain.end_root
  have hlength : chain.length = (j + 1) + (chain.length - (j + 1)) := by omega
  have hrest : ancestor graph.upstream (chain.length - (j + 1)) n = some e := by
    rw [hlength] at hancestor
    exact ancestor_sub hup hancestor
  have hdown : Walk (Adjacent graph.upstream) (j + 1) n v :=
    (walk_of_ancestor _ v hup).reverse fun _ _ => Adjacent.symm
  have hdistance : Distance graph n (chain.length - (j + 1)) := by
    refine ⟨⟨e, hroot, (walk_of_ancestor _ n hrest).reverse fun _ _ => Adjacent.symm⟩, ?_⟩
    intro root hmem k hk
    have hle : chain.length ≤ k + (j + 1) := hv.2 root hmem _ (hk.trans hdown)
    omega
  rw [mem_downstreamNodes hadjacency]
  refine away_of_walk hdown hdistance ?_
  rwa [show chain.length - (j + 1) + (j + 1) = chain.length by omega]

variable (hacyclic : Acyclic (Parent graph.upstream))
include hacyclic

omit hadjacency in
lemma distance_of_nearest (hchain : Rises graph v chain) (hlast : chain.getLast? = some e)
    (hnearest : ∀ root ∈ graph.rootDeviceIds, root ≠ e →
      ∀ k, Walk (Adjacent graph.upstream) k root v → chain.length < k) :
    Distance graph v chain.length := by
  obtain ⟨e', hlast', hroot, hancestor, -⟩ := hchain.end_root
  obtain rfl : e = e' := Option.mem_unique hlast hlast'
  refine ⟨⟨e, hroot, (walk_of_ancestor _ v hancestor).reverse fun _ _ => Adjacent.symm⟩, ?_⟩
  intro root hmem k hk
  by_cases heq : root = e
  · subst heq
    exact le_of_walk hacyclic (hk.reverse fun _ _ => Adjacent.symm) hancestor
  · exact (hnearest root hmem heq k hk).le

/-- **Downstream mirrors upstream** for a device, whatever the other device, exactly if the root at
the end of its declared path is nearer to it than any other root. -/
theorem mirrors_iff_nearest (hchain : Rises graph v chain) (hlast : chain.getLast? = some e) :
    (∀ n, v ∈ downstreamNodes listing n ↔ n ∈ v :: chain) ↔
      ∀ root ∈ graph.rootDeviceIds, root ≠ e →
        ∀ k, Walk (Adjacent graph.upstream) k root v → chain.length < k := by
  obtain ⟨e', hlast', hroot, hancestor, hpos⟩ := hchain.end_root
  obtain rfl : e = e' := Option.mem_unique hlast hlast'
  have hzero : ∀ root ∈ graph.rootDeviceIds, Distance graph root 0 := fun root hmem =>
    ⟨⟨root, hmem, .refl⟩, fun _ _ _ _ => Nat.zero_le _⟩
  constructor
  · intro hmirror root hmem hne k hk
    -- the end of the path is downstream of nothing nearer
    have hends : e ∈ v :: chain := List.mem_cons_of_mem v (List.mem_of_getLast? hlast)
    obtain ⟨m, hwalk, hm⟩ := exists_walk_of_away
      ((mem_downstreamNodes hadjacency).mp ((hmirror e).mpr hends)) (hzero e hroot)
    have hlower : chain.length ≤ m :=
      le_of_walk hacyclic (hwalk.reverse fun _ _ => Adjacent.symm) hancestor
    have hupper : 0 + m ≤ k := hm.2 root hmem k hk
    refine lt_of_le_of_ne (by omega) fun heq => ?_
    have hexact : 0 + m = 0 + k := by
      have hle : 0 + m ≤ chain.length :=
        hm.2 e hroot _ ((walk_of_ancestor _ v hancestor).reverse fun _ _ => Adjacent.symm)
      omega
    have hdown : v ∈ downstreamNodes listing root :=
      (mem_downstreamNodes hadjacency).mpr (away_of_walk hk (hzero root hmem) (hexact ▸ hm))
    rcases List.mem_cons.mp ((hmirror root).mp hdown) with rfl | hon
    · have hself : 0 + m = 0 := hm.unique (hzero root hmem)
      omega
    · obtain ⟨j, hj, hup⟩ := hchain.mem_iff.mp hon
      rcases Nat.lt_or_ge (j + 1) chain.length with hlt | hge
      · exact hchain.not_root hlt hup hmem
      · obtain hlength : j + 1 = chain.length := by omega
        rw [hlength, hancestor] at hup
        exact hne (Option.some.inj hup).symm
  · intro hnearest n
    have hv := distance_of_nearest hacyclic hchain hlast hnearest
    rw [List.mem_cons]
    constructor
    · intro hdown
      have haway := (mem_downstreamNodes hadjacency).mp hdown
      by_cases hnv : n = v
      · exact .inl hnv
      right
      obtain ⟨d, hd⟩ : ∃ d, Distance graph n d := by
        rcases haway.cases_head with heq | ⟨y, ⟨-, a, -, ha, -⟩, -⟩
        · exact absurd heq hnv
        · exact ⟨a, ha⟩
      obtain ⟨m, hwalk, hm⟩ := exists_walk_of_away haway hd
      have hsum : d + m = chain.length := hm.unique hv
      obtain ⟨⟨root, hmem, hpath⟩, -⟩ := hd
      obtain rfl : root = e := by
        by_contra hne
        have hlt := hnearest root hmem hne _ (hpath.trans hwalk)
        omega
      have hup : ancestor graph.upstream m v = some n := by
        refine ancestor_of_walk hacyclic (hwalk.reverse fun _ _ => Adjacent.symm)
          (hpath.reverse fun _ _ => Adjacent.symm) ?_
        rw [Nat.add_comm, hsum, hancestor]
      cases m with
      | zero => exact absurd (Option.some.inj hup).symm hnv
      | succ m => exact hchain.mem_iff.mpr ⟨m, by omega, hup⟩
    · rintro (rfl | hon)
      · exact (mem_downstreamNodes hadjacency).mpr .refl
      · exact downstream_of_mem_chain hadjacency hchain hv hon

end Distance

/-- **Downstream scope and upstream path** are mirror images for a device exactly if the root that
its declared path ends at is nearer to it, over edges in either direction, than every other root. -/
theorem downstream_mirrors_chain_iff {rows : List ReportRow}
    (herrors : graphErrors (rows.map ReportRow.payload) = ∅) (vrfName : String)
    (listing : Listing (projectAuthoritativeForwardingGraph rows vrfName)) (v maximumHops : ℕ)
    (hreaches : resolveAuthoritativeUpstreamChain
      (projectAuthoritativeForwardingGraph rows vrfName) v maximumHops ≠ []) :
    let graph := projectAuthoritativeForwardingGraph rows vrfName
    let chain := resolveAuthoritativeUpstreamChain graph v maximumHops
    (∀ n, v ∈ downstreamNodes listing n ↔ n ∈ v :: chain) ↔
      ∀ root ∈ graph.rootDeviceIds, chain.getLast? ≠ some root →
        ∀ k, Walk (Adjacent graph.upstream) k root v → chain.length < k := by
  intro graph chain
  have hchain : Rises graph v chain := rises_of_chain hreaches
  obtain ⟨e, hlast, -⟩ := hchain.end_root
  rw [mirrors_iff_nearest (fun x y => adjacency_iff) (acyclic_projection herrors) hchain hlast,
    hlast]
  simp only [ne_eq, Option.some_inj, eq_comm]
  exact Iff.rfl

/-! ## A core device below a border device -/

/-- An agreeing declaration of the main VRF. -/
def agreed (id : ℕ) (pathKey : String) (downstream upstream : Endpoint) : ReportRow :=
  ⟨id, ⟨pathKey, downstream, some upstream, "main", 100⟩, .agreement⟩

def accessCoreBorder : List ReportRow :=
  [agreed 0 "access-core" ⟨1, 0, .access⟩ ⟨2, 0, .core⟩,
    agreed 1 "core-border" ⟨2, 0, .core⟩ ⟨3, 0, .border⟩]

/-- The access device is downstream of the core device, which ends its path, and of nothing above. -/
theorem access_mirrored : 1 ∈ downstreamNodes (declaredListing accessCoreBorder "main") 2 ∧
    1 ∉ downstreamNodes (declaredListing accessCoreBorder "main") 3 := by
  have herrors : graphErrors (accessCoreBorder.map ReportRow.payload) = ∅ := by decide +kernel
  have hchain : resolveAuthoritativeUpstreamChain
      (projectAuthoritativeForwardingGraph accessCoreBorder "main") 1 16 = [2] := by decide +kernel
  have hroots : (projectAuthoritativeForwardingGraph accessCoreBorder "main").rootDeviceIds =
      {2, 3} := by decide +kernel
  have hborder : ancestor (projectAuthoritativeForwardingGraph accessCoreBorder "main").upstream 2 1 =
      some 3 := by decide +kernel
  have hmirror := downstream_mirrors_chain_iff herrors "main" (declaredListing accessCoreBorder "main")
    1 16 (by simp [hchain])
  simp only [hchain, hroots] at hmirror
  have hall := hmirror.mpr fun root hroot hne k hk => by
    rcases Finset.mem_insert.mp hroot with rfl | hroot
    · exact absurd rfl hne
    · obtain rfl := Finset.mem_singleton.mp hroot
      exact le_of_walk (acyclic_projection herrors) (hk.reverse fun _ _ => Adjacent.symm) hborder
  exact ⟨(hall 2).mpr (by decide), fun h => absurd ((hall 3).mp h) (by decide)⟩

/-- The border device is on the path of the core device, which is not downstream of it. -/
theorem core_not_mirrored : ¬ ∀ (rows : List ReportRow) (vrfName : String)
    (listing : Listing (projectAuthoritativeForwardingGraph rows vrfName)) (n v : ℕ),
      graphErrors (rows.map ReportRow.payload) = ∅ → n ≠ v →
        resolveAuthoritativeUpstreamChain
          (projectAuthoritativeForwardingGraph rows vrfName) v ≠ [] →
        (v ∈ downstreamNodes listing n ↔ n ∈ resolveAuthoritativeUpstreamChain
          (projectAuthoritativeForwardingGraph rows vrfName) v) := by
  intro hall
  have hon : (2 : ℕ) ∈ downstreamNodes (declaredListing accessCoreBorder "main") 3 :=
    (hall accessCoreBorder "main" (declaredListing _ _) 3 2 (by decide +kernel) (by decide)
      (by decide +kernel)).mpr (by decide +kernel)
  exact absurd hon (by decide +kernel)

end DotmacSub.Topology
