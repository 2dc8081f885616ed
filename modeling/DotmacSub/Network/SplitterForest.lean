import DotmacSub.Core.Cycles
import DotmacSub.Core.Run
import DotmacSub.Network.SplitterPlant
import Mathlib.Data.List.Perm.Subperm
import Mathlib.Data.Set.Subsingleton

/-!
# The forest of reviewed splitters

What the attachments of `network/fiber_access_attachments.py` keep together.
-/

namespace DotmacSub.SplitterPlant

open Checked Store Relation Cycles

def PonFeeds (inv : Inventory) (plant : Plant) (pon x : ℕ) : Prop :=
  ∃ l ∈ plant.activePonLinks, l.ponPortId = pon ∧ inv.splitterOf l.splitterPortId = some x

def Cascades (inv : Inventory) (plant : Plant) (x y : ℕ) : Prop :=
  ∃ c ∈ plant.activeCascades, inv.splitterOf c.upstreamOutputPortId = some x ∧
    inv.splitterOf c.downstreamInputPortId = some y

def feeds (inv : Inventory) (plant : Plant) (x : ℕ) :
    Set (PonPortSplitterLink ⊕ SplitterCascadeLink) :=
  {f | f.elim (fun l => l ∈ plant.activePonLinks ∧ inv.splitterOf l.splitterPortId = some x)
    fun c => c ∈ plant.activeCascades ∧ inv.splitterOf c.downstreamInputPortId = some x}

def uses (plant : Plant) (port : ℕ) : Set (OntUnit ⊕ SplitterCascadeLink) :=
  {u | u.elim (fun ont => ont ∈ plant.onts.rows ∧ ont.On port)
    fun c => c ∈ plant.activeCascades ∧ c.upstreamOutputPortId = port}

/-- A rooted forest that agrees with the PONs of its ONTs. -/
structure Forest (inv : Inventory) (plant : Plant) : Prop where
  oneFeed : ∀ x, (feeds inv plant x).Subsingleton
  acyclic : Acyclic (Cascades inv plant)
  oneUse : ∀ port, (uses plant port).Subsingleton
  cascading : ∀ x y, Cascades inv plant x y → ∃ chain, resolveSplitterRoot inv plant x = .ok chain
  serving : ∀ x y, ReflTransGen (Cascades inv plant) x y → ∀ ont ∈ plant.onts.rows, ∀ port,
    ont.On port → inv.splitterOf port = some y → ∃ chain, resolveSplitterRoot inv plant x = .ok chain
  agreed : ∀ ont ∈ plant.onts.rows, ∀ port ∈ ont.splitterPortId, ∃ x, ont.splitterId = some x ∧
    inv.splitterOf port = some x ∧
      ∃ chain, resolveSplitterRoot inv plant x = .ok chain ∧ ont.ponPortId = some chain.ponPortId

inductive Rooted (inv : Inventory) (plant : Plant) (pon : ℕ) : ℕ → Prop
  | root {x} (h : PonFeeds inv plant pon x) : Rooted inv plant pon x
  | cascade {x y} (h : Rooted inv plant pon x) (hxy : Cascades inv plant x y) : Rooted inv plant pon y

/-- The splitter has one input, and its loss is known. -/
def Inventory.Measured (inv : Inventory) (x : ℕ) : Prop := inv.SingleInput x ∧ inv.lossOf x ≠ none

structure Inventory.Supplies (inv : Inventory) (pon target : ℕ) : Prop where
  pon : ∃ row ∈ inv.pon pon, row.isActive ∧ inv.olt row.oltId = some true
  target : ∃ port ∈ inv.port target, port.isActive ∧ port.portType = .input ∧
    inv.Lit port.splitterId

/-- What the decisions keep: every splitter in use is `Rooted`. -/
structure Inv (inv : Inventory) (plant : Plant) : Prop where
  unique : plant.Unique
  supplied : ∀ l ∈ plant.activePonLinks, inv.Supplies l.ponPortId l.splitterPortId
  onePon : ∀ l ∈ plant.activePonLinks, ∀ l' ∈ plant.activePonLinks,
    inv.splitterOf l.splitterPortId = inv.splitterOf l'.splitterPortId → l = l'
  joined : ∀ c ∈ plant.activeCascades, ∃ o ∈ inv.port c.upstreamOutputPortId,
    ∃ i ∈ inv.port c.downstreamInputPortId, inv.Joins o i ∧ inv.Measured o.splitterId ∧
      inv.Measured i.splitterId
  oneCascade : ∀ c ∈ plant.activeCascades, ∀ c' ∈ plant.activeCascades,
    inv.splitterOf c.downstreamInputPortId = inv.splitterOf c'.downstreamInputPortId → c = c'
  unmixed : ∀ l ∈ plant.activePonLinks, ∀ c ∈ plant.activeCascades,
    inv.splitterOf l.splitterPortId ≠ inv.splitterOf c.downstreamInputPortId
  rooted : ∀ x y, Cascades inv plant x y → ∃ pon, Rooted inv plant pon x
  attached : ∀ ont ∈ plant.onts.rows, ∀ port ∈ ont.splitterPortId, ont.isActive ∧
    ∃ x pon, ont.splitterId = some x ∧ inv.splitterOf port = some x ∧ ont.ponPortId = some pon ∧
      Rooted inv plant pon x ∧ inv.SingleInput x
  oneOnt : ∀ ont ∈ plant.onts.rows, ∀ ont' ∈ plant.onts.rows, ∀ port ∈ ont.splitterPortId,
    ont'.splitterPortId = some port → ont = ont'
  ontOnly : ∀ ont ∈ plant.onts.rows, ∀ port ∈ ont.splitterPortId, ∀ c ∈ plant.activeCascades,
    c.upstreamOutputPortId ≠ port

section Resolve

variable {inv : Inventory} {plant plant' : Plant} {pon x y : ℕ} {ids : List ℕ} {α : Type}

lemma splitterOf_eq_some : inv.splitterOf x = some y ↔ ∃ port ∈ inv.port x, port.splitterId = y :=
  Option.map_eq_some_iff

def LoadedAs (inv : Inventory) (c : SplitterCascadeLink) (edge : CascadeEdge) : Prop :=
  edge.link = c ∧ inv.port c.upstreamOutputPortId = some edge.outputPort ∧
    inv.port c.downstreamInputPortId = some edge.inputPort

lemma LoadedAs.splitterOf {c : SplitterCascadeLink} {edge : CascadeEdge} (h : LoadedAs inv c edge) :
    inv.splitterOf c.upstreamOutputPortId = some edge.outputPort.splitterId ∧
      inv.splitterOf c.downstreamInputPortId = some edge.inputPort.splitterId :=
  ⟨splitterOf_eq_some.mpr ⟨_, h.2.1, rfl⟩, splitterOf_eq_some.mpr ⟨_, h.2.2, rfl⟩⟩

lemma foldl_addCascade : ∀ (links : List SplitterCascadeLink) (graph : Graph),
    (∀ c ∈ links, ∃ o ∈ inv.port c.upstreamOutputPortId,
      ∃ i ∈ inv.port c.downstreamInputPortId, inv.Joins o i) →
    links.Pairwise (fun c c' =>
      inv.splitterOf c.downstreamInputPortId ≠ inv.splitterOf c'.downstreamInputPortId) →
    (∀ c ∈ links, ∀ edge ∈ graph.edges,
      inv.splitterOf c.downstreamInputPortId ≠ some edge.inputPort.splitterId) →
    ∃ edges, links.foldl (·.addCascade inv) graph = { graph with edges := graph.edges ++ edges } ∧
      List.Forall₂ (LoadedAs inv) links edges
  | [], graph, _, _, _ => ⟨[], by rw [List.foldl_nil, List.append_nil], .nil⟩
  | c :: links, graph, hjoins, hpairs, hnew => by
    obtain ⟨o, ho, i, hi, hjoin⟩ := hjoins c List.mem_cons_self
    obtain ⟨hfirst, hpairs⟩ := List.pairwise_cons.mp hpairs
    have hloaded : LoadedAs inv c ⟨c, o, i⟩ := ⟨rfl, ho, hi⟩
    have hfree : graph.incoming i.splitterId = none := by
      refine List.find?_eq_none.mpr fun edge hedge => ?_
      rw [decide_eq_true_eq]
      intro heq
      exact hnew c List.mem_cons_self edge hedge (hloaded.splitterOf.2.trans (congrArg _ heq.symm))
    have hstep : graph.addCascade inv c = { graph with edges := graph.edges ++ [⟨c, o, i⟩] } := by
      rw [Graph.addCascade, Option.mem_def.mp ho, Option.mem_def.mp hi]
      simp only [if_pos hjoin, hfree]
    obtain ⟨edges, hfold, hall⟩ := foldl_addCascade links
      { graph with edges := graph.edges ++ [⟨c, o, i⟩] }
      (fun c' hc' => hjoins c' (List.mem_cons_of_mem _ hc')) hpairs fun c' hc' edge hedge => by
        rcases List.mem_append.mp hedge with hold | hlast
        · exact hnew c' (List.mem_cons_of_mem _ hc') edge hold
        · obtain rfl := List.mem_singleton.mp hlast
          exact fun heq => hfirst c' hc' (hloaded.splitterOf.2.trans heq.symm)
    refine ⟨⟨c, o, i⟩ :: edges, ?_, .cons hloaded hall⟩
    rw [List.foldl_cons, hstep, hfold, List.append_assoc, List.singleton_append]

lemma foldl_addRoot : ∀ (links : List PonPortSplitterLink) (graph : Graph),
    (∀ l ∈ links, inv.Supplies l.ponPortId l.splitterPortId) →
    ∃ roots, links.foldl (·.addRoot inv) graph = { graph with roots := graph.roots ++ roots } ∧
      List.Forall₂ (fun l root => root.2 = l ∧ inv.splitterOf l.splitterPortId = some root.1)
        links roots
  | [], graph, _ => ⟨[], by rw [List.foldl_nil, List.append_nil], .nil⟩
  | l :: links, graph, hsupplies => by
    obtain ⟨port, hport, hactive, htype, hlit⟩ := (hsupplies l List.mem_cons_self).target
    obtain ⟨roots, hfold, hall⟩ := foldl_addRoot links
      { graph with roots := graph.roots ++ [(port.splitterId, l)] }
      fun l' hl' => hsupplies l' (List.mem_cons_of_mem _ hl')
    refine ⟨(port.splitterId, l) :: roots, ?_,
      .cons ⟨rfl, splitterOf_eq_some.mpr ⟨port, hport, rfl⟩⟩ hall⟩
    have hstep : graph.addRoot inv l =
        { graph with roots := graph.roots ++ [(port.splitterId, l)] } := by
      rw [Graph.addRoot, Option.mem_def.mp hport]
      exact if_pos ⟨hactive, htype, hlit⟩
    rw [List.foldl_cons, hstep, hfold, List.append_assoc, List.singleton_append]

structure Loaded (inv : Inventory) (plant : Plant) (graph : Graph) : Prop where
  valid : graph.invalidSplitters = []
  edges : List.Forall₂ (LoadedAs inv) plant.activeCascades graph.edges
  roots : List.Forall₂ (fun l root => root.2 = l ∧ inv.splitterOf l.splitterPortId = some root.1)
    plant.activePonLinks graph.roots

lemma nodup_of_table [Row α] (t : Table α) : t.rows.Nodup := .of_map _ t.nodup

lemma Inv.loaded (h : Inv inv plant) : Loaded inv plant (plant.loadGraph inv) := by
  have hpairs : plant.activeCascades.Pairwise (fun c c' =>
      inv.splitterOf c.downstreamInputPortId ≠ inv.splitterOf c'.downstreamInputPortId) :=
    ((nodup_of_table plant.cascades).filter _).imp_of_mem fun hc hc' hne heq =>
      hne (h.oneCascade _ hc _ hc' heq)
  obtain ⟨edges, hedges, hall⟩ := foldl_addCascade plant.activeCascades ⟨[], [], []⟩
    (fun c hc => by
      obtain ⟨o, ho, i, hi, hjoin, -⟩ := h.joined c hc
      exact ⟨o, ho, i, hi, hjoin⟩) hpairs fun _ _ _ hedge => absurd hedge List.not_mem_nil
  obtain ⟨roots, hroots, hlinks⟩ := foldl_addRoot plant.activePonLinks ⟨edges, [], []⟩ h.supplied
  have hgraph : plant.loadGraph inv = ⟨edges, roots, []⟩ := by
    rw [Plant.loadGraph, hedges]
    exact hroots
  exact hgraph ▸ ⟨rfl, hall, hlinks⟩

variable {graph : Graph} {edge : CascadeEdge}

lemma Loaded.cascades (h : Loaded inv plant graph) (hedge : edge ∈ graph.edges) :
    Cascades inv plant edge.outputPort.splitterId edge.inputPort.splitterId := by
  obtain ⟨c, hc, hloaded⟩ := exists_of_mem_right h.edges edge hedge
  exact ⟨c, hc, hloaded.splitterOf⟩

lemma Loaded.exists_edge (h : Loaded inv plant graph) (hxy : Cascades inv plant x y) :
    ∃ edge ∈ graph.edges, edge.outputPort.splitterId = x ∧ edge.inputPort.splitterId = y := by
  obtain ⟨c, hc, hx, hy⟩ := hxy
  obtain ⟨edge, hedge, hloaded⟩ := exists_of_mem_left h.edges c hc
  exact ⟨edge, hedge, Option.mem_unique hloaded.splitterOf.1 hx,
    Option.mem_unique hloaded.splitterOf.2 hy⟩

lemma incoming_eq_some (h : graph.incoming y = some edge) :
    edge ∈ graph.edges ∧ edge.inputPort.splitterId = y := by
  have hfound := List.find?_some (p := fun e : CascadeEdge => e.inputPort.splitterId = y) h
  exact ⟨List.mem_of_find?_eq_some h, of_decide_eq_true hfound⟩

lemma Loaded.mem_rootsOf (h : Loaded inv plant graph) {l : PonPortSplitterLink} :
    l ∈ graph.rootsOf x ↔ l ∈ plant.activePonLinks ∧ inv.splitterOf l.splitterPortId = some x := by
  rw [Graph.rootsOf, List.mem_map]
  constructor
  · rintro ⟨root, hroot, rfl⟩
    obtain ⟨hroot, hx⟩ := List.mem_filter.mp hroot
    obtain ⟨l, hl, rfl, hsplitter⟩ := exists_of_mem_right h.roots root hroot
    exact ⟨hl, of_decide_eq_true hx ▸ hsplitter⟩
  · rintro ⟨hl, hx⟩
    obtain ⟨root, hroot, rfl, hsplitter⟩ := exists_of_mem_left h.roots l hl
    refine ⟨root, List.mem_filter.mpr ⟨hroot, decide_eq_true ?_⟩, rfl⟩
    exact Option.mem_unique hsplitter hx

lemma Inv.rootsOf_eq (h : Inv inv plant) {l : PonPortSplitterLink} (hl : l ∈ plant.activePonLinks)
    (hx : inv.splitterOf l.splitterPortId = some x) : (plant.loadGraph inv).rootsOf x = [l] := by
  have hgraph := h.loaded
  have hall : ∀ l' ∈ (plant.loadGraph inv).rootsOf x, l' = l := fun l' hl' => by
    obtain ⟨hmem, hx'⟩ := hgraph.mem_rootsOf.mp hl'
    exact h.onePon l' hmem l hl (hx'.trans hx.symm)
  have hnodup : ((plant.loadGraph inv).rootsOf x).Nodup := by
    have hsnd : (plant.loadGraph inv).roots.map Prod.snd = plant.activePonLinks :=
      List.forall₂_eq_eq_eq ▸ (List.forall₂_map_left_iff.mpr
        (hgraph.roots.flip.imp fun _ _ hr => hr.1))
    refine List.Nodup.sublist (List.filter_sublist.map Prod.snd) (hsnd ▸ ?_)
    exact (nodup_of_table plant.ponLinks).filter _
  have hmem := hgraph.mem_rootsOf.mpr ⟨hl, hx⟩
  generalize (plant.loadGraph inv).rootsOf x = roots at *
  match roots, hmem, hall, hnodup with
  | [l'], _, hall, _ => rw [hall l' List.mem_cons_self]
  | l' :: l'' :: _, _, hall, hnodup =>
    have heq : l' = l'' := (hall l' List.mem_cons_self).trans
      (hall l'' (List.mem_cons_of_mem _ List.mem_cons_self)).symm
    exact absurd (heq ▸ List.mem_cons_self) (List.nodup_cons.mp hnodup).1

lemma Inv.acyclic (h : Inv inv plant) : Acyclic (Cascades inv plant) := by
  have hrooted : ∀ pon x, Rooted inv plant pon x → ¬ TransGen (Cascades inv plant) x x := by
    intro pon x hx
    induction hx with
    | root hfeeds =>
      intro hcycle
      obtain ⟨l, hl, -, hsplitter⟩ := hfeeds
      obtain ⟨z, -, c, hc, -, hinto⟩ := TransGen.tail'_iff.mp hcycle
      exact h.unmixed l hl c hc (hsplitter.trans hinto.symm)
    | @cascade x y _ hxy ih =>
      intro hcycle
      obtain ⟨z, hyz, c, hc, hz, hinto⟩ := TransGen.tail'_iff.mp hcycle
      obtain ⟨c', hc', hx, hinto'⟩ := hxy
      -- the cascade into the splitter is the one it is rooted by
      obtain rfl := h.oneCascade c hc c' hc' (hinto.trans hinto'.symm)
      obtain rfl := Option.mem_unique hz hx
      exact ih (TransGen.head' ⟨c, hc, hz, hinto⟩ hyz)
  intro x hcycle
  obtain ⟨y, hxy, -⟩ := TransGen.head'_iff.mp hcycle
  obtain ⟨pon, hpon⟩ := h.rooted x y hxy
  exact hrooted pon x hpon hcycle

lemma Inv.measured (h : Inv inv plant) (hxy : Cascades inv plant x y) :
    inv.Measured x ∧ inv.Measured y := by
  obtain ⟨c, hc, hx, hy⟩ := hxy
  obtain ⟨o, ho, i, hi, -, hmeasured⟩ := h.joined c hc
  obtain rfl := Option.mem_unique hx (splitterOf_eq_some.mpr ⟨o, ho, rfl⟩)
  obtain rfl := Option.mem_unique hy (splitterOf_eq_some.mpr ⟨i, hi, rfl⟩)
  exact hmeasured

/-- A climb from a rooted splitter ends at one that its PON feeds; all that it meets has one input,
and a known loss if there is a cascade. -/
lemma Inv.climb (h : Inv inv plant) (hrooted : Rooted inv plant pon x) :
    ∀ (fuel : ℕ) (visited : List ℕ) (above : List CascadeEdge), visited.Nodup →
      visited ⊆ (plant.loadGraph inv).edges.map (·.inputPort.splitterId) →
      (plant.loadGraph inv).edges.length + 1 ≤ visited.length + fuel →
      (∀ v ∈ visited, TransGen (Cascades inv plant) x v) → inv.SingleInput x →
      (∀ edge ∈ above, inv.Measured edge.inputPort.splitterId) →
      (above ≠ [] → inv.Measured x) →
      ∃ top edges, (plant.loadGraph inv).climb fuel x visited above = .ok (top, edges) ∧
        PonFeeds inv plant pon top ∧ inv.SingleInput top ∧ (edges ≠ [] → inv.Measured top) ∧
        ∀ edge ∈ edges, inv.Measured edge.inputPort.splitterId := by
  have hgraph := h.loaded
  induction hrooted with
  | @root x hfeeds =>
    intro fuel visited above hnodup hsub hfuel hbelow hsingle habove hmeasured
    have hlength := (hnodup.subperm hsub).length_le
    rw [List.length_map] at hlength
    have hnone : (plant.loadGraph inv).incoming x = none := by
      rw [← Option.not_isSome_iff_eq_none, Option.isSome_iff_exists]
      rintro ⟨edge, hedge⟩
      obtain ⟨hmem, rfl⟩ := incoming_eq_some hedge
      obtain ⟨c, hc, -, hinto⟩ := hgraph.cascades hmem
      obtain ⟨l, hl, -, hsplitter⟩ := hfeeds
      exact h.unmixed l hl c hc (hsplitter.trans hinto.symm)
    obtain ⟨fuel, rfl⟩ : ∃ k, fuel = k + 1 := ⟨fuel - 1, by omega⟩
    refine ⟨x, above, ?_, hfeeds, hsingle, hmeasured, habove⟩
    rw [Graph.climb, hnone]
    exact ensure_bind_eq_ok.mpr ⟨fun hmem => h.acyclic x (hbelow x hmem), rfl⟩
  | @cascade u y hu huy ih =>
    intro fuel visited above hnodup hsub hfuel hbelow hsingle habove hmeasured
    have hnot : y ∉ visited := fun hmem => h.acyclic y (hbelow y hmem)
    obtain ⟨edge, hmem, hout, hin⟩ := hgraph.exists_edge huy
    have hsub' : y :: visited ⊆ (plant.loadGraph inv).edges.map (·.inputPort.splitterId) :=
      List.cons_subset.mpr ⟨List.mem_map.mpr ⟨edge, hmem, hin⟩, hsub⟩
    have hnodup' : (y :: visited).Nodup := List.nodup_cons.mpr ⟨hnot, hnodup⟩
    have hlength := (hnodup'.subperm hsub').length_le
    rw [List.length_map, List.length_cons] at hlength
    obtain ⟨edge', hedge'⟩ : ∃ edge', (plant.loadGraph inv).incoming y = some edge' := by
      refine Option.isSome_iff_exists.mp (List.find?_isSome.mpr ⟨edge, hmem, ?_⟩)
      exact decide_eq_true hin
    obtain ⟨hmem', rfl⟩ := incoming_eq_some hedge'
    -- the edge found is of the cascade that the splitter is rooted by
    obtain ⟨c, hc, hx, hinto⟩ := huy
    obtain ⟨c', hc', hx', hinto'⟩ := hgraph.cascades hmem'
    obtain rfl := h.oneCascade c hc c' hc' (hinto.trans hinto'.symm)
    obtain rfl := Option.mem_unique hx hx'
    have hstep : Cascades inv plant edge'.outputPort.splitterId edge'.inputPort.splitterId :=
      ⟨c, hc, hx, hinto⟩
    have hroots : (plant.loadGraph inv).rootsOf edge'.inputPort.splitterId = [] := by
      refine List.eq_nil_iff_forall_not_mem.mpr fun l hl => ?_
      obtain ⟨hl, hsplitter⟩ := hgraph.mem_rootsOf.mp hl
      exact h.unmixed l hl c hc (hsplitter.trans hinto.symm)
    obtain ⟨fuel, rfl⟩ : ∃ k, fuel = k + 1 := ⟨fuel - 1, by omega⟩
    obtain ⟨top, edges, hclimb, hrest⟩ := ih fuel (edge'.inputPort.splitterId :: visited)
      (edge' :: above) hnodup' hsub' (by rw [List.length_cons]; omega) (by
        rintro v (_ | ⟨_, hv⟩)
        · exact .single hstep
        · exact .head hstep (hbelow v hv)) (h.measured hstep).1.1 (by
        rintro e (_ | ⟨_, he⟩)
        · exact (h.measured hstep).2
        · exact habove e he) fun _ => (h.measured hstep).1
    refine ⟨top, edges, ?_, hrest⟩
    rw [Graph.climb, hedge']
    refine ensure_bind_eq_ok.mpr ⟨hnot, ensure_bind_eq_ok.mpr ⟨hroots, ?_⟩⟩
    exact ensure_bind_eq_ok.mpr ⟨hgraph.valid ▸ List.not_mem_nil, hclimb⟩

/-- **A rooted splitter resolves** to its PON. -/
lemma Inv.resolve_of_rooted (h : Inv inv plant) (hrooted : Rooted inv plant pon x)
    (hsingle : inv.SingleInput x) :
    ∃ chain, resolveSplitterRoot inv plant x = .ok chain ∧ chain.ponPortId = pon := by
  have hgraph := h.loaded
  obtain ⟨top, edges, hclimb, ⟨l, hl, rfl, htop⟩, hsingleTop, hmeasuredTop, hmeasured⟩ :=
    h.climb hrooted ((plant.loadGraph inv).edges.length + 1) [] [] List.nodup_nil
      (List.nil_subset _) (Nat.le_add_left _ _) (fun _ hv => absurd hv List.not_mem_nil) hsingle
      (fun _ he => absurd he List.not_mem_nil) fun hne => absurd rfl hne
  obtain ⟨splitter, hsplitter, -⟩ := hsingle
  obtain ⟨row, hrow, hactive, holt⟩ := (h.supplied l hl).pon
  have hids : ∀ z ∈ top :: edges.map (·.inputPort.splitterId), inv.SingleInput z := by
    rintro z (_ | ⟨_, hz⟩)
    · exact hsingleTop
    · obtain ⟨edge, hedge, rfl⟩ := List.mem_map.mp hz
      exact (hmeasured edge hedge).1
  have hlosses : 1 < (top :: edges.map (·.inputPort.splitterId)).length →
      ∀ z ∈ top :: edges.map (·.inputPort.splitterId), inv.lossOf z ≠ none := by
    intro hlong
    have hne : edges ≠ [] := by
      rintro rfl
      exact absurd hlong (Nat.lt_irrefl 1)
    rintro z (_ | ⟨_, hz⟩)
    · exact (hmeasuredTop hne).2
    · obtain ⟨edge, hedge, rfl⟩ := List.mem_map.mp hz
      exact (hmeasured edge hedge).2
  have hroot : (plant.loadGraph inv).onlyRoot top = .ok l := by
    rw [Graph.onlyRoot, h.rootsOf_eq hl htop]
  have hpon : (inv.pon l.ponPortId).filter (·.isActive) = some row := by
    rw [Option.mem_def.mp hrow, Option.filter_some, if_pos hactive]
  have hok : ∃ root below, resolveSplitterRoot inv plant x =
      .ok ⟨l.ponPortId, row.oltId, root, below⟩ :=
    ⟨_, _, ensure_bind_eq_ok.mpr ⟨Option.isSome_of_mem hsplitter,
      ensure_bind_eq_ok.mpr ⟨hgraph.valid ▸ List.not_mem_nil,
      bind_eq_ok.mpr ⟨(top, edges), hclimb,
      bind_eq_ok.mpr ⟨l, hroot,
      ensure_bind_eq_ok.mpr ⟨hids,
      ensure_bind_eq_ok.mpr ⟨hlosses,
      orRefuse_bind_eq_ok.mpr ⟨row, hpon,
      ensure_bind_eq_ok.mpr ⟨Option.isSome_of_mem holt, rfl⟩⟩⟩⟩⟩⟩⟩⟩⟩
  obtain ⟨root, below, hok⟩ := hok
  exact ⟨_, hok, rfl⟩

lemma rooted_of_climb (hgraph : Loaded inv plant graph) {top : ℕ} {edges : List CascadeEdge} :
    ∀ (fuel x : ℕ) (visited : List ℕ) (above : List CascadeEdge),
      graph.climb fuel x visited above = .ok (top, edges) →
      (PonFeeds inv plant pon top → Rooted inv plant pon x) ∧ above ⊆ edges ∧
        x ∈ top :: edges.map (·.inputPort.splitterId)
  | fuel + 1, x, visited, above, hclimb => by
    rw [Graph.climb] at hclimb
    split at hclimb
    · obtain ⟨-, hclimb⟩ := ensure_bind_eq_ok.mp hclimb
      obtain ⟨rfl, rfl⟩ := mk_eq_ok.mp hclimb
      exact ⟨.root, List.Subset.refl _, List.mem_cons_self⟩
    · rename_i edge hedge
      obtain ⟨-, hclimb⟩ := ensure_bind_eq_ok.mp hclimb
      obtain ⟨-, hclimb⟩ := ensure_bind_eq_ok.mp hclimb
      obtain ⟨-, hclimb⟩ := ensure_bind_eq_ok.mp hclimb
      obtain ⟨hmem, rfl⟩ := incoming_eq_some hedge
      obtain ⟨hrooted, hsub, -⟩ := rooted_of_climb hgraph fuel _ _ _ hclimb
      refine ⟨fun hfeeds => .cascade (hrooted hfeeds) (hgraph.cascades hmem),
        List.subset_of_cons_subset hsub, List.mem_cons_of_mem _ ?_⟩
      exact List.mem_map_of_mem (hsub List.mem_cons_self)

lemma stagesBelow_none : ∀ (edges : List CascadeEdge) (stage : ℕ),
    ∀ s ∈ inv.stagesBelow edges stage none, s.cumulativeLossDb = none
  | [], _, _, hs => absurd hs List.not_mem_nil
  | edge :: edges, stage, s, hs => by
    rcases List.mem_cons.mp hs with rfl | hs
    · rfl
    · exact stagesBelow_none edges (stage + 1) s hs

lemma Inv.rooted_of_resolve (h : Inv inv plant) {chain : RootedSplitterChain}
    (hresolve : resolveSplitterRoot inv plant x = .ok chain) :
    Rooted inv plant chain.ponPortId x ∧ inv.SingleInput x ∧
      (chain.leaf.cumulativeLossDb ≠ none → inv.lossOf x ≠ none) := by
  have hgraph := h.loaded
  obtain ⟨-, hresolve⟩ := ensure_bind_eq_ok.mp hresolve
  obtain ⟨-, hresolve⟩ := ensure_bind_eq_ok.mp hresolve
  obtain ⟨⟨top, edges⟩, hclimb, hresolve⟩ := bind_eq_ok.mp hresolve
  obtain ⟨link, hlink, hresolve⟩ := bind_eq_ok.mp hresolve
  obtain ⟨hids, hresolve⟩ := ensure_bind_eq_ok.mp hresolve
  obtain ⟨-, hresolve⟩ := ensure_bind_eq_ok.mp hresolve
  obtain ⟨pon, hpon, hresolve⟩ := orRefuse_bind_eq_ok.mp hresolve
  obtain ⟨-, hresolve⟩ := ensure_bind_eq_ok.mp hresolve
  obtain rfl := pure_eq_ok.mp hresolve
  have hroots : (plant.loadGraph inv).rootsOf top = [link] := by
    rw [Graph.onlyRoot] at hlink
    split at hlink
    · rename_i hroots
      exact hroots.trans (congrArg (fun l => [l]) (Except.ok.inj hlink))
    · cases hlink
  obtain ⟨hl, htop⟩ := hgraph.mem_rootsOf.mp (hroots ▸ List.mem_cons_self)
  obtain ⟨hrooted, -, hx⟩ := rooted_of_climb hgraph _ _ _ _ hclimb
  refine ⟨hrooted ⟨link, hl, rfl, htop⟩, hids x hx, fun hknown => ?_⟩
  by_cases hlosses : ∀ z ∈ top :: edges.map (·.inputPort.splitterId), inv.lossOf z ≠ none
  · exact hlosses x hx
  · refine absurd ?_ hknown
    simp only [RootedSplitterChain.leaf, if_neg hlosses]
    show (List.getLastD (inv.stagesBelow edges 2 none) _).cumulativeLossDb = none
    cases hbelow : (inv.stagesBelow edges 2 none).getLast? with
    | none => rw [List.getLastD_eq_getLast?, hbelow]; rfl
    | some s =>
      rw [List.getLastD_eq_getLast?, hbelow]
      exact stagesBelow_none edges 2 s (List.mem_of_getLast? hbelow)

structure Bare (inv : Inventory) (plant : Plant) (x : ℕ) : Prop where
  outgoing : ∀ y, ¬ Cascades inv plant x y
  onts : ∀ ont ∈ plant.onts.rows, ∀ port, ont.On port → inv.splitterOf port ≠ some x

lemma visit_grows : ∀ (fuel : ℕ) (seen : List ℕ × List ℕ) (x : ℕ) (seen' : List ℕ × List ℕ),
    graph.visit fuel seen x = .ok seen' →
      seen.1 ⊆ seen'.1 ∧ x ∈ seen'.1 ∧
        (x ∉ seen.1 → ∀ edge ∈ graph.outgoing x, edge.inputPort.splitterId ∈ seen'.1)
  | fuel + 1, (visited, activePath), x, seen', hvisit => by
    rw [Graph.visit] at hvisit
    obtain ⟨-, hvisit⟩ := ensure_bind_eq_ok.mp hvisit
    split_ifs at hvisit with hmem
    · obtain rfl := pure_eq_ok.mp hvisit
      exact ⟨List.Subset.refl _, hmem, fun hnot => absurd hmem hnot⟩
    · obtain ⟨-, hvisit⟩ := ensure_bind_eq_ok.mp hvisit
      obtain ⟨⟨reached, path⟩, hloop, hvisit⟩ := bind_eq_ok.mp hvisit
      obtain rfl := pure_eq_ok.mp hvisit
      have hall : ∀ (edges : List CascadeEdge) (a b : List ℕ × List ℕ),
          edges.foldlM (fun seen edge => graph.visit fuel seen edge.inputPort.splitterId) a = .ok b →
            a.1 ⊆ b.1 ∧ ∀ edge ∈ edges, edge.inputPort.splitterId ∈ b.1 := by
        intro edges
        induction edges with
        | nil =>
          intro a b h
          obtain rfl := foldlM_nil_eq_ok.mp h
          exact ⟨List.Subset.refl _, fun _ h => absurd h List.not_mem_nil⟩
        | cons edge edges ih =>
          intro a b h
          obtain ⟨c, hc, hb⟩ := foldlM_cons_eq_ok.mp h
          obtain ⟨hac, hin, -⟩ := visit_grows fuel a _ c hc
          obtain ⟨hcb, hrest⟩ := ih c b hb
          refine ⟨List.Subset.trans hac hcb, ?_⟩
          rintro e (_ | ⟨_, he⟩)
          · exact hcb hin
          · exact hrest e he
      obtain ⟨hsub, hedges⟩ := hall _ _ _ hloop
      obtain ⟨hx, hsub⟩ := List.cons_subset.mp hsub
      exact ⟨hsub, hx, fun _ => hedges⟩

lemma Inv.mem_subtree (h : Inv inv plant) (hids : splitterSubtreeIds inv plant x = .ok ids) :
    x ∈ ids ∧ ∀ y, Cascades inv plant x y → y ∈ ids := by
  obtain ⟨-, hids⟩ := ensure_bind_eq_ok.mp hids
  obtain ⟨⟨visited, path⟩, hvisit, hids⟩ := bind_eq_ok.mp hids
  obtain rfl := pure_eq_ok.mp hids
  obtain ⟨-, hx, hedges⟩ := visit_grows _ _ _ _ hvisit
  refine ⟨hx, fun y hxy => ?_⟩
  obtain ⟨edge, hmem, hout, rfl⟩ := h.loaded.exists_edge hxy
  exact hedges List.not_mem_nil edge (List.mem_filter.mpr ⟨hmem, decide_eq_true hout⟩)

lemma onts_of_subtree (hx : x ∈ ids) (honts : (plant.activeOntsInSplitters inv ids).isEmpty) :
    ∀ ont ∈ plant.onts.rows, ∀ port, ont.On port → inv.splitterOf port ≠ some x := by
  intro ont hont port hon hsplitter
  have hmem : ont ∈ plant.activeOntsInSplitters inv ids :=
    List.mem_filter.mpr ⟨hont, decide_eq_true ⟨port, hon.2, hon, x, hsplitter, hx⟩⟩
  rw [List.isEmpty_iff.mp honts] at hmem
  exact absurd hmem List.not_mem_nil

lemma outgoing_of_subtree (hx : x ∈ ids)
    (hcascades : (plant.activeOutgoingCascades inv ids).isEmpty) :
    ∀ y, ¬ Cascades inv plant x y := by
  rintro y ⟨c, hc, hsplitter, -⟩
  have hmem : c ∈ plant.activeOutgoingCascades inv ids :=
    List.mem_filter.mpr ⟨hc, decide_eq_true ⟨x, hsplitter, hx⟩⟩
  rw [List.isEmpty_iff.mp hcascades] at hmem
  exact absurd hmem List.not_mem_nil

lemma Inv.bare_of_unlinked (h : Inv inv plant)
    (hcheck : assertSplitterRootCanBeUnlinked inv plant x = .ok ()) : Bare inv plant x := by
  obtain ⟨ids, hids, hcheck⟩ := bind_eq_ok.mp hcheck
  obtain ⟨honts, hcascades⟩ := ensure_bind_eq_ok.mp hcheck
  have hx := (h.mem_subtree hids).1
  exact ⟨outgoing_of_subtree hx (ensure_eq_ok.mp hcascades), onts_of_subtree hx honts⟩

/-! ## What a step leaves rooted -/

/-- A splitter stays rooted if the links stay into what is kept, which has all that a cascade
leaves. -/
lemma Rooted.frame (kept : ℕ → Prop) (hout : ∀ x y, Cascades inv plant x y → kept x)
    (hpon : ∀ x, PonFeeds inv plant pon x → kept x → PonFeeds inv plant' pon x)
    (hcascade : ∀ x y, Cascades inv plant x y → kept y → Cascades inv plant' x y)
    (h : Rooted inv plant pon x) : kept x → Rooted inv plant' pon x := by
  induction h with
  | root hfeeds => exact fun hx => .root (hpon _ hfeeds hx)
  | cascade _ hxy ih => exact fun hy => .cascade (ih (hout _ _ hxy)) (hcascade _ _ hxy hy)

lemma atMostOne_none {links : List α} {message : String} (h : atMostOne links message = .ok none) :
    links = [] := by
  unfold atMostOne at h
  split at h
  · rfl
  · cases h
  · cases h

lemma atMostOne_eq_ok {links : List α} {message : String} {current : Option α}
    (h : atMostOne links message = .ok current) : ∀ l, l ∈ links ↔ current = some l := by
  unfold atMostOne at h
  split at h
  · obtain rfl := Except.ok.inj h
    exact fun l => ⟨fun hl => absurd hl List.not_mem_nil, nofun⟩
  · obtain rfl := Except.ok.inj h
    exact fun l => List.mem_singleton.trans ⟨fun hl => congrArg some hl.symm,
      fun hl => (Option.some.inj hl).symm⟩
  · cases h

lemma loadPort_eq_ok {target : ℕ} {type : Option SplitterPortType} {active : Bool}
    {found : SplitterPort × Splitter} (h : inv.loadPort target type active = .ok found) :
    inv.port target = some found.1 ∧ inv.splitter found.1.splitterId = some found.2 ∧
      (active = true → found.1.isActive ∧ found.2.isActive) ∧
      ∀ expected ∈ type, found.1.portType = expected := by
  obtain ⟨port, hport, h⟩ := orRefuse_bind_eq_ok.mp h
  obtain ⟨hactive, h⟩ := ensure_bind_eq_ok.mp h
  obtain ⟨htype, h⟩ := ensure_bind_eq_ok.mp h
  obtain ⟨splitter, hsplitter, h⟩ := orRefuse_bind_eq_ok.mp h
  obtain ⟨hlit, h⟩ := ensure_bind_eq_ok.mp h
  obtain rfl := pure_eq_ok.mp h
  exact ⟨hport, hsplitter, fun ha => ⟨hactive ha, hlit ha⟩, htype⟩

end Resolve

section Changes

variable {inv : Inventory} {plant : Plant} {pon x y : ℕ}

structure Repointed (plant : Plant) (links : Table PonPortSplitterLink) (pon : ℕ)
    (target : Option ℕ) : Prop where
  link : ∀ l ∈ links.rows, l.active = true →
    (l ∈ plant.activePonLinks ∧ l.ponPortId ≠ pon) ∨
      l.ponPortId = pon ∧ target = some l.splitterPortId
  kept : ∀ l ∈ plant.activePonLinks, l.ponPortId ≠ pon → l ∈ links.rows
  made : ∀ t ∈ target, ∃ l ∈ links.rows, l.active = true ∧ l.ponPortId = pon ∧ l.splitterPortId = t

lemma mem_activePonLinks {l : PonPortSplitterLink} :
    l ∈ plant.activePonLinks ↔ l ∈ plant.ponLinks.rows ∧ l.active = true := List.mem_filter

lemma mem_activeCascades {c : SplitterCascadeLink} :
    c ∈ plant.activeCascades ↔ c ∈ plant.cascades.rows ∧ c.active = true := List.mem_filter

lemma repointed_of_apply {plant' : Plant} {e : FiberAccessAttachmentPreview}
    (hunique : plant.Unique) (happly : applyPonInput plant e = .ok plant')
    (hdetach : e.action = .detach → e.targetSplitterPortId = none) : ∃ links,
      plant' = { plant with ponLinks := links } ∧
        Repointed plant links e.ponPortId e.targetSplitterPortId := by
  have hsame : ∀ l ∈ plant.ponLinks.rows, ∀ l' ∈ plant.ponLinks.rows,
      l.ponPortId = l'.ponPortId → l = l' :=
    fun l hl l' hl' heq => List.inj_on_of_nodup_map hunique.1 hl hl' heq
  have hfound : ∀ link, plant.ponLinks.rows.find? (·.ponPortId = e.ponPortId) = some link →
      link ∈ plant.ponLinks.rows ∧ link.ponPortId = e.ponPortId := fun link hlink =>
    ⟨List.mem_of_find?_eq_some hlink, by simpa using List.find?_some hlink⟩
  cases haction : e.action with
  | attach =>
    simp only [applyPonInput, haction] at happly
    obtain ⟨target, htarget, happly⟩ := orRefuse_bind_eq_ok.mp happly
    obtain rfl := pure_eq_ok.mp happly
    refine ⟨_, rfl, ?_⟩
    rw [htarget]
    cases hrow : plant.ponLinks.rows.find? (·.ponPortId = e.ponPortId) with
    | none =>
      have hnone := List.find?_eq_none.mp hrow
      refine ⟨fun l hl hactive => ?_, fun l hl _ => ?_, ?_⟩
      · rcases Table.mem_insert.mp hl with hold | rfl
        · exact .inl ⟨mem_activePonLinks.mpr ⟨hold, hactive⟩,
            fun heq => hnone l hold (decide_eq_true heq)⟩
        · exact .inr ⟨rfl, rfl⟩
      · exact Table.mem_insert.mpr (.inl (mem_activePonLinks.mp hl).1)
      · rintro _ ⟨⟩
        exact ⟨_, Table.mem_insert.mpr (.inr rfl), rfl, rfl, rfl⟩
    | some link =>
      obtain ⟨hmem, hpon⟩ := hfound link hrow
      refine ⟨fun l hl hactive => ?_, fun l hl hne => ?_, ?_⟩
      · rcases Table.mem_update.mp hl with ⟨hold, hid⟩ | ⟨r, hr, hid, rfl⟩
        · refine .inl ⟨mem_activePonLinks.mpr ⟨hold, hactive⟩, fun heq => hid ?_⟩
          rw [hsame l hold link hmem (heq.trans hpon.symm)]
          rfl
        · exact .inr ⟨(congrArg _ (Table.eq_of_id_eq hr hmem hid)).trans hpon, rfl⟩
      · refine Table.mem_update.mpr (.inl ⟨(mem_activePonLinks.mp hl).1, fun hid => hne ?_⟩)
        exact (congrArg _ (Table.eq_of_id_eq (mem_activePonLinks.mp hl).1 hmem hid)).trans hpon
      · rintro _ ⟨⟩
        exact ⟨_, Table.mem_update.mpr (.inr ⟨link, hmem, rfl, rfl⟩), rfl, hpon, rfl⟩
  | detach =>
    simp only [applyPonInput, haction] at happly
    obtain ⟨link, hlink, happly⟩ := orRefuse_bind_eq_ok.mp happly
    obtain rfl := pure_eq_ok.mp happly
    obtain ⟨hrow, -⟩ := Option.filter_eq_some_iff.mp hlink
    obtain ⟨hmem, hpon⟩ := hfound link hrow
    refine ⟨_, rfl, ?_⟩
    rw [hdetach haction]
    refine ⟨fun l hl hactive => ?_, fun l hl hne => ?_, nofun⟩
    · rcases Table.mem_update.mp hl with ⟨hold, hid⟩ | ⟨r, hr, hid, rfl⟩
      · refine .inl ⟨mem_activePonLinks.mpr ⟨hold, hactive⟩, fun heq => hid ?_⟩
        rw [hsame l hold link hmem (heq.trans hpon.symm)]
        rfl
      · cases hactive
    · refine Table.mem_update.mpr (.inl ⟨(mem_activePonLinks.mp hl).1, fun hid => hne ?_⟩)
      exact (congrArg _ (Table.eq_of_id_eq (mem_activePonLinks.mp hl).1 hmem hid)).trans hpon

lemma not_bare_of_cascades (hxy : Cascades inv plant x y) : ¬ Bare inv plant x :=
  fun hbare => hbare.outgoing y hxy

lemma Inv.not_bare_of_attached (h : Inv inv plant) {ont : OntUnit} (hont : ont ∈ plant.onts.rows)
    {port : ℕ} (hport : ont.splitterPortId = some port) (hx : inv.splitterOf port = some x) :
    ¬ Bare inv plant x :=
  fun hbare => hbare.onts ont hont port ⟨(h.attached ont hont port hport).1, hport⟩ hx

/-- A PON may be repointed to where nothing else feeds, if it leaves nothing behind. -/
lemma Inv.repoint (h : Inv inv plant) {links : Table PonPortSplitterLink} {target : Option ℕ}
    (hrepointed : Repointed plant links pon target)
    (hunique : ({ plant with ponLinks := links } : Plant).Unique)
    (htarget : ∀ t ∈ target, inv.Supplies pon t ∧
      (∀ c ∈ plant.activeCascades,
        inv.splitterOf t ≠ inv.splitterOf c.downstreamInputPortId) ∧
      ∀ l ∈ plant.activePonLinks, inv.splitterOf l.splitterPortId = inv.splitterOf t →
        l.ponPortId = pon)
    (hleft : ∀ l ∈ plant.activePonLinks, l.ponPortId = pon →
      (∃ t ∈ target, inv.splitterOf l.splitterPortId = inv.splitterOf t) ∨
        ∀ x, inv.splitterOf l.splitterPortId = some x → Bare inv plant x) :
    Inv inv { plant with ponLinks := links } := by
  have hlink : ∀ l ∈ ({ plant with ponLinks := links } : Plant).activePonLinks,
      (l ∈ plant.activePonLinks ∧ l.ponPortId ≠ pon) ∨
        l.ponPortId = pon ∧ target = some l.splitterPortId := fun l hl =>
    hrepointed.link l (mem_activePonLinks.mp hl).1 (mem_activePonLinks.mp hl).2
  have hrooted : ∀ q x, Rooted inv plant q x → ¬ Bare inv plant x →
      Rooted inv { plant with ponLinks := links } q x := by
    intro q x hx
    refine hx.frame (¬ Bare inv plant ·) (fun _ _ => not_bare_of_cascades) ?_
      (fun _ _ hxy _ => hxy)
    rintro z ⟨l, hl, rfl, hz⟩ hkept
    by_cases heq : l.ponPortId = pon
    · obtain ⟨t, ht, hsame⟩ := (hleft l hl heq).resolve_right fun hbare => hkept (hbare z hz)
      obtain ⟨l', hl', hactive, hpon, rfl⟩ := hrepointed.made t ht
      exact ⟨l', mem_activePonLinks.mpr ⟨hl', hactive⟩, hpon.trans heq.symm, hsame.symm.trans hz⟩
    · exact ⟨l, mem_activePonLinks.mpr ⟨hrepointed.kept l hl heq, (mem_activePonLinks.mp hl).2⟩,
        rfl, hz⟩
  refine { h with unique := hunique, supplied := ?_, onePon := ?_, unmixed := ?_, rooted := ?_, attached := ?_ }
  · intro l hl
    rcases hlink l hl with ⟨hold, -⟩ | ⟨rfl, ht⟩
    · exact h.supplied l hold
    · exact (htarget _ ht).1
  · intro l hl l' hl' heq
    rcases hlink l hl with ⟨hold, hne⟩ | ⟨hpon, ht⟩ <;>
      rcases hlink l' hl' with ⟨hold', hne'⟩ | ⟨hpon', ht'⟩
    · exact h.onePon l hold l' hold' heq
    · exact absurd ((htarget _ ht').2.2 l hold heq) hne
    · exact absurd ((htarget _ ht).2.2 l' hold' heq.symm) hne'
    · exact List.inj_on_of_nodup_map hunique.1 (mem_activePonLinks.mp hl).1
        (mem_activePonLinks.mp hl').1 (hpon.trans hpon'.symm)
  · intro l hl c hc
    rcases hlink l hl with ⟨hold, -⟩ | ⟨-, ht⟩
    · exact h.unmixed l hold c hc
    · exact (htarget _ ht).2.1 c hc
  · intro x y hxy
    obtain ⟨q, hq⟩ := h.rooted x y hxy
    exact ⟨q, hrooted q x hq (not_bare_of_cascades hxy)⟩
  · intro ont hont port hport
    obtain ⟨hactive, x, q, hid, hx, hpon, hq, hsingle⟩ := h.attached ont hont port hport
    exact ⟨hactive, x, q, hid, hx, hpon, hrooted q x hq (h.not_bare_of_attached hont hport hx),
      hsingle⟩

/-- A cascade may be added below a rooted splitter, into one that nothing feeds. -/
lemma Inv.addCascade (h : Inv inv plant) {cascades : Table SplitterCascadeLink}
    {new : SplitterCascadeLink}
    (hmem : ∀ c ∈ cascades.rows, c ∈ plant.cascades.rows ∨ c = new)
    (hkept : ∀ c ∈ plant.cascades.rows, c ∈ cascades.rows)
    (hunique : ({ plant with cascades := cascades } : Plant).Unique)
    (hjoined : ∃ o ∈ inv.port new.upstreamOutputPortId,
      ∃ i ∈ inv.port new.downstreamInputPortId, inv.Joins o i ∧ inv.Measured o.splitterId ∧
        inv.Measured i.splitterId ∧ Rooted inv plant pon o.splitterId)
    (hfree : ∀ c ∈ plant.activeCascades,
      inv.splitterOf c.downstreamInputPortId ≠ inv.splitterOf new.downstreamInputPortId)
    (hnoPon : ∀ l ∈ plant.activePonLinks,
      inv.splitterOf l.splitterPortId ≠ inv.splitterOf new.downstreamInputPortId)
    (hnoOnt : ∀ ont ∈ plant.onts.rows, ¬ ont.On new.upstreamOutputPortId) :
    Inv inv { plant with cascades := cascades } := by
  obtain ⟨o, ho, i, hi, hjoin, hmeasured, hmeasured', hupstream⟩ := hjoined
  have hlink : ∀ c ∈ ({ plant with cascades := cascades } : Plant).activeCascades,
      c ∈ plant.activeCascades ∨ c = new := fun c hc =>
    (hmem c (mem_activeCascades.mp hc).1).imp_left fun hold =>
      mem_activeCascades.mpr ⟨hold, (mem_activeCascades.mp hc).2⟩
  have hrooted : ∀ q x, Rooted inv plant q x →
      Rooted inv { plant with cascades := cascades } q x := by
    intro q x hx
    refine hx.frame (fun _ => True) (fun _ _ _ => trivial) ?_ ?_ trivial
    · exact fun _ hfeeds _ => hfeeds
    · rintro z w ⟨c, hc, hzw⟩ -
      obtain ⟨hold, hactive⟩ := mem_activeCascades.mp hc
      exact ⟨c, mem_activeCascades.mpr ⟨hkept c hold, hactive⟩, hzw⟩
  refine { h with unique := hunique, joined := ?_, oneCascade := ?_, unmixed := ?_, rooted := ?_, attached := ?_, ontOnly := ?_ }
  · intro c hc
    rcases hlink c hc with hold | rfl
    · exact h.joined c hold
    · exact ⟨o, ho, i, hi, hjoin, hmeasured, hmeasured'⟩
  · intro c hc c' hc' heq
    rcases hlink c hc with hold | rfl <;> rcases hlink c' hc' with hold' | rfl
    · exact h.oneCascade c hold c' hold' heq
    · exact absurd heq (hfree c hold)
    · exact absurd heq.symm (hfree c' hold')
    · rfl
  · intro l hl c hc
    rcases hlink c hc with hold | rfl
    · exact h.unmixed l hl c hold
    · exact hnoPon l hl
  · rintro x y ⟨c, hc, hx, hy⟩
    rcases hlink c hc with hold | rfl
    · obtain ⟨q, hq⟩ := h.rooted x y ⟨c, hold, hx, hy⟩
      exact ⟨q, hrooted q x hq⟩
    · obtain rfl := Option.mem_unique hx (splitterOf_eq_some.mpr ⟨o, ho, rfl⟩)
      exact ⟨pon, hrooted pon _ hupstream⟩
  · intro ont hont port hport
    obtain ⟨hactive, x, q, hid, hx, hpon, hq, hsingle⟩ := h.attached ont hont port hport
    exact ⟨hactive, x, q, hid, hx, hpon, hrooted q x hq, hsingle⟩
  · intro ont hont port hport c hc
    rcases hlink c hc with hold | rfl
    · exact h.ontOnly ont hont port hport c hold
    · rintro rfl
      exact hnoOnt ont hont ⟨(h.attached ont hont _ hport).1, hport⟩

lemma Inv.removeCascade (h : Inv inv plant) {cascades : Table SplitterCascadeLink}
    (old : SplitterCascadeLink)
    (hmem : ∀ c ∈ cascades.rows, c.active = true → c ∈ plant.activeCascades)
    (hkept : ∀ c ∈ plant.activeCascades, c ≠ old → c ∈ cascades.rows)
    (hunique : ({ plant with cascades := cascades } : Plant).Unique)
    (hbare : ∀ x, inv.splitterOf old.downstreamInputPortId = some x → Bare inv plant x) :
    Inv inv { plant with cascades := cascades } := by
  have hlink : ∀ c ∈ ({ plant with cascades := cascades } : Plant).activeCascades,
      c ∈ plant.activeCascades := fun c hc =>
    hmem c (mem_activeCascades.mp hc).1 (mem_activeCascades.mp hc).2
  have hrooted : ∀ q x, Rooted inv plant q x → ¬ Bare inv plant x →
      Rooted inv { plant with cascades := cascades } q x := by
    intro q x hx
    refine hx.frame (¬ Bare inv plant ·) (fun _ _ => not_bare_of_cascades)
      (fun _ hfeeds _ => hfeeds) ?_
    rintro z w ⟨c, hc, hz, hw⟩ hstays
    have hne : c ≠ old := by
      rintro rfl
      exact hstays (hbare w hw)
    exact ⟨c, mem_activeCascades.mpr ⟨hkept c hc hne, (mem_activeCascades.mp hc).2⟩, hz, hw⟩
  exact { h with
    unique := hunique
    joined := fun c hc => h.joined c (hlink c hc)
    oneCascade := fun c hc c' hc' => h.oneCascade c (hlink c hc) c' (hlink c' hc')
    unmixed := fun l hl c hc => h.unmixed l hl c (hlink c hc)
    rooted := by
      rintro x y ⟨c, hc, hxy⟩
      have hold : Cascades inv plant x y := ⟨c, hlink c hc, hxy⟩
      obtain ⟨q, hq⟩ := h.rooted x y hold
      exact ⟨q, hrooted q x hq (not_bare_of_cascades hold)⟩
    attached := by
      intro ont hont port hport
      obtain ⟨hactive, x, q, hid, hx, hpon, hq, hsingle⟩ := h.attached ont hont port hport
      exact ⟨hactive, x, q, hid, hx, hpon, hrooted q x hq (h.not_bare_of_attached hont hport hx),
        hsingle⟩
    ontOnly := fun ont hont port hport c hc => h.ontOnly ont hont port hport c (hlink c hc) }

/-- An ONT may be attached to a free output of a splitter that its PON roots, or to none. -/
lemma Inv.setOnt (h : Inv inv plant) {onts : Table OntUnit} (new : OntUnit)
    (hmem : ∀ ont ∈ onts.rows, (ont ∈ plant.onts.rows ∧ ont.id ≠ new.id) ∨ ont = new)
    (hunique : ({ plant with onts := onts } : Plant).Unique)
    (hattached : ∀ port ∈ new.splitterPortId, new.isActive ∧
      (∃ x pon, new.splitterId = some x ∧ inv.splitterOf port = some x ∧
        new.ponPortId = some pon ∧ Rooted inv plant pon x ∧ inv.SingleInput x) ∧
      (∀ c ∈ plant.activeCascades, c.upstreamOutputPortId ≠ port) ∧
      ∀ ont ∈ plant.onts.rows, ont.On port → ont.id = new.id) :
    Inv inv { plant with onts := onts } := by
  have hrooted : ∀ q x, Rooted inv plant q x → Rooted inv { plant with onts := onts } q x := by
    intro q x hx
    refine hx.frame (fun _ => True) (fun _ _ _ => trivial) ?_ ?_ trivial
    · exact fun _ hfeeds _ => hfeeds
    · exact fun _ _ hxy _ => hxy
  have halone : ∀ ont ∈ plant.onts.rows, ∀ port, ont.splitterPortId = some port →
      new.splitterPortId = some port → ont.id = new.id := fun ont hont port hport hnew =>
    (hattached port hnew).2.2.2 ont hont ⟨(h.attached ont hont port hport).1, hport⟩
  exact { h with
    unique := hunique
    rooted := fun x y hxy => (h.rooted x y hxy).imp fun q hq => hrooted q x hq
    attached := by
      intro ont hont port hport
      rcases hmem ont hont with ⟨hold, -⟩ | rfl
      · obtain ⟨hactive, x, q, hid, hx, hpon, hq, hsingle⟩ := h.attached ont hold port hport
        exact ⟨hactive, x, q, hid, hx, hpon, hrooted q x hq, hsingle⟩
      · obtain ⟨hactive, ⟨x, q, hid, hx, hpon, hq, hsingle⟩, -⟩ := hattached port hport
        exact ⟨hactive, x, q, hid, hx, hpon, hrooted q x hq, hsingle⟩
    oneOnt := by
      intro ont hont ont' hont' port hport hport'
      rcases hmem ont hont with ⟨hold, hne⟩ | rfl <;>
        rcases hmem ont' hont' with ⟨hold', hne'⟩ | rfl
      · exact h.oneOnt ont hold ont' hold' port hport hport'
      · exact absurd (halone ont hold port hport hport') hne
      · exact absurd (halone ont' hold' port hport' hport) hne'
      · rfl
    ontOnly := by
      intro ont hont port hport c hc
      rcases hmem ont hont with ⟨hold, -⟩ | rfl
      · exact h.ontOnly ont hold port hport c hc
      · exact (hattached port hport).2.2.1 c hc }

variable {plant' : Plant} {request : Request} {subject : ℕ} {e : FiberAccessAttachmentPreview}

lemma resolve_of_rootedChain {chain : RootedSplitterChain}
    (hchain : resolveRootedChain inv plant x = .ok chain) :
    resolveSplitterRoot inv plant x = .ok chain := by
  obtain ⟨chain', hresolve, hchain⟩ := bind_eq_ok.mp hchain
  obtain ⟨_, -, hchain⟩ := bind_eq_ok.mp hchain
  exact pure_eq_ok.mp hchain ▸ hresolve

lemma not_cascade_into (h : plant.activeCascadeIntoSplitter inv x = .ok none) :
    ∀ c ∈ plant.activeCascades, inv.splitterOf c.downstreamInputPortId ≠ some x := by
  intro c hc heq
  have hnot := List.filter_eq_nil_iff.mp (atMostOne_none h) c hc
  exact hnot (decide_eq_true heq)

lemma not_cascade_from (h : plant.activeCascadeFromOutput x = .ok none) :
    ∀ c ∈ plant.activeCascades, c.upstreamOutputPortId ≠ x := by
  intro c hc heq
  have hnot := List.filter_eq_nil_iff.mp (atMostOne_none h) c hc
  exact hnot (decide_eq_true heq)

lemma Inv.left_of_move (h : Inv inv plant) {current : Option PonPortSplitterLink}
    (hmove : assertCanMove inv plant current x = .ok ()) : ∀ l ∈ current,
      inv.splitterOf l.splitterPortId = some x ∨
        ∀ z, inv.splitterOf l.splitterPortId = some z → Bare inv plant z := by
  rintro l rfl
  obtain ⟨⟨port, splitter⟩, hload, hmove⟩ := bind_eq_ok.mp hmove
  have hport := splitterOf_eq_some.mpr ⟨port, (loadPort_eq_ok hload).1, rfl⟩
  by_cases hsame : port.splitterId = x
  · exact .inl (hsame ▸ hport)
  · refine .inr fun z hz => ?_
    obtain rfl := Option.mem_unique hport hz
    exact h.bare_of_unlinked (onlyIf_eq_ok.mp hmove hsame)

lemma Inv.ponInput (h : Inv inv plant) (hpreview : previewPonInput inv plant subject request = .ok e)
    (happly : applyPonInput plant e = .ok plant') (hunique : plant'.Unique)
    (hsingle : ∀ target ∈ e.targetSplitterPortId, ∀ l ∈ plant.activePonLinks,
      inv.splitterOf l.splitterPortId = inv.splitterOf target → l.ponPortId = e.subjectId) :
    Inv inv plant' := by
  obtain ⟨row, hrow, hpreview⟩ := orRefuse_bind_eq_ok.mp hpreview
  obtain ⟨hactive, hpreview⟩ := ensure_bind_eq_ok.mp hpreview
  obtain ⟨_, holt, hpreview⟩ := bind_eq_ok.mp hpreview
  obtain ⟨current, hcurrent, hpreview⟩ := bind_eq_ok.mp hpreview
  have hpon : ∀ l ∈ plant.activePonLinks, l.ponPortId = subject → current = some l :=
    fun l hl heq => (atMostOne_eq_ok hcurrent l).mp (List.mem_filter.mpr ⟨hl, decide_eq_true heq⟩)
  cases request with
  | detach =>
    obtain ⟨link, hlink, hpreview⟩ := orRefuse_bind_eq_ok.mp hpreview
    obtain ⟨⟨port, splitter⟩, hload, hpreview⟩ := bind_eq_ok.mp hpreview
    obtain ⟨_, hunlinked, hpreview⟩ := bind_eq_ok.mp hpreview
    obtain rfl := pure_eq_ok.mp hpreview
    obtain ⟨links, rfl, hrepointed⟩ := repointed_of_apply h.unique happly fun _ => rfl
    refine h.repoint hrepointed hunique nofun fun l hl heq => .inr fun z hz => ?_
    obtain rfl := Option.mem_unique hlink (hpon l hl heq)
    have hport := splitterOf_eq_some.mpr ⟨port, (loadPort_eq_ok hload).1, rfl⟩
    obtain rfl := Option.mem_unique hport hz
    exact h.bare_of_unlinked hunlinked
  | attach target =>
    obtain ⟨⟨port, splitter⟩, hload, hpreview⟩ := bind_eq_ok.mp hpreview
    obtain ⟨above, habove, hpreview⟩ := bind_eq_ok.mp hpreview
    obtain ⟨hnone, hpreview⟩ := ensure_bind_eq_ok.mp hpreview
    obtain ⟨-, hpreview⟩ := ensure_bind_eq_ok.mp hpreview
    obtain ⟨-, hpreview⟩ := ensure_bind_eq_ok.mp hpreview
    obtain ⟨_, hmove, hpreview⟩ := bind_eq_ok.mp hpreview
    obtain rfl := pure_eq_ok.mp hpreview
    obtain ⟨hport, hsplitter, hlit, htype⟩ := loadPort_eq_ok hload
    have htarget : inv.splitterOf target = some port.splitterId :=
      splitterOf_eq_some.mpr ⟨port, hport, rfl⟩
    obtain ⟨links, rfl, hrepointed⟩ := repointed_of_apply h.unique happly nofun
    refine h.repoint hrepointed hunique ?_ fun l hl heq => ?_
    · rintro _ ⟨⟩
      refine ⟨⟨⟨row, hrow, hactive, ensure_eq_ok.mp holt⟩, port, hport, (hlit rfl).1,
        htype _ rfl, splitter, hsplitter, (hlit rfl).2⟩, fun c hc heq => ?_, hsingle target rfl⟩
      exact not_cascade_into (hnone ▸ habove) c hc (heq.symm.trans htarget)
    · exact (h.left_of_move hmove l (hpon l hl heq)).imp_left fun hsame =>
        ⟨target, rfl, hsame.trans htarget.symm⟩

lemma Inv.ontOutput (h : Inv inv plant) (hpreview : previewOntOutput inv plant subject request = .ok e)
    (happly : applyOntOutput plant e = .ok plant') (hunique : plant'.Unique) : Inv inv plant' := by
  obtain ⟨⟨ont, pon, olt⟩, hvalid, hpreview⟩ := bind_eq_ok.mp hpreview
  obtain ⟨ont', hont, hvalid⟩ := orRefuse_bind_eq_ok.mp hvalid
  obtain ⟨hactive, hvalid⟩ := ensure_bind_eq_ok.mp hvalid
  obtain ⟨pon', hpon, hvalid⟩ := orRefuse_bind_eq_ok.mp hvalid
  obtain ⟨olt', -, hvalid⟩ := orRefuse_bind_eq_ok.mp hvalid
  obtain ⟨row, -, hvalid⟩ := orRefuse_bind_eq_ok.mp hvalid
  obtain ⟨-, hvalid⟩ := ensure_bind_eq_ok.mp hvalid
  obtain ⟨-, hvalid⟩ := ensure_bind_eq_ok.mp hvalid
  obtain ⟨_, -, hvalid⟩ := bind_eq_ok.mp hvalid
  obtain ⟨rfl, hpair⟩ := mk_eq_ok.mp hvalid
  obtain ⟨rfl, rfl⟩ := Prod.mk.inj hpair
  obtain ⟨hrow, rfl⟩ := Table.get?_eq_some.mp hont
  -- the row that is written is the one that was read
  have hmem : ∀ (port : Option ℕ) (x : Option ℕ), ∀ ont ∈ (plant.onts.update ont'.id
      (fun r => { r with splitterPortId := port, splitterId := x }) fun _ => rfl).rows,
      (ont ∈ plant.onts.rows ∧ ont.id ≠ ont'.id) ∨
        ont = { ont' with splitterPortId := port, splitterId := x } := by
    intro port x ont hmem
    refine (Table.mem_update.mp hmem).imp_right ?_
    rintro ⟨r, hr, hid, rfl⟩
    rw [Table.eq_of_id_eq hr hrow hid]
  obtain ⟨_, -, happly⟩ := orRefuse_bind_eq_ok.mp happly
  obtain rfl := pure_eq_ok.mp happly
  cases request with
  | detach =>
    obtain ⟨port, -, hpreview⟩ := orRefuse_bind_eq_ok.mp hpreview
    obtain ⟨found, -, hpreview⟩ := bind_eq_ok.mp hpreview
    obtain rfl := pure_eq_ok.mp hpreview
    exact h.setOnt { ont' with splitterPortId := none, splitterId := none } (hmem none none) hunique
      nofun
  | attach target =>
    obtain ⟨⟨port, splitter⟩, hload, hpreview⟩ := bind_eq_ok.mp hpreview
    obtain ⟨_, hchain, hpreview⟩ := bind_eq_ok.mp hpreview
    obtain ⟨cascade, hcascade, hpreview⟩ := bind_eq_ok.mp hpreview
    obtain ⟨hnone, hpreview⟩ := ensure_bind_eq_ok.mp hpreview
    obtain ⟨hfree, hpreview⟩ := ensure_bind_eq_ok.mp hpreview
    obtain ⟨-, hpreview⟩ := ensure_bind_eq_ok.mp hpreview
    obtain rfl := pure_eq_ok.mp hpreview
    obtain ⟨chain, hresolve, hpon'⟩ := bind_eq_ok.mp (mapError_eq_ok.mp hchain)
    obtain rfl := ensure_eq_ok.mp hpon'
    obtain ⟨hrooted, hsingle, -⟩ := h.rooted_of_resolve (resolve_of_rootedChain hresolve)
    have htarget : inv.splitterOf target = some port.splitterId :=
      splitterOf_eq_some.mpr ⟨port, (loadPort_eq_ok hload).1, rfl⟩
    refine h.setOnt { ont' with splitterPortId := some target, splitterId := some port.splitterId }
      (hmem (some target) (some port.splitterId)) hunique ?_
    rintro _ ⟨⟩
    exact ⟨hactive, ⟨_, _, rfl, htarget, hpon, hrooted, hsingle⟩,
      not_cascade_from (hnone ▸ hcascade), hfree⟩

lemma Inv.splitterCascade (h : Inv inv plant)
    (hpreview : previewSplitterCascade inv plant subject request = .ok e)
    (happly : applySplitterCascade plant e = .ok plant') (hunique : plant'.Unique) :
    Inv inv plant' := by
  obtain ⟨⟨upstream, upstreamSplitter⟩, hload, hpreview⟩ := bind_eq_ok.mp hpreview
  obtain ⟨current, hcurrent, hpreview⟩ := bind_eq_ok.mp hpreview
  obtain ⟨hport, hsplitter, hlit, htype⟩ := loadPort_eq_ok hload
  cases request with
  | detach =>
    obtain ⟨link, hlink, hpreview⟩ := orRefuse_bind_eq_ok.mp hpreview
    obtain ⟨⟨downstream, splitter⟩, hload', hpreview⟩ := bind_eq_ok.mp hpreview
    obtain ⟨ids, hids, hpreview⟩ := bind_eq_ok.mp hpreview
    obtain ⟨hlength, hpreview⟩ := ensure_bind_eq_ok.mp hpreview
    obtain ⟨honts, hpreview⟩ := ensure_bind_eq_ok.mp hpreview
    obtain ⟨chain, -, hpreview⟩ := bind_eq_ok.mp hpreview
    obtain ⟨-, hpreview⟩ := ensure_bind_eq_ok.mp hpreview
    obtain ⟨-, hpreview⟩ := ensure_bind_eq_ok.mp hpreview
    obtain rfl := pure_eq_ok.mp hpreview
    obtain ⟨old, hold, happly⟩ := orRefuse_bind_eq_ok.mp happly
    obtain rfl := pure_eq_ok.mp happly
    have hmem := List.mem_of_find?_eq_some hold
    have hup : old.upstreamOutputPortId = subject := by simpa using List.find?_some hold
    obtain rfl := Option.some.inj (((atMostOne_eq_ok hcurrent old).mp
      (List.mem_filter.mpr ⟨hmem, decide_eq_true hup⟩)).symm.trans hlink)
    refine h.removeCascade old (fun c hc hactive => ?_) (fun c hc hne => ?_) hunique ?_
    · rcases Table.mem_update.mp hc with ⟨hc, -⟩ | ⟨r, -, -, rfl⟩
      · exact mem_activeCascades.mpr ⟨hc, hactive⟩
      · cases hactive
    · have hrows := (mem_activeCascades.mp hc).1
      exact Table.mem_update.mpr (.inl ⟨hrows, fun hid =>
        hne (Table.eq_of_id_eq hrows (mem_activeCascades.mp hmem).1 hid)⟩)
    · intro x hx
      have hdown := splitterOf_eq_some.mpr ⟨downstream, (loadPort_eq_ok hload').1, rfl⟩
      obtain rfl := Option.mem_unique hdown hx
      obtain ⟨hx', hbelow⟩ := h.mem_subtree hids
      refine ⟨fun y hxy => ?_, onts_of_subtree hx' honts⟩
      -- a subtree of one splitter has no cascade below it, as none joins a splitter to itself
      have heq : downstream.splitterId = y := by
        match ids, hlength, hx', hbelow y hxy with
        | [z], _, hx', hy => rw [List.mem_singleton.mp hx', List.mem_singleton.mp hy]
      exact h.acyclic _ (.single (heq ▸ hxy))
  | attach target =>
    obtain ⟨-, hpreview⟩ := ensure_bind_eq_ok.mp hpreview
    obtain ⟨hnoOnt, hpreview⟩ := ensure_bind_eq_ok.mp hpreview
    obtain ⟨⟨downstream, splitter⟩, hload', hpreview⟩ := bind_eq_ok.mp hpreview
    obtain ⟨hne, hpreview⟩ := ensure_bind_eq_ok.mp hpreview
    obtain ⟨hinputs, hpreview⟩ := ensure_bind_eq_ok.mp hpreview
    obtain ⟨above, habove, hpreview⟩ := bind_eq_ok.mp hpreview
    obtain ⟨hnone, hpreview⟩ := ensure_bind_eq_ok.mp hpreview
    obtain ⟨ids, hids, hpreview⟩ := bind_eq_ok.mp hpreview
    obtain ⟨-, hpreview⟩ := ensure_bind_eq_ok.mp hpreview
    obtain ⟨hnoPon, hpreview⟩ := ensure_bind_eq_ok.mp hpreview
    obtain ⟨-, hpreview⟩ := ensure_bind_eq_ok.mp hpreview
    obtain ⟨-, hpreview⟩ := ensure_bind_eq_ok.mp hpreview
    obtain ⟨chain, hresolve, hpreview⟩ := bind_eq_ok.mp hpreview
    obtain ⟨reached, hreached, hpreview⟩ := orRefuse_bind_eq_ok.mp hpreview
    obtain ⟨loss, hloss, hpreview⟩ := orRefuse_bind_eq_ok.mp hpreview
    obtain rfl := pure_eq_ok.mp hpreview
    obtain rfl := pure_eq_ok.mp happly
    obtain ⟨hrooted, hsingle, hknown⟩ := h.rooted_of_resolve (resolve_of_rootedChain hresolve)
    obtain ⟨hport', hsplitter', hlit', htype'⟩ := loadPort_eq_ok hload'
    have hdown : inv.splitterOf target = some downstream.splitterId :=
      splitterOf_eq_some.mpr ⟨downstream, hport', rfl⟩
    have hmeasured' : inv.Measured downstream.splitterId := by
      refine ⟨⟨splitter, hsplitter', hinputs⟩, ?_⟩
      rw [Inventory.lossOf, hsplitter', Option.bind_some, hloss]
      exact Option.some_ne_none loss
    refine h.addCascade (fun c hc => Table.mem_insert.mp hc)
      (fun c hc => Table.mem_insert.mpr (.inl hc)) hunique ⟨upstream, hport, downstream, hport',
        ⟨(hlit rfl).1, (hlit' rfl).1, htype _ rfl, htype' _ rfl, hne,
          ⟨upstreamSplitter, hsplitter, (hlit rfl).2⟩, splitter, hsplitter', (hlit' rfl).2⟩,
        ⟨hsingle, hknown (hreached ▸ Option.some_ne_none reached)⟩, hmeasured', hrooted⟩
      (fun c hc heq => not_cascade_into (hnone ▸ habove) c hc (heq.trans hdown))
      (fun l hl heq => ?_) hnoOnt
    · have hmem : l ∈ plant.activePonLinksIntoSplitters inv ids :=
        List.mem_filter.mpr ⟨hl, decide_eq_true ⟨_, heq.trans hdown, (h.mem_subtree hids).1⟩⟩
      rw [List.isEmpty_iff.mp hnoPon] at hmem
      exact absurd hmem List.not_mem_nil

lemma eq_of_changedFields {a b : FiberAccessAttachmentPreview} (h : changedFields a b = []) :
    a = b := by
  cases a
  cases b
  simpa [changedFields, and_assoc] using h

lemma Inv.apply (h : Inv inv plant) {d : FiberAccessAttachmentDecision}
    (hvalid : revalidate inv plant d = .ok ()) (happly : applyAttachment plant d.evidence = .ok plant')
    (hunique : plant'.Unique)
    (hsingle : d.evidence.attachmentType = .ponInput → ∀ target ∈ d.evidence.targetSplitterPortId,
      ∀ l ∈ plant.activePonLinks, inv.splitterOf l.splitterPortId = inv.splitterOf target →
        l.ponPortId = d.evidence.subjectId) : Inv inv plant' := by
  obtain ⟨preview, hpreview, hvalid⟩ := bind_eq_ok.mp hvalid
  have hsame : d.evidence = preview := by
    split at hvalid
    · exact eq_of_changedFields ‹_›
    · cases hvalid
  obtain ⟨request, -, hpreview⟩ := bind_eq_ok.mp hpreview
  rw [← hsame] at hpreview
  cases htype : d.evidence.attachmentType <;> simp only [htype, applyAttachment] at hpreview happly
  · exact h.ponInput hpreview happly hunique (hsingle htype)
  · exact h.ontOutput hpreview happly hunique
  · exact h.splitterCascade hpreview happly hunique

end Changes

section Runs

variable {inv : Inventory} {digest : Digest} {s s' : State} {c : Command}

/-- An attachment of a PON that is carried out is to a splitter that no other PON feeds. -/
def SingleFed (inv : Inventory) (s : State) : Command → Prop
  | .execute decisionId _ => ∀ d ∈ s.decisions.get? decisionId, d.status = .approved →
      revalidate inv s.plant d = .ok () → d.evidence.attachmentType = .ponInput →
      ∀ target ∈ d.evidence.targetSplitterPortId, ∀ l ∈ s.plant.activePonLinks,
        inv.splitterOf l.splitterPortId = inv.splitterOf target → l.ponPortId = d.evidence.subjectId
  | _ => True

lemma unattached {onts : Table OntUnit} {ont : OntUnit}
    (hont : ont ∈ (State.bare onts).plant.onts.rows) : ont.splitterPortId = none := by
  obtain ⟨ont, -, rfl⟩ := List.mem_map.mp hont
  rfl

lemma inv_bare (onts : Table OntUnit) : Inv inv (State.bare onts).plant where
  unique := ⟨List.nodup_nil, List.nodup_nil, List.nodup_nil, List.nodup_nil⟩
  supplied _ hl := absurd hl List.not_mem_nil
  onePon _ hl := absurd hl List.not_mem_nil
  joined _ hc := absurd hc List.not_mem_nil
  oneCascade _ hc := absurd hc List.not_mem_nil
  unmixed _ hl := absurd hl List.not_mem_nil
  rooted := by
    rintro x y ⟨c, hc, -⟩
    exact absurd hc List.not_mem_nil
  attached _ hont _ hport := nomatch (unattached hont).symm.trans hport
  oneOnt _ hont _ _ _ hport := nomatch (unattached hont).symm.trans hport
  ontOnly _ _ _ _ _ hc := absurd hc List.not_mem_nil

lemma Inv.execute (h : Inv inv s.plant) {decisionId : ℕ} {executedBy : String}
    (hsingle : SingleFed inv s (.execute decisionId executedBy))
    (hok : SplitterPlant.execute inv s decisionId executedBy = .ok s') : Inv inv s'.plant := by
  obtain ⟨actor, -, hok⟩ := bind_eq_ok.mp hok
  obtain ⟨d, hd, hok⟩ := orRefuse_bind_eq_ok.mp hok
  split_ifs at hok with hdone
  · obtain rfl := pure_eq_ok.mp hok
    exact h
  · obtain ⟨happroved, hok⟩ := ensure_bind_eq_ok.mp hok
    split at hok
    · obtain rfl := pure_eq_ok.mp hok
      exact h
    · rename_i hvalid
      obtain ⟨plant, happly, hok⟩ := bind_eq_ok.mp hok
      split_ifs at hok with hunique
      · obtain rfl := pure_eq_ok.mp hok
        exact h.apply hvalid happly hunique (hsingle d hd happroved hvalid)
      · obtain rfl := pure_eq_ok.mp hok
        exact h

/-- A command keeps the invariant. -/
lemma Inv.step (h : Inv inv s.plant) (hsingle : SingleFed inv s c)
    (hok : SplitterPlant.step inv digest s c = .ok s') : Inv inv s'.plant := by
  cases c with
  | propose attachmentType action subjectId target proposedBy reason =>
    obtain ⟨actor, -, hok⟩ := bind_eq_ok.mp hok
    obtain ⟨reason', -, hok⟩ := bind_eq_ok.mp hok
    obtain ⟨preview, -, hok⟩ := bind_eq_ok.mp hok
    dsimp only at hok
    split at hok
    · obtain ⟨-, hok⟩ := ensure_bind_eq_ok.mp hok
      obtain rfl := pure_eq_ok.mp hok
      exact h
    · obtain ⟨-, hok⟩ := ensure_bind_eq_ok.mp hok
      obtain ⟨-, hok⟩ := ensure_bind_eq_ok.mp hok
      obtain rfl := pure_eq_ok.mp hok
      exact h
  | approve decisionId reviewedBy reviewNotes =>
    obtain ⟨actor, -, hok⟩ := bind_eq_ok.mp hok
    obtain ⟨notes, -, hok⟩ := bind_eq_ok.mp hok
    obtain ⟨d, -, hok⟩ := orRefuse_bind_eq_ok.mp hok
    split_ifs at hok
    · obtain rfl := pure_eq_ok.mp hok
      exact h
    · obtain ⟨-, hok⟩ := ensure_bind_eq_ok.mp hok
      obtain ⟨-, hok⟩ := ensure_bind_eq_ok.mp hok
      obtain ⟨_, -, hok⟩ := bind_eq_ok.mp hok
      obtain rfl := pure_eq_ok.mp hok
      exact h
  | decline decisionId reviewedBy reviewNotes =>
    obtain ⟨actor, -, hok⟩ := bind_eq_ok.mp hok
    obtain ⟨notes, -, hok⟩ := bind_eq_ok.mp hok
    obtain ⟨d, -, hok⟩ := orRefuse_bind_eq_ok.mp hok
    split_ifs at hok
    · obtain rfl := pure_eq_ok.mp hok
      exact h
    · obtain ⟨-, hok⟩ := ensure_bind_eq_ok.mp hok
      obtain ⟨-, hok⟩ := ensure_bind_eq_ok.mp hok
      obtain rfl := pure_eq_ok.mp hok
      exact h
  | execute decisionId executedBy => exact h.execute hsingle hok

lemma Inv.forest {plant : Plant} (h : Inv inv plant) : Forest inv plant where
  oneFeed x := by
    rintro (l | c) hf (l' | c') hg
    · exact congrArg Sum.inl (h.onePon l hf.1 l' hg.1 (hf.2.trans hg.2.symm))
    · exact absurd (hf.2.trans hg.2.symm) (h.unmixed l hf.1 c' hg.1)
    · exact absurd (hg.2.trans hf.2.symm) (h.unmixed l' hg.1 c hf.1)
    · exact congrArg Sum.inr (h.oneCascade c hf.1 c' hg.1 (hf.2.trans hg.2.symm))
  acyclic := h.acyclic
  oneUse port := by
    rintro (ont | c) hf (ont' | c') hg
    · exact congrArg Sum.inl (h.oneOnt ont hf.1 ont' hg.1 port hf.2.2 hg.2.2)
    · exact absurd hg.2 (h.ontOnly ont hf.1 port hf.2.2 c' hg.1)
    · exact absurd hf.2 (h.ontOnly ont' hg.1 port hg.2.2 c hf.1)
    · exact congrArg Sum.inr (List.inj_on_of_nodup_map h.unique.2.2.1 hf.1 hg.1 (hf.2.trans hg.2.symm))
  cascading x y hxy := by
    obtain ⟨pon, hpon⟩ := h.rooted x y hxy
    obtain ⟨chain, hchain, -⟩ := h.resolve_of_rooted hpon (h.measured hxy).1.1
    exact ⟨chain, hchain⟩
  serving x y hxy ont hont port hon hy := by
    rcases ReflTransGen.cases_head hxy with rfl | ⟨z, hxz, -⟩
    · obtain ⟨-, x', pon, -, hx', -, hrooted, hsingle⟩ := h.attached ont hont port hon.2
      obtain rfl := Option.mem_unique hy hx'
      obtain ⟨chain, hchain, -⟩ := h.resolve_of_rooted hrooted hsingle
      exact ⟨chain, hchain⟩
    · obtain ⟨pon, hpon⟩ := h.rooted x z hxz
      obtain ⟨chain, hchain, -⟩ := h.resolve_of_rooted hpon (h.measured hxz).1.1
      exact ⟨chain, hchain⟩
  agreed ont hont port hport := by
    obtain ⟨-, x, pon, hid, hx, hpon, hrooted, hsingle⟩ := h.attached ont hont port hport
    obtain ⟨chain, hchain, rfl⟩ := h.resolve_of_rooted hrooted hsingle
    exact ⟨x, hid, hx, chain, hchain, hpon⟩

end Runs

/-- **The reviewed plant is a rooted forest** at every point of a run whose PON attachments are to
splitters that no other PON feeds. -/
theorem forest_run (inv : Inventory) (digest : Digest) (onts : Table OntUnit)
    (commands : List Command)
    (hsingle : Run.Guarded (step inv digest) (SingleFed inv) (.bare onts) commands)
    (before after : List Command) (hsplit : commands = before ++ after) :
    Forest inv (Run.run (step inv digest) (.bare onts) before).plant := by
  rw [hsplit] at hsingle
  suffices hinv : (fun s => Inv inv s.plant) (Run.run (step inv digest) (.bare onts) before) from
    hinv.forest
  exact Run.invariant_guarded (fun _ _ _ h hp hok => Inv.step h hp hok) before _ (inv_bare onts)
    hsingle.append_left

instance (inv : Inventory) (s : State) : (c : Command) → Decidable (SingleFed inv s c)
  | .execute decisionId _ =>
    inferInstanceAs (Decidable (∀ d ∈ s.decisions.get? decisionId, _ → _ → _ → _))
  | .propose .. | .approve .. | .decline .. => .isTrue trivial

def bySubject : Digest := fun e _ _ =>
  .ofList (List.replicate e.subjectId 'x' ++ match e.attachmentType with
    | .ponInput => ['p']
    | .ontOutput => ['o']
    | .splitterCascade => ['c'])

/-- An attachment that is proposed, reviewed and carried out. -/
def attach (decision : ℕ) (attachmentType : AttachmentType) (subject target : ℕ) : List Command :=
  [.propose attachmentType .attach subject (some target) "planner" "field labels",
    .approve decision "reviewer" "seen", .execute decision "executor"]

/-- Three splitters of one input: ports 0 to 2, 3 and 4, 5 and 6. -/
def threeSplitters : Inventory where
  splitter x := if x < 3 then some ⟨1, some 1, true⟩ else none
  port x := [⟨0, .input, true⟩, ⟨0, .output, true⟩, ⟨0, .output, true⟩, ⟨1, .input, true⟩,
    ⟨1, .output, true⟩, ⟨2, .input, true⟩, ⟨2, .output, true⟩][x]?
  pon x := if x < 2 then some ⟨0, true⟩ else none
  olt x := if x = 0 then some true else none

def oneOnt : Table OntUnit :=
  Table.empty.insert (fun id => ⟨id, true, some 0, some 0, none, none⟩) fun _ => rfl

/-- A PON feeds a splitter, the splitter a second one, and that an ONT; another PON feeds a third. -/
def planned : List Command :=
  attach 0 .ponInput 0 0 ++ attach 1 .splitterCascade 1 3 ++ attach 2 .ontOutput 0 4 ++
    attach 3 .ponInput 1 5

theorem forest_run_planned :
    (Run.run (step threeSplitters bySubject) (.bare oneOnt) planned).decisions.rows.map (·.status)
        = [.applied, .applied, .applied, .applied] ∧
      Forest threeSplitters
        (Run.run (step threeSplitters bySubject) (.bare oneOnt) planned).plant :=
  ⟨by decide +kernel, forest_run threeSplitters bySubject oneOnt planned (by decide +kernel) planned
    [] (List.append_nil _).symm⟩

def twoInputs : Inventory where
  splitter x := if x = 0 then some ⟨2, some 1, true⟩ else none
  port x := if x < 2 then some ⟨0, .input, true⟩ else if x = 2 then some ⟨0, .output, true⟩ else none
  pon x := if x < 2 then some ⟨0, true⟩ else none
  olt x := if x = 0 then some true else none

/-- **Two PONs feed one splitter.** -/
theorem two_feeds : ¬ ∀ (inv : Inventory) (digest : Digest) (onts : Table OntUnit)
    (commands before after : List Command), commands = before ++ after →
      Forest inv (Run.run (step inv digest) (.bare onts) before).plant := by
  intro hforest
  have h := (hforest twoInputs bySubject .empty _ (attach 0 .ponInput 0 0 ++ attach 1 .ponInput 1 1) []
    (List.append_nil _).symm).oneFeed 0
  have hlinks : (Run.run (step twoInputs bySubject) (.bare .empty)
      (attach 0 .ponInput 0 0 ++ attach 1 .ponInput 1 1)).plant.activePonLinks =
        [⟨0, 0, 0, true⟩, ⟨1, 1, 1, true⟩] := rfl
  have hsame := @h (.inl ⟨0, 0, 0, true⟩) ⟨hlinks ▸ List.mem_cons_self, rfl⟩
    (.inl ⟨1, 1, 1, true⟩) ⟨hlinks ▸ List.mem_cons_of_mem _ List.mem_cons_self, rfl⟩
  exact absurd hsame (by decide)

end DotmacSub.SplitterPlant
