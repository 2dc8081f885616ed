import DotmacSub.Core.Run
import DotmacSub.Network.FiberInventory

/-!
# Consistent fiber inventory

What the validators of racks, panels and connectors are for, and the changes that break it.
-/

namespace DotmacSub.FiberInventory

open Checked Store

def FiberPatchPanel.MountedIn (panel : FiberPatchPanel) (rack : FiberRack) : Prop :=
  rack.isActive ∧ 0 < panel.rackUnitStart ∧ 0 < panel.rackUnitHeight ∧
    panel.endUnit ≤ rack.rackUnits

def FiberConnectorPort.FitsIn (connector : FiberConnectorPort) (panel : FiberPatchPanel) : Prop :=
  panel.isActive ∧
    (∃ number ∈ connector.portNumber, 1 ≤ number ∧ number ≤ panel.portCapacity) ∧
      connector.SameKind panel

def FiberStrandTermination.EndsOn (plant : Plant) (termination : FiberStrandTermination)
    (connector : FiberConnectorPort) : Prop :=
  connector.isActive ∧ ∀ external ∈ connector.externalIdentity,
    ∃ point ∈ plant.endpoint termination.strandId termination.strandEnd,
      (external.1, some external.2) = (point.endpointType, point.refId)

def FiberConnectorPort.Joins (connector other : FiberConnectorPort) : Prop :=
  connector.isActive ∧ other.isActive ∧ connector.fiberMode = other.fiberMode

/-- Racks hold panels, panels hold connectors, and links end on them. -/
structure Consistent (plant : Plant) (inventory : Inventory) : Prop where
  mounted : ∀ p ∈ inventory.panels.rows, p.isActive →
    ∃ r ∈ inventory.racks.rows, r.id = p.rackId ∧ p.MountedIn r
  apart : ∀ p ∈ inventory.panels.rows, ∀ q ∈ inventory.panels.rows, p.isActive → q.isActive →
    q.rackId = p.rackId → q.id ≠ p.id → ¬p.Overlaps q
  fitted : ∀ c ∈ inventory.connectors.rows, c.isActive → ∀ panelId ∈ c.patchPanelId,
    ∃ p ∈ inventory.panels.rows, p.id = panelId ∧ c.FitsIn p
  ended : ∀ t ∈ inventory.terminations.rows, t.active →
    ∃ c ∈ inventory.connectors.rows, c.id = t.connectorPortId ∧ t.EndsOn plant c
  joined : ∀ k ∈ inventory.cords.rows, k.active →
    ∃ c ∈ inventory.connectors.rows, ∃ d ∈ inventory.connectors.rows,
      c.id = k.firstConnectorPortId ∧ d.id = k.secondConnectorPortId ∧ c.Joins d

section Put

variable {α : Type} [Row α] {t t' : Table α} {r row : α}

/-- One row is written, new or in place of the one with its identifier. -/
def Put (t t' : Table α) (row : α) : Prop :=
  ∀ r, r ∈ t'.rows ↔ r = row ∨ (r ∈ t.rows ∧ Row.id r ≠ Row.id row)

lemma put_insert {f : ℕ → α} {h : ∀ i, Row.id (f i) = i} : Put t (t.insert f h) (f t.next) := by
  intro r
  rw [Table.mem_insert, h]
  constructor
  · rintro (hr | rfl)
    · exact .inr ⟨hr, (t.fresh r hr).ne⟩
    · exact .inl rfl
  · rintro (rfl | ⟨hr, -⟩)
    · exact .inr rfl
    · exact .inl hr

lemma put_update {i : ℕ} {f : α → α} {h : ∀ r, Row.id (f r) = Row.id r}
    (hrow : t.get? i = some row) : Put t (t.update i f h) (f row) := by
  obtain ⟨hmem, rfl⟩ := Table.get?_eq_some.mp hrow
  intro r
  rw [Table.mem_update, h]
  constructor
  · rintro (hr | ⟨s, hs, hid, rfl⟩)
    · exact .inr hr
    · exact .inl (congrArg f (Table.eq_of_id_eq hs hmem hid))
  · rintro (rfl | hr)
    · exact .inr ⟨row, hmem, rfl, rfl⟩
    · exact .inl hr

lemma Put.mem (h : Put t t' row) : row ∈ t'.rows := (h row).mpr (.inl rfl)

lemma Put.of_ne (h : Put t t' row) (hr : r ∈ t.rows) (hne : Row.id r ≠ Row.id row) :
    r ∈ t'.rows := (h r).mpr (.inr ⟨hr, hne⟩)

lemma Put.eq_of_id (h : Put t t' row) (hr : r ∈ t'.rows) (hid : Row.id r = Row.id row) :
    r = row := by
  rcases (h r).mp hr with rfl | ⟨-, hne⟩
  · rfl
  · exact absurd hid hne

end Put

variable {plant : Plant} {inventory inventory' : Inventory} {flag : Option Flag} {u : Unit}

/-- **A rack is written**: the active panels in it are mounted. -/
theorem rack_iff {racks : Table FiberRack} {rack : FiberRack} (hc : Consistent plant inventory)
    (hput : Put inventory.racks racks rack) : Consistent plant { inventory with racks } ↔
      ∀ p ∈ inventory.panels.rows, p.isActive → p.rackId = rack.id → p.MountedIn rack := by
  constructor
  · intro hc' p hp hactive hrack
    obtain ⟨r, hr, hid, hmounted⟩ := hc'.mounted p hp hactive
    rw [← hput.eq_of_id hr (hid.trans hrack)]
    exact hmounted
  · intro hmounted
    refine ⟨fun p hp hactive => ?_, hc.apart, hc.fitted, hc.ended, hc.joined⟩
    by_cases hrack : p.rackId = rack.id
    · exact ⟨rack, hput.mem, hrack.symm, hmounted p hp hactive hrack⟩
    · obtain ⟨r, hr, hid, hm⟩ := hc.mounted p hp hactive
      exact ⟨r, hput.of_ne hr fun heq => hrack (hid.symm.trans heq), hid, hm⟩

lemma overlaps_comm {p q : FiberPatchPanel} : p.Overlaps q ↔ q.Overlaps p := and_comm

/-- **A panel is written**: it is mounted apart from the others, and its connectors fit in it. -/
theorem panel_iff {panels : Table FiberPatchPanel} {panel : FiberPatchPanel}
    (hc : Consistent plant inventory) (hput : Put inventory.panels panels panel) :
    Consistent plant { inventory with panels } ↔
      (panel.isActive → (∃ r ∈ inventory.racks.rows, r.id = panel.rackId ∧ panel.MountedIn r) ∧
        ∀ q ∈ inventory.panels.rows, q.isActive → q.rackId = panel.rackId → q.id ≠ panel.id →
          ¬panel.Overlaps q) ∧
      ∀ c ∈ inventory.connectors.rows, c.isActive → c.patchPanelId = some panel.id →
        c.FitsIn panel := by
  constructor
  · intro hc'
    refine ⟨fun hactive => ⟨hc'.mounted panel hput.mem hactive, ?_⟩, fun c hcmem hactive hpanel => ?_⟩
    · intro q hq hqactive hrack hne
      exact hc'.apart panel hput.mem q (hput.of_ne hq hne) hactive hqactive hrack hne
    · obtain ⟨p, hp, hid, hfits⟩ := hc'.fitted c hcmem hactive _ hpanel
      rw [← hput.eq_of_id hp hid]
      exact hfits
  · rintro ⟨hpanel, hconnectors⟩
    refine ⟨fun p hp hactive => ?_, fun p hp q hq hactive hqactive hrack hne => ?_,
      fun c hcmem hactive panelId hmem => ?_, hc.ended, hc.joined⟩
    · rcases (hput p).mp hp with rfl | ⟨hp, -⟩
      · exact (hpanel hactive).1
      · exact hc.mounted p hp hactive
    · rcases (hput p).mp hp with rfl | ⟨hp, hpne⟩
      · rcases (hput q).mp hq with rfl | ⟨hq, -⟩
        · exact absurd rfl hne
        · exact (hpanel hactive).2 q hq hqactive hrack hne
      · rcases (hput q).mp hq with rfl | ⟨hq, -⟩
        · rw [overlaps_comm]
          exact (hpanel hqactive).2 p hp hactive hrack.symm hpne
        · exact hc.apart p hp q hq hactive hqactive hrack hne
    · by_cases hid : panelId = panel.id
      · exact ⟨panel, hput.mem, hid.symm, hconnectors c hcmem hactive (hid ▸ hmem)⟩
      · obtain ⟨p, hp, hpid, hfits⟩ := hc.fitted c hcmem hactive panelId hmem
        exact ⟨p, hput.of_ne hp fun heq => hid (hpid.symm.trans heq), hpid, hfits⟩

variable {connector : FiberConnectorPort}

/-- **A connector is written**: it fits in its panel, and its links still end on it. -/
theorem connector_iff {connectors : Table FiberConnectorPort} (hc : Consistent plant inventory)
    (hput : Put inventory.connectors connectors connector) :
    Consistent plant { inventory with connectors } ↔
      (connector.isActive → ∀ panelId ∈ connector.patchPanelId,
        ∃ p ∈ inventory.panels.rows, p.id = panelId ∧ connector.FitsIn p) ∧
      (∀ t ∈ inventory.terminations.rows, t.active → t.connectorPortId = connector.id →
        t.EndsOn plant connector) ∧
      ∀ k ∈ inventory.cords.rows, k.active → k.EndsOn connector.id → ∀ c ∈ connectors.rows,
        ∀ d ∈ connectors.rows, c.id = k.firstConnectorPortId → d.id = k.secondConnectorPortId →
          c.Joins d := by
  constructor
  · intro hc'
    refine ⟨hc'.fitted connector hput.mem, fun t ht hactive hid => ?_,
      fun k hk hactive _ c hcmem d hd hfirst hsecond => ?_⟩
    · obtain ⟨c, hcmem, hcid, hends⟩ := hc'.ended t ht hactive
      rw [← hput.eq_of_id hcmem (hcid.trans hid)]
      exact hends
    · obtain ⟨c', hc'mem, d', hd', hfirst', hsecond', hjoins⟩ := hc'.joined k hk hactive
      rw [Table.eq_of_id_eq hcmem hc'mem (hfirst.trans hfirst'.symm),
        Table.eq_of_id_eq hd hd' (hsecond.trans hsecond'.symm)]
      exact hjoins
  · rintro ⟨hfits, hends, hjoins⟩
    refine ⟨hc.mounted, hc.apart, fun c hcmem hactive => ?_, fun t ht hactive => ?_,
      fun k hk hactive => ?_⟩
    · rcases (hput c).mp hcmem with rfl | ⟨hcmem, -⟩
      · exact hfits hactive
      · exact hc.fitted c hcmem hactive
    · by_cases hid : t.connectorPortId = connector.id
      · exact ⟨connector, hput.mem, hid.symm, hends t ht hactive hid⟩
      · obtain ⟨c, hcmem, hcid, hend⟩ := hc.ended t ht hactive
        exact ⟨c, hput.of_ne hcmem fun heq => hid (hcid.symm.trans heq), hcid, hend⟩
    · obtain ⟨c, hcmem, d, hd, hfirst, hsecond, hjoin⟩ := hc.joined k hk hactive
      have hkept : ∀ {e}, e ∈ inventory.connectors.rows →
          ∃ e' ∈ connectors.rows, e'.id = e.id ∧ (e.id ≠ connector.id → e' = e) := by
        intro e he
        by_cases hid : e.id = connector.id
        · exact ⟨connector, hput.mem, hid.symm, fun hne => absurd hid hne⟩
        · exact ⟨e, hput.of_ne he hid, rfl, fun _ => rfl⟩
      obtain ⟨c', hc', hcid, hceq⟩ := hkept hcmem
      obtain ⟨d', hd', hdid, hdeq⟩ := hkept hd
      refine ⟨c', hc', d', hd', hcid.trans hfirst, hdid.trans hsecond, ?_⟩
      by_cases hends : k.EndsOn connector.id
      · exact hjoins k hk hactive hends c' hc' d' hd' (hcid.trans hfirst) (hdid.trans hsecond)
      · have hne := not_or.mp hends
        rw [hceq fun heq => hne.1 (hfirst.symm.trans heq),
          hdeq fun heq => hne.2 (hsecond.symm.trans heq)]
        exact hjoin

lemma of_validateRack {rack : FiberRack} (h : validateRack plant inventory rack flag = .ok u) :
    flag ≠ some (.bool false) →
      ∀ p ∈ inventory.panels.rows, p.rackId = rack.id → p.isActive →
        p.endUnit ≤ rack.rackUnits := by
  unfold validateRack at h
  simp only [bind_eq_ok, ensure_eq_ok, onlyIf_eq_ok] at h
  obtain ⟨-, -, -, -, h⟩ := h
  exact h

lemma of_validatePanel {panel : FiberPatchPanel} (h : validatePanel inventory panel flag = .ok u) :
    (∃ r ∈ inventory.racks.rows, r.id = panel.rackId ∧ panel.MountedIn r) ∧
      ((∃ value ∈ flag, value.truth) → ∀ q ∈ inventory.panels.rows, q.rackId = panel.rackId →
        q.isActive → q.id ≠ panel.id → ¬panel.Overlaps q) ∧
      ∀ c ∈ inventory.connectors.rows, c.patchPanelId = some panel.id → c.isActive →
        ∀ number ∈ c.portNumber, number ≤ panel.portCapacity := by
  unfold validatePanel at h
  simp only [bind_eq_ok, ensure_eq_ok, onlyIf_eq_ok, orRefuse_eq_ok, Option.filter_eq_some_iff] at h
  obtain ⟨rack, ⟨hrack, hactive⟩, -, -, -, -, -, hpositive, -, hunits, -, -, -, hoverlap, hports⟩ := h
  obtain ⟨hmem, hid⟩ := Table.get?_eq_some.mp hrack
  exact ⟨⟨rack, hmem, hid, hactive, hpositive.1, hpositive.2, hunits⟩, hoverlap, hports⟩

lemma of_validateConnector (h : validateConnector plant inventory connector flag = .ok u) :
    (∀ panelId ∈ connector.patchPanelId,
      ∃ p ∈ inventory.panels.rows, p.id = panelId ∧ connector.FitsIn p) ∧
      (flag = some (.bool false) →
        (∀ t ∈ inventory.terminations.rows, t.connectorPortId = connector.id → ¬t.active) ∧
          ∀ k ∈ inventory.cords.rows, k.active → ¬k.EndsOn connector.id) := by
  unfold validateConnector at h
  simp only [bind_eq_ok, ensure_eq_ok, onlyIf_eq_ok] at h
  obtain ⟨-, -, -, -, checked, howner, hguard⟩ := h
  constructor
  · intro panelId hpanel
    unfold validateOwner at howner
    rw [Option.mem_def.mp hpanel] at howner
    simp only [bind_eq_ok, ensure_eq_ok, orRefuse_eq_ok, Option.filter_eq_some_iff] at howner
    obtain ⟨panel, ⟨hget, hactive⟩, -, hport, hkind⟩ := howner
    obtain ⟨hmem, hid⟩ := Table.get?_eq_some.mp hget
    exact ⟨panel, hmem, hid, hactive, hport, hkind⟩
  · intro hflag
    obtain ⟨-, hterminations, hcords⟩ := hguard hflag
    exact ⟨hterminations, hcords⟩

def ConnectorPayload.setAt (payload : ConnectorPayload) (id : ℕ) (connector : FiberConnectorPort) :
    FiberConnectorPort :=
  if connector.id = id then payload.set connector else connector

lemma id_setAt {payload : ConnectorPayload} {id : ℕ} :
    (payload.setAt id connector).id = connector.id := by
  unfold ConnectorPayload.setAt
  split_ifs
  · rfl
  · rfl

/-- A rack stays active while it has active panels; a new panel that does not say whether it is
active is apart from the others; a panel stays active and of its kind while it has active connectors;
and a connector stays active, at the endpoint and of the mode of its links. -/
def Keeps (plant : Plant) (inventory : Inventory) : Command → Prop
  | .rack (.update id payload) => ∀ rack ∈ inventory.racks.get? id,
      ∀ p ∈ inventory.panels.rows, p.isActive → p.rackId = id → (payload.set rack).isActive
  | .panel (.create payload) => payload.isActive = none → ∀ rackId ∈ payload.rackId,
      ∀ q ∈ inventory.panels.rows, q.isActive → q.rackId = rackId →
        ¬(payload.set (.blank rackId inventory.panels.next)).Overlaps q
  | .panel (.update id payload) => ∀ panel ∈ inventory.panels.get? id,
      ∀ c ∈ inventory.connectors.rows, c.isActive → c.patchPanelId = some id →
        (payload.set panel).isActive ∧ c.SameKind (payload.set panel)
  | .connector (.update id payload) =>
    (∀ connector ∈ inventory.connectors.get? id, ∀ t ∈ inventory.terminations.rows, t.active →
      t.connectorPortId = id → t.EndsOn plant (payload.set connector)) ∧
    ∀ k ∈ inventory.cords.rows, k.active → k.EndsOn id → ∀ c ∈ inventory.connectors.rows,
      ∀ d ∈ inventory.connectors.rows, c.id = k.firstConnectorPortId →
        d.id = k.secondConnectorPortId → (payload.setAt id c).Joins (payload.setAt id d)
  | _ => True

lemma flagged_eq_true {isActive : Bool} {value : Option Flag} :
    flagged isActive value = true ↔ ∃ f ∈ value.or (some (.bool isActive)), f.truth := by
  cases value with
  | none => simp [flagged, Flag.truth]
  | some f => simp [flagged]

theorem rack_step_iff {change : Change RackPayload} (hc : Consistent plant inventory)
    (h : applyRack plant inventory change = .ok inventory') :
    Consistent plant inventory' ↔ Keeps plant inventory (.rack change) := by
  cases change with
  | create payload =>
    simp only [applyRack, bind_eq_ok, Except.ok.injEq] at h
    obtain ⟨-, -, rfl⟩ := h
    refine (rack_iff hc put_insert).trans ?_
    refine ⟨fun _ => trivial, fun _ p hp hactive hrack => ?_⟩
    obtain ⟨r, hr, hid, -⟩ := hc.mounted p hp hactive
    have hlt : r.id < inventory.racks.next := inventory.racks.fresh r hr
    have heq : r.id = inventory.racks.next := hid.trans hrack
    omega
  | update id payload =>
    simp only [applyRack, bind_eq_ok, orRefuse_eq_ok, Except.ok.injEq] at h
    obtain ⟨rack, hget, u, hvalid, rfl⟩ := h
    have hid : rack.id = id := (Table.get?_eq_some.mp hget).2
    refine (rack_iff hc (put_update hget)).trans ?_
    constructor
    · intro hmounted r hr p hp hactive hrack
      obtain rfl : rack = r := Option.mem_unique hget hr
      exact (hmounted p hp hactive (hrack.trans hid.symm)).1
    · intro hkeeps p hp hactive hrack
      have hrackId : p.rackId = id := hrack.trans hid
      have htrue := hkeeps rack hget p hp hactive hrackId
      obtain ⟨r, -, -, -, hstart, hheight, -⟩ := hc.mounted p hp hactive
      refine ⟨htrue, hstart, hheight, of_validateRack hvalid ?_ p hp hrack hactive⟩
      intro hflag
      obtain ⟨f, hf, htruth⟩ := flagged_eq_true.mp htrue
      rw [hflag, Option.mem_def, Option.some.injEq] at hf
      rw [← hf] at htruth
      cases htruth
  | delete id =>
    simp only [applyRack, bind_eq_ok, orRefuse_eq_ok, ensure_eq_ok, Except.ok.injEq] at h
    obtain ⟨rack, hget, -, hguard, rfl⟩ := h
    have hid : rack.id = id := (Table.get?_eq_some.mp hget).2
    refine (rack_iff hc (put_update hget)).trans ?_
    refine ⟨fun _ => trivial, fun _ p hp hactive hrack => ?_⟩
    exact absurd hactive (hguard p hp (hrack.trans hid))

theorem panel_step_iff {change : Change PanelPayload} (hc : Consistent plant inventory)
    (h : applyPanel inventory change = .ok inventory') :
    Consistent plant inventory' ↔ Keeps plant inventory (.panel change) := by
  cases change with
  | create payload =>
    simp only [applyPanel, flushPanels, bind_eq_ok, orRefuse_eq_ok, ensure_eq_ok,
      Except.ok.injEq] at h
    obtain ⟨rackId, hrackId, u, hvalid, -, -, rfl⟩ := h
    obtain ⟨hmounted, hapart, -⟩ := of_validatePanel hvalid
    refine (panel_iff hc put_insert).trans ?_
    have hrack : payload.rackId.getD rackId = rackId := by rw [hrackId, Option.getD_some]
    have hne : ∀ q ∈ inventory.panels.rows, q.id ≠ inventory.panels.next :=
      fun q hq => (inventory.panels.fresh q hq).ne
    constructor
    · rintro ⟨hpanel, -⟩ hunset r hr q hq hactive hqrack
      obtain rfl : rackId = r := Option.mem_unique hrackId hr
      have htrue : flagged true payload.isActive = true := by rw [hunset]; rfl
      exact (hpanel htrue).2 q hq hactive (hqrack.trans hrack.symm) (hne q hq)
    · intro hkeeps
      refine ⟨fun htrue => ⟨hmounted, fun q hq hactive hqrack hqne => ?_⟩, ?_⟩
      · cases hflag : payload.isActive with
        | none => exact hkeeps hflag rackId hrackId q hq hactive (hqrack.trans hrack)
        | some f =>
          refine hapart ⟨f, hflag, ?_⟩ q hq hqrack hactive hqne
          have hflagged : flagged true payload.isActive = true := htrue
          rw [hflag] at hflagged
          exact hflagged
      · intro c hcmem hactive hpanel
        obtain ⟨p, hp, hpid, -⟩ := hc.fitted c hcmem hactive _ hpanel
        exact absurd hpid (hne p hp)
  | update id payload =>
    simp only [applyPanel, flushPanels, bind_eq_ok, orRefuse_eq_ok, ensure_eq_ok,
      Except.ok.injEq] at h
    obtain ⟨panel, hget, u, hvalid, -, -, rfl⟩ := h
    obtain ⟨hmounted, hapart, hports⟩ := of_validatePanel hvalid
    obtain ⟨hmem, rfl⟩ := Table.get?_eq_some.mp hget
    refine (panel_iff hc (put_update hget)).trans ?_
    constructor
    · rintro ⟨-, hconnectors⟩ p hp c hcmem hactive hpanel
      obtain rfl : panel = p := Option.mem_unique hget hp
      obtain ⟨htrue, -, hkind⟩ := hconnectors c hcmem hactive hpanel
      exact ⟨htrue, hkind⟩
    · intro hkeeps
      refine ⟨fun htrue => ⟨hmounted, fun q hq hactive hqrack hqne => ?_⟩,
        fun c hcmem hactive hpanel => ?_⟩
      · exact hapart (flagged_eq_true.mp htrue) q hq hqrack hactive hqne
      · obtain ⟨htrue, hkind⟩ := hkeeps panel hget c hcmem hactive hpanel
        obtain ⟨-, -, -, -, ⟨number, hnumber, hpositive, -⟩, -⟩ :=
          hc.fitted c hcmem hactive _ hpanel
        exact ⟨htrue, ⟨number, hnumber, hpositive,
          hports c hcmem hpanel hactive number hnumber⟩, hkind⟩
  | delete id =>
    simp only [applyPanel, bind_eq_ok, orRefuse_eq_ok, ensure_eq_ok, Except.ok.injEq] at h
    obtain ⟨panel, hget, -, hguard, rfl⟩ := h
    obtain ⟨-, rfl⟩ := Table.get?_eq_some.mp hget
    refine (panel_iff hc (put_update hget)).trans ?_
    refine ⟨fun _ => trivial, fun _ => ⟨fun htrue => ?_, fun c hcmem hactive hpanel => ?_⟩⟩
    · exact absurd htrue Bool.false_ne_true
    · exact absurd hactive (hguard c hcmem hpanel)

theorem connector_step_iff {change : Change ConnectorPayload} (hc : Consistent plant inventory)
    (h : applyConnector plant inventory change = .ok inventory') :
    Consistent plant inventory' ↔ Keeps plant inventory (.connector change) := by
  cases change with
  | create payload =>
    simp only [applyConnector, flushConnectors, bind_eq_ok, ensure_eq_ok, Except.ok.injEq] at h
    obtain ⟨u, hvalid, -, -, rfl⟩ := h
    have hne : ∀ c ∈ inventory.connectors.rows, c.id ≠ inventory.connectors.next :=
      fun c hcmem => (inventory.connectors.fresh c hcmem).ne
    refine (connector_iff hc put_insert).trans ⟨fun _ => trivial, fun _ => ?_⟩
    refine ⟨fun _ => (of_validateConnector hvalid).1, fun t ht hactive hid => ?_,
      fun k hk hactive hends => ?_⟩
    · obtain ⟨c, hcmem, hcid, -⟩ := hc.ended t ht hactive
      exact absurd (hcid.trans hid) (hne c hcmem)
    · obtain ⟨c, hcmem, d, hd, hfirst, hsecond, -⟩ := hc.joined k hk hactive
      rcases hends with hid | hid
      · exact absurd (hfirst.trans hid) (hne c hcmem)
      · exact absurd (hsecond.trans hid) (hne d hd)
  | update id payload =>
    simp only [applyConnector, flushConnectors, bind_eq_ok, orRefuse_eq_ok, ensure_eq_ok,
      Except.ok.injEq] at h
    obtain ⟨connector, hget, u, hvalid, -, -, rfl⟩ := h
    obtain ⟨hmem, rfl⟩ := Table.get?_eq_some.mp hget
    refine (connector_iff hc (put_update hget)).trans ?_
    constructor
    · rintro ⟨-, hends, hjoins⟩
      refine ⟨fun c hget' t => ?_, fun k hk hactive hon c hcmem d hd hfirst hsecond => ?_⟩
      · obtain rfl : connector = c := Option.mem_unique hget hget'
        exact hends t
      · exact hjoins k hk hactive hon _ (List.mem_map_of_mem hcmem) _ (List.mem_map_of_mem hd)
          (id_setAt.trans hfirst) (id_setAt.trans hsecond)
    · rintro ⟨hends, hjoins⟩
      refine ⟨fun _ => (of_validateConnector hvalid).1, hends connector hget,
        fun k hk hactive hon c' hc' d' hd' hfirst hsecond => ?_⟩
      obtain ⟨c, hcmem, rfl⟩ := List.mem_map.mp hc'
      obtain ⟨d, hd, rfl⟩ := List.mem_map.mp hd'
      exact hjoins k hk hactive hon c hcmem d hd (id_setAt.symm.trans hfirst)
        (id_setAt.symm.trans hsecond)
  | delete id =>
    simp only [applyConnector, bind_eq_ok, orRefuse_eq_ok, Except.ok.injEq] at h
    obtain ⟨connector, hget, u, hvalid, rfl⟩ := h
    obtain ⟨-, rfl⟩ := Table.get?_eq_some.mp hget
    obtain ⟨hterminations, hcords⟩ := (of_validateConnector hvalid).2 rfl
    refine (connector_iff hc (put_update hget)).trans ⟨fun _ => trivial, fun _ => ⟨?_, ?_, ?_⟩⟩
    · exact fun htrue => absurd htrue Bool.false_ne_true
    · exact fun t ht hactive hid => absurd hactive (hterminations t ht hid)
    · exact fun k hk hactive hends => absurd hends (hcords k hk hactive)

lemma of_activeConnector {id : ℕ} {c : FiberConnectorPort}
    (h : activeConnector plant inventory id = .ok c) :
    c ∈ inventory.connectors.rows ∧ c.id = id ∧ c.isActive := by
  unfold activeConnector at h
  simp only [bind_eq_ok, orRefuse_eq_ok, Option.filter_eq_some_iff, Except.ok.injEq] at h
  obtain ⟨connector, ⟨hget, hactive⟩, -, -, rfl⟩ := h
  obtain ⟨hmem, hid⟩ := Table.get?_eq_some.mp hget
  exact ⟨hmem, hid, hactive⟩

lemma of_loadStrandEnd {strandId : ℕ} {strandEnd : StrandEnd} {point : FiberTerminationPoint}
    (h : loadStrandEnd plant strandId strandEnd = .ok point) :
    point ∈ plant.endpoint strandId strandEnd := by
  unfold loadStrandEnd at h
  simp only [bind_eq_ok, orRefuse_eq_ok, ensure_eq_ok, Option.filter_eq_some_iff] at h
  obtain ⟨-, -, -, -, -, -, hpoint, -⟩ := h
  exact hpoint

/-- **Links are made on active connectors**, and their retirement breaks nothing. -/
theorem consistent_link {splices : List FiberCoreSplice} {decision : LinkDecision}
    (hc : Consistent plant inventory)
    (h : executePhysicalLink plant inventory splices decision = .ok inventory') :
    Consistent plant inventory' := by
  cases decision with
  | connectTermination strandId strandEnd connectorId =>
    simp only [executePhysicalLink, bind_eq_ok, ensure_eq_ok, Except.ok.injEq] at h
    obtain ⟨point, hpoint, c, hconnector, u, hcompatible, -, -, -, -, rfl⟩ := h
    obtain ⟨hmem, hid, hactive⟩ := of_activeConnector hconnector
    refine ⟨hc.mounted, hc.apart, hc.fitted, fun t ht htactive => ?_, hc.joined⟩
    rcases Table.mem_insert.mp ht with ht | rfl
    · exact hc.ended t ht htactive
    · refine ⟨c, hmem, hid, hactive, fun external hexternal => ⟨point, of_loadStrandEnd hpoint, ?_⟩⟩
      unfold assertTerminationCompatible at hcompatible
      rw [Option.mem_def.mp hexternal] at hcompatible
      exact ensure_eq_ok.mp hcompatible
  | connectCord firstId secondId =>
    simp only [executePhysicalLink, bind_eq_ok, ensure_eq_ok, Except.ok.injEq] at h
    obtain ⟨-, -, -, -, c, hfirst, d, hsecond, -, hmode, -, -, rfl⟩ := h
    obtain ⟨hcmem, hcid, hcactive⟩ := of_activeConnector hfirst
    obtain ⟨hdmem, hdid, hdactive⟩ := of_activeConnector hsecond
    refine ⟨hc.mounted, hc.apart, hc.fitted, hc.ended, fun k hk hactive => ?_⟩
    rcases Table.mem_insert.mp hk with hk | rfl
    · exact hc.joined k hk hactive
    · exact ⟨c, hcmem, d, hdmem, hcid, hdid, hcactive, hdactive, hmode⟩
  | disconnectTermination id strandId strandEnd connectorId =>
    simp only [executePhysicalLink, bind_eq_ok, ensure_eq_ok, orRefuse_eq_ok,
      Option.filter_eq_some_iff, Except.ok.injEq] at h
    obtain ⟨termination, ⟨hget, -⟩, -, -, -, -, rfl⟩ := h
    refine ⟨hc.mounted, hc.apart, hc.fitted, fun t ht hactive => ?_, hc.joined⟩
    have hput := put_update (f := fun row : FiberStrandTermination => { row with active := false })
      (h := fun _ => rfl) hget
    rcases (hput t).mp ht with rfl | ⟨ht, -⟩
    · cases hactive
    · exact hc.ended t ht hactive
  | disconnectCord id firstId secondId =>
    simp only [executePhysicalLink, bind_eq_ok, ensure_eq_ok, orRefuse_eq_ok,
      Option.filter_eq_some_iff, Except.ok.injEq] at h
    obtain ⟨cord, ⟨hget, -⟩, -, -, -, -, rfl⟩ := h
    refine ⟨hc.mounted, hc.apart, hc.fitted, hc.ended, fun k hk hactive => ?_⟩
    have hput := put_update (f := fun row : FiberPatchCord => { row with active := false })
      (h := fun _ => rfl) hget
    rcases (hput k).mp hk with rfl | ⟨hk, -⟩
    · cases hactive
    · exact hc.joined k hk hactive

/-- **A command keeps the inventory consistent exactly under its condition.** -/
theorem step_iff {command : Command} (hc : Consistent plant inventory)
    (h : step plant inventory command = .ok inventory') :
    Consistent plant inventory' ↔ Keeps plant inventory command := by
  cases command with
  | rack change => exact rack_step_iff hc h
  | panel change => exact panel_step_iff hc h
  | connector change => exact connector_step_iff hc h
  | link splices decision => exact ⟨fun _ => trivial, fun _ => consistent_link hc h⟩

/-- **The inventory stays consistent in the runs whose commands keep it**, and in no others. -/
theorem consistent_run (plant : Plant) (commands : List Command) (inventory : Inventory)
    (hc : Consistent plant inventory) :
    (∀ before after, commands = before ++ after →
      Consistent plant (Run.run (step plant) inventory before)) ↔
      Run.Guarded (step plant) (Keeps plant) inventory commands :=
  Run.forall_prefix_iff_guarded (fun _ _ _ hc hkeeps hok => (step_iff hc hok).mpr hkeeps)
    (fun _ _ _ hc hok => (step_iff hc hok).mp) commands inventory hc

def Inventory.empty : Inventory := ⟨.empty, .empty, .empty, .empty, .empty⟩

lemma consistent_empty : Consistent plant .empty := by
  constructor <;> exact fun _ h => nomatch h

/-! ### A rack that is retired by an update -/

def onePop : Plant where
  hostActive := fun host id => host = .pop ∧ id = 0
  equipmentActive := fun _ _ => false
  strand := fun _ => none
  segment := fun _ => none
  point := fun _ => none
  splitterPortCabinet := fun _ => none
  ponPortOlt := fun _ => none
  oltNodes := []

/-- A rack of ten units in the POP. -/
def newRack : RackPayload := ⟨some (some 0), none, none, none, some 10, none⟩

/-- A panel in the first two units of the rack. -/
def newPanel : PanelPayload :=
  ⟨some 0, some "odf", some 1, some 2, some 24, some "sc", some "apc", some "single_mode", none⟩

def retiredRack : RackPayload := ⟨none, none, none, none, none, some (.bool false)⟩

def retirement : List Command :=
  [.rack (.create newRack), .panel (.create newPanel), .rack (.update 0 retiredRack)]

theorem consistent_run_retirement :
    (∀ before after, retirement = before ++ after →
      Consistent onePop (Run.run (step onePop) .empty before)) ↔
      Run.Guarded (step onePop) (Keeps onePop) .empty retirement :=
  consistent_run onePop retirement .empty consistent_empty

/-- **An update retires a rack under its panel.** -/
theorem rack_retired : ¬∀ before after, retirement = before ++ after →
    Consistent onePop (Run.run (step onePop) .empty before) := by
  intro h
  have hracks : ∀ r ∈ (Run.run (step onePop) .empty retirement).racks.rows, r.isActive = false := by
    decide +kernel
  have hpanels : ∃ p ∈ (Run.run (step onePop) .empty retirement).panels.rows, p.isActive := by
    decide +kernel
  obtain ⟨p, hp, hactive⟩ := hpanels
  obtain ⟨r, hr, -, hmounted⟩ := (h retirement [] (List.append_nil _).symm).mounted p hp hactive
  exact absurd hmounted.1 (by simp [hracks r hr])

end DotmacSub.FiberInventory
