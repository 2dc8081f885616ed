import DotmacSub.Topology.Affected

/-!
# Valid sets of declarations

What it means that a set of forwarding declarations is in order, and that the scan of
`_graph_errors` with its search for cycles reports nothing exactly if it is.
-/

namespace DotmacSub.Topology

open BreadthFirst Cycles

/-- The sides of a path that are devices. -/
def Declaration.endpoints (p : Declaration) : List Endpoint := p.downstream :: p.upstream.toList

/-- Unique keys and preferences, one role and one site for each device, no cycle in a VRF. -/
structure Valid (payloads : List Declaration) : Prop where
  pathKeys : (payloads.map Declaration.pathKey).Nodup
  preferences : (payloads.map Declaration.preferenceKey).Nodup
  roles : ∀ p ∈ payloads, ∀ e ∈ p.endpoints, ∀ q ∈ payloads, ∀ f ∈ q.endpoints,
    e.deviceId = f.deviceId → e.role = f.role
  sites : ∀ p ∈ payloads, ∀ e ∈ p.endpoints, ∀ q ∈ payloads, ∀ f ∈ q.endpoints,
    e.deviceId = f.deviceId → e.popSiteId = f.popSiteId
  acyclic : ∀ vrfName, Acyclic (Next (parents payloads vrfName))

def Consistent {β : Type*} (entries : List (ℕ × β)) : Prop :=
  ∀ d b b', (d, b) ∈ entries → (d, b') ∈ entries → b = b'

/-- What the scan has met fits together. -/
structure Sound (scan : GraphScan) : Prop where
  pathKeys : scan.pathKeys.Nodup
  preferences : scan.preferences.Nodup
  roles : Consistent scan.roles
  sites : Consistent scan.sites

section Scan

variable {β : Type*} {entries : List (ℕ × β)} {d : ℕ} {b : β} {scan : GraphScan} {e : Endpoint}
  {p : Declaration}

lemma mem_of_lookup : ∀ {entries : List (ℕ × β)}, entries.lookup d = some b → (d, b) ∈ entries
  | (a, c) :: entries, h => by
    by_cases ha : d = a
    · subst ha
      simp only [List.lookup_cons_self, Option.some.injEq] at h
      rw [h]
      exact List.mem_cons_self
    · rw [List.lookup_cons, beq_eq_false_iff_ne.mpr ha] at h
      exact List.mem_cons_of_mem _ (mem_of_lookup h)

lemma not_mem_of_lookup : ∀ {entries : List (ℕ × β)}, entries.lookup d = none → (d, b) ∉ entries
  | [], _ => List.not_mem_nil
  | (a, c) :: entries, h => by
    by_cases ha : d = a
    · subst ha
      simp at h
    · rw [List.lookup_cons, beq_eq_false_iff_ne.mpr ha] at h
      intro hmem
      rcases List.mem_cons.mp hmem with heq | hmem
      · exact ha (Prod.mk.inj heq).1
      · exact not_mem_of_lookup h hmem

/-- A new entry agrees with the one last seen, or is the first of its key. -/
lemma consistent_cons (h : Consistent entries) :
    Consistent ((d, b) :: entries) ↔ ∀ b', entries.lookup d = some b' → b' = b := by
  constructor
  · intro hcons b' hb'
    exact hcons d b' b (List.mem_cons_of_mem _ (mem_of_lookup hb')) List.mem_cons_self
  · intro hseen x c c' hc hc'
    have hold : ∀ c, (d, c) ∈ entries → c = b := by
      intro c hc
      cases hlookup : entries.lookup d with
      | none => exact absurd hc (not_mem_of_lookup hlookup)
      | some b' => rw [h d c b' hc (mem_of_lookup hlookup), hseen b' hlookup]
    rcases List.mem_cons.mp hc with heq | hmem
    · obtain ⟨rfl, rfl⟩ := Prod.mk.inj heq
      rcases List.mem_cons.mp hc' with heq' | hmem'
      · exact (Prod.mk.inj heq').2.symm
      · exact (hold c' hmem').symm
    · rcases List.mem_cons.mp hc' with heq' | hmem'
      · obtain ⟨rfl, rfl⟩ := Prod.mk.inj heq'
        exact hold c hmem
      · exact h x c c' hmem hmem'

lemma Consistent.tail {entry : ℕ × β} (h : Consistent (entry :: entries)) : Consistent entries :=
  fun d b b' hb hb' => h d b b' (List.mem_cons_of_mem _ hb) (List.mem_cons_of_mem _ hb')

/-- A step of the scan reports an error exactly if it meets something that does not fit. -/
structure Scans {α : Type*} (f : GraphScan → α → GraphScan) : Prop where
  kept : ∀ scan x, (f scan x).errors = [] → scan.errors = []
  back : ∀ scan x, Sound (f scan x) → Sound scan
  reports : ∀ scan x, Sound scan → scan.errors = [] → ((f scan x).errors = [] ↔ Sound (f scan x))

lemma scans_device : Scans GraphScan.device := by
  refine ⟨fun scan e h => ?_, fun scan e h => ?_, fun scan e h hnone => ?_⟩
  · simp only [GraphScan.device, List.append_eq_nil_iff] at h
    exact h.1.1
  · exact ⟨h.pathKeys, h.preferences, h.roles.tail, h.sites.tail⟩
  · have hroles := consistent_cons (d := e.deviceId) (b := e.role) h.roles
    have hsites := consistent_cons (d := e.deviceId) (b := e.popSiteId) h.sites
    have hsound : Sound (scan.device e) ↔
        (∀ b', scan.roles.lookup e.deviceId = some b' → b' = e.role) ∧
          ∀ b', scan.sites.lookup e.deviceId = some b' → b' = e.popSiteId := by
      rw [← hroles, ← hsites]
      exact ⟨fun hs => ⟨hs.roles, hs.sites⟩, fun hs => ⟨h.pathKeys, h.preferences, hs.1, hs.2⟩⟩
    rw [hsound, GraphScan.device]
    cases scan.roles.lookup e.deviceId <;> cases scan.sites.lookup e.deviceId <;> simp [hnone]

section Steps

variable {α γ : Type*} {f : GraphScan → α → GraphScan} {g : GraphScan → γ → GraphScan}

lemma Scans.foldl_kept (h : Scans f) : ∀ (xs : List α) (scan : GraphScan),
    (xs.foldl f scan).errors = [] → scan.errors = []
  | [], _, hnone => hnone
  | x :: xs, scan, hnone => h.kept scan x (h.foldl_kept xs _ hnone)

lemma Scans.foldl_back (h : Scans f) : ∀ (xs : List α) (scan : GraphScan),
    Sound (xs.foldl f scan) → Sound scan
  | [], _, hsound => hsound
  | x :: xs, scan, hsound => h.back scan x (h.foldl_back xs _ hsound)

lemma Scans.foldl (h : Scans f) : Scans fun scan xs => List.foldl f scan xs := by
  refine ⟨fun scan xs => h.foldl_kept xs scan, fun scan xs => h.foldl_back xs scan,
    fun scan xs => ?_⟩
  induction xs generalizing scan with
  | nil => exact fun hsound hnone => ⟨fun _ => hsound, fun _ => hnone⟩
  | cons x xs ih =>
    intro hsound hnone
    have hfirst := h.reports scan x hsound hnone
    constructor
    · intro hrest
      have hx : (f scan x).errors = [] := h.foldl_kept xs _ hrest
      exact (ih _ (hfirst.mp hx) hx).mp hrest
    · intro hrest
      have hx : Sound (f scan x) := h.foldl_back xs _ hrest
      exact (ih _ hx (hfirst.mpr hx)).mpr hrest

lemma Scans.comp (hf : Scans f) (hg : Scans g) (k : α → γ) :
    Scans fun scan x => g (f scan x) (k x) := by
  refine ⟨fun scan x h => hf.kept scan x (hg.kept _ _ h), fun scan x h =>
    hf.back scan x (hg.back _ _ h), fun scan x hsound hnone => ?_⟩
  have hfirst := hf.reports scan x hsound hnone
  constructor
  · intro hrest
    have hx : (f scan x).errors = [] := hg.kept _ _ hrest
    exact (hg.reports _ _ (hfirst.mp hx) hx).mp hrest
  · intro hrest
    have hx : Sound (f scan x) := hg.back _ _ hrest
    exact (hg.reports _ _ hx (hfirst.mpr hx)).mpr hrest

end Steps

lemma declaration_eq : scan.declaration p = p.endpoints.foldl GraphScan.device (scan.keys p) := rfl

lemma scans_keys : Scans GraphScan.keys := by
  refine ⟨fun scan p h => ?_, fun scan p h => ?_, fun scan p h hnone => ?_⟩
  · simp only [GraphScan.keys, List.append_eq_nil_iff] at h
    exact h.1.1
  · exact ⟨h.pathKeys.of_cons, h.preferences.of_cons, h.roles, h.sites⟩
  · have hsound : Sound (scan.keys p) ↔
        p.pathKey ∉ scan.pathKeys ∧ p.preferenceKey ∉ scan.preferences := by
      constructor
      · exact fun hs => ⟨(List.nodup_cons.mp hs.pathKeys).1, (List.nodup_cons.mp hs.preferences).1⟩
      · exact fun hs => ⟨List.nodup_cons.mpr ⟨hs.1, h.pathKeys⟩,
          List.nodup_cons.mpr ⟨hs.2, h.preferences⟩, h.roles, h.sites⟩
    rw [hsound, GraphScan.keys]
    simp [hnone]

lemma scans_declaration : Scans GraphScan.declaration :=
  scans_keys.comp scans_device.foldl Declaration.endpoints

lemma foldl_device_lists (es : List Endpoint) (scan : GraphScan) :
    (es.foldl GraphScan.device scan).pathKeys = scan.pathKeys ∧
      (es.foldl GraphScan.device scan).preferences = scan.preferences ∧
      (es.foldl GraphScan.device scan).roles =
        (es.map fun e => (e.deviceId, e.role)).reverse ++ scan.roles ∧
      (es.foldl GraphScan.device scan).sites =
        (es.map fun e => (e.deviceId, e.popSiteId)).reverse ++ scan.sites := by
  induction es generalizing scan with
  | nil => exact ⟨rfl, rfl, rfl, rfl⟩
  | cons e es ih =>
    obtain ⟨hkeys, hpreferences, hroles, hsites⟩ := ih (scan.device e)
    rw [List.foldl_cons, hkeys, hpreferences, hroles, hsites]
    simp [GraphScan.device]

lemma foldl_declaration_lists (payloads : List Declaration) (scan : GraphScan) :
    (payloads.foldl GraphScan.declaration scan).pathKeys =
        (payloads.map Declaration.pathKey).reverse ++ scan.pathKeys ∧
      (payloads.foldl GraphScan.declaration scan).preferences =
        (payloads.map Declaration.preferenceKey).reverse ++ scan.preferences ∧
      (payloads.foldl GraphScan.declaration scan).roles =
        ((payloads.flatMap Declaration.endpoints).map fun e => (e.deviceId, e.role)).reverse ++
          scan.roles ∧
      (payloads.foldl GraphScan.declaration scan).sites =
        ((payloads.flatMap Declaration.endpoints).map fun e => (e.deviceId, e.popSiteId)).reverse ++
          scan.sites := by
  induction payloads generalizing scan with
  | nil => exact ⟨rfl, rfl, rfl, rfl⟩
  | cons p payloads ih =>
    obtain ⟨hkeys, hpreferences, hroles, hsites⟩ := ih (scan.declaration p)
    obtain ⟨hkeys', hpreferences', hroles', hsites'⟩ := foldl_device_lists p.endpoints (scan.keys p)
    rw [List.foldl_cons, hkeys, hpreferences, hroles, hsites, declaration_eq, hkeys', hpreferences',
      hroles', hsites']
    simp [GraphScan.keys]

lemma consistent_endpoints {payloads : List Declaration} {value : Endpoint → β} :
    Consistent ((payloads.flatMap Declaration.endpoints).map fun e => (e.deviceId, value e)).reverse ↔
      ∀ p ∈ payloads, ∀ e ∈ p.endpoints, ∀ q ∈ payloads, ∀ f ∈ q.endpoints,
        e.deviceId = f.deviceId → value e = value f := by
  have hmem : ∀ d b, (d, b) ∈ ((payloads.flatMap Declaration.endpoints).map fun e =>
      (e.deviceId, value e)).reverse ↔ ∃ p ∈ payloads, ∃ e ∈ p.endpoints,
        e.deviceId = d ∧ value e = b := by
    intro d b
    simp only [List.mem_reverse, List.mem_map, List.mem_flatMap, Prod.mk.injEq]
    constructor
    · rintro ⟨e, ⟨p, hp, he⟩, heq⟩
      exact ⟨p, hp, e, he, heq⟩
    · rintro ⟨p, hp, e, he, heq⟩
      exact ⟨e, ⟨p, hp, he⟩, heq⟩
  constructor
  · intro h p hp e he q hq f hf hdevice
    exact h f.deviceId _ _ ((hmem _ _).mpr ⟨p, hp, e, he, hdevice, rfl⟩)
      ((hmem _ _).mpr ⟨q, hq, f, hf, rfl, rfl⟩)
  · intro h d b b' hb hb'
    obtain ⟨p, hp, e, he, rfl, rfl⟩ := (hmem d b).mp hb
    obtain ⟨q, hq, f, hf, hdevice, rfl⟩ := (hmem _ b').mp hb'
    exact h p hp e he q hq f hf hdevice.symm

end Scan

variable {payloads : List Declaration}

lemma sound_scan_iff : Sound (payloads.foldl GraphScan.declaration {}) ↔
    (payloads.map Declaration.pathKey).Nodup ∧ (payloads.map Declaration.preferenceKey).Nodup ∧
      (∀ p ∈ payloads, ∀ e ∈ p.endpoints, ∀ q ∈ payloads, ∀ f ∈ q.endpoints,
        e.deviceId = f.deviceId → e.role = f.role) ∧
      ∀ p ∈ payloads, ∀ e ∈ p.endpoints, ∀ q ∈ payloads, ∀ f ∈ q.endpoints,
        e.deviceId = f.deviceId → e.popSiteId = f.popSiteId := by
  obtain ⟨hkeys, hpreferences, hroles, hsites⟩ := foldl_declaration_lists payloads {}
  simp only [List.append_nil] at hkeys hpreferences hroles hsites
  rw [← consistent_endpoints, ← consistent_endpoints, ← hroles, ← hsites,
    ← List.nodup_reverse (l := payloads.map Declaration.pathKey), ← hkeys,
    ← List.nodup_reverse (l := payloads.map Declaration.preferenceKey), ← hpreferences]
  exact ⟨fun h => ⟨h.pathKeys, h.preferences, h.roles, h.sites⟩,
    fun h => ⟨h.1, h.2.1, h.2.2.1, h.2.2.2⟩⟩

lemma no_cycle_reported (h : ∀ vrfName, Acyclic (Next (parents payloads vrfName))) :
    (starts payloads).filter (fun s => containsForwardingCycle payloads s.1 s.2) = [] := by
  rw [List.filter_eq_nil_iff]
  rintro ⟨x, vrfName⟩ hx
  have hquiet := (DepthFirst.forall_reports_iff
    (fun x y hy => (mem_devices_of_mem_parents hy).2)
    (fun x hx => mem_devices_of_mem_startsIn hx) (fun x hx => by
      obtain ⟨y, hy⟩ := List.exists_mem_of_ne_nil _ hx
      exact mem_startsIn_of_parents hy)).mpr (h vrfName) x (mem_startsIn.mpr hx)
  rw [containsForwardingCycle, hquiet]
  exact Bool.false_ne_true

/-- **The scan and the search report nothing exactly if the declarations are in order.** -/
theorem graphErrors_eq_empty_iff : graphErrors payloads = ∅ ↔ Valid payloads := by
  have hscan : (payloads.foldl GraphScan.declaration {}).errors = [] ↔
      Sound (payloads.foldl GraphScan.declaration {}) :=
    scans_declaration.foldl.reports {} payloads ⟨.nil, .nil, nofun, nofun⟩ rfl
  constructor
  · intro h
    have hnone : (payloads.foldl GraphScan.declaration {}).errors = [] := by
      rw [graphErrors, List.toFinset_eq_empty_iff, List.append_eq_nil_iff] at h
      exact h.1
    obtain ⟨hkeys, hpreferences, hroles, hsites⟩ := sound_scan_iff.mp (hscan.mp hnone)
    exact ⟨hkeys, hpreferences, hroles, hsites, acyclic_of_graphErrors h⟩
  · intro h
    rw [graphErrors, List.toFinset_eq_empty_iff, no_cycle_reported h.acyclic, List.map_nil,
      List.append_nil, hscan, sound_scan_iff]
    exact ⟨h.pathKeys, h.preferences, h.roles, h.sites⟩

lemma valid_nil : Valid [] where
  pathKeys := .nil
  preferences := .nil
  roles _ hp := absurd hp List.not_mem_nil
  sites _ hp := absurd hp List.not_mem_nil
  acyclic vrfName x hx := by
    obtain ⟨y, hstep, -⟩ := Relation.TransGen.head'_iff.mp hx
    obtain ⟨p, hp, -⟩ := mem_parents.mp hstep
    exact absurd hp List.not_mem_nil

lemma Valid.sublist {kept : List Declaration} (h : Valid payloads) (hsub : kept.Sublist payloads) :
    Valid kept where
  pathKeys := h.pathKeys.sublist (hsub.map _)
  preferences := h.preferences.sublist (hsub.map _)
  roles p hp e he q hq := h.roles p (hsub.subset hp) e he q (hsub.subset hq)
  sites p hp e he q hq := h.sites p (hsub.subset hp) e he q (hsub.subset hq)
  acyclic vrfName := (h.acyclic vrfName).mono fun x y hxy => by
    obtain ⟨p, hp, hedge⟩ := mem_parents.mp hxy
    exact mem_parents.mpr ⟨p, hsub.subset hp, hedge⟩

lemma Valid.perm {listed : List Declaration} (h : Valid payloads) (hperm : payloads.Perm listed) :
    Valid listed where
  pathKeys := (hperm.map _).nodup_iff.mp h.pathKeys
  preferences := (hperm.map _).nodup_iff.mp h.preferences
  roles p hp e he q hq := h.roles p (hperm.mem_iff.mpr hp) e he q (hperm.mem_iff.mpr hq)
  sites p hp e he q hq := h.sites p (hperm.mem_iff.mpr hp) e he q (hperm.mem_iff.mpr hq)
  acyclic vrfName := (h.acyclic vrfName).mono fun x y hxy => by
    obtain ⟨p, hp, hedge⟩ := mem_parents.mp hxy
    exact mem_parents.mpr ⟨p, hperm.mem_iff.mpr hp, hedge⟩

end DotmacSub.Topology
