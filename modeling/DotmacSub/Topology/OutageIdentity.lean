import DotmacSub.Topology.OutageLifecycle

/-!
# The identity of an outage

Which incident a candidate claims, whatever the order of the candidates, and what a second pass
over the same candidates does.
-/

namespace DotmacSub.Topology

open Store

section Events

variable {windows : Windows} {now : ℤ} {c : Candidate} {i : OutageIncident} {id : ℕ}
  {e : LifecycleEvent}

lemma mem_events_debounceUp {n : Noted} (h : e ∈ (debounceUp windows now n).2) :
    e ∈ n.2 ∨ e = .confirmed := by
  unfold debounceUp at h
  split_ifs at h
  · rcases List.mem_append.mp h with h | h
    · exact .inl h
    · exact .inr (List.mem_singleton.mp h)
  · exact .inl h

lemma mem_events_repointRoot {root : ℕ} (h : e ∈ (repointRoot root (i, [])).2) :
    e = .rerooted ∧ i.rootNodeId ≠ some root := by
  unfold repointRoot at h
  split_ifs at h with hsame
  · exact absurd h List.not_mem_nil
  · exact ⟨List.mem_singleton.mp h, hsame⟩

lemma mem_events_claimed (h : e ∈ (claimed windows now c i).2) :
    (e = .rerooted ∧ i.rootNodeId ≠ none ∧ i.rootNodeId ≠ some c.rootNodeId) ∨
      (e = .reopened ∧ i.status = .clearing) ∨ e = .confirmed := by
  have hfollow : ∀ n : Noted, n.1.status = i.status →
      e ∈ (if (updateClassifierSnapshot c n).1.status = .clearing
        then reopenIncident (updateClassifierSnapshot c n)
        else updateClassifierSnapshot c n).2 → e ∈ n.2 ∨ (e = .reopened ∧ i.status = .clearing) := by
    intro n hstatus he
    split_ifs at he with hclearing
    · rcases List.mem_append.mp he with he | he
      · exact .inl he
      · exact .inr ⟨List.mem_singleton.mp he, hstatus.symm.trans hclearing⟩
    · exact .inl he
  rcases mem_events_debounceUp h with h | h
  · unfold followCandidate at h
    by_cases hroot : i.rootNodeId.isSome
    · simp only [hroot, if_true] at h
      rcases hfollow _ (by unfold repointRoot; split_ifs <;> rfl) h with h | h
      · obtain ⟨he, hne⟩ := mem_events_repointRoot h
        exact .inl ⟨he, Option.isSome_iff_ne_none.mp hroot, hne⟩
      · exact .inr (.inl h)
    · simp only [hroot] at h
      rcases hfollow _ rfl h with h | h
      · exact absurd h List.not_mem_nil
      · exact .inr (.inl h)
  · exact .inr (.inr h)

lemma mem_events_opened (h : e ∈ (opened windows now c id).2) :
    e = .suspected ∨ e = .confirmed := by
  rcases mem_events_debounceUp h with h | h
  · exact .inl (List.mem_singleton.mp h)
  · exact .inr h

/-- The events of an incident that nobody claims. -/
lemma mem_events_recover (h : e ∈ (recover windows now i).2) :
    (e = .discarded ∧ i.status = .suspected) ∨ (e = .clearing ∧ i.status = .confirmed) ∨
      (e = .resolved ∧ i.status = .clearing) := by
  unfold recover at h
  split at h
  · exact .inl ⟨List.mem_singleton.mp h, ‹_›⟩
  · exact .inr (.inl ⟨List.mem_singleton.mp h, ‹_›⟩)
  · split_ifs at h
    · exact .inr (.inr ⟨List.mem_singleton.mp h, ‹_›⟩)
    · exact absurd h List.not_mem_nil
  · exact absurd h List.not_mem_nil

end Events

/-- A candidate opens a new incident if none that is left matches, and else claims an open one. -/
inductive Settled (t : Table OutageIncident) (used : List ℕ) (c : Candidate) (id : ℕ) : Prop
  | new (hnew : t.get? id = none) (hno : ∀ i, Free t used i → ¬ Matches c i)
  | old {i : OutageIncident} (hget : t.get? id = some i) (hopen : i.IsOpen)
      (hchosen : Chosen t used c i)

section Turn

variable {oldest : Oldest} {windows : Windows} {now : ℤ} {t : Table OutageIncident} {p : Pass}
  {cs before after : List Candidate} {c : Candidate} {id : ℕ} {i : OutageIncident}

lemma Chosen.mono {t' : Table OutageIncident} {used used' : List ℕ} (h : Chosen t used c i)
    (hfree : ∀ j, Free t' used' j → Free t used j) : Chosen t' used' c i := by
  cases h with
  | site hsite hfirst => exact .site hsite fun j hj => hfirst j (hfree j hj)
  | root hno hroot hfirst =>
    exact .root (fun j hj => hno j (hfree j hj)) hroot fun j hj => hfirst j (hfree j hj)
  | component hno hno' hcomponent =>
    exact .component (fun j hj => hno j (hfree j hj)) (fun j hj => hno' j (hfree j hj)) hcomponent

lemma Settled.mono {used used' : List ℕ} (h : Settled t used c id)
    (hfree : ∀ j, Free t used' j → Free t used j) : Settled t used' c id := by
  cases h with
  | new hnew hno => exact .new hnew fun j hj => hno j (hfree j hj)
  | old hget hopen hchosen => exact .old hget hopen (hchosen.mono hfree)

lemma claims_step : ∃ id, (claimCandidate oldest windows now p c).claims =
    p.claims ++ [(c.rootNodeId, id)] := by
  unfold claimCandidate
  split <;> exact ⟨_, rfl⟩

lemma claims_foldl : ∀ (cs : List Candidate) (p : Pass), ∃ rest,
    (cs.foldl (claimCandidate oldest windows now) p).claims = p.claims ++ rest
  | [], p => ⟨[], (List.append_nil _).symm⟩
  | c :: cs, p => by
    obtain ⟨rest, hrest⟩ := claims_foldl cs (claimCandidate oldest windows now p c)
    obtain ⟨id, hid⟩ := @claims_step oldest windows now p c
    exact ⟨(c.rootNodeId, id) :: rest, by
      rw [List.foldl_cons, hrest, hid, List.append_assoc]; rfl⟩

lemma claims_reconcile {input : PassInput} : (reconcileDetectedOutages input t).claims =
    (claimAll input.oldest (resolveWindows input.settings) input.now t
      input.candidates.items).claims := by
  have hkeep : ∀ (rows : List OutageIncident) (p : Pass),
      (rows.foldl (recoverIncident (resolveWindows input.settings) input.now) p).claims =
        p.claims := by
    intro rows
    induction rows with
    | nil => exact fun _ => rfl
    | cons i rows ih =>
      intro p
      rw [List.foldl_cons, ih, recoverIncident]
      split_ifs <;> rfl
  exact hkeep _ _

lemma Claiming.free_of_free {used : List ℕ} (h : Claiming windows now t cs p)
    (hused : ∀ id ∈ p.used, id ∈ used) (hfree : Free t used i) : Free p.incidents p.used i := by
  obtain ⟨hrow, hopen, hunclaimed⟩ := hfree
  have hfree : i.id ∉ p.used := fun hmem => hunclaimed (hused _ hmem)
  have hget : p.incidents.get? i.id = some i :=
    (h.kept i.id hfree).trans (Table.get?_eq_some.mpr ⟨hrow, rfl⟩)
  exact ⟨(Table.get?_eq_some.mp hget).1, hopen, hfree⟩

lemma settled_step (h : Claiming windows now t cs p) :
    ∃ id, (c.rootNodeId, id) ∈ (claimCandidate oldest windows now p c).claims ∧
      Settled t p.used c id := by
  unfold claimCandidate
  cases hfound : findOpenClassifierIncident oldest p.incidents c p.used with
  | none =>
    refine ⟨p.incidents.next, List.mem_append_right _ List.mem_cons_self, .new ?_ ?_⟩
    · rw [← h.kept _ fun hmem => lt_irrefl _ (h.below _ hmem)]
      by_contra hsome
      obtain ⟨row, hrow⟩ := Option.ne_none_iff_exists'.mp hsome
      exact lt_irrefl _ (Table.lt_next_of_get? hrow)
    · exact fun i hi => findOpen_none hfound (h.free_of_free (fun _ hmem => hmem) hi)
  | some i =>
    obtain ⟨hfree, hchosen⟩ := findOpen_some hfound
    obtain ⟨hrow, hopen, -⟩ := h.free hfree
    refine ⟨i.id, List.mem_append_right _ List.mem_cons_self, ?_⟩
    exact .old (Table.get?_eq_some.mpr ⟨hrow, rfl⟩) hopen
      (hchosen.mono fun j hj => h.free_of_free (fun _ hmem => hmem) hj)

end Turn

section Root

variable {t : Table OutageIncident} {input : PassInput} {before after : List Candidate}
  {c : Candidate} {i : OutageIncident} {id : ℕ}

def turn (input : PassInput) (t : Table OutageIncident) (before : List Candidate) : Pass :=
  claimAll input.oldest (resolveWindows input.settings) input.now t before

lemma turn_concat : turn input t (before ++ [c]) =
    claimCandidate input.oldest (resolveWindows input.settings) input.now (turn input t before) c := by
  rw [turn, claimAll, List.foldl_append]
  rfl

lemma claiming_turn : Claiming (resolveWindows input.settings) input.now t before
    (turn input t before) := claiming_claimAll before

lemma claims_turn (hitems : input.candidates.items = before ++ after) {claim : ℕ × ℕ}
    (h : claim ∈ (turn input t before).claims) :
    claim ∈ (reconcileDetectedOutages input t).claims := by
  obtain ⟨rest, hrest⟩ := @claims_foldl input.oldest (resolveWindows input.settings) input.now after
    (turn input t before)
  rw [claims_reconcile, hitems, claimAll, List.foldl_append]
  exact hrest ▸ List.mem_append_left _ h

lemma settled_turn (hitems : input.candidates.items = before ++ c :: after) :
    ∃ id, (c.rootNodeId, id) ∈ (reconcileDetectedOutages input t).claims ∧
      Settled t (turn input t before).used c id := by
  obtain ⟨id, hclaim, hsettled⟩ := @settled_step input.oldest (resolveWindows input.settings)
    input.now t _ before c claiming_turn
  rw [← turn_concat] at hclaim
  exact ⟨id, claims_turn (by rw [hitems, List.append_assoc]; rfl) hclaim, hsettled⟩

lemma settled (hc : c ∈ input.candidates.items) :
    ∃ id, (c.rootNodeId, id) ∈ (reconcileDetectedOutages input t).claims ∧
      Settled t (reconcileDetectedOutages input t).used c id := by
  obtain ⟨before, after, hitems⟩ := List.append_of_mem hc
  obtain ⟨id, hclaim, hsettled⟩ := @settled_turn t input before after c hitems
  refine ⟨id, hclaim, hsettled.mono fun i hi => ⟨hi.1, hi.2.1, fun hused => hi.2.2 ?_⟩⟩
  obtain ⟨claim, hclaim, hid⟩ := List.mem_map.mp hused
  exact List.mem_map.mpr ⟨claim, claims_turn hitems hclaim, hid⟩

lemma claim_unique {id' : ℕ} {b : ℕ} (h : (b, id) ∈ (reconcileDetectedOutages input t).claims)
    (h' : (b, id') ∈ (reconcileDetectedOutages input t).claims) : id = id' := by
  have hnodup : ((reconcileDetectedOutages input t).claims.map Prod.fst).Nodup :=
    (reconciled input t).boundaries ▸ input.candidates.keyed
  exact congrArg Prod.snd (List.inj_on_of_nodup_map hnodup h h' rfl)

lemma claim_unique' {b b' : ℕ} (h : (b, id) ∈ (reconcileDetectedOutages input t).claims)
    (h' : (b', id) ∈ (reconcileDetectedOutages input t).claims) : b = b' :=
  congrArg Prod.fst (List.inj_on_of_nodup_map (reconciled input t).nodup h h' rfl)

/-- A candidate claims an open incident rooted at its boundary, unless one before it has claimed the
incident, or it claims another one that comes first by the rules of identity. -/
lemma claims_root (hitems : input.candidates.items = before ++ c :: after) (hrow : i ∈ t.rows)
    (hopen : i.IsOpen) (hroot : RootMatch c i) :
    (c.rootNodeId, i.id) ∈ (reconcileDetectedOutages input t).claims ∨
      (∃ c' ∈ before, Matches c' i ∧
        (c'.rootNodeId, i.id) ∈ (reconcileDetectedOutages input t).claims) ∨
      ∃ j ∈ t.rows, j.IsOpen ∧ (c.rootNodeId, j.id) ∈ (reconcileDetectedOutages input t).claims ∧
        (SiteMatch c j ∨ (RootMatch c j ∧ j.startedAt ≤ i.startedAt)) := by
  have hget : t.get? i.id = some i := Table.get?_eq_some.mpr ⟨hrow, rfl⟩
  by_cases hused : i.id ∈ (turn input t before).used
  · obtain ⟨⟨b, id⟩, hclaim, hid⟩ := List.mem_map.mp hused
    obtain rfl : id = i.id := hid
    obtain ⟨c', hc', rfl, n, hclaimant, -⟩ := claiming_turn.claim _ _ hclaim
    cases hclaimant with
    | new hnew => exact absurd (hnew.symm.trans hget) (by simp)
    | old hget' _ hmatch =>
      obtain rfl := Option.mem_unique hget' hget
      exact .inr (.inl ⟨c', hc', hmatch, claims_turn hitems hclaim⟩)
  · have hfree : Free t (turn input t before).used i := ⟨hrow, hopen, hused⟩
    obtain ⟨id, hclaim, hsettled⟩ := @settled_turn t input before after c hitems
    cases hsettled with
    | new _ hno => exact absurd (.inr (.inl hroot)) (hno i hfree)
    | @old j hget hjopen hchosen =>
      obtain ⟨hjrow, rfl⟩ := Table.get?_eq_some.mp hget
      refine .inr (.inr ⟨j, hjrow, hjopen, hclaim, ?_⟩)
      cases hchosen with
      | site hsite _ => exact .inl hsite
      | root _ hroot' hfirst => exact .inr ⟨hroot', hfirst i hfree hroot⟩
      | component _ hno _ => exact absurd hroot (hno i hfree)

lemma event_of_claimed {e : LifecycleEvent}
    (hclaimed : id ∈ (reconcileDetectedOutages input t).used)
    (he : (id, e) ∈ (reconcileDetectedOutages input t).events) : e ≠ .discarded ∧ e ≠ .clearing := by
  rcases (reconciled input t).events id e he with ⟨c, -, -, n, hclaimant, he⟩ | ⟨i, hfree, rfl, -⟩
  · cases hclaimant with
    | new _ => rcases mem_events_opened he with rfl | rfl <;> simp
    | old _ _ _ => rcases mem_events_claimed he with ⟨rfl, -⟩ | ⟨rfl, -⟩ | rfl <;> simp
  · exact absurd hclaimed hfree.2.2

end Root

/-- What a claimed incident keeps of the one before the pass, or of its candidate if it is new. -/
inductive Kept (t : Table OutageIncident) (c : Candidate) (r : OutageIncident) : Prop
  | new (hnew : t.get? r.id = none) (hroot : RootMatch c r)
      (hsite : r.basestationId = c.basestationId)
  | old {i : OutageIncident} (hget : t.get? r.id = some i) (hopen : i.IsOpen)
      (hmatch : Matches c i) (hroot : r.rootNodeId = i.rootNodeId.map fun _ => c.rootNodeId)
      (hsite : r.basestationId = i.basestationId) (hstart : r.startedAt = i.startedAt)

section After

variable {t : Table OutageIncident} {input : PassInput} {c : Candidate} {i r : OutageIncident}
  {id : ℕ}

lemma kept_claimed {windows : Windows} {now : ℤ} (hget : t.get? i.id = some i) (hopen : i.IsOpen)
    (hmatch : Matches c i) : Kept t c (claimed windows now c i).1 ∧
      (claimed windows now c i).1.IsOpen ∧ (claimed windows now c i).1.status ≠ .clearing := by
  refine ⟨.old (by rw [id_claimed]; exact hget) hopen hmatch ?_ ?_ ?_, ?_⟩
  · rw [claimed_fst]
  · rw [claimed_fst]
  · rw [claimed_fst]
  · rw [claimed_fst]
    by_cases hdue : i.status = .clearing ∨ Due windows now c i
    · simp only [hdue, if_true]
      exact ⟨⟨hopen.1, .inr (.inl rfl)⟩, by simp⟩
    · simp only [hdue, if_false]
      exact ⟨hopen, fun hclearing => hdue (.inl hclearing)⟩

lemma kept_opened {windows : Windows} {now : ℤ} (hnew : t.get? id = none) :
    Kept t c (opened windows now c id).1 ∧
      (opened windows now c id).1.IsOpen ∧ (opened windows now c id).1.status ≠ .clearing := by
  rw [opened_fst]
  refine ⟨.new hnew rfl rfl, ?_⟩
  by_cases hdue : Due windows now c (openClassifierIncident now c id).1
  · simp only [hdue, if_true]
    exact ⟨⟨rfl, .inr (.inl rfl)⟩, by simp⟩
  · simp only [hdue, if_false]
    exact ⟨⟨rfl, .inl rfl⟩, by simp⟩

lemma claimed_row (hc : c ∈ input.candidates.items)
    (hclaim : (c.rootNodeId, id) ∈ (reconcileDetectedOutages input t).claims) :
    ∃ r, (reconcileDetectedOutages input t).incidents.get? id = some r ∧ Kept t c r ∧ r.IsOpen ∧
      r.status ≠ .clearing := by
  obtain ⟨c', hc', hb, n, hclaimant, hget⟩ := (reconciled input t).claim _ _ hclaim
  obtain rfl : c' = c := List.inj_on_of_nodup_map input.candidates.keyed hc' hc hb
  refine ⟨n.1, hget, ?_⟩
  cases hclaimant with
  | new hnew => exact kept_opened hnew
  | @old i hbefore hopen hmatch =>
    obtain ⟨-, rfl⟩ := Table.get?_eq_some.mp hbefore
    exact kept_claimed hbefore hopen hmatch

lemma unclaimed_row (hget : (reconcileDetectedOutages input t).incidents.get? id = some r)
    (hopen : r.IsOpen) (hfree : id ∉ (reconcileDetectedOutages input t).used) :
    ∃ i, Free t (reconcileDetectedOutages input t).used i ∧ i.rootNodeId = r.rootNodeId ∧
      i.basestationId = r.basestationId ∧ i.startedAt = r.startedAt ∧ r.status = .clearing := by
  cases fate_of_get hget with
  | opened _ hclaimed _ => exact absurd hclaimed hfree
  | claimed _ hclaimed _ _ => exact absurd hclaimed hfree
  | @recovered i _ _ hbefore hbeforeOpen hrecovery =>
    obtain ⟨hrow, rfl⟩ := Table.get?_eq_some.mp hbefore
    refine ⟨i, ⟨hrow, hbeforeOpen, hfree⟩, ?_⟩
    cases hrecovery with
    | discarded _ => simp [OutageIncident.IsOpen] at hopen
    | clearing _ => exact ⟨rfl, rfl, rfl, rfl⟩
    | resolved _ _ => simp [OutageIncident.IsOpen] at hopen
    | waiting hstatus => exact ⟨rfl, rfl, rfl, hstatus⟩
  | kept _ hclosed => exact absurd hopen hclosed

end After

/-! ## A second pass -/

/-- Nothing that two candidates, or two incidents of one age, contend for. -/
structure Distinct (t : Table OutageIncident) (cs : List Candidate) : Prop where
  /-- Two candidates stand at different sites. -/
  sites : ∀ c ∈ cs, ∀ c' ∈ cs, c.basestationId ≠ none → c'.basestationId = c.basestationId →
    c'.rootNodeId = c.rootNodeId
  /-- An open incident at the site of one candidate matches no other. -/
  rivals : ∀ c ∈ cs, ∀ c' ∈ cs, ∀ i ∈ t.rows, i.IsOpen → SiteMatch c i → Matches c' i →
    c'.rootNodeId = c.rootNodeId
  /-- Two open incidents that one candidate matches by the same rule are not equally old. -/
  ages : ∀ c ∈ cs, ∀ i ∈ t.rows, ∀ j ∈ t.rows, i.IsOpen → j.IsOpen →
    (SiteMatch c i ∧ SiteMatch c j) ∨ (RootMatch c i ∧ RootMatch c j) →
      i.startedAt = j.startedAt → i = j

section Again

variable {t : Table OutageIncident} {input again : PassInput} {c c' : Candidate}
  {i k r : OutageIncident} {id : ℕ}

lemma Kept.matches (h : Kept t c r) : SiteMatch c r ∨ RootMatch c r := by
  cases h with
  | new _ hroot _ => exact .inr hroot
  | @old i _ _ hmatch hroot hsite _ =>
    rcases hmatch with hmatch | hmatch | ⟨node, hnode, -⟩
    · exact .inl ⟨hmatch.1, hsite.trans hmatch.2⟩
    · exact .inr (by rw [RootMatch, hroot, show i.rootNodeId = _ from hmatch]; rfl)
    · exact .inr (by rw [RootMatch, hroot, Option.mem_def.mp hnode]; rfl)

lemma Distinct.site_claimed (h : Distinct t input.candidates.items)
    (hc : c ∈ input.candidates.items) (hc' : c' ∈ input.candidates.items) (hkept : Kept t c' k)
    (hsite : SiteMatch c k) : c'.rootNodeId = c.rootNodeId := by
  cases hkept with
  | new _ _ hsite' => exact h.sites c hc c' hc' hsite.1 (hsite'.symm.trans hsite.2)
  | @old i hget hopen hmatch _ hsite' _ =>
    have hrow := (Table.get?_eq_some.mp hget).1
    exact h.rivals c hc c' hc' i hrow hopen ⟨hsite.1, hsite'.symm.trans hsite.2⟩ hmatch

/-- An incident at the boundary of a candidate is not claimed by another one. -/
lemma Kept.root_claimed (hkept : Kept t c' k) (hroot : RootMatch c k) :
    c'.rootNodeId = c.rootNodeId := by
  cases hkept with
  | new _ hroot' _ => exact Option.mem_unique hroot' hroot
  | @old i _ _ _ hroot' _ _ =>
    rw [RootMatch, hroot'] at hroot
    cases hnode : i.rootNodeId with
    | none => rw [hnode] at hroot; exact nomatch hroot
    | some node => rw [hnode] at hroot; exact Option.some.inj hroot

lemma Kept.root_eq (h : Kept t c r) (hroot : r.rootNodeId ≠ none) : RootMatch c r := by
  cases h with
  | new _ hmatch _ => exact hmatch
  | @old i _ _ _ hmap _ _ =>
    cases hnode : i.rootNodeId with
    | none => exact absurd (by rw [hmap, hnode]; rfl) hroot
    | some node => rw [RootMatch, hmap, hnode]; rfl

/-- What the incident of a candidate was before the pass. -/
lemma Kept.of_get (h : Kept t c r) (hget : t.get? r.id = some i) :
    r.startedAt = i.startedAt ∧ (SiteMatch c i → SiteMatch c r) ∧ (RootMatch c i → RootMatch c r) := by
  cases h with
  | new hnew _ _ => exact absurd (hnew.symm.trans hget) (by simp)
  | old hget' _ _ hroot hsite hstart =>
    obtain rfl := Option.mem_unique hget' hget
    refine ⟨hstart, fun hmatch => ⟨hmatch.1, hsite.trans hmatch.2⟩, fun hmatch => ?_⟩
    rw [RootMatch, hroot, show _ = some _ from hmatch]
    rfl

lemma Distinct.not_unclaimed (h : Distinct t input.candidates.items)
    (hc : c ∈ input.candidates.items) {excluded : List ℕ}
    (hr : Free (reconcileDetectedOutages input t).incidents excluded r) (hkept : Kept t c r)
    (hclaim : (c.rootNodeId, r.id) ∈ (reconcileDetectedOutages input t).claims)
    (hchosen : Chosen (reconcileDetectedOutages input t).incidents excluded c k)
    (hi : Free t (reconcileDetectedOutages input t).used i) (hroot : i.rootNodeId = k.rootNodeId)
    (hsite : i.basestationId = k.basestationId) (hstart : i.startedAt = k.startedAt) : False := by
  have hmatchSite : SiteMatch c k → SiteMatch c i := fun hk => ⟨hk.1, hsite.trans hk.2⟩
  have hmatchRoot : RootMatch c k → RootMatch c i := fun hk => hroot.trans hk
  have hmatch : SiteMatch c i ∨ RootMatch c i := by
    cases hchosen with
    | site hk _ => exact .inl (hmatchSite hk)
    | root _ hk _ => exact .inr (hmatchRoot hk)
    | component hno hno' _ =>
      rcases hkept.matches with hr' | hr'
      · exact absurd hr' (hno r hr)
      · exact absurd hr' (hno' r hr)
  obtain ⟨id, hclaim', hsettled⟩ := @settled t input c hc
  obtain rfl := claim_unique hclaim' hclaim
  cases hsettled with
  | new _ hno => exact hno i hi (hmatch.imp_right .inl)
  | @old j hget hopen hbefore =>
    obtain ⟨hjrow, hjid⟩ := Table.get?_eq_some.mp hget
    obtain ⟨hstart', hsite', hroot'⟩ := hkept.of_get hget
    have hne : i ≠ j := by
      rintro rfl
      exact hi.2.2 (List.mem_map.mpr ⟨_, hclaim, hjid.symm⟩)
    cases hbefore with
    | site hj hfirst =>
      cases hchosen with
      | site hk hfirst' =>
        have hle := hfirst i hi (hmatchSite hk)
        have hle' := hfirst' r hr (hsite' hj)
        exact hne (h.ages c hc i hi.1 j hjrow hi.2.1 hopen (.inl ⟨hmatchSite hk, hj⟩) (by omega))
      | root hno _ _ => exact hno r hr (hsite' hj)
      | component hno _ _ => exact hno r hr (hsite' hj)
    | root hno hj hfirst =>
      cases hchosen with
      | site hk _ => exact hno i hi (hmatchSite hk)
      | root _ hk hfirst' =>
        have hle := hfirst i hi (hmatchRoot hk)
        have hle' := hfirst' r hr (hroot' hj)
        exact hne (h.ages c hc i hi.1 j hjrow hi.2.1 hopen (.inr ⟨hmatchRoot hk, hj⟩) (by omega))
      | component _ hno' _ => exact hno' r hr (hroot' hj)
    | component hno hno' _ => exact hmatch.elim (hno i hi) (hno' i hi)

lemma Distinct.chosen_again (h : Distinct t input.candidates.items)
    (hc : c ∈ input.candidates.items) {excluded : List ℕ}
    (hclaim : (c.rootNodeId, id) ∈ (reconcileDetectedOutages input t).claims)
    (hfree : id ∉ excluded)
    (hk : Free (reconcileDetectedOutages input t).incidents excluded k)
    (hchosen : Chosen (reconcileDetectedOutages input t).incidents excluded c k) : k.id = id := by
  obtain ⟨r, hget, hkept, hopen, -⟩ := claimed_row hc hclaim
  obtain ⟨hrow, rfl⟩ := Table.get?_eq_some.mp hget
  have hr : Free (reconcileDetectedOutages input t).incidents excluded r := ⟨hrow, hopen, hfree⟩
  have hkget : (reconcileDetectedOutages input t).incidents.get? k.id = some k :=
    Table.get?_eq_some.mpr ⟨hk.1, rfl⟩
  by_cases hused : k.id ∈ (reconcileDetectedOutages input t).used
  · obtain ⟨⟨b, id⟩, hclaim', hid⟩ := List.mem_map.mp hused
    obtain rfl : id = k.id := hid
    obtain ⟨c', hc', rfl, -⟩ := (reconciled input t).claim _ _ hclaim'
    obtain ⟨k', hget', hkept', -, -⟩ := claimed_row hc' hclaim'
    obtain rfl := Option.mem_unique hget' hkget
    have hsame : c'.rootNodeId = c.rootNodeId := by
      cases hchosen with
      | site hsite _ => exact h.site_claimed hc hc' hkept' hsite
      | root _ hroot _ => exact hkept'.root_claimed hroot
      | component hno hno' _ =>
        rcases hkept.matches with hmatch | hmatch
        · exact absurd hmatch (hno r hr)
        · exact absurd hmatch (hno' r hr)
    exact claim_unique (hsame ▸ hclaim') hclaim
  · obtain ⟨i, hi, hroot, hsite, hstart, -⟩ := unclaimed_row hkget hk.2.1 hused
    exact absurd (h.not_unclaimed hc hr hkept hclaim hchosen hi hroot hsite hstart) not_false

lemma Distinct.claims_of_first (h : Distinct t input.candidates.items)
    (hperm : again.candidates.items.Perm input.candidates.items) :
    ∀ before after, again.candidates.items = before ++ after →
      ∀ claim ∈ (turn again (reconcileDetectedOutages input t).incidents before).claims,
        claim ∈ (reconcileDetectedOutages input t).claims := by
  intro before
  induction before using List.reverseRecOn with
  | nil => exact fun after _ claim hclaim => absurd hclaim List.not_mem_nil
  | append_singleton before c ih =>
    intro after hitems claim hclaim
    rw [List.append_assoc] at hitems
    have hc : c ∈ input.candidates.items :=
      hperm.subset (hitems ▸ List.mem_append_right _ List.mem_cons_self)
    have hclaiming := @claiming_turn (reconcileDetectedOutages input t).incidents again before
    have hearlier := ih ([c] ++ after) hitems
    obtain ⟨id, hfirst, -⟩ := @settled t input c hc
    -- nobody before the candidate has claimed its incident, which is still as after the first pass
    have hfree : id ∉ (turn again (reconcileDetectedOutages input t).incidents before).used := by
      intro hused
      obtain ⟨⟨b, id'⟩, hother, hid⟩ := List.mem_map.mp hused
      obtain rfl : id' = id := hid
      obtain ⟨c', hc', rfl, -⟩ := hclaiming.claim _ _ hother
      have hkeyed := again.candidates.keyed
      rw [hitems, List.map_append, List.nodup_append] at hkeyed
      exact hkeyed.2.2 _ (List.mem_map_of_mem hc') _ (List.mem_map_of_mem List.mem_cons_self)
        (claim_unique' (hearlier _ hother) hfirst)
    rw [turn_concat, claimCandidate] at hclaim
    cases hfound : findOpenClassifierIncident again.oldest
        (turn again (reconcileDetectedOutages input t).incidents before).incidents c
        (turn again (reconcileDetectedOutages input t).incidents before).used with
    | none =>
      obtain ⟨r, hget, hkept, hopen, -⟩ := claimed_row hc hfirst
      obtain ⟨hrow, rfl⟩ := Table.get?_eq_some.mp hget
      have hr := hclaiming.free_of_free (fun _ hmem => hmem) ⟨hrow, hopen, hfree⟩
      exact absurd (hkept.matches.imp_right .inl) (findOpen_none hfound hr)
    | some k =>
      rw [hfound] at hclaim
      rcases List.mem_append.mp hclaim with hclaim | hclaim
      · exact hearlier claim hclaim
      · obtain ⟨hk, hchosen⟩ := findOpen_some hfound
        have hsame : k.id = id := h.chosen_again hc hfirst hfree (hclaiming.free hk)
          (hchosen.mono fun j hj => hclaiming.free_of_free (fun _ hmem => hmem) hj)
        rw [List.mem_singleton.mp hclaim, hsame]
        exact hfirst

/-- A second pass claims what the first one did. -/
lemma claims_again (h : Distinct t input.candidates.items)
    (hperm : again.candidates.items.Perm input.candidates.items) {claim : ℕ × ℕ}
    (hclaim : claim ∈ (reconcileDetectedOutages again
      (reconcileDetectedOutages input t).incidents).claims) :
    claim ∈ (reconcileDetectedOutages input t).claims := by
  rw [claims_reconcile] at hclaim
  exact h.claims_of_first hperm again.candidates.items [] (List.append_nil _).symm claim hclaim

lemma events_again (h : Distinct t input.candidates.items)
    (hperm : again.candidates.items.Perm input.candidates.items) {e : LifecycleEvent}
    (he : (id, e) ∈ (reconcileDetectedOutages again
      (reconcileDetectedOutages input t).incidents).events) : e = .confirmed ∨ e = .resolved := by
  rcases (reconciled again (reconcileDetectedOutages input t).incidents).events id e he with
    ⟨c, hc, hclaim, n, hclaimant, hevent⟩ | ⟨i, hfree, rfl, hevent⟩
  · obtain ⟨r, hget, hkept, -, hstatus⟩ :=
      claimed_row (hperm.subset hc) (claims_again h hperm hclaim)
    cases hclaimant with
    | new hnew => exact absurd (hnew.symm.trans hget) (by simp)
    | old hget' _ _ =>
      obtain rfl := Option.mem_unique hget' hget
      rcases mem_events_claimed hevent with ⟨-, hroot, hne⟩ | ⟨-, hclearing⟩ | rfl
      · exact absurd (hkept.root_eq hroot) hne
      · exact absurd hclearing hstatus
      · exact .inl rfl
  · have hused : i.id ∉ (reconcileDetectedOutages input t).used := by
      intro hused
      obtain ⟨⟨b, id⟩, hclaim, hid⟩ := List.mem_map.mp hused
      obtain rfl : id = i.id := hid
      have hbound : b ∈ (reconcileDetectedOutages again
          (reconcileDetectedOutages input t).incidents).claims.map Prod.fst := by
        rw [(reconciled again _).boundaries, (hperm.map _).mem_iff,
          ← (reconciled input t).boundaries]
        exact List.mem_map_of_mem hclaim
      obtain ⟨⟨b', id⟩, hagain, hb⟩ := List.mem_map.mp hbound
      obtain rfl : b' = b := hb
      obtain rfl := claim_unique (claims_again h hperm hagain) hclaim
      exact hfree.2.2 (List.mem_map_of_mem hagain)
    obtain ⟨-, -, -, -, -, hclearing⟩ :=
      unclaimed_row (Table.get?_eq_some.mpr ⟨hfree.1, rfl⟩) hfree.2.1 hused
    rcases mem_events_recover hevent with ⟨-, hother⟩ | ⟨-, hother⟩ | ⟨rfl, -⟩
    · exact absurd (hother.symm.trans hclearing) (by simp)
    · exact absurd (hother.symm.trans hclearing) (by simp)
    · exact .inr rfl

end Again

/-- Open incidents keep their identity in a pass. -/
structure IdentityStable (t : Table OutageIncident) (input : PassInput) : Prop where
  /-- A candidate claims the open incident rooted at its boundary, unless the rules of identity give
  the incident to a candidate before it, or another incident to the candidate. -/
  root : ∀ before c after, input.candidates.items = before ++ c :: after →
    ∀ i ∈ t.rows, i.IsOpen → RootMatch c i →
      (c.rootNodeId, i.id) ∈ (reconcileDetectedOutages input t).claims ∨
        (∃ c' ∈ before, Matches c' i ∧
          (c'.rootNodeId, i.id) ∈ (reconcileDetectedOutages input t).claims) ∨
        ∃ j ∈ t.rows, j.IsOpen ∧ (c.rootNodeId, j.id) ∈ (reconcileDetectedOutages input t).claims ∧
          (SiteMatch c j ∨ (RootMatch c j ∧ j.startedAt ≤ i.startedAt))
  /-- An incident is neither discarded nor cleared if a candidate claims it. -/
  followed : ∀ b id e, (b, id) ∈ (reconcileDetectedOutages input t).claims →
    (id, e) ∈ (reconcileDetectedOutages input t).events → e ≠ .discarded ∧ e ≠ .clearing
  /-- Without contention a second pass, in any order, claims the same and only confirms and
  resolves. -/
  again : Distinct t input.candidates.items → ∀ again : PassInput,
    again.candidates.items.Perm input.candidates.items →
      (∀ claim ∈ (reconcileDetectedOutages again
        (reconcileDetectedOutages input t).incidents).claims,
          claim ∈ (reconcileDetectedOutages input t).claims) ∧
      ∀ id e, (id, e) ∈ (reconcileDetectedOutages again
        (reconcileDetectedOutages input t).incidents).events → e = .confirmed ∨ e = .resolved

/-- **The identity of an outage is stable** in every pass, up to what the rules of identity say. -/
theorem identity_stable (t : Table OutageIncident) (input : PassInput) : IdentityStable t input := by
  refine ⟨fun before c after hitems i hrow hopen => claims_root hitems hrow hopen, ?_, ?_⟩
  · exact fun b id e hclaim he => event_of_claimed (List.mem_map_of_mem hclaim) he
  · intro hdistinct again hperm
    exact ⟨fun claim => claims_again hdistinct hperm, fun id e => events_again hdistinct hperm⟩

/-! ## Two outages at one site -/

def outageAt (rootNodeId basestationId : ℕ) : Candidate :=
  ⟨rootNodeId, some basestationId, 1, none, "down", {rootNodeId}, Finset.mem_singleton_self _⟩

/-- The later of two outages at one site claims the incident of the other, if it is seen first. -/
theorem sharedSite_swapped : ¬ ∀ (t : Table OutageIncident) (input : PassInput) (c : Candidate)
    (i : OutageIncident), c ∈ input.candidates.items → i ∈ t.rows → i.IsOpen → RootMatch c i →
      (c.rootNodeId, i.id) ∈ (reconcileDetectedOutages input t).claims := by
  intro hall
  have hclaims := hall
    (tableAfter Table.empty [defaultPass 0 ⟨[outageAt 1 7], by decide⟩,
      defaultPass 60000000 ⟨[outageAt 1 7, outageAt 2 7], by decide⟩])
    (defaultPass 120000000 ⟨[outageAt 2 7, outageAt 1 7], by decide⟩) (outageAt 1 7)
    ⟨0, some 1, some 7, .classifier, .suspected, 1, none, some "down", 0, some 0, none, none, none⟩
    (List.mem_cons_of_mem _ List.mem_cons_self) (by decide +kernel) (by decide +kernel) rfl
  exact absurd hclaims (by decide +kernel)

end DotmacSub.Topology
