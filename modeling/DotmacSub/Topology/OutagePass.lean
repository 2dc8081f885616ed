import DotmacSub.Topology.OutageReconcile

/-!
# What one reconcile pass does

Every incident after a pass, in terms of the incidents before it and of the claims of the pass.
-/

namespace DotmacSub.Topology

open Store

section Identity

variable {oldest : Oldest} {t : Table OutageIncident} {c : Candidate} {excluded : List ℕ}
  {matched : OutageIncident → Prop} [DecidablePred matched] {i : OutageIncident}

/-- The incident is open and not claimed yet. -/
def Free (t : Table OutageIncident) (excluded : List ℕ) (i : OutageIncident) : Prop :=
  i ∈ t.rows ∧ i.IsOpen ∧ i.id ∉ excluded

lemma pickOpen_some (h : pickOpen oldest t excluded matched = some i) :
    Free t excluded i ∧ matched i ∧
      ∀ j, Free t excluded j → matched j → i.startedAt ≤ j.startedAt := by
  obtain ⟨hmem, hfirst⟩ := oldest.oldest _ i h
  obtain ⟨hrow, hopen⟩ := List.mem_filter.mp hmem
  obtain ⟨hopen, hmatched, hfree⟩ := of_decide_eq_true hopen
  refine ⟨⟨hrow, hopen, hfree⟩, hmatched, fun j hj hmatched' => ?_⟩
  exact hfirst j (List.mem_filter.mpr ⟨hj.1, decide_eq_true ⟨hj.2.1, hmatched', hj.2.2⟩⟩)

lemma pickOpen_none (h : pickOpen oldest t excluded matched = none) (hfree : Free t excluded i) :
    ¬ matched i := by
  intro hmatched
  obtain ⟨hrow, hopen, hexcluded⟩ := hfree
  have hmem : i ∈ t.rows.filter fun i => i.IsOpen ∧ matched i ∧ i.id ∉ excluded :=
    List.mem_filter.mpr ⟨hrow, decide_eq_true ⟨hopen, hmatched, hexcluded⟩⟩
  have hsome := (oldest.isSome_iff _).mpr (List.ne_nil_of_mem hmem)
  rw [pickOpen] at h
  rw [h] at hsome
  exact nomatch hsome

def Matches (c : Candidate) (i : OutageIncident) : Prop :=
  SiteMatch c i ∨ RootMatch c i ∨ ComponentMatch c i

instance (c : Candidate) (i : OutageIncident) : Decidable (Matches c i) :=
  inferInstanceAs (Decidable (_ ∨ _))

/-- The first rule that a free incident satisfies decides, for the oldest one by it. -/
inductive Chosen (t : Table OutageIncident) (excluded : List ℕ) (c : Candidate)
    (i : OutageIncident) : Prop
  | site (hsite : SiteMatch c i)
      (hfirst : ∀ j, Free t excluded j → SiteMatch c j → i.startedAt ≤ j.startedAt)
  | root (hno : ∀ j, Free t excluded j → ¬ SiteMatch c j) (hroot : RootMatch c i)
      (hfirst : ∀ j, Free t excluded j → RootMatch c j → i.startedAt ≤ j.startedAt)
  | component (hno : ∀ j, Free t excluded j → ¬ SiteMatch c j)
      (hno' : ∀ j, Free t excluded j → ¬ RootMatch c j) (hcomponent : ComponentMatch c i)

lemma Chosen.matches (h : Chosen t excluded c i) : Matches c i := by
  cases h with
  | site h _ => exact .inl h
  | root _ h _ => exact .inr (.inl h)
  | component _ _ h => exact .inr (.inr h)

lemma findOpen_some (h : findOpenClassifierIncident oldest t c excluded = some i) :
    Free t excluded i ∧ Chosen t excluded c i := by
  rw [findOpenClassifierIncident] at h
  cases hsite : pickOpen oldest t excluded (SiteMatch c) with
  | some j =>
    rw [hsite, Option.some_or, Option.some_inj] at h
    obtain ⟨hfree, hmatched, hfirst⟩ := pickOpen_some hsite
    exact h ▸ ⟨hfree, .site hmatched hfirst⟩
  | none =>
    rw [hsite, Option.none_or] at h
    cases hroot : pickOpen oldest t excluded (RootMatch c) with
    | some j =>
      rw [hroot, Option.some_or, Option.some_inj] at h
      obtain ⟨hfree, hmatched, hfirst⟩ := pickOpen_some hroot
      exact h ▸ ⟨hfree, .root (fun _ => pickOpen_none hsite) hmatched hfirst⟩
    | none =>
      rw [hroot, Option.none_or] at h
      obtain ⟨hfree, hmatched, -⟩ := pickOpen_some h
      exact ⟨hfree, .component (fun _ => pickOpen_none hsite) (fun _ => pickOpen_none hroot)
        hmatched⟩

lemma findOpen_none (h : findOpenClassifierIncident oldest t c excluded = none)
    (hfree : Free t excluded i) : ¬ Matches c i := by
  rw [findOpenClassifierIncident, Option.or_eq_none_iff, Option.or_eq_none_iff] at h
  obtain ⟨hsite, hroot, hcomponent⟩ := h
  rintro (hmatched | hmatched | hmatched)
  · exact pickOpen_none hsite hfree hmatched
  · exact pickOpen_none hroot hfree hmatched
  · exact pickOpen_none hcomponent hfree hmatched

end Identity

/-- The incident a candidate leaves: a new one, or one it has claimed. -/
inductive Claimant (windows : Windows) (now : ℤ) (t : Table OutageIncident) (c : Candidate)
    (id : ℕ) : Noted → Prop
  | new (hnew : t.get? id = none) : Claimant windows now t c id (opened windows now c id)
  | old {i : OutageIncident} (hget : t.get? id = some i) (hopen : i.IsOpen) (hmatch : Matches c i) :
      Claimant windows now t c id (claimed windows now c i)

/-- What a pass over candidates has done so far. -/
structure Claiming (windows : Windows) (now : ℤ) (t : Table OutageIncident) (cs : List Candidate)
    (p : Pass) : Prop where
  next_le : t.next ≤ p.incidents.next
  boundaries : p.claims.map Prod.fst = cs.map Candidate.rootNodeId
  nodup : p.used.Nodup
  below : ∀ id ∈ p.used, id < p.incidents.next
  kept : ∀ id, id ∉ p.used → p.incidents.get? id = t.get? id
  claim : ∀ b id, (b, id) ∈ p.claims → ∃ c ∈ cs, c.rootNodeId = b ∧
    ∃ n, Claimant windows now t c id n ∧ p.incidents.get? id = some n.1
  events : ∀ id e, (id, e) ∈ p.events → ∃ c ∈ cs, (c.rootNodeId, id) ∈ p.claims ∧
    ∃ n, Claimant windows now t c id n ∧ e ∈ n.2

section Claims

variable {oldest : Oldest} {windows : Windows} {now : ℤ} {t : Table OutageIncident}
  {cs : List Candidate} {c : Candidate} {p : Pass}

lemma Claiming.free (h : Claiming windows now t cs p) {i : OutageIncident}
    (hfree : Free p.incidents p.used i) : Free t p.used i := by
  obtain ⟨hrow, hopen, hused⟩ := hfree
  have hget : t.get? i.id = some i := by
    rw [← h.kept i.id hused]
    exact Table.get?_eq_some.mpr ⟨hrow, rfl⟩
  exact ⟨(Table.get?_eq_some.mp hget).1, hopen, hused⟩

lemma Claiming.extend (h : Claiming windows now t cs p) {id : ℕ} {n : Noted}
    {incidents : Table OutageIncident} (hnext : p.incidents.next ≤ incidents.next)
    (hbelow : id < incidents.next) (hfree : id ∉ p.used) (hclaimant : Claimant windows now t c id n)
    (hget : incidents.get? id = some n.1)
    (hother : ∀ j, j ≠ id → incidents.get? j = p.incidents.get? j) :
    Claiming windows now t (cs ++ [c]) ⟨incidents, p.claims ++ [(c.rootNodeId, id)],
      p.events ++ n.2.map (id, ·)⟩ := by
  have hused : (p.claims ++ [(c.rootNodeId, id)]).map Prod.snd = p.used ++ [id] := by
    rw [List.map_append, List.map_singleton, Pass.used]
  refine ⟨h.next_le.trans hnext, ?_, ?_, ?_, ?_, ?_, ?_⟩
  · rw [List.map_append, List.map_append, h.boundaries, List.map_singleton, List.map_singleton]
  · show ((p.claims ++ _).map Prod.snd).Nodup
    rw [hused]
    exact List.nodup_append.mpr ⟨h.nodup, List.nodup_singleton id, fun a ha b hb =>
      fun heq => hfree (List.mem_singleton.mp hb ▸ heq ▸ ha)⟩
  · show ∀ j ∈ (p.claims ++ _).map Prod.snd, _
    rw [hused]
    intro j hj
    rcases List.mem_append.mp hj with hj | hj
    · exact (h.below j hj).trans_le hnext
    · exact List.mem_singleton.mp hj ▸ hbelow
  · show ∀ j, j ∉ (p.claims ++ _).map Prod.snd → _
    rw [hused]
    intro j hj
    rw [List.mem_append, List.mem_singleton, not_or] at hj
    exact (hother j hj.2).trans (h.kept j hj.1)
  · intro b j hj
    rcases List.mem_append.mp hj with hj | hj
    · obtain ⟨c', hc', hb, n', hn', hget'⟩ := h.claim b j hj
      have hne : j ≠ id := fun heq => hfree (heq ▸ List.mem_map.mpr ⟨(b, j), hj, rfl⟩)
      exact ⟨c', List.mem_append_left _ hc', hb, n', hn', (hother j hne).trans hget'⟩
    · obtain ⟨rfl, rfl⟩ := Prod.mk.inj (List.mem_singleton.mp hj)
      exact ⟨c, List.mem_append_right _ List.mem_cons_self, rfl, n, hclaimant, hget⟩
  · intro j e hj
    rcases List.mem_append.mp hj with hj | hj
    · obtain ⟨c', hc', hclaims, hrest⟩ := h.events j e hj
      exact ⟨c', List.mem_append_left _ hc', List.mem_append_left _ hclaims, hrest⟩
    · obtain ⟨e', he', heq⟩ := List.mem_map.mp hj
      obtain ⟨rfl, rfl⟩ := Prod.mk.inj heq
      exact ⟨c, List.mem_append_right _ List.mem_cons_self,
        List.mem_append_right _ List.mem_cons_self, n, hclaimant, he'⟩

lemma Claiming.step (h : Claiming windows now t cs p) :
    Claiming windows now t (cs ++ [c]) (claimCandidate oldest windows now p c) := by
  unfold claimCandidate
  split
  · have hfree : p.incidents.next ∉ p.used := fun hmem => lt_irrefl _ (h.below _ hmem)
    have hnew : t.get? p.incidents.next = none := by
      rw [← h.kept _ hfree]
      by_contra hsome
      obtain ⟨row, hrow⟩ := Option.ne_none_iff_exists'.mp hsome
      exact lt_irrefl _ (Table.lt_next_of_get? hrow)
    refine h.extend (Nat.le_succ _) (Nat.lt_succ_self _) hfree (.new hnew) ?_ ?_
    · exact Table.get?_insert_self
    · exact fun j hj => Table.get?_insert_of_ne hj
  · next i hfound =>
    obtain ⟨hfree, hchosen⟩ := findOpen_some hfound
    obtain ⟨hrow, hopen, hused⟩ := hfree
    have hget : p.incidents.get? i.id = some i := Table.get?_eq_some.mpr ⟨hrow, rfl⟩
    refine h.extend le_rfl (p.incidents.fresh i hrow) hused
      (.old ((h.kept i.id hused).symm.trans hget) hopen hchosen.matches) ?_ ?_
    · exact Table.get?_update_self hget
    · exact fun j hj => Table.get?_update_ne hj

lemma claiming_claimAll (cs : List Candidate) :
    Claiming windows now t cs (claimAll oldest windows now t cs) := by
  induction cs using List.reverseRecOn with
  | nil => exact ⟨le_rfl, rfl, List.nodup_nil, by simp [claimAll, Pass.used], fun _ _ => rfl,
      by simp [claimAll], by simp [claimAll]⟩
  | append_singleton cs c ih =>
    rw [claimAll, List.foldl_append]
    exact ih.step

end Claims

/-- What a whole pass does: claimed incidents, recovered incidents, and the rest. -/
structure Reconciled (windows : Windows) (now : ℤ) (t : Table OutageIncident)
    (cs : List Candidate) (p : Pass) : Prop where
  boundaries : p.claims.map Prod.fst = cs.map Candidate.rootNodeId
  nodup : p.used.Nodup
  claim : ∀ b id, (b, id) ∈ p.claims → ∃ c ∈ cs, c.rootNodeId = b ∧
    ∃ n, Claimant windows now t c id n ∧ p.incidents.get? id = some n.1
  recovered : ∀ i, Free t p.used i → p.incidents.get? i.id = some (recover windows now i).1
  kept : ∀ id, id ∉ p.used → (∀ i ∈ t.get? id, ¬ i.IsOpen) → p.incidents.get? id = t.get? id
  events : ∀ id e, (id, e) ∈ p.events →
    (∃ c ∈ cs, (c.rootNodeId, id) ∈ p.claims ∧ ∃ n, Claimant windows now t c id n ∧ e ∈ n.2) ∨
      ∃ i, Free t p.used i ∧ i.id = id ∧ e ∈ (recover windows now i).2

section Recover

variable {windows : Windows} {now : ℤ} {t : Table OutageIncident}

/-- An incident that nobody claims is debounced down by itself. -/
lemma recoverIncident_free {p : Pass} {i : OutageIncident} (hget : p.incidents.get? i.id = some i)
    (hused : i.id ∉ p.used) :
    ∃ q, recoverIncident windows now p i = q ∧ q.claims = p.claims ∧
      q.incidents.get? i.id = some (recover windows now i).1 ∧
      (∀ id, id ≠ i.id → q.incidents.get? id = p.incidents.get? id) ∧
      q.events = p.events ++ (recover windows now i).2.map (i.id, ·) := by
  refine ⟨_, if_neg hused, rfl, ?_, fun id hid => ?_, rfl⟩
  · exact Table.get?_update_self (h := fun _ => id_recover) hget
  · exact Table.get?_update_ne (h := fun _ => id_recover) hid

/-- The incidents of a list that nobody claims are debounced down, each by itself. -/
lemma foldl_recover : ∀ (rows : List OutageIncident) (p : Pass),
    (rows.map OutageIncident.id).Nodup →
    (∀ i ∈ rows, i.id ∉ p.used → p.incidents.get? i.id = some i) →
      let r := rows.foldl (recoverIncident windows now) p
      r.claims = p.claims ∧
      (∀ i ∈ rows, i.id ∉ p.used → r.incidents.get? i.id = some (recover windows now i).1) ∧
      (∀ id, (∀ i ∈ rows, i.id = id → id ∈ p.used) → r.incidents.get? id = p.incidents.get? id) ∧
      ∀ id e, (id, e) ∈ r.events → (id, e) ∈ p.events ∨
        ∃ i ∈ rows, i.id = id ∧ id ∉ p.used ∧ e ∈ (recover windows now i).2
  | [], p, _, _ => ⟨rfl, by simp, fun _ _ => rfl, fun _ _ h => .inl h⟩
  | i :: rows, p, hnodup, hrows => by
    obtain ⟨hfresh, hnodup⟩ := List.nodup_cons.mp hnodup
    have hapart : ∀ j ∈ rows, j.id ≠ i.id := fun j hj heq => hfresh (heq ▸ List.mem_map_of_mem hj)
    rw [List.foldl_cons]
    by_cases hused : i.id ∈ p.used
    · have hskip : recoverIncident windows now p i = p := if_pos hused
      rw [hskip]
      obtain ⟨hclaims, hrecovered, hkept, hevents⟩ := foldl_recover rows p hnodup fun j hj =>
        hrows j (List.mem_cons_of_mem i hj)
      refine ⟨hclaims, fun j hj hfree => ?_, fun id hid => ?_, fun id e he => ?_⟩
      · rcases List.mem_cons.mp hj with rfl | hj
        · exact absurd hused hfree
        · exact hrecovered j hj hfree
      · exact hkept id fun j hj => hid j (List.mem_cons_of_mem i hj)
      · rcases hevents id e he with he | ⟨j, hj, hrest⟩
        · exact .inl he
        · exact .inr ⟨j, List.mem_cons_of_mem i hj, hrest⟩
    · have hget : p.incidents.get? i.id = some i := hrows i List.mem_cons_self hused
      obtain ⟨q, hq, hqclaims, hself, hother, hqevents⟩ :=
        @recoverIncident_free windows now p i hget hused
      have hqused : q.used = p.used := congrArg (List.map Prod.snd) hqclaims
      rw [hq]
      obtain ⟨hclaims, hrecovered, hkept, hevents⟩ := foldl_recover rows q hnodup fun j hj hfree => by
        rw [hother j.id (hapart j hj)]
        exact hrows j (List.mem_cons_of_mem i hj) (hqused ▸ hfree)
      rw [hqused] at hrecovered hkept hevents
      refine ⟨hclaims.trans hqclaims, fun j hj hfree => ?_, fun id hid => ?_, fun id e he => ?_⟩
      · rcases List.mem_cons.mp hj with rfl | hj
        · exact (hkept j.id fun k hk heq => absurd heq (hapart k hk)).trans hself
        · exact hrecovered j hj hfree
      · rw [hkept id fun j hj => hid j (List.mem_cons_of_mem i hj)]
        exact hother id fun heq => hused (heq ▸ hid i List.mem_cons_self heq.symm)
      · rcases hevents id e he with he | ⟨j, hj, hrest⟩
        · rw [hqevents] at he
          rcases List.mem_append.mp he with he | he
          · exact .inl he
          · obtain ⟨e', he', heq⟩ := List.mem_map.mp he
            obtain ⟨rfl, rfl⟩ := Prod.mk.inj heq
            exact .inr ⟨i, List.mem_cons_self, rfl, hused, he'⟩
        · exact .inr ⟨j, List.mem_cons_of_mem i hj, hrest⟩

end Recover

/-- **What one pass does** to every incident. -/
theorem reconciled (input : PassInput) (t : Table OutageIncident) :
    Reconciled (resolveWindows input.settings) input.now t input.candidates.items
      (reconcileDetectedOutages input t) := by
  have hclaiming := @claiming_claimAll input.oldest (resolveWindows input.settings) input.now t
    input.candidates.items
  have hsnapshot : ∀ i, i ∈ t.rows.filter (fun i => i.IsOpen) ↔ i ∈ t.rows ∧ i.IsOpen := by
    simp
  have hnodup : ((t.rows.filter fun i => i.IsOpen).map OutageIncident.id).Nodup :=
    t.nodup.sublist (List.filter_sublist.map _)
  obtain ⟨hclaims, hrecovered, hkept, hevents⟩ := foldl_recover _ _ hnodup fun i hi hfree => by
    rw [hclaiming.kept i.id hfree]
    exact Table.get?_eq_some.mpr ⟨((hsnapshot i).mp hi).1, rfl⟩
  have hused : (reconcileDetectedOutages input t).used =
      (claimAll input.oldest (resolveWindows input.settings) input.now t
        input.candidates.items).used := congrArg (List.map Prod.snd) hclaims
  refine ⟨?_, ?_, fun b id hclaim => ?_, fun i hfree => ?_, fun id hfree hclosed => ?_,
    fun id e he => ?_⟩
  · rw [← hclaiming.boundaries]
    exact congrArg (List.map Prod.fst) hclaims
  · rw [hused]
    exact hclaiming.nodup
  · rw [show (reconcileDetectedOutages input t).claims = _ from hclaims] at hclaim
    obtain ⟨c, hc, hb, n, hn, hget⟩ := hclaiming.claim b id hclaim
    refine ⟨c, hc, hb, n, hn, (hkept id fun i _ _ => ?_).trans hget⟩
    exact List.mem_map.mpr ⟨_, hclaim, rfl⟩
  · rw [hused] at hfree
    exact hrecovered i ((hsnapshot i).mpr ⟨hfree.1, hfree.2.1⟩) hfree.2.2
  · rw [hused] at hfree
    refine (hkept id fun i hi heq => ?_).trans (hclaiming.kept id hfree)
    obtain ⟨hrow, hopen⟩ := (hsnapshot i).mp hi
    exact absurd hopen (hclosed i (Table.get?_eq_some.mpr ⟨hrow, heq⟩))
  · rw [hused]
    rcases hevents id e he with he | ⟨i, hi, rfl, hfree, he⟩
    · obtain ⟨c, hc, hclaim, hrest⟩ := hclaiming.events id e he
      refine .inl ⟨c, hc, ?_, hrest⟩
      rw [show (reconcileDetectedOutages input t).claims = _ from hclaims]
      exact hclaim
    · obtain ⟨hrow, hopen⟩ := (hsnapshot i).mp hi
      exact .inr ⟨i, ⟨hrow, hopen, hfree⟩, rfl, he⟩

end DotmacSub.Topology
