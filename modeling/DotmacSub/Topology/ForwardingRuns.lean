import DotmacSub.Topology.ForwardingDecisions

/-!
# Every sequence of forwarding decisions

The active declarations stay in order, and a decision is applied once, after somebody else than its
proposer has approved it against the snapshot it is applied to.
-/

namespace DotmacSub.Topology

open Store Checked

def activePayloads (db : TopologyDb) : List Declaration :=
  (db.declarations.rows.filter (·.active)).map fun row => row.payload.toDeclaration

variable {readers : Readers} {digests : Digests}

/-- The digests tell apart what is compared by them: a decision from what it is previewed as, and the
snapshot it was approved against from the one it was applied to. -/
structure NoCollision (readers : Readers) (digests : Digests) (db : TopologyDb) : Prop where
  decision : ∀ row ∈ db.decisions.rows, ∀ payload existing,
    normalizePayload readers (row.evidence.payload.toRaw readers) = .ok payload →
    decisionTarget db row payload = .ok existing →
    digests.decision { row.evidence with
        payload, existingDeclarationId := existing.map ForwardingTopologyDeclaration.id } =
      digests.decision row.evidence → payload = row.evidence.payload
  snapshot : ∀ a ∈ db.approvals, ∀ entry ∈ db.applications, a.decisionId = entry.1 →
    digests.snapshot a.snapshot = digests.snapshot entry.2 → a.snapshot = entry.2

/-- Somebody else approved the decision, against the snapshot it was proposed against. -/
def ApprovedIn (digests : Digests) (approvals : List Approval) (row : ForwardingTopologyDecision) :
    Prop :=
  ∃ a ∈ approvals, a.decisionId = row.id ∧ row.reviewedBy = some a.reviewedBy ∧
    a.reviewedBy ≠ row.evidence.proposedBy ∧
    digests.snapshot a.snapshot = row.evidence.expectedTopologySha256

/-- A decision is about its path, is signed, and is reviewed before it is executed. -/
structure Decided (digests : Digests) (approvals : List Approval)
    (row : ForwardingTopologyDecision) : Prop where
  path : row.evidence.pathKey = row.evidence.payload.pathKey
  signed : row.decisionSha256 = digests.decision row.evidence
  approved : row.status ≠ .proposed → row.status ≠ .declined → ApprovedIn digests approvals row

/-- The declarations are in order, and every applied decision is logged once. -/
structure Lawful (digests : Digests) (db : TopologyDb) : Prop where
  valid : Valid (activePayloads db)
  decided : ∀ row ∈ db.decisions.rows, Decided digests db.approvals row
  once : (db.applications.map Prod.fst).Nodup
  applied : ∀ entry ∈ db.applications, ∃ row ∈ db.decisions.rows, row.id = entry.1 ∧
    row.status = .applied ∧ digests.snapshot entry.2 = row.evidence.expectedTopologySha256
  logged : ∀ row ∈ db.decisions.rows, row.status = .applied → row.id ∈ db.applications.map Prod.fst

section Snapshots

variable {db : TopologyDb} {row : ForwardingTopologyDecision} {payload : ForwardingPayload}
  {snapshot : TopologySnapshot} {action : DecisionAction}
  {existing : Option ForwardingTopologyDeclaration}

lemma ApprovedIn.mono {approvals more : List Approval} (h : ApprovedIn digests approvals row) :
    ApprovedIn digests (approvals ++ more) row := by
  obtain ⟨a, ha, hfacts⟩ := h
  exact ⟨a, List.mem_append_left _ ha, hfacts⟩

lemma Decided.mono {approvals more : List Approval} (h : Decided digests approvals row) :
    Decided digests (approvals ++ more) row :=
  ⟨h.path, h.signed, fun hproposed hdeclined => (h.approved hproposed hdeclined).mono⟩

lemma valid_of_topologySnapshot (h : topologySnapshot db payload action existing = .ok snapshot) :
    Valid (candidatePayloads db payload action existing) := by
  simp only [topologySnapshot, bind_eq_ok, ensure_eq_ok] at h
  obtain ⟨-, -, -, hnone, -⟩ := h
  exact graphErrors_eq_empty_iff.mp hnone

lemma decisionPreview_ok (hcollision : NoCollision readers digests db)
    (hrow : row ∈ db.decisions.rows) (hsigned : row.decisionSha256 = digests.decision row.evidence)
    (h : decisionPreview readers digests db row = .ok (payload, snapshot)) :
    payload = row.evidence.payload ∧
      digests.snapshot snapshot = row.evidence.expectedTopologySha256 ∧
      ∃ existing, decisionTarget db row payload = .ok existing ∧
        Valid (candidatePayloads db payload row.evidence.action existing) := by
  simp only [decisionPreview, bind_eq_ok, ensure_eq_ok, pure_eq_ok, Prod.mk.injEq] at h
  obtain ⟨payload', hpayload, existing, htarget, snapshot', hsnapshot, -, hexpected, -, hdigest, rfl,
    rfl⟩ := h
  rw [hsigned, hexpected] at hdigest
  exact ⟨hcollision.decision row hrow _ existing hpayload htarget hdigest, hexpected, existing,
    htarget, valid_of_topologySnapshot hsnapshot⟩

lemma candidatePayloads_declare :
    (candidatePayloads db payload .declare none).Perm
      (activePayloads db ++ [payload.toDeclaration]) := by
  have hkept : (activeDeclarations db).filter (fun row =>
      ∀ e ∈ (none : Option ForwardingTopologyDeclaration), row.id ≠ e.id) = activeDeclarations db :=
    List.filter_eq_self.mpr fun row _ => by simp
  simp only [candidatePayloads, hkept]
  exact ((List.perm_insertionSort _ _).map _).append_right _

/-- Rows that leave the active ones leave fewer payloads. -/
lemma active_sublist {f : ForwardingTopologyDeclaration → ForwardingTopologyDeclaration}
    (hf : ∀ r, (f r).active = true → f r = r) : ∀ rows : List ForwardingTopologyDeclaration,
    (((rows.map f).filter (·.active)).map fun r => r.payload.toDeclaration).Sublist
      ((rows.filter (·.active)).map fun r => r.payload.toDeclaration)
  | [] => .slnil
  | r :: rows => by
    have ih := active_sublist hf rows
    rw [List.map_cons, List.filter_cons, List.filter_cons]
    by_cases hr : (f r).active = true
    · have hsame : f r = r := hf r hr
      rw [hsame] at hr ⊢
      rw [if_pos hr, if_pos hr]
      exact ih.cons_cons _
    · rw [if_neg hr]
      split_ifs
      · exact ih.cons _
      · exact ih

end Snapshots

section Commands

variable {db db' : TopologyDb} {row : ForwardingTopologyDecision} {c : TopologyCommand}

lemma Lawful.initial (inventory : Inventory) : Lawful digests (.initial inventory) where
  valid := valid_nil
  decided _ hrow := absurd hrow List.not_mem_nil
  once := .nil
  applied _ hentry := absurd hentry List.not_mem_nil
  logged _ hrow := absurd hrow List.not_mem_nil

section Moves

variable {f : ForwardingTopologyDecision → ForwardingTopologyDecision}
  {hid : ∀ r, Row.id (f r) = Row.id r} {approvals : List Approval}
  {applications : List (ℕ × TopologySnapshot)}

lemma mem_moved (hrow : row ∈ db.decisions.rows) {r : ForwardingTopologyDecision} :
    r ∈ (db.decisions.update row.id f hid).rows ↔
      (r ∈ db.decisions.rows ∧ r.id ≠ row.id) ∨ r = f row := by
  rw [Table.mem_update]
  refine or_congr Iff.rfl ⟨?_, ?_⟩
  · rintro ⟨s, hs, hsid, rfl⟩
    rw [Table.eq_of_id_eq hs hrow hsid]
  · rintro rfl
    exact ⟨row, hrow, rfl, rfl⟩

lemma Lawful.not_logged (h : Lawful digests db) (hrow : row ∈ db.decisions.rows)
    (hnot : row.status ≠ .applied) {entry : ℕ × TopologySnapshot} (hentry : entry ∈ db.applications) :
    entry.1 ≠ row.id := by
  intro hsame
  obtain ⟨r, hr, hrid, happlied, -⟩ := h.applied entry hentry
  rw [Table.eq_of_id_eq hr hrow (hrid.trans hsame)] at happlied
  exact hnot happlied

/-- A decision moves on, with what that adds to the logs. -/
structure Moves (digests : Digests) (db : TopologyDb) (row moved : ForwardingTopologyDecision)
    (approvals : List Approval) (applications : List (ℕ × TopologySnapshot)) : Prop where
  mem : row ∈ db.decisions.rows
  pending : row.status ≠ .applied
  evidence : moved.evidence = row.evidence
  signed : moved.decisionSha256 = row.decisionSha256
  approved : moved.status ≠ .proposed → moved.status ≠ .declined →
    ApprovedIn digests (db.approvals ++ approvals) moved
  log : (applications = [] ∧ moved.status ≠ .applied) ∨
    ∃ snapshot, applications = [(row.id, snapshot)] ∧ moved.status = .applied ∧
      digests.snapshot snapshot = row.evidence.expectedTopologySha256

lemma Moves.once (hmoves : Moves digests db row (f row) approvals applications)
    (h : Lawful digests db) : ((db.applications ++ applications).map Prod.fst).Nodup := by
  rw [List.map_append]
  rcases hmoves.log with ⟨rfl, -⟩ | ⟨snapshot, rfl, -⟩
  · simpa using h.once
  · refine List.nodup_append.mpr ⟨h.once, List.nodup_singleton _, fun a ha b hb => ?_⟩
    obtain ⟨entry, hentry, rfl⟩ := List.mem_map.mp ha
    rw [List.mem_singleton.mp hb]
    exact h.not_logged hmoves.mem hmoves.pending hentry

lemma Lawful.move (h : Lawful digests db) (row : ForwardingTopologyDecision)
    (f : ForwardingTopologyDecision → ForwardingTopologyDecision)
    (hid : ∀ r, Row.id (f r) = Row.id r) (approvals : List Approval)
    (applications : List (ℕ × TopologySnapshot))
    (hmoves : Moves digests db row (f row) approvals applications)
    (hdecisions : db'.decisions = db.decisions.update row.id f hid)
    (happrovals : db'.approvals = db.approvals ++ approvals)
    (happlications : db'.applications = db.applications ++ applications)
    (hvalid : Valid (activePayloads db')) : Lawful digests db' := by
  have hmem : ∀ r, r ∈ db'.decisions.rows ↔
      (r ∈ db.decisions.rows ∧ r.id ≠ row.id) ∨ r = f row := by
    intro r
    rw [hdecisions]
    exact mem_moved hmoves.mem
  have hidrow : (f row).id = row.id := hid row
  refine ⟨hvalid, fun r hr => ?_, happlications ▸ hmoves.once h, fun entry hentry => ?_,
    fun r hr happlied => ?_⟩
  · rw [happrovals]
    rcases (hmem r).mp hr with ⟨hr, -⟩ | heq
    · exact (h.decided r hr).mono
    · have hrow := h.decided row hmoves.mem
      rw [heq]
      refine ⟨?_, ?_, hmoves.approved⟩
      · rw [hmoves.evidence]
        exact hrow.path
      · rw [hmoves.signed, hmoves.evidence]
        exact hrow.signed
  · rw [happlications] at hentry
    rcases List.mem_append.mp hentry with hentry | hentry
    · obtain ⟨r, hr, hrid, hfacts⟩ := h.applied entry hentry
      have hne : r.id ≠ row.id := hrid ▸ h.not_logged hmoves.mem hmoves.pending hentry
      exact ⟨r, (hmem r).mpr (.inl ⟨hr, hne⟩), hrid, hfacts⟩
    · rcases hmoves.log with ⟨rfl, -⟩ | ⟨snapshot, rfl, happlied, hdigest⟩
      · exact absurd hentry List.not_mem_nil
      · rw [List.mem_singleton.mp hentry]
        exact ⟨f row, (hmem _).mpr (.inr rfl), hidrow, happlied, by rw [hmoves.evidence, hdigest]⟩
  · rw [happlications, List.map_append]
    rcases (hmem r).mp hr with ⟨hr, -⟩ | heq
    · exact List.mem_append_left _ (h.logged r hr happlied)
    · rcases hmoves.log with ⟨-, hnone⟩ | ⟨snapshot, rfl, -⟩
      · exact absurd (heq ▸ happlied) hnone
      · rw [heq, hidrow]
        exact List.mem_append_right _ (List.mem_singleton_self _)

end Moves

lemma confirmedDecision_ok {decisionId : PayloadValue} {expected : String}
    (h : confirmedDecision readers db decisionId expected = .ok row) : row ∈ db.decisions.rows := by
  simp only [confirmedDecision, bind_eq_ok, orRefuse_eq_ok, ensure_eq_ok, pure_eq_ok] at h
  obtain ⟨id, -, row', hget, -, -, rfl⟩ := h
  exact (Table.get?_eq_some.mp hget).1

lemma Lawful.propose (h : Lawful digests db) {expected : PayloadValue} {args : ProposalArgs}
    (hok : proposeDecision readers digests db expected args = .ok db') : Lawful digests db' := by
  simp only [proposeDecision, bind_eq_ok, ensure_eq_ok] at hok
  obtain ⟨-, -, ⟨evidence, existing⟩, hpreview, -, -, hok⟩ := hok
  cases existing with
  | some _ =>
    obtain rfl := Except.ok.inj hok
    exact h
  | none =>
    obtain rfl := Except.ok.inj hok
    have hpath : evidence.pathKey = evidence.payload.pathKey := by
      simp only [previewDecision, bind_eq_ok, pure_eq_ok, Prod.mk.injEq] at hpreview
      obtain ⟨action, -, -, -, -, -, ⟨payload, pathKey, existing⟩, htarget, -, -, -, -, -, -, rfl, -⟩ :=
        hpreview
      cases action with
      | declare =>
        simp only [proposalTarget, bind_eq_ok, pure_eq_ok, Prod.mk.injEq] at htarget
        obtain ⟨-, -, -, -, -, -, -, -, rfl, rfl, -⟩ := htarget
        rfl
      | retire =>
        simp only [proposalTarget, bind_eq_ok, orRefuse_eq_ok, pure_eq_ok, Prod.mk.injEq] at htarget
        obtain ⟨-, -, pathKey', -, row, hrow, rfl, rfl, -⟩ := htarget
        have hfound := List.find?_some hrow
        exact (of_decide_eq_true hfound).1.symm
    have hmem : ∀ r, r ∈ (db.decisions.insert (fun id =>
        ({ id, evidence, decisionSha256 := digests.decision evidence, status := .proposed
           reviewedBy := none, reviewNotes := none, executedBy := none, closedReason := none
           resultDeclarationId := none, result := none } : ForwardingTopologyDecision))
          fun _ => rfl).rows → r ∈ db.decisions.rows ∨
            (r.evidence = evidence ∧ r.decisionSha256 = digests.decision evidence ∧
              r.status = .proposed) := by
      intro r hr
      rcases List.mem_append.mp hr with hr | hr
      · exact .inl hr
      · rw [List.mem_singleton.mp hr]
        exact .inr ⟨rfl, rfl, rfl⟩
    refine ⟨h.valid, fun r hr => ?_, h.once, fun entry hentry => ?_, fun r hr happlied => ?_⟩
    · rcases hmem r hr with hr | ⟨rfl, hsigned, hstatus⟩
      · exact h.decided r hr
      · exact ⟨hpath, hsigned, fun hproposed => absurd hstatus hproposed⟩
    · obtain ⟨r, hr, hfacts⟩ := h.applied entry hentry
      exact ⟨r, List.mem_append_left _ hr, hfacts⟩
    · rcases hmem r hr with hr | ⟨-, -, hstatus⟩
      · exact h.logged r hr happlied
      · rw [hstatus] at happlied
        exact absurd happlied (by decide)

lemma reviewTarget_cases {value : PayloadValue} {field : String} {target : DecisionStatus}
    (h : choice ReviewTarget.parse value field = .ok target) :
    target = .approved ∨ target = .declined := by
  rw [choice, orRefuse_eq_ok] at h
  unfold ReviewTarget.parse at h
  split at h
  · exact .inl (Option.some.inj h).symm
  · exact .inr (Option.some.inj h).symm
  · cases h

lemma Lawful.review (h : Lawful digests db) (hcollision : NoCollision readers digests db)
    {decisionId action reviewedBy reviewNotes expected : PayloadValue}
    (hok : reviewDecision readers digests db decisionId action reviewedBy reviewNotes expected =
      .ok db') : Lawful digests db' := by
  simp only [reviewDecision, bind_eq_ok] at hok
  obtain ⟨_, -, actor, -, notes, -, target, htarget, row, hconfirmed, hok⟩ := hok
  have hrow := confirmedDecision_ok hconfirmed
  by_cases hsame : row.status = target ∧ row.reviewedBy = some actor ∧ row.reviewNotes = some notes
  · rw [if_pos hsame] at hok
    obtain rfl := Except.ok.inj hok
    exact h
  · rw [if_neg hsame] at hok
    simp only [bind_eq_ok, ensure_eq_ok, pure_eq_ok] at hok
    obtain ⟨-, hstatus, -, hother, approval, happroval, rfl⟩ := hok
    have hreviewed : target ≠ .applied ∧ (target ≠ .declined →
        ∃ snapshot, approval = [⟨row.id, actor, snapshot⟩] ∧
          digests.snapshot snapshot = row.evidence.expectedTopologySha256) := by
      rcases reviewTarget_cases htarget with rfl | rfl
      · refine ⟨by decide, fun _ => ?_⟩
        rw [reviewApproval, if_pos rfl] at happroval
        simp only [bind_eq_ok, pure_eq_ok] at happroval
        obtain ⟨⟨payload, snapshot⟩, hpreview, rfl⟩ := happroval
        exact ⟨snapshot, rfl,
          (decisionPreview_ok hcollision hrow (h.decided row hrow).signed hpreview).2.1⟩
      · exact ⟨by decide, fun hdeclined => absurd rfl hdeclined⟩
    refine h.move row _ (by intro r; rfl) approval [] ⟨hrow, ?_, rfl, rfl, ?_, .inl ⟨rfl, ?_⟩⟩ rfl rfl
      (List.append_nil _).symm h.valid
    · rw [hstatus]
      decide
    · intro _ hdeclined
      obtain ⟨snapshot, rfl, hdigest⟩ := hreviewed.2 hdeclined
      exact ⟨⟨row.id, actor, snapshot⟩, List.mem_append_right _ (List.mem_singleton_self _), rfl,
        rfl, fun heq => hother heq.symm, hdigest⟩
    · exact hreviewed.1

lemma Lawful.close (h : Lawful digests db) (hrow : row ∈ db.decisions.rows)
    (happroved : row.status = .approved) {actor : String} {result : DecisionResult}
    {reason : Option String} :
    Lawful digests (setResult db row actor .closed result none reason) := by
  refine h.move row _ (by intro r; rfl) [] [] ⟨hrow, ?_, rfl, rfl, fun _ _ => ?_, .inl ⟨rfl, ?_⟩⟩ rfl (List.append_nil _).symm
    (List.append_nil _).symm h.valid
  · rw [happroved]
    decide
  · exact ((h.decided row hrow).approved (by rw [happroved]; decide)
      (by rw [happroved]; decide)).mono
  · exact nofun

lemma Lawful.apply (h : Lawful digests db) (hcollision : NoCollision readers digests db)
    (hrow : row ∈ db.decisions.rows)
    (happroved : row.status = .approved) {actor : String} {now : ℤ} {payload : ForwardingPayload}
    {snapshot : TopologySnapshot}
    (hpreview : decisionPreview readers digests db row = .ok (payload, snapshot))
    (hok : applyDecision digests db row actor now payload snapshot = .ok db') :
    Lawful digests db' := by
  have hdecided := h.decided row hrow
  obtain ⟨rfl, hdigest, existing, htarget, hvalid⟩ :=
    decisionPreview_ok hcollision hrow hdecided.signed hpreview
  have hnot : row.status ≠ .applied := by
    rw [happroved]
    decide
  have happroval : ApprovedIn digests (db.approvals ++ []) row :=
    (hdecided.approved (by rw [happroved]; decide) (by rw [happroved]; decide)).mono
  cases haction : row.evidence.action with
  | declare =>
    simp only [applyDecision, haction] at hok
    split_ifs at hok with hconflict
    · obtain rfl := Except.ok.inj hok
      exact h.close hrow happroved
    · obtain rfl := Except.ok.inj hok
      refine h.move row _ (by intro r; rfl) [] [(row.id, snapshot)] ⟨hrow, hnot, rfl, rfl, fun _ _ => happroval, .inr ⟨snapshot, rfl, rfl, hdigest⟩⟩ rfl
        (List.append_nil _).symm rfl ?_
      obtain rfl : existing = none := by
        simp only [decisionTarget, haction, bind_eq_ok, pure_eq_ok] at htarget
        obtain ⟨-, -, hnone⟩ := htarget
        exact hnone.symm
      rw [haction] at hvalid
      have hactive : activePayloads (setResult { db with
            declarations := db.declarations.insert
              (newDeclaration digests row row.evidence.payload now) fun _ => rfl
            applications := db.applications ++ [(row.id, snapshot)] } row actor .applied
            ⟨"applied", none⟩ (some db.declarations.next)) =
          activePayloads db ++ [row.evidence.payload.toDeclaration] := by
        simp [activePayloads, setResult, Table.insert, newDeclaration, hdecided.path]
      rw [hactive]
      exact hvalid.perm candidatePayloads_declare
  | retire =>
    simp only [applyDecision, haction, bind_eq_ok, ensure_eq_ok, pure_eq_ok] at hok
    obtain ⟨id, -, -, -, rfl⟩ := hok
    refine h.move row _ (by intro r; rfl) [] [(row.id, snapshot)] ⟨hrow, hnot, rfl, rfl,
      fun _ _ => happroval, .inr ⟨snapshot, rfl, rfl, hdigest⟩⟩ rfl (List.append_nil _).symm rfl ?_
    refine h.valid.sublist (active_sublist (fun r hr => ?_) db.declarations.rows)
    split_ifs at hr ⊢
    rfl

lemma Lawful.execute (h : Lawful digests db) (hcollision : NoCollision readers digests db)
    {decisionId executedBy expected : PayloadValue} {now : ℤ}
    (hok : executeDecision readers digests db decisionId executedBy expected now = .ok db') :
    Lawful digests db' := by
  simp only [executeDecision, bind_eq_ok] at hok
  obtain ⟨_, -, actor, -, row, hconfirmed, hok⟩ := hok
  have hrow := confirmedDecision_ok hconfirmed
  by_cases hover : row.status = .applied ∨ row.status = .closed
  · rw [if_pos hover] at hok
    obtain rfl := Except.ok.inj hok
    exact h
  · rw [if_neg hover] at hok
    simp only [bind_eq_ok, ensure_eq_ok] at hok
    obtain ⟨-, happroved, hok⟩ := hok
    cases hpreview : decisionPreview readers digests db row with
    | error e =>
      rw [hpreview] at hok
      obtain rfl := Except.ok.inj hok
      exact h.close hrow happroved
    | ok preview =>
      rw [hpreview] at hok
      exact h.apply hcollision hrow happroved hpreview hok

/-- Every command keeps the invariant. -/
lemma Lawful.step (h : Lawful digests db) (hcollision : NoCollision readers digests db)
    (hok : step readers digests db c = .ok db') : Lawful digests db' := by
  cases c with
  | propose expected args => exact h.propose hok
  | review decisionId action reviewedBy reviewNotes expected => exact h.review hcollision hok
  | execute decisionId executedBy expected now => exact h.execute hcollision hok
  | changeInventory inventory =>
    obtain rfl := Except.ok.inj hok
    exact ⟨h.valid, h.decided, h.once, h.applied, h.logged⟩

/-- **The active declarations stay in order**, whatever is proposed, reviewed and executed; and a
decision is applied at most once, if somebody else than its proposer has approved it against the
snapshot it is applied to. -/
theorem lawful_topology_run (readers : Readers) (digests : Digests) (inventory : Inventory)
    (cs : List TopologyCommand)
    (hcollision : ∀ before after, cs = before ++ after → NoCollision readers digests
      (Run.run (Topology.step readers digests) (.initial inventory) before)) :
    let db := Run.run (Topology.step readers digests) (.initial inventory) cs
    Valid (activePayloads db) ∧
      (db.applications.map Prod.fst).Nodup ∧
      (∀ row ∈ db.decisions.rows,
        row.status = .applied ↔ row.id ∈ db.applications.map Prod.fst) ∧
      ∀ entry ∈ db.applications, ∃ row ∈ db.decisions.rows, row.id = entry.1 ∧
        ∃ a ∈ db.approvals, a.decisionId = row.id ∧ row.reviewedBy = some a.reviewedBy ∧
          a.reviewedBy ≠ row.evidence.proposedBy ∧ a.snapshot = entry.2 ∧
          digests.snapshot entry.2 = row.evidence.expectedTopologySha256 := by
  intro db
  have hguarded : Run.Guarded (Topology.step readers digests)
      (fun s _ => NoCollision readers digests s) (.initial inventory) cs :=
    (Run.guarded_iff_forall_split _ _).mpr fun before command after hsplit _ =>
      hcollision before (command :: after) hsplit
  have h : Lawful digests db := Run.invariant_guarded
    (fun _ _ _ h hcollision hok => h.step hcollision hok) cs _ (.initial inventory) hguarded
  have hlast : NoCollision readers digests db := hcollision cs [] (List.append_nil _).symm
  refine ⟨h.valid, h.once, fun row hrow => ⟨h.logged row hrow, fun hlogged => ?_⟩, fun entry hentry => ?_⟩
  · obtain ⟨entry, hentry, hentryId⟩ := List.mem_map.mp hlogged
    obtain ⟨r, hr, hrid, happlied, -⟩ := h.applied entry hentry
    rw [← Table.eq_of_id_eq hr hrow (hrid.trans hentryId)]
    exact happlied
  · obtain ⟨row, hrow, hrid, happlied, hdigest⟩ := h.applied entry hentry
    obtain ⟨a, ha, haid, hreviewed, hother, hagainst⟩ := (h.decided row hrow).approved
      (by rw [happlied]; decide) (by rw [happlied]; decide)
    exact ⟨row, hrow, hrid, a, ha, haid, hreviewed, hother,
      hlast.snapshot a ha entry hentry (haid.trans hrid) (hagainst.trans hdigest.symm), hdigest⟩

end Commands

/-! ## A declared path -/

/-- A digest of 64 hexadecimal digits that tells short texts apart. -/
def textDigest (text : String) : String :=
  let n := text.toList.foldl (fun n c => n * 257 + c.toNat) 1
  String.ofList ((List.range 64).map fun i =>
    "0123456789abcdef".toList.getD (n / 16 ^ i % 16) '0')

def textDigests : Digests where
  declaration e := textDigest (toString e.declarationId ++ e.payload.pathKey)
  snapshot s := textDigest (String.join (s.activeDeclarations.map fun d => d.payload.pathKey) ++
    s.candidatePayload.pathKey)
  decision e := textDigest (e.pathKey ++ e.proposedBy ++ e.reason ++ e.expectedTopologySha256)

def decimal (text : String) : Option ℕ :=
  if text ≠ "" ∧ text.toList.all Char.isDigit then
    some (text.toList.foldl (fun n c => n * 10 + (c.toNat - 48)) 0)
  else none

def decimalReaders : Readers where
  uuid := decimal
  uuidText := toString
  integer text := (decimal text).map (↑)
  ipAddress := some
  ipNetwork := some

def twoDevices : Inventory where
  devices := [⟨0, true, "access", some 0⟩, ⟨1, true, "core", some 0⟩]
  interfaces := [⟨0, 0, "up", "up"⟩, ⟨1, 1, "down", "up"⟩]
  sites := [⟨0, true⟩]
  nasDevices := []

def declareUplink : ProposalArgs where
  action := .text "declare"
  declaration := some [("path_key", .text "uplink"), ("path_kind", .text "internal"),
    ("downstream_device_id", .text "0"), ("downstream_interface_id", .text "0"),
    ("downstream_pop_site_id", .text "0"), ("downstream_role", .text "access"),
    ("upstream_device_id", .text "1"), ("upstream_interface_id", .text "1"),
    ("upstream_pop_site_id", .text "0"), ("upstream_role", .text "core"),
    ("configuration_owner", .text "network.routeros_sot"),
    ("configuration_intent_ref", .text "intent")]
  pathKey := .null
  reason := .text "cabling"
  proposedBy := .text "planner"

def uplinkSha256 : PayloadValue :=
  match previewDecision decimalReaders textDigests (.initial twoDevices) declareUplink with
  | .ok (evidence, _) => .text (textDigests.decision evidence)
  | .error _ => .null

def uplinkCommands : List TopologyCommand :=
  [.propose uplinkSha256 declareUplink,
    .review (.text "0") (.text "approve") (.text "reviewer") (.text "seen") uplinkSha256,
    .execute (.text "0") (.text "operator") uplinkSha256 7]

def uplinkRun (cs : List TopologyCommand) : TopologyDb :=
  Run.run (step decimalReaders textDigests) (.initial twoDevices) cs

lemma uplinkRun_spec :
    (activePayloads (uplinkRun uplinkCommands)).map Declaration.pathKey = ["uplink"] ∧
    ∀ cs ∈ uplinkCommands.inits, (∀ row ∈ (uplinkRun cs).decisions.rows, (normalizePayload
        decimalReaders (row.evidence.payload.toRaw decimalReaders)).toOption =
          some row.evidence.payload) ∧
      ∀ a ∈ (uplinkRun cs).approvals, ∀ entry ∈ (uplinkRun cs).applications,
        a.snapshot = entry.2 := by
  decide +kernel

lemma noCollision_uplink (before after : List TopologyCommand)
    (hsplit : uplinkCommands = before ++ after) :
    NoCollision decimalReaders textDigests (uplinkRun before) := by
  obtain ⟨hnormal, hsame⟩ :=
    uplinkRun_spec.2 before ((List.mem_inits _ _).mpr ⟨after, hsplit.symm⟩)
  refine ⟨fun row hrow payload existing hpayload _ _ => ?_, fun a ha entry hentry _ _ =>
    hsame a ha entry hentry⟩
  have heq := hnormal row hrow
  rw [hpayload] at heq
  exact Option.some.inj heq

/-- The path is proposed, approved by somebody else and applied. -/
theorem lawful_topology_run_uplink :
    (activePayloads (uplinkRun uplinkCommands)).map Declaration.pathKey = ["uplink"] ∧
      Valid (activePayloads (uplinkRun uplinkCommands)) ∧
      ((uplinkRun uplinkCommands).applications.map Prod.fst).Nodup :=
  have hlawful := lawful_topology_run decimalReaders textDigests twoDevices uplinkCommands
    noCollision_uplink
  ⟨uplinkRun_spec.1, hlawful.1, hlawful.2.1⟩

end DotmacSub.Topology
