import DotmacSub.Usage.AccountingReads

/-!
# Accounting sessions over histories

Histories of `radacct` with passes of the import and of the reaper in between.
-/

namespace DotmacSub.Accounting

open Store Checked Run AccountingDb

section Step

variable {env : AccountingEnv} {db db' : AccountingDb} {now now' : ℤ}
  {session : RadiusAccountingSession} {c : AccountingCommand × ℤ} {row : RadacctRow}

lemma Mirrored.map_sessions (h : Mirrored env db) {g : RadiusAccountingSession →
    RadiusAccountingSession} {hid : ∀ session, Row.id (g session) = Row.id session}
    (hkey : ∀ session, (g session).key = session.key)
    (hfollows : ∀ session ∈ db.sessions.rows, ∀ v, session.upserted env v = session →
      (g session).upserted env v = g session)
    (hended : ∀ session ∈ db.sessions.rows,
      (session.terminateCause = some reapedTerminateCause → session.sessionEnd.isSome →
        session.lastUpdateAt = none ∨ session.lastUpdateAt = session.sessionEnd) →
      (g session).terminateCause = some reapedTerminateCause → (g session).sessionEnd.isSome →
        (g session).lastUpdateAt = none ∨ (g session).lastUpdateAt = (g session).sessionEnd) :
    Mirrored env { db with sessions := db.sessions.map g hid } := by
  refine ⟨h.ids, h.names, h.current, h.ordered, ?_, fun after hafter => ?_, fun after hafter => ?_,
    fun v hv key haccount => ?_⟩
  · have hsame : RadiusAccountingSession.key ∘ g = RadiusAccountingSession.key := funext hkey
    show ((db.sessions.rows.map g).map RadiusAccountingSession.key).Nodup
    rw [List.map_map, hsame]
    exact h.keys
  · obtain ⟨session, hsession, rfl⟩ := List.mem_map.mp hafter
    obtain ⟨v, hread, hv⟩ := h.followed session hsession
    refine ⟨v, ?_, hfollows session hsession v hv⟩
    rw [AccountingDb.lastRead, hkey]
    exact hread
  · obtain ⟨session, hsession, rfl⟩ := List.mem_map.mp hafter
    exact hended session hsession (h.ended session hsession)
  · obtain ⟨session, hsession, rfl⟩ := h.held v hv key haccount
    exact ⟨g session, List.mem_map_of_mem hsession, hkey session⟩

lemma Mirrored.stamp (h : Mirrored env db) (attempted : List ℕ) :
    Mirrored env (stamp now attempted db) := by
  refine h.map_sessions (fun session => ?_) (fun session _ v hv => ?_) fun session _ hended => ?_
  · split_ifs
    · rfl
    · rfl
  · split_ifs
    · rw [RadiusAccountingSession.upserted_stamped, hv]
    · exact hv
  · split_ifs
    · exact hended
    · exact hended

/-- Whether a session is among the stale ones, it is open. -/
lemma of_mem_stale {staleAfterSeconds : ℤ} {n : ℕ} (hsession : session ∈ db.sessions.rows)
    (h : session.id ∈ ((db.stale now staleAfterSeconds).take n).map (·.id)) :
    session.sessionEnd = none := by
  obtain ⟨found, hfound, hid⟩ := List.mem_map.mp h
  have hmem := (List.perm_insertionSort _ _).mem_iff.mp (List.mem_of_mem_take hfound)
  obtain ⟨hrow, hopen⟩ := List.mem_filter.mp hmem
  obtain rfl := Table.eq_of_id_eq hrow hsession hid
  exact (of_decide_eq_true hopen).1

/-- **The reaper** closes sessions when they were seen last; their rows show nothing fresher. -/
lemma Mirrored.reap (h : Mirrored env db) (staleAfterSeconds : Option ℤ) :
    Mirrored env (db.reapStaleRadiusSessions now staleAfterSeconds) := by
  refine h.map_sessions (fun session => ?_) (fun session hsession v hv => ?_)
    fun session hsession hended => ?_
  · split_ifs
    · rfl
    · rfl
  · split_ifs with hfound
    · exact RadiusAccountingSession.upserted_of_refuses
        (RadiusAccountingSession.refuses_reaped hv (of_mem_stale hsession hfound))
    · exact hv
  · split_ifs
    · intro _ _
      show session.lastUpdateAt = none ∨ session.lastUpdateAt = some session.lastSeen
      rw [RadiusAccountingSession.lastSeen]
      cases session.lastUpdateAt with
      | none => exact .inl rfl
      | some seen => exact .inr rfl
    · exact hended

lemma mem_radacct_of_newRows {n : ℕ} (h : row ∈ db.newRows.take n) : row ∈ db.radacct := by
  have hmem := (List.perm_insertionSort _ _).mem_iff.mp (List.mem_of_mem_take h)
  exact (List.mem_filter.mp hmem).1

lemma mem_rowsOf {sessionIds usernames : List String} :
    row ∈ db.rowsOf sessionIds usernames ↔ row ∈ db.radacct ∧
      (∃ sessionId ∈ row.acctsessionid, sessionId ∈ sessionIds) ∧
        ∃ username ∈ row.username, username ∈ usernames := by
  rw [AccountingDb.rowsOf, (List.perm_insertionSort _ _).mem_iff, List.mem_filter,
    decide_eq_true_eq]

lemma Mirrored.importNewRows (h : Mirrored env db) (limit : Option ℤ) :
    Mirrored env (db.importNewRows env now limit) := by
  have hread : Mirrored env (db.readRows env now (db.newRows.take (batchSize limit))) :=
    h.readRows now _ fun row hrow => mem_radacct_of_newRows hrow
  exact ⟨hread.ids, hread.names, hread.current, hread.ordered, hread.keys, hread.followed,
    hread.ended, hread.held⟩

lemma Mirrored.refreshOpenSessions (h : Mirrored env db) :
    Mirrored env (db.refreshOpenSessions env now) :=
  (h.stamp _).readRows now _ fun _ hrow => (mem_rowsOf.mp hrow).1

lemma Mirrored.radacctInsert (h : Mirrored env db) (hok : db.radacctInsert row = .ok db') :
    Mirrored env db' := by
  simp only [AccountingDb.radacctInsert, bind_eq_ok, pure_eq_ok, ensure_eq_ok] at hok
  obtain ⟨-, hnew, rfl⟩ := hok
  have hcase : ∀ {a}, a ∈ db.radacct ++ [row] → a ∈ db.radacct ∨ a = row :=
    fun ha => (List.mem_append.mp ha).imp_right List.mem_singleton.mp
  refine ⟨?_, fun a ha b hb hname hsession => ?_, fun v hv => ?_, h.ordered, h.keys, h.followed,
    h.ended, h.held⟩
  · rw [List.map_append, List.nodup_append]
    refine ⟨h.ids, List.nodup_singleton _, fun a ha b hb heq => ?_⟩
    obtain ⟨other, hother, rfl⟩ := List.mem_map.mp ha
    obtain rfl := List.mem_singleton.mp hb
    exact (hnew other hother).1 heq
  · obtain hold | rfl := hcase ha
    · obtain hold' | rfl := hcase hb
      · exact h.names a hold b hold' hname hsession
      · exact absurd ⟨hname, hsession⟩ (hnew a hold).2
    · obtain hold' | rfl := hcase hb
      · exact absurd ⟨hname.symm, hsession.symm⟩ (hnew b hold').2
      · rfl
  · obtain ⟨other, hother, hlater⟩ := h.current v hv
    exact ⟨other, List.mem_append_left _ hother, hlater⟩

lemma Mirrored.radacctUpdate (h : Mirrored env db) (hok : db.radacctUpdate row = .ok db') :
    Mirrored env db' := by
  simp only [AccountingDb.radacctUpdate, bind_eq_ok, pure_eq_ok, ensure_eq_ok] at hok
  obtain ⟨-, ⟨before, hbefore, hlater⟩, rfl⟩ := hok
  -- A row of the new table, by the row of the old one that it is a version of.
  have hversion : ∀ a ∈ db.radacct, Later a (if a.radacctid = row.radacctid then row else a) := by
    intro a ha
    split_ifs with hid
    · obtain rfl := h.eq_of_radacctid ha hbefore (hid.trans hlater.radacctid)
      exact hlater
    · exact Later.refl a
  refine ⟨?_, fun a' ha' b' hb' hname hsession => ?_, fun v hv => ?_, h.ordered, h.keys,
    h.followed, h.ended, h.held⟩
  · rw [List.map_map]
    refine Eq.mpr (congrArg List.Nodup (List.map_congr_left fun a ha => ?_)) h.ids
    exact (hversion a ha).radacctid
  · obtain ⟨a, ha, rfl⟩ := List.mem_map.mp ha'
    obtain ⟨b, hb, rfl⟩ := List.mem_map.mp hb'
    obtain rfl : a = b := by
      refine h.names a ha b hb ?_ ?_
      · rw [← (hversion a ha).username, ← (hversion b hb).username]
        exact hname
      · rw [← (hversion a ha).acctsessionid, ← (hversion b hb).acctsessionid]
        exact hsession
    rfl
  · obtain ⟨a, ha, hlater'⟩ := h.current v hv
    exact ⟨_, List.mem_map_of_mem ha, hlater'.trans (hversion a ha)⟩

/-- **One command** keeps what every session follows. -/
theorem Mirrored.step (h : Mirrored env db) (hok : step env db c = .ok db') : Mirrored env db' := by
  obtain ⟨command, now⟩ := c
  cases command with
  | radacctInsert row => exact h.radacctInsert hok
  | radacctUpdate row => exact h.radacctUpdate hok
  | importNewRows limit =>
    obtain rfl := Except.ok.inj hok
    exact h.importNewRows limit
  | refreshOpenSessions =>
    obtain rfl := Except.ok.inj hok
    exact h.refreshOpenSessions
  | reap staleAfterSeconds =>
    obtain rfl := Except.ok.inj hok
    exact h.reap staleAfterSeconds

/-- Every session follows its row, over every history. -/
lemma mirrored_run (env : AccountingEnv) (cs : List (AccountingCommand × ℤ)) :
    Mirrored env (run (Accounting.step env) .initial cs) :=
  invariant_run (fun _ _ _ h hok => h.step hok) cs mirrored_initial

lemma stamp_session (env : AccountingEnv) (now : ℤ) (attempted : List ℕ)
    (hsession : session ∈ db.sessions.rows) :
    ∃ before ∈ (AccountingDb.stamp now attempted db).sessions.rows, before.id = session.id ∧
      before.key = session.key ∧ before.content = session.content ∧
        ∀ row, (before.upserted env row).content = (session.upserted env row).content := by
  refine ⟨_, List.mem_map_of_mem hsession, ?_⟩
  split_ifs
  · refine ⟨rfl, rfl, rfl, fun row => ?_⟩
    rw [RadiusAccountingSession.upserted_stamped]
    rfl
  · exact ⟨rfl, rfl, rfl, fun _ => rfl⟩

/-- **What one command does to one session**: nothing but a stamp, its row is read into it, or the
reaper closes it. -/
theorem step_session (h : Mirrored env db) (hok : Accounting.step env db c = .ok db') :
    ∀ session ∈ db.sessions.rows,
    ∃ after ∈ db'.sessions.rows, after.id = session.id ∧
      (after.content = session.content ∨
        (∃ row ∈ db.radacct, env.accountOf row = some session.key ∧
          after.content = (session.upserted env row).content) ∨
        session.sessionEnd = none ∧ after = session.reaped) := by
  intro session hsession
  obtain ⟨command, now⟩ := c
  cases command with
  | radacctInsert row =>
    simp only [Accounting.step, AccountingDb.radacctInsert, bind_eq_ok, pure_eq_ok,
      ensure_eq_ok] at hok
    obtain ⟨-, -, rfl⟩ := hok
    exact ⟨session, hsession, rfl, .inl rfl⟩
  | radacctUpdate row =>
    simp only [Accounting.step, AccountingDb.radacctUpdate, bind_eq_ok, pure_eq_ok,
      ensure_eq_ok] at hok
    obtain ⟨-, -, rfl⟩ := hok
    exact ⟨session, hsession, rfl, .inl rfl⟩
  | importNewRows limit =>
    obtain rfl := Except.ok.inj hok
    obtain ⟨after, hafter, hcase⟩ := readRows_session now _ db h
      (fun row hrow => mem_radacct_of_newRows hrow) session hsession
    refine ⟨after, hafter, ?_⟩
    obtain rfl | ⟨row, hrow, haccount, rfl⟩ := hcase
    · exact ⟨rfl, .inl rfl⟩
    · exact ⟨RadiusAccountingSession.id_upserted,
        .inr (.inl ⟨row, mem_radacct_of_newRows hrow, haccount, rfl⟩)⟩
  | refreshOpenSessions =>
    obtain rfl := Except.ok.inj hok
    obtain ⟨before, hbefore, hid, hkey, hcontent, hread⟩ := stamp_session env now
      (((refreshable env now db).take radiusRefreshBatch).map (·.id)) hsession
    obtain ⟨after, hafter, hcase⟩ := readRows_session now _ _ (h.stamp _)
      (fun row hrow => (mem_rowsOf.mp hrow).1) before hbefore
    refine ⟨after, hafter, ?_⟩
    obtain rfl | ⟨row, hrow, haccount, rfl⟩ := hcase
    · exact ⟨hid, .inl hcontent⟩
    · exact ⟨RadiusAccountingSession.id_upserted.trans hid,
        .inr (.inl ⟨row, (mem_rowsOf.mp hrow).1, hkey ▸ haccount, hread row⟩)⟩
  | reap staleAfterSeconds =>
    obtain rfl := Except.ok.inj hok
    refine ⟨_, List.mem_map_of_mem hsession, ?_⟩
    split_ifs with hfound
    · exact ⟨rfl, .inr (.inr ⟨of_mem_stale hsession hfound, rfl⟩)⟩
    · exact ⟨rfl, .inl rfl⟩

/-! ## A pass on an unchanged table -/

/-- Rows that the sessions follow already, and that have their sessions, change nothing. -/
lemma readRows_fixed : ∀ (rows : List RadacctRow) (db : AccountingDb), Mirrored env db →
    (∀ row ∈ rows, row ∈ db.radacct) →
    (∀ row ∈ rows, ∀ key, env.accountOf row = some key →
      ∃ session ∈ db.sessions.rows, session.key = key ∧ session.upserted env row = session) →
    (db.readRows env now rows).sessions.rows = db.sessions.rows
  | [], _, _, _, _ => rfl
  | row :: rows, db, h, hrows, hfixed => by
    have hrow := hrows row List.mem_cons_self
    have hone : (db.readRow env now row).sessions.rows = db.sessions.rows := by
      have hturned : ∀ session ∈ db.sessions.rows, turned env row session = session := by
        intro session hsession
        rw [turned]
        split_ifs with haccount
        · obtain ⟨other, hother, hkey, hread⟩ := hfixed row List.mem_cons_self _ haccount
          obtain rfl := List.inj_on_of_nodup_map h.keys hother hsession hkey
          exact hread
        · rfl
      have hbegun : begun env now db.sessions row = [] := by
        refine List.eq_nil_iff_forall_not_mem.mpr fun session hmem => ?_
        obtain ⟨haccount, -, -, hnone⟩ := of_mem_begun hmem
        obtain ⟨other, hother, hkey, -⟩ := hfixed row List.mem_cons_self _ haccount
        exact hnone other hother hkey
      rw [h.rows_readRow, hbegun, List.append_nil]
      exact (List.map_congr_left hturned).trans (List.map_id' _)
    refine (readRows_fixed rows _ (h.readRow hrow)
      (fun other hother => hrows other (List.mem_cons_of_mem _ hother)) ?_).trans hone
    rw [hone]
    exact fun other hother => hfixed other (List.mem_cons_of_mem _ hother)

lemma Mirrored.followed_readRows (h : Mirrored env db) {rows : List RadacctRow}
    (hrows : ∀ row ∈ rows, row ∈ db.radacct) (hrow : row ∈ rows) {key : ℕ × String}
    (haccount : env.accountOf row = some key) :
    ∃ session ∈ (db.readRows env now rows).sessions.rows, session.key = key ∧
      session.upserted env row = session := by
  have hread := h.readRows now rows hrows
  have hreads : (db.readRows env now rows).reads = rows.reverse ++ db.reads :=
    reads_readRows rows db
  obtain ⟨session, hsession, hkey⟩ := hread.held row
    (by rw [hreads]; exact List.mem_append_left _ (List.mem_reverse.mpr hrow)) key haccount
  refine ⟨session, hsession, hkey, ?_⟩
  obtain ⟨v, hlast, hv⟩ := hread.followed session hsession
  rw [AccountingDb.lastRead, hreads, List.find?_append, hkey] at hlast
  cases hfind : rows.reverse.find? fun row => env.accountOf row = some key with
  | none =>
    have hne := List.find?_eq_none.mp hfind row (List.mem_reverse.mpr hrow)
    exact absurd (decide_eq_true haccount) hne
  | some found =>
    rw [hfind] at hlast
    obtain rfl : found = v := Option.some.inj hlast
    have hfound : env.accountOf found = some key := by simpa using List.find?_some hfind
    have hmem := List.mem_reverse.mp (List.mem_of_find?_eq_some hfind)
    rwa [h.row_eq (hrows row hrow) (hrows found hmem) haccount hfound]

lemma Mirrored.named (h : Mirrored env db) (hsession : session ∈ db.sessions.rows) :
    text (some session.sessionId) = session.sessionId ∧
      ∀ username ∈ env.usernameOf session.accessCredentialId, text (some username) = username := by
  obtain ⟨v, hlast, -⟩ := h.followed session hsession
  have haccount : env.accountOf v = some session.key := by simpa using List.find?_some hlast
  obtain ⟨hname, hid, -⟩ := accountOf_named haccount
  refine ⟨?_, fun username husername => ?_⟩
  · have hid' : session.sessionId = text v.acctsessionid := hid
    rw [hid', text_text]
  · have hname' : env.usernameOf session.accessCredentialId = some (text v.username) := hname
    obtain rfl := Option.mem_unique hname' (Option.mem_def.mp husername)
    exact text_text

lemma mem_refreshable :
    session ∈ refreshable env now db ↔ session ∈ db.sessions.rows ∧ Refreshable now session ∧
      (env.usernameOf session.accessCredentialId).isSome := by
  rw [refreshable, (List.perm_insertionSort _ _).mem_iff, List.mem_filter, decide_eq_true_eq]

lemma mem_usernames {sessions : List RadiusAccountingSession} {username : String} :
    username ∈ usernames env sessions ↔
      (∃ session ∈ sessions, env.usernameOf session.accessCredentialId = some username) ∧
        username ≠ "" := by
  rw [usernames, List.mem_filter, List.mem_filterMap, decide_eq_true_eq]

lemma Mirrored.attempted_again (h : Mirrored env db) (session : RadiusAccountingSession)
    (hnow : now ≤ now') (hfits : (refreshable env now db).length ≤ radiusRefreshBatch)
    (hsession : session ∈ refreshable env now' (db.refreshOpenSessions env now)) :
    session.sessionId ∈ (refreshable env now db).map (·.sessionId) ∧
      ∀ username ∈ env.usernameOf session.accessCredentialId, username ≠ "" →
        username ∈ usernames env (refreshable env now db) := by
  obtain ⟨hmem, hopen, hnamed⟩ := mem_refreshable.mp hsession
  rw [AccountingDb.refreshOpenSessions, List.take_of_length_le hfits] at hmem
  obtain hold | ⟨row, hrow, haccount⟩ := session_readRows _ _ (h.stamp _)
    (fun row hrow => (mem_rowsOf.mp hrow).1) session hmem
  · obtain ⟨before, hbefore, heq⟩ := List.mem_map.mp hold
    have hcontent : before.content = session.content := by
      rw [← heq]
      split_ifs
      · rfl
      · rfl
    have hcredential : before.accessCredentialId = session.accessCredentialId :=
      (congrArg RadiusAccountingSession.accessCredentialId hcontent :)
    have hcandidate : before ∈ refreshable env now db := by
      refine mem_refreshable.mpr ⟨hbefore, ?_, hcredential ▸ hnamed⟩
      have hend : before.sessionEnd = session.sessionEnd :=
        (congrArg RadiusAccountingSession.sessionEnd hcontent :)
      have hcause : before.terminateCause = session.terminateCause :=
        (congrArg RadiusAccountingSession.terminateCause hcontent :)
      rw [Refreshable, hend, hcause]
      refine hopen.imp_right fun ⟨hreaped, ended, hended, hle⟩ => ⟨hreaped, ended, hended, ?_⟩
      omega
    refine ⟨List.mem_map.mpr ⟨before, hcandidate,
      (congrArg RadiusAccountingSession.sessionId hcontent :)⟩, fun username husername hne => ?_⟩
    exact mem_usernames.mpr ⟨⟨before, hcandidate, hcredential ▸ husername⟩, hne⟩
  · obtain ⟨-, ⟨sessionId, hid, hmemId⟩, username, hname, hmemName⟩ := mem_rowsOf.mp hrow
    obtain ⟨hnameOf, hidOf, -⟩ := accountOf_named haccount
    rw [Option.mem_def.mp hname] at hnameOf
    rw [Option.mem_def.mp hid] at hidOf
    obtain ⟨candidate, hcandidate, rfl⟩ := List.mem_map.mp hmemId
    obtain ⟨⟨other, hother, hotherName⟩, -⟩ := mem_usernames.mp hmemName
    have hsessionId : session.sessionId = candidate.sessionId :=
      hidOf.trans (h.named (mem_refreshable.mp hcandidate).1).1
    have husername : text (some username) = username :=
      (h.named (mem_refreshable.mp hother).1).2 username hotherName
    refine ⟨hsessionId ▸ hmemId, fun username' husername' _ => ?_⟩
    have heq : some (text (some username)) = some username' := hnameOf.symm.trans husername'
    rw [husername] at heq
    exact Option.some.inj heq ▸ hmemName

/-- **A refresh right after a refresh** leaves the sessions as they are. -/
lemma Mirrored.refresh_again (h : Mirrored env db) (hnow : now ≤ now')
    (hfits : (refreshable env now db).length ≤ radiusRefreshBatch) :
    ((db.refreshOpenSessions env now).refreshOpenSessions env now').sessions.rows.map
        RadiusAccountingSession.content =
      (db.refreshOpenSessions env now).sessions.rows.map RadiusAccountingSession.content := by
  have hafter : Mirrored env (db.refreshOpenSessions env now) := h.refreshOpenSessions
  have hagain := fun session => h.attempted_again session hnow hfits
  obtain ⟨db₁, hdb₁⟩ : ∃ db₁, db.refreshOpenSessions env now = db₁ := ⟨_, rfl⟩
  rw [hdb₁] at hafter hagain ⊢
  have hfollowed : ∀ row ∈ db.rowsOf ((refreshable env now db).map (·.sessionId))
      (usernames env (refreshable env now db)), ∀ key, env.accountOf row = some key →
      ∃ session ∈ db₁.sessions.rows, session.key = key ∧ session.upserted env row = session := by
    intro row hrow key haccount
    rw [← hdb₁, AccountingDb.refreshOpenSessions, List.take_of_length_le hfits]
    exact (h.stamp _).followed_readRows (fun row hrow => (mem_rowsOf.mp hrow).1) hrow haccount
  have hradacct : db₁.radacct = db.radacct := by
    rw [← hdb₁]
    exact radacct_readRows _ _
  rw [AccountingDb.refreshOpenSessions]
  refine (congrArg (List.map RadiusAccountingSession.content) (readRows_fixed _ _ (hafter.stamp _)
    (fun row hrow => (mem_rowsOf.mp hrow).1) fun row hrow key haccount => ?_)).trans ?_
  · obtain ⟨hmem, ⟨sessionId, hid, hmemId⟩, username, hname, hmemName⟩ := mem_rowsOf.mp hrow
    have hread : row ∈ db.rowsOf ((refreshable env now db).map (·.sessionId))
        (usernames env (refreshable env now db)) := by
      obtain ⟨candidate, hcandidate, rfl⟩ := List.mem_map.mp hmemId
      obtain ⟨⟨other, hother, hotherName⟩, hne⟩ := mem_usernames.mp hmemName
      refine mem_rowsOf.mpr ⟨hradacct ▸ hmem, ⟨_, hid, ?_⟩, username, hname, ?_⟩
      · exact (hagain candidate (List.mem_of_mem_take hcandidate)).1
      · exact (hagain other (List.mem_of_mem_take hother)).2 username hotherName hne
    obtain ⟨session, hsession, hkey, hfollows⟩ := hfollowed row hread key haccount
    refine ⟨_, List.mem_map_of_mem hsession, ?_⟩
    split_ifs
    · exact ⟨hkey, by rw [RadiusAccountingSession.upserted_stamped, hfollows]⟩
    · exact ⟨hkey, hfollows⟩
  · show (List.map _ db₁.sessions.rows).map RadiusAccountingSession.content = _
    rw [List.map_map]
    refine List.map_congr_left fun session _ => ?_
    show RadiusAccountingSession.content (if _ then _ else _) = _
    split_ifs
    · rfl
    · rfl

lemma newRows_importNewRows {limit : Option ℤ} (hall : db.newRows.length ≤ batchSize limit) :
    (db.importNewRows env now limit).newRows = [] := by
  have hmax : ∀ (ids : List ℕ) (start : ℕ), start ≤ ids.foldl max start ∧
      ∀ i ∈ ids, i ≤ ids.foldl max start := by
    intro ids
    induction ids with
    | nil => exact fun start => ⟨le_rfl, fun _ h => absurd h List.not_mem_nil⟩
    | cons i ids ih =>
      intro start
      obtain ⟨hstart, hids⟩ := ih (max start i)
      refine ⟨(le_max_left _ _).trans hstart, fun j hj => ?_⟩
      obtain rfl | hj := List.mem_cons.mp hj
      · exact (le_max_right _ _).trans hstart
      · exact hids j hj
  have hradacct : (db.importNewRows env now limit).radacct = db.radacct := radacct_readRows _ _
  refine List.eq_nil_iff_forall_not_mem.mpr fun row hrow => ?_
  obtain ⟨hmem, hlt⟩ := List.mem_filter.mp ((List.perm_insertionSort _ _).mem_iff.mp hrow)
  rw [decide_eq_true_eq, AccountingDb.importNewRows, List.take_of_length_le hall] at hlt
  obtain ⟨hstart, hids⟩ := hmax (db.newRows.map (·.radacctid)) db.cursor
  have hnew : row ∈ db.newRows := by
    refine (List.perm_insertionSort _ _).mem_iff.mpr (List.mem_filter.mpr ⟨hradacct ▸ hmem, ?_⟩)
    exact decide_eq_true (hstart.trans_lt hlt)
  exact absurd (hids _ (List.mem_map_of_mem hnew)) (not_le.mpr hlt)

lemma importNewRows_of_nil {limit : Option ℤ} (hnone : db.newRows = []) :
    db.importNewRows env now limit = db := by
  rw [AccountingDb.importNewRows, hnone, List.take_nil]
  rfl

/-- **A pass right after a pass** leaves the sessions as they are, if the first one left nothing. -/
lemma Mirrored.import_again (h : Mirrored env db) {limit limit' : Option ℤ} (hnow : now ≤ now')
    (hall : db.newRows.length ≤ batchSize limit)
    (hfits : (refreshable env now (db.importNewRows env now limit)).length ≤ radiusRefreshBatch) :
    ((db.importRadiusAccounting env now limit).importRadiusAccounting env now'
        limit').sessions.rows.map RadiusAccountingSession.content =
      (db.importRadiusAccounting env now limit).sessions.rows.map
        RadiusAccountingSession.content := by
  have hnone : (db.importRadiusAccounting env now limit).newRows = [] := by
    have hradacct : (db.importRadiusAccounting env now limit).radacct =
        (db.importNewRows env now limit).radacct := radacct_readRows _ _
    have hcursor : (db.importRadiusAccounting env now limit).cursor =
        (db.importNewRows env now limit).cursor := cursor_readRows _ _
    rw [AccountingDb.newRows, hradacct, hcursor]
    exact newRows_importNewRows hall
  rw [AccountingDb.importRadiusAccounting, importNewRows_of_nil hnone]
  exact (h.importNewRows limit).refresh_again hnow hfits

lemma Mirrored.stopped_stays (h : Mirrored env db) (hok : Accounting.step env db c = .ok db')
    (hsession : session ∈ db.sessions.rows) {v : RadacctRow}
    (hlast : db.lastRead env session = some v) (hstop : v.acctstoptime.isSome)
    (hunchanged : v ∈ db.radacct) :
    ∃ after ∈ db'.sessions.rows, after.id = session.id ∧ after.content = session.content := by
  obtain ⟨followed, hfollowed, hread⟩ := h.followed session hsession
  obtain rfl := Option.mem_unique hlast hfollowed
  have haccount : env.accountOf v = some session.key := by simpa using List.find?_some hlast
  obtain ⟨after, hafter, hid, hcase⟩ := step_session h hok session hsession
  refine ⟨after, hafter, hid, ?_⟩
  obtain hcontent | ⟨row, hrow, hrowAccount, hcontent⟩ | ⟨hopen, -⟩ := hcase
  · exact hcontent
  · obtain rfl := h.row_eq hunchanged hrow haccount hrowAccount
    rw [hcontent, hread]
  · rw [RadiusAccountingSession.sessionEnd_of_upserted hread hstop] at hopen
    rw [hopen] at hstop
    exact absurd hstop nofun

/-- A reaped session is reopened only by a row that shows something fresher. -/
lemma Mirrored.reopened (h : Mirrored env db) (hok : Accounting.step env db c = .ok db')
    (hsession : session ∈ db.sessions.rows) {v : RadacctRow}
    (hlast : db.lastRead env session = some v) (hstop : v.acctstoptime = none)
    (hended : session.sessionEnd.isSome) :
    (session.lastUpdateAt = none ∨ session.lastUpdateAt = session.sessionEnd) ∧
      ∃ after ∈ db'.sessions.rows, after.id = session.id ∧
        (after.sessionEnd = none → ∃ row ∈ db.radacct, env.accountOf row = some session.key ∧
          row.acctstoptime = none ∧
          ∃ observed ∈ row.observedAt, ∀ seen ∈ session.lastUpdateAt, seen < observed) := by
  obtain ⟨followed, hfollowed, hread⟩ := h.followed session hsession
  obtain rfl := Option.mem_unique hlast hfollowed
  have hcause := (RadiusAccountingSession.terminateCause_of_upserted hread hstop hended).1
  obtain ⟨after, hafter, hid, hcase⟩ := step_session h hok session hsession
  refine ⟨h.ended session hsession hcause hended, after, hafter, hid, fun hopen => ?_⟩
  obtain hcontent | ⟨row, hrow, haccount, hcontent⟩ | ⟨hopen', -⟩ := hcase
  · have hend : after.sessionEnd = session.sessionEnd :=
      (congrArg RadiusAccountingSession.sessionEnd hcontent :)
    rw [← hend, hopen] at hended
    exact absurd hended nofun
  · have hend : after.sessionEnd = (session.upserted env row).sessionEnd :=
      (congrArg RadiusAccountingSession.sessionEnd hcontent :)
    have hnot : ¬session.Refuses row := fun hrefuses => by
      rw [RadiusAccountingSession.upserted_of_refuses hrefuses, hopen] at hend
      rw [← hend] at hended
      exact absurd hended nofun
    rw [RadiusAccountingSession.upserted_of_not_refuses hnot] at hend
    have hnone : row.acctstoptime = none := hend.symm.trans hopen
    refine ⟨row, hrow, haccount, hnone, ?_⟩
    by_contra hstale
    push Not at hstale
    refine hnot ⟨hcause, hnone, fun observed hobserved => ?_⟩
    exact hstale observed hobserved
  · rw [hopen'] at hended
    exact absurd hended nofun

lemma Mirrored.closed_at (h : Mirrored env db) {read row : RadacctRow} {key : ℕ × String} {t : ℤ}
    (hread : read ∈ db.reads) (hstop : read.acctstoptime = some t)
    (haccount : env.accountOf read = some key) (hrow : row ∈ db.radacct)
    (hid : row.radacctid = read.radacctid) (hstill : row.acctstoptime = some t) :
    ∃ session ∈ db.sessions.rows, session.key = key ∧ session.sessionEnd = some t := by
  obtain ⟨session, hsession, rfl⟩ := h.held read hread key haccount
  obtain ⟨v, hlast, hfollows⟩ := h.followed session hsession
  refine ⟨session, hsession, rfl, ?_⟩
  have hvAccount : env.accountOf v = some session.key := by simpa using List.find?_some hlast
  obtain ⟨current, hcurrent, hlater⟩ := h.current v (List.mem_of_find?_eq_some hlast)
  obtain ⟨current', hcurrent', hlater'⟩ := h.current read hread
  obtain rfl : current' = row :=
    h.eq_of_radacctid hcurrent' hrow (hlater'.radacctid.trans hid.symm)
  obtain rfl : current = current' := h.row_eq hcurrent hcurrent'
    (hlater.accountOf.trans hvAccount) (hlater'.accountOf.trans haccount)
  have horder : Later read v := by
    obtain ⟨-, newer, older, hreads, hnewer⟩ := List.find?_eq_some_iff_append.mp hlast
    have hmem : read ∈ newer ++ v :: older := hreads ▸ hread
    obtain hin | hin := List.mem_append.mp hmem
    · exact absurd (decide_eq_true haccount) (by simpa using hnewer read hin)
    · obtain rfl | hin := List.mem_cons.mp hin
      · exact Later.refl _
      · have hordered := h.ordered
        rw [hreads] at hordered
        have hlate := (List.pairwise_append.mp hordered).2.1
        exact (List.pairwise_cons.mp hlate).1 read hin
          (hlater.radacctid.symm.trans hlater'.radacctid)
  have hv : v.acctstoptime = some t := horder.stop_eq hlater hstop hstill
  rw [RadiusAccountingSession.sessionEnd_of_upserted hfollows (by rw [hv]; rfl), hv]

end Step

/-- **Accounting sessions follow their rows.**  Over every history of `radacct` and every sequence
of passes: a session whose row has a Stop that a pass has read is closed at that Stop, and it is not
touched again while its row stays as it was read; a session that the reaper closed is reopened only
by an observation later than the last one it showed; and a pass that left nothing to read changes
no session when it is repeated. -/
theorem sessions_follow_radacct (env : AccountingEnv) (cs : List (AccountingCommand × ℤ)) :
    (∀ read ∈ (run (step env) .initial cs).reads, ∀ t, read.acctstoptime = some t →
      ∀ key, env.accountOf read = some key → ∀ row ∈ (run (step env) .initial cs).radacct,
        row.radacctid = read.radacctid → row.acctstoptime = some t →
          ∃ session ∈ (run (step env) .initial cs).sessions.rows,
            session.key = key ∧ session.sessionEnd = some t) ∧
    (∀ c, ∀ session ∈ (run (step env) .initial cs).sessions.rows,
      ∃ v, (run (step env) .initial cs).lastRead env session = some v ∧
        (v.acctstoptime.isSome → v ∈ (run (step env) .initial cs).radacct →
          ∃ after ∈ (run (step env) .initial (cs ++ [c])).sessions.rows,
            after.id = session.id ∧ after.content = session.content) ∧
        (v.acctstoptime = none → session.sessionEnd.isSome →
          (session.lastUpdateAt = none ∨ session.lastUpdateAt = session.sessionEnd) ∧
          ∃ after ∈ (run (step env) .initial (cs ++ [c])).sessions.rows, after.id = session.id ∧
            (after.sessionEnd = none →
              ∃ row ∈ (run (step env) .initial cs).radacct,
                env.accountOf row = some session.key ∧ row.acctstoptime = none ∧
                ∃ observed ∈ row.observedAt,
                  ∀ seen ∈ session.lastUpdateAt, seen < observed))) ∧
    ∀ (limit limit' : Option ℤ) (now now' : ℤ), now ≤ now' →
      (run (step env) .initial cs).newRows.length ≤ batchSize limit →
      (refreshable env now ((run (step env) .initial cs).importNewRows env now
        limit)).length ≤ radiusRefreshBatch →
      (((run (step env) .initial cs).importRadiusAccounting env now limit).importRadiusAccounting
          env now' limit').sessions.rows.map RadiusAccountingSession.content =
        ((run (step env) .initial cs).importRadiusAccounting env now limit).sessions.rows.map
          RadiusAccountingSession.content := by
  have h := mirrored_run env cs
  refine ⟨fun read hread t hstop key haccount row hrow hid hstill => ?_,
    fun c session hsession => ?_, fun limit limit' now now' hnow hall hfits => ?_⟩
  · exact h.closed_at hread hstop haccount hrow hid hstill
  · obtain ⟨v, hlast, hread⟩ := h.followed session hsession
    rw [run_append, run_cons, run_nil]
    cases hok : step env (run (step env) .initial cs) c with
    | error e =>
      rw [next_of_error hok]
      refine ⟨v, hlast, fun _ _ => ⟨session, hsession, rfl, rfl⟩, fun hstop hended => ?_⟩
      refine ⟨h.ended session hsession ?_ hended, session, hsession, rfl, fun hopen => ?_⟩
      · exact (RadiusAccountingSession.terminateCause_of_upserted hread hstop hended).1
      · rw [hopen] at hended
        exact absurd hended nofun
    | ok db' =>
      rw [next_of_ok hok]
      exact ⟨v, hlast, h.stopped_stays hok hsession hlast, h.reopened hok hsession hlast⟩
  · exact h.import_again hnow hall hfits

def twoCustomers : AccountingEnv where
  credentials := (Table.empty.insert (⟨·, "ada"⟩) fun _ => rfl).insert (⟨·, "bob"⟩) fun _ => rfl
  subscriptionOf _ := none
  radiusClients := []

def rowOf (radacctid : ℕ) (username acctsessionid : String) (acctstoptime : Option ℤ) :
    RadacctRow :=
  { radacctid := radacctid, acctsessionid := some acctsessionid, username := some username,
    nasipaddress := none, acctstarttime := some 1, acctupdatetime := none,
    acctstoptime := acctstoptime, acctinputoctets := none, acctoutputoctets := none,
    acctterminatecause := none, framedipaddress := none, framedipv6prefix := none,
    delegatedipv6prefix := none, nasportid := none, calledstationid := none }

/-- Two open sessions, and a stopped one that shares its username with one and its identifier with
the other. -/
def sharedIdentifier : List (AccountingCommand × ℤ) :=
  [(.radacctInsert (rowOf 1 "ada" "s1" none), 0), (.radacctInsert (rowOf 2 "bob" "s2" none), 0),
    (.radacctInsert (rowOf 3 "ada" "s2" (some 10)), 0), (.importNewRows none, 20)]

/-- A pass that reads all of them changes nothing when it is repeated. -/
theorem sessions_follow_radacct_sharedIdentifier :
    (((run (step twoCustomers) .initial sharedIdentifier).importRadiusAccounting twoCustomers 30
      none).importRadiusAccounting twoCustomers 40 none).sessions.rows.map
        RadiusAccountingSession.content =
    ((run (step twoCustomers) .initial sharedIdentifier).importRadiusAccounting twoCustomers 30
      none).sessions.rows.map RadiusAccountingSession.content :=
  (sessions_follow_radacct twoCustomers sharedIdentifier).2.2 none none 30 40 (by decide)
    (by decide +kernel) (by decide +kernel)

/-- A stopped session is touched again when its row is updated after the Stop, and a pass that did
not read all rows goes on when it is repeated. -/
theorem not_settled_sharedIdentifier :
    (¬∀ env cs c, ∀ session ∈ (run (step env) .initial cs).sessions.rows,
      ∀ v ∈ (run (step env) .initial cs).lastRead env session, v.acctstoptime.isSome →
        ∃ after ∈ (run (step env) .initial (cs ++ [c])).sessions.rows,
          after.id = session.id ∧ after.content = session.content) ∧
    ¬∀ env cs limit now,
      (((run (step env) .initial cs).importRadiusAccounting env now limit).importRadiusAccounting
          env now limit).sessions.rows.map RadiusAccountingSession.content =
        ((run (step env) .initial cs).importRadiusAccounting env now limit).sessions.rows.map
          RadiusAccountingSession.content := by
  constructor
  · intro h
    have hstopped := h twoCustomers
      (sharedIdentifier ++ [(.radacctUpdate (rowOf 3 "ada" "s2" (some 15)), 20)])
      (.refreshOpenSessions, 30)
    exact absurd hstopped (by decide +kernel)
  · intro h
    exact absurd (h twoCustomers (sharedIdentifier.take 3) (some 1) 20) (by decide +kernel)

end DotmacSub.Accounting
