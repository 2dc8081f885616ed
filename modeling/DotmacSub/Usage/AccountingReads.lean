import DotmacSub.Core.Run
import DotmacSub.Usage.AccountingImport

/-!
# What a pass reads

Rows of `radacct` read into their sessions.
-/

namespace DotmacSub.Accounting

open Store Checked Run AccountingDb

namespace RadiusAccountingSession

variable {env : AccountingEnv} {row : RadacctRow} {session : RadiusAccountingSession}

/-- What reading a row makes of its session; reading it twice is reading it once. -/
def upserted (env : AccountingEnv) (row : RadacctRow) (session : RadiusAccountingSession) :
    RadiusAccountingSession :=
  if session.Refuses row then session else session.write env row

/-- A session without the stamp of its refresh. -/
def content (session : RadiusAccountingSession) : RadiusAccountingSession :=
  { session with refreshAttemptedAt := none }

lemma or_or_self {α : Type} (a b : Option α) : a.or (a.or b) = a.or b := by
  rw [← Option.or_assoc, Option.or_self]

lemma write_write : (session.write env row).write env row = session.write env row := by
  simp only [write, or_or_self]

lemma seen_write (env : AccountingEnv) (row : RadacctRow) (session : RadiusAccountingSession) :
    ∀ observed ∈ row.observedAt,
    ∃ seen ∈ (session.write env row).lastUpdateAt, observed ≤ seen := by
  intro observed h
  have hseen : (session.write env row).lastUpdateAt = row.observedAt.or session.lastUpdateAt := rfl
  rw [hseen, Option.mem_def.mp h]
  exact ⟨observed, rfl, le_rfl⟩

lemma upserted_of_refuses (h : session.Refuses row) : session.upserted env row = session :=
  if_pos h

lemma upserted_of_not_refuses (h : ¬session.Refuses row) :
    session.upserted env row = session.write env row := if_neg h

/-- **Reading a row twice is reading it once.** -/
lemma upserted_upserted :
    (session.upserted env row).upserted env row = session.upserted env row := by
  by_cases h : session.Refuses row
  · rw [upserted_of_refuses h, upserted_of_refuses h]
  · rw [upserted_of_not_refuses h]
    by_cases h' : (session.write env row).Refuses row
    · exact upserted_of_refuses h'
    · rw [upserted_of_not_refuses h', write_write]

@[simp] lemma id_upserted : (session.upserted env row).id = session.id := by
  unfold upserted
  split_ifs
  · rfl
  · rfl

@[simp] lemma key_upserted : (session.upserted env row).key = session.key := by
  unfold upserted
  split_ifs
  · rfl
  · rfl

lemma upserted_stamped {now : ℤ} :
    (session.stamped now).upserted env row = (session.upserted env row).stamped now := by
  by_cases h : session.Refuses row
  · have hstamped : (session.stamped now).Refuses row := h
    rw [upserted_of_refuses h, upserted_of_refuses hstamped]
  · have hstamped : ¬(session.stamped now).Refuses row := h
    rw [upserted_of_not_refuses h, upserted_of_not_refuses hstamped]
    simp only [write, stamped]

lemma sessionEnd_of_upserted (h : session.upserted env row = session)
    (hstop : row.acctstoptime.isSome) : session.sessionEnd = row.acctstoptime := by
  have hnot : ¬session.Refuses row := fun hrefuses => by
    rw [hrefuses.2.1] at hstop
    exact absurd hstop nofun
  rw [upserted_of_not_refuses hnot] at h
  exact congrArg sessionEnd h.symm

lemma terminateCause_of_upserted (h : session.upserted env row = session)
    (hstop : row.acctstoptime = none) (hended : session.sessionEnd.isSome) :
    session.Refuses row := by
  by_contra hnot
  rw [upserted_of_not_refuses hnot] at h
  have hend : row.acctstoptime = session.sessionEnd := congrArg sessionEnd h
  rw [← hend, hstop] at hended
  exact absurd hended nofun

/-- **A reaped session is left as it is** by the row it followed. -/
lemma refuses_reaped (h : session.upserted env row = session) (hopen : session.sessionEnd = none) :
    session.reaped.Refuses row := by
  by_cases hrefuses : session.Refuses row
  · exact ⟨rfl, hrefuses.2⟩
  · rw [upserted_of_not_refuses hrefuses] at h
    refine ⟨rfl, ?_, ?_⟩
    · exact (congrArg sessionEnd h).trans hopen
    · have hseen := seen_write env row session
      rw [h] at hseen
      exact hseen

end RadiusAccountingSession

section Keys

variable {env : AccountingEnv} {row other : RadacctRow}

lemma text_eq_of_accountOf {key : ℕ × String} (h : env.accountOf row = some key)
    (h' : env.accountOf other = some key) :
    text row.username = text other.username ∧
      text row.acctsessionid = text other.acctsessionid := by
  have hfound : ∀ {row : RadacctRow}, env.accountOf row = some key →
      ∃ credential ∈ env.credentials.rows, credential.username = text row.username ∧
        key = (credential.id, text row.acctsessionid) := by
    intro row h
    unfold AccountingEnv.accountOf at h
    split_ifs at h
    obtain ⟨credential, hfind, rfl⟩ := Option.map_eq_some_iff.mp h
    exact ⟨credential, List.mem_of_find?_eq_some hfind, by simpa using List.find?_some hfind, rfl⟩
  obtain ⟨credential, hmem, hname, rfl⟩ := hfound h
  obtain ⟨credential', hmem', hname', heq⟩ := hfound h'
  obtain ⟨hid, hsession⟩ := Prod.mk.inj heq
  obtain rfl := Table.eq_of_id_eq hmem hmem' hid
  exact ⟨hname.symm.trans hname', hsession⟩

lemma accountOf_named {key : ℕ × String} (h : env.accountOf row = some key) :
    env.usernameOf key.1 = some (text row.username) ∧ key.2 = text row.acctsessionid ∧
      text row.username ≠ "" := by
  unfold AccountingEnv.accountOf at h
  split_ifs at h with hempty
  obtain ⟨credential, hfind, rfl⟩ := Option.map_eq_some_iff.mp h
  have hname : credential.username = text row.username := by simpa using List.find?_some hfind
  have hget : env.credentials.get? credential.id = some credential :=
    Table.get?_eq_some.mpr ⟨List.mem_of_find?_eq_some hfind, rfl⟩
  refine ⟨?_, rfl, fun h => hempty (.inl h)⟩
  rw [AccountingEnv.usernameOf, hget, Option.map_some, hname]

lemma text_text {value : Option String} : text (some (text value)) = text value :=
  Text.strip_strip _

end Keys

section Upsert

variable {env : AccountingEnv} {now : ℤ} {sessions : Table RadiusAccountingSession}
  {row : RadacctRow}

def turned (env : AccountingEnv) (row : RadacctRow) (session : RadiusAccountingSession) :
    RadiusAccountingSession :=
  if env.accountOf row = some session.key then session.upserted env row else session

@[simp] lemma key_turned {session : RadiusAccountingSession} :
    (turned env row session).key = session.key := by
  unfold turned
  split_ifs
  · exact RadiusAccountingSession.key_upserted
  · rfl

def begun (env : AccountingEnv) (now : ℤ) (sessions : Table RadiusAccountingSession)
    (row : RadacctRow) : List RadiusAccountingSession :=
  ((env.accountOf row).filter fun key => ∀ session ∈ sessions.rows, session.key ≠ key).toList.map
    fun key => (RadiusAccountingSession.blank sessions.next key now).write env row

/-- **The sessions after a row was read**: its own one was written, or begun. -/
theorem rows_upsert (hkeys : (sessions.rows.map RadiusAccountingSession.key).Nodup) :
    (upsertAccountingRow env now sessions row).1.rows =
      sessions.rows.map (turned env row) ++ begun env now sessions row := by
  unfold upsertAccountingRow begun
  cases haccount : env.accountOf row with
  | none =>
    have hsame : sessions.rows.map (turned env row) = sessions.rows := by
      refine List.map_id'' (fun session => ?_) _
      rw [turned, haccount, if_neg nofun]
    simp [hsame]
  | some key =>
    dsimp only
    cases hfind : sessions.rows.find? (·.key = key) with
    | none =>
      have hnone : ∀ session ∈ sessions.rows, session.key ≠ key := fun session hmem => by
        simpa using List.find?_eq_none.mp hfind session hmem
      have hsame : sessions.rows.map (turned env row) = sessions.rows := by
        refine (List.map_congr_left fun session hmem => ?_).trans (List.map_id _)
        rw [turned, haccount, if_neg fun heq => hnone session hmem (Option.some.inj heq).symm]
        rfl
      rw [hsame, Option.filter_some_pos (by simpa using hnone)]
      rfl
    | some existing =>
      have hmem := List.mem_of_find?_eq_some hfind
      have hkey : existing.key = key := by simpa using List.find?_some hfind
      have hone : ∀ session ∈ sessions.rows, session.key = key ↔ session = existing :=
        fun session hsession => ⟨fun heq =>
          List.inj_on_of_nodup_map hkeys hsession hmem (heq.trans hkey.symm), fun heq => heq ▸ hkey⟩
      have hempty : (some key).filter
          (fun key => decide (∀ session ∈ sessions.rows, session.key ≠ key)) = none := by
        refine Option.filter_some_neg ?_
        simpa using ⟨existing, hmem, hkey⟩
      have hother : ∀ session ∈ sessions.rows, session ≠ existing →
          turned env row session = session := fun session hsession hne => by
        rw [turned, haccount, if_neg fun heq =>
          hne ((hone session hsession).mp (Option.some.inj heq).symm)]
      have hself : turned env row existing = existing.upserted env row := by
        rw [turned, haccount, hkey, if_pos rfl]
      rw [hempty, Option.toList_none, List.map_nil, List.append_nil]
      dsimp only
      split_ifs with hrefuses
      · refine ((List.map_congr_left fun session hsession => ?_).trans (List.map_id _)).symm
        by_cases heq : session = existing
        · rw [heq, hself, RadiusAccountingSession.upserted_of_refuses hrefuses]
          rfl
        · exact hother session hsession heq
      · refine List.map_congr_left fun session hsession => ?_
        by_cases heq : session = existing
        · rw [heq, hself, RadiusAccountingSession.upserted_of_not_refuses hrefuses]
          exact if_pos rfl
        · rw [hother session hsession heq]
          exact if_neg fun hid => heq (Table.eq_of_id_eq hsession hmem hid)

lemma of_mem_begun {session : RadiusAccountingSession}
    (h : session ∈ begun env now sessions row) :
    env.accountOf row = some session.key ∧ session.id = sessions.next ∧
      session.upserted env row = session ∧ ∀ other ∈ sessions.rows, other.key ≠ session.key := by
  obtain ⟨key, hkey, rfl⟩ := List.mem_map.mp h
  obtain ⟨haccount, hnone⟩ := Option.mem_filter_iff.mp (Option.mem_toList.mp hkey)
  refine ⟨haccount, rfl, ?_, of_decide_eq_true hnone⟩
  have hblank : ¬(RadiusAccountingSession.blank sessions.next key now).Refuses row :=
    fun hrefuses => absurd hrefuses.1 nofun
  rw [← RadiusAccountingSession.upserted_of_not_refuses hblank]
  exact RadiusAccountingSession.upserted_upserted

end Upsert

section Later

variable {a b c : RadacctRow}

lemma notBack_refl (t : Option ℤ) : notBack t t := fun x h => ⟨x, h, le_rfl⟩

lemma notBack_trans {r s t : Option ℤ} (h : notBack r s) (h' : notBack s t) : notBack r t := by
  intro x hx
  obtain ⟨y, hy, hxy⟩ := h x hx
  obtain ⟨z, hz, hyz⟩ := h' y hy
  exact ⟨z, hz, hxy.trans hyz⟩

lemma Later.refl (a : RadacctRow) : Later a a :=
  ⟨rfl, rfl, rfl, notBack_refl _, notBack_refl _, notBack_refl _⟩

lemma Later.trans (h : Later a b) (h' : Later b c) : Later a c where
  radacctid := h'.radacctid.trans h.radacctid
  username := h'.username.trans h.username
  acctsessionid := h'.acctsessionid.trans h.acctsessionid
  start := notBack_trans h.start h'.start
  update := notBack_trans h.update h'.update
  stop := notBack_trans h.stop h'.stop

lemma Later.accountOf {env : AccountingEnv} (h : Later a b) :
    env.accountOf b = env.accountOf a := by
  rw [AccountingEnv.accountOf, AccountingEnv.accountOf, h.username, h.acctsessionid]

lemma Later.stop_eq {t : ℤ} (h : Later a b) (h' : Later b c) (ha : a.acctstoptime = some t)
    (hc : c.acctstoptime = some t) : b.acctstoptime = some t := by
  obtain ⟨u, hu, htu⟩ := h.stop t ha
  obtain ⟨v, hv, huv⟩ := h'.stop u hu
  rw [Option.mem_def, hc] at hv
  obtain rfl := Option.some.inj hv
  rw [Option.mem_def.mp hu, le_antisymm huv htu]

end Later

def AccountingDb.lastRead (env : AccountingEnv) (db : AccountingDb)
    (session : RadiusAccountingSession) : Option RadacctRow :=
  db.reads.find? fun row => env.accountOf row = some session.key

/-- Every session follows the version of its row that was read last: reading that again changes
nothing, and a session that is closed without a Stop was closed when it was seen last. -/
structure Mirrored (env : AccountingEnv) (db : AccountingDb) : Prop where
  ids : (db.radacct.map RadacctRow.radacctid).Nodup
  names : ∀ a ∈ db.radacct, ∀ b ∈ db.radacct, text a.username = text b.username →
    text a.acctsessionid = text b.acctsessionid → a = b
  current : ∀ v ∈ db.reads, ∃ row ∈ db.radacct, Later v row
  ordered : db.reads.Pairwise fun newer older =>
    newer.radacctid = older.radacctid → Later older newer
  keys : (db.sessions.rows.map RadiusAccountingSession.key).Nodup
  followed : ∀ session ∈ db.sessions.rows, ∃ v, db.lastRead env session = some v ∧
    session.upserted env v = session
  ended : ∀ session ∈ db.sessions.rows, session.terminateCause = some reapedTerminateCause →
    session.sessionEnd.isSome → session.lastUpdateAt = none ∨
      session.lastUpdateAt = session.sessionEnd
  held : ∀ v ∈ db.reads, ∀ key, env.accountOf v = some key →
    ∃ session ∈ db.sessions.rows, session.key = key

variable {env : AccountingEnv} {db : AccountingDb} {now : ℤ} {row : RadacctRow}
  {rows : List RadacctRow} {session : RadiusAccountingSession}

lemma mirrored_initial : Mirrored env .initial where
  ids := List.nodup_nil
  names _ h := absurd h List.not_mem_nil
  current _ h := absurd h List.not_mem_nil
  ordered := List.Pairwise.nil
  keys := List.nodup_nil
  followed _ h := absurd h List.not_mem_nil
  ended _ h := absurd h List.not_mem_nil
  held _ h := absurd h List.not_mem_nil

lemma Mirrored.row_eq (h : Mirrored env db) {other : RadacctRow} {key : ℕ × String}
    (hrow : row ∈ db.radacct) (hother : other ∈ db.radacct)
    (haccount : env.accountOf row = some key) (haccount' : env.accountOf other = some key) :
    row = other := by
  obtain ⟨hname, hsession⟩ := text_eq_of_accountOf haccount haccount'
  exact h.names row hrow other hother hname hsession

lemma write_ended : (session.write env row).sessionEnd.isSome →
    (session.write env row).lastUpdateAt = (session.write env row).sessionEnd := by
  intro hended
  have hstop : row.acctstoptime.isSome := hended
  obtain ⟨t, ht⟩ := Option.isSome_iff_exists.mp hstop
  show (row.observedAt.or session.lastUpdateAt) = row.acctstoptime
  rw [RadacctRow.observedAt, ht]
  rfl

lemma lastRead_readRow : (db.readRow env now row).lastRead env session =
    if env.accountOf row = some session.key then some row else db.lastRead env session := by
  show (row :: db.reads).find? _ = _
  rw [List.find?_cons]
  split_ifs with hkey
  · rw [decide_eq_true hkey]
  · rw [decide_eq_false hkey]
    rfl

lemma Mirrored.eq_of_radacctid (h : Mirrored env db) {other : RadacctRow}
    (hrow : row ∈ db.radacct) (hother : other ∈ db.radacct)
    (hid : row.radacctid = other.radacctid) : row = other :=
  List.inj_on_of_nodup_map h.ids hrow hother hid

lemma sessions_readRow :
    (db.readRow env now row).sessions = (upsertAccountingRow env now db.sessions row).1 := rfl

lemma Mirrored.rows_readRow (h : Mirrored env db) (now : ℤ) (row : RadacctRow) :
    (db.readRow env now row).sessions.rows =
      db.sessions.rows.map (turned env row) ++ begun env now db.sessions row := by
  rw [sessions_readRow, rows_upsert h.keys]

lemma Mirrored.exists_session (h : Mirrored env db) {key : ℕ × String}
    (haccount : env.accountOf row = some key) :
    ∃ session ∈ (db.readRow env now row).sessions.rows, session.key = key := by
  rw [h.rows_readRow]
  by_cases hnone : ∀ session ∈ db.sessions.rows, session.key ≠ key
  · refine ⟨(RadiusAccountingSession.blank db.sessions.next key now).write env row,
      List.mem_append_right _ (List.mem_map.mpr ⟨key, ?_, rfl⟩), rfl⟩
    exact Option.mem_toList.mpr (Option.mem_filter_iff.mpr ⟨haccount, decide_eq_true hnone⟩)
  · push Not at hnone
    obtain ⟨session, hsession, hkey⟩ := hnone
    exact ⟨turned env row session, List.mem_append_left _ (List.mem_map_of_mem hsession),
      key_turned.trans hkey⟩

/-- **A pass reads a row**: its session follows it. -/
theorem Mirrored.readRow (h : Mirrored env db) (hrow : row ∈ db.radacct) :
    Mirrored env (db.readRow env now row) := by
  have hrows := h.rows_readRow now row
  refine ⟨h.ids, h.names, fun v hv => ?_, List.pairwise_cons.mpr ⟨fun v hv hid => ?_, h.ordered⟩,
    ?_, fun session hsession => ?_, fun session hsession hcause hended => ?_,
    fun v hv key haccount => ?_⟩
  · obtain rfl | hold := List.mem_cons.mp hv
    · exact ⟨_, hrow, Later.refl _⟩
    · exact h.current v hold
  · obtain ⟨other, hother, hlater⟩ := h.current v hv
    obtain rfl := h.eq_of_radacctid hrow hother (hid.trans hlater.radacctid.symm)
    exact hlater
  · have hsame : RadiusAccountingSession.key ∘ turned env row = RadiusAccountingSession.key :=
      funext fun _ => key_turned
    rw [hrows, List.map_append, List.map_map, hsame, List.nodup_append]
    refine ⟨h.keys, ?_, fun key hkey key' hkey' heq => ?_⟩
    · rw [begun]
      cases ((env.accountOf row).filter _) <;> simp
    · obtain ⟨other, hother, rfl⟩ := List.mem_map.mp hkey
      obtain ⟨session, hsession, rfl⟩ := List.mem_map.mp hkey'
      exact (of_mem_begun hsession).2.2.2 other hother heq
  · rw [hrows] at hsession
    obtain hold | hnew := List.mem_append.mp hsession
    · obtain ⟨before, hbefore, rfl⟩ := List.mem_map.mp hold
      rw [lastRead_readRow, key_turned, turned]
      split_ifs with hkey
      · exact ⟨row, rfl, RadiusAccountingSession.upserted_upserted⟩
      · exact h.followed before hbefore
    · obtain ⟨haccount, -, hfollows, -⟩ := of_mem_begun hnew
      rw [lastRead_readRow, if_pos haccount]
      exact ⟨row, rfl, hfollows⟩
  · rw [hrows] at hsession
    obtain hold | hnew := List.mem_append.mp hsession
    · obtain ⟨before, hbefore, rfl⟩ := List.mem_map.mp hold
      revert hcause hended
      rw [turned, RadiusAccountingSession.upserted]
      split_ifs
      · exact h.ended before hbefore
      · exact fun _ hended => .inr (write_ended hended)
      · exact h.ended before hbefore
    · obtain ⟨key, -, rfl⟩ := List.mem_map.mp hnew
      exact .inr (write_ended hended)
  · obtain rfl | hold := List.mem_cons.mp hv
    · exact h.exists_session haccount
    · obtain ⟨session, hsession, hkey⟩ := h.held v hold key haccount
      refine ⟨turned env row session, ?_, key_turned.trans hkey⟩
      rw [hrows]
      exact List.mem_append_left _ (List.mem_map_of_mem hsession)

lemma Mirrored.readRows (now : ℤ) : ∀ (rows : List RadacctRow) {db : AccountingDb},
    Mirrored env db →
    (∀ row ∈ rows, row ∈ db.radacct) → Mirrored env (db.readRows env now rows)
  | [], _, h, _ => h
  | row :: rows, _, h, hrows =>
    Mirrored.readRows now rows (h.readRow (hrows row List.mem_cons_self))
      fun other hother => hrows other (List.mem_cons_of_mem _ hother)

@[simp] lemma radacct_readRows : ∀ (rows : List RadacctRow) (db : AccountingDb),
    (db.readRows env now rows).radacct = db.radacct
  | [], _ => rfl
  | _ :: rows, _ => radacct_readRows rows _

@[simp] lemma cursor_readRows : ∀ (rows : List RadacctRow) (db : AccountingDb),
    (db.readRows env now rows).cursor = db.cursor
  | [], _ => rfl
  | _ :: rows, _ => cursor_readRows rows _

lemma reads_readRows : ∀ (rows : List RadacctRow) (db : AccountingDb),
    (db.readRows env now rows).reads = rows.reverse ++ db.reads
  | [], _ => rfl
  | row :: rows, db => by
    rw [List.reverse_cons, List.append_assoc]
    exact reads_readRows rows _

/-- **What a pass makes of one session**: it is left as it is, or its row is read into it. -/
theorem readRows_session (now : ℤ) :
    ∀ (rows : List RadacctRow) (db : AccountingDb), Mirrored env db →
    (∀ row ∈ rows, row ∈ db.radacct) → ∀ session ∈ db.sessions.rows,
    ∃ after ∈ (db.readRows env now rows).sessions.rows, after = session ∨
      ∃ row ∈ rows, env.accountOf row = some session.key ∧ after = session.upserted env row
  | [], _, _, _, session, hsession => ⟨session, hsession, .inl rfl⟩
  | row :: rows, db, h, hrows, session, hsession => by
    have hrow := hrows row List.mem_cons_self
    have hturned : turned env row session ∈ (db.readRow env now row).sessions.rows := by
      rw [h.rows_readRow]
      exact List.mem_append_left _ (List.mem_map_of_mem hsession)
    obtain ⟨after, hafter, hcase⟩ := readRows_session now rows _ (h.readRow hrow)
      (fun other hother => hrows other (List.mem_cons_of_mem _ hother)) _ hturned
    refine ⟨after, hafter, ?_⟩
    rw [key_turned] at hcase
    by_cases hkey : env.accountOf row = some session.key
    · refine .inr ⟨row, List.mem_cons_self, hkey, ?_⟩
      rw [turned, if_pos hkey] at hcase
      obtain rfl | ⟨other, hother, haccount, rfl⟩ := hcase
      · rfl
      · obtain rfl := h.row_eq hrow (hrows other (List.mem_cons_of_mem _ hother)) hkey haccount
        exact RadiusAccountingSession.upserted_upserted
    · rw [turned, if_neg hkey] at hcase
      obtain rfl | ⟨other, hother, haccount, rfl⟩ := hcase
      · exact .inl rfl
      · exact .inr ⟨other, List.mem_cons_of_mem _ hother, haccount, rfl⟩

lemma session_readRows : ∀ (rows : List RadacctRow) (db : AccountingDb), Mirrored env db →
    (∀ row ∈ rows, row ∈ db.radacct) → ∀ after ∈ (db.readRows env now rows).sessions.rows,
    after ∈ db.sessions.rows ∨ ∃ row ∈ rows, env.accountOf row = some after.key
  | [], _, _, _, _, hafter => .inl hafter
  | row :: rows, db, h, hrows, after, hafter => by
    have hrow := hrows row List.mem_cons_self
    obtain hmem | ⟨other, hother, haccount⟩ := session_readRows rows _ (h.readRow hrow)
      (fun other hother => hrows other (List.mem_cons_of_mem _ hother)) after hafter
    · rw [h.rows_readRow] at hmem
      obtain hold | hnew := List.mem_append.mp hmem
      · obtain ⟨before, hbefore, rfl⟩ := List.mem_map.mp hold
        rw [key_turned, turned]
        split_ifs with hkey
        · exact .inr ⟨row, List.mem_cons_self, hkey⟩
        · exact .inl hbefore
      · exact .inr ⟨row, List.mem_cons_self, (of_mem_begun hnew).1⟩
    · exact .inr ⟨other, List.mem_cons_of_mem _ hother, haccount⟩

end DotmacSub.Accounting
