import DotmacSub.Integrations.ErpOutbox

/-!
# Turns of a delivery run

What one turn makes of the rows of a flow.
-/

namespace DotmacSub.ErpOutbox

open Store

variable {outside : Surroundings} {maxAttempts : ℕ} {outbox : Outbox} {row : FieldErpSyncEvent}

/-- The flow is owned, and the row is not waiting. -/
def Eligible (outside : Surroundings) (row : FieldErpSyncEvent) : Prop :=
  flowOwnedBySub outside.ownership row.flow = true ∧ readiness outside row ≠ .waiting

instance : DecidablePred (Eligible outside) := fun _ => by
  unfold Eligible
  infer_instance

def PostRaises (outside : Surroundings) (endpoint : String) (row : FieldErpSyncEvent) : Prop :=
  outside.post endpoint row = .raised ∨ row.flow = .materialRequest ∧
    ∃ response, outside.post endpoint row = .response response true

/-- The row has no endpoint, or makes an exception leave the loop. -/
def Obstructs (outside : Surroundings) (row : FieldErpSyncEvent) : Prop :=
  flowEndpoint row.flow = none ∨ readiness outside row = .raised ∨
    ∃ endpoint payload, flowEndpoint row.flow = some endpoint ∧
      readiness outside row = .ready payload ∧ PostRaises outside endpoint (row.posted payload)

/-- The row is ready, and nothing comes of it. -/
def Fails (outside : Surroundings) (row : FieldErpSyncEvent) : Prop :=
  readiness outside row = .raised ∨ ∃ endpoint payload, flowEndpoint row.flow = some endpoint ∧
    readiness outside row = .ready payload ∧
      (PostRaises outside endpoint (row.posted payload) ∨
        ∃ message, outside.post endpoint (row.posted payload) = .transientError message ∨
          outside.post endpoint (row.posted payload) = .erpError message)

def Turn.isAttempt : Turn → Bool
  | .attempted _ _ => true
  | _ => false

def turned (outside : Surroundings) (maxAttempts : ℕ) (row : FieldErpSyncEvent) :
    FieldErpSyncEvent :=
  match turn outside maxAttempts row with
  | .attempted sent _ => sent
  | .unmapped dead => dead
  | _ => row

lemma postRow_cases (endpoint : String) (row : FieldErpSyncEvent) :
    postRow outside maxAttempts endpoint row = .raised ∧ PostRaises outside endpoint row ∨
      ∃ sent error, postRow outside maxAttempts endpoint row = .attempted sent error ∧
        ¬ PostRaises outside endpoint row ∧ sent.id = row.id ∧ sent.attempts = row.attempts := by
  unfold postRow PostRaises
  cases hpost : outside.post endpoint row with
  | transientError message => exact .inr ⟨_, _, rfl, by simp, rfl, rfl⟩
  | erpError message => exact .inr ⟨_, _, rfl, by simp, rfl, rfl⟩
  | raised => exact .inl ⟨rfl, .inl rfl⟩
  | response response writebackRaises =>
    by_cases hraises : row.flow = .materialRequest ∧ writebackRaises = true
    · exact .inl ⟨if_pos hraises, .inr ⟨hraises.1, response, by rw [hraises.2]⟩⟩
    · refine .inr ⟨_, _, if_neg hraises, ?_, rfl, rfl⟩
      rintro (h | ⟨hflow, other, hother⟩)
      · exact absurd h (by simp)
      · exact hraises ⟨hflow, (PostResult.response.inj hother).2⟩

/-- How the turn of a row can end. -/
inductive TurnOf (outside : Surroundings) (row : FieldErpSyncEvent) : Turn → Prop
  | skipped {t : Turn} (idle : t = .notOwned ∨ t = .waiting) (blocked : ¬ Eligible outside row) :
      TurnOf outside row t
  | unmapped (dead : FieldErpSyncEvent) (id : dead.id = row.id)
      (obstructs : Obstructs outside row) : TurnOf outside row (.unmapped dead)
  | raised (eligible : Eligible outside row) (obstructs : Obstructs outside row) :
      TurnOf outside row .raised
  | attempted (sent : FieldErpSyncEvent) (error : Option String) (eligible : Eligible outside row)
      (clear : ¬ Obstructs outside row) (id : sent.id = row.id)
      (attempts : sent.attempts = row.attempts + 1) : TurnOf outside row (.attempted sent error)

/-- **What a turn is**: an eligible row is attempted unless it obstructs the run. -/
lemma turn_of (outside : Surroundings) (maxAttempts : ℕ) (row : FieldErpSyncEvent) :
    TurnOf outside row (turn outside maxAttempts row) := by
  unfold turn
  by_cases howned : flowOwnedBySub outside.ownership row.flow = true
  · rw [if_neg (not_not.mpr howned)]
    cases hendpoint : flowEndpoint row.flow with
    | none => exact .unmapped _ rfl (.inl hendpoint)
    | some endpoint =>
      dsimp only
      cases hready : readiness outside row with
      | waiting => exact .skipped (.inr rfl) fun h => h.2 hready
      | raised => exact .raised ⟨howned, by rw [hready]; simp⟩ (.inr (.inl hready))
      | ready payload =>
        have heligible : Eligible outside row := ⟨howned, by rw [hready]; simp⟩
        have hobstructs : Obstructs outside row ↔
            PostRaises outside endpoint (row.posted payload) := by
          constructor
          · rintro (h | h | ⟨endpoint', payload', hendpoint', hready', h⟩)
            · exact absurd (hendpoint.symm.trans h) (Option.some_ne_none endpoint)
            · exact absurd (hready.symm.trans h) (by simp)
            · obtain rfl := Option.mem_unique hendpoint hendpoint'
              obtain rfl := Readiness.ready.inj (hready.symm.trans hready')
              exact h
          · exact fun h => .inr (.inr ⟨endpoint, payload, hendpoint, hready, h⟩)
        rcases postRow_cases endpoint (row.posted payload) with
          ⟨hpost, hraises⟩ | ⟨sent, error, hpost, hclear, hid, hattempts⟩
        · dsimp only
          rw [hpost]
          exact .raised heligible (hobstructs.mpr hraises)
        · dsimp only
          rw [hpost]
          exact .attempted sent error heligible (fun h => hclear (hobstructs.mp h)) hid hattempts
  · rw [if_pos howned]
    exact .skipped (.inl rfl) fun h => howned h.1

lemma isAttempt_iff :
    (turn outside maxAttempts row).isAttempt = true ↔
      Eligible outside row ∧ ¬ Obstructs outside row := by
  generalize hturn : turn outside maxAttempts row = t
  cases hturn ▸ turn_of outside maxAttempts row with
  | skipped idle blocked =>
    refine iff_of_false ?_ fun h => blocked h.1
    rcases idle with rfl | rfl <;> exact Bool.false_ne_true
  | unmapped dead id obstructs => exact iff_of_false Bool.false_ne_true fun h => h.2 obstructs
  | raised eligible obstructs => exact iff_of_false Bool.false_ne_true fun h => h.2 obstructs
  | attempted sent error eligible clear id attempts => exact iff_of_true rfl ⟨eligible, clear⟩

lemma turned_attempts (h : (turn outside maxAttempts row).isAttempt = true) :
    (turned outside maxAttempts row).attempts = row.attempts + 1 := by
  unfold turned
  generalize hturn : turn outside maxAttempts row = t at h
  cases hturn ▸ turn_of outside maxAttempts row with
  | skipped idle blocked => rcases idle with rfl | rfl <;> exact absurd h Bool.false_ne_true
  | unmapped dead id obstructs => exact absurd h Bool.false_ne_true
  | raised eligible obstructs => exact absurd h Bool.false_ne_true
  | attempted sent error eligible clear id attempts => exact attempts

lemma turn_ready {endpoint payload : String}
    (howned : flowOwnedBySub outside.ownership row.flow = true)
    (hendpoint : flowEndpoint row.flow = some endpoint)
    (hready : readiness outside row = .ready payload) :
    turn outside maxAttempts row = postRow outside maxAttempts endpoint (row.posted payload) := by
  rw [turn, if_neg (not_not.mpr howned), hendpoint]
  dsimp only
  rw [hready]

lemma turned_fails (h : (turn outside maxAttempts row).isAttempt = true)
    (hfails : Fails outside row) :
    (turned outside maxAttempts row).status = .dead ∨
      (turned outside maxAttempts row).status = row.status ∧
        (turned outside maxAttempts row).attempts < maxAttempts := by
  obtain ⟨heligible, hclear⟩ := isAttempt_iff.mp h
  rcases hfails with hraised | ⟨endpoint, payload, hendpoint, hready, hpost⟩
  · exact absurd (.inr (.inl hraised)) hclear
  have hturn : turn outside maxAttempts row =
      postRow outside maxAttempts endpoint (row.posted payload) :=
    turn_ready heligible.1 hendpoint hready
  rcases hpost with hraises | ⟨message, htransient | herror⟩
  · exact absurd (.inr (.inr ⟨endpoint, payload, hendpoint, hready, hraises⟩)) hclear
  · rw [turned, hturn, postRow, htransient]
    dsimp only [markTransient]
    by_cases hspent : maxAttempts ≤ (row.posted payload).attempts
    · exact .inl (if_pos hspent)
    · exact .inr ⟨if_neg hspent, Nat.lt_of_not_le hspent⟩
  · rw [turned, hturn, postRow, herror]
    exact .inl rfl

lemma put_get?_self {row before : FieldErpSyncEvent} (h : outbox.get? row.id = some before) :
    (put outbox row).get? row.id = some row := by
  have hid : before.id = row.id := (Table.get?_eq_some.mp h).2
  dsimp only [put]
  rw [Table.get?_update_self h, hid]

lemma put_get?_ne {i : ℕ} (h : i ≠ row.id) : (put outbox row).get? i = outbox.get? i := by
  dsimp only [put]
  rw [Table.get?_update_ne h]

lemma after_turn {session : Session} (hheld : session.working.get? row.id = some row)
    (hgoes : turn outside maxAttempts row ≠ .raised) :
    (session.after row (turn outside maxAttempts row)).working.get? row.id =
        some (turned outside maxAttempts row) ∧
      (∀ i, i ≠ row.id →
        (session.after row (turn outside maxAttempts row)).working.get? i =
          session.working.get? i) ∧
      (∀ i, i ≠ row.id →
        (session.after row (turn outside maxAttempts row)).committed.get? i =
            session.committed.get? i ∨
          (session.after row (turn outside maxAttempts row)).committed.get? i =
            session.working.get? i) ∧
      (session.after row (turn outside maxAttempts row)).attempted = session.attempted ++
        if (turn outside maxAttempts row).isAttempt then [row.id] else [] := by
  unfold turned
  generalize hturn : turn outside maxAttempts row = t at hgoes
  cases hturn ▸ turn_of outside maxAttempts row with
  | skipped idle blocked =>
    rcases idle with rfl | rfl
    · exact ⟨hheld, fun _ _ => rfl, fun _ _ => .inl rfl, (List.append_nil _).symm⟩
    · exact ⟨hheld, fun _ _ => rfl, fun _ _ => .inr rfl, (List.append_nil _).symm⟩
  | unmapped dead id obstructs =>
    refine ⟨?_, fun i hi => put_get?_ne (id ▸ hi), fun _ _ => .inl rfl,
      (List.append_nil _).symm⟩
    rw [← id] at hheld ⊢
    exact put_get?_self hheld
  | raised eligible obstructs => exact absurd rfl hgoes
  | attempted sent error eligible clear id attempts =>
    refine ⟨?_, fun i hi => put_get?_ne (id ▸ hi), fun i hi => .inr (put_get?_ne (id ▸ hi)), rfl⟩
    rw [← id] at hheld ⊢
    exact put_get?_self hheld

def Holds (outbox : Outbox) (rows : List FieldErpSyncEvent) : Prop :=
  ∀ row ∈ rows, outbox.get? row.id = some row

lemma after_turn_holds {session : Session} {rows : List FieldErpSyncEvent}
    (hnew : row.id ∉ rows.map FieldErpSyncEvent.id) (hheld : Holds session.working (row :: rows))
    (hgoes : turn outside maxAttempts row ≠ .raised) :
    Holds (session.after row (turn outside maxAttempts row)).working rows ∧
      (Holds session.committed (row :: rows) →
        Holds (session.after row (turn outside maxAttempts row)).committed rows) := by
  obtain ⟨-, hothers, hcommits, -⟩ := after_turn (hheld row List.mem_cons_self) hgoes
  have hne : ∀ other ∈ rows, other.id ≠ row.id := fun other hother heq =>
    hnew (heq ▸ List.mem_map_of_mem hother)
  constructor
  · intro other hother
    rw [hothers other.id (hne other hother)]
    exact hheld other (List.mem_cons_of_mem row hother)
  · intro hcommitted other hother
    rcases hcommits other.id (hne other hother) with hkept | hmoved
    · rw [hkept]
      exact hcommitted other (List.mem_cons_of_mem row hother)
    · rw [hmoved]
      exact hheld other (List.mem_cons_of_mem row hother)

/-- **A loop that no exception leaves** attempts every row that it can, and writes every row. -/
lemma deliverRows_completed : ∀ (rows : List FieldErpSyncEvent) (session session' : Session),
    deliverRows outside maxAttempts session rows = (session', false) →
    (rows.map FieldErpSyncEvent.id).Nodup → Holds session.working rows →
    (∀ row ∈ rows, turn outside maxAttempts row ≠ .raised) ∧
      session'.attempted = session.attempted ++
        (rows.filter fun row => (turn outside maxAttempts row).isAttempt).map
          FieldErpSyncEvent.id ∧
      (∀ row ∈ rows, session'.working.get? row.id = some (turned outside maxAttempts row)) ∧
      ∀ i ∉ rows.map FieldErpSyncEvent.id, session'.working.get? i = session.working.get? i
  | [], session, session', h, _, _ => by
    obtain ⟨rfl, -⟩ := Prod.mk.inj h
    refine ⟨fun row hrow => absurd hrow List.not_mem_nil, (List.append_nil _).symm,
      fun row hrow => absurd hrow List.not_mem_nil, fun i _ => rfl⟩
  | row :: rows, session, session', h, hnodup, hheld => by
    rw [List.map_cons, List.nodup_cons] at hnodup
    obtain ⟨hnew, hnodup⟩ := hnodup
    dsimp only [deliverRows] at h
    split_ifs at h with hraised
    · exact absurd (Prod.mk.inj h).2.symm Bool.false_ne_true
    obtain ⟨hself, hothers, -, hattempted⟩ :=
      after_turn (hheld row List.mem_cons_self) hraised
    obtain ⟨hrest, -⟩ := after_turn_holds hnew hheld hraised
    obtain ⟨hgoes, hmore, hwritten, hkept⟩ :=
      deliverRows_completed rows _ session' h hnodup hrest
    refine ⟨?_, ?_, ?_, ?_⟩
    · intro other hother
      rcases List.mem_cons.mp hother with rfl | hother
      · exact hraised
      · exact hgoes other hother
    · rw [hmore, hattempted, List.filter_cons]
      split_ifs <;> simp
    · intro other hother
      rcases List.mem_cons.mp hother with rfl | hother
      · rw [hkept _ hnew, hself]
      · exact hwritten other hother
    · intro i hi
      rw [List.map_cons, List.mem_cons, not_or] at hi
      rw [hkept i hi.2, hothers i hi.1]

/-- **A loop that an exception leaves** has lost the attempt of a row. -/
lemma deliverRows_raised : ∀ (rows : List FieldErpSyncEvent) (session session' : Session),
    deliverRows outside maxAttempts session rows = (session', true) →
    (rows.map FieldErpSyncEvent.id).Nodup → Holds session.working rows →
    Holds session.committed rows →
    ∃ row ∈ rows, turn outside maxAttempts row = .raised ∧ row.id ∈ session'.attempted ∧
      session'.committed.get? row.id = some row
  | [], session, session', h, _, _, _ => absurd (Prod.mk.inj h).2 Bool.false_ne_true
  | row :: rows, session, session', h, hnodup, hworking, hcommitted => by
    rw [List.map_cons, List.nodup_cons] at hnodup
    obtain ⟨hnew, hnodup⟩ := hnodup
    dsimp only [deliverRows] at h
    split_ifs at h with hraised
    · obtain ⟨rfl, -⟩ := Prod.mk.inj h
      refine ⟨row, List.mem_cons_self, hraised, ?_, ?_⟩
      · rw [hraised]
        exact List.mem_append_right _ (List.mem_singleton.mpr rfl)
      · rw [hraised]
        exact hcommitted row List.mem_cons_self
    obtain ⟨hworking', hcommitted'⟩ := after_turn_holds hnew hworking hraised
    obtain ⟨lost, hlost, hrest⟩ :=
      deliverRows_raised rows _ session' h hnodup hworking' (hcommitted' hcommitted)
    exact ⟨lost, List.mem_cons_of_mem row hlost, hrest⟩

end DotmacSub.ErpOutbox
