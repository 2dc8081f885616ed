import DotmacSub.Billing.ObligationReplay

/-!
# Which version charges an instant

Obligations are scheduled on versions, and versions are closed by the ones that supersede them.
The scheduler looks at the start of a period only, so whether an instant of a contract line is
charged by two versions depends on the order of both kinds of commands.
-/

namespace DotmacSub

namespace Obligations

open Store Checked Cadence Contracts Rating Run

/-- One command of the contract or the obligation owner, or a timer scan. -/
inductive BillingCommand
  | record (command : RecordContractVersionCommand) (context : CommandContext)
  | purchase (term : RecurringAddonPurchaseTermSnapshot) (eventId : ℕ) (context : CommandContext)
  | backfill (snapshot : RecurringAddonBackfill) (eventId : ℕ) (context : CommandContext)
  | fireDueTimers (now : ℤ) (batchLimit : ℕ)
  | activate (due : PendingTermsDue) (eventId : ℕ) (context : CommandContext)
  | cancel (versionId : ℕ) (context : CommandContext)
  | schedule (command : ScheduleObligationCommand) (context : CommandContext)
  | consumeShadow (commands : List ScheduleObligationCommand) (eventId : ℕ)
      (context : CommandContext)
  | openObligation (obligationId : ℕ) (openedAt : Option ℤ)
  | resolve (obligationId : ℕ) (kind : ObligationResolutionKind) (amount : ℚ)
      (resolvedAt : Option ℤ)

/-- One command of the contract or the obligation owner. -/
def billingStep (env : RatingEnv) (db : BillingDb) : BillingCommand → Except DomainError BillingDb
  | .record command context => Prod.fst <$> recordVersion env.toBillingEnv db command context
  | .purchase term eventId context =>
    Prod.fst <$> consumeRecurringAddonPurchase env.toBillingEnv db term eventId context
  | .backfill snapshot eventId context =>
    Prod.fst <$> consumeRecurringAddonBackfill env.toBillingEnv db snapshot eventId context
  | .fireDueTimers now batchLimit =>
    .ok { db with timers := fireDue db.timers now batchLimit }
  | .activate due eventId context =>
    Prod.fst <$> consumePendingTermsEffectiveDue db due eventId context
  | .cancel versionId context => Prod.fst <$> cancelVersion db versionId context
  | .schedule command context => Prod.fst <$> Obligations.schedule env db command context
  | .consumeShadow commands eventId context =>
    Prod.fst <$> consumeContractShadow env db commands eventId context
  | .openObligation obligationId openedAt => Prod.fst <$> open_ db obligationId openedAt
  | .resolve obligationId kind amount resolvedAt =>
    Prod.fst <$> Obligations.resolve db obligationId kind amount resolvedAt

/-- The start of the recorded coverage; a row without rating inputs covers its period. -/
def coverageStart (o : BillingObligation) : ℤ :=
  o.rating.elim o.periodStart RatingColumns.coverageStart

def coverageEnd (o : BillingObligation) : ℤ := o.rating.elim o.periodEnd RatingColumns.coverageEnd

def Covers (o : BillingObligation) (t : ℤ) : Prop := coverageStart o ≤ t ∧ t < coverageEnd o

instance (o : BillingObligation) (t : ℤ) : Decidable (Covers o t) :=
  inferInstanceAs (Decidable (_ ∧ _))

/-- A recorded obligation of line `l` of contract `k` that is not cancelled. -/
def LiveOn (k l : ℕ) (o : BillingObligation) : Prop :=
  o.contractId = k ∧ o.contractLineKey = l ∧ o.state ≠ .canceled

instance (k l : ℕ) (o : BillingObligation) : Decidable (LiveOn k l o) :=
  inferInstanceAs (Decidable (_ ∧ _ ∧ _))

/-- **No instant of a line is charged by two versions**, and none at or after the end of its own. -/
structure ChargedOnce (k l : ℕ) (db : BillingDb) : Prop where
  once : ∀ o₁ ∈ db.obligations.rows, ∀ o₂ ∈ db.obligations.rows, LiveOn k l o₁ → LiveOn k l o₂ →
    ∀ t, Covers o₁ t → Covers o₂ t → o₁.contractVersionId = o₂.contractVersionId
  before_end : ∀ o ∈ db.obligations.rows, LiveOn k l o →
    ∀ v ∈ db.versions.rows, v.id = o.contractVersionId → ∀ e ∈ v.endsAt, coverageEnd o ≤ e

/-- A version that still charges or can charge a line: it is not cancelled, or it has a live
obligation. -/
def Claims (k l : ℕ) (db : BillingDb) (w : BillingContractVersion) : Prop :=
  w.status ≠ .canceled ∨ ∃ o ∈ db.obligations.rows, LiveOn k l o ∧ o.contractVersionId = w.id

instance (k l : ℕ) (db : BillingDb) (w : BillingContractVersion) : Decidable (Claims k l db w) :=
  inferInstanceAs (Decidable (_ ∨ ∃ o ∈ db.obligations.rows, _))

def InsideVersion (k l : ℕ) (db : BillingDb) (version : BillingContractVersion)
    (covered : Interval) : Prop :=
  (version.startsAt ≤ covered.startsAt ∧ ∀ e ∈ version.endsAt, covered.endsAt ≤ e) ∧
    ∀ w ∈ db.versions.rows, w.contractId = k → w.id ≠ version.id → Claims k l db w →
      ¬ rangesOverlap covered.startsAt (some covered.endsAt) w.startsAt w.endsAt

instance (k l : ℕ) (db : BillingDb) (version : BillingContractVersion) (covered : Interval) :
    Decidable (InsideVersion k l db version covered) :=
  inferInstanceAs (Decidable (_ ∧ ∀ w ∈ db.versions.rows, _))

def SchedulesInside (env : RatingEnv) (k l : ℕ) (context : CommandContext) (db : BillingDb)
    (command : ScheduleObligationCommand) : Prop :=
  ∀ q ∈ (requestedPeriod env db command context).toOption, q.1.contractId = k →
    command.contractLineKey = l → existingRows db l q.1.id q.2.2 = [] →
    InsideVersion k l db q.1 (command.covered.getD q.2.2)

instance (env : RatingEnv) (k l : ℕ) (context : CommandContext) (db : BillingDb)
    (command : ScheduleObligationCommand) :
    Decidable (SchedulesInside env k l context db command) :=
  inferInstanceAs (Decidable (∀ q ∈ (requestedPeriod env db command context).toOption, _))

/-- The condition on closing the current version of the contract at an instant. -/
def ClosesAfter (k l : ℕ) (db : BillingDb) (at_ : ℤ) : Prop :=
  ∀ c ∈ currentEffective db k, ∀ o ∈ db.obligations.rows, LiveOn k l o →
    o.contractVersionId = c.id → coverageEnd o ≤ at_

instance (k l : ℕ) (db : BillingDb) (at_ : ℤ) : Decidable (ClosesAfter k l db at_) :=
  inferInstanceAs (Decidable (∀ c ∈ currentEffective db k, _))

/-- **The condition on a command** for line `l` of contract `k`: a version is closed at or after the
end of its live obligations, and a new obligation covers time of its own version only. -/
def KeepsCharged (env : RatingEnv) (k l : ℕ) (db : BillingDb) : BillingCommand → Prop
  | .record command context => recordedContractId db command.subscriptionId = k →
      ¬ keyRecorded db k context.idempotencyKey →
        ∀ s ∈ (requireStart command.startsAt).toOption, ClosesAfter k l db s
  | .activate due _ _ => due.contractId = k →
      ∀ draft ∈ (dueDraft db due).filter (·.status = .draft), ClosesAfter k l db draft.startsAt
  | .schedule command context => SchedulesInside env k l context db command
  | .consumeShadow commands _ context =>
    Guarded (fun db command => Prod.fst <$> Obligations.schedule env db command context)
      (SchedulesInside env k l context) db commands
  | _ => True

/-- What holds of a line along a run: a live obligation lies in the interval of its version, and no
instant is charged by two versions. -/
structure LineInv (k l : ℕ) (db : BillingDb) : Prop where
  inside : ∀ o ∈ db.obligations.rows, LiveOn k l o → ∃ v ∈ db.versions.rows,
    v.id = o.contractVersionId ∧ v.contractId = k ∧ v.startsAt ≤ coverageStart o ∧
      ∀ e ∈ v.endsAt, coverageEnd o ≤ e
  once : ∀ o₁ ∈ db.obligations.rows, ∀ o₂ ∈ db.obligations.rows, LiveOn k l o₁ → LiveOn k l o₂ →
    ∀ t, Covers o₁ t → Covers o₂ t → o₁.contractVersionId = o₂.contractVersionId

variable {env : RatingEnv} {k l : ℕ} {db db' : BillingDb}

lemma LineInv.chargedOnce (h : LineInv k l db) : ChargedOnce k l db := by
  refine ⟨h.once, fun o ho hlive v hv hid => ?_⟩
  obtain ⟨w, hw, hwid, -, -, hend⟩ := h.inside o ho hlive
  obtain rfl := Table.eq_of_id_eq hv hw (hid.trans hwid.symm)
  exact hend

/-- The versions keep their intervals, but for versions that are closed after their obligations. -/
def KeepsIntervals (k l : ℕ) (db db' : BillingDb) : Prop :=
  ∀ v ∈ db.versions.rows, ∃ w ∈ db'.versions.rows, w.id = v.id ∧ w.contractId = v.contractId ∧
    w.startsAt = v.startsAt ∧ (w.endsAt = v.endsAt ∨ (v.contractId = k → ∃ e, w.endsAt = some e ∧
      ∀ o ∈ db.obligations.rows, LiveOn k l o → o.contractVersionId = v.id → coverageEnd o ≤ e))

lemma LineInv.of_versions (h : LineInv k l db) (ho : db'.obligations = db.obligations)
    (hv : KeepsIntervals k l db db') : LineInv k l db' := by
  rw [show db' = { db' with obligations := db.obligations } by rw [← ho]]
  refine ⟨fun o ho hlive => ?_, h.once⟩
  obtain ⟨v, hvm, hid, hk, hs, he⟩ := h.inside o ho hlive
  obtain ⟨w, hw, hwid, hwk, hws, hwe⟩ := hv v hvm
  refine ⟨w, hw, hwid.trans hid, hwk.trans hk, hws ▸ hs, fun e hend => ?_⟩
  rcases hwe with hwe | hwe
  · exact he e (hwe ▸ hend)
  · obtain ⟨e', he', hobl⟩ := hwe hk
    rw [he'] at hend
    obtain rfl := Option.mem_some.mp hend
    exact hobl o ho hlive hid.symm

/-- An obligation that is live afterwards was live before, with the same coverage. -/
def KeepsCoverage (o o' : BillingObligation) : Prop :=
  o'.contractId = o.contractId ∧ o'.contractLineKey = o.contractLineKey ∧
    o'.contractVersionId = o.contractVersionId ∧ o'.rating = o.rating ∧
    o'.periodStart = o.periodStart ∧ o'.periodEnd = o.periodEnd ∧
    (o'.state ≠ .canceled → o.state ≠ .canceled)

lemma LineInv.of_obligations (h : LineInv k l db) (hv : db'.versions = db.versions)
    (ho : ∀ o' ∈ db'.obligations.rows, ∃ o ∈ db.obligations.rows, KeepsCoverage o o') :
    LineInv k l db' := by
  have hback : ∀ o' ∈ db'.obligations.rows, LiveOn k l o' → ∃ o ∈ db.obligations.rows,
      LiveOn k l o ∧ o'.contractVersionId = o.contractVersionId ∧
        coverageStart o' = coverageStart o ∧ coverageEnd o' = coverageEnd o := by
    intro o' ho' hlive
    obtain ⟨o, hmem, hk, hl, hver, hrating, hps, hpe, hstate⟩ := ho o' ho'
    refine ⟨o, hmem, ⟨hk ▸ hlive.1, hl ▸ hlive.2.1, hstate hlive.2.2⟩, hver, ?_, ?_⟩
    · rw [coverageStart, coverageStart, hrating, hps]
    · rw [coverageEnd, coverageEnd, hrating, hpe]
  refine ⟨fun o' ho' hlive => ?_, fun o₁ h₁ o₂ h₂ hl₁ hl₂ t ht₁ ht₂ => ?_⟩
  · obtain ⟨o, hmem, hlo, hver, hs, he⟩ := hback o' ho' hlive
    rw [hver, hs, he, hv]
    exact h.inside o hmem hlo
  · obtain ⟨p₁, hm₁, hp₁, hv₁, hs₁, he₁⟩ := hback o₁ h₁ hl₁
    obtain ⟨p₂, hm₂, hp₂, hv₂, hs₂, he₂⟩ := hback o₂ h₂ hl₂
    rw [Covers, hs₁, he₁] at ht₁
    rw [Covers, hs₂, he₂] at ht₂
    rw [hv₁, hv₂]
    exact h.once p₁ hm₁ p₂ hm₂ hp₁ hp₂ t ht₁ ht₂

/-- Every version keeps its contract and its interval. -/
def SameIntervals (db db' : BillingDb) : Prop :=
  ∀ v ∈ db.versions.rows, ∃ w ∈ db'.versions.rows, w.id = v.id ∧ w.contractId = v.contractId ∧
    w.startsAt = v.startsAt ∧ w.endsAt = v.endsAt

lemma SameIntervals.of_subset (h : ∀ v ∈ db.versions.rows, v ∈ db'.versions.rows) :
    SameIntervals db db' :=
  fun v hv => ⟨v, h v hv, rfl, rfl, rfl, rfl⟩

lemma SameIntervals.of_eq (h : db'.versions = db.versions) : SameIntervals db db' :=
  .of_subset fun _ hv => h ▸ hv

lemma SameIntervals.of_update {i : ℕ} {f : BillingContractVersion → BillingContractVersion}
    (hf : ∀ v, Row.id (f v) = Row.id v) (h : db'.versions = db.versions.update i f hf)
    (hkeep : ∀ v, (f v).contractId = v.contractId ∧ (f v).startsAt = v.startsAt ∧
      (f v).endsAt = v.endsAt) : SameIntervals db db' := by
  intro v hv
  rw [h]
  by_cases hid : v.id = i
  · exact ⟨f v, Table.mem_update.mpr (.inr ⟨v, hv, hid, rfl⟩), hf v, hkeep v⟩
  · exact ⟨v, Table.mem_update.mpr (.inl ⟨hv, hid⟩), rfl, rfl, rfl, rfl⟩

lemma SameIntervals.draft {contract : BillingContract} {current draft : BillingContractVersion}
    {e : ℤ} {base : BillingDb} (h : DraftStep db contract current e base draft) :
    SameIntervals db base := by
  cases h with
  | existing hbase => exact .of_eq (hbase ▸ rfl)
  | created _ _ hrows => exact .of_subset fun v hv => (hrows v).mpr (.inl hv)

lemma SameIntervals.trans {db'' : BillingDb} (h : SameIntervals db db')
    (h' : SameIntervals db' db'') : SameIntervals db db'' := by
  intro v hv
  obtain ⟨w, hw, hid, hk, hs, he⟩ := h v hv
  obtain ⟨x, hx, hid', hk', hs', he'⟩ := h' w hw
  exact ⟨x, hx, hid'.trans hid, hk'.trans hk, hs'.trans hs, he'.trans he⟩

lemma SameIntervals.keeps (h : SameIntervals db db') : KeepsIntervals k l db db' := by
  intro v hv
  obtain ⟨w, hw, hid, hk, hs, he⟩ := h v hv
  exact ⟨w, hw, hid, hk, hs, .inl he⟩

lemma KeepsIntervals.trans {db'' : BillingDb} (h : KeepsIntervals k l db db')
    (h' : SameIntervals db' db'') : KeepsIntervals k l db db'' := by
  intro v hv
  obtain ⟨w, hw, hid, hk, hs, he⟩ := h v hv
  obtain ⟨x, hx, hid', hk', hs', he'⟩ := h' w hw
  exact ⟨x, hx, hid'.trans hid, hk'.trans hk, hs'.trans hs, he' ▸ he⟩

lemma KeepsIntervals.supersede {j : ℕ} {c : BillingContractVersion} {at_ : ℤ}
    (hc : currentEffective db j = some c) (h : j = k → ClosesAfter k l db at_) :
    KeepsIntervals k l db (Contracts.supersede db c.id at_) := by
  obtain ⟨hmem, hk, -, -⟩ := currentEffective_eq_some hc
  intro v hv
  by_cases hid : v.id = c.id
  · obtain rfl := Table.eq_of_id_eq hv hmem hid
    refine ⟨closed at_ v, (Table.mem_update (h := id_closed at_)).mpr (.inr ⟨v, hv, rfl, rfl⟩),
      rfl, rfl, rfl, .inr fun hvk => ⟨at_, rfl, ?_⟩⟩
    obtain rfl := hk.symm.trans hvk
    exact h rfl v hc
  · exact ⟨v, (Table.mem_update (h := id_closed at_)).mpr (.inl ⟨hv, hid⟩), rfl, rfl, rfl,
      .inl rfl⟩

lemma LineInv.record (h : LineInv k l db) {j : ℕ} {s : ℤ} (hstep : RecordStep db db' j s)
    (hclose : j = k → ClosesAfter k l db s) : LineInv k l db' := by
  obtain ⟨row, -, -, -, hrows⟩ := hstep.rows
  have hclosed : KeepsIntervals k l db (closeCurrent db j s) := by
    rw [closeCurrent]
    split
    · rename_i current hcurrent
      exact .supersede hcurrent hclose
    · exact (SameIntervals.of_eq rfl).keeps
  exact h.of_versions hstep.obligations
    (hclosed.trans (.of_subset fun v hv => hrows ▸ List.mem_append_left _ hv))

lemma LineInv.activate (h : LineInv k l db) {due : PendingTermsDue}
    (hstep : ActivationStep db db' due)
    (hclose : due.contractId = k →
      ∀ draft ∈ (dueDraft db due).filter (·.status = .draft), ClosesAfter k l db draft.startsAt) :
    LineInv k l db' := by
  obtain ⟨draft, current, hdue, hstatus, hcurrent, -, hversions, -⟩ := hstep.step
  have hclosed : KeepsIntervals k l db (supersede db current.id draft.startsAt) :=
    .supersede hcurrent fun hk => hclose hk draft (by simp [hdue, hstatus])
  exact h.of_versions hstep.obligations
    (hclosed.trans (.of_update id_activated hversions fun _ => ⟨rfl, rfl, rfl⟩))

/-- **A scheduling inside its version keeps the invariant.** -/
lemma LineInv.schedule (h : LineInv k l db) {command : ScheduleObligationCommand}
    {context : CommandContext} {result : ObligationResult}
    (hstep : Obligations.schedule env db command context = .ok (db', result))
    (hinside : SchedulesInside env k l context db command) : LineInv k l db' := by
  obtain ⟨version, line, period, hp, hcase⟩ := schedule_ok hstep
  rcases hcase with ⟨rfl, -⟩ | ⟨rated, hrec⟩
  · exact h
  have hreq := requestedPeriod_ok hp
  set new := recordedRow env db command version line period rated
  have hversions : db'.versions = db.versions := by
    rw [hrec.insert]
  have hstart : coverageStart new = (command.covered.getD period).startsAt := by
    rw [← hrec.covered hreq]
    rfl
  have hend : coverageEnd new = (command.covered.getD period).endsAt := by
    rw [← hrec.covered hreq]
    rfl
  have hmem : ∀ o, o ∈ db'.obligations.rows ↔ o ∈ db.obligations.rows ∨ o = new := by
    intro o
    rw [hrec.rows, List.mem_append, List.mem_singleton]
  have hnew : LiveOn k l new → InsideVersion k l db version (command.covered.getD period) := by
    rintro ⟨hk, hl, -⟩
    refine hinside (version, line, period) (by rw [hp]; rfl) hk hl ?_
    exact hl ▸ hrec.none_existing
  -- an old obligation of another version lies where the new one may not
  have hdisjoint : ∀ o ∈ db.obligations.rows, LiveOn k l o → LiveOn k l new →
      ∀ t, Covers o t → Covers new t → o.contractVersionId = new.contractVersionId := by
    intro o ho hlive hlivenew t ht htnew
    by_contra hne
    obtain ⟨v, hv, hid, hvk, hvs, hve⟩ := h.inside o ho hlive
    refine (hnew hlivenew).2 v hv hvk (fun heq => hne (hid.symm.trans heq))
      (.inr ⟨o, ho, hlive, hid.symm⟩) ⟨fun e he => ?_, fun e he => ?_⟩
    · exact hstart ▸ htnew.1.trans_lt (ht.2.trans_le (hve e he))
    · obtain rfl := Option.mem_some.mp he
      exact hend ▸ (hvs.trans ht.1).trans_lt htnew.2
  refine ⟨fun o ho hlive => ?_, fun o₁ h₁ o₂ h₂ hl₁ hl₂ t ht₁ ht₂ => ?_⟩
  · rw [hversions]
    rcases (hmem o).mp ho with ho | rfl
    · exact h.inside o ho hlive
    · obtain ⟨⟨hs, he⟩, -⟩ := hnew hlive
      exact ⟨version, hreq.version_mem, rfl, hlive.1, hstart ▸ hs, hend ▸ he⟩
  · rcases (hmem o₁).mp h₁ with h₁ | rfl <;> rcases (hmem o₂).mp h₂ with h₂ | rfl
    · exact h.once o₁ h₁ o₂ h₂ hl₁ hl₂ t ht₁ ht₂
    · exact hdisjoint o₁ h₁ hl₁ hl₂ t ht₁ ht₂
    · exact (hdisjoint o₂ h₂ hl₂ hl₁ t ht₂ ht₁).symm
    · rfl

lemma LineInv.scheduleAll {context : CommandContext} :
    ∀ {commands : List ScheduleObligationCommand} {db db' : BillingDb}
      {results : List ObligationResult}, LineInv k l db →
      Obligations.scheduleAll env context commands db = .ok (db', results) →
      Guarded (fun db command => Prod.fst <$> Obligations.schedule env db command context)
        (SchedulesInside env k l context) db commands → LineInv k l db'
  | [], _, _, _, h, hstep, _ => by
    obtain ⟨rfl, -⟩ := mk_eq_ok.mp hstep
    exact h
  | command :: commands, db, _, _, h, hstep, hguard => by
    obtain ⟨⟨db₁, r⟩, h₁, hstep⟩ := bind_eq_ok.mp hstep
    obtain ⟨⟨db₂, rs⟩, h₂, hstep⟩ := bind_eq_ok.mp hstep
    obtain ⟨rfl, -⟩ := mk_eq_ok.mp hstep
    have hok : (Prod.fst <$> Obligations.schedule env db command context) = .ok db₁ :=
      map_eq_ok.mpr ⟨_, h₁, rfl⟩
    have hnext : next (fun db command => Prod.fst <$> Obligations.schedule env db command context)
        db command = db₁ := next_of_ok hok
    exact LineInv.scheduleAll (h.schedule h₁ (hguard.1 ⟨db₁, hok⟩)) h₂ (hnext ▸ hguard.2)

lemma LineInv.of_update (h : LineInv k l db) {i : ℕ} {o : BillingObligation}
    {f : BillingObligation → BillingObligation} (hf : ∀ o, Row.id (f o) = Row.id o)
    (ho : o ∈ db.obligations.rows) (hid : o.id = i) (hkeep : KeepsCoverage o (f o)) :
    LineInv k l { db with obligations := db.obligations.update i f hf } := by
  refine h.of_obligations rfl fun o' ho' => ?_
  rcases (Table.mem_update (h := hf)).mp ho' with ⟨ho', -⟩ | ⟨p, hp, hpi, rfl⟩
  · exact ⟨o', ho', rfl, rfl, rfl, rfl, rfl, rfl, id⟩
  · obtain rfl := Table.eq_of_id_eq hp ho (hpi.trans hid.symm)
    exact ⟨p, hp, hkeep⟩

/-- **One command.** -/
theorem LineInv.step (h : LineInv k l db) {command : BillingCommand}
    (hkeep : KeepsCharged env k l db command) (hstep : billingStep env db command = .ok db') :
    LineInv k l db' := by
  cases command with
  | record command context =>
    obtain ⟨⟨_, r⟩, hok, rfl⟩ := map_eq_ok.mp hstep
    obtain ⟨s, hs, ⟨-, hv, ho⟩ | ⟨hkey, hrec⟩⟩ := recordVersion_ok hok
    · exact h.of_versions ho (SameIntervals.of_eq hv).keeps
    · refine h.record hrec fun hk => hkeep hk (hk ▸ hkey) s ?_
      rw [hs]
      rfl
  | purchase term eventId context =>
    obtain ⟨⟨_, r⟩, hok, rfl⟩ := map_eq_ok.mp hstep
    rcases purchase_ok hok with ⟨hv, -, ho⟩ | hpurchase
    · exact h.of_versions ho (SameIntervals.of_eq hv).keeps
    · obtain ⟨contract, current, cadence, i, p, base, draft, -, -, -, -, hdraft, hv⟩ :=
        hpurchase.step
      exact h.of_versions hpurchase.obligations ((SameIntervals.draft hdraft).trans
        (.of_update (id_live contract) hv fun _ => ⟨rfl, rfl, rfl⟩)).keeps
  | backfill snapshot eventId context =>
    obtain ⟨⟨_, r⟩, hok, rfl⟩ := map_eq_ok.mp hstep
    rcases backfill_ok hok with rfl | hback
    · exact h
    · obtain ⟨contract, current, base, draft, -, hdraft, hv⟩ := hback.step
      exact h.of_versions hback.obligations
        ((SameIntervals.draft hdraft).trans (.of_eq hv)).keeps
  | fireDueTimers now batchLimit =>
    obtain rfl := Except.ok.inj hstep
    exact h.of_versions rfl (SameIntervals.of_eq rfl).keeps
  | activate due eventId context =>
    obtain ⟨⟨_, r⟩, hok, rfl⟩ := map_eq_ok.mp hstep
    rcases activation_ok hok with rfl | hact
    · exact h
    · exact h.activate hact hkeep
  | cancel versionId context =>
    obtain ⟨⟨_, r⟩, hok, rfl⟩ := map_eq_ok.mp hstep
    rcases cancelVersion_ok hok with rfl | rfl
    · exact h
    · exact h.of_versions rfl
        (SameIntervals.of_update (id_canceled _) rfl fun _ => ⟨rfl, rfl, rfl⟩).keeps
  | schedule command context =>
    obtain ⟨⟨_, r⟩, hok, rfl⟩ := map_eq_ok.mp hstep
    exact h.schedule hok hkeep
  | consumeShadow commands eventId context =>
    obtain ⟨⟨_, r⟩, hok, rfl⟩ := map_eq_ok.mp hstep
    rcases consumeOwnerOutput_ok hok with ⟨rfl, -⟩ | ⟨db₁, a, hop, -, rfl⟩
    · exact h
    · exact (h.scheduleAll hop hkeep).of_versions rfl (SameIntervals.of_eq rfl).keeps
  | openObligation i openedAt =>
    obtain ⟨⟨_, r⟩, hok, rfl⟩ := map_eq_ok.mp hstep
    rcases open_ok hok with rfl | ⟨o, ho, hid, hstate, rfl⟩
    · exact h
    · exact h.of_update (id_opened _) ho hid
        ⟨rfl, rfl, rfl, rfl, rfl, rfl, fun _ => by rw [hstate]; nofun⟩
  | resolve i kind amount resolvedAt =>
    obtain ⟨⟨_, r⟩, hok, rfl⟩ := map_eq_ok.mp hstep
    obtain ⟨o, ho, hid, hstate, applied, rfl⟩ := resolve_ok hok
    refine h.of_update (id_resolved _ _ _) ho hid ⟨rfl, rfl, rfl, rfl, rfl, rfl, fun _ => ?_⟩
    rcases hstate with hstate | hstate <;> rw [hstate] <;> nofun

/-- **Every instant of a line is charged by one version at most.**  Along any run of contract
commands, schedulings and resolutions that satisfies the condition, from a state in which the line
has no obligation, no instant is charged by two versions, and no obligation covers time at or after
the end of its own version. -/
theorem charged_once (env : RatingEnv) (k l : ℕ) (db : BillingDb) (commands : List BillingCommand)
    (hnone : ∀ o ∈ db.obligations.rows, ¬ LiveOn k l o)
    (hkeep : Guarded (billingStep env) (KeepsCharged env k l) db commands) :
    ChargedOnce k l (run (billingStep env) db commands) := by
  have hinit : LineInv k l db :=
    ⟨fun o ho hlive => absurd hlive (hnone o ho), fun o ho _ _ hlive => absurd hlive (hnone o ho)⟩
  exact (invariant_guarded (fun _ _ _ h hk hstep => h.step hk hstep) commands db hinit
    hkeep).chargedOnce

/-! ## A version superseded at the end of a period, and inside one

A monthly line is recorded from 1 January and its first period is scheduled.  Superseded on
1 February, its next version charges February; superseded on 16 January, it charges the rest of
January a second time.
-/

def noContracts : BillingDb where
  contracts := .empty
  versions := .empty
  lines := .empty
  obligations := .empty
  timers := .empty
  receipts := []
  outbox := []
  salesOrderLines := []
  taxRates := []
  nextLineKey := 0

def monthlyVersion (startsAt : ℤ) : RecordContractVersionCommand where
  accountId := 10
  subscriptionId := 20
  sourceKind := .salesOrderLine
  sourceId := 30
  startsAt := .aware startsAt
  contractedPrice := 100
  currency := "NGN"
  cadence := monthly
  lines := [{
    chargeComponent := .recurringService, description := "Internet", unitPrice := 100,
    currency := "NGN", accountingTreatment := .receivable }]

/-- Two versions, each with its first period scheduled after it was recorded. -/
def twoVersions (first second : ℤ) : List BillingCommand := [
  .record (monthlyVersion first) ⟨"Sold", "first"⟩,
  .schedule { contractVersionId := 0, contractLineKey := 0, periodIndex := 0 } ⟨"", "charge"⟩,
  .record (monthlyVersion second) ⟨"Plan change", "second"⟩,
  .schedule { contractVersionId := 1, contractLineKey := 0, periodIndex := 0 } ⟨"", "charge"⟩]

/-- Superseded between two periods, the line is charged once. -/
theorem charged_once_february :
    (run (billingStep utcRating) noContracts
      (twoVersions (utcMidnight 2026 1 1) (utcMidnight 2026 2 1))).obligations.rows.length = 2 ∧
    ChargedOnce 0 0 (run (billingStep utcRating) noContracts
      (twoVersions (utcMidnight 2026 1 1) (utcMidnight 2026 2 1))) := by
  refine ⟨by decide +kernel, charged_once utcRating 0 0 noContracts _
    (fun o ho => absurd ho List.not_mem_nil) ?_⟩
  refine ⟨fun _ _ _ => by decide +kernel, fun _ => ?_, fun _ _ _ => by decide +kernel, fun _ => ?_,
    trivial⟩
  all_goals
    show SchedulesInside utcRating 0 0 _ _ _
    decide +kernel

/-- **Superseded inside a period, the line is charged twice.** -/
theorem charged_twice : ¬ ChargedOnce 0 0 (run (billingStep utcRating) noContracts
    (twoVersions (utcMidnight 2026 1 1) (utcMidnight 2026 1 16))) := by
  have h : ∃ o₁ ∈ (run (billingStep utcRating) noContracts
        (twoVersions (utcMidnight 2026 1 1) (utcMidnight 2026 1 16))).obligations.rows,
      ∃ o₂ ∈ (run (billingStep utcRating) noContracts
        (twoVersions (utcMidnight 2026 1 1) (utcMidnight 2026 1 16))).obligations.rows,
      LiveOn 0 0 o₁ ∧ LiveOn 0 0 o₂ ∧ Covers o₁ (utcMidnight 2026 1 20) ∧
        Covers o₂ (utcMidnight 2026 1 20) ∧ o₁.contractVersionId ≠ o₂.contractVersionId := by
    decide +kernel
  obtain ⟨o₁, h₁, o₂, h₂, hl₁, hl₂, ht₁, ht₂, hne⟩ := h
  exact fun hcharged => hne (hcharged.once o₁ h₁ o₂ h₂ hl₁ hl₂ _ ht₁ ht₂)

end Obligations

end DotmacSub
