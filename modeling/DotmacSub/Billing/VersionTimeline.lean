import DotmacSub.Billing.LineCoverage

/-!
# Which version is in force

The versions of a contract that are effective or superseded make up its timeline.  A recording is
checked against the open-ended effective version, and the database refuses effective versions that
overlap; the superseded ones are checked against nothing.
-/

namespace DotmacSub

namespace Contracts

open Store Checked Cadence Rating Run Obligations

/-- The terms of a version apply at an instant. -/
def InForce (v : BillingContractVersion) (t : ℤ) : Prop :=
  (v.status = .effective ∨ v.status = .superseded) ∧ v.startsAt ≤ t ∧ ∀ e ∈ v.endsAt, t < e

instance (v : BillingContractVersion) (t : ℤ) : Decidable (InForce v t) :=
  inferInstanceAs (Decidable (_ ∧ _ ∧ _))

/-- At most one version of a contract applies at any instant. -/
def OneInForce (db : BillingDb) : Prop :=
  ∀ v ∈ db.versions.rows, ∀ w ∈ db.versions.rows, v.contractId = w.contractId →
    ∀ t, InForce v t → InForce w t → v = w

section Timeline

variable {db db' : BillingDb} {v w : BillingContractVersion} {t : ℤ}

lemma InForce.overlap (hv : InForce v t) (hw : InForce w t) :
    rangesOverlap v.startsAt v.endsAt w.startsAt w.endsAt :=
  ⟨fun e he => hv.2.1.trans_lt (hw.2.2 e he), fun e he => hw.2.1.trans_lt (hv.2.2 e he)⟩

lemma exists_inForce (hv : v.status = .effective) (hw : w.status = .superseded)
    (hvwell : versionWellFormed v) (hwwell : versionWellFormed w)
    (h : rangesOverlap v.startsAt v.endsAt w.startsAt w.endsAt) :
    ∃ t, InForce v t ∧ InForce w t :=
  ⟨max v.startsAt w.startsAt,
    ⟨.inl hv, le_max_left _ _, fun e he => max_lt (hvwell.1 e he) (h.2 e he)⟩,
    ⟨.inr hw, le_max_right _ _, fun e he => max_lt (h.1 e he) (hwwell.1 e he)⟩⟩

/-- Versions that are pieces of the old ones, each old one cut without overlap. -/
lemma OneInForce.of_pieces (h : OneInForce db)
    (piece : BillingContractVersion → BillingContractVersion → Prop)
    (horigin : ∀ v' ∈ db'.versions.rows, ∀ t, InForce v' t →
      ∃ v ∈ db.versions.rows, v.contractId = v'.contractId ∧ InForce v t ∧ piece v v')
    (hcut : ∀ v, ∀ v' ∈ db'.versions.rows, ∀ w' ∈ db'.versions.rows, piece v v' → piece v w' →
      ∀ t, InForce v' t → InForce w' t → v' = w') : OneInForce db' := by
  intro v' hv' w' hw' hk t htv htw
  obtain ⟨v, hv, hvk, hvt, hpv⟩ := horigin v' hv' t htv
  obtain ⟨w, hw, hwk, hwt, hpw⟩ := horigin w' hw' t htw
  obtain rfl := h v hv w hw (hvk.trans (hk.trans hwk.symm)) t hvt hwt
  exact hcut v v' hv' w' hw' hpv hpw t htv htw

lemma OneInForce.of_rows (h : OneInForce db)
    (hrows : ∀ v' ∈ db'.versions.rows, ∀ t, InForce v' t →
      ∃ v ∈ db.versions.rows, v.id = v'.id ∧ v.contractId = v'.contractId ∧ InForce v t) :
    OneInForce db' := by
  refine h.of_pieces (fun v v' => v.id = v'.id) (fun v' hv' t ht => ?_) ?_
  · obtain ⟨v, hv, hid, hk, hvt⟩ := hrows v' hv' t ht
    exact ⟨v, hv, hk, hvt, hid⟩
  · exact fun v v' hv' w' hw' hpv hpw _ _ _ => Table.eq_of_id_eq hv' hw' (hpv.symm.trans hpw)

lemma OneInForce.of_eq (h : OneInForce db) (heq : db'.versions = db.versions) : OneInForce db' :=
  h.of_rows fun v' hv' _ ht => ⟨v', heq ▸ hv', rfl, rfl, ht⟩

/-- **Closing the current version where the next one starts** leaves one version in force. -/
lemma OneInForce.split (h : OneInForce db) {k : ℕ} {s : ℤ} {c new : BillingContractVersion}
    (hc : currentEffective db k = some c) (hafter : c.startsAt < s) (hnew : new.contractId = k)
    (hstart : new.startsAt = s)
    (hrows : ∀ v' ∈ db'.versions.rows, v' = new ∨ v' = closed s c ∨
      v' ∈ db.versions.rows ∧ v'.id ≠ c.id) : OneInForce db' := by
  obtain ⟨hmem, hk, hstatus, hend⟩ := currentEffective_eq_some hc
  have hcurrent : ∀ t, c.startsAt ≤ t → InForce c t := fun t ht =>
    ⟨.inl hstatus, ht, by simp [hend]⟩
  refine h.of_pieces (fun v v' => v = c ∧ v' = new ∨ v' ≠ new ∧ v.id = v'.id)
    (fun v' hv' t ht => ?_) fun v v' hv' w' hw' hpv hpw t htv htw => ?_
  · by_cases hvnew : v' = new
    · refine ⟨c, hmem, hk.trans (hvnew ▸ hnew.symm), hcurrent t ?_, .inl ⟨rfl, hvnew⟩⟩
      have hfrom := ht.2.1
      rw [hvnew, hstart] at hfrom
      exact hafter.le.trans hfrom
    · obtain h' | rfl | ⟨hold, -⟩ := hrows v' hv'
      · exact absurd h' hvnew
      · exact ⟨c, hmem, rfl, hcurrent t ht.2.1, .inr ⟨hvnew, rfl⟩⟩
      · exact ⟨v', hold, rfl, ht, .inr ⟨hvnew, rfl⟩⟩
  · -- the two pieces of the current version meet at `s`
    have hmeet : ∀ x' ∈ db'.versions.rows, x' ≠ new → c.id = x'.id → InForce x' t → t < s := by
      intro x' hx' hxnew hid hxt
      obtain h' | rfl | ⟨-, hne⟩ := hrows x' hx'
      · exact absurd h' hxnew
      · exact hxt.2.2 s rfl
      · exact absurd hid.symm hne
    have hfrom : InForce new t → s ≤ t := fun hnewt => hstart ▸ hnewt.2.1
    obtain ⟨rfl, rfl⟩ | ⟨hvnew, hvid⟩ := hpv <;> obtain ⟨hwc, rfl⟩ | ⟨hwnew, hwid⟩ := hpw
    · rfl
    · exact absurd (hmeet w' hw' hwnew hwid htw) (not_lt.mpr (hfrom htv))
    · exact absurd (hmeet v' hv' hvnew (hwc ▸ hvid) htv) (not_lt.mpr (hfrom htw))
    · exact Table.eq_of_id_eq hv' hw' (hvid.symm.trans hwid)

end Timeline

def SubscriptionsDistinct (db : BillingDb) : Prop :=
  (db.contracts.rows.map BillingContract.subscriptionId).Nodup

section Frames

variable {env : RatingEnv} {db db' : BillingDb} {context : CommandContext}

lemma ensureContract_distinct {accountId subscriptionId : ℕ} {authority : BillingRecordAuthority}
    {contract : BillingContract}
    (h : ensureContract db accountId subscriptionId authority = .ok (db', contract))
    (hdistinct : SubscriptionsDistinct db) : SubscriptionsDistinct db' := by
  cases hfind : db.contracts.rows.find? (·.subscriptionId = subscriptionId) with
  | some found =>
    simp only [ensureContract, hfind] at h
    obtain ⟨-, h⟩ := ensure_bind_eq_ok.mp h
    obtain ⟨rfl, -⟩ := mk_eq_ok.mp h
    exact hdistinct
  | none =>
    simp only [ensureContract, hfind] at h
    obtain ⟨rfl, -⟩ := mk_eq_ok.mp h
    show ((db.contracts.rows ++ [_]).map BillingContract.subscriptionId).Nodup
    rw [List.map_append, List.nodup_append]
    refine ⟨hdistinct, List.nodup_singleton _, fun a ha b hb => ?_⟩
    obtain ⟨c, hc, rfl⟩ := List.mem_map.mp ha
    rw [List.map_cons, List.map_nil, List.mem_singleton] at hb
    have hother := List.find?_eq_none.mp hfind c hc
    rw [hb]
    simpa using hother

lemma openVersion_last {command : RecordContractVersionCommand} {authority : BillingRecordAuthority}
    {k : ℕ} {s : ℤ} {r : ContractVersionResult}
    (h : openVersion db command context authority k s = .ok (db', r)) :
    (∃ rows row, db'.versions.rows = rows ++ [row] ∧ row.endsAt = command.endsAt) ∧
      db'.contracts = db.contracts := by
  obtain ⟨-, h⟩ := ensure_bind_eq_ok.mp h
  obtain ⟨db₁, h₁, h⟩ := bind_eq_ok.mp h
  obtain ⟨db₂, h₂, h⟩ := bind_eq_ok.mp h
  obtain ⟨⟨db₃, ids⟩, h₃, h⟩ := bind_eq_ok.mp h
  obtain ⟨rfl, -⟩ := mk_eq_ok.mp h
  obtain rfl := supersedeCurrent_ok h₁
  obtain ⟨rfl, -⟩ := flushVersions_ok h₂
  obtain ⟨lines, next, rfl⟩ := addLines_frame h₃
  refine ⟨⟨_, _, rfl, rfl⟩, ?_⟩
  show (closeCurrent db k s).contracts = db.contracts
  rw [closeCurrent]
  split <;> rfl

lemma recordVersion_last {env : BillingEnv} {command : RecordContractVersionCommand}
    {r : ContractVersionResult} (h : recordVersion env db command context = .ok (db', r)) :
    (SubscriptionsDistinct db → SubscriptionsDistinct db') ∧
      (¬ keyRecorded db (recordedContractId db command.subscriptionId) context.idempotencyKey →
        ∃ rows row, db'.versions.rows = rows ++ [row] ∧ row.endsAt = command.endsAt) := by
  obtain ⟨s, -, h⟩ := bind_eq_ok.mp h
  obtain ⟨-, h⟩ := ensure_bind_eq_ok.mp h
  obtain ⟨⟨db₁, contract⟩, h₁, h⟩ := bind_eq_ok.mp h
  have hdistinct := ensureContract_distinct h₁
  obtain ⟨hid, contracts, rfl⟩ := ensureContract_ok h₁
  rw [← hid]
  dsimp only at h
  split at h
  · rename_i existing hexisting
    obtain ⟨rfl, -⟩ := mk_eq_ok.mp h
    refine ⟨hdistinct, fun hnew => absurd ⟨existing, List.mem_of_find?_eq_some hexisting, ?_⟩ hnew⟩
    simpa using List.find?_some hexisting
  · obtain ⟨hlast, hcontracts⟩ := openVersion_last h
    refine ⟨fun h₀ => ?_, fun _ => hlast⟩
    rw [SubscriptionsDistinct, hcontracts]
    exact hdistinct h₀

lemma backfill_contracts {env : BillingEnv} {snapshot : RecurringAddonBackfill} {e : ℕ}
    {r : Option PendingContractTermsResult}
    (h : consumeRecurringAddonBackfill env db snapshot e context = .ok (db', r)) :
    db'.contracts = db.contracts := by
  obtain ⟨rfl, -⟩ | ⟨db₁, a, hop, -, rfl⟩ := consumeOwnerOutput_ok h
  · rfl
  obtain ⟨contract, -, h⟩ := orRefuse_bind_eq_ok.mp hop
  obtain ⟨-, h⟩ := ensure_bind_eq_ok.mp h
  obtain ⟨current, -, h⟩ := orRefuse_bind_eq_ok.mp h
  obtain ⟨cadence, -, h⟩ := bind_eq_ok.mp h
  obtain ⟨expected, -, h⟩ := bind_eq_ok.mp h
  obtain ⟨-, h⟩ := ensure_bind_eq_ok.mp h
  obtain ⟨-, h⟩ := ensure_bind_eq_ok.mp h
  obtain ⟨⟨base, draft⟩, hdraft, h⟩ := bind_eq_ok.mp h
  obtain ⟨⟨db₂, ids⟩, h₂, h⟩ := bind_eq_ok.mp h
  obtain ⟨lines, next, rfl⟩ := addLines_frame h₂
  obtain ⟨timers, rfl⟩ := schedulePendingTerms_ok h
  exact (boundaryDraft_ok hdraft).frame.1

/-- The obligation owner leaves contracts and versions alone. -/
def SameContracts (db db' : BillingDb) : Prop :=
  db'.versions = db.versions ∧ db'.contracts = db.contracts

lemma schedule_sameContracts {command : ScheduleObligationCommand} {result : ObligationResult}
    (h : Obligations.schedule env db command context = .ok (db', result)) :
    SameContracts db db' := by
  obtain ⟨version, line, period, -, ⟨rfl, -⟩ | ⟨rated, hrecorded⟩⟩ := schedule_ok h
  · exact ⟨rfl, rfl⟩
  · rw [hrecorded.insert]
    exact ⟨rfl, rfl⟩

lemma scheduleAll_sameContracts :
    ∀ {commands : List ScheduleObligationCommand} {db db' : BillingDb}
      {results : List ObligationResult},
      Obligations.scheduleAll env context commands db = .ok (db', results) → SameContracts db db'
  | [], _, _, _, h => by
    obtain ⟨rfl, -⟩ := mk_eq_ok.mp h
    exact ⟨rfl, rfl⟩
  | command :: commands, _, _, _, h => by
    obtain ⟨⟨db₁, r⟩, h₁, h⟩ := bind_eq_ok.mp h
    obtain ⟨⟨db₂, rs⟩, h₂, h⟩ := bind_eq_ok.mp h
    obtain ⟨rfl, -⟩ := mk_eq_ok.mp h
    obtain ⟨hv₁, hc₁⟩ := schedule_sameContracts h₁
    obtain ⟨hv₂, hc₂⟩ := scheduleAll_sameContracts h₂
    exact ⟨hv₂.trans hv₁, hc₂.trans hc₁⟩

lemma step_distinct {command : BillingCommand} (hdistinct : SubscriptionsDistinct db)
    (h : billingStep env db command = .ok db') : SubscriptionsDistinct db' := by
  have hsame : db'.contracts = db.contracts → SubscriptionsDistinct db' := fun hc => by
    rw [SubscriptionsDistinct, hc]
    exact hdistinct
  cases command with
  | record command context =>
    obtain ⟨⟨_, r⟩, hok, rfl⟩ := map_eq_ok.mp h
    exact (recordVersion_last hok).1 hdistinct
  | purchase term eventId context =>
    obtain ⟨⟨_, r⟩, hok, rfl⟩ := map_eq_ok.mp h
    obtain ⟨-, hc, -⟩ | hpurchase := purchase_ok hok
    · exact hsame hc
    · exact hsame hpurchase.contracts
  | backfill snapshot eventId context =>
    obtain ⟨⟨_, r⟩, hok, rfl⟩ := map_eq_ok.mp h
    exact hsame (backfill_contracts hok)
  | fireDueTimers now batchLimit =>
    obtain rfl := Except.ok.inj h
    exact hdistinct
  | activate due eventId context =>
    obtain ⟨⟨_, r⟩, hok, rfl⟩ := map_eq_ok.mp h
    obtain rfl | hactivation := activation_ok hok
    · exact hdistinct
    · exact hsame hactivation.contracts
  | cancel versionId context =>
    obtain ⟨⟨_, r⟩, hok, rfl⟩ := map_eq_ok.mp h
    obtain rfl | rfl := cancelVersion_ok hok <;> exact hdistinct
  | schedule command context =>
    obtain ⟨⟨_, r⟩, hok, rfl⟩ := map_eq_ok.mp h
    exact hsame (schedule_sameContracts hok).2
  | consumeShadow commands eventId context =>
    obtain ⟨⟨_, r⟩, hok, rfl⟩ := map_eq_ok.mp h
    obtain ⟨rfl, -⟩ | ⟨db₁, a, hop, -, rfl⟩ := consumeOwnerOutput_ok hok
    · exact hdistinct
    · exact hsame (scheduleAll_sameContracts hop).2
  | openObligation i openedAt =>
    obtain ⟨⟨_, r⟩, hok, rfl⟩ := map_eq_ok.mp h
    obtain rfl | ⟨o, -, -, -, rfl⟩ := open_ok hok <;> exact hdistinct
  | resolve i kind amount resolvedAt =>
    obtain ⟨⟨_, r⟩, hok, rfl⟩ := map_eq_ok.mp h
    obtain ⟨o, -, -, -, applied, rfl⟩ := resolve_ok hok
    exact hdistinct

end Frames

/-- **The condition on a recording**: where it closes no current version, it keeps clear of the
superseded ones. -/
def RecordsClear (db : BillingDb) : BillingCommand → Prop
  | .record command context =>
    currentEffective db (recordedContractId db command.subscriptionId) = none →
    ¬ keyRecorded db (recordedContractId db command.subscriptionId) context.idempotencyKey →
    ∀ s ∈ (requireStart command.startsAt).toOption, ∀ w ∈ db.versions.rows,
      w.contractId = recordedContractId db command.subscriptionId → w.status = .superseded →
      ¬ rangesOverlap s command.endsAt w.startsAt w.endsAt
  | _ => True

section Steps

variable {env : RatingEnv} {db db' : BillingDb} {k : ℕ} {s : ℤ}

lemma OneInForce.record_current (h : OneInForce db) (hstep : RecordStep db db' k s)
    {c : BillingContractVersion} (hc : currentEffective db k = some c) : OneInForce db' := by
  obtain ⟨row, hk, hs, -, hrows⟩ := hstep.rows
  refine h.split hc (hstep.after c hc) hk hs fun v' hv' => ?_
  rw [hrows, closeCurrent, hc, List.mem_append, List.mem_singleton] at hv'
  obtain hv' | rfl := hv'
  · obtain ⟨hold, hne⟩ | ⟨v, hv, hid, rfl⟩ := (Table.mem_update (h := id_closed s)).mp hv'
    · exact .inr (.inr ⟨hold, hne⟩)
    · obtain rfl := Table.eq_of_id_eq hv (currentEffective_eq_some hc).1 hid
      exact .inr (.inl rfl)
  · exact .inl rfl

lemma RecordStep.rows_of_none (hstep : RecordStep db db' k s) (hnone : currentEffective db k = none)
    {ends : Option ℤ}
    (hlast : ∃ rows row, db'.versions.rows = rows ++ [row] ∧ row.endsAt = ends) :
    ∃ row : BillingContractVersion, row.contractId = k ∧ row.startsAt = s ∧ row.endsAt = ends ∧
      row.status = .effective ∧ db'.versions.rows = db.versions.rows ++ [row] := by
  obtain ⟨row, hk, hs, hstatus, hrows⟩ := hstep.rows
  obtain ⟨rows, row', hrows', hends⟩ := hlast
  rw [closeCurrent, hnone] at hrows
  obtain ⟨-, hrow⟩ := List.append_inj' (hrows.symm.trans hrows') rfl
  obtain rfl := List.head_eq_of_cons_eq hrow
  exact ⟨row, hk, hs, hends, hstatus, hrows⟩

lemma OneInForce.record_none (h : OneInForce db) {row : BillingContractVersion}
    (hrows : db'.versions.rows = db.versions.rows ++ [row]) (hstatus : row.status = .effective)
    (hcons : versionsConsistent db'.versions.rows)
    (hclear : ∀ w ∈ db.versions.rows, w.contractId = row.contractId → w.status = .superseded →
      ¬ rangesOverlap row.startsAt row.endsAt w.startsAt w.endsAt) : OneInForce db' := by
  have hmem : ∀ v, v ∈ db'.versions.rows ↔ v ∈ db.versions.rows ∨ v = row := fun v => by
    rw [hrows, List.mem_append, List.mem_singleton]
  have hnew : ∀ w ∈ db.versions.rows, w.contractId = row.contractId → ∀ t, InForce row t →
      InForce w t → row = w := by
    intro w hw hk t hrt hwt
    by_contra hne
    obtain heffective | hsuperseded := hwt.1
    · exact (hcons.2.forall ((hmem row).mpr (.inr rfl)) ((hmem w).mpr (.inl hw)) hne hk.symm).2
        hstatus heffective (hrt.overlap hwt)
    · exact hclear w hw hk hsuperseded (hrt.overlap hwt)
  intro v hv w hw hk t htv htw
  obtain hv | rfl := (hmem v).mp hv <;> obtain hw | rfl := (hmem w).mp hw
  · exact h v hv w hw hk t htv htw
  · exact (hnew v hv hk t htw htv).symm
  · exact hnew w hw hk.symm t htv htw
  · rfl

lemma OneInForce.activate (h : OneInForce db) {due : PendingTermsDue}
    (hstep : ActivationStep db db' due) : OneInForce db' := by
  obtain ⟨draft, c, hdue, hdraft, hc, -, hversions, hcons⟩ := hstep.step
  have hdb : draft ∈ db.versions.rows := List.mem_of_find?_eq_some hdue
  have hk : draft.contractId = due.contractId := by
    have hfound := List.find?_some hdue
    simp only [decide_eq_true_eq] at hfound
    exact hfound.1
  obtain ⟨hcmem, -, hcstatus, -⟩ := currentEffective_eq_some hc
  have hne : c.id ≠ draft.id := fun hid => by
    rw [Table.eq_of_id_eq hcmem hdb hid, hdraft] at hcstatus
    cases hcstatus
  have hrows : ∀ v' ∈ db'.versions.rows, v' = activated draft ∨ v' = closed draft.startsAt c ∨
      v' ∈ db.versions.rows ∧ v'.id ≠ c.id := by
    intro v' hv'
    rw [hversions] at hv'
    obtain ⟨hv', -⟩ | ⟨v, hv, hid, rfl⟩ := (Table.mem_update (h := id_activated)).mp hv'
    · obtain ⟨hold, hother⟩ | ⟨v, hv, hid, rfl⟩ := (Table.mem_update (h := id_closed _)).mp hv'
      · exact .inr (.inr ⟨hold, hother⟩)
      · obtain rfl := Table.eq_of_id_eq hv hcmem hid
        exact .inr (.inl rfl)
    · obtain ⟨hold, -⟩ | ⟨x, hx, hxid, rfl⟩ := (Table.mem_update (h := id_closed _)).mp hv
      · obtain rfl := Table.eq_of_id_eq hold hdb hid
        exact .inl rfl
      · exact absurd (hxid.symm.trans hid) hne
  -- the closed version satisfies the check of the table
  have hclosed : closed draft.startsAt c ∈ db'.versions.rows := by
    rw [hversions]
    exact (Table.mem_update (h := id_activated)).mpr (.inl
      ⟨(Table.mem_update (h := id_closed _)).mpr (.inr ⟨c, hcmem, rfl, rfl⟩), hne⟩)
  have hcontract : (activated draft).contractId = due.contractId := hk
  exact h.split hc ((hcons.1 _ hclosed).1 _ rfl) hcontract rfl hrows

lemma DraftStep.inForce {contract : BillingContract} {current draft v : BillingContractVersion}
    {e t : ℤ} {base : BillingDb} (h : DraftStep db contract current e base draft)
    (hv : v ∈ base.versions.rows) (ht : InForce v t) : v ∈ db.versions.rows := by
  cases h with
  | existing hbase => exact hbase ▸ hv
  | created _ _ hrows _ hstatus =>
    obtain hv | rfl := (hrows v).mp hv
    · exact hv
    · rw [InForce, hstatus] at ht
      simp at ht

lemma OneInForce.purchase (h : OneInForce db) {env : BillingEnv}
    {term : RecurringAddonPurchaseTermSnapshot} (hstep : PurchaseStep env db db' term) :
    OneInForce db' := by
  obtain ⟨contract, c, cadence, i, p, base, draft, -, -, -, -, hdraft, hversions⟩ := hstep.step
  refine h.of_rows fun v' hv' t ht => ?_
  rw [hversions] at hv'
  obtain ⟨hv', -⟩ | ⟨v, hv, -, rfl⟩ := (Table.mem_update (h := id_live contract)).mp hv'
  · exact ⟨v', hdraft.inForce hv' ht, rfl, rfl, ht⟩
  · exact ⟨v, hdraft.inForce hv ht, rfl, rfl, ht⟩

lemma OneInForce.cancel (h : OneInForce db) {i : ℕ} {reason : String}
    (hversions : db'.versions = db.versions.update i (canceled reason) (id_canceled reason)) :
    OneInForce db' := by
  refine h.of_rows fun v' hv' t ht => ?_
  rw [hversions] at hv'
  obtain ⟨hv', -⟩ | ⟨v, hv, -, rfl⟩ := (Table.mem_update (h := id_canceled reason)).mp hv'
  · exact ⟨v', hv', rfl, rfl, ht⟩
  · simp [InForce, canceled] at ht

/-- **One command** that satisfies the condition leaves one version in force. -/
theorem OneInForce.step (h : OneInForce db) {command : BillingCommand}
    (hclear : RecordsClear db command) (hstep : billingStep env db command = .ok db') :
    OneInForce db' := by
  cases command with
  | record command context =>
    obtain ⟨⟨_, r⟩, hok, rfl⟩ := map_eq_ok.mp hstep
    obtain ⟨s, hs, ⟨-, hversions, -⟩ | ⟨hnew, hrecord⟩⟩ := recordVersion_ok hok
    · exact h.of_eq hversions
    cases hc : currentEffective db (recordedContractId db command.subscriptionId) with
    | some c => exact h.record_current hrecord hc
    | none =>
      obtain ⟨row, hk, hrs, hends, hstatus, hrows⟩ :=
        hrecord.rows_of_none hc ((recordVersion_last hok).2 hnew)
      refine h.record_none hrows hstatus hrecord.consistent fun w hw hwk hwstatus => ?_
      rw [hrs, hends]
      exact hclear hc hnew s (by rw [hs]; rfl) w hw (hwk.trans hk) hwstatus
  | purchase term eventId context =>
    obtain ⟨⟨_, r⟩, hok, rfl⟩ := map_eq_ok.mp hstep
    obtain ⟨hversions, -, -⟩ | hpurchase := purchase_ok hok
    · exact h.of_eq hversions
    · exact h.purchase hpurchase
  | backfill snapshot eventId context =>
    obtain ⟨⟨_, r⟩, hok, rfl⟩ := map_eq_ok.mp hstep
    obtain rfl | hbackfill := backfill_ok hok
    · exact h
    · obtain ⟨contract, c, base, draft, -, hdraft, hversions⟩ := hbackfill.step
      refine h.of_rows fun v hv t ht => ?_
      rw [hversions] at hv
      exact ⟨v, hdraft.inForce hv ht, rfl, rfl, ht⟩
  | fireDueTimers now batchLimit =>
    obtain rfl := Except.ok.inj hstep
    exact h.of_eq rfl
  | activate due eventId context =>
    obtain ⟨⟨_, r⟩, hok, rfl⟩ := map_eq_ok.mp hstep
    obtain rfl | hactivation := activation_ok hok
    · exact h
    · exact h.activate hactivation
  | cancel versionId context =>
    obtain ⟨⟨_, r⟩, hok, rfl⟩ := map_eq_ok.mp hstep
    obtain rfl | rfl := cancelVersion_ok hok
    · exact h
    · exact h.cancel rfl
  | schedule command context =>
    obtain ⟨⟨_, r⟩, hok, rfl⟩ := map_eq_ok.mp hstep
    exact h.of_eq (schedule_sameContracts hok).1
  | consumeShadow commands eventId context =>
    obtain ⟨⟨_, r⟩, hok, rfl⟩ := map_eq_ok.mp hstep
    obtain ⟨rfl, -⟩ | ⟨db₁, a, hop, -, rfl⟩ := consumeOwnerOutput_ok hok
    · exact h
    · exact h.of_eq (scheduleAll_sameContracts hop).1
  | openObligation i openedAt =>
    obtain ⟨⟨_, r⟩, hok, rfl⟩ := map_eq_ok.mp hstep
    obtain rfl | ⟨o, -, -, -, rfl⟩ := open_ok hok
    · exact h
    · exact h.of_eq rfl
  | resolve i kind amount resolvedAt =>
    obtain ⟨⟨_, r⟩, hok, rfl⟩ := map_eq_ok.mp hstep
    obtain ⟨o, -, -, -, applied, rfl⟩ := resolve_ok hok
    exact h.of_eq rfl

/-- A command that violates the condition leaves two versions in force. -/
lemma recordsClear_of_step {command : BillingCommand} (hstep : billingStep env db command = .ok db')
    (h' : OneInForce db') : RecordsClear db command := by
  cases command with
  | record command context =>
    intro hc hnew s hs w hw hwk hwstatus hoverlap
    obtain ⟨⟨_, r⟩, hok, rfl⟩ := map_eq_ok.mp hstep
    obtain ⟨s', hs', ⟨hkey, -⟩ | ⟨-, hrecord⟩⟩ := recordVersion_ok hok
    · exact hnew hkey
    obtain rfl : s' = s := by
      rw [hs'] at hs
      exact Option.some.inj hs
    obtain ⟨row, hk, hrs, hends, hstatus, hrows⟩ :=
      hrecord.rows_of_none hc ((recordVersion_last hok).2 hnew)
    have hwell := hrecord.consistent.1
    rw [OneInForce] at h'
    rw [hrows] at h' hwell
    have hrow : row ∈ db.versions.rows ++ [row] := by simp
    have hold : w ∈ db.versions.rows ++ [row] := List.mem_append_left _ hw
    rw [← hrs, ← hends] at hoverlap
    obtain ⟨t, hrt, hwt⟩ :=
      exists_inForce hstatus hwstatus (hwell row hrow) (hwell w hold) hoverlap
    have hsame := h' row hrow w hold (hk.trans hwk.symm) t hrt hwt
    rw [hsame, hwstatus] at hstatus
    cases hstatus
  | _ => exact trivial

end Steps

/-- The answer of the resolver is the one version in force. -/
structure Unambiguous (db : BillingDb) : Prop where
  one : OneInForce db
  resolves : ∀ contract ∈ db.contracts.rows, ∀ v ∈ db.versions.rows, v.contractId = contract.id →
    ∀ t, InForce v t →
      effectiveVersionAt db contract.subscriptionId (.aware t) = .ok (some v)

section Runs

variable {env : RatingEnv} {db : BillingDb}

lemma OneInForce.resolves (h : OneInForce db) (hdistinct : SubscriptionsDistinct db)
    {contract : BillingContract} (hcontract : contract ∈ db.contracts.rows)
    {v : BillingContractVersion} (hv : v ∈ db.versions.rows) (hk : v.contractId = contract.id)
    {t : ℤ} (ht : InForce v t) :
    effectiveVersionAt db contract.subscriptionId (.aware t) = .ok (some v) := by
  simp only [effectiveVersionAt]
  set found := db.versions.rows.filter _ with hfound
  have hmem : ∀ w ∈ found, w = v := by
    intro w hw
    simp only [hfound, List.mem_filter, List.mem_map, decide_eq_true_eq] at hw
    obtain ⟨hwmem, ⟨other, hother, hid⟩, hstatus, hstart, hend⟩ := hw
    have hsub : other.subscriptionId = contract.subscriptionId := by simpa using hother.2
    obtain rfl := List.inj_on_of_nodup_map hdistinct hother.1 hcontract hsub
    exact h w hwmem v hv (hid.symm.trans hk.symm) t ⟨hstatus, hstart, hend⟩ ht
  have hin : v ∈ found := by
    simp only [hfound, List.mem_filter, List.mem_map, decide_eq_true_eq]
    exact ⟨hv, ⟨contract, ⟨hcontract, by simp⟩, hk.symm⟩, ht.1, ht.2.1, ht.2.2⟩
  congr 1
  cases hsorted : found.insertionSort (fun v w => w.version ≤ v.version) with
  | nil =>
    have := (List.perm_insertionSort (fun v w : BillingContractVersion => w.version ≤ v.version)
      found).mem_iff.mpr hin
    rw [hsorted] at this
    exact absurd this List.not_mem_nil
  | cons w ws =>
    have hw : w ∈ found := (List.perm_insertionSort _ found).mem_iff.mp
      (hsorted ▸ List.mem_cons_self)
    rw [List.head?_cons, hmem w hw]

/-- **One version in force.**  In every state of a run the versions of a contract are disjoint in
time and the resolver is unambiguous, exactly when every recording made while the contract has no
current version keeps clear of its superseded versions. -/
theorem one_in_force_iff (env : RatingEnv) (db : BillingDb) (commands : List BillingCommand)
    (hone : OneInForce db) (hdistinct : SubscriptionsDistinct db) :
    (∀ before after, commands = before ++ after → Unambiguous (run (billingStep env) db before)) ↔
      Guarded (billingStep env) RecordsClear db commands := by
  have hprefix : (∀ before after, commands = before ++ after →
      OneInForce (run (billingStep env) db before)) ↔
      Guarded (billingStep env) RecordsClear db commands :=
    forall_prefix_iff_guarded (fun _ _ _ h hclear hstep => OneInForce.step h hclear hstep)
      (fun _ _ _ _ hstep h' => recordsClear_of_step hstep h') commands db hone
  rw [← hprefix]
  refine ⟨fun h before after heq => (h before after heq).one, fun h before after heq => ?_⟩
  have hbefore : SubscriptionsDistinct (run (billingStep env) db before) :=
    invariant_run (fun _ _ _ hs hstep => step_distinct hs hstep) before hdistinct
  exact ⟨h before after heq, fun contract hcontract v hv hk t ht =>
    (h before after heq).resolves hbefore hcontract hv hk ht⟩

end Runs

/-! ## A version recorded after a cancellation

The version from 1 January is superseded on 1 February.  Once the version that superseded it is
cancelled, the contract has no current version, and one from 16 January is accepted.
-/

def supersededAndCanceled : List BillingCommand := [
  .record (monthlyVersion (utcMidnight 2026 1 1)) ⟨"Sold", "first"⟩,
  .record (monthlyVersion (utcMidnight 2026 2 1)) ⟨"Plan change", "second"⟩,
  .cancel 1 ⟨"Issued in error", "cancel"⟩]

/-- Superseded in order, one version is in force. -/
theorem one_in_force_of_superseded :
    Unambiguous (run (billingStep utcRating) noContracts supersededAndCanceled) := by
  refine (one_in_force_iff utcRating noContracts supersededAndCanceled
    (fun v hv => absurd hv List.not_mem_nil) List.nodup_nil).mpr ⟨fun _ => ?_, fun _ => ?_,
      fun _ => trivial, trivial⟩ supersededAndCanceled [] (List.append_nil _).symm
  · exact fun _ _ s _ w hw => absurd hw List.not_mem_nil
  · intro hnone
    exact absurd hnone (by decide +kernel)

/-- **Two versions in force** on 20 January. -/
theorem two_in_force : ¬ OneInForce (run (billingStep utcRating) noContracts
    (supersededAndCanceled ++
      [.record (monthlyVersion (utcMidnight 2026 1 16)) ⟨"Resold", "third"⟩])) := by
  have h : ∃ v ∈ (run (billingStep utcRating) noContracts (supersededAndCanceled ++
        [.record (monthlyVersion (utcMidnight 2026 1 16)) ⟨"Resold", "third"⟩])).versions.rows,
      ∃ w ∈ (run (billingStep utcRating) noContracts (supersededAndCanceled ++
        [.record (monthlyVersion (utcMidnight 2026 1 16)) ⟨"Resold", "third"⟩])).versions.rows,
      v.contractId = w.contractId ∧ v.id ≠ w.id ∧ InForce v (utcMidnight 2026 1 20) ∧
        InForce w (utcMidnight 2026 1 20) := by
    decide +kernel
  obtain ⟨v, hv, w, hw, hk, hne, hvt, hwt⟩ := h
  exact fun hone => hne (congrArg BillingContractVersion.id (hone v hv w hw hk _ hvt hwt))

end Contracts

end DotmacSub
