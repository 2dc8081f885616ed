import DotmacSub.Billing.Contracts
import Mathlib.Data.List.Pairwise

/-!
# What the contract commands do to the version table

One inversion lemma for each command: from an accepted command, what was checked and which rows of
the version table changed.  The invariants over runs are derived from these lemmas and never
unfold a command.
-/

namespace DotmacSub

namespace Contracts

open Store Checked Cadence

lemma rangesOverlap_comm {s₁ s₂ : ℤ} {e₁ e₂ : Option ℤ} :
    rangesOverlap s₁ e₁ s₂ e₂ ↔ rangesOverlap s₂ e₂ s₁ e₁ := and_comm

instance : Std.Symm versionsCompatible where
  symm v w h hvw := by
    obtain ⟨hne, hdisjoint⟩ := h hvw.symm
    exact ⟨hne.symm, fun hw hv => mt rangesOverlap_comm.mp (hdisjoint hv hw)⟩

/-- **Under the constraints a contract has one open-ended effective version.** -/
lemma current_unique {rows : List BillingContractVersion} (h : versionsConsistent rows)
    {v w : BillingContractVersion} (hv : v ∈ rows) (hw : w ∈ rows)
    (hk : v.contractId = w.contractId) (hvs : v.status = .effective) (hws : w.status = .effective)
    (hve : v.endsAt = none) (hwe : w.endsAt = none) : v = w := by
  by_contra hne
  refine (h.2.forall hv hw hne hk).2 hvs hws ?_
  simp [rangesOverlap, hve, hwe]

variable {db db' : BillingDb} {context : CommandContext} {contract : BillingContract}
  {term : RecurringAddonPurchaseTermSnapshot} {env : BillingEnv}
  {current draft v : BillingContractVersion} {command : RecordContractVersionCommand}
  {r : ContractVersionResult} {k e : ℕ} {s : ℤ}

lemma flushVersions_ok (h : flushVersions db = .ok db') :
    db' = db ∧ versionsConsistent db.versions.rows := by
  obtain ⟨hc, h⟩ := ensure_bind_eq_ok.mp h
  exact ⟨(Except.ok.inj h).symm, hc⟩

lemma flushLines_ok (h : flushLines db = .ok db') : db' = db := by
  obtain ⟨-, h⟩ := ensure_bind_eq_ok.mp h
  exact (Except.ok.inj h).symm

/-- Two databases that differ at most in lines and lineage keys. -/
def SameButLines (db db' : BillingDb) : Prop :=
  ∃ lines next, db' = { db with lines := lines, nextLineKey := next }

lemma SameButLines.refl (db : BillingDb) : SameButLines db db := ⟨_, _, rfl⟩

lemma SameButLines.trans {a b c : BillingDb} (hab : SameButLines a b) (hbc : SameButLines b c) :
    SameButLines a c := by
  obtain ⟨_, _, rfl⟩ := hab
  obtain ⟨lines, next, rfl⟩ := hbc
  exact ⟨lines, next, rfl⟩

lemma lineKeyFor_frame (db : BillingDb) (k : ℕ) (line : ContractLineInput) :
    SameButLines db (lineKeyFor db k line).1 := by
  unfold lineKeyFor inheritedLineKey
  split
  · exact .refl db
  · split
    · exact .refl db
    · exact ⟨_, _, rfl⟩

lemma addLine_frame {k v i : ℕ} {line : ContractLineInput}
    (h : addLine db k v line = .ok (db', i)) : SameButLines db db' := by
  obtain ⟨db₁, hf, h⟩ := bind_eq_ok.mp h
  obtain rfl := flushLines_ok hf
  obtain ⟨rfl, -⟩ := mk_eq_ok.mp h
  exact (lineKeyFor_frame db k line).trans ⟨_, _, rfl⟩

lemma addLines_frame {k v : ℕ} : ∀ {lines : List ContractLineInput} {db db' : BillingDb}
    {ids : List ℕ}, addLines k v lines db = .ok (db', ids) → SameButLines db db'
  | [], _, _, _, h => by
    obtain ⟨rfl, -⟩ := mk_eq_ok.mp h
    exact .refl _
  | _ :: _, _, _, _, h => by
    obtain ⟨⟨db₁, i⟩, h₁, h⟩ := bind_eq_ok.mp h
    obtain ⟨⟨db₂, is⟩, h₂, h⟩ := bind_eq_ok.mp h
    obtain ⟨rfl, -⟩ := mk_eq_ok.mp h
    exact (addLine_frame h₁).trans (addLines_frame h₂)

lemma currentEffective_eq_some {db : BillingDb} (h : currentEffective db k = some v) :
    v ∈ db.versions.rows ∧ v.contractId = k ∧ v.status = .effective ∧ v.endsAt = none :=
  ⟨List.mem_of_find?_eq_some h, by simpa using List.find?_some h⟩

lemma mem_drafts {db : BillingDb} :
    v ∈ drafts db k ↔ v ∈ db.versions.rows ∧ v.contractId = k ∧ v.status = .draft := by
  simp [drafts]

lemma terms_of_cadenceOf {c : BillingCadence} (h : cadenceOf env v = .ok c) :
    c.toCadenceTerms = v.terms := by
  unfold cadenceOf BillingCadence.new at h
  split_ifs at h
  split at h
  · exact (congrArg BillingCadence.toCadenceTerms (Except.ok.inj h)).symm
  · cases h

lemma cadenceOf_congr {v w : BillingContractVersion} (h : v.terms = w.terms) :
    cadenceOf env v = cadenceOf env w := by
  rw [cadenceOf, cadenceOf, h]

/-- A draft at a boundary: the existing one, or a new row that clones the current terms. -/
inductive DraftStep (db : BillingDb) (contract : BillingContract)
    (current : BillingContractVersion) (effectiveAt : ℤ) (base : BillingDb)
    (draft : BillingContractVersion) : Prop
  | existing (hbase : base = db) (honly : drafts db contract.id = [draft])
      (hstart : draft.startsAt = effectiveAt) (hsup : draft.supersedesId = some current.id)
  | created (hnone : drafts db contract.id = []) (hafter : current.startsAt < effectiveAt)
      (hrows : ∀ v, v ∈ base.versions.rows ↔ v ∈ db.versions.rows ∨ v = draft)
      (hcontract : draft.contractId = contract.id) (hstatus : draft.status = .draft)
      (hstart : draft.startsAt = effectiveAt) (hend : draft.endsAt = none)
      (hterms : draft.terms = current.terms) (hsup : draft.supersedesId = some current.id)
      (hcons : versionsConsistent base.versions.rows)
      (hframe : base.contracts = db.contracts ∧ base.obligations = db.obligations)

/-- A pending draft is found or created. -/
lemma boundaryDraft_ok {effectiveAt : ℤ} {sourceKind : BillingContractSourceKind}
    {reason stale : String}
    (h : boundaryDraft db contract current effectiveAt sourceKind reason stale = .ok (db', draft)) :
    DraftStep db contract current effectiveAt db' draft := by
  unfold boundaryDraft at h
  split at h
  · rename_i hnone
    obtain ⟨hafter, h⟩ := ensure_bind_eq_ok.mp h
    obtain ⟨db₁, h₁, h⟩ := bind_eq_ok.mp h
    obtain ⟨db₂, h₂, h⟩ := bind_eq_ok.mp h
    obtain ⟨rfl, hcons⟩ := flushVersions_ok h₁
    obtain rfl := flushLines_ok h₂
    obtain ⟨rfl, rfl⟩ := mk_eq_ok.mp h
    exact .created hnone hafter (fun v => Table.mem_insert (h := fun _ => rfl)) rfl rfl rfl rfl rfl rfl hcons
      ⟨rfl, rfl⟩
  · rename_i existing honly
    obtain ⟨⟨hstart, hsup⟩, h⟩ := ensure_bind_eq_ok.mp h
    obtain ⟨rfl, rfl⟩ := mk_eq_ok.mp h
    exact .existing rfl honly hstart hsup
  · cases h

lemma DraftStep.frame {db base : BillingDb} {e : ℤ}
    (h : DraftStep db contract current e base draft) :
    base.contracts = db.contracts ∧ base.obligations = db.obligations := by
  cases h with
  | existing hbase => exact hbase ▸ ⟨rfl, rfl⟩
  | created _ _ _ _ _ _ _ _ _ _ hframe => exact hframe

lemma schedulePendingTerms_ok {draft : BillingContractVersion} {effectiveAt : ℤ}
    {r : PendingContractTermsResult}
    (h : schedulePendingTerms db contract draft effectiveAt = .ok (db', r)) :
    ∃ timers, db' = { db with timers := timers } := by
  obtain ⟨⟨timers, timer⟩, -, h⟩ := bind_eq_ok.mp h
  obtain ⟨rfl, -⟩ := mk_eq_ok.mp h
  exact ⟨timers, rfl⟩

lemma consumeOwnerOutput_ok {α : Type} {receipt : OwnerOutputReceipt} {key : String}
    {op : BillingDb → Except DomainError (BillingDb × α)} {r : Option α}
    (h : consumeOwnerOutput BillingDb.receipts
      (fun r db => { db with receipts := r :: db.receipts }) receipt key op db = .ok (db', r)) :
    (db' = db ∧ r = none) ∨
      ∃ db₁ a, op db = .ok (db₁, a) ∧ r = some a ∧
        db' = { db₁ with receipts := receipt :: db₁.receipts } := by
  obtain ⟨-, h⟩ := ensure_bind_eq_ok.mp h
  split_ifs at h
  · obtain ⟨rfl, rfl⟩ := mk_eq_ok.mp h
    exact .inl ⟨rfl, rfl⟩
  · obtain ⟨⟨db₁, a⟩, hop, h⟩ := bind_eq_ok.mp h
    obtain ⟨rfl, rfl⟩ := mk_eq_ok.mp h
    exact .inr ⟨db₁, a, hop, rfl, rfl⟩

/-- The same version but for the provenance of a draft. -/
def SameTerms (v w : BillingContractVersion) : Prop :=
  w.id = v.id ∧ w.contractId = v.contractId ∧ w.version = v.version ∧ w.status = v.status ∧
    w.startsAt = v.startsAt ∧ w.endsAt = v.endsAt ∧ w.terms = v.terms ∧
    w.supersedesId = v.supersedesId

lemma ofCadence_eq_ok {α : Type} {x : Except CadenceError α} {a : α} :
    ofCadence x = .ok a ↔ x = .ok a := mapError_eq_ok

lemma purchaseBoundary_eq_ok {c : BillingCadence} {s e : ℤ} {m : Moment}
    (h : purchaseBoundary c s m = .ok e) :
    ∃ i p, periodContaining c s m defaultMaxPeriods = .ok (i, p) ∧ p.endsAt = e := by
  unfold purchaseBoundary at h
  split at h
  · rename_i i p hp
    exact ⟨i, p, hp, Except.ok.inj h⟩
  · cases h
  · cases h

lemma addPurchasedLine_frame {currency : String}
    (h : addPurchasedLine db contract current draft term currency = .ok db') :
    SameButLines db db' := by
  unfold addPurchasedLine at h
  split at h
  · obtain ⟨-, h⟩ := ensure_bind_eq_ok.mp h
    obtain rfl := Except.ok.inj h
    exact .refl _
  · obtain ⟨⟨db₁, i⟩, h₁, h⟩ := bind_eq_ok.mp h
    obtain rfl := Except.ok.inj h
    exact addLine_frame h₁

/-- What the purchase of an add-on writes. -/
structure PurchaseStep (env : BillingEnv) (db db' : BillingDb)
    (term : RecurringAddonPurchaseTermSnapshot) : Prop where
  step : ∃ contract current cadence i p base draft,
    contract ∈ db.contracts.rows ∧
    currentEffective db contract.id = some current ∧ cadenceOf env current = .ok cadence ∧
    periodContaining cadence current.startsAt term.purchasedAt defaultMaxPeriods = .ok (i, p) ∧
    DraftStep db contract current p.endsAt base draft ∧
    db'.versions = base.versions.update draft.id (live contract) (id_live contract)
  contracts : db'.contracts = db.contracts
  obligations : db'.obligations = db.obligations

lemma purchaseEffect_ok {r : Option PendingContractTermsResult}
    (h : recurringAddonPurchaseEffect env term db = .ok (db', r)) :
    db' = db ∨ PurchaseStep env db db' term := by
  obtain ⟨-, h⟩ := ensure_bind_eq_ok.mp h
  obtain ⟨-, h⟩ := ensure_bind_eq_ok.mp h
  obtain ⟨contract, hcontract, h⟩ := orRefuse_bind_eq_ok.mp h
  obtain ⟨current, hcurrent, h⟩ := orRefuse_bind_eq_ok.mp h
  obtain ⟨cadence, hcadence, h⟩ := bind_eq_ok.mp h
  obtain ⟨-, h⟩ := ensure_bind_eq_ok.mp h
  obtain ⟨-, h⟩ := ensure_bind_eq_ok.mp h
  split at h
  · obtain ⟨-, h⟩ := ensure_bind_eq_ok.mp h
    obtain ⟨rfl, -⟩ := mk_eq_ok.mp h
    exact .inl rfl
  · obtain ⟨e, he, h⟩ := bind_eq_ok.mp h
    obtain ⟨⟨base, draft⟩, hdraft, h⟩ := bind_eq_ok.mp h
    obtain ⟨db₂, h₂, h⟩ := bind_eq_ok.mp h
    obtain ⟨⟨db₃, r₃⟩, h₃, h⟩ := bind_eq_ok.mp h
    obtain ⟨rfl, -⟩ := mk_eq_ok.mp h
    obtain ⟨i, p, hp, rfl⟩ := purchaseBoundary_eq_ok he
    obtain ⟨timers, rfl⟩ := schedulePendingTerms_ok h₃
    obtain ⟨lines, next, rfl⟩ := addPurchasedLine_frame h₂
    have hstep := boundaryDraft_ok hdraft
    exact .inr ⟨⟨contract, current, cadence, i, p, base, draft,
      List.mem_of_find?_eq_some hcontract, hcurrent, ofCadence_eq_ok.mp hcadence, hp, hstep, rfl⟩,
      hstep.frame.1, hstep.frame.2⟩

/-- **A purchase** leaves the contract data alone, or puts a draft at the end of the current
period. -/
theorem purchase_ok {r : Option (Option PendingContractTermsResult)}
    (h : consumeRecurringAddonPurchase env db term e context = .ok (db', r)) :
    (db'.versions = db.versions ∧ db'.contracts = db.contracts ∧
        db'.obligations = db.obligations) ∨ PurchaseStep env db db' term := by
  rcases consumeOwnerOutput_ok h with ⟨rfl, -⟩ | ⟨db₁, a, hop, -, rfl⟩
  · exact .inl ⟨rfl, rfl, rfl⟩
  · rcases purchaseEffect_ok hop with rfl | ⟨hstep, hc, ho⟩
    · exact .inl ⟨rfl, rfl, rfl⟩
    · exact .inr ⟨hstep, hc, ho⟩

structure ActivationStep (db db' : BillingDb) (due : PendingTermsDue) : Prop where
  step : ∃ draft current,
    dueDraft db due = some draft ∧ draft.status = .draft ∧
    currentEffective db due.contractId = some current ∧ draft.supersedesId = some current.id ∧
    db'.versions = (supersede db current.id draft.startsAt).versions.update draft.id activated
      id_activated ∧
    versionsConsistent db'.versions.rows
  contracts : db'.contracts = db.contracts
  obligations : db'.obligations = db.obligations

lemma pendingTermsEffect_ok {due : PendingTermsDue} (h : pendingTermsEffect due db = .ok (db', r)) :
    ActivationStep db db' due := by
  obtain ⟨timer, -, h⟩ := orRefuse_bind_eq_ok.mp h
  obtain ⟨-, h⟩ := ensure_bind_eq_ok.mp h
  obtain ⟨contract, hcontract, h⟩ := orRefuse_bind_eq_ok.mp h
  obtain ⟨draft, hdraft, h⟩ := orRefuse_bind_eq_ok.mp h
  obtain ⟨current, hcurrent, h⟩ := orRefuse_bind_eq_ok.mp h
  obtain ⟨-, h⟩ := ensure_bind_eq_ok.mp h
  obtain ⟨db₁, h₁, h⟩ := bind_eq_ok.mp h
  obtain ⟨db₂, h₂, h⟩ := bind_eq_ok.mp h
  obtain ⟨saleId, -, h⟩ := bind_eq_ok.mp h
  obtain ⟨rfl, -⟩ := mk_eq_ok.mp h
  obtain ⟨rfl, -⟩ := flushVersions_ok h₁
  obtain ⟨rfl, hcons⟩ := flushVersions_ok h₂
  obtain ⟨hdue, hstatus⟩ := Option.filter_eq_some_iff.mp hdraft
  obtain ⟨hcur, hsup⟩ := Option.filter_eq_some_iff.mp hcurrent
  have hid : contract.id = due.contractId := (Table.get?_eq_some.mp hcontract).2
  rw [hid] at hcur
  refine ⟨⟨draft, current, hdue, by simpa using hstatus, hcur, by simpa using hsup, ?_⟩, ?_, ?_⟩
  all_goals split_ifs
  all_goals first | exact ⟨rfl, hcons⟩ | rfl

/-- **An activation** closes the current version at the draft's start and makes the draft
effective, unless it is a replay. -/
theorem activation_ok {due : PendingTermsDue} {r : Option ContractVersionResult}
    (h : consumePendingTermsEffectiveDue db due e context = .ok (db', r)) :
    db' = db ∨ ActivationStep db db' due := by
  rcases consumeOwnerOutput_ok h with ⟨rfl, -⟩ | ⟨db₁, a, hop, -, rfl⟩
  · exact .inl rfl
  · obtain ⟨hstep, hc, ho⟩ := pendingTermsEffect_ok hop
    exact .inr ⟨hstep, hc, ho⟩

def recordedContractId (db : BillingDb) (subscriptionId : ℕ) : ℕ :=
  match db.contracts.rows.find? (·.subscriptionId = subscriptionId) with
  | some contract => contract.id
  | none => db.contracts.next

def keyRecorded (db : BillingDb) (contractId : ℕ) (key : String) : Prop :=
  ∃ v ∈ db.versions.rows, v.contractId = contractId ∧ v.idempotencyKey = key

instance (db : BillingDb) (contractId : ℕ) (key : String) :
    Decidable (keyRecorded db contractId key) :=
  inferInstanceAs (Decidable (∃ v ∈ db.versions.rows, _))

def closeCurrent (db : BillingDb) (contractId : ℕ) (at_ : ℤ) : BillingDb :=
  match currentEffective db contractId with
  | some current => supersede db current.id at_
  | none => db

structure RecordStep (db db' : BillingDb) (contractId : ℕ) (startsAt : ℤ) : Prop where
  after : ∀ c ∈ currentEffective db contractId, c.startsAt < startsAt
  rows : ∃ row : BillingContractVersion, row.contractId = contractId ∧ row.startsAt = startsAt ∧
    row.status = .effective ∧
    db'.versions.rows = (closeCurrent db contractId startsAt).versions.rows ++ [row]
  consistent : versionsConsistent db'.versions.rows
  obligations : db'.obligations = db.obligations

lemma validate_ok (h : validate command = .ok s) : command.startsAt = .aware s := by
  obtain ⟨t, ht, h⟩ := bind_eq_ok.mp h
  obtain ⟨-, h⟩ := ensure_bind_eq_ok.mp h
  obtain ⟨-, h⟩ := ensure_bind_eq_ok.mp h
  obtain ⟨-, h⟩ := ensure_bind_eq_ok.mp h
  obtain ⟨-, h⟩ := ensure_bind_eq_ok.mp h
  obtain ⟨_, -, h⟩ := bind_eq_ok.mp h
  obtain ⟨-, h⟩ := ensure_bind_eq_ok.mp h
  obtain rfl := Except.ok.inj h
  cases hm : command.startsAt with
  | naive wall =>
    rw [hm] at ht
    cases ht
  | aware instant =>
    rw [hm] at ht
    rw [Except.ok.inj ht]

lemma ensureContract_ok {accountId subscriptionId : ℕ} {authority : BillingRecordAuthority}
    (h : ensureContract db accountId subscriptionId authority = .ok (db', contract)) :
    contract.id = recordedContractId db subscriptionId ∧ ∃ contracts,
      db' = { db with contracts := contracts } := by
  cases hfind : db.contracts.rows.find? (·.subscriptionId = subscriptionId) with
  | some found =>
    simp only [ensureContract, hfind] at h
    obtain ⟨-, h⟩ := ensure_bind_eq_ok.mp h
    obtain ⟨rfl, rfl⟩ := mk_eq_ok.mp h
    exact ⟨by simp only [recordedContractId, hfind], _, rfl⟩
  | none =>
    simp only [ensureContract, hfind] at h
    obtain ⟨rfl, rfl⟩ := mk_eq_ok.mp h
    exact ⟨by simp only [recordedContractId, hfind], _, rfl⟩

lemma supersedeCurrent_ok (h : supersedeCurrent db (currentEffective db k) s = .ok db') :
    db' = closeCurrent db k s := by
  rw [closeCurrent]
  cases hc : currentEffective db k with
  | some current =>
    rw [hc] at h
    exact (flushVersions_ok h).1
  | none =>
    rw [hc] at h
    exact (Except.ok.inj h).symm

lemma openVersion_ok {authority : BillingRecordAuthority}
    (h : openVersion db command context authority k s = .ok (db', r)) : RecordStep db db' k s := by
  obtain ⟨hafter, h⟩ := ensure_bind_eq_ok.mp h
  obtain ⟨db₁, h₁, h⟩ := bind_eq_ok.mp h
  obtain ⟨db₂, h₂, h⟩ := bind_eq_ok.mp h
  obtain ⟨⟨db₃, ids⟩, h₃, h⟩ := bind_eq_ok.mp h
  obtain ⟨rfl, -⟩ := mk_eq_ok.mp h
  obtain rfl := supersedeCurrent_ok h₁
  obtain ⟨rfl, hcons⟩ := flushVersions_ok h₂
  obtain ⟨lines, next, rfl⟩ := addLines_frame h₃
  refine ⟨hafter, ⟨_, rfl, rfl, rfl, rfl⟩, hcons, ?_⟩
  show (closeCurrent db k s).obligations = db.obligations
  rw [closeCurrent]
  split <;> rfl

/-- **A recording** replays the version of its key, or closes the current version and appends an
effective one. -/
theorem recordVersion_ok (h : recordVersion env db command context = .ok (db', r)) :
    ∃ s, command.startsAt = .aware s ∧
      ((keyRecorded db (recordedContractId db command.subscriptionId) context.idempotencyKey ∧
          db'.versions = db.versions ∧ db'.obligations = db.obligations) ∨
        (¬ keyRecorded db (recordedContractId db command.subscriptionId) context.idempotencyKey ∧
          RecordStep db db' (recordedContractId db command.subscriptionId) s)) := by
  obtain ⟨s, hs, h⟩ := bind_eq_ok.mp h
  obtain ⟨-, h⟩ := ensure_bind_eq_ok.mp h
  obtain ⟨⟨db₁, contract⟩, h₁, h⟩ := bind_eq_ok.mp h
  obtain ⟨hid, contracts, rfl⟩ := ensureContract_ok h₁
  refine ⟨s, validate_ok hs, ?_⟩
  rw [← hid]
  dsimp only at h
  split at h
  · rename_i existing hexisting
    obtain ⟨rfl, -⟩ := mk_eq_ok.mp h
    have hkey := List.find?_some hexisting
    exact .inl ⟨⟨existing, List.mem_of_find?_eq_some hexisting, by simpa using hkey⟩, rfl, rfl⟩
  · rename_i hnone
    have hkey : ¬ keyRecorded db contract.id context.idempotencyKey := by
      rintro ⟨v, hv, hvk⟩
      exact List.find?_eq_none.mp hnone v hv (by simpa using hvk)
    obtain ⟨hafter, hrows, hcons, hobl⟩ := openVersion_ok h
    have hclose : (closeCurrent { db with contracts := contracts } contract.id s).versions
        = (closeCurrent db contract.id s).versions := by
      simp only [closeCurrent]
      change (match currentEffective db contract.id with
        | some c => _ | none => _ : BillingDb).versions = _
      split <;> rfl
    exact .inr ⟨hkey, hafter, by rwa [hclose] at hrows, hcons, hobl⟩

/-! ## Migration snapshots -/

structure BackfillStep (db db' : BillingDb) (snapshot : RecurringAddonBackfill) : Prop where
  step : ∃ contract current base draft,
    currentEffective db contract.id = some current ∧
    DraftStep db contract current snapshot.targetPeriod.startsAt base draft ∧
    db'.versions = base.versions
  obligations : db'.obligations = db.obligations

lemma backfillEffect_ok {snapshot : RecurringAddonBackfill} {r : PendingContractTermsResult}
    (h : recurringAddonBackfillEffect env snapshot db = .ok (db', r)) :
    BackfillStep db db' snapshot := by
  obtain ⟨contract, -, h⟩ := orRefuse_bind_eq_ok.mp h
  obtain ⟨-, h⟩ := ensure_bind_eq_ok.mp h
  obtain ⟨current, hcurrent, h⟩ := orRefuse_bind_eq_ok.mp h
  obtain ⟨cadence, -, h⟩ := bind_eq_ok.mp h
  obtain ⟨expected, -, h⟩ := bind_eq_ok.mp h
  obtain ⟨-, h⟩ := ensure_bind_eq_ok.mp h
  obtain ⟨-, h⟩ := ensure_bind_eq_ok.mp h
  obtain ⟨⟨base, draft⟩, hdraft, h⟩ := bind_eq_ok.mp h
  obtain ⟨⟨db₁, ids⟩, h₁, h⟩ := bind_eq_ok.mp h
  obtain ⟨lines, next, rfl⟩ := addLines_frame h₁
  obtain ⟨timers, rfl⟩ := schedulePendingTerms_ok h
  have hstep := boundaryDraft_ok hdraft
  exact ⟨⟨contract, current, base, draft, (Option.filter_eq_some_iff.mp hcurrent).1, hstep, rfl⟩,
    hstep.frame.2⟩

/-- **A snapshot** puts a draft at its boundary, unless it is a replay. -/
theorem backfill_ok {snapshot : RecurringAddonBackfill} {r : Option PendingContractTermsResult}
    (h : consumeRecurringAddonBackfill env db snapshot e context = .ok (db', r)) :
    db' = db ∨ BackfillStep db db' snapshot := by
  rcases consumeOwnerOutput_ok h with ⟨rfl, -⟩ | ⟨db₁, a, hop, -, rfl⟩
  · exact .inl rfl
  · obtain ⟨hstep, ho⟩ := backfillEffect_ok hop
    exact .inr ⟨hstep, ho⟩

/-- **A cancellation** marks the version, unless it is cancelled already. -/
theorem cancelVersion_ok {versionId : ℕ} {r : ℕ}
    (h : cancelVersion db versionId context = .ok (db', r)) :
    db' = db ∨ db' = { db with
      versions := db.versions.update versionId (canceled context.reason)
        (id_canceled context.reason) } := by
  obtain ⟨version, -, h⟩ := orRefuse_bind_eq_ok.mp h
  split_ifs at h
  · exact .inl (mk_eq_ok.mp h).1.symm
  · obtain ⟨db₁, h₁, h⟩ := bind_eq_ok.mp h
    obtain ⟨rfl, -⟩ := flushVersions_ok h₁
    exact .inr (mk_eq_ok.mp h).1.symm

end Contracts

end DotmacSub
