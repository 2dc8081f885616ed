import DotmacSub.Usage.Rating

/-!
# Usage billed once

A rating run skips a subscription that has a charge for exactly its period, and sums records by
half-open intervals: periods that are different and overlap bill the records they share twice.  A
charge is posted once, since posting marks it.
-/

namespace DotmacSub.Usage

open Decimal Checked Run

variable {records : List UsageRecord} {db db' : RatingDb}

/-- The record is in the billable volume of the charge. -/
def Contributes (record : UsageRecord) (charge : UsageCharge) : Prop :=
  record.Within charge.subscriptionId charge.periodStart charge.periodEnd ∧ record.totalGb ≠ 0 ∧
    0 < charge.billableGb

instance (record : UsageRecord) : DecidablePred (Contributes record) := fun _ => by
  unfold Contributes
  infer_instance

def billings (db : RatingDb) (record : UsageRecord) : ℕ := db.charges.countP (Contributes record ·)

def postings (db : RatingDb) (charge : UsageCharge) : ℕ :=
  db.lines.countP (·.chargeId = charge.id)

/-- No record is billed by two charges, and no charge is posted to two lines. -/
def BilledOnce (records : List UsageRecord) (db : RatingDb) : Prop :=
  (∀ record ∈ records, billings db record ≤ 1) ∧ ∀ charge ∈ db.charges, postings db charge ≤ 1

/-- What posting does to charges and lines: nothing, or a line for one charge that had not been
posted. -/
inductive Posted (db db' : RatingDb) : Prop
  | nothing (charges : db'.charges = db.charges) (lines : db'.lines = db.lines)
  | line (charge : UsageCharge) (line : UsageLine) (mem : charge ∈ db.charges)
      (notPosted : charge.status ≠ .posted) (of : line.chargeId = charge.id)
      (lines : db'.lines = db.lines ++ [line])
      (charges : db'.charges =
        db.charges.map fun row => if row.id = charge.id then row.posted line.id else row)

lemma resolveOrCreateInvoice_charges (context : PostingContext) (charge : UsageCharge) :
    (resolveOrCreateInvoice context db charge).1.charges = db.charges ∧
      (resolveOrCreateInvoice context db charge).1.lines = db.lines := by
  unfold resolveOrCreateInvoice
  cases db.invoices.find? _ with
  | some invoice =>
    dsimp only
    split_ifs <;> exact ⟨rfl, rfl⟩
  | none =>
    dsimp only
    split_ifs <;> exact ⟨rfl, rfl⟩

lemma targetInvoice_charges (db : RatingDb) (context : PostingContext) (charge : UsageCharge)
    (invoiceId : Option ℕ) :
    (targetInvoice context db charge invoiceId).1.charges = db.charges ∧
      (targetInvoice context db charge invoiceId).1.lines = db.lines := by
  cases invoiceId with
  | none => exact resolveOrCreateInvoice_charges context charge
  | some id =>
    dsimp only [targetInvoice]
    cases db.invoices.find? _ with
    | none => exact ⟨rfl, rfl⟩
    | some invoice =>
      dsimp only
      split_ifs <;> exact ⟨rfl, rfl⟩

lemma stageSystemLine_chargeId {charge : UsageCharge} {invoice : UsageInvoice} {line : UsageLine}
    (h : stageSystemLine db charge invoice = .ok line) : line.chargeId = charge.id := by
  obtain ⟨_, _, h⟩ := bind_eq_ok.mp h
  obtain ⟨_, _, h⟩ := bind_eq_ok.mp h
  obtain ⟨_, _, h⟩ := bind_eq_ok.mp h
  rw [← pure_eq_ok.mp h]

/-- **Posting** a charge, refused or not. -/
lemma post_posted (context : PostingContext) (chargeId : ℕ) (invoiceId : Option ℕ) :
    Posted db (post context db chargeId invoiceId).1 := by
  unfold post
  cases hfind : db.charges.find? _ with
  | none => exact .nothing rfl rfl
  | some charge =>
    have hmem := List.mem_of_find?_eq_some hfind
    dsimp only
    split_ifs with hposted hreview hsubscriber
    · exact .nothing rfl rfl
    · exact .nothing rfl rfl
    · obtain ⟨hcharges, hlines⟩ := targetInvoice_charges db context charge invoiceId
      generalize targetInvoice context db charge invoiceId = target at hcharges hlines
      obtain ⟨chosen, _ | invoice⟩ := target
      · exact .nothing hcharges hlines
      · dsimp only at hcharges hlines ⊢
        cases hline : stageSystemLine chosen charge invoice with
        | error e => exact .nothing hcharges hlines
        | ok line =>
          refine .line charge line hmem hposted (stageSystemLine_chargeId hline) ?_ ?_
          · rw [← hlines]
            rfl
          · rw [← hcharges]
            rfl
    · exact .nothing rfl rfl

/-- Only posted charges have a line, and they have at most one; the numbers of charges are their
places. -/
structure Sound (db : RatingDb) : Prop where
  ids : db.charges.map UsageCharge.id = List.range db.charges.length
  lines_lt : ∀ line ∈ db.lines, line.chargeId < db.charges.length
  none_of_not_posted : ∀ charge ∈ db.charges, charge.status ≠ .posted → postings db charge = 0
  postings_le : ∀ charge ∈ db.charges, postings db charge ≤ 1

/-- The records of the charges stay what they are, and the lines sound. -/
def Keeps (db db' : RatingDb) : Prop :=
  (Sound db → Sound db') ∧ ∀ record, billings db' record = billings db record

lemma Keeps.refl (db : RatingDb) : Keeps db db := ⟨id, fun _ => rfl⟩

lemma Keeps.trans {db'' : RatingDb} (h : Keeps db db') (h' : Keeps db' db'') : Keeps db db'' :=
  ⟨h'.1 ∘ h.1, fun record => (h'.2 record).trans (h.2 record)⟩

lemma contributes_posted (record : UsageRecord) (charge : UsageCharge) (lineId : ℕ) :
    Contributes record (charge.posted lineId) ↔ Contributes record charge := Iff.rfl

lemma Sound.eq_of_id (h : Sound db) {charge row : UsageCharge} (hcharge : charge ∈ db.charges)
    (hrow : row ∈ db.charges) (hid : row.id = charge.id) : row = charge := by
  have hnodup : (db.charges.map UsageCharge.id).Nodup := h.ids ▸ List.nodup_range
  exact List.inj_on_of_nodup_map hnodup hrow hcharge hid

lemma Sound.id_lt (h : Sound db) {charge : UsageCharge} (hcharge : charge ∈ db.charges) :
    charge.id < db.charges.length := by
  have hmem := List.mem_map_of_mem (f := UsageCharge.id) hcharge
  rw [h.ids] at hmem
  exact List.mem_range.mp hmem

/-- **Posting is sound**: the charge gets its one line, and is not posted again. -/
lemma Posted.keeps (h : Posted db db') : Keeps db db' := by
  cases h with
  | nothing charges lines =>
    refine ⟨fun hsound => ?_, fun record => ?_⟩
    · have hpostings : postings db' = postings db := by
        funext charge
        rw [postings, postings, lines]
      exact ⟨charges ▸ hsound.ids, by rw [charges, lines]; exact hsound.lines_lt,
        by rw [charges, hpostings]; exact hsound.none_of_not_posted,
        by rw [charges, hpostings]; exact hsound.postings_le⟩
    · rw [billings, billings, charges]
  | line charge line mem notPosted of lines charges =>
    have hkey : ∀ row : UsageCharge,
        (if row.id = charge.id then row.posted line.id else row).id = row.id := by
      intro row
      split_ifs <;> rfl
    have hlength : db'.charges.length = db.charges.length := by
      rw [charges, List.length_map]
    have hpostings : ∀ row, postings db' row = postings db row +
        if charge.id = row.id then 1 else 0 := by
      intro row
      rw [postings, lines, List.countP_append, List.countP_singleton, of, postings]
      simp only [decide_eq_true_eq]
    refine ⟨fun hsound => ⟨?_, ?_, ?_, ?_⟩, fun record => ?_⟩
    · rw [hlength, charges, List.map_map, ← hsound.ids]
      exact List.map_congr_left fun row _ => hkey row
    · intro added hadded
      rw [lines, List.mem_append, List.mem_singleton] at hadded
      rw [hlength]
      rcases hadded with hadded | rfl
      · exact hsound.lines_lt added hadded
      · rw [of]
        exact hsound.id_lt mem
    · intro row' hrow' hopen
      rw [charges] at hrow'
      obtain ⟨row, hrow, rfl⟩ := List.mem_map.mp hrow'
      by_cases hid : row.id = charge.id
      · rw [if_pos hid] at hopen
        exact absurd rfl hopen
      · rw [if_neg hid] at hopen ⊢
        rw [hpostings, if_neg (Ne.symm hid), hsound.none_of_not_posted row hrow hopen]
    · intro row' hrow'
      rw [charges] at hrow'
      obtain ⟨row, hrow, rfl⟩ := List.mem_map.mp hrow'
      have hsame : postings db' (if row.id = charge.id then row.posted line.id else row) =
          postings db' row := by
        rw [postings, hkey, postings]
      rw [hsame, hpostings]
      by_cases hid : row.id = charge.id
      · obtain rfl := hsound.eq_of_id mem hrow hid
        rw [hsound.none_of_not_posted row hrow notPosted, if_pos rfl]
      · rw [if_neg (Ne.symm hid), Nat.add_zero]
        exact hsound.postings_le row hrow
    · rw [billings, charges, List.countP_map, billings]
      refine List.countP_congr fun row _ => ?_
      simp only [Function.comp_apply, decide_eq_true_eq]
      split_ifs
      · exact contributes_posted record row line.id
      · exact Iff.rfl

lemma post_keeps (context : PostingContext) (chargeId : ℕ) (invoiceId : Option ℕ) :
    Keeps db (post context db chargeId invoiceId).1 :=
  (post_posted context chargeId invoiceId).keeps

lemma committed_eq_ok {result : RatingDb × Except RatingError Unit} :
    committed result = .ok db → result.1 = db := by
  obtain ⟨written, refusal | accepted⟩ := result
  · exact fun h => absurd h (by simp [committed])
  · exact Except.ok.inj

lemma postBatch_keeps {context : PostingContext} {periodStart periodEnd : ℤ}
    {accountId : Option ℕ} (h : postBatch context db periodStart periodEnd accountId = .ok db') :
    Keeps db db' := by
  refine foldlM_keeps (p := Keeps db) (fun state charge _ next hnext hstate => ?_) (Keeps.refl db) h
  rw [← committed_eq_ok hnext]
  exact hstate.trans (post_keeps context charge.id none)

lemma bulkPostOne_fst (context : PostingContext) (state : RatingDb × ℕ) (chargeId : ℕ) :
    (bulkPostOne context state chargeId).1 = (post context state.1 chargeId none).1 := by
  unfold bulkPostOne
  obtain ⟨written, refusal | accepted⟩ := post context state.1 chargeId none <;> rfl

lemma foldl_bulkPostOne_keeps (context : PostingContext) (chargeIds : List ℕ) :
    ∀ state : RatingDb × ℕ, Keeps state.1 (chargeIds.foldl (bulkPostOne context) state).1 := by
  induction chargeIds with
  | nil => exact fun state => Keeps.refl state.1
  | cons chargeId chargeIds ih =>
    intro state
    refine Keeps.trans ?_ (ih (bulkPostOne context state chargeId))
    rw [bulkPostOne_fst]
    exact post_keeps context chargeId none

lemma bulkPostByIds_keeps (context : PostingContext) (chargeIds : List ℕ) :
    Keeps db (bulkPostByIds context db chargeIds) := by
  dsimp only [bulkPostByIds]
  split_ifs
  · exact Keeps.refl db
  · exact foldl_bulkPostOne_keeps context chargeIds (db, 0)

/-- The records of the subscription exceed what is included, and the overage is not capped away. -/
def Overdrawn (context : RatingContext) (records : List UsageRecord)
    (subscription : RatedSubscription) (periodStart periodEnd : ℤ) : Prop :=
  roundGb (prorateAllowance context subscription periodStart periodEnd).1 <
      roundGb (periodTotal records subscription.id periodStart periodEnd) ∧
    ∀ cap ∈ (prorateAllowance context subscription periodStart periodEnd).2, 0 < cap

lemma prorateAllowance_cap_onGrid {context : RatingContext} {subscription : RatedSubscription}
    {periodStart periodEnd : ℤ} :
    ∀ cap ∈ (prorateAllowance context subscription periodStart periodEnd).2, OnGrid 4 cap := by
  intro cap hcap
  unfold prorateAllowance at hcap
  cases hallowance : resolveAllowance subscription with
  | none =>
    rw [hallowance] at hcap
    exact absurd hcap (Option.not_mem_none cap)
  | some allowance =>
    rw [hallowance] at hcap
    dsimp only at hcap
    split_ifs at hcap
    · obtain ⟨whole, -, rfl⟩ := Option.map_eq_some_iff.mp hcap
      exact ⟨whole * 10 ^ 4, by push_cast; ring⟩
    · obtain ⟨_, -, rfl⟩ := Option.map_eq_some_iff.mp hcap
      exact onGrid_zero
    · obtain ⟨_, -, rfl⟩ := Option.map_eq_some_iff.mp hcap
      exact onGrid_quantize

lemma sub_pos_iff {x y : ℚ} : 0 < sub x y ↔ y < x := by
  refine ⟨fun h => not_le.mp fun hle => ?_, fun h => ctx_pos (sub_pos.mpr h)⟩
  exact absurd h (not_lt.mpr (ctx_nonpos (sub_nonpos.mpr hle)))

lemma billableVolume_onGrid {totalGb includedGb : ℚ} {capGb : Option ℚ} (ht : OnGrid 4 totalGb)
    (hi : OnGrid 4 includedGb) (hcap : ∀ cap ∈ capGb, OnGrid 4 cap) :
    OnGrid 4 (billableVolume totalGb includedGb capGb) := by
  have hover : OnGrid 4 (max (sub totalGb includedGb) 0) := by
    rcases max_choice (sub totalGb includedGb) 0 with h | h
    · rw [h]
      exact (ht.sub hi).ctx
    · rw [h]
      exact onGrid_zero
  cases capGb with
  | none => exact hover
  | some cap =>
    dsimp only [billableVolume]
    split_ifs
    · exact hcap cap rfl
    · exact hover

lemma billableVolume_pos_iff {totalGb includedGb : ℚ} {capGb : Option ℚ} :
    0 < billableVolume totalGb includedGb capGb ↔
      includedGb < totalGb ∧ ∀ cap ∈ capGb, 0 < cap := by
  have hover : 0 < max (sub totalGb includedGb) 0 ↔ includedGb < totalGb := by
    rw [lt_max_iff, sub_pos_iff]
    exact or_iff_left (lt_irrefl 0)
  rw [← hover]
  cases capGb with
  | none => exact (and_iff_left fun cap hcap => absurd hcap (Option.not_mem_none cap)).symm
  | some cap =>
    have hforall : (∀ c ∈ some cap, 0 < c) ↔ 0 < cap :=
      ⟨fun h => h cap rfl, fun h c hc => Option.some.inj hc ▸ h⟩
    rw [hforall]
    dsimp only [billableVolume]
    split_ifs with hcap
    · exact ⟨fun h => ⟨h.trans hcap, h⟩, And.right⟩
    · exact ⟨fun h => ⟨h, h.trans_le (not_lt.mp hcap)⟩, And.left⟩

/-- **A charge bills something** if and only if the subscription is overdrawn. -/
lemma chargeFor_billableGb_pos_iff {context : RatingContext} {periodStart periodEnd runAt : ℤ}
    {id : ℕ} {subscription : RatedSubscription} :
    0 < (chargeFor context records periodStart periodEnd runAt id subscription).billableGb ↔
      Overdrawn context records subscription periodStart periodEnd := by
  dsimp only [chargeFor]
  rw [roundGb, quantize_of_onGrid, billableVolume_pos_iff, Overdrawn]
  exact billableVolume_onGrid onGrid_quantize onGrid_quantize prorateAllowance_cap_onGrid

/-- A run bills a record that a charge has billed. -/
def Rebills (records : List UsageRecord) (db : RatingDb) (context : RatingContext)
    (subscription : RatedSubscription) (periodStart periodEnd : ℤ) : Prop :=
  (∀ charge ∈ db.charges, ¬ charge.Covers subscription.id periodStart periodEnd) ∧
    Overdrawn context records subscription periodStart periodEnd ∧
      ∃ record ∈ records, record.totalGb ≠ 0 ∧ record.Within subscription.id periodStart periodEnd ∧
        ∃ charge ∈ db.charges, Contributes record charge

def added (context : RatingContext) (records : List UsageRecord) (db : RatingDb)
    (payload : UsageRatingRunRequest) (now : ℤ) : List UsageCharge :=
  let period := periodBounds payload now
  (unrated db.charges period.1 period.2 (scanned context payload)).mapIdx fun i =>
    chargeFor context records period.1 period.2 now (db.charges.length + i)

lemma rate_eq_ok {context : RatingContext} {payload : UsageRatingRunRequest} {now : ℤ}
    (h : rate context records db payload now = .ok db') :
    payload.dryRun = true ∧ db' = db ∨
      payload.dryRun = false ∧ db'.lines = db.lines ∧
        db'.charges = db.charges ++ added context records db payload now := by
  unfold rate at h
  dsimp only at h
  cases hdry : payload.dryRun with
  | true =>
    rw [hdry, if_pos rfl] at h
    exact .inl ⟨rfl, (pure_eq_ok.mp h).symm⟩
  | false =>
    rw [hdry, if_neg Bool.false_ne_true] at h
    obtain ⟨_, _, h⟩ := bind_eq_ok.mp h
    obtain rfl := pure_eq_ok.mp h
    exact .inr ⟨rfl, rfl, rfl⟩

section Added

variable {context : RatingContext} {payload : UsageRatingRunRequest} {now : ℤ}
  {record : UsageRecord}

lemma mem_unrated {charges : List UsageCharge} {periodStart periodEnd : ℤ}
    {subscriptions : List RatedSubscription} {subscription : RatedSubscription} :
    subscription ∈ unrated charges periodStart periodEnd subscriptions ↔
      subscription ∈ subscriptions ∧
        ∀ charge ∈ charges, ¬ charge.Covers subscription.id periodStart periodEnd := by
  rw [unrated, List.mem_filter, decide_eq_true_eq]

lemma exists_added_contributes_iff :
    (∃ charge ∈ added context records db payload now, Contributes record charge) ↔
      ∃ subscription ∈ scanned context payload,
        (∀ charge ∈ db.charges, ¬ charge.Covers subscription.id (periodBounds payload now).1
          (periodBounds payload now).2) ∧
        Overdrawn context records subscription (periodBounds payload now).1
          (periodBounds payload now).2 ∧
        record.totalGb ≠ 0 ∧ record.Within subscription.id (periodBounds payload now).1
          (periodBounds payload now).2 := by
  constructor
  · rintro ⟨charge, hcharge, hwithin, htotal, hpos⟩
    obtain ⟨i, hi, rfl⟩ := List.mem_mapIdx.mp hcharge
    obtain ⟨hscanned, hnone⟩ := mem_unrated.mp (List.getElem_mem hi)
    exact ⟨_, hscanned, hnone, chargeFor_billableGb_pos_iff.mp hpos, htotal, hwithin⟩
  · rintro ⟨subscription, hscanned, hnone, hover, htotal, hwithin⟩
    obtain ⟨i, hi, hget⟩ := List.mem_iff_getElem.mp (mem_unrated.mpr ⟨hscanned, hnone⟩)
    refine ⟨_, List.mem_mapIdx.mpr ⟨i, hi, rfl⟩, ?_, htotal, ?_⟩
    · rw [hget]
      exact hwithin
    · rw [hget]
      exact chargeFor_billableGb_pos_iff.mpr hover

/-- The charges of a run are for different subscriptions. -/
lemma added_nodup : ((added context records db payload now).map (·.subscriptionId)).Nodup := by
  have hids : (added context records db payload now).map (·.subscriptionId) =
      (unrated db.charges (periodBounds payload now).1 (periodBounds payload now).2
        (scanned context payload)).map RatedSubscription.id := by
    refine List.ext_getElem (by simp [added]) fun i _ _ => ?_
    simp [added, chargeFor]
  rw [hids]
  exact context.distinct.sublist
    ((List.filter_sublist.trans List.filter_sublist).map RatedSubscription.id)

lemma countP_added_le :
    (added context records db payload now).countP (Contributes record ·) ≤ 1 := by
  have hone : ((added context records db payload now).map (·.subscriptionId)).count
      record.subscriptionId ≤ 1 := List.nodup_iff_count_le_one.mp added_nodup _
  rw [List.count, List.countP_map] at hone
  refine le_trans (List.countP_mono_left fun charge _ hcharge => ?_) hone
  exact beq_iff_eq.mpr (of_decide_eq_true hcharge).1.1.symm

lemma added_ids : (added context records db payload now).map UsageCharge.id =
    (List.range (added context records db payload now).length).map (db.charges.length + ·) := by
  refine List.ext_getElem (by simp) fun i _ _ => ?_
  simp [added, chargeFor]

lemma le_id_of_mem_added {charge : UsageCharge}
    (h : charge ∈ added context records db payload now) : db.charges.length ≤ charge.id := by
  have hid := List.mem_map_of_mem (f := UsageCharge.id) h
  rw [added_ids] at hid
  obtain ⟨i, -, hi⟩ := List.mem_map.mp hid
  omega

/-- **Rating is sound**: its charges have no lines. -/
lemma rate_sound (hsound : Sound db) (hlines : db'.lines = db.lines)
    (hcharges : db'.charges = db.charges ++ added context records db payload now) : Sound db' := by
  have hpostings : postings db' = postings db := by
    funext charge
    rw [postings, postings, hlines]
  have hnew : ∀ charge ∈ added context records db payload now, postings db charge = 0 := by
    intro charge hcharge
    rw [postings, List.countP_eq_zero]
    intro line hline
    have hlt := hsound.lines_lt line hline
    have hle := le_id_of_mem_added hcharge
    rw [decide_eq_true_eq]
    omega
  refine ⟨?_, ?_, ?_, ?_⟩
  · rw [hcharges, List.map_append, hsound.ids, added_ids, List.length_append, List.range_add]
  · intro line hline
    rw [hcharges, List.length_append]
    exact (hsound.lines_lt line (hlines ▸ hline)).trans_le (Nat.le_add_right _ _)
  · intro charge hcharge hopen
    rw [hpostings]
    rw [hcharges] at hcharge
    rcases List.mem_append.mp hcharge with hold | hadded
    · exact hsound.none_of_not_posted charge hold hopen
    · exact hnew charge hadded
  · intro charge hcharge
    rw [hpostings]
    rw [hcharges] at hcharge
    rcases List.mem_append.mp hcharge with hold | hadded
    · exact hsound.postings_le charge hold
    · exact (hnew charge hadded).trans_le zero_le_one

/-- **A run bills each record once** if and only if it bills no record again. -/
lemma rate_billings_iff (hbilled : ∀ record ∈ records, billings db record ≤ 1)
    (hcharges : db'.charges = db.charges ++ added context records db payload now) :
    (∀ record ∈ records, billings db' record ≤ 1) ↔ ∀ subscription ∈ scanned context payload,
      ¬ Rebills records db context subscription (periodBounds payload now).1
        (periodBounds payload now).2 := by
  have hsum : ∀ record, billings db' record = billings db record +
      (added context records db payload now).countP (Contributes record ·) := by
    intro record
    rw [billings, hcharges, List.countP_append, billings]
  constructor
  · rintro honce subscription hscanned ⟨hnone, hover, record, hrecord, htotal, hwithin, hold⟩
    have hfirst : 0 < billings db record := by
      rw [billings, List.countP_pos_iff]
      simpa only [decide_eq_true_eq] using hold
    have hsecond : 0 < (added context records db payload now).countP (Contributes record ·) := by
      rw [List.countP_pos_iff]
      simpa only [decide_eq_true_eq] using exists_added_contributes_iff.mpr
        ⟨subscription, hscanned, hnone, hover, htotal, hwithin⟩
    have hle := honce record hrecord
    rw [hsum] at hle
    omega
  · intro hfresh record hrecord
    rw [hsum]
    have hold := hbilled record hrecord
    have hnew : (added context records db payload now).countP (Contributes record ·) ≤ 1 :=
      countP_added_le
    by_contra! hboth
    have hfirst : 0 < billings db record := by omega
    have hsecond : 0 < (added context records db payload now).countP (Contributes record ·) := by
      omega
    rw [billings, List.countP_pos_iff] at hfirst
    rw [List.countP_pos_iff] at hsecond
    simp only [decide_eq_true_eq] at hfirst hsecond
    obtain ⟨subscription, hscanned, hnone, hover, htotal, hwithin⟩ :=
      exists_added_contributes_iff.mp hsecond
    exact hfresh subscription hscanned ⟨hnone, hover, record, hrecord, htotal, hwithin, hfirst⟩

end Added

/-- The operation bills no record again; a dry run bills nothing. -/
def BillsFresh (records : List UsageRecord) (db : RatingDb) : RatingCommand → Prop
  | .rate context payload now => payload.dryRun = true ∨
      ∀ subscription ∈ scanned context payload, ¬ Rebills records db context subscription
        (periodBounds payload now).1 (periodBounds payload now).2
  | _ => True

def Billed (records : List UsageRecord) (db : RatingDb) : Prop :=
  Sound db ∧ ∀ record ∈ records, billings db record ≤ 1

lemma Billed.billedOnce (h : Billed records db) : BilledOnce records db := ⟨h.2, h.1.postings_le⟩

lemma Keeps.billed (h : Keeps db db') (hdb : Billed records db) : Billed records db' :=
  ⟨h.1 hdb.1, fun record hrecord => (h.2 record).trans_le (hdb.2 record hrecord)⟩

/-- Every operation but rating keeps the charges and the soundness. -/
lemma ratingStep_keeps {c : RatingCommand}
    (hrate : ∀ context payload now, c ≠ .rate context payload now)
    (hok : ratingStep records db c = .ok db') : Keeps db db' := by
  cases c with
  | rate context payload now => exact absurd rfl (hrate context payload now)
  | post context chargeId invoiceId =>
    rw [← committed_eq_ok hok]
    exact post_keeps context chargeId invoiceId
  | postBatch context periodStart periodEnd accountId => exact postBatch_keeps hok
  | bulkPostByIds context chargeIds =>
    obtain rfl := Except.ok.inj hok
    exact bulkPostByIds_keeps context chargeIds
  | setInvoices invoices =>
    obtain rfl := Except.ok.inj hok
    exact Posted.keeps (.nothing rfl rfl)

lemma ratingStep_sound {c : RatingCommand} (hsound : Sound db)
    (hok : ratingStep records db c = .ok db') : Sound db' := by
  cases c with
  | rate context payload now =>
    rcases rate_eq_ok hok with ⟨-, rfl⟩ | ⟨-, hlines, hcharges⟩
    · exact hsound
    · exact rate_sound hsound hlines hcharges
  | _ => exact (ratingStep_keeps (fun _ _ _ => RatingCommand.noConfusion) hok).1 hsound

lemma ratingStep_billed_iff {c : RatingCommand} (h : Billed records db)
    (hok : ratingStep records db c = .ok db') : Billed records db' ↔ BillsFresh records db c := by
  cases c with
  | rate context payload now =>
    rcases rate_eq_ok hok with ⟨hdry, rfl⟩ | ⟨hdry, hlines, hcharges⟩
    · exact iff_of_true h (.inl hdry)
    · rw [Billed, and_iff_right (rate_sound h.1 hlines hcharges), rate_billings_iff h.2 hcharges,
        BillsFresh, or_iff_right (hdry ▸ Bool.false_ne_true)]
  | _ =>
    refine iff_of_true ?_ trivial
    exact (ratingStep_keeps (fun _ _ _ => RatingCommand.noConfusion) hok).billed h

/-- **Usage is billed once** in exactly the runs in which no rating run bills a record again. -/
theorem billed_once_iff (h : Billed records db) (cs : List RatingCommand) :
    (∀ before after, cs = before ++ after →
      BilledOnce records (run (ratingStep records) db before)) ↔
        Guarded (ratingStep records) (BillsFresh records) db cs := by
  have hiff : (∀ before after, cs = before ++ after →
      Billed records (run (ratingStep records) db before)) ↔
        Guarded (ratingStep records) (BillsFresh records) db cs :=
    forall_prefix_iff_guarded (fun _ _ _ hs hc hok => (ratingStep_billed_iff hs hok).mpr hc)
      (fun _ _ _ hs hok hs' => (ratingStep_billed_iff hs hok).mp hs') cs db h
  rw [← hiff]
  refine ⟨fun honce before after heq => ⟨?_, (honce before after heq).1⟩,
    fun hbilled before after heq => (hbilled before after heq).billedOnce⟩
  exact invariant_run (fun _ _ _ hs hok => ratingStep_sound hs hok) before h.1

/-- **A charge is posted once**: in every run it has at most one invoice line, and none unless it is
posted. -/
theorem postedOnce_run (db : RatingDb) (cs : List RatingCommand) :
    Sound (run (ratingStep records) { db with charges := [], lines := [] } cs) := by
  refine invariant_run (fun _ _ _ hs hok => ratingStep_sound hs hok) cs ⟨rfl, ?_, ?_, ?_⟩
  · exact fun line hline => absurd hline List.not_mem_nil
  · exact fun charge hcharge => absurd hcharge List.not_mem_nil
  · exact fun charge hcharge => absurd hcharge List.not_mem_nil

/-! ## Two periods -/

def tenGigabytes : UsageRecord := ⟨0, 15, 10, 10 * 10 ^ 4, by norm_num⟩

lemma meteredPlan_distinct : [0].Nodup := List.nodup_singleton 0

/-- One subscription, which includes nothing and pays 2 for a gigabyte. -/
def meteredPlan : RatingContext where
  subscriptions := [⟨0, 0, none, none, none, some ⟨some 0, some 2, none⟩⟩]
  distinct := meteredPlan_distinct
  defaultCurrency := none
  defaultChargeStatus := none
  ratio := fun _ _ => 1

def draftInvoices : PostingContext := ⟨none, fun _ invoice => invoice.status⟩

def noCharges : RatingDb := ⟨[0], [], [], [], []⟩

def rateFrom (periodStart periodEnd : ℤ) : RatingCommand :=
  .rate meteredPlan ⟨some periodStart, some periodEnd, none, false⟩ 50

/-- **Overlapping periods bill a record twice**: two runs that share the record, and both charges
are posted. -/
theorem billed_twice :
    ¬ BilledOnce [tenGigabytes] (run (ratingStep [tenGigabytes]) noCharges
        [rateFrom 0 20, rateFrom 10 30]) ∧
      (run (ratingStep [tenGigabytes]) noCharges [rateFrom 0 20, rateFrom 10 30,
        .bulkPostByIds draftInvoices [0, 1]]).lines.map (·.amount) = [20, 20] := by
  have hbilled : billings (run (ratingStep [tenGigabytes]) noCharges
      [rateFrom 0 20, rateFrom 10 30]) tenGigabytes = 2 := by decide +kernel
  have hlines : (run (ratingStep [tenGigabytes]) noCharges [rateFrom 0 20, rateFrom 10 30,
      .bulkPostByIds draftInvoices [0, 1]]).lines.map (·.amount) = [20, 20] := by decide +kernel
  refine ⟨fun honce => ?_, hlines⟩
  have hle := honce.1 tenGigabytes (List.mem_singleton_self _)
  rw [hbilled] at hle
  omega

/-- Two adjacent periods, of which one run is repeated. -/
theorem billed_once_iff_adjacent :
    (∀ before after, [rateFrom 0 15, rateFrom 15 30, rateFrom 0 15,
        .bulkPostByIds draftInvoices [1, 1]] = before ++ after →
      BilledOnce [tenGigabytes] (run (ratingStep [tenGigabytes]) noCharges before)) ↔
        Guarded (ratingStep [tenGigabytes]) (BillsFresh [tenGigabytes]) noCharges
          [rateFrom 0 15, rateFrom 15 30, rateFrom 0 15,
            .bulkPostByIds draftInvoices [1, 1]] := by
  refine billed_once_iff ⟨⟨rfl, ?_, ?_, ?_⟩, ?_⟩ _
  · exact fun line hline => absurd hline List.not_mem_nil
  · exact fun charge hcharge => absurd hcharge List.not_mem_nil
  · exact fun charge hcharge => absurd hcharge List.not_mem_nil
  · exact fun record _ => Nat.zero_le 1

end DotmacSub.Usage
