import DotmacSub.Billing.Anniversary
import DotmacSub.Billing.ContractSteps
import DotmacSub.Core.Run

/-!
# The billing anchor under add-on purchases

A recurring add-on is put into a draft that starts where the current service period ends, and when
its timer fires the draft becomes the current version, with its own start as the origin of its
cadence.  So a chain of purchases is a chain of re-anchorings, and the boundaries of the original
contract survive it as long as every activated boundary reads back (`ReadsBack`) as the day and the
time of day of the version it replaces.
-/

namespace DotmacSub

namespace Contracts

open Store Checked Cadence Gregorian Run

/-- One step in the life of a contract with add-ons. -/
inductive AddonCommand
  | purchase (term : RecurringAddonPurchaseTermSnapshot) (eventId : ℕ) (context : CommandContext)
  | fireDueTimers (now : ℤ) (batchLimit : ℕ)
  | activate (due : PendingTermsDue) (eventId : ℕ) (context : CommandContext)

/-- One command of the chain. -/
def addonStep (env : BillingEnv) (db : BillingDb) : AddonCommand → Except DomainError BillingDb
  | .purchase term eventId context =>
    Prod.fst <$> consumeRecurringAddonPurchase env db term eventId context
  | .fireDueTimers now batchLimit =>
    .ok { db with timers := fireDue db.timers now batchLimit }
  | .activate due eventId context =>
    Prod.fst <$> consumePendingTermsEffectiveDue db due eventId context

/-- **The condition on an activation** of contract `k`: on the wall clock of the contract zone, the
boundary shows the day of the month and the time of day of the current version's start.  In a zone
with a fixed offset this says that the boundary was not clamped to a shorter month. -/
def KeepsAnniversary (env : BillingEnv) (k : ℕ) (db : BillingDb) : AddonCommand → Prop
  | .activate due _ _ => due.contractId = k →
      ∀ draft ∈ (dueDraft db due).filter (·.status = .draft), ∀ current ∈ currentEffective db k,
        ∀ cadence ∈ (cadenceOf env current).toOption,
          ReadsBack cadence.zone current.startsAt draft.startsAt
  | _ => True

/-- The periods from `t` on are the periods from `s` on, after the first `n`. -/
structure SuffixOf (c : BillingCadence) (s t : ℤ) (n : ℤ) : Prop where
  nonneg : 0 ≤ n
  periods : ∀ i, 0 ≤ i → servicePeriod c (.aware t) i = servicePeriod c (.aware s) (n + i)
  start : (n = 0 ∧ t = s) ∨
    ∃ p, servicePeriod c (.aware s) (n - 1) = .ok p ∧ p.endsAt = t

lemma SuffixOf.refl (c : BillingCadence) (s : ℤ) : SuffixOf c s s 0 :=
  ⟨le_rfl, fun i _ => by rw [zero_add], .inl ⟨rfl, rfl⟩⟩

/-- Re-anchoring once more. -/
lemma SuffixOf.extend {c : BillingCadence} (hc : IsMonthlyAnniversary c.toCadenceTerms)
    {s t n m : ℤ} {p : Interval} (h : SuffixOf c s t n)
    (hp : servicePeriod c (.aware t) m = .ok p) (hb : ReadsBack c.zone t p.endsAt) :
    SuffixOf c s p.endsAt (n + (m + 1)) := by
  have hm := (inRange_of_servicePeriod hc hp).1
  have hn := h.nonneg
  refine ⟨by omega, fun i hi => ?_, .inr ⟨p, ?_, rfl⟩⟩
  · rw [servicePeriod_readsBack hc hp hb hi, h.periods _ (by omega)]
    congr 1
    ring
  · rw [show n + (m + 1) - 1 = n + m by ring, ← h.periods m hm]
    exact hp

/-- **A suffix has exactly the later periods.** -/
theorem SuffixOf.period_iff {c : BillingCadence} (hc : IsMonthlyAnniversary c.toCadenceTerms)
    {s t n : ℤ} (h : SuffixOf c s t n) (p : Interval) :
    (∃ i, servicePeriod c (.aware t) i = .ok p) ↔
      (∃ i, servicePeriod c (.aware s) i = .ok p) ∧ t ≤ p.startsAt := by
  constructor
  · rintro ⟨i, hi⟩
    have hi0 := (inRange_of_servicePeriod hc hi).1
    refine ⟨⟨n + i, by rw [← h.periods i hi0]; exact hi⟩, ?_⟩
    rcases h.start with ⟨rfl, rfl⟩ | ⟨q, hq, rfl⟩
    · rcases hi0.eq_or_lt with rfl | hpos
      · have hstart := (servicePeriod_anniversary_ok hc hi).1
        simp only [anniversaryStart, if_true, Except.ok.injEq] at hstart
        exact hstart.le
      · -- the end of period 0 is not before period `i` starts
        by_contra hlt
        have hnear := startsAt_near hc hi
        have hback := localWall_near c.zone t
        have hk := c.count_pos.1
        have hgap := shiftedLocal_month_gap (c.zone.localWall t)
          (show c.serviceIntervalCount * 0 < c.serviceIntervalCount * i by nlinarith)
        rw [mul_zero, shiftedLocal_zero] at hgap
        have : (0 : ℤ) < usPerDay := by decide
        omega
    · by_contra hlt
      rw [h.periods i hi0] at hi
      have := le_of_startsAt_lt_endsAt hc hi hq (not_le.mp hlt)
      omega
  · rintro ⟨⟨j, hj⟩, hle⟩
    rcases lt_or_ge j n with hjn | hnj
    · rcases h.start with ⟨rfl, -⟩ | ⟨q, hq, rfl⟩
      · exact absurd (inRange_of_servicePeriod hc hj).1 (not_le.mpr hjn)
      · have hqlt := q.starts_lt_ends
        rcases (show j ≤ n - 1 by omega).eq_or_lt with rfl | hlt
        · obtain rfl := Except.ok.inj (hj.symm.trans hq)
          omega
        · have := startsAt_lt hc hj hq hlt
          omega
    · refine ⟨j - n, ?_⟩
      rw [h.periods _ (by omega), show n + (j - n) = j by ring]
      exact hj

/-- A draft that continues the chain: it starts at the end of a period of the version it
supersedes, for as long as that version is effective. -/
def DraftOk (c : BillingCadence) (db : BillingDb) (d : BillingContractVersion) : Prop :=
  d.terms = c.toCadenceTerms ∧ ∃ v ∈ db.versions.rows, d.supersedesId = some v.id ∧
    v.status ≠ .draft ∧ (v.status = .effective →
      ∃ m p, servicePeriod c (.aware v.startsAt) m = .ok p ∧ p.endsAt = d.startsAt)

/-- What holds of contract `k` along a chain of purchases from a version that started at `s`: its
current version continues the original cadence, and its only draft continues the current one. -/
structure ChainInv (c : BillingCadence) (s : ℤ) (k : ℕ) (db : BillingDb) : Prop where
  current : ∀ v ∈ db.versions.rows, v.contractId = k → v.status = .effective → v.endsAt = none →
    v.terms = c.toCadenceTerms ∧ ∃ n, SuffixOf c s v.startsAt n
  unique : ∀ d ∈ db.versions.rows, ∀ e ∈ db.versions.rows, d.contractId = k → e.contractId = k →
    d.status = .draft → e.status = .draft → d.id = e.id
  draft : ∀ d ∈ db.versions.rows, d.contractId = k → d.status = .draft → DraftOk c db d

lemma ChainInv.congr {c : BillingCadence} {s : ℤ} {k : ℕ} {db db' : BillingDb}
    (h : ChainInv c s k db) (hv : db'.versions = db.versions) : ChainInv c s k db' := by
  obtain ⟨h1, h2, h3⟩ := h
  simp only [DraftOk] at h3
  exact ⟨by rwa [hv], by rwa [hv], by simpa only [DraftOk, hv] using h3⟩

lemma DraftOk.transport {c : BillingCadence} {db db' : BillingDb} {d e : BillingContractVersion}
    (h : DraftOk c db d) (hde : SameTerms d e)
    (hkeep : ∀ w ∈ db.versions.rows, ∃ v ∈ db'.versions.rows, SameTerms w v) :
    DraftOk c db' e := by
  obtain ⟨hterms, w, hw, hsup, hne, hper⟩ := h
  obtain ⟨v, hv, hid, -, -, hs, hst, -⟩ := hkeep w hw
  obtain ⟨-, -, -, -, hst', -, ht', hsup'⟩ := hde
  refine ⟨ht'.trans hterms, v, hv, ?_, hs ▸ hne, fun hve => ?_⟩
  · rw [hsup', hsup, hid]
  · rw [hst, hst']
    exact hper (hs ▸ hve)

/-- A table whose rows have the terms of old rows, apart from at most one new draft, keeps the
invariant when the new draft is the first of its contract. -/
lemma ChainInv.of_rows {c : BillingCadence} {s : ℤ} {k : ℕ} {db db' : BillingDb}
    (h : ChainInv c s k db) (new : Option BillingContractVersion)
    (hrows : ∀ v ∈ db'.versions.rows, (∃ w ∈ db.versions.rows, SameTerms w v) ∨
      ∃ d ∈ new, SameTerms d v ∧ d.status = .draft)
    (hkeep : ∀ w ∈ db.versions.rows, ∃ v ∈ db'.versions.rows, SameTerms w v)
    (hnew : ∀ d ∈ new, d.contractId = k → drafts db k = [] ∧ DraftOk c db d) :
    ChainInv c s k db' := by
  -- a draft of the contract is an old one, or the new one when there was none
  have hdraft : ∀ d ∈ db'.versions.rows, d.contractId = k → d.status = .draft →
      ∃ w, SameTerms w d ∧ DraftOk c db w ∧
        ((w ∈ db.versions.rows ∧ drafts db k ≠ []) ∨ (w ∈ new ∧ drafts db k = [])) := by
    intro d hd hdk hds
    rcases hrows d hd with ⟨w, hw, hsame⟩ | ⟨w, hw, hsame, hws⟩
    · have hwk : w.contractId = k := hsame.2.1 ▸ hdk
      have hws : w.status = .draft := hsame.2.2.2.1 ▸ hds
      refine ⟨w, hsame, h.draft w hw hwk hws, .inl ⟨hw, fun hnil => ?_⟩⟩
      simpa [hnil] using mem_drafts.mpr ⟨hw, hwk, hws⟩
    · obtain ⟨hnil, hok⟩ := hnew w hw (hsame.2.1 ▸ hdk)
      exact ⟨w, hsame, hok, .inr ⟨hw, hnil⟩⟩
  refine ⟨fun v hv hk hs he => ?_, fun d hd e he hdk hek hds hes => ?_, fun d hd hdk hds => ?_⟩
  · rcases hrows v hv with ⟨w, hw, -, hk', -, hs', hst', he', ht', -⟩ | ⟨d, -, ⟨-, -, -, hds, -⟩, hd⟩
    · have := h.current w hw (hk' ▸ hk) (hs' ▸ hs) (he' ▸ he)
      rwa [ht', hst']
    · rw [hds, hd] at hs
      cases hs
  · obtain ⟨w, hwd, -, hw⟩ := hdraft d hd hdk hds
    obtain ⟨x, hxe, -, hx⟩ := hdraft e he hek hes
    rw [hwd.1, hxe.1]
    rcases hw with ⟨hw, hne⟩ | ⟨hw, hnil⟩ <;> rcases hx with ⟨hx, hne'⟩ | ⟨hx, hnil'⟩
    · exact h.unique w hw x hx (hwd.2.1 ▸ hdk) (hxe.2.1 ▸ hek) (hwd.2.2.2.1 ▸ hds)
        (hxe.2.2.2.1 ▸ hes)
    · exact absurd hnil' hne
    · exact absurd hnil hne'
    · rw [Option.mem_unique hw hx]
  · obtain ⟨w, hsame, hok, -⟩ := hdraft d hd hdk hds
    exact hok.transport hsame hkeep

lemma SameTerms.refl (v : BillingContractVersion) : SameTerms v v :=
  ⟨rfl, rfl, rfl, rfl, rfl, rfl, rfl, rfl⟩

lemma SameTerms.live (contract : BillingContract) (v : BillingContractVersion) :
    SameTerms v (live contract v) :=
  ⟨rfl, rfl, rfl, rfl, rfl, rfl, rfl, rfl⟩

lemma periodWalk_ok {c : BillingCadence} {s t : ℤ} {m : ℕ} :
    ∀ {remaining index i : ℕ} {p : Interval}, periodWalk c s t m remaining index = .ok (i, p) →
      servicePeriod c (.aware s) i = .ok p ∧ p.contains t
  | 0, _, _, _, h => by cases h
  | remaining + 1, index, i, p, h => by
    rw [periodWalk] at h
    obtain ⟨q, hq, h⟩ := bind_eq_ok.mp h
    split_ifs at h with ht
    · obtain ⟨rfl, rfl⟩ := mk_eq_ok.mp h
      exact ⟨hq, ht⟩
    · exact periodWalk_ok h

lemma periodContaining_ok {c : BillingCadence} {s : ℤ} {m : Moment} {n i : ℕ} {p : Interval}
    (h : periodContaining c s m n = .ok (i, p)) : servicePeriod c (.aware s) i = .ok p := by
  obtain ⟨t, -, h⟩ := bind_eq_ok.mp h
  obtain ⟨a, -, h⟩ := bind_eq_ok.mp h
  obtain ⟨-, h⟩ := ensure_bind_eq_ok.mp h
  exact (periodWalk_ok h).1

section Step

variable {env : BillingEnv} {c : BillingCadence} {s : ℤ} {k : ℕ} {db db' : BillingDb}
  {v₀ : BillingContractVersion}

lemma cadence_eq (hc : cadenceOf env v₀ = .ok c) {v : BillingContractVersion} {c' : BillingCadence}
    (hv : v.terms = c.toCadenceTerms) (h : cadenceOf env v = .ok c') : c' = c := by
  rw [cadenceOf_congr (hv.trans (terms_of_cadenceOf hc)), hc] at h
  exact (Except.ok.inj h).symm

lemma ChainInv.purchase (hc : cadenceOf env v₀ = .ok c) (h : ChainInv c s k db)
    {term : RecurringAddonPurchaseTermSnapshot} (hstep : PurchaseStep env db db' term) :
    ChainInv c s k db' := by
  obtain ⟨contract, current, cadence, i, p, base, draft, -, hcurrent, hcadence, hp, hdraft, hv⟩ :=
    hstep.step
  obtain ⟨hmem, hck, hcs, hce⟩ := currentEffective_eq_some hcurrent
  have hedit : ∀ v ∈ db'.versions.rows, ∃ w ∈ base.versions.rows, SameTerms w v := by
    intro v hv'
    rw [hv, Table.mem_update] at hv'
    rcases hv' with ⟨hv', -⟩ | ⟨w, hw, -, rfl⟩
    · exact ⟨v, hv', .refl v⟩
    · exact ⟨w, hw, .live contract w⟩
  have hkeep : ∀ w ∈ base.versions.rows, ∃ v ∈ db'.versions.rows, SameTerms w v := by
    intro w hw
    rw [hv]
    by_cases hid : w.id = draft.id
    · exact ⟨live contract w, Table.mem_update.mpr (.inr ⟨w, hw, hid, rfl⟩), .live contract w⟩
    · exact ⟨w, Table.mem_update.mpr (.inl ⟨hw, hid⟩), .refl w⟩
  cases hdraft with
  | existing hbase =>
    subst hbase
    exact h.of_rows none (fun v hv' => .inl (hedit v hv')) hkeep
      fun _ hd => absurd hd (Option.not_mem_none _)
  | created hnone _ hrows hcontract hstatus hstart _ hterms hsup _ _ =>
    refine h.of_rows (some draft) (fun v hv' => ?_) (fun w hw => hkeep w ((hrows w).mpr (.inl hw)))
      (fun d hd hdk => ?_)
    · obtain ⟨w, hw, hsame⟩ := hedit v hv'
      rcases (hrows w).mp hw with hw | rfl
      · exact .inl ⟨w, hw, hsame⟩
      · exact .inr ⟨w, rfl, hsame, hstatus⟩
    · obtain rfl := Option.mem_some.mp hd
      rw [hcontract] at hdk
      have hcterms := (h.current current hmem (hck.trans hdk) hcs hce).1
      obtain rfl := cadence_eq hc hcterms hcadence
      refine ⟨hdk ▸ hnone, hterms.trans hcterms, current, hmem, hsup, ?_, fun _ => ?_⟩
      · rw [hcs]
        nofun
      · exact ⟨i, p, periodContaining_ok hp, hstart.symm⟩

lemma activation_rows {draft current : BillingContractVersion} (hd : draft ∈ db.versions.rows)
    (hds : draft.status = .draft) (hc : current ∈ db.versions.rows)
    (hcs : current.status = .effective)
    (hv : db'.versions = (supersede db current.id draft.startsAt).versions.update draft.id
      activated id_activated) (v : BillingContractVersion) :
    v ∈ db'.versions.rows ↔ v = activated draft ∨ v = closed draft.startsAt current ∨
      v ∈ db.versions.rows ∧ v.id ≠ draft.id ∧ v.id ≠ current.id := by
  have hne : draft.id ≠ current.id := fun hid => by
    rw [Table.eq_of_id_eq hd hc hid, hcs] at hds
    cases hds
  have hmem : ∀ w, w ∈ (supersede db current.id draft.startsAt).versions.rows ↔
      (w ∈ db.versions.rows ∧ w.id ≠ current.id) ∨ w = closed draft.startsAt current := by
    intro w
    rw [supersede, Table.mem_update]
    refine or_congr Iff.rfl ⟨?_, ?_⟩
    · rintro ⟨x, hx, hid, rfl⟩
      rw [Table.eq_of_id_eq hx hc hid]
    · rintro rfl
      exact ⟨current, hc, rfl, rfl⟩
  rw [hv, Table.mem_update]
  constructor
  · rintro (⟨hw, hid⟩ | ⟨w, hw, hid, rfl⟩)
    · rcases (hmem v).mp hw with ⟨hw, hc'⟩ | rfl
      · exact .inr (.inr ⟨hw, hid, hc'⟩)
      · exact .inr (.inl rfl)
    · rcases (hmem w).mp hw with ⟨hw, -⟩ | rfl
      · rw [Table.eq_of_id_eq hw hd hid]
        exact .inl rfl
      · exact absurd hid.symm hne
  · rintro (rfl | rfl | ⟨hw, hid, hc'⟩)
    · exact .inr ⟨draft, (hmem draft).mpr (.inl ⟨hd, hne⟩), rfl, rfl⟩
    · exact .inl ⟨(hmem _).mpr (.inr rfl), hne.symm⟩
    · exact .inl ⟨(hmem v).mpr (.inl ⟨hw, hc'⟩), hid⟩

lemma ChainInv.activate (hc : cadenceOf env v₀ = .ok c)
    (hm : IsMonthlyAnniversary c.toCadenceTerms) (h : ChainInv c s k db) {due : PendingTermsDue}
    {e : ℕ} {context : CommandContext} (hkeep : KeepsAnniversary env k db (.activate due e context))
    (hstep : ActivationStep db db' due) : ChainInv c s k db' := by
  obtain ⟨draft, current, hdue, hds, hcurrent, hsup, hv, -⟩ := hstep.step
  obtain ⟨hmem, hck, hcs, hce⟩ := currentEffective_eq_some hcurrent
  have hdmem : draft ∈ db.versions.rows := List.mem_of_find?_eq_some hdue
  have hdk : draft.contractId = due.contractId := by
    have := List.find?_some hdue
    simp only [decide_eq_true_eq] at this
    exact this.1
  have hrows := activation_rows hdmem hds hmem hcs hv
  have hold : ∀ d ∈ db'.versions.rows, d.status = .draft →
      d ∈ db.versions.rows ∧ d.id ≠ draft.id := by
    intro d hd hs
    rcases (hrows d).mp hd with rfl | rfl | ⟨hd, hne, -⟩
    · cases hs
    · cases hs
    · exact ⟨hd, hne⟩
  refine ⟨fun v hv' hvk hs he => ?_, fun d hd d' hd' hdk' hdk'' hs hs' => ?_,
    fun d hd hdk' hs => ?_⟩
  · rcases (hrows v).mp hv' with rfl | rfl | ⟨hv', -, -⟩
    · have hk : due.contractId = k := hdk.symm.trans hvk
      obtain ⟨hterms, w, hw, hdw, -, hper⟩ := h.draft draft hdmem hvk hds
      obtain rfl := Table.eq_of_id_eq hw hmem (Option.mem_unique hdw hsup)
      obtain ⟨m, p, hp, hpe⟩ := hper hcs
      obtain ⟨hcterms, n, hn⟩ := h.current w hmem (hck.trans hk) hcs hce
      have hcad : cadenceOf env w = .ok c := by
        rw [cadenceOf_congr (hcterms.trans (terms_of_cadenceOf hc)), hc]
      have hback : ReadsBack c.zone w.startsAt draft.startsAt :=
        hkeep hk draft (by simp [hdue, hds]) w (hk ▸ hcurrent) c (by rw [hcad]; rfl)
      rw [← hpe] at hback
      exact ⟨hterms, _, hpe ▸ hn.extend hm hp hback⟩
    · cases hs
    · exact h.current v hv' hvk hs he
  · exact h.unique d (hold d hd hs).1 d' (hold d' hd' hs').1 hdk' hdk'' hs hs'
  · obtain ⟨hd, hne⟩ := hold d hd hs
    obtain ⟨hterms, w, hw, hdw, hws, hper⟩ := h.draft d hd hdk' hs
    by_cases hwc : w.id = current.id
    · refine ⟨hterms, _, (hrows _).mpr (.inr (.inl rfl)), ?_, nofun, nofun⟩
      rw [hdw, hwc]
      rfl
    · have hwd : w.id ≠ draft.id := fun hid => by
        rw [Table.eq_of_id_eq hw hdmem hid] at hws
        exact hws hds
      exact ⟨hterms, w, (hrows w).mpr (.inr (.inr ⟨hw, hwd, hwc⟩)), hdw, hws, hper⟩

end Step

lemma ChainInv.init {env : BillingEnv} {c : BillingCadence} {k : ℕ} {db : BillingDb}
    {v₀ : BillingContractVersion} (hcons : versionsConsistent db.versions.rows)
    (hcur : currentEffective db k = some v₀) (hnone : drafts db k = [])
    (hc : cadenceOf env v₀ = .ok c) : ChainInv c v₀.startsAt k db := by
  obtain ⟨hmem, hk, hs, he⟩ := currentEffective_eq_some hcur
  have hno : ∀ d ∈ db.versions.rows, d.contractId = k → d.status ≠ .draft := fun d hd hdk hds => by
    simpa [hnone] using mem_drafts.mpr ⟨hd, hdk, hds⟩
  refine ⟨fun v hv hvk hvs hve => ?_, fun d hd _ _ hdk _ hds => absurd hds (hno d hd hdk),
    fun d hd hdk hds => absurd hds (hno d hd hdk)⟩
  obtain rfl := current_unique hcons hv hmem (hvk.trans hk.symm) hvs hs hve he
  exact ⟨(terms_of_cadenceOf hc).symm, 0, .refl c _⟩

/-- **Purchases keep the billing anchor.**  Along any run of purchases, timer scans and activations
whose activations keep the anniversary, the periods of the current version are exactly the periods
of the original contract at or after its start. -/
theorem addonPurchases_keep_boundaries (env : BillingEnv) (c : BillingCadence) (k : ℕ)
    (db : BillingDb) (v₀ : BillingContractVersion) (cmds : List AddonCommand)
    (hcons : versionsConsistent db.versions.rows) (hcur : currentEffective db k = some v₀)
    (hnone : drafts db k = []) (hc : cadenceOf env v₀ = .ok c)
    (hm : IsMonthlyAnniversary v₀.terms)
    (hkeep : Guarded (addonStep env) (KeepsAnniversary env k) db cmds) :
    ∀ v, currentEffective (run (addonStep env) db cmds) k = some v → cadenceOf env v = .ok c ∧
      ∀ p : Interval, (∃ i, servicePeriod c (.aware v.startsAt) i = .ok p) ↔
        (∃ i, servicePeriod c (.aware v₀.startsAt) i = .ok p) ∧ v.startsAt ≤ p.startsAt := by
  have hm' : IsMonthlyAnniversary c.toCadenceTerms := terms_of_cadenceOf hc ▸ hm
  have hinv : ChainInv c v₀.startsAt k (run (addonStep env) db cmds) := by
    refine invariant_guarded (fun db cmd db' h hg hstep => ?_) cmds db
      (ChainInv.init hcons hcur hnone hc) hkeep
    cases cmd with
    | purchase term e context =>
      obtain ⟨⟨_, r⟩, hok, rfl⟩ := map_eq_ok.mp hstep
      rcases purchase_ok hok with ⟨hv, -⟩ | hstep
      · exact h.congr hv
      · exact h.purchase hc hstep
    | fireDueTimers now limit =>
      obtain rfl := Except.ok.inj hstep
      exact h.congr rfl
    | activate due e context =>
      obtain ⟨⟨_, r⟩, hok, rfl⟩ := map_eq_ok.mp hstep
      rcases activation_ok hok with rfl | hstep
      · exact h
      · exact h.activate hc hm' hg hstep
  intro v hv
  obtain ⟨hmem, hk, hs, he⟩ := currentEffective_eq_some hv
  obtain ⟨hterms, n, hn⟩ := hinv.current v hmem hk hs he
  exact ⟨by rw [cadenceOf_congr (hterms.trans (terms_of_cadenceOf hc)), hc],
    fun p => hn.period_iff hm' p⟩

/-! ## One purchase, in a long and in a short month

The same monthly contract, bought an add-on in its first period.  Started on 15 January it goes on
from 15 February; started on 31 January it goes on from 28 February, and its March boundary moves
from the 31st to the 28th.
-/

def utcEnv : BillingEnv :=
  ⟨fun name => if name = "UTC" then some utc else none, .shadow⟩

/-- A monthly contract sold on one order line, with one effective version. -/
def soldContract (startsAt : ℤ) : BillingDb where
  contracts := ⟨[⟨0, 10, 20, .shadow⟩], 1, by decide, by decide⟩
  versions := ⟨[{
    id := 0, contractId := 0, version := 1, status := .effective, authority := .shadow,
    accountId := 10, subscriptionId := 20, sourceKind := .salesOrderLine, sourceId := 30,
    sourceVersion := 1, startsAt, endsAt := none, contractedPrice := .store 4 100,
    currency := "NGN", terms := monthlyTerms, rateQuantity_onGrid := ⟨10000, by decide +kernel⟩,
    taxTreatmentCode := none, taxInclusive := false, supersedesId := none,
    supersededAt := none, reason := "Sold", idempotencyKey := "sale" }], 1,
    List.nodup_singleton _, fun _ h => List.mem_singleton.mp h ▸ Nat.one_pos⟩
  lines := .empty
  obligations := .empty
  timers := .empty
  receipts := []
  outbox := []
  salesOrderLines := [⟨30, 31⟩]
  taxRates := []
  nextLineKey := 0

/-- An add-on bought at one instant and activated when its timer fires at another. -/
def buyAddon (purchasedAt boundary : ℤ) : List AddonCommand := [
  .purchase ⟨10, 20, 40, "Static IP", 1, 5, "ngn", .aware purchasedAt, some .monthly⟩ 1
    ⟨"Purchase", "purchase"⟩,
  .fireDueTimers boundary 200,
  .activate ⟨0, 0, 2, 1⟩ 2 ⟨"Timer", "activate"⟩]

/-- Bought in a period that ends on 15 February, the add-on leaves the periods where they were. -/
theorem addonPurchases_keep_boundaries_january : ∃ v,
    currentEffective (run (addonStep utcEnv) (soldContract (utcMidnight 2026 1 15))
      (buyAddon (utcMidnight 2026 1 20) (utcMidnight 2026 2 15))) 0 = some v ∧
    v.startsAt = utcMidnight 2026 2 15 ∧
    ∀ p : Interval, (∃ i, servicePeriod monthly (.aware v.startsAt) i = .ok p) ↔
      (∃ i, servicePeriod monthly (.aware (utcMidnight 2026 1 15)) i = .ok p) ∧
        v.startsAt ≤ p.startsAt := by
  have hstart : (currentEffective (run (addonStep utcEnv) (soldContract (utcMidnight 2026 1 15))
      (buyAddon (utcMidnight 2026 1 20) (utcMidnight 2026 2 15))) 0).map
        BillingContractVersion.startsAt = some (utcMidnight 2026 2 15) := by
    decide +kernel
  obtain ⟨v, hv, hvs⟩ := Option.map_eq_some_iff.mp hstart
  have hkeep : Guarded (addonStep utcEnv) (KeepsAnniversary utcEnv 0)
      (soldContract (utcMidnight 2026 1 15))
      (buyAddon (utcMidnight 2026 1 20) (utcMidnight 2026 2 15)) :=
    ⟨fun _ => trivial, fun _ => trivial, fun _ _ => by decide +kernel, trivial⟩
  exact ⟨v, hv, hvs, (addonPurchases_keep_boundaries utcEnv monthly 0
    (soldContract (utcMidnight 2026 1 15)) _ _ (by decide +kernel) rfl rfl rfl ⟨rfl, rfl, rfl⟩
    hkeep v hv).2⟩

/-- **An add-on moves the anchor.**  Bought in a period that ends on 28 February, the add-on makes
the 28th the anniversary, and the original period from 28 February to 31 March is lost. -/
theorem addonPurchase_moves_boundaries : ∃ v,
    currentEffective (run (addonStep utcEnv) (soldContract (utcMidnight 2026 1 31))
      (buyAddon (utcMidnight 2026 2 10) (utcMidnight 2026 2 28))) 0 = some v ∧
    v.startsAt = utcMidnight 2026 2 28 ∧
    ¬ ∀ p : Interval, (∃ i, servicePeriod monthly (.aware v.startsAt) i = .ok p) ↔
      (∃ i, servicePeriod monthly (.aware (utcMidnight 2026 1 31)) i = .ok p) ∧
        v.startsAt ≤ p.startsAt := by
  have hstart : (currentEffective (run (addonStep utcEnv) (soldContract (utcMidnight 2026 1 31))
      (buyAddon (utcMidnight 2026 2 10) (utcMidnight 2026 2 28))) 0).map
        BillingContractVersion.startsAt = some (utcMidnight 2026 2 28) := by
    decide +kernel
  obtain ⟨v, hv, hvs⟩ := Option.map_eq_some_iff.mp hstart
  refine ⟨v, hv, hvs, fun h => ?_⟩
  rw [hvs] at h
  obtain ⟨i, hi⟩ := (h ⟨utcMidnight 2026 2 28, utcMidnight 2026 3 31, by decide⟩).mpr
    ⟨⟨1, by rfl⟩, le_rfl⟩
  have hm : IsMonthlyAnniversary monthly.toCadenceTerms := ⟨rfl, rfl, rfl⟩
  have h0 : servicePeriod monthly (.aware (utcMidnight 2026 2 28)) 0
      = .ok ⟨utcMidnight 2026 2 28, utcMidnight 2026 3 28, by decide⟩ := by rfl
  rcases (inRange_of_servicePeriod hm hi).1.eq_or_lt with rfl | hpos
  · have := congrArg Interval.endsAt (Except.ok.inj (h0.symm.trans hi))
    exact absurd this (by decide)
  · exact absurd (startsAt_lt hm h0 hi hpos) (lt_irrefl _)

end Contracts

end DotmacSub
