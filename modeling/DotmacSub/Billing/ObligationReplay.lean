import DotmacSub.Billing.AddonTerms
import DotmacSub.Billing.Obligations

/-!
# Scheduling the same obligation twice

The rating inputs are hashed as they were computed and read back as they were stored.  Prices,
quantities and tax rates come from columns, so they are stored as they are; the rate units and the
proration factor are quotients of 28 significant digits, and a quotient below one tenth can have
more places than its column.  Then the stored inputs no longer have the recorded fingerprint.
-/

namespace DotmacSub

open Store Checked Cadence Decimal Rating

namespace Obligations

/-- A snapshot after its decimals went through their columns. -/
def storedProvenance (p : RatingProvenance) : RatingProvenance :=
  { p with
    unitPrice := quantize halfUp 4 p.unitPrice
    quantity := quantize halfUp 4 p.quantity
    rateQuantity := quantize halfUp 4 p.rateQuantity
    rateUnits := quantize halfUp 28 p.rateUnits
    proration := quantize halfUp 28 p.proration
    taxRatePercent := quantize halfUp 4 p.taxRatePercent }

/-- The inputs that are read from columns have few enough places. -/
structure FromColumns (p : RatingProvenance) : Prop where
  unitPrice : OnGrid 4 p.unitPrice
  quantity : OnGrid 4 p.quantity
  rateQuantity : OnGrid 4 p.rateQuantity
  taxRatePercent : OnGrid 4 p.taxRatePercent

lemma FromColumns.withFingerprint {env : RatingEnv} {p : RatingProvenance} (h : FromColumns p) :
    FromColumns (Rating.withFingerprint env p) :=
  ⟨h.unitPrice, h.quantity, h.rateQuantity, h.taxRatePercent⟩

lemma storedProvenance_eq_self {p : RatingProvenance} (h : FromColumns p)
    (hunits : OnGrid 28 p.rateUnits) (hfactor : OnGrid 28 p.proration) :
    storedProvenance p = p := by
  rw [storedProvenance, quantize_of_onGrid h.unitPrice, quantize_of_onGrid h.quantity,
    quantize_of_onGrid h.rateQuantity, quantize_of_onGrid h.taxRatePercent,
    quantize_of_onGrid hunits, quantize_of_onGrid hfactor]

lemma onGrid_of_ctx_quantize {r : Rounding} {s : ℕ} {x : ℚ} (hx : ctx x = x)
    (h : ctx (quantize r s x) = ctx x) : OnGrid s x := by
  rw [← hx, ← h]
  exact onGrid_quantize.ctx

lemma interval_eq_ok (p : Interval) : interval p.startsAt p.endsAt = .ok p :=
  dif_pos p.starts_lt_ends

/-- **A row gives back the stored snapshot** of the result it was written from. -/
lemma recordedProvenance_row {version : BillingContractVersion} {line : BillingContractLine}
    {lineKey : ℕ} {authority : BillingRecordAuthority} {rated : RatedObligation}
    {dueAt : Option ℤ} {id : ℕ} (hversion : rated.provenance.contractVersionId = version.id)
    (hkey : rated.provenance.contractLineKey = lineKey)
    (hcurrency : rated.provenance.currency = line.currency) :
    recordedProvenance (obligationRow version line lineKey rated.provenance.period authority rated
      dueAt id) = .ok (storedProvenance rated.provenance) := by
  refine orRefuse_bind_eq_ok.mpr ⟨ratingColumns rated.provenance, rfl, ?_⟩
  refine bind_eq_ok.mpr ⟨rated.provenance.period,
    Contracts.ofCadence_eq_ok.mpr (interval_eq_ok _), ?_⟩
  refine bind_eq_ok.mpr ⟨rated.provenance.covered,
    Contracts.ofCadence_eq_ok.mpr (interval_eq_ok _), ?_⟩
  rw [storedProvenance, hversion, hkey, hcurrency]
  rfl

section RatedLine

variable {env : RatingEnv} {db : BillingDb} {version : BillingContractVersion}
  {line : BillingContractLine} {cadence : BillingCadence} {period : Interval}
  {covered : Option Interval} {units factor : ℚ} {tax : Option String × Option ℕ × ℚ}

lemma ctx_units (h : unitsForPeriod cadence period = .ok units) : ctx units = units := by
  rw [unitsForPeriod] at h
  split at h
  · obtain rfl := Except.ok.inj h
    exact_mod_cast ctx_intCast (n := 1) (by norm_num)
  · obtain rfl := Except.ok.inj h
    exact_mod_cast ctx_intCast (n := 1) (by norm_num)
  · obtain ⟨u, -, h⟩ := bind_eq_ok.mp h
    obtain rfl := Except.ok.inj h
    exact ctx_ctx _
  · cases h

lemma ctx_factor (h : factorForCoverage cadence period covered = .ok factor) :
    ctx factor = factor := by
  have hone : ctx 1 = 1 := by exact_mod_cast ctx_intCast (n := 1) (by norm_num)
  cases covered with
  | none =>
    obtain rfl := Except.ok.inj h
    exact hone
  | some c =>
    obtain ⟨-, h⟩ := ensure_bind_eq_ok.mp (Contracts.ofCadence_eq_ok.mp h)
    split at h
    · obtain rfl := Except.ok.inj h
      exact hone
    · obtain rfl := Except.ok.inj h
      exact hone
    · obtain rfl := Except.ok.inj h
      split_ifs
      · exact ctx_ctx _
      · exact ctx_zero
    · obtain ⟨d, -, h⟩ := bind_eq_ok.mp h
      obtain ⟨e, -, h⟩ := bind_eq_ok.mp h
      obtain rfl := Except.ok.inj h
      split_ifs
      · exact ctx_zero
      · exact ctx_ctx _

lemma lineProvenance_fromColumns {lineKey : ℕ}
    (hcadence : Contracts.cadenceOf env.toBillingEnv version = .ok cadence)
    (htax : effectiveTaxRate db version line = .ok tax) :
    FromColumns (lineProvenance version line cadence lineKey period covered units factor tax) where
  unitPrice := line.unitPrice.onGrid
  quantity := line.quantity.onGrid
  rateQuantity := by
    have h := version.rateQuantity_onGrid
    rwa [← Contracts.terms_of_cadenceOf hcadence] at h
  taxRatePercent := effectiveTaxRate_onGrid htax

end RatedLine

/-- The rate units and the proration factor of a coverage have at most 28 places. -/
def QuotientsFit (cadence : BillingCadence) (period : Interval) (covered : Option Interval) :
    Prop :=
  (∀ units, unitsForPeriod cadence period = .ok units → OnGrid 28 units) ∧
    ∀ factor, factorForCoverage cadence period covered = .ok factor → OnGrid 28 factor

/-- **The condition on a command**: its obligation is recorded already, or the quotients that the
cadence gives for its period and coverage fit their columns. -/
def RatingFits (env : RatingEnv) (db : BillingDb) (command : ScheduleObligationCommand) : Prop :=
  ∀ version cadence period, db.versions.get? command.contractVersionId = some version →
    Contracts.cadenceOf env.toBillingEnv version = .ok cadence →
    servicePeriod cadence (.aware version.startsAt) command.periodIndex = .ok period →
    existingRows db command.contractLineKey version.id period ≠ [] ∨
      QuotientsFit cadence period command.covered

/-- The hash separates the computed inputs of a line from the stored ones. -/
def NoCollision (env : RatingEnv) (p : RatingProvenance) : Prop :=
  env.digest (fingerprintPayload (storedProvenance p)) = env.digest (fingerprintPayload p) →
    fingerprintPayload (storedProvenance p) = fingerprintPayload p

/-- An exact replay: scheduling again changes no row and answers with the same obligation, marked
replayed, whose row holds the net, tax and gross amounts that its inputs give. -/
structure ReplaysExactly (env : RatingEnv) (db : BillingDb) (command : ScheduleObligationCommand)
    (context : CommandContext) (result : ObligationResult) : Prop where
  again : schedule env db command context = .ok (db, { result with replayed := true })
  amounts : ∃ o ∈ db.obligations.rows, o.id = result.obligationId ∧
    o.grossAmount.value = result.grossAmount ∧
    ∃ rated, replayRecordedRating env o = .ok rated ∧ recordsResult o rated

section Replay

variable {env : RatingEnv} {db db' : BillingDb} {command : ScheduleObligationCommand}
  {context : CommandContext} {result : ObligationResult} {version : BillingContractVersion}
  {line : BillingContractLine} {period : Interval} {rated : RatedObligation}

lemma Recorded.provenance (hp : RequestedPeriod env db command version line period)
    (h : Recorded env db db' command result version line period rated) :
    recordedProvenance (recordedRow env db command version line period rated)
      = .ok (storedProvenance rated.provenance) := by
  obtain ⟨cadence, units, factor, tax, -, -, -, -, hrate⟩ := h.inputs hp
  have hprov := provenance_of_rated hrate
  have hperiod : rated.provenance.period = period := by rw [hprov]; rfl
  rw [recordedRow, ← hperiod]
  refine recordedProvenance_row ?_ ?_ ?_ <;> rw [hprov] <;> rfl

/-- **Quotients that fit replay**: the row is rated again to the same result. -/
lemma Recorded.replay (hp : RequestedPeriod env db command version line period)
    (h : Recorded env db db' command result version line period rated)
    (hfits : ∀ cadence, Contracts.cadenceOf env.toBillingEnv version = .ok cadence →
      QuotientsFit cadence period command.covered) :
    replayRecordedRating env (recordedRow env db command version line period rated) = .ok rated ∧
      recordsResult (recordedRow env db command version line period rated) rated := by
  obtain ⟨cadence, units, factor, tax, hcadence, hu, hf, htax, hrate⟩ := h.inputs hp
  have hprov := provenance_of_rated hrate
  have hcolumns : FromColumns (withFingerprint env (lineProvenance version line cadence
      command.contractLineKey period command.covered units factor tax)) :=
    (lineProvenance_fromColumns hcadence htax).withFingerprint
  have hstored : storedProvenance rated.provenance = rated.provenance := by
    rw [hprov]
    exact storedProvenance_eq_self hcolumns ((hfits cadence hcadence).1 units hu)
      ((hfits cadence hcadence).2 factor hf)
  obtain ⟨-, hv1⟩ := rateFromProvenance_eq_ok.mp hrate
  have hcents : CentAmounts rated := hv1 ▸ rateV1_cents _
  have hrecords : recordsResult (recordedRow env db command version line period rated) rated := by
    refine ⟨?_, quantize_of_onGrid (hcents.net.mono (by norm_num)),
      quantize_of_onGrid (hcents.tax.mono (by norm_num)),
      quantize_of_onGrid (hcents.gross.mono (by norm_num))⟩
    rw [← hv1]
    rfl
  have hprovenance := h.provenance hp
  rw [hstored, hprov] at hprovenance
  refine ⟨bind_eq_ok.mpr ⟨_, hprovenance, ?_⟩, hrecords⟩
  rw [hrate]
  exact ensure_bind_eq_ok.mpr ⟨hrecords, rfl⟩

/-- **A row that replays has quotients that fit.** -/
lemma Recorded.fits_of_replay (hp : RequestedPeriod env db command version line period)
    (h : Recorded env db db' command result version line period rated)
    (hhash : NoCollision env rated.provenance) {replayed : RatedObligation}
    (hreplay : replayRecordedRating env (recordedRow env db command version line period rated)
      = .ok replayed) :
    ∀ cadence, Contracts.cadenceOf env.toBillingEnv version = .ok cadence →
      QuotientsFit cadence period command.covered := by
  obtain ⟨c, units, factor, tax, hcadence, hu, hf, htax, hrate⟩ := h.inputs hp
  have hprov := provenance_of_rated hrate
  obtain ⟨q, hq, hreplay⟩ := bind_eq_ok.mp hreplay
  obtain rfl := Except.ok.inj ((h.provenance hp).symm.trans hq)
  obtain ⟨again, hagain, -⟩ := bind_eq_ok.mp hreplay
  obtain ⟨hagain, -⟩ := rateFromProvenance_eq_ok.mp (mapError_eq_ok.mp hagain)
  -- the stored snapshot has the fingerprint that was computed before it was stored
  have hfp : env.digest (fingerprintPayload (storedProvenance rated.provenance))
      = env.digest (fingerprintPayload rated.provenance) := by
    have := hagain.fingerprint
    rw [hprov] at this ⊢
    exact this
  have hpayload := hhash hfp
  have hunits := congrArg FingerprintPayload.rateUnits hpayload
  have hfactor := congrArg FingerprintPayload.proration hpayload
  rw [hprov] at hunits hfactor
  intro cadence hcadence'
  obtain rfl := Except.ok.inj (hcadence.symm.trans hcadence')
  refine ⟨fun u hu' => ?_, fun f hf' => ?_⟩
  · obtain rfl := Except.ok.inj (hu.symm.trans hu')
    exact onGrid_of_ctx_quantize (ctx_units hu) hunits
  · obtain rfl := Except.ok.inj (hf.symm.trans hf')
    exact onGrid_of_ctx_quantize (ctx_factor hf) hfactor

lemma Recorded.existing (h : Recorded env db db' command result version line period rated) :
    existingRows db' command.contractLineKey version.id period
      = [recordedRow env db command version line period rated] := by
  have hnone := h.none_existing
  rw [existingRows] at hnone ⊢
  rw [h.rows, List.filter_append, hnone]
  simp [obligationRow, recordedRow]

lemma Recorded.schedule_again (hp : requestedPeriod env db command context
      = .ok (version, line, period))
    (h : Recorded env db db' command result version line period rated) :
    schedule env db' command context = (do
      let r ← replayExisting env (recordedRow env db command version line period rated) period
        command.covered
      return (db', r)) := by
  have hp' : requestedPeriod env db' command context = .ok (version, line, period) := by
    rw [h.insert]
    exact hp
  rw [schedule, hp']
  dsimp only [bind, Except.bind]
  rw [h.existing]

lemma Recorded.replayExisting (hp : RequestedPeriod env db command version line period)
    (h : Recorded env db db' command result version line period rated)
    (hreplay : replayRecordedRating env (recordedRow env db command version line period rated)
      = .ok rated ∧ recordsResult (recordedRow env db command version line period rated) rated) :
    Obligations.replayExisting env (recordedRow env db command version line period rated) period
      command.covered = .ok { result with replayed := true } := by
  have hcovered := h.covered hp
  refine bind_eq_ok.mpr ⟨rated, hreplay.1, ensure_bind_eq_ok.mpr ⟨?_, ?_⟩⟩
  · rw [hcovered]
    exact ⟨rfl, rfl⟩
  · rw [h.result_eq, ← hreplay.2.2.2.2]
    rfl

/-- **Scheduling replays exactly when its quotients fit their columns.**  Every accepted scheduling
whose obligation is recorded already, or whose rate units and proration factor have at most 28
places, is replayed exactly; any other is not, as long as the hash does not collide. -/
theorem schedule_replays_iff (env : RatingEnv) (db db' : BillingDb)
    (command : ScheduleObligationCommand) (context : CommandContext) (result : ObligationResult)
    (h : schedule env db command context = .ok (db', result))
    (hhash : ∀ rated, rateLinePeriod env db command.contractVersionId command.contractLineKey
      result.period command.covered = .ok rated → NoCollision env rated.provenance) :
    ReplaysExactly env db' command context result ↔ RatingFits env db command := by
  obtain ⟨version, line, period, hp, hstep⟩ := schedule_ok h
  have hreq := requestedPeriod_ok hp
  obtain ⟨cadence, hcadence, hperiod⟩ := hreq.period_eq
  have hversion := Table.get?_eq_some.mpr ⟨hreq.version_mem, hreq.version_id⟩
  -- the version, the cadence and the period of the command are the ones that were looked up
  have hunique : RatingFits env db command ↔
      existingRows db command.contractLineKey version.id period ≠ [] ∨
        QuotientsFit cadence period command.covered := by
    refine ⟨fun hfits => hfits version cadence period hversion hcadence hperiod,
      fun hfits v c p hv hc hp => ?_⟩
    obtain rfl := Option.mem_unique hversion hv
    obtain rfl := Except.ok.inj (hcadence.symm.trans hc)
    obtain rfl := Except.ok.inj (hperiod.symm.trans hp)
    exact hfits
  rw [hunique]
  rcases hstep with ⟨rfl, existing, hexisting, hreplay⟩ | ⟨rated, hrec⟩
  · refine iff_of_true ⟨?_, ?_⟩ (.inl ?_)
    · obtain ⟨_, _, hresult⟩ := bind_eq_ok.mp hreplay
      obtain ⟨-, hresult⟩ := ensure_bind_eq_ok.mp hresult
      rw [← Except.ok.inj hresult] at h ⊢
      exact h
    · obtain ⟨rated, hrated, hresult⟩ := bind_eq_ok.mp hreplay
      obtain ⟨-, hresult⟩ := ensure_bind_eq_ok.mp hresult
      obtain ⟨p, -, hrate⟩ := bind_eq_ok.mp hrated
      obtain ⟨r, -, hrate⟩ := bind_eq_ok.mp hrate
      obtain ⟨hrecords, hr⟩ := ensure_bind_eq_ok.mp hrate
      obtain rfl := Except.ok.inj hr
      have hmem : existing ∈ db'.obligations.rows :=
        (List.mem_filter.mp (hexisting ▸ List.mem_singleton_self existing)).1
      rw [← Except.ok.inj hresult]
      exact ⟨existing, hmem, rfl, rfl, r, hrated, hrecords⟩
    · rw [hexisting]
      exact List.cons_ne_nil _ _
  · have hid := hreq.version_id
    have hresult := hrec.result_eq
    constructor
    · rintro ⟨hagain, -⟩
      rw [hrec.schedule_again hp] at hagain
      obtain ⟨r, hr, -⟩ := bind_eq_ok.mp hagain
      obtain ⟨replayed, hreplayed, -⟩ := bind_eq_ok.mp hr
      have hcollision := hhash rated (by rw [hresult, ← hid]; exact hrec.rate)
      exact .inr (hrec.fits_of_replay hreq hcollision hreplayed cadence hcadence)
    · rintro (hne | hfits)
      · exact absurd hrec.none_existing hne
      · have hreplay := hrec.replay hreq fun c hc => by
          obtain rfl := Except.ok.inj (hcadence.symm.trans hc)
          exact hfits
        refine ⟨?_, recordedRow env db command version line period rated, ?_, ?_, ?_,
          rated, hreplay⟩
        · rw [hrec.schedule_again hp, hrec.replayExisting hreq hreplay]
          rfl
        · rw [hrec.rows]
          exact List.mem_append_right _ (List.mem_singleton_self _)
        · rw [hresult]
          rfl
        · rw [hresult]
          exact hreplay.2.2.2.2

end Replay

/-! ## Twenty days of a month, and one day

A contract that is prorated by calendar days.  Twenty of the 31 days of January are worth
`0.6451612903225806451612903226`, which is stored as it is; one day is worth
`0.03225806451612903225806451613`, which has 29 places.
-/

def decimalText (x : ℚ) : String := toString x.num ++ "/" ++ toString x.den

/-- A text of a payload that tells different inputs apart, in place of the hash of its text. -/
def payloadText (p : FingerprintPayload) : String :=
  ",".intercalate [toString p.contractVersionId, toString p.contractLineKey, p.policyVersion,
    toString p.periodStart, toString p.periodEnd, p.currency, toString p.coverageStart,
    toString p.coverageEnd, decimalText p.unitPrice, decimalText p.quantity,
    decimalText p.rateQuantity, p.timezoneName, decimalText p.rateUnits, decimalText p.proration,
    p.taxTreatmentCode.getD "", toString (p.taxRateId.getD 0), decimalText p.taxRatePercent]

/-- An environment that knows UTC and compares payloads by their text. -/
def utcRating : RatingEnv :=
  { Contracts.utcEnv with digest := payloadText, obligationAuthority := .shadow }

/-- The monthly contract from 1 January, prorated by calendar days, with one line. -/
def proratedContract : BillingDb :=
  { Contracts.soldContract (utcMidnight 2026 1 1) with
    versions := (Contracts.soldContract (utcMidnight 2026 1 1)).versions.map (fun v =>
      { v with
        terms := { v.terms with prorationPolicy := .actualCalendarDays }
        rateQuantity_onGrid := v.rateQuantity_onGrid }) fun _ => rfl
    lines := ⟨[{
      id := 0, contractVersionId := 0, contractLineKey := 0, chargeComponent := .recurringService,
      componentKey := "", description := "Internet", quantity := .store 4 1,
      unitPrice := .store 4 100, currency := "NGN", accountingTreatment := .receivable,
      isFinite := false, taxTreatmentCode := none }], 1, by decide, by decide⟩
    nextLineKey := 1 }

def scheduleUntil (day : ℤ) (h : utcMidnight 2026 1 1 < utcMidnight 2026 1 day) :
    ScheduleObligationCommand :=
  { contractVersionId := 0, contractLineKey := 0, periodIndex := 0,
    covered := some ⟨utcMidnight 2026 1 1, utcMidnight 2026 1 day, h⟩ }

def proratedMonthly : BillingCadence :=
  { monthly with prorationPolicy := .actualCalendarDays }

def january : Interval := ⟨utcMidnight 2026 1 1, utcMidnight 2026 2 1, by decide⟩

/-- Twenty days replay. -/
theorem schedule_replays_twenty_days : ∃ db' result,
    schedule utcRating proratedContract (scheduleUntil 21 (by decide)) ⟨"", "twenty"⟩
      = .ok (db', result) ∧ result.replayed = false ∧
    ReplaysExactly utcRating db' (scheduleUntil 21 (by decide)) ⟨"", "twenty"⟩ result := by
  have hok : ((schedule utcRating proratedContract (scheduleUntil 21 (by decide))
      ⟨"", "twenty"⟩).map fun r => (r.2.replayed, r.2.period)) = .ok (false, january) := by
    decide +kernel
  have hstored : ((rateLinePeriod utcRating proratedContract 0 0 january
      (scheduleUntil 21 (by decide)).covered).map fun r =>
        decide (storedProvenance r.provenance = r.provenance)) = .ok true := by
    decide +kernel
  have hfactor : ((factorForCoverage proratedMonthly january
      (scheduleUntil 21 (by decide)).covered).map fun f => decide (OnGrid 28 f)) = .ok true := by
    decide +kernel
  obtain ⟨⟨db', result⟩, hok, hresult⟩ := map_eq_ok.mp hok
  obtain ⟨hreplayed, hperiod⟩ := Prod.mk.inj hresult
  refine ⟨db', result, hok, hreplayed,
    (schedule_replays_iff _ _ _ _ _ _ hok fun rated hrated _ => ?_).mpr fun v c p hv hc hp =>
      .inr ⟨fun units hunits => ?_, fun factor hf => ?_⟩⟩
  · obtain ⟨r, hr, hself⟩ := map_eq_ok.mp hstored
    rw [hperiod] at hrated
    obtain rfl := Except.ok.inj (hr.symm.trans hrated)
    rw [of_decide_eq_true hself]
  all_goals
    obtain rfl := Option.some.inj hv
    obtain rfl := Except.ok.inj ((rfl : _ = Except.ok proratedMonthly).symm.trans hc)
    obtain rfl := Except.ok.inj ((rfl : _ = Except.ok january).symm.trans hp)
  · obtain rfl := Except.ok.inj hunits
    decide +kernel
  · obtain ⟨f, hf', hgrid⟩ := map_eq_ok.mp hfactor
    obtain rfl := Except.ok.inj (hf'.symm.trans hf)
    exact of_decide_eq_true hgrid

/-- **One day does not replay**: its obligation is recorded, and scheduling it again is refused. -/
theorem schedule_one_day_refused : ∃ db' result,
    schedule utcRating proratedContract (scheduleUntil 2 (by decide)) ⟨"", "one"⟩
      = .ok (db', result) ∧
    ¬ ReplaysExactly utcRating db' (scheduleUntil 2 (by decide)) ⟨"", "one"⟩ result := by
  have hok : ((schedule utcRating proratedContract (scheduleUntil 2 (by decide))
      ⟨"", "one"⟩).map fun r =>
        ((schedule utcRating r.1 (scheduleUntil 2 (by decide)) ⟨"", "one"⟩).toOption.isSome))
      = .ok false := by
    decide +kernel
  obtain ⟨⟨db', result⟩, hok, hrefused⟩ := map_eq_ok.mp hok
  refine ⟨db', result, hok, fun h => ?_⟩
  rw [h.again] at hrefused
  cases hrefused

end Obligations

end DotmacSub
