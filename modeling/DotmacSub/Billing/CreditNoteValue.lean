import DotmacSub.Billing.CreditNoteWorth
import DotmacSub.Core.Run

/-!
# The value of an issued credit note

A note keeps the value it was funded with exactly as long as its line is worth its total whenever a
part of it is applied.
-/

namespace DotmacSub

open Store Checked Decimal

namespace CreditNotes

open Payments

def balanceRefusals : List DomainError :=
  [appliedExceedsTotal,
    .httpException 409 "Credit note funding and document balances disagree",
    .httpException 409 "Exact credit-note funding is below the confirmed application amount"]

/-- An application that passes the checks of its key, its note and its invoice. -/
def Confirmed (env : CreditNoteEnv) (db : CreditNoteTables) (noteId : ℕ)
    (payload : CreditNoteApplyRequest) : Prop :=
  ∃ key confirmed, normalizeIdempotencyKey payload.idempotencyKey = .ok key ∧
    idempotentResult db key noteId payload = .ok none ∧
    confirmApplication env db noteId payload = .ok confirmed

lemma refusals_normalizeIdempotencyKey (value : String) :
    RefusesOnly (· ∉ balanceRefusals) (normalizeIdempotencyKey value) := by
  refine .bind (refusesOnly_ensure fun _ => ?_) fun _ _ => refusesOnly_pure _
  decide +kernel

lemma refusals_idempotentResult (db : CreditNoteTables) (key : String) (noteId : ℕ)
    (payload : CreditNoteApplyRequest) :
    RefusesOnly (· ∉ balanceRefusals) (idempotentResult db key noteId payload) := by
  rw [idempotentResult]
  split
  · exact refusesOnly_pure _
  · refine .bind (refusesOnly_orRefuse fun _ => by decide +kernel) fun _ _ => ?_
    refine .bind (refusesOnly_orRefuse fun _ => by decide +kernel) fun _ _ => ?_
    refine .bind (refusesOnly_ensure fun _ => by decide +kernel) fun _ _ => ?_
    refine .bind (refusesOnly_ensure fun _ => by decide +kernel) fun _ _ => ?_
    refine .bind (refusesOnly_orRefuse fun _ => by decide +kernel) fun _ _ => ?_
    exact .bind (refusesOnly_ensure fun _ => by decide +kernel) fun _ _ => refusesOnly_pure _

lemma refusals_buildApplicationPreview (env : CreditNoteEnv) (note : CreditNote) (invoice : Invoice)
    (requested : Option ℚ) :
    RefusesOnly (· ∉ balanceRefusals) (buildApplicationPreview env note invoice requested) := by
  refine .bind (refusesOnly_ensure fun _ => by decide +kernel) fun _ _ => ?_
  refine .bind (refusesOnly_ensure fun _ => by decide +kernel) fun _ _ => ?_
  refine .bind (refusesOnly_ensure fun _ => ?_) fun _ _ => ?_
  · cases invoice.status <;> decide +kernel
  iterate 8 refine .bind (refusesOnly_ensure fun _ => by decide +kernel) fun _ _ => ?_
  exact refusesOnly_pure _

lemma refusals_confirmApplication (env : CreditNoteEnv) (db : CreditNoteTables) (noteId : ℕ)
    (payload : CreditNoteApplyRequest) :
    RefusesOnly (· ∉ balanceRefusals) (confirmApplication env db noteId payload) := by
  refine .bind (refusesOnly_orRefuse fun _ => by decide +kernel) fun _ _ => ?_
  refine .bind (refusesOnly_orRefuse fun _ => by decide +kernel) fun _ _ => ?_
  refine .bind (refusals_buildApplicationPreview _ _ _ _) fun _ _ => ?_
  exact .bind (refusesOnly_ensure fun _ => by decide +kernel) fun _ _ => refusesOnly_pure _

/-- An application that does not pass the checks changes nothing, and is not refused for the
balances of the note. -/
lemma apply_of_not_confirmed {env : CreditNoteEnv} {db : CreditNoteTables} {noteId : ℕ}
    {payload : CreditNoteApplyRequest} (h : ¬ Confirmed env db noteId payload) :
    (∃ id, applyWithEvidence env db noteId payload = .ok (db, id)) ∨
      ∃ e, e ∉ balanceRefusals ∧ applyWithEvidence env db noteId payload = .error e := by
  rw [applyWithEvidence]
  cases hkey : normalizeIdempotencyKey payload.idempotencyKey with
  | error e => exact .inr ⟨e, refusals_normalizeIdempotencyKey _ e hkey, rfl⟩
  | ok key =>
    rw [ok_bind]
    cases hreplay : idempotentResult db key noteId payload with
    | error e => exact .inr ⟨e, refusals_idempotentResult _ _ _ _ e hreplay, rfl⟩
    | ok replay =>
      rw [ok_bind]
      cases replay with
      | some id => exact .inl ⟨id, rfl⟩
      | none =>
        cases hconfirm : confirmApplication env db noteId payload with
        | error e =>
          exact .inr ⟨e, refusals_confirmApplication _ _ _ _ e hconfirm, rfl⟩
        | ok confirmed => exact absurd ⟨key, confirmed, hkey, hreplay, hconfirm⟩ h

lemma apply_of_confirmed {env : CreditNoteEnv} {db : CreditNoteTables} {note : CreditNote}
    {payload : CreditNoteApplyRequest} (hfound : db.creditNotes.get? note.id = some note)
    (h : Confirmed env db note.id payload) :
    ∃ preview key, Previewed db note preview ∧ applyWithEvidence env db note.id payload
      = stageApplicationWithEvidence env db note preview key payload.memo := by
  obtain ⟨key, ⟨note', preview⟩, hkey, hreplay, hconfirm⟩ := h
  have hconfirmed := hconfirm
  simp only [confirmApplication, orRefuse_eq_ok, bind_eq_ok, ensure_eq_ok] at hconfirm
  obtain ⟨_, hnote, invoice, hinvoice, preview', hbuild, -, -, hpure⟩ := hconfirm
  obtain ⟨rfl, rfl⟩ := mk_eq_ok.mp hpure
  obtain rfl := Option.mem_unique hnote hfound
  have hid : invoice.id = payload.invoiceId := (Table.get?_eq_some.mp hinvoice).2
  refine ⟨preview', key, previewed_of_build (hid ▸ hinvoice) hbuild, ?_⟩
  rw [applyWithEvidence, hkey, ok_bind, hreplay, ok_bind]
  simp only [hconfirmed, ok_bind]

/-- What leaves the rows of a note alone. -/
structure SameEvidence (noteId : ℕ) (db db' : CreditNoteTables) : Prop where
  note : db'.creditNotes.get? noteId = db.creditNotes.get? noteId
  ledger : ∀ i e, db.ledgerEntries.get? i = some e → db'.ledgerEntries.get? i = some e
  reversals : db'.reversals = db.reversals
  accounts : db'.accounts = db.accounts
  applications : applicationsOf db' noteId = applicationsOf db noteId
  lines : activeLines db' noteId = activeLines db noteId

section SameEvidence

variable {noteId : ℕ} {db db' db'' : CreditNoteTables} {result : CreditNoteTables × ℕ}

lemma SameEvidence.refl (noteId : ℕ) (db : CreditNoteTables) : SameEvidence noteId db db :=
  ⟨rfl, fun _ _ h => h, rfl, rfl, rfl, rfl⟩

lemma SameEvidence.trans (h : SameEvidence noteId db db') (h' : SameEvidence noteId db' db'') :
    SameEvidence noteId db db'' :=
  ⟨h'.note.trans h.note, fun i e he => h'.ledger i e (h.ledger i e he),
    h'.reversals.trans h.reversals, h'.accounts.trans h.accounts,
    h'.applications.trans h.applications, h'.lines.trans h.lines⟩

lemma sameEvidence_postEntry (payload : LedgerEntryCreate) :
    SameEvidence noteId db (postEntry db payload) :=
  ⟨rfl, fun _ _ h => get?_postEntry_of_some h, rfl, rfl, rfl, rfl⟩

lemma sameEvidence_createLedgerEntry {payload : LedgerEntryCreate}
    (h : createLedgerEntry db payload = .ok result) : SameEvidence noteId db result.1 := by
  simp only [createLedgerEntry, bind_eq_ok] at h
  obtain ⟨-, -, h⟩ := h
  obtain rfl := pure_eq_ok.mp h
  exact sameEvidence_postEntry payload

lemma sameEvidence_recordApplication (now : ℤ) {application : ℕ → CreditNoteApplication}
    {h : ∀ i, Row.id (application i) = i} (hne : ∀ i, (application i).creditNoteId ≠ noteId) :
    SameEvidence noteId db (recordApplication now db application h) := by
  refine ⟨rfl, fun _ _ h => h, rfl, rfl, ?_, rfl⟩
  show (db.creditNoteApplications.rows ++ [_]).filter _ = _
  rw [List.filter_append, applicationsOf]
  simp [hne]

lemma sameEvidence_writeNote {note : CreditNote} (hne : note.id ≠ noteId) :
    SameEvidence noteId db (writeNote db note) :=
  ⟨get?_writeNote_ne hne.symm, fun _ _ h => h, rfl, rfl, rfl, rfl⟩

lemma sameEvidence_reserve (reserved : CreditNoteReservation) :
    SameEvidence noteId db (reserve db reserved) := ⟨rfl, fun _ _ h => h, rfl, rfl, rfl, rfl⟩

lemma recalculate_id {now : ℤ} {note note' : CreditNote}
    (h : recalculateCreditNoteTotals now db note = .ok note') : note'.id = note.id := by
  simp only [recalculateCreditNoteTotals, ensure_bind_eq_ok] at h
  obtain ⟨-, h⟩ := h
  split_ifs at h <;> obtain rfl := pure_eq_ok.mp h <;> rfl

lemma sameEvidence_stage {env : CreditNoteEnv} {note : CreditNote}
    {preview : CreditApplicationPreview} {key : String} {memo : Option String}
    (hne : note.id ≠ noteId)
    (h : stageApplicationWithEvidence env db note preview key memo = .ok result) :
    SameEvidence noteId db result.1 := by
  simp only [stageApplicationWithEvidence, bind_eq_ok] at h
  obtain ⟨⟨consumed, consumptionId⟩, hconsume, ⟨posted, entryId⟩, hpost, note', hnote', h⟩ := h
  obtain rfl := pure_eq_ok.mp h
  have hconsumed : SameEvidence noteId db consumed := by
    rw [consumeFunding] at hconsume
    split_ifs at hconsume
    · obtain ⟨rfl, -⟩ := mk_eq_ok.mp hconsume
      exact .refl noteId db
    · simp only [bind_eq_ok, ensure_eq_ok] at hconsume
      obtain ⟨-, -, -, -, ⟨posted', entryId'⟩, hcreate, hpure⟩ := hconsume
      obtain ⟨rfl, -⟩ := mk_eq_ok.mp hpure
      exact sameEvidence_createLedgerEntry hcreate
  have hrecorded : SameEvidence noteId posted (recordApplication env.now posted
      (newApplication note preview entryId consumptionId memo) fun _ => rfl) :=
    sameEvidence_recordApplication env.now fun _ => hne
  refine hconsumed.trans ((sameEvidence_createLedgerEntry hpost).trans (hrecorded.trans ?_))
  exact (sameEvidence_writeNote (recalculate_id hnote' ▸ hne)).trans (sameEvidence_reserve _)

lemma sameEvidence_apply {env : CreditNoteEnv} {otherId : ℕ} {payload : CreditNoteApplyRequest}
    (hne : otherId ≠ noteId) (h : applyWithEvidence env db otherId payload = .ok result) :
    SameEvidence noteId db result.1 := by
  simp only [applyWithEvidence, bind_eq_ok] at h
  obtain ⟨key, -, replay, -, h⟩ := h
  cases replay with
  | some id =>
    obtain rfl := pure_eq_ok.mp h
    exact .refl noteId db
  | none =>
    simp only [bind_eq_ok, confirmApplication, orRefuse_eq_ok, ensure_eq_ok] at h
    obtain ⟨⟨note, preview⟩, ⟨note', hnote', _, -, preview', -, -, -, hpure⟩, h⟩ := h
    obtain ⟨rfl, rfl⟩ := mk_eq_ok.mp hpure
    refine sameEvidence_stage ?_ h
    rwa [show note'.id = otherId from (Table.get?_eq_some.mp hnote').2]

variable {request : CreditNoteIssuePreviewRequest} {fundingId : ℕ} {note : CreditNote}

lemma Evidenced.of_same (h : Evidenced request fundingId db note)
    (hsame : SameEvidence note.id db db') : Evidenced request fundingId db' note := by
  obtain ⟨funding, hfound, hfunding⟩ := h.funding
  refine ⟨hsame.note.trans h.found, h.linked, h.live, hsame.accounts ▸ h.account,
    ⟨funding, hsame.ledger _ _ hfound, hfunding⟩, ?_, ?_, ?_, hsame.lines ▸ h.lines⟩
  · rw [CreditNoteTables.reversalOf, hsame.reversals]
    exact h.unreversed
  · rw [appliedTotal, hsame.applications]
    exact h.applied
  · rw [hsame.applications]
    intro a ha
    obtain ⟨entryId, hid, hentry⟩ := h.consumed a ha
    obtain ⟨e, he, hconsumed⟩ := (Option.any_eq_true _ _).mp hentry
    exact ⟨entryId, hid, (Option.any_eq_true _ _).mpr ⟨e, hsame.ledger _ _ he, hconsumed⟩⟩

lemma Backed.of_same (h : Backed request fundingId db note)
    (hsame : SameEvidence note.id db db') : Backed request fundingId db' note := by
  refine ⟨h.toEvidenced.of_same hsame, h.total, ?_⟩
  rw [appliedTotal, hsame.applications]
  exact h.covered

end SameEvidence

/-- What happens after a note was issued: an application of a note, or a change that other owners
make to invoices and tax rates. -/
inductive CreditNoteCommand
  | apply (env : CreditNoteEnv) (creditNoteId : ℕ) (payload : CreditNoteApplyRequest)
  | elsewhere (invoices : Table Invoice) (taxRates : List TaxRate)

def commandStep (db : CreditNoteTables) : CreditNoteCommand → Except DomainError CreditNoteTables
  | .apply env creditNoteId payload => (·.1) <$> applyWithEvidence env db creditNoteId payload
  | .elsewhere invoices taxRates => .ok { db with invoices, taxRates }

/-- At every point of a run a note keeps its value, and its next application is not refused for its
balances. -/
def KeepsValueThrough (noteId : ℕ) (db : CreditNoteTables) (commands : List CreditNoteCommand) :
    Prop :=
  ∀ before after, commands = before ++ after → KeepsValue (Run.run commandStep db before) noteId ∧
    ∀ env payload rest, after = .apply env noteId payload :: rest → ∀ e ∈ balanceRefusals,
      applyWithEvidence env (Run.run commandStep db before) noteId payload ≠ .error e

/-- Whenever the note is applied, its line is worth the total at the tax rates in force. -/
def PricedThrough (request : CreditNoteIssuePreviewRequest) (noteId : ℕ) (db : CreditNoteTables)
    (commands : List CreditNoteCommand) : Prop :=
  ∀ before after, commands = before ++ after → ∀ env payload rest,
    after = .apply env noteId payload :: rest →
      Confirmed env (Run.run commandStep db before) noteId payload →
        Priced request (Run.run commandStep db before).taxRates

section Run

variable {request : CreditNoteIssuePreviewRequest} {fundingId noteId : ℕ} {db : CreditNoteTables}
  {note : CreditNote} {command : CreditNoteCommand} {commands : List CreditNoteCommand}

lemma keepsValueThrough_cons : KeepsValueThrough noteId db (command :: commands) ↔
    (KeepsValue db noteId ∧ ∀ env payload, command = .apply env noteId payload →
      ∀ e ∈ balanceRefusals, applyWithEvidence env db noteId payload ≠ .error e) ∧
    KeepsValueThrough noteId (Run.next commandStep db command) commands := by
  rw [KeepsValueThrough, Run.forall_split_cons]
  refine and_congr (and_congr_right fun _ => ?_) Iff.rfl
  constructor
  · rintro h env payload rfl
    exact h env payload commands rfl
  · intro h env payload rest heq
    exact h env payload (List.cons.inj heq).1

lemma pricedThrough_cons : PricedThrough request noteId db (command :: commands) ↔
    (∀ env payload, command = .apply env noteId payload → Confirmed env db noteId payload →
      Priced request db.taxRates) ∧
    PricedThrough request noteId (Run.next commandStep db command) commands := by
  rw [PricedThrough, Run.forall_split_cons]
  refine and_congr ?_ Iff.rfl
  constructor
  · rintro h env payload rfl
    exact h env payload commands rfl
  · intro h env payload rest heq
    exact h env payload (List.cons.inj heq).1

lemma Backed.keepsValue (h : Backed request fundingId db note) : KeepsValue db note.id :=
  h.toEvidenced.keepsValue_iff.mpr h.total

lemma Backed.stage_of_priced (h : Backed request fundingId db note) {env : CreditNoteEnv}
    {preview : CreditApplicationPreview} (hpreview : Previewed db note preview) (key : String)
    (memo : Option String) (hpriced : Priced request db.taxRates) :
    ∃ db' note', stageApplicationWithEvidence env db note preview key memo
        = .ok (db', db.creditNoteApplications.next) ∧ note'.id = note.id ∧
      Backed request fundingId db' note' := by
  have hcovered : appliedTotal db note.id + preview.applyAmount ≤ roundMoney request.total := by
    have := hpreview.covered
    rw [h.total, h.applied, roundMoney_of_onGrid
      ((onGrid_roundMoney _).sub (onGrid_appliedTotal db note.id))] at this
    linarith
  rcases h.stage hpreview key memo with ⟨hlt, -⟩ | ⟨db', note', hok, hevidence, hid, htotal, hsum⟩
  · rw [hpriced] at hlt
    exact absurd hcovered hlt.not_ge
  · refine ⟨db', note', hok, hid, hevidence, htotal.trans hpriced, ?_⟩
    rw [hid, hsum]
    exact hcovered

lemma Backed.apply_of_priced (h : Backed request fundingId db note) {env : CreditNoteEnv}
    {payload : CreditNoteApplyRequest} (hconfirmed : Confirmed env db note.id payload)
    (hpriced : Priced request db.taxRates) :
    ∃ db' note' id, applyWithEvidence env db note.id payload = .ok (db', id) ∧ note'.id = note.id ∧
      Backed request fundingId db' note' := by
  obtain ⟨preview, key, hpreview, happly⟩ := apply_of_confirmed h.found hconfirmed
  obtain ⟨db', note', hok, hid, hbacked⟩ := h.stage_of_priced hpreview key payload.memo hpriced
  exact ⟨db', note', _, happly.trans hok, hid, hbacked⟩

/-- An application that is not priced is refused for the balances, or breaks them. -/
lemma Backed.apply_of_not_priced (h : Backed request fundingId db note) {env : CreditNoteEnv}
    {payload : CreditNoteApplyRequest} (hconfirmed : Confirmed env db note.id payload)
    (hpriced : ¬ Priced request db.taxRates) :
    (∃ e ∈ balanceRefusals, applyWithEvidence env db note.id payload = .error e) ∨
      ∃ db' id, applyWithEvidence env db note.id payload = .ok (db', id) ∧
        ¬ KeepsValue db' note.id := by
  obtain ⟨preview, key, hpreview, happly⟩ := apply_of_confirmed h.found hconfirmed
  rcases h.stage hpreview key payload.memo with
    ⟨-, herror⟩ | ⟨db', note', hok, hevidence, hid, htotal, -⟩
  · exact .inl ⟨_, List.mem_cons_self, happly.trans herror⟩
  · refine .inr ⟨db', _, happly.trans hok, fun hkeeps => hpriced ?_⟩
    rw [← hid, hevidence.keepsValue_iff, htotal] at hkeeps
    exact hkeeps

lemma Backed.next_of_priced (h : Backed request fundingId db note)
    (hpriced : ∀ env payload, command = .apply env note.id payload →
      Confirmed env db note.id payload → Priced request db.taxRates) :
    (∀ env payload, command = .apply env note.id payload →
      ∀ e ∈ balanceRefusals, applyWithEvidence env db note.id payload ≠ .error e) ∧
    ∃ note', note'.id = note.id ∧
      Backed request fundingId (Run.next commandStep db command) note' := by
  cases command with
  | elsewhere invoices taxRates =>
    refine ⟨?_, note, rfl, h.of_same ⟨rfl, fun _ _ h => h, rfl, rfl, rfl, rfl⟩⟩
    rintro _ _ ⟨⟩
  | apply env id payload =>
    by_cases hid : id = note.id
    · subst hid
      by_cases hconfirmed : Confirmed env db note.id payload
      · obtain ⟨db', note', id, hok, hsame, hbacked⟩ :=
          h.apply_of_priced hconfirmed (hpriced env payload rfl hconfirmed)
        have hstep : commandStep db (.apply env note.id payload) = .ok db' := by
          rw [commandStep, hok]
          rfl
        refine ⟨?_, note', hsame, by rwa [Run.next_of_ok hstep]⟩
        rintro _ _ ⟨⟩ e -
        rw [hok]
        rintro ⟨⟩
      · rcases apply_of_not_confirmed hconfirmed with ⟨id, hok⟩ | ⟨e', he', herror⟩
        · have hstep : commandStep db (.apply env note.id payload) = .ok db := by
            rw [commandStep, hok]
            rfl
          refine ⟨?_, note, rfl, by rwa [Run.next_of_ok hstep]⟩
          rintro _ _ ⟨⟩ e -
          rw [hok]
          rintro ⟨⟩
        · have hstep : commandStep db (.apply env note.id payload) = .error e' := by
            rw [commandStep, herror]
            rfl
          refine ⟨?_, note, rfl, by rwa [Run.next_of_error hstep]⟩
          rintro _ _ ⟨⟩ e he
          rw [herror]
          rintro ⟨⟩
          exact he' he
    · refine ⟨?_, note, rfl, ?_⟩
      · rintro _ _ ⟨⟩
        exact absurd rfl hid
      · cases hstep : commandStep db (.apply env id payload) with
        | error e => rwa [Run.next_of_error hstep]
        | ok db' =>
          rw [Run.next_of_ok hstep]
          rw [commandStep, map_eq_ok] at hstep
          obtain ⟨result, happly, rfl⟩ := hstep
          exact h.of_same (sameEvidence_apply hid happly)

/-- **A backed note keeps its value exactly through the runs that price it.** -/
theorem Backed.keepsValueThrough_iff : ∀ (commands : List CreditNoteCommand) {db : CreditNoteTables}
    {note : CreditNote}, Backed request fundingId db note →
    (KeepsValueThrough note.id db commands ↔ PricedThrough request note.id db commands)
  | [], db, note, h => by
    constructor
    · rintro - before after heq env payload rest rfl
      exact absurd heq.symm (List.append_ne_nil_of_right_ne_nil _ (List.cons_ne_nil _ _))
    · intro _ before after heq
      obtain ⟨rfl, rfl⟩ := List.append_eq_nil_iff.mp heq.symm
      refine ⟨h.keepsValue, ?_⟩
      rintro _ _ _ ⟨⟩
  | command :: commands, db, note, h => by
    rw [keepsValueThrough_cons, pricedThrough_cons]
    constructor
    · rintro ⟨⟨-, hfirst⟩, hrest⟩
      have hpriced : ∀ env payload, command = .apply env note.id payload →
          Confirmed env db note.id payload → Priced request db.taxRates := by
        rintro env payload rfl hconfirmed
        by_contra hpriced
        rcases h.apply_of_not_priced hconfirmed hpriced with
          ⟨e, he, herror⟩ | ⟨db', id, hok, hbroken⟩
        · exact hfirst env payload rfl e he herror
        · have hstep : commandStep db (.apply env note.id payload) = .ok db' := by
            rw [commandStep, hok]
            rfl
          rw [Run.next_of_ok hstep] at hrest
          exact hbroken (hrest [] commands rfl).1
      obtain ⟨-, note', hid, hnext⟩ := h.next_of_priced hpriced
      exact ⟨hpriced, hid ▸ (keepsValueThrough_iff commands hnext).mp (hid ▸ hrest)⟩
    · rintro ⟨hpriced, hrest⟩
      obtain ⟨hfirst, note', hid, hnext⟩ := h.next_of_priced hpriced
      exact ⟨⟨h.keepsValue, hfirst⟩,
        hid ▸ (keepsValueThrough_iff commands hnext).mpr (hid ▸ hrest)⟩

end Run

/-- The note is to be applied on issue, and names an invoice that is not paid and still owes. -/
def AppliesOnIssue (db : CreditNoteTables) (invoiceId : Option ℕ) (applyOnIssue : Bool) : Prop :=
  applyOnIssue = true ∧ ∃ invoice, invoiceId.bind db.invoices.get? = some invoice ∧
    invoice.status ≠ .paid ∧ 0 < invoice.balanceDue.value

/-- Issue gives to an invoice exactly if that is asked for and the invoice is not paid and owes. -/
lemma decideForInvoice_disposition {invoice : Invoice} {total : ℚ} {applyOnIssue : Bool}
    {decision : IssueApplicationDecision}
    (h : decideForInvoice invoice total applyOnIssue = .ok decision) :
    decision.disposition ≠ .retainAccountCredit ↔
      applyOnIssue = true ∧ invoice.status ≠ .paid ∧ 0 < invoice.balanceDue.value := by
  simp only [decideForInvoice, ensure_bind_eq_ok, roundMoney_value] at h
  obtain ⟨-, -, h⟩ := h
  split_ifs at h with hpaid howes happly
  · simp only [ensure_bind_eq_ok] at h
    obtain ⟨-, h⟩ := h
    obtain rfl := pure_eq_ok.mp h
    simp [retain, hpaid]
  · simp only [ensure_bind_eq_ok] at h
    obtain ⟨-, h⟩ := h
    obtain rfl := pure_eq_ok.mp h
    simp [retain, howes]
  · simp only [ensure_bind_eq_ok] at h
    obtain ⟨-, h⟩ := h
    obtain rfl := pure_eq_ok.mp h
    simp [retain, happly]
  · simp only [ensure_bind_eq_ok] at h
    obtain ⟨-, h⟩ := h
    obtain rfl := pure_eq_ok.mp h
    simpa [hpaid, happly] using not_le.mp howes

lemma buildIssuePreview_facts {env : CreditNoteEnv} {db : CreditNoteTables}
    {request : CreditNoteIssuePreviewRequest} {creditNoteId : Option ℕ} {applyOnIssue : Bool}
    {preview : CreditIssuePreview}
    (h : buildIssuePreview env db request creditNoteId applyOnIssue = .ok preview) :
    preview.creditTotal = roundMoney request.total ∧ 0 < roundMoney request.total ∧
      request.accountId ∈ db.accounts := by
  simp only [buildIssuePreview, resolveIssueInvoice, validateAccount, bind_eq_ok, ensure_eq_ok] at h
  obtain ⟨-, -, -, hpos, invoice, ⟨-, haccount, -⟩, decision, -, hpure⟩ := h
  obtain rfl := pure_eq_ok.mp hpure
  exact ⟨rfl, hpos, haccount⟩

def issuedTables (env : CreditNoteEnv) (db : CreditNoteTables)
    (request : CreditNoteIssuePreviewRequest) (preview : CreditIssuePreview) (key : String) :
    CreditNoteTables × CreditNote :=
  let note := newNote env db request preview db.creditNotes.next
  let linked := { note with fundingLedgerEntryId := some db.ledgerEntries.next }
  (reserve (writeNote (postEntry (addNote env db request preview)
    (fundingEntry note preview.creditTotal)) linked)
    ⟨issueIdempotencyScope, key, request.accountId, some db.creditNotes.next⟩, linked)

section Issue

variable {env : CreditNoteEnv} {db : CreditNoteTables} {request : CreditNoteIssuePreviewRequest}
  {preview : CreditIssuePreview} {key : String}

lemma lines_issuedTables (hkeys : db.ForeignKeys)
    (htotal : preview.creditTotal = roundMoney request.total) :
    (activeLines (issuedTables env db request preview key).1 db.creditNotes.next).map pricedLine
      = issuedLines request := by
  have hold : db.creditNoteLines.rows.filter (fun line =>
      line.creditNoteId = db.creditNotes.next ∧ line.isActive) = [] := by
    refine List.filter_eq_nil_iff.mpr fun line hline heq => ?_
    exact absurd (hkeys.lines line hline) (by simp at heq; omega)
  have hrows : (issuedTables env db request preview key).1.creditNoteLines.rows
      = db.creditNoteLines.rows ++ if hasLine request then
        [newLine request preview db.creditNotes.next db.creditNoteLines.next] else [] := by
    show (if hasLine request then db.creditNoteLines.insert _ _ else db.creditNoteLines).rows = _
    split_ifs
    · rfl
    · exact (List.append_nil _).symm
  rw [activeLines, hrows, List.filter_append, hold, List.nil_append, issuedLines]
  split_ifs
  · simp [newLine, pricedLine, lineAmount, htotal]
  · rfl

lemma backed_issuedTables (hkeys : db.ForeignKeys) (haccount : request.accountId ∈ db.accounts)
    (htotal : preview.creditTotal = roundMoney request.total)
    (hpos : 0 < roundMoney request.total) :
    Backed request db.ledgerEntries.next (issuedTables env db request preview key).1
      (issuedTables env db request preview key).2 := by
  have hnone : applicationsOf (issuedTables env db request preview key).1 db.creditNotes.next
      = [] := by
    refine List.filter_eq_nil_iff.mpr fun a ha heq => ?_
    exact absurd (hkeys.applications a ha) (by simp at heq; omega)
  have hgrid : quantize halfUp 2 (roundMoney request.total) = roundMoney request.total :=
    quantize_of_onGrid (onGrid_roundMoney _)
  have happlied : appliedTotal (issuedTables env db request preview key).1 db.creditNotes.next
      = 0 := by
    rw [appliedTotal, hnone]
    rfl
  refine ⟨⟨?found, rfl, ⟨?issued, ?unvoided⟩, haccount,
    ⟨_, get?_postEntry_next, ?funds, rfl, htotal ▸ hgrid⟩, ?unreversed, ?applied, ?consumed,
    ?lines⟩, htotal ▸ hgrid, ?covered⟩
  case found =>
    have hrow : (db.creditNotes.insert (newNote env db request preview) fun _ => rfl).get?
        db.creditNotes.next = some (newNote env db request preview db.creditNotes.next) :=
      Table.get?_insert_self (f := newNote env db request preview) (h := fun _ => rfl)
    exact get?_writeNote_self hrow
  case issued => rintro ⟨⟩
  case unvoided => rintro ⟨⟩
  case funds =>
    simp [fundsNote, issuedTables, LedgerEntryCreate.entry, fundingEntry, newNote]
  case unreversed =>
    have hunreversed : db.reversals.find? (·.entryId = db.ledgerEntries.next) = none :=
      List.find?_eq_none.mpr fun r hr heq =>
        absurd (hkeys.reversals r hr) (of_decide_eq_true heq).not_lt
    exact congrArg (Option.map _) hunreversed
  case applied =>
    exact quantize_zero.trans happlied.symm
  case consumed =>
    intro a ha
    exact absurd (hnone ▸ ha) List.not_mem_nil
  case lines =>
    exact lines_issuedTables hkeys htotal
  case covered =>
    exact happlied.trans_le hpos.le

lemma Backed.stageIssue {fundingId : ℕ} {note : CreditNote} {issuePreview : CreditIssuePreview}
    {applyOnIssue : Bool} {memo : Option String} {result : CreditNoteTables × Option ℕ}
    (h : Backed request fundingId db note)
    (hok : stageIssueApplication env db note key issuePreview applyOnIssue memo = .ok result) :
    ((AppliesOnIssue db note.invoiceId applyOnIssue → Priced request db.taxRates) ∧
      ∃ note', note'.id = note.id ∧ Backed request fundingId result.1 note') ∨
    (AppliesOnIssue db note.invoiceId applyOnIssue ∧ ¬ Priced request db.taxRates ∧
      ¬ KeepsValue result.1 note.id) := by
  cases hinvoiceId : note.invoiceId with
  | none =>
    simp only [stageIssueApplication, hinvoiceId, ensure_bind_eq_ok] at hok
    obtain rfl := pure_eq_ok.mp hok.2
    refine .inl ⟨?_, note, rfl, h⟩
    rintro ⟨-, invoice, hfound, -⟩
    cases hfound
  | some invoiceId =>
    simp only [stageIssueApplication, hinvoiceId, orRefuse_eq_ok, bind_eq_ok, ensure_eq_ok] at hok
    obtain ⟨invoice, hinvoice, decision, hdecision, -, -, hok⟩ := hok
    have happlies := decideForInvoice_disposition hdecision
    have hid : invoice.id = invoiceId := (Table.get?_eq_some.mp hinvoice).2
    split_ifs at hok with hretain
    · obtain rfl := pure_eq_ok.mp hok
      refine .inl ⟨?_, note, rfl, h⟩
      rintro ⟨happly, invoice', hfound, hopen⟩
      obtain rfl := Option.mem_unique hinvoice hfound
      exact absurd hretain (happlies.mpr ⟨happly, hopen⟩)
    · obtain ⟨happly, hopen⟩ := happlies.mp hretain
      have hissue : AppliesOnIssue db (some invoiceId) applyOnIssue :=
        ⟨happly, invoice, hinvoice, hopen⟩
      simp only [bind_eq_ok, ensure_eq_ok] at hok
      obtain ⟨preview, hbuild, -, -, -, -, staged, hstage, hpure⟩ := hok
      obtain rfl := pure_eq_ok.mp hpure
      have hpreview : Previewed db note preview := previewed_of_build (hid ▸ hinvoice) hbuild
      by_cases hpriced : Priced request db.taxRates
      · obtain ⟨db', note', hstaged, hsame, hbacked⟩ := h.stage_of_priced hpreview _ memo hpriced
        obtain rfl := Except.ok.inj (hstage.symm.trans hstaged)
        exact .inl ⟨fun _ => hpriced, note', hsame, hbacked⟩
      · refine .inr ⟨hissue, hpriced, ?_⟩
        rcases h.stage hpreview _ memo with
          ⟨-, herror⟩ | ⟨db', note', hstaged, hevidence, hsame, htotal, -⟩
        · cases hstage.symm.trans herror
        · obtain rfl := Except.ok.inj (hstage.symm.trans hstaged)
          rw [← hsame, hevidence.keepsValue_iff, htotal]
          exact hpriced

/-- What issuing makes of an accepted request: a backed note, unless it is applied at once to an
open invoice although its line is not worth the total. -/
lemma recordIssue_cases {payload : CreditNoteIssueRequest} {applyOnIssue : Bool}
    {db' : CreditNoteTables} {result : CreditIssueResult} (hkeys : db.ForeignKeys)
    (hok : recordIssue env db payload key applyOnIssue = .ok (db', result)) :
    ((AppliesOnIssue db payload.invoiceId applyOnIssue →
        Priced payload.toCreditNoteIssuePreviewRequest db.taxRates) ∧
      ∃ note, note.id = result.creditNoteId ∧
        Backed payload.toCreditNoteIssuePreviewRequest db.ledgerEntries.next db' note) ∨
    (AppliesOnIssue db payload.invoiceId applyOnIssue ∧
      ¬ Priced payload.toCreditNoteIssuePreviewRequest db.taxRates ∧
      ¬ KeepsValue db' result.creditNoteId) := by
  simp only [recordIssue, bind_eq_ok, ensure_eq_ok] at hok
  obtain ⟨-, -, preview, hbuild, -, -, ⟨funded, fundingId⟩, hcreate, -, -, staged, hstage,
    hpure⟩ := hok
  obtain ⟨rfl, rfl⟩ := mk_eq_ok.mp hpure
  simp only [createLedgerEntry, bind_eq_ok] at hcreate
  obtain ⟨-, -, hcreate⟩ := hcreate
  obtain ⟨rfl, rfl⟩ := mk_eq_ok.mp hcreate
  obtain ⟨htotal, hpos, haccount⟩ := buildIssuePreview_facts hbuild
  exact (backed_issuedTables hkeys haccount htotal hpos).stageIssue hstage

lemma issueReplay_idempotentReplay {previewFingerprint : String} {replay : CreditIssueResult}
    (h : issueReplay env db key previewFingerprint = .ok (some replay)) :
    replay.idempotentReplay = true := by
  rw [issueReplay] at h
  split at h
  · cases h
  · simp only [bind_eq_ok] at h
    obtain ⟨_, -, _, -, _, -, _, -, _, -, _, -, _, -, hpure⟩ := h
    obtain rfl := Option.some.inj (pure_eq_ok.mp hpure)
    rfl

/-- **An issued note keeps its value** through exactly those runs in which its line is worth its
total whenever a part of it is applied, on issue or later. -/
theorem issued_keepsValue_iff {payload : CreditNoteIssueRequest} {applyOnIssue : Bool}
    {db' : CreditNoteTables} {result : CreditIssueResult} (hkeys : db.ForeignKeys)
    (hissue : issueWithEvidence env db payload applyOnIssue = .ok (db', result))
    (hnew : result.idempotentReplay = false) (commands : List CreditNoteCommand) :
    KeepsValueThrough result.creditNoteId db' commands ↔
      (AppliesOnIssue db payload.invoiceId applyOnIssue →
        Priced payload.toCreditNoteIssuePreviewRequest db.taxRates) ∧
      PricedThrough payload.toCreditNoteIssuePreviewRequest result.creditNoteId db' commands := by
  simp only [issueWithEvidence, bind_eq_ok] at hissue
  obtain ⟨key, -, replay, hreplay, hissue⟩ := hissue
  cases replay with
  | some replay =>
    obtain ⟨-, rfl⟩ := mk_eq_ok.mp hissue
    exact absurd (issueReplay_idempotentReplay hreplay) (by rw [hnew]; decide)
  | none =>
    rcases recordIssue_cases hkeys hissue with
      ⟨hpriced, note, hid, hbacked⟩ | ⟨happlies, hpriced, hbroken⟩
    · rw [← hid, Backed.keepsValueThrough_iff commands hbacked]
      exact ⟨fun h => ⟨hpriced, h⟩, And.right⟩
    · constructor
      · exact fun h => absurd (h [] commands rfl).1 hbroken
      · exact fun h => absurd (h.1 happlies) hpriced

end Issue

def detailText : Detail → String
  | .id value => toString value
  | .optionalId value => toString value
  | .instant value => toString value
  | .number value => toString value.num ++ "/" ++ toString value.den
  | .text value => value

/-- A clock that stands still, and digests that are their texts. -/
def textEnv : CreditNoteEnv where
  now := 0
  customerBalance := fun _ _ _ => 0
  fingerprint := fun details => ",".intercalate (details.map detailText)
  creditNumber := fun db => "CN-" ++ toString db.creditNotes.next
  issueApplicationKey := fun key => "cn-issue-apply-" ++ key

/-- An account with one open invoice over 200. -/
def oneReceivable : CreditNoteTables where
  invoices := Table.empty.insert (fun id =>
    { id
      accountId := 1
      status := .issued
      currency := "NGN"
      subtotal := .store 2 200
      discountAmount := .store 2 0
      taxTotal := .store 2 0
      total := .store 2 200
      balanceDue := .store 2 200
      dueAt := none
      paidAt := none
      isProforma := false
      isActive := true
      createdAt := 0
      lines := []
      creditNoteApplications := []
      openingFundingConsumptions := [] }) fun _ => rfl
  payments := .empty
  allocations := .empty
  ledgerEntries := .empty
  idempotencyKeys := []
  providerEvents := []
  taxRates := []
  accounts := [1]
  creditNotes := .empty
  creditNoteLines := .empty
  creditNoteApplications := .empty
  reservations := []
  reversals := []

lemma oneReceivable_foreignKeys : oneReceivable.ForeignKeys where
  lines _ h := absurd h List.not_mem_nil
  applications _ h := absurd h List.not_mem_nil
  reversals _ h := absurd h List.not_mem_nil

def goodwill (application : TaxApplication) : CreditNoteIssuePreviewRequest where
  accountId := 1
  invoiceId := none
  creditNumber := none
  currency := "NGN"
  subtotal := 100
  taxTotal := 0
  total := 150
  memo := none
  lineDescription := some "Goodwill"
  lineTaxRateId := none
  lineTaxApplication := application

def confirmIssue (request : CreditNoteIssuePreviewRequest) : CreditNoteIssueRequest :=
  { request with
    previewFingerprint := ((buildIssuePreview textEnv oneReceivable request none true).toOption.map
      (·.fingerprint)).getD ""
    idempotencyKey := "issue-goodwill-0001" }

/-- An application of `amount` to the invoice, as it is previewed. -/
def confirmApply (available receivable amount : ℚ) (key : String) : CreditNoteApplyRequest where
  invoiceId := 0
  amount
  memo := none
  previewFingerprint := textEnv.fingerprint [.id 0, .id 0, .id 1, .text "NGN", .number available,
    .number receivable, .number amount]
  idempotencyKey := key

lemma priced_of_inclusive {request : CreditNoteIssuePreviewRequest}
    (h : request.lineTaxApplication = .inclusive) (taxRates : List TaxRate) :
    Priced request taxRates := if_pos (.inr h)

/-- With the tax contained in the line, all of the 150 can be used. -/
theorem issued_keepsValue_inclusive : ∃ db' result,
    issueWithEvidence textEnv oneReceivable (confirmIssue (goodwill .inclusive)) true
      = .ok (db', result) ∧ result.idempotentReplay = false ∧
    KeepsValueThrough result.creditNoteId db'
      [.apply textEnv result.creditNoteId (confirmApply 150 200 50 "apply-goodwill-0001"),
        .apply textEnv result.creditNoteId (confirmApply 100 150 100 "apply-goodwill-0002")] := by
  obtain ⟨⟨db', result⟩, hok, hnew⟩ : ∃ r,
      issueWithEvidence textEnv oneReceivable (confirmIssue (goodwill .inclusive)) true = .ok r ∧
      r.2.idempotentReplay = false := by
    decide +kernel
  refine ⟨db', result, hok, hnew, ?_⟩
  rw [issued_keepsValue_iff oneReceivable_foreignKeys hok hnew]
  exact ⟨fun _ => priced_of_inclusive rfl _, fun _ _ _ _ _ _ _ _ => priced_of_inclusive rfl _⟩

/-- The note over 150 is worth 100 after 50 of it were applied, and no more of it can be used. -/
theorem exempt_line_shrinks : ∃ db' result,
    issueWithEvidence textEnv oneReceivable (confirmIssue (goodwill .exempt)) true
      = .ok (db', result) ∧ result.idempotentReplay = false ∧
    ¬ KeepsValueThrough result.creditNoteId db'
      [.apply textEnv result.creditNoteId (confirmApply 150 200 50 "apply-goodwill-0001"),
        .apply textEnv result.creditNoteId (confirmApply 50 150 50 "apply-goodwill-0002")] := by
  obtain ⟨⟨db', result⟩, hok, hnew, hrefused⟩ : ∃ r,
      issueWithEvidence textEnv oneReceivable (confirmIssue (goodwill .exempt)) true = .ok r ∧
      r.2.idempotentReplay = false ∧
      applyWithEvidence textEnv (Run.run commandStep r.1
        [.apply textEnv r.2.creditNoteId (confirmApply 150 200 50 "apply-goodwill-0001")])
        r.2.creditNoteId (confirmApply 50 150 50 "apply-goodwill-0002") = .error
          (.httpException 409 "Credit note funding and document balances disagree") := by
    decide +kernel
  refine ⟨db', result, hok, hnew, fun h => ?_⟩
  exact (h [_] [_] rfl).2 _ _ _ rfl _ (by decide +kernel) hrefused

end CreditNotes

end DotmacSub
