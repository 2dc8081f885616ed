import DotmacSub.Integrations.InboxSteps

/-!
# Recovery of inbox receipts

A claim is committed before its consequence runs, and only the worker that has it can end it: when
the worker crashes, the receipt is being processed for ever.  Replay is for failed receipts, and a
delivery of the provider does not claim again.
-/

namespace DotmacSub.Inbox

open Store Checked Run

variable {sha256 : String → String} {db db' : InboxDb} {id : ℕ}

def InboxDb.state (db : InboxDb) (id : ℕ) : Option InboxState := (db.inbox.get? id).map (·.state)

/-- Accepted commands lead the receipt to processed. -/
def Recoverable (sha256 : String → String) (db : InboxDb) (id : ℕ) : Prop :=
  ∃ (cs : List InboxCommand) (db' : InboxDb), (∀ c ∈ cs, ∀ i, c ≠ .crash i) ∧
    cs.foldlM (step sha256) db = .ok db' ∧ db'.state id = some .processed

/-- Consequences are committed once, processed receipts stay so, and every receipt is
recoverable. -/
structure Serves (sha256 : String → String) (db : InboxDb) : Prop where
  once : ∀ i, db.consumed.count i ≤ 1
  stays : ∀ receipt ∈ db.inbox.rows, receipt.state = .processed →
    ∀ cs, (run (step sha256) db cs).state receipt.id = some .processed
  recoverable : ∀ receipt ∈ db.inbox.rows, Recoverable sha256 db receipt.id

/-- **A processed receipt stays processed.** -/
lemma step_processed {c : InboxCommand} (hsound : Sound sha256 db)
    (hstate : db.state id = some .processed) (h : step sha256 db c = .ok db') :
    db'.state id = some .processed := by
  have hfree : id ∉ db.claims := fun hmem =>
    absurd ((hsound.claimed id hmem).symm.trans hstate) (by decide)
  obtain ⟨-, ⟨-, hmoved⟩ | ⟨_, -, -, rfl⟩⟩ := step_moved h
  · cases hmoved with
    | still inbox claims consumed =>
      rw [InboxDb.state, inbox]
      exact hstate
    | write i receipt self others old fresh identified change =>
      by_cases hi : id = i
      · obtain rfl := hi
        exact absurd (change.mem_claims (.inr hstate)) hfree
      · rw [InboxDb.state, others id hi]
        exact hstate
  · exact hstate

lemma run_processed (hsound : Sound sha256 db) (hstate : db.state id = some .processed)
    (cs : List InboxCommand) : (run (step sha256) db cs).state id = some .processed := by
  let inv : InboxDb → Prop := fun state => Sound sha256 state ∧ state.state id = some .processed
  have hboth : inv (run (step sha256) db cs) := invariant_run
    (fun _ _ _ hs hok => ⟨step_sound hs.1 hok, step_processed hs.1 hs.2 hok⟩) cs ⟨hsound, hstate⟩
  exact hboth.2

/-- The receipt is being processed, and no worker has its claim. -/
def Orphan (db : InboxDb) (id : ℕ) : Prop := db.state id = some .processing ∧ id ∉ db.claims

/-- **An orphan stays an orphan**: every command leaves it. -/
lemma step_orphan {c : InboxCommand} (horphan : Orphan db id) (h : step sha256 db c = .ok db') :
    Orphan db' id := by
  obtain ⟨hstate, hfree⟩ := horphan
  obtain ⟨-, ⟨-, hmoved⟩ | ⟨i, -, hmem, rfl⟩⟩ := step_moved h
  · cases hmoved with
    | still inbox claims consumed =>
      refine ⟨?_, claims ▸ hfree⟩
      rw [InboxDb.state, inbox]
      exact hstate
    | write i receipt self others old fresh identified change =>
      have hi : id ≠ i := by
        rintro rfl
        exact hfree (change.mem_claims (.inl hstate))
      refine ⟨?_, (change.mem_claims_iff hi).not.mpr hfree⟩
      rw [InboxDb.state, others id hi]
      exact hstate
  · exact ⟨hstate, fun h => hfree (List.mem_of_mem_erase h)⟩

lemma Orphan.not_recoverable (horphan : Orphan db id) : ¬ Recoverable sha256 db id := by
  rintro ⟨cs, db', -, hok, hprocessed⟩
  have hstill : Orphan db' id := foldlM_keeps (p := fun state => Orphan state id)
    (fun _ _ _ _ hstep hs => step_orphan hs hstep) horphan hok
  exact absurd (hstill.1.symm.trans hprocessed) (by decide)

lemma state_eq_some {state : InboxState} :
    db.state id = some state ↔ ∃ receipt, db.inbox.get? id = some receipt ∧ receipt.state = state :=
  Option.map_eq_some_iff

/-- A worker with a claim completes the consequence. -/
lemma recoverable_of_claimed (hsound : Sound sha256 db) (hmem : id ∈ db.claims) :
    Recoverable sha256 db id := by
  obtain ⟨receipt, hget, -⟩ := state_eq_some.mp (hsound.claimed id hmem)
  have hid := get?_id hget
  refine ⟨[.complete id "" 0], { ({ db with claims := db.claims.erase id }).put
    (markProcessed receipt "" 0) with consumed := db.consumed ++ [id] }, ?_, ?_, ?_⟩
  · intro c hc i
    rw [List.mem_singleton.mp hc]
    exact InboxCommand.noConfusion
  · refine foldlM_cons_eq_ok.mpr ⟨_, ?_, foldlM_nil_eq_ok.mpr rfl⟩
    refine bind_eq_ok.mpr ⟨_, bind_eq_ok.mpr ⟨(), ensure_of hmem, rfl⟩, ?_⟩
    exact bind_eq_ok.mpr ⟨receipt, getReceipt_eq_ok.mpr hget, rfl⟩
  · obtain rfl := hid
    exact state_eq_some.mpr ⟨markProcessed receipt "" 0, put_get?_self hget, rfl⟩

lemma Recoverable.cons {c : InboxCommand} (hc : ∀ i, c ≠ .crash i)
    (h : step sha256 db c = .ok db') (hrest : Recoverable sha256 db' id) :
    Recoverable sha256 db id := by
  obtain ⟨cs, db'', hcs, hok, hstate⟩ := hrest
  refine ⟨c :: cs, db'', ?_, foldlM_cons_eq_ok.mpr ⟨db', h, hok⟩, hstate⟩
  intro d hd i
  rcases List.mem_cons.mp hd with rfl | hd
  · exact hc i
  · exact hcs d hd i

/-- The provider delivers the event of the receipt again. -/
def redelivery (receipt : IntegrationInbox) : Delivery where
  capabilityBindingId := receipt.capabilityBindingId
  providerEventId := receipt.providerEventId
  eventType := receipt.eventType
  payload := receipt.payload

/-- A delivery of the event finds the receipt. -/
lemma receiveVerified_redelivery (hsound : Sound sha256 db) {receipt : IntegrationInbox}
    (hget : db.inbox.get? id = some receipt) :
    receiveVerified sha256 db (redelivery receipt) = (db, .ok id) := by
  have hidentified := hsound.identified id receipt hget
  obtain ⟨binding, hbinding⟩ := hidentified.binding
  have hbid : binding.id = receipt.capabilityBindingId := by
    simpa using List.find?_some hbinding
  have hexisting : existingReceipt db binding receipt.providerEventId = some receipt := by
    cases hfind : existingReceipt db binding receipt.providerEventId with
    | none =>
      have hnone := List.find?_eq_none.mp hfind receipt (Table.get?_eq_some.mp hget).1
      exact absurd (decide_eq_true ⟨hbid.symm, rfl⟩) hnone
    | some other =>
      have hmem := List.mem_of_find?_eq_some hfind
      have hkey : other.capabilityBindingId = binding.id ∧
          other.providerEventId = receipt.providerEventId := by
        simpa using List.find?_some hfind
      have hother : db.inbox.get? other.id = some other := Table.get?_eq_some.mpr ⟨hmem, rfl⟩
      have heq := hsound.unique id other.id receipt other hget hother
        (Prod.ext (hbid.symm.trans hkey.1.symm) hkey.2.symm)
      rw [← heq, hget] at hother
      exact hother.symm
  have hfound : db.bindings.find? (·.id = (redelivery receipt).capabilityBindingId) =
      some binding := hbinding
  have htrimmed : Text.strip (redelivery receipt).providerEventId = receipt.providerEventId :=
    hidentified.trimmed
  unfold receiveVerified
  rw [hfound]
  dsimp only
  rw [htrimmed, if_neg hidentified.nonempty, hexisting]
  dsimp only
  have hdigest : receipt.payloadDigest = sha256 (redelivery receipt).payload := hidentified.digest
  rw [if_neg (not_not.mpr hdigest), get?_id hget]

/-- A receipt that waits is claimed by the next delivery of its event. -/
lemma recoverable_of_verified (hsound : Sound sha256 db) (hstate : db.state id = some .verified) :
    Recoverable sha256 db id := by
  obtain ⟨receipt, hget, hverified⟩ := state_eq_some.mp hstate
  have hclaim : claimReceipt db id = .ok (db.put { receipt with
      state := .processing, attemptCount := receipt.attemptCount + 1
      errorCode := none, errorDetail := none }, true) := by
    refine bind_eq_ok.mpr ⟨receipt, getReceipt_eq_ok.mpr hget, ?_⟩
    rw [claimForProcessing, hverified]
    rfl
  obtain ⟨claimed, hok, hmem⟩ : ∃ claimed, step sha256 db (.receive (redelivery receipt)) =
      .ok claimed ∧ id ∈ claimed.claims := by
    dsimp only [step]
    rw [receiveAndClaimVerified, receiveVerified_redelivery hsound hget]
    dsimp only
    rw [hclaim]
    exact ⟨_, rfl, List.mem_append_right _ (List.mem_singleton_self id)⟩
  exact .cons (fun _ => InboxCommand.noConfusion) hok
    (recoverable_of_claimed (step_sound hsound hok) hmem)

lemma recoverable_of_failed (hsound : Sound sha256 db)
    (hstate : db.state id = some .retryable ∨ db.state id = some .deadLetter) :
    Recoverable sha256 db id := by
  obtain ⟨receipt, hget, hfailed⟩ : ∃ receipt, db.inbox.get? id = some receipt ∧
      (receipt.state = .retryable ∨ receipt.state = .deadLetter) := by
    rcases hstate with hstate | hstate
    · obtain ⟨receipt, hget, heq⟩ := state_eq_some.mp hstate
      exact ⟨receipt, hget, .inl heq⟩
    · obtain ⟨receipt, hget, heq⟩ := state_eq_some.mp hstate
      exact ⟨receipt, hget, .inr heq⟩
  have hok : step sha256 db (.replay id) = .ok (db.put { receipt with
      state := .verified, errorCode := none, errorDetail := none }) := by
    refine bind_eq_ok.mpr ⟨receipt, getReceipt_eq_ok.mpr hget, ?_⟩
    exact bind_eq_ok.mpr ⟨(), ensure_of hfailed, rfl⟩
  refine .cons (fun _ => InboxCommand.noConfusion) hok
    (recoverable_of_verified (step_sound hsound hok) ?_)
  obtain rfl := get?_id hget
  exact state_eq_some.mpr ⟨_, put_get?_self hget, rfl⟩

/-- **A receipt is recoverable** unless it is an orphan. -/
lemma recoverable_iff_not_orphan (hsound : Sound sha256 db) {receipt : IntegrationInbox}
    (hget : db.inbox.get? id = some receipt) : Recoverable sha256 db id ↔ ¬ Orphan db id := by
  refine ⟨fun h horphan => horphan.not_recoverable h, fun h => ?_⟩
  have hstate : db.state id = some receipt.state := state_eq_some.mpr ⟨receipt, hget, rfl⟩
  cases hcase : receipt.state with
  | verified => exact recoverable_of_verified hsound (hcase ▸ hstate)
  | processing =>
    refine recoverable_of_claimed hsound (not_not.mp fun hmem => h ⟨hcase ▸ hstate, hmem⟩)
  | processed =>
    refine ⟨[], db, fun c hc => absurd hc List.not_mem_nil, foldlM_nil_eq_ok.mpr rfl, ?_⟩
    exact hcase ▸ hstate
  | retryable => exact recoverable_of_failed hsound (.inl (hcase ▸ hstate))
  | deadLetter => exact recoverable_of_failed hsound (.inr (hcase ▸ hstate))

def NoCrash (_ : InboxDb) (c : InboxCommand) : Prop := ∀ i, c ≠ .crash i

/-- Every receipt that is being processed has its worker. -/
def Attended (db : InboxDb) : Prop := ∀ i, db.state i = some .processing → i ∈ db.claims

/-- **Receipts are attended** until a worker crashes with a claim. -/
lemma step_attended_iff {c : InboxCommand} (hsound : Sound sha256 db) (hattended : Attended db)
    (h : step sha256 db c = .ok db') : Attended db' ↔ NoCrash db c := by
  obtain ⟨-, ⟨hcrash, hmoved⟩ | ⟨id, rfl, hmem, rfl⟩⟩ := step_moved h
  · refine iff_of_true (fun i hstate => ?_) hcrash
    cases hmoved with
    | still inbox claims consumed =>
      rw [InboxDb.state, inbox] at hstate
      exact claims ▸ hattended i hstate
    | write id receipt self others old fresh identified change =>
      by_cases hi : i = id
      · obtain rfl := hi
        rw [InboxDb.state, self] at hstate
        have hprocessing : receipt.state = .processing := Option.some.inj hstate
        rw [hprocessing] at change
        exact change.mem_claims_of_processing
      · rw [InboxDb.state, others i hi] at hstate
        exact (change.mem_claims_iff hi).mpr (hattended i hstate)
  · refine iff_of_false (fun hafter => ?_) fun hcrash => hcrash id rfl
    exact hsound.claims_nodup.not_mem_erase (hafter id (hsound.claimed id hmem))

lemma serves_iff_attended (hsound : Sound sha256 db) : Serves sha256 db ↔ Attended db := by
  constructor
  · intro hserves i hstate
    obtain ⟨receipt, hget, -⟩ := state_eq_some.mp hstate
    have hrecoverable := hserves.recoverable receipt (Table.get?_eq_some.mp hget).1
    rw [get?_id hget, recoverable_iff_not_orphan hsound hget] at hrecoverable
    exact not_not.mp fun hmem => hrecoverable ⟨hstate, hmem⟩
  · intro hattended
    refine ⟨List.nodup_iff_count_le_one.mp hsound.consumed_nodup, ?_, ?_⟩
    · intro receipt hreceipt hprocessed cs
      refine run_processed hsound (state_eq_some.mpr ⟨receipt, ?_, hprocessed⟩) cs
      exact Table.get?_eq_some.mpr ⟨hreceipt, rfl⟩
    · intro receipt hreceipt
      have hget : db.inbox.get? receipt.id = some receipt :=
        Table.get?_eq_some.mpr ⟨hreceipt, rfl⟩
      rw [recoverable_iff_not_orphan hsound hget]
      exact fun horphan => horphan.2 (hattended receipt.id horphan.1)

/-- **Receipts are served** in exactly the runs in which no worker crashes with a claim. -/
theorem serves_iff (hsound : Sound sha256 db) (hattended : Attended db) (cs : List InboxCommand) :
    (∀ before after, cs = before ++ after → Serves sha256 (run (step sha256) db before)) ↔
      Guarded (step sha256) NoCrash db cs := by
  let inv : InboxDb → Prop := fun state => Sound sha256 state ∧ Attended state
  have hiff : (∀ before after, cs = before ++ after → inv (run (step sha256) db before)) ↔
      Guarded (step sha256) NoCrash db cs :=
    forall_prefix_iff_guarded
      (fun _ _ _ hs hc hok => ⟨step_sound hs.1 hok, (step_attended_iff hs.1 hs.2 hok).mpr hc⟩)
      (fun _ _ _ hs hok hs' => (step_attended_iff hs.1 hs.2 hok).mp hs'.2) cs db
      ⟨hsound, hattended⟩
  rw [← hiff]
  refine forall_congr' fun before => forall_congr' fun after => imp_congr_right fun _ => ?_
  have hthen : Sound sha256 (run (step sha256) db before) :=
    invariant_run (fun _ _ _ hs hok => step_sound hs hok) before hsound
  exact (serves_iff_attended hthen).trans (and_iff_right hthen).symm

/-- In every run, consequences are committed once, and a processed receipt stays so. -/
theorem consumed_once (hsound : Sound sha256 db) (cs : List InboxCommand) :
    (∀ i, (run (step sha256) db cs).consumed.count i ≤ 1) ∧
      ∀ i, (run (step sha256) db cs).state i = some .processed →
        ∀ more, (run (step sha256) db (cs ++ more)).state i = some .processed := by
  have hthen : Sound sha256 (run (step sha256) db cs) :=
    invariant_run (fun _ _ _ hs hok => step_sound hs hok) cs hsound
  refine ⟨List.nodup_iff_count_le_one.mp hthen.consumed_nodup, fun i hstate more => ?_⟩
  rw [run_append]
  exact run_processed hthen hstate more

def quietInbox : InboxDb := ⟨[⟨0, 0⟩], .empty, [], [], []⟩

def someEvent : Delivery := ⟨0, "evt-1", "payment.succeeded", "\x7b\x7d"⟩

def emptyDigest : String → String :=
  fun _ => "44136fa355b3678a1146ad16f7e8649e94fb4fc21fe77e8310c060f61caaff8a"

lemma quietInbox_get? (i : ℕ) : quietInbox.inbox.get? i = none := rfl

lemma quietInbox_sound : Sound emptyDigest quietInbox where
  identified i _ h := absurd (h.symm.trans (quietInbox_get? i)) (Option.some_ne_none _)
  unique i _ _ _ h := absurd (h.symm.trans (quietInbox_get? i)) (Option.some_ne_none _)
  claims_nodup := List.nodup_nil
  claimed _ h := absurd h List.not_mem_nil
  consumed_nodup := List.nodup_nil
  consumed _ h := absurd h List.not_mem_nil

/-- An event is received twice and handled. -/
theorem consumed_once_someEvent : (run (step emptyDigest) quietInbox
    [.receive someEvent, .receive someEvent, .complete 0 "" 5]).consumed.count 0 ≤ 1 :=
  (consumed_once quietInbox_sound _).1 0

lemma quietInbox_attended : Attended quietInbox := by
  intro i h
  rw [InboxDb.state, quietInbox_get?] at h
  exact absurd h.symm (Option.some_ne_none _)

/-- **A crashed worker leaves its receipt stuck**: it has been claimed, and no commands lead it to
processed. -/
theorem crashed_receipt_stuck :
    (run (step emptyDigest) quietInbox [.receive someEvent, .crash 0]).state 0 = some .processing ∧
      ¬ Recoverable emptyDigest
        (run (step emptyDigest) quietInbox [.receive someEvent, .crash 0]) 0 := by
  have hstate : (run (step emptyDigest) quietInbox [.receive someEvent, .crash 0]).state 0 =
      some .processing := by decide +kernel
  have hclaims : 0 ∉ (run (step emptyDigest) quietInbox [.receive someEvent, .crash 0]).claims := by
    decide +kernel
  exact ⟨hstate, Orphan.not_recoverable ⟨hstate, hclaims⟩⟩

/-- A failure, its replay, and the delivery that comes after it. -/
theorem serves_iff_replayed :
    (∀ before after, [.receive someEvent, .receive someEvent, .fail 0 ⟨"timeout", none, none, 10⟩,
        .replay 0, .receive someEvent, .complete 0 "" 5] = before ++ after →
      Serves emptyDigest (run (step emptyDigest) quietInbox before)) ↔
        Guarded (step emptyDigest) NoCrash quietInbox [.receive someEvent, .receive someEvent,
          .fail 0 ⟨"timeout", none, none, 10⟩, .replay 0, .receive someEvent,
          .complete 0 "" 5] :=
  serves_iff quietInbox_sound quietInbox_attended _

end DotmacSub.Inbox
