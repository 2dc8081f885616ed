import DotmacSub.Integrations.Inbox

/-!
# What inbox commands do

Every accepted command writes one receipt or none, and changes the claims as the state of the
receipt changes.
-/

namespace DotmacSub.Inbox

open Store Checked

variable {sha256 : String → String} {db db' : InboxDb} {delivery : Delivery}
  {binding : CapabilityBinding} {old : Option InboxState} {shouldProcess : Bool}
  {receiptId i id : ℕ} {new : InboxState}

def IntegrationInbox.key (receipt : IntegrationInbox) : ℕ × String :=
  (receipt.capabilityBindingId, receipt.providerEventId)

/-- The receipt is for a binding that exists, a trimmed event number and the digest of its
payload. -/
structure Identified (sha256 : String → String) (bindings : List CapabilityBinding)
    (receipt : IntegrationInbox) : Prop where
  binding : ∃ binding, bindings.find? (·.id = receipt.capabilityBindingId) = some binding
  trimmed : Text.strip receipt.providerEventId = receipt.providerEventId
  nonempty : receipt.providerEventId ≠ ""
  digest : receipt.payloadDigest = sha256 receipt.payload

/-- How claims and consequences change with the state of a receipt; a new receipt comes from no
state. -/
inductive Change (db db' : InboxDb) (id : ℕ) : Option InboxState → InboxState → Prop
  | claim {old : Option InboxState}
      (old_eq : old = none ∨ old = some .verified ∨ old = some .retryable)
      (claims : db'.claims = db.claims ++ [id]) (consumed : db'.consumed = db.consumed) :
      Change db db' id old .processing
  | complete {old : Option InboxState} (mem : id ∈ db.claims)
      (claims : db'.claims = db.claims.erase id) (consumed : db'.consumed = db.consumed ++ [id]) :
      Change db db' id old .processed
  | fail {old : Option InboxState} {new : InboxState} (mem : id ∈ db.claims)
      (new_eq : new = .retryable ∨ new = .deadLetter) (claims : db'.claims = db.claims.erase id)
      (consumed : db'.consumed = db.consumed) : Change db db' id old new
  | replay {old : Option InboxState} (old_eq : old = some .retryable ∨ old = some .deadLetter)
      (claims : db'.claims = db.claims) (consumed : db'.consumed = db.consumed) :
      Change db db' id old .verified

lemma Change.mem_claims (h : Change db db' id old new)
    (hold : old = some .processing ∨ old = some .processed) : id ∈ db.claims := by
  cases h with
  | claim old_eq claims consumed => rcases hold with rfl | rfl <;> simp at old_eq
  | complete mem claims consumed => exact mem
  | fail mem new_eq claims consumed => exact mem
  | replay old_eq claims consumed => rcases hold with rfl | rfl <;> simp at old_eq

lemma Change.mem_claims_iff {id i : ℕ} (h : Change db db' id old new) (hi : i ≠ id) :
    i ∈ db'.claims ↔ i ∈ db.claims := by
  cases h with
  | claim old_eq claims consumed =>
    rw [claims, List.mem_append, List.mem_singleton]
    exact or_iff_left hi
  | complete mem claims consumed => rw [claims, List.mem_erase_of_ne hi]
  | fail mem new_eq claims consumed => rw [claims, List.mem_erase_of_ne hi]
  | replay old_eq claims consumed => rw [claims]

lemma Change.mem_claims_of_processing (h : Change db db' id old .processing) : id ∈ db'.claims := by
  cases h with
  | claim old_eq claims consumed =>
    rw [claims]
    exact List.mem_append_right _ (List.mem_singleton_self id)
  | fail mem new_eq claims consumed => simp at new_eq

/-- What one accepted command does, if it is not a crash. -/
inductive Moved (sha256 : String → String) (db db' : InboxDb) : Prop
  | still (inbox : db'.inbox = db.inbox) (claims : db'.claims = db.claims)
      (consumed : db'.consumed = db.consumed)
  | write (id : ℕ) (receipt : IntegrationInbox) (self : db'.inbox.get? id = some receipt)
      (others : ∀ i, i ≠ id → db'.inbox.get? i = db.inbox.get? i)
      (old : ∀ before, db.inbox.get? id = some before → receipt.key = before.key)
      (fresh : db.inbox.get? id = none → ∀ i other, db.inbox.get? i = some other →
        other.key ≠ receipt.key)
      (identified : (∀ before, db.inbox.get? id = some before →
        Identified sha256 db.bindings before) → Identified sha256 db.bindings receipt)
      (change : Change db db' id ((db.inbox.get? id).map (·.state)) receipt.state)

variable {receipt : IntegrationInbox}

lemma getReceipt_eq_ok :
    getReceipt db receiptId = .ok receipt ↔ db.inbox.get? receiptId = some receipt := by
  unfold getReceipt
  cases db.inbox.get? receiptId with
  | none => simp [orRefuse]
  | some found => simp [orRefuse]

lemma get?_id (h : db.inbox.get? i = some receipt) :
    receipt.id = i := (Table.get?_eq_some.mp h).2

lemma put_get?_self {receipt before : IntegrationInbox}
    (h : db.inbox.get? receipt.id = some before) :
    (db.put receipt).inbox.get? receipt.id = some receipt := by
  dsimp only [InboxDb.put]
  rw [Table.get?_update_self h, get?_id h]

lemma put_get?_ne (h : i ≠ receipt.id) : (db.put receipt).inbox.get? i = db.inbox.get? i := by
  dsimp only [InboxDb.put]
  rw [Table.get?_update_ne h]

lemma Moved.of_put {before receipt : IntegrationInbox} {claims : List ℕ} {consumed : List ℕ}
    (hbefore : db.inbox.get? before.id = some before) (hid : receipt.id = before.id)
    (hkey : receipt.key = before.key) (hpayload : receipt.payload = before.payload)
    (hdigest : receipt.payloadDigest = before.payloadDigest)
    (change : Change db { db.put receipt with claims := claims, consumed := consumed } before.id
      (some before.state) receipt.state) :
    Moved sha256 db { db.put receipt with claims := claims, consumed := consumed } := by
  have hold : ∀ other, db.inbox.get? before.id = some other → other = before := fun other h =>
    Option.mem_unique h hbefore
  refine .write before.id receipt ?_ ?_ ?_ ?_ ?_ ?_
  · rw [← hid] at hbefore ⊢
    exact put_get?_self hbefore
  · intro i hi
    exact put_get?_ne (hid ▸ hi)
  · intro other hother
    rw [hold other hother, hkey]
  · intro hnone
    exact absurd (hnone.symm.trans hbefore) (Option.some_ne_none before).symm
  · intro h
    have hidentified := h before hbefore
    obtain ⟨hbinding, hevent⟩ := Prod.mk.inj hkey
    exact ⟨hbinding ▸ hidentified.binding, hevent ▸ hidentified.trimmed,
      hevent ▸ hidentified.nonempty, by rw [hdigest, hpayload]; exact hidentified.digest⟩
  · rw [hbefore]
    exact change

/-- A claim is refused and changes nothing, or takes a receipt that waits. -/
lemma claimForProcessing_eq_ok {receipt claimed : IntegrationInbox}
    (h : claimForProcessing receipt = .ok (claimed, shouldProcess)) :
    shouldProcess = false ∧ claimed = receipt ∨
      shouldProcess = true ∧ (receipt.state = .verified ∨ receipt.state = .retryable) ∧
        claimed = { receipt with
          state := .processing, attemptCount := receipt.attemptCount + 1
          errorCode := none, errorDetail := none } := by
  unfold claimForProcessing at h
  split_ifs at h with hbusy hrejected hdead
  · obtain ⟨rfl, rfl⟩ := mk_eq_ok.mp h
    exact .inl ⟨rfl, rfl⟩
  · obtain ⟨rfl, rfl⟩ := mk_eq_ok.mp h
    exact .inl ⟨rfl, rfl⟩
  · obtain ⟨rfl, rfl⟩ := mk_eq_ok.mp h
    refine .inr ⟨rfl, ?_, rfl⟩
    cases hstate : receipt.state with
    | verified => exact .inl rfl
    | retryable => exact .inr rfl
    | processing => exact absurd (.inl hstate) hbusy
    | processed => exact absurd (.inr hstate) hbusy
    | deadLetter => exact absurd hstate hdead

lemma put_self (h : db.inbox.get? receipt.id = some receipt) : db.put receipt = db := by
  dsimp only [InboxDb.put]
  rw [Table.update_eq_self h rfl]

lemma claimReceipt_moved {claimed : InboxDb}
    (h : claimReceipt db receiptId = .ok (claimed, shouldProcess)) :
    Moved sha256 db (if shouldProcess then { claimed with claims := claimed.claims ++ [receiptId] }
      else claimed) := by
  obtain ⟨before, hget, h⟩ := bind_eq_ok.mp h
  obtain ⟨⟨receipt, answer⟩, hclaim, h⟩ := bind_eq_ok.mp h
  obtain ⟨rfl, rfl⟩ := mk_eq_ok.mp h
  rw [getReceipt_eq_ok] at hget
  obtain rfl := get?_id hget
  rcases claimForProcessing_eq_ok hclaim with ⟨rfl, rfl⟩ | ⟨rfl, hstate, rfl⟩
  · rw [put_self hget]
    exact .still rfl rfl rfl
  · refine Moved.of_put hget rfl rfl rfl rfl (.claim (.inr ?_) rfl rfl)
    exact hstate.imp (congrArg some) (congrArg some)

/-- The state differs in the quarantined installations at most. -/
def SameReceipts (db db' : InboxDb) : Prop :=
  db'.bindings = db.bindings ∧ db'.inbox = db.inbox ∧ db'.claims = db.claims ∧
    db'.consumed = db.consumed

/-- A receipt that a delivery has led to is there, or new; a refused delivery leaves the receipts, and
at most quarantines the installation. -/
lemma receiveVerified_cases {received : InboxDb} {result : Except InboxError ℕ}
    (h : receiveVerified sha256 db delivery = (received, result)) :
    match result with
    | .error _ => SameReceipts db received
    | .ok receiptId => received = db ∨ receiptId = db.inbox.next ∧
        ∃ binding, db.bindings.find? (·.id = delivery.capabilityBindingId) = some binding ∧
          Text.strip delivery.providerEventId ≠ "" ∧
          existingReceipt db binding (Text.strip delivery.providerEventId) = none ∧
          received = db.insertReceipt sha256 binding delivery := by
  unfold receiveVerified at h
  cases hbinding : db.bindings.find? (·.id = delivery.capabilityBindingId) with
  | none =>
    rw [hbinding] at h
    obtain ⟨rfl, rfl⟩ := Prod.mk.inj h
    exact ⟨rfl, rfl, rfl, rfl⟩
  | some binding =>
    rw [hbinding] at h
    dsimp only at h
    by_cases hempty : Text.strip delivery.providerEventId = ""
    · rw [if_pos hempty] at h
      obtain ⟨rfl, rfl⟩ := Prod.mk.inj h
      exact ⟨rfl, rfl, rfl, rfl⟩
    rw [if_neg hempty] at h
    cases hexisting : existingReceipt db binding (Text.strip delivery.providerEventId) with
    | none =>
      rw [hexisting] at h
      obtain ⟨rfl, rfl⟩ := Prod.mk.inj h
      exact .inr ⟨rfl, binding, rfl, hempty, hexisting, rfl⟩
    | some existing =>
      rw [hexisting] at h
      dsimp only at h
      split_ifs at h with hdigest
      · obtain ⟨rfl, rfl⟩ := Prod.mk.inj h
        exact ⟨rfl, rfl, rfl, rfl⟩
      · obtain ⟨rfl, rfl⟩ := Prod.mk.inj h
        exact .inl rfl

lemma get?_next : db.inbox.get? db.inbox.next = none := by
  cases h : db.inbox.get? db.inbox.next with
  | none => rfl
  | some receipt => exact absurd (Table.lt_next_of_get? h) (lt_irrefl _)

lemma insertReceipt_get?_next :
    (db.insertReceipt sha256 binding delivery).inbox.get? db.inbox.next =
      some (newReceipt sha256 binding delivery db.inbox.next) := by
  dsimp only [InboxDb.insertReceipt]
  rw [Table.get?_insert_self]

lemma insertReceipt_get?_ne (h : i ≠ db.inbox.next) :
    (db.insertReceipt sha256 binding delivery).inbox.get? i = db.inbox.get? i := by
  dsimp only [InboxDb.insertReceipt]
  rw [Table.get?_insert_of_ne h]

lemma claim_new_moved {claimed : InboxDb}
    (hbinding : db.bindings.find? (·.id = delivery.capabilityBindingId) = some binding)
    (hevent : Text.strip delivery.providerEventId ≠ "")
    (hnew : existingReceipt db binding (Text.strip delivery.providerEventId) = none)
    (h : claimReceipt (db.insertReceipt sha256 binding delivery) db.inbox.next =
      .ok (claimed, shouldProcess)) :
    Moved sha256 db (if shouldProcess then
      { claimed with claims := claimed.claims ++ [db.inbox.next] } else claimed) := by
  obtain ⟨before, hget, h⟩ := bind_eq_ok.mp h
  obtain ⟨⟨receipt, answer⟩, hclaim, h⟩ := bind_eq_ok.mp h
  obtain ⟨rfl, rfl⟩ := mk_eq_ok.mp h
  rw [getReceipt_eq_ok, insertReceipt_get?_next] at hget
  obtain rfl := Option.some.inj hget
  obtain ⟨rfl, rfl⟩ : answer = true ∧ receipt = { newReceipt sha256 binding delivery db.inbox.next
      with state := .processing, attemptCount := 1 } := by
    obtain ⟨rfl, rfl⟩ := mk_eq_ok.mp hclaim
    exact ⟨rfl, rfl⟩
  refine .write db.inbox.next _ (put_get?_self insertReceipt_get?_next) ?_ ?_ ?_ ?_ ?_
  · intro i hi
    exact (put_get?_ne hi).trans (insertReceipt_get?_ne hi)
  · intro before hbefore
    exact absurd (get?_next.symm.trans hbefore) (Option.some_ne_none before).symm
  · rintro - i other hother hkey
    have hmem := (Table.get?_eq_some.mp hother).1
    obtain ⟨hcapability, hprovider⟩ := Prod.mk.inj hkey
    have hnone := List.find?_eq_none.mp hnew other hmem
    exact hnone (decide_eq_true ⟨hcapability, hprovider⟩)
  · rintro -
    have hid : binding.id = delivery.capabilityBindingId :=
      by simpa using List.find?_some hbinding
    rw [← hid] at hbinding
    exact ⟨⟨binding, hbinding⟩, Text.strip_strip _, hevent, rfl⟩
  · rw [get?_next]
    exact .claim (.inl rfl) rfl rfl

lemma receive_cases {received : InboxDb} {result : Except InboxError (ℕ × Bool)}
    (h : receiveAndClaimVerified sha256 db delivery = (received, result)) :
    match result with
    | .error _ => SameReceipts db received
    | .ok (receiptId, shouldProcess) => received.bindings = db.bindings ∧
        Moved sha256 db (if shouldProcess then
          { received with claims := received.claims ++ [receiptId] } else received) := by
  unfold receiveAndClaimVerified at h
  cases hreceive : receiveVerified sha256 db delivery with
  | mk found result =>
    rw [hreceive] at h
    have hfound := receiveVerified_cases hreceive
    cases result with
    | error e =>
      cases e with
      | providerEventIdentityCollision message =>
        obtain ⟨rfl, rfl⟩ := Prod.mk.inj h
        exact hfound
      | invalid message | notClaimed =>
        obtain ⟨rfl, rfl⟩ := Prod.mk.inj h
        exact ⟨rfl, rfl, rfl, rfl⟩
    | ok foundId =>
      dsimp only at h
      cases hclaim : claimReceipt found foundId with
      | error e =>
        rw [hclaim] at h
        obtain ⟨rfl, rfl⟩ := Prod.mk.inj h
        exact ⟨rfl, rfl, rfl, rfl⟩
      | ok result =>
        rw [hclaim] at h
        obtain ⟨claimed, answer⟩ := result
        obtain ⟨rfl, rfl⟩ := Prod.mk.inj h
        have hbindings : claimed.bindings = found.bindings := by
          obtain ⟨_, _, h⟩ := bind_eq_ok.mp hclaim
          obtain ⟨_, _, h⟩ := bind_eq_ok.mp h
          rw [← (mk_eq_ok.mp h).1]
          rfl
        rcases hfound with rfl | ⟨rfl, binding, hbinding, hevent, hnew, rfl⟩
        · exact ⟨hbindings, claimReceipt_moved hclaim⟩
        · exact ⟨hbindings, claim_new_moved hbinding hevent hnew hclaim⟩

lemma release_eq_ok (h : release db receiptId = .ok db') :
    receiptId ∈ db.claims ∧ db' = { db with claims := db.claims.erase receiptId } := by
  obtain ⟨_, hmem, h⟩ := bind_eq_ok.mp h
  exact ⟨ensure_eq_ok.mp hmem, (pure_eq_ok.mp h).symm⟩

lemma released_eq_ok {write : InboxDb → IntegrationInbox → InboxDb} (h : (do
      let released ← release db receiptId
      let receipt ← getReceipt released receiptId
      return write released receipt) = .ok db') :
    ∃ before, before.id = receiptId ∧ db.inbox.get? before.id = some before ∧
      before.id ∈ db.claims ∧ db' = write { db with claims := db.claims.erase before.id } before := by
  obtain ⟨released, hrelease, h⟩ := bind_eq_ok.mp h
  obtain ⟨hmem, rfl⟩ := release_eq_ok hrelease
  obtain ⟨before, hget, h⟩ := bind_eq_ok.mp h
  rw [getReceipt_eq_ok] at hget
  obtain rfl := get?_id hget
  exact ⟨before, rfl, hget, hmem, (pure_eq_ok.mp h).symm⟩

lemma markFailed_state (receipt : IntegrationInbox) (failure : Failure) :
    (markFailed receipt failure).state = .retryable ∨
      (markFailed receipt failure).state = .deadLetter := by
  dsimp only [markFailed]
  split_ifs
  · exact .inr rfl
  · exact .inl rfl

/-- **What an accepted command does.** -/
lemma step_moved {c : InboxCommand} (h : step sha256 db c = .ok db') :
    db'.bindings = db.bindings ∧ ((∀ id, c ≠ .crash id) ∧ Moved sha256 db db' ∨
      ∃ id, c = .crash id ∧ id ∈ db.claims ∧
        db' = { db with claims := db.claims.erase id }) := by
  cases c with
  | receive delivery =>
    dsimp only [step] at h
    cases hreceive : receiveAndClaimVerified sha256 db delivery with
    | mk received result =>
      rw [hreceive] at h
      have hreceived := receive_cases hreceive
      cases result with
      | ok answer =>
        obtain rfl := Except.ok.inj h
        refine ⟨?_, .inl ⟨fun _ => InboxCommand.noConfusion, hreceived.2⟩⟩
        split_ifs <;> exact hreceived.1
      | error e =>
        obtain ⟨hbindings, hinbox, hclaims, hconsumed⟩ := hreceived
        cases e with
        | providerEventIdentityCollision message =>
          obtain rfl := Except.ok.inj h
          exact ⟨hbindings, .inl ⟨fun _ => InboxCommand.noConfusion,
            .still hinbox hclaims hconsumed⟩⟩
        | invalid message => exact absurd h (by simp)
        | notClaimed => exact absurd h (by simp)
  | complete receiptId consequence now =>
    obtain ⟨before, rfl, hget, hmem, rfl⟩ := released_eq_ok h
    exact ⟨rfl, .inl ⟨fun _ => InboxCommand.noConfusion,
      Moved.of_put hget rfl rfl rfl rfl (.complete hmem rfl rfl)⟩⟩
  | fail receiptId failure =>
    obtain ⟨before, rfl, hget, hmem, rfl⟩ := released_eq_ok h
    exact ⟨rfl, .inl ⟨fun _ => InboxCommand.noConfusion, Moved.of_put hget rfl rfl rfl rfl
      (.fail hmem (markFailed_state before failure) rfl rfl)⟩⟩
  | crash receiptId =>
    obtain ⟨hmem, rfl⟩ := release_eq_ok h
    exact ⟨rfl, .inr ⟨receiptId, rfl, hmem, rfl⟩⟩
  | replay receiptId =>
    obtain ⟨before, hget, h⟩ := bind_eq_ok.mp h
    obtain ⟨_, hstate, h⟩ := bind_eq_ok.mp h
    obtain rfl := pure_eq_ok.mp h
    rw [getReceipt_eq_ok] at hget
    obtain rfl := get?_id hget
    refine ⟨rfl, .inl ⟨fun _ => InboxCommand.noConfusion,
      Moved.of_put hget rfl rfl rfl rfl (.replay ?_ rfl rfl)⟩⟩
    exact (ensure_eq_ok.mp hstate).imp (congrArg some) (congrArg some)

/-- Claimed receipts are being processed, and receipts whose consequence has been committed are
processed; one event has one receipt. -/
structure Sound (sha256 : String → String) (db : InboxDb) : Prop where
  identified : ∀ i receipt, db.inbox.get? i = some receipt →
    Identified sha256 db.bindings receipt
  unique : ∀ i j receipt other, db.inbox.get? i = some receipt → db.inbox.get? j = some other →
    receipt.key = other.key → i = j
  claims_nodup : db.claims.Nodup
  claimed : ∀ i ∈ db.claims, (db.inbox.get? i).map (·.state) = some .processing
  consumed_nodup : db.consumed.Nodup
  consumed : ∀ i ∈ db.consumed, (db.inbox.get? i).map (·.state) = some .processed

lemma nodup_append_singleton {l : List ℕ} (h : l.Nodup) (hi : i ∉ l) : (l ++ [i]).Nodup := by
  rw [← List.concat_eq_append]
  exact h.concat hi

/-- Claims and consequences stay in step with the state of the receipt that is written. -/
lemma change_sound (hsound : Sound sha256 db)
    (h : Change db db' id ((db.inbox.get? id).map (·.state)) new) (hothers : ∀ i, i ≠ id →
      (db'.inbox.get? i).map (·.state) = (db.inbox.get? i).map (·.state))
    (hself : (db'.inbox.get? id).map (·.state) = some new) :
    db'.claims.Nodup ∧ (∀ i ∈ db'.claims, (db'.inbox.get? i).map (·.state) = some .processing) ∧
      db'.consumed.Nodup ∧
      ∀ i ∈ db'.consumed, (db'.inbox.get? i).map (·.state) = some .processed := by
  have hclaims : ∀ i ∈ db.claims, i ≠ id →
      (db'.inbox.get? i).map (·.state) = some .processing := fun i hi hne =>
    (hothers i hne).trans (hsound.claimed i hi)
  have hconsumed : ∀ i ∈ db.consumed, i ≠ id →
      (db'.inbox.get? i).map (·.state) = some .processed := fun i hi hne =>
    (hothers i hne).trans (hsound.consumed i hi)
  generalize hold : (db.inbox.get? id).map (·.state) = old at h
  have hfree : old ≠ some .processing → id ∉ db.claims := fun hne hmem =>
    hne (hold.symm.trans (hsound.claimed id hmem))
  have hunused : old ≠ some .processed → ∀ i ∈ db.consumed, i ≠ id := by
    rintro hne i hi rfl
    exact hne (hold.symm.trans (hsound.consumed i hi))
  have htaken : id ∈ db.claims → old ≠ some .processed := fun hmem heq => by
    have hstates := (hsound.claimed id hmem).symm.trans (hold.trans heq)
    exact absurd hstates (by decide)
  cases h with
  | claim old_eq claims consumed =>
    have hproc : old ≠ some .processing := by
      rcases old_eq with rfl | rfl | rfl <;> decide
    have hdone : old ≠ some .processed := by
      rcases old_eq with rfl | rfl | rfl <;> decide
    rw [claims, consumed]
    refine ⟨nodup_append_singleton hsound.claims_nodup (hfree hproc), fun i hi => ?_,
      hsound.consumed_nodup, fun i hi => hconsumed i hi (hunused hdone i hi)⟩
    rcases List.mem_append.mp hi with hi | hi
    · exact hclaims i hi fun heq => hfree hproc (heq ▸ hi)
    · rw [List.mem_singleton.mp hi]
      exact hself
  | complete mem claims consumed =>
    rw [claims, consumed]
    refine ⟨hsound.claims_nodup.erase id, fun i hi => ?_,
      nodup_append_singleton hsound.consumed_nodup fun hmem => hunused (htaken mem) id hmem rfl,
      fun i hi => ?_⟩
    · obtain ⟨hne, hi⟩ := hsound.claims_nodup.mem_erase_iff.mp hi
      exact hclaims i hi hne
    · rcases List.mem_append.mp hi with hi | hi
      · exact hconsumed i hi (hunused (htaken mem) i hi)
      · rw [List.mem_singleton.mp hi]
        exact hself
  | fail mem new_eq claims consumed =>
    rw [claims, consumed]
    refine ⟨hsound.claims_nodup.erase id, fun i hi => ?_, hsound.consumed_nodup,
      fun i hi => hconsumed i hi (hunused (htaken mem) i hi)⟩
    obtain ⟨hne, hi⟩ := hsound.claims_nodup.mem_erase_iff.mp hi
    exact hclaims i hi hne
  | replay old_eq claims consumed =>
    have hproc : old ≠ some .processing := by
      rcases old_eq with rfl | rfl <;> decide
    have hdone : old ≠ some .processed := by
      rcases old_eq with rfl | rfl <;> decide
    rw [claims, consumed]
    exact ⟨hsound.claims_nodup, fun i hi => hclaims i hi fun heq => hfree hproc (heq ▸ hi),
      hsound.consumed_nodup, fun i hi => hconsumed i hi (hunused hdone i hi)⟩

lemma Moved.sound (h : Moved sha256 db db') (hbindings : db'.bindings = db.bindings)
    (hsound : Sound sha256 db) : Sound sha256 db' := by
  cases h with
  | still inbox claims consumed =>
    exact ⟨by rw [inbox, hbindings]; exact hsound.identified, by rw [inbox]; exact hsound.unique,
      by rw [claims]; exact hsound.claims_nodup, by rw [claims, inbox]; exact hsound.claimed,
      by rw [consumed]; exact hsound.consumed_nodup,
      by rw [consumed, inbox]; exact hsound.consumed⟩
  | write id receipt self others old fresh identified change =>
    have hstates : ∀ i, i ≠ id →
        (db'.inbox.get? i).map (·.state) = (db.inbox.get? i).map (·.state) := by
      intro i hi
      rw [others i hi]
    have hself : (db'.inbox.get? id).map (·.state) = some receipt.state := by
      rw [self]
      rfl
    obtain ⟨hclaims, hclaimed, hconsumed, hprocessed⟩ := change_sound hsound change hstates hself
    refine ⟨?_, ?_, hclaims, hclaimed, hconsumed, hprocessed⟩
    · intro i found hfound
      rw [hbindings]
      by_cases hi : i = id
      · obtain rfl := Option.mem_unique self (hi ▸ hfound)
        exact identified fun before hbefore => hsound.identified id before hbefore
      · exact hsound.identified i found ((others i hi).symm.trans hfound)
    · -- a new receipt is of a new event, an old one of the event it was
      have hnew : ∀ j other, j ≠ id → db'.inbox.get? j = some other → receipt.key ≠ other.key := by
        intro j other hj hother hkey
        rw [others j hj] at hother
        cases hbefore : db.inbox.get? id with
        | none => exact fresh hbefore j other hother hkey.symm
        | some before =>
          have heq := hsound.unique id j before other hbefore hother
            ((old before hbefore).symm.trans hkey)
          exact hj heq.symm
      intro i j found other hfound hother hkey
      by_cases hi : i = id
      · by_cases hj : j = id
        · exact hi.trans hj.symm
        · obtain rfl := Option.mem_unique self (hi ▸ hfound)
          exact absurd hkey (hnew j other hj hother)
      · by_cases hj : j = id
        · obtain rfl := Option.mem_unique self (hj ▸ hother)
          exact absurd hkey.symm (hnew i found hi hfound)
        · exact hsound.unique i j found other ((others i hi).symm.trans hfound)
            ((others j hj).symm.trans hother) hkey

/-- **Accepted commands are sound**: a crash gives up a claim. -/
lemma step_sound {c : InboxCommand} (hsound : Sound sha256 db)
    (h : step sha256 db c = .ok db') : Sound sha256 db' := by
  obtain ⟨hbindings, ⟨-, hmoved⟩ | ⟨id, -, -, rfl⟩⟩ := step_moved h
  · exact hmoved.sound hbindings hsound
  · exact ⟨hsound.identified, hsound.unique, hsound.claims_nodup.erase id,
      fun i hi => hsound.claimed i (List.mem_of_mem_erase hi), hsound.consumed_nodup,
      hsound.consumed⟩

end DotmacSub.Inbox
